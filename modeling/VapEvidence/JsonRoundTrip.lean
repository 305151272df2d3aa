import VapEvidence.JsonText

set_option autoImplicit false

/-!
# Reading back what was written

`loads` inverts `dumps` on values without floats whose dictionaries are in key
order, for every hook set that accepts the integers written and sorted members.
-/
namespace VapEvidence
open Json

theorem hexValue_hexDigit : ∀ n < 16, hexValue (hexDigit n) = some n := by decide

theorem hex4_unit (n : ℕ) (h : n < 65536) :
    hex4 (hexDigit (n / 4096)) (hexDigit (n / 256 % 16)) (hexDigit (n / 16 % 16))
      (hexDigit (n % 16)) = some n := by
  simp only [hex4, hexValue_hexDigit _ (show n / 4096 < 16 by omega),
    hexValue_hexDigit _ (show n / 256 % 16 < 16 by omega),
    hexValue_hexDigit _ (show n / 16 % 16 < 16 by omega),
    hexValue_hexDigit _ (show n % 16 < 16 by omega), Option.bind_eq_bind, Option.bind_some]
  change some _ = some n
  congr 1
  omega

theorem char_not_surrogate (c : Char) : ¬ (55296 ≤ c.toNat ∧ c.toNat ≤ 57343) := by
  have h : c.toNat < 55296 ∨ (57343 < c.toNat ∧ c.toNat < 1114112) := c.valid
  omega

theorem unitChar_toNat (c : Char) : unitChar c.toNat = some c := by
  rw [unitChar, if_neg (char_not_surrogate c), Char.ofNat_toNat]

theorem scanString_unit (c : Char) (h : c.toNat < 65536) (r : List Char) :
    scanString (escapeUnit c.toNat ++ r) = (scanString r).map fun p => (c :: p.1, p.2) := by
  simp only [escapeUnit, List.cons_append, List.nil_append]
  rw [scanString]
  simp only [hex4_unit _ h, unitChar_toNat]

theorem scanString_pair (u v : ℕ) (c : Char) (hu : u < 65536) (hv : v < 65536)
    (hsingle : unitChar u = none) (hpair : pairChar u v = some c) (r : List Char) :
    scanString ((escapeUnit u ++ escapeUnit v) ++ r) =
      (scanString r).map fun p => (c :: p.1, p.2) := by
  simp only [escapeUnit, List.cons_append, List.nil_append]
  rw [scanString]
  simp only [hex4_unit _ hu, hsingle, hex4_unit _ hv, Option.bind_some, hpair]

theorem unitChar_high (c : Char) (h : 65536 ≤ c.toNat) :
    unitChar (55296 + (c.toNat - 65536) / 1024) = none := by
  have hc : c.toNat < 55296 ∨ (57343 < c.toNat ∧ c.toNat < 1114112) := c.valid
  rw [unitChar, if_pos ⟨by omega, by omega⟩]

theorem pairChar_split (c : Char) (h : 65536 ≤ c.toNat) :
    pairChar (55296 + (c.toNat - 65536) / 1024) (56320 + (c.toNat - 65536) % 1024) = some c := by
  have hc : c.toNat < 55296 ∨ (57343 < c.toNat ∧ c.toNat < 1114112) := c.valid
  rw [pairChar, if_pos ⟨by omega, by omega, by omega, by omega⟩]
  rw [show 65536 + (55296 + (c.toNat - 65536) / 1024 - 55296) * 1024 +
    (56320 + (c.toNat - 65536) % 1024 - 56320) = c.toNat by omega, Char.ofNat_toNat]

theorem scanString_plain (c : Char) (r : List Char) (hq : c ≠ '"') (hb : c ≠ '\\')
    (h : ¬ c.toNat < 32) : scanString (c :: r) = (scanString r).map fun p => (c :: p.1, p.2) := by
  rw [scanString.eq_def]
  split <;> simp_all

theorem scanString_escapeChar (ascii : Bool) (c : Char) (r : List Char) :
    scanString (escapeChar ascii c ++ r) = (scanString r).map fun p => (c :: p.1, p.2) := by
  unfold escapeChar
  split_ifs with h1 h2 h3 h4 h5 h6 h7 h8 h9 h10
  · subst h1; simp [scanString, simpleEscape]
  · subst h2; simp [scanString, simpleEscape]
  · subst h3; simp [scanString, simpleEscape]
  · subst h4; simp [scanString, simpleEscape]
  · subst h5; simp [scanString, simpleEscape]
  · subst h6; simp [scanString, simpleEscape]
  · subst h7; simp [scanString, simpleEscape]
  · exact scanString_unit c (by omega) r
  · exact scanString_unit c h10 r
  · have hc : c.toNat < 55296 ∨ (57343 < c.toNat ∧ c.toNat < 1114112) := c.valid
    exact scanString_pair _ _ c (by omega) (by omega) (unitChar_high c (by omega))
      (pairChar_split c (by omega)) r
  · exact scanString_plain c r h1 h2 h8

theorem scanString_body (ascii : Bool) (cs r : List Char) :
    scanString (cs.flatMap (escapeChar ascii) ++ '"' :: r) = some (cs, r) := by
  induction cs with
  | nil => simp [scanString]
  | cons c cs ih => simp [List.flatMap_cons, List.append_assoc, scanString_escapeChar, ih]

theorem scanString_dumpString (ascii : Bool) (s : String) (r : List Char) :
    ∃ t, dumpString ascii s ++ r = '"' :: t ∧ scanString t = some (s.toList, r) := by
  refine ⟨s.toList.flatMap (escapeChar ascii) ++ '"' :: r, by simp [dumpString], ?_⟩
  exact scanString_body ascii s.toList r

/-! ## Numbers -/

/-- What may follow a value in compact text. -/
def Delimited (r : List Char) : Prop := ∀ c t, r = c :: t → c = ',' ∨ c = ']' ∨ c = '}'

theorem delimited_nil : Delimited [] := by intro c t h; cases h

theorem delimited_cons {c : Char} (h : c = ',' ∨ c = ']' ∨ c = '}') (t : List Char) :
    Delimited (c :: t) := by
  intro d u hd
  cases hd
  exact h

theorem spanDigits_append (ds : List Char) {r : List Char} (hd : ∀ c ∈ ds, c.isDigit = true)
    (hr : Delimited r) : spanDigits (ds ++ r) = (ds, r) := by
  rw [spanDigits, List.takeWhile_append_of_pos hd, List.dropWhile_append_of_pos hd]
  cases r with
  | nil => simp
  | cons c t =>
    have hc : c.isDigit = false := by rcases hr c t rfl with rfl | rfl | rfl <;> decide
    simp [hc]

theorem toDigits_isDigit (n : ℕ) : ∀ c ∈ Nat.toDigits 10 n, c.isDigit = true :=
  fun _ hc => Nat.isDigit_of_mem_toDigits (by decide) (by decide) hc

/-- The digits of a positive number start with no zero. -/
theorem toDigits_head (n : ℕ) (hn : 0 < n) :
    ∃ d ds, Nat.toDigits 10 n = d :: ds ∧ d ≠ '0' := by
  induction n using Nat.strongRecOn with
  | _ n ih =>
    by_cases h : n < 10
    · have hall : ∀ m < 10, 0 < m → m.digitChar ≠ '0' := by decide
      exact ⟨n.digitChar, [], Nat.toDigits_of_lt_base h, hall n h hn⟩
    · obtain ⟨d, ds, hd, h0⟩ := ih (n / 10) (by omega) (by omega)
      refine ⟨d, ds ++ [(n % 10).digitChar], ?_, h0⟩
      rw [Nat.toDigits_of_base_le (by decide) (by omega), hd, List.cons_append]

/-- The unsigned token of a decimal is scanned whole. -/
theorem scanInteger_toDigits (sign : List Char) (hs : sign = [] ∨ sign = ['-']) (n : ℕ)
    {r : List Char} (hr : Delimited r) :
    scanInteger (sign ++ Nat.toDigits 10 n ++ r) = some (sign ++ Nat.toDigits 10 n, r) := by
  rcases Nat.eq_zero_or_pos n with rfl | hn
  · rcases hs with rfl | rfl <;> simp [scanInteger]
  · obtain ⟨d, ds, hd, h0⟩ := toDigits_head n hn
    have hall := toDigits_isDigit n
    rw [hd] at hall ⊢
    have hdig : d.isDigit = true := hall d (by simp)
    have hspan := spanDigits_append ds (fun c hc => hall c (by simp [hc])) hr
    have hm : d ≠ '-' := by rintro rfl; exact absurd hdig (by decide)
    rcases hs with rfl | rfl <;> simp [scanInteger, h0, hdig, hspan, hm]

theorem scanFraction_delimited {r : List Char} (hr : Delimited r) : scanFraction r = none := by
  cases r with
  | nil => rfl
  | cons c t => rcases hr c t rfl with rfl | rfl | rfl <;> simp [scanFraction]

theorem scanExponent_delimited {r : List Char} (hr : Delimited r) : scanExponent r = none := by
  cases r with
  | nil => rfl
  | cons c t => rcases hr c t rfl with rfl | rfl | rfl <;> simp [scanExponent]

theorem dumpInt_eq (n : ℤ) : ∃ sign, (sign = [] ∨ sign = ['-']) ∧
    dumpInt n = sign ++ Nat.toDigits 10 n.natAbs := by
  unfold dumpInt
  split_ifs
  · exact ⟨['-'], Or.inr rfl, rfl⟩
  · exact ⟨[], Or.inl rfl, rfl⟩

section RoundTrip
variable (h : Hooks) (floatRepr : UInt64 → List Char) (ascii : Bool)

theorem scanNumber_dumpInt (n : ℤ) {r : List Char} (hr : Delimited r) :
    scanNumber h (dumpInt n ++ r) = (h.parseInt (dumpInt n)).map fun v => (v, r) := by
  obtain ⟨sign, hs, he⟩ := dumpInt_eq n
  rw [he, scanNumber, scanInteger_toDigits sign hs _ hr]
  simp only [scanFraction_delimited hr, scanExponent_delimited hr]

/-- The first character of a number decides every fixed token against it. -/
theorem dumpInt_head (n : ℤ) : ∃ c t, dumpInt n = c :: t ∧
    (c.isDigit = true ∨ (c = '-' ∧ ∃ d u, t = d :: u ∧ d.isDigit = true)) := by
  obtain ⟨sign, hs, he⟩ := dumpInt_eq n
  have hall := toDigits_isDigit n.natAbs
  cases hd : Nat.toDigits 10 n.natAbs with
  | nil => exact absurd hd Nat.toDigits_ne_nil
  | cons d ds =>
    rw [hd] at he hall
    have hdig := hall d (by simp)
    rcases hs with rfl | rfl
    · exact ⟨d, ds, he, Or.inl hdig⟩
    · exact ⟨'-', d :: ds, he, Or.inr ⟨rfl, d, ds, rfl, hdig⟩⟩

theorem scanToken_dumpInt (n : ℤ) (r : List Char) : scanToken h (dumpInt n ++ r) = none := by
  obtain ⟨c, t, he, hc⟩ := dumpInt_head n
  have hne : ∀ d : Char, d.isDigit = false → c ≠ d ∨ d = '-' := by
    intro d hd
    rcases hc with hc | ⟨rfl, -⟩
    · left
      rintro rfl
      simp [hc] at hd
    · by_cases h : d = '-'
      · exact Or.inr h
      · exact Or.inl (Ne.symm h)
  have hinf : token? "-Infinity".toList (c :: t ++ r) = none := by
    rcases hc with hc | ⟨rfl, d, u, rfl, hd⟩
    · have : c ≠ '-' := by rintro rfl; exact absurd hc (by decide)
      simp [token?, Ne.symm this]
    · have : d ≠ 'I' := by rintro rfl; exact absurd hd (by decide)
      simp [token?, Ne.symm this]
  have h1 : c ≠ 'n' := (hne 'n' (by decide)).resolve_right (by decide)
  have h2 : c ≠ 't' := (hne 't' (by decide)).resolve_right (by decide)
  have h3 : c ≠ 'f' := (hne 'f' (by decide)).resolve_right (by decide)
  have h4 : c ≠ 'N' := (hne 'N' (by decide)).resolve_right (by decide)
  have h5 : c ≠ 'I' := (hne 'I' (by decide)).resolve_right (by decide)
  rw [he, scanToken, hinf]
  simp [token?, Ne.symm h1, Ne.symm h2, Ne.symm h3, Ne.symm h4, Ne.symm h5]

/-! ## Values -/

mutual
/-- No float, every integer within `p`, every dictionary in key order. -/
def Plain (p : ℤ → Prop) : Json → Prop
  | .int n => p n
  | .float _ => False
  | .arr xs => PlainList p xs
  | .obj ms => SortedKeys ms ∧ PlainMembers p ms
  | _ => True
def PlainList (p : ℤ → Prop) : List Json → Prop
  | [] => True
  | x :: xs => Plain p x ∧ PlainList p xs
def PlainMembers (p : ℤ → Prop) : List (String × Json) → Prop
  | [] => True
  | (_, x) :: ms => Plain p x ∧ PlainMembers p ms
end

theorem plainMembers_iff {p : ℤ → Prop} (ms : List (String × Json)) :
    PlainMembers p ms ↔ ∀ m ∈ ms, Plain p m.2 := by
  induction ms with
  | nil => exact ⟨fun _ m hm => (by cases hm), fun _ => trivial⟩
  | cons m ms ih =>
    obtain ⟨k, x⟩ := m
    rw [PlainMembers, ih, List.forall_mem_cons]

theorem plainList_iff {p : ℤ → Prop} (xs : List Json) : PlainList p xs ↔ ∀ x ∈ xs, Plain p x := by
  induction xs with
  | nil => exact ⟨fun _ x hx => (by cases hx), fun _ => trivial⟩
  | cons x xs ih => rw [PlainList, ih, List.forall_mem_cons]

theorem plain_dict {q : ℤ → Prop} {ps : List (String × Json)} (h : ∀ p ∈ ps, Plain q p.2) : Plain q (dict ps) := by
  rw [dict, Plain, plainMembers_iff]
  refine ⟨sortedKeys_insertAll ps [] List.Pairwise.nil, fun m hm => ?_⟩
  rcases mem_insertAll hm with hm | hm
  · exact h m hm
  · cases hm

/-- Compact text starts with neither a space nor a closing bracket. -/
theorem dumps_head (p : ℤ → Prop) (v : Json) (hv : Plain p v) :
    ∃ c t, dumps floatRepr ascii v = c :: t ∧ isSpace c = false ∧ c ≠ ']' ∧ c ≠ '}' := by
  cases v with
  | null => exact ⟨'n', _, rfl, by decide⟩
  | bool b => cases b
              · exact ⟨'f', _, rfl, by decide⟩
              · exact ⟨'t', _, rfl, by decide⟩
  | int n =>
    obtain ⟨c, t, he, hc⟩ := dumpInt_head n
    refine ⟨c, t, by simpa [dumps] using he, ?_⟩
    rcases hc with hc | ⟨rfl, -⟩
    · refine ⟨?_, ?_, ?_⟩
      · simp only [isSpace, decide_eq_false_iff_not]
        rintro (rfl | rfl | rfl | rfl) <;> exact absurd hc (by decide)
      · rintro rfl; exact absurd hc (by decide)
      · rintro rfl; exact absurd hc (by decide)
    · decide
  | float b => exact absurd hv (by simp [Plain])
  | str s => exact ⟨'"', s.toList.flatMap (escapeChar ascii) ++ ['"'], by simp [dumps, dumpString], by decide⟩
  | arr xs => cases xs <;> exact ⟨'[', _, by rw [dumps], by decide⟩
  | obj ms =>
    cases ms with
    | nil => exact ⟨'{', _, by rw [dumps], by decide⟩
    | cons m ms => obtain ⟨k, x⟩ := m; exact ⟨'{', _, by rw [dumps], by decide⟩

theorem dumps_no_bom (p : ℤ → Prop) (v : Json) (hv : Plain p v) :
    (dumps floatRepr ascii v).head? ≠ some '\ufeff' := by
  cases v with
  | int n =>
    obtain ⟨c, t, he, hc⟩ := dumpInt_head n
    rw [dumps, he]
    rintro h
    have : c = '\ufeff' := by simpa using h
    rcases hc with hc | ⟨rfl, -⟩
    · subst this; exact absurd hc (by decide)
    · exact absurd this (by decide)
  | null => simp [dumps]
  | bool b => cases b <;> simp [dumps]
  | float b => exact absurd hv (by simp [Plain])
  | str s => simp [dumps, dumpString]
  | arr xs => cases xs <;> simp [dumps]
  | obj ms =>
    cases ms with
    | nil => simp [dumps]
    | cons m ms => obtain ⟨k, x⟩ := m; simp [dumps]

theorem skipSpace_of_head {s : List Char} {c : Char} {t : List Char} (hs : s = c :: t)
    (hc : isSpace c = false) : skipSpace s = s := by
  subst hs
  simp [skipSpace, hc]

theorem token?_append (t r : List Char) : token? t (t ++ r) = some r := by
  simp [token?]

theorem scanScalar_null (r : List Char) : scanScalar h ("null".toList ++ r) = .ok (.null, r) := by
  rw [scanScalar, scanToken, token?_append]

theorem scanScalar_true (r : List Char) :
    scanScalar h ("true".toList ++ r) = .ok (.bool true, r) := by
  rw [scanScalar, scanToken, show token? "null".toList ("true".toList ++ r) = none by simp [token?],
    token?_append]

theorem scanScalar_false (r : List Char) :
    scanScalar h ("false".toList ++ r) = .ok (.bool false, r) := by
  rw [scanScalar, scanToken, show token? "null".toList ("false".toList ++ r) = none by simp [token?],
    show token? "true".toList ("false".toList ++ r) = none by simp [token?], token?_append]

theorem scanScalar_int (n : ℤ) {r : List Char} (hr : Delimited r) :
    scanScalar h (dumpInt n ++ r) = (h.parseInt (dumpInt n)).map fun v => (v, r) := by
  rw [scanScalar, scanToken_dumpInt]
  exact scanNumber_dumpInt h n hr

theorem scanOnce_scalar (n : ℕ) {s : List Char} {c : Char} {t : List Char} (hs : s = c :: t)
    (hq : c ≠ '"') (hb : c ≠ '{') (ha : c ≠ '[') : scanOnce h (n + 1) s = scanScalar h s := by
  subst hs
  simp [scanOnce, hq, hb, ha]

theorem scanOnce_int (f : ℕ) (n : ℤ) {r : List Char} (hr : Delimited r) :
    scanOnce h (f + 1) (dumpInt n ++ r) = (h.parseInt (dumpInt n)).map fun v => (v, r) := by
  obtain ⟨c, t, he, hc⟩ := dumpInt_head n
  have hne : ∀ d : Char, d.isDigit = false → d ≠ '-' → c ≠ d := by
    intro d hd hm
    rcases hc with hc | ⟨rfl, -⟩
    · rintro rfl
      simp [hc] at hd
    · exact Ne.symm hm
  rw [scanOnce_scalar h f (show dumpInt n ++ r = c :: (t ++ r) by rw [he]; rfl)
    (hne _ (by decide) (by decide)) (hne _ (by decide) (by decide)) (hne _ (by decide) (by decide))]
  exact scanScalar_int h n hr

theorem delimited_elems (xs : List Json) (r : List Char) :
    Delimited (dumpElems floatRepr ascii xs ++ r) := by
  cases xs with
  | nil => exact delimited_cons (by simp) _
  | cons x xs => exact delimited_cons (by simp) _

theorem delimited_members (ms : List (String × Json)) (r : List Char) :
    Delimited (dumpMembers floatRepr ascii ms ++ r) := by
  cases ms with
  | nil => exact delimited_cons (by simp) _
  | cons m ms => obtain ⟨k, x⟩ := m; exact delimited_cons (by simp) _

/-! ## One turn of the scanner -/

theorem scanOnce_arr (n : ℕ) {s : List Char} {c : Char} {t : List Char} (hs : skipSpace s = c :: t)
    (hc : c ≠ ']') : scanOnce h (n + 1) ('[' :: s) =
      (scanElems h n (c :: t)).map fun q => (.arr q.1, q.2) := by
  simp only [scanOnce, Char.reduceEq, ↓reduceIte, hs]
  split
  · next heq => exact absurd (List.cons.inj heq).1 hc
  · cases scanElems h n (c :: t) <;> rfl

theorem scanOnce_obj (n : ℕ) {s : List Char} {c : Char} {t : List Char} (hs : skipSpace s = c :: t)
    (hc : c ≠ '}') : scanOnce h (n + 1) ('{' :: s) =
      (scanMembers h n (c :: t)).bind fun q => (h.objectPairs q.1).map fun v => (v, q.2) := by
  simp only [scanOnce, Char.reduceEq, ↓reduceIte, hs]
  split
  · next heq => exact absurd (List.cons.inj heq).1 hc
  · cases scanMembers h n (c :: t) with
    | error e => rfl
    | ok q => simp only [bind, Except.bind]; cases h.objectPairs q.1 <;> rfl

theorem scanElems_last {n : ℕ} {s r r' : List Char} {x : Json} (hx : scanOnce h n s = .ok (x, r))
    (hr : skipSpace r = ']' :: r') : scanElems h (n + 1) s = .ok ([x], r') := by
  simp [scanElems, hx, hr, bind, Except.bind, pure, Except.pure]

theorem scanElems_comma {n : ℕ} {s r r' : List Char} {x : Json} (hx : scanOnce h n s = .ok (x, r))
    (hr : skipSpace r = ',' :: r') : scanElems h (n + 1) s =
      (scanElems h n (skipSpace r')).map fun q => (x :: q.1, q.2) := by
  simp only [scanElems, hx, hr, bind, Except.bind, pure, Except.pure]
  cases scanElems h n (skipSpace r') <;> rfl

theorem scanMembers_last {n : ℕ} {s r₁ r₂ r₃ r' cs : List Char} {x : Json}
    (hk : scanString s = some (cs, r₁)) (hc : skipSpace r₁ = ':' :: r₂)
    (hx : scanOnce h n (skipSpace r₂) = .ok (x, r₃)) (hr : skipSpace r₃ = '}' :: r') :
    scanMembers h (n + 1) ('"' :: s) = .ok ([(String.ofList cs, x)], r') := by
  simp [scanMembers, hk, hc, hx, hr, bind, Except.bind, pure, Except.pure]

theorem scanMembers_comma {n : ℕ} {s r₁ r₂ r₃ r' cs : List Char} {x : Json}
    (hk : scanString s = some (cs, r₁)) (hc : skipSpace r₁ = ':' :: r₂)
    (hx : scanOnce h n (skipSpace r₂) = .ok (x, r₃)) (hr : skipSpace r₃ = ',' :: r') :
    scanMembers h (n + 1) ('"' :: s) =
      (scanMembers h n (skipSpace r')).map fun q => ((String.ofList cs, x) :: q.1, q.2) := by
  simp only [scanMembers, hk, hc, hx, hr, bind, Except.bind, pure, Except.pure]
  cases scanMembers h n (skipSpace r') <;> rfl

theorem skipSpace_dumps (p : ℤ → Prop) (v : Json) (hv : Plain p v) (r : List Char) :
    ∃ c t, skipSpace (dumps floatRepr ascii v ++ r) = c :: t ∧ c ≠ ']' ∧
      c :: t = dumps floatRepr ascii v ++ r := by
  obtain ⟨c, t, he, hsp, hb, -⟩ := dumps_head floatRepr ascii p v hv
  exact ⟨c, t ++ r, by rw [skipSpace_of_head (by rw [he]; rfl) hsp, he]; rfl, hb, by rw [he]; rfl⟩

theorem skipSpace_char {c : Char} (hc : isSpace c = false) (r : List Char) :
    skipSpace (c :: r) = c :: r := skipSpace_of_head rfl hc

/-! ## Round trip -/

variable (p : ℤ → Prop) (hint : ∀ n, p n → h.parseInt (dumpInt n) = .ok (.int n))
  (hobj : ∀ ms, SortedKeys ms → h.objectPairs ms = .ok (.obj ms))

include hint hobj in
mutual
/-- Scanning the text of a value gives the value and what follows it. -/
theorem scanOnce_dumps : ∀ (v : Json) (n : ℕ) (r : List Char), Plain p v →
    2 * (dumps floatRepr ascii v).length + 1 ≤ n → Delimited r →
    scanOnce h n (dumps floatRepr ascii v ++ r) = .ok (v, r)
  | v, 0, _, _, hn, _ => by omega
  | .null, n + 1, r, _, _, _ => by
    rw [dumps, ← scanScalar_null]
    exact scanOnce_scalar h n (c := 'n') rfl (by decide) (by decide) (by decide)
  | .bool true, n + 1, r, _, _, _ => by
    rw [dumps, ← scanScalar_true]
    exact scanOnce_scalar h n (c := 't') rfl (by decide) (by decide) (by decide)
  | .bool false, n + 1, r, _, _, _ => by
    rw [dumps, ← scanScalar_false]
    exact scanOnce_scalar h n (c := 'f') rfl (by decide) (by decide) (by decide)
  | .int i, n + 1, r, hv, _, hr => by
    rw [dumps, scanOnce_int h n i hr, hint i hv]
    rfl
  | .float b, _ + 1, _, hv, _, _ => absurd hv (by simp [Plain])
  | .str s, n + 1, r, _, _, _ => by
    obtain ⟨t, he, ht⟩ := scanString_dumpString ascii s r
    rw [dumps, he]
    simp [scanOnce, ht]
  | .arr [], n + 1, r, _, _, _ => by simp [dumps, scanOnce, skipSpace, isSpace]
  | .arr (x :: xs), n + 1, r, hv, hn, _ => by
    obtain ⟨c, t, hs, hb, he⟩ := skipSpace_dumps floatRepr ascii p x hv.1
      (dumpElems floatRepr ascii xs ++ r)
    rw [dumps, List.length_cons, List.length_append] at hn
    rw [dumps, List.cons_append, List.append_assoc, scanOnce_arr h n hs hb, he,
      scanElems_dumps x xs n r hv (by omega)]
    rfl
  | .obj [], n + 1, r, hv, _, _ => by
    simp [dumps, scanOnce, skipSpace, isSpace, hobj [] hv.1, Except.map]
  | .obj ((k, x) :: ms), n + 1, r, hv, hn, _ => by
    rw [dumps, List.length_cons, List.length_append, List.length_cons, List.length_append] at hn
    obtain ⟨t, he, -⟩ := scanString_dumpString ascii k
      (':' :: (dumps floatRepr ascii x ++ (dumpMembers floatRepr ascii ms ++ r)))
    rw [dumps, List.cons_append, List.append_assoc, List.cons_append, List.append_assoc, he,
      scanOnce_obj h n (skipSpace_char (by decide) t) (by decide), ← he,
      scanMembers_dumps k x ms n r hv.2 (by omega)]
    simp [Except.bind, hobj _ hv.1, Except.map]
theorem scanElems_dumps : ∀ (x : Json) (xs : List Json) (n : ℕ) (r : List Char),
    Plain p x ∧ PlainList p xs →
    2 * ((dumps floatRepr ascii x).length + (dumpElems floatRepr ascii xs).length) + 2 ≤ n →
    scanElems h n (dumps floatRepr ascii x ++ (dumpElems floatRepr ascii xs ++ r)) =
      .ok (x :: xs, r)
  | _, _, 0, _, _, hn => by omega
  | x, [], n + 1, r, hv, hn => by
    have hx := scanOnce_dumps x n (dumpElems floatRepr ascii [] ++ r) hv.1 (by omega)
      (delimited_elems floatRepr ascii [] r)
    exact scanElems_last h hx (skipSpace_char (by decide) r)
  | x, y :: ys, n + 1, r, hv, hn => by
    have hx := scanOnce_dumps x n (dumpElems floatRepr ascii (y :: ys) ++ r) hv.1 (by omega)
      (delimited_elems floatRepr ascii (y :: ys) r)
    obtain ⟨c, t, hs, -, he⟩ := skipSpace_dumps floatRepr ascii p y hv.2.1
      (dumpElems floatRepr ascii ys ++ r)
    rw [dumpElems, List.length_cons, List.length_append] at hn
    have htail : skipSpace (dumpElems floatRepr ascii (y :: ys) ++ r) =
        ',' :: (dumps floatRepr ascii y ++ (dumpElems floatRepr ascii ys ++ r)) := by
      simp [dumpElems, skipSpace, isSpace]
    rw [scanElems_comma h hx htail, hs, he,
      scanElems_dumps y ys n r hv.2 (by omega)]
    rfl
theorem scanMembers_dumps : ∀ (k : String) (x : Json) (ms : List (String × Json)) (n : ℕ)
    (r : List Char), Plain p x ∧ PlainMembers p ms →
    2 * ((dumpString ascii k).length +
      ((dumps floatRepr ascii x).length + (dumpMembers floatRepr ascii ms).length)) + 2 ≤ n →
    scanMembers h n (dumpString ascii k ++
      ':' :: (dumps floatRepr ascii x ++ (dumpMembers floatRepr ascii ms ++ r))) =
        .ok ((k, x) :: ms, r)
  | _, _, _, 0, _, _, hn => by omega
  | k, x, [], n + 1, r, hv, hn => by
    obtain ⟨t, he, ht⟩ := scanString_dumpString ascii k
      (':' :: (dumps floatRepr ascii x ++ (dumpMembers floatRepr ascii [] ++ r)))
    obtain ⟨c, u, hs, -, hc⟩ := skipSpace_dumps floatRepr ascii p x hv.1
      (dumpMembers floatRepr ascii [] ++ r)
    have hx := scanOnce_dumps x n (dumpMembers floatRepr ascii [] ++ r) hv.1 (by omega)
      (delimited_members floatRepr ascii [] r)
    rw [← hc, ← hs] at hx
    rw [he, scanMembers_last h ht (skipSpace_char (by decide) _) hx (skipSpace_char (by decide) r),
      String.ofList_toList]
  | k, x, (l, y) :: ms, n + 1, r, hv, hn => by
    obtain ⟨t, he, ht⟩ := scanString_dumpString ascii k
      (':' :: (dumps floatRepr ascii x ++ (dumpMembers floatRepr ascii ((l, y) :: ms) ++ r)))
    obtain ⟨c, u, hs, -, hc⟩ := skipSpace_dumps floatRepr ascii p x hv.1
      (dumpMembers floatRepr ascii ((l, y) :: ms) ++ r)
    have hx := scanOnce_dumps x n (dumpMembers floatRepr ascii ((l, y) :: ms) ++ r) hv.1 (by omega)
      (delimited_members floatRepr ascii ((l, y) :: ms) r)
    rw [← hc, ← hs] at hx
    rw [dumpMembers, List.length_cons, List.length_append, List.length_cons, List.length_append] at hn
    obtain ⟨w, hw, -⟩ := scanString_dumpString ascii l
      (':' :: (dumps floatRepr ascii y ++ (dumpMembers floatRepr ascii ms ++ r)))
    have htail : skipSpace (dumpMembers floatRepr ascii ((l, y) :: ms) ++ r) = ',' ::
        (dumpString ascii l ++
          ':' :: (dumps floatRepr ascii y ++ (dumpMembers floatRepr ascii ms ++ r))) := by
      simp [dumpMembers, skipSpace, isSpace]
    rw [he, scanMembers_comma h ht (skipSpace_char (by decide) _) hx htail,
      skipSpace_of_head hw (by decide),
      scanMembers_dumps l y ms n r hv.2 (by omega), String.ofList_toList]
    rfl
end

include hint hobj in
theorem loads_dumps (v : Json) (hv : Plain p v) : loads h (dumps floatRepr ascii v) = .ok v := by
  obtain ⟨c, t, hs, -, he⟩ := skipSpace_dumps floatRepr ascii p v hv []
  have hscan := scanOnce_dumps h floatRepr ascii p hint hobj v (scanFuel (dumps floatRepr ascii v)) []
    hv (by simp [scanFuel]) delimited_nil
  rw [List.append_nil] at hs he hscan
  rw [loads, if_neg (dumps_no_bom floatRepr ascii p v hv), hs, he, hscan]
  rfl

include hint hobj in
/-- An object delimits itself, so its text may stand at the start of a line. -/
theorem scanOnce_dumps_obj (ms : List (String × Json)) (n : ℕ) (r : List Char) (hv : Plain p (.obj ms))
    (hn : 2 * (dumps floatRepr ascii (.obj ms)).length ≤ n) :
    scanOnce h (n + 1) (dumps floatRepr ascii (.obj ms) ++ r) = .ok (.obj ms, r) := by
  cases ms with
  | nil => simp [dumps, scanOnce, skipSpace, isSpace, hobj [] hv.1, Except.map]
  | cons m ms =>
    obtain ⟨k, x⟩ := m
    rw [dumps, List.length_cons, List.length_append, List.length_cons, List.length_append] at hn
    obtain ⟨t, he, -⟩ := scanString_dumpString ascii k
      (':' :: (dumps floatRepr ascii x ++ (dumpMembers floatRepr ascii ms ++ r)))
    rw [dumps, List.cons_append, List.append_assoc, List.cons_append, List.append_assoc, he,
      scanOnce_obj h n (skipSpace_char (by decide) t) (by decide), ← he,
      scanMembers_dumps h floatRepr ascii p hint hobj k x ms n r hv.2 (by omega)]
    simp [Except.bind, hobj _ hv.1, Except.map]

include hint hobj in
theorem loads_dumps_line (ms : List (String × Json)) (hv : Plain p (.obj ms)) :
    loads h (dumps floatRepr ascii (.obj ms) ++ ['\n']) = .ok (.obj ms) := by
  obtain ⟨c, t, hs, -, he⟩ := skipSpace_dumps floatRepr ascii p (.obj ms) hv ['\n']
  have hbom : (dumps floatRepr ascii (.obj ms) ++ ['\n']).head? ≠ some '\ufeff' := by
    have hno := dumps_no_bom floatRepr ascii p (.obj ms) hv
    cases hd : dumps floatRepr ascii (.obj ms) with
    | nil => decide
    | cons a as =>
      rw [hd] at hno
      exact hno
  have hscan := scanOnce_dumps_obj h floatRepr ascii p hint hobj ms
    (2 * (dumps floatRepr ascii (.obj ms) ++ ['\n']).length + 1) ['\n'] hv (by rw [List.length_append]; omega)
  rw [loads, if_neg hbom, hs, he, scanFuel, hscan]
  rfl

end RoundTrip
end VapEvidence

import VapEvidence.JsonTokens
import VapEvidence.StrictParse

set_option autoImplicit false

/-!
# The leaves of two readers

Strings, integers and words: `strictParse` reads of each what `json.loads` reads
under the hooks of `strict_loads`, when it lies in the subset.
-/
namespace VapEvidence.Evidence
open Json

/-! ## Strings -/

theorem units_ascii {s : List Char} (h : s.all isPrintable = true) : Node.units s = s.length := by
  induction s with
  | nil => rfl
  | cons c s ih =>
    simp only [List.all_cons, Bool.and_eq_true, isPrintable, decide_eq_true_eq] at h
    have := ih h.2
    simp only [Node.units, List.map_cons, List.sum_cons, List.length_cons] at this ⊢
    rw [if_pos (by omega), this]
    omega

theorem length_le_units (s : List Char) : s.length ≤ Node.units s := by
  induction s with
  | nil => simp
  | cons c s ih =>
    simp only [Node.units, List.map_cons, List.sum_cons, List.length_cons] at ih ⊢
    split_ifs <;> omega

theorem any_not_printable (s : List Char) :
    (!s.any fun c => c.toNat < 0x20 || 0x7e < c.toNat) = s.all isPrintable := by
  rw [List.not_any_eq_all_not]
  congr 1
  funext c
  rw [Bool.eq_iff_iff]
  simp [isPrintable]

/-- `printable` admits the strings of the subset; `nonempty` leaves out the empty one. -/
theorem printable_decides (v : Json) (label : String) (nonempty : Bool) :
    Checks (Node.printable v label nonempty)
      (∃ s, v = .str s ∧ Printable s ∧ (nonempty = true → s ≠ "")) () := by
  have hstr (s : String) : (Node.units s.toList ≤ Node.maxStringLength ∧ (nonempty = true → s ≠ "")) ∧
      s.toList.all isPrintable = true ↔ Printable s ∧ (nonempty = true → s ≠ "") := by
    constructor
    · rintro ⟨⟨hl, hn⟩, hp⟩
      rw [units_ascii hp, String.length_toList] at hl
      exact ⟨⟨hl, hp⟩, hn⟩
    · rintro ⟨⟨hl, hp⟩, hn⟩
      refine ⟨⟨?_, hn⟩, hp⟩
      rw [units_ascii hp, String.length_toList]
      exact hl
  cases v with
  | str s =>
    refine (check_decides _ _).congr ?_
    rw [any_not_printable]
    simp only [Bool.and_eq_true, decide_eq_true_eq, Json.str.injEq]
    constructor
    · rintro ⟨⟨hl, hn⟩, hp⟩
      refine ⟨s, rfl, (hstr s).1 ⟨⟨hl, ?_⟩, hp⟩⟩
      rintro rfl rfl
      simp at hn
    · rintro ⟨_, rfl, h⟩
      obtain ⟨⟨hl, hn⟩, hp⟩ := (hstr s).2 h
      refine ⟨⟨hl, ?_⟩, hp⟩
      cases nonempty
      · rfl
      · simpa using hn rfl
  | _ => exact (Decides.error trivial ()).congr (by simp)

theorem closeQuote_plain {c : Char} (hq : c ≠ '"') (hb : c ≠ '\\') (t : List Char) :
    Node.closeQuote (c :: t) = (Node.closeQuote t).map fun p => (c :: p.1, p.2) := by
  rw [Node.closeQuote.eq_def]
  split <;> simp_all

theorem closeQuote_escape (e : Char) (t : List Char) :
    Node.closeQuote ('\\' :: e :: t) = (Node.closeQuote t).map fun p => ('\\' :: e :: p.1, p.2) := rfl

theorem hexValue_plain {c : Char} {n : ℕ} (h : hexValue c = some n) : c ≠ '"' ∧ c ≠ '\\' := by
  constructor <;> (rintro rfl; simp [hexValue] at h)

theorem hex4_plain {a b c d : Char} {u : ℕ} (h : hex4 a b c d = some u) :
    ∀ x ∈ [a, b, c, d], x ≠ '"' ∧ x ≠ '\\' := by
  simp only [hex4, Option.bind_eq_bind, Option.pure_def, Option.bind_eq_some_iff] at h
  obtain ⟨_, ha, _, hb, _, hc, _, hd, -⟩ := h
  simp only [List.mem_cons, List.not_mem_nil, or_false]
  rintro x (rfl | rfl | rfl | rfl)
  · exact hexValue_plain ha
  · exact hexValue_plain hb
  · exact hexValue_plain hc
  · exact hexValue_plain hd

theorem closeQuote_plains {w : List Char} (h : ∀ x ∈ w, x ≠ '"' ∧ x ≠ '\\') (t : List Char) :
    Node.closeQuote (w ++ t) = (Node.closeQuote t).map fun p => (w ++ p.1, p.2) := by
  induction w with
  | nil =>
    rw [List.nil_append]
    cases Node.closeQuote t <;> rfl
  | cons c w ih =>
    have hc := h c (by simp)
    rw [List.cons_append, closeQuote_plain hc.1 hc.2, ih fun x hx => h x (List.mem_cons_of_mem _ hx)]
    cases Node.closeQuote t <;> rfl

theorem closeQuote_unit {a b c d : Char} {u : ℕ} (h : hex4 a b c d = some u) (t : List Char) :
    Node.closeQuote ('\\' :: 'u' :: a :: b :: c :: d :: t) =
      (Node.closeQuote t).map fun p => ('\\' :: 'u' :: a :: b :: c :: d :: p.1, p.2) := by
  have := closeQuote_plains (hex4_plain h) t
  simp only [List.cons_append, List.nil_append] at this
  rw [closeQuote_escape, this]
  cases Node.closeQuote t <;> rfl

theorem closeQuote_spelled {w : List Char} {ch : Char} (h : Spells w ch) (t : List Char) :
    Node.closeQuote (w ++ t) = (Node.closeQuote t).map fun p => (w ++ p.1, p.2) := by
  cases h with
  | plain _ hq hb _ => exact closeQuote_plain hq hb t
  | simple e _ _ => exact closeQuote_escape e t
  | unit a b c d u _ hu _ => exact closeQuote_unit hu t
  | pair a b c d e f g i u _ hu _ hc =>
    obtain ⟨v, hv, -⟩ := Option.bind_eq_some_iff.1 hc
    simp only [List.cons_append, List.nil_append]
    rw [closeQuote_unit hu, closeQuote_unit hv]
    cases Node.closeQuote t <;> rfl

theorem closeQuote_token {t cs : List Char} (h : StringToken t cs) (r : List Char) :
    Node.closeQuote (t ++ r) = .ok (t, r) := by
  induction h with
  | close => rfl
  | cons w ch t cs hw _ ih => rw [List.append_assoc, closeQuote_spelled hw, ih]; rfl

theorem closeQuote_split {s body r : List Char} (h : Node.closeQuote s = .ok (body, r)) :
    s = body ++ r := by
  fun_induction Node.closeQuote s generalizing body r with
  | case1 => cases h
  | case2 s => cases h; rfl
  | case3 => cases h
  | case4 c s ih =>
    obtain ⟨p, hp, he⟩ := map_ok h
    cases he
    rw [ih hp]
    rfl
  | case5 c s _ _ _ ih =>
    obtain ⟨p, hp, he⟩ := map_ok h
    cases he
    rw [ih hp]
    rfl

theorem printable_str (k label : String) : Checks (Node.printable (.str k) label false) (Printable k) () :=
  (printable_decides (.str k) label false).congr (by simp)

/-- `stringValue` reads the strings `scan_once` reads, where they are in the subset. -/
theorem stringValue_iff (text : List Char) {s r : List Char} {k : String} :
    Node.stringValue text s = .ok (k, r) ↔
      ∃ t cs, s = '"' :: t ∧ scanString t = some (cs, r) ∧ k = String.ofList cs ∧ Printable k := by
  constructor
  · intro h
    unfold Node.stringValue at h
    split at h
    · next t =>
      split at h
      · cases h
      · next body q hq =>
        split at h
        · next cs hcs =>
          obtain ⟨u, hu, he⟩ := bind_ok h
          cases he
          have hk := (((printable_str _ _).ok_iff u).1 hu).1
          obtain ⟨b, rfl, hb⟩ := token_of_scanString hcs
          rw [List.append_nil] at hq
          rw [closeQuote_split hq]
          exact ⟨b ++ r, cs, rfl, scanString_token hb r, rfl, hk⟩
        · cases h
    · cases h
  · rintro ⟨t, cs, rfl, hs, rfl, hk⟩
    obtain ⟨b, rfl, hb⟩ := token_of_scanString hs
    have hbody := scanString_token hb []
    rw [List.append_nil] at hbody
    rw [Node.stringValue, closeQuote_token hb]
    simp only [hbody]
    rw [(printable_str _ _).accepts hk]
    rfl

/-! ## Numbers -/

theorem roundDouble_small {n : ℕ} (h : n < 2 ^ 53) : Node.roundDouble n = n := if_pos h

/-- Rounding does not bring a number back below `2 ^ 53`. -/
theorem roundDouble_large {n : ℕ} (h : 2 ^ 53 ≤ n) : 2 ^ 53 ≤ Node.roundDouble n := by
  have hlog : 53 ≤ Nat.log2 n := (Nat.le_log2 (by omega)).2 h
  have hself : 2 ^ Nat.log2 n ≤ n := Nat.log2_self_le (by omega)
  have hpow : 2 ^ Nat.log2 n = 2 ^ 52 * 2 ^ (Nat.log2 n - 52) := by
    rw [← pow_add]
    congr 1
    omega
  have hunit : 2 ≤ 2 ^ (Nat.log2 n - 52) := Nat.le_self_pow (by omega) 2
  have hq : 2 ^ 52 ≤ n / 2 ^ (Nat.log2 n - 52) :=
    (Nat.le_div_iff_mul_le (by omega)).2 (hpow ▸ hself)
  rw [Node.roundDouble, if_neg (not_lt.2 h)]
  dsimp only
  have hmul : 2 ^ 53 ≤ n / 2 ^ (Nat.log2 n - 52) * 2 ^ (Nat.log2 n - 52) :=
    calc 2 ^ 53 = 2 ^ 52 * 2 := rfl
      _ ≤ n / 2 ^ (Nat.log2 n - 52) * 2 ^ (Nat.log2 n - 52) := Nat.mul_le_mul hq hunit
  split_ifs
  · exact le_trans hmul (Nat.mul_le_mul_right _ (Nat.le_succ _))
  · exact hmul

theorem roundDouble_safe (n : ℕ) : Node.roundDouble n ≤ maxSafeInteger ↔ n ≤ maxSafeInteger := by
  unfold maxSafeInteger
  by_cases h : n < 2 ^ 53
  · rw [roundDouble_small h]
  · have := roundDouble_large (not_lt.1 h)
    omega

theorem roundDouble_of_safe {n : ℕ} (h : n ≤ maxSafeInteger) : Node.roundDouble n = n :=
  roundDouble_small (by unfold maxSafeInteger at h; omega)

/-- The token of an integer: an optional sign, and digits without a leading zero. -/
structure IntegerToken (sign digits : List Char) : Prop where
  signed : sign = [] ∨ sign = ['-']
  digit : ∀ c ∈ digits, c.isDigit = true
  leading : digits = ['0'] ∨ ∃ d ds, digits = d :: ds ∧ d ≠ '0'

namespace IntegerToken
variable {sign digits : List Char} (h : IntegerToken sign digits)
include h

theorem ne_nil : digits ≠ [] := by
  rcases h.leading with hd | ⟨d, ds, hd, -⟩ <;> simp [hd]

theorem cons : ∃ d ds, digits = d :: ds ∧ d ≠ '-' := by
  cases hd : digits with
  | nil => exact absurd hd h.ne_nil
  | cons d ds =>
    refine ⟨d, ds, rfl, ?_⟩
    rintro rfl
    exact absurd (h.digit '-' (by simp [hd])) (by decide)

theorem intToken_natAbs : (intToken (sign ++ digits)).natAbs = Nat.ofDigitChars 10 digits 0 := by
  obtain ⟨d, ds, rfl, hd⟩ := h.cons
  rcases h.signed with rfl | rfl
  · rw [List.nil_append, intToken.eq_2 _ fun ds' he => hd (List.cons.inj he).1]
    rfl
  · simp [intToken]

theorem toNumber_natAbs :
    (Node.toNumber (sign ++ digits)).natAbs = Node.roundDouble (Nat.ofDigitChars 10 digits 0) := by
  obtain ⟨d, ds, rfl, hd⟩ := h.cons
  rcases h.signed with rfl | rfl
  · rw [List.nil_append, Node.toNumber.eq_2 _ fun ds' he => hd (List.cons.inj he).1]
    rfl
  · simp [Node.toNumber]

theorem ofDigits_length (hs : Nat.ofDigitChars 10 digits 0 ≤ maxSafeInteger) : digits.length ≤ 16 := by
  rcases h.leading with rfl | ⟨d, ds, rfl, hd⟩
  · simp
  · have hlow : 48 ≤ d.toNat := (Char.isDigit_iff_toNat.1 (h.digit d (by simp))).1
    have hne : d.toNat ≠ 48 := fun he => hd (by rw [← Char.ofNat_toNat d, he])
    have hpos : 1 ≤ 10 * 0 + (d.toNat - '0'.toNat) := by
      change 1 ≤ 10 * 0 + (d.toNat - 48)
      omega
    rw [Nat.ofDigitChars_cons, Nat.ofDigitChars_eq_ofDigitChars_zero] at hs
    by_contra hlen
    have hlong : 16 ≤ ds.length := Nat.lt_succ_iff.1 (not_le.1 hlen)
    have hpow : 10 ^ 16 ≤ 10 ^ ds.length := Nat.pow_le_pow_right (by omega) hlong
    have hmul := Nat.mul_le_mul_left (10 ^ ds.length) hpos
    unfold maxSafeInteger at hs
    omega

/-- Both readers keep the same integers, with the same value. -/
theorem toNumber_safe :
    Node.isSafeInteger (Node.toNumber (sign ++ digits)) = true ↔
      (intToken (sign ++ digits)).natAbs ≤ maxSafeInteger := by
  rw [Node.isSafeInteger, decide_eq_true_eq, h.toNumber_natAbs, h.intToken_natAbs, roundDouble_safe]

theorem toNumber_eq (hs : (intToken (sign ++ digits)).natAbs ≤ maxSafeInteger) :
    Node.toNumber (sign ++ digits) = intToken (sign ++ digits) := by
  rw [h.intToken_natAbs] at hs
  have hround := roundDouble_of_safe hs
  obtain ⟨d, ds, rfl, hd⟩ := h.cons
  rcases h.signed with rfl | rfl
  · rw [List.nil_append, intToken.eq_2 _ fun ds' he => hd (List.cons.inj he).1,
      Node.toNumber.eq_2 _ fun ds' he => hd (List.cons.inj he).1, hround]
  · simp only [List.cons_append, List.nil_append, intToken, Node.toNumber, hround]

theorem dropWhile_sign : (sign ++ digits).dropWhile (· = '-') = digits := by
  obtain ⟨d, ds, rfl, hd⟩ := h.cons
  rcases h.signed with rfl | rfl <;> simp [hd]

theorem integer_iff (v : Json) : Python.integer (sign ++ digits) = .ok v ↔
    sign ++ digits ≠ ['-', '0'] ∧ (intToken (sign ++ digits)).natAbs ≤ maxSafeInteger ∧
      v = .int (intToken (sign ++ digits)) := by
  have hd : Checks (Python.integer (sign ++ digits)) _ (.int (intToken (sign ++ digits))) :=
    (check_decides _ _).bind fun _ => (check_decides _ _).bind fun _ =>
      (check_decides _ _).bind fun _ => Decides.pure _
  rw [hd.ok_iff, h.dropWhile_sign]
  simp only [decide_eq_true_eq, and_true, and_assoc]
  refine ⟨fun ⟨h0, _, hs, hv⟩ => ⟨h0, hs, hv⟩, fun ⟨h0, hs, hv⟩ => ⟨h0, ?_, hs, hv⟩⟩
  exact h.ofDigits_length (h.intToken_natAbs ▸ hs)

end IntegerToken
/-- The text does not go on with a digit. -/
def NoDigit (r : List Char) : Prop := ∀ c ∈ r.head?, c.isDigit = false

theorem span_digits {ds r : List Char} (hd : ∀ c ∈ ds, c.isDigit = true) (hr : NoDigit r) :
    (ds ++ r).takeWhile Char.isDigit = ds ∧ (ds ++ r).dropWhile Char.isDigit = r := by
  rw [List.takeWhile_append_of_pos hd, List.dropWhile_append_of_pos hd]
  cases r with
  | nil => simp
  | cons c r => simp [hr c (by simp)]

theorem noDigit_dropWhile (s : List Char) : NoDigit (s.dropWhile Char.isDigit) := by
  intro c hc
  have := List.head?_dropWhile_not Char.isDigit s
  rw [Option.mem_def.1 hc] at this
  simpa using this

theorem numberDigits_iff (text : List Char) {s ds r : List Char} :
    Node.numberDigits text s = .ok (ds, r) ↔ s = ds ++ r ∧ IntegerToken [] ds ∧ NoDigit r := by
  constructor
  · intro h
    unfold Node.numberDigits at h
    split at h
    · cases h
    · next d t =>
      split_ifs at h with h0 hn hd
      · cases h
        refine ⟨by simp [h0], ⟨Or.inl rfl, by simp, Or.inl rfl⟩, ?_⟩
        intro c hc
        rw [Option.mem_def.1 hc] at hn
        simpa using hn
      · cases h
        refine ⟨by rw [List.cons_append, List.takeWhile_append_dropWhile],
          ⟨Or.inl rfl, ?_, Or.inr ⟨d, _, rfl, h0⟩⟩, noDigit_dropWhile t⟩
        intro c hc
        rcases List.mem_cons.1 hc with rfl | hc
        · exact hd
        · exact List.all_eq_true.1 (List.all_takeWhile (p := Char.isDigit)) c hc
  · rintro ⟨rfl, h, hr⟩
    rcases h.leading with rfl | ⟨d, ds, rfl, h0⟩
    · rw [List.cons_append, Node.numberDigits, if_pos rfl, if_neg]
      · rfl
      · cases r with
        | nil => simp
        | cons c r => simp [hr c (by simp)]
    · have hs := span_digits (fun c hc => h.digit c (List.mem_cons_of_mem _ hc)) hr
      rw [List.cons_append, Node.numberDigits, if_neg h0, if_pos (h.digit d (by simp)), hs.1, hs.2]

/-- The text does not go on as a fraction or an exponent. -/
def NoFloat (r : List Char) : Prop := r.head? ≠ some '.' ∧ r.head? ≠ some 'e' ∧ r.head? ≠ some 'E'

/-- On the token of an integer Node does what `_integer` does. -/
theorem tokenValue_iff (text : List Char) {sign ds r r' : List Char} {v : Json} (ht : IntegerToken sign ds) :
    Node.tokenValue text (sign ++ ds) r = .ok (v, r') ↔
      NoFloat r ∧ Python.integer (sign ++ ds) = .ok v ∧ r' = r := by
  have hd : Checks (Node.tokenValue text (sign ++ ds) r) _ (.int (Node.toNumber (sign ++ ds)), r) :=
    (check_decides _ _).bind fun _ => (check_decides _ _).bind fun _ =>
      (check_decides _ _).bind fun _ => Decides.pure _
  rw [hd.ok_iff, ht.integer_iff, ht.toNumber_safe]
  simp only [decide_eq_true_eq, and_true, Prod.mk.injEq, NoFloat]
  constructor
  · rintro ⟨⟨hf, h0, hs⟩, hv, hr⟩
    exact ⟨hf, ⟨h0, hs, by rw [hv, ht.toNumber_eq hs]⟩, hr⟩
  · rintro ⟨hf, ⟨h0, hs, hv⟩, hr⟩
    exact ⟨⟨hf, h0, hs⟩, by rw [hv, ht.toNumber_eq hs], hr⟩

theorem IntegerToken.resign {sign sign' ds : List Char} (h : IntegerToken sign ds)
    (hs : sign' = [] ∨ sign' = ['-']) : IntegerToken sign' ds := ⟨hs, h.digit, h.leading⟩

theorem numberValue_iff (text : List Char) {s r : List Char} {v : Json} :
    Node.numberValue text s = .ok (v, r) ↔ ∃ sign ds, s = sign ++ (ds ++ r) ∧ IntegerToken sign ds ∧
      NoDigit r ∧ NoFloat r ∧ Python.integer (sign ++ ds) = .ok v := by
  constructor
  · intro h
    unfold Node.numberValue at h
    split at h
    · obtain ⟨⟨ds, r'⟩, hd, hr⟩ := bind_ok h
      obtain ⟨hs, ht, hn⟩ := (numberDigits_iff _).1 hd
      have ht : IntegerToken ['-'] ds := ht.resign (Or.inr rfl)
      obtain ⟨hf, hv, rfl⟩ := (tokenValue_iff _ ht).1 hr
      exact ⟨['-'], ds, congrArg _ hs, ht, hn, hf, hv⟩
    · obtain ⟨⟨ds, r'⟩, hd, hr⟩ := bind_ok h
      obtain ⟨hs, ht, hn⟩ := (numberDigits_iff _).1 hd
      obtain ⟨hf, hv, rfl⟩ := (tokenValue_iff _ ht).1 hr
      exact ⟨[], ds, hs, ht, hn, hf, hv⟩
  · rintro ⟨sign, ds, rfl, ht, hn, hf, hv⟩
    have hd := (numberDigits_iff text).2 ⟨rfl, ht.resign (Or.inl rfl), hn⟩
    have htok := (tokenValue_iff text (r := r) ht).2 ⟨hf, hv, rfl⟩
    obtain ⟨d, ds', rfl, hne⟩ := ht.cons
    rcases ht.signed with rfl | rfl
    · rw [List.nil_append, List.cons_append, Node.numberValue.eq_2 _ _ fun s he => hne (List.cons.inj he).1,
        ← List.cons_append, hd]
      exact htok
    · rw [List.cons_append, List.nil_append, Node.numberValue, hd]
      exact htok

theorem scanInteger_token {sign ds r : List Char} (ht : IntegerToken sign ds) (hn : NoDigit r) :
    scanInteger (sign ++ (ds ++ r)) = some (sign ++ ds, r) := by
  obtain ⟨d, ds', rfl, hne⟩ := ht.cons
  have hmain : (if d = '0' then some (sign ++ ['0'], ds' ++ r)
      else if d.isDigit then some (sign ++ d :: (spanDigits (ds' ++ r)).1, (spanDigits (ds' ++ r)).2)
      else none) = some (sign ++ d :: ds', r) := by
    rcases ht.leading with hzero | ⟨c, cs, hcons, h0⟩
    · obtain ⟨rfl, rfl⟩ := List.cons.inj hzero
      rfl
    · obtain ⟨rfl, rfl⟩ := List.cons.inj hcons
      have hs := span_digits (fun c hc => ht.digit c (List.mem_cons_of_mem _ hc)) hn
      simp only [spanDigits, hs.1, hs.2, if_neg h0, if_pos (ht.digit d List.mem_cons_self)]
  rcases ht.signed with rfl | rfl
  · rw [List.nil_append, scanInteger.eq_def]
    split
    next sign' r' hs =>
    split at hs
    · next he => exact absurd (List.cons.inj he).1 hne
    · cases hs
      exact hmain
  · exact hmain

theorem token_of_scanInteger {s t r : List Char} (h : scanInteger s = some (t, r)) :
    ∃ sign ds, t = sign ++ ds ∧ s = sign ++ (ds ++ r) ∧ IntegerToken sign ds := by
  unfold scanInteger at h
  split at h
  next sign u hs =>
  have hsign : s = sign ++ u ∧ (sign = [] ∨ sign = ['-']) := by
    split at hs <;> (cases hs; simp)
  obtain ⟨rfl, hsign⟩ := hsign
  split at h
  · cases h
  · next d u =>
    split_ifs at h with h0 hd
    · cases h
      exact ⟨sign, ['0'], rfl, by simp [h0], hsign, by simp, Or.inl rfl⟩
    · cases h
      refine ⟨sign, _, rfl, ?_, hsign, ?_, Or.inr ⟨d, _, rfl, h0⟩⟩
      · rw [List.cons_append]
        simp only [List.takeWhile_append_dropWhile]
      · intro c hc
        rcases List.mem_cons.1 hc with rfl | hc
        · exact hd
        · exact List.all_eq_true.1 (List.all_takeWhile (p := Char.isDigit)) c hc

/-! ## Scalars -/

theorem token?_some {t s r : List Char} (h : token? t s = some r) : s = t ++ r := by
  unfold token? at h
  split_ifs at h with hp
  obtain ⟨q, rfl⟩ := List.isPrefixOf_iff_prefix.1 hp
  cases h
  rw [List.drop_left]

theorem token?_integer {sign ds r w : List Char} {a : Char} (ht : IntegerToken sign ds)
    (ha : a.isDigit = false) (hm : a ≠ '-') : token? (a :: w) (sign ++ (ds ++ r)) = none := by
  obtain ⟨d, ds', rfl, -⟩ := ht.cons
  have hd : a ≠ d := by
    rintro rfl
    have := ht.digit a (by simp)
    simp [ha] at this
  rcases ht.signed with rfl | rfl
  · simp [token?, hd]
  · simp [token?, hm]

theorem scanToken_integer {h : Hooks} {sign ds r : List Char} (ht : IntegerToken sign ds) :
    scanToken h (sign ++ (ds ++ r)) = none := by
  obtain ⟨d, ds', rfl, hm⟩ := ht.cons
  have hd := ht.digit d (by simp)
  have hne (c : Char) (hc : c.isDigit = false) : c ≠ d := by
    rintro rfl
    simp [hd] at hc
  rcases ht.signed with rfl | rfl
  · have hn := hne 'n' (by decide)
    have ht := hne 't' (by decide)
    have hf := hne 'f' (by decide)
    have hN := hne 'N' (by decide)
    have hI := hne 'I' (by decide)
    simp [scanToken, token?, hn, ht, hf, hN, hI, Ne.symm hm]
  · have hI := hne 'I' (by decide)
    simp [scanToken, token?, hI]

theorem scanFraction_noFloat {r : List Char} (h : NoFloat r) : scanFraction r = none := by
  unfold scanFraction
  split
  · exact absurd rfl h.1
  · rfl

theorem scanExponent_noFloat {r : List Char} (h : NoFloat r) : scanExponent r = none := by
  cases r with
  | nil => rfl
  | cons c r =>
    have he : ¬(c = 'e' ∨ c = 'E') := by
      rintro (rfl | rfl)
      · exact h.2.1 rfl
      · exact h.2.2 rfl
    rw [scanExponent.eq_def]
    exact if_neg he

/-- What may come after a value: the end of the text, a space or a delimiter. -/
def Follow (r : List Char) : Prop := ∀ c ∈ r.head?, isSpace c = true ∨ c = ',' ∨ c = ']' ∨ c = '}'

theorem Follow.noDigit {r : List Char} (h : Follow r) : NoDigit r := by
  intro c hc
  rcases h c hc with hs | rfl | rfl | rfl
  · simp only [isSpace, decide_eq_true_eq] at hs
    rcases hs with rfl | rfl | rfl | rfl <;> decide
  all_goals decide

theorem Follow.noFloat {r : List Char} (h : Follow r) : NoFloat r := by
  refine ⟨?_, ?_, ?_⟩ <;>
    (intro hr
     rcases h _ hr with hs | hs | hs | hs <;> revert hs <;> decide)

theorem follow_of_skipSpace {r : List Char}
    (h : ∀ c ∈ (skipSpace r).head?, c = ',' ∨ c = ']' ∨ c = '}') : Follow r := by
  intro c hc
  obtain ⟨r, rfl⟩ := List.head?_eq_some_iff.1 hc
  by_cases hs : isSpace c = true
  · exact Or.inl hs
  · rw [skipSpace, if_neg hs] at h
    exact Or.inr (h c rfl)

theorem scalarValue_sound {text s r : List Char} {v : Json} (h : Node.scalarValue text s = .ok (v, r)) :
    scanScalar Python.strictHooks s = .ok (v, r) ∧ ∀ d ≤ 16, Subset d v := by
  unfold Node.scalarValue at h
  split at h
  · next u hu =>
    cases h
    rw [token?_some hu]
    exact ⟨scanScalar_true _ r, fun d hd => hd⟩
  · split at h
    · next u hu =>
      cases h
      rw [token?_some hu]
      exact ⟨scanScalar_false _ r, fun d hd => hd⟩
    · split at h
      · next u hu =>
        cases h
        rw [token?_some hu]
        exact ⟨scanScalar_null _ r, fun d hd => hd⟩
      · split_ifs at h
        obtain ⟨sign, ds, rfl, ht, hn, hf, hv⟩ := (numberValue_iff _).1 h
        obtain ⟨-, hs, rfl⟩ := (ht.integer_iff v).1 hv
        refine ⟨?_, fun d hd => ⟨hd, hs⟩⟩
        rw [scanScalar, scanToken_integer ht]
        simp only [scanNumber, scanInteger_token ht hn, scanFraction_noFloat hf, scanExponent_noFloat hf]
        change (Python.integer _).map _ = _
        rw [hv]
        rfl

theorem scanNumber_strict {s r : List Char} {v : Json} (h : scanNumber Python.strictHooks s = .ok (v, r)) :
    ∃ t, scanInteger s = some (t, r) ∧ Python.integer t = .ok v := by
  unfold scanNumber at h
  split at h
  · cases h
  · next t u hi =>
    split at h
    · split at h <;> (obtain ⟨_, ha, -⟩ := map_ok h; cases ha)
    · split at h
      · obtain ⟨_, ha, -⟩ := map_ok h
        cases ha
      · obtain ⟨w, hw, he⟩ := map_ok h
        cases he
        exact ⟨t, hi, hw⟩

theorem scalarValue_complete (text : List Char) {s r : List Char} {v : Json}
    (h : scanScalar Python.strictHooks s = .ok (v, r)) (hr : Follow r) :
    Node.scalarValue text s = .ok (v, r) := by
  unfold scanScalar scanToken at h
  split at h
  · next x hx =>
    split at hx
    · next u hu =>
      cases hx
      cases h
      rw [token?_some hu]
      simp [Node.scalarValue, token?]
    · split at hx
      · next u hu =>
        cases hx
        cases h
        rw [token?_some hu]
        simp [Node.scalarValue, token?]
      · split at hx
        · next u hu =>
          cases hx
          cases h
          rw [token?_some hu]
          simp [Node.scalarValue, token?]
        -- the three constants of `parse_constant` are refused
        · split at hx
          · cases hx; cases h
          · split at hx
            · cases hx; cases h
            · split at hx
              · cases hx; cases h
              · cases hx
  · obtain ⟨t, hi, hv⟩ := scanNumber_strict h
    obtain ⟨sign, ds, rfl, rfl, ht⟩ := token_of_scanInteger hi
    have hnum := (numberValue_iff text).2 ⟨sign, ds, rfl, ht, hr.noDigit, hr.noFloat, hv⟩
    have hw (w : List Char) (hw : w ∈ ["true".toList, "false".toList, "null".toList]) :
        token? w (sign ++ (ds ++ r)) = none := by
      simp only [List.mem_cons, List.not_mem_nil, or_false] at hw
      rcases hw with rfl | rfl | rfl <;> exact token?_integer ht (by decide) (by decide)
    have hstart : ((sign ++ (ds ++ r)).head?.map fun c => c = '-' || c.isDigit).getD false = true := by
      obtain ⟨d, ds', rfl, -⟩ := ht.cons
      have hd := ht.digit d (by simp)
      rcases ht.signed with rfl | rfl <;> simp [hd]
    rw [Node.scalarValue, hw _ (by simp), hw _ (by simp), hw _ (by simp)]
    simp only [hstart, if_true]
    exact hnum

end VapEvidence.Evidence

import VapEvidence.BoundedJson
import VapEvidence.Delimited

set_option autoImplicit false

/-!
# What JSON text determines

Texts of `json.dumps` that agree up to a delimiter are texts of one value, with its
types: for every way to write floats that reads back and looks like no integer.
-/
namespace VapEvidence
open Json Delimited

/-! ## Floats -/

/-- `math.isfinite` of the bits of a float. -/
def isFinite (b : UInt64) : Bool := (b >>> 52) &&& 0x7ff ≠ 0x7ff

/-- The characters of a number. -/
def isNumberChar (c : Char) : Bool := c.isDigit || ['-', '+', '.', 'e'].contains c

/-- What `repr` of a float is: a text of a number with a point or an exponent, which `float` reads back. -/
structure ReprReads (floatRepr : UInt64 → List Char) (floatOf : List Char → UInt64) : Prop where
  reads : ∀ b, isFinite b → floatOf (floatRepr b) = b
  number : ∀ b, isFinite b → (floatRepr b).all isNumberChar = true
  marked : ∀ b, isFinite b → ∃ c ∈ floatRepr b, c = '.' ∨ c = 'e'

mutual
/-- Every float of the value is finite. -/
def Finite : Json → Prop
  | .float b => isFinite b = true
  | .arr xs => FiniteElems xs
  | .obj ms => FiniteMembers ms
  | _ => True
def FiniteElems : List Json → Prop
  | [] => True
  | x :: xs => Finite x ∧ FiniteElems xs
def FiniteMembers : List (String × Json) → Prop
  | [] => True
  | (_, x) :: ms => Finite x ∧ FiniteMembers ms
end

/-! ## First characters -/

/-- The kind of a value, as its first character shows it. -/
def classOf : Json → ℕ
  | .null => 0
  | .bool true => 1
  | .bool false => 2
  | .int _ => 3
  | .float _ => 3
  | .str _ => 4
  | .arr _ => 5
  | .obj _ => 6

def classOfChar (c : Char) : ℕ :=
  if c = 'n' then 0 else if c = 't' then 1 else if c = 'f' then 2 else if c = '"' then 4 else if c = '[' then 5
  else if c = '{' then 6 else if isNumberChar c then 3 else 7

theorem classOfChar_number {c : Char} (h : isNumberChar c = true) : classOfChar c = 3 := by
  have hne (d : Char) (hd : isNumberChar d = false) : c ≠ d := fun he => by
    rw [he, hd] at h
    cases h
  rw [classOfChar, if_neg (hne 'n' (by decide)), if_neg (hne 't' (by decide)), if_neg (hne 'f' (by decide)),
    if_neg (hne '"' (by decide)), if_neg (hne '[' (by decide)), if_neg (hne '{' (by decide)), if_pos h]

section
variable {floatRepr : UInt64 → List Char} {floatOf : List Char → UInt64}

theorem dumpInt_number {n : ℤ} {c : Char} (h : c ∈ dumpInt n) : c.isDigit = true ∨ c = '-' := by
  unfold dumpInt at h
  split_ifs at h
  · rcases List.mem_cons.1 h with rfl | h
    · exact Or.inr rfl
    · exact Or.inl (toDigits_isDigit _ c h)
  · exact Or.inl (toDigits_isDigit _ c h)

theorem dumpInt_ne_nil (n : ℤ) : dumpInt n ≠ [] := by
  unfold dumpInt
  split_ifs
  · exact List.cons_ne_nil _ _
  · exact Nat.toDigits_ne_nil

/-- The text of a number. -/
theorem number_text (hrepr : ReprReads floatRepr floatOf) (ascii : Bool) {v : Json} (hv : Finite v) (hk : classOf v = 3) :
    dumps floatRepr ascii v ≠ [] ∧ ∀ c ∈ dumps floatRepr ascii v, isNumberChar c = true := by
  cases v with
  | int n =>
    rw [dumps]
    refine ⟨dumpInt_ne_nil n, fun c hc => ?_⟩
    rcases dumpInt_number hc with h | rfl
    · rw [isNumberChar, h, Bool.true_or]
    · decide
  | float b =>
    rw [dumps]
    refine ⟨?_, List.all_eq_true.1 (hrepr.number b hv)⟩
    obtain ⟨c, hc, -⟩ := hrepr.marked b hv
    exact List.ne_nil_of_mem hc
  | bool b => cases b <;> cases hk
  | _ => cases hk

theorem dumps_kind (hrepr : ReprReads floatRepr floatOf) (ascii : Bool) {v : Json} (hv : Finite v) :
    ∃ c t, dumps floatRepr ascii v = c :: t ∧ classOfChar c = classOf v := by
  have hnumber (hk : classOf v = 3) : ∃ c t, dumps floatRepr ascii v = c :: t ∧ classOfChar c = classOf v := by
    obtain ⟨hne, hall⟩ := number_text hrepr ascii hv hk
    obtain ⟨c, t, he⟩ := List.exists_cons_of_ne_nil hne
    exact ⟨c, t, he, hk ▸ classOfChar_number (hall c (he ▸ List.mem_cons_self))⟩
  cases v with
  | null => exact ⟨_, _, rfl, rfl⟩
  | bool b => cases b <;> exact ⟨_, _, rfl, rfl⟩
  | int n => exact hnumber rfl
  | float b => exact hnumber rfl
  | str s => exact ⟨'"', _, rfl, rfl⟩
  | arr xs =>
    cases xs with
    | nil => exact ⟨'[', _, rfl, rfl⟩
    | cons x xs => exact ⟨'[', _, rfl, rfl⟩
  | obj ms =>
    cases ms with
    | nil => exact ⟨'{', _, rfl, rfl⟩
    | cons m ms => exact ⟨'{', _, rfl, rfl⟩

/-! ## Values -/

/-- What may follow a value in a text. -/
def Ends (s : List Char) : Prop := ∀ c ∈ s.head?, c = ',' ∨ c = ']' ∨ c = '}'

theorem Ends.rest {s : List Char} (h : Ends s) : ∀ c ∈ s.head?, isNumberChar c = false := by
  intro c hc
  rcases h c hc with rfl | rfl | rfl <;> decide

theorem ends_nil : Ends [] := fun _ h => by cases h

theorem ends_elems (ascii : Bool) (xs : List Json) (s : List Char) : Ends (dumpElems floatRepr ascii xs ++ s) := by
  intro c hc
  cases xs <;> cases hc <;> simp

theorem ends_members (ascii : Bool) (ms : List (String × Json)) (s : List Char) :
    Ends (dumpMembers floatRepr ascii ms ++ s) := by
  intro c hc
  cases ms <;> cases hc <;> simp

theorem number_cut (hrepr : ReprReads floatRepr floatOf) (ascii : Bool) {v w : Json} (hv : Finite v) (hw : Finite w)
    (hkv : classOf v = 3) (hkw : classOf w = 3) {s t : List Char} (hs : Ends s) (ht : Ends t)
    (h : dumps floatRepr ascii v ++ s = dumps floatRepr ascii w ++ t) : v = w ∧ s = t := by
  obtain ⟨htext, hrest⟩ := span_unique (number_text hrepr ascii hv hkv).2 (number_text hrepr ascii hw hkw).2 hs.rest ht.rest h
  refine ⟨?_, hrest⟩
  have hmixed {n : ℤ} {b : UInt64} (hb : isFinite b = true) : dumpInt n ≠ floatRepr b := by
    intro he
    obtain ⟨c, hc, hmark⟩ := hrepr.marked b hb
    rcases dumpInt_number (he ▸ hc) with hd | rfl
    · rcases hmark with rfl | rfl <;> cases hd
    · rcases hmark with hm | hm <;> cases hm
  cases v with
  | int n =>
    cases w with
    | int m =>
      rw [dumps, dumps] at htext
      rw [← intToken_dumpInt n, htext, intToken_dumpInt m]
    | float b => exact absurd htext (hmixed hw)
    | bool b => cases b <;> cases hkw
    | _ => cases hkw
  | float b =>
    cases w with
    | int m => exact absurd htext.symm (hmixed hv)
    | float b' =>
      rw [dumps, dumps] at htext
      rw [← hrepr.reads b hv, htext, hrepr.reads b' hw]
    | bool b => cases b <;> cases hkw
    | _ => cases hkw
  | bool b => cases b <;> cases hkv
  | _ => cases hkv

theorem dumpString_cut (ascii : Bool) {a b : String} {s t : List Char} (h : dumpString ascii a ++ s = dumpString ascii b ++ t) :
    a = b ∧ s = t := by
  obtain ⟨u, hu, hscan⟩ := scanString_dumpString ascii a s
  obtain ⟨w, hw, hscan'⟩ := scanString_dumpString ascii b t
  have huw : u = w := (List.cons.inj (hu.symm.trans (h.trans hw))).2
  rw [huw, hscan'] at hscan
  obtain ⟨hab, hst⟩ := Prod.mk.inj (Option.some.inj hscan)
  exact ⟨(String.toList_injective hab).symm, hst.symm⟩

theorem classOf_le (v : Json) : classOf v ≤ 6 := by
  cases v with
  | bool b => cases b <;> decide
  | _ => simp [classOf]

theorem dumps_ne_close (hrepr : ReprReads floatRepr floatOf) (ascii : Bool) {v : Json} (hv : Finite v) (s t : List Char) :
    dumps floatRepr ascii v ++ s ≠ ']' :: t := by
  intro h
  obtain ⟨c, u, hc, hk⟩ := dumps_kind hrepr ascii hv
  rw [hc] at h
  have hle := classOf_le v
  rw [← hk, (List.cons.inj h).1] at hle
  exact absurd hle (by decide)

mutual
/-- Texts that agree up to a delimiter are texts of one value. -/
theorem dumps_cut (hrepr : ReprReads floatRepr floatOf) (ascii : Bool) : ∀ (v w : Json) (s t : List Char), Finite v →
    Finite w → Ends s → Ends t → dumps floatRepr ascii v ++ s = dumps floatRepr ascii w ++ t → v = w ∧ s = t
  | v, w, s, t, hv, hw, hs, ht, h => by
    have hkind : classOf v = classOf w := by
      obtain ⟨c, u, hc, hk⟩ := dumps_kind hrepr ascii hv
      obtain ⟨d, u', hd, hk'⟩ := dumps_kind hrepr ascii hw
      rw [hc, hd] at h
      rw [← hk, ← hk', (List.cons.inj h).1]
    match v, w, hv, hw, hkind, h with
    | .null, .null, _, _, _, h => exact ⟨rfl, List.append_cancel_left h⟩
    | .bool true, .bool true, _, _, _, h => exact ⟨rfl, List.append_cancel_left h⟩
    | .bool false, .bool false, _, _, _, h => exact ⟨rfl, List.append_cancel_left h⟩
    | .int n, .int m, hv, hw, _, h => exact number_cut hrepr ascii hv hw rfl rfl hs ht h
    | .int n, .float b, hv, hw, _, h => exact number_cut hrepr ascii hv hw rfl rfl hs ht h
    | .float b, .int m, hv, hw, _, h => exact number_cut hrepr ascii hv hw rfl rfl hs ht h
    | .float b, .float b', hv, hw, _, h => exact number_cut hrepr ascii hv hw rfl rfl hs ht h
    | .str a, .str b, _, _, _, h =>
      obtain ⟨rfl, hst⟩ := dumpString_cut ascii h
      exact ⟨rfl, hst⟩
    | .arr [], .arr [], _, _, _, h => exact ⟨rfl, List.append_cancel_left h⟩
    | .arr (x :: xs), .arr (y :: ys), hv, hw, _, h =>
      rw [dumps, dumps, List.cons_append, List.cons_append, List.append_assoc, List.append_assoc] at h
      obtain ⟨rfl, htail⟩ := dumps_cut hrepr ascii x y _ _ hv.1 hw.1 (ends_elems ascii xs s) (ends_elems ascii ys t)
        (List.cons.inj h).2
      obtain ⟨rfl, hst⟩ := elems_cut hrepr ascii xs ys s t hv.2 hw.2 htail
      exact ⟨rfl, hst⟩
    | .arr [], .arr (y :: ys), _, hw, _, h =>
      simp only [dumps, List.cons_append, List.append_assoc] at h
      exact absurd (List.cons.inj h).2.symm (dumps_ne_close hrepr ascii hw.1 _ _)
    | .arr (x :: xs), .arr [], hv, _, _, h =>
      simp only [dumps, List.cons_append, List.append_assoc] at h
      exact absurd (List.cons.inj h).2 (dumps_ne_close hrepr ascii hv.1 _ _)
    | .obj [], .obj [], _, _, _, h => exact ⟨rfl, List.append_cancel_left h⟩
    | .obj ((k, x) :: ms), .obj ((l, y) :: ns), hv, hw, _, h =>
      rw [dumps, dumps, List.cons_append, List.cons_append, List.append_assoc, List.append_assoc] at h
      obtain ⟨rfl, hmember⟩ := dumpString_cut ascii (List.cons.inj h).2
      rw [List.cons_append, List.cons_append, List.append_assoc, List.append_assoc] at hmember
      obtain ⟨rfl, htail⟩ := dumps_cut hrepr ascii x y _ _ hv.1 hw.1 (ends_members ascii ms s) (ends_members ascii ns t)
        (List.cons.inj hmember).2
      obtain ⟨rfl, hst⟩ := members_cut hrepr ascii ms ns s t hv.2 hw.2 htail
      exact ⟨rfl, hst⟩
    | .obj [], .obj ((l, y) :: ns), _, _, _, h =>
      rw [dumps, dumps, dumpString] at h
      exact absurd (List.cons.inj (List.cons.inj h).2).1 (by decide)
    | .obj ((k, x) :: ms), .obj [], _, _, _, h =>
      rw [dumps, dumps, dumpString] at h
      exact absurd (List.cons.inj (List.cons.inj h).2).1 (by decide)
theorem elems_cut (hrepr : ReprReads floatRepr floatOf) (ascii : Bool) : ∀ (xs ys : List Json) (s t : List Char),
    FiniteElems xs → FiniteElems ys → dumpElems floatRepr ascii xs ++ s = dumpElems floatRepr ascii ys ++ t →
    xs = ys ∧ s = t
  | [], [], _, _, _, _, h => ⟨rfl, List.append_cancel_left h⟩
  | x :: xs, y :: ys, s, t, hx, hy, h => by
    rw [dumpElems, dumpElems, List.cons_append, List.cons_append, List.append_assoc, List.append_assoc] at h
    obtain ⟨rfl, htail⟩ := dumps_cut hrepr ascii x y _ _ hx.1 hy.1 (ends_elems ascii xs s) (ends_elems ascii ys t)
      (List.cons.inj h).2
    obtain ⟨rfl, hst⟩ := elems_cut hrepr ascii xs ys s t hx.2 hy.2 htail
    exact ⟨rfl, hst⟩
  | [], y :: ys, _, _, _, _, h => absurd (List.cons.inj h).1 (by decide)
  | x :: xs, [], _, _, _, _, h => absurd (List.cons.inj h).1 (by decide)
theorem members_cut (hrepr : ReprReads floatRepr floatOf) (ascii : Bool) : ∀ (ms ns : List (String × Json))
    (s t : List Char), FiniteMembers ms → FiniteMembers ns →
    dumpMembers floatRepr ascii ms ++ s = dumpMembers floatRepr ascii ns ++ t → ms = ns ∧ s = t
  | [], [], _, _, _, _, h => ⟨rfl, List.append_cancel_left h⟩
  | (k, x) :: ms, (l, y) :: ns, s, t, hx, hy, h => by
    rw [dumpMembers, dumpMembers, List.cons_append, List.cons_append, List.append_assoc, List.append_assoc] at h
    obtain ⟨rfl, hmember⟩ := dumpString_cut ascii (List.cons.inj h).2
    rw [List.cons_append, List.cons_append, List.append_assoc, List.append_assoc] at hmember
    obtain ⟨rfl, htail⟩ := dumps_cut hrepr ascii x y _ _ hx.1 hy.1 (ends_members ascii ms s) (ends_members ascii ns t)
      (List.cons.inj hmember).2
    obtain ⟨rfl, hst⟩ := members_cut hrepr ascii ms ns s t hx.2 hy.2 htail
    exact ⟨rfl, hst⟩
  | [], (l, y) :: ns, _, _, _, _, h => absurd (List.cons.inj h).1 (by decide)
  | (k, x) :: ms, [], _, _, _, _, h => absurd (List.cons.inj h).1 (by decide)
end

/-- The text of a value determines it. -/
theorem dumps_injective (hrepr : ReprReads floatRepr floatOf) (ascii : Bool) {v w : Json} (hv : Finite v) (hw : Finite w)
    (h : dumps floatRepr ascii v = dumps floatRepr ascii w) : v = w := by
  refine (dumps_cut hrepr ascii v w [] [] hv hw ends_nil ends_nil ?_).1
  rw [List.append_nil, List.append_nil, h]

/-! ## Characters -/

/-- A printable character of ASCII. -/
def isAsciiText (c : Char) : Bool := 32 ≤ c.toNat && c.toNat ≤ 126

theorem hexDigit_isAsciiText : ∀ n < 16, isAsciiText (hexDigit n) = true := by decide

theorem escapeUnit_isAsciiText {n : ℕ} (h : n < 65536) : ∀ c ∈ escapeUnit n, isAsciiText c = true := by
  simp only [escapeUnit, List.forall_mem_cons]
  exact ⟨by decide, by decide, hexDigit_isAsciiText _ (by omega), hexDigit_isAsciiText _ (by omega),
    hexDigit_isAsciiText _ (by omega), hexDigit_isAsciiText _ (by omega), fun _ h => absurd h List.not_mem_nil⟩

theorem escapeChar_isAsciiText (d : Char) : ∀ c ∈ escapeChar true d, isAsciiText c = true := by
  have hchar : d.toNat < 55296 ∨ (57343 < d.toNat ∧ d.toNat < 1114112) := d.valid
  unfold escapeChar
  iterate 7
    split
    · exact Delimited.forall_mem_of_all (by decide)
  by_cases hlow : d.toNat < 32
  · rw [if_pos hlow]
    exact escapeUnit_isAsciiText (by omega)
  · rw [if_neg hlow]
    by_cases hascii : 126 < d.toNat
    · rw [if_pos ⟨rfl, hascii⟩]
      by_cases hunit : d.toNat < 65536
      · rw [if_pos hunit]
        exact escapeUnit_isAsciiText hunit
      · rw [if_neg hunit, List.forall_mem_append]
        exact ⟨escapeUnit_isAsciiText (by omega), escapeUnit_isAsciiText (by omega)⟩
    · rw [if_neg fun h => hascii h.2, List.forall_mem_singleton, isAsciiText, Bool.and_eq_true, decide_eq_true_eq,
        decide_eq_true_eq]
      exact ⟨Nat.not_lt.1 hlow, Nat.not_lt.1 hascii⟩

theorem dumpString_isAsciiText (s : String) : ∀ c ∈ dumpString true s, isAsciiText c = true := by
  intro c hc
  simp only [dumpString, List.mem_append, List.mem_cons, List.mem_flatMap, List.not_mem_nil, or_false] at hc
  rcases hc with (rfl | ⟨d, -, hd⟩) | rfl
  · decide
  · exact escapeChar_isAsciiText d c hd
  · decide

theorem number_isAsciiText {c : Char} (h : isNumberChar c = true) : isAsciiText c = true := by
  rw [isNumberChar, Bool.or_eq_true] at h
  rcases h with h | h
  · rw [Char.isDigit_iff_toNat] at h
    have hzero : '0'.toNat = 48 := rfl
    have hnine : '9'.toNat = 57 := rfl
    rw [isAsciiText, Bool.and_eq_true, decide_eq_true_eq, decide_eq_true_eq]
    exact ⟨by omega, by omega⟩
  · simp only [List.contains_cons, List.contains_nil, Bool.or_false, Bool.or_eq_true, beq_iff_eq] at h
    rcases h with rfl | rfl | rfl | rfl <;> decide

mutual
theorem dumps_isAsciiText (hrepr : ReprReads floatRepr floatOf) : ∀ v : Json, Finite v →
    ∀ c ∈ dumps floatRepr true v, isAsciiText c = true
  | .null, _ => by rw [dumps]; exact Delimited.forall_mem_of_all (by decide)
  | .bool true, _ => by rw [dumps]; exact Delimited.forall_mem_of_all (by decide)
  | .bool false, _ => by rw [dumps]; exact Delimited.forall_mem_of_all (by decide)
  | .int n, hv => fun c hc => number_isAsciiText ((number_text hrepr true hv rfl).2 c hc)
  | .float b, hv => fun c hc => number_isAsciiText ((number_text hrepr true hv rfl).2 c hc)
  | .str s, _ => dumpString_isAsciiText s
  | .arr [], _ => by rw [dumps]; exact Delimited.forall_mem_of_all (by decide)
  | .arr (x :: xs), hv => by
    rw [dumps, List.forall_mem_cons, List.forall_mem_append]
    exact ⟨by decide, dumps_isAsciiText hrepr x hv.1, elems_isAsciiText hrepr xs hv.2⟩
  | .obj [], _ => by rw [dumps]; exact Delimited.forall_mem_of_all (by decide)
  | .obj ((k, x) :: ms), hv => by
    rw [dumps, List.forall_mem_cons, List.forall_mem_append, List.forall_mem_cons, List.forall_mem_append]
    exact ⟨by decide, dumpString_isAsciiText k, by decide, dumps_isAsciiText hrepr x hv.1,
      members_isAsciiText hrepr ms hv.2⟩
theorem elems_isAsciiText (hrepr : ReprReads floatRepr floatOf) : ∀ xs : List Json, FiniteElems xs →
    ∀ c ∈ dumpElems floatRepr true xs, isAsciiText c = true
  | [], _ => by rw [dumpElems]; exact Delimited.forall_mem_of_all (by decide)
  | x :: xs, hv => by
    rw [dumpElems, List.forall_mem_cons, List.forall_mem_append]
    exact ⟨by decide, dumps_isAsciiText hrepr x hv.1, elems_isAsciiText hrepr xs hv.2⟩
theorem members_isAsciiText (hrepr : ReprReads floatRepr floatOf) : ∀ ms : List (String × Json), FiniteMembers ms →
    ∀ c ∈ dumpMembers floatRepr true ms, isAsciiText c = true
  | [], _ => by rw [dumpMembers]; exact Delimited.forall_mem_of_all (by decide)
  | (k, x) :: ms, hv => by
    rw [dumpMembers, List.forall_mem_cons, List.forall_mem_append, List.forall_mem_cons, List.forall_mem_append]
    exact ⟨by decide, dumpString_isAsciiText k, by decide, dumps_isAsciiText hrepr x hv.1,
      members_isAsciiText hrepr ms hv.2⟩
end

end
end VapEvidence

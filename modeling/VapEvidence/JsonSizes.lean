import VapEvidence.BoundedJson
import Mathlib.Data.Nat.Digits.Defs

set_option autoImplicit false

/-!
# The size of canonical JSON

How many bytes a value takes when it is written, bounded by the sizes of its parts,
and when a dictionary stays inside the bounds of a JSON subset.
-/
namespace VapEvidence.Json

section Sizes
variable (floatRepr : UInt64 → List Char)

def size (v : Json) : ℕ := (encodeUtf8 (dumps floatRepr false v)).length

def textSize (s : String) : ℕ := (encodeUtf8 (dumpString false s)).length

/-- A key, its colon, a value, and one separator or brace. -/
def memberSize (m : String × Json) : ℕ := textSize m.1 + size floatRepr m.2 + 2

variable {floatRepr}

theorem length_encodeUtf8_append (s t : List Char) :
    (encodeUtf8 (s ++ t)).length = (encodeUtf8 s).length + (encodeUtf8 t).length := by
  rw [encodeUtf8_append, List.length_append]

theorem length_encodeUtf8_cons (c : Char) (s : List Char) :
    (encodeUtf8 (c :: s)).length = (encodeUtf8 [c]).length + (encodeUtf8 s).length :=
  length_encodeUtf8_append [c] s

theorem length_encodeUtf8_ascii {s : List Char} (h : ∀ c ∈ s, c.toNat < 128) :
    (encodeUtf8 s).length = s.length := by
  induction s with
  | nil => rfl
  | cons c s ih =>
    have hc : (encodeUtf8 [c]).length = 1 := by
      rw [encodeUtf8, List.flatMap_singleton, encodeUtf8_ascii c (h c List.mem_cons_self)]
      rfl
    rw [length_encodeUtf8_cons, hc, ih fun d hd => h d (List.mem_cons_of_mem c hd), List.length_cons]
    omega

theorem length_encodeUtf8_le (s : List Char) : (encodeUtf8 s).length ≤ 4 * s.length := by
  induction s with
  | nil => exact Nat.zero_le _
  | cons c s ih =>
    have hc : (encodeUtf8 [c]).length ≤ 4 := by
      rw [encodeUtf8, List.flatMap_singleton, String.length_utf8EncodeChar]
      exact Char.utf8Size_le_four c
    rw [length_encodeUtf8_cons, List.length_cons]
    omega

theorem escapeChar_printable {c : Char} (hlow : 32 ≤ c.toNat) (hq : c ≠ '"') (hb : c ≠ '\\') :
    escapeChar false c = [c] := by
  have hn (d : Char) (hd : d.toNat < 32) : c ≠ d := by
    rintro rfl
    omega
  unfold escapeChar
  rw [if_neg hq, if_neg hb, if_neg (hn '\n' (by decide)), if_neg (hn '\r' (by decide)),
    if_neg (hn '\t' (by decide)), if_neg (hn '\x08' (by decide)), if_neg (hn '\x0c' (by decide)),
    if_neg (not_lt.2 hlow), if_neg (by simp)]

theorem le_length_encodeUtf8 (s : List Char) : s.length ≤ (encodeUtf8 s).length := by
  induction s with
  | nil => exact Nat.zero_le _
  | cons c s ih =>
    have hc : 1 ≤ (encodeUtf8 [c]).length := by
      rw [encodeUtf8, List.flatMap_singleton, String.length_utf8EncodeChar]
      exact Char.utf8Size_pos c
    rw [length_encodeUtf8_cons, List.length_cons]
    omega

/-- Printable characters take at most four bytes, escaped or not. -/
theorem length_escapeChar_le {c : Char} (h : 32 ≤ c.toNat) : (encodeUtf8 (escapeChar false c)).length ≤ 4 := by
  by_cases hq : c = '"'
  · subst c
    decide
  by_cases hb : c = '\\'
  · subst c
    decide
  rw [escapeChar_printable h hq hb]
  exact length_encodeUtf8_le [c]

theorem textSize_eq (s : String) :
    textSize s = (encodeUtf8 (s.toList.flatMap (escapeChar false))).length + 2 := by
  have hq : (encodeUtf8 ['"']).length = 1 := by decide
  rw [textSize, dumpString, List.cons_append, length_encodeUtf8_cons, length_encodeUtf8_append, hq]
  omega

theorem textSize_le {s : String} (h : ∀ c ∈ s.toList, 32 ≤ c.toNat) : textSize s ≤ 4 * s.length + 2 := by
  have hall : ∀ l : List Char, (∀ c ∈ l, 32 ≤ c.toNat) →
      (encodeUtf8 (l.flatMap (escapeChar false))).length ≤ 4 * l.length := by
    intro l hl
    induction l with
    | nil => exact Nat.zero_le _
    | cons c l ih =>
      have hc := length_escapeChar_le (hl c List.mem_cons_self)
      have hrest := ih fun d hd => hl d (List.mem_cons_of_mem c hd)
      rw [List.flatMap_cons, length_encodeUtf8_append, List.length_cons]
      omega
  have := hall s.toList h
  rw [String.length_toList] at this
  rw [textSize_eq]
  omega

/-- Characters that JSON writes as themselves, in one byte each. -/
def plainChar (c : Char) : Bool := 32 ≤ c.toNat && c.toNat < 128 && c ≠ '"' && c ≠ '\\'

theorem escapeChar_plain {c : Char} (h : plainChar c = true) : escapeChar false c = [c] := by
  simp only [plainChar, Bool.and_eq_true, decide_eq_true_eq] at h
  exact escapeChar_printable h.1.1.1 h.1.2 h.2

theorem textSize_plain {s : String} (h : s.toList.all plainChar = true) : textSize s = s.length + 2 := by
  have hall := List.all_eq_true.1 h
  have hself : s.toList.flatMap (escapeChar false) = s.toList := by
    rw [List.flatMap_congr fun c hc => escapeChar_plain (hall c hc)]
    exact List.flatMap_singleton' s.toList
  have hascii : ∀ c ∈ s.toList, c.toNat < 128 := by
    intro c hc
    have := hall c hc
    simp only [plainChar, Bool.and_eq_true, decide_eq_true_eq] at this
    exact this.1.1.2
  rw [textSize_eq, hself, length_encodeUtf8_ascii hascii, String.length_toList]

theorem size_str (s : String) : size floatRepr (.str s) = textSize s := rfl

theorem toDigits_ascii (n : ℕ) : ∀ c ∈ Nat.toDigits 10 n, c.toNat < 128 := by
  intro c hc
  have := (Char.isDigit_iff_toNat.1 (Nat.isDigit_of_mem_toDigits (by decide) (by decide) hc)).2
  have h9 : '9'.toNat = 57 := by decide
  omega

theorem size_int_le {n : ℤ} {k : ℕ} (hk : 0 < k) (h : n.natAbs < 10 ^ k) : size floatRepr (.int n) ≤ k + 1 := by
  have hd := (Nat.length_toDigits_le_iff (by decide) hk).2 h
  rw [size, dumps, dumpInt]
  split_ifs
  · have hm : (encodeUtf8 ['-']).length = 1 := by decide
    rw [length_encodeUtf8_cons, length_encodeUtf8_ascii (toDigits_ascii _), hm]
    omega
  · rw [length_encodeUtf8_ascii (toDigits_ascii _)]
    omega

theorem length_dumpMembers (ms : List (String × Json)) :
    (encodeUtf8 (dumpMembers floatRepr false ms)).length = (ms.map (memberSize floatRepr)).sum + 1 := by
  have hc : (encodeUtf8 [',']).length = 1 := by decide
  have hs : (encodeUtf8 [':']).length = 1 := by decide
  have hb : (encodeUtf8 ['\x7d']).length = 1 := by decide
  induction ms with
  | nil => exact hb
  | cons m ms ih =>
    obtain ⟨k, x⟩ := m
    rw [dumpMembers, length_encodeUtf8_cons ',', length_encodeUtf8_append, length_encodeUtf8_cons ':',
      length_encodeUtf8_append, ih, hc, hs, List.map_cons, List.sum_cons, memberSize, textSize, size]
    dsimp only
    omega

theorem size_obj_le (ms : List (String × Json)) :
    size floatRepr (.obj ms) ≤ (ms.map (memberSize floatRepr)).sum + 2 := by
  have hs : (encodeUtf8 [':']).length = 1 := by decide
  have hb : (encodeUtf8 ['\x7b']).length = 1 := by decide
  cases ms with
  | nil => exact Nat.le_of_eq (by decide : (encodeUtf8 ['\x7b', '\x7d']).length = 2)
  | cons m ms =>
    obtain ⟨k, x⟩ := m
    rw [size, dumps, length_encodeUtf8_cons '\x7b', length_encodeUtf8_append, length_encodeUtf8_cons ':',
      length_encodeUtf8_append, length_dumpMembers, hb, hs, List.map_cons, List.sum_cons, memberSize, textSize, size]
    dsimp only
    omega

/-- An object that is not empty takes its members and one brace. -/
theorem size_obj_cons (m : String × Json) (ms : List (String × Json)) :
    size floatRepr (.obj (m :: ms)) = ((m :: ms).map (memberSize floatRepr)).sum + 1 := by
  obtain ⟨k, v⟩ := m
  rw [← length_dumpMembers, size, dumps, dumpMembers, length_encodeUtf8_cons, length_encodeUtf8_cons ',']
  rfl

theorem length_dumpElems (xs : List Json) : (encodeUtf8 (dumpElems floatRepr false xs)).length =
    (xs.map fun x => size floatRepr x + 1).sum + 1 := by
  have hc : (encodeUtf8 [',']).length = 1 := by decide
  induction xs with
  | nil => rfl
  | cons x xs ih =>
    rw [dumpElems, length_encodeUtf8_cons, length_encodeUtf8_append, ih, List.map_cons, List.sum_cons, hc, size]
    omega

/-- How long an array is does not depend on the order of its elements. -/
theorem size_arr_perm {xs ys : List Json} (h : xs.Perm ys) : size floatRepr (.arr xs) = size floatRepr (.arr ys) := by
  have hsize (zs : List Json) (hne : zs ≠ []) :
      size floatRepr (.arr zs) = (zs.map fun z => size floatRepr z + 1).sum + 1 := by
    cases zs with
    | nil => exact absurd rfl hne
    | cons z zs =>
      rw [← length_dumpElems, size, dumps, dumpElems, length_encodeUtf8_cons, length_encodeUtf8_cons ',']
      rfl
  by_cases hne : xs = []
  · subst hne
    rw [List.nil_perm.1 h]
  · rw [hsize xs hne, hsize ys fun hy => hne (List.perm_nil.1 (hy ▸ h)), (h.map _).sum_nat]

theorem sum_insertKey_le (f : String × Json → ℕ) (k : String) (v : Json) (ms : List (String × Json)) :
    ((insertKey k v ms).map f).sum ≤ f (k, v) + (ms.map f).sum := by
  induction ms with
  | nil => exact Nat.le_refl _
  | cons m ms ih =>
    obtain ⟨l, w⟩ := m
    rw [insertKey]
    split_ifs
    · simp only [List.map_cons, List.sum_cons]
      omega
    · simp only [List.map_cons, List.sum_cons]
      omega
    · simp only [List.map_cons, List.sum_cons]
      omega

theorem sum_insertAll_le (f : String × Json → ℕ) (ps ms : List (String × Json)) :
    ((insertAll ps ms).map f).sum ≤ (ps.map f).sum + (ms.map f).sum := by
  induction ps generalizing ms with
  | nil => exact Nat.le_of_eq (Nat.zero_add _).symm
  | cons p ps ih =>
    obtain ⟨k, v⟩ := p
    have hi := sum_insertKey_le f k v ms
    have hrest := ih (insertKey k v ms)
    rw [List.map_cons, List.sum_cons]
    change ((insertAll ps (insertKey k v ms)).map f).sum ≤ _
    omega

/-- A dictionary is no larger than the sum of its entries. -/
theorem size_dict_le (ps : List (String × Json)) :
    size floatRepr (dict ps) ≤ (ps.map (memberSize floatRepr)).sum + 2 := by
  have := sum_insertAll_le (memberSize floatRepr) ps []
  refine (size_obj_le _).trans ?_
  simpa using this

end Sizes

/-! ## Inside the bounds of a subset -/

section Bounds
variable {py : Platform} {b : JsonBounds}

theorem checkMembers_of_mem {d : ℕ} {ms : List (String × Json)}
    (h : ∀ m ∈ ms, checkString py b d m.1 = .ok () ∧ checkValue py b d m.2 = .ok ()) :
    checkMembers py b d ms = .ok () := by
  induction ms with
  | nil => rfl
  | cons m ms ih =>
    obtain ⟨k, x⟩ := m
    obtain ⟨hk, hx⟩ := h (k, x) List.mem_cons_self
    rw [checkMembers, hk, hx, ih fun m hm => h m (List.mem_cons_of_mem _ hm)]
    rfl

theorem checkValue_dict {d : ℕ} {ps : List (String × Json)} (hd : d ≤ b.depth) (hl : ps.length ≤ b.dict)
    (h : ∀ p ∈ ps, checkString py b (d + 1) p.1 = .ok () ∧ checkValue py b (d + 1) p.2 = .ok ()) :
    checkValue py b d (dict ps) = .ok () := by
  have hlen : (insertAll ps []).length ≤ ps.length := by
    have := sum_insertAll_le (fun _ => 1) ps []
    simpa using this
  rw [dict, checkValue, if_neg (not_lt.2 hd), if_neg (not_lt.2 (hlen.trans hl))]
  refine checkMembers_of_mem fun m hm => ?_
  rcases mem_insertAll hm with hm | hm
  · exact h m hm
  · cases hm

theorem checkValue_int {d : ℕ} {n : ℤ} (hd : d ≤ b.depth) (hn : n.natAbs ≤ maxInteger) :
    checkValue py b d (.int n) = .ok () := by
  rw [checkValue, if_neg (not_lt.2 hd), if_neg (not_lt.2 hn)]

theorem checkString_ok {d : ℕ} {s : String} (hd : d ≤ b.depth) (hl : s.length ≤ b.string)
    (hn : py.normalizeNFC s = s) : checkString py b d s = .ok () := by
  rw [checkString, if_neg (not_lt.2 hd), if_neg]
  simp [hn, hl]

theorem canonicalJson_eq {v : Json} (h : checkValue py b 0 v = .ok ()) (hl : size py.floatRepr v ≤ b.document) :
    canonicalJson py b v = .ok (encodeUtf8 (dumps py.floatRepr false v)) := by
  rw [canonicalJson, h]
  exact if_neg (not_lt.2 hl)

theorem canonicalJson_length {v : Json} {raw : Bytes} (h : canonicalJson py b v = .ok raw) :
    raw.length = size py.floatRepr v := by
  rw [(canonicalJson_ok py b h).2.1]
  rfl

end Bounds
end VapEvidence.Json

import VapEvidence.Bytes
import VapEvidence.JsonFields
import VapEvidence.JsonScan

set_option autoImplicit false

/-!
# Bounded canonical JSON

The payment runtime and the payment collector carry one bounded JSON subset with
different bounds. `canonicalJson` writes a value inside its bounds, `loadJson`
reads one, and reading undoes writing.
-/
namespace VapEvidence
open Json

/-- Library functions this development calls and does not define: `hashlib.sha256`,
    `unicodedata.normalize("NFC", _)`, `float.__repr__` and Ed25519. -/
structure Platform where
  sha256 : Bytes → Bytes
  normalizeNFC : String → String
  floatRepr : UInt64 → List Char
  publicKey : Bytes → Bytes
  publicKeyLoads : Bytes → Bool
  sign : Bytes → Bytes → Bytes
  verify : Bytes → Bytes → Bytes → Bool

def maxInteger : ℕ := 9007199254740991

/-- The bounds of one JSON subset and the texts of its errors. -/
structure JsonBounds where
  depth : ℕ
  string : ℕ
  list : ℕ
  dict : ℕ
  document : ℕ
  depthError : String
  integerError : String
  stringError : String
  typeError : String
  documentError : String
  inputError : String

section Codec
variable (py : Platform) (b : JsonBounds)

def checkString (depth : ℕ) (s : String) : Except String Unit :=
  if b.depth < depth then .error b.depthError
  else if b.string < s.length ∨ py.normalizeNFC s ≠ s then .error b.stringError
  else .ok ()

mutual
/-- `_json_value` of the payment runtime, `_value` of the collector. -/
def checkValue (depth : ℕ) : Json → Except String Unit
  | .null => if b.depth < depth then .error b.depthError else .ok ()
  | .bool _ => if b.depth < depth then .error b.depthError else .ok ()
  | .int n =>
    if b.depth < depth then .error b.depthError
    else if maxInteger < n.natAbs then .error b.integerError
    else .ok ()
  | .float _ => if b.depth < depth then .error b.depthError else .error b.typeError
  | .str s => checkString py b depth s
  | .arr xs =>
    if b.depth < depth then .error b.depthError
    else if b.list < xs.length then .error b.typeError
    else checkElems (depth + 1) xs
  | .obj ms =>
    if b.depth < depth then .error b.depthError
    else if b.dict < ms.length then .error b.typeError
    else checkMembers (depth + 1) ms
def checkElems (depth : ℕ) : List Json → Except String Unit
  | [] => .ok ()
  | x :: xs => do checkValue depth x; checkElems depth xs
def checkMembers (depth : ℕ) : List (String × Json) → Except String Unit
  | [] => .ok ()
  | (k, x) :: ms => do checkString py b depth k; checkValue depth x; checkMembers depth ms
end

/-- Dictionaries are held in key order, so `sort_keys` has nothing left to do. -/
def canonicalJson (v : Json) : Except String Bytes := do
  checkValue py b 0 v
  let raw := encodeUtf8 (dumps py.floatRepr false v)
  if b.document < raw.length then .error b.documentError else return raw

def intToken : List Char → ℤ
  | '-' :: ds => -(Nat.ofDigitChars 10 ds 0 : ℤ)
  | ds => Nat.ofDigitChars 10 ds 0

/-- `_pairs`, `_no_float` twice, and Python's own integers. -/
def boundedHooks : Hooks where
  parseInt t := .ok (.int (intToken t))
  parseFloat _ := .error "noninteger_json_number"
  parseConstant _ := .error "noninteger_json_number"
  objectPairs := uniquePairs "duplicate_json_key"

/-- `load_json` on text. -/
def loadJsonText (s : String) : Except String Json := do
  if b.document < s.length then .error b.inputError
  else
    let v ← loads boundedHooks s.toList
    let _ ← canonicalJson py b v
    return v

/-- `load_json` on bytes. -/
def loadJson (raw : Bytes) : Except String Json := do
  if b.document < raw.length then .error b.inputError
  else
    match decodeText raw with
    | none => .error "invalid text encoding"
    | some s =>
      let v ← loads boundedHooks s
      let _ ← canonicalJson py b v
      return v

/-! ## Reading undoes writing -/

theorem intToken_dumpInt (n : ℤ) : intToken (dumpInt n) = n := by
  unfold dumpInt
  split_ifs with h
  · simp only [intToken, Nat.ofDigitChars_ten_toDigits]
    omega
  · cases hd : Nat.toDigits 10 n.natAbs with
    | nil => exact absurd hd Nat.toDigits_ne_nil
    | cons d ds =>
      have hm : d ≠ '-' := by
        rintro rfl
        exact absurd (toDigits_isDigit n.natAbs '-' (by rw [hd]; simp)) (by decide)
      have he : intToken (d :: ds) = Nat.ofDigitChars 10 (d :: ds) 0 := by
        unfold intToken
        split
        · next heq => exact absurd (List.cons.inj heq).1 hm
        · rfl
      rw [he, ← hd, Nat.ofDigitChars_ten_toDigits]
      omega

theorem uniquePairs_sorted (message : String) (ms : List (String × Json)) (h : SortedKeys ms) :
    uniquePairs message ms = .ok (.obj ms) := by
  have hn : (ms.map Prod.fst).Nodup := List.Pairwise.imp ne_of_lt h
  rw [uniquePairs, if_pos hn, dict_sorted h]

mutual
theorem checkValue_plain : ∀ (d : ℕ) (v : Json), checkValue py b d v = .ok () → WF v →
    Plain (fun _ => True) v
  | _, .null, _, _ => trivial
  | _, .bool _, _, _ => trivial
  | _, .int _, _, _ => trivial
  | _, .float _, h, _ => by rw [checkValue] at h; split_ifs at h
  | _, .str _, _, _ => trivial
  | d, .arr xs, h, hw => by
    rw [checkValue] at h
    split_ifs at h
    exact checkElems_plain (d + 1) xs h hw
  | d, .obj ms, h, hw => by
    rw [checkValue] at h
    split_ifs at h
    exact ⟨hw.1, checkMembers_plain (d + 1) ms h hw.2⟩
theorem checkElems_plain : ∀ (d : ℕ) (xs : List Json), checkElems py b d xs = .ok () → WFList xs →
    PlainList (fun _ => True) xs
  | _, [], _, _ => trivial
  | d, x :: xs, h, hw => by
    cases hx : checkValue py b d x with
    | error e => simp [checkElems, hx, bind, Except.bind] at h
    | ok u =>
      simp only [checkElems, hx, bind, Except.bind] at h
      exact ⟨checkValue_plain d x hx hw.1, checkElems_plain d xs h hw.2⟩
theorem checkMembers_plain : ∀ (d : ℕ) (ms : List (String × Json)),
    checkMembers py b d ms = .ok () → WFMembers ms → PlainMembers (fun _ => True) ms
  | _, [], _, _ => trivial
  | d, (k, x) :: ms, h, hw => by
    cases hk : checkString py b d k with
    | error e => simp [checkMembers, hk, bind, Except.bind] at h
    | ok u =>
      cases hx : checkValue py b d x with
      | error e => simp [checkMembers, hk, hx, bind, Except.bind] at h
      | ok u =>
        simp only [checkMembers, hk, hx, bind, Except.bind] at h
        exact ⟨checkValue_plain d x hx hw.1, checkMembers_plain d ms h hw.2⟩
end

theorem canonicalJson_ok {v : Json} {raw : Bytes} (h : canonicalJson py b v = .ok raw) :
    checkValue py b 0 v = .ok () ∧ raw = encodeUtf8 (dumps py.floatRepr false v) ∧
      raw.length ≤ b.document := by
  cases hc : checkValue py b 0 v with
  | error e => simp [canonicalJson, hc, bind, Except.bind] at h
  | ok u =>
    simp only [canonicalJson, hc, bind, Except.bind] at h
    split_ifs at h with hl
    simp only [pure, Except.pure, Except.ok.injEq] at h
    exact ⟨rfl, h.symm, h ▸ not_lt.1 hl⟩

theorem boundedHooks_closed : Closed boundedHooks WF where
  null := trivial
  bool _ := trivial
  str _ := trivial
  arr xs h := (wfList_iff xs).2 h
  parseInt t v h := by cases h; trivial
  parseFloat t v h := by cases h
  parseConstant t v h := by cases h
  objectPairs ms v h hv := by
    change uniquePairs _ ms = _ at hv
    unfold uniquePairs at hv
    split_ifs at hv
    cases hv
    exact dict_wf h

/-! ## The bytes of a text without zeros -/

theorem utf8EncodeChar_ne_zero (c : Char) (hc : c ≠ '\x00') :
    ∀ x ∈ String.utf8EncodeChar c, x ≠ 0 := by
  have ofNat_ne (m : ℕ) (h₀ : 0 < m) (h₁ : m < 256) : UInt8.ofNat m ≠ 0 := by
    intro h
    have := congrArg UInt8.toNat h
    simp [UInt8.toNat_ofNat'] at this
    omega
  have hv : 0 < c.val.toNat := by
    refine Nat.pos_of_ne_zero fun h => hc ?_
    exact Char.ext (UInt32.toNat_inj.1 h)
  intro x hx
  unfold String.utf8EncodeChar at hx
  dsimp only at hx
  split_ifs at hx <;>
    (simp only [List.mem_cons, List.not_mem_nil, or_false] at hx
     rcases hx with rfl | rfl | rfl | rfl) <;> exact ofNat_ne _ (by omega) (by omega)

theorem encodeUtf8_ne_zero {s : List Char} (h : ∀ c ∈ s, c ≠ '\x00') :
    ∀ x ∈ encodeUtf8 s, x ≠ 0 := by
  intro x hx
  obtain ⟨c, hc, hx⟩ := List.mem_flatMap.1 hx
  exact utf8EncodeChar_ne_zero c (h c hc) x hx

theorem decodeText_encodeUtf8 (c : Char) (s : List Char) (hc : c.toNat < 128)
    (h : ∀ x ∈ c :: s, x ≠ '\x00') : decodeText (encodeUtf8 (c :: s)) = some (c :: s) := by
  have he : encodeUtf8 (c :: s) = c.toNat.toUInt8 :: encodeUtf8 s := by
    rw [encodeUtf8, List.flatMap_cons, encodeUtf8_ascii c hc]
    rfl
  have hz := encodeUtf8_ne_zero h
  have hlt : c.toNat.toUInt8 < 128 := by
    rw [UInt8.lt_iff_toNat_lt]
    simpa [Nat.mod_eq_of_lt (show c.toNat < 256 by omega)] using hc
  have hd := detectEncoding_plain c.toNat.toUInt8 (encodeUtf8 s) hlt
    (hz _ (by rw [he]; exact List.mem_cons_self))
    (fun x hx => hz x (by rw [he]; exact List.mem_cons_of_mem _ hx))
  rw [decodeText, he, hd, ← he]
  exact decodeUtf8_encodeUtf8 _

theorem hexDigit_ne_zero (n : ℕ) (h : n < 16) : hexDigit n ≠ '\x00' := by
  revert n
  decide

theorem escapeUnit_ne_zero (n : ℕ) (h : n < 65536) : ∀ x ∈ escapeUnit n, x ≠ '\x00' := by
  have hd := hexDigit_ne_zero
  simp only [escapeUnit, List.mem_cons, List.not_mem_nil, or_false]
  rintro x (rfl | rfl | rfl | rfl | rfl | rfl)
  · decide
  · decide
  all_goals exact hd _ (by omega)

theorem escapeChar_ne_zero (c : Char) : ∀ x ∈ escapeChar false c, x ≠ '\x00' := by
  intro x hx
  unfold escapeChar at hx
  split_ifs at hx with h1 h2 h3 h4 h5 h6 h7 h8 h9
  iterate 7
    · simp only [List.mem_cons, List.not_mem_nil, or_false] at hx
      rcases hx with rfl | rfl <;> decide
  · exact escapeUnit_ne_zero _ (by omega) x hx
  · exact absurd h9.1 (by decide)
  · exact absurd h9.1 (by decide)
  · obtain rfl : x = c := by simpa using hx
    rintro rfl
    exact h8 (by decide)

theorem dumpString_ne_zero (s : String) : ∀ x ∈ dumpString false s, x ≠ '\x00' := by
  intro x hx
  rcases List.mem_append.1 hx with hx | hx
  · rcases List.mem_cons.1 hx with rfl | hx
    · decide
    · obtain ⟨c, -, hc⟩ := List.mem_flatMap.1 hx
      exact escapeChar_ne_zero c x hc
  · obtain rfl : x = '"' := by simpa using hx
    decide

theorem dumpInt_ne_zero (n : ℤ) : ∀ x ∈ dumpInt n, x ≠ '\x00' := by
  have hd : ∀ x ∈ Nat.toDigits 10 n.natAbs, x ≠ '\x00' := by
    rintro x hx rfl
    exact absurd (toDigits_isDigit _ _ hx) (by decide)
  intro x hx
  unfold dumpInt at hx
  split_ifs at hx
  · rcases List.mem_cons.1 hx with rfl | hx
    · decide
    · exact hd x hx
  · exact hd x hx

section Zeros
variable (floatRepr : UInt64 → List Char) (p : ℤ → Prop)

mutual
theorem dumps_ne_zero : ∀ v, Plain p v → ∀ x ∈ dumps floatRepr false v, x ≠ '\x00'
  | .null, _ => by rw [dumps]; simp
  | .bool true, _ => by rw [dumps]; simp
  | .bool false, _ => by rw [dumps]; simp
  | .int n, _ => by rw [dumps]; exact dumpInt_ne_zero n
  | .float _, h => by simp [Plain] at h
  | .str s, _ => by rw [dumps]; exact dumpString_ne_zero s
  | .arr [], _ => by rw [dumps]; simp
  | .arr (x :: xs), h => by
    rw [dumps]
    exact List.forall_mem_cons.2 ⟨by decide, List.forall_mem_append.2
      ⟨dumps_ne_zero x h.1, dumpElems_ne_zero xs h.2⟩⟩
  | .obj [], _ => by rw [dumps]; simp
  | .obj ((k, x) :: ms), h => by
    rw [dumps]
    exact List.forall_mem_cons.2 ⟨by decide, List.forall_mem_append.2
      ⟨dumpString_ne_zero k, List.forall_mem_cons.2 ⟨by decide, List.forall_mem_append.2
        ⟨dumps_ne_zero x h.2.1, dumpMembers_ne_zero ms h.2.2⟩⟩⟩⟩
theorem dumpElems_ne_zero : ∀ xs, PlainList p xs → ∀ x ∈ dumpElems floatRepr false xs, x ≠ '\x00'
  | [], _ => by rw [dumpElems]; simp
  | x :: xs, h => by
    rw [dumpElems]
    exact List.forall_mem_cons.2 ⟨by decide, List.forall_mem_append.2
      ⟨dumps_ne_zero x h.1, dumpElems_ne_zero xs h.2⟩⟩
theorem dumpMembers_ne_zero : ∀ ms, PlainMembers p ms →
    ∀ x ∈ dumpMembers floatRepr false ms, x ≠ '\x00'
  | [], _ => by rw [dumpMembers]; simp
  | (k, x) :: ms, h => by
    rw [dumpMembers]
    exact List.forall_mem_cons.2 ⟨by decide, List.forall_mem_append.2
      ⟨dumpString_ne_zero k, List.forall_mem_cons.2 ⟨by decide, List.forall_mem_append.2
        ⟨dumps_ne_zero x h.1, dumpMembers_ne_zero ms h.2⟩⟩⟩⟩
end

end Zeros

/-! ## One document, one text -/

theorem dumps_head_ascii (p : ℤ → Prop) (v : Json) (hv : Plain p v) :
    ∃ c t, dumps py.floatRepr false v = c :: t ∧ c.toNat < 128 := by
  cases v with
  | null => exact ⟨'n', _, rfl, by decide⟩
  | bool b => cases b
              · exact ⟨'f', _, rfl, by decide⟩
              · exact ⟨'t', _, rfl, by decide⟩
  | int n =>
    obtain ⟨c, t, he, hc⟩ := dumpInt_head n
    refine ⟨c, t, by simpa [dumps] using he, ?_⟩
    rcases hc with hc | ⟨rfl, -⟩
    · have h9 : c.toNat ≤ 57 := (Char.isDigit_iff_toNat.1 hc).2
      omega
    · decide
  | float bits => exact absurd hv (by simp [Plain])
  | str s => exact ⟨'"', s.toList.flatMap (escapeChar false) ++ ['"'], by simp [dumps, dumpString], by decide⟩
  | arr xs => cases xs <;> exact ⟨'[', _, by rw [dumps], by decide⟩
  | obj ms =>
    cases ms with
    | nil => exact ⟨'{', _, by rw [dumps], by decide⟩
    | cons m ms => obtain ⟨k, x⟩ := m; exact ⟨'{', _, by rw [dumps], by decide⟩

theorem decodeText_dumps (p : ℤ → Prop) (v : Json) (hv : Plain p v) :
    decodeText (encodeUtf8 (dumps py.floatRepr false v)) = some (dumps py.floatRepr false v) := by
  obtain ⟨c, t, he, hc⟩ := dumps_head_ascii py p v hv
  have hz := dumps_ne_zero py.floatRepr p v hv
  rw [he] at hz ⊢
  exact decodeText_encodeUtf8 c t hc hz

/-- `load_json(canonical_json(value)) == value`. -/
theorem loadJson_canonicalJson {v : Json} {raw : Bytes} (hv : v.WF)
    (h : canonicalJson py b v = .ok raw) : loadJson py b raw = .ok v := by
  obtain ⟨hc, rfl, hl⟩ := canonicalJson_ok py b h
  have hp := checkValue_plain py b 0 v hc hv
  have hloads : loads boundedHooks (dumps py.floatRepr false v) = .ok v :=
    loads_dumps boundedHooks py.floatRepr false (fun _ => True)
      (fun n _ => by simp [boundedHooks, intToken_dumpInt])
      (fun ms hms => uniquePairs_sorted _ ms hms) v hp
  rw [loadJson, if_neg (not_lt.2 hl), decodeText_dumps py _ v hp]
  simp only [hloads, h, bind, Except.bind]
  rfl

theorem loadJson_wf {raw : Bytes} {v : Json} (h : loadJson py b raw = .ok v) : v.WF := by
  unfold loadJson at h
  split_ifs at h
  split at h
  · cases h
  · obtain ⟨w, hw, h⟩ := bind_ok h
    obtain ⟨-, -, h⟩ := bind_ok h
    cases h
    exact loads_closed boundedHooks_closed hw

theorem loadJson_canonical {raw : Bytes} {v : Json} (h : loadJson py b raw = .ok v) :
    ∃ raw', canonicalJson py b v = .ok raw' := by
  unfold loadJson at h
  split_ifs at h
  split at h
  · cases h
  · obtain ⟨w, -, h⟩ := bind_ok h
    obtain ⟨raw', hr, h⟩ := bind_ok h
    cases h
    exact ⟨raw', hr⟩

theorem canonicalJson_injective {v w : Json} {raw : Bytes} (hv : v.WF) (hw : w.WF)
    (h : canonicalJson py b v = .ok raw) (h' : canonicalJson py b w = .ok raw) : v = w := by
  have := (loadJson_canonicalJson py b hv h).symm.trans (loadJson_canonicalJson py b hw h')
  exact Except.ok.inj this

theorem checkMembers_mem {d : ℕ} {ms : List (String × Json)} (h : checkMembers py b d ms = .ok ())
    {m : String × Json} (hm : m ∈ ms) : checkValue py b d m.2 = .ok () := by
  induction ms with
  | nil => cases hm
  | cons p ms ih =>
    obtain ⟨k, x⟩ := p
    obtain ⟨_, -, h⟩ := bind_ok h
    obtain ⟨⟨⟩, hx, h⟩ := bind_ok h
    rcases List.mem_cons.1 hm with rfl | hm
    · exact hx
    · exact ih h hm

/-- The integers of an encoded dictionary are in range. -/
theorem canonicalJson_int {v : Json} {raw : Bytes} (h : canonicalJson py b v = .ok raw) {k : String} {n : ℤ}
    (hg : v.get? k = some (.int n)) : n.natAbs ≤ maxInteger := by
  have hc := (canonicalJson_ok py b h).1
  cases v with
  | obj ms =>
    rw [checkValue] at hc
    split_ifs at hc
    have hn := checkMembers_mem py b hc (mem_of_lookup hg)
    rw [checkValue] at hn
    split_ifs at hn with _ hle
    exact not_lt.1 hle
  | _ => cases hg

theorem canonicalJson_str {v : Json} {raw : Bytes} (h : canonicalJson py b v = .ok raw) {k s : String}
    (hg : v.get? k = some (.str s)) : py.normalizeNFC s = s := by
  have hc := (canonicalJson_ok py b h).1
  cases v with
  | obj ms =>
    rw [checkValue] at hc
    split_ifs at hc
    have hs := checkMembers_mem py b hc (mem_of_lookup hg)
    rw [checkValue, checkString] at hs
    split_ifs at hs with _ hle
    rw [not_or] at hle
    exact not_not.1 hle.2
  | _ => cases hg

theorem canonicalJson_pos {v : Json} {raw : Bytes} (hv : v.WF) (h : canonicalJson py b v = .ok raw) :
    0 < raw.length := by
  obtain ⟨hc, rfl, -⟩ := canonicalJson_ok py b h
  obtain ⟨c, t, he, hlt⟩ := dumps_head_ascii py _ v (checkValue_plain py b 0 v hc hv)
  rw [he, encodeUtf8, List.flatMap_cons, encodeUtf8_ascii c hlt]
  exact Nat.succ_pos _

end Codec
end VapEvidence

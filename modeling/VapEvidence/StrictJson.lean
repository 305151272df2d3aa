import VapEvidence.BoundedJson
import VapEvidence.Decision

set_option autoImplicit false

/-!
# The strict reader of the Python verifier

`verify_python.py` reads a document with `json.loads` under hooks, then walks the
value. `Subset` is the domain of values both verifiers admit.
-/
namespace VapEvidence.Evidence
open Json

def contractId : String := "vap-interop-demo/0.2.0"
def canonicalization : String := "DEMO-ASCII-SAFEINT-JSON-v1"
def maxSafeInteger : ℕ := 9007199254740991
def maxFileBytes : ℕ := 2 * 1024 * 1024

def isPrintable (c : Char) : Bool := 32 ≤ c.toNat ∧ c.toNat ≤ 126

/-- At most 1024 printable ASCII characters. -/
def Printable (s : String) : Prop := s.length ≤ 1024 ∧ s.toList.all isPrintable = true

instance (s : String) : Decidable (Printable s) := inferInstanceAs (Decidable (_ ∧ _))

mutual
/-- The value lies in the subset when it stands at the given depth. -/
def Subset (depth : ℕ) : Json → Prop
  | .null => depth ≤ 16
  | .bool _ => depth ≤ 16
  | .int n => depth ≤ 16 ∧ n.natAbs ≤ maxSafeInteger
  | .float _ => False
  | .str s => depth ≤ 16 ∧ Printable s
  | .arr xs => depth ≤ 16 ∧ SubsetElems (depth + 1) xs
  | .obj ms => depth ≤ 16 ∧ SubsetMembers (depth + 1) ms
def SubsetElems (depth : ℕ) : List Json → Prop
  | [] => True
  | x :: xs => Subset depth x ∧ SubsetElems depth xs
def SubsetMembers (depth : ℕ) : List (String × Json) → Prop
  | [] => True
  | (k, x) :: ms => Printable k ∧ Subset depth x ∧ SubsetMembers depth ms
end

/-- `_require`, and `reject` behind a condition, where the only exception is `VerificationError`. -/
def check (c : Bool) (message : String) : Except String Unit := if c then .ok () else .error message

/-! ## `verify_python.py` -/

namespace Python

mutual
/-- `_subset` -/
def subset (depth : ℕ) : Json → Except String Unit
  | .null => check (depth ≤ 16) "JSON nesting exceeds 16"
  | .bool _ => check (depth ≤ 16) "JSON nesting exceeds 16"
  | .int n => do
    check (depth ≤ 16) "JSON nesting exceeds 16"
    check (n.natAbs ≤ maxSafeInteger) "integer exceeds the safe range"
  | .float _ => do
    check (depth ≤ 16) "JSON nesting exceeds 16"
    .error "unsupported JSON value type"
  | .str s => do
    check (depth ≤ 16) "JSON nesting exceeds 16"
    check (s.length ≤ 1024 && s.toList.all isPrintable)
      "strings must be printable ASCII, at most 1024 characters"
  | .arr xs => do
    check (depth ≤ 16) "JSON nesting exceeds 16"
    subsetElems (depth + 1) xs
  | .obj ms => do
    check (depth ≤ 16) "JSON nesting exceeds 16"
    subsetMembers (depth + 1) ms
def subsetElems (depth : ℕ) : List Json → Except String Unit
  | [] => .ok ()
  | x :: xs => do subset depth x; subsetElems depth xs
def subsetMembers (depth : ℕ) : List (String × Json) → Except String Unit
  | [] => .ok ()
  | (k, x) :: ms => do
    check (depth ≤ 16) "JSON nesting exceeds 16"
    check (k.length ≤ 1024 && k.toList.all isPrintable)
      "strings must be printable ASCII, at most 1024 characters"
    subset depth x
    subsetMembers depth ms
end

/-- `canonical`; dictionaries are held in key order, so `sort_keys` has nothing left to do. -/
def canonical (py : Platform) (v : Json) : Except String Bytes := do
  subset 0 v
  return encodeUtf8 (dumps py.floatRepr true v)

/-- `_integer` -/
def integer (token : List Char) : Except String Json := do
  check (token ≠ ['-', '0']) "negative zero is not permitted"
  check ((token.dropWhile (· = '-')).length ≤ 16) "integer exceeds the safe range"
  check ((intToken token).natAbs ≤ maxSafeInteger) "integer exceeds the safe range"
  return .int (intToken token)

/-- `_integer`, `_not_integer` twice and `_object`. -/
def strictHooks : Hooks where
  parseInt := integer
  parseFloat _ := .error "only integer number tokens are permitted"
  parseConstant _ := .error "only integer number tokens are permitted"
  objectPairs := uniquePairs "duplicate object key"

/-- The texts a hook raises; every other error of `json.loads` is caught. -/
def hookErrors : List String :=
  ["negative zero is not permitted", "integer exceeds the safe range",
   "only integer number tokens are permitted", "duplicate object key"]

/-- `strict_loads` -/
def strictLoads (s : List Char) : Except String Json := do
  check ((encodeUtf8 s).length ≤ maxFileBytes) "JSON input exceeds 2 MiB"
  match loads strictHooks s with
  | .error e => .error (if e ∈ hookErrors then e else "invalid JSON encoding or syntax")
  | .ok v => do
    subset 0 v
    return v

/-- `load_json` on the bytes of a file. -/
def loadJson (raw : Bytes) : Except String Json := do
  check (raw.length ≤ maxFileBytes) "JSON input exceeds 2 MiB"
  match decodeUtf8 raw with
  | none => .error "input is not valid UTF-8"
  | some s => strictLoads s

end Python

/-! ## The subset -/

abbrev Checks {α : Type} (m : Except String α) (P : Prop) (a : α) : Prop := Decides (fun _ => True) m P a

theorem check_decides (c : Bool) (message : String) : Checks (check c message) (c = true) () := by
  cases c
  · exact (Decides.error trivial ()).congr (by simp)
  · exact (Decides.pure ()).congr (by simp)

theorem check_printable (s : String) (message : String) :
    Checks (check (s.length ≤ 1024 && s.toList.all isPrintable) message) (Printable s) () :=
  (check_decides _ _).congr (by simp [Printable])

theorem check_depth (depth : ℕ) (message : String) :
    Checks (check (depth ≤ 16) message) (depth ≤ 16) () :=
  (check_decides _ _).congr (by simp)

theorem subset_depth {depth : ℕ} {v : Json} (h : Subset depth v) : depth ≤ 16 := by
  cases v <;> simp only [Subset] at h
  case null => exact h
  case bool => exact h
  all_goals exact h.1

mutual
theorem subset_decides (depth : ℕ) : ∀ v, Checks (Python.subset depth v) (Subset depth v) ()
  | .null => check_depth depth _
  | .bool _ => check_depth depth _
  | .int n => (check_depth depth _).bind fun _ => (check_decides _ _).congr (by simp)
  | .float _ => ((check_depth depth _).bind fun _ => Decides.error trivial ()).congr (by simp [Subset])
  | .str s => (check_depth depth _).bind fun _ => check_printable s _
  | .arr xs => (check_depth depth _).bind fun _ => subsetElems_decides (depth + 1) xs
  | .obj ms => (check_depth depth _).bind fun _ => subsetMembers_decides (depth + 1) ms
theorem subsetElems_decides (depth : ℕ) : ∀ xs, Checks (Python.subsetElems depth xs) (SubsetElems depth xs) ()
  | [] => Decides.pure ()
  | x :: xs => (subset_decides depth x).bind fun _ => subsetElems_decides depth xs
theorem subsetMembers_decides (depth : ℕ) :
    ∀ ms, Checks (Python.subsetMembers depth ms) (SubsetMembers depth ms) ()
  | [] => Decides.pure ()
  | (k, x) :: ms => by
    refine ((check_depth depth _).bind fun _ => (check_printable k _).bind fun _ =>
      (subset_decides depth x).bind fun _ => subsetMembers_decides depth ms).congr ?_
    exact ⟨fun h => h.2, fun h => ⟨subset_depth h.2.1, h⟩⟩
end

theorem subsetElems_iff (depth : ℕ) (xs : List Json) :
    SubsetElems depth xs ↔ ∀ x ∈ xs, Subset depth x := by
  induction xs with
  | nil => simp [SubsetElems]
  | cons x xs ih => simp [SubsetElems, ih]

theorem subsetMembers_iff (depth : ℕ) (ms : List (String × Json)) :
    SubsetMembers depth ms ↔ ∀ m ∈ ms, Printable m.1 ∧ Subset depth m.2 := by
  induction ms with
  | nil => simp [SubsetMembers]
  | cons m ms ih => obtain ⟨k, x⟩ := m; simp [SubsetMembers, ih, and_assoc]

mutual
/-- A value may stand anywhere above the depth it was checked at. -/
theorem subset_mono {d e : ℕ} (h : d ≤ e) : ∀ v, Subset e v → Subset d v
  | .null, hv => le_trans h hv
  | .bool _, hv => le_trans h hv
  | .int _, hv => ⟨le_trans h hv.1, hv.2⟩
  | .float _, hv => hv
  | .str _, hv => ⟨le_trans h hv.1, hv.2⟩
  | .arr xs, hv => ⟨le_trans h hv.1, subsetElems_mono (Nat.succ_le_succ h) xs hv.2⟩
  | .obj ms, hv => ⟨le_trans h hv.1, subsetMembers_mono (Nat.succ_le_succ h) ms hv.2⟩
theorem subsetElems_mono {d e : ℕ} (h : d ≤ e) : ∀ xs, SubsetElems e xs → SubsetElems d xs
  | [], _ => trivial
  | x :: xs, hv => ⟨subset_mono h x hv.1, subsetElems_mono h xs hv.2⟩
theorem subsetMembers_mono {d e : ℕ} (h : d ≤ e) : ∀ ms, SubsetMembers e ms → SubsetMembers d ms
  | [], _ => trivial
  | (_, x) :: ms, hv => ⟨hv.1, subset_mono h x hv.2.1, subsetMembers_mono h ms hv.2.2⟩
end

theorem canonical_decides (py : Platform) (v : Json) :
    Checks (Python.canonical py v) (Subset 0 v) (encodeUtf8 (dumps py.floatRepr true v)) := by
  have h : Checks (Python.canonical py v) (Subset 0 v ∧ True) _ :=
    (subset_decides 0 v).bind fun _ => Decides.pure (encodeUtf8 (dumps py.floatRepr true v))
  exact h.congr (and_iff_left trivial)

end VapEvidence.Evidence

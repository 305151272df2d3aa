import VapEvidence.JsonFields

set_option autoImplicit false

/-!
# Nesting of JSON values

How deep arrays and dictionaries stand in one another.
-/
namespace VapEvidence.Json

mutual
def nesting : Json → ℕ
  | .arr xs => nestingElems xs + 1
  | .obj ms => nestingMembers ms + 1
  | _ => 0
def nestingElems : List Json → ℕ
  | [] => 0
  | x :: xs => max (nesting x) (nestingElems xs)
def nestingMembers : List (String × Json) → ℕ
  | [] => 0
  | (_, x) :: ms => max (nesting x) (nestingMembers ms)
end

theorem nestingMembers_le_iff {ms : List (String × Json)} {n : ℕ} :
    nestingMembers ms ≤ n ↔ ∀ m ∈ ms, nesting m.2 ≤ n := by
  induction ms with
  | nil => simp [nestingMembers]
  | cons m ms ih => rw [nestingMembers, max_le_iff, ih, List.forall_mem_cons]

theorem nesting_dict_le {ps : List (String × Json)} {n : ℕ} (h : ∀ p ∈ ps, nesting p.2 ≤ n) :
    nesting (dict ps) ≤ n + 1 := by
  rw [dict, nesting]
  refine Nat.succ_le_succ (nestingMembers_le_iff.2 fun m hm => ?_)
  rcases mem_insertAll hm with hm | hm
  · exact h m hm
  · exact absurd hm List.not_mem_nil

theorem nesting_lt_of_get? {v x : Json} {k : String} (h : v.get? k = some x) : nesting x < nesting v := by
  cases v with
  | obj ms =>
    have hmem := mem_of_lookup h
    rw [nesting]
    exact Nat.lt_succ_of_le (nestingMembers_le_iff.1 le_rfl _ hmem)
  | _ => cases h

end VapEvidence.Json

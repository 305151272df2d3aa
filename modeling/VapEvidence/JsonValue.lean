import Mathlib.Data.List.Basic
import Mathlib.Data.List.Lex
import Mathlib.Data.String.Basic

set_option autoImplicit false

/-!
# JSON values

A value as a Python or JavaScript program holds it after parsing. Dictionaries
are kept as association lists in key order, so that equality of values is
equality of dictionaries; `dict` builds one from its members in source order.
-/
namespace VapEvidence

inductive Json where
  | null
  | bool (b : Bool)
  | int (n : ℤ)
  | float (bits : UInt64)
  | str (s : String)
  | arr (xs : List Json)
  | obj (ms : List (String × Json))
  deriving Inhabited

namespace Json

mutual
def beq : Json → Json → Bool
  | .null, .null => true
  | .bool a, .bool b => a == b
  | .int a, .int b => a == b
  | .float a, .float b => a == b
  | .str a, .str b => a == b
  | .arr a, .arr b => beqList a b
  | .obj a, .obj b => beqMembers a b
  | _, _ => false
def beqList : List Json → List Json → Bool
  | [], [] => true
  | a :: as, b :: bs => beq a b && beqList as bs
  | _, _ => false
def beqMembers : List (String × Json) → List (String × Json) → Bool
  | [], [] => true
  | (k, a) :: as, (l, b) :: bs => k == l && beq a b && beqMembers as bs
  | _, _ => false
end

mutual
theorem beq_iff : ∀ a b : Json, beq a b = true ↔ a = b
  | .null, b => by cases b <;> simp [beq]
  | .bool _, b => by cases b <;> simp [beq]
  | .int _, b => by cases b <;> simp [beq]
  | .float _, b => by cases b <;> simp [beq]
  | .str _, b => by cases b <;> simp [beq]
  | .arr xs, b => by cases b <;> simp [beq, beqList_iff xs]
  | .obj ms, b => by cases b <;> simp [beq, beqMembers_iff ms]
theorem beqList_iff : ∀ a b : List Json, beqList a b = true ↔ a = b
  | [], b => by cases b <;> simp [beqList]
  | x :: xs, b => by cases b <;> simp [beqList, beq_iff x, beqList_iff xs]
theorem beqMembers_iff : ∀ a b : List (String × Json), beqMembers a b = true ↔ a = b
  | [], b => by cases b <;> simp [beqMembers]
  | (k, x) :: xs, b => by
    cases b with
    | nil => simp [beqMembers]
    | cons y ys => simp [beqMembers, beq_iff x, beqMembers_iff xs, Prod.ext_iff]
end

instance : DecidableEq Json := fun a b => decidable_of_iff _ (beq_iff a b)

/-! ## Dictionaries -/

/-- The keys of a dictionary in increasing code-point order. -/
def SortedKeys (ms : List (String × Json)) : Prop := (ms.map Prod.fst).Pairwise (· < ·)

mutual
/-- Every dictionary in the value is stored in key order, without repetition. -/
def WF : Json → Prop
  | .arr xs => WFList xs
  | .obj ms => SortedKeys ms ∧ WFMembers ms
  | _ => True
def WFList : List Json → Prop
  | [] => True
  | x :: xs => WF x ∧ WFList xs
def WFMembers : List (String × Json) → Prop
  | [] => True
  | (_, x) :: xs => WF x ∧ WFMembers xs
end

theorem wfList_iff (xs : List Json) : WFList xs ↔ ∀ x ∈ xs, WF x := by
  induction xs with
  | nil => simp [WFList]
  | cons x xs ih => simp [WFList, ih]

theorem wfMembers_iff (ms : List (String × Json)) : WFMembers ms ↔ ∀ m ∈ ms, WF m.2 := by
  induction ms with
  | nil => simp [WFMembers]
  | cons m ms ih => obtain ⟨k, x⟩ := m; simp [WFMembers, ih]

mutual
/-- Well-formedness is decided along the value. -/
def decideWF : (v : Json) → Decidable v.WF
  | .null => .isTrue trivial
  | .bool _ => .isTrue trivial
  | .int _ => .isTrue trivial
  | .float _ => .isTrue trivial
  | .str _ => .isTrue trivial
  | .arr xs => decideWFList xs
  | .obj ms =>
    have := decideWFMembers ms
    inferInstanceAs (Decidable ((ms.map Prod.fst).Pairwise (· < ·) ∧ WFMembers ms))
def decideWFList : (xs : List Json) → Decidable (WFList xs)
  | [] => .isTrue trivial
  | x :: xs =>
    have := decideWF x
    have := decideWFList xs
    inferInstanceAs (Decidable (WF x ∧ WFList xs))
def decideWFMembers : (ms : List (String × Json)) → Decidable (WFMembers ms)
  | [] => .isTrue trivial
  | (_, x) :: ms =>
    have := decideWF x
    have := decideWFMembers ms
    inferInstanceAs (Decidable (WF x ∧ WFMembers ms))
end

instance : DecidablePred WF := decideWF

def insertKey (k : String) (v : Json) : List (String × Json) → List (String × Json)
  | [] => [(k, v)]
  | (l, w) :: ms =>
    if k = l then (k, v) :: ms
    else if k < l then (k, v) :: (l, w) :: ms
    else (l, w) :: insertKey k v ms

def insertAll (ps : List (String × Json)) (ms : List (String × Json)) : List (String × Json) :=
  ps.foldl (fun acc p => insertKey p.1 p.2 acc) ms

/-- A dictionary display; of two members with one key the later stays. -/
def dict (ps : List (String × Json)) : Json := .obj (insertAll ps [])

def members : Json → List (String × Json)
  | .obj ms => ms
  | _ => []

def keys (v : Json) : List String := v.members.map Prod.fst

def get? (v : Json) (k : String) : Option Json := v.members.lookup k

/-- `value[k]` where the key is known to be there. -/
def item (v : Json) (k : String) : Json := (v.get? k).getD .null

/-- `type(value) is dict and set(value) == fields`. -/
def hasFields (fields : List String) : Json → Bool
  | .obj ms => ms.all (fun m => fields.contains m.1) && fields.all (fun f => (ms.map Prod.fst).contains f)
  | _ => false

theorem keys_insertKey (k : String) (v : Json) (ms : List (String × Json)) (l : String) :
    l ∈ (insertKey k v ms).map Prod.fst ↔ l = k ∨ l ∈ ms.map Prod.fst := by
  induction ms with
  | nil => simp [insertKey]
  | cons m ms ih =>
    obtain ⟨j, w⟩ := m
    simp only [insertKey]
    split_ifs with h h'
    · simp [h]
    · simp
    · simp only [List.map_cons, List.mem_cons, ih]; tauto

theorem sortedKeys_insertKey (k : String) (v : Json) (ms : List (String × Json))
    (h : SortedKeys ms) : SortedKeys (insertKey k v ms) := by
  induction ms with
  | nil => simp [insertKey, SortedKeys]
  | cons m ms ih =>
    obtain ⟨j, w⟩ := m
    simp only [SortedKeys, List.map_cons, List.pairwise_cons] at h
    simp only [insertKey]
    split_ifs with hk hlt
    · subst hk
      exact List.pairwise_cons.2 h
    · refine List.pairwise_cons.2 ⟨?_, List.pairwise_cons.2 h⟩
      intro l hl
      rcases List.mem_cons.1 hl with rfl | hl
      · exact hlt
      · exact lt_trans hlt (h.1 l hl)
    · refine List.pairwise_cons.2 ⟨?_, ih h.2⟩
      intro l hl
      rcases (keys_insertKey k v ms l).1 hl with rfl | hl
      · exact lt_of_le_of_ne (not_lt.1 hlt) (Ne.symm hk)
      · exact h.1 l hl

theorem lookup_cons_ite (k : String) (v : Json) (ms : List (String × Json)) (l : String) :
    ((k, v) :: ms).lookup l = if l = k then some v else ms.lookup l := by
  by_cases h : l = k
  · simp [h]
  · simp [List.lookup_cons, beq_false_of_ne h, h]

theorem lookup_insertKey (k : String) (v : Json) (ms : List (String × Json)) (l : String) :
    (insertKey k v ms).lookup l = if l = k then some v else ms.lookup l := by
  induction ms with
  | nil => simp [insertKey, lookup_cons_ite]
  | cons m ms ih =>
    obtain ⟨j, w⟩ := m
    simp only [insertKey]
    split_ifs with h h' h'' <;> simp_all [lookup_cons_ite]

theorem sortedKeys_insertAll (ps ms : List (String × Json)) (h : SortedKeys ms) :
    SortedKeys (insertAll ps ms) := by
  induction ps generalizing ms with
  | nil => exact h
  | cons p ps ih => exact ih _ (sortedKeys_insertKey _ _ _ h)

theorem mem_insertKey {k : String} {v : Json} {ms : List (String × Json)} {m : String × Json}
    (h : m ∈ insertKey k v ms) : m = (k, v) ∨ m ∈ ms := by
  induction ms with
  | nil => simpa [insertKey] using h
  | cons a ms ih =>
    obtain ⟨j, w⟩ := a
    simp only [insertKey] at h
    split_ifs at h
    · rcases List.mem_cons.1 h with h | h <;> simp [h]
    · rcases List.mem_cons.1 h with h | h
      · simp [h]
      · exact Or.inr h
    · rcases List.mem_cons.1 h with h | h
      · simp [h]
      · exact (ih h).imp id (fun h => List.mem_cons_of_mem _ h)

theorem mem_insertAll {ps ms : List (String × Json)} {m : String × Json}
    (h : m ∈ insertAll ps ms) : m ∈ ps ∨ m ∈ ms := by
  induction ps generalizing ms with
  | nil => exact Or.inr h
  | cons p ps ih =>
    rcases ih h with h | h
    · exact Or.inl (List.mem_cons_of_mem _ h)
    · rcases mem_insertKey h with rfl | h
      · exact Or.inl List.mem_cons_self
      · exact Or.inr h

theorem dict_wf {ps : List (String × Json)} (h : ∀ p ∈ ps, WF p.2) : WF (dict ps) := by
  refine ⟨sortedKeys_insertAll ps [] (by simp [SortedKeys]), ?_⟩
  rw [wfMembers_iff]
  intro m hm
  rcases mem_insertAll hm with hm | hm
  · exact h m hm
  · simp at hm

theorem lookup_insertAll (ps ms : List (String × Json)) (k : String) :
    (insertAll ps ms).lookup k = (ps.reverse.lookup k).or (ms.lookup k) := by
  induction ps generalizing ms with
  | nil => simp [insertAll]
  | cons p ps ih =>
    change (insertAll ps (insertKey p.1 p.2 ms)).lookup k = _
    rw [ih, lookup_insertKey]
    simp only [List.reverse_cons, List.lookup_append]
    cases h : ps.reverse.lookup k with
    | some v => simp
    | none =>
      rw [show p = (p.1, p.2) from rfl, lookup_cons_ite]
      split_ifs <;> simp

/-- Reading a dictionary display finds the last member with the key. -/
theorem get?_dict (ps : List (String × Json)) (k : String) :
    (dict ps).get? k = ps.reverse.lookup k := by
  change (insertAll ps []).lookup k = _
  rw [lookup_insertAll]
  simp

theorem mem_keys_insertAll (ps ms : List (String × Json)) (k : String) :
    k ∈ (insertAll ps ms).map Prod.fst ↔ k ∈ ps.map Prod.fst ∨ k ∈ ms.map Prod.fst := by
  induction ps generalizing ms with
  | nil => simp [insertAll]
  | cons p ps ih =>
    change k ∈ (insertAll ps (insertKey p.1 p.2 ms)).map Prod.fst ↔ _
    rw [ih, keys_insertKey]
    simp only [List.map_cons, List.mem_cons]
    tauto

theorem mem_keys_dict (ps : List (String × Json)) (k : String) :
    k ∈ (dict ps).keys ↔ k ∈ ps.map Prod.fst := by
  change k ∈ (insertAll ps []).map Prod.fst ↔ _
  rw [mem_keys_insertAll]
  simp

theorem hasFields_dict (fields : List String) (ps : List (String × Json)) :
    (dict ps).hasFields fields = true ↔
      (∀ p ∈ ps, p.1 ∈ fields) ∧ ∀ f ∈ fields, f ∈ ps.map Prod.fst := by
  simp only [dict, hasFields, Bool.and_eq_true, List.all_eq_true, List.contains_iff_mem]
  constructor
  · rintro ⟨h, h'⟩
    refine ⟨fun p hp => ?_, fun f hf => ?_⟩
    · have hk := (mem_keys_insertAll ps [] p.1).2 (Or.inl (List.mem_map_of_mem hp))
      obtain ⟨m, hm, he⟩ := List.mem_map.1 hk
      exact he ▸ h m hm
    · simpa using (mem_keys_insertAll ps [] f).1 (h' f hf)
  · rintro ⟨h, h'⟩
    refine ⟨fun m hm => ?_, fun f hf => (mem_keys_insertAll ps [] f).2 (Or.inl (h' f hf))⟩
    rcases mem_insertAll hm with hm | hm
    · exact h m hm
    · simp at hm

/-- A sorted member list is its own dictionary. -/
theorem insertAll_sorted (ps ms : List (String × Json)) (h : SortedKeys (ms ++ ps)) :
    insertAll ps ms = ms ++ ps := by
  induction ps generalizing ms with
  | nil => simp [insertAll]
  | cons p ps ih =>
    have hins : insertKey p.1 p.2 ms = ms ++ [p] := by
      have hlt : ∀ m ∈ ms, m.1 < p.1 := by
        intro m hm
        simp only [SortedKeys, List.map_append, List.pairwise_append] at h
        exact h.2.2 m.1 (List.mem_map_of_mem hm) p.1 (by simp)
      clear h ih
      induction ms with
      | nil => rfl
      | cons m ms ihm =>
        obtain ⟨j, w⟩ := m
        have hj : j < p.1 := hlt (j, w) (by simp)
        simp only [insertKey, ne_of_gt hj, not_lt_of_gt hj, ↓reduceIte, List.cons_append]
        rw [ihm (fun m hm => hlt m (List.mem_cons_of_mem _ hm))]
    change insertAll ps (insertKey p.1 p.2 ms) = _
    rw [hins, ih _ (by simpa using h)]
    simp

theorem dict_sorted {ms : List (String × Json)} (h : SortedKeys ms) : dict ms = .obj ms := by
  have := insertAll_sorted ms [] (by simpa using h)
  simpa [dict] using this

end Json
end VapEvidence

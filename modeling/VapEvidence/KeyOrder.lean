import Mathlib.Data.List.Sort
import VapEvidence.JsonValue

set_option autoImplicit false

/-!
# Objects in insertion order

A value whose objects hold their members as they were added, and the same value with
the members of every object sorted by key, in the order of code points or of UTF-16
code units.
-/
namespace VapEvidence.Json

/-! ## Sorting -/

mutual
/-- No object repeats a key. -/
def Distinct : Json → Prop
  | .arr xs => DistinctList xs
  | .obj ms => (ms.map Prod.fst).Nodup ∧ DistinctMembers ms
  | _ => True
def DistinctList : List Json → Prop
  | [] => True
  | x :: xs => Distinct x ∧ DistinctList xs
def DistinctMembers : List (String × Json) → Prop
  | [] => True
  | (_, x) :: ms => Distinct x ∧ DistinctMembers ms
end

section
variable (le : String → String → Bool)

/-- Members compared by their keys. -/
def byKey (a b : String × Json) : Bool := le a.1 b.1

mutual
/-- The value with the members of every object sorted by key. -/
def sortKeys : Json → Json
  | .arr xs => .arr (sortElems xs)
  | .obj ms => .obj ((sortMembers ms).mergeSort (byKey le))
  | v => v
def sortElems : List Json → List Json
  | [] => []
  | x :: xs => sortKeys x :: sortElems xs
def sortMembers : List (String × Json) → List (String × Json)
  | [] => []
  | (k, x) :: ms => (k, sortKeys x) :: sortMembers ms
end

theorem map_sortMembers (ms : List (String × Json)) : (sortMembers le ms).map Prod.fst = ms.map Prod.fst := by
  induction ms with
  | nil => rw [sortMembers]
  | cons m ms ih =>
    obtain ⟨k, x⟩ := m
    rw [sortMembers, List.map_cons, ih]
    rfl

theorem mem_sorted {ms : List (String × Json)} {m : String × Json} :
    m ∈ ms.mergeSort (byKey le) ↔ m ∈ ms := (List.mergeSort_perm ms _).mem_iff

end

/-! ## The order of code points -/

def codePointLe (a b : String) : Bool := a ≤ b

theorem codePoint_sorted (ms : List (String × Json)) :
    (ms.mergeSort (byKey codePointLe)).Pairwise fun a b => a.1 ≤ b.1 := by
  have h := @List.pairwise_mergeSort _ (byKey codePointLe)
    (fun a b c hab hbc => decide_eq_true (le_trans (of_decide_eq_true hab) (of_decide_eq_true hbc)))
    (fun a b => by
      simp only [byKey, codePointLe, Bool.or_eq_true, decide_eq_true_eq]
      exact le_total a.1 b.1) ms
  exact h.imp fun hab => of_decide_eq_true hab

theorem sortedKeys_mergeSort {ms : List (String × Json)} (h : (ms.map Prod.fst).Nodup) :
    SortedKeys (ms.mergeSort (byKey codePointLe)) := by
  have hnodup : ((ms.mergeSort (byKey codePointLe)).map Prod.fst).Nodup :=
    ((List.mergeSort_perm ms _).map Prod.fst).nodup_iff.2 h
  have hle := List.pairwise_map.2 (codePoint_sorted ms)
  exact (hle.and hnodup).imp fun hab => lt_of_le_of_ne hab.1 hab.2

mutual
/-- Sorted by code points, a value is in the form that equality of dictionaries compares. -/
theorem wf_sortKeys : ∀ {v : Json}, v.Distinct → (sortKeys codePointLe v).WF
  | .null, _ => trivial
  | .bool _, _ => trivial
  | .int _, _ => trivial
  | .float _, _ => trivial
  | .str _, _ => trivial
  | .arr _, h => wfList_sortElems h
  | .obj ms, h => by
    refine ⟨sortedKeys_mergeSort (by rw [map_sortMembers]; exact h.1), ?_⟩
    rw [wfMembers_iff]
    exact fun m hm => (wfMembers_iff _).1 (wfMembers_sortMembers h.2) m ((mem_sorted _).1 hm)
theorem wfList_sortElems : ∀ {xs : List Json}, DistinctList xs → WFList (sortElems codePointLe xs)
  | [], _ => trivial
  | _ :: _, h => ⟨wf_sortKeys h.1, wfList_sortElems h.2⟩
theorem wfMembers_sortMembers : ∀ {ms : List (String × Json)}, DistinctMembers ms →
    WFMembers (sortMembers codePointLe ms)
  | [], _ => trivial
  | (_, _) :: _, h => ⟨wf_sortKeys h.1, wfMembers_sortMembers h.2⟩
end

/-! ## Two orders that agree -/

section Agree
variable {p : String → Prop} {le : String → String → Bool}

mutual
/-- Every key of the value has a property. -/
def Keyed (p : String → Prop) : Json → Prop
  | .arr xs => KeyedList p xs
  | .obj ms => KeyedMembers p ms
  | _ => True
def KeyedList (p : String → Prop) : List Json → Prop
  | [] => True
  | x :: xs => Keyed p x ∧ KeyedList p xs
def KeyedMembers (p : String → Prop) : List (String × Json) → Prop
  | [] => True
  | (k, x) :: ms => p k ∧ Keyed p x ∧ KeyedMembers p ms
end

theorem keyed_mem {ms : List (String × Json)} (h : KeyedMembers p ms) : ∀ k ∈ ms.map Prod.fst, p k := by
  induction ms with
  | nil => exact fun k hk => absurd hk List.not_mem_nil
  | cons m ms ih =>
    obtain ⟨l, x⟩ := m
    exact List.forall_mem_cons.2 ⟨h.1, ih h.2.2⟩

/-- Sorting by an order that agrees with code points on the keys of a list. -/
theorem mergeSort_agrees (hle : ∀ a b, p a → p b → le a b = codePointLe a b) {ms : List (String × Json)}
    (hp : ∀ k ∈ ms.map Prod.fst, p k) : ms.mergeSort (byKey le) = ms.mergeSort (byKey codePointLe) := by
  have hmem {m : String × Json} (hm : m ∈ ms) : p m.1 := hp _ (List.mem_map_of_mem hm)
  have hsort := @List.map_mergeSort _ _ (byKey le) (byKey codePointLe) id ms
    fun a ha b hb => hle a.1 b.1 (hmem ha) (hmem hb)
  rwa [List.map_id, List.map_id] at hsort

mutual
theorem sortKeys_agrees (hle : ∀ a b, p a → p b → le a b = codePointLe a b) : ∀ {v : Json}, Keyed p v →
    sortKeys le v = sortKeys codePointLe v
  | .null, _ => rfl
  | .bool _, _ => rfl
  | .int _, _ => rfl
  | .float _, _ => rfl
  | .str _, _ => rfl
  | .arr _, h => by rw [sortKeys, sortElems_agrees hle h, sortKeys]
  | .obj ms, h => by
    rw [sortKeys, sortMembers_agrees hle h, sortKeys, mergeSort_agrees hle]
    rw [map_sortMembers]
    exact keyed_mem h
theorem sortElems_agrees (hle : ∀ a b, p a → p b → le a b = codePointLe a b) : ∀ {xs : List Json}, KeyedList p xs →
    sortElems le xs = sortElems codePointLe xs
  | [], _ => rfl
  | _ :: _, h => by rw [sortElems, sortKeys_agrees hle h.1, sortElems_agrees hle h.2, sortElems]
theorem sortMembers_agrees (hle : ∀ a b, p a → p b → le a b = codePointLe a b) : ∀ {ms : List (String × Json)},
    KeyedMembers p ms → sortMembers le ms = sortMembers codePointLe ms
  | [], _ => rfl
  | (_, _) :: _, h => by rw [sortMembers, sortKeys_agrees hle h.2.1, sortMembers_agrees hle h.2.2, sortMembers]
end

end Agree

/-! ## The order of code units -/

/-- The UTF-16 code units of a character. -/
def codeUnits (c : Char) : List ℕ :=
  if c.toNat < 65536 then [c.toNat]
  else [55296 + (c.toNat - 65536) / 1024, 56320 + (c.toNat - 65536) % 1024]

/-- The order of `Array.prototype.sort` on strings. -/
def codeUnitLe (a b : String) : Bool := a.toList.flatMap codeUnits ≤ b.toList.flatMap codeUnits

theorem flatMap_codeUnits {s : List Char} (h : ∀ c ∈ s, c.toNat < 65536) : s.flatMap codeUnits = s.map Char.toNat := by
  induction s with
  | nil => rfl
  | cons c s ih =>
    have hc : codeUnits c = [c.toNat] := if_pos (h c List.mem_cons_self)
    rw [List.flatMap_cons, hc, ih fun d hd => h d (List.mem_cons_of_mem _ hd)]
    rfl

theorem map_toNat_le {s t : List Char} : s.map Char.toNat ≤ t.map Char.toNat ↔ s ≤ t := by
  have up {s t : List Char} (h : s < t) : s.map Char.toNat < t.map Char.toNat :=
    List.map_lt (fun x y hxy => UInt32.lt_iff_toNat_lt.1 hxy) h
  rw [← not_lt, ← not_lt]
  refine not_congr ⟨fun h => ?_, up⟩
  by_contra hle
  rcases lt_or_eq_of_le (not_lt.1 hle) with hlt | rfl
  · exact lt_asymm h (up hlt)
  · exact lt_irrefl _ h

/-- On characters below the surrogates both orders are one. -/
theorem codeUnitLe_eq {a b : String} (ha : ∀ c ∈ a.toList, c.toNat < 65536) (hb : ∀ c ∈ b.toList, c.toNat < 65536) :
    codeUnitLe a b = codePointLe a b := by
  rw [codeUnitLe, codePointLe, flatMap_codeUnits ha, flatMap_codeUnits hb]
  exact decide_eq_decide.2 (map_toNat_le.trans String.le_iff_toList_le.symm)

end VapEvidence.Json

import Mathlib.Data.List.Sort
import VapEvidence.ListExtends

set_option autoImplicit false

/-!
# Lists sorted by a key

A list whose elements have different keys has one sorted order, so what is read off the sorted
list does not depend on the order in which the elements came.
-/
namespace VapEvidence.SortedLists
variable {α β κ : Type} [LinearOrder κ]

def sortBy (key : α → κ) (l : List α) : List α := l.insertionSort fun a b => key a ≤ key b

theorem sortBy_perm (key : α → κ) (l : List α) : (sortBy key l).Perm l := List.perm_insertionSort _ l

theorem sortBy_sorted (key : α → κ) (l : List α) : (sortBy key l).Pairwise fun a b => key a ≤ key b := by
  have htotal : Std.Total fun a b : α => key a ≤ key b := ⟨fun a b => le_total _ _⟩
  have htrans : IsTrans α fun a b => key a ≤ key b := ⟨fun a b c => le_trans⟩
  exact List.pairwise_insertionSort _ l

/-- Two sorted lists of the same elements, whose keys tell them apart. -/
theorem eq_of_sorted {key : α → κ} {l l' : List α} (hp : l.Perm l') (hl : l.Pairwise fun a b => key a ≤ key b)
    (hl' : l'.Pairwise fun a b => key a ≤ key b) (hd : ∀ a ∈ l, ∀ b ∈ l, key a = key b → a = b) : l = l' :=
  hp.eq_of_pairwise (fun a b ha hb hab hba => hd a ha b (hp.mem_iff.2 hb) (le_antisymm hab hba)) hl hl'

theorem sortBy_eq {key : α → κ} {l l' : List α} (hp : l.Perm l') (hd : ∀ a ∈ l, ∀ b ∈ l, key a = key b → a = b) :
    sortBy key l = sortBy key l' := by
  have hmem (a : α) (ha : a ∈ sortBy key l) : a ∈ l := (sortBy_perm key l).mem_iff.1 ha
  exact eq_of_sorted ((sortBy_perm key l).trans (hp.trans (sortBy_perm key l').symm)) (sortBy_sorted key l)
    (sortBy_sorted key l') fun a ha b hb => hd a (hmem a ha) b (hmem b hb)

/-- A selection from sorted elements that keeps their keys is sorted. -/
theorem filterMap_sorted {key : α → κ} {key' : β → κ} {f : α → Option β} {l : List α}
    (hl : l.Pairwise fun a b => key a ≤ key b) (hf : ∀ a ∈ l, ∀ b, f a = some b → key' b = key a) :
    (l.filterMap f).Pairwise fun a b => key' a ≤ key' b := by
  refine List.pairwise_filterMap.2 (hl.imp_of_mem fun {a a'} ha ha' h b hb b' hb' => ?_)
  rw [hf a ha b hb, hf a' ha' b' hb']
  exact h

/-- What a function that may fail gives, where it is of interest. -/
def result? {ε γ : Type} (f : α → Except ε β) (g : β → Option γ) (a : α) : Option γ :=
  match f a with
  | .ok b => g b
  | .error _ => none

theorem filterMap_mapM {ε γ : Type} {f : α → Except ε β} {l : List α} {bs : List β} (h : l.mapM f = .ok bs)
    (g : β → Option γ) : bs.filterMap g = l.filterMap (result? f g) := by
  induction l generalizing bs with
  | nil =>
    cases h
    rfl
  | cons a l ih =>
    obtain ⟨b, rest, hb, hrest, rfl⟩ := mapM_cons_ok h
    rw [List.filterMap_cons, List.filterMap_cons, ih hrest, result?, hb]

theorem result?_eq_some {ε γ : Type} {f : α → Except ε β} {g : β → Option γ} {a : α} {c : γ} (h : result? f g a = some c) :
    ∃ b, f a = .ok b ∧ g b = some c := by
  unfold result? at h
  split at h
  · next b hb => exact ⟨b, hb, h⟩
  · cases h

/-- Selections from results, taken in the order of the keys, whose elements keep these keys. -/
theorem selection_sorted {ε γ : Type} {key : α → κ} {key' : γ → κ} {f : α → Except ε β} {g : β → Option γ} {l : List α}
    {bs : List β} (hl : (l.map key).Nodup) (h : (sortBy key l).mapM f = .ok bs)
    (hf : ∀ a b c, f a = .ok b → g b = some c → key' c = key a) :
    ((bs.filterMap g).Pairwise fun c c' => key' c ≤ key' c') ∧
      ∀ c ∈ bs.filterMap g, ∀ c' ∈ bs.filterMap g, key' c = key' c' → c = c' := by
  rw [filterMap_mapM h g]
  have hkey (a : α) (c : γ) (hc : result? f g a = some c) : key' c = key a := by
    obtain ⟨b, hb, hc⟩ := result?_eq_some hc
    exact hf a b c hb hc
  refine ⟨filterMap_sorted (sortBy_sorted key l) fun a _ c hc => hkey a c hc, fun c hc c' hc' he => ?_⟩
  obtain ⟨a, ha, hac⟩ := List.mem_filterMap.1 hc
  obtain ⟨a', ha', hac'⟩ := List.mem_filterMap.1 hc'
  rw [hkey a c hac, hkey a' c' hac'] at he
  have hmem (x : α) (hx : x ∈ sortBy key l) : x ∈ l := (sortBy_perm key l).mem_iff.1 hx
  obtain rfl := List.inj_on_of_nodup_map hl (hmem a ha) (hmem a' ha') he
  exact Option.some.inj (hac.symm.trans hac')

end VapEvidence.SortedLists

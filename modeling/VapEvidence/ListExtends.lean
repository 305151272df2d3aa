import VapEvidence.Fallible

set_option autoImplicit false

/-!
# Lists with elements added

A list extends another when it is that list with further elements, each satisfying a
condition, put in at any places.
-/
namespace VapEvidence

section Pairs
variable {α β : Type} {R : α → β → Prop} {l : List α} {r : List β}

theorem forall₂_left (h : List.Forall₂ R l r) {a : α} (ha : a ∈ l) : ∃ b ∈ r, R a b := by
  induction h with
  | nil => cases ha
  | cons hr _ ih =>
    rcases List.mem_cons.1 ha with rfl | ha
    · exact ⟨_, List.mem_cons_self, hr⟩
    · obtain ⟨b, hb, hab⟩ := ih ha
      exact ⟨b, List.mem_cons_of_mem _ hb, hab⟩

theorem forall₂_right (h : List.Forall₂ R l r) {b : β} (hb : b ∈ r) : ∃ a ∈ l, R a b := by
  induction h with
  | nil => cases hb
  | cons hr _ ih =>
    rcases List.mem_cons.1 hb with rfl | hb
    · exact ⟨_, List.mem_cons_self, hr⟩
    · obtain ⟨a, ha, hab⟩ := ih hb
      exact ⟨a, List.mem_cons_of_mem _ ha, hab⟩

end Pairs

inductive Extends {α : Type} (new : α → Prop) : List α → List α → Prop
  | nil : Extends new [] []
  | keep (a : α) {l l' : List α} : Extends new l l' → Extends new (a :: l) (a :: l')
  | add (a : α) {l l' : List α} : new a → Extends new l l' → Extends new l (a :: l')

namespace Extends
variable {α β : Type} {new : α → Prop} {l l' : List α}

theorem refl (l : List α) : Extends new l l := by
  induction l with
  | nil => exact .nil
  | cons a l ih => exact .keep a ih

theorem imp {weaker : α → Prop} (h : Extends new l l') (hw : ∀ a, new a → weaker a) : Extends weaker l l' := by
  induction h with
  | nil => exact .nil
  | keep a _ ih => exact .keep a ih
  | add a ha _ ih => exact .add a (hw a ha) ih

theorem mem (h : Extends new l l') {a : α} (ha : a ∈ l) : a ∈ l' := by
  induction h with
  | nil => exact ha
  | keep b _ ih =>
    rcases List.mem_cons.1 ha with rfl | ha
    · exact List.mem_cons_self
    · exact List.mem_cons_of_mem _ (ih ha)
  | add b _ _ ih => exact List.mem_cons_of_mem _ (ih ha)

theorem mem_or (h : Extends new l l') {a : α} (ha : a ∈ l') : a ∈ l ∨ new a := by
  induction h with
  | nil => exact .inl ha
  | keep b _ ih =>
    rcases List.mem_cons.1 ha with rfl | ha
    · exact .inl List.mem_cons_self
    · exact (ih ha).imp_left (List.mem_cons_of_mem _)
  | add b hb _ ih =>
    rcases List.mem_cons.1 ha with rfl | ha
    · exact .inr hb
    · exact ih ha

/-- A selection that leaves out what was added is the same. -/
theorem filter_eq (h : Extends new l l') {p : α → Bool} (hp : ∀ a, new a → p a = false) : l'.filter p = l.filter p := by
  induction h with
  | nil => rfl
  | keep a _ ih => rw [List.filter_cons, List.filter_cons, ih]
  | add a ha _ ih => rw [List.filter_cons_of_neg (by rw [hp a ha]; exact Bool.false_ne_true), ih]

theorem filter (h : Extends new l l') (p : α → Bool) : Extends new (l.filter p) (l'.filter p) := by
  induction h with
  | nil => exact .nil
  | keep a _ ih =>
    rw [List.filter_cons, List.filter_cons]
    split_ifs
    · exact .keep a ih
    · exact ih
  | add a ha _ ih =>
    rw [List.filter_cons]
    split_ifs
    · exact .add a ha ih
    · exact ih

theorem filterMap (h : Extends new l l') (f : α → Option β) :
    Extends (fun b => ∃ a, new a ∧ f a = some b) (l.filterMap f) (l'.filterMap f) := by
  induction h with
  | nil => exact .nil
  | keep a _ ih =>
    rw [List.filterMap_cons, List.filterMap_cons]
    cases f a with
    | none => exact ih
    | some b => exact .keep b ih
  | add a ha _ ih =>
    rw [List.filterMap_cons]
    cases hb : f a with
    | none => exact ih
    | some b => exact .add b ⟨a, ha, hb⟩ ih

/-- Additions that a function leaves out do not show. -/
theorem filterMap_eq (h : Extends new l l') {f : α → Option β} (hf : ∀ a, new a → f a = none) :
    l'.filterMap f = l.filterMap f := by
  induction h with
  | nil => rfl
  | keep a _ ih => rw [List.filterMap_cons, List.filterMap_cons, ih]
  | add a ha _ ih => rw [List.filterMap_cons_none (hf a ha), ih]

/-- The results for a longer list extend the results for the shorter one. -/
theorem mapM {ε : Type} (h : Extends new l l') {f : α → Except ε β} {bs bs' : List β} (hl : l.mapM f = .ok bs)
    (hl' : l'.mapM f = .ok bs') : Extends (fun b => ∃ a, new a ∧ f a = .ok b) bs bs' := by
  induction h generalizing bs bs' with
  | nil =>
    cases hl
    cases hl'
    exact .nil
  | keep a _ ih =>
    obtain ⟨b, rest, hb, hrest, rfl⟩ := mapM_cons_ok hl
    obtain ⟨b', rest', hb', hrest', rfl⟩ := mapM_cons_ok hl'
    obtain rfl := Except.ok.inj (hb.symm.trans hb')
    exact .keep b (ih hrest hrest')
  | add a ha _ ih =>
    obtain ⟨b', rest', hb', hrest', rfl⟩ := mapM_cons_ok hl'
    exact .add b' ⟨a, ha, hb'⟩ (ih hl hrest')

end Extends
end VapEvidence

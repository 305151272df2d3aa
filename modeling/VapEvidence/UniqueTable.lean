import Mathlib.Data.List.Basic
import Mathlib.Data.List.Pairwise

set_option autoImplicit false

/-!
# Tables with uniqueness constraints

Rows in insertion order, no two of which clash on their keys. An insertion that
would break a constraint is refused, so a table that breaks one cannot be built.
-/
namespace VapEvidence

/-- A list has at most one element if no two of them may stand together. -/
theorem length_le_one_of_pairwise {α : Type} {R : α → α → Prop} {l : List α} (hp : l.Pairwise R)
    (h : ∀ a ∈ l, ∀ b ∈ l, ¬ R a b) : l.length ≤ 1 := by
  match l with
  | [] => simp
  | [_] => simp
  | a :: b :: rest =>
    exact absurd ((List.pairwise_cons.1 hp).1 b List.mem_cons_self)
      (h a List.mem_cons_self b (List.mem_cons_of_mem _ List.mem_cons_self))

structure Table {α κ : Type} (key : α → κ) (clash : κ → κ → Prop) where
  rows : List α
  unique : rows.Pairwise fun a b => ¬ clash (key a) (key b)

namespace Table
variable {α κ : Type} {key : α → κ} {clash : κ → κ → Prop}

def empty : Table key clash := ⟨[], List.Pairwise.nil⟩

theorem ext_rows {t u : Table key clash} (h : t.rows = u.rows) : t = u := by
  cases t
  cases u
  cases h
  rfl

def insert [DecidableRel clash] (t : Table key clash) (a : α) : Option (Table key clash) :=
  if h : ∀ b ∈ t.rows, ¬ clash (key b) (key a) then
    some ⟨t.rows ++ [a], List.pairwise_append.2
      ⟨t.unique, List.pairwise_singleton _ _, fun b hb c hc => by
        obtain rfl := List.mem_singleton.1 hc
        exact h b hb⟩⟩
  else none

/-- Rewrites the rows that `p` selects, keys excepted. -/
def update (t : Table key clash) (p : α → Bool) (f : α → α) (hf : ∀ a, key (f a) = key a) :
    Table key clash :=
  ⟨t.rows.map fun a => if p a then f a else a, by
    have hkey : ∀ a, key (if p a then f a else a) = key a := by
      intro a
      split_ifs
      · exact hf a
      · rfl
    refine List.pairwise_map.2 (t.unique.imp fun h => ?_)
    rwa [hkey, hkey]⟩

@[simp] theorem empty_rows : (empty : Table key clash).rows = [] := rfl

theorem insert_some [DecidableRel clash] {t t' : Table key clash} {a : α} (h : t.insert a = some t') :
    t'.rows = t.rows ++ [a] ∧ ∀ b ∈ t.rows, ¬ clash (key b) (key a) := by
  unfold insert at h
  split_ifs at h with hc
  cases h
  exact ⟨rfl, hc⟩

theorem insert_isSome [DecidableRel clash] {t : Table key clash} {a : α}
    (h : ∀ b ∈ t.rows, ¬ clash (key b) (key a)) : ∃ t', t.insert a = some t' :=
  ⟨_, dif_pos h⟩

@[simp] theorem update_rows (t : Table key clash) (p : α → Bool) (f : α → α)
    (hf : ∀ a, key (f a) = key a) :
    (t.update p f hf).rows = t.rows.map fun a => if p a then f a else a := rfl

theorem eq_of_clash (symm : ∀ x y, clash x y → clash y x) (t : Table key clash) {a b : α}
    (ha : a ∈ t.rows) (hb : b ∈ t.rows) (h : clash (key a) (key b)) : a = b := by
  by_contra hne
  have hs : Std.Symm fun a b : α => ¬ clash (key a) (key b) := ⟨fun a b h hc => h (symm _ _ hc)⟩
  exact t.unique.forall ha hb hne h

/-- A selection that only one row can meet finds that row. -/
theorem find?_eq (symm : ∀ x y, clash x y → clash y x) (t : Table key clash) {a : α} (ha : a ∈ t.rows)
    {p : α → Bool} (hp : p a = true) (hc : ∀ b, p b = true → clash (key b) (key a)) : t.rows.find? p = some a := by
  obtain ⟨b, hb⟩ := Option.isSome_iff_exists.1 (List.find?_isSome.2 ⟨a, ha, hp⟩ : (t.rows.find? p).isSome = true)
  rw [hb, t.eq_of_clash symm (List.mem_of_find?_eq_some hb) ha (hc b (List.find?_some hb))]

/-- Among rows any two of which clash there is at most one. -/
theorem length_filter_le_one (t : Table key clash) (p : α → Bool)
    (h : ∀ a b, p a = true → p b = true → clash (key a) (key b)) :
    (t.rows.filter p).length ≤ 1 := by
  refine length_le_one_of_pairwise (t.unique.filter p) fun a ha b hb hne => hne ?_
  exact h a b (List.mem_filter.1 ha).2 (List.mem_filter.1 hb).2

end Table
end VapEvidence

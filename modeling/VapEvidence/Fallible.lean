import Mathlib.Data.List.Forall2

set_option autoImplicit false

/-!
# Computations that may fail

What the parts of a computation gave where the whole of it succeeded.
-/
namespace VapEvidence
variable {ε α β : Type}

theorem map_ok {x : Except ε α} {f : α → β} {b : β} (h : x.map f = .ok b) : ∃ a, x = .ok a ∧ f a = b := by
  cases x with
  | error e => cases h
  | ok a => exact ⟨a, rfl, by simpa [Except.map] using h⟩

theorem bind_ok {x : Except ε α} {f : α → Except ε β} {b : β} (h : (x >>= f) = .ok b) :
    ∃ a, x = .ok a ∧ f a = .ok b := by
  cases x with
  | error e => cases h
  | ok a => exact ⟨a, rfl, h⟩

section Loops
variable {l : List α}

theorem forM_ok {f : α → Except ε Unit} {u : Unit} (h : l.forM f = .ok u) : ∀ a ∈ l, f a = .ok () := by
  induction l with
  | nil => exact fun a ha => absurd ha List.not_mem_nil
  | cons a l ih =>
    obtain ⟨⟨⟩, ha, h⟩ := bind_ok h
    exact List.forall_mem_cons.2 ⟨ha, ih h⟩

theorem mapM_cons_ok {f : α → Except ε β} {a : α} {bs : List β} (h : (a :: l).mapM f = .ok bs) :
    ∃ b rest, f a = .ok b ∧ l.mapM f = .ok rest ∧ bs = b :: rest := by
  rw [List.mapM_cons] at h
  obtain ⟨b, hb, h⟩ := bind_ok h
  obtain ⟨rest, hrest, h⟩ := bind_ok h
  cases h
  exact ⟨b, rest, hb, hrest, rfl⟩

theorem mapM_ok {f : α → Except ε β} {bs : List β} (h : l.mapM f = .ok bs) :
    List.Forall₂ (fun a b => f a = .ok b) l bs := by
  induction l generalizing bs with
  | nil =>
    cases h
    exact .nil
  | cons a l ih =>
    obtain ⟨b, rest, hb, hrest, rfl⟩ := mapM_cons_ok h
    exact .cons hb (ih hrest)

theorem mapM_eq {f : α → Except ε β} {bs : List β} (h : List.Forall₂ (fun a b => f a = .ok b) l bs) :
    l.mapM f = .ok bs := by
  induction h with
  | nil => rfl
  | cons ha _ ih =>
    rw [List.mapM_cons, ha, ih]
    rfl

/-- A loop whose rounds all succeed does so. -/
theorem mapM_total {f : α → Except ε β} (h : ∀ a ∈ l, ∃ b, f a = .ok b) : ∃ bs, l.mapM f = .ok bs := by
  induction l with
  | nil => exact ⟨[], rfl⟩
  | cons a l ih =>
    obtain ⟨b, hb⟩ := h a List.mem_cons_self
    obtain ⟨bs, hbs⟩ := ih fun c hc => h c (List.mem_cons_of_mem _ hc)
    refine ⟨b :: bs, ?_⟩
    rw [List.mapM_cons, hb, hbs]
    rfl

end Loops

section Selections
variable {f : α → Except ε Bool}

/-- The computation succeeds and says yes. -/
def holds (f : α → Except ε Bool) (a : α) : Bool :=
  match f a with
  | .ok b => b
  | .error _ => false

theorem filterAuxM_ok {l acc kept : List α} (h : l.filterAuxM f acc = .ok kept) :
    (∀ a ∈ l, ∃ b, f a = .ok b) ∧ kept = (l.filter (holds f)).reverse ++ acc := by
  induction l generalizing acc with
  | nil =>
    cases h
    exact ⟨fun a ha => absurd ha List.not_mem_nil, rfl⟩
  | cons a l ih =>
    obtain ⟨b, hb, h⟩ := bind_ok h
    obtain ⟨hall, rfl⟩ := ih h
    refine ⟨List.forall_mem_cons.2 ⟨⟨b, hb⟩, hall⟩, ?_⟩
    have hholds : holds f a = b := by rw [holds, hb]
    cases b with
    | false => rw [List.filter_cons_of_neg (by rw [hholds]; exact Bool.false_ne_true), cond_false]
    | true => rw [List.filter_cons_of_pos hholds, List.reverse_cons, List.append_assoc, cond_true, List.singleton_append]

theorem filterM_ok {l kept : List α} (h : l.filterM f = .ok kept) :
    (∀ a ∈ l, ∃ b, f a = .ok b) ∧ kept = l.filter (holds f) := by
  obtain ⟨reversed, haux, h⟩ := bind_ok h
  obtain ⟨hall, rfl⟩ := filterAuxM_ok haux
  cases h
  exact ⟨hall, by rw [List.append_nil, List.reverse_reverse]⟩

/-- A selection succeeds where every element is decided. -/
theorem filterM_total {l : List α} (h : ∀ a ∈ l, ∃ b, f a = .ok b) : ∃ kept, l.filterM f = .ok kept := by
  have haux : ∀ acc, ∃ kept, l.filterAuxM f acc = .ok kept := by
    induction l with
    | nil => exact fun acc => ⟨acc, rfl⟩
    | cons a l ih =>
      intro acc
      obtain ⟨b, hb⟩ := h a List.mem_cons_self
      obtain ⟨kept, hkept⟩ := ih (fun c hc => h c (List.mem_cons_of_mem _ hc)) (cond b (a :: acc) acc)
      refine ⟨kept, ?_⟩
      rw [List.filterAuxM, hb]
      exact hkept
  obtain ⟨kept, hkept⟩ := haux []
  refine ⟨kept.reverse, ?_⟩
  rw [List.filterM, hkept]
  rfl

end Selections
end VapEvidence

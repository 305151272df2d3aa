import Mathlib.Logic.Relation
import Mathlib.Order.Basic

set_option autoImplicit false

/-!
# Stores fenced by a generation

A store remembers the latest generation of the processes that were started on it, and takes
new rows from processes of that generation only. However starts and insertions interleave,
the generation rises, each row was inserted under the generation it is stamped with, and a
process that was superseded inserts no more.
-/
namespace VapEvidence.Fence

structure State (G R : Type) where
  current : Option G
  holders : List G
  rows : List R

section Fences
variable {S G R : Type} [PartialOrder G] (stamped : R → G → Prop)

inductive Step : State G R → State G R → Prop where
  | start {s : State G R} (g : G) (rises : ∀ c, s.current = some c → c ≤ g) :
      Step s { s with current := some g, holders := g :: s.holders }
  | insert {s : State G R} {g : G} {r : R} (known : g ∈ s.holders) (now : s.current = some g)
      (stamp : stamped r g) :
      Step s { s with rows := s.rows ++ [r] }

/-- A system that holds a fenced store: each of its steps is a step of the store or leaves it. -/
def Fenced (T : S → S → Prop) (view : S → State G R) : Prop :=
  ∀ s t, T s t → view t = view s ∨ Step stamped (view s) (view t)

variable {stamped} {T : S → S → Prop} {view : S → State G R}

theorem Step.rises {s t : State G R} (h : Step stamped s t) {c : G} (hc : s.current = some c) :
    ∃ c', t.current = some c' ∧ c ≤ c' := by
  cases h with
  | start g rises => exact ⟨g, rfl, rises c hc⟩
  | insert known now stamp => exact ⟨c, hc, le_refl c⟩

/-- The generation never falls. -/
theorem Fenced.rises (hf : Fenced stamped T view) {s t : S} (h : Relation.ReflTransGen T s t) {c : G}
    (hc : (view s).current = some c) : ∃ c', (view t).current = some c' ∧ c ≤ c' := by
  induction h with
  | refl => exact ⟨c, hc, le_refl c⟩
  | tail _ hstep ih =>
    obtain ⟨c', hc', hle⟩ := ih
    rcases hf _ _ hstep with heq | hs
    · exact ⟨c', by rw [heq, hc'], hle⟩
    · obtain ⟨c'', hc'', hle'⟩ := hs.rises hc'
      exact ⟨c'', hc'', hle.trans hle'⟩

/-- A process has at most the current generation. -/
theorem Fenced.holders (hf : Fenced stamped T view) {s t : S} (h : Relation.ReflTransGen T s t)
    (hs : ∀ g ∈ (view s).holders, ∃ c, (view s).current = some c ∧ g ≤ c) :
    ∀ g ∈ (view t).holders, ∃ c, (view t).current = some c ∧ g ≤ c := by
  induction h with
  | refl => exact hs
  | @tail u v _ hstep ih =>
    rcases hf u v hstep with heq | hst
    · rw [heq]
      exact ih
    · generalize view u = x at hst ih
      generalize view v = y at hst
      cases hst with
      | start g rises =>
        intro g' hg'
        rcases List.mem_cons.1 hg' with rfl | hg'
        · exact ⟨g', rfl, le_refl g'⟩
        · obtain ⟨c, hc, hle⟩ := ih g' hg'
          exact ⟨g, rfl, hle.trans (rises c hc)⟩
      | insert known now stamp => exact ih

/-- A process that was superseded stays so. -/
theorem Fenced.superseded (hf : Fenced stamped T view) {s t : S} (h : Relation.ReflTransGen T s t) {c g : G}
    (hc : (view s).current = some c) (hle : g ≤ c) (hne : g ≠ c) : (view t).current ≠ some g := by
  intro ht
  obtain ⟨c', hc', hle'⟩ := hf.rises h hc
  obtain rfl := Option.some.inj (ht.symm.trans hc')
  exact hne (le_antisymm hle hle')

/-- A step between `s` and `t` inserted the row, under the generation `g` that it is stamped with. -/
def Inserted (stamped : R → G → Prop) (T : S → S → Prop) (view : S → State G R) (s t : S) (r : R)
    (g : G) : Prop :=
  ∃ u v, Relation.ReflTransGen T s u ∧ T u v ∧ Relation.ReflTransGen T v t ∧
    (view u).current = some g ∧ (view v).current = some g ∧ g ∈ (view u).holders ∧ stamped r g ∧
      (view v).rows = (view u).rows ++ [r]

omit [PartialOrder G] in
theorem Inserted.tail {s t u : S} {r : R} {g : G} (h : Inserted stamped T view s t r g) (hu : T t u) :
    Inserted stamped T view s u r g := by
  obtain ⟨v, w, hv, hstep, hw, rest⟩ := h
  exact ⟨v, w, hv, hstep, hw.tail hu, rest⟩

/-- Every row that a run added was inserted under its own generation. -/
theorem Fenced.inserted (hf : Fenced stamped T view) {s t : S} (h : Relation.ReflTransGen T s t) {r : R}
    (hr : r ∈ (view t).rows) : r ∈ (view s).rows ∨ ∃ g, Inserted stamped T view s t r g := by
  induction h with
  | refl => exact .inl hr
  | @tail u v hrun hstep ih =>
    have hold (hu : r ∈ (view u).rows) : r ∈ (view s).rows ∨ ∃ g, Inserted stamped T view s v r g :=
      (ih hu).imp_right fun ⟨g, hg⟩ => ⟨g, hg.tail hstep⟩
    rcases hf u v hstep with heq | hs
    · exact hold (heq ▸ hr)
    · generalize hx : view u = x at hs
      generalize hy : view v = y at hs
      cases hs with
      | start g rises =>
        rw [hy] at hr
        exact hold (hx ▸ hr)
      | @insert g r' known now stamp =>
        rw [hy] at hr
        rcases List.mem_append.1 hr with hu | hnew
        · exact hold (hx ▸ hu)
        · obtain rfl := List.mem_singleton.1 hnew
          refine .inr ⟨g, u, v, hrun, hstep, .refl, ?_, ?_, ?_, stamp, ?_⟩
          · rw [hx, now]
          · rw [hy, ← now]
          · rw [hx]
            exact known
          · rw [hy, hx]

end Fences
end VapEvidence.Fence

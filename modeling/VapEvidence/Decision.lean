import Mathlib.Data.List.Basic
import Mathlib.Tactic.TypeStar

set_option autoImplicit false

/-!
# Programs that decide

A checking program decides a proposition when it returns its value exactly where
the proposition holds and everywhere else fails with an error of the refusing
kind. Two programs that decide one proposition give one verdict.
-/
namespace VapEvidence

section
variable {ε α β : Type} {refused : ε → Prop}

structure Decides (refused : ε → Prop) (m : Except ε α) (P : Prop) (a : α) : Prop where
  accepts : P → m = .ok a
  refuses : ¬P → ∃ e, refused e ∧ m = .error e

namespace Decides

theorem congr {m : Except ε α} {P Q : Prop} {a : α} (h : Decides refused m P a) (hq : P ↔ Q) :
    Decides refused m Q a := ⟨fun q => h.accepts (hq.2 q), fun q => h.refuses fun p => q (hq.1 p)⟩

theorem value {m : Except ε α} {P : Prop} {a b : α} (h : Decides refused m P a) (hb : P → a = b) :
    Decides refused m P b := ⟨fun p => hb p ▸ h.accepts p, h.refuses⟩

theorem pure (a : α) : Decides refused (.ok a) True a := ⟨fun _ => rfl, fun h => absurd trivial h⟩

theorem error {e : ε} (he : refused e) (a : α) : Decides refused (.error e) False a :=
  ⟨False.elim, fun _ => ⟨e, he, rfl⟩⟩

/-- What follows a check may rely on it. -/
theorem bind {m : Except ε α} {f : α → Except ε β} {P Q : Prop} {a : α} {b : β}
    (h : Decides refused m P a) (hf : P → Decides refused (f a) Q b) :
    Decides refused (m >>= f) (P ∧ Q) b := by
  refine ⟨fun hpq => ?_, fun hpq => ?_⟩
  · rw [h.accepts hpq.1]
    exact (hf hpq.1).accepts hpq.2
  · by_cases hp : P
    · rw [h.accepts hp]
      exact (hf hp).refuses fun hq => hpq ⟨hp, hq⟩
    · obtain ⟨e, he, hm⟩ := h.refuses hp
      exact ⟨e, he, by rw [hm]; rfl⟩

/-- A step whose value is known decides nothing. -/
theorem known {m : Except ε α} {f : α → Except ε β} {P : Prop} {a : α} {b : β} (hm : m = .ok a)
    (hf : Decides refused (f a) P b) : Decides refused (m >>= f) P b := by
  rw [hm]
  exact hf

theorem map {m : Except ε α} {P : Prop} {a : α} (f : α → β) (h : Decides refused m P a) :
    Decides refused (m.map f) P (f a) := by
  refine ⟨fun hp => by rw [h.accepts hp]; rfl, fun hp => ?_⟩
  obtain ⟨e, he, hm⟩ := h.refuses hp
  exact ⟨e, he, by rw [hm]; rfl⟩

theorem ite {c P : Prop} [Decidable c] {m : Except ε α} {a : α} {e : ε} (he : refused e)
    (h : ¬c → Decides refused m P a) :
    Decides refused (if c then .error e else m) (¬c ∧ P) a := by
  by_cases hc : c
  · rw [if_pos hc]
    exact (error he a).congr ⟨False.elim, fun h => h.1 hc⟩
  · rw [if_neg hc]
    exact (h hc).congr ⟨fun p => ⟨hc, p⟩, fun p => p.2⟩

/-- A check of every element of a list. -/
theorem forM {f : α → Except ε Unit} {P : α → Prop} {xs : List α}
    (h : ∀ x ∈ xs, Decides refused (f x) (P x) ()) :
    Decides refused (xs.forM f) (∀ x ∈ xs, P x) () := by
  induction xs with
  | nil => exact (pure ()).congr (by simp)
  | cons x xs ih =>
    have hx : Decides refused (f x >>= fun _ => xs.forM f) _ _ :=
      (h x (by simp)).bind fun _ => ih fun y hy => h y (List.mem_cons_of_mem _ hy)
    exact hx.congr (by simp)

theorem mapError {ε' : Type} {refused' : ε' → Prop} {m : Except ε α} {P : Prop} {a : α} (g : ε → ε')
    (h : Decides refused m P a) (hg : ∀ e, refused e → refused' (g e)) :
    Decides refused' (m.mapError g) P a := by
  refine ⟨fun hp => by rw [h.accepts hp]; rfl, fun hp => ?_⟩
  obtain ⟨e, he, hm⟩ := h.refuses hp
  exact ⟨g e, hg e he, by rw [hm]; rfl⟩

theorem ok_iff {m : Except ε α} {P : Prop} {a : α} (h : Decides refused m P a) (b : α) :
    m = .ok b ↔ P ∧ b = a := by
  refine ⟨fun hm => ?_, fun hp => by rw [h.accepts hp.1, hp.2]⟩
  by_cases hp : P
  · rw [h.accepts hp] at hm
    exact ⟨hp, (Except.ok.inj hm).symm⟩
  · obtain ⟨e, -, he⟩ := h.refuses hp
    rw [he] at hm
    cases hm

theorem isOk_iff {m : Except ε α} {P : Prop} {a : α} (h : Decides refused m P a) :
    (∃ b, m = .ok b) ↔ P :=
  ⟨fun ⟨b, hb⟩ => ((h.ok_iff b).1 hb).1, fun hp => ⟨a, h.accepts hp⟩⟩

end Decides
end
end VapEvidence

import VapEvidence.Interleaving

set_option autoImplicit false

/-!
# How a call returns

A call that returns has performed its effects one by one on the states of the run.
`Answered` follows a program to its value through answers of a kind, `Concludes`
says that the answer to the last effect accounts for the value.
-/
namespace VapEvidence.Interleaving

namespace Prog
variable {E : Type} {Res : E → Type} {α β : Type}

/-- The program comes to the value when its effects get answers that `X` allows. -/
inductive Answered (X : (e : E) → Res e → Prop) : Prog E Res α → α → Prop where
  | ret (a : α) : Answered X (.ret a) a
  | eff {e : E} {k : Res e → Prog E Res α} {r : Res e} {a : α} (answer : X e r)
      (rest : Answered X (k r) a) : Answered X (.eff e k) a

variable {X : (e : E) → Res e → Prop}

theorem Answered.of_ret {a b : α} (h : Answered X (.ret a : Prog E Res α) b) : b = a := by
  cases h
  rfl

theorem Answered.of_eff {e : E} {k : Res e → Prog E Res α} {a : α} (h : Answered X (.eff e k) a) :
    ∃ r, X e r ∧ Answered X (k r) a := by
  cases h with
  | eff answer rest => exact ⟨_, answer, rest⟩

theorem Answered.mono {Y : (e : E) → Res e → Prop} {p : Prog E Res α} {a : α} (h : Answered X p a)
    (hXY : ∀ e r, X e r → Y e r) : Answered Y p a := by
  induction h with
  | ret a => exact .ret a
  | eff answer _ ih => exact .eff (hXY _ _ answer) ih

theorem Answered.of_bind {p : Prog E Res α} {f : α → Prog E Res β} {b : β}
    (h : Answered X (p >>= f) b) : ∃ a, Answered X p a ∧ Answered X (f a) b := by
  induction p with
  | ret a => exact ⟨a, .ret a, h⟩
  | eff e k ih =>
    obtain ⟨r, hr, hk⟩ := Answered.of_eff h
    obtain ⟨a, ha, hb⟩ := ih r hk
    exact ⟨a, .eff hr ha, hb⟩

theorem ret_of_bind {p : Prog E Res α} {f : α → Prog E Res β} {b : β} (h : (p >>= f) = .ret b) :
    ∃ a, p = .ret a ∧ f a = .ret b := by
  cases p with
  | ret a => exact ⟨a, rfl, h⟩
  | eff e k => cases h

/-- A value comes from the answer to the last effect, in the way `F` says. -/
def Concludes (F : (e : E) → Res e → α → Prop) : Prog E Res α → Prop
  | .ret _ => True
  | .eff e k => ∀ r, (∀ a, k r = .ret a → F e r a) ∧ (k r).Concludes F

variable {F : (e : E) → Res e → β → Prop}

theorem Concludes.mono {F' : (e : E) → Res e → β → Prop} {p : Prog E Res β} (hp : p.Concludes F)
    (h : ∀ e r b, F e r b → F' e r b) : p.Concludes F' := by
  induction p with
  | ret b => trivial
  | eff e k ih => exact fun r => ⟨fun b hb => h e r b ((hp r).1 b hb), ih r (hp r).2⟩

theorem Concludes.bind {p : Prog E Res α} {f : α → Prog E Res β}
    (hp : p.Concludes fun e r a => ∀ b, f a = .ret b → F e r b) (hf : ∀ a, (f a).Concludes F) :
    (p >>= f).Concludes F := by
  induction p with
  | ret a => exact hf a
  | eff e k ih =>
    intro r
    refine ⟨fun b hb => ?_, ih r (hp r).2⟩
    obtain ⟨a, ha, hb⟩ := ret_of_bind hb
    exact (hp r).1 a ha b hb

theorem Concludes.andThen {ε : Type} {F : (e : E) → Res e → Except ε β → Prop}
    {p : Prog E Res (Except ε α)} {f : α → Prog E Res (Except ε β)}
    (hp : p.Concludes fun e r x => match x with
      | .ok a => ∀ b, f a = .ret b → F e r b
      | .error x => F e r (.error x)) (hf : ∀ a, (f a).Concludes F) : (p.andThen f).Concludes F := by
  refine Concludes.bind (hp.mono fun e r x hx b hb => ?_) fun x => ?_
  · cases x with
    | ok a => exact hx b hb
    | error x =>
      cases hb
      exact hx
  · cases x with
    | ok a => exact hf a
    | error x => trivial

/-- A program that goes on to more effects concludes with those. -/
theorem Concludes.pending {p : Prog E Res α} {f : α → Prog E Res β}
    (hpending : ∀ a b, f a ≠ .ret b) (hf : ∀ a, (f a).Concludes F) : (p >>= f).Concludes F := by
  refine Concludes.bind ?_ hf
  induction p with
  | ret a => trivial
  | eff e k ih => exact fun r => ⟨fun a _ b hb => absurd hb (hpending a b), ih r⟩

theorem Concludes.answered {e : E} {k : Res e → Prog E Res β} {b : β} (hp : (eff e k).Concludes F)
    (h : Answered X (.eff e k) b) : ∃ e r, X e r ∧ F e r b := by
  generalize hq : Prog.eff e k = q at hp h
  induction h generalizing e k with
  | ret a => cases hq
  | @eff e' k' r a answer rest ih =>
    cases hk : k' r with
    | ret c =>
      rw [hk] at rest
      obtain rfl := Answered.of_ret rest
      exact ⟨e', r, answer, (hp r).1 _ hk⟩
    | eff e'' k'' => exact ih hk.symm (hp r).2

end Prog

section Runs
variable {S E : Type} {Res : E → Type} {C α : Type}
variable {sem : Semantics S E Res} {allowed : S → C → Prop} {body : C → Prog E Res α}

/-- What is left of a process to come to a value of its call. -/
def Finishes (body : C → Prog E Res α) (X : (e : E) → Res e → Prop) (c : C) (a : α) : Proc E Res C α → Prop
  | .idle => (body c).Answered X a
  | .live d p => d = c ∧ p.Answered X a
  | .crashed _ => False

theorem Finishes.mono {X Y : (e : E) → Res e → Prop} {c : C} {a : α} {p : Proc E Res C α}
    (h : Finishes body X c a p) (hXY : ∀ e r, X e r → Y e r) : Finishes body Y c a p := by
  cases p with
  | idle => exact Prog.Answered.mono h hXY
  | live d p => exact ⟨h.1, h.2.mono hXY⟩
  | crashed d => exact h

/-- Between two worlds of a run, call `c` of process `i` performed the effect and got the answer. -/
def Performed (sem : Semantics S E Res) (allowed : S → C → Prop) (body : C → Prog E Res α)
    (w w' : World S E Res C α) (i : ℕ) (c : C) (e : E) (r : Res e) : Prop :=
  ∃ v v', Run sem allowed body w v ∧ Run sem allowed body v v' ∧ Run sem allowed body v' w' ∧
    (∃ k, v.procs i = .live c (.eff e k)) ∧ sem.exec i v.shared e v'.shared r

theorem Performed.earlier {w u w' : World S E Res C α} {i : ℕ} {c : C} {e : E} {r : Res e}
    (h : Performed sem allowed body u w' i c e r) (hs : Step sem allowed body w u) :
    Performed sem allowed body w w' i c e r := by
  obtain ⟨v, v', hv, hrest⟩ := h
  exact ⟨v, v', .head hs hv, hrest⟩

/-- A process that has returned got its answers from the states of the run. -/
theorem finishes_run {w w' : World S E Res C α} (hs : Run sem allowed body w w') {i : ℕ} {c : C} {a : α}
    (hi : w'.procs i = .live c (.ret a)) :
    Finishes body (Performed sem allowed body w w' i c) c a (w.procs i) := by
  induction hs using Relation.ReflTransGen.head_induction_on with
  | refl =>
    rw [hi]
    exact ⟨rfl, .ret a⟩
  | @head w u hstep hrest ih =>
    have hu := ih.mono fun e r h => h.earlier hstep
    cases hstep with
    | spawn j d free ok =>
      by_cases hj : i = j
      · subst j
        simp only [Function.update_self] at hu
        rw [free]
        obtain ⟨rfl, hd⟩ := hu
        exact hd
      · simpa only [Function.update_of_ne hj] using hu
    | @run j d e k s r at_eff done =>
      by_cases hj : i = j
      · subst j
        simp only [Function.update_self] at hu
        rw [at_eff]
        obtain ⟨rfl, hd⟩ := hu
        exact ⟨rfl, .eff ⟨w, _, .refl, .single (.run i at_eff done), hrest, ⟨k, at_eff⟩, done⟩ hd⟩
      · simpa only [Function.update_of_ne hj] using hu
    | environment done => exact hu
    | crash j running =>
      by_cases hj : i = j
      · subst j
        simp only [Function.update_self] at hu
        exact hu.elim
      · simpa only [Function.update_of_ne hj] using hu

/-- What every program keeps while it runs holds of each process of a run. -/
theorem residual_run {P : C → Prog E Res α → Prop} (hbody : ∀ c, P c (body c))
    (hnext : ∀ {c e k} (r : Res e), P c (.eff e k) → P c (k r)) {s : S} {w : World S E Res C α}
    (hs : Run sem allowed body (World.initial s) w) {i : ℕ} {c : C} {p : Prog E Res α}
    (hi : w.procs i = .live c p) : P c p := by
  induction hs generalizing i c p with
  | refl => cases hi
  | tail _ hstep ih =>
    cases hstep with
    | spawn j d free ok =>
      by_cases hj : i = j
      · subst j
        simp only [Function.update_self, Proc.live.injEq] at hi
        obtain ⟨rfl, rfl⟩ := hi
        exact hbody d
      · exact ih (by simpa only [Function.update_of_ne hj] using hi)
    | run j at_eff done =>
      by_cases hj : i = j
      · subst j
        simp only [Function.update_self, Proc.live.injEq] at hi
        obtain ⟨rfl, rfl⟩ := hi
        exact hnext _ (ih at_eff)
      · exact ih (by simpa only [Function.update_of_ne hj] using hi)
    | environment done => exact ih hi
    | crash j running =>
      by_cases hj : i = j
      · subst j
        simp only [Function.update_self] at hi
        cases hi
      · exact ih (by simpa only [Function.update_of_ne hj] using hi)

/-- What each effect keeps, performed by a call that was allowed and still stands, holds of every run. -/
theorem inv_uses {I : S → Prop} {K : C → S → Prop} {A : C → E → Prop} {s : S} (h₀ : I s)
    (hbody : ∀ c, (body c).Uses (A c)) (hallowed : ∀ {s c}, allowed s c → K c s)
    (hexec : ∀ {i c s e t r}, I s → K c s → A c e → sem.exec i s e t r → I t)
    (henv : ∀ {s t}, I s → sem.env s t → I t)
    (hK : ∀ {i s e t r}, sem.exec i s e t r → ∀ c, K c s → K c t)
    (hKenv : ∀ {s t}, sem.env s t → ∀ c, K c s → K c t) {w : World S E Res C α}
    (hs : Run sem allowed body (World.initial s) w) :
    I w.shared ∧ ∀ i c p, w.procs i = .live c p → K c w.shared := by
  induction hs with
  | refl => exact ⟨h₀, fun i c p hi => by cases hi⟩
  | @tail v v' hrun hstep ih =>
    obtain ⟨hI, hlive⟩ := ih
    cases hstep with
    | spawn j d free ok =>
      refine ⟨hI, fun i c p hi => ?_⟩
      by_cases hj : i = j
      · subst j
        simp only [Function.update_self, Proc.live.injEq] at hi
        obtain ⟨rfl, -⟩ := hi
        exact hallowed ok
      · exact hlive i c p (by simpa only [Function.update_of_ne hj] using hi)
    | @run j d e k t r at_eff done =>
      have huses := residual_run (P := fun c p => p.Uses (A c)) hbody (fun r h => h.2 r) hrun at_eff
      refine ⟨hexec hI (hlive j d _ at_eff) huses.1 done, fun i c p hi => hK done c ?_⟩
      by_cases hj : i = j
      · subst j
        simp only [Function.update_self, Proc.live.injEq] at hi
        obtain ⟨rfl, -⟩ := hi
        exact hlive i d _ at_eff
      · exact hlive i c p (by simpa only [Function.update_of_ne hj] using hi)
    | environment done => exact ⟨henv hI done, fun i c p hi => hKenv done c (hlive i c p hi)⟩
    | crash j running =>
      refine ⟨hI, fun i c p hi => hlive i c p ?_⟩
      by_cases hj : i = j
      · subst j
        simp only [Function.update_self] at hi
        cases hi
      · simpa only [Function.update_of_ne hj] using hi

/-- A call that is not done yet concludes from an answer it is still to get. -/
theorem concludes_run {F : C → (e : E) → Res e → α → Prop} (hbody : ∀ c, (body c).Concludes (F c)) {s : S}
    {w w' : World S E Res C α} (hw : Run sem allowed body (World.initial s) w) (hs : Run sem allowed body w w')
    {i : ℕ} {c : C} {a : α} (hopen : ∀ b, w.procs i ≠ .live c (.ret b)) (hi : w'.procs i = .live c (.ret a)) :
    body c = .ret a ∨ ∃ e r, Performed sem allowed body w w' i c e r ∧ F c e r a := by
  have hf := finishes_run hs hi
  have hall := fun {d p} (hp : w.procs i = .live d p) =>
    residual_run (P := fun c p => p.Concludes (F c)) hbody (fun r h => (h r).2) hw hp
  cases hp : w.procs i with
  | idle =>
    rw [hp] at hf
    change (body c).Answered _ a at hf
    have hc := hbody c
    cases hb : body c with
    | ret b =>
      rw [hb] at hf
      rw [Prog.Answered.of_ret hf]
      exact .inl rfl
    | eff e k =>
      rw [hb] at hf hc
      exact .inr (hc.answered hf)
  | live d p =>
    rw [hp] at hf
    obtain ⟨rfl, hf⟩ := hf
    have hc := hall hp
    cases p with
    | ret b => exact absurd hp (hopen b)
    | eff e k => exact .inr (hc.answered hf)
  | crashed d =>
    rw [hp] at hf
    exact hf.elim

end Runs
end VapEvidence.Interleaving

import Mathlib.Data.Nat.Notation
import Mathlib.Logic.Relation
import Mathlib.Logic.Function.Basic

set_option autoImplicit false

/-!
# Calls that interleave at their effects

A call is a program over atomic effects. Any number of calls run on one shared
state, one effect at a time, between steps of an environment, and any call may
crash before its next effect. A rely for each call says what the others may do;
`wp` carries a call's own assertions through its program.
-/
namespace VapEvidence.Interleaving

inductive Prog (E : Type) (Res : E → Type) (α : Type) where
  | ret (a : α)
  | eff (e : E) (k : Res e → Prog E Res α)

namespace Prog
variable {E : Type} {Res : E → Type} {α β : Type}

def bind : Prog E Res α → (α → Prog E Res β) → Prog E Res β
  | .ret a, f => f a
  | .eff e k, f => .eff e fun r => (k r).bind f

instance : Monad (Prog E Res) where
  pure := .ret
  bind := bind

def perform (e : E) : Prog E Res (Res e) := .eff e .ret

@[simp] theorem pure_eq (a : α) : (pure a : Prog E Res α) = .ret a := rfl

@[simp] theorem ret_bind (a : α) (f : α → Prog E Res β) : (Prog.ret a >>= f) = f a := rfl

@[simp] theorem eff_bind (e : E) (k : Res e → Prog E Res α) (f : α → Prog E Res β) :
    (Prog.eff e k >>= f) = .eff e fun r => k r >>= f := rfl

theorem map_eq (f : α → β) (p : Prog E Res α) : f <$> p = p >>= fun a => .ret (f a) := rfl

@[simp] theorem perform_bind (e : E) (f : Res e → Prog E Res β) :
    (perform e >>= f) = .eff e f := rfl

/-- Sequencing of programs that may raise. -/
def andThen {ε : Type} (p : Prog E Res (Except ε α)) (f : α → Prog E Res (Except ε β)) :
    Prog E Res (Except ε β) :=
  p.bind fun
    | .ok a => f a
    | .error e => .ret (.error e)

@[simp] theorem ok_andThen {ε : Type} (a : α) (f : α → Prog E Res (Except ε β)) :
    (Prog.ret (.ok a) : Prog E Res (Except ε α)).andThen f = f a := rfl

@[simp] theorem error_andThen {ε : Type} (e : ε) (f : α → Prog E Res (Except ε β)) :
    (Prog.ret (.error e) : Prog E Res (Except ε α)).andThen f = .ret (.error e) := rfl

/-- Every effect a program may perform satisfies `A`. -/
def Uses (A : E → Prop) : Prog E Res α → Prop
  | .ret _ => True
  | .eff e k => A e ∧ ∀ r, Uses A (k r)

theorem Uses.single {A : E → Prop} {e : E} (he : A e) : (perform e : Prog E Res (Res e)).Uses A :=
  ⟨he, fun _ => trivial⟩

theorem Uses.bind {A : E → Prop} {p : Prog E Res α} {f : α → Prog E Res β} (hp : Uses A p)
    (hf : ∀ a, Uses A (f a)) : Uses A (p >>= f) := by
  induction p with
  | ret a => exact hf a
  | eff e k ih => exact ⟨hp.1, fun r => ih r (hp.2 r)⟩

theorem Uses.andThen {ε : Type} {A : E → Prop} {p : Prog E Res (Except ε α)}
    {f : α → Prog E Res (Except ε β)} (hp : Uses A p) (hf : ∀ a, Uses A (f a)) :
    Uses A (p.andThen f) :=
  Uses.bind hp fun
    | .ok a => hf a
    | .error _ => trivial

/-- Every value a program may return satisfies `P`. -/
def Returns (P : α → Prop) : Prog E Res α → Prop
  | .ret a => P a
  | .eff _ k => ∀ r, Returns P (k r)

theorem Returns.bind {P : α → Prop} {P' : β → Prop} {p : Prog E Res α} {f : α → Prog E Res β}
    (hp : Returns P p) (hf : ∀ a, P a → Returns P' (f a)) : Returns P' (p >>= f) := by
  induction p with
  | ret a => exact hf a hp
  | eff e k ih => exact fun r => ih r (hp r)

theorem Uses.mono {A B : E → Prop} (h : ∀ e, A e → B e) {p : Prog E Res α} (hp : Uses A p) :
    Uses B p := by
  induction p with
  | ret a => trivial
  | eff e k ih => exact ⟨h e hp.1, fun r => ih r (hp.2 r)⟩

/-- A program over some of the effects of a larger set. -/
def lift {E' : Type} {Res' : E' → Type} (up : E → E') : Prog E (fun e => Res' (up e)) α → Prog E' Res' α
  | .ret a => .ret a
  | .eff e k => .eff (up e) fun r => (k r).lift up

theorem Uses.lift {E' : Type} {Res' : E' → Type} {up : E → E'} {A : E' → Prop}
    {p : Prog E (fun e => Res' (up e)) α} (hp : p.Uses fun e => A (up e)) : (p.lift up).Uses A := by
  induction p with
  | ret a => trivial
  | eff e k ih => exact ⟨hp.1, fun r => ih r (hp.2 r)⟩

end Prog

/-- How an effect of call `i` may change the state and answer, and what happens around the calls. -/
structure Semantics (S E : Type) (Res : E → Type) where
  exec : ℕ → S → (e : E) → S → Res e → Prop
  env : S → S → Prop

inductive Proc (E : Type) (Res : E → Type) (C α : Type) where
  | idle
  | live (c : C) (p : Prog E Res α)
  | crashed (c : C)

/-- The call that a process runs or ran. -/
def Proc.call {E : Type} {Res : E → Type} {C α : Type} : Proc E Res C α → Option C
  | .idle => none
  | .live c _ => some c
  | .crashed c => some c

structure World (S E : Type) (Res : E → Type) (C α : Type) where
  shared : S
  procs : ℕ → Proc E Res C α

section Runs
variable {S E : Type} {Res : E → Type} {C α : Type}
variable (sem : Semantics S E Res) (allowed : S → C → Prop) (body : C → Prog E Res α)

def World.initial (s : S) : World S E Res C α := ⟨s, fun _ => .idle⟩

inductive Step : World S E Res C α → World S E Res C α → Prop where
  | spawn {w : World S E Res C α} (i : ℕ) (c : C) (free : w.procs i = .idle)
      (ok : allowed w.shared c) :
      Step w { w with procs := Function.update w.procs i (.live c (body c)) }
  | run {w : World S E Res C α} (i : ℕ) {c : C} {e : E} {k : Res e → Prog E Res α} {s : S}
      {r : Res e} (at_eff : w.procs i = .live c (.eff e k)) (done : sem.exec i w.shared e s r) :
      Step w ⟨s, Function.update w.procs i (.live c (k r))⟩
  | environment {w : World S E Res C α} {s : S} (done : sem.env w.shared s) :
      Step w { w with shared := s }
  | crash {w : World S E Res C α} (i : ℕ) {c : C} {p : Prog E Res α}
      (running : w.procs i = .live c p) :
      Step w { w with procs := Function.update w.procs i (.crashed c) }

/-- A finite run from one world to another. -/
abbrev Run : World S E Res C α → World S E Res C α → Prop :=
  Relation.ReflTransGen (Step sem allowed body)

variable {sem allowed body}

/-- A step that gives process `i` a call either starts it or finds it there. -/
theorem Step.call {w w' : World S E Res C α} (hs : Step sem allowed body w w') {i : ℕ} {c : C}
    (hc : (w'.procs i).call = some c) : (w.procs i).call = some c ∨ allowed w.shared c := by
  cases hs with
  | spawn j d free ok =>
    by_cases hj : i = j
    · subst j
      simp only [Function.update_self, Proc.call, Option.some.injEq] at hc
      exact .inr (hc ▸ ok)
    · exact .inl (by simpa only [Function.update_of_ne hj] using hc)
  | run j at_eff done =>
    by_cases hj : i = j
    · subst j
      simp only [Function.update_self, Proc.call] at hc
      exact .inl (by rw [at_eff]; exact hc)
    · exact .inl (by simpa only [Function.update_of_ne hj] using hc)
  | environment done => exact .inl hc
  | crash j running =>
    by_cases hj : i = j
    · subst j
      simp only [Function.update_self, Proc.call] at hc
      exact .inl (by rw [running]; exact hc)
    · exact .inl (by simpa only [Function.update_of_ne hj] using hc)

/-- Every call of a run was allowed when it started. -/
theorem called_run {A : C → Prop} (hA : ∀ s c, allowed s c → A c) {s : S} {w : World S E Res C α}
    (hs : Run sem allowed body (World.initial s) w) {i : ℕ} {c : C}
    (hc : (w.procs i).call = some c) : A c := by
  induction hs with
  | refl => cases hc
  | tail _ hstep ih =>
    rcases hstep.call hc with hc | ok
    · exact ih hc
    · exact hA _ _ ok

end Runs

/-- An invariant of the shared state with the interference each call tolerates. -/
structure Outline (S : Type) where
  inv : S → Prop
  rely : ℕ → S → S → Prop
  fresh : ℕ → S → Prop
  rely_refl : ∀ i s, rely i s s
  rely_trans : ∀ {i s t u}, rely i s t → rely i t u → rely i s u
  fresh_stable : ∀ {i s t}, rely i s t → fresh i s → fresh i t

section Rules
variable {S E : Type} {Res : E → Type} {C α β : Type}
variable (sem : Semantics S E Res) (o : Outline S)

/-- From `s`, every effect of the rest of call `i` keeps the invariant and the
    others' relies, whatever they do in between, and a return establishes `Q`. -/
def wp (i : ℕ) : Prog E Res α → (α → S → Prop) → S → Prop
  | .ret a, Q, s => Q a s
  | .eff e k, Q, s => ∀ s₁, o.rely i s s₁ → o.inv s₁ → ∀ s₂ r, sem.exec i s₁ e s₂ r →
      (o.inv s₂ ∧ ∀ j, j ≠ i → o.rely j s₁ s₂) ∧ wp i (k r) Q s₂

theorem wp_ret {i : ℕ} {a : α} {Q : α → S → Prop} {s : S} :
    wp sem o i (.ret a) Q s ↔ Q a s := Iff.rfl

theorem wp_mono {i : ℕ} {p : Prog E Res α} {Q Q' : α → S → Prop} {s : S}
    (h : wp sem o i p Q s) (hQ : ∀ a s, Q a s → Q' a s) : wp sem o i p Q' s := by
  induction p generalizing s with
  | ret a => exact hQ a s h
  | eff e k ih =>
    intro s₁ hr hi s₂ r hx
    obtain ⟨hg, hk⟩ := h s₁ hr hi s₂ r hx
    exact ⟨hg, ih r hk⟩

theorem wp_bind {i : ℕ} {p : Prog E Res α} {f : α → Prog E Res β} {Q : β → S → Prop} {s : S}
    (h : wp sem o i p (fun a s => wp sem o i (f a) Q s) s) : wp sem o i (p >>= f) Q s := by
  induction p generalizing s with
  | ret a => exact h
  | eff e k ih =>
    intro s₁ hr hi s₂ r hx
    obtain ⟨hg, hk⟩ := h s₁ hr hi s₂ r hx
    exact ⟨hg, ih r hk⟩

theorem wp_andThen {ε : Type} {i : ℕ} {p : Prog E Res (Except ε α)}
    {f : α → Prog E Res (Except ε β)} {Q : Except ε β → S → Prop} {s : S}
    (h : wp sem o i p (fun x s => match x with
      | .ok a => wp sem o i (f a) Q s
      | .error e => Q (.error e) s) s) : wp sem o i (p.andThen f) Q s :=
  wp_bind sem o (wp_mono sem o h fun x s hx => by cases x <;> exact hx)

/-- A program whose effects all keep the invariant, the relies and an assertion of its own. -/
theorem wp_uses {i : ℕ} {A : E → Prop} {K : S → Prop}
    (hrely : ∀ {s t}, o.rely i s t → o.inv t → K s → K t)
    (hexec : ∀ e, A e → ∀ {s t r}, o.inv s → K s → sem.exec i s e t r →
      (o.inv t ∧ ∀ j, j ≠ i → o.rely j s t) ∧ K t)
    {p : Prog E Res α} (hp : p.Uses A) {s : S} (hK : K s) :
    wp sem o i p (fun _ s => K s) s := by
  induction p generalizing s with
  | ret a => exact hK
  | eff e k ih =>
    intro s₁ hr hi s₂ r hx
    obtain ⟨hg, hK₂⟩ := hexec e hp.1 hi (hrely hr hi hK) hx
    exact ⟨hg, ih r (hp.2 r) hK₂⟩

theorem wp_and {i : ℕ} {p : Prog E Res α} {Q Q' : α → S → Prop} {s : S}
    (h : wp sem o i p Q s) (h' : wp sem o i p Q' s) : wp sem o i p (fun a s => Q a s ∧ Q' a s) s := by
  induction p generalizing s with
  | ret a => exact ⟨h, h'⟩
  | eff e k ih =>
    intro s₁ hr hi s₂ r hx
    obtain ⟨hg, hk⟩ := h s₁ hr hi s₂ r hx
    exact ⟨hg, ih r hk (h' s₁ hr hi s₂ r hx).2⟩

theorem wp_returns {i : ℕ} {p : Prog E Res α} {P : α → Prop} {Q : α → S → Prop} {s : S}
    (h : wp sem o i p Q s) (hp : p.Returns P) : wp sem o i p (fun a s => Q a s ∧ P a) s := by
  induction p generalizing s with
  | ret a => exact ⟨h, hp⟩
  | eff e k ih =>
    intro s₁ hr hi s₂ r hx
    obtain ⟨hg, hk⟩ := h s₁ hr hi s₂ r hx
    exact ⟨hg, ih r hk (hp r)⟩

/-- A transitive relation that every rely implies holds from a program's start to its end. -/
theorem wp_rel {G : S → S → Prop} (hrefl : ∀ s, G s s) (htrans : ∀ {s t u}, G s t → G t u → G s u)
    (hG : ∀ {j s t}, o.rely j s t → G s t) {i : ℕ} {p : Prog E Res α} {Q : α → S → Prop} {s : S}
    (h : wp sem o i p Q s) : wp sem o i p (fun a t => Q a t ∧ G s t) s := by
  induction p generalizing s with
  | ret a => exact ⟨h, hrefl s⟩
  | eff e k ih =>
    intro s₁ hr hi s₂ r hx
    obtain ⟨hg, hk⟩ := h s₁ hr hi s₂ r hx
    have hst := htrans (hG hr) (hG (hg.2 (i + 1) (Nat.succ_ne_self i)))
    exact ⟨hg, wp_mono sem o (ih r hk) fun a t ht => ⟨ht.1, htrans hst ht.2⟩⟩

/-- A postcondition that already allows for later interference. -/
def lasting (i : ℕ) (Q : α → S → Prop) (a : α) (s : S) : Prop :=
  ∀ s₁, o.rely i s s₁ → o.inv s₁ → Q a s₁

theorem wp_rely {i : ℕ} {p : Prog E Res α} {Q : α → S → Prop} {s t : S}
    (h : wp sem o i p (lasting o i Q) s) (ht : o.rely i s t) :
    wp sem o i p (lasting o i Q) t := by
  cases p with
  | ret a => exact fun u hu => h u (o.rely_trans ht hu)
  | eff e k => exact fun u hu => h u (o.rely_trans ht hu)

/-- What holds of a world throughout a run: the invariant, and of each call what is left to prove. -/
def Sound (post : ℕ → C → α → S → Prop) (w : World S E Res C α) : Prop :=
  o.inv w.shared ∧ ∀ i, match w.procs i with
    | .idle => o.fresh i w.shared
    | .live c p => wp sem o i p (lasting o i (post i c)) w.shared
    | .crashed _ => True

variable (allowed : S → C → Prop) (body : C → Prog E Res α) (post : ℕ → C → α → S → Prop)

/-- What a call and the environment must be shown to respect. -/
structure Respects : Prop where
  environment : ∀ {s t}, o.inv s → sem.env s t → o.inv t ∧ ∀ j, o.rely j s t
  call : ∀ {i c s}, o.inv s → o.fresh i s → allowed s c →
    wp sem o i (body c) (lasting o i (post i c)) s

variable {sem o allowed body post}

theorem sound_step (h : Respects sem o allowed body post) {w w' : World S E Res C α}
    (hw : Sound sem o post w) (hs : Step sem allowed body w w') : Sound sem o post w' := by
  obtain ⟨hinv, hproc⟩ := hw
  cases hs with
  | spawn i c free ok =>
    refine ⟨hinv, fun j => ?_⟩
    by_cases hj : j = i
    · subst j
      have hfree := hproc i
      rw [free] at hfree
      simpa using h.call hinv hfree ok
    · simpa [Function.update_of_ne hj] using hproc j
  | @run i c e k s r at_eff done =>
    have hi := hproc i
    rw [at_eff] at hi
    obtain ⟨⟨hinv', hrely⟩, hk⟩ := hi _ (o.rely_refl i _) hinv _ _ done
    refine ⟨hinv', fun j => ?_⟩
    by_cases hj : j = i
    · subst j
      simpa using hk
    · have hold := hproc j
      simp only [Function.update_of_ne hj]
      cases hp : w.procs j with
      | idle => rw [hp] at hold; exact o.fresh_stable (hrely j hj) hold
      | live c p => rw [hp] at hold; exact wp_rely sem o hold (hrely j hj)
      | crashed c => trivial
  | environment done =>
    obtain ⟨hinv', hrely⟩ := h.environment hinv done
    refine ⟨hinv', fun j => ?_⟩
    have hold := hproc j
    dsimp only
    cases hp : w.procs j with
    | idle => rw [hp] at hold; exact o.fresh_stable (hrely j) hold
    | live c p => rw [hp] at hold; exact wp_rely sem o hold (hrely j)
    | crashed c => trivial
  | @crash i c p running =>
    refine ⟨hinv, fun j => ?_⟩
    by_cases hj : j = i
    · subst j
      simp
    · simpa [Function.update_of_ne hj] using hproc j

theorem sound_run (h : Respects sem o allowed body post) {w w' : World S E Res C α}
    (hw : Sound sem o post w) (hs : Run sem allowed body w w') : Sound sem o post w' := by
  induction hs with
  | refl => exact hw
  | tail _ hstep ih => exact sound_step h ih hstep

theorem sound_initial {s : S} (hinv : o.inv s) (hfresh : ∀ i, o.fresh i s) :
    Sound sem o post (World.initial s : World S E Res C α) := ⟨hinv, hfresh⟩

theorem Sound.inv {w : World S E Res C α} (h : Sound sem o post w) : o.inv w.shared := h.1

/-- A call that has returned keeps its postcondition. -/
theorem Sound.returned {w : World S E Res C α} (h : Sound sem o post w) {i : ℕ} {c : C} {a : α}
    (hi : w.procs i = .live c (.ret a)) : post i c a w.shared := by
  have := h.2 i
  rw [hi] at this
  exact this _ (o.rely_refl i _) h.1

/-- A transitive relation that every rely implies holds along a run. -/
theorem sound_run_rel (h : Respects sem o allowed body post) {G : S → S → Prop}
    (hrefl : ∀ s, G s s) (htrans : ∀ {s t u}, G s t → G t u → G s u)
    (hG : ∀ {j s t}, o.rely j s t → G s t) {w w' : World S E Res C α}
    (hw : Sound sem o post w) (hs : Run sem allowed body w w') : G w.shared w'.shared := by
  induction hs with
  | refl => exact hrefl _
  | @tail v v' hrun hstep ih =>
    refine htrans ih ?_
    have hv := sound_run h hw hrun
    cases hstep with
    | spawn i c free ok => exact hrefl _
    | @run i c e k s r at_eff done =>
      have hi := hv.2 i
      rw [at_eff] at hi
      exact hG ((hi _ (o.rely_refl i _) hv.1 _ _ done).1.2 (i + 1) (by omega))
    | environment done => exact hG ((h.environment hv.1 done).2 0)
    | crash i running => exact hrefl _

end Rules

/-! ## Who did what -/

section Marks
variable {S E : Type} {Res : E → Type} {C α : Type} {sem : Semantics S E Res} {allowed : S → C → Prop}
  {body : C → Prog E Res α} {marking : E → Prop} {Marked : ℕ → S → Prop}

/-- A process that has not reached a marking effect, and never will, has left no mark. -/
def Unmarked (body : C → Prog E Res α) (marking : E → Prop) (Marked : ℕ → S → Prop) (i : ℕ) (s : S) :
    Proc E Res C α → Prop
  | .idle => ¬ Marked i s
  | .live c p => (body c).Uses (fun e => ¬ marking e) → p.Uses (fun e => ¬ marking e) ∧ ¬ Marked i s
  | .crashed c => (body c).Uses (fun e => ¬ marking e) → ¬ Marked i s

theorem Unmarked.mono {i : ℕ} {s t : S} {p : Proc E Res C α} (h : Unmarked body marking Marked i s p)
    (ht : Marked i t → Marked i s) : Unmarked body marking Marked i t p := by
  cases p with
  | idle => exact fun hm => h (ht hm)
  | live c p => exact fun hu => ⟨(h hu).1, fun hm => (h hu).2 (ht hm)⟩
  | crashed c => exact fun hu hm => h hu (ht hm)

theorem unmarked_step
    (hexec : ∀ {i s e t r}, sem.exec i s e t r → ∀ j, Marked j t → Marked j s ∨ (j = i ∧ marking e))
    (henv : ∀ {s t}, sem.env s t → ∀ j, Marked j t → Marked j s) {w w' : World S E Res C α}
    (hw : ∀ i, Unmarked body marking Marked i w.shared (w.procs i)) (hs : Step sem allowed body w w') :
    ∀ i, Unmarked body marking Marked i w'.shared (w'.procs i) := by
  intro j
  cases hs with
  | spawn i c free ok =>
    by_cases hj : j = i
    · subst j
      have hi := hw i
      rw [free] at hi
      simpa [Unmarked] using fun hu => ⟨hu, hi⟩
    · simpa [Function.update_of_ne hj] using hw j
  | @run i c e k s r at_eff done =>
    by_cases hj : j = i
    · subst j
      have hi := hw i
      rw [at_eff] at hi
      simp only [Function.update_self]
      intro hu
      obtain ⟨⟨he, hk⟩, hm⟩ := hi hu
      exact ⟨hk r, fun ht => (hexec done i ht).elim hm fun h => he h.2⟩
    · simp only [Function.update_of_ne hj]
      exact (hw j).mono fun ht => (hexec done j ht).resolve_right fun h => hj h.1
  | environment done => exact (hw j).mono (henv done j)
  | @crash i c p running =>
    by_cases hj : j = i
    · subst j
      have hi := hw i
      rw [running] at hi
      simp only [Function.update_self]
      exact fun hu => (hi hu).2
    · simpa [Function.update_of_ne hj] using hw j

/-- A mark of call `i` was left by a program that may perform a marking effect. -/
theorem marked_run
    (hexec : ∀ {i s e t r}, sem.exec i s e t r → ∀ j, Marked j t → Marked j s ∨ (j = i ∧ marking e))
    (henv : ∀ {s t}, sem.env s t → ∀ j, Marked j t → Marked j s) {s : S} (h₀ : ∀ i, ¬ Marked i s)
    {w : World S E Res C α} (hs : Run sem allowed body (World.initial s) w) {i : ℕ} (hm : Marked i w.shared) :
    ∃ c, (w.procs i).call = some c ∧ ¬ (body c).Uses fun e => ¬ marking e := by
  have hall : ∀ i, Unmarked body marking Marked i w.shared (w.procs i) := by
    clear hm
    induction hs with
    | refl => exact h₀
    | tail _ hstep ih => exact unmarked_step hexec henv ih hstep
  have hi := hall i
  cases hp : w.procs i with
  | idle =>
    rw [hp] at hi
    exact absurd hm hi
  | live c p =>
    rw [hp] at hi
    exact ⟨c, rfl, fun hu => (hi hu).2 hm⟩
  | crashed c =>
    rw [hp] at hi
    exact ⟨c, rfl, fun hu => hi hu hm⟩

end Marks
end VapEvidence.Interleaving

import Mathlib.Data.List.Basic

set_option autoImplicit false

/-!
# Calls that may fail on a state

Computations that read and write a state and may raise. One that writes only after its last check
leaves the state as it was whenever it raises; what holds of the calls that returned is proved along
the run of all calls.
-/
namespace VapEvidence.Transaction

variable {ε σ α β κ : Type}

/-- A computation that raises keeps the state that it has reached. -/
abbrev Call (ε σ α : Type) : Type := ExceptT ε (StateM σ) α

def Call.on (m : Call ε σ α) (s : σ) : Except ε α × σ := (ExceptT.run m).run s

/-- A check or a value that does not depend on the state. -/
def perform (r : Except ε α) : Call ε σ α := ExceptT.mk (pure r)

@[simp] theorem on_pure (a : α) (s : σ) : (pure a : Call ε σ α).on s = (.ok a, s) := rfl

@[simp] theorem on_perform (r : Except ε α) (s : σ) : (perform r).on s = (r, s) := rfl

@[simp] theorem on_get (s : σ) : (get : Call ε σ σ).on s = (.ok s, s) := rfl

@[simp] theorem on_set (s s' : σ) : (set s' : Call ε σ Unit).on s = (.ok (), s') := rfl

theorem on_bind (m : Call ε σ α) (f : α → Call ε σ β) (s : σ) : (m >>= f).on s =
    match m.on s with
    | (.ok a, s') => (f a).on s'
    | (.error e, s') => (.error e, s') := by
  rw [Call.on, ExceptT.run_bind, StateT.run_bind]
  change (match m.on s with
    | (r, s') => StateT.run (match r with
      | .ok a => ExceptT.run (f a)
      | .error e => pure (.error e)) s') = _
  rcases m.on s with ⟨r, s'⟩
  cases r with
  | ok a => rfl
  | error e => rfl

/-- A check that holds passes on to what follows. -/
theorem on_perform_bind {r : Except ε α} {a : α} (h : r = .ok a) (f : α → Call ε σ β) (s : σ) :
    (perform r >>= f).on s = (f a).on s := by
  rw [on_bind, on_perform, h]

theorem on_perform_error {r : Except ε α} {e : ε} (h : r = .error e) (f : α → Call ε σ β) (s : σ) :
    (perform r >>= f).on s = (.error e, s) := by
  rw [on_bind, on_perform, h]

theorem on_get_bind (f : σ → Call ε σ β) (s : σ) : (get >>= f).on s = (f s).on s := by
  rw [on_bind, on_get]

theorem on_set_bind (s s' : σ) (f : Unit → Call ε σ β) : (set s' >>= f).on s = (f ()).on s' := by
  rw [on_bind, on_set]

theorem bind_returned {m : Call ε σ α} {f : α → Call ε σ β} {s t : σ} {b : β} (h : (m >>= f).on s = (.ok b, t)) :
    ∃ a s', m.on s = (.ok a, s') ∧ (f a).on s' = (.ok b, t) := by
  rw [on_bind] at h
  rcases hm : m.on s with ⟨r, s'⟩
  rw [hm] at h
  cases r with
  | ok a => exact ⟨a, s', rfl, h⟩
  | error e => cases h

theorem perform_returned {r : Except ε α} {f : α → Call ε σ β} {s t : σ} {b : β}
    (h : (perform r >>= f).on s = (.ok b, t)) : ∃ a, r = .ok a ∧ (f a).on s = (.ok b, t) := by
  obtain ⟨a, s', hm, h⟩ := bind_returned h
  cases hm
  exact ⟨a, rfl, h⟩

/-! ## Calls that change nothing when they raise -/

/-- The call never writes. -/
def Reads (m : Call ε σ α) : Prop := ∀ s, (m.on s).2 = s

/-- The call leaves the state as it was when it raises. -/
def Atomic (m : Call ε σ α) : Prop := ∀ s e t, m.on s = (.error e, t) → t = s

theorem reads_perform (r : Except ε α) : Reads (perform r : Call ε σ α) := fun _ => rfl

theorem reads_pure (a : α) : Reads (pure a : Call ε σ α) := fun _ => rfl

theorem reads_get : Reads (get : Call ε σ σ) := fun _ => rfl

theorem Reads.bind {m : Call ε σ α} {f : α → Call ε σ β} (hm : Reads m) (hf : ∀ a, Reads (f a)) : Reads (m >>= f) := by
  intro s
  have hs := hm s
  rw [on_bind]
  rcases hr : m.on s with ⟨r, s'⟩
  rw [hr] at hs
  obtain rfl : s' = s := hs
  cases r with
  | ok a => exact hf a s'
  | error e => rfl

theorem Reads.atomic {m : Call ε σ α} (hm : Reads m) : Atomic m := by
  intro s e t h
  have hs := hm s
  rw [h] at hs
  exact hs

/-- What only reads may come before what is atomic. -/
theorem Atomic.bind {m : Call ε σ α} {f : α → Call ε σ β} (hm : Reads m) (hf : ∀ a, Atomic (f a)) :
    Atomic (m >>= f) := by
  intro s e t h
  have hs := hm s
  rw [on_bind] at h
  rcases hr : m.on s with ⟨r, s'⟩
  rw [hr] at h hs
  obtain rfl : s' = s := hs
  cases r with
  | ok a => exact hf a s' e t h
  | error e' => exact (congrArg Prod.snd h).symm

/-- The write that ends a call. -/
theorem atomic_set (s' : σ) (a : α) : Atomic (set s' >>= fun _ => pure a : Call ε σ α) := by
  intro s e t h
  rw [on_set_bind, on_pure] at h
  cases h

/-! ## Transactions -/

/-- A call whose writes are undone when it raises. -/
def atomically (m : Call ε σ α) : Call ε σ α := ExceptT.mk fun s =>
  match m.on s with
  | (.ok a, t) => (.ok a, t)
  | (.error e, _) => (.error e, s)

theorem on_atomically (m : Call ε σ α) (s : σ) : (atomically m).on s =
    match m.on s with
    | (.ok a, t) => (.ok a, t)
    | (.error e, _) => (.error e, s) := rfl

theorem atomically_returned {m : Call ε σ α} {s t : σ} {a : α} (h : (atomically m).on s = (.ok a, t)) :
    m.on s = (.ok a, t) := by
  rw [on_atomically] at h
  rcases hm : m.on s with ⟨r, u⟩
  rw [hm] at h
  cases r with
  | ok b => exact h
  | error e => cases h

theorem atomic_atomically (m : Call ε σ α) : Atomic (atomically m) := by
  intro s e t h
  rw [on_atomically] at h
  rcases hm : m.on s with ⟨r, u⟩
  rw [hm] at h
  cases r with
  | ok b => cases h
  | error e' => exact (congrArg Prod.snd h).symm

/-! ## Runs of calls -/

/-- One call of a run: the state, and the calls that have returned with their results. -/
def advance (call : κ → Call ε σ α) (r : σ × List (κ × α)) (k : κ) : σ × List (κ × α) :=
  match (call k).on r.1 with
  | (.ok a, s) => (s, r.2 ++ [(k, a)])
  | (.error _, s) => (s, r.2)

def run (call : κ → Call ε σ α) (s : σ) (ks : List κ) : σ × List (κ × α) := ks.foldl (advance call) (s, [])

/-- What a call that returns keeps, and a call that raises cannot touch, holds after every run. -/
theorem run_invariant {call : κ → Call ε σ α} {P : σ → List (κ × α) → Prop} {s : σ} (hatomic : ∀ k, Atomic (call k))
    (hs : P s []) (hstep : ∀ t done k a u, P t done → (call k).on t = (.ok a, u) → P u (done ++ [(k, a)]))
    (ks : List κ) : P (run call s ks).1 (run call s ks).2 := by
  have hall : ∀ r : σ × List (κ × α), P r.1 r.2 → P (ks.foldl (advance call) r).1 (ks.foldl (advance call) r).2 := by
    induction ks with
    | nil => exact fun r h => h
    | cons k ks ih =>
      intro r h
      refine ih _ ?_
      unfold advance
      rcases hk : (call k).on r.1 with ⟨result, u⟩
      cases result with
      | ok a => exact hstep r.1 r.2 k a u h hk
      | error e =>
        obtain rfl := hatomic k r.1 e u hk
        exact h
  exact hall (s, []) hs

/-- The calls that returned are among those of the run, in their order. -/
theorem run_sublist (call : κ → Call ε σ α) (s : σ) (ks : List κ) :
    ((run call s ks).2.map Prod.fst).Sublist ks := by
  have hall : ∀ r : σ × List (κ × α), ((ks.foldl (advance call) r).2.map Prod.fst).Sublist (r.2.map Prod.fst ++ ks) := by
    induction ks with
    | nil =>
      intro r
      rw [List.append_nil]
      exact List.Sublist.refl _
    | cons k ks ih =>
      intro r
      refine (ih (advance call r k)).trans ?_
      unfold advance
      rcases (call k).on r.1 with ⟨result, u⟩
      cases result with
      | ok a => simp
      | error e => exact (List.sublist_cons_self k ks).append_left _
  simpa [run] using hall (s, [])

end VapEvidence.Transaction

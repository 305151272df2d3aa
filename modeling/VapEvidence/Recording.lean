import Mathlib.Data.List.Forall2

set_option autoImplicit false

/-!
# Computations that leave a record

A computation that may fail and that leaves entries behind in order. What was left is
never taken back, so the record of a part is a stretch of the record of the whole.
-/
namespace VapEvidence

def Recording (ε ω α : Type) : Type := Except ε (α × List ω)

namespace Recording
variable {ε ω α β : Type}

/-- The computation succeeds with this value and this record. -/
def Yields (x : Recording ε ω α) (a : α) (log : List ω) : Prop := x = Except.ok (a, log)

def andThen (x : Recording ε ω α) (f : α → Recording ε ω β) : Recording ε ω β :=
  match x with
  | .error e => .error e
  | .ok (a, first) =>
    match f a with
    | .error e => .error e
    | .ok (b, second) => .ok (b, first ++ second)

instance : Monad (Recording ε ω) where
  pure a := Except.ok (a, [])
  bind := andThen

def ofExcept (m : Except ε α) : Recording ε ω α := m.map fun a => (a, [])

instance : MonadLift (Except ε) (Recording ε ω) := ⟨ofExcept⟩

/-- One entry is left behind. -/
def record (entry : ω) : Recording ε ω Unit := Except.ok ((), [entry])

/-- The value with the record that comes with it. -/
def listen (x : Recording ε ω α) : Recording ε ω (α × List ω) := Except.map (fun p => ((p.1, p.2), p.2)) x

/-- The computations for the elements of a list, one after the other. -/
def each (f : α → Recording ε ω β) : List α → Recording ε ω (List β)
  | [] => pure []
  | a :: as => do
    let b ← f a
    let bs ← each f as
    return b :: bs

theorem yields_bind {x : Recording ε ω α} {f : α → Recording ε ω β} {b : β} {log : List ω} :
    Yields (x >>= f) b log ↔
      ∃ a first second, Yields x a first ∧ Yields (f a) b second ∧ log = first ++ second := by
  change andThen x f = Except.ok (b, log) ↔ _
  constructor
  · intro h
    unfold andThen at h
    split at h
    · cases h
    · next _ a first =>
      split at h
      · cases h
      · next _ b' second hf =>
        cases h
        exact ⟨a, first, second, rfl, hf, rfl⟩
  · rintro ⟨a, first, second, hx, hf, rfl⟩
    unfold Yields at hx hf
    simp only [andThen, hx, hf]
    rfl

theorem yields_pure {a b : α} {log : List ω} : Yields (pure a : Recording ε ω α) b log ↔ b = a ∧ log = [] := by
  constructor
  · intro h
    cases h
    exact ⟨rfl, rfl⟩
  · rintro ⟨rfl, rfl⟩
    rfl

theorem yields_lift {m : Except ε α} {a : α} {log : List ω} :
    Yields (liftM m : Recording ε ω α) a log ↔ m = .ok a ∧ log = [] := by
  change m.map (fun a => (a, [])) = Except.ok (a, log) ↔ _
  cases m with
  | error e => simp [Except.map]
  | ok b =>
    simp only [Except.map, Except.ok.injEq, Prod.mk.injEq]
    exact and_congr_right fun _ => eq_comm

theorem yields_record {entry : ω} {u : Unit} {log : List ω} :
    Yields (record entry : Recording ε ω Unit) u log ↔ log = [entry] := by
  constructor
  · intro h
    cases h
    rfl
  · rintro rfl
    rfl

theorem yields_listen {x : Recording ε ω α} {p : α × List ω} {log : List ω} :
    Yields (listen x) p log ↔ Yields x p.1 log ∧ p.2 = log := by
  obtain ⟨a, seen⟩ := p
  constructor
  · intro h
    cases x with
    | error e => cases h
    | ok q =>
      cases h
      exact ⟨rfl, rfl⟩
  · rintro ⟨hx, rfl⟩
    change x = Except.ok _ at hx
    rw [hx]
    rfl

/-- Every element was computed, with a stretch of the record of its own. -/
theorem each_yields {f : α → Recording ε ω β} {l : List α} {bs : List β} {log : List ω} (h : Yields (each f l) bs log) :
    ∃ logs : List (List ω), log = logs.flatten ∧
      List.Forall₂ (fun a (p : β × List ω) => Yields (f a) p.1 p.2) l (bs.zip logs) ∧ logs.length = bs.length := by
  induction l generalizing bs log with
  | nil =>
    obtain ⟨rfl, rfl⟩ := yields_pure.1 h
    exact ⟨[], rfl, .nil, rfl⟩
  | cons a as ih =>
    obtain ⟨b, first, rest, hb, hrest, rfl⟩ := yields_bind.1 h
    obtain ⟨bs', second, last, hbs, hlast, rfl⟩ := yields_bind.1 hrest
    obtain ⟨rfl, rfl⟩ := yields_pure.1 hlast
    obtain ⟨logs, rfl, hall, hlen⟩ := ih hbs
    refine ⟨first :: logs, ?_, .cons hb hall, ?_⟩
    · rw [List.append_nil, List.flatten_cons]
    · rw [List.length_cons, List.length_cons, hlen]

theorem each_values {f : α → Recording ε ω β} {l : List α} {bs : List β} {log : List ω} (h : Yields (each f l) bs log) :
    List.Forall₂ (fun a b => ∃ left, Yields (f a) b left) l bs := by
  induction l generalizing bs log with
  | nil =>
    obtain ⟨rfl, -⟩ := yields_pure.1 h
    exact .nil
  | cons a as ih =>
    obtain ⟨b, first, _, hb, hrest, -⟩ := yields_bind.1 h
    obtain ⟨bs', _, _, hbs, hlast, -⟩ := yields_bind.1 hrest
    obtain ⟨rfl, -⟩ := yields_pure.1 hlast
    exact .cons ⟨first, hb⟩ (ih hbs)

/-- A successful computation has one value and one record. -/
theorem Yields.unique {x : Recording ε ω α} {a b : α} {first second : List ω} (h : Yields x a first)
    (h' : Yields x b second) : a = b ∧ first = second := by
  have heq := Except.ok.inj (h.symm.trans h')
  exact ⟨congrArg Prod.fst heq, congrArg Prod.snd heq⟩

/-! ## Values without their records -/

/-- The value of a computation, without what it left behind. -/
def value (x : Recording ε ω α) : Except ε α := Except.map Prod.fst x

@[simp] theorem value_pure (a : α) : value (pure a : Recording ε ω α) = .ok a := rfl

@[simp] theorem value_bind (x : Recording ε ω α) (f : α → Recording ε ω β) :
    value (x >>= f) = value x >>= fun a => value (f a) := by
  change value (andThen x f) = _
  cases x with
  | error e => rfl
  | ok p =>
    obtain ⟨a, first⟩ := p
    change Except.map Prod.fst (match f a with
      | .error e => .error e
      | .ok (b, second) => .ok (b, first ++ second)) = Except.map Prod.fst (f a)
    cases f a with
    | error e => rfl
    | ok q => rfl

@[simp] theorem value_record (entry : ω) : value (record entry : Recording ε ω Unit) = .ok () := rfl

@[simp] theorem value_lift (m : Except ε α) : value (liftM m : Recording ε ω α) = m := by
  change Except.map Prod.fst (m.map fun a => (a, ([] : List ω))) = m
  cases m <;> rfl

@[simp] theorem value_ite (c : Prop) [Decidable c] (x y : Recording ε ω α) :
    value (if c then x else y) = if c then value x else value y := apply_ite value c x y

/-- The elements of a list for which the computation says yes. -/
def keep (f : α → Recording ε ω Bool) : List α → Recording ε ω (List α)
  | [] => pure []
  | a :: as => do
    let b ← f a
    let rest ← keep f as
    return if b then a :: rest else rest

theorem value_keep {f : α → Recording ε ω Bool} {p : α → Bool} {l : List α} (h : ∀ a ∈ l, value (f a) = .ok (p a)) :
    value (keep f l) = .ok (l.filter p) := by
  induction l with
  | nil => rfl
  | cons a as ih =>
    have hrest := ih fun b hb => h b (List.mem_cons_of_mem _ hb)
    simp only [keep, value_bind, h a List.mem_cons_self, hrest, value_pure, List.filter_cons]
    rfl

/-- Where a selection succeeds every element was decided. -/
theorem keep_ok {f : α → Recording ε ω Bool} {l kept : List α} (h : value (keep f l) = .ok kept) :
    ∀ a ∈ l, ∃ b, value (f a) = .ok b := by
  induction l generalizing kept with
  | nil => exact fun a ha => absurd ha List.not_mem_nil
  | cons a as ih =>
    simp only [keep, value_bind] at h
    cases hb : value (f a) with
    | error e =>
      rw [hb] at h
      cases h
    | ok b =>
      cases hr : value (keep f as) with
      | error e =>
        rw [hb, hr] at h
        cases h
      | ok rest => exact List.forall_mem_cons.2 ⟨⟨b, hb⟩, ih hr⟩

end Recording
end VapEvidence

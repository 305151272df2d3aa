import VapEvidence.Interleaving

set_option autoImplicit false

/-!
# What a call has done

A history lists the effects of a call with their answers. `Path` follows a program
along a history, `Along` carries assertions about histories through a program, and
a logged run keeps the history of every call beside the shared state.
-/
namespace VapEvidence.Interleaving

abbrev History (E : Type) (Res : E → Type) : Type := List ((e : E) × Res e)

namespace Prog
variable {E : Type} {Res : E → Type} {α β : Type}

/-- Answered by the history, the first program comes to the second. -/
inductive Path : Prog E Res α → History E Res → Prog E Res α → Prop where
  | here (p : Prog E Res α) : Path p [] p
  | step {e : E} {k : Res e → Prog E Res α} {r : Res e} {h : History E Res} {q : Prog E Res α}
      (rest : Path (k r) h q) : Path (.eff e k) (⟨e, r⟩ :: h) q

theorem Path.append {p q r : Prog E Res α} {h h' : History E Res} (hp : Path p h q) (hq : Path q h' r) :
    Path p (h ++ h') r := by
  induction hp with
  | here p => exact hq
  | step rest ih => exact .step (ih hq)

theorem Path.snoc {p : Prog E Res α} {e : E} {k : Res e → Prog E Res α} {h : History E Res}
    (hp : Path p h (.eff e k)) (r : Res e) : Path p (h ++ [⟨e, r⟩]) (k r) := hp.append (.step (.here _))

/-- A lifted program leaves the lifted history. -/
theorem Path.of_lift {E' : Type} {Res' : E' → Type} {up : E → E'} {p : Prog E (fun e => Res' (up e)) α}
    {h : History E' Res'} {a : α} (hp : Path (p.lift up) h (.ret a)) :
    ∃ h₀ : History E fun e => Res' (up e), h = h₀.map (fun o => ⟨up o.1, o.2⟩) ∧ Path p h₀ (.ret a) := by
  induction p generalizing h with
  | ret b =>
    cases hp
    exact ⟨[], rfl, .here _⟩
  | eff e k ih =>
    cases hp with
    | @step _ _ r h' _ rest =>
      obtain ⟨h₀, rfl, hk⟩ := ih r rest
      exact ⟨⟨e, r⟩ :: h₀, rfl, .step hk⟩

/-- Before each effect `P` holds of the history so far, and at a return `Q` does. -/
def Along (P : History E Res → E → Prop) (Q : History E Res → α → Prop) : Prog E Res α → History E Res → Prop
  | .ret a, h => Q h a
  | .eff e k, h => P h e ∧ ∀ r, Along P Q (k r) (h ++ [⟨e, r⟩])

section Along
variable {P : History E Res → E → Prop} {Q Q' : History E Res → α → Prop} {R : History E Res → β → Prop}

theorem Along.mono {p : Prog E Res α} {h : History E Res} (hp : Along P Q p h) (hQ : ∀ h a, Q h a → Q' h a) :
    Along P Q' p h := by
  induction p generalizing h with
  | ret a => exact hQ h a hp
  | eff e k ih => exact ⟨hp.1, fun r => ih r (hp.2 r)⟩

theorem Along.bind {p : Prog E Res α} {f : α → Prog E Res β} {h : History E Res}
    (hp : Along P (fun h a => Along P R (f a) h) p h) : Along P R (p >>= f) h := by
  induction p generalizing h with
  | ret a => exact hp
  | eff e k ih => exact ⟨hp.1, fun r => ih r (hp.2 r)⟩

theorem Along.path {p q : Prog E Res α} {h h' : History E Res} (hp : Along P Q p h) (hq : Path p h' q) :
    Along P Q q (h ++ h') := by
  induction hq generalizing h with
  | here p => simpa using hp
  | @step e k r h' q rest ih => simpa using ih (hp.2 r)

theorem Along.occurs {p q : Prog E Res α} {h h' : History E Res} (hp : Along P Q p h) (hq : Path p h' q)
    {before after : History E Res} {o : (e : E) × Res e} (ho : h' = before ++ o :: after) :
    P (h ++ before) o.1 := by
  induction hq generalizing h before with
  | here p => simp at ho
  | @step e k r h' q rest ih =>
    cases before with
    | nil =>
      obtain ⟨rfl, -⟩ := List.cons.inj ho
      simpa using hp.1
    | cons b before =>
      obtain ⟨rfl, hrest⟩ := List.cons.inj ho
      simpa using ih (hp.2 r) hrest

/-- A piece whose effects never matter to `P` adds its own history. -/
theorem Along.piece {A : E → Prop} (hA : ∀ e, A e → ∀ h, P h e) {p : Prog E Res α} (hp : p.Uses A)
    (h : History E Res) :
    Along P (fun h' a => ∃ d, h' = h ++ d ∧ Path p d (.ret a) ∧ ∀ o ∈ d, A o.1) p h := by
  induction p generalizing h with
  | ret a => exact ⟨[], by simp, .here _, by simp⟩
  | eff e k ih =>
    refine ⟨hA e hp.1 h, fun r => (ih r (hp.2 r) (h ++ [⟨e, r⟩])).mono ?_⟩
    rintro h' a ⟨d, rfl, hd, hall⟩
    exact ⟨⟨e, r⟩ :: d, by simp, .step hd, List.forall_mem_cons.2 ⟨hp.1, hall⟩⟩

/-- The same, with what follows the piece. -/
theorem Along.after {A : E → Prop} (hA : ∀ e, A e → ∀ h, P h e) {p : Prog E Res α} (hp : p.Uses A)
    {f : α → Prog E Res β} {h : History E Res}
    (hf : ∀ a d, Path p d (.ret a) → (∀ o ∈ d, A o.1) → Along P R (f a) (h ++ d)) :
    Along P R (p >>= f) h := by
  refine Along.bind ((Along.piece hA hp h).mono ?_)
  rintro h' a ⟨d, rfl, hd, hall⟩
  exact hf a d hd hall

theorem Along.andThen {ε : Type} {R : History E Res → Except ε β → Prop} {p : Prog E Res (Except ε α)}
    {f : α → Prog E Res (Except ε β)} {h : History E Res}
    (hp : Along P (fun h a => match a with
      | .ok a => Along P R (f a) h
      | .error e => R h (.error e)) p h) : Along P R (p.andThen f) h :=
  Along.bind (hp.mono fun h a ha => by cases a <;> exact ha)

/-- What a piece that raises or checks its value comes from. -/
theorem Along.checked {ε : Type} {R : History E Res → α → Prop} {p : Prog E Res (Except ε α)}
    {g : α → Except ε β} {h : History E Res} (hp : Along P (fun h x => ∀ a, x = .ok a → R h a) p h) :
    Along P (fun h y => ∀ b, y = .ok b → ∃ a, R h a ∧ g a = .ok b) (p.andThen fun a => .ret (g a)) h := by
  refine Along.andThen (hp.mono fun h x hx => ?_)
  cases x with
  | ok a => exact fun b hb => ⟨a, hx a rfl, hb⟩
  | error e => exact fun b hb => nomatch hb

/-- A piece that may raise, with what follows it. -/
theorem Along.after_andThen {ε : Type} {R : History E Res → Except ε β → Prop} {A : E → Prop}
    (hA : ∀ e, A e → ∀ h, P h e) {p : Prog E Res (Except ε α)} (hp : p.Uses A)
    {f : α → Prog E Res (Except ε β)} {h : History E Res}
    (hok : ∀ a d, Path p d (.ret (.ok a)) → (∀ o ∈ d, A o.1) → Along P R (f a) (h ++ d))
    (herr : ∀ e d, (∀ o ∈ d, A o.1) → R (h ++ d) (.error e)) : Along P R (p.andThen f) h := by
  refine Along.after hA hp fun a d hd hall => ?_
  cases a with
  | ok a => exact hok a d hd hall
  | error e => exact herr e d hall

end Along
end Prog

/-! ## Logged runs -/

section Logs
variable {S E : Type} {Res : E → Type} {C α : Type}

abbrev Log (E : Type) (Res : E → Type) : Type := List (ℕ × ((e : E) × Res e))

/-- The effects of one call. -/
def history (i : ℕ) (log : Log E Res) : History E Res :=
  log.filterMap fun m => if m.1 = i then some m.2 else none

@[simp] theorem history_nil (i : ℕ) : history i ([] : Log E Res) = [] := rfl

@[simp] theorem history_append (i : ℕ) (log log' : Log E Res) :
    history i (log ++ log') = history i log ++ history i log' := List.filterMap_append

theorem history_cons (i j : ℕ) (o : (e : E) × Res e) (log : Log E Res) :
    history i ((j, o) :: log) = if j = i then o :: history i log else history i log := by
  by_cases h : j = i <;> simp [history, h]

theorem mem_history {i : ℕ} {log : Log E Res} {o : (e : E) × Res e} : o ∈ history i log ↔ (i, o) ∈ log := by
  rw [history, List.mem_filterMap]
  constructor
  · rintro ⟨⟨j, b⟩, hm, hj⟩
    by_cases h : j = i
    · rw [if_pos h] at hj
      cases hj
      exact h ▸ hm
    · rw [if_neg h] at hj
      cases hj
  · exact fun hm => ⟨(i, o), hm, if_pos rfl⟩

/-- An entry of which there is at most one. -/
theorem unique_of_countP {p : ℕ × ((e : E) × Res e) → Bool} {log : Log E Res} (h : log.countP p ≤ 1)
    {m n : ℕ × ((e : E) × Res e)} (hm : m ∈ log) (hn : n ∈ log) (pm : p m) (pn : p n) : m = n := by
  rw [List.countP_eq_length_filter] at h
  have hm' := List.mem_filter.2 ⟨hm, pm⟩
  have hn' := List.mem_filter.2 ⟨hn, pn⟩
  cases hf : log.filter p with
  | nil =>
    rw [hf] at hm'
    cases hm'
  | cons a rest =>
    cases rest with
    | nil =>
      rw [hf, List.mem_singleton] at hm' hn'
      exact hm'.trans hn'.symm
    | cons b rest =>
      rw [hf] at h
      simp at h

/-- Entries none of which follows another are at most one. -/
theorem countP_le_one {p : ℕ × ((e : E) × Res e) → Bool} {log : Log E Res}
    (h : ∀ before m after, log = before ++ m :: after → p m → ∀ n ∈ before, ¬ p n) : log.countP p ≤ 1 := by
  induction log with
  | nil => simp
  | cons m log ih =>
    rw [List.countP_cons]
    by_cases hm : p m
    · have hnone : log.countP p = 0 := by
        refine List.countP_eq_zero.2 fun n hn pn => ?_
        obtain ⟨before, after, rfl⟩ := List.append_of_mem hn
        exact h (m :: before) n after rfl pn m List.mem_cons_self hm
      simp [hnone, hm]
    · rw [if_neg hm]
      refine ih fun before n after hlog pn k hk => ?_
      exact h (m :: before) n after (by rw [hlog, List.cons_append]) pn k (List.mem_cons_of_mem m hk)

variable (sem : Semantics S E Res)

/-- The state with a log of every effect. -/
def Semantics.logged : Semantics (S × Log E Res) E Res where
  exec i s e t r := sem.exec i s.1 e t.1 r ∧ t.2 = s.2 ++ [(i, ⟨e, r⟩)]
  env s t := sem.env s.1 t.1 ∧ t.2 = s.2

variable {sem} {allowed : S × Log E Res → C → Prop} {body : C → Prog E Res α}
variable {w w' : World (S × Log E Res) E Res C α} {s : S}

/-- A process has followed its program along its history. -/
def Follows (body : C → Prog E Res α) (h : History E Res) : Proc E Res C α → Prop
  | .idle => h = []
  | .live c p => Prog.Path (body c) h p
  | .crashed c => ∃ p, Prog.Path (body c) h p

theorem follows_step (hw : ∀ i, Follows body (history i w.shared.2) (w.procs i))
    (hs : Step sem.logged allowed body w w') : ∀ i, Follows body (history i w'.shared.2) (w'.procs i) := by
  intro j
  cases hs with
  | spawn i c free ok =>
    by_cases hj : j = i
    · subst j
      have hi := hw i
      rw [free] at hi
      simp only [Function.update_self]
      change Prog.Path (body c) _ _
      rw [show history i w.shared.2 = [] from hi]
      exact .here _
    · simpa [Function.update_of_ne hj] using hw j
  | @run i c e k s r at_eff done =>
    obtain ⟨-, hlog⟩ := done
    dsimp only
    rw [hlog, history_append, history_cons, history_nil]
    by_cases hj : j = i
    · subst j
      have hi := hw i
      rw [at_eff] at hi
      simp only [Function.update_self, if_true]
      exact Prog.Path.snoc hi r
    · simp only [Function.update_of_ne hj, if_neg (Ne.symm hj), List.append_nil]
      exact hw j
  | @environment s done =>
    dsimp only
    rw [done.2]
    exact hw j
  | @crash i c p running =>
    by_cases hj : j = i
    · subst j
      have hi := hw i
      rw [running] at hi
      simp only [Function.update_self]
      exact ⟨p, hi⟩
    · simpa [Function.update_of_ne hj] using hw j

theorem follows_run (hs : Run sem.logged allowed body (World.initial (s, [])) w) (i : ℕ) :
    Follows body (history i w.shared.2) (w.procs i) := by
  revert i
  induction hs with
  | refl => exact fun _ => rfl
  | tail _ hstep ih => exact follows_step ih hstep

section Rules
variable {P : C → History E Res → E → Prop} {Q : C → History E Res → α → Prop}

/-- Every effect in the log stands where its call's program allows it. -/
theorem occurs_run (hbody : ∀ c, Prog.Along (P c) (Q c) (body c) [])
    (hs : Run sem.logged allowed body (World.initial (s, [])) w) {before after : Log E Res} {i : ℕ}
    {o : (e : E) × Res e} (ho : w.shared.2 = before ++ (i, o) :: after) :
    ∃ c, (w.procs i).call = some c ∧ P c (history i before) o.1 := by
  have hi := follows_run hs i
  have hsplit : history i w.shared.2 = history i before ++ o :: history i after := by
    rw [ho, history_append, history_cons, if_pos rfl]
  rw [hsplit] at hi
  cases hp : w.procs i with
  | idle =>
    rw [hp] at hi
    exact absurd hi (by simp [Follows])
  | live c p =>
    rw [hp] at hi
    exact ⟨c, rfl, by simpa using (hbody c).occurs hi rfl⟩
  | crashed c =>
    rw [hp] at hi
    obtain ⟨p, hi⟩ := hi
    exact ⟨c, rfl, by simpa using (hbody c).occurs hi rfl⟩

/-- A call that has returned left the history its program promises. -/
theorem returns_run (hbody : ∀ c, Prog.Along (P c) (Q c) (body c) [])
    (hs : Run sem.logged allowed body (World.initial (s, [])) w) {i : ℕ} {c : C} {a : α}
    (hi : w.procs i = .live c (.ret a)) : Q c (history i w.shared.2) a := by
  have hf := follows_run hs i
  rw [hi] at hf
  have hq := (hbody c).path hf
  rwa [List.nil_append] at hq

end Rules

/-- What every effect keeps of the state and the log holds throughout a run. -/
theorem inv_run {I : S → Log E Res → Prop} (h₀ : I s [])
    (hexec : ∀ {i s log e t r}, I s log → sem.exec i s e t r → I t (log ++ [(i, ⟨e, r⟩)]))
    (henv : ∀ {s t log}, I s log → sem.env s t → I t log)
    (hs : Run sem.logged allowed body (World.initial (s, [])) w) : I w.shared.1 w.shared.2 := by
  induction hs with
  | refl => exact h₀
  | @tail v v' _ hstep ih =>
    cases hstep with
    | spawn i c free ok => exact ih
    | @run i c e k s r at_eff done =>
      dsimp only
      rw [done.2]
      exact hexec ih done.1
    | @environment s done =>
      dsimp only
      rw [done.2]
      exact henv ih done.1
    | crash i running => exact ih

/-- What every effect that a call allows keeps of the state and the log holds from a reachable world on. -/
theorem inv_along {P : C → History E Res → E → Prop} {Q : C → History E Res → α → Prop}
    (hbody : ∀ c, Prog.Along (P c) (Q c) (body c) []) {I : S → Log E Res → Prop}
    (hexec : ∀ {i s log e t r}, I s log → (∃ c, P c (history i log) e) → sem.exec i s e t r →
      I t (log ++ [(i, ⟨e, r⟩)]))
    (henv : ∀ {s t log}, I s log → sem.env s t → I t log)
    (hw : Run sem.logged allowed body (World.initial (s, [])) w) (h₀ : I w.shared.1 w.shared.2)
    (hs : Run sem.logged allowed body w w') : I w'.shared.1 w'.shared.2 := by
  induction hs with
  | refl => exact h₀
  | @tail v v' hrun hstep ih =>
    cases hstep with
    | spawn i c free ok => exact ih
    | @run i c e k s r at_eff done =>
      have hfollows := follows_run (hw.trans hrun) i
      rw [at_eff] at hfollows
      have hallowed := ((hbody c).path hfollows).1
      rw [List.nil_append] at hallowed
      dsimp only
      rw [done.2]
      exact hexec ih ⟨c, hallowed⟩ done.1
    | @environment s done =>
      dsimp only
      rw [done.2]
      exact henv ih done.1
    | crash i running => exact ih

/-- An effect that needs a key to be absent and leaves it present happens at most once for the key,
    where no key becomes absent again. -/
theorem once_run {κ : Type} (inserts : κ → ℕ × ((e : E) × Res e) → Bool) (Absent : S → κ → Prop)
    (hinserts : ∀ {i s e t r k}, sem.exec i s e t r → inserts k (i, ⟨e, r⟩) → Absent s k ∧ ¬ Absent t k)
    (hexec : ∀ {i s e t r k}, sem.exec i s e t r → Absent t k → Absent s k)
    (henv : ∀ {s t k}, sem.env s t → Absent t k → Absent s k)
    (hs : Run sem.logged allowed body (World.initial (s, [])) w) (k : κ) : w.shared.2.countP (inserts k) ≤ 1 := by
  have hall : w.shared.2.countP (inserts k) ≤ 1 ∧ (Absent w.shared.1 k → w.shared.2.countP (inserts k) = 0) := by
    refine inv_run (I := fun s log => log.countP (inserts k) ≤ 1 ∧ (Absent s k → log.countP (inserts k) = 0))
      ⟨by simp, fun _ => by simp⟩ ?_ (fun h he => ⟨h.1, fun ha => h.2 (henv he ha)⟩) hs
    intro i s log e t r ⟨hone, hnone⟩ hx
    rw [List.countP_append, List.countP_singleton]
    by_cases hi : inserts k (i, ⟨e, r⟩)
    · obtain ⟨hs, ht⟩ := hinserts hx hi
      rw [if_pos hi, hnone hs]
      exact ⟨Nat.le_refl 1, fun ha => absurd ha ht⟩
    · rw [if_neg hi]
      exact ⟨hone, fun ha => hnone (hexec hx ha)⟩
  exact hall.1

/-- A transitive relation that every effect respects holds along a run. -/
theorem rel_run {G : S → S → Prop} (hrefl : ∀ s, G s s) (htrans : ∀ {s t u}, G s t → G t u → G s u)
    (hexec : ∀ {i s e t r}, sem.exec i s e t r → G s t) (henv : ∀ {s t}, sem.env s t → G s t)
    (hs : Run sem.logged allowed body w w') : G w.shared.1 w'.shared.1 := by
  induction hs with
  | refl => exact hrefl _
  | tail _ hstep ih =>
    refine htrans ih ?_
    cases hstep with
    | spawn i c free ok => exact hrefl _
    | run i at_eff done => exact hexec done.1
    | environment done => exact henv done.1
    | crash i running => exact hrefl _

end Logs
end VapEvidence.Interleaving

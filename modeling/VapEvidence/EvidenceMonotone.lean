import VapEvidence.PaymentEvidence

set_option autoImplicit false

/-!
# Less evidence decides less

Taking evidence away, or looking from an earlier time, never turns one verdict into the
opposite one: what is invalid or valid then stays so.
-/
namespace VapEvidence.PaymentEvidence
open Json

/-! ## Lists of checks -/

def Check.Passes : Check → Prop
  | .require holds _ => holds = true
  | .available holds _ => holds = true
  | .ref _ => True

def Passes (checks : List Check) : Prop := ∀ c ∈ checks, c.Passes

/-- Some required check fails. -/
def Refuted (checks : List Check) : Prop := ∃ reason, Check.require false reason ∈ checks

theorem verdictOf_invalid {checks : List Check} : verdictOf checks = .invalid ↔ Refuted checks := by
  have hne : checks.filterMap Check.invalid ≠ [] ↔ Refuted checks := by
    constructor
    · intro hne
      obtain ⟨reason, hr⟩ := List.exists_mem_of_ne_nil _ hne
      obtain ⟨c, hc, hreason⟩ := List.mem_filterMap.1 hr
      unfold Check.invalid at hreason
      split at hreason
      · cases hreason
        exact ⟨_, hc⟩
      · cases hreason
    · rintro ⟨reason, hr⟩
      exact List.ne_nil_of_mem (List.mem_filterMap.2 ⟨_, hr, rfl⟩)
  rw [← hne, verdictOf]
  split_ifs <;> simp_all

theorem verdictOf_valid {checks : List Check} : verdictOf checks = .valid ↔ Passes checks := by
  have hnone : checks.filterMap Check.invalid = [] ∧ checks.filterMap Check.unknown = [] ↔ Passes checks := by
    rw [List.filterMap_eq_nil_iff, List.filterMap_eq_nil_iff, ← forall₂_and]
    refine forall₂_congr fun c _ => ?_
    cases c with
    | require holds reason => cases holds <;> simp [Check.invalid, Check.unknown, Check.Passes]
    | available holds reason => cases holds <;> simp [Check.invalid, Check.unknown, Check.Passes]
    | ref digest => simp [Check.invalid, Check.unknown, Check.Passes]
  rw [← hnone, verdictOf]
  split_ifs <;> simp_all

theorem passes_append {a b : List Check} : Passes (a ++ b) ↔ Passes a ∧ Passes b := List.forall_mem_append

theorem passes_cons {c : Check} {cs : List Check} : Passes (c :: cs) ↔ c.Passes ∧ Passes cs := List.forall_mem_cons

/-- What fails in the first checks fails in the second, and, when `P`, the second pass if the first do. -/
structure Mono (P : Prop) (first second : List Check) : Prop where
  refutes : ∀ reason, Check.require false reason ∈ first → Check.require false reason ∈ second
  passes : P → Passes first → Passes second

namespace Mono
variable {P : Prop} {a a' b b' : List Check}

theorem refl (a : List Check) : Mono P a a := ⟨fun _ h => h, fun _ h => h⟩

theorem append (h : Mono P a a') (h' : Mono P b b') : Mono P (a ++ b) (a' ++ b') where
  refutes reason hr :=
    List.mem_append.2 ((List.mem_append.1 hr).imp (h.refutes reason) (h'.refutes reason))
  passes hp hq := passes_append.2 ⟨h.passes hp (passes_append.1 hq).1, h'.passes hp (passes_append.1 hq).2⟩

theorem cons (c : Check) (h : Mono P a a') : Mono P (c :: a) (c :: a') := (refl [c]).append h

theorem available {x y : Bool} (h : x = true → y = true) (reason : String) :
    Mono P [.available x reason] [.available y reason] where
  refutes _ hr := by simp at hr
  passes _ hq := by
    have := h (hq _ List.mem_cons_self)
    exact List.forall_mem_singleton.2 this

theorem flatMap {α : Type} (l : List α) {f g : α → List Check} (h : ∀ x ∈ l, Mono P (f x) (g x)) :
    Mono P (l.flatMap f) (l.flatMap g) := by
  induction l with
  | nil => exact refl []
  | cons x l ih =>
    rw [List.flatMap_cons, List.flatMap_cons]
    exact (h x List.mem_cons_self).append (ih fun y hy => h y (List.mem_cons_of_mem _ hy))

/-- Verdicts are kept by checks that are related under a condition that passing implies. -/
theorem verdict (h : Mono P a b) (hp : Passes a → P) : (verdictOf a = .invalid → verdictOf b = .invalid) ∧
    (verdictOf a = .valid → verdictOf b = .valid) := by
  refine ⟨fun hv => ?_, fun hv => ?_⟩
  · obtain ⟨reason, hr⟩ := verdictOf_invalid.1 hv
    exact verdictOf_invalid.2 ⟨reason, h.refutes reason hr⟩
  · have hpass := verdictOf_valid.1 hv
    exact verdictOf_valid.2 (h.passes (hp hpass) hpass)

end Mono

/-! ## Views with less evidence -/

/-- The second view has every record of the first, under the same key and envelope. -/
structure Below (v w : View) : Prop where
  operation : v.operation = w.operation
  operationDigest : v.operationDigest = w.operationDigest
  records : ∀ slot body, v.records slot = some body → w.records slot = some body
  digests : ∀ slot, (v.records slot).isSome = true → v.digests slot = w.digests slot
  keys : ∀ slot, (v.records slot).isSome = true → v.keys slot = w.keys slot
  supplied : ∀ slot, (w.records slot).isSome = true → (w.digests slot).isSome = true

section Views
variable {py : Platform} {v w : View} {P : Prop} (h : Below v w)
include h

theorem Below.isSome {slot : Slot} (hs : (v.records slot).isSome = true) : (w.records slot).isSome = true := by
  obtain ⟨body, hb⟩ := Option.isSome_iff_exists.1 hs
  rw [h.records slot body hb]
  rfl

theorem mono_need (slot : Slot) : Mono P (need v slot) (need w slot) where
  refutes reason hr := by
    rw [need, View.refs] at hr
    cases hd : v.digests slot <;> simp [hd] at hr
  passes _ hq := by
    refine passes_cons.2 ⟨h.isSome (passes_cons.1 hq).1, fun c hc => ?_⟩
    obtain ⟨d, -, rfl⟩ := Option.map_eq_some_iff.1 (Option.mem_toList.1 hc)
    trivial

/-- A record that is bound keeps its envelope, so its digest is compared with the same reference. -/
theorem mono_bind (value : Json) (slot : Slot) (label : String) : Mono P (bind v value slot label) (bind w value slot label) := by
  by_cases hs : (v.records slot).isSome = true
  · have heq : bind v value slot label = bind w value slot label := by
      rw [bind, bind, hs, h.isSome hs, h.digests slot hs]
    rw [heq]
    exact Mono.refl _
  · refine ⟨fun reason hr => ?_, fun _ hq => absurd (passes_cons.1 hq).1 hs⟩
    rw [bind] at hr
    cases hd : v.digests slot <;> simp [hd, hs] at hr

/-- Checks on a record that is in use. -/
theorem mono_record (slot : Slot) {f g : Json → List Check} (hp : P → (v.records slot).isSome = true)
    (hf : ∀ body, v.records slot = some body → Mono P (f body) (g body)) :
    Mono P ((v.records slot).toList.flatMap f) ((w.records slot).toList.flatMap g) := by
  cases hb : v.records slot with
  | none =>
    refine ⟨fun _ hr => (by cases hr), fun hP => ?_⟩
    have := hp hP
    rw [hb] at this
    cases this
  | some body =>
    rw [h.records slot body hb]
    simpa using hf body hb

theorem mono_dispatchPayload (d : Json) : Mono P (dispatchPayload py v d) (dispatchPayload py w d) := by
  rw [dispatchPayload, dispatchPayload, h.operation, h.operationDigest]
  exact Mono.refl _

end Views

/-! ## The three claims -/

theorem horizon {x at_ at' : ℤ} {P : Prop} (ht : at_ ≤ at') (reason : String) :
    Mono P [.available (decide (x ≤ at_)) reason] [.available (decide (x ≤ at')) reason] :=
  Mono.available (fun hx => decide_eq_true ((of_decide_eq_true hx).trans ht)) reason

section Claims
variable {py : Platform} {v w : View} (h : Below v w) {at_ at' maxAge : ℤ}
include h

theorem identityOf_eq (identities : Json) {slot : Slot} (hs : (v.records slot).isSome = true) :
    identityOf v identities slot = identityOf w identities slot := by
  rw [identityOf, identityOf, h.keys slot hs]

theorem mono_approvalChecks {P : Prop} (identities actual : Json) (dispatched : ℤ) {slot : Slot} {approval : Json}
    (hs : (v.records slot).isSome = true) : Mono P (approvalChecks v identities actual dispatched slot approval)
      (approvalChecks w identities actual dispatched slot approval) := by
  rw [approvalChecks, approvalChecks, identityOf_eq h identities hs, h.operation, h.operationDigest]
  exact Mono.refl _

theorem personOf_eq (identities : Json) {slot : Slot} (hs : (v.records slot).isSome = true) :
    personOf v identities slot = personOf w identities slot := by
  obtain ⟨body, hb⟩ := Option.isSome_iff_exists.1 hs
  rw [personOf, personOf, identityOf_eq h identities hs, hb, h.records slot body hb]

theorem mono_pairChecks {P : Prop} (identities : Json)
    (hp : P → (v.records .makerApproval).isSome = true ∧ (v.records .checkerApproval).isSome = true) :
    Mono P (pairChecks v identities) (pairChecks w identities) := by
  by_cases hboth : (v.records .makerApproval).isSome = true ∧ (v.records .checkerApproval).isSome = true
  · obtain ⟨maker, hmaker⟩ := Option.isSome_iff_exists.1 hboth.1
    obtain ⟨checker, hchecker⟩ := Option.isSome_iff_exists.1 hboth.2
    rw [pairChecks, pairChecks, personOf_eq h identities hboth.1, personOf_eq h identities hboth.2, hmaker, hchecker,
      h.records _ _ hmaker, h.records _ _ hchecker]
    exact Mono.refl _
  · refine ⟨fun reason hr => absurd hr ?_, fun hP => absurd (hp hP) hboth⟩
    have hnone : v.records .makerApproval = none ∨ v.records .checkerApproval = none := by
      rw [← Option.not_isSome_iff_eq_none, ← Option.not_isSome_iff_eq_none]
      exact not_and_or.1 hboth
    rcases hnone with hnone | hnone
    · simp [pairChecks, personOf, hnone]
    · cases hm : v.records .makerApproval with
      | none => simp [pairChecks, personOf, hnone, hm]
      | some maker => cases identityOf v identities .makerApproval <;> simp [pairChecks, personOf, hnone, hm]

theorem mono_statusChecks {P : Prop} (ht : at_ ≤ at') (actual status : Json) (dispatched : ℤ)
    (hp : P → ∀ slot ∈ approvalSlots, (v.records slot).isSome = true) :
    Mono P (statusChecks v actual dispatched at_ maxAge status) (statusChecks w actual dispatched at' maxAge status) := by
  rw [statusChecks, statusChecks, h.operation, h.operationDigest]
  refine Mono.append (Mono.append (Mono.append (Mono.append (Mono.append (Mono.refl _) ?_) (Mono.refl _)) (Mono.refl _)) ?_)
    (Mono.refl _)
  · refine Mono.flatMap _ fun slot hslot => (mono_bind h _ slot _).append ?_
    cases hs : v.records slot with
    | none =>
      refine ⟨fun _ hr => (by cases hr), fun hP => ?_⟩
      have := hp hP slot hslot
      rw [hs] at this
      cases this
    | some approval =>
      rw [h.records slot approval hs]
      exact Mono.refl _
  · exact (horizon ht _).append (Mono.refl _)

/-- The records that a valid authorization rests on. -/
def authorizationSlots : List Slot := [.dispatch, .policy, .makerApproval, .checkerApproval, .finalStatus]

theorem mono_authorization (ht : at_ ≤ at') {identities : Json} {checks checks' : List Check}
    (hv : authorization py v identities at_ maxAge = .ok checks)
    (hw : authorization py w identities at' maxAge = .ok checks') :
    Mono (∀ slot ∈ authorizationSlots, (v.records slot).isSome = true) checks checks' := by
  unfold authorization at hv hw
  cases hd : v.records .dispatch with
  | none =>
    rw [hd] at hv
    cases hv
    refine ⟨fun reason hr => absurd hr ?_, fun hP => ?_⟩
    · rw [need, View.refs]
      cases v.digests .dispatch <;> simp
    · have := hP .dispatch List.mem_cons_self
      rw [hd] at this
      cases this
  | some d =>
    rw [h.records _ _ hd] at hw
    rw [hd] at hv
    obtain ⟨declared, hdeclared, hv⟩ := bind_ok hv
    obtain ⟨declared', hdeclared', hw⟩ := bind_ok hw
    cases hv
    cases hw
    have heq : declaredPayload py v = declaredPayload py w := by rw [declaredPayload, declaredPayload, h.operation]
    obtain rfl := Except.ok.inj (hdeclared.symm.trans (heq.trans hdeclared'))
    rw [← h.operation]
    refine Mono.append (Mono.append (Mono.append (Mono.append (Mono.append (Mono.append (Mono.append (Mono.append
      (Mono.append (Mono.append (Mono.append (Mono.append (Mono.append ?_ ?_) ?_) (Mono.refl _)) (Mono.refl _)) ?_) ?_) ?_)
        ?_) ?_) ?_) ?_) ?_) ?_
    · exact mono_need h .dispatch
    · exact horizon ht _
    · exact mono_dispatchPayload h d
    · exact mono_need h .policy
    · exact mono_bind h _ .policy _
    · exact mono_bind h _ .policy _
    · exact mono_record h .policy (fun hP => hP _ (by decide)) fun _ _ => Mono.refl _
    · refine Mono.flatMap _ fun slot hslot => ((mono_need h slot).append (mono_bind h _ slot _)).append ?_
      refine mono_record h slot (fun hP => hP _ ?_) fun body hb => mono_approvalChecks h _ _ _ (by rw [hb]; rfl)
      exact (by decide : ∀ s ∈ approvalSlots, s ∈ authorizationSlots) slot hslot
    · exact mono_pairChecks h identities fun hP => ⟨hP _ (by decide), hP _ (by decide)⟩
    · exact mono_need h .finalStatus
    · exact mono_bind h _ .finalStatus _
    · refine mono_record h .finalStatus (fun hP => hP _ (by decide)) fun status _ => ?_
      exact mono_statusChecks h ht _ status _ fun hP slot hslot =>
        hP _ ((by decide : ∀ s ∈ approvalSlots, s ∈ authorizationSlots) slot hslot)

theorem mono_receiptChecks {P : Prop} (ht : at_ ≤ at') (dispatched : ℤ) (receipt : Json)
    (hp : P → (v.records .policy).isSome = true) :
    Mono P (receiptChecks v dispatched at_ receipt) (receiptChecks w dispatched at' receipt) := by
  rw [receiptChecks, receiptChecks, h.operation, h.operationDigest]
  refine Mono.append (Mono.append (Mono.append (Mono.append (Mono.refl _) (mono_bind h _ .dispatch _))
    (mono_need h .policy)) ?_) (Mono.append (Mono.refl [_]) (horizon ht _))
  rw [← List.flatMap_pure_eq_map, ← List.flatMap_pure_eq_map]
  exact mono_record h .policy hp fun _ _ => Mono.refl _

/-- The records whose contents the execution match rests on. -/
def executionSlots : List Slot := [.dispatch, .providerReceipt, .policy]

theorem mono_executionChecks (ht : at_ ≤ at') :
    Mono (∀ slot ∈ executionSlots, (v.records slot).isSome = true) (executionChecks py v at_) (executionChecks py w at') := by
  rw [executionChecks, executionChecks]
  refine Mono.append (Mono.append (mono_need h .dispatch) (mono_need h .providerReceipt)) ?_
  cases hd : v.records .dispatch with
  | none =>
    refine ⟨fun _ hr => (by cases hr), fun hP => ?_⟩
    have := hP .dispatch List.mem_cons_self
    rw [hd] at this
    cases this
  | some d =>
    rw [h.records _ _ hd]
    dsimp only
    rw [← h.operation]
    refine Mono.append (Mono.append (Mono.append (Mono.append (Mono.append (Mono.append (Mono.append ?_ ?_) ?_) ?_) ?_)
      ?_) ?_) ?_
    · exact mono_dispatchPayload h d
    · exact horizon ht _
    · exact mono_bind h _ .policy _
    · exact mono_bind h _ .policy _
    · exact Mono.flatMap _ fun slot _ => mono_bind h _ slot _
    · exact mono_bind h _ .finalStatus _
    · exact mono_bind h _ .control _
    · refine mono_record h .providerReceipt (fun hP => hP _ (by decide)) fun receipt _ => ?_
      exact mono_receiptChecks h ht _ receipt fun hP => hP _ (by decide)

theorem mono_execution (ht : at_ ≤ at') : Mono (∀ slot ∈ executionSlots, (v.records slot).isSome = true)
    (execution py v at_).1 (execution py w at').1 := by
  have hbefore : Mono (∀ slot ∈ executionSlots, (v.records slot).isSome = true) (executionChecks py v at_)
    (executionChecks py w at') := mono_executionChecks h ht
  have grow {checks : List Check} (hn : (v.records .dispatch).isSome = false ∨ (v.records .providerReceipt).isSome = false) :
      Mono (∀ slot ∈ executionSlots, (v.records slot).isSome = true) (executionChecks py v at_)
        (executionChecks py w at' ++ checks) := by
    refine ⟨fun reason hr => List.mem_append_left _ (hbefore.refutes reason hr), fun hP => ?_⟩
    rcases hn with hn | hn
    · rw [hP .dispatch (by decide)] at hn
      cases hn
    · rw [hP .providerReceipt (by decide)] at hn
      cases hn
  have whole : (execution py w at').1 = executionChecks py w at' ∨
      ∃ receipt, (execution py w at').1 = executionChecks py w at' ++ [terminalCheck receipt] := by
    unfold execution
    split
    · exact .inr ⟨_, rfl⟩
    · exact .inl rfl
    · exact .inl rfl
  cases hd : v.records .dispatch with
  | none =>
    have hfirst : (execution py v at_).1 = executionChecks py v at_ := by
      unfold execution
      rw [hd]
      cases v.records .providerReceipt <;> rfl
    rw [hfirst]
    rcases whole with hw | ⟨receipt, hw⟩
    · rw [hw, ← List.append_nil (executionChecks py w at')]
      exact grow (.inl (by rw [hd]; rfl))
    · rw [hw]
      exact grow (.inl (by rw [hd]; rfl))
  | some d =>
    cases hr : v.records .providerReceipt with
    | none =>
      have hfirst : (execution py v at_).1 = executionChecks py v at_ := by
        unfold execution
        rw [hd, hr]
      rw [hfirst]
      rcases whole with hw | ⟨receipt, hw⟩
      · rw [hw, ← List.append_nil (executionChecks py w at')]
        exact grow (.inr (by rw [hr]; rfl))
      · rw [hw]
        exact grow (.inr (by rw [hr]; rfl))
    | some receipt =>
      have hfirst : (execution py v at_).1 = executionChecks py v at_ ++ [terminalCheck receipt] := by
        unfold execution
        rw [hd, hr]
      have hsecond : (execution py w at').1 = executionChecks py w at' ++ [terminalCheck receipt] := by
        unfold execution
        rw [h.records _ _ hd, h.records _ _ hr]
      rw [hfirst, hsecond]
      exact hbefore.append (Mono.refl _)

theorem mono_retainedChecks {P : Prop} (hp : P → ∀ slot, (v.records slot).isSome = true) (collector : Json)
    (m : String × Json) : Mono P (retainedChecks v collector m) (retainedChecks w collector m) := by
  rw [retainedChecks, retainedChecks]
  cases hs : slots.find? fun s => s.name = m.1 && s ≠ .collector with
  | none => exact Mono.refl _
  | some s =>
    by_cases hr : (v.records s).isSome = true
    · obtain ⟨body, hb⟩ := Option.isSome_iff_exists.1 hr
      rw [Option.bind_some, Option.bind_some, h.digests s hr]
      cases w.digests s with
      | none => exact Mono.refl _
      | some d =>
        simp only [Option.map_some, hb, h.records s body hb]
        exact Mono.refl _
    · refine ⟨fun reason hmem => absurd hmem ?_, fun hP => absurd (hp hP s) hr⟩
      have hnone : v.records s = none := Option.not_isSome_iff_eq_none.1 hr
      rw [Option.bind_some]
      cases v.digests s with
      | none => simp
      | some d => simp [hnone]

theorem mono_collectorChecks {P : Prop} (ht : at_ ≤ at') (hp : P → ∀ slot, (v.records slot).isSome = true)
    (collector : Json) : Mono P (collectorChecks v at_ collector) (collectorChecks w at' collector) := by
  rw [collectorChecks, collectorChecks, h.operation, h.operationDigest]
  refine Mono.cons _ (Mono.append (Mono.append (Mono.append (Mono.refl _) ((horizon ht _).append (Mono.refl _))) ?_) ?_)
  · refine Mono.flatMap _ fun s _ => Mono.cons _ (Mono.available (fun hs => ?_) _)
    exact h.isSome hs
  · exact Mono.flatMap _ fun m _ => mono_retainedChecks h hp collector m

theorem mono_controlChecks {P : Prop} (ht : at_ ≤ at') (hp : P → ∀ slot, (v.records slot).isSome = true)
    (control : Json) : Mono P (controlChecks v at_ maxAge control) (controlChecks w at' maxAge control) := by
  rw [controlChecks, controlChecks, h.operation, h.operationDigest]
  refine Mono.cons _ (Mono.append (Mono.append (Mono.append (Mono.refl _) (horizon ht _)) ?_) (Mono.refl _))
  refine mono_record h .dispatch (fun hP => hp hP _) fun d _ => ?_
  exact ((Mono.refl _).append (mono_bind h _ .control _)).append (horizon ht _)

theorem mono_control (ht : at_ ≤ at') :
    Mono (∀ slot, (v.records slot).isSome = true) (control v at_ maxAge) (control w at' maxAge) := by
  rw [control, control]
  refine Mono.append (Mono.append (Mono.append (Mono.append (Mono.append (Mono.append (Mono.append ?_ ?_) ?_) ?_) ?_) ?_)
    ?_) ?_
  · exact mono_need h .control
  · exact mono_need h .collector
  · exact mono_need h .dispatch
  · exact mono_need h .policy
  · refine mono_record h .dispatch (fun hP => hP _) fun d _ => ?_
    rw [scopeChecks, scopeChecks, h.operation]
    exact Mono.refl _
  · refine mono_record h .policy (fun hP => hP _) fun policy _ => ?_
    rw [← h.operation]
    exact (mono_bind h _ .policy _).append (Mono.refl _)
  · exact mono_record h .control (fun hP => hP _) fun c _ => mono_controlChecks h ht (fun hP => hP) c
  · exact mono_record h .collector (fun hP => hP _) fun c _ => mono_collectorChecks h ht (fun hP => hP) c

end Claims

/-! ## What a valid verdict rests on -/

theorem passes_flatMap {α : Type} {l : List α} {f : α → List Check} :
    Passes (l.flatMap f) ↔ ∀ x ∈ l, Passes (f x) := List.forall_mem_flatMap

section Present
variable {py : Platform} {v : View} {at_ maxAge : ℤ}

theorem need_present {slot : Slot} (hp : Passes (need v slot)) : (v.records slot).isSome = true := (passes_cons.1 hp).1

theorem bind_present {value : Json} {slot : Slot} {label : String} (hp : Passes (bind v value slot label)) :
    (v.records slot).isSome = true := (passes_cons.1 hp).1

theorem authorization_present {identities : Json} {checks : List Check}
    (hv : authorization py v identities at_ maxAge = .ok checks) (hp : Passes checks) :
    ∀ slot ∈ authorizationSlots, (v.records slot).isSome = true := by
  unfold authorization at hv
  cases hd : v.records .dispatch with
  | none =>
    rw [hd] at hv
    cases hv
    have := need_present hp
    rw [hd] at this
    cases this
  | some d =>
    rw [hd] at hv
    obtain ⟨declared, -, hv⟩ := bind_ok hv
    cases hv
    simp only [passes_append, passes_flatMap] at hp
    obtain ⟨⟨⟨⟨⟨⟨⟨⟨⟨-, hpolicy⟩, -⟩, -⟩, -⟩, happrovals⟩, -⟩, hstatus⟩, -⟩, -⟩ := hp
    have happroved (slot : Slot) (hs : slot ∈ approvalSlots) : (v.records slot).isSome = true :=
      need_present (happrovals slot hs).1.1
    intro slot hslot
    simp only [authorizationSlots, List.mem_cons, List.not_mem_nil, or_false] at hslot
    rcases hslot with rfl | rfl | rfl | rfl | rfl
    · rw [hd]
      rfl
    · exact need_present hpolicy
    · exact happroved _ (by decide)
    · exact happroved _ (by decide)
    · exact need_present hstatus

theorem execution_present (hp : Passes (execution py v at_).1) :
    ∀ slot ∈ executionSlots, (v.records slot).isSome = true := by
  have hbefore : Passes (executionChecks py v at_) := by
    unfold execution at hp
    split at hp
    · exact (passes_append.1 hp).1
    · exact hp
    · exact hp
  rw [executionChecks, passes_append, passes_append] at hbefore
  obtain ⟨⟨hdispatch, hreceipt⟩, hrest⟩ := hbefore
  obtain ⟨d, hd⟩ := Option.isSome_iff_exists.1 (need_present hdispatch)
  rw [hd] at hrest
  simp only [passes_append] at hrest
  obtain ⟨⟨⟨⟨⟨⟨-, hpolicy⟩, -⟩, -⟩, -⟩, -⟩, -⟩ := hrest
  intro slot hslot
  simp only [executionSlots, List.mem_cons, List.not_mem_nil, or_false] at hslot
  rcases hslot with rfl | rfl | rfl
  · exact need_present hdispatch
  · exact need_present hreceipt
  · exact bind_present hpolicy

theorem control_present (hp : Passes (control v at_ maxAge)) : ∀ slot, (v.records slot).isSome = true := by
  simp only [control, passes_append, passes_flatMap] at hp
  obtain ⟨⟨⟨⟨⟨⟨⟨hcontrol, hcollector⟩, hdispatch⟩, hpolicy⟩, -⟩, -⟩, -⟩, hchecks⟩ := hp
  obtain ⟨collector, hc⟩ := Option.isSome_iff_exists.1 (need_present hcollector)
  have hothers (slot : Slot) (hs : slot ∈ slots.filter fun s => s ≠ .collector) : (v.records slot).isSome = true := by
    have hretained := hchecks collector (by rw [hc]; exact List.mem_cons_self)
    rw [collectorChecks, passes_cons, passes_append, passes_append] at hretained
    have heach := passes_flatMap.1 hretained.2.1.2 slot hs
    exact (passes_cons.1 (passes_cons.1 heach).2).1
  intro slot
  by_cases hs : slot = .collector
  · rw [hs]
    exact need_present hcollector
  · refine hothers slot (List.mem_filter.2 ⟨?_, decide_eq_true hs⟩)
    cases slot <;> decide

end Present
end VapEvidence.PaymentEvidence

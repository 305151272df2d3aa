import VapEvidence.AssessorReading

set_option autoImplicit false

/-!
# When a transfer is allowed

The three authorization fields of a transfer stay consistent through the passes of the
assessor, and a transfer is allowed exactly when it is authorized at its own time and every
observed event is authorized at the time of the event.
-/
namespace VapEvidence.Assessor.Transfer
open Json Incident Recording

section Spec
variable (pk : Packages) (ctx : Context)

/-- A policy for the target with the pinned content that is in effect at a time. -/
structure Effective (at_ : ℤ) (p : VerifiedRecord) : Prop where
  bound : p ∈ ctx.boundOn "transfer.policy" policyFields
  content : ∃ contentDigest, digest pk p.data = .ok contentDigest ∧ ctx.subject.item "policy_sha256" = .str contentDigest
  recorded : p.recordedAt ≤ at_
  start : timeOf (p.data.item "effective_from") ≤ at_
  stop : at_ < timeOf (p.data.item "effective_until")

/-- A grant of the policy covers the target. -/
def Grants (p : VerifiedRecord) : Prop :=
  ∃ grant ∈ itemsOf (p.data.item "grants"), ∀ f ∈ grantFields, grant.item f = ctx.subject.item f

/-- A decision on the target that applies at a time. -/
structure Applicable (at_ : ℤ) (d : VerifiedRecord) : Prop where
  bound : d ∈ ctx.bound "transfer.decision"
  recorded : d.recordedAt ≤ at_
  start : timeOf (d.data.item "valid_from") ≤ at_
  stop : at_ < timeOf (d.data.item "valid_until")

/-- A health record of exactly the given time. -/
structure HealthRecord (at_ : ℤ) (h : VerifiedRecord) : Prop where
  bound : h ∈ ctx.bound "transfer.collector_health"
  checked : timeOf (h.data.item "checked_at") = at_
  recorded : at_ ≤ h.recordedAt
  past : h.recordedAt ≤ ctx.asOf

def Available (h : VerifiedRecord) : Prop :=
  h.data.item "available" = .bool true ∧ h.data.item "durable_acknowledged" = .bool true

/-- What authorizes the target at a time. -/
structure Authorized (at_ : ℤ) : Prop where
  policy : ∃ p, Effective pk ctx at_ p ∧ (∀ q, Effective pk ctx at_ q → recency q ≤ recency p) ∧ Grants ctx p ∧
    (p.data.item "require_collector" = .bool true →
      (∃ h, HealthRecord ctx at_ h) ∧ ∀ h, HealthRecord ctx at_ h → Available h)
  decided : ∃ d, Applicable ctx at_ d
  unanimous : ∀ d, Applicable ctx at_ d → (∀ e, Applicable ctx at_ e → e.recordedAt ≤ d.recordedAt) →
    d.data.item "decision" = .str "permit"

/-- An egress or a dispatch of the target that was observed in time. -/
structure Observed (e : VerifiedRecord) : Prop where
  bound : e ∈ ctx.bound "transfer.egress" ∨ e ∈ ctx.bound "transfer.dispatch"
  later : ctx.operationAt ≤ eventTime e
  recorded : eventTime e ≤ e.recordedAt
  past : e.recordedAt ≤ ctx.asOf

end Spec

/-- The final fields agree with each other. -/
def Consistent (r : Assessments) : Prop :=
  (r.authorization = .deny ∧ r.dispatchAction = .blockControlledRoute ∧ r.routeAction = .block) ∨
  (r.authorization = .allow ∧ r.dispatchAction = .permittedWithinBoundScope ∧
    r.routeAction = .permittedWithinBoundScope) ∨
  (r.authorization = .review ∧ r.dispatchAction = .holdPendingCurrentAuthorization ∧ r.routeAction = .review)

/-- What holds of the fields before the proposal is drawn. -/
structure Provisional (r : Assessments) : Prop where
  known : r.authorization ≠ .unknown
  allowed : r.authorization = .allow →
    r.dispatchAction = .permittedWithinBoundScope ∧ r.routeAction = .permittedWithinBoundScope
  reviewed : r.authorization = .review → r.routeAction = .review

section Evaluation
variable {pk : Packages} {ctx : Context}

/-! ## Policies -/

theorem clean_policyReason {at_ : ℤ} {r : VerifiedRecord} : clean (policyReason pk ctx at_) r = true ↔
    (∃ contentDigest, digest pk r.data = .ok contentDigest ∧ ctx.subject.item "policy_sha256" = .str contentDigest) ∧
      within r at_ "effective_from" "effective_until" = true := by
  unfold clean policyReason
  cases digest pk r.data with
  | error e => simp [bind, Except.bind]
  | ok contentDigest =>
    simp only [bind, Except.bind, Except.ok.injEq, exists_eq_left']
    by_cases hd : Json.str contentDigest = ctx.subject.item "policy_sha256"
    · by_cases hw : within r at_ "effective_from" "effective_until" = true
      · simp [hd, hw, pure, Except.pure]
      · simp [hd, hw, pure, Except.pure]
    · have hd' : ¬ ctx.subject.item "policy_sha256" = Json.str contentDigest := fun h => hd h.symm
      simp [hd, hd', pure, Except.pure]

theorem within_iff {r : VerifiedRecord} {at_ : ℤ} {left right : String} : within r at_ left right = true ↔
    r.recordedAt ≤ at_ ∧ timeOf (r.data.item left) ≤ at_ ∧ at_ < timeOf (r.data.item right) := by
  simp only [within, Bool.and_eq_true, decide_eq_true_eq, and_assoc]

theorem mem_effective {at_ : ℤ} {r : VerifiedRecord} :
    r ∈ (ctx.boundOn "transfer.policy" policyFields).filter (clean (policyReason pk ctx at_)) ↔
      Effective pk ctx at_ r := by
  rw [List.mem_filter, clean_policyReason, within_iff]
  constructor
  · rintro ⟨hb, hc, hr, hs, ht⟩
    exact ⟨hb, hc, hr, hs, ht⟩
  · rintro ⟨hb, hc, hr, hs, ht⟩
    exact ⟨hb, hc, hr, hs, ht⟩

/-- The policy in force is an effective one that no effective one is more recent than. -/
theorem policyAt_ok {at_ : ℤ} {policy : Option VerifiedRecord} (h : value (policyAt pk ctx at_) = .ok policy) :
    (∀ p, policy = some p → Effective pk ctx at_ p ∧ ∀ q, Effective pk ctx at_ q → recency q ≤ recency p) ∧
      (policy = none → ∀ q, ¬ Effective pk ctx at_ q) := by
  unfold policyAt at h
  rw [value_bind] at h
  obtain ⟨current, hcurrent, h⟩ := bind_ok h
  cases h
  obtain rfl := value_sift hcurrent
  refine ⟨fun p hp => ?_, fun hnone q hq => ?_⟩
  · exact ⟨mem_effective.1 (List.argmax_mem hp), fun q hq => List.le_of_mem_argmax (mem_effective.2 hq) hp⟩
  · rw [List.argmax_eq_none] at hnone
    exact absurd (mem_effective.2 hq) (hnone ▸ List.not_mem_nil)

theorem grantMatches_iff {p : VerifiedRecord} : grantMatches ctx p = true ↔ Grants ctx p := by
  simp only [grantMatches, grantCovers, List.any_eq_true, List.all_eq_true, decide_eq_true_eq, Grants]

/-! ## Decisions -/

theorem mem_decisionCandidates {at_ : ℤ} {d : VerifiedRecord} : d ∈ decisionCandidates ctx at_ ↔ Applicable ctx at_ d := by
  rw [decisionCandidates, List.mem_filter, within_iff]
  constructor
  · rintro ⟨hb, hr, hs, ht⟩
    exact ⟨hb, hr, hs, ht⟩
  · rintro ⟨hb, hr, hs, ht⟩
    exact ⟨hb, hr, hs, ht⟩

theorem mem_latest {candidates : List VerifiedRecord} {d : VerifiedRecord} :
    d ∈ latest candidates ↔ d ∈ candidates ∧ ∀ e ∈ candidates, e.recordedAt ≤ d.recordedAt := by
  rw [latest, List.mem_filter, decide_eq_true_eq, eq_comm, List.max?_eq_some_iff]
  simp only [List.mem_map, forall_exists_index, and_imp, forall_apply_eq_imp_iff₂]
  constructor
  · rintro ⟨hd, -, hall⟩
    exact ⟨hd, hall⟩
  · rintro ⟨hd, hall⟩
    exact ⟨hd, ⟨d, hd, rfl⟩, hall⟩

theorem latest_ne_nil {candidates : List VerifiedRecord} (h : candidates ≠ []) : latest candidates ≠ [] := by
  cases hm : (candidates.map VerifiedRecord.recordedAt).max? with
  | none => exact absurd (List.map_eq_nil_iff.1 (List.max?_eq_none_iff.1 hm)) h
  | some t =>
    obtain ⟨hmem, -⟩ := List.max?_eq_some_iff.1 hm
    obtain ⟨d, hd, rfl⟩ := List.mem_map.1 hmem
    exact List.ne_nil_of_mem (List.mem_filter.2 ⟨hd, decide_eq_true hm.symm⟩)

/-- The latest decisions in one voice: a permit, unless some of them denies. -/
theorem decisionAt_ok {at_ : ℤ} (hvalid : ∀ d ∈ ctx.bound "transfer.decision",
      d.data.item "decision" = .str "permit" ∨ d.data.item "decision" = .str "deny") :
    ∃ decision conflict, value (decisionAt ctx at_) = .ok (decision, conflict) ∧
      (decides decision "permit" = true → conflict = false) ∧
      (decision.isSome = true → conflict = false) ∧
      (decision.isSome = true ∧ decides decision "deny" = false ↔ decides decision "permit" = true) ∧
      (decides decision "permit" = true ↔ (∃ d, Applicable ctx at_ d) ∧ ∀ d, Applicable ctx at_ d →
        (∀ e, Applicable ctx at_ e → e.recordedAt ≤ d.recordedAt) → d.data.item "decision" = .str "permit") := by
  have hspec : ((∃ d, Applicable ctx at_ d) ∧ ∀ d, Applicable ctx at_ d →
        (∀ e, Applicable ctx at_ e → e.recordedAt ≤ d.recordedAt) → d.data.item "decision" = .str "permit") ↔
      decisionCandidates ctx at_ ≠ [] ∧
        ∀ d ∈ latest (decisionCandidates ctx at_), d.data.item "decision" = .str "permit" := by
    simp only [← mem_decisionCandidates, mem_latest, and_imp, ne_eq, List.eq_nil_iff_forall_not_mem, not_forall, not_not]
  rw [hspec]
  generalize hcands : decisionCandidates ctx at_ = candidates
  have hdecision : ∀ d ∈ candidates, d.data.item "decision" = .str "permit" ∨ d.data.item "decision" = .str "deny" := by
    intro d hd
    rw [← hcands, decisionCandidates] at hd
    exact hvalid d (List.mem_filter.1 hd).1
  unfold decisionAt
  simp only [hcands]
  by_cases hempty : candidates = []
  · subst hempty
    exact ⟨none, false, rfl, fun _ => rfl, fun _ => rfl, by simp [decides], by simp [decides]⟩
  rw [if_neg (by simpa using hempty)]
  have hne := latest_ne_nil hempty
  by_cases hone : ((latest candidates).map fun r => r.data.item "decision").dedup.length = 1
  · rw [if_neg (not_not.2 hone)]
    obtain ⟨x, hx⟩ := List.length_eq_one_iff.1 hone
    have hsame : ∀ d ∈ latest candidates, d.data.item "decision" = x := by
      intro d hd
      have hm : d.data.item "decision" ∈ ((latest candidates).map fun r => r.data.item "decision").dedup :=
        List.mem_dedup.2 (List.mem_map_of_mem hd)
      rw [hx] at hm
      exact List.mem_singleton.1 hm
    cases hmin : (latest candidates).argmin VerifiedRecord.recordId with
    | none => exact absurd (List.argmin_eq_none.1 hmin) hne
    | some m =>
      have hm := List.argmin_mem hmin
      have hmx := hsame m hm
      refine ⟨some m, false, rfl, fun _ => rfl, fun _ => rfl, ?_, ?_⟩
      · rcases hdecision m (mem_latest.1 hm).1 with hp | hd
        · simp [decides, hp]
        · simp [decides, hd]
      · simp only [decides, Option.any_some, decide_eq_true_eq, hmx, hempty, ne_eq, not_false_eq_true, true_and]
        exact ⟨fun h d hd => (hsame d hd).trans h, fun h => hmx ▸ h m hm⟩
  · rw [if_pos hone]
    refine ⟨none, true, rfl, fun h => (by cases h), fun h => (by cases h), by simp [decides], ?_⟩
    simp only [decides, Option.any_none, Bool.false_eq_true, false_iff, not_and]
    intro _ hall
    refine hone ?_
    have hrep : (latest candidates).map (fun r => r.data.item "decision") =
        List.replicate (latest candidates).length (.str "permit") :=
      List.map_eq_replicate_iff.2 hall
    rw [hrep, List.replicate_dedup (by simpa using hne)]
    rfl

/-! ## Passes -/

/-- The four fields that the authorization of a transfer rests on are those of `r`. -/
structure SameFields (r r' : Assessments) : Prop where
  authorization : r'.authorization = r.authorization
  dispatchAction : r'.dispatchAction = r.dispatchAction
  routeAction : r'.routeAction = r.routeAction

theorem SameFields.consistent {r r' : Assessments} (h : SameFields r r') (hr : Consistent r) : Consistent r' := by
  rwa [Consistent, h.authorization, h.dispatchAction, h.routeAction]

theorem registryPass_ok {policy decision : Option VerifiedRecord} {conflict : Bool} {r : Assessments}
    (h : value (registryPass ctx policy decision conflict .initial) = .ok r) : Provisional r ∧
      (r.authorization = .allow ↔ (∃ p, policy = some p ∧ Grants ctx p) ∧ decision.isSome = true ∧ conflict = false ∧
        decides decision "deny" = false) := by
  unfold registryPass at h
  cases policy with
  | none =>
    simp only [Option.any_none, Option.isSome_none, Bool.false_and, Bool.false_eq_true, if_false] at h
    split_ifs at h
    · cases h
      exact ⟨⟨nofun, nofun, nofun⟩, by simp⟩
    · cases h
      exact ⟨⟨nofun, nofun, fun _ => rfl⟩, by simp⟩
  | some p =>
    simp only [Option.some.injEq, exists_eq_left']
    simp only [Option.any_some, Option.isSome_some, Bool.true_and] at h
    cases hg : grantMatches ctx p with
    | false =>
      rw [hg] at h
      cases h
      refine ⟨⟨nofun, nofun, nofun⟩, ?_⟩
      rw [← grantMatches_iff, hg]
      simp
    | true =>
      rw [hg] at h
      simp only [Bool.true_and] at h
      rw [← grantMatches_iff, hg]
      split_ifs at h with hdeny hallow
      · cases h
        exact ⟨⟨nofun, nofun, nofun⟩, by simp [hdeny]⟩
      · cases h
        simp only [Bool.and_eq_true, Bool.not_eq_true'] at hallow
        exact ⟨⟨nofun, fun _ => ⟨rfl, rfl⟩, nofun⟩, by simp [hallow, hdeny]⟩
      · cases h
        refine ⟨⟨nofun, nofun, fun _ => rfl⟩, ?_⟩
        simp only [Bool.and_eq_true, Bool.not_eq_true'] at hallow
        simp only [reduceCtorEq, true_and, false_iff, not_and]
        exact fun hs hc => absurd ⟨hs, hc⟩ hallow

theorem payloadPass_ok {r r' : Assessments} (h : value (payloadPass ctx r) = .ok r') (hr : Provisional r) :
    Provisional r' ∧ (r'.authorization = .allow ↔ r.authorization = .allow) := by
  unfold payloadPass at h
  split_ifs at h with hallow hnone
  · cases h
    exact ⟨hr, Iff.rfl⟩
  · rw [value_bind] at h
    obtain ⟨_, -, h⟩ := bind_ok h
    cases h
    exact ⟨hr, Iff.rfl⟩
  · rw [value_bind] at h
    obtain ⟨_, -, h⟩ := bind_ok h
    cases h
    exact ⟨⟨nofun, nofun, nofun⟩, by simp [hallow]⟩

theorem healthPass_ok {policy : Option VerifiedRecord} {r r' : Assessments}
    (h : value (healthPass ctx policy r) = .ok r') (hr : Provisional r) : Provisional r' ∧
      (r'.authorization = .allow ↔ r.authorization = .allow ∧ (requiresCollector policy = true →
        healthAt ctx ctx.operationAt ≠ [] ∧ unavailable (healthAt ctx ctx.operationAt) = [])) := by
  unfold healthPass at h
  rw [value_bind] at h
  obtain ⟨_, -, h⟩ := bind_ok h
  generalize healthAt ctx ctx.operationAt = health at h ⊢
  split_ifs at h with hhealth hun hreq hreq
  · simp only [value_bind, value_finding, value_findingIf] at h
    have hne : unavailable health ≠ [] := by simpa using hun
    cases h
    exact ⟨⟨nofun, nofun, nofun⟩, by simp [hreq, hne]⟩
  · simp only [value_bind, value_finding, value_findingIf] at h
    cases h
    exact ⟨⟨hr.known, hr.allowed, hr.reviewed⟩, by simp [hreq]⟩
  · cases h
    have hnil : unavailable health = [] := by simpa using hun
    have hne : health ≠ [] := by simpa using hhealth
    exact ⟨⟨hr.known, hr.allowed, hr.reviewed⟩, by simp [hnil, hne]⟩
  · simp only [value_bind, value_findingIf] at h
    have hnil : health = [] := by simpa using hhealth
    simp only [Bool.and_eq_true, decide_eq_true_eq] at hreq
    cases h
    exact ⟨⟨nofun, nofun, fun _ => rfl⟩, by simp [hreq, hnil]⟩
  · simp only [value_bind, value_findingIf] at h
    simp only [Bool.and_eq_true, decide_eq_true_eq, not_and] at hreq
    cases h
    exact ⟨hr, ⟨fun ha => ⟨ha, fun hq => absurd ha (hreq hq)⟩, And.left⟩⟩

theorem proposalPass_consistent {r : Assessments} (hr : Provisional r) : Consistent (proposalPass r) ∧
    ((proposalPass r).authorization = .allow ↔ r.authorization = .allow) := by
  unfold proposalPass Consistent
  cases ha : r.authorization with
  | unknown => exact absurd ha hr.known
  | deny => simp
  | review => simp [hr.reviewed ha]
  | allow => simp [ha, hr.allowed ha]

theorem coveragePass_same {r r' : Assessments} {egresses dispatches : List VerifiedRecord}
    (h : value (coveragePass ctx r) = .ok (r', egresses, dispatches)) : SameFields r r' ∧
      value (events ctx "transfer.egress" "observed_at") = .ok egresses ∧
      value (events ctx "transfer.dispatch" "dispatched_at") = .ok dispatches := by
  unfold coveragePass at h
  simp only [value_bind, value_findingIf] at h
  obtain ⟨coverage, -, h⟩ := bind_ok h
  obtain ⟨_, -, h⟩ := bind_ok h
  obtain ⟨_, -, h⟩ := bind_ok h
  obtain ⟨_, -, h⟩ := bind_ok h
  obtain ⟨found, hdispatch, h⟩ := bind_ok h
  obtain ⟨seen, hegress, h⟩ := bind_ok h
  split_ifs at h
  · cases h
    exact ⟨⟨rfl, rfl, rfl⟩, hegress, hdispatch⟩
  · cases h
    exact ⟨⟨rfl, rfl, rfl⟩, hegress, hdispatch⟩
  · cases h
    exact ⟨⟨rfl, rfl, rfl⟩, hegress, hdispatch⟩
  · simp only [value_bind, value_findingIf] at h
    cases h
    exact ⟨⟨rfl, rfl, rfl⟩, hegress, hdispatch⟩

theorem timeoutPass_same {dispatches : List VerifiedRecord} {r r' : Assessments}
    (h : value (timeoutPass ctx dispatches r) = .ok r') : SameFields r r' := by
  unfold timeoutPass at h
  rw [value_bind] at h
  obtain ⟨_, -, h⟩ := bind_ok h
  rw [value_bind] at h
  obtain ⟨_, -, h⟩ := bind_ok h
  cases h
  exact ⟨rfl, rfl, rfl⟩

theorem eventPass_ok {observed : List VerifiedRecord} {r r' : Assessments}
    (h : value (eventPass pk ctx observed r) = .ok r') (hr : Consistent r) : Consistent r' ∧
      ∃ assessments, List.Forall₂ (fun e a => value (eventAssessment pk ctx e) = .ok a) observed assessments ∧
        (r'.authorization = .allow ↔ r.authorization = .allow ∧ ∀ a ∈ assessments, a ≠ .deny ∧ a ≠ .review) := by
  unfold eventPass at h
  rw [value_bind] at h
  obtain ⟨assessments, hall, h⟩ := bind_ok h
  refine (fun (hc : Consistent r' ∧ (r'.authorization = .allow ↔ r.authorization = .allow ∧
    ∀ a ∈ assessments, a ≠ .deny ∧ a ≠ .review)) => ⟨hc.1, assessments, value_each hall, hc.2⟩) ?_
  have hnone : (∀ a ∈ assessments, a ≠ .deny ∧ a ≠ .review) ↔ .deny ∉ assessments ∧ .review ∉ assessments :=
    ⟨fun hf => ⟨fun hm => (hf _ hm).1 rfl, fun hm => (hf _ hm).2 rfl⟩,
      fun hf a ha => ⟨fun he => hf.1 (he ▸ ha), fun he => hf.2 (he ▸ ha)⟩⟩
  rw [hnone]
  have hr' := Except.ok.inj h
  subst hr'
  split_ifs with hempty hdeny hreview
  · have hnil : assessments = [] := by simpa using hempty
    exact ⟨hr, by simp [hnil]⟩
  · have hm : .deny ∈ assessments := by simpa using hdeny
    exact ⟨.inl ⟨rfl, rfl, rfl⟩, by simp [hm]⟩
  · have hm : .review ∈ assessments := by simpa using hreview
    dsimp only
    split_ifs with hallow
    · exact ⟨.inr (.inr ⟨rfl, rfl, rfl⟩), by simp [hm]⟩
    · exact ⟨hr, by simp [hallow]⟩
  · have hd : .deny ∉ assessments := by simpa using hdeny
    have hv : .review ∉ assessments := by simpa using hreview
    exact ⟨hr, by simp [hd, hv]⟩

/-! ## Authorization at a time -/

theorem mem_healthAt {at_ : ℤ} {h : VerifiedRecord} : h ∈ healthAt ctx at_ ↔ HealthRecord ctx at_ h := by
  simp only [healthAt, List.mem_filter, Bool.and_eq_true, decide_eq_true_eq]
  constructor
  · rintro ⟨hb, ⟨hc, hr⟩, hp⟩
    exact ⟨hb, hc, hc ▸ hr, hp⟩
  · rintro ⟨hb, hc, hr, hp⟩
    exact ⟨hb, ⟨hc, hc.symm ▸ hr⟩, hp⟩

theorem unavailable_nil {health : List VerifiedRecord} : unavailable health = [] ↔ ∀ h ∈ health, Available h := by
  simp only [unavailable, List.filter_eq_nil_iff, Bool.or_eq_true, decide_eq_true_eq, not_or, not_not, Available, ne_eq]

theorem health_iff {at_ : ℤ} : healthAt ctx at_ ≠ [] ∧ unavailable (healthAt ctx at_) = [] ↔
    (∃ h, HealthRecord ctx at_ h) ∧ ∀ h, HealthRecord ctx at_ h → Available h := by
  rw [unavailable_nil]
  simp only [mem_healthAt, ne_eq, List.eq_nil_iff_forall_not_mem, not_forall, not_not]

/-- What the assessor reads at a time authorizes the target exactly when the specification does. -/
theorem permission_iff (hctx : ctx.Valid pk) {at_ : ℤ} {policy : Option VerifiedRecord} {permits : Prop}
    (hp : value (policyAt pk ctx at_) = .ok policy)
    (hd : permits ↔ (∃ d, Applicable ctx at_ d) ∧ ∀ d, Applicable ctx at_ d →
      (∀ e, Applicable ctx at_ e → e.recordedAt ≤ d.recordedAt) → d.data.item "decision" = .str "permit") :
    Authorized pk ctx at_ ↔ (∃ p, policy = some p ∧ Grants ctx p) ∧ permits ∧ (requiresCollector policy = true →
      healthAt ctx at_ ≠ [] ∧ unavailable (healthAt ctx at_) = []) := by
  obtain ⟨hsome, hnone⟩ := policyAt_ok hp
  rw [hd, health_iff]
  constructor
  · rintro ⟨⟨p, heff, hmax, hgrants, hhealth⟩, hdecided, hall⟩
    cases policy with
    | none => exact absurd heff (hnone rfl p)
    | some q =>
      obtain ⟨hq, hqmax⟩ := hsome q rfl
      have hrecency : recency p = recency q := le_antisymm (hqmax p heff) (hmax q hq)
      have hid : p.recordId = q.recordId := congrArg (fun x => (ofLex x).2) hrecency
      obtain rfl := hctx.distinct p (mem_boundOn.1 heff.bound).1 q (mem_boundOn.1 hq.bound).1 hid
      refine ⟨⟨p, rfl, hgrants⟩, ⟨hdecided, hall⟩, fun hreq => hhealth ?_⟩
      simpa [requiresCollector] using hreq
  · rintro ⟨⟨p, rfl, hgrants⟩, ⟨hdecided, hall⟩, hhealth⟩
    obtain ⟨heff, hmax⟩ := hsome p rfl
    refine ⟨⟨p, heff, hmax, hgrants, fun hreq => hhealth ?_⟩, hdecided, hall⟩
    simpa [requiresCollector] using hreq

/-- Where effective policies have one content, any of them serves. -/
theorem authorized_any {at_ : ℤ}
    (hsame : ∀ p q, Effective pk ctx at_ p → Effective pk ctx at_ q → p.data = q.data) :
    Authorized pk ctx at_ ↔
      (∃ p, Effective pk ctx at_ p ∧ Grants ctx p ∧ (p.data.item "require_collector" = .bool true →
        (∃ h, HealthRecord ctx at_ h) ∧ ∀ h, HealthRecord ctx at_ h → Available h)) ∧
      (∃ d, Applicable ctx at_ d) ∧ ∀ d, Applicable ctx at_ d →
        (∀ e, Applicable ctx at_ e → e.recordedAt ≤ d.recordedAt) → d.data.item "decision" = .str "permit" := by
  constructor
  · rintro ⟨⟨p, hp, -, hgrants, hneeds⟩, hdecided, hunanimous⟩
    exact ⟨⟨p, hp, hgrants, hneeds⟩, hdecided, hunanimous⟩
  · rintro ⟨⟨p, hp, hgrants, hneeds⟩, hdecided, hunanimous⟩
    have hmem := mem_effective.2 hp
    cases hmax : ((ctx.boundOn "transfer.policy" policyFields).filter (clean (policyReason pk ctx at_))).argmax recency with
    | none => exact absurd hmem (List.argmax_eq_none.1 hmax ▸ List.not_mem_nil)
    | some q =>
      have hq := mem_effective.1 (List.argmax_mem hmax)
      have hdata := hsame p q hp hq
      rw [Grants, hdata] at hgrants
      rw [hdata] at hneeds
      exact ⟨⟨q, hq, fun o ho => List.le_of_mem_argmax (mem_effective.2 ho) hmax, hgrants, hneeds⟩, hdecided,
        hunanimous⟩

theorem decision_valid (hctx : ctx.Valid pk) : ∀ d ∈ ctx.bound "transfer.decision",
    d.data.item "decision" = .str "permit" ∨ d.data.item "decision" = .str "deny" := by
  intro d hd
  obtain ⟨hm, hk, -⟩ := mem_boundOn.1 hd
  have hv := hctx.data d hm
  rw [hk] at hv
  change transferData pk "transfer.decision" d.data = .ok () at hv
  unfold transferData at hv
  rw [if_neg (by decide), if_pos rfl] at hv
  obtain ⟨_, -, hv⟩ := bind_ok hv
  obtain ⟨_, hv, -⟩ := bind_ok hv
  have hv := Incident.require_ok hv
  simpa only [Bool.or_eq_true, decide_eq_true_eq] using hv

/-- The outcome of one event from what was read at its time. -/
def eventOutcome (policy decision : Option VerifiedRecord) (conflict : Bool) (health : List VerifiedRecord) :
    Authorization :=
  if policy.any (fun p => !grantMatches ctx p) || (decides decision "deny" && !conflict) ||
    (requiresCollector policy && !(unavailable health).isEmpty) then .deny
  else if policy.isSome && !conflict && decides decision "permit" && (!requiresCollector policy || !health.isEmpty) then
    .allow
  else .review

theorem eventAssessment_value {e : VerifiedRecord} {policy decision : Option VerifiedRecord} {conflict : Bool}
    (hp : value (policyAt pk ctx (eventTime e)) = .ok policy)
    (hd : value (decisionAt ctx (eventTime e)) = .ok (decision, conflict)) :
    value (eventAssessment pk ctx e) =
      .ok (@eventOutcome ctx policy decision conflict (healthAt ctx (eventTime e))) := by
  unfold eventAssessment eventOutcome
  rw [value_bind, hp]
  dsimp only [bind, Except.bind]
  change value (decisionAt ctx (eventTime e) >>= _) = _
  rw [value_bind, hd]
  dsimp only [bind, Except.bind]
  split
  · rfl
  · split
    · rfl
    · rfl

theorem eventOutcome_allow {policy decision : Option VerifiedRecord} {conflict : Bool} {health : List VerifiedRecord}
    (hconf : decides decision "permit" = true → conflict = false)
    (hdeny : decides decision "permit" = true → decides decision "deny" = false) :
    @eventOutcome ctx policy decision conflict health = .allow ↔ (∃ p, policy = some p ∧ Grants ctx p) ∧
      decides decision "permit" = true ∧ (requiresCollector policy = true → health ≠ [] ∧ unavailable health = []) := by
  unfold eventOutcome
  cases policy with
  | none =>
    simp only [Option.isSome_none, Bool.false_and, Bool.false_eq_true, if_false]
    split_ifs <;> simp
  | some p =>
    simp only [Option.any_some, Option.isSome_some, Bool.true_and, Option.some.injEq, exists_eq_left',
      ← grantMatches_iff]
    cases hpm : decides decision "permit" with
    | false =>
      simp only [Bool.and_false, Bool.false_and, Bool.false_eq_true, if_false]
      split_ifs <;> simp
    | true =>
      rw [hconf hpm, hdeny hpm]
      cases grantMatches ctx p <;> cases requiresCollector (some p) <;> cases health <;>
        cases unavailable _ <;> simp

theorem eventAssessment_ok (hctx : ctx.Valid pk) {e : VerifiedRecord} {a : Authorization}
    (h : value (eventAssessment pk ctx e) = .ok a) : a ≠ .deny ∧ a ≠ .review ↔ Authorized pk ctx (eventTime e) := by
  have hp : ∃ policy, value (policyAt pk ctx (eventTime e)) = .ok policy := by
    unfold eventAssessment at h
    rw [value_bind] at h
    obtain ⟨policy, hp, -⟩ := bind_ok h
    exact ⟨policy, hp⟩
  obtain ⟨policy, hp⟩ := hp
  obtain ⟨decision, conflict, hd, hconf, hsome, hdeny, hpermit⟩ :=
    @decisionAt_ok ctx (eventTime e) (decision_valid hctx)
  have ha := Except.ok.inj ((eventAssessment_value hp hd).symm.trans h)
  rw [permission_iff hctx hp hpermit, ← eventOutcome_allow hconf fun hpm => (hdeny.2 hpm).2, ha]
  have hknown : a ≠ .unknown := by
    rw [← ha, eventOutcome]
    split_ifs <;> exact nofun
  cases a with
  | unknown => exact absurd rfl hknown
  | deny => simp
  | review => simp
  | allow => simp

/-! ## The whole evaluation -/

theorem mem_events {kind field : String} {found : List VerifiedRecord} (h : value (events ctx kind field) = .ok found)
    {e : VerifiedRecord} : e ∈ found ↔ e ∈ ctx.bound kind ∧ ctx.operationAt ≤ timeOf (e.data.item field) ∧
      timeOf (e.data.item field) ≤ e.recordedAt ∧ e.recordedAt ≤ ctx.asOf := by
  unfold events at h
  have heq := value_sift_pure (fun r => if ctx.operationAt ≤ timeOf (r.data.item field) &&
    timeOf (r.data.item field) ≤ r.recordedAt && r.recordedAt ≤ ctx.asOf then none
    else some ("TRANSFER_EVENT_TIME_INAPPLICABLE", [r])) (ctx.bound kind)
  obtain rfl := Except.ok.inj (h.symm.trans heq)
  rw [List.mem_filter]
  refine and_congr_right fun _ => ?_
  split_ifs with hc
  · simpa [and_assoc] using hc
  · simpa [and_assoc] using hc

theorem observed_iff {egresses dispatches : List VerifiedRecord}
    (he : value (events ctx "transfer.egress" "observed_at") = .ok egresses)
    (hd : value (events ctx "transfer.dispatch" "dispatched_at") = .ok dispatches) {e : VerifiedRecord} :
    e ∈ egresses ++ dispatches ↔ Observed ctx e := by
  have hegress : e ∈ ctx.bound "transfer.egress" → eventTime e = timeOf (e.data.item "observed_at") := fun hb => by
    rw [eventTime, if_pos (mem_boundOn.1 hb).2.1]
  have hdispatch : e ∈ ctx.bound "transfer.dispatch" → eventTime e = timeOf (e.data.item "dispatched_at") := fun hb => by
    rw [eventTime, if_neg]
    rw [(mem_boundOn.1 hb).2.1]
    decide
  rw [List.mem_append, mem_events he, mem_events hd]
  constructor
  · rintro (⟨hb, hl, hr, hp⟩ | ⟨hb, hl, hr, hp⟩)
    · rw [← hegress hb] at hl hr
      exact ⟨.inl hb, hl, hr, hp⟩
    · rw [← hdispatch hb] at hl hr
      exact ⟨.inr hb, hl, hr, hp⟩
  · rintro ⟨hb | hb, hl, hr, hp⟩
    · rw [hegress hb] at hl hr
      exact .inl ⟨hb, hl, hr, hp⟩
    · rw [hdispatch hb] at hl hr
      exact .inr ⟨hb, hl, hr, hp⟩

/-- A transfer is consistent, and is allowed exactly when it is authorized at the time of the operation
and every observed event at its own. -/
theorem evaluate_ok (hctx : ctx.Valid pk) {r : Assessments} (h : value (evaluate pk ctx) = .ok r) : Consistent r ∧
    (r.authorization = .allow ↔ Authorized pk ctx ctx.operationAt ∧
      ∀ e, Observed ctx e → Authorized pk ctx (eventTime e)) := by
  unfold evaluate at h
  rw [value_bind] at h
  obtain ⟨_, -, h⟩ := bind_ok h
  rw [if_neg (not_lt.2 hctx.past), value_bind] at h
  obtain ⟨policy, hp, h⟩ := bind_ok h
  obtain ⟨decision, conflict, hd, hconf, hsome, hdeny, hpermit⟩ :=
    @decisionAt_ok ctx ctx.operationAt (decision_valid hctx)
  rw [value_bind] at h
  obtain ⟨read, hread, h⟩ := bind_ok h
  obtain rfl := Except.ok.inj (hd.symm.trans hread)
  dsimp only at h
  rw [value_bind] at h
  obtain ⟨r1, h1, h⟩ := bind_ok h
  rw [value_bind] at h
  obtain ⟨r2, h2, h⟩ := bind_ok h
  rw [value_bind] at h
  obtain ⟨r3, h3, h⟩ := bind_ok h
  rw [value_bind] at h
  obtain ⟨⟨r4, egresses, dispatches⟩, h4, h⟩ := bind_ok h
  dsimp only at h
  rw [value_bind] at h
  obtain ⟨r5, h5, h6⟩ := bind_ok h
  obtain ⟨hprov1, hallow1⟩ := registryPass_ok h1
  obtain ⟨hprov2, hallow2⟩ := payloadPass_ok h2 hprov1
  obtain ⟨hprov3, hallow3⟩ := healthPass_ok h3 hprov2
  obtain ⟨hcons, hproposed⟩ := proposalPass_consistent hprov3
  obtain ⟨hsame4, hegress, hdispatch⟩ := coveragePass_same h4
  obtain ⟨hcons5, assessments, hall, hallow5⟩ := eventPass_ok h5 (hsame4.consistent hcons)
  have hsame6 := timeoutPass_same h6
  refine ⟨hsame6.consistent hcons5, ?_⟩
  have hpermits : decision.isSome = true ∧ conflict = false ∧ decides decision "deny" = false ↔
      decides decision "permit" = true := by
    constructor
    · rintro ⟨hs, -, hn⟩
      exact hdeny.1 ⟨hs, hn⟩
    · intro hpm
      exact ⟨(hdeny.2 hpm).1, hconf hpm, (hdeny.2 hpm).2⟩
  rw [hsame6.authorization, hallow5, hsame4.authorization, hproposed, hallow3, hallow2, hallow1, hpermits,
    permission_iff hctx hp hpermit, and_assoc, and_assoc, and_assoc, and_assoc]
  refine and_congr_right fun _ => and_congr_right fun _ => and_congr_right fun _ => ?_
  constructor
  · intro ha e he
    obtain ⟨a, ham, hv⟩ := forall₂_left hall ((observed_iff hegress hdispatch).2 he)
    exact (eventAssessment_ok hctx hv).1 (ha a ham)
  · intro ha a ham
    obtain ⟨e, hem, hv⟩ := forall₂_right hall ham
    exact (eventAssessment_ok hctx hv).2 (ha e ((observed_iff hegress hdispatch).1 hem))

/-! ## Packages with more events -/

/-- What authorizes a transfer is read from three kinds of records. -/
theorem Authorized.congr {ctx' : Context} (hsubject : ctx'.subject = ctx.subject) (hasOf : ctx'.asOf = ctx.asOf)
    (hrecords : ∀ kind ∈ ["transfer.policy", "transfer.decision", "transfer.collector_health"],
      ctx'.records kind = ctx.records kind) {at_ : ℤ} (h : Authorized pk ctx' at_) : Authorized pk ctx at_ := by
  have hbound : ∀ kind ∈ ["transfer.policy", "transfer.decision", "transfer.collector_health"], ∀ fields,
      ctx'.boundOn kind fields = ctx.boundOn kind fields := by
    intro kind hk fields
    rw [Context.boundOn, Context.boundOn, hrecords kind hk]
    simp only [Context.matchesOn, Context.differences, hsubject]
  have hall : ∀ kind ∈ ["transfer.policy", "transfer.decision", "transfer.collector_health"],
      ctx'.bound kind = ctx.bound kind := by
    intro kind hk
    rw [Context.bound, Context.bound, hsubject, hbound kind hk]
  have hpolicy := hbound "transfer.policy" (by decide) policyFields
  have hdecision := hall "transfer.decision" (by decide)
  have hcollector := hall "transfer.collector_health" (by decide)
  have heff : ∀ p, Effective pk ctx' at_ p ↔ Effective pk ctx at_ p := by
    intro p
    constructor
    · rintro ⟨hb, hc, hr, hs, ht⟩
      exact ⟨hpolicy ▸ hb, hsubject ▸ hc, hr, hs, ht⟩
    · rintro ⟨hb, hc, hr, hs, ht⟩
      exact ⟨hpolicy.symm ▸ hb, hsubject.symm ▸ hc, hr, hs, ht⟩
  have happ : ∀ d, Applicable ctx' at_ d ↔ Applicable ctx at_ d := by
    intro d
    constructor
    · rintro ⟨hb, hr, hs, ht⟩
      exact ⟨hdecision ▸ hb, hr, hs, ht⟩
    · rintro ⟨hb, hr, hs, ht⟩
      exact ⟨hdecision.symm ▸ hb, hr, hs, ht⟩
  have hhealth : ∀ r, HealthRecord ctx' at_ r ↔ HealthRecord ctx at_ r := by
    intro r
    constructor
    · rintro ⟨hb, hc, hr, hp⟩
      exact ⟨hcollector ▸ hb, hc, hr, hasOf ▸ hp⟩
    · rintro ⟨hb, hc, hr, hp⟩
      exact ⟨hcollector.symm ▸ hb, hc, hr, hasOf.symm ▸ hp⟩
  obtain ⟨⟨p, hp, hmax, hgrants, hneeds⟩, hdecided, hunanimous⟩ := h
  simp only [heff, happ, hhealth] at hp hmax hneeds hdecided hunanimous
  refine ⟨⟨p, hp, hmax, ?_, hneeds⟩, hdecided, hunanimous⟩
  rwa [Grants, hsubject] at hgrants

theorem assess_transfer {package trust : Json} {allow : Bool} {report : Report}
    (h : assess pk package trust allow = .ok report) {result : Assessments}
    (hr : report.assessments = .transfer result) : validatePackage pk package = .ok () ∧
      ∃ ctx, newContext pk package trust = .ok ctx ∧ value (evaluate pk ctx) = .ok result := by
  obtain ⟨hvalid, ctx, hctx, hev, -⟩ := assess_ok h
  refine ⟨hvalid, ctx, hctx, ?_⟩
  rw [hr] at hev
  unfold Assessor.evaluate at hev
  split at hev
  · rw [value_bind] at hev
    obtain ⟨r, hv, hev⟩ := bind_ok hev
    cases hev
    exact hv
  all_goals
    first
      | (rw [value_bind] at hev; obtain ⟨r, -, hev⟩ := bind_ok hev; cases hev)
      | cases hev

/-- The kinds of records that only add observations. -/
def observationKinds : List String := ["transfer.egress", "transfer.dispatch", "transfer.timeout", "transfer.coverage"]

/-- The authorization, the dispatch action and the route action of every assessed transfer agree; it is
allowed exactly when it is authorized at the time of the operation and every observed event at its own; and
more observations never make it allowed. -/
theorem transfer_allowed {package trust : Json} {allow : Bool} {report : Report}
    (h : assess pk package trust allow = .ok report) {result : Assessments}
    (hr : report.assessments = .transfer result) :
    Consistent result ∧
    (∃ ctx, newContext pk package trust = .ok ctx ∧
      (result.authorization = .allow ↔ Authorized pk ctx ctx.operationAt ∧
        ∀ e, Observed ctx e → Authorized pk ctx (eventTime e)) ∧
      ∀ at_, (∀ p q, Effective pk ctx at_ p → Effective pk ctx at_ q → p.data = q.data) →
        (Authorized pk ctx at_ ↔
          (∃ p, Effective pk ctx at_ p ∧ Grants ctx p ∧ (p.data.item "require_collector" = .bool true →
            (∃ h, HealthRecord ctx at_ h) ∧ ∀ h, HealthRecord ctx at_ h → Available h)) ∧
          (∃ d, Applicable ctx at_ d) ∧ ∀ d, Applicable ctx at_ d →
            (∀ e, Applicable ctx at_ e → e.recordedAt ≤ d.recordedAt) →
            d.data.item "decision" = .str "permit")) ∧
    ∀ package' report' result', Added (fun e => kindOf e ∈ observationKinds) package package' →
      assess pk package' trust allow = .ok report' → report'.assessments = .transfer result' →
      result'.authorization = .allow → result.authorization = .allow := by
  obtain ⟨hvalid, ctx, hctx, hv⟩ := assess_transfer h hr
  obtain ⟨found, hof⟩ := newContext_ok hctx
  obtain ⟨hcons, hiff⟩ := evaluate_ok (hof.context hvalid) hv
  refine ⟨hcons, ⟨ctx, hctx, hiff, fun _ => authorized_any⟩, fun package' report' result' hadded h' hr' hallow => ?_⟩
  obtain ⟨hvalid', ctx', hctx', hv'⟩ := assess_transfer h' hr'
  obtain ⟨found', hof'⟩ := newContext_ok hctx'
  obtain ⟨hnow, hevents⟩ := (evaluate_ok (hof'.context hvalid') hv').2.1 hallow
  obtain ⟨-, hsubject, hasOf, hoperation, -, hext⟩ := hof.extends_ hadded hof'
  have hrecords : ∀ kind ∈ ["transfer.policy", "transfer.decision", "transfer.collector_health"],
      ctx'.records kind = ctx.records kind := by
    intro kind hk
    refine records_of_extends hext ?_
    rintro r ⟨envelope, hnew, hrecord⟩ he
    rw [← he, hrecord.kind] at hk
    exact absurd hk ((by decide : ∀ k ∈ observationKinds, k ∉ ["transfer.policy", "transfer.decision",
      "transfer.collector_health"]) _ hnew)
  have hless {at_ : ℤ} : Authorized pk ctx' at_ → Authorized pk ctx at_ := Authorized.congr hsubject hasOf hrecords
  refine hiff.2 ⟨hoperation ▸ hless hnow, fun e he => hless (hevents e ?_)⟩
  have hmem {kind : String} (hb : e ∈ ctx.bound kind) : e ∈ ctx'.bound kind := by
    obtain ⟨hm, hk, hd⟩ := mem_boundOn.1 hb
    refine mem_boundOn.2 ⟨hext.mem hm, hk, ?_⟩
    rw [hsubject]
    simpa only [Context.differences, hsubject] using hd
  exact ⟨he.bound.imp hmem hmem, hoperation ▸ he.later, he.recorded, hasOf ▸ he.past⟩

end Evaluation

/-! ## A small instance -/

def sampleSubject : List (String × Json) :=
  [("account_id", .str "a"), ("actor_id", .str "a"), ("endpoint", .str "a"), ("payload_sha256", .str (zeros 64)),
    ("policy_id", .str "a"), ("policy_sha256", .str (zeros 64)), ("policy_version", .str "a"), ("provider_id", .str "a"),
    ("purpose", .str "a"), ("request_id", .str "a"), ("route_id", .str "a"), ("stage", .str "a"), ("tenant_id", .str "a")]

def sampleGrant : Json :=
  .obj [("account_id", .str "a"), ("actor_id", .str "a"), ("endpoint", .str "a"), ("provider_id", .str "a"),
    ("purpose", .str "a"), ("route_id", .str "a"), ("tenant_id", .str "a")]

def sampleTransfer : Json := samplePackage .transfer sampleSubject [("gateway", .str "i"), ("policy", .str "i")]
  [sampleRecord "k" "i" "transfer.policy" "1" sampleTime sampleSubject (.obj [("effective_from", sampleEarlier),
      ("effective_until", sampleLater), ("grants", .arr [sampleGrant]), ("require_collector", .bool false)]),
    sampleRecord "k" "i" "transfer.decision" "2" sampleTime sampleSubject (.obj [("decision", .str "permit"),
      ("valid_from", sampleEarlier), ("valid_until", sampleLater)])]

def sampleTransferTrust : Json := sampleTrust .transfer [("k", sampleKey (zeros 64) "i" ["gateway", "policy"])]

/-- A policy that grants the target and one permit allow it. -/
theorem sample_assessed : assessed (assess sampleWriter sampleTransfer sampleTransferTrust false) =
    some (.transfer { Assessments.initial with
      authorization := .allow, binding := .matches, policyContentBound := true, proposed := .allow
      dispatchAction := .permittedWithinBoundScope, routeAction := .permittedWithinBoundScope }) := by
  decide +kernel

theorem sample_transfer_allowed : ∃ ctx, newContext sampleWriter sampleTransfer sampleTransferTrust = .ok ctx ∧
    Authorized sampleWriter ctx ctx.operationAt := by
  obtain ⟨report, hreport, hr⟩ := assessed_ok sample_assessed
  obtain ⟨-, ⟨ctx, hctx, hiff, -⟩, -⟩ := transfer_allowed hreport hr
  exact ⟨ctx, hctx, (hiff.1 rfl).1⟩

end VapEvidence.Assessor.Transfer

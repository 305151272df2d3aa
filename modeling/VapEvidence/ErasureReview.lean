import VapEvidence.AssessorReading

set_option autoImplicit false

/-!
# When an erasure was reviewed

The deletion evidence of an erasure is independently reviewed exactly when a review of
established evidence observed the deletion and no review of established evidence is
inconclusive.
-/
namespace VapEvidence.Assessor.Erasure
open Json Incident Recording

section Spec
variable (ctx : Context)

/-- A request of the operation itself, recorded in time. -/
structure Requested (r : VerifiedRecord) : Prop where
  bound : r ∈ ctx.bound "erasure.request"
  time : timeOf (r.data.item "requested_at") = ctx.operationAt
  recorded : ctx.operationAt ≤ r.recordedAt
  past : r.recordedAt ≤ ctx.asOf

/-- A later record of a request that tells when something was done about it. -/
structure Follows (request r : VerifiedRecord) (field : String) : Prop where
  link : r.data.item "request_record_id" = .str request.recordId
  start : timeOf (request.data.item "requested_at") ≤ timeOf (r.data.item field)
  recorded : timeOf (r.data.item field) ≤ r.recordedAt
  past : r.recordedAt ≤ ctx.asOf
  after : request.recordedAt ≤ r.recordedAt

structure Acknowledged (request r : VerifiedRecord) : Prop where
  requested : Requested ctx request
  bound : r ∈ ctx.bound "erasure.acknowledgement"
  follows : Follows ctx request r "acknowledged_at"

structure Attested (request r : VerifiedRecord) : Prop where
  requested : Requested ctx request
  bound : r ∈ ctx.bound "erasure.provider_attestation"
  follows : Follows ctx request r "completed_at"
  locations : ∀ l ∈ textsOf (r.data.item "locations"), l ∈ textsOf (request.data.item "requested_locations")

/-- What a review can cite. -/
def Established (r : VerifiedRecord) : Prop :=
  Requested ctx r ∨ (∃ request, Acknowledged ctx request r) ∨ ∃ request, Attested ctx request r

/-- The reviewer belongs to neither the provider nor the requester. -/
structure Independent (request attestation review : VerifiedRecord) : Prop where
  requester : ctx.organizationFor "responder" = some request.organization
  provider : ctx.organizationFor "provider" = some attestation.organization
  fromProvider : review.organization ≠ attestation.organization
  fromRequester : review.organization ≠ request.organization

/-- A review of an attestation of a request, where all that it rests on was established. -/
structure Reviewed (request attestation review : VerifiedRecord) : Prop where
  attested : Attested ctx request attestation
  bound : review ∈ ctx.bound "erasure.review"
  namesRequest : review.data.item "request_record_id" = .str request.recordId
  namesAttestation : review.data.item "attestation_record_id" = .str attestation.recordId
  organizations : Independent ctx request attestation review
  opens : ctx.operationAt ≤ timeOf (review.data.item "window_start")
  completes : timeOf (review.data.item "window_start") ≤ timeOf (attestation.data.item "completed_at")
  closes : timeOf (attestation.data.item "completed_at") < timeOf (review.data.item "window_end")
  recorded : timeOf (review.data.item "window_end") ≤ review.recordedAt
  past : review.recordedAt ≤ ctx.asOf
  citesRequest : request.recordId ∈ textsOf (review.data.item "evidence_record_ids")
  citesAttestation : attestation.recordId ∈ textsOf (review.data.item "evidence_record_ids")
  cites : ∀ id ∈ textsOf (review.data.item "evidence_record_ids"), ∃ r, r.recordId = id ∧ Established ctx r ∧
    r.recordedAt ≤ timeOf (review.data.item "window_end")
  locations : ∀ l ∈ textsOf (review.data.item "locations"), l ∈ textsOf (attestation.data.item "locations")

end Spec

section Evaluation
variable {pk : Packages} {ctx : Context}

/-! ## Records by their identifiers -/

theorem byId_some {rs : List VerifiedRecord} {id : Json} {r : VerifiedRecord} (h : byId rs id = some r) :
    r ∈ rs ∧ id = .str r.recordId := by
  unfold byId at h
  have hp := List.find?_some h
  exact ⟨List.mem_of_find?_eq_some h, (of_decide_eq_true hp).symm⟩

theorem byId_of_mem {rs : List VerifiedRecord} {r : VerifiedRecord}
    (hinj : ∀ a ∈ rs, ∀ b ∈ rs, a.recordId = b.recordId → a = b) (hr : r ∈ rs) : byId rs (.str r.recordId) = some r := by
  cases hf : byId rs (.str r.recordId) with
  | none =>
    unfold byId at hf
    have hp := List.find?_eq_none.1 hf r hr
    exact absurd (decide_eq_true rfl) hp
  | some a =>
    obtain ⟨ha, he⟩ := byId_some hf
    rw [hinj r hr a ha (Json.str.inj he)]

theorem within_iff {inner outer : Json} : within inner outer = true ↔ ∀ l ∈ textsOf inner, l ∈ textsOf outer := by
  simp only [within, List.all_eq_true, List.contains_eq_mem, decide_eq_true_eq]

theorem timed_iff {r : VerifiedRecord} {field : String} {earliest : ℤ} : timed ctx r field earliest = true ↔
    earliest ≤ timeOf (r.data.item field) ∧ timeOf (r.data.item field) ≤ r.recordedAt ∧ r.recordedAt ≤ ctx.asOf := by
  simp only [timed, Bool.and_eq_true, decide_eq_true_eq, and_assoc]

theorem follows_iff {request r : VerifiedRecord} {field : String} : follows ctx request r field = true ∧
    r.data.item "request_record_id" = .str request.recordId ↔ Follows ctx request r field := by
  rw [follows, Bool.and_eq_true, timed_iff, decide_eq_true_eq]
  constructor
  · rintro ⟨⟨⟨hs, hr, hp⟩, ha⟩, hl⟩
    exact ⟨hl, hs, hr, hp, ha⟩
  · rintro ⟨hl, hs, hr, hp, ha⟩
    exact ⟨⟨⟨hs, hr, hp⟩, ha⟩, hl⟩

/-! ## Evidence in its order -/

theorem requests_ok : ∃ requested, value (requests ctx) = .ok requested ∧ ∀ r, r ∈ requested ↔ Requested ctx r := by
  refine ⟨(ctx.bound "erasure.request").filter (isRequest ctx), value_keep fun r _ => ?_, fun r => ?_⟩
  · simp only [value_bind, value_findingIf]
    rfl
  · rw [List.mem_filter, isRequest, Bool.and_eq_true, timed_iff, decide_eq_true_eq]
    constructor
    · rintro ⟨hb, ht, -, hr, hp⟩
      exact ⟨hb, ht, ht ▸ hr, hp⟩
    · rintro ⟨hb, ht, hr, hp⟩
      exact ⟨hb, ht, ht.ge, ht ▸ hr, hp⟩

/-- The records of a kind that go on from one of the established requests. -/
theorem gather_linked {kind field : String} {step : VerifiedRecord → Eval Bool}
    {extra : VerifiedRecord → VerifiedRecord → Bool} {requested : List VerifiedRecord}
    (hinj : ∀ a ∈ requested, ∀ b ∈ requested, a.recordId = b.recordId → a = b)
    (hnone : ∀ r, byId requested (r.data.item "request_record_id") = none → value (step r) = .ok false)
    (hsome : ∀ r q, byId requested (r.data.item "request_record_id") = some q →
      value (step r) = .ok (follows ctx q r field && extra q r)) :
    ∃ kept, value (gather ctx step kind) = .ok kept ∧ ∀ r, r ∈ kept ↔ r ∈ ctx.bound kind ∧
      ∃ q ∈ requested, Follows ctx q r field ∧ extra q r = true := by
  refine ⟨(ctx.bound kind).filter fun r => (byId requested (r.data.item "request_record_id")).any fun q =>
    follows ctx q r field && extra q r, value_keep fun r _ => ?_, fun r => ?_⟩
  · cases hq : byId requested (r.data.item "request_record_id") with
    | none => exact hnone r hq
    | some q => exact hsome r q hq
  · rw [List.mem_filter]
    refine and_congr_right fun _ => ?_
    constructor
    · intro h
      cases hq : byId requested (r.data.item "request_record_id") with
      | none =>
        rw [hq] at h
        cases h
      | some q =>
        rw [hq, Option.any_some] at h
        obtain ⟨hmem, hlink⟩ := byId_some hq
        obtain ⟨hf, he⟩ := (Bool.and_eq_true _ _).mp h
        exact ⟨q, hmem, follows_iff.1 ⟨hf, hlink⟩, he⟩
    · rintro ⟨q, hmem, hf, he⟩
      rw [hf.link, byId_of_mem hinj hmem]
      exact (Bool.and_eq_true _ _).mpr ⟨(follows_iff.2 hf).1, he⟩

theorem acknowledgements_ok {requested : List VerifiedRecord} (hspec : ∀ r, r ∈ requested ↔ Requested ctx r)
    (hinj : ∀ a ∈ requested, ∀ b ∈ requested, a.recordId = b.recordId → a = b) :
    ∃ acknowledged, value (acknowledgements ctx requested) = .ok acknowledged ∧
      ∀ r, r ∈ acknowledged ↔ ∃ q, Acknowledged ctx q r := by
  have hgather : ∃ kept, value (acknowledgements ctx requested) = .ok kept ∧ ∀ r, r ∈ kept ↔
      r ∈ ctx.bound "erasure.acknowledgement" ∧ ∃ q ∈ requested, Follows ctx q r "acknowledged_at" ∧ true = true := by
    unfold acknowledgements
    refine gather_linked hinj (fun r hq => ?_) fun r q hq => ?_
    · simp only [hq, value_bind]
      rfl
    · simp only [hq, value_bind, value_findingIf, Bool.and_true]
      rfl
  obtain ⟨kept, hkept, hmem⟩ := hgather
  refine ⟨kept, hkept, fun r => (hmem r).trans ?_⟩
  constructor
  · rintro ⟨hb, q, hq, hf, -⟩
    exact ⟨q, (hspec q).1 hq, hb, hf⟩
  · rintro ⟨q, hq, hb, hf⟩
    exact ⟨hb, q, (hspec q).2 hq, hf, rfl⟩

theorem attestations_ok {requested : List VerifiedRecord} (hspec : ∀ r, r ∈ requested ↔ Requested ctx r)
    (hinj : ∀ a ∈ requested, ∀ b ∈ requested, a.recordId = b.recordId → a = b) :
    ∃ attested, value (attestations ctx requested) = .ok attested ∧
      ∀ r, r ∈ attested ↔ ∃ q, Attested ctx q r := by
  have hgather : ∃ kept, value (attestations ctx requested) = .ok kept ∧ ∀ r, r ∈ kept ↔
      r ∈ ctx.bound "erasure.provider_attestation" ∧ ∃ q ∈ requested, Follows ctx q r "completed_at" ∧
        within (r.data.item "locations") (q.data.item "requested_locations") = true := by
    unfold attestations
    refine gather_linked hinj (fun r hq => ?_) fun r q hq => ?_
    · simp only [hq, value_bind]
      rfl
    · simp only [hq, value_bind, value_findingIf]
      rfl
  obtain ⟨kept, hkept, hmem⟩ := hgather
  refine ⟨kept, hkept, fun r => (hmem r).trans ?_⟩
  constructor
  · rintro ⟨hb, q, hq, hf, hw⟩
    exact ⟨q, (hspec q).1 hq, hb, hf, within_iff.1 hw⟩
  · rintro ⟨q, hq, hb, hf, hw⟩
    exact ⟨hb, q, (hspec q).2 hq, hf, within_iff.2 hw⟩

theorem mem_bound {kind : String} {r : VerifiedRecord} (h : r ∈ ctx.bound kind) : r ∈ ctx.eligible :=
  (mem_boundOn.1 h).1

theorem Established.eligible {r : VerifiedRecord} (h : Established ctx r) : r ∈ ctx.eligible := by
  rcases h with h | ⟨_, h⟩ | ⟨_, h⟩
  · exact mem_bound h.bound
  · exact mem_bound h.bound
  · exact mem_bound h.bound

/-! ## Reviews -/

theorem independent_iff {request attestation review : VerifiedRecord} :
    independent ctx request attestation review = true ↔ Independent ctx request attestation review := by
  unfold independent
  constructor
  · intro h
    split at h
    · next provider requester hp hq =>
      simp only [Bool.and_eq_true, decide_eq_true_eq] at h
      obtain ⟨⟨⟨⟨rfl, rfl⟩, hnp⟩, hnq⟩, -⟩ := h
      exact ⟨hq, hp, hnp, hnq⟩
    · cases h
  · rintro ⟨hq, hp, hnp, hnq⟩
    simp [hq, hp, hnp, hnq]

/-- Every cited identifier is that of some evidence, and no such evidence was recorded after the window. -/
theorem cited_iff {evidence : List VerifiedRecord} {review : VerifiedRecord} {stop : ℤ}
    (hinj : ∀ a ∈ evidence, ∀ b ∈ evidence, a.recordId = b.recordId → a = b) :
    ((cited evidence review).length = (textsOf (review.data.item "evidence_record_ids")).dedup.length ∧
        ∀ r ∈ cited evidence review, r.recordedAt ≤ stop) ↔
      ∀ id ∈ textsOf (review.data.item "evidence_record_ids"), ∃ r ∈ evidence, r.recordId = id ∧
        r.recordedAt ≤ stop := by
  rw [cited, List.filterMap_length_eq_length]
  simp only [List.mem_dedup, List.mem_filterMap, forall_exists_index, and_imp, Option.isSome_iff_exists]
  constructor
  · rintro ⟨hfound, hstop⟩ id hid
    obtain ⟨r, hr⟩ := hfound id hid
    obtain ⟨hmem, he⟩ := byId_some hr
    exact ⟨r, hmem, (Json.str.inj he).symm, hstop r id hid hr⟩
  · intro h
    constructor
    · intro id hid
      obtain ⟨r, hr, rfl, -⟩ := h id hid
      exact ⟨r, byId_of_mem hinj hr⟩
    · intro r id hid hr
      obtain ⟨r', hr', rfl, hstop⟩ := h id hid
      rw [byId_of_mem hinj hr'] at hr
      cases hr
      exact hstop

/-- Nothing stands against a review. -/
theorem reviewReason_none {evidence : List VerifiedRecord} {request attestation review : VerifiedRecord}
    (hinj : ∀ a ∈ evidence, ∀ b ∈ evidence, a.recordId = b.recordId → a = b) :
    reviewReason ctx evidence request attestation review = none ↔
      attestation.data.item "request_record_id" = .str request.recordId ∧
      Independent ctx request attestation review ∧ reviewTimed ctx attestation review = true ∧
      request.recordId ∈ textsOf (review.data.item "evidence_record_ids") ∧
      attestation.recordId ∈ textsOf (review.data.item "evidence_record_ids") ∧
      (∀ id ∈ textsOf (review.data.item "evidence_record_ids"), ∃ r ∈ evidence, r.recordId = id ∧
        r.recordedAt ≤ timeOf (review.data.item "window_end")) ∧
      ∀ l ∈ textsOf (review.data.item "locations"), l ∈ textsOf (attestation.data.item "locations") := by
  rw [← independent_iff, ← cited_iff hinj, ← within_iff]
  unfold reviewReason
  dsimp only
  split_ifs with hlink hind htime hcites hfound hloc
  · simp [hlink]
  · simp only [false_iff, not_and]
    exact fun _ h => absurd h (by simpa using hind)
  · simp only [false_iff, not_and]
    exact fun _ _ h => absurd h (by simpa using htime)
  · simp only [Bool.not_eq_true', Bool.and_eq_false_imp, List.contains_eq_mem, decide_eq_true_eq, List.mem_dedup,
      decide_eq_false_iff_not] at hcites
    simp only [false_iff, not_and]
    exact fun _ _ _ hq ha => absurd ha (hcites hq)
  · simp only [Bool.or_eq_true, decide_eq_true_eq, List.any_eq_true] at hfound
    simp only [false_iff, not_and]
    rintro _ _ _ _ _ ⟨hlen, hstop⟩
    rcases hfound with hne | ⟨r, hr, hlate⟩
    · exact absurd hlen hne
    · exact absurd (hstop r hr) (not_le.2 hlate)
  · simp only [false_iff, not_and]
    exact fun _ _ _ _ _ _ h => absurd h (by simpa using hloc)
  · simp only [Bool.or_eq_true, decide_eq_true_eq, List.any_eq_true, not_or, not_not, not_exists, not_and, not_lt]
      at hfound
    simp only [Bool.not_eq_true', Bool.and_eq_true, List.contains_eq_mem, decide_eq_true_eq, List.mem_dedup,
      Bool.not_eq_false] at hcites hlink hind htime hloc
    exact ⟨fun _ => ⟨not_not.1 hlink, hind, htime, hcites.1, hcites.2, hfound, hloc⟩, fun _ => rfl⟩

theorem reviews_ok {requested attested evidence : List VerifiedRecord} (hdistinct : ∀ r ∈ ctx.eligible,
      ∀ r' ∈ ctx.eligible, r.recordId = r'.recordId → r = r')
    (hrequested : ∀ r, r ∈ requested ↔ Requested ctx r) (hattested : ∀ r, r ∈ attested ↔ ∃ q, Attested ctx q r)
    (hevidence : ∀ r, r ∈ evidence ↔ Established ctx r) :
    ∃ reviewed, value (reviews ctx requested attested evidence) = .ok reviewed ∧
      ∀ r, r ∈ reviewed ↔ ∃ q a, Reviewed ctx q a r := by
  have hinj {rs : List VerifiedRecord} (h : ∀ r ∈ rs, Established ctx r) : ∀ a ∈ rs, ∀ b ∈ rs,
      a.recordId = b.recordId → a = b :=
    fun a ha b hb => hdistinct a (h a ha).eligible b (h b hb).eligible
  have hr := hinj fun r hr => Or.inl ((hrequested r).1 hr)
  have ha := hinj fun r hr => Or.inr (Or.inr ((hattested r).1 hr))
  have he := hinj fun r hr => (hevidence r).1 hr
  refine ⟨(ctx.bound "erasure.review").filter fun review =>
    (byId requested (review.data.item "request_record_id")).any fun q =>
      (byId attested (review.data.item "attestation_record_id")).any fun a =>
        (reviewReason ctx evidence q a review).isNone, value_keep fun review _ => ?_, fun review => ?_⟩
  · cases byId requested (review.data.item "request_record_id") with
    | none => rfl
    | some q =>
      cases byId attested (review.data.item "attestation_record_id") with
      | none => rfl
      | some a =>
        rw [Option.any_some, Option.any_some]
        dsimp only
        cases reviewReason ctx evidence q a review with
        | some found => rfl
        | none =>
          dsimp only
          split_ifs <;> rfl
  · rw [List.mem_filter]
    constructor
    · rintro ⟨hbound, h⟩
      obtain ⟨q, hq, h⟩ := (Option.any_eq_true _ _).1 h
      obtain ⟨a, haq, h⟩ := (Option.any_eq_true _ _).1 h
      obtain ⟨hqm, hql⟩ := byId_some hq
      obtain ⟨ham, hal⟩ := byId_some haq
      obtain ⟨hlink, hind, htime, hcq, hca, hcites, hloc⟩ := (reviewReason_none he).1 (Option.isNone_iff_eq_none.1 h)
      simp only [reviewTimed, Bool.and_eq_true, decide_eq_true_eq] at htime
      obtain ⟨⟨⟨⟨hopens, hcompletes⟩, hcloses⟩, hrecorded⟩, hpast⟩ := htime
      obtain ⟨q', hatt⟩ := (hattested a).1 ham
      obtain rfl : q' = q := by
        refine hr q' ((hrequested q').2 hatt.requested) q hqm (Json.str.inj ?_)
        exact hatt.follows.link.symm.trans hlink
      refine ⟨q', a, hatt, hbound, hql, hal, hind, hopens, hcompletes, hcloses, hrecorded, hpast, hcq, hca, ?_, hloc⟩
      intro id hid
      obtain ⟨r, hrm, hrid, hstop⟩ := hcites id hid
      exact ⟨r, hrid, (hevidence r).1 hrm, hstop⟩
    · rintro ⟨q, a, h⟩
      refine ⟨h.bound, ?_⟩
      rw [h.namesRequest, h.namesAttestation, byId_of_mem hr ((hrequested q).2 h.attested.requested),
        byId_of_mem ha ((hattested a).2 ⟨q, h.attested⟩)]
      refine Option.isNone_iff_eq_none.2 ((reviewReason_none he).2 ⟨h.attested.follows.link, h.organizations, ?_,
        h.citesRequest, h.citesAttestation, ?_, h.locations⟩)
      · simp only [reviewTimed, Bool.and_eq_true, decide_eq_true_eq]
        exact ⟨⟨⟨⟨h.opens, h.completes⟩, h.closes⟩, h.recorded⟩, h.past⟩
      · intro id hid
        obtain ⟨r, hrid, hest, hstop⟩ := h.cites id hid
        exact ⟨r, (hevidence r).2 hest, hrid, hstop⟩

/-! ## Assessments -/

/-- Only supporting reviews without inconclusive ones promote what was found before. -/
theorem promoted_iff {supported inconclusive : List VerifiedRecord} {result : Assessments}
    (h : result.deletionEvidence ≠ .independentlyReviewedWithinDeclaredScope) :
    (if !supported.isEmpty && inconclusive.isEmpty then
        { result with
          deletionEvidence := .independentlyReviewedWithinDeclaredScope, independentlyVerified := true
          reviewResult := .supportedWithinReviewMethodAndLimitations }
      else if !inconclusive.isEmpty then
        { result with reviewResult := if supported.isEmpty then .inconclusive else .inconclusiveOrConflictingReviews }
      else result).deletionEvidence = DeletionEvidence.independentlyReviewedWithinDeclaredScope ↔
      supported ≠ [] ∧ inconclusive = [] := by
  cases supported with
  | nil =>
    cases inconclusive with
    | nil => simpa using h
    | cons => simpa using h
  | cons =>
    cases inconclusive with
    | nil => simp
    | cons => simpa using h

/-- What the deletion evidence of an evaluation says. -/
theorem evaluate_ok (hvalid : ctx.Valid pk) {result : Assessments} (h : value (evaluate ctx) = .ok result) :
    result.deletionEvidence = .independentlyReviewedWithinDeclaredScope ↔
      (∃ q a r, Reviewed ctx q a r ∧ r.data.item "conclusion" = .str "deletion-observed") ∧
        ∀ q a r, Reviewed ctx q a r → r.data.item "conclusion" = .str "deletion-observed" := by
  have hdistinct := hvalid.distinct
  obtain ⟨requested, hrequests, hrequested⟩ :
      ∃ requested, value (requests ctx) = .ok requested ∧ ∀ r, r ∈ requested ↔ Requested ctx r := requests_ok
  have hinj : ∀ a ∈ requested, ∀ b ∈ requested, a.recordId = b.recordId → a = b := fun a ha b hb =>
    hdistinct a (mem_bound ((hrequested a).1 ha).bound) b (mem_bound ((hrequested b).1 hb).bound)
  obtain ⟨acknowledged, hacks, hacknowledged⟩ := acknowledgements_ok hrequested hinj
  obtain ⟨attested, hatts, hattested⟩ := attestations_ok hrequested hinj
  have hestablished : ∀ r, r ∈ requested ++ acknowledged ++ attested ↔ Established ctx r := by
    intro r
    simp only [List.mem_append, hrequested, hacknowledged, hattested, Established, or_assoc]
  obtain ⟨reviewed, hrevs, hreviewed⟩ := reviews_ok hdistinct hrequested hattested hestablished
  have hsupported : (∃ q a r, Reviewed ctx q a r ∧ r.data.item "conclusion" = .str "deletion-observed") ↔
      reviewed.filter (fun r => r.data.item "conclusion" = .str "deletion-observed") ≠ [] := by
    simp only [ne_eq, List.filter_eq_nil_iff, decide_eq_true_eq, not_forall, not_not, hreviewed]
    constructor
    · rintro ⟨q, a, r, hr, hc⟩
      exact ⟨r, ⟨q, a, hr⟩, hc⟩
    · rintro ⟨r, ⟨q, a, hr⟩, hc⟩
      exact ⟨q, a, r, hr, hc⟩
  have hinconclusive : (∀ q a r, Reviewed ctx q a r → r.data.item "conclusion" = .str "deletion-observed") ↔
      reviewed.filter (fun r => r.data.item "conclusion" ≠ .str "deletion-observed") = [] := by
    simp only [List.filter_eq_nil_iff, decide_eq_true_eq, not_not, hreviewed, ne_eq]
    constructor
    · rintro hall r ⟨q, a, hr⟩
      exact hall q a r hr
    · exact fun hall q a r hr => hall r ⟨q, a, hr⟩
  rw [hsupported, hinconclusive]
  unfold evaluate at h
  rw [value_bind] at h
  obtain ⟨_, -, h⟩ := bind_ok h
  rw [if_neg (not_lt.2 hvalid.past)] at h
  simp only [value_bind, value_findingIf] at h
  obtain ⟨_, hx, h⟩ := bind_ok h
  cases hrequests.symm.trans hx
  obtain ⟨_, -, h⟩ := bind_ok h
  obtain ⟨_, hx, h⟩ := bind_ok h
  cases hacks.symm.trans hx
  obtain ⟨_, hx, h⟩ := bind_ok h
  cases hatts.symm.trans hx
  obtain ⟨_, -, h⟩ := bind_ok h
  obtain ⟨_, hx, h⟩ := bind_ok h
  cases hrevs.symm.trans hx
  obtain ⟨_, -, h⟩ := bind_ok h
  rw [value_pure] at h
  cases h
  refine promoted_iff ?_
  split_ifs <;> exact fun h => by cases h

theorem assess_erasure {package trust : Json} {allow : Bool} {report : Report}
    (h : assess pk package trust allow = .ok report) {result : Assessments}
    (hr : report.assessments = .erasure result) : validatePackage pk package = .ok () ∧
      ∃ ctx, newContext pk package trust = .ok ctx ∧ value (evaluate ctx) = .ok result := by
  obtain ⟨hvalid, ctx, hctx, hev, -⟩ := assess_ok h
  refine ⟨hvalid, ctx, hctx, ?_⟩
  rw [hr] at hev
  unfold Assessor.evaluate at hev
  split at hev
  case h_2 =>
    rw [value_bind] at hev
    obtain ⟨r, hv, hev⟩ := bind_ok hev
    cases hev
    exact hv
  all_goals
    first
      | (rw [value_bind] at hev; obtain ⟨r, -, hev⟩ := bind_ok hev; cases hev)
      | cases hev

/-- An assessed erasure counts as independently reviewed exactly when some review of established evidence
observed the deletion and no review of established evidence says anything else. -/
theorem deletion_reviewed {package trust : Json} {allow : Bool} {report : Report}
    (h : assess pk package trust allow = .ok report) {result : Assessments}
    (hr : report.assessments = .erasure result) :
    ∃ ctx, newContext pk package trust = .ok ctx ∧
      (result.deletionEvidence = .independentlyReviewedWithinDeclaredScope ↔
        (∃ request attestation review, Reviewed ctx request attestation review ∧
          review.data.item "conclusion" = .str "deletion-observed") ∧
        ∀ request attestation review, Reviewed ctx request attestation review →
          review.data.item "conclusion" = .str "deletion-observed") := by
  obtain ⟨hvalid, ctx, hctx, hv⟩ := assess_erasure h hr
  obtain ⟨found, hof⟩ := newContext_ok hctx
  exact ⟨ctx, hctx, evaluate_ok (hof.context hvalid) hv⟩

end Evaluation

/-! ## A small instance -/

def sampleSubject : List (String × Json) :=
  [("object_ids", .arr [.str "o"]), ("provider_id", .str "p"), ("request_id", .str "x"), ("tenant_id", .str "t")]

def sampleErasure : Json :=
  .obj [("as_of", sampleTime), ("evaluation_id", .str "e"), ("format", .str "incident-evidence-input/0.1"),
    ("records", .arr [
      sampleRecord "k" "q" "erasure.request" "1" sampleEarlier sampleSubject (.obj [("requested_at", sampleEarlier),
        ("requested_locations", .arr [.str "l"])]),
      sampleRecord "l" "p" "erasure.provider_attestation" "2" sampleEarlier sampleSubject (.obj [
        ("completed_at", sampleEarlier), ("exclusions", .arr []), ("locations", .arr [.str "l"]),
        ("request_record_id", .str "1")]),
      sampleRecord "m" "r" "erasure.review" "3" sampleTime sampleSubject (.obj [
        ("attestation_record_id", .str "2"), ("conclusion", .str "deletion-observed"),
        ("evidence_record_ids", .arr [.str "1", .str "2"]), ("limitations", .arr [.str "n"]),
        ("locations", .arr [.str "l"]), ("method", .str "m"), ("request_record_id", .str "1"),
        ("window_end", sampleTime), ("window_start", sampleEarlier)])]),
    ("target", .obj [("authorities", .obj [("provider", .str "p"), ("responder", .str "q"), ("reviewer", .str "r")]),
      ("coverage_requested", .str "managed_route"), ("operation_at", sampleEarlier), ("subject", .obj sampleSubject)]),
    ("workflow", .str Workflow.erasure.name)]

def sampleErasureTrust : Json := sampleTrust .erasure
  [("k", sampleKey ("1" ++ zeros 63) "q" ["responder"]), ("l", sampleKey ("2" ++ zeros 63) "p" ["provider"]),
    ("m", sampleKey ("3" ++ zeros 63) "r" ["reviewer"])]

/-- A request, an attestation and a review of three organizations. -/
theorem sample_assessed : assessed (assess sampleWriter sampleErasure sampleErasureTrust false) =
    some (.erasure { Assessments.initial with
      deletionEvidence := .independentlyReviewedWithinDeclaredScope, independentlyVerified := true
      receiptApplicability := .matchedWithinDeclaredScope, binding := .matches
      reviewResult := .supportedWithinReviewMethodAndLimitations }) := by
  decide +kernel

theorem sample_deletion_reviewed : ∃ ctx, newContext sampleWriter sampleErasure sampleErasureTrust = .ok ctx ∧
    ∃ request attestation review, Reviewed ctx request attestation review := by
  obtain ⟨report, hreport, hr⟩ := assessed_ok sample_assessed
  obtain ⟨ctx, hctx, hiff⟩ := deletion_reviewed hreport hr
  obtain ⟨⟨request, attestation, review, hreviewed, -⟩, -⟩ := hiff.1 rfl
  exact ⟨ctx, hctx, request, attestation, review, hreviewed⟩

end VapEvidence.Assessor.Erasure

import VapEvidence.AssessorEvidence

set_option autoImplicit false

/-!
# Erasure assessments

`erasure.py`: requests, acknowledgements, attestations and reviews of one erasure, each
read against the evidence established before it.
-/
namespace VapEvidence.Assessor.Erasure
open Json Incident Recording

inductive DeletionEvidence where
  | unknown
  | requestOnly
  | acknowledged
  | providerAttestedWithinDeclaredScope
  | independentlyReviewedWithinDeclaredScope
  deriving DecidableEq

inductive ReceiptApplicability where
  | notEstablished
  | matchedWithinDeclaredScope
  | unusableForTargetClaim
  deriving DecidableEq

inductive Binding where
  | unresolved
  | matches
  | objectAndTenantMismatch
  | targetBindingMismatch
  deriving DecidableEq

inductive ReviewResult where
  | notEstablished
  | supportedWithinReviewMethodAndLimitations
  | inconclusiveOrConflictingReviews
  | inconclusive
  deriving DecidableEq

/-- The assessments of an erasure. Provider and target completion and the outcomes outside the scope
are unknown throughout. -/
structure Assessments where
  deletionEvidence : DeletionEvidence
  independentlyVerified : Bool
  receiptApplicability : ReceiptApplicability
  binding : Binding
  reviewResult : ReviewResult
  deriving DecidableEq

def Assessments.initial : Assessments where
  deletionEvidence := .unknown
  independentlyVerified := false
  receiptApplicability := .notEstablished
  binding := .unresolved
  reviewResult := .notEstablished

def requiredSubject : List String := ["request_id", "provider_id", "tenant_id", "object_ids"]

section Parts
variable (ctx : Context)

/-- `_timed` -/
def timed (r : VerifiedRecord) (field : String) (earliest : ℤ) : Bool :=
  earliest ≤ timeOf (r.data.item field) && timeOf (r.data.item field) ≤ r.recordedAt && r.recordedAt ≤ ctx.asOf

def byId (rs : List VerifiedRecord) (id : Json) : Option VerifiedRecord := rs.find? fun r => .str r.recordId = id

/-- Evidence of one kind: each record in turn is kept, or left with its findings. -/
def gather (step : VerifiedRecord → Eval Bool) (kind : String) : Eval (List VerifiedRecord) := keep step (ctx.bound kind)

def isRequest (r : VerifiedRecord) : Bool :=
  timeOf (r.data.item "requested_at") = ctx.operationAt && timed ctx r "requested_at" ctx.operationAt

/-- The requests that bind the operation. -/
def requests : Eval (List VerifiedRecord) :=
  gather ctx (fun r => do
    findingIf (timeOf (r.data.item "requested_at") = ctx.operationAt && !timed ctx r "requested_at" ctx.operationAt)
      "ERASURE_EVIDENCE_TIME_INAPPLICABLE" [r]
    findingIf (!isRequest ctx r) "ERASURE_REQUEST_TIME_DOES_NOT_BIND_OPERATION" [r]
    return isRequest ctx r) "erasure.request"

/-- A later record of a request, in time. -/
def follows (request r : VerifiedRecord) (field : String) : Bool :=
  timed ctx r field (timeOf (request.data.item "requested_at")) && request.recordedAt ≤ r.recordedAt

/-- The acknowledgements of established requests. -/
def acknowledgements (requests : List VerifiedRecord) : Eval (List VerifiedRecord) :=
  gather ctx (fun r =>
    match byId requests (r.data.item "request_record_id") with
    | none => do
      finding "ERASURE_ACKNOWLEDGEMENT_REQUEST_NOT_ESTABLISHED" [r]
      return false
    | some request => do
      findingIf (!timed ctx r "acknowledged_at" (timeOf (request.data.item "requested_at")))
        "ERASURE_EVIDENCE_TIME_INAPPLICABLE" [r]
      findingIf (follows ctx request r "acknowledged_at") "ERASURE_ACKNOWLEDGEMENT_IS_NOT_COMPLETION" [request, r]
      return follows ctx request r "acknowledged_at") "erasure.acknowledgement"

def within (inner outer : Json) : Bool := (textsOf inner).all fun l => (textsOf outer).contains l

/-- The provider attestations of established requests, within the requested locations. -/
def attestations (requests : List VerifiedRecord) : Eval (List VerifiedRecord) :=
  gather ctx (fun r =>
    match byId requests (r.data.item "request_record_id") with
    | none => do
      finding "ERASURE_ATTESTATION_REQUEST_NOT_ESTABLISHED" [r]
      return false
    | some request => do
      findingIf (!timed ctx r "completed_at" (timeOf (request.data.item "requested_at")))
        "ERASURE_EVIDENCE_TIME_INAPPLICABLE" [r]
      let inScope := within (r.data.item "locations") (request.data.item "requested_locations")
      findingIf (follows ctx request r "completed_at" && !inScope) "ERASURE_ATTESTATION_LOCATIONS_OUTSIDE_REQUEST"
        [request, r]
      findingIf (follows ctx request r "completed_at" && inScope) "ERASURE_PROVIDER_CLAIM_REMAINS_SCOPED" [request, r]
      return follows ctx request r "completed_at" && inScope) "erasure.provider_attestation"

/-- The receipts that bind another target. -/
def mismatched : List VerifiedRecord :=
  (ctx.records "erasure.acknowledgement" ++ ctx.records "erasure.provider_attestation").filter fun r =>
    !(ctx.differences r ctx.subject.keys).isEmpty

/-- The organizations of the three parties allow the review to be independent. -/
def independent (request attestation review : VerifiedRecord) : Bool :=
  match ctx.organizationFor "provider", ctx.organizationFor "responder" with
  | some provider, some requester =>
    request.organization = requester && attestation.organization = provider && review.organization ≠ provider &&
      review.organization ≠ requester && review.organization ≠ request.organization
  | _, _ => false

/-- The window of a review against the operation, the completion and its own recording. -/
def reviewTimed (attestation review : VerifiedRecord) : Bool :=
  ctx.operationAt ≤ timeOf (review.data.item "window_start") &&
    timeOf (review.data.item "window_start") ≤ timeOf (attestation.data.item "completed_at") &&
    timeOf (attestation.data.item "completed_at") < timeOf (review.data.item "window_end") &&
    timeOf (review.data.item "window_end") ≤ review.recordedAt && review.recordedAt ≤ ctx.asOf

/-- The evidence that a review cites. -/
def cited (evidence : List VerifiedRecord) (review : VerifiedRecord) : List VerifiedRecord :=
  (textsOf (review.data.item "evidence_record_ids")).dedup.filterMap fun id => byId evidence (.str id)

/-- What stands against a review whose request and attestation are established. -/
def reviewReason (evidence : List VerifiedRecord) (request attestation review : VerifiedRecord) :
    Option (String × List VerifiedRecord) :=
  let ids := (textsOf (review.data.item "evidence_record_ids")).dedup
  let found := cited evidence review
  if attestation.data.item "request_record_id" ≠ .str request.recordId then
    some ("ERASURE_REVIEW_REQUEST_ATTESTATION_LINK_MISMATCH", [review, request, attestation])
  else if !independent ctx request attestation review then
    some ("ERASURE_REVIEW_ORGANIZATIONAL_INDEPENDENCE_NOT_ESTABLISHED", [review, request, attestation])
  else if !reviewTimed ctx attestation review then
    some ("ERASURE_REVIEW_TIME_WINDOW_INAPPLICABLE", [review, attestation])
  else if !(ids.contains request.recordId && ids.contains attestation.recordId) then
    some ("ERASURE_REVIEW_DOES_NOT_CITE_REQUIRED_EVIDENCE", [review])
  else if found.length ≠ ids.length || found.any fun r => timeOf (review.data.item "window_end") < r.recordedAt then
    some ("ERASURE_REVIEW_EVIDENCE_SET_NOT_ESTABLISHED_BY_CUTOFF", [review])
  else if !within (review.data.item "locations") (attestation.data.item "locations") then
    some ("ERASURE_REVIEW_LOCATIONS_EXCEED_PROVIDER_CLAIM", [review, attestation])
  else none

/-- The reviews of established evidence, conclusive or not. -/
def reviews (requests attestations evidence : List VerifiedRecord) : Eval (List VerifiedRecord) :=
  gather ctx (fun review =>
    match byId requests (review.data.item "request_record_id"), byId attestations (review.data.item "attestation_record_id") with
    | some request, some attestation =>
      match reviewReason ctx evidence request attestation review with
      | some (code, involved) => do
        finding code involved
        return false
      | none => do
        if review.data.item "conclusion" ≠ .str "deletion-observed" then
          finding "ERASURE_INDEPENDENT_REVIEW_INCONCLUSIVE" [review]
        else finding "ERASURE_INDEPENDENT_REVIEW_REMAINS_SCOPED" (review :: cited evidence review)
        return true
    | _, _ => do
      finding "ERASURE_REVIEW_REFERENCED_EVIDENCE_NOT_ESTABLISHED" [review]
      return false) "erasure.review"

/-- `evaluate` -/
def evaluate : Eval Assessments := do
  requireSubject ctx requiredSubject "Erasure target lacks fields"
  if ctx.asOf < ctx.operationAt then
    finding "ERASURE_OPERATION_AFTER_AS_OF" []
    return .initial
  else
    let requested ← requests ctx
    findingIf (!requested.isEmpty) "ERASURE_LOCAL_REQUEST_ESTABLISHED" requested
    let result : Assessments := if requested.isEmpty then .initial
      else { Assessments.initial with deletionEvidence := .requestOnly, binding := .matches }
    let acknowledged ← acknowledgements ctx requested
    let result := if acknowledged.isEmpty then result
      else { result with deletionEvidence := .acknowledged, receiptApplicability := .matchedWithinDeclaredScope }
    let attested ← attestations ctx requested
    let result := if attested.isEmpty then result
      else { result with
        deletionEvidence := .providerAttestedWithinDeclaredScope, receiptApplicability := .matchedWithinDeclaredScope }
    let _ ← each (fun r => finding "ERASURE_RECEIPT_BINDING_MISMATCH" [r]) (mismatched ctx)
    let result := if (mismatched ctx).isEmpty || !acknowledged.isEmpty || !attested.isEmpty then result
      else { result with
        receiptApplicability := .unusableForTargetClaim
        binding :=
          if (mismatched ctx).any fun r => ["object_ids", "tenant_id"].all fun f =>
            (ctx.differences r ctx.subject.keys).contains f then .objectAndTenantMismatch
          else .targetBindingMismatch }
    let reviewed ← reviews ctx requested attested (requested ++ acknowledged ++ attested)
    let supported := reviewed.filter fun r => r.data.item "conclusion" = .str "deletion-observed"
    let inconclusive := reviewed.filter fun r => r.data.item "conclusion" ≠ .str "deletion-observed"
    findingIf (!inconclusive.isEmpty) "ERASURE_UNQUALIFIED_REVIEW_PROMOTION_WITHHELD" (supported ++ inconclusive)
    return if !supported.isEmpty && inconclusive.isEmpty then
        { result with
          deletionEvidence := .independentlyReviewedWithinDeclaredScope, independentlyVerified := true
          reviewResult := .supportedWithinReviewMethodAndLimitations }
      else if !inconclusive.isEmpty then
        { result with reviewResult := if supported.isEmpty then .inconclusive else .inconclusiveOrConflictingReviews }
      else result

end Parts
end VapEvidence.Assessor.Erasure

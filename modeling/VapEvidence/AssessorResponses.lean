import VapEvidence.AssessorEvidence

set_option autoImplicit false

/-!
# Incident response and cross-party assessments

`incident_response.py` and `cross_party.py`: requests for information with their receipts and
responses, containment actions, and statements imported from another provider.
-/
namespace VapEvidence.Assessor.Response
open Json Incident Recording

inductive ResponseStatus where
  | unknown
  | completeByCutoff
  | partialByCutoff
  | noResponseByCutoff
  | noResponseAsOfEvaluation
  deriving DecidableEq

inductive ContainmentAction where
  | unknown
  | authorizedHistoryRemovalRecorded
  | historyRemovalRecordedRequiresReview
  deriving DecidableEq

inductive PreservationStatus where
  | unknown
  | minimumHistoryUnavailable
  | availabilityReportedWithoutPreservationProof
  deriving DecidableEq

/-- The assessments of an incident response; the ones that are the same in every report are left out. -/
structure Assessments where
  requestRecorded : Bool
  deliveryEstablished : Bool
  responseStatus : ResponseStatus
  laterResponse : Bool
  containment : ContainmentAction
  preservation : PreservationStatus
  evidenceGap : Bool
  laterAnchor : Bool
  deriving DecidableEq

def Assessments.initial : Assessments where
  requestRecorded := false
  deliveryEstablished := false
  responseStatus := .unknown
  laterResponse := false
  containment := .unknown
  preservation := .unknown
  evidenceGap := false
  laterAnchor := false

def targetFields : List String := ["request_id", "object_ids", "provider_id", "tenant_id"]

section Parts
variable (pk : Packages) (ctx : Context)

/-- `_time_ok` -/
def timeOk (r : VerifiedRecord) (field : String) : Bool :=
  !(r.recordedAt < timeOf (r.data.item field) || ctx.asOf < timeOf (r.data.item field))

def requestReason (r : VerifiedRecord) : Option (String × List VerifiedRecord) :=
  if !timeOk ctx r "requested_at" then some ("incident_response_event_time_inapplicable", [r])
  else if timeOf (r.data.item "requested_at") ≠ ctx.operationAt then
    some ("info_request_target_operation_time_mismatch", [r])
  else none

/-- The end of the observation of a request. -/
def cutoffOf (request : VerifiedRecord) : ℤ := min (timeOf (request.data.item "observation_cutoff")) ctx.asOf

def timely (request r : VerifiedRecord) (field : String) : Bool :=
  timeOf (r.data.item field) ≤ cutoffOf ctx request && r.recordedAt ≤ cutoffOf ctx request

def receiptReason (request r : VerifiedRecord) : Option (String × List VerifiedRecord) :=
  if r.data.item "request_record_id" ≠ .str request.recordId then some ("info_receipt_request_reference_mismatch", [r])
  else if !timeOk ctx r "received_at" then some ("incident_response_event_time_inapplicable", [r])
  else if timeOf (r.data.item "received_at") < timeOf (request.data.item "requested_at") then
    some ("info_receipt_predates_request", [r, request])
  else if timely ctx request r "received_at" then none
  else some ("info_receipt_not_available_by_cutoff", [r])

/-- The questions that a response answers. -/
def answered (r : VerifiedRecord) : List String :=
  (itemsOf (r.data.item "answers")).map fun a => textOf (a.item "question")

def questions (request : VerifiedRecord) : List String := textsOf (request.data.item "questions")

def responseReason (request r : VerifiedRecord) : Option (String × List VerifiedRecord) :=
  if r.data.item "request_record_id" ≠ .str request.recordId then some ("info_response_request_reference_mismatch", [r])
  else if !timeOk ctx r "responded_at" then some ("incident_response_event_time_inapplicable", [r])
  else if timeOf (r.data.item "responded_at") < timeOf (request.data.item "requested_at") then
    some ("info_response_predates_request", [r, request])
  else if !(answered r).all fun q => (questions request).contains q then
    some ("info_response_questions_outside_request", [r, request])
  else none

def completes (request r : VerifiedRecord) : Bool :=
  r.data.item "status" = .str "complete" && (answered r).all (fun q => (questions request).contains q) &&
    (questions request).all fun q => (answered r).contains q

/-- `_information` after the one request. -/
def requestPass (request : VerifiedRecord) (result : Assessments) : Eval Assessments :=
  if cutoffOf ctx request < request.recordedAt then do
    finding "info_request_not_recorded_by_cutoff" [request]
    return result
  else do
    finding "info_recording_request_does_not_create_compulsion_authority" [request]
    let receipts ← sift (fun r => return receiptReason ctx request r) (ctx.bound "info_receipt")
    findingIf (!receipts.isEmpty) "info_request_receipt_is_not_answer" receipts
    let found ← sift (fun r => return responseReason ctx request r) (ctx.bound "info_response")
    let responses := found.filter fun r => timely ctx request r "responded_at"
    let later := found.filter fun r => !timely ctx request r "responded_at"
    findingIf (!responses.isEmpty) "info_response_content_remains_recipient_assertions" responses
    findingIf responses.isEmpty "info_missing_response_does_not_establish_requested_facts_or_refusal" [request]
    findingIf (!later.isEmpty) "info_later_response_preserves_earlier_cutoff_observation" later
    return { result with
      requestRecorded := true
      deliveryEstablished := !receipts.isEmpty
      responseStatus :=
        if !responses.isEmpty then
          if responses.any (completes request) then .completeByCutoff else .partialByCutoff
        else if timeOf (request.data.item "observation_cutoff") ≤ ctx.asOf then .noResponseByCutoff
        else .noResponseAsOfEvaluation
      laterResponse := !later.isEmpty }

/-- `_information` -/
def informationPass (result : Assessments) : Eval Assessments := do
  let requests ← sift (fun r => return requestReason ctx r) (ctx.bound "info_request")
  match requests with
  | [request] => requestPass ctx request result
  | _ => do
    finding "info_request_missing_or_ambiguous" requests
    return result

def actionReason (r : VerifiedRecord) : Option (String × List VerifiedRecord) :=
  if some (r.data.item "source_account_id") ≠ ctx.subject.get? "account_id" then
    some ("containment_source_account_mismatch", [r])
  else if timeOf (r.data.item "removal_observed_at") ≠ ctx.operationAt then
    some ("containment_target_operation_time_mismatch", [r])
  else if !timeOk ctx r "removal_observed_at" then some ("incident_response_event_time_inapplicable", [r])
  else none

/-- One round of the loop over the anchor claims: whether the claim is after the action. -/
def anchorClaim (action r : VerifiedRecord) : Eval Bool :=
  if !(textsOf (r.data.item "record_ids")).contains action.recordId then do
    finding "containment_anchor_record_reference_mismatch" [r]
    return false
  else if !timeOk ctx r "anchor_time" then do
    finding "incident_response_event_time_inapplicable" [r]
    return false
  else do
    let later : Bool := timeOf (action.data.item "removal_observed_at") < timeOf (r.data.item "anchor_time")
    finding "containment_external_anchor_material_not_verified" [r]
    findingIf later "containment_later_anchor_cannot_reconstruct_missing_history" [action, r]
    return later

/-- `_containment` after the actions. -/
def actionPass (action : VerifiedRecord) (result : Assessments) : Eval Assessments := do
  finding "containment_scope_and_authority_are_recorded_assertions" [action]
  let unavailable : Bool := action.data.item "minimum_evidence_available" ≠ .bool true
  findingIf unavailable "containment_missing_preservation_remains_evidence_gap" [action]
  let claims ← each (anchorClaim ctx action) (ctx.bound "containment_anchor_claim")
  return { result with
    containment :=
      if action.data.item "urgency" = .str "urgent" && action.data.item "delay_justified" ≠ .bool true then
        .authorizedHistoryRemovalRecorded
      else .historyRemovalRecordedRequiresReview
    preservation :=
      if unavailable then .minimumHistoryUnavailable else .availabilityReportedWithoutPreservationProof
    evidenceGap := unavailable
    laterAnchor := claims.any id }

/-- `_containment` -/
def containmentPass (result : Assessments) : Eval Assessments := do
  let actions ← sift (fun r => return actionReason ctx r) (ctx.bound "containment_action")
  let contents ← actions.mapM fun r => liftM (digest pk r.data)
  if 1 < contents.dedup.length then
    finding "containment_conflicting_records_require_review" actions
    return result
  else
    match actions with
    | [] => return result
    | action :: _ => actionPass ctx action result

/-- `evaluate` of `incident_response.py` -/
def evaluate : Eval Assessments :=
  if !(targetFields.all fun f => ctx.subject.keys.contains f) then do
    finding "incident_response_target_incomplete" []
    return .initial
  else do
    let asked := !((ctx.records "info_request").isEmpty && (ctx.records "info_receipt").isEmpty &&
      (ctx.records "info_response").isEmpty)
    let result ← if asked then informationPass ctx .initial else pure .initial
    containmentPass pk ctx result

end Parts
end VapEvidence.Assessor.Response

namespace VapEvidence.Assessor.CrossParty
open Json Incident Recording

/-- The assessments of an imported statement; XREF and anchors are never established. -/
structure Assessments where
  receiptAttributed : Bool
  statementAuthenticated : Bool
  deriving DecidableEq

section Parts
variable (ctx : Context)

def receiptReason (r : VerifiedRecord) : Option (String × List VerifiedRecord) :=
  let received := timeOf (r.data.item "received_at")
  if r.recordedAt < received || ctx.asOf < received || received < ctx.operationAt then
    some ("cross_receipt_time_inapplicable", [r])
  else none

/-- `evaluate` of `cross_party.py` -/
def evaluate : Eval Assessments :=
  if !(Response.targetFields.all fun f => ctx.subject.keys.contains f) then do
    finding "cross_party_target_incomplete" []
    return ⟨false, false⟩
  else do
    let receipts ← sift (fun r => return receiptReason ctx r) (ctx.bound "cross_provider_receipt")
    if receipts.isEmpty then finding "cross_matching_authenticated_receipt_not_established" []
    else finding "cross_receipt_authenticity_is_not_statement_truth_or_xref" receipts
    let _ ← each (fun r => finding "cross_external_anchor_material_not_verified" [r]) (ctx.bound "cross_anchor_claim")
    finding "cross_independent_anchored_matching_not_established" []
    return ⟨!receipts.isEmpty, !receipts.isEmpty⟩

end Parts
end VapEvidence.Assessor.CrossParty

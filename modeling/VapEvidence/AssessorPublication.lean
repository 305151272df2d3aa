import VapEvidence.AssessorEvidence

set_option autoImplicit false

/-!
# Publication assessments

`publication.py`: what the manifest, the observed activities, the policy and the other records
bound to a publication say about it.
-/
namespace VapEvidence.Assessor.Publication
open Json Incident Recording

inductive Action where
  | review
  | block
  deriving DecidableEq

inductive PolicyAssessment where
  | unknown
  | prohibitedUse
  deriving DecidableEq

inductive ApprovalApplicability where
  | notEstablished
  | boundApprovalRecorded
  | priorRevisionOnly
  deriving DecidableEq

inductive DisclosureAssessment where
  | unknown
  | requiresContentReview
  | incomplete
  deriving DecidableEq

inductive EvidenceBasis where
  | unknown
  | instrumentedObservation
  | selfDeclared
  | observedAndSelfDeclared
  deriving DecidableEq

/-- The assessments of a publication; the ones that are the same in every report are left out. -/
structure Assessments where
  action : Action
  policyAssessment : PolicyAssessment
  policyApplicable : Bool
  integrityEstablished : Bool
  aiObserved : Bool
  coverageIncomplete : Bool
  approval : ApprovalApplicability
  disclosure : DisclosureAssessment
  evidenceBasis : EvidenceBasis
  declarantAttributed : Bool
  declarationContradicted : Bool
  disclosureRecorded : Bool
  dispatchRecorded : Bool
  receiptAsserted : Bool
  acceptanceAsserted : Bool
  deriving DecidableEq

def Assessments.initial (integrity : Bool) : Assessments where
  action := .review
  policyAssessment := .unknown
  policyApplicable := false
  integrityEstablished := integrity
  aiObserved := false
  coverageIncomplete := false
  approval := .notEstablished
  disclosure := .unknown
  evidenceBasis := .unknown
  declarantAttributed := false
  declarationContradicted := false
  disclosureRecorded := false
  dispatchRecorded := false
  receiptAsserted := false
  acceptanceAsserted := false

/-- `POLICY_FIELDS` and `TARGET_FIELDS` -/
def policyFields : List String := ["policy_id", "policy_version", "policy_sha256", "stage"]
def targetFields : List String :=
  ["request_id", "artifact_id", "revision_id", "payload_sha256", "disclosure_sha256"] ++ policyFields

section Parts
variable (pk : Packages) (ctx : Context)

/-- `_event_eligible` -/
def eventEligible (r : VerifiedRecord) (field : String) (before after : Bool) : Bool :=
  let event := timeOf (r.data.item field)
  !(r.recordedAt < event || ctx.asOf < event || (before && ctx.operationAt < event) || (after && event < ctx.operationAt))

def timeReason (field : String) (before after : Bool) (r : VerifiedRecord) : Option (String × List VerifiedRecord) :=
  if eventEligible ctx r field before after then none else some ("publication_event_time_inapplicable", [r])

/-- What stands against a policy. -/
def policyReason (r : VerifiedRecord) : Run (Option (String × List VerifiedRecord)) :=
  if !ctx.matchesOn r policyFields then return some ("publication_policy_binding_mismatch", [r])
  else do
    let contentDigest ← digest pk r.data
    return if .str contentDigest ≠ r.binding.item "policy_sha256" then
        some ("publication_policy_content_digest_mismatch", [r])
      else if ctx.operationAt < r.recordedAt then
        some ("publication_policy_historical_availability_not_established", [r])
      else if !(timeOf (r.data.item "effective_from") ≤ ctx.operationAt &&
          ctx.operationAt < timeOf (r.data.item "effective_until")) then
        some ("publication_policy_outside_effective_interval", [r])
      else none

/-- `_policy`: the first of the candidates, which all have the pinned content. -/
def policy : Eval (Option VerifiedRecord) := do
  let candidates ← sift (policyReason pk ctx) (ctx.records "publication_policy")
  return candidates.head?

def coverageRecords : List VerifiedRecord :=
  (ctx.bound "publication_coverage").filter fun r =>
    timeOf (r.data.item "from") ≤ ctx.operationAt && ctx.operationAt < timeOf (r.data.item "until") &&
      timeOf (r.data.item "from") ≤ r.recordedAt

/-- The component that the target itself names. -/
def expectedDocument : Json := dict [("artifact_id", ctx.subject.item "artifact_id"),
  ("revision_id", ctx.subject.item "revision_id"), ("sha256", ctx.subject.item "payload_sha256"),
  ("category", .str "text")]

/-- The manifests of the target, unless they contradict each other. -/
def manifests : Eval (List VerifiedRecord) := do
  let timely ← sift (fun r => return timeReason ctx "observed_at" true false r) (ctx.bound "publication_manifest")
  let found := timely.filter fun r => (itemsOf (r.data.item "components")).contains (expectedDocument ctx)
  let contents ← found.mapM fun r => liftM (digest pk (r.data.item "components"))
  if 1 < contents.dedup.length then
    finding "publication_conflicting_component_manifests" found
    return []
  else return found

/-- What stands against an activity as part of the artifact. -/
def activityReason (manifests : List VerifiedRecord) (r : VerifiedRecord) : Option (String × List VerifiedRecord) :=
  match timeReason ctx "observed_at" true false r with
  | some reason => some reason
  | none =>
    if r.data.item "included_in_artifact_sha256" ≠ ctx.subject.item "payload_sha256" ||
        r.data.item "adoption_basis" ≠ .str "observed_in_artifact" ||
        !manifests.any fun m => (itemsOf (m.data.item "components")).contains (r.data.item "component") then
      some ("publication_activity_adoption_not_established", [r])
    else none

def disclosureReason (r : VerifiedRecord) : Option (String × List VerifiedRecord) :=
  match timeReason ctx "prepared_at" true false r with
  | some reason => some reason
  | none =>
    if .str (sha256Hex pk (encodeUtf8 (textOf (r.data.item "text")).toList)) ≠ ctx.subject.item "disclosure_sha256" then
      some ("publication_disclosure_text_digest_mismatch", [r])
    else none

def activityOf (r : VerifiedRecord) : String := textOf (r.data.item "activity")

/-- The activities that a policy prohibits. -/
def prohibited (policy : VerifiedRecord) (activities : List VerifiedRecord) : List VerifiedRecord :=
  activities.filter fun a => (textsOf (policy.data.item "prohibited_activities")).contains (activityOf a)

/-- The categories of observed components that a policy wants disclosed. -/
def requiredCategories (policy : VerifiedRecord) (activities : List VerifiedRecord) : List String :=
  (activities.map fun a => textOf ((a.data.item "component").item "category")).filter fun c =>
    (textsOf (policy.data.item "disclosure_categories")).contains c

/-- What the observed activities and the declarations say of AI involvement. -/
def involvementPass (activities : List VerifiedRecord) (result : Assessments) : Eval Assessments := do
  if activities.isEmpty then finding "publication_missing_observation_is_not_human_only" []
  else finding "publication_activity_bound_to_artifact" activities
  let declarations ← sift (fun r => return timeReason ctx "declared_at" false false r) (ctx.bound "publication_declaration")
  let result := if activities.isEmpty then result
    else { result with aiObserved := true, evidenceBasis := .instrumentedObservation }
  findingIf (!declarations.isEmpty) "publication_self_declaration_does_not_establish_completeness" declarations
  let omits := !activities.isEmpty && declarations.any fun d =>
    !(activities.all fun a => (textsOf (d.data.item "activities")).contains (activityOf a))
  findingIf omits "publication_declaration_omits_observed_activity" (declarations ++ activities)
  return if declarations.isEmpty then result
    else { result with
      declarantAttributed := true
      evidenceBasis := if activities.isEmpty then .selfDeclared else .observedAndSelfDeclared
      declarationContradicted := omits }

/-- What the policy says of the activities and of their disclosure. -/
def policyPass (policy : Option VerifiedRecord) (activities disclosures : List VerifiedRecord) (result : Assessments) :
    Eval Assessments :=
  match policy with
  | none => do
    finding "publication_applicable_policy_not_established" []
    return result
  | some p =>
    if p.data.item "interpretation" = .str "unresolved" then do
      finding "publication_stage_or_interpretation_unresolved" [p]
      return result
    else do
      let found := prohibited p activities
      findingIf (!found.isEmpty) "publication_disclosure_does_not_override_prohibition" (p :: found)
      let required := requiredCategories p activities
      let omits := !required.isEmpty && (disclosures.isEmpty || disclosures.any fun d =>
        !(required.all fun c => (textsOf (d.data.item "categories")).contains c))
      findingIf omits "publication_disclosure_omits_required_observed_components" (p :: activities ++ disclosures)
      let result := { result with policyApplicable := true }
      let result := if found.isEmpty then result
        else { result with action := .block, policyAssessment := .prohibitedUse }
      return if omits then { result with disclosure := .incomplete } else result

def approvalTimely (r : VerifiedRecord) : Bool :=
  timeOf (r.data.item "valid_from") ≤ ctx.operationAt && ctx.operationAt < timeOf (r.data.item "valid_until") &&
    !(ctx.operationAt < r.recordedAt)

/-- What stands against an approval of this revision or an earlier one. -/
def approvalReason (r : VerifiedRecord) : Option (String × List VerifiedRecord) :=
  if !approvalTimely ctx r then some ("publication_approval_time_inapplicable", [r])
  else if (ctx.differences r ctx.subject.keys).all fun f =>
      ["revision_id", "payload_sha256", "disclosure_sha256"].contains f then none
  else some ("publication_approval_binding_mismatch", [r])

def approvalPass (policy : Option VerifiedRecord) (result : Assessments) : Eval Assessments := do
  let found ← sift (fun r => return approvalReason ctx r) (ctx.records "publication_approval")
  let current := found.filter fun r => (ctx.differences r ctx.subject.keys).isEmpty
  let prior := found.filter fun r => !(ctx.differences r ctx.subject.keys).isEmpty
  if !current.isEmpty then
    finding "publication_approval_not_publisher_acceptance" current
    return { result with approval := .boundApprovalRecorded }
  else if !prior.isEmpty then
    finding "publication_approval_requires_changed_artifact_reassessment" prior
    return { result with approval := .priorRevisionOnly }
  else
    findingIf (policy.any fun p => p.data.item "approval_required" = .bool true)
      "publication_required_approval_not_established" policy.toList
    return result

/-- Dispatches and receipts. -/
def deliveryPass (result : Assessments) : Eval Assessments := do
  let dispatches ← sift (fun r => return timeReason ctx "attempted_at" false true r) (ctx.bound "publication_dispatch")
  findingIf (!dispatches.isEmpty) "publication_dispatch_is_not_receipt" dispatches
  let first := ((dispatches.map fun r => timeOf (r.data.item "attempted_at")).min?).getD ctx.operationAt
  let receipts ← sift (fun r => return match timeReason ctx "received_at" false true r with
    | some reason => some reason
    | none => if timeOf (r.data.item "received_at") < first then
        some ("publication_receipt_predates_bound_dispatch", r :: dispatches) else none) (ctx.bound "publication_receipt")
  findingIf (!receipts.isEmpty) "publication_receipt_supports_only_stated_scope" receipts
  return { result with
    dispatchRecorded := !dispatches.isEmpty
    receiptAsserted := !receipts.isEmpty
    acceptanceAsserted := receipts.any fun r => r.data.item "status" = .str "accepted" }

/-- `evaluate` -/
def evaluate : Eval Assessments := do
  let result := Assessments.initial ctx.integrityEstablished
  if !(targetFields.all fun f => ctx.subject.keys.contains f) || ctx.asOf < ctx.operationAt then
    finding "publication_target_missing_or_operation_future" []
    return result
  else
    findingIf (!(coverageRecords ctx).isEmpty) "publication_capture_excludes_other_activity" (coverageRecords ctx)
    let result := { result with coverageIncomplete := !(coverageRecords ctx).isEmpty }
    let manifests ← manifests pk ctx
    let activities ← sift (fun r => return activityReason ctx manifests r) (ctx.bound "publication_activity")
    let result ← involvementPass ctx activities result
    let disclosures ← sift (fun r => return disclosureReason pk ctx r) (ctx.bound "publication_disclosure")
    findingIf (!disclosures.isEmpty) "publication_preparation_is_not_delivery" disclosures
    let result := if disclosures.isEmpty then result
      else { result with disclosureRecorded := true, disclosure := .requiresContentReview }
    let policy ← policy pk ctx
    let result ← policyPass policy activities disclosures result
    let result ← approvalPass ctx policy result
    deliveryPass ctx result

end Parts
end VapEvidence.Assessor.Publication

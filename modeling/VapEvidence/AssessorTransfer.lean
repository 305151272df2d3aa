import VapEvidence.AssessorEvidence

set_option autoImplicit false

/-!
# Transfer assessments

`transfer.py`: what policies, decisions, collector health, coverage and observed events say
about one transfer, in the passes of the source.
-/
namespace VapEvidence.Assessor.Transfer
open Json Incident Recording

inductive Authorization where
  | unknown
  | deny
  | review
  | allow
  deriving DecidableEq

inductive Observation where
  | unknown
  | observed
  | dispatchObserved
  | notObserved
  deriving DecidableEq

inductive Binding where
  | unresolved
  | matches
  | payloadMismatch
  | registry (label : String)
  deriving DecidableEq

inductive DispatchAction where
  | holdPendingCurrentAuthorization
  | permittedWithinBoundScope
  | blockControlledRoute
  deriving DecidableEq

inductive RouteAction where
  | review
  | permittedWithinBoundScope
  | block
  deriving DecidableEq

inductive CollectorHealth where
  | unknown
  | unavailable
  | availableWithDurableAcknowledgement
  deriving DecidableEq

/-- The assessments of a transfer. Remote outcome and external activity are unknown throughout. -/
structure Assessments where
  authorization : Authorization
  observation : Observation
  declaredRouteCovered : Bool
  binding : Binding
  policyContentBound : Bool
  dispatchAction : DispatchAction
  controlViolated : Bool
  reconcileBeforeRetry : Bool
  collectorHealth : CollectorHealth
  routeAction : RouteAction
  proposed : Authorization
  observedAction : Authorization
  deriving DecidableEq

def Assessments.initial : Assessments where
  authorization := .unknown
  observation := .unknown
  declaredRouteCovered := false
  binding := .unresolved
  policyContentBound := false
  dispatchAction := .holdPendingCurrentAuthorization
  controlViolated := false
  reconcileBeforeRetry := false
  collectorHealth := .unknown
  routeAction := .review
  proposed := .unknown
  observedAction := .unknown

/-- `POLICY_FIELDS` -/
def policyFields : List String := ["policy_id", "policy_version", "policy_sha256", "stage"]
def requiredSubject : List String := ["request_id", "payload_sha256"] ++ grantFields ++ policyFields

section Parts
variable (pk : Packages) (ctx : Context)

/-- `_within` -/
def within (r : VerifiedRecord) (at_ : ℤ) (left right : String) : Bool :=
  r.recordedAt ≤ at_ && timeOf (r.data.item left) ≤ at_ && at_ < timeOf (r.data.item right)

/-- What stands against a policy at a time. -/
def policyReason (at_ : ℤ) (r : VerifiedRecord) : Run (Option (String × List VerifiedRecord)) := do
  let contentDigest ← digest pk r.data
  return if .str contentDigest ≠ ctx.subject.item "policy_sha256" then
      some ("TRANSFER_POLICY_CONTENT_DIGEST_MISMATCH", [r])
    else if !within r at_ "effective_from" "effective_until" then
      some ("TRANSFER_POLICY_NOT_EFFECTIVE_AT_OPERATION", [r])
    else none

/-- The order of Python's pairs. -/
instance recencyOrder : LinearOrder (ℤ ×ₗ String) := Prod.Lex.instLinearOrder ℤ String

instance recencyPreorder : Preorder (ℤ ×ₗ String) := recencyOrder.toPreorder

/-- The time of a record, then its identifier. -/
def recency (r : VerifiedRecord) : ℤ ×ₗ String := toLex (r.recordedAt, r.recordId)

/-- `_policy` -/
def policyAt (at_ : ℤ) : Eval (Option VerifiedRecord) := do
  let current ← sift (policyReason pk ctx at_) (ctx.boundOn "transfer.policy" policyFields)
  return current.argmax recency

/-- The decisions that apply at a time. -/
def decisionCandidates (at_ : ℤ) : List VerifiedRecord :=
  (ctx.bound "transfer.decision").filter fun r => within r at_ "valid_from" "valid_until"

/-- The latest of some records. -/
def latest (candidates : List VerifiedRecord) : List VerifiedRecord :=
  candidates.filter fun r => some r.recordedAt = (candidates.map VerifiedRecord.recordedAt).max?

/-- `_decision`: the decision in force, and whether the latest decisions contradict each other. -/
def decisionAt (at_ : ℤ) : Eval (Option VerifiedRecord × Bool) :=
  let candidates := decisionCandidates ctx at_
  let current := latest candidates
  if candidates.isEmpty then return (none, false)
  else if (current.map fun r => r.data.item "decision").dedup.length ≠ 1 then do
    finding "TRANSFER_CONFLICTING_CURRENT_DECISIONS" current
    return (none, true)
  else return (current.argmin VerifiedRecord.recordId, false)

def grantCovers (fields : List String) (grant : Json) : Bool :=
  fields.all fun f => grant.item f = ctx.subject.item f

/-- `_grant_matches` -/
def grantMatches (policy : VerifiedRecord) : Bool :=
  (itemsOf (policy.data.item "grants")).any (grantCovers ctx grantFields)

/-- `_grant_failure` -/
def grantFailure (policy : VerifiedRecord) : String :=
  let dimensions := [("tenant_id", "TENANT_MISMATCH"), ("account_id", "ACCOUNT_MISMATCH"),
    ("actor_id", "ACTOR_MISMATCH"), ("purpose", "PURPOSE_MISMATCH"), ("route_id", "ROUTE_MISMATCH"),
    ("endpoint", "ENDPOINT_NOT_APPROVED"), ("provider_id", "PROVIDER_NOT_APPROVED")]
  match dimensions.find? fun d => (itemsOf (policy.data.item "grants")).any fun grant =>
      grant.item d.1 ≠ ctx.subject.item d.1 && grantCovers ctx (grantFields.filter (· ≠ d.1)) grant with
  | some d => d.2
  | none => "NO_MATCHING_APPROVAL"

/-- `_events` -/
def events (kind field : String) : Eval (List VerifiedRecord) :=
  sift (fun r => return if ctx.operationAt ≤ timeOf (r.data.item field) && timeOf (r.data.item field) ≤ r.recordedAt &&
    r.recordedAt ≤ ctx.asOf then none else some ("TRANSFER_EVENT_TIME_INAPPLICABLE", [r])) (ctx.bound kind)

/-- The records of `_health_at`. -/
def healthAt (at_ : ℤ) : List VerifiedRecord :=
  (ctx.bound "transfer.collector_health").filter fun r =>
    timeOf (r.data.item "checked_at") = at_ && timeOf (r.data.item "checked_at") ≤ r.recordedAt && r.recordedAt ≤ ctx.asOf

/-- Those of them that say unavailable. -/
def unavailable (health : List VerifiedRecord) : List VerifiedRecord :=
  health.filter fun r => r.data.item "available" ≠ .bool true || r.data.item "durable_acknowledged" ≠ .bool true

def requiresCollector (policy : Option VerifiedRecord) : Bool :=
  policy.any fun p => p.data.item "require_collector" = .bool true

def decides (decision : Option VerifiedRecord) (what : String) : Bool :=
  decision.any fun d => d.data.item "decision" = .str what

/-! ## Passes -/

/-- The registry and the decision at the time of the operation. -/
def registryPass (policy decision : Option VerifiedRecord) (conflict : Bool) (result : Assessments) :
    Eval Assessments :=
  let result := { result with policyContentBound := policy.isSome }
  let allowed := policy.any (grantMatches ctx)
  match policy, allowed with
  | some p, false => do
    finding "TRANSFER_APPROVAL_REGISTRY_DOES_NOT_AUTHORIZE_TARGET" [p]
    return { result with authorization := .deny, binding := .registry (grantFailure ctx p) }
  | _, _ =>
    if decides decision "deny" then do
      finding "TRANSFER_BOUND_DENIAL" decision.toList
      return { result with authorization := .deny, binding := .matches }
    else if policy.isSome && allowed && decision.isSome && !conflict then do
      finding "TRANSFER_CURRENT_POLICY_AND_PERMIT_BIND_TARGET" (policy.toList ++ decision.toList)
      return { result with
        authorization := .allow, binding := .matches, dispatchAction := .permittedWithinBoundScope
        routeAction := .permittedWithinBoundScope }
    else do
      finding "TRANSFER_CURRENT_AUTHORIZATION_NOT_ESTABLISHED" []
      return { result with authorization := .review }

/-- The permits for other bytes. -/
def otherPayloads : List VerifiedRecord :=
  (ctx.records "transfer.decision").filter fun r =>
    ctx.differences r ctx.subject.keys = ["payload_sha256"] && r.data.item "decision" = .str "permit" &&
      within r ctx.operationAt "valid_from" "valid_until"

/-- An applicable permit for other bytes cannot authorize the actual target. -/
def payloadPass (result : Assessments) : Eval Assessments :=
  if result.authorization = .allow then return result
  else do
    let _ ← each (fun r => finding "TRANSFER_PERMIT_BINDS_DIFFERENT_PAYLOAD" [r]) (otherPayloads ctx)
    return if (otherPayloads ctx).isEmpty then result
      else { result with authorization := .deny, binding := .payloadMismatch }

/-- The health of the collector at the time of the operation. -/
def healthPass (policy : Option VerifiedRecord) (result : Assessments) : Eval Assessments := do
  let health := healthAt ctx ctx.operationAt
  let _ ← each (fun r => findingIf (!health.contains r) "TRANSFER_COLLECTOR_HEALTH_TIME_INAPPLICABLE" [r])
    (ctx.bound "transfer.collector_health")
  if !health.isEmpty then
    if !(unavailable health).isEmpty then
      finding "TRANSFER_COLLECTOR_UNAVAILABLE_OR_NOT_DURABLE" (unavailable health)
      findingIf (requiresCollector policy) "TRANSFER_REQUIRED_COLLECTOR_PRECONDITION_FAILED"
        (policy.toList ++ unavailable health)
      let result := { result with collectorHealth := .unavailable }
      return if requiresCollector policy then { result with routeAction := .block, authorization := .deny } else result
    else return { result with collectorHealth := .availableWithDurableAcknowledgement }
  else
    findingIf (requiresCollector policy) "TRANSFER_REQUIRED_COLLECTOR_HEALTH_UNKNOWN" policy.toList
    return if requiresCollector policy && result.authorization = .allow then
      { result with authorization := .review, routeAction := .review } else result

/-- What is proposed before the events are read. -/
def proposalPass (result : Assessments) : Assessments :=
  let result :=
    if result.authorization = .deny then { result with dispatchAction := .blockControlledRoute, routeAction := .block }
    else if result.authorization ≠ .allow then { result with dispatchAction := .holdPendingCurrentAuthorization }
    else result
  { result with proposed := result.authorization }

/-- What stands against a coverage record. -/
def coverageReason (r : VerifiedRecord) : Run (Option (String × List VerifiedRecord)) :=
  return if timeOf (r.data.item "window_start") ≤ ctx.operationAt && ctx.operationAt < timeOf (r.data.item "window_end") &&
      timeOf (r.data.item "window_end") ≤ r.recordedAt && r.recordedAt ≤ ctx.asOf &&
      (textsOf (r.data.item "covered_routes")).contains (textOf (ctx.subject.item "route_id")) then none
    else some ("TRANSFER_COVERAGE_WINDOW_OR_ROUTE_INAPPLICABLE", [r])

/-- The coverage of the route, and what was observed on it. -/
def coveragePass (result : Assessments) : Eval (Assessments × List VerifiedRecord × List VerifiedRecord) := do
  let coverage ← sift (coverageReason ctx) (ctx.bound "transfer.coverage")
  let complete := coverage.filter fun r => r.data.item "complete" = .bool true
  let incomplete := coverage.filter fun r => r.data.item "complete" ≠ .bool true
  findingIf (!complete.isEmpty && !incomplete.isEmpty) "TRANSFER_COVERAGE_COMPLETENESS_CONFLICT" coverage
  let covered := !complete.isEmpty && incomplete.isEmpty && ctx.target.item "coverage_requested" = .str "managed_route"
  findingIf covered "TRANSFER_COVERAGE_LIMITED_TO_DECLARED_ROUTE" complete
  findingIf (!covered && ctx.target.item "coverage_requested" = .str "broader_activity")
    "TRANSFER_BROADER_ACTIVITY_OUTSIDE_DECLARED_ROUTE" []
  let result := { result with declaredRouteCovered := covered }
  let dispatches ← events ctx "transfer.dispatch" "dispatched_at"
  let egresses ← events ctx "transfer.egress" "observed_at"
  let observed := coverage.any fun r => r.data.item "dispatch_observed" = .bool true
  if !egresses.isEmpty then
    finding "TRANSFER_BOUND_EGRESS_OBSERVED" egresses
    return ({ result with observation := .observed }, egresses, dispatches)
  else if !dispatches.isEmpty then
    finding "TRANSFER_BOUND_DISPATCH_OBSERVED" dispatches
    return ({ result with observation := .dispatchObserved }, egresses, dispatches)
  else if !complete.isEmpty && covered && !observed then
    finding "TRANSFER_NOT_OBSERVED_WITHIN_COVERED_ROUTE" complete
    return ({ result with observation := .notObserved }, egresses, dispatches)
  else
    findingIf observed "TRANSFER_COVERAGE_CLAIM_NEEDS_EVENT_LEVEL_EVIDENCE" coverage
    return (result, egresses, dispatches)

/-- The time of an observed event. -/
def eventTime (event : VerifiedRecord) : ℤ :=
  timeOf (event.data.item (if event.kind = "transfer.egress" then "observed_at" else "dispatched_at"))

/-- One round of the loop over the observed events. -/
def eventAssessment (event : VerifiedRecord) : Eval Authorization := do
  let at_ := eventTime event
  let policy ← policyAt pk ctx at_
  let (decision, conflict) ← decisionAt ctx at_
  let registryDenies := policy.any fun p => !grantMatches ctx p
  let decisionDenies := decides decision "deny"
  let health := healthAt ctx at_
  let collectorDenies := requiresCollector policy && !(unavailable health).isEmpty
  if registryDenies || (decisionDenies && !conflict) || collectorDenies then
    finding "TRANSFER_OBSERVED_ACTION_CONFLICTS_WITH_BOUND_DENIAL" ([event] ++
      (if registryDenies then policy.toList else []) ++ (if decisionDenies then decision.toList else []) ++
      if collectorDenies then policy.toList ++ unavailable health else [])
    return .deny
  else if policy.isSome && !conflict && decides decision "permit" &&
      (!requiresCollector policy || !health.isEmpty) then
    finding "TRANSFER_OBSERVED_ACTION_HAS_APPLICABLE_AUTHORIZATION"
      ([event] ++ policy.toList ++ decision.toList ++ health)
    return .allow
  else
    finding "TRANSFER_OBSERVED_ACTION_AUTHORIZATION_NOT_ESTABLISHED" [event]
    return .review

/-- What the observed events make of the proposal. -/
def eventPass (observed : List VerifiedRecord) (result : Assessments) : Eval Assessments := do
  let assessments ← each (eventAssessment pk ctx) observed
  let result := { result with controlViolated := assessments.contains .deny }
  return if assessments.isEmpty then result
    else if assessments.contains .deny then
      { result with
        observedAction := .deny, authorization := .deny, dispatchAction := .blockControlledRoute, routeAction := .block }
    else if assessments.contains .review then
      let result := { result with observedAction := .review }
      if result.authorization = .allow then
        { result with
          authorization := .review, dispatchAction := .holdPendingCurrentAuthorization, routeAction := .review }
      else result
    else { result with observedAction := .allow }

/-- Timeouts do not resolve the remote outcome. -/
def timeoutPass (dispatches : List VerifiedRecord) (result : Assessments) : Eval Assessments := do
  let timeouts ← events ctx "transfer.timeout" "timed_out_at"
  let preceding (timeout : VerifiedRecord) := dispatches.filter fun r =>
    timeOf (r.data.item "dispatched_at") ≤ timeOf (timeout.data.item "timed_out_at")
  let _ ← each (fun timeout =>
    if (preceding timeout).isEmpty then finding "TRANSFER_TIMEOUT_WITHOUT_BOUND_DISPATCH" [timeout]
    else finding "TRANSFER_TIMEOUT_DOES_NOT_RESOLVE_REMOTE_OUTCOME" (timeout :: preceding timeout)) timeouts
  return { result with reconcileBeforeRetry := timeouts.any fun t => !(preceding t).isEmpty }

/-- `evaluate` -/
def evaluate : Eval Assessments := do
  requireSubject ctx requiredSubject "Transfer target lacks fields"
  if ctx.asOf < ctx.operationAt then
    finding "TRANSFER_OPERATION_AFTER_AS_OF" []
    return .initial
  else
    let policy ← policyAt pk ctx ctx.operationAt
    let (decision, conflict) ← decisionAt ctx ctx.operationAt
    let result ← registryPass ctx policy decision conflict .initial
    let result ← payloadPass ctx result
    let result ← healthPass ctx policy result
    let (result, egresses, dispatches) ← coveragePass ctx (proposalPass result)
    let result ← eventPass pk ctx (egresses ++ dispatches) result
    timeoutPass ctx dispatches result

end Parts
end VapEvidence.Assessor.Transfer

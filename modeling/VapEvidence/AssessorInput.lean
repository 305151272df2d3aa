import VapEvidence.IncidentEnvelopes

set_option autoImplicit false

/-!
# Input of the incident assessor

The checks of `incident_assessor` on a package of signed records and on the trust of its
evaluator: the subject of a target, the kinds of records with the data of each, and the keys.
-/
namespace VapEvidence.Assessor
open Json Incident

inductive Workflow where
  | transfer
  | erasure
  | publication
  | incidentResponse
  | crossParty
  deriving DecidableEq

namespace Workflow

def name : Workflow → String
  | transfer => "transfer"
  | erasure => "erasure"
  | publication => "publication"
  | incidentResponse => "incident_response"
  | crossParty => "cross_party"

def all : List Workflow := [transfer, erasure, publication, incidentResponse, crossParty]

end Workflow

/-- `ROLES` -/
def roles : List String :=
  ["policy", "gateway", "collector", "provider", "author", "reviewer", "responder", "recipient"]
def subjectFields : List String := ["request_id", "actor_id", "provider_id", "endpoint", "tenant_id", "account_id",
  "purpose", "payload_sha256", "artifact_id", "revision_id", "object_ids", "policy_id", "policy_version",
  "policy_sha256", "stage", "route_id", "disclosure_sha256"]

/-- `KINDS` of the five modules: the role whose records have the kind, and the module. -/
def kinds : List (String × String × Workflow) := [
  ("transfer.policy", "policy", .transfer), ("transfer.decision", "gateway", .transfer),
  ("transfer.dispatch", "gateway", .transfer), ("transfer.egress", "collector", .transfer),
  ("transfer.coverage", "collector", .transfer), ("transfer.collector_health", "gateway", .transfer),
  ("transfer.timeout", "gateway", .transfer),
  ("erasure.request", "responder", .erasure), ("erasure.acknowledgement", "provider", .erasure),
  ("erasure.provider_attestation", "provider", .erasure), ("erasure.review", "reviewer", .erasure),
  ("publication_policy", "policy", .publication), ("publication_manifest", "collector", .publication),
  ("publication_activity", "collector", .publication), ("publication_coverage", "collector", .publication),
  ("publication_disclosure", "author", .publication), ("publication_declaration", "author", .publication),
  ("publication_approval", "reviewer", .publication), ("publication_dispatch", "gateway", .publication),
  ("publication_receipt", "recipient", .publication),
  ("info_request", "reviewer", .incidentResponse), ("info_receipt", "recipient", .incidentResponse),
  ("info_response", "recipient", .incidentResponse), ("containment_action", "responder", .incidentResponse),
  ("containment_anchor_claim", "collector", .incidentResponse),
  ("cross_provider_receipt", "provider", .crossParty), ("cross_anchor_claim", "collector", .crossParty)]

def roleOf (kind : String) : String := ((kinds.lookup kind).map Prod.fst).getD ""

/-! ## Single checks -/

/-- `boolean` -/
def boolean (value : Json) : Run Unit :=
  match value with
  | .bool _ => .ok ()
  | _ => inputError "Expected a JSON boolean, not a string or number"

def array (value : Json) (limit : ℕ) (message : String) : Run (List Json) :=
  match value with
  | .arr xs => if xs.length ≤ limit then .ok xs else inputError message
  | _ => inputError message

/-- One check after the other on the fields of a dictionary. -/
def checkTexts (data : Json) (fields : List String) : Run Unit := fields.forM fun f => do let _ ← text (data.item f)

def checkTimes (data : Json) (fields : List String) : Run Unit := fields.forM fun f => do let _ ← timestamp (data.item f)

/-- `strings`, then a refusal of the empty array. -/
def someStrings (value : Json) (message : String) : Run Unit := do
  let items ← strings value
  Incident.require (!items.isEmpty) message

/-- An instant that an earlier check read. -/
def timeOf (value : Json) : ℤ :=
  match timestamp value with
  | .ok t => t
  | .error _ => 0

/-- A text array that an earlier check read. -/
def textsOf (value : Json) : List String :=
  match value with
  | .arr xs => xs.map textOf
  | _ => []

def itemsOf (value : Json) : List Json :=
  match value with
  | .arr xs => xs
  | _ => []

/-! ## Data of the records -/

/-- `GRANT_FIELDS` -/
def grantFields : List String :=
  ["actor_id", "provider_id", "endpoint", "tenant_id", "account_id", "purpose", "route_id"]

section Data
variable (pk : Packages)

/-- The grants of a policy; the digests seen so far. -/
def checkGrants : List String → List Json → Run Unit
  | _, [] => .ok ()
  | seen, grant :: grants => do
    exactKeys grant grantFields []
    checkTexts grant grantFields
    let fingerprint ← digest pk grant
    Incident.require (!seen.contains fingerprint) "Duplicate policy grant"
    checkGrants (fingerprint :: seen) grants

/-- `transfer.validate_data` -/
def transferData (kind : String) (data : Json) : Run Unit :=
  if kind = "transfer.policy" then do
    exactKeys data ["effective_from", "effective_until", "grants", "require_collector"] []
    let _ ← interval (data.item "effective_from") (data.item "effective_until")
    boolean (data.item "require_collector")
    checkGrants pk [] (← array (data.item "grants") 10000 "Policy grants must be a bounded array")
  else if kind = "transfer.decision" then do
    exactKeys data ["decision", "valid_from", "valid_until"] []
    Incident.require (data.item "decision" = .str "permit" || data.item "decision" = .str "deny")
      "Transfer decision must be permit or deny"
    let _ ← interval (data.item "valid_from") (data.item "valid_until")
  else if kind = "transfer.dispatch" then do
    exactKeys data ["dispatched_at"] []
    checkTimes data ["dispatched_at"]
  else if kind = "transfer.egress" then do
    exactKeys data ["observed_at"] []
    checkTimes data ["observed_at"]
  else if kind = "transfer.timeout" then do
    exactKeys data ["timed_out_at"] []
    checkTimes data ["timed_out_at"]
  else if kind = "transfer.coverage" then do
    exactKeys data ["window_start", "window_end", "covered_routes", "complete", "dispatch_observed"] []
    let _ ← interval (data.item "window_start") (data.item "window_end")
    let _ ← strings (data.item "covered_routes")
    boolean (data.item "complete")
    boolean (data.item "dispatch_observed")
  else if kind = "transfer.collector_health" then do
    exactKeys data ["checked_at", "available", "durable_acknowledged"] []
    checkTimes data ["checked_at"]
    boolean (data.item "available")
    boolean (data.item "durable_acknowledged")
    Incident.require (data.item "available" = .bool true || data.item "durable_acknowledged" = .bool false)
      "Unavailable collector cannot acknowledge durable collection"
  else inputError "Unsupported transfer kind"

/-- `erasure._nonempty_strings` -/
def evidenceStrings (value : Json) : Run Unit :=
  someStrings value "Evidence identifiers, locations and review limitations cannot be empty"

/-- `erasure.validate_data` -/
def erasureData (kind : String) (data : Json) : Run Unit :=
  if kind = "erasure.request" then do
    exactKeys data ["requested_at", "requested_locations"] []
    checkTimes data ["requested_at"]
    evidenceStrings (data.item "requested_locations")
  else if kind = "erasure.acknowledgement" then do
    exactKeys data ["request_record_id", "acknowledged_at", "queue_state"] []
    checkTexts data ["request_record_id"]
    checkTimes data ["acknowledged_at"]
    let _ ← enum (data.item "queue_state") ["received", "queued"]
  else if kind = "erasure.provider_attestation" then do
    exactKeys data ["request_record_id", "completed_at", "locations", "exclusions"] []
    checkTexts data ["request_record_id"]
    checkTimes data ["completed_at"]
    evidenceStrings (data.item "locations")
    let _ ← strings (data.item "exclusions")
    Incident.require ((textsOf (data.item "locations")).all fun l => !(textsOf (data.item "exclusions")).contains l)
      "An attestation location cannot also be explicitly excluded"
  else if kind = "erasure.review" then do
    exactKeys data ["request_record_id", "attestation_record_id", "method", "evidence_record_ids", "window_start",
      "window_end", "locations", "limitations", "conclusion"] []
    checkTexts data ["request_record_id", "attestation_record_id", "method"]
    ["evidence_record_ids", "locations", "limitations"].forM fun f => evidenceStrings (data.item f)
    let _ ← interval (data.item "window_start") (data.item "window_end")
    let _ ← enum (data.item "conclusion") ["deletion-observed", "inconclusive"]
  else inputError "Unsupported erasure kind"

/-- `ACTIVITIES` and `CATEGORIES` of `publication.py` -/
def activities : List String :=
  ["generation", "substantive_editing", "proofreading", "translation", "code_review", "figure_generation"]
def categories : List String := ["text", "figure", "code"]

/-- `_choices` -/
def choices (values : Json) (allowed : List String) : Run Unit := do
  let items ← strings values
  items.forM fun s => do let _ ← enum (.str s) allowed

/-- `_component` -/
def checkComponent (component : Json) : Run Unit := do
  exactKeys component ["artifact_id", "revision_id", "sha256", "category"] []
  checkTexts component ["artifact_id", "revision_id"]
  let _ ← digestHex (component.item "sha256") 32
  let _ ← enum (component.item "category") categories

/-- `publication.validate_data` -/
def publicationData (kind : String) (data : Json) : Run Unit :=
  if kind = "publication_policy" then do
    exactKeys data ["effective_from", "effective_until", "prohibited_activities", "disclosure_categories",
      "approval_required", "interpretation"] []
    let _ ← interval (data.item "effective_from") (data.item "effective_until")
    choices (data.item "prohibited_activities") activities
    choices (data.item "disclosure_categories") categories
    boolean (data.item "approval_required")
    let _ ← enum (data.item "interpretation") ["resolved", "unresolved"]
  else if kind = "publication_manifest" then do
    exactKeys data ["observed_at", "components"] []
    checkTimes data ["observed_at"]
    Incident.require (!(itemsOf (data.item "components")).isEmpty) "Publication components require a nonempty array"
    (itemsOf (data.item "components")).forM checkComponent
    let _ ← strings (.arr ((itemsOf (data.item "components")).map fun c => c.item "artifact_id"))
  else if kind = "publication_activity" then do
    exactKeys data ["activity", "observed_at", "adoption_basis", "included_in_artifact_sha256", "component"] []
    let _ ← enum (data.item "activity") activities
    checkTimes data ["observed_at"]
    let _ ← enum (data.item "adoption_basis") ["observed_in_artifact", "unresolved"]
    let _ ← digestHex (data.item "included_in_artifact_sha256") 32
    checkComponent (data.item "component")
  else if kind = "publication_coverage" then do
    exactKeys data ["scope", "from", "until"] []
    let _ ← enum (data.item "scope") ["declared_editor_only", "incomplete"]
    let _ ← interval (data.item "from") (data.item "until")
  else if kind = "publication_disclosure" then do
    exactKeys data ["categories", "prepared_at", "text"] []
    choices (data.item "categories") categories
    checkTimes data ["prepared_at"]
    checkTexts data ["text"]
  else if kind = "publication_declaration" then do
    exactKeys data ["activities", "declared_at"] []
    choices (data.item "activities") activities
    checkTimes data ["declared_at"]
  else if kind = "publication_approval" then do
    exactKeys data ["valid_from", "valid_until", "approval"] []
    let _ ← interval (data.item "valid_from") (data.item "valid_until")
    let _ ← enum (data.item "approval") ["approved"]
  else if kind = "publication_dispatch" then do
    exactKeys data ["attempted_at"] []
    checkTimes data ["attempted_at"]
  else if kind = "publication_receipt" then do
    exactKeys data ["received_at", "status"] []
    checkTimes data ["received_at"]
    let _ ← enum (data.item "status") ["received", "accepted"]
  else inputError "Unsupported publication record kind"

/-- An answer of a recipient: its question. -/
def checkAnswer (answer : Json) : Run Json := do
  exactKeys answer ["question", "answer"] []
  checkTexts answer ["question", "answer"]
  return answer.item "question"

/-- `incident_response.validate_data` -/
def incidentData (kind : String) (data : Json) : Run Unit :=
  if kind = "info_request" then do
    exactKeys data ["questions", "requested_at", "observation_cutoff", "authority_basis"] []
    someStrings (data.item "questions") "Information requests require at least one question"
    let _ ← interval (data.item "requested_at") (data.item "observation_cutoff")
    checkTexts data ["authority_basis"]
  else if kind = "info_receipt" then do
    exactKeys data ["received_at", "request_record_id"] []
    checkTimes data ["received_at"]
    checkTexts data ["request_record_id"]
  else if kind = "info_response" then do
    exactKeys data ["responded_at", "request_record_id", "status", "answers"] []
    checkTimes data ["responded_at"]
    checkTexts data ["request_record_id"]
    let _ ← enum (data.item "status") ["complete", "partial"]
    Incident.require (!(itemsOf (data.item "answers")).isEmpty) "A substantive response requires a nonempty answers array"
    let questions ← (itemsOf (data.item "answers")).mapM checkAnswer
    let _ ← strings (.arr questions)
  else if kind = "containment_action" then do
    exactKeys data ["decision_at", "removal_observed_at", "authority_basis", "source_account_id", "urgency",
      "delay_justified", "minimum_evidence_available", "unavailable_material", "access_constraints",
      "retention_basis"] []
    let decided ← timestamp (data.item "decision_at")
    let removed ← timestamp (data.item "removal_observed_at")
    Incident.require (!(removed < decided)) "Containment decision cannot follow its reported action"
    checkTexts data ["authority_basis", "source_account_id", "retention_basis"]
    let _ ← enum (data.item "urgency") ["urgent", "routine"]
    boolean (data.item "delay_justified")
    boolean (data.item "minimum_evidence_available")
    let unavailable ← strings (data.item "unavailable_material")
    let _ ← strings (data.item "access_constraints")
    Incident.require (data.item "minimum_evidence_available" = .bool true || !unavailable.isEmpty)
      "Unavailable preservation needs an identified evidence gap"
  else if kind = "containment_anchor_claim" then do
    exactKeys data ["anchor_time", "record_ids", "format", "material_sha256"] []
    checkTimes data ["anchor_time"]
    someStrings (data.item "record_ids") "Anchor claim must identify its records"
    checkTexts data ["format"]
    let _ ← digestHex (data.item "material_sha256") 32
  else inputError "Unsupported incident-response record kind"

/-- `cross_party.validate_data` -/
def crossData (kind : String) (data : Json) : Run Unit :=
  if kind = "cross_provider_receipt" then do
    exactKeys data ["received_at", "statement", "statement_scope"] []
    checkTimes data ["received_at"]
    checkTexts data ["statement"]
    someStrings (data.item "statement_scope") "Provider statement must name its scope"
  else if kind = "cross_anchor_claim" then do
    exactKeys data ["anchor_time", "format", "material_sha256", "record_ids", "party_ids"] []
    checkTimes data ["anchor_time"]
    checkTexts data ["format"]
    let _ ← digestHex (data.item "material_sha256") 32
    let ids ← strings (data.item "record_ids")
    let parties ← strings (data.item "party_ids")
    Incident.require (!ids.isEmpty && !parties.isEmpty) "Anchor claims require explicit records and parties"
  else inputError "Unsupported cross-party record kind"

/-- `MODULES[kind].validate_data` -/
def validateData (kind : String) (data : Json) : Run Unit :=
  match kinds.lookup kind with
  | some (_, .transfer) => transferData pk kind data
  | some (_, .erasure) => erasureData kind data
  | some (_, .publication) => publicationData kind data
  | some (_, .incidentResponse) => incidentData kind data
  | some (_, .crossParty) => crossData kind data
  | none => inputError ("Unsupported record kind: " ++ kind)

/-! ## Packages and trust -/

/-- `subject`; a binding must use the field names of the target's subject. -/
def checkSubject (value : Json) (names : Option (List String)) : Run Unit := do
  exactKeys value ["request_id"] (subjectFields.erase "request_id")
  Incident.require (names.all fun names => value.hasFields names)
    "Record binding must use the target subject field names"
  value.members.forM fun m =>
    if m.1 = "object_ids" then someStrings m.2 "Object identifiers cannot be empty when supplied"
    else if "_sha256".toList.isSuffixOf m.1.toList then do let _ ← digestHex m.2 32
    else do let _ ← text m.2

/-- The body of a record; the identifiers of the records before it. -/
def checkBody (target : Json) (seen : List String) (body : Json) : Run String := do
  exactKeys body ["record_id", "evaluation_id", "kind", "issuer", "recorded_at", "binding", "data"] []
  checkTexts body ["record_id", "evaluation_id", "kind", "issuer"]
  let id := textOf (body.item "record_id")
  Incident.require (!seen.contains id) "Duplicate record identifier"
  checkTimes body ["recorded_at"]
  checkSubject (body.item "binding") (some (target.item "subject").keys)
  validateData pk (textOf (body.item "kind")) (body.item "data")
  return id

def checkRecords (target : Json) : List String → List Json → Run Unit
  | _, [] => .ok ()
  | seen, record :: records => do
    exactKeys record ["algorithm", "key_id", "body", "signature"] []
    let _ ← enum (record.item "algorithm") ["Ed25519"]
    let _ ← text (record.item "key_id")
    let _ ← digestHex (record.item "signature") 64
    let id ← checkBody pk target seen (record.item "body")
    checkRecords target (id :: seen) records

/-- The target of a package. -/
def checkTarget (target : Json) : Run Unit := do
  exactKeys target ["subject", "operation_at", "coverage_requested", "authorities"] []
  checkSubject (target.item "subject") none
  checkTimes target ["operation_at"]
  let _ ← enum (target.item "coverage_requested") ["managed_route", "broader_activity"]
  exactKeys (target.item "authorities") [] roles
  (target.item "authorities").members.forM fun m => do let _ ← text m.2

/-- `validate_package` -/
def validatePackage (package : Json) : Run Unit := do
  let _ ← canonical pk package
  exactKeys package ["format", "evaluation_id", "workflow", "as_of", "target", "records"] []
  let _ ← enum (package.item "format") ["incident-evidence-input/0.1"]
  checkTexts package ["evaluation_id"]
  let _ ← enum (package.item "workflow") (Workflow.all.map Workflow.name)
  checkTimes package ["as_of"]
  checkTarget (package.item "target")
  checkRecords pk (package.item "target") [] (← array (package.item "records") maxItems "Expected at most 10000 signed records")

/-- One key of the evaluator; who each public key and each issuer has been so far. -/
def checkTrustKey (identities : List (String × String × String)) (organizations : List (String × String))
    (key : Json) : Run Unit := do
  exactKeys key ["public_key", "issuer", "organization", "roles", "not_before", "not_after"] []
  let public_ ← digestHex (key.item "public_key") 32
  let issuer ← text (key.item "issuer")
  let organization ← text (key.item "organization")
  let held ← strings (key.item "roles")
  held.forM fun r => do let _ ← enum (.str r) roles
  let _ ← interval (key.item "not_before") (key.item "not_after")
  Incident.require ((identities.lookup public_).all (· = (issuer, organization)))
    "One public key cannot establish different trusted identities"
  Incident.require ((organizations.lookup issuer).all (· = organization)) "An issuer has conflicting trusted organizations"

def checkTrustKeys (identities : List (String × String × String)) (organizations : List (String × String)) :
    List (String × Json) → Run Unit
  | [] => .ok ()
  | (id, key) :: keys => do
    let _ ← text (.str id)
    checkTrustKey identities organizations key
    let issuer := textOf (key.item "issuer")
    let organization := textOf (key.item "organization")
    checkTrustKeys ((textOf (key.item "public_key"), issuer, organization) :: identities)
      ((issuer, organization) :: organizations) keys

/-- `validate_trust` -/
def validateTrust (trust : Json) : Run Unit := do
  let _ ← canonical pk trust
  exactKeys trust ["format", "evaluation_id", "workflow", "as_of", "target_sha256", "mode", "keys"] []
  let _ ← enum (trust.item "format") ["incident-evidence-trust/0.1"]
  checkTexts trust ["evaluation_id"]
  let _ ← enum (trust.item "workflow") (Workflow.all.map Workflow.name)
  checkTimes trust ["as_of"]
  let _ ← digestHex (trust.item "target_sha256") 32
  let _ ← enum (trust.item "mode") ["synthetic-test-only", "explicit-evaluator"]
  match trust.item "keys" with
  | .obj keys => do
    Incident.require (keys.length ≤ maxItems) "Expected a bounded trust key mapping"
    checkTrustKeys [] [] keys
  | _ => inputError "Expected a bounded trust key mapping"

end Data
end VapEvidence.Assessor

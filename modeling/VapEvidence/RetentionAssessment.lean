import VapEvidence.AssessorReading
import VapEvidence.SortedLists

set_option autoImplicit false

/-!
# The retention adapter

`retention_adapter/core.py`: statements of a provider about retention and reports of presence, checked
under the trust of an erasure assessment and read beside its report.
-/
namespace VapEvidence.Retention
open Json Incident Assessor

/-- `KINDS` -/
def kinds : List (String × String) := [("retention.statement", "provider"), ("retention.presence", "collector")]

/-- `REQUIRED_SUBJECT` -/
def requiredSubject : List String :=
  ["request_id", "provider_id", "tenant_id", "account_id", "object_ids", "payload_sha256"]

def maxRecords : ℕ := 256
def maxBytes : ℕ := 8 * 1024 * 1024

/-- `DOMAIN` with its terminator. -/
def domain : Bytes := encodeUtf8 "incident-retention-adapter/0.1".toList ++ [0]

inductive SignatureCheck where
  | untrustedKey
  | verified
  | failed
  deriving DecidableEq

inductive IdentityCheck where
  | unknown
  | expectedIssuer
  | mismatch
  deriving DecidableEq

inductive RoleCheck where
  | unknown
  | authorized
  | unauthorized
  deriving DecidableEq

inductive ValidityCheck where
  | unknown
  | withinValidity
  | outsideValidity
  deriving DecidableEq

inductive RequestCheck where
  | notEstablished
  | matches_
  | recordPrecedesRequest
  deriving DecidableEq

inductive ScopeCheck where
  | notEstablished
  | withinRequest
  | outsideRequest
  deriving DecidableEq

inductive ObservationCheck where
  | notApplicable
  | withinRecordTime
  | afterRecord
  deriving DecidableEq

/-- The check of a record. -/
structure Check where
  recordId : String
  kind : String
  signature : SignatureCheck
  identity : IdentityCheck
  role : RoleCheck
  keyValidity : ValidityCheck
  withinCutoff : Bool
  evaluationMatches : Bool
  bindingDifferences : List String
  request : RequestCheck
  scope : ScopeCheck
  observationTime : ObservationCheck
  eligible : Bool
  deriving DecidableEq

inductive DeadlineState where
  | unknown
  | beforeDeclaredDeadline
  | atDeclaredDeadline
  | afterDeclaredDeadline
  deriving DecidableEq

/-- What statements and reports of presence have in common. -/
structure Common where
  recordId : String
  issuer : String
  recordedAt : Json
  requestRecordId : String
  deriving DecidableEq

structure Statement extends Common where
  termsRef : Json
  termsSha256 : Json
  processingLocations : List String
  trainingUse : Json
  locations : List String
  schedule : Json
  deadlineState : DeadlineState
  exceptions : List (Json × DeadlineState)
  providerClaims : List String
  missingLocations : List String
  deriving DecidableEq

structure Presence extends Common where
  observedAt : Json
  location : Json
  method : Json
  limitations : Json
  deriving DecidableEq

inductive FollowUp where
  | unknownDeadline
  | deadlineReached
  | completionEvidenceNeeded
  | reportedException
  | noApplicableStatement
  | multipleStatements
  | presenceAfterDeadline
  | presenceAfterCompletionClaim
  deriving DecidableEq

def FollowUp.text : FollowUp → String
  | .unknownDeadline => "UNKNOWN_DEADLINE"
  | .deadlineReached => "RETENTION_DEADLINE_REACHED_REVIEW_REQUIRED"
  | .completionEvidenceNeeded => "COMPLETION_EVIDENCE_NEEDED_BY_CUTOFF"
  | .reportedException => "REPORTED_RETENTION_EXCEPTION"
  | .noApplicableStatement => "NO_APPLICABLE_RETENTION_STATEMENT"
  | .multipleStatements => "MULTIPLE_STATEMENTS_REQUIRE_REVIEW"
  | .presenceAfterDeadline => "PRESENCE_REPORTED_AT_OR_AFTER_DEADLINE"
  | .presenceAfterCompletionClaim => "PRESENCE_REPORTED_AT_OR_AFTER_COMPLETION_CLAIM"

inductive Integrity where
  | verifiedAndApplicable
  | failedSignature
  | unresolved
  deriving DecidableEq

/-- A report, without what is the same in every report. -/
structure Report where
  evaluationId : Json
  asOf : Json
  synthetic : Bool
  inputSha256 : String
  trustSha256 : String
  targetSha256 : String
  integrity : Integrity
  checks : List Check
  statements : List Statement
  presence : List Presence
  followUps : List String
  erasureReport : Assessor.Report

section Validation
variable (pk : Packages)

/-! ## Validation -/

def isNull (v : Json) : Bool := v = .null

/-- The exceptions of a statement; the canonical bytes of those before. -/
def checkExceptions (locations : Json) : List Bytes → List Json → Run Unit
  | _, [] => .ok ()
  | seen, item :: items => do
    exactKeys item ["location", "reason", "until"] []
    checkTexts item ["location", "reason"]
    if isNull (item.item "until") then .ok () else checkTimes item ["until"]
    Incident.require ((itemsOf locations).contains (item.item "location"))
      "Retention exception lies outside the statement's locations"
    let fingerprint ← canonical pk item
    Incident.require (!seen.contains fingerprint) "Duplicate retention exception"
    checkExceptions locations (fingerprint :: seen) items

def checkSchedule (schedule : Json) : Run Unit := do
  exactKeys schedule ["kind"] ["deadline", "reason"]
  let kind ← enum (schedule.item "kind") ["stated-deadline", "unknown"]
  if kind = "stated-deadline" then do
    exactKeys schedule ["kind", "deadline"] []
    checkTimes schedule ["deadline"]
  else do
    exactKeys schedule ["kind", "reason"] []
    checkTexts schedule ["reason"]

/-- `_validate_data` -/
def validateData (kind : String) (data : Json) : Run Unit := do
  if kind = "retention.statement" then
    exactKeys data ["request_record_id", "terms_ref", "terms_sha256", "processing_locations", "training_use", "locations",
      "schedule", "exceptions"] []
    checkTexts data ["terms_ref"]
    let _ ← digestHex (data.item "terms_sha256") 32
    let _ ← strings (data.item "processing_locations")
    let _ ← enum (data.item "training_use") ["reported-disabled", "reported-enabled", "not-reported"]
    someStrings (data.item "locations") "Expected a nonempty string array"
    checkSchedule (data.item "schedule")
    checkExceptions pk (data.item "locations") []
      (← array (data.item "exceptions") maxRecords "Expected at most 256 retention exceptions")
  else
    exactKeys data ["request_record_id", "observed_at", "location", "method", "limitations"] []
    checkTimes data ["observed_at"]
    checkTexts data ["location", "method"]
    someStrings (data.item "limitations") "Expected a nonempty string array"
  checkTexts data ["request_record_id"]

/-- `_validate` -/
def validate (package trust : Json) : Run Unit := do
  Incident.require ((← canonical pk package).length ≤ maxBytes && (← canonical pk trust).length ≤ maxBytes)
    "Input or trust exceeds 8 MiB"
  exactKeys package ["format", "erasure", "retention_records"] []
  let _ ← enum (package.item "format") ["retention-evidence-input/0.1"]
  exactKeys trust ["format", "erasure_trust"] []
  let _ ← enum (trust.item "format") ["retention-evidence-trust/0.1"]
  Incident.require ((package.item "erasure").isDict && (package.item "erasure").item "workflow" = .str "erasure")
    "The embedded evidence must use the unchanged erasure workflow"
  let _ ← array (package.item "retention_records") maxRecords "Expected at most 256 retention records"

def idOf (envelope : Json) : String := textOf ((envelope.item "body").item "record_id")

/-- A record on its own. -/
def checkRecord (names : List String) (envelope : Json) : Run Unit := do
  exactKeys envelope ["algorithm", "key_id", "body", "signature"] []
  let _ ← enum (envelope.item "algorithm") ["Ed25519"]
  checkTexts envelope ["key_id"]
  let _ ← digestHex (envelope.item "signature") 64
  let body := envelope.item "body"
  exactKeys body ["record_id", "evaluation_id", "kind", "issuer", "recorded_at", "binding", "data"] []
  checkTexts body ["record_id", "evaluation_id", "issuer"]
  let _ ← enum (body.item "kind") (kinds.map Prod.fst)
  checkTimes body ["recorded_at"]
  checkSubject (body.item "binding") (some names)

/-- The loop over the records; the identifiers before each. -/
def checkRecords (names : List String) : List String → List Json → Run Unit
  | _, [] => .ok ()
  | seen, envelope :: envelopes => do
    checkRecord names envelope
    Incident.require (!seen.contains (idOf envelope))
      "Duplicate record identifier across retention and erasure evidence"
    validateData pk (textOf ((envelope.item "body").item "kind")) ((envelope.item "body").item "data")
    checkRecords names (idOf envelope :: seen) envelopes

/-- `_validated_records` -/
def validatedRecords (package : Json) : Run Unit := do
  let core := package.item "erasure"
  let names := ((core.item "target").item "subject").keys
  Incident.require (requiredSubject.all names.contains)
    "Retention target requires request, provider, tenant, account, objects and payload digest"
  let records := itemsOf (core.item "records")
  Incident.require (records.length ≤ maxRecords) "This wrapper supports at most 256 legacy records"
  checkRecords pk names (records.map idOf) (itemsOf (package.item "retention_records"))

end Validation

section Assessment
variable (pk : Packages)

/-! ## Checks of records -/

/-- The requests of the erasure evidence that bind the operation. -/
def boundRequests (ctx : Context) : List VerifiedRecord :=
  (ctx.bound "erasure.request").filter fun r =>
    timeOf (r.data.item "requested_at") = ctx.operationAt && ctx.operationAt ≤ r.recordedAt && r.recordedAt ≤ ctx.asOf

/-- The provider attestations behind the claims of the erasure report. -/
def attestations (ctx : Context) (report : Assessor.Report) : List VerifiedRecord :=
  (ctx.bound "erasure.provider_attestation").filter fun r =>
    report.findings.any fun f => f.code = "ERASURE_PROVIDER_CLAIM_REMAINS_SCOPED" && f.recordIds.contains r.recordId

/-- What the key of a record says of it, where the evaluator has one. -/
def keyCheck (target envelope : Json) (check : Check) (key : Json) : Run Check := do
  let body := envelope.item "body"
  let role := (kinds.lookup check.kind).getD ""
  let recorded := timeOf (body.item "recorded_at")
  let message ← signingBytes pk domain (unsignedOf envelope)
  match unhex (textOf (key.item "public_key")), unhex (textOf (envelope.item "signature")) with
  | some public_, some signature =>
    return { check with
      signature := if pk.verify public_ message signature then .verified else .failed
      identity := if body.item "issuer" = key.item "issuer" ∧
          (target.item "authorities").get? role = some (body.item "issuer") then .expectedIssuer else .mismatch
      role := if (textsOf (key.item "roles")).contains role then .authorized else .unauthorized
      keyValidity := if timeOf (key.item "not_before") ≤ recorded ∧ recorded < timeOf (key.item "not_after")
        then .withinValidity else .outsideValidity }
  | _, _ => .error .other

def keyedCheck (target envelope : Json) (check : Check) : Option Json → Run Check
  | none => .ok check
  | some key => keyCheck pk target envelope check key

/-- The locations that a record is about. -/
def locationsOf (kind : String) (data : Json) : List String :=
  if kind = "retention.statement" then textsOf (data.item "locations") else [textOf (data.item "location")]

/-- What the request that a record names says of it, where it is established. -/
def requestCheck (requests : List VerifiedRecord) (kind : String) (recorded : ℤ) (data : Json) (check : Check) : Check :=
  match Erasure.byId requests (data.item "request_record_id") with
  | none => check
  | some request => { check with
      request := if request.recordedAt ≤ recorded then .matches_ else .recordPrecedesRequest
      scope := if (locationsOf kind data).all fun l => (textsOf (request.data.item "requested_locations")).contains l
        then .withinRequest else .outsideRequest }

def observationCheck (kind : String) (recorded : ℤ) (data : Json) (check : Check) : Check :=
  if kind = "retention.presence" then
    { check with
      observationTime := if timeOf (data.item "observed_at") ≤ recorded then .withinRecordTime else .afterRecord }
  else check

def Check.passes (c : Check) : Bool :=
  c.signature = .verified && c.identity = .expectedIssuer && c.role = .authorized && c.keyValidity = .withinValidity &&
    c.withinCutoff && c.evaluationMatches && c.bindingDifferences.isEmpty && c.request = .matches_ &&
    c.scope = .withinRequest && (c.observationTime = .notApplicable || c.observationTime = .withinRecordTime)

/-- `_check` -/
def check (core pins : Json) (requests : List VerifiedRecord) (envelope : Json) : Run Check := do
  let body := envelope.item "body"
  let data := body.item "data"
  let target := core.item "target"
  let recorded := timeOf (body.item "recorded_at")
  let kind := textOf (body.item "kind")
  let differences ← bindingDifferences pk (target.item "subject") (body.item "binding")
  let initial : Check := {
    recordId := idOf envelope, kind, signature := .untrustedKey, identity := .unknown, role := .unknown
    keyValidity := .unknown, withinCutoff := recorded ≤ timeOf (core.item "as_of")
    evaluationMatches := body.item "evaluation_id" = core.item "evaluation_id"
    bindingDifferences := differences.insertionSort (· ≤ ·)
    request := .notEstablished, scope := .notEstablished
    observationTime := .notApplicable, eligible := false }
  let keyed ← keyedCheck pk target envelope initial ((pins.item "keys").get? (textOf (envelope.item "key_id")))
  let asked := requestCheck requests kind recorded data keyed
  let found := observationCheck kind recorded data asked
  return { found with eligible := found.passes }

/-! ## Statements and reports of presence -/

/-- `_deadline_state` -/
def deadlineState (asOf : ℤ) (deadline : Json) : DeadlineState :=
  if isNull deadline then .unknown
  else if asOf < timeOf deadline then .beforeDeclaredDeadline
  else if asOf = timeOf deadline then .atDeclaredDeadline
  else .afterDeclaredDeadline

def DeadlineState.text : DeadlineState → String
  | .unknown => "UNKNOWN"
  | .beforeDeclaredDeadline => "BEFORE_DECLARED_DEADLINE"
  | .atDeclaredDeadline => "AT_DECLARED_DEADLINE"
  | .afterDeclaredDeadline => "AFTER_DECLARED_DEADLINE"

def common (envelope : Json) : Common where
  recordId := idOf envelope
  issuer := textOf ((envelope.item "body").item "issuer")
  recordedAt := (envelope.item "body").item "recorded_at"
  requestRecordId := textOf (((envelope.item "body").item "data").item "request_record_id")

/-- An exception with the state of its boundary, and the bytes by which it is sorted. -/
def exceptionOf (asOf : ℤ) (item : Json) : Run (Bytes × Json × DeadlineState) := do
  let state := deadlineState asOf (item.item "until")
  let key ← canonical pk (dict (item.members ++ [("boundary_state", .str state.text)]))
  return (key, item, state)

/-- The completion claims of the provider about the request and some location of a statement. -/
def matchingClaims (attestations : List VerifiedRecord) (data : Json) : List VerifiedRecord :=
  attestations.filter fun r => r.data.item "request_record_id" = data.item "request_record_id" &&
    (textsOf (r.data.item "locations")).any fun l => (textsOf (data.item "locations")).contains l

def sorted (texts : List String) : List String := texts.insertionSort (· ≤ ·)

def statementOf (asOf : ℤ) (attestations : List VerifiedRecord) (envelope : Json) : Run Statement := do
  let data := (envelope.item "body").item "data"
  let exceptions ← (itemsOf (data.item "exceptions")).mapM (exceptionOf pk asOf)
  let claims := matchingClaims attestations data
  let covered := claims.flatMap fun r => textsOf (r.data.item "locations")
  return { common envelope with
    termsRef := data.item "terms_ref"
    termsSha256 := data.item "terms_sha256"
    processingLocations := sorted (textsOf (data.item "processing_locations"))
    trainingUse := data.item "training_use"
    locations := sorted (textsOf (data.item "locations"))
    schedule := data.item "schedule"
    deadlineState := deadlineState asOf ((data.item "schedule").item "deadline")
    exceptions := (exceptions.insertionSort fun a b => a.1 ≤ b.1).map Prod.snd
    providerClaims := sorted (claims.map VerifiedRecord.recordId)
    missingLocations := sorted ((textsOf (data.item "locations")).dedup.filter fun l => !covered.contains l) }

def presenceOf (envelope : Json) : Presence :=
  let data := (envelope.item "body").item "data"
  { common envelope with
    observedAt := data.item "observed_at", location := data.item "location", method := data.item "method"
    limitations := data.item "limitations" }

/-- What the loop of `assess` adds for a record. -/
inductive Entry where
  | ineligible
  | statement (s : Statement)
  | presence (p : Presence)

def Entry.statement? : Entry → Option Statement
  | .statement s => some s
  | _ => none

def Entry.presence? : Entry → Option Presence
  | .presence p => some p
  | _ => none

/-- One round of the loop of `assess`. -/
def round (core pins : Json) (requests attestations : List VerifiedRecord) (asOf : ℤ) (envelope : Json) :
    Run (Check × Entry) := do
  let found ← check pk core pins requests envelope
  if !found.eligible then return (found, .ineligible)
  else if found.kind = "retention.statement" then
    return (found, .statement (← statementOf pk asOf attestations envelope))
  else return (found, .presence (presenceOf envelope))

/-! ## Follow-up reasons -/

/-- The reasons that a statement gives on its own. -/
def statementReasons (s : Statement) : List FollowUp :=
  (if s.deadlineState = .unknown then [.unknownDeadline]
    else if s.deadlineState = .atDeclaredDeadline ∨ s.deadlineState = .afterDeclaredDeadline then
      .deadlineReached :: (if s.missingLocations.isEmpty then [] else [.completionEvidenceNeeded])
    else []) ++
  if s.exceptions.isEmpty then [] else [.reportedException]

/-- A report of presence against the deadline of a statement. -/
def deadlineReasons (operationAt : ℤ) (p : Presence) (s : Statement) : List FollowUp :=
  let deadline := s.schedule.item "deadline"
  if !isNull deadline && s.locations.contains (textOf p.location) && p.requestRecordId = s.requestRecordId &&
      operationAt ≤ timeOf p.observedAt && timeOf deadline ≤ timeOf p.observedAt then [.presenceAfterDeadline]
  else []

/-- A report of presence against a completion claim. -/
def claimReasons (attestation : VerifiedRecord) (p : Presence) : List FollowUp :=
  if Json.str p.requestRecordId = attestation.data.item "request_record_id" &&
      (textsOf (attestation.data.item "locations")).contains (textOf p.location) &&
      timeOf (attestation.data.item "completed_at") ≤ timeOf p.observedAt then [.presenceAfterCompletionClaim]
  else []

def followUps (operationAt : ℤ) (attestations : List VerifiedRecord) (statements : List Statement)
    (presence : List Presence) : List FollowUp :=
  statements.flatMap statementReasons ++
    (if statements.isEmpty then [.noApplicableStatement] else []) ++
    (if 1 < statements.length then [.multipleStatements] else []) ++
    (presence.flatMap fun p => statements.flatMap (deadlineReasons operationAt p)) ++
    attestations.flatMap fun a => presence.flatMap (claimReasons a)

def integrityOf (checks : List Check) : Integrity :=
  if !checks.isEmpty && checks.all (·.eligible) then .verifiedAndApplicable
  else if checks.any fun c => c.signature = .failed then .failedSignature
  else .unresolved

/-- `assess` -/
def assess (package trust : Json) (allowSynthetic : Bool) : Run Report := do
  validate pk package trust
  let core := package.item "erasure"
  let pins := trust.item "erasure_trust"
  let erasureReport ← Assessor.assess pk core pins allowSynthetic
  validatedRecords pk package
  let ctx ← newContext pk core pins
  let requests := boundRequests ctx
  let attested := attestations ctx erasureReport
  let found ← (SortedLists.sortBy idOf (itemsOf (package.item "retention_records"))).mapM
    (round pk core pins requests attested ctx.asOf)
  let checks := found.map Prod.fst
  let statements := found.filterMap fun f => f.2.statement?
  let presence := found.filterMap fun f => f.2.presence?
  return {
    evaluationId := core.item "evaluation_id"
    asOf := core.item "as_of"
    synthetic := erasureReport.synthetic
    inputSha256 := ← digest pk package
    trustSha256 := ← digest pk trust
    targetSha256 := ← digest pk (core.item "target")
    integrity := integrityOf checks
    checks, statements, presence
    followUps := sorted ((followUps ctx.operationAt attested statements presence).map FollowUp.text).dedup
    erasureReport }

end Assessment
end VapEvidence.Retention

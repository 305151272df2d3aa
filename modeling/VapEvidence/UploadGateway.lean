import VapEvidence.UploadJournal
import VapEvidence.Histories

set_option autoImplicit false

/-!
# The upload gateway

`Gateway.execute` as a program over its effects: the payload buffer, the hooks, the
clock, the journal and the one-shot transport. The assessor is a parameter; no result
rests on what it computes.
-/
namespace VapEvidence.Upload
open Json Incident Interleaving

/-! ## Effects -/

inductive Effect where
  /-- `memoryview(payload).nbytes` of a buffer. -/
  | payloadLength
  /-- `bytes(payload)` -/
  | payloadBytes
  | afterSnapshot
  | beforeSend
  | clock
  /-- `getattr(self.transport, "endpoint", None)` -/
  | endpoint
  | lookup (requestId : String)
  /-- The transaction of `claim`. -/
  | claim (requestId fingerprint : String) (serialized : List Char)
  /-- The transaction of `finish`. -/
  | finish (requestId state : String) (details : Json) (serialized : List Char)
  /-- `uuid4().hex` -/
  | fresh
  | send (payload : Bytes) (intent : Json)

/-- Answers; `none` and `false` are exceptions. -/
@[reducible] def Answer : Effect → Type
  | .payloadLength => Option ℕ
  | .payloadBytes => Option Bytes
  | .clock => Option Json
  | .endpoint => Option Json
  | .lookup _ => Option (Option StoredRow)
  | .claim .. => Run (Option Row)
  | .finish .. => Run (Option Row)
  | .fresh => String
  | .send .. => Option Json
  | _ => Bool

abbrev Program (α : Type) : Type := Prog Effect Answer α

/-- `GateConfig` -/
structure GateConfig where
  endpoint : String
  route : Json
  gatewaySecret : String
  gatewayKeyId : String
  gatewayIssuer : String
  receiverPublic : String
  receiverKeyId : String

inductive Hook where
  | absent
  | callable
  | other
  deriving DecidableEq

/-- A gateway and the arguments of one `execute`. -/
structure Call where
  config : GateConfig
  package : Json
  trust : Json
  afterSnapshot : Hook
  beforeSend : Hook

/-- An effect that answers or raises. -/
def perform {α : Type} (e : Effect) (read : Answer e → Option α) : Program (Run α) :=
  .eff e fun r => .ret <| match read r with
    | some a => .ok a
    | none => .error .other

/-! ## Frames -/

/-- `value[k] = x` -/
def put (v : Json) (k : String) (x : Json) : Run Json :=
  match v with
  | .obj ms => .ok (.obj (insertKey k x ms))
  | _ => .error .type

/-- `value[k][l] = x` -/
def putIn (v : Json) (k l : String) (x : Json) : Run Json := do
  put v k (← put (← sub v k) l x)

/-- `value.update(other)` -/
def update (v w : Json) : Run Json :=
  match v, w with
  | .obj ms, .obj ns => .ok (.obj (insertAll ns ms))
  | _, _ => .error .other

/-- `value[k] = x` where `x` is given -/
def putGiven (set : Json → Json → Run Json) (v : Json) : Option Json → Run Json
  | some x => set v x
  | none => .ok v

section Execute
variable (pk : Packages) (assess : Json → Json → Run Json) (c : Call)

/-- `_frame` -/
def frame (package trust : Json) (subject operationAt asOf : Option Json) : Run (Json × Json) := do
  let package ← putGiven (fun v x => putIn v "target" "subject" x) package subject
  let package ← putGiven (fun v x => putIn v "target" "operation_at" x) package operationAt
  let package ← putGiven (fun v x => put v "as_of" x) package asOf
  let trust ← putGiven (fun v x => put v "as_of" x) trust asOf
  let trust ← put trust "target_sha256" (.str (← digest pk (← sub package "target")))
  return (package, trust)

/-- `value.get(k)` of a dictionary -/
def getMember (v : Json) (k : String) : Run Json :=
  match v with
  | .obj ms => .ok ((ms.lookup k).getD .null)
  | _ => .error .other

/-- `_allowed` -/
def allowed (assessment : Json) : Run Bool := do
  return (← getMember (← sub assessment "assessments") "transfer_authorization") = .str "ALLOW"

def contains (v x : Json) : Run Bool :=
  match v with
  | .arr xs => .ok (xs.contains x)
  | _ => .error .type

/-- `_key_authorized` -/
def keyAuthorized (config : GateConfig) (package trust at_ : Json) : Run Bool := do
  let key ← getMember (← sub trust "keys") config.gatewayKeyId
  if key = .null then return false
  if (← sub key "public_key") ≠ .str (← publicKey pk config.gatewaySecret) then return false
  if (← sub key "issuer") ≠ .str config.gatewayIssuer then return false
  if !(← contains (← sub key "roles") (.str "gateway")) then return false
  if (← getMember (← sub (← sub package "target") "authorities") "gateway") ≠ .str config.gatewayIssuer then return false
  let start ← timestamp (← sub key "not_before")
  let now ← timestamp at_
  if now < start then return false
  return now < (← timestamp (← sub key "not_after"))

/-! ## Reports -/

/-- The report of an execution; what is absent is `null`. -/
structure Report where
  state : String
  attempted : Bool
  reason : String
  payloadSha256 : String
  byteLength : ℕ
  journalState : String
  receipt : Json
  preflightEvidence : Json
  preflightTrust : Json
  preflightAssessment : Json
  evidence : Json
  trust : Json
  postflightAssessment : Json
  finalGateEvidence : Json
  finalGateTrust : Json
  finalGateAssessment : Json
  dispatchIntent : Json
  transportObservation : Json

@[irreducible] def Report.toJson (r : Report) : Json :=
  dict [("format", .str "upload-pilot-report/0.1"), ("state", .str r.state), ("attempted", .bool r.attempted),
    ("reason", .str r.reason), ("payload_sha256", .str r.payloadSha256), ("byte_length", .int r.byteLength),
    ("journal_state", .str r.journalState), ("receipt", r.receipt), ("preflight_evidence", r.preflightEvidence),
    ("preflight_trust", r.preflightTrust), ("preflight_assessment", r.preflightAssessment), ("evidence", r.evidence),
    ("trust", r.trust), ("postflight_assessment", r.postflightAssessment),
    ("final_gate_evidence", r.finalGateEvidence), ("final_gate_trust", r.finalGateTrust),
    ("final_gate_assessment", r.finalGateAssessment), ("dispatch_intent", r.dispatchIntent),
    ("transport_observation", r.transportObservation)]

/-- `_report` -/
def newReport (package trust assessment : Json) (payloadSha256 : String) (byteLength : ℕ) : Report where
  state := "BLOCKED_WITHOUT_ATTEMPT"
  attempted := false
  reason := "NOT_ADMITTED"
  payloadSha256
  byteLength
  journalState := "NOT_CLAIMED"
  receipt := .null
  preflightEvidence := package
  preflightTrust := trust
  preflightAssessment := assessment
  evidence := package
  trust
  postflightAssessment := assessment
  finalGateEvidence := .null
  finalGateTrust := .null
  finalGateAssessment := .null
  dispatchIntent := .null
  transportObservation := .null

/-! ## The journal -/

/-- `_validate_journal_row` -/
def validateJournalRow (row : Row) (requestId : Json) : Run Unit := do
  Incident.require (.str row.requestId = requestId && states.contains row.state)
    "Journal acknowledgement refers to another request or unknown state"
  let _ ← digestHex (.str row.fingerprint) 32
  Incident.require (row.snapshot.isDict && (row.details = .null || row.details.isDict))
    "Journal acknowledgement has malformed persisted material"

/-- The row under an identifier. -/
def selectRow (requestId : String) : Program (Run (Option Row)) :=
  (perform (.lookup requestId) fun r => r).andThen fun
    | none => .ret (.ok none)
    | some stored => .ret ((decodeRow pk requestId stored).map some)

/-- `Journal.get` -/
def get (requestId : Json) : Program (Run (Option Row)) :=
  (Prog.ret (identifier requestId)).andThen fun id => selectRow pk id

/-- `Journal.get` with `_validate_journal_row` of a row that is there. -/
def getValid (requestId : Json) : Program (Run (Option Row)) :=
  (get pk requestId).andThen fun
    | none => .ret (.ok none)
    | some row => .ret ((validateJournalRow row requestId).map fun _ => some row)

/-- `Journal.claim`: the row with its status. -/
def claimRow (requestId : Json) (fingerprint : String) (snapshot : Json) : Program (Run (String × Row)) :=
  (Prog.ret (identifier requestId)).andThen fun id =>
  (Prog.ret (checkFingerprint fingerprint)).andThen fun _ =>
  (Prog.ret (encoded pk snapshot)).andThen fun serialized =>
  Prog.andThen (.eff (.claim id fingerprint serialized) .ret) fun
    | some row => .ret (.ok (if row.fingerprint = fingerprint then "REPLAY" else "CONFLICT", row))
    | none =>
      (selectRow pk id).andThen fun
        | some row => .ret (.ok ("CLAIMED", row))
        | none => .ret (.error .other)

/-- `Journal.finish` -/
def finishRow (requestId : Json) (state : String) (details : Json) : Program (Run Row) :=
  (Prog.ret (identifier requestId)).andThen fun id =>
  (Prog.ret (Incident.require (states.contains state && state ≠ intent) "Invalid terminal journal result")).andThen fun _ =>
  (Prog.ret (encoded pk details)).andThen fun serialized =>
  Prog.andThen (.eff (.finish id state details serialized) .ret) fun
    | some row => .ret (.ok row)
    | none =>
      (selectRow pk id).andThen fun
        | some row => .ret (.ok row)
        | none => .ret (.error .other)

/-- `_journal_state` -/
def journalState (requestId : Json) : Program String := do
  match ← getValid pk requestId with
  | .ok none => return "NOT_CLAIMED"
  | .ok (some row) => return row.state
  | .error _ => return "UNAVAILABLE"

/-- What `_persist` checks of the row it gets back. -/
@[irreducible] def persisted (report : Report) (requestId : Json) (state : String) (row : Row) : Run Unit := do
  validateJournalRow row requestId
  let subject ← sub (← sub report.preflightEvidence "target") "subject"
  let fingerprint ← digest pk (dict [("evaluation_id", ← sub report.preflightEvidence "evaluation_id"),
    ("subject", subject), ("byte_length", .int report.byteLength)])
  ensure (row.state = state && row.fingerprint = fingerprint)
  ensure ((← digest pk row.details) = (← digest pk report.toJson))

/-- `_persist` -/
def persist (report : Report) (requestId : Json) (state : String) : Program Report := do
  let report := { report with journalState := state }
  match ← (finishRow pk requestId state report.toJson).andThen fun row => .ret (persisted pk report requestId state row) with
  | .ok _ => return report
  | .error _ =>
    let found ← journalState pk requestId
    return { report with
      state := "OUTCOME_UNKNOWN", reason := "JOURNAL_RESULT_PERSISTENCE_FAILED", receipt := .null, journalState := found }

/-- `_replay` -/
def replay (report : Report) (row : Row) (fingerprint : String) : Report :=
  if row.fingerprint ≠ fingerprint then
    { report with
      journalState := row.state, state := "REQUEST_ID_CONFLICT",
      reason := "REQUEST_ID_ALREADY_BOUND_TO_DIFFERENT_ACTION", receipt := .null }
  else
    { report with
      journalState := row.state, state := "REPLAY_NO_SEND",
      reason := "REQUEST_ALREADY_CLAIMED_RECEIPT_NOT_REASSERTED", receipt := .null }

/-! ## Observations -/

/-- `_clock` -/
def clock : Program (Run Json) :=
  (perform .clock fun r => r).andThen fun value => .ret ((timestamp value).map fun _ => value)

/-- `_clock` at a time not before an earlier one. -/
def clockAfter (earlier : Json) : Program (Run Json) :=
  clock.andThen fun now => .ret do
    Incident.require (!((← timestamp now) < (← timestamp earlier))) "Gateway clock regressed"
    return now

/-- The record of a dispatch that was completed. -/
def dispatchRecord (config : GateConfig) (package at_ dispatchedAt : Json) (fresh : String) : Run Json := do
  signRecord pk (dict [("record_id", .str ("actual-dispatch-" ++ fresh)), ("evaluation_id", ← sub package "evaluation_id"),
    ("kind", .str "transfer.dispatch"), ("issuer", .str config.gatewayIssuer), ("recorded_at", at_),
    ("binding", ← sub (← sub package "target") "subject"), ("data", dict [("dispatched_at", dispatchedAt)])])
    config.gatewaySecret config.gatewayKeyId

/-- `package["records"].append(record)` -/
def appendRecord (package record : Json) : Run Json := do
  match ← sub package "records" with
  | .arr records => put package "records" (.arr (records ++ [record]))
  | _ => .error .other

/-- `_postflight`; the report keeps its frame when the assessment raises. A completed dispatch is
    given with its time and a fresh identifier. -/
def postflight (report : Report) (at_ : Json) (dispatched : Option (Json × String)) : Report × Run Report :=
  let framed : Run (Json × Json) := do
    let (package, trust) ← frame pk report.preflightEvidence report.preflightTrust none none (some at_)
    match dispatched with
    | none => return (package, trust)
    | some (dispatchedAt, fresh) => return (← appendRecord package (← dispatchRecord pk c.config package at_ dispatchedAt fresh), trust)
  match framed with
  | .error e => (report, .error e)
  | .ok (package, trust) =>
    let report := { report with evidence := package, trust }
    (report, (assess package trust).map fun assessment => { report with postflightAssessment := assessment })

/-- `_transport_result` -/
def transportResult (value finalAt postAt : Json) : Run Json := do
  exactKeys value ["attempted", "body_send_completed", "attempted_at", "dispatched_at", "status", "receipt", "error"] []
  Incident.require (value.item "attempted" = .bool true && isBool (value.item "body_send_completed"))
    "Transport did not establish an attempt observation"
  let start ← timestamp finalAt
  let attempted ← timestamp (value.item "attempted_at")
  Incident.require (start ≤ attempted) "Transport attempt chronology is inconsistent"
  let stop ← timestamp postAt
  Incident.require (attempted ≤ stop) "Transport attempt chronology is inconsistent"
  if value.item "body_send_completed" = .bool true then
    let dispatched ← timestamp (value.item "dispatched_at")
    Incident.require (attempted ≤ dispatched && dispatched ≤ stop) "Transport body completion chronology is inconsistent"
  else
    Incident.require (value.item "dispatched_at" = .null) "Incomplete body send cannot establish dispatch completion time"
  Incident.require (value.item "status" = .null || isStatus 100 599 (value.item "status")) "Invalid transport status"
  Incident.require (value.item "error" = .null || isText (value.item "error")) "Invalid transport error classification"
  Incident.require (value.item "receipt" = .null || (value.item "receipt").isDict) "Invalid receipt envelope"
  return value
where
  isBool : Json → Bool
    | .bool _ => true
    | _ => false
  isText : Json → Bool
    | .str _ => true
    | _ => false
  isStatus (low high : ℤ) : Json → Bool
    | .int n => low ≤ n && n ≤ high
    | _ => false

def receiptFields : List String :=
  ["kind", "request_id", "subject_sha256", "payload_sha256", "byte_length", "received_at", "receipt_id"]

/-- `verify_receipt` -/
@[irreducible] def verifyReceipt (value subject : Json) (payloadSha256 length postAt : Json) (receiverPublic receiverKeyId : String) :
    Run Json := do
  Incident.require (value.isDict && ["body_send_completed", "status", "receipt", "attempted_at"].all fun k => (value.get? k).isSome)
    "Receipt verification requires a structured transport observation"
  Incident.require (subject.isDict && (subject.get? "request_id").isSome)
    "Receipt verification requires an independently supplied subject"
  let _ ← text (subject.item "request_id")
  let _ ← digestHex payloadSha256 32
  Incident.require (isByteLength length) "Measured byte length must be an integer within the payload limit"
  Incident.require (value.item "body_send_completed" = .bool true && transportResult.isStatus 200 299 (value.item "status"))
    "Transport did not establish a successful completed response"
  let body ← verifyControl pk (value.item "receipt") receiverPublic (.str receiverKeyId) "upload_receipt"
  exactKeys body receiptFields []
  let _ ← text (body.item "request_id")
  let _ ← text (body.item "receipt_id")
  let _ ← digestHex (body.item "subject_sha256") 32
  let _ ← digestHex (body.item "payload_sha256") 32
  Incident.require (isByteLength (body.item "byte_length")) "Receipt byte length must be an integer within the payload limit"
  Incident.require (body.item "request_id" = subject.item "request_id" && body.item "subject_sha256" = .str (← digest pk subject) &&
      body.item "payload_sha256" = payloadSha256 && body.item "byte_length" = length)
    "Receipt does not bind the actual request and measured bytes"
  let attempted ← timestamp (value.item "attempted_at")
  let received ← timestamp (body.item "received_at")
  Incident.require (attempted ≤ received) "Receipt chronology is inconsistent"
  Incident.require (received ≤ (← timestamp postAt)) "Receipt chronology is inconsistent"
  return value.item "receipt"

/-! ## `execute` -/

/-- What `execute` checks before it touches the payload. -/
def prepare : Run Unit := do
  let _ ← assess c.package c.trust
  let workflow ← sub c.package "workflow"
  let mode ← sub c.trust "mode"
  Incident.require (workflow = .str "transfer" && mode = .str "synthetic-test-only")
    "This local pilot accepts explicitly synthetic transfer evidence only"
  Incident.require (c.afterSnapshot ≠ .other && c.beforeSend ≠ .other) "Fault-injection hooks must be trusted callables"

/-- The payload as captured. -/
def capturePayload : Program (Run Bytes) :=
  .eff .payloadLength fun
    | none => .ret (inputError "Upload payload must be bytes, bytearray or memoryview")
    | some n =>
      (Prog.ret (Incident.require (n ≤ maxPayload) "Upload exceeds the 1 MiB pilot payload limit")).andThen fun _ =>
      perform .payloadBytes fun r => r

/-- Whether a hook that is given raised. -/
def hookFailed (h : Hook) (e : Effect) (failed : Answer e → Bool) : Program Bool :=
  if h = .callable then .eff e fun r => .ret (failed r) else .ret false

/-- The measured request and its assessment at admission. -/
structure Admission where
  captured : Bytes
  admittedAt : Json
  subject : Json
  actual : Json
  trust : Json
  preflight : Json

def Admission.payloadSha256 (a : Admission) : String := sha256Hex pk a.captured

def Admission.report (a : Admission) : Report :=
  newReport a.actual a.trust a.preflight (a.payloadSha256 pk) a.captured.length

def admission (captured : Bytes) (admittedAt : Json) : Run Admission := do
  let subject ← sub (← sub c.package "target") "subject"
  let subject ← update subject c.config.route
  let subject ← put subject "payload_sha256" (.str (sha256Hex pk captured))
  let (actual, trust) ← frame pk c.package c.trust (some subject) (some admittedAt) (some admittedAt)
  let preflight ← assess actual trust
  return { captured, admittedAt, subject, actual, trust, preflight }

def requestFingerprint (a : Admission) : Run String := do
  digest pk (dict [("evaluation_id", ← sub a.actual "evaluation_id"), ("subject", a.subject),
    ("byte_length", .int a.captured.length)])

/-- The signed intent and the snapshot that holds it. -/
@[irreducible] def intentOf (a : Admission) (requestId : Json) : Run (Json × Json) := do
  let subjectSha256 ← digest pk a.subject
  let intent ← signControl pk (dict [("kind", .str "dispatch_intent"), ("request_id", requestId),
    ("subject_sha256", .str subjectSha256), ("payload_sha256", .str (a.payloadSha256 pk)),
    ("byte_length", .int a.captured.length), ("created_at", a.admittedAt)]) c.config.gatewaySecret c.config.gatewayKeyId
  return (intent, dict [("format", .str "upload-pilot-intent/0.1"), ("request_id", requestId),
    ("subject_sha256", .str subjectSha256), ("payload_sha256", .str (a.payloadSha256 pk)),
    ("byte_length", .int a.captured.length), ("prepared_at", a.admittedAt), ("dispatch_intent", intent),
    ("evidence", a.actual), ("trust", a.trust), ("preflight_assessment", a.preflight)])

/-- What `execute` checks of the row that `claim` returns: a row to replay, or nothing. -/
def checkClaim (requestId : Json) (fingerprint : String) (snapshot : Json) (status : String) (row : Row) :
    Run (Option Row) := do
  validateJournalRow row requestId
  if status = "CLAIMED" then
    Incident.require (row.fingerprint = fingerprint && row.state = intent && row.details = .null &&
        (← digest pk row.snapshot) = (← digest pk snapshot))
      "Claim acknowledgement does not bind the committed owned intent"
    return none
  else
    Incident.require (["REPLAY", "CONFLICT"].contains status) "Claim acknowledgement is missing a supported disposition"
    Incident.require (status = if row.fingerprint = fingerprint then "REPLAY" else "CONFLICT")
      "Claim acknowledgement is inconsistent with its stored fingerprint"
    return some row

/-- The transport's endpoint against the pinned one. -/
def endpointPinned (config : GateConfig) : Program (Run Bool) :=
  (perform .endpoint fun r => r).andThen fun e => .ret (.ok (e = .str config.endpoint))

/-- The assessments at the last gate: the report with what was observed, and the time with the
    assessment at it, unless one raised. -/
def observeFinal (a : Admission) (report : Report) (finalAt : Json) : Report × Run (Json × Json) :=
  let assessed : Run (Json × Json × Json) := do
    let (package, trust) ← frame pk a.actual a.trust none (some finalAt) (some finalAt)
    return (package, trust, ← assess package trust)
  match assessed with
  | .error e => (report, .error e)
  | .ok (package, trust, assessment) =>
    let report := { report with
      finalGateEvidence := package, finalGateTrust := trust, finalGateAssessment := assessment }
    match postflight pk assess c report finalAt none with
    | (report, .error e) => (report, .error e)
    | (_, .ok report) => (report, .ok (finalAt, assessment))

/-- The last observation before the send. -/
def finalGate (a : Admission) (report : Report) : Program (Report × Run (Json × Json)) := do
  match ← clockAfter a.admittedAt with
  | .error e => return (report, .error e)
  | .ok finalAt => return observeFinal pk assess c a report finalAt

/-- `_postflight` outside a handler, and the persisted report. -/
def closeUnknown (report : Report) (requestId postAt : Json) (reason : String) : Program (Run Report) :=
  (Prog.ret (postflight pk assess c report postAt none).2).andThen fun report => do
    let report ← persist pk { report with reason } requestId "outcome_unknown"
    return .ok report

/-- The fields of an observation that the report keeps. -/
def observationFields : List String := ["attempted", "body_send_completed", "attempted_at", "dispatched_at", "status"]

/-- What a completed dispatch adds to the evidence. -/
def dispatchedOf (observed : Json) : Program (Option (Json × String)) :=
  if observed.item "body_send_completed" = .bool true then
    .eff .fresh fun fresh => .ret (some (observed.item "dispatched_at", fresh))
  else .ret none

/-- What follows an observation of the transport under an applicable key. -/
def confirm (a : Admission) (report : Report) (requestId observed postAt : Json) : Program (Run Report) := do
  let dispatched ← dispatchedOf observed
  (Prog.ret (postflight pk assess c report postAt dispatched).2).andThen fun report => do
    match verifyReceipt pk observed a.subject (.str (a.payloadSha256 pk)) (.int a.captured.length) postAt
        c.config.receiverPublic c.config.receiverKeyId with
    | .error _ =>
      let report ← persist pk { report with reason := "RECEIVER_RECEIPT_NOT_CONFIRMED" } requestId "outcome_unknown"
      return .ok report
    | .ok receipt =>
      let report ← persist pk { report with
        receipt, state := "RECEIPT_CONFIRMED", reason := "PINNED_RECEIVER_ATTESTED_MATCHING_BYTES" } requestId
        "receipt_confirmed"
      return .ok report

/-- What follows the send. -/
def afterSend (a : Admission) (report : Report) (requestId finalAt : Json) (response : Option Json) :
    Program (Run Report) := do
  let reason := if response.isNone then "TRANSPORT_EXCEPTION" else "RESPONSE_NOT_CONFIRMED"
  let report := { report with state := "OUTCOME_UNKNOWN", reason }
  match ← clockAfter finalAt with
  | .error _ =>
    let report ← persist pk { report with reason := "POSTFLIGHT_CLOCK_NOT_ESTABLISHED" } requestId "outcome_unknown"
    return .ok report
  | .ok postAt =>
    match response with
    | none => closeUnknown pk assess c report requestId postAt "TRANSPORT_EXCEPTION"
    | some response =>
      match transportResult response finalAt postAt with
      | .error _ => closeUnknown pk assess c report requestId postAt "TRANSPORT_OBSERVATION_NOT_ESTABLISHED"
      | .ok observed =>
        let report := { report with transportObservation := pick observationFields observed }
        (Prog.ret (keyAuthorized pk c.config a.actual a.trust postAt)).andThen fun authorized =>
        if authorized then confirm pk assess c a report requestId observed postAt
        else closeUnknown pk assess c report requestId postAt "GATEWAY_KEY_NOT_AUTHORIZED_AT_POSTFLIGHT"

/-- A refusal after the claim. -/
def blockAfter (report : Report) (requestId : Json) (reason : String) : Program (Run Report) := do
  let report ← persist pk { report with reason } requestId "blocked_after_intent"
  return .ok report

/-- From the claim on. -/
def claimed (a : Admission) (report : Report) (requestId intent_ : Json) : Program (Run Report) := do
  let report := { report with journalState := intent }
  let failed ← hookFailed c.beforeSend .beforeSend not
  let (report, gate) ← finalGate pk assess c a report
  match gate with
  | .error _ => blockAfter pk report requestId "FINAL_GATE_OBSERVATION_NOT_ESTABLISHED"
  | .ok (finalAt, assessment) =>
    if failed then blockAfter pk report requestId "TRUSTED_BEFORE_SEND_HOOK_FAILED"
    else
      (Prog.ret (allowed assessment)).andThen fun permitted =>
      if !permitted then blockAfter pk report requestId "FINAL_ASSESSOR_RECHECK_DID_NOT_ALLOW"
      else
        (Prog.ret (keyAuthorized pk c.config a.actual a.trust finalAt)).andThen fun authorized =>
        if !authorized then blockAfter pk report requestId "GATEWAY_KEY_NOT_AUTHORIZED_AT_SEND"
        else
          (endpointPinned c.config).andThen fun pinned =>
          if !pinned then blockAfter pk report requestId "TRANSPORT_ENDPOINT_CHANGED"
          else
            .eff (.send a.captured intent_) fun response =>
              afterSend pk assess c a { report with attempted := true } requestId finalAt response

/-- From an admission that was allowed on. -/
def claim (a : Admission) (report : Report) (requestId : Json) (fingerprint : String) : Program (Run Report) :=
  (Prog.ret (intentOf pk c a requestId)).andThen fun (intent_, snapshot) => do
    let report := { report with dispatchIntent := intent_ }
    match ← claimRow pk requestId fingerprint snapshot with
    | .error _ =>
      let found ← journalState pk requestId
      return .ok { report with reason := "JOURNAL_INTENT_COMMIT_NOT_ESTABLISHED", journalState := found }
    | .ok (status, row) =>
      match checkClaim pk requestId fingerprint snapshot status row with
      | .error _ =>
        let found ← journalState pk requestId
        return .ok { report with
          reason := "JOURNAL_CLAIM_ACKNOWLEDGEMENT_NOT_ESTABLISHED", journalState := found }
      | .ok (some row) => return .ok (replay report row fingerprint)
      | .ok none => claimed pk assess c a report requestId intent_

/-- From the admission on. -/
def admitted (a : Admission) (snapshotHookFailed : Bool) : Program (Run Report) :=
  let report := a.report pk
  if snapshotHookFailed then .ret (.ok { report with reason := "TRUSTED_SNAPSHOT_HOOK_FAILED" })
  else
    (Prog.ret (sub a.subject "request_id")).andThen fun requestId =>
    (Prog.ret (requestFingerprint pk a)).andThen fun fingerprint => do
      match ← getValid pk requestId with
      | .error _ =>
        return .ok { report with reason := "JOURNAL_UNAVAILABLE_BEFORE_CLAIM", journalState := "UNAVAILABLE" }
      | .ok (some row) => return .ok (replay report row fingerprint)
      | .ok none =>
        (Prog.ret (allowed a.preflight)).andThen fun permitted =>
        if !permitted then .ret (.ok { report with reason := "ASSESSOR_DID_NOT_ALLOW_MEASURED_TARGET" })
        else
          (Prog.ret (keyAuthorized pk c.config a.actual a.trust a.admittedAt)).andThen fun authorized =>
          if !authorized then .ret (.ok { report with reason := "CONFIGURED_GATEWAY_KEY_NOT_AUTHORIZED" })
          else
            (endpointPinned c.config).andThen fun pinned =>
            if !pinned then .ret (.ok { report with reason := "TRANSPORT_ENDPOINT_CHANGED" })
            else claim pk assess c a report requestId fingerprint

/-- `execute` -/
def execute : Program (Run Report) :=
  (Prog.ret (prepare assess c)).andThen fun _ =>
  capturePayload.andThen fun captured => do
    let snapshotHookFailed ← hookFailed c.afterSnapshot .afterSnapshot not
    clock.andThen fun admittedAt =>
      (Prog.ret (admission pk assess c captured admittedAt)).andThen fun a => admitted pk assess c a snapshotHookFailed

end Execute
end VapEvidence.Upload

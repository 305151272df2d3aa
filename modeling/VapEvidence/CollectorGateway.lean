import VapEvidence.CollectorMessages
import VapEvidence.UploadGateway

set_option autoImplicit false

/-!
# The collector gateway

`CollectorGateway.execute` and `reconcile` as programs over the effects of an upload
and those of a collector. The assessor is a parameter; no result rests on what it
computes.
-/
namespace VapEvidence.Collector
open Json Incident Interleaving

/-! ## Effects -/

inductive Effect where
  | upload (e : Upload.Effect)
  | beforeFinalCheck
  /-- `getattr(self.collector, "endpoint", None)` -/
  | collectorEndpoint
  /-- `secrets.token_hex(32)` -/
  | nonce
  | collect (intent : Json)
  | status (query : Json)

/-- Answers; `none` and `false` are exceptions. -/
@[reducible] def Answer : Effect → Type
  | .upload e => Upload.Answer e
  | .beforeFinalCheck => Bool
  | .nonce => String
  | _ => Option Json

abbrev Program (α : Type) : Type := Prog Effect Answer α

/-- An operation of the upload pilot. -/
def uploading {α : Type} (p : Upload.Program α) : Program α := @Prog.lift _ _ _ Answer Effect.upload p

/-- A trusted configuration and the pins of one gateway. -/
structure Gateway where
  config : Upload.GateConfig
  collectorId : String
  collectorPublic : String
  collectorKeyId : String
  collectorEndpoint : String

/-- An effect that answers or raises. -/
def perform (e : Effect) (read : Answer e → Option Json) : Program (Run Json) :=
  .eff e fun r => .ret <| match read r with
    | some a => .ok a
    | none => .error .other

/-- `_identifier` -/
def identifier (value : Json) : Run String := do
  let s ← text value
  Incident.require (s.length ≤ 256) "Collector identifiers exceed the experiment limit"
  return s

/-! ## Frames -/

structure Frame where
  evidence : Json
  trust : Json
  assessment : Json

def Frame.toJson (f : Frame) : Json :=
  dict [("evidence", f.evidence), ("trust", f.trust), ("assessment", f.assessment)]

/-- The frame of a snapshot. -/
def admissionOf (snapshot : Json) : Frame :=
  ⟨(snapshot.item "admission").item "evidence", (snapshot.item "admission").item "trust",
    (snapshot.item "admission").item "assessment"⟩

/-- The operation moved to a time, where it is. -/
def operateAt (package at_ : Json) : Bool → Run Json
  | true => Upload.putIn package "target" "operation_at" at_
  | false => .ok package

/-- A record appended to a frame, where one is given. -/
def appendGiven (package : Json) : Option Json → Run Json
  | some record => Upload.appendRecord package record
  | none => .ok package

section Gateway
variable (pk : Packages) (assess : Json → Json → Run Json) (g : Gateway)

/-- `_frame` -/
@[irreducible] def frame (package trust at_ : Json) (operation : Bool) (health dispatch : Option Json) : Run Frame := do
  let package ← operateAt package at_ operation
  let package ← Upload.put package "as_of" at_
  let trust ← Upload.put trust "as_of" at_
  let package ← appendGiven package health
  let package ← appendGiven package dispatch
  let trust ← Upload.put trust "target_sha256" (.str (← digest pk (← sub package "target")))
  return ⟨package, trust, ← assess package trust⟩

/-- `for item in value` -/
def elements : Json → Run (List Json)
  | .arr xs => .ok xs
  | _ => .error .type

def refused {α : Type} : Run α := inputError "Current policy and permit do not authorize this measured target"

/-- `value[k] != expected` raises. -/
def expect (v : Json) (k expected : String) : Run Unit := do
  if (← sub v k) = .str expected then return () else refused

/-- The last of the items whose body has a kind. -/
def lastOfKind (items : List Json) (kind : String) : Option Json :=
  (items.filter fun r => (r.item "body").item "kind" = .str kind).getLast?

/-- The records that a finding names. -/
def selectRecords (records : List Json) (finding : Json) : Run (List Json) :=
  records.filterM fun r => do
    let id ← sub (← sub r "body") "record_id"
    return (← elements (← sub finding "record_ids")).any fun x => x.pyEq id

/-- `item["body"]["kind"]` as a member of a set. -/
def kindOf (item : Json) : Run Json := do
  match ← sub (← sub item "body") "kind" with
  | .arr _ | .obj _ => .error .type
  | kind => return kind

def isTransferKind (kind : Json) : Bool := kind = .str "transfer.policy" || kind = .str "transfer.decision"

/-- `_authorization` -/
@[irreducible] def authorization (f : Frame) (pending : Bool) : Run (Json × Json) := do
  let result ← sub f.assessment "assessments"
  let expected := if pending then "REVIEW" else "ALLOW"
  expect f.assessment "evidence_integrity" "VERIFIED_UNDER_EVALUATOR_TRUST"
  expect result "transfer_authorization" expected
  expect result "proposed_transfer_authorization" expected
  expect result "binding_assessment" "MATCH"
  expect result "policy_binding" "CURRENT_CONTENT_BOUND"
  expect result "collector_health" (if pending then "UNKNOWN" else "AVAILABLE_WITH_DURABLE_ACKNOWLEDGEMENT")
  let findings ← (← elements (← sub f.assessment "findings")).filterM fun item => do
    return (← sub item "code") = .str "TRANSFER_CURRENT_POLICY_AND_PERMIT_BIND_TARGET"
  match findings with
  | [finding] => do
    let selected ← selectRecords (← elements (← sub f.evidence "records")) finding
    Incident.require ((← selected.mapM kindOf).all isTransferKind) "Selected authorization evidence is incomplete"
    match lastOfKind selected "transfer.policy", lastOfKind selected "transfer.decision" with
    | some policy, some decision => do
      Incident.require ((← sub (← sub (← sub policy "body") "data") "require_collector") = .bool true)
        "This experiment requires a collector in the signed policy"
      Incident.require ((← sub (← sub (← sub decision "body") "data") "decision") = .str "permit")
        "This experiment requires a bound permit"
      return (policy, decision)
    | _, _ => inputError "Selected authorization evidence is incomplete"
  | _ => inputError "The assessor did not select one current policy and permit"

/-- `_key_authorized` -/
def keyAuthorized (f : Frame) (at_ : Json) : Run Bool := Upload.keyAuthorized pk g.config f.evidence f.trust at_

/-- `_pins` -/
def pins : Run Json := do
  return dict [("collector_id", .str g.collectorId), ("collector_endpoint", .str g.collectorEndpoint),
    ("collector_public", .str g.collectorPublic), ("collector_key_id", .str g.collectorKeyId),
    ("gateway_public", .str (← publicKey pk g.config.gatewaySecret)), ("gateway_key_id", .str g.config.gatewayKeyId),
    ("gateway_issuer", .str g.config.gatewayIssuer), ("receiver_public", .str g.config.receiverPublic),
    ("receiver_key_id", .str g.config.receiverKeyId), ("endpoint", .str g.config.endpoint), ("route", g.config.route)]

/-- `["target"]["subject"]` -/
def subjectOf (package : Json) : Run Json := do sub (← sub package "target") "subject"

/-- `_fingerprint` -/
def fingerprintOf (f : Frame) (length : Json) : Run String := do
  digest pk (dict [("evaluation_id", ← sub f.evidence "evaluation_id"), ("subject", ← subjectOf f.evidence),
    ("byte_length", length), ("pins", ← pins pk g)])

/-! ## Reports -/

/-- The report of an execution; what is absent is `null`. -/
structure Report where
  state : String
  attempted : Bool
  reason : String
  payloadSha256 : String
  byteLength : ℕ
  journalState : String
  collectorOutcome : String
  admission : Frame
  final : Option Frame
  postflight : Frame
  collectionIntent : Json
  collectionExchange : Json
  collectionReceipt : Json
  statusQuery : Json
  statusExchange : Json
  collectionStatus : Json
  dispatchIntent : Json
  payloadTransport : Json
  payloadReceipt : Json

@[irreducible] def Report.toJson (r : Report) : Json :=
  dict [("format", .str "collector-pilot-report/0.1"), ("state", .str r.state), ("attempted", .bool r.attempted),
    ("reason", .str r.reason), ("payload_sha256", .str r.payloadSha256), ("byte_length", .int r.byteLength),
    ("journal_state", .str r.journalState), ("collector_outcome", .str r.collectorOutcome),
    ("admission", r.admission.toJson), ("final", (r.final.map Frame.toJson).getD .null),
    ("postflight", r.postflight.toJson), ("collection_intent", r.collectionIntent),
    ("collection_exchange", r.collectionExchange), ("collection_receipt", r.collectionReceipt),
    ("status_query", r.statusQuery), ("status_exchange", r.statusExchange), ("collection_status", r.collectionStatus),
    ("dispatch_intent", r.dispatchIntent), ("payload_transport", r.payloadTransport), ("payload_receipt", r.payloadReceipt)]

/-- `_report` -/
def newReport (admission : Frame) (payloadSha256 : String) (byteLength : ℕ) : Report where
  state := "BLOCKED_WITHOUT_ATTEMPT"
  attempted := false
  reason := "NOT_ADMITTED"
  payloadSha256
  byteLength
  journalState := "NOT_CLAIMED"
  collectorOutcome := "NOT_CONTACTED"
  admission
  final := none
  postflight := admission
  collectionIntent := .null
  collectionExchange := .null
  collectionReceipt := .null
  statusQuery := .null
  statusExchange := .null
  collectionStatus := .null
  dispatchIntent := .null
  payloadTransport := .null
  payloadReceipt := .null

/-- `_snapshot` -/
@[irreducible] def snapshotOf (r : Report) (preparedAt : Json) : Run Json := do
  return dict [("format", .str "collector-pilot-intent/0.1"),
    ("request_id", ← sub (← subjectOf r.admission.evidence) "request_id"), ("payload_sha256", .str r.payloadSha256),
    ("byte_length", .int r.byteLength), ("prepared_at", preparedAt), ("pins", ← pins pk g),
    ("admission", r.admission.toJson), ("collection_intent", r.collectionIntent), ("dispatch_intent", r.dispatchIntent)]

/-! ## Intents -/

/-- `_input` -/
def checkInput (package trust : Json) : Run Unit := do
  let workflow ← sub package "workflow"
  Incident.require (workflow = .str "transfer" && (← sub trust "mode") = .str "synthetic-test-only")
    "Only explicitly synthetic transfer contexts are supported"
  (← elements (← sub package "records")).forM fun item => do
    Incident.require (isTransferKind (← kindOf item)) "Initial inputs may contain policy and decision records only"

/-- `_intent_body` -/
def intentBody (f : Frame) (length decision at_ : Json) : Run Json := do
  let subject ← subjectOf f.evidence
  let requestId ← sub subject "request_id"
  return dict [("kind", .str "collection_intent"), ("collector_id", .str g.collectorId),
    ("collection_id", .str (← collectionId pk (.str g.collectorId) requestId)), ("request_id", requestId),
    ("evaluation_id", ← sub f.evidence "evaluation_id"), ("subject_sha256", .str (← digest pk subject)),
    ("payload_sha256", ← sub subject "payload_sha256"), ("byte_length", length),
    ("policy_sha256", ← sub subject "policy_sha256"), ("decision_sha256", .str (← digest pk decision)),
    ("created_at", at_)]

/-- `_dispatch_body` -/
def dispatchBody (subject length at_ : Json) : Run Json := do
  return dict [("kind", .str "dispatch_intent"), ("request_id", ← sub subject "request_id"),
    ("subject_sha256", .str (← digest pk subject)), ("payload_sha256", ← sub subject "payload_sha256"),
    ("byte_length", length), ("created_at", at_)]

/-- `_query` -/
def queryOf (intent at_ : Json) (nonce : String) : Run Json := do
  let body ← sub intent "body"
  signControl pk (dict [("kind", .str "collection_query"), ("collector_id", .str g.collectorId),
    ("collection_id", ← sub body "collection_id"), ("request_id", ← sub body "request_id"),
    ("request_sha256", .str (← digest pk intent)), ("nonce", .str nonce), ("created_at", at_)])
    g.config.gatewaySecret g.config.gatewayKeyId

/-! ## Rows -/

/-- A row of the journal as the gateway reads it back. -/
structure OwnedRow where
  fingerprint : String
  state : String
  snapshot : Json
  details : Json
  claimStatus : Json

/-- A row that the journal returns, with the status of a claim. -/
def rowJson (row : Upload.Row) (status : Option String) : Json :=
  dict ([("request_id", .str row.requestId), ("fingerprint", .str row.fingerprint), ("state", .str row.state),
    ("snapshot", row.snapshot), ("details", row.details)] ++ (status.map fun s => ("claim_status", .str s)).toList)

/-- What a row's snapshot must bind. -/
def checkSnapshot (snapshot : Json) (requestId fingerprint : String) : Run Unit := do
  exactKeys snapshot ["format", "request_id", "payload_sha256", "byte_length", "prepared_at", "pins", "admission",
    "collection_intent", "dispatch_intent"] []
  Incident.require (snapshot.item "format" = .str "collector-pilot-intent/0.1" && snapshot.item "request_id" = .str requestId &&
    (snapshot.item "pins").pyEq (← pins pk g)) "Journal snapshot does not match the independently configured pins"
  let length := snapshot.item "byte_length"
  Incident.require (Upload.isByteLength length) "Journal payload length is invalid"
  let _ ← digestHex (snapshot.item "payload_sha256") 32
  exactKeys (snapshot.item "admission") ["evidence", "trust", "assessment"] []
  let f := admissionOf snapshot
  let preparedAt := snapshot.item "prepared_at"
  let actual ← assess f.evidence f.trust
  Incident.require ((← digest pk actual) = (← digest pk f.assessment)) "Journal admission assessment does not reproduce"
  checkInput f.evidence f.trust
  let (_, decision) ← authorization f true
  let subject ← subjectOf f.evidence
  Incident.require ((← sub subject "request_id") = .str requestId &&
    (← sub subject "payload_sha256").pyEq (snapshot.item "payload_sha256") &&
    (← g.config.route.members.allM fun m => do return (← sub subject m.1).pyEq m.2) &&
    (← sub (← sub f.evidence "target") "operation_at").pyEq preparedAt && (← sub f.evidence "as_of").pyEq preparedAt &&
    (← keyAuthorized pk g f preparedAt) && (← fingerprintOf pk g f length) = fingerprint)
    "Journal measured target or authorization is inconsistent"
  let public_ ← publicKey pk g.config.gatewaySecret
  let intent ← validateIntent pk
    (← verifyControl pk (snapshot.item "collection_intent") public_ g.config.gatewayKeyId "collection_intent")
  Incident.require (intent.pyEq (← intentBody pk g f length decision preparedAt))
    "Journal collection intent does not bind its owned snapshot"
  let dispatch ← Upload.verifyControl pk (snapshot.item "dispatch_intent") public_ (.str g.config.gatewayKeyId) "dispatch_intent"
  Incident.require (dispatch.pyEq (← dispatchBody pk subject length preparedAt))
    "Journal payload intent does not bind its owned snapshot"

/-- `_row` -/
@[irreducible] def ownedRow (value : Json) (requestId : String) : Run OwnedRow := do
  let row ← capture pk value
  exactKeys row ["request_id", "fingerprint", "state", "snapshot", "details"] ["claim_status"]
  Incident.require (row.item "request_id" = .str requestId && Upload.states.contains (textOf (row.item "state")))
    "Journal row has another identity or unsupported state"
  let fingerprint ← digestHex (row.item "fingerprint") 32
  Incident.require (row.item "details" = .null || (row.item "details").isDict) "Journal details are malformed"
  checkSnapshot pk assess g (row.item "snapshot") requestId fingerprint
  return ⟨fingerprint, textOf (row.item "state"), row.item "snapshot", row.item "details", row.item "claim_status"⟩

/-! ## The journal -/

/-- `self.journal.get` with `_row` of a row that is there. -/
def getOwned (requestId : String) : Program (Run (Option OwnedRow)) :=
  (uploading (Upload.get pk (.str requestId))).andThen fun
    | none => .ret (.ok none)
    | some row => .ret ((ownedRow pk assess g (rowJson row none) requestId).map some)

/-- `_journal_state` -/
def journalState (requestId : String) : Program String := do
  match ← getOwned pk assess g requestId with
  | .ok none => return "NOT_CLAIMED"
  | .ok (some row) => return row.state
  | .error _ => return "UNAVAILABLE"

/-- What `_persist` checks of the row it gets back. -/
@[irreducible] def persisted (report : Report) (requestId state : String) (row : Upload.Row) : Run Unit := do
  let row ← ownedRow pk assess g (rowJson row none) requestId
  Incident.require (row.state = state && row.fingerprint = (← fingerprintOf pk g report.admission (.int report.byteLength)) &&
    (← digest pk row.details) = (← digest pk report.toJson))
    "Journal result acknowledgement differs from the owned report"

/-- `_persist` -/
def persist (report : Report) (requestId state : String) : Program Report := do
  let report := { report with journalState := state }
  match ← (uploading (Upload.finishRow pk (.str requestId) state report.toJson)).andThen fun row =>
      .ret (persisted pk assess g report requestId state row) with
  | .ok _ => return report
  | .error _ =>
    let found ← journalState pk assess g requestId
    return { report with
      state := "OUTCOME_UNKNOWN", reason := "JOURNAL_RESULT_PERSISTENCE_FAILED", payloadReceipt := .null, journalState := found }

/-- `_replay` -/
def replay (report : Report) (row : OwnedRow) (fingerprint : String) : Report :=
  if row.fingerprint ≠ fingerprint then
    { report with
      journalState := row.state, state := "REQUEST_ID_CONFLICT", reason := "REQUEST_ID_ALREADY_BOUND_TO_DIFFERENT_ACTION" }
  else { report with journalState := row.state, state := "REPLAY_NO_SEND", reason := "REQUEST_ALREADY_CLAIMED" }

/-! ## Observations -/

/-- The signed record of a check of the collector; a check is its availability and its
    acknowledgement. -/
def healthRecord (f : Frame) (at_ : Json) (health : Bool × Bool) (fresh : String) : Run Json := do
  Upload.signRecord pk (dict [("record_id", .str ("collector-check-" ++ fresh)), ("kind", .str "transfer.collector_health"),
    ("evaluation_id", ← sub f.evidence "evaluation_id"), ("issuer", .str g.config.gatewayIssuer), ("recorded_at", at_),
    ("binding", ← subjectOf f.evidence),
    ("data", dict [("checked_at", at_), ("available", .bool health.1), ("durable_acknowledged", .bool health.2)])])
    g.config.gatewaySecret g.config.gatewayKeyId

/-- `_health` -/
def healthOf (f : Frame) (at_ : Json) : Option (Bool × Bool) → Program (Run (Option Json))
  | none => .ret (.ok none)
  | some health =>
    (Prog.ret (keyAuthorized pk g f at_)).andThen fun authorized =>
    if authorized then .eff (.upload .fresh) fun fresh => .ret ((healthRecord pk g f at_ health fresh).map some)
    else .ret (.ok none)

/-- `_set_final` -/
def setFinal (report : Report) (at_ : Json) (health : Option (Bool × Bool)) : Program (Run Report) :=
  (healthOf pk g report.admission at_ health).andThen fun record => .ret do
    let f ← frame pk assess report.admission.evidence report.admission.trust at_ true record none
    return { report with final := some f, postflight := f }

/-- `_block` without a time. -/
def block (report : Report) (requestId reason : String) : Program (Run Report) := do
  let report ← persist pk assess g { report with reason } requestId "blocked_after_intent"
  return .ok report

/-- `_block` at a time. -/
def blockAt (report : Report) (requestId reason : String) (at_ : Json) (health : Option (Bool × Bool)) :
    Program (Run Report) := do
  match ← setFinal pk assess g report at_ health with
  | .ok report => block pk assess g report requestId reason
  | .error _ => block pk assess g report requestId "FINAL_GATE_OBSERVATION_NOT_ESTABLISHED"

/-- `_collector_pinned` -/
def collectorPinned : Program (Run Bool) :=
  (perform .collectorEndpoint fun r => r).andThen fun e => .ret (.ok (e = .str g.collectorEndpoint))

/-- Whether the transport and the collector still have their pinned endpoints. -/
def endpointsPinned : Program (Run Bool) :=
  (uploading (Upload.endpointPinned g.config)).andThen fun pinned =>
  if pinned then collectorPinned g else .ret (.ok false)

def clockAfter (earlier : Json) : Program (Run Json) := uploading (Upload.clockAfter earlier)

def isStatus : Json → Bool
  | .int n => 100 ≤ n && n ≤ 599
  | _ => false

/-- `_exchange` -/
@[irreducible] def exchange (value requestAt observedAt : Json) : Run Json := do
  let value ← capture pk value
  exactKeys value ["attempted", "attempted_at", "completed_at", "status", "response", "error"] []
  Incident.require (value.item "attempted" = .bool true) "Collector exchange did not establish an attempted RPC"
  let requested ← timestamp requestAt
  let attempted ← timestamp (value.item "attempted_at")
  Incident.require (requested ≤ attempted) "Collector exchange chronology is inconsistent"
  let completed ← timestamp (value.item "completed_at")
  Incident.require (attempted ≤ completed) "Collector exchange chronology is inconsistent"
  Incident.require (completed ≤ (← timestamp observedAt)) "Collector exchange chronology is inconsistent"
  Incident.require (value.item "status" = .null || isStatus (value.item "status")) "Collector exchange status is invalid"
  Incident.require (value.item "response" = .null || (value.item "response").isDict) "Collector response is not an envelope object"
  if value.item "error" ≠ .null then
    let _ ← identifier (value.item "error")
    return value
  else return value

/-- `_response_usable` -/
def responseUsable (exchange : Json) : Bool :=
  exchange.item "error" = .null && Upload.transportResult.isStatus 200 299 (exchange.item "status") &&
    exchange.item "response" ≠ .null

/-- `_failed_check` -/
def failedCheck (exchange : Json) : Option (Bool × Bool) :=
  if exchange.item "response" = .null then some (false, false) else none

/-- A call to the pinned collector: the exchange and the time after it. -/
def rpc (call : Program (Run Json)) (requestAt : Json) : Program (Run (Json × Json)) :=
  (collectorPinned g).andThen fun pinned =>
  if !pinned then .ret (inputError "Collector endpoint changed")
  else
    call.andThen fun raw =>
    (clockAfter requestAt).andThen fun observedAt =>
      .ret ((exchange pk raw requestAt observedAt).map fun value => (value, observedAt))

/-- `_transport_observation` -/
@[irreducible] def transportObservation (value finalAt postAt : Json) : Run Json := do
  let value ← capture pk value
  exactKeys value ["attempted", "body_send_completed", "attempted_at", "dispatched_at", "status", "receipt", "error"] []
  Incident.require (value.item "attempted" = .bool true && Upload.transportResult.isBool (value.item "body_send_completed"))
    "Payload transport did not establish an attempt"
  let start ← timestamp finalAt
  let attempted ← timestamp (value.item "attempted_at")
  Incident.require (start ≤ attempted) "Payload attempt chronology is inconsistent"
  let stop ← timestamp postAt
  Incident.require (attempted ≤ stop) "Payload attempt chronology is inconsistent"
  if value.item "body_send_completed" = .bool true then
    let dispatched ← timestamp (value.item "dispatched_at")
    Incident.require (attempted ≤ dispatched && dispatched ≤ stop) "Payload completion chronology is inconsistent"
  else Incident.require (value.item "dispatched_at" = .null) "An incomplete payload send has no completion timestamp"
  Incident.require (value.item "status" = .null || isStatus (value.item "status")) "Payload transport status is invalid"
  Incident.require (value.item "receipt" = .null || (value.item "receipt").isDict) "Payload receipt must be an envelope object"
  if value.item "error" ≠ .null then
    let _ ← identifier (value.item "error")
    return value
  else return value

/-- `_postflight` -/
def postflight (report : Report) (final : Frame) (at_ : Json) (dispatched : Option (Json × String)) : Run Report := do
  let dispatch ← match dispatched with
    | none => .ok none
    | some (dispatchedAt, fresh) =>
      (Upload.dispatchRecord pk g.config final.evidence at_ dispatchedAt fresh).map some
  return { report with postflight := ← frame pk assess final.evidence final.trust at_ false none dispatch }

end Gateway

/-! ## `execute` -/

/-- A gateway and the arguments of one `execute`. -/
structure Call where
  gateway : Gateway
  package : Json
  trust : Json
  beforeFinalCheck : Upload.Hook

/-- The measured request at admission. -/
structure Admission where
  captured : Bytes
  at_ : Json
  subject : Json
  requestId : String
  frame : Frame

section Execute
variable (pk : Packages) (assess : Json → Json → Run Json) (c : Call)

def Admission.payloadSha256 (a : Admission) : String := sha256Hex pk a.captured

/-- What `execute` checks before it touches the payload: the captured package and trust. -/
@[irreducible] def prepare : Run (Json × Json) := do
  let package ← capture pk c.package
  let trust ← capture pk c.trust
  let _ ← assess package trust
  checkInput package trust
  Incident.require (c.beforeFinalCheck ≠ .other) "The fault hook must be a trusted callable"
  return (package, trust)

/-- The payload as captured. -/
def capturePayload : Program (Run Bytes) :=
  .eff (.upload .payloadLength) fun
    | none => .ret (inputError "Payload must be bounded bytes")
    | some n =>
      (Prog.ret (Incident.require (n ≤ Upload.maxPayload) "Payload must be bounded bytes")).andThen fun _ =>
      .eff (.upload .payloadBytes) fun
        | some captured => .ret (.ok captured)
        | none => .ret (.error .other)

@[irreducible] def admission (package trust : Json) (captured : Bytes) (at_ : Json) : Run Admission := do
  let subject ← subjectOf package
  let subject ← Upload.update subject c.gateway.config.route
  let subject ← Upload.put subject "payload_sha256" (.str (sha256Hex pk captured))
  let package ← Upload.putIn package "target" "subject" subject
  let requestId ← identifier (← sub subject "request_id")
  return { captured, at_, subject, requestId, frame := ← frame pk assess package trust at_ true none none }

def Admission.report (a : Admission) : Report := newReport a.frame (a.payloadSha256 pk) a.captured.length

/-- The intents of a request with the snapshot that holds them: the body to be collected, the two
    signed intents, the snapshot. -/
structure Intents where
  body : Json
  collection : Json
  dispatch : Json
  snapshot : Json

@[irreducible] def intentsOf (a : Admission) (decision : Json) : Run Intents := do
  let length : Json := .int a.captured.length
  let body ← validateIntent pk (← intentBody pk c.gateway a.frame length decision a.at_)
  let collection ← signControl pk body c.gateway.config.gatewaySecret c.gateway.config.gatewayKeyId
  let dispatch ← Upload.signControl pk (← dispatchBody pk a.subject length a.at_)
    c.gateway.config.gatewaySecret c.gateway.config.gatewayKeyId
  let report := { a.report pk with collectionIntent := collection, dispatchIntent := dispatch }
  return ⟨body, collection, dispatch, ← snapshotOf pk c.gateway report a.at_⟩

/-- What `execute` checks of the row that `claim` returns: a row to replay, or nothing. -/
@[irreducible] def checkClaim (requestId fingerprint : String) (snapshot : Json) (status : String) (row : Upload.Row) :
    Run (Option OwnedRow) := do
  let row ← ownedRow pk assess c.gateway (rowJson row (some status)) requestId
  if row.claimStatus = .str "CLAIMED" then
    Incident.require (row.fingerprint = fingerprint && row.state = Upload.intent && row.details = .null &&
      (← digest pk row.snapshot) = (← digest pk snapshot)) "Journal claim does not acknowledge the owned intent"
    return none
  else
    Incident.require (row.claimStatus = .str "REPLAY" || row.claimStatus = .str "CONFLICT") "Journal claim disposition is unsupported"
    Incident.require (row.claimStatus = .str (if row.fingerprint = fingerprint then "REPLAY" else "CONFLICT"))
      "Journal claim disposition contradicts its fingerprint"
    return some row

/-- The report of a send that is not confirmed. -/
def unknown (report : Report) (requestId reason : String) : Program (Run Report) := do
  let report ← persist pk assess c.gateway { report with reason } requestId "outcome_unknown"
  return .ok report

/-- What a completed dispatch adds to the evidence. -/
def dispatchedOf (observed : Json) : Program (Option (Json × String)) := uploading (Upload.dispatchedOf observed)

/-- What follows an observation of the transport under an applicable key. -/
def confirm (a : Admission) (report : Report) (final : Frame) (observed postAt : Json) : Program (Run Report) := do
  let dispatched ← dispatchedOf observed
  (Prog.ret (postflight pk assess c.gateway report final postAt dispatched)).andThen fun report =>
    match Upload.verifyReceipt pk observed a.subject (.str (a.payloadSha256 pk)) (.int a.captured.length) postAt
        c.gateway.config.receiverPublic c.gateway.config.receiverKeyId with
    | .error _ => unknown pk assess c report a.requestId "RECEIVER_RECEIPT_NOT_CONFIRMED"
    | .ok receipt => do
      let report ← persist pk assess c.gateway { report with
        payloadReceipt := receipt, state := "RECEIPT_CONFIRMED", reason := "PINNED_RECEIVER_ATTESTED_MATCHING_BYTES" }
        a.requestId "receipt_confirmed"
      return .ok report

/-- What follows the send. -/
def afterSend (a : Admission) (report : Report) (final : Frame) (finalAt : Json) (raw : Option Json) :
    Program (Run Report) := do
  let reason := if raw.isNone then "TRANSPORT_EXCEPTION" else "RESPONSE_NOT_CONFIRMED"
  let report := { report with attempted := true, state := "OUTCOME_UNKNOWN", reason }
  let closed ← (clockAfter finalAt).andThen fun postAt =>
    .ret ((postflight pk assess c.gateway report final postAt none).map fun report => (report, postAt))
  match closed with
  | .error _ => unknown pk assess c report a.requestId "POSTFLIGHT_CLOCK_NOT_ESTABLISHED"
  | .ok (report, postAt) =>
    match raw with
    | none | some .null => unknown pk assess c report a.requestId reason
    | some raw =>
      match transportObservation pk raw finalAt postAt with
      | .error _ => unknown pk assess c report a.requestId "TRANSPORT_OBSERVATION_NOT_ESTABLISHED"
      | .ok observed =>
        let report := { report with payloadTransport := observed }
        (Prog.ret (keyAuthorized pk c.gateway a.frame postAt)).andThen fun authorized =>
        if authorized then confirm pk assess c a report final observed postAt
        else unknown pk assess c report a.requestId "GATEWAY_KEY_NOT_AUTHORIZED_AT_POSTFLIGHT"

/-- The permit of the last gate, which must be the one that was collected. -/
def finalPermit (final : Frame) (body : Json) : Run Json := do
  let (_, decision) ← authorization final false
  Incident.require (body.item "decision_sha256" = .str (← digest pk decision)) "The current permit differs from the collected permit"
  return decision

/-- `except InputError` -/
def unlessRefused {α : Type} : Run α → Run (Option α)
  | .ok a => .ok (some a)
  | .error (.input _) => .ok none
  | .error e => .error e

/-- From a fresh readback on. -/
def finalGate (a : Admission) (i : Intents) (report : Report) (checkedAt : Json) : Program (Run Report) := do
  let gate ← (clockAfter checkedAt).andThen fun finalAt =>
    (setFinal pk assess c.gateway report finalAt (some (true, true))).andThen fun report => .ret (.ok (finalAt, report))
  match gate with
  | .error _ => block pk assess c.gateway report a.requestId "FINAL_GATE_OBSERVATION_NOT_ESTABLISHED"
  | .ok (finalAt, report) =>
    let report := { report with collectorOutcome := "FRESH_READBACK_CONFIRMED" }
    match report.final with
    | none => .ret (.error .other)
    | some final =>
      (Prog.ret (keyAuthorized pk c.gateway a.frame finalAt)).andThen fun authorized =>
      if !authorized then block pk assess c.gateway report a.requestId "GATEWAY_KEY_NOT_AUTHORIZED_AT_SEND"
      else
        (Prog.ret (unlessRefused (finalPermit pk final i.body))).andThen fun permit =>
        if permit.isNone then block pk assess c.gateway report a.requestId "FINAL_ASSESSOR_RECHECK_DID_NOT_ALLOW"
        else
          (endpointsPinned c.gateway).andThen fun pinned =>
          if !pinned then block pk assess c.gateway report a.requestId "CONFIGURED_ENDPOINT_CHANGED"
          else
            .eff (.upload (.send a.captured i.dispatch)) fun raw => afterSend pk assess c a report final finalAt raw

/-- A verified status whose receipt is the one that was collected. -/
def checkStatus (i : Intents) (receipt query exchange : Json) : Run Json := do
  let status ← verifyStatus pk (exchange.item "response") query i.collection c.gateway.collectorPublic
    c.gateway.collectorKeyId (exchange.item "completed_at")
  if status.item "status" = .str "FOUND" then
    Incident.require ((← digest pk (status.item "receipt")) = (← digest pk receipt))
      "Collector readback changed the original saved receipt"
    return status
  else return status

/-- From the exchange of a status query on. -/
def afterStatus (a : Admission) (i : Intents) (report : Report) (exchange checkedAt : Json) : Program (Run Report) :=
  let report := { report with statusExchange := exchange }
  if !responseUsable exchange then
    blockAt pk assess c.gateway report a.requestId "COLLECTOR_READBACK_NOT_ESTABLISHED" checkedAt (failedCheck exchange)
  else
    match checkStatus pk c i report.collectionReceipt report.statusQuery exchange with
    | .error _ => blockAt pk assess c.gateway report a.requestId "COLLECTOR_READBACK_NOT_ESTABLISHED" checkedAt none
    | .ok status =>
      let report := { report with collectionStatus := exchange.item "response" }
      if status.item "status" = .str "NOT_FOUND" then
        blockAt pk assess c.gateway report a.requestId "COLLECTOR_RECORD_NOT_FOUND" checkedAt (some (true, false))
      else finalGate pk assess c a i report checkedAt

/-- A fresh query of the collector and its time. -/
def ask (intent earlier : Json) : Program (Run (Json × Json)) :=
  (clockAfter earlier).andThen fun queryAt =>
    .eff .nonce fun nonce => .ret ((queryOf pk c.gateway intent queryAt nonce).map fun query => (query, queryAt))

/-- The query of the collector and what follows it. -/
def readback (a : Admission) (i : Intents) (report : Report) (collectedAt : Json) : Program (Run Report) := do
  let report := { report with collectorOutcome := "READBACK_NOT_ESTABLISHED" }
  match ← ask pk c i.collection collectedAt with
  | .error _ => block pk assess c.gateway report a.requestId "COLLECTOR_READBACK_NOT_ESTABLISHED"
  | .ok (query, queryAt) =>
    let report := { report with statusQuery := query }
    match ← rpc pk c.gateway (perform (.status query) fun r => r) queryAt with
    | .error _ => block pk assess c.gateway report a.requestId "COLLECTOR_READBACK_NOT_ESTABLISHED"
    | .ok (exchange, checkedAt) => afterStatus pk assess c a i report exchange checkedAt

/-- From the exchange of the collection on. -/
def afterCollect (a : Admission) (i : Intents) (report : Report) (exchange collectedAt : Json) : Program (Run Report) :=
  let report := { report with collectionExchange := exchange }
  if !responseUsable exchange then
    blockAt pk assess c.gateway report a.requestId "COLLECTOR_ACKNOWLEDGEMENT_NOT_ESTABLISHED" collectedAt
      (failedCheck exchange)
  else
    match verifyReceipt pk (exchange.item "response") i.collection c.gateway.collectorPublic c.gateway.collectorKeyId
        (exchange.item "completed_at") with
    | .error _ =>
      blockAt pk assess c.gateway report a.requestId "COLLECTOR_ACKNOWLEDGEMENT_NOT_ESTABLISHED" collectedAt none
    | .ok _ => do
      let report := { report with collectionReceipt := exchange.item "response", collectorOutcome := "ACKNOWLEDGED" }
      if c.beforeFinalCheck = .callable then
        .eff .beforeFinalCheck fun passed =>
          if passed then readback pk assess c a i report collectedAt
          else block pk assess c.gateway report a.requestId "TRUSTED_BEFORE_FINAL_HOOK_FAILED"
      else readback pk assess c a i report collectedAt

/-- From the claim on. -/
def claimed (a : Admission) (i : Intents) (report : Report) : Program (Run Report) := do
  let report := { report with
    journalState := Upload.intent, collectorOutcome := "ACKNOWLEDGEMENT_NOT_ESTABLISHED" }
  match ← rpc pk c.gateway (perform (.collect i.collection) fun r => r) a.at_ with
  | .error _ => block pk assess c.gateway report a.requestId "COLLECTOR_ACKNOWLEDGEMENT_NOT_ESTABLISHED"
  | .ok (exchange, collectedAt) => afterCollect pk assess c a i report exchange collectedAt

/-- From an admission that may be collected on. -/
def claim (a : Admission) (fingerprint : String) (decision : Json) : Program (Run Report) :=
  (Prog.ret (intentsOf pk c a decision)).andThen fun i => do
    let report := { a.report pk with collectionIntent := i.collection, dispatchIntent := i.dispatch }
    match ← uploading (Upload.claimRow pk (.str a.requestId) fingerprint i.snapshot) with
    | .error _ =>
      let found ← journalState pk assess c.gateway a.requestId
      return .ok { report with reason := "JOURNAL_INTENT_COMMIT_NOT_ESTABLISHED", journalState := found }
    | .ok (status, row) =>
      match checkClaim pk assess c a.requestId fingerprint i.snapshot status row with
      | .error _ =>
        let found ← journalState pk assess c.gateway a.requestId
        return .ok { report with
          reason := "JOURNAL_CLAIM_ACKNOWLEDGEMENT_NOT_ESTABLISHED", journalState := found }
      | .ok (some row) => return .ok (replay report row fingerprint)
      | .ok none => claimed pk assess c a i report

/-- From the admission on. -/
def admitted (a : Admission) : Program (Run Report) :=
  let report := a.report pk
  (Prog.ret (fingerprintOf pk c.gateway a.frame (.int a.captured.length))).andThen fun fingerprint => do
    match ← getOwned pk assess c.gateway a.requestId with
    | .error _ =>
      return .ok { report with reason := "JOURNAL_UNAVAILABLE_BEFORE_CLAIM", journalState := "UNAVAILABLE" }
    | .ok (some row) => return .ok (replay report row fingerprint)
    | .ok none =>
      (Prog.ret (unlessRefused (authorization a.frame true))).andThen fun
        | none => .ret (.ok { report with reason := "POLICY_OR_PERMIT_NOT_AUTHORIZED" })
        | some (_, decision) =>
          (Prog.ret (keyAuthorized pk c.gateway a.frame a.at_)).andThen fun authorized =>
          if !authorized then .ret (.ok { report with reason := "CONFIGURED_GATEWAY_KEY_NOT_AUTHORIZED" })
          else
            (endpointsPinned c.gateway).andThen fun pinned =>
            if !pinned then .ret (.ok { report with reason := "CONFIGURED_ENDPOINT_CHANGED" })
            else claim pk assess c a fingerprint decision

/-- `execute` -/
def execute : Program (Run Report) :=
  (Prog.ret (prepare pk assess c)).andThen fun (package, trust) =>
  capturePayload.andThen fun captured =>
  (Prog.ret (sub package "as_of")).andThen fun earlier =>
  (clockAfter earlier).andThen fun at_ =>
  (Prog.ret (admission pk assess c package trust captured at_)).andThen fun a => admitted pk assess c a

end Execute

/-! ## `reconcile` -/

/-- The report of a reconciliation; what is absent is `null`. -/
structure Reconciliation where
  requestId : String
  state : String
  reason : String
  journalState : String
  collectionIntent : Json
  statusQuery : Json
  statusExchange : Json
  collectionStatus : Json
  collectionReceipt : Json

section Reconcile
variable (pk : Packages) (assess : Json → Json → Run Json) (g : Gateway)

/-- The query of a reconciliation and its time. -/
def reconcileQuery (snapshot : Json) : Program (Run (Json × Json)) :=
  (clockAfter (snapshot.item "prepared_at")).andThen fun queryAt =>
  (Prog.ret (keyAuthorized pk g (admissionOf snapshot) queryAt)).andThen fun authorized =>
  if !authorized then .ret (inputError "Configured gateway key or collector endpoint is unavailable")
  else
    (collectorPinned g).andThen fun pinned =>
    if !pinned then .ret (inputError "Configured gateway key or collector endpoint is unavailable")
    else .eff .nonce fun nonce =>
      .ret ((queryOf pk g (snapshot.item "collection_intent") queryAt nonce).map fun query => (query, queryAt))

/-- What a reconciliation makes of the exchange. -/
def reconciled (report : Reconciliation) (exchange : Json) : Reconciliation :=
  let report := { report with statusExchange := exchange }
  if !responseUsable exchange then report
  else
    match verifyStatus pk (exchange.item "response") report.statusQuery report.collectionIntent g.collectorPublic
        g.collectorKeyId (exchange.item "completed_at") with
    | .error _ => report
    | .ok status => { report with
        collectionStatus := exchange.item "response", collectionReceipt := status.item "receipt",
        state := textOf (status.item "status")
        reason := if status.item "status" = .str "FOUND" then "COLLECTOR_RECORD_FOUND_NO_UPLOAD_RESUMED"
          else "COLLECTOR_RECORD_NOT_FOUND_AT_CHECK" }

/-- `reconcile` -/
def reconcile (requestId : Json) : Program (Run Reconciliation) :=
  (Prog.ret (identifier requestId)).andThen fun requestId => do
    let report : Reconciliation :=
      ⟨requestId, "NOT_ESTABLISHED", "READBACK_NOT_ESTABLISHED", "NOT_CLAIMED", .null, .null, .null, .null, .null⟩
    match ← getOwned pk assess g requestId with
    | .ok none => return .ok { report with state := "REQUEST_NOT_FOUND", reason := "NO_OWNED_JOURNAL_REQUEST" }
    | .error _ => return .ok { report with
        state := "JOURNAL_UNAVAILABLE", reason := "JOURNAL_SNAPSHOT_NOT_ESTABLISHED", journalState := "UNAVAILABLE" }
    | .ok (some row) =>
      let report := { report with
        journalState := row.state, collectionIntent := row.snapshot.item "collection_intent" }
      match ← reconcileQuery pk g row.snapshot with
      | .error _ => return .ok report
      | .ok (query, queryAt) =>
        let report := { report with statusQuery := query }
        match ← (perform (.status query) fun r => r).andThen fun raw =>
            (clockAfter queryAt).andThen fun observedAt => .ret (exchange pk raw queryAt observedAt) with
        | .error _ => return .ok report
        | .ok exchange => return .ok (reconciled pk g report exchange)

end Reconcile
end VapEvidence.Collector

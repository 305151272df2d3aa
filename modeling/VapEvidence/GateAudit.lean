import VapEvidence.GateCommon
import VapEvidence.UniqueTable

set_option autoImplicit false

/-!
# The audit service of the pre-record gate

`Service.audit` of `record_gate/services.py`: signed control requests act on a table of operations
and a log of signed events, each in one transaction.
-/
namespace VapEvidence.RecordGate
open Json Transaction
open Incident (Packages sub)
open Scope (falsy)

inductive OperationState where
  | prepared
  | dispatchIntent
  | resultUnknown
  | confirmedSuccess
  deriving DecidableEq

def OperationState.text : OperationState → String
  | .prepared => "prepared"
  | .dispatchIntent => "dispatch_intent"
  | .resultUnknown => "result_unknown"
  | .confirmedSuccess => "confirmed_success"

/-- The type of an event, which also ends its id. -/
inductive Suffix where
  | request
  | dispatch
  | unknown
  | result
  deriving DecidableEq

def Suffix.text : Suffix → String
  | .request => "request"
  | .dispatch => "dispatch"
  | .unknown => "unknown"
  | .result => "result"

/-- A row of `operations`. -/
structure Operation where
  id : String
  digest : String
  request : String
  state : OperationState
  receipt : Option String

/-- A row of `events`; `seq` is its place in the table. -/
structure Event where
  eventId : String
  envelope : String

structure Store where
  operations : Table Operation.id Eq
  events : Table Event.eventId Eq

/-- The tables that `Service.__init__` creates. -/
def Store.initial : Store := ⟨.empty, .empty⟩

structure AuditConfig where
  secret : String
  gatePublic : String
  backendPublic : String
  evaluationId : String
  policyDigest : String

/-- The faults of a trusted harness. -/
structure Faults where
  failAction : Option String
  dropAck : Option String

def eventId (operationId : String) (suffix : Suffix) : String := operationId ++ ":" ++ suffix.text

section Service
variable (pk : Packages) (config : AuditConfig)

/-- `op['operation_id']` of an intent, which is a text. -/
def operationId (op : Json) : Answer String :=
  match sub op "operation_id" with
  | .ok (.str s) => .ok s
  | .ok _ => .error (.raised .type)
  | .error e => .error (.raised e)

/-- `Service.signed`, under the role of the audit service. -/
def signed (body : Json) : Answer Json := sign pk body config.secret "audit" false

def eventBody (eventId suffix operationDigest : String) (payload : List (String × Json)) : Json :=
  dict [("kind", .str "event"), ("evaluation_id", .str config.evaluationId), ("policy_digest", .str config.policyDigest),
    ("event_id", .str eventId), ("source_id", .str "gate-audit"), ("event_type", .str suffix),
    ("payload", dict (("operation_digest", .str operationDigest) :: payload))]

/-- The row that `Service.event` inserts. -/
def eventRow (op : Json) (suffix : Suffix) (payload : List (String × Json)) : Answer Event := do
  let id ← operationId op
  let operationDigest ← digest pk op
  let env ← sign pk (eventBody config (eventId id suffix) suffix.text operationDigest payload) config.secret "audit" true
  return ⟨eventId id suffix, ← canonicalText pk env⟩

/-- `Service.event` -/
def event (op : Json) (suffix : Suffix) (payload : List (String × Json)) : Call Refusal Store Unit := do
  let row ← perform (eventRow pk config op suffix payload)
  let s ← get
  match s.events.insert row with
  | some events => set { s with events := events }
  | none => perform (.error .integrity)

/-- `Service.control` -/
def control (envelope : Json) (action : String) : Answer Json := do
  let body ← check pk envelope config.gatePublic "control" "gate" false
  require ((← lift (sub body "action")) = .str action) "control_action"
  return body

def insertOperation (row : Operation) : Call Refusal Store Unit := do
  let s ← get
  match s.operations.insert row with
  | some operations => set { s with operations := operations }
  | none => perform (.error .integrity)

def Operation.become (state : OperationState) (receipt : Option String) (row : Operation) : Operation :=
  { row with state := state, receipt := receipt }

theorem Operation.become_id (state : OperationState) (receipt : Option String) (row : Operation) :
    (row.become state receipt).id = row.id := rfl

/-- `UPDATE operations SET state, receipt` of one operation. -/
def Store.update (s : Store) (id : String) (state : OperationState) (receipt : Option String) : Store :=
  ⟨s.operations.update (fun row => row.id = id) (Operation.become state receipt)
    (Operation.become_id state receipt), s.events⟩

/-- The first record of an operation. -/
def prepare (op : Json) (id digest_ : String) (body : Json) : Call Refusal Store Operation := do
  let request ← perform (lift (sub body "request"))
  let recorded ← perform (do digest pk (← lift (sub request "intent")))
  perform (require (recorded = digest_) "record_intent_mismatch")
  let authorization ← perform (lift (sub body "authorization"))
  event pk config op .request [("intent", op), ("authorization", authorization), ("signed_request", request)]
  let text ← perform (canonicalText pk request)
  insertOperation ⟨id, digest_, text, .prepared, none⟩
  return ⟨id, digest_, text, .prepared, none⟩

def meaning : String := "durable intent to dispatch; not proof of sending"

/-- Whether a receipt of the backend is about an operation; what follows a false part is not read. -/
def receiptBinds (result : Json) (id digest_ : String) : Answer Bool := do
  if (← lift (sub result "operation_id")) = .str id then
    if (← lift (sub result "operation_digest")) = .str digest_ then
      return (← lift (sub result "committed")) = .bool true
    else return false
  else return false

/-- `json.loads(row[3]) if row[3] else None` -/
def storedReceipt (row : Operation) : Answer Json :=
  match row.receipt with
  | none => .ok .null
  | some text => if text = "" then .ok .null else loadsText pk text

/-- The state and the receipt after a report of success. -/
def confirm (op : Json) (row : Operation) (receipt body : Json) : Call Refusal Store (OperationState × Json) := do
  let given ← perform (lift (sub body "receipt"))
  let result ← perform (check pk given config.backendPublic "backend_receipt" "backend" false)
  perform (do require (← receiptBinds result row.id row.digest) "backend_receipt_binding")
  if row.state ≠ .confirmedSuccess then
    event pk config op .result [("receipt", given)]
    return (.confirmedSuccess, given)
  else return (row.state, receipt)

/-- The state after a report that the result is unknown. -/
def reportUnknown (op : Json) (row : Operation) (receipt body : Json) : Call Refusal Store (OperationState × Json) := do
  if row.state = .dispatchIntent then
    let reason ← perform (lift (sub body "reason"))
    event pk config op .unknown [("reason", reason)]
    return (.resultUnknown, receipt)
  else return (row.state, receipt)

def report (op : Json) (row : Operation) (receipt wanted body : Json) : Call Refusal Store (OperationState × Json) :=
  if wanted = .str "confirmed_success" then confirm pk config op row receipt body
  else do
    perform (require (wanted = .str "result_unknown") "unsupported_outcome")
    reportUnknown pk config op row receipt body

def outcome (op : Json) (row : Operation) (receipt body : Json) : Call Refusal Store (OperationState × Json) := do
  perform (require (row.state ≠ .prepared) "invalid_outcome_transition")
  let wanted ← perform (lift (sub body "state"))
  let (state, receipt) ← report pk config op row receipt wanted body
  let text ← perform (if falsy receipt then .ok none else do return some (← canonicalText pk receipt))
  let s ← get
  set (s.update row.id state text)
  return (state, receipt)

/-- What a request does to the row of its operation: the state and the receipt that it answers with, and whether
    it was the one that claimed the dispatch. -/
def act (action : String) (op : Json) (row : Operation) (body : Json) :
    Call Refusal Store (OperationState × Bool × Json) := do
  let receipt ← perform (storedReceipt pk row)
  if action = "claim" ∧ row.state = .prepared then
    event pk config op .dispatch [("intent", op), ("meaning", .str meaning)]
    let s ← get
    set (s.update row.id .dispatchIntent row.receipt)
    return (.dispatchIntent, true, receipt)
  else if action = "outcome" then
    let (state, receipt) ← outcome pk config op row receipt body
    return (state, false, receipt)
  else
    perform (require (["prepare", "claim", "get"].contains action) "unsupported_audit_action")
    return (row.state, false, receipt)

/-- The row of the operation, which `prepare` inserts where there is none. -/
def current (action : String) (op : Json) (id digest_ : String) (body : Json) : Call Refusal Store Operation := do
  let s ← get
  let found := s.operations.rows.find? fun row => row.id = id
  perform (require (found.all fun row => row.digest = digest_) "operation_id_intent_conflict")
  match found with
  | some row => return row
  | none =>
    if action = "prepare" then prepare pk config op id digest_ body
    else perform (.error (.rejected "no_pre_record"))

/-- A request that is prepared again must be the one that was recorded. -/
def sameRequest (action : String) (row : Operation) (body : Json) : Answer Unit :=
  if action = "prepare" then do
    let stored ← digest pk (← loadsText pk row.request)
    let given ← digest pk (← lift (sub body "request"))
    require (stored = given) "operation_id_authorization_conflict"
  else .ok ()

/-- The transaction of a request on an operation. -/
def change (action : String) (op : Json) (id digest_ : String) (body : Json) :
    Call Refusal Store (OperationState × Bool × Json) := do
  let row ← current pk config action op id digest_ body
  perform (sameRequest pk action row body)
  act pk config action op row body

def ackBody (action id digest_ : String) (state : OperationState) (claimed : Bool) (receipt : Json) : Json :=
  dict [("kind", .str "audit_ack"), ("action", .str action), ("operation_id", .str id),
    ("operation_digest", .str digest_), ("state", .str state.text), ("claimed", .bool claimed), ("receipt", receipt)]

/-- `path.removeprefix('/')` -/
def actionOf (path : String) : String :=
  match path.toList with
  | '/' :: rest => String.ofList rest
  | _ => path

/-- `Service.audit`; no answer where the acknowledgment is dropped. -/
def audit (faults : Faults) (path : String) (envelope : Json) : Call Refusal Store (Option Json) := do
  let action := actionOf path
  let body ← perform (control pk config envelope action)
  perform (require (faults.failAction ≠ some action) "injected_storage_unavailable")
  if action = "export" then
    let s ← get
    let events ← perform (s.events.rows.mapM fun e => loadsText pk e.envelope)
    let answer ← perform (signed pk config (dict [("kind", .str "audit_export"), ("events", .arr events)]))
    return some answer
  else
    let op ← perform (do intent pk (← lift (sub body "intent")))
    let id ← perform (operationId op)
    let digest_ ← perform (digest pk op)
    let (state, claimed, receipt) ← atomically (change pk config action op id digest_ body)
    if faults.dropAck = some action then return none
    else
      let answer ← perform (signed pk config (ackBody action id digest_ state claimed receipt))
      return some answer

end Service
end VapEvidence.RecordGate

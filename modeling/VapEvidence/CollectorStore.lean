import VapEvidence.CollectorMessages
import VapEvidence.Histories
import VapEvidence.Transaction
import VapEvidence.UniqueTable

set_option autoImplicit false

/-!
# The metadata collector

`collector.py` of the collector pilot: signed intents are stored once with their receipts, and signed
queries are answered from the store.
-/
namespace VapEvidence.Collector.Metadata
open Json Incident Transaction Interleaving

/-! ## Identity -/

/-- `IDENTITY_FIELDS` -/
def identityFields : List String := ["format", "collector_id", "gateway_public", "gateway_key_id", "collector_public",
  "collector_key_id", "endpoint"]

def loopback : List Char := "http://127.0.0.1:".toList

/-- The regular expression of `validate_endpoint`. -/
def isEndpoint (s : List Char) : Bool :=
  let port := s.drop loopback.length
  s.take loopback.length = loopback && 0 < port.length && port.length ≤ 5 && port.all Char.isDigit &&
    port.head? ≠ some '0' && number port ≤ 65535

/-- `validate_endpoint` -/
def validateEndpoint (endpoint : Json) : Run String := do
  let s ← controlText endpoint
  Incident.require (isEndpoint s.toList) "Only a literal loopback collector endpoint is supported"
  return s

/-- What a collector serves with, as `CollectorProcess.__init__` and `_serve` check it. -/
structure Server (pk : Packages) where
  collectorId : String
  gatewayPublic : String
  gatewayKeyId : String
  secret : String
  collectorPublic : String
  collectorKeyId : String
  endpoint : String
  named : controlText (.str collectorId) = .ok collectorId
  gatewayKey : controlHex (.str gatewayPublic) 32 = .ok gatewayPublic
  gatewayNamed : controlText (.str gatewayKeyId) = .ok gatewayKeyId
  held : controlHex (.str secret) 32 = .ok secret
  keyed : publicKey pk secret = .ok collectorPublic
  keyNamed : controlText (.str collectorKeyId) = .ok collectorKeyId
  bound : validateEndpoint (.str endpoint) = .ok endpoint

def Server.identity {pk : Packages} (server : Server pk) : Json :=
  dict [("format", .str "collector-pilot-store/0.1"), ("collector_id", .str server.collectorId),
    ("gateway_public", .str server.gatewayPublic), ("gateway_key_id", .str server.gatewayKeyId),
    ("collector_public", .str server.collectorPublic), ("collector_key_id", .str server.collectorKeyId),
    ("endpoint", .str server.endpoint)]

/-! ## The store -/

/-- A row of `collections`. -/
structure Row where
  collectionId : String
  requestId : String
  requestSha256 : String
  intentJson : String
  receiptJson : String

def Row.key (r : Row) : String × String := (r.collectionId, r.requestId)

/-- Both columns are unique. -/
def clash (a b : String × String) : Prop := a.1 = b.1 ∨ a.2 = b.2

instance decidableClash : DecidableRel clash := fun _ _ => inferInstanceAs (Decidable (_ ∨ _))

structure Store where
  identityJson : String
  collectCalls : ℕ
  statusCalls : ℕ
  collections : Table Row.key clash

section Transactions
variable {pk : Packages} (server : Server pk)

/-- `canonical(value).decode("utf-8")` -/
def canonicalText (pk : Packages) (value : Json) : Run String := do
  match decodeUtf8 (← canonical pk value) with
  | some s => .ok (String.ofList s)
  | none => .error .other

/-- `decode_json` of a text. -/
def decodeText (pk : Packages) (s : String) : Run Json := Collector.decodeJson pk (encodeUtf8 s.toList)

/-- `_identity` -/
def storedIdentity (pk : Packages) (s : Store) : Run Json := do
  let identity ← exact (← decodeText pk s.identityJson) identityFields
  Incident.require (identity.item "format" = .str "collector-pilot-store/0.1") "Unsupported collector identity format"
  let _ ← controlText (identity.item "collector_id")
  let _ ← controlText (identity.item "gateway_key_id")
  let _ ← controlText (identity.item "collector_key_id")
  let _ ← controlHex (identity.item "gateway_public") 32
  let _ ← controlHex (identity.item "collector_public") 32
  let _ ← validateEndpoint (identity.item "endpoint")
  return identity

def checkIdentity (message : String) (s : Store) : Run Unit := do
  Incident.require ((← storedIdentity pk s) = server.identity) message

/-- `_initialize`, on a store that exists or on none. -/
def initializeStore : Option Store → Run Store
  | some s => do
    checkIdentity server "Persisted collector identity or endpoint differs" s
    return s
  | none => do
    let s : Store := ⟨← canonicalText pk server.identity, 0, 0, .empty⟩
    checkIdentity server "Committed collector identity is not readable" s
    return s

def changed : String := "Collector persistence identity changed"

/-- `_count` -/
def count (status : Bool) : Call Raised Store Unit := do
  let s ← get
  perform (checkIdentity server changed s)
  set (if status then { s with statusCalls := s.statusCalls + 1 } else { s with collectCalls := s.collectCalls + 1 })

structure Found where
  collectionId : String
  requestId : String
  requestSha256 : String
  intent : Json
  receipt : Json
  deriving DecidableEq

/-- Whether a stored intent is that of a row. -/
def bindsRow (r : Row) (intentDigest : String) (body : Json) : Bool :=
  body.item "collector_id" = .str server.collectorId && body.item "collection_id" = .str r.collectionId &&
    body.item "request_id" = .str r.requestId && intentDigest = r.requestSha256

/-- `_row` -/
def row (now : Json) (r : Row) : Run Found := do
  let _ ← controlHex (.str r.collectionId) 32
  let _ ← controlText (.str r.requestId)
  let _ ← controlHex (.str r.requestSha256) 32
  let intent ← decodeText pk r.intentJson
  let receipt ← decodeText pk r.receiptJson
  let signed ← verifyControl pk intent server.gatewayPublic server.gatewayKeyId "collection_intent"
  let body ← validateIntent pk signed
  let intentDigest ← digest pk intent
  Incident.require (bindsRow server r intentDigest body) "Stored collector row does not bind its signed intent"
  let _ ← verifyReceipt pk receipt intent server.collectorPublic server.collectorKeyId now
  return ⟨r.collectionId, r.requestId, r.requestSha256, intent, receipt⟩

def sameCollection (body : Json) (r : Row) : Bool := body.item "collection_id" = .str r.collectionId

def sameRequest (body : Json) (r : Row) : Bool := body.item "request_id" = .str r.requestId

def conflict : String := "COLLECTION_CONFLICT"

/-- `_find` -/
def find (now : Json) (s : Store) (body : Json) : Run (Option Found) :=
  match s.collections.rows.filter fun r => sameCollection body r || sameRequest body r with
  | [] => .ok none
  | [r] => (row server now r).map some
  | _ => inputError conflict

/-- Whether what was found is what is asked for. -/
def Found.answers (f : Found) (body requestDigest : Json) : Bool :=
  body.item "collection_id" = .str f.collectionId && body.item "request_id" = .str f.requestId &&
    requestDigest = .str f.requestSha256

def receiptBody (body : Json) (requestDigest : String) (now : Json) (uuid : String) : Json :=
  dict [("kind", .str "collection_receipt"), ("collector_id", body.item "collector_id"),
    ("collection_id", body.item "collection_id"), ("request_id", body.item "request_id"),
    ("request_sha256", .str requestDigest), ("recorded_at", now), ("receipt_id", .str ("receipt-" ++ uuid)),
    ("storage", .str "sqlite-wal-full")]

/-- The row that an intent and its receipt make. -/
def rowOf (pk : Packages) (body : Json) (requestDigest : String) (intent receipt : Json) : Run Row := do
  return ⟨textOf (body.item "collection_id"), textOf (body.item "request_id"), requestDigest,
    ← canonicalText pk intent, ← canonicalText pk receipt⟩

def insertRow (drop : Bool) (r : Row) (receipt : Json) : Call Raised Store (Json × Bool) := do
  let s ← get
  match s.collections.insert r with
  | none => perform (.error .other)
  | some collections =>
    if drop then perform (.error .other)
    else
      set { s with collections := collections }
      return (receipt, true)

/-- What `_accept` does where it finds a row, and where it finds none. -/
def acceptFound (drop : Bool) (now : Json) (uuid requestDigest : String) (intent body : Json) :
    Option Found → Call Raised Store (Json × Bool)
  | some found => do
    perform (Incident.require (found.answers body (.str requestDigest)) conflict)
    return (found.receipt, false)
  | none => do
    let receipt ← perform (signControl pk (receiptBody body requestDigest now uuid) server.secret server.collectorKeyId)
    let r ← perform (rowOf pk body requestDigest intent receipt)
    insertRow drop r receipt

/-- The transaction of `_accept`: a receipt, and whether it is new. -/
def acceptTransaction (drop : Bool) (now : Json) (uuid : String) (intent body : Json) : Call Raised Store (Json × Bool) := do
  let requestDigest ← perform (digest pk intent)
  let s ← get
  perform (checkIdentity server changed s)
  let found ← perform (find server now s body)
  acceptFound server drop now uuid requestDigest intent body found

/-- The reading of `_lookup`. -/
def lookupTransaction (now : Json) (s : Store) (body : Json) : Run (Option Found) := do
  checkIdentity server changed s
  let found ← find server now s body
  Incident.require (found.all fun f => f.answers body (body.item "request_sha256")) conflict
  return found

end Transactions

/-! ## Requests -/

/-- `MODES` -/
inductive Mode where
  | normal
  | dropBeforeCommit
  | dropAfterCommit
  | wrongReceipt
  | wrongStatusNonce
  deriving DecidableEq

inductive Effect where
  | count (status : Bool)
  /-- `utc_now()` outside of a transaction -/
  | now
  /-- The transaction of `_accept` -/
  | accept (drop : Bool) (intent body : Json)
  /-- The read of `_accept` after its commit -/
  | find (body : Json)
  /-- The read transaction of `_lookup` -/
  | lookup (query body : Json)
  | sign (body : Json)

abbrev Answer : Effect → Type
  | .count _ => Run Unit
  | .now => Json
  | .accept .. => Run (Json × Bool)
  | .find _ => Run (Option Found)
  | .lookup .. => Run (Option Found)
  | .sign _ => Run Json

abbrev Program (α : Type) : Type := Prog Effect Answer α

def effect {α : Type} (e : Effect) (f : Answer e → Run α) : Program (Run α) := .eff e fun r => .ret (f r)

section Requests
variable {pk : Packages} (server : Server pk)

/-- The committed row must be readable as it was written. -/
def confirm (pk : Packages) (intent receipt : Json) (persisted : Option Found) : Run Json := do
  let requestDigest ← digest pk intent
  match persisted with
  | none => inputError "Committed collector record is not readable"
  | some f => do
    Incident.require (f.requestSha256 = requestDigest && f.intent = intent && f.receipt = receipt)
      "Committed collector record is not readable"
    return f.receipt

/-- `_accept` -/
def accept (pk : Packages) (mode : Mode) (intent body : Json) : Program (Run Json) :=
  (effect (.accept (decide (mode = .dropBeforeCommit)) intent body) fun r => r).andThen fun answer =>
    if answer.2 then
      (effect (.find body) fun r => r).andThen fun persisted => .ret (confirm pk intent answer.1 persisted)
    else .ret (.ok answer.1)

/-- Another digit in the first place of a hexadecimal text. -/
def altered (s : String) : String :=
  match s.toList with
  | '0' :: rest => String.ofList ('1' :: rest)
  | _ :: rest => String.ofList ('0' :: rest)
  | [] => s

def statusBody (body : Json) (queryDigest nonce : String) (found : Option Found) (now : Json) : Json :=
  dict [("kind", .str "collection_status"), ("collector_id", body.item "collector_id"),
    ("collection_id", body.item "collection_id"), ("request_id", body.item "request_id"),
    ("request_sha256", body.item "request_sha256"), ("query_sha256", .str queryDigest), ("nonce", .str nonce),
    ("status", .str (if found.isSome then "FOUND" else "NOT_FOUND")),
    ("receipt", (found.map Found.receipt).getD .null), ("checked_at", now)]

/-- `_lookup` -/
def lookup (pk : Packages) (mode : Mode) (query body : Json) : Program (Run Json) :=
  (effect (.lookup query body) fun r => r).andThen fun found =>
    (Prog.ret (digest pk query)).andThen fun queryDigest =>
      Prog.eff .now fun now =>
        let nonce := textOf (body.item "nonce")
        effect (.sign (statusBody body queryDigest (if mode = .wrongStatusNonce then altered nonce else nonce) found now))
          fun r => r

/-- What goes back on a connection. -/
inductive Response where
  | reply (status : ℕ) (value : Json)
  | closed

/-- The paths of a collector. -/
inductive Endpoint where
  | collect
  | status
  deriving DecidableEq

def Endpoint.kind : Endpoint → String
  | .collect => "collection_intent"
  | .status => "collection_query"

/-- The validation of the body of a message. -/
def Endpoint.validate (pk : Packages) : Endpoint → Json → Run Json
  | .collect => validateIntent pk
  | .status => validateQuery pk

/-- A message that was received, and its body. -/
def received (path : Endpoint) (raw : Bytes) : Run (Json × Json) := do
  let value ← Collector.decodeJson pk raw
  let signed ← verifyControl pk value server.gatewayPublic server.gatewayKeyId path.kind
  return (value, ← path.validate pk signed)

def inapplicable : String := "Collector request identity or time is inapplicable"

/-- A body must be for this collector and not from the future. -/
def applicable (body : Json) : Program (Run Unit) :=
  if body.item "collector_id" = .str server.collectorId then
    Prog.eff .now fun now => .ret do
      let created ← timestamp (body.item "created_at")
      let current ← timestamp now
      Incident.require (created ≤ current) inapplicable
  else .ret (inputError inapplicable)

/-- A receipt for another digest. -/
def wrongReceipt (receipt : Json) : Json :=
  dict ((receipt.item "body").members ++ [("request_sha256", .str (altered (textOf ((receipt.item "body").item "request_sha256"))))])

/-- What `do_POST` sends for an accepted intent. -/
def collected (mode : Mode) (receipt : Json) : Program (Run Response) :=
  match mode with
  | .dropAfterCommit => .ret (.ok .closed)
  | .wrongReceipt => effect (.sign (wrongReceipt receipt)) fun r => r.map (.reply 200)
  | _ => .ret (.ok (.reply 200 receipt))

structure Request where
  mode : Mode
  path : Endpoint
  raw : Bytes

/-- The work of a request, up to its reply. -/
def handle (q : Request) : Program (Run Response) :=
  (effect (.count (decide (q.path = .status))) fun r => r).andThen fun _ =>
    (Prog.ret (received server q.path q.raw)).andThen fun message =>
      (applicable server message.2).andThen fun _ =>
        match q.path with
        | .collect => (accept pk q.mode message.1 message.2).andThen (collected q.mode)
        | .status => (lookup pk q.mode message.1 message.2).andThen fun answer => .ret (.ok (.reply 200 answer))

/-- The reply to what was raised. -/
def respond : Run Response → Response
  | .ok response => response
  | .error (.input message) =>
    if message = conflict then .reply 409 (dict [("error", .str conflict)])
    else .reply 400 (dict [("error", .str "INVALID_REQUEST")])
  | .error _ => .closed

/-- `do_POST` on one of the two paths. -/
def post (q : Request) : Program Response := (handle server q).bind fun r => .ret (respond r)

end Requests

/-! ## Runs -/

/-- The store and what a clock last read. -/
abbrev State : Type := Store × ℤ

/-- A reading of a clock that does not go back. -/
def Reading (s t : ℤ) (now : Json) : Prop := timestamp now = .ok t ∧ s ≤ t

def isUuid (uuid : String) : Prop := uuid.length = 32 ∧ uuid.toList.all isLowerHex = true

section Runs
variable {pk : Packages} (server : Server pk)

/-- Transactions run alone on the store, which an effect that fails leaves as it was. -/
def exec (s : State) : (e : Effect) → State → Answer e → Prop
  | .count status, t, r => s.2 ≤ t.2 ∧ ((count server status).on s.1 = (r, t.1) ∨ (r = .error .other ∧ t.1 = s.1))
  | .now, t, r => t.1 = s.1 ∧ Reading s.2 t.2 r
  | .accept drop intent body, t, r => ∃ now uuid, Reading s.2 t.2 now ∧ isUuid uuid ∧
    ((acceptTransaction server drop now uuid intent body).on s.1 = (r, t.1) ∨ (r = .error .other ∧ t.1 = s.1))
  | .find body, t, r => t.1 = s.1 ∧ ∃ now, Reading s.2 t.2 now ∧ (r = find server now s.1 body ∨ r = .error .other)
  | .lookup _ body, t, r => t.1 = s.1 ∧ ∃ now, Reading s.2 t.2 now ∧
    (r = lookupTransaction server now s.1 body ∨ r = .error .other)
  | .sign body, t, r => t = s ∧ r = signControl pk body server.secret server.collectorKeyId

/-- Time passes, and a collector that starts again on its store keeps it. -/
def restart (pk : Packages) (s t : State) : Prop := s.2 ≤ t.2 ∧ (t.1 = s.1 ∨ ∃ other : Server pk, initializeStore other (some s.1) = .ok t.1)

def semantics : Interleaving.Semantics State Effect Answer where
  exec _ := exec server
  env := restart pk

abbrev CollectorRuns : Type := World (State × Log Effect Answer) Effect Answer Request Response

/-- Runs of any requests from a new store. -/
def Reachable (w : CollectorRuns) : Prop :=
  ∃ s clock, initializeStore server none = .ok s ∧
    Interleaving.Run (semantics server).logged (fun _ _ => True) (post server) (World.initial ((s, clock), [])) w

end Runs
end VapEvidence.Collector.Metadata

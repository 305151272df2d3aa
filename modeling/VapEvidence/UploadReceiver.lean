import VapEvidence.UploadJournal
import VapEvidence.Base64
import VapEvidence.UniqueTable

set_option autoImplicit false

/-!
# The receiver

`receiver.py` of the upload pilot in its normal mode: what it takes for a dispatch,
the table of accepted uploads and the receipts it signs.
-/
namespace VapEvidence.Upload
open Json Incident

def maxAuthBytes : ℕ := 8 * 1024
def maxAuthHeader : ℕ := 4 * ((maxAuthBytes + 2) / 3)
def dispatchFields : List String :=
  ["kind", "request_id", "subject_sha256", "payload_sha256", "byte_length", "created_at"]

/-- A row of `uploads`. -/
structure UploadRow where
  requestId : String
  subjectSha256 : String
  payloadSha256 : String
  byteLength : ℕ
  receipt : List Char

/-- `uploads`, with its primary key. -/
abbrev Uploads : Type := Table UploadRow.requestId (· = ·)

/-- The keys of a receiver process. -/
structure Receiver where
  secret : Bytes
  keyId : String
  gatewayPublic : String
  gatewayKeyId : String

section Receiver
variable (pk : Packages) (rc : Receiver)

def Receiver.publicHex : String := hex (pk.publicKey rc.secret)

/-- `_text` of the receiver -/
def receiverText : Json → Run String
  | .str s => if s.toList.all isBlank then inputError "Expected a nonempty string" else .ok s
  | _ => inputError "Expected a nonempty string"

/-- `_hex` of the receiver -/
def receiverHex : Json → Run String
  | .str s =>
    if s.length = 64 && s.toList.all isLowerHex then .ok s
    else inputError "Expected a 32-byte lowercase hexadecimal value"
  | _ => inputError "Expected a 32-byte lowercase hexadecimal value"

/-- `_decode_header` -/
def decodeHeader (value : String) : Run Json := do
  Incident.require (value ≠ "" && value.length ≤ maxAuthHeader) "Missing or oversized dispatch authorization"
  match Base64.decodeStrict value.toList with
  | none => inputError "Invalid authorization encoding"
  | some raw => do
    Incident.require (raw.length ≤ maxAuthBytes && Base64.encode raw = value.toList)
      "Noncanonical or oversized authorization encoding"
    let envelope ← decodeJson pk maxAuthBytes raw
    Incident.require (raw = (← canonical pk envelope)) "Authorization must contain canonical JSON"
    return envelope

/-- A dispatch that was validated. -/
structure Dispatch where
  requestId : String
  subjectSha256 : String
  deriving DecidableEq

/-- `_validate_dispatch` -/
def validateDispatch (header : String) (payload : Bytes) (receivedAt : String) : Run Dispatch := do
  let envelope ← decodeHeader pk header
  let body ← verifyControl pk envelope rc.gatewayPublic (.str rc.gatewayKeyId) "dispatch_intent"
  Incident.require (body.hasFields dispatchFields) "Unexpected dispatch fields"
  let requestId ← receiverText (body.item "request_id")
  let subjectSha256 ← receiverHex (body.item "subject_sha256")
  let payloadSha256 ← receiverHex (body.item "payload_sha256")
  Incident.require (isByteLength (body.item "byte_length")) "Invalid dispatch byte length"
  Incident.require (payload.length ≤ maxPayload) "Invalid measured payload"
  Incident.require (body.item "byte_length" = .int payload.length && payloadSha256 = sha256Hex pk payload)
    "Measured body does not match dispatch authorization"
  let created ← timestamp (body.item "created_at")
  Incident.require (created ≤ (← timestamp (.str receivedAt))) "Dispatch authorization is dated after receipt"
  return { requestId, subjectSha256 }

def receiptBody (d : Dispatch) (payload : Bytes) (receivedAt receiptId : String) : Json :=
  dict [("kind", .str "upload_receipt"), ("request_id", .str d.requestId), ("subject_sha256", .str d.subjectSha256),
    ("payload_sha256", .str (sha256Hex pk payload)), ("byte_length", .int payload.length),
    ("received_at", .str receivedAt), ("receipt_id", .str ("receipt-" ++ receiptId))]

/-- `canonical(value).decode("utf-8")` -/
def canonicalText (value : Json) : Run (List Char) := do
  match decodeUtf8 (← canonical pk value) with
  | some s => .ok s
  | none => .error .other

/-- `_accept`: the receipt, with the table and the receipts that were signed, by their messages. -/
def accept (d : Dispatch) (payload : Bytes) (receivedAt receiptId : String) (uploads : Uploads) (issued : List Bytes) :
    Run (Json × Uploads × List Bytes) :=
  match uploads.rows.find? fun row => row.requestId = d.requestId with
  | some row =>
    if row.subjectSha256 = d.subjectSha256 && row.payloadSha256 = sha256Hex pk payload && row.byteLength = payload.length then do
      let receipt ← decodeJson pk maxControl (encodeUtf8 row.receipt)
      return (receipt, uploads, issued)
    else inputError "REQUEST_ID_CONFLICT"
  | none => do
    let receipt ← signControl pk (receiptBody pk d payload receivedAt receiptId) (hex rc.secret) rc.keyId
    let message ← signingBytes pk controlDomain (unsignedOf receipt)
    let text ← canonicalText pk receipt
    match uploads.insert ⟨d.requestId, d.subjectSha256, sha256Hex pk payload, payload.length, text⟩ with
    | some uploads => return (receipt, uploads, issued ++ [message])
    | none => .error .other

/-! ## The state of the receiver -/

/-- A delivery that was answered with a receipt. -/
structure Reply where
  dispatch : Dispatch
  payload : Bytes
  receipt : Json

/-- The table, the messages signed, and the deliveries answered so far. -/
structure ReceiverState where
  uploads : Uploads
  issued : List Bytes
  replies : List Reply

/-- One delivery of any header and body, at any time. -/
def deliver (header : String) (payload : Bytes) (receivedAt receiptId : String) (s : ReceiverState) : Run ReceiverState := do
  let d ← validateDispatch pk rc header payload receivedAt
  let (receipt, uploads, issued) ← accept pk rc d payload receivedAt receiptId s.uploads s.issued
  return { uploads, issued, replies := s.replies ++ [⟨d, payload, receipt⟩] }

end Receiver
end VapEvidence.Upload

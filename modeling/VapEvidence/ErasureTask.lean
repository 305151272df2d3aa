import VapEvidence.IncidentValues

set_option autoImplicit false

/-!
# Deletion tasks

`protocol.py` and the task half of `adapter.py` of the erasure pilot: signed
messages, the pins of a controller, and what makes a task applicable at a time.
-/
namespace VapEvidence.Erasure
open Json Incident

/-! ## Messages -/

def controlDomain : Bytes := encodeUtf8 "erasure-pilot-control/0.1".toList ++ [0]
def maxObject : ℕ := 1024 * 1024
def maxJson : ℕ := 4 * 1024 * 1024
def location : String := "active-object-namespace"
def exclusions : List String :=
  ["backups", "replicas", "downstream-copies", "training-derivatives", "open-handles-and-memory", "storage-media"]

def isIdentifierChar (c : Char) : Bool := c.toNat < 128 && (c.isAlphanum || c = '_' || c = '-')

/-- `identifier` -/
def identifier (value : Json) : Run String :=
  match value with
  | .str s =>
    match s.toList with
    | c :: cs =>
      if isIdentifierChar c && c ≠ '_' && c ≠ '-' && cs.length ≤ 63 && cs.all isIdentifierChar then .ok s
      else inputError "Unsupported bounded identifier"
    | [] => inputError "Unsupported bounded identifier"
  | _ => inputError "Unsupported bounded identifier"

/-- The hooks of `decode_json`: no duplicate key, no constant and no float. -/
def jsonHooks : Hooks where
  parseInt t := .ok (.int (intToken t))
  parseFloat _ := .error "Non-finite JSON constant"
  parseConstant _ := .error "Non-finite JSON constant"
  objectPairs := uniquePairs "Duplicate JSON key"

mutual
/-- `reject_floats` of `capture` -/
def rejectFloats : Json → Run Unit
  | .float _ => inputError "This bounded protocol has no floating-point fields"
  | .arr xs => rejectFloatsElems xs
  | .obj ms => rejectFloatsMembers ms
  | _ => .ok ()
def rejectFloatsElems : List Json → Run Unit
  | [] => .ok ()
  | x :: xs => do rejectFloats x; rejectFloatsElems xs
def rejectFloatsMembers : List (String × Json) → Run Unit
  | [] => .ok ()
  | (_, x) :: ms => do rejectFloats x; rejectFloatsMembers ms
end

section Messages
variable (pk : Packages)

/-- `decode_json` -/
def decodeJson (raw : Bytes) : Run Json := Incident.decodeJson pk jsonHooks maxJson raw

/-- `capture` -/
def capture (value : Json) : Run Json := do
  boundedJson 0 value
  rejectFloats value
  decodeJson pk (← canonical pk value)

/-- `sign_message` -/
def signMessage (body : Json) (secret keyId : String) : Run Json := signEnvelope pk controlDomain body secret keyId

/-- `sign_record` -/
def signRecord (body : Json) (secret keyId : String) : Run Json := signEnvelope pk recordDomain body secret keyId

def envelopeTexts : EnvelopeTexts := ⟨"Unexpected signature algorithm or key", "Unexpected record kind", "Invalid signature"⟩

/-- `verify_message` -/
def verifyMessage (envelope : Json) (public_ : String) (keyId : Json) (kind : String) : Run Json :=
  verifyEnvelope pk controlDomain envelopeTexts envelope public_ keyId kind

/-- `verify_record` -/
def verifyRecord (envelope : Json) (public_ : String) (keyId : Json) (kind : String) : Run Json :=
  verifyEnvelope pk recordDomain envelopeTexts envelope public_ keyId kind

/-- `object_name` -/
def objectName (manifest : Json) : Run String := do
  let fields := ["provider_id", "tenant_id", "object_id", "version_id"]
  fields.forM fun k => do let _ ← identifier (manifest.item k)
  return (← digest pk (pick fields manifest)) ++ ".bin"

/-! ## Pins -/

def pinFields : List String :=
  ["provider_id", "tenant_id", "location", "requester_key_id", "provider_key_id", "observer_key_id", "keys"]
def keyFields : List String := ["public_key", "issuer", "organization", "roles", "not_before", "not_after"]
def manifestFields : List String :=
  ["provider_id", "tenant_id", "object_id", "version_id", "sha256", "byte_length", "location"]
def subjectFields : List String :=
  ["request_id", "provider_id", "tenant_id", "object_ids", "payload_sha256", "stage"]
def recordFields : List String := ["record_id", "evaluation_id", "kind", "issuer", "recorded_at", "binding", "data"]
/-- `ROLE_NAMES` -/
def roleNames : List (String × String) :=
  [("requester", "responder"), ("provider", "provider"), ("observer", "reviewer")]

/-- `_length`, with the text of its error. -/
def objectLength (message : String) (value : Json) : Run Unit :=
  match value with
  | .int n => Incident.require (1 ≤ n && n ≤ maxObject) message
  | _ => inputError message

/-- `_key` -/
def keyOf (pins : Json) (role : String) : Json × Json :=
  let keyId := pins.item (role ++ "_key_id")
  match keyId with
  | .str s => (keyId, (pins.item "keys").item s)
  | _ => (keyId, .null)

/-- `_key_time` -/
def keyTime (key : Json) (at_ : ℤ) : Run Unit := do
  let start ← timestamp (key.item "not_before")
  let stop ← timestamp (key.item "not_after")
  Incident.require (start ≤ at_ && at_ < stop) "Evidence or action time is outside pinned key validity"

/-- `validate_pins` -/
def validatePins (pins : Json) : Run Json := do
  let pins ← capture pk pins
  exactKeys pins pinFields []
  let _ ← identifier (pins.item "provider_id")
  let _ ← identifier (pins.item "tenant_id")
  Incident.require (pins.item "location" = .str location) "Only the pinned active object namespace is supported"
  let ids ← roleNames.mapM fun r => identifier (pins.item (r.1 ++ "_key_id"))
  Incident.require ids.Nodup "Requester, provider and observer require distinct key identifiers"
  exactKeys (pins.item "keys") ids []
  let publicKeys ← roleNames.mapM fun r => do
    let (_, key) := keyOf pins r.1
    exactKeys key keyFields []
    let public_ ← digestHex (key.item "public_key") 32
    let _ ← identifier (key.item "issuer")
    Incident.require (key.item "organization" = .str "single-local-controller" && key.item "roles" = .arr [.str r.2])
      "Pinned organization or exact role differs from this local experiment"
    let left ← timestamp (key.item "not_before")
    let right ← timestamp (key.item "not_after")
    Incident.require (left < right) "Pinned key validity interval must be nonempty"
    return public_
  Incident.require publicKeys.Nodup "The three local roles require distinct public keys"
  return pins

/-! ## Tasks -/

/-- What both `_manifest` functions check, each with texts of its own. -/
def checkManifest (lengthError pinError : String) (manifest pins : Json) : Run Unit := do
  exactKeys manifest manifestFields []
  ["provider_id", "tenant_id", "object_id", "version_id"].forM fun k => do let _ ← identifier (manifest.item k)
  let _ ← digestHex (manifest.item "sha256") 32
  objectLength lengthError (manifest.item "byte_length")
  ["provider_id", "tenant_id", "location"].forM fun k => Incident.require (manifest.item k = pins.item k) pinError

/-- `_manifest` of the adapter -/
def taskManifest (manifest pins : Json) : Run Unit :=
  checkManifest "Object byte length must be a bounded positive integer"
    "Manifest differs from the independently pinned provider, tenant or location" manifest pins

/-- `validate_data` of the assessor for a request. -/
def validateRequestData (data : Json) : Run (List String) := do
  exactKeys data ["requested_at", "requested_locations"] []
  let _ ← timestamp (data.item "requested_at")
  let locations ← strings (data.item "requested_locations")
  Incident.require (locations ≠ []) "Evidence identifiers, locations and review limitations cannot be empty"
  return locations

/-- `_record` for the request of a task: the body and its locations. -/
def requestRecord (envelope pins : Json) : Run (Json × List String) := do
  let (keyId, key) := keyOf pins "requester"
  let public_ ← digestHex (key.item "public_key") 32
  let body ← verifyRecord pk envelope public_ keyId "erasure.request"
  exactKeys body recordFields []
  ["record_id", "evaluation_id", "issuer"].forM fun k => do let _ ← identifier (body.item k)
  Incident.require (body.item "issuer" = key.item "issuer") "Record issuer differs from the separately pinned identity"
  let recorded ← timestamp (body.item "recorded_at")
  keyTime key recorded
  exactKeys (body.item "binding") subjectFields []
  let locations ← validateRequestData (body.item "data")
  return (body, locations)

/-- What `validate_task` returns. -/
structure TaskContext where
  requestId : String
  evaluationId : Json
  subject : Json
  operationAt : Json
  validUntil : Json
  taskSha256 : String
  manifestSha256 : String
  requestRecordId : Json
  manifest : Json

/-- `validate_task` -/
def validateTask (task pins at_ : Json) : Run TaskContext := do
  let pins ← validatePins pk pins
  let task ← capture pk task
  let actionAt ← timestamp at_
  exactKeys task ["format", "manifest", "request", "authorization"] []
  Incident.require (task.item "format" = .str "incident-erasure-task/0.1") "Unsupported erasure task format"
  let manifest := task.item "manifest"
  taskManifest manifest pins
  let (request, locations) ← requestRecord pk (task.item "request") pins
  let subject := request.item "binding"
  let requestId ← identifier (subject.item "request_id")
  let manifestSha256 ← digest pk manifest
  Incident.require (subject = dict [("request_id", subject.item "request_id"), ("provider_id", manifest.item "provider_id"),
      ("tenant_id", manifest.item "tenant_id"), ("object_ids", .arr [manifest.item "object_id"]),
      ("payload_sha256", .str manifestSha256), ("stage", .str "erasure")])
    "Request does not bind the complete immutable object manifest"
  let data := request.item "data"
  Incident.require (locations.contains location && locations.all fun l => (location :: exclusions).contains l)
    "Request contains unsupported or missing locations"
  Incident.require (request.item "recorded_at" = data.item "requested_at") "Request record and event time must agree"
  let (keyId, key) := keyOf pins "requester"
  let public_ ← digestHex (key.item "public_key") 32
  let authorization ← verifyMessage pk (task.item "authorization") public_ keyId "deletion_authorization"
  exactKeys authorization ["kind", "request_sha256", "manifest_sha256", "authorized_at", "valid_until"] []
  let requestSha256 ← digestHex (authorization.item "request_sha256") 32
  let boundManifest ← digestHex (authorization.item "manifest_sha256") 32
  Incident.require (requestSha256 = (← digest pk (task.item "request")) && boundManifest = manifestSha256 &&
      authorization.item "authorized_at" = data.item "requested_at")
    "Authorization does not bind this exact request, manifest and request time"
  let start ← timestamp (authorization.item "authorized_at")
  let stop ← timestamp (authorization.item "valid_until")
  Incident.require (start ≤ actionAt && actionAt < stop) "Proposed action is outside the half-open authorization interval"
  keyTime key start
  keyTime key actionAt
  return {
    requestId
    evaluationId := request.item "evaluation_id"
    subject
    operationAt := data.item "requested_at"
    validUntil := authorization.item "valid_until"
    taskSha256 := ← digest pk task
    manifestSha256
    requestRecordId := request.item "record_id"
    manifest }

variable {pk}

/-- The digest of a context is that of the task as captured. -/
theorem validateTask_sha256 {task pins at_ : Json} {context : TaskContext}
    (h : validateTask pk task pins at_ = .ok context) :
    ∃ captured, capture pk task = .ok captured ∧ digest pk captured = .ok context.taskSha256 := by
  unfold validateTask at h
  obtain ⟨_, -, h⟩ := bind_ok h
  obtain ⟨captured, hcapture, h⟩ := bind_ok h
  -- the checks of the fields, which do not touch the digest
  iterate 22 obtain ⟨_, -, h⟩ := bind_ok h
  obtain ⟨sha256, hdigest, h⟩ := bind_ok h
  cases h
  exact ⟨captured, hcapture, hdigest⟩

end Messages
end VapEvidence.Erasure

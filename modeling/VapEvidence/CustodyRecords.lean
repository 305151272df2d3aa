import VapEvidence.AuthorizationGate

set_option autoImplicit false

/-!
# Custody of evidence

The collection package of the payment collector, its signed statements, the
collector's store, and the observations and prerequisite markers that a client
keeps in the payment journal.
-/
namespace VapEvidence.Custody
open Json Payment

def packageSchema : String := "synthetic-payment-collection-package-v0"
def ackSchema : String := "synthetic-payment-collection-ack-v0"
def readbackSchema : String := "synthetic-payment-collection-readback-v0"
def observationSchema : String := "synthetic-payment-custody-observation-v0"
def storeSchema : String := "synthetic-payment-custody-store-v0"
def signingDomain : Bytes := encodeUtf8 "VSO synthetic payment custody v0".toList ++ [0]
def maxEvidenceBytes : ℕ := 65536
def maxMessageBytes : ℕ := 524288
def stages : List String := ["PRE_DISPATCH", "POST_EFFECT", "HISTORICAL_RECOVERY"]
def packageFields : List String :=
  ["schema", "request_bytes", "request_digest", "context_digest", "kind", "phase",
    "evidence_bytes", "evidence_digest", "evidence_length"]
def bindingFields : List String :=
  ["request_digest", "context_digest", "kind", "phase", "evidence_digest", "evidence_length"]
def ackFields : List String :=
  ["schema", "collector_id", "storage_epoch", "recorded_at_ms", "package_digest"] ++ bindingFields
def readbackFields : List String :=
  ["schema", "collector_id", "recovery_epoch", "nonce", "observed_at_ms", "state",
    "package_digest", "context_digest", "ack_digest"]
def observationFields : List String :=
  ["schema", "request_digest", "kind", "stage", "package_bytes", "ack_bytes", "readback_bytes",
    "nonce", "collector_epoch", "collector_identity_digest", "recorded_at_ms"]

/-- `KINDS` -/
inductive Kind where
  | admissionRecord
  | providerReceipt
  deriving DecidableEq

def Kind.text : Kind → String
  | .admissionRecord => "admission_record"
  | .providerReceipt => "provider_receipt"

def Kind.phase : Kind → String
  | .admissionRecord => "admission"
  | .providerReceipt => "outcome"

def kindOf (v : Json) : Option Kind :=
  [Kind.admissionRecord, .providerReceipt].find? fun kind => v = .str kind.text

def collectorBounds : JsonBounds where
  depth := 20
  string := maxMessageBytes
  list := 256
  dict := 128
  document := maxMessageBytes
  depthError := "collector_json_depth"
  integerError := "collector_json_integer"
  stringError := "collector_json_string"
  typeError := "collector_json_type_or_size"
  documentError := "collector_message_size_limit"
  inputError := "collector_input_size_or_type"

section Records
variable (py : Platform)

/-- `canonical_json` of the collector. -/
def encode (v : Json) : Except String Bytes := canonicalJson py collectorBounds v

/-- `load_json` of the collector. -/
def decode (raw : Bytes) : Except String Json := loadJson py collectorBounds raw

def encodeDigest (v : Json) : Except String String := do
  return bytesDigest py (← encode py v)

/-- `_hex` -/
def hexBytes (maximum : ℕ) (value : Json) : Except String Bytes :=
  match value with
  | .str s =>
    if 0 < s.length ∧ s.length ≤ maximum * 2 then
      match unhex s with
      | some raw => .ok raw
      | none => .error "collector_hex_shape_or_size"
    else .error "collector_hex_shape_or_size"
  | _ => .error "collector_hex_shape_or_size"

/-! ## Packages -/

def packageOk (raw : Bytes) (package : Json) : Bool :=
  package.hasFields packageFields && package.item "schema" = .str packageSchema &&
    encode py package = .ok raw &&
    (kindOf (package.item "kind")).any (fun kind => package.item "phase" = .str kind.phase) &&
    hashOk (package.item "request_digest") && hashOk (package.item "context_digest") &&
    hashOk (package.item "evidence_digest") && integerOk (package.item "evidence_length")

variable {py} in
/-- The binding of the retained evidence to the request, by kind. -/
def evidenceBinding (r : Request py) (kind : Json) (body : Json) : Except String Unit :=
  if kind = .str Kind.admissionRecord.text then
    require (body.isDict && body.item "schema" = .str Authorization.proofSchema &&
      body.item "request_bytes" = .str (hex r.raw)) "admission_record_request_binding"
  else
    let payload := body.item "payload"
    if payload.isDict && payload.item "schema" = .str receiptSchema &&
        payload.item "request_digest" = .str r.digest then do
      let raw ← requestBytes py (payload.item "request")
      require (raw = r.raw) "provider_receipt_request_binding"
    else .error "provider_receipt_request_binding"

/-- `validate_package` -/
def validatePackage (raw : Bytes) (context : Json) : Except String Json := do
  let package ← decode py raw
  require (packageOk py raw package) "collection_package_shape"
  let rawRequest ← hexBytes maxEvidenceBytes (package.item "request_bytes")
  let r ← readRequest py "collection_request_context_binding" rawRequest
  require (contextFields.all (fun f => r.json.item f = context.item f) &&
    package.item "request_digest" = .str r.digest) "collection_request_context_binding"
  let contextDigest ← encodeDigest py context
  require (package.item "context_digest" = .str contextDigest) "collection_request_context_binding"
  let evidence ← hexBytes maxEvidenceBytes (package.item "evidence_bytes")
  require (package.item "evidence_length" = .int evidence.length &&
    package.item "evidence_digest" = .str (bytesDigest py evidence)) "collection_original_bytes_binding"
  let body ← load py evidence
  evidenceBinding r (package.item "kind") body
  return package

variable {py} in
def packageValue (r : Request py) (contextDigest : String) (kind : Kind) (evidence : Bytes) : Json :=
  dict [("schema", .str packageSchema), ("request_bytes", .str (hex r.raw)),
    ("request_digest", .str r.digest), ("context_digest", .str contextDigest),
    ("kind", .str kind.text), ("phase", .str kind.phase), ("evidence_bytes", .str (hex evidence)),
    ("evidence_digest", .str (bytesDigest py evidence)), ("evidence_length", .int evidence.length)]

variable {py} in
/-- `make_package` -/
def makePackage (r : Request py) (kind : Kind) (evidence : Bytes) : Except String Bytes := do
  require (0 < evidence.length && evidence.length ≤ maxEvidenceBytes) "original_evidence_kind_or_size"
  let context := pick contextFields r.json
  let contextDigest ← encodeDigest py context
  let packed ← encode py (packageValue r contextDigest kind evidence)
  let _ ← validatePackage py packed context
  return packed

def bindingMembers (package : Json) (raw : Bytes) : List (String × Json) :=
  ("package_digest", .str (bytesDigest py raw)) :: bindingFields.map fun f => (f, package.item f)

/-! ## Signed statements -/

def signStatement (privateKey : Bytes) (payload : Json) : Except String Bytes := do
  let signed ← encode py payload
  encode py (envelope payload (py.sign privateKey (signingDomain ++ signed)))

/-- `_verify_statement` -/
def verifyStatement (raw publicKey : Bytes) : Except String Json := do
  require (publicKey.length = 32) "collector_pinned_public_key_shape"
  let body ← decode py raw
  require (body.hasFields ["payload", "signature"] && encode py body = .ok raw &&
    (body.item "payload").isDict && signatureOk (body.item "signature")) "collector_signed_envelope_shape"
  require (py.publicKeyLoads publicKey) "An Ed25519 public key is 32 bytes long"
  let (message, signature) ← signedParts signingDomain (encode py) body
  require (py.verify publicKey message signature) "collector_signature_invalid"
  return body.item "payload"

/-- The pins of a collector client. -/
structure Pins where
  context : Json
  publicKey : Bytes
  collectorId : String
  recoveryEpoch : ℤ

/-- `verify_ack` -/
def verifyAck (ack package publicKey : Bytes) (collectorId : String) (recoveryEpoch : ℤ) :
    Except String Json := do
  let value ← decode py package
  let payload ← verifyStatement py ack publicKey
  require (payload.hasFields ackFields && payload.item "schema" = .str ackSchema &&
    payload.item "collector_id" = .str collectorId && integerOk (payload.item "storage_epoch") &&
    (payload.item "storage_epoch").number ≤ recoveryEpoch && integerOk (payload.item "recorded_at_ms") &&
    (bindingMembers py value package).all (fun m => payload.item m.1 = m.2))
    "collector_ack_binding_or_epoch"
  return payload

def nonceOk (nonce : String) : Bool := nonce.length = 32 && nonce.toList.all isLowerHex

/-- What a verified readback shows; the acknowledgment is absent when the state is `MISSING`. -/
structure Readback where
  readbackBytes : Bytes
  ackBytes : Option Bytes
  nonce : String
  deriving DecidableEq

def readbackOk (observed value : Json) (package : Bytes) (nonce collectorId : String)
    (recoveryEpoch : ℤ) : Bool :=
  observed.hasFields readbackFields && observed.item "schema" = .str readbackSchema &&
    observed.item "collector_id" = .str collectorId && observed.item "nonce" = .str nonce &&
    nonceOk nonce && observed.item "recovery_epoch" = .int recoveryEpoch &&
    integerOk (observed.item "recovery_epoch") &&
    observed.item "package_digest" = .str (bytesDigest py package) &&
    observed.item "context_digest" = value.item "context_digest" &&
    integerOk (observed.item "observed_at_ms")

/-- `verify_readback` with `historical` left false. -/
def verifyReadback (response package publicKey : Bytes) (nonce collectorId : String)
    (recoveryEpoch : ℤ) : Except String Readback := do
  let value ← decode py package
  let response ← decode py response
  require (response.hasFields ["readback_bytes", "ack_bytes", "package_bytes"])
    "collector_readback_response_shape"
  let readbackBytes ← hexBytes maxEvidenceBytes (response.item "readback_bytes")
  let observed ← verifyStatement py readbackBytes publicKey
  require (readbackOk py observed value package nonce collectorId recoveryEpoch)
    "collector_readback_binding_or_fresh_challenge"
  if observed.item "state" = .str "MISSING" then
    require (response.item "ack_bytes" = .null && response.item "package_bytes" = .null &&
      observed.item "ack_digest" = .null) "collector_missing_readback_shape"
    return ⟨readbackBytes, none, nonce⟩
  else do
    require (observed.item "state" = .str "PRESENT") "collector_readback_state"
    let ack ← hexBytes maxEvidenceBytes (response.item "ack_bytes")
    let original ← hexBytes maxMessageBytes (response.item "package_bytes")
    require (original = package && observed.item "ack_digest" = .str (bytesDigest py ack))
      "collector_readback_original_bytes_mismatch"
    let _ ← verifyAck py ack original publicKey collectorId recoveryEpoch
    return ⟨readbackBytes, some ack, nonce⟩

/-! ## The collector -/

structure CollectorConfig where
  context : Json
  privateKey : Bytes
  credential : String
  collectorId : String
  recoveryEpoch : ℤ

structure CollectionRecord where
  packageDigest : String
  requestDigest : String
  kind : String
  packageBytes : Bytes
  ackBytes : Bytes
  deriving DecidableEq

/-- `PRIMARY KEY(package_digest)`, `UNIQUE(request_digest, kind)` -/
def CollectionRecord.Clash (a b : CollectionRecord) : Prop :=
  a.packageDigest = b.packageDigest ∨ (a.requestDigest = b.requestDigest ∧ a.kind = b.kind)

instance : DecidableRel CollectionRecord.Clash := fun a b => by
  unfold CollectionRecord.Clash
  infer_instance

structure CollectorStore where
  metadata : Option Metadata
  records : Table (id : CollectionRecord → CollectionRecord) CollectionRecord.Clash

def CollectorStore.empty : CollectorStore := ⟨none, .empty⟩

def storeIdentity (config : CollectorConfig) : Json :=
  dict [("schema", .str storeSchema), ("context", config.context),
    ("collector_id", .str config.collectorId),
    ("public_key", .str (hex (py.publicKey config.privateKey)))]

/-- `_initialize`: the configuration the process serves with, and the store. -/
def initializeCollector (config : CollectorConfig) (s : CollectorStore) :
    Except Failure (CollectorConfig × CollectorStore) := do
  let context ← check (validateContext py config.context)
  check (require (credentialOk config.credential) "ephemeral_credential_shape")
  check (require (config.privateKey.length = 32) "provider_private_key_shape")
  check (require (textOk (.str config.collectorId) && integerOk (.int config.recoveryEpoch))
    "collector_configuration_shape")
  let config := { config with context }
  let identity := storeIdentity py config
  let identityDigest ← check (encodeDigest py identity)
  let metadata ← check (storeMeta py identity config.recoveryEpoch identityDigest s.metadata)
  return (config, { s with metadata := some metadata })

/-- `_collect` -/
def collect (config : CollectorConfig) (raw : Bytes) (now : ℤ) (s : CollectorStore) :
    Except Failure (Bytes × CollectorStore) := do
  let package ← check (validatePackage py raw config.context)
  let requestDigest := (package.item "request_digest").text
  let kind := (package.item "kind").text
  match s.records.rows.find? fun old => old.requestDigest = requestDigest && old.kind = kind with
  | some old =>
    if old.packageBytes ≠ raw then .error (.value "original_collection_conflict")
    else return (old.ackBytes, s)
  | none =>
    let identityDigest ← check (encodeDigest py (storeIdentity py config))
    check (currentGeneration py s.metadata config.recoveryEpoch identityDigest)
    let ack ← check (signStatement py config.privateKey (dict ([("schema", .str ackSchema),
      ("collector_id", .str config.collectorId), ("storage_epoch", .int config.recoveryEpoch),
      ("recorded_at_ms", .int now)] ++ bindingMembers py package raw)))
    let records ← integrity (s.records.insert ⟨bytesDigest py raw, requestDigest, kind, raw, ack⟩)
    return (ack, { s with records })

/-- `_readback` -/
def readback (config : CollectorConfig) (packageDigest nonce : String) (now : ℤ) (s : CollectorStore) :
    Except Failure Bytes := do
  let identityDigest ← check (encodeDigest py (storeIdentity py config))
  check (currentGeneration py s.metadata config.recoveryEpoch identityDigest)
  let row := s.records.rows.find? fun row => row.packageDigest = packageDigest
  let contextDigest ← check (encodeDigest py config.context)
  let hexOrNull := fun (raw : Option Bytes) => ((raw.map fun raw => Json.str (hex raw)).getD .null)
  let signed ← check (signStatement py config.privateKey (dict [("schema", .str readbackSchema),
    ("collector_id", .str config.collectorId), ("recovery_epoch", .int config.recoveryEpoch),
    ("nonce", .str nonce), ("observed_at_ms", .int now),
    ("state", .str (if row.isSome then "PRESENT" else "MISSING")),
    ("package_digest", .str packageDigest), ("context_digest", .str contextDigest),
    ("ack_digest", (row.map fun row => Json.str (bytesDigest py row.ackBytes)).getD .null)]))
  check (encode py (dict [("readback_bytes", .str (hex signed)),
    ("ack_bytes", hexOrNull (row.map CollectionRecord.ackBytes)),
    ("package_bytes", hexOrNull (row.map CollectionRecord.packageBytes))]))

/-! ## The client's journal -/

/-- `CollectedAdapter` with the pins of its `CollectorClient`. -/
structure CollectedAdapter where
  authorized : Authorization.AuthorizedAdapter
  pins : Pins
  faultHook : Bool

/-- `CollectedAdapter._identity` -/
def pinIdentity (pins : Pins) : Json :=
  dict [("collector_id", .str pins.collectorId), ("public_key", .str (hex pins.publicKey)),
    ("context", pins.context)]

/-- `CollectorClient.__init__` and `CollectedAdapter.__init__` up to the journal. -/
def newCollectedAdapter (authorized : Authorization.AuthorizedAdapter) (endpoint : String)
    (context : Json) (publicKey : Bytes) (credential collectorId : String) (recoveryEpoch : ℤ)
    (faultHook : Bool) : Except String CollectedAdapter := do
  let _ ← checkEndpoint endpoint
  let context ← validateContext py context
  require (publicKey.length = 32) "collector_public_key_shape"
  require (py.publicKeyLoads publicKey) "An Ed25519 public key is 32 bytes long"
  require (textOk (.str collectorId) && integerOk (.int recoveryEpoch)) "collector_identity_epoch_shape"
  require (credentialOk credential) "ephemeral_credential_shape"
  require (authorized.adapter.context = context) "collector_payment_context_mismatch"
  return { authorized, pins := { context, publicKey, collectorId, recoveryEpoch }, faultHook }

/-- `_initialize_local` -/
def initializeLocal (c : CollectedAdapter) (j : Journal) : Except Failure Journal := do
  let _ ← check (encode py (pinIdentity c.pins))
  let expected := String.ofList (dumps py.floatRepr false (pinIdentity c.pins))
  match j.custodyMetadata with
  | none => return { j with custodyMetadata := some ⟨expected, c.pins.recoveryEpoch⟩ }
  | some old =>
    check (require (old.identity = expected && old.epoch ≤ c.pins.recoveryEpoch)
      "persisted_custody_pin_or_epoch_mismatch")
    return { j with custodyMetadata := some { old with epoch := c.pins.recoveryEpoch } }

variable {py}

/-- A package read back from the collector with the acknowledgment it was given. -/
structure Collected where
  ackBytes : Bytes
  readbackBytes : Bytes
  nonce : String

def observationValue (pins : Pins) (pinDigest : String) (package : Bytes) (value : Json)
    (observed : Collected) (stage : String) (now : ℤ) : Json :=
  dict [("schema", .str observationSchema), ("request_digest", value.item "request_digest"),
    ("kind", value.item "kind"), ("stage", .str stage), ("package_bytes", .str (hex package)),
    ("ack_bytes", .str (hex observed.ackBytes)), ("readback_bytes", .str (hex observed.readbackBytes)),
    ("nonce", .str observed.nonce), ("collector_epoch", .int pins.recoveryEpoch),
    ("collector_identity_digest", .str pinDigest), ("recorded_at_ms", .int now)]

/-- The immediate foreign keys on `dispatches`. -/
def claimed (j : Journal) (requestDigest : String) : Except Failure Unit :=
  if j.dispatches.rows.any fun d => d.identity.requestDigest = requestDigest then .ok ()
  else .error (.sqlite "FOREIGN KEY constraint failed")

/-- The transaction of `_persist`; `recordedAt` is read before it begins. -/
def persist (c : CollectedAdapter) (r : Request py) (package : Bytes) (observed : Collected)
    (stage : String) (recordedAt : ℤ) (j : Journal) : Except Failure Journal := do
  let value ← check (validatePackage py package c.pins.context)
  check (require (stages.contains stage) "custody_stage")
  let pinDigest ← check (encodeDigest py (pinIdentity c.pins))
  let record ← check (encode py (observationValue c.pins pinDigest package value observed stage recordedAt))
  let requestDigest := (value.item "request_digest").text
  let kind := (value.item "kind").text
  check (require (j.custodyMetadata.any fun m => m.epoch = c.pins.recoveryEpoch) "stale_custody_writer_epoch")
  let claim ← check (find Dispatch.identity j.dispatches.rows c.authorized.adapter.scope r)
  check (require (claim.any fun d => stage ≠ "PRE_DISPATCH" || d.observed.isNone)
    "original_claim_not_eligible_for_custody")
  claimed j requestDigest
  let observations ← integrity (j.observations.insert
    ⟨bytesDigest py record, requestDigest, kind, stage, record⟩)
  if stage = "PRE_DISPATCH" then
    check (require (kind = Kind.admissionRecord.text) "pre_dispatch_admission_record_required")
    let prerequisites ← integrity (j.prerequisites.insert ⟨requestDigest, bytesDigest py record⟩)
    return { j with observations, prerequisites }
  else return { j with observations }

abbrev Originals := List (Kind × Bytes)

/-- An observation that `_verified_local` accepted. -/
structure LocalObservation where
  row : CustodyObservation
  packageBytes : Bytes
  ackBytes : Bytes
  readbackBytes : Bytes
  nonce : String
  collectorEpoch : ℤ

def observationOk (pins : Pins) (pinDigest : String) (row : CustodyObservation) (record : Json)
    (requestDigest : String) : Bool :=
  record.hasFields observationFields && record.item "schema" = .str observationSchema &&
    encode py record = .ok row.recordBytes && bytesDigest py row.recordBytes = row.observationDigest &&
    record.item "request_digest" = .str requestDigest && row.requestDigest = requestDigest &&
    record.item "kind" = .str row.kind && record.item "stage" = .str row.stage &&
    stages.contains row.stage && integerOk (record.item "collector_epoch") &&
    (record.item "collector_epoch").number ≤ pins.recoveryEpoch &&
    record.item "collector_identity_digest" = .str pinDigest && integerOk (record.item "recorded_at_ms")

/-- `_verified_local` -/
def verifiedLocal (pins : Pins) (row : CustodyObservation) (expected : Originals) (requestDigest : String) :
    Except String LocalObservation := do
  let record ← decode py row.recordBytes
  let pinDigest ← encodeDigest py (pinIdentity pins)
  require (@observationOk py pins pinDigest row record requestDigest) "local_custody_record_shape_or_pin"
  let package ← hexBytes maxMessageBytes (record.item "package_bytes")
  require ((kindOf (record.item "kind")).any fun kind => expected.lookup kind = some package)
    "local_custody_original_evidence_mismatch"
  let response ← encode py (pick ["readback_bytes", "ack_bytes", "package_bytes"] record)
  let nonce := (record.item "nonce").text
  let checked ← verifyReadback py response package pins.publicKey nonce pins.collectorId
    (record.item "collector_epoch").number
  match checked.ackBytes with
  | none => .error "local_custody_present_observation_required"
  | some ack => return ⟨row, package, ack, checked.readbackBytes, nonce, (record.item "collector_epoch").number⟩

end Records
end VapEvidence.Custody

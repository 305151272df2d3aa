import Mathlib.Data.String.Basic
import VapEvidence.PaymentReceipt

set_option autoImplicit false

/-!
# Assessment of payment evidence

`payment_evidence.py`: a bundle of signed records about one synthetic payment, and the
three-valued verdicts on its authorization, its execution and its controls.
-/
namespace VapEvidence.PaymentEvidence
open Json

def bundleSchema : String := "experimental-payment-evidence-bundle-v0"
def adapterName : String := "synthetic-payment-request-v0"
def signingDomain : Bytes := encodeUtf8 "VSO experimental payment evidence v0".toList ++ [0]
def maxDocument : ℕ := 1048576
def maxString : ℕ := 65536

/-- The keys of `ROLES`. -/
inductive Slot where
  | policy
  | makerApproval
  | checkerApproval
  | finalStatus
  | dispatch
  | providerReceipt
  | control
  | collector
  deriving DecidableEq

def Slot.name : Slot → String
  | .policy => "policy"
  | .makerApproval => "maker_approval"
  | .checkerApproval => "checker_approval"
  | .finalStatus => "final_status"
  | .dispatch => "dispatch"
  | .providerReceipt => "provider_receipt"
  | .control => "control"
  | .collector => "collector"

/-- `ROLES` -/
def Slot.role : Slot → String
  | .policy => "policy_authority"
  | .makerApproval | .checkerApproval => "approver"
  | .finalStatus => "status_authority"
  | .dispatch => "execution_observer"
  | .providerReceipt => "payment_provider"
  | .control => "control_observer"
  | .collector => "collector"

def slots : List Slot :=
  [.policy, .makerApproval, .checkerApproval, .finalStatus, .dispatch, .providerReceipt, .control, .collector]

def approvalSlots : List Slot := [.makerApproval, .checkerApproval]

def requiredRoutes : List (String × String) :=
  [("payment_gate", "gated"), ("test_to_production", "blocked"), ("cloud_management", "blocked"), ("deployment", "blocked")]

section Values
variable (py : Platform)

/-! ## Restricted JSON -/

def checkText (depth : ℕ) (s : String) : Except String Unit :=
  if 32 < depth then .error "json_nesting_limit"
  else if maxString < s.length then .error "json_string_limit"
  else if py.normalizeNFC s ≠ s then .error "non_nfc_string"
  else .ok ()

mutual
/-- `_json_value` -/
def jsonValue (depth : ℕ) : Json → Except String Unit
  | .null => require (depth ≤ 32) "json_nesting_limit"
  | .bool _ => require (depth ≤ 32) "json_nesting_limit"
  | .int n => do
    require (depth ≤ 32) "json_nesting_limit"
    require (n.natAbs ≤ maxInteger) "unsafe_json_integer"
  | .float _ => do
    require (depth ≤ 32) "json_nesting_limit"
    .error "unsupported_json_type"
  | .str s => checkText py depth s
  | .arr xs => do
    require (depth ≤ 32) "json_nesting_limit"
    require (xs.length ≤ 256) "json_array_limit"
    jsonElems (depth + 1) xs
  | .obj ms => do
    require (depth ≤ 32) "json_nesting_limit"
    require (ms.length ≤ 256) "json_object_limit"
    jsonMembers (depth + 1) ms
def jsonElems (depth : ℕ) : List Json → Except String Unit
  | [] => .ok ()
  | x :: xs => do jsonValue depth x; jsonElems depth xs
def jsonMembers (depth : ℕ) : List (String × Json) → Except String Unit
  | [] => .ok ()
  | (k, x) :: ms => do checkText py depth k; jsonValue depth x; jsonMembers depth ms
end

/-- `canonical_json` -/
def canonicalJson (v : Json) : Except String Bytes := do
  jsonValue py 0 v
  let result := encodeUtf8 (dumps py.floatRepr false v)
  require (result.length ≤ maxDocument) "json_document_limit"
  return result

/-- `_no_float` twice and `_unique_pairs`. -/
def evidenceHooks : Hooks where
  parseInt t := .ok (.int (intToken t))
  parseFloat _ := .error "non_integer_json_number"
  parseConstant _ := .error "non_integer_json_number"
  objectPairs := uniquePairs "duplicate_json_key"

/-- `load_json` on bytes. -/
def loadJson (raw : Bytes) : Except String Json := do
  require (raw.length ≤ maxDocument) "json_input_type_or_size"
  match decodeText raw with
  | none => .error "invalid text encoding"
  | some s => do
    let value ← loads evidenceHooks s
    let _ ← canonicalJson py value
    return value

def bytesDigest (raw : Bytes) : String := "sha256:" ++ hex (py.sha256 raw)

def digest (v : Json) : Except String String := do return bytesDigest py (← canonicalJson py v)

/-! ## Field checks -/

def textOk : Json → Bool
  | .str s => 0 < s.length && s.length ≤ 256
  | _ => false

def integerOk : Json → Bool
  | .int n => 0 ≤ n && n ≤ maxInteger
  | _ => false

def hashOk : Json → Bool
  | .str s => Payment.hashText s
  | _ => false

def decimalOk : Json → Bool
  | .str s => s.length ≤ 78 && Payment.decimalDigits s.toList
  | _ => false

/-- `int` of a decimal text. -/
def decimalValue (v : Json) : ℕ := Nat.ofDigitChars 10 v.text.toList 0

def elements : Json → List Json
  | .arr xs => xs
  | _ => []

/-- `_texts` -/
def textsOk : Json → Bool
  | .arr xs => xs.length ≤ 64 && xs.all textOk && decide xs.Nodup
  | _ => false

def hashMapOk : Json → Bool
  | .obj ms => ms.all fun m => textOk (.str m.1) && hashOk m.2
  | _ => false

def approvalRefsOk (v : Json) : Bool := hashMapOk v && v.hasFields (approvalSlots.map Slot.name)

/-- `_request_hex` -/
def requestHexOk : Json → Bool
  | .str s => 0 < s.length && s.length ≤ 65536 && (unhex s).isSome
  | _ => false

def routesOk : Json → Bool
  | .obj ms => ms.all fun m =>
      textOk (.str m.1) && ["gated", "blocked", "bypassed", "unobserved"].any fun s => m.2 = .str s
  | _ => false

def currencyOk : Json → Bool
  | .str s => s.length = 3 && s.toList.all fun c => 'A' ≤ c && c ≤ 'Z'
  | _ => false

def scaleOk : Json → Bool
  | .int n => 0 ≤ n && n ≤ 9
  | _ => false

def oneOf (choices : List String) (v : Json) : Bool := choices.any fun s => v = .str s

def nullOr (check : Json → Bool) (v : Json) : Bool := v = .null || check v

def statusCodeOk : Json → Bool
  | .int n => 100 ≤ n && n ≤ 599
  | _ => false

def isText (s : String) (v : Json) : Bool := v = .str s

abbrev Schema : Type := List (String × (Json → Bool))

/-- `_shape` -/
def shape (schema : Schema) (v : Json) : Bool :=
  v.hasFields (schema.map Prod.fst) && schema.all fun f => f.2 (v.item f.1)

def operationSchema : Schema :=
  (["operation_id", "tenant", "environment", "api_audience", "principal_id", "credential_id", "workload_id",
    "source_account", "beneficiary", "idempotency_domain", "idempotency_key"].map fun f => (f, textOk)) ++
  [("adapter", isText adapterName), ("configuration_digest", hashOk), ("policy_digest", hashOk),
    ("payload_digest", hashOk), ("recovery_epoch", integerOk), ("action", isText "transfer"),
    ("amount_minor", fun v => decimalOk v && 0 < decimalValue v), ("currency", currencyOk),
    ("minor_unit_scale", scaleOk), ("nonce", decimalOk), ("valid_from", integerOk), ("valid_until", integerOk)]

def policySchema : Schema :=
  (["policy_id", "version", "tenant", "environment", "api_audience", "provider_id", "principal_id", "credential_id",
    "workload_id"].map fun f => (f, textOk)) ++
  [("adapter", isText adapterName), ("configuration_digest", hashOk), ("recovery_epoch", integerOk),
    ("allowed_sources", textsOk), ("allowed_beneficiaries", textsOk), ("currency", currencyOk),
    ("minor_unit_scale", scaleOk), ("max_amount_minor", decimalOk), ("required_routes", textsOk),
    ("valid_from", integerOk), ("valid_until", integerOk)]

def approvalSchema : Schema :=
  [("approval_id", textOk), ("operation_digest", hashOk), ("policy_digest", hashOk), ("issued_at", integerOk),
    ("expires_at", integerOk)]

def statusSchema : Schema :=
  [("operation_digest", hashOk), ("policy_digest", hashOk), ("approval_digests", approvalRefsOk),
    ("configuration_digest", hashOk), ("recovery_epoch", integerOk), ("credential_id", textOk),
    ("checked_at", integerOk), ("valid_until", integerOk), ("state", oneOf ["active", "revoked", "unknown"]),
    ("revoked_at", nullOr integerOk)]

def dispatchSchema : Schema :=
  [("operation_digest", hashOk), ("policy_digest", hashOk), ("approval_digests", approvalRefsOk),
    ("final_status_digest", hashOk), ("control_digest", hashOk), ("actual_operation", shape operationSchema),
    ("request_hex", requestHexOk), ("dispatched_at", integerOk), ("http_status", nullOr statusCodeOk)]

def receiptSchema : Schema :=
  [("provider_id", textOk), ("api_audience", textOk), ("operation_digest", hashOk), ("payload_digest", hashOk),
    ("dispatch_digest", hashOk), ("observed_at", integerOk),
    ("status", oneOf ["accepted", "pending", "settled", "failed", "reversed", "unknown"])]

def controlSchema : Schema :=
  [("operation_digest", hashOk), ("configuration_digest", hashOk), ("recovery_epoch", integerOk),
    ("observed_at", integerOk), ("observation_boundary", textOk), ("routes", routesOk)]

def collectorSchema : Schema :=
  [("operation_digest", hashOk), ("configuration_digest", hashOk), ("recovery_epoch", integerOk),
    ("checkpoint_id", textOk), ("checkpoint_at", integerOk), ("retained", hashMapOk), ("gaps", textsOk)]

def identitySchema : Schema :=
  [("person_id", textOk), ("roles", textsOk), ("tenant", textOk), ("environment", textOk), ("valid_from", integerOk),
    ("valid_until", integerOk)]

/-- `SCHEMAS` -/
def Slot.schema : Slot → Schema
  | .policy => policySchema
  | .makerApproval | .checkerApproval => approvalSchema
  | .finalStatus => statusSchema
  | .dispatch => dispatchSchema
  | .providerReceipt => receiptSchema
  | .control => controlSchema
  | .collector => collectorSchema

/-- `validate_operation` -/
def validateOperation (operation : Json) : Except String Unit := require (shape operationSchema operation) "operation_shape"

/-- `synthetic_request_bytes` -/
def syntheticRequestBytes (operation : Json) : Except String Bytes := do
  validateOperation operation
  canonicalJson py (dict [("adapter", .str adapterName),
    ("operation", dict (operation.members.filter fun m => m.1 ≠ "payload_digest"))])

end Values

/-! ## Checks -/

/-- What an assessment asks of a `Checks` object, in order. -/
inductive Check where
  | require (holds : Bool) (reason : String)
  | available (holds : Bool) (reason : String)
  | ref (digest : String)
  deriving DecidableEq

/-- `invalid`, `unknown` and `refs` of a `Checks` object. -/
def Check.invalid : Check → Option String
  | .require false reason => some reason
  | _ => none

def Check.unknown : Check → Option String
  | .available false reason => some reason
  | _ => none

def Check.digest : Check → Option String
  | .ref digest => some digest
  | _ => none

inductive Verdict where
  | invalid
  | indeterminate
  | valid
  deriving DecidableEq

def verdictOf (checks : List Check) : Verdict :=
  if checks.filterMap Check.invalid ≠ [] then .invalid
  else if checks.filterMap Check.unknown ≠ [] then .indeterminate
  else .valid

/-- `sorted(set(values))` -/
def sortedSet (values : List String) : List String := values.dedup.mergeSort fun a b => decide (a ≤ b)

structure ClaimResult where
  verdict : Verdict
  reasons : List String
  evidenceRefs : List String
  deriving DecidableEq

/-- `Checks.result` -/
def claimResult (checks : List Check) (success : String) : ClaimResult where
  verdict := verdictOf checks
  reasons :=
    let reasons := checks.filterMap Check.invalid ++ checks.filterMap Check.unknown
    sortedSet (if reasons = [] then [success] else reasons)
  evidenceRefs := sortedSet (checks.filterMap Check.digest)

/-! ## The caller's trust -/

abbrev Trust : Type := List (String × List (String × Bytes))

section Trust
variable (py : Platform)

/-- `_trust` -/
def checkTrust (trust : Trust) : Except String Unit := do
  require (trust.all fun r => (slots.map Slot.role).contains r.1) "caller_trust_roles"
  trust.forM fun r => r.2.forM fun k => do
    require (textOk (.str k.1) && k.2.length = 32) "caller_trust_key_shape"
    require (py.publicKeyLoads k.2) "An Ed25519 public key is 32 bytes long"

/-- `_identities` -/
def readIdentities (identities : Json) : Except String Json := do
  require identities.isDict "caller_identity_mapping"
  let result ← loadJson py (← canonicalJson py identities)
  require (result.members.all fun m => m.1.length = 64 && m.1.toList.all Payment.isLowerHex && shape identitySchema m.2 &&
    (m.2.item "valid_from").number < (m.2.item "valid_until").number) "caller_identity_shape"
  return result

/-- The key that the caller trusts for a slot under this name. -/
def trustedKey (trust : Trust) (slot : Slot) (keyId : Json) : Option Bytes :=
  (trust.lookup slot.role).bind fun keys => keys.lookup keyId.text

/-! ## Records -/

def envelopeOk (env : Json) : Bool :=
  env.hasFields ["key_id", "payload", "signature"] && textOk (env.item "key_id") && (env.item "payload").isDict &&
    Payment.signatureOk (env.item "signature")

/-- The payload shape of a slot's record in a run. -/
def recordSchema (slot : Slot) (runId : Json) : Schema :=
  slot.schema ++ [("kind", isText slot.name), ("run_id", fun v => decide (v = runId))]

/-- The bytes that a signature of an envelope covers. -/
def signedBytes (env : Json) : Except String Bytes := do
  return signingDomain ++ (← canonicalJson py (dict [("key_id", env.item "key_id"), ("payload", env.item "payload")]))

/-- `_record`: its checks for the integrity claim, and the payload with its key. -/
def readRecord (trust : Trust) (runId : Json) (slot : Slot) :
    Option Json → Except String (List Check × Option (Json × Bytes))
  | none => .ok ([], none)
  | some env => do
    let ref ← digest py env
    if !envelopeOk env then
      return ([.ref ref, .require false (slot.name ++ ":envelope_shape")], none)
    else
      match trustedKey trust slot (env.item "key_id") with
      | none => return ([.ref ref, .available false (slot.name ++ ":no_caller_trusted_role_key")], none)
      | some publicKey => do
        let message ← signedBytes py env
        if !py.verify publicKey message ((unhex (env.item "signature").text).getD []) then
          return ([.ref ref, .require false (slot.name ++ ":signature_invalid")], none)
        else if !shape (recordSchema slot runId) (env.item "payload") then
          return ([.ref ref, .require false (slot.name ++ ":signed_payload_shape_or_context")], none)
        else return ([.ref ref], some (env.item "payload", publicKey))

/-- What the evaluators read: the records in use, the digests of all envelopes supplied, the keys of the
    records, and the operation with its digest. -/
structure View where
  records : Slot → Option Json
  digests : Slot → Option String
  keys : Slot → Option Bytes
  operation : Json
  operationDigest : String

def View.refs (v : View) (slot : Slot) : List Check := ((v.digests slot).map Check.ref).toList

/-- `_need` -/
def need (v : View) (slot : Slot) : List Check :=
  .available (v.records slot).isSome (slot.name ++ ":missing_or_unverifiable") :: v.refs slot

/-- `_bind` -/
def bind (v : View) (value : Json) (slot : Slot) (label : String) : List Check :=
  .available (v.records slot).isSome (label ++ ":referent_unverifiable") ::
    match v.digests slot with
    | none => [.available false (label ++ ":referent_not_supplied")]
    | some d => .ref d :: if (v.records slot).isSome then [.require (value = .str d) (label ++ ":digest_mismatch")] else []

/-- `_window` -/
def window (start stop at_ : ℤ) (label : String) : List Check :=
  [.require (start < stop) (label ++ ":invalid_window"),
    .require (start ≤ at_ && at_ < stop) (label ++ ":outside_validity_window")]

/-- `_fresh` -/
def fresh (observed at_ maxAge : ℤ) (label : String) : List Check :=
  [.available (observed ≤ at_ && at_ - observed ≤ maxAge) (label ++ ":freshness_not_established")]

/-- One check for each of the fields, that two records agree on it. -/
def agree (a b : Json) (fields : List String) (before after : String) : List Check :=
  fields.map fun f => .require (a.item f = b.item f) (before ++ f ++ after)

/-- The semantic checks of the dispatched request; every exception in them is one invalid reason. -/
def requestChecks (request : Bytes) (actual : Json) : List Check :=
  match loadJson py request with
  | .error _ => [.require false "dispatch:request_encoding_invalid"]
  | .ok decoded =>
    match canonicalJson py decoded with
    | .error _ => [.require false "dispatch:request_encoding_invalid"]
    | .ok raw =>
      .require (raw = request) "dispatch:noncanonical_request" ::
        match syntheticRequestBytes py actual >>= loadJson py with
        | .error _ => [.require false "dispatch:request_encoding_invalid"]
        | .ok expected => [.require (decoded.pyEq expected) "dispatch:request_semantics_mismatch"]

/-- `_dispatch_payload` -/
def dispatchPayload (v : View) (d : Json) : List Check :=
  let actual := d.item "actual_operation"
  let request := (unhex (d.item "request_hex").text).getD []
  [.require (d.item "operation_digest" = .str v.operationDigest) "dispatch:approved_operation_digest_mismatch",
    .require (actual = v.operation) "dispatch:actual_operation_mismatch",
    .require (.str (bytesDigest py request) = actual.item "payload_digest") "dispatch:actual_payload_digest_mismatch",
    .require (.str (bytesDigest py request) = v.operation.item "payload_digest") "dispatch:approved_payload_digest_mismatch"] ++
    requestChecks py request actual

/-! ## Authorization -/

/-- What `_authorization` asks of a policy. -/
def policyChecks (actual : Json) (dispatched : ℤ) (p : Json) : List Check :=
  agree p actual ["tenant", "environment", "api_audience", "adapter", "principal_id", "credential_id", "workload_id",
    "configuration_digest", "recovery_epoch", "currency", "minor_unit_scale"] "policy:" "_mismatch" ++
  [.require ((elements (p.item "allowed_sources")).contains (actual.item "source_account")) "policy:source_not_allowed",
    .require ((elements (p.item "allowed_beneficiaries")).contains (actual.item "beneficiary"))
      "policy:beneficiary_not_allowed",
    .require (decimalValue (actual.item "amount_minor") ≤ decimalValue (p.item "max_amount_minor"))
      "policy:amount_exceeded",
    .require (p.item "required_routes" |> sameRoutes) "policy:required_route_scope_mismatch"] ++
  window (p.item "valid_from").number (p.item "valid_until").number dispatched "policy"
where
  /-- `set(routes) == set(REQUIRED_ROUTES)` -/
  sameRoutes (routes : Json) : Bool :=
    (elements routes).all (fun r => requiredRoutes.any fun q => r = .str q.1) &&
      requiredRoutes.all fun q => (elements routes).contains (.str q.1)

/-- The role that an approval needs of its approver. -/
def approverRole : Slot → String
  | .makerApproval => "maker"
  | _ => "checker"

/-- The identity that the caller maps the key of an approval to. -/
def identityOf (v : View) (identities : Json) (slot : Slot) : Option Json :=
  identities.get? (hex ((v.keys slot).getD []))

def approvalChecks (v : View) (identities : Json) (actual : Json) (dispatched : ℤ) (slot : Slot) (approval : Json) :
    List Check :=
  [.require (approval.item "operation_digest" = .str v.operationDigest) (slot.name ++ ":operation_digest_mismatch"),
    .require (approval.item "policy_digest" = v.operation.item "policy_digest") (slot.name ++ ":policy_digest_mismatch")] ++
  window (approval.item "issued_at").number (approval.item "expires_at").number dispatched slot.name ++
  (.available (identityOf v identities slot).isSome (slot.name ++ ":identity_mapping_missing") ::
    match identityOf v identities slot with
    | none => []
    | some identity =>
      .require ((elements (identity.item "roles")).contains (.str (approverRole slot))) (slot.name ++ ":ineligible_role") ::
        (agree identity actual ["tenant", "environment"] (slot.name ++ ":identity_") "_mismatch" ++
          window (identity.item "valid_from").number (identity.item "valid_until").number
            (approval.item "issued_at").number (slot.name ++ ":identity_at_issuance") ++
          window (identity.item "valid_from").number (identity.item "valid_until").number dispatched
            (slot.name ++ ":identity")))

/-- The person of an approval that is in use. -/
def personOf (v : View) (identities : Json) (slot : Slot) : Option Json :=
  (v.records slot).bind fun _ => (identityOf v identities slot).map fun identity => identity.item "person_id"

/-- What `_authorization` asks of both approvals together. -/
def pairChecks (v : View) (identities : Json) : List Check :=
  (match personOf v identities .makerApproval, personOf v identities .checkerApproval with
    | some maker, some checker => [.require (maker ≠ checker) "approvals:same_person"]
    | _, _ => []) ++
  match v.records .makerApproval, v.records .checkerApproval with
  | some maker, some checker =>
    [.require (maker.item "approval_id" ≠ checker.item "approval_id") "approvals:duplicate_approval_id"]
  | _, _ => []

/-- What `_authorization` asks of the state that a status declares. -/
def revocationChecks (status : Json) (dispatched : ℤ) : List Check :=
  if status.item "state" = .str "revoked" then
    .require (status.item "revoked_at" ≠ .null) "final_status:revocation_time_missing" ::
      if status.item "revoked_at" = .null then []
      else
        let revoked := (status.item "revoked_at").number
        [.require (revoked ≤ (status.item "checked_at").number) "final_status:revocation_after_observation",
          .require (dispatched < revoked) "final_status:revoked_before_dispatch",
          .available (revoked ≤ dispatched) "final_status:historical_active_state_unknown"]
  else
    [.require (status.item "revoked_at" = .null) "final_status:unexpected_revocation_time",
      .available (status.item "state" = .str "active") "final_status:status_unknown"]

def statusChecks (v : View) (actual : Json) (dispatched at_ maxAge : ℤ) (status : Json) : List Check :=
  [.require (status.item "operation_digest" = .str v.operationDigest) "final_status:operation_digest_mismatch",
    .require (status.item "policy_digest" = v.operation.item "policy_digest") "final_status:policy_digest_mismatch"] ++
  agree status actual ["credential_id", "configuration_digest", "recovery_epoch"] "final_status:" "_mismatch" ++
  (approvalSlots.flatMap fun slot =>
    bind v ((status.item "approval_digests").item slot.name) slot ("final_status:" ++ slot.name) ++
      match v.records slot with
      | none => []
      | some approval => [.require ((approval.item "issued_at").number ≤ (status.item "checked_at").number)
          ("final_status:precedes_" ++ slot.name)]) ++
  [.require ((status.item "checked_at").number < (status.item "valid_until").number) "final_status:invalid_window"] ++
  fresh (status.item "checked_at").number dispatched maxAge "final_status" ++
  [.available ((status.item "checked_at").number ≤ at_) "final_status:after_evaluation_horizon",
    .available (dispatched < (status.item "valid_until").number) "final_status:expired_snapshot"] ++
  revocationChecks status dispatched

/-- The digest of the request that the operation declares. -/
def declaredPayload (v : View) : Except String Check := do
  return .require (.str (bytesDigest py (← syntheticRequestBytes py v.operation)) = v.operation.item "payload_digest")
    "operation:declared_payload_digest_mismatch"

/-- `_authorization` -/
def authorization (v : View) (identities : Json) (at_ maxAge : ℤ) : Except String (List Check) :=
  match v.records .dispatch with
  | none => .ok (need v .dispatch)
  | some d => do
    let actual := d.item "actual_operation"
    let dispatched := (d.item "dispatched_at").number
    let declared ← declaredPayload py v
    return need v .dispatch ++ [.available (dispatched ≤ at_) "dispatch:after_evaluation_horizon"] ++
      dispatchPayload py v d ++
      window (actual.item "valid_from").number (actual.item "valid_until").number dispatched "operation" ++ [declared] ++
      need v .policy ++ bind v (v.operation.item "policy_digest") .policy "operation:policy" ++
      bind v (d.item "policy_digest") .policy "dispatch:policy" ++
      ((v.records .policy).toList.flatMap (policyChecks actual dispatched)) ++
      (approvalSlots.flatMap fun slot =>
        need v slot ++ bind v ((d.item "approval_digests").item slot.name) slot ("dispatch:" ++ slot.name) ++
          (v.records slot).toList.flatMap (approvalChecks v identities actual dispatched slot)) ++
      pairChecks v identities ++
      need v .finalStatus ++ bind v (d.item "final_status_digest") .finalStatus "dispatch:final_status" ++
      (v.records .finalStatus).toList.flatMap (statusChecks v actual dispatched at_ maxAge)

/-! ## Execution -/

def receiptChecks (v : View) (dispatched at_ : ℤ) (receipt : Json) : List Check :=
  [.require (receipt.item "operation_digest" = .str v.operationDigest) "provider_receipt:operation_digest_mismatch",
    .require (receipt.item "payload_digest" = v.operation.item "payload_digest")
      "provider_receipt:payload_digest_mismatch",
    .require (receipt.item "api_audience" = v.operation.item "api_audience") "provider_receipt:audience_mismatch"] ++
  bind v (receipt.item "dispatch_digest") .dispatch "provider_receipt:dispatch" ++ need v .policy ++
  ((v.records .policy).toList.map fun policy =>
    .require (receipt.item "provider_id" = policy.item "provider_id") "provider_receipt:provider_mismatch") ++
  [.require (dispatched ≤ (receipt.item "observed_at").number) "provider_receipt:precedes_dispatch",
    .available ((receipt.item "observed_at").number ≤ at_) "provider_receipt:after_evaluation_horizon"]

def terminalCheck (receipt : Json) : Check :=
  .available (oneOf ["settled", "failed", "reversed"] (receipt.item "status"))
    "provider_receipt:terminal_outcome_not_established"

/-- The checks of `_execution` that come before the one on the terminal outcome. -/
def executionChecks (v : View) (at_ : ℤ) : List Check :=
  need v .dispatch ++ need v .providerReceipt ++
    match v.records .dispatch with
    | none => []
    | some d =>
      let dispatched := (d.item "dispatched_at").number
      dispatchPayload py v d ++ [.available (dispatched ≤ at_) "dispatch:after_evaluation_horizon"] ++
        bind v (v.operation.item "policy_digest") .policy "operation:policy" ++
        bind v (d.item "policy_digest") .policy "dispatch:policy" ++
        (approvalSlots.flatMap fun slot =>
          bind v ((d.item "approval_digests").item slot.name) slot ("dispatch:" ++ slot.name)) ++
        bind v (d.item "final_status_digest") .finalStatus "dispatch:final_status" ++
        bind v (d.item "control_digest") .control "dispatch:control" ++
        (v.records .providerReceipt).toList.flatMap (receiptChecks v dispatched at_)

structure Outcome where
  status : Json
  reportedStatus : Json
  settlementConfirmed : Bool
  evidenceRef : Json
  deriving DecidableEq

def unknownOutcome : Outcome := ⟨.str "unknown", .null, false, .null⟩

/-- `_execution` -/
def execution (v : View) (at_ : ℤ) : List Check × Outcome :=
  let before := executionChecks py v at_
  match v.records .dispatch, v.records .providerReceipt with
  | some _, some receipt =>
    let checks := before ++ [terminalCheck receipt]
    let status := if verdictOf before = .valid then receipt.item "status" else .str "unknown"
    (checks, ⟨status, receipt.item "status", verdictOf checks = .valid && status = .str "settled",
      ((v.digests .providerReceipt).map Json.str).getD .null⟩)
  | none, some receipt =>
    (before, { unknownOutcome with
      reportedStatus := receipt.item "status", evidenceRef := ((v.digests .providerReceipt).map Json.str).getD .null })
  | _, none => (before, unknownOutcome)

/-! ## Control -/

def routeChecks (control : Json) : List Check :=
  (requiredRoutes.map fun r =>
    match (control.item "routes").get? r.1 with
    | none => .available false ("control:" ++ r.1 ++ "_not_observed")
    | some state =>
      if state = .str "unobserved" then .available false ("control:" ++ r.1 ++ "_not_observed")
      else .require (state = .str r.2) ("control:" ++ r.1 ++ "_violated")) ++
  (((control.item "routes").keys.filter fun k => (requiredRoutes.lookup k).isNone).map fun extra =>
    .available false ("control:additional_route_not_in_supported_scope:" ++ extra))

/-- When a record says that it was made. -/
def timeField : Slot → Option String
  | .makerApproval | .checkerApproval => some "issued_at"
  | .finalStatus => some "checked_at"
  | .dispatch => some "dispatched_at"
  | .providerReceipt | .control => some "observed_at"
  | _ => none

/-- One round of the loop over the references that a collector retains. -/
def retainedChecks (v : View) (collector : Json) (m : String × Json) : List Check :=
  match (slots.find? fun s => s.name = m.1 && s ≠ .collector).bind fun s => (v.digests s).map fun d => (s, d) with
  | none => [.available false ("collector:retained_reference_not_supplied:" ++ m.1)]
  | some (s, d) =>
    .ref d ::
      match v.records s with
      | none => []
      | some body =>
        .require (m.2 = .str d) ("collector:" ++ m.1 ++ "_digest_mismatch") ::
          ((timeField s).map fun f => Check.require ((body.item f).number ≤ (collector.item "checkpoint_at").number)
            ("collector:checkpoint_precedes_" ++ m.1)).toList

def collectorChecks (v : View) (at_ : ℤ) (collector : Json) : List Check :=
  .require (collector.item "operation_digest" = .str v.operationDigest) "collector:operation_digest_mismatch" ::
    (agree collector v.operation ["configuration_digest", "recovery_epoch"] "collector:" "_mismatch" ++
  [.available ((collector.item "checkpoint_at").number ≤ at_) "collector:after_evaluation_horizon",
    .available (elements (collector.item "gaps") = []) "collector:declared_collection_gap"] ++
  ((slots.filter fun s => s ≠ .collector).flatMap fun s =>
    [.available ((collector.item "retained").get? s.name).isSome ("collector:" ++ s.name ++ "_retention_not_asserted"),
      .available (v.records s).isSome ("collector:" ++ s.name ++ "_evidence_unverifiable")]) ++
  (collector.item "retained").members.flatMap (retainedChecks v collector))

/-- What `_control` asks of the dispatch on its own. -/
def scopeChecks (v : View) (d : Json) : List Check :=
  agree (d.item "actual_operation") v.operation ["tenant", "environment", "api_audience", "adapter", "principal_id",
    "credential_id", "workload_id", "configuration_digest", "recovery_epoch"] "control:actual_" "_scope_mismatch"

def controlChecks (v : View) (at_ maxAge : ℤ) (control : Json) : List Check :=
  .require (control.item "operation_digest" = .str v.operationDigest) "control:operation_digest_mismatch" ::
    (agree control v.operation ["configuration_digest", "recovery_epoch"] "control:" "_mismatch" ++
  [.available ((control.item "observed_at").number ≤ at_) "control:after_evaluation_horizon"] ++
  ((v.records .dispatch).toList.flatMap fun d =>
    fresh (control.item "observed_at").number (d.item "dispatched_at").number maxAge "control" ++
      bind v (d.item "control_digest") .control "dispatch:control" ++
      [.available ((d.item "dispatched_at").number ≤ at_) "dispatch:after_evaluation_horizon"]) ++
  routeChecks control)

/-- `_control` -/
def control (v : View) (at_ maxAge : ℤ) : List Check :=
  need v .control ++ need v .collector ++ need v .dispatch ++ need v .policy ++
    (v.records .dispatch).toList.flatMap (scopeChecks v) ++
    ((v.records .policy).toList.flatMap fun policy =>
      bind v (v.operation.item "policy_digest") .policy "control:policy" ++
        [.require (policyChecks.sameRoutes (policy.item "required_routes")) "policy:required_route_scope_mismatch"]) ++
    (v.records .control).toList.flatMap (controlChecks v at_ maxAge) ++
    (v.records .collector).toList.flatMap (collectorChecks v at_)

/-! ## Bundles -/

/-- The bundle as it is read back, when its shape and scope are those of the schema. -/
def readBundle (bundle : Json) : Except String Json := do
  let bundle ← loadJson py (← canonicalJson py bundle)
  require (bundle.hasFields ["schema", "synthetic", "run_id", "operation", "evidence"] &&
    bundle.item "schema" = .str bundleSchema && bundle.item "synthetic" = .bool true && textOk (bundle.item "run_id"))
    "bundle_shape_or_scope"
  require ((bundle.item "evidence").isDict && (bundle.item "evidence").keys.all fun k => (slots.map Slot.name).contains k)
    "evidence_slots"
  validateOperation (bundle.item "operation")
  return bundle

/-- The names of `CLAIMS`. -/
inductive Claim where
  | integrity
  | authorization
  | executionMatch
  | controlState
  deriving DecidableEq

structure Exclusion where
  record : Slot
  evidenceRef : Option String
  recordedTime : ℤ
  deriving DecidableEq

structure Report where
  evaluationTime : ℤ
  claims : Claim → ClaimResult
  outcome : Outcome
  runId : Json
  operationDigest : Option String
  excludedAfterHorizon : List Exclusion

/-- The report on a bundle that cannot be used. -/
def unusable (at_ : ℤ) (message : String) : Report where
  evaluationTime := at_
  claims claim := ⟨if claim = .integrity then .invalid else .indeterminate, ["bundle_unusable:" ++ message], []⟩
  outcome := unknownOutcome
  runId := .null
  operationDigest := none
  excludedAfterHorizon := []

/-- The time that decides whether a record is beyond the caller's horizon. -/
def observedField : Slot → Option String
  | .collector => some "checkpoint_at"
  | slot => timeField slot

/-- When a record is beyond the horizon, the time it bears. -/
def beyond (at_ : ℤ) (slot : Slot) (body : Json) : Option ℤ :=
  (observedField slot).bind fun f => if at_ < (body.item f).number then some (body.item f).number else none

/-- What `_record` makes of a slot: its checks, the record with its key, and the digest of the envelope. -/
structure Finding where
  checks : List Check
  found : Option (Json × Bytes)
  digest : Option String

def slotFinding (trust : Trust) (bundle : Json) (slot : Slot) : Except String Finding := do
  let env := (bundle.item "evidence").get? slot.name
  let (checks, found) ← readRecord py trust (bundle.item "run_id") slot env
  let ref ← env.mapM (digest py)
  return ⟨checks, found, ref⟩

/-- The view of the evaluators, with the records beyond the horizon taken out. -/
def viewOf (bundle : Json) (operationDigest : String) (at_ : ℤ)
    (found : Slot → Finding) : View where
  records slot := ((found slot).found.map Prod.fst).filter fun body => (beyond at_ slot body).isNone
  digests slot := (found slot).digest
  keys slot := (found slot).found.map Prod.snd
  operation := bundle.item "operation"
  operationDigest

/-- The findings of all slots, as a function of the slot. -/
def allFindings (trust : Trust) (bundle : Json) :
    Except String (Slot → Finding) := do
  let policy ← slotFinding py trust bundle .policy
  let maker ← slotFinding py trust bundle .makerApproval
  let checker ← slotFinding py trust bundle .checkerApproval
  let status ← slotFinding py trust bundle .finalStatus
  let dispatch ← slotFinding py trust bundle .dispatch
  let receipt ← slotFinding py trust bundle .providerReceipt
  let controls ← slotFinding py trust bundle .control
  let collector ← slotFinding py trust bundle .collector
  return fun
    | .policy => policy
    | .makerApproval => maker
    | .checkerApproval => checker
    | .finalStatus => status
    | .dispatch => dispatch
    | .providerReceipt => receipt
    | .control => controls
    | .collector => collector

/-- The assessment of a bundle that was read. -/
def assess (trust : Trust) (identities : Json) (at_ maxAge : ℤ) (bundle : Json) : Except String Report := do
  let operationDigest ← digest py (bundle.item "operation")
  let found ← allFindings py trust bundle
  let view := viewOf bundle operationDigest at_ found
  let integrity := slots.flatMap (fun slot => (found slot).checks) ++
    [.available ((bundle.item "evidence").members ≠ []) "no_supplied_evidence"]
  let authorized ← authorization py view identities at_ maxAge
  let (executed, outcome) := execution py view at_
  return {
    evaluationTime := at_
    claims := fun
      | .integrity => claimResult integrity
          "all_supplied_record_signatures_shapes_and_run_bindings_verify_not_completeness"
      | .authorization => claimResult authorized
          (if (view.records .dispatch).isNone then "actual_dispatch_authorization_supported"
            else "authenticated_actual_dispatch_has_exact_scoped_approvals_at_dispatch_time")
      | .executionMatch => claimResult executed
          (if (view.records .dispatch).isNone then "authenticated_execution_and_provider_outcome_match"
            else "authenticated_request_and_terminal_provider_outcome_match_exact_operation")
      | .controlState => claimResult (control view at_ maxAge)
          "named_routes_and_retained_supplied_records_match_at_declared_times_only"
    outcome
    runId := bundle.item "run_id"
    operationDigest := some operationDigest
    excludedAfterHorizon := slots.filterMap fun slot =>
      (found slot).found.bind fun r => (beyond at_ slot r.1).map fun time => ⟨slot, (found slot).digest, time⟩ }

/-- `verify_bundle` -/
def verifyBundle (bundle : Json) (trust : Trust) (identities : Json) (evaluationTime maxSnapshotAge : ℤ) :
    Except String Report := do
  checkTrust py trust
  let identities ← readIdentities py identities
  require (integerOk (.int evaluationTime) && integerOk (.int maxSnapshotAge) && maxSnapshotAge ≠ 0)
    "caller_time_or_freshness_limit"
  match readBundle py bundle with
  | .error message => return unusable evaluationTime message
  | .ok bundle => assess py trust identities evaluationTime maxSnapshotAge bundle

end Trust
end VapEvidence.PaymentEvidence

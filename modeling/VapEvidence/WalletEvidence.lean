import VapEvidence.EvidenceMonotone

set_option autoImplicit false

/-!
# Assessment of wallet evidence

`wallet_evidence.py`: a bundle of six signed records about one wallet operation, the verdicts on
its integrity, its authorization, its execution and the delegation on chain, and the admission
that follows from them.
-/
namespace VapEvidence.Wallet
open Json
open PaymentEvidence (Check Verdict ClaimResult Trust verdictOf claimResult decimalValue oneOf agree)

def bundleSchema : String := "experimental-wallet-authorization-bundle-v0"
def signingDomain : Bytes := encodeUtf8 "VSO experimental wallet evidence v0".toList ++ [0]
def zeroAddress : String := "0x0000000000000000000000000000000000000000"

/-- The keys of `ROLES`. -/
inductive Record where
  | policy
  | approval
  | finalRevocation
  | controlObservation
  | execution
  | chainObservation
  deriving DecidableEq

def Record.name : Record → String
  | .policy => "policy"
  | .approval => "approval"
  | .finalRevocation => "final_revocation"
  | .controlObservation => "control_observation"
  | .execution => "execution"
  | .chainObservation => "chain_observation"

/-- `ROLES` -/
def Record.role : Record → String
  | .policy => "policy_authority"
  | .approval => "approval_authority"
  | .finalRevocation => "revocation_authority"
  | .controlObservation => "control_observer"
  | .execution => "execution_observer"
  | .chainObservation => "chain_observer"

/-- `POLICY_FIELDS` to `CHAIN_FIELDS` -/
def Record.fields : Record → List String
  | .policy => ["policy_id", "version", "actor_id", "credential_id", "allowed_chains", "allowed_wallets",
      "allowed_actions", "allowed_assets", "allowed_destinations", "allowed_delegation_targets", "max_amount",
      "workload_id", "deployment_digest", "valid_from", "valid_until", "required_finality", "required_routes"]
  | .approval => ["approval_id", "approver_id", "actor_id", "credential_id", "operation_digest", "policy_digest",
      "issued_at", "expires_at"]
  | .finalRevocation => ["snapshot_id", "operation_digest", "policy_digest", "approval_digest", "checked_at",
      "valid_until", "revoked_credentials", "revoked_approvals"]
  | .controlObservation => ["operation_digest", "workload_id", "deployment_digest", "observed_at",
      "observation_boundary", "routes"]
  | .execution => ["operation_digest", "policy_digest", "approval_digest", "revocation_digest", "control_digest",
      "actual_operation", "signing_payload", "state", "observed_at"]
  | .chainObservation => ["operation_digest", "execution_digest", "chain_id", "wallet", "observed_at",
      "block_number", "block_hash", "transaction_hash", "transaction_block_number", "transaction_block_hash",
      "receipt_status", "delegation_code", "finality"]

def records : List Record :=
  [.policy, .approval, .finalRevocation, .controlObservation, .execution, .chainObservation]

def operationFields : List String :=
  ["operation_id", "actor_id", "credential_id", "workload_id", "deployment_digest", "chain_id", "wallet", "action",
    "asset", "amount", "destination", "calldata", "delegation_target", "nonce", "signing_payload_digest",
    "policy_digest"]

section Values
variable (py : Platform)

/-! ## Restricted JSON -/

mutual
/-- `_json_value` -/
def jsonValue (depth : ℕ) : Json → Except String Unit
  | .null => require (depth ≤ 64) "json_nesting_limit"
  | .bool _ => require (depth ≤ 64) "json_nesting_limit"
  | .int n => do
    require (depth ≤ 64) "json_nesting_limit"
    require (n.natAbs ≤ maxInteger) "unsafe_json_integer_use_decimal_string"
  | .float _ => do
    require (depth ≤ 64) "json_nesting_limit"
    .error "unsupported_json_type"
  | .str s => do
    require (depth ≤ 64) "json_nesting_limit"
    require (py.normalizeNFC s = s) "non_nfc_string"
  | .arr xs => do
    require (depth ≤ 64) "json_nesting_limit"
    jsonElems (depth + 1) xs
  | .obj ms => do
    require (depth ≤ 64) "json_nesting_limit"
    jsonMembers (depth + 1) ms
def jsonElems (depth : ℕ) : List Json → Except String Unit
  | [] => .ok ()
  | x :: xs => do jsonValue depth x; jsonElems depth xs
def jsonMembers (depth : ℕ) : List (String × Json) → Except String Unit
  | [] => .ok ()
  | (k, x) :: ms => do
    require (depth ≤ 64) "json_nesting_limit"
    require (py.normalizeNFC k = k) "non_nfc_string"
    jsonValue depth x
    jsonMembers depth ms
end

/-- `canonical_json` -/
def canonicalJson (v : Json) : Except String Bytes := do
  jsonValue py 0 v
  return encodeUtf8 (dumps py.floatRepr false v)

/-- `load_json` on bytes. -/
def loadJson (raw : Bytes) : Except String Json :=
  match decodeText raw with
  | none => .error "invalid text encoding"
  | some s => do
    let value ← loads PaymentEvidence.evidenceHooks s
    let _ ← canonicalJson py value
    return value

def bytesDigest (raw : Bytes) : String := "sha256:" ++ hex (py.sha256 raw)

/-- `digest`, of a value that `_json_value` accepts, as it accepts every part of a bundle that was read. -/
def digest (v : Json) : String := bytesDigest py (encodeUtf8 (dumps py.floatRepr false v))

/-! ## Field checks -/

def textOk : Json → Bool
  | .str s => 0 < s.length && s.length ≤ 4096
  | _ => false

def integerOk : Json → Bool
  | .int n => 0 ≤ n && n ≤ maxInteger
  | _ => false

/-- `_texts` -/
def textsOk : Json → Bool
  | .arr xs => xs.all textOk && decide xs.Nodup
  | _ => false

/-- `0x` and lower hexadecimal digits: what `HEX`, `ADDRESS` and `BLOCK_HASH` have in common. -/
def prefixedHex (length : ℕ → Bool) : Json → Bool
  | .str s => "0x".toList.isPrefixOf s.toList && length (s.toList.drop 2).length &&
      (s.toList.drop 2).all Payment.isLowerHex
  | _ => false

/-- `HEX` -/
def hexOk (v : Json) : Bool := prefixedHex (fun n => n % 2 = 0) v

/-- `ADDRESS` -/
def addressOk (v : Json) : Bool := prefixedHex (fun n => n = 40) v

/-- `BLOCK_HASH` -/
def blockHashOk (v : Json) : Bool := prefixedHex (fun n => n = 64) v

/-- `HASH` -/
def hashOk : Json → Bool
  | .str s => Payment.hashText s
  | _ => false

/-- `DECIMAL` with at most 78 digits -/
def decimalOk : Json → Bool
  | .str s => Payment.decimalDigits s.toList && s.length ≤ 78
  | _ => false

/-- `value in list`, false of what is no list. -/
def listed (v list : Json) : Bool := (PaymentEvidence.elements list).any fun x => x.pyEq v

/-- `validate_operation` -/
def validateOperation (operation : Json) : Except String Unit := do
  require (operation.hasFields operationFields) "operation_fields"
  require (["operation_id", "actor_id", "credential_id", "workload_id"].all fun f => textOk (operation.item f))
    "operation_identity_shape"
  require (["deployment_digest", "signing_payload_digest", "policy_digest"].all fun f => hashOk (operation.item f))
    "operation_digest_shape"
  require (["chain_id", "amount", "nonce"].all fun f => decimalOk (operation.item f)) "operation_decimal_shape"
  require (operation.item "chain_id" ≠ .str "0") "chain_id_zero_not_supported"
  require (["wallet", "destination"].all fun f => addressOk (operation.item f)) "operation_address_shape"
  require (operation.item "asset" = .str "native" || addressOk (operation.item "asset")) "operation_asset_shape"
  require (hexOk (operation.item "calldata")) "operation_calldata_shape"
  let action := operation.item "action"
  let target := operation.item "delegation_target"
  require (oneOf ["transfer", "delegate", "clear_delegation"] action) "operation_action"
  require (!(action = .str "transfer" && target ≠ .null)) "transfer_cannot_assert_delegation_transition"
  require (!(action = .str "delegate" && (!addressOk target || target = .str zeroAddress))) "delegate_target"
  require (!(action = .str "clear_delegation" && target ≠ .str zeroAddress)) "clear_delegation_target"

/-! ## Records -/

/-- `_trust` -/
def checkTrust (trust : Trust) : Except String Unit := do
  require (trust.all fun r => (records.map Record.role).contains r.1) "caller_trust_roles"
  trust.forM fun r => r.2.forM fun k => do
    require (textOk (.str k.1) && k.2.length = 32) "caller_trust_key_shape"
    require (py.publicKeyLoads k.2) "An Ed25519 public key is 32 bytes long"

/-- The key that the caller trusts for the role of a record under this name. -/
def trustedKey (trust : Trust) (record : Record) (keyId : Json) : Option Bytes :=
  (trust.lookup record.role).bind fun keys => keys.lookup keyId.text

/-- The bytes that a signature of an envelope covers. -/
def signedBytes (env : Json) : Bytes :=
  signingDomain ++ encodeUtf8 (dumps py.floatRepr false
    (dict [("key_id", env.item "key_id"), ("payload", env.item "payload")]))

def envelopeOk (env : Json) : Bool :=
  env.hasFields ["key_id", "payload", "signature"] && textOk (env.item "key_id") && (env.item "payload").isDict

/-- `_record`: its checks for the integrity claim, and the payload with its key. -/
def readRecord (trust : Trust) (evidence : Json) (record : Record) : List Check × Option (Json × Bytes) :=
  let env := evidence.item record.name
  let ref := Check.ref (digest py env)
  if env = .null then ([], none)
  else if !envelopeOk env then ([ref, .require false (record.name ++ ":envelope_shape")], none)
  else if !Payment.signatureOk (env.item "signature") then
    ([ref, .require false (record.name ++ ":signature_encoding")], none)
  else
    match trustedKey trust record (env.item "key_id") with
    | none => ([ref, .available false (record.name ++ ":no_caller_trusted_role_key")], none)
    | some publicKey =>
      if !py.verify publicKey (signedBytes py env) ((unhex (env.item "signature").text).getD []) then
        ([ref, .require false (record.name ++ ":signature_invalid")], none)
      else ([ref], some (env.item "payload", publicKey))

/-- What the evaluators read of a bundle: the verified records and their keys, the evidence, the operation
    and the run. -/
structure View where
  found : Record → Option (Json × Bytes)
  evidence : Json
  operation : Json
  runId : Json

/-- The body that `_body` returns. -/
def View.body (v : View) (record : Record) : Option Json :=
  ((v.found record).map Prod.fst).filter fun body => body.hasFields (record.fields ++ ["kind", "run_id"])

/-- The checks of `_body`. -/
def bodyChecks (v : View) (record : Record) : List Check :=
  match (v.found record).map Prod.fst with
  | none => [.available false (record.name ++ ":missing_or_unverifiable")]
  | some body =>
    .ref (digest py (v.evidence.item record.name)) ::
      if !body.hasFields (record.fields ++ ["kind", "run_id"]) then
        [.require false (record.name ++ ":signed_payload_schema")]
      else [.require (body.item "kind" = .str record.name) (record.name ++ ":kind_mismatch"),
        .require (body.item "run_id" = v.runId) (record.name ++ ":run_mismatch")]

/-! ## Authorization -/

/-- `_window` -/
def window (body : Json) (start stop : String) (at_ : ℤ) (label : String) : List Check :=
  let valid := integerOk (body.item start) && integerOk (body.item stop) &&
    (body.item start).number < (body.item stop).number
  .require valid (label ++ ":time_shape") ::
    if valid then [.require ((body.item start).number ≤ at_ && at_ < (body.item stop).number)
      (label ++ ":outside_validity_window")]
    else []

/-- `_fresh` -/
def fresh (body : Json) (start : String) (at_ maxAge : ℤ) (label : String) : List Check :=
  .require (integerOk (body.item start)) (label ++ ":time_shape") ::
    if integerOk (body.item start) then
      [.available ((body.item start).number ≤ at_ && at_ - (body.item start).number ≤ maxAge)
        (label ++ ":freshness_not_established")]
    else []

def routeNames : List String := ["approved_gate", "direct_signer", "deployment_signer"]

/-- `set(routes) == {..}` of a list of texts -/
def sameRoutes (routes : Json) : Bool :=
  (PaymentEvidence.elements routes).all (fun r => oneOf routeNames r) && routeNames.all fun n => listed (.str n) routes

def policyChecks (op : Json) (at_ : ℤ) (p : Json) : List Check :=
  .require (op.item "policy_digest" = .str (digest py p)) "policy:digest_mismatch" ::
    ((["policy_id", "version", "actor_id", "credential_id", "workload_id"].map fun f =>
      Check.require (textOk (p.item f)) "policy:identity_shape") ++
    agree p op ["actor_id", "credential_id", "workload_id", "deployment_digest"] "policy:" "_mismatch" ++
    ([("chain_id", "allowed_chains"), ("wallet", "allowed_wallets"), ("action", "allowed_actions"),
      ("asset", "allowed_assets"), ("destination", "allowed_destinations")].map fun f =>
        Check.require (textsOk (p.item f.2) && listed (op.item f.1) (p.item f.2)) ("policy:" ++ f.1 ++ "_not_allowed")) ++
    [.require (textsOk (p.item "allowed_delegation_targets")) "policy:delegation_target_list_shape"] ++
    (if op.item "delegation_target" ≠ .null then
      [.require (listed (op.item "delegation_target") (p.item "allowed_delegation_targets"))
        "policy:delegation_target_not_allowed"]
    else []) ++
    [.require (decimalOk (p.item "max_amount")) "policy:max_amount_shape"] ++
    (if decimalOk (p.item "max_amount") then
      [.require (decimalValue (op.item "amount") ≤ decimalValue (p.item "max_amount")) "policy:amount_exceeded"]
    else []) ++
    [.require (oneOf ["observed_block", "finalized"] (p.item "required_finality")) "policy:finality_shape",
      .require (textsOk (p.item "required_routes") && sameRoutes (p.item "required_routes"))
        "policy:route_scope_shape"] ++
    window p "valid_from" "valid_until" at_ "policy")

def approvalChecks (op : Json) (at_ : ℤ) (a : Json) : List Check :=
  (["approval_id", "approver_id"].map fun f => Check.require (textOk (a.item f)) "approval:identity_shape") ++
    agree a op ["actor_id", "credential_id"] "approval:" "_mismatch" ++
    [.require (a.item "operation_digest" = .str (digest py op)) "approval:operation_digest_mismatch",
      .require (a.item "policy_digest" = op.item "policy_digest") "approval:policy_digest_mismatch"] ++
    window a "issued_at" "expires_at" at_ "approval"

/-- What a revocation snapshot is asked about the approval that was verified. -/
def snapshotChecks (r a : Json) : List Check :=
  .require (r.item "approval_digest" = .str (digest py a)) "revocation:approval_digest_mismatch" ::
    if integerOk (r.item "checked_at") && integerOk (a.item "issued_at") then
      [.require ((a.item "issued_at").number ≤ (r.item "checked_at").number) "revocation:snapshot_precedes_approval"]
    else []

def isList : Json → Bool
  | .arr _ => true
  | _ => false

def revocationChecks (op : Json) (at_ maxAge : ℤ) (a : Option Json) (r : Json) : List Check :=
  let timed := integerOk (r.item "valid_until") && integerOk (r.item "checked_at") &&
    (r.item "checked_at").number < (r.item "valid_until").number
  [.require (textOk (r.item "snapshot_id")) "revocation:snapshot_id_shape",
    .require (r.item "operation_digest" = .str (digest py op)) "revocation:operation_digest_mismatch",
    .require (r.item "policy_digest" = op.item "policy_digest") "revocation:policy_digest_mismatch"] ++
  a.toList.flatMap (snapshotChecks py r) ++
  fresh r "checked_at" at_ maxAge "revocation" ++
  [.require timed "revocation:time_shape"] ++
  (if timed then [.available (at_ < (r.item "valid_until").number) "revocation:expired_snapshot"] else []) ++
  (["revoked_credentials", "revoked_approvals"].map fun f => Check.require (textsOk (r.item f)) "revocation:list_shape") ++
  (if isList (r.item "revoked_credentials") then
    [.require (!listed (op.item "credential_id") (r.item "revoked_credentials")) "revocation:credential_revoked"]
  else []) ++
  a.toList.flatMap fun a =>
    if isList (r.item "revoked_approvals") then
      [.require (!listed (a.item "approval_id") (r.item "revoked_approvals")) "revocation:approval_revoked"]
    else []

def expectedRoutes : List (String × String) :=
  [("approved_gate", "recorded"), ("direct_signer", "blocked"), ("deployment_signer", "blocked")]

def routeChecks (routes : Json) : List Check :=
  if !routes.hasFields (expectedRoutes.map Prod.fst) then [.available false "control:route_coverage_incomplete"]
  else expectedRoutes.map fun route =>
    if routes.item route.1 = .str "unobserved" then .available false ("control:" ++ route.1 ++ "_unobserved")
    else .require (routes.item route.1 = .str route.2) ("control:" ++ route.1 ++ "_violated")

def controlChecks (op : Json) (at_ maxAge : ℤ) (control : Json) : List Check :=
  .require (control.item "operation_digest" = .str (digest py op)) "control:operation_digest_mismatch" ::
    (agree control op ["workload_id", "deployment_digest"] "control:" "_mismatch" ++
    [.require (textOk (control.item "observation_boundary")) "control:boundary_missing"] ++
    fresh control "observed_at" at_ maxAge "control" ++ routeChecks (control.item "routes"))

/-- `_authorization` -/
def authorization (v : View) (at_ maxAge : ℤ) : List Check :=
  bodyChecks py v .policy ++ bodyChecks py v .approval ++ bodyChecks py v .finalRevocation ++
    bodyChecks py v .controlObservation ++
    (v.body .policy).toList.flatMap (policyChecks py v.operation at_) ++
    (v.body .approval).toList.flatMap (approvalChecks py v.operation at_) ++
    (v.body .finalRevocation).toList.flatMap (revocationChecks py v.operation at_ maxAge (v.body .approval)) ++
    (v.body .controlObservation).toList.flatMap (controlChecks py v.operation at_ maxAge)

/-! ## Execution -/

/-- The record that an execution names in this field. -/
def boundChecks (v : View) (e : Json) (record : Record) (field : String) : List Check :=
  .available (v.body record).isSome ("execution:" ++ record.name ++ "_unverifiable") ::
    (v.body record).toList.map fun body =>
      .require (e.item field = .str (digest py body)) ("execution:" ++ field ++ "_mismatch")

/-- What the time of an execution is asked. -/
def executionTimes (v : View) (at_ maxAge : ℤ) (e : Json) : List Check :=
  let executed := (e.item "observed_at").number
  .available (executed ≤ at_) "execution:future_observation" ::
    ((v.body .finalRevocation).toList.flatMap (fun r =>
      if integerOk (r.item "checked_at") && integerOk (r.item "valid_until") then
        [Check.require ((r.item "checked_at").number ≤ executed && executed < (r.item "valid_until").number)
          "execution:outside_final_revocation_window",
          .available (executed - (r.item "checked_at").number ≤ maxAge)
            "execution:revocation_freshness_not_established"]
      else []) ++
    (v.body .controlObservation).toList.flatMap (fun control =>
      if integerOk (control.item "observed_at") then
        [Check.require ((control.item "observed_at").number ≤ executed)
          "execution:control_observation_follows_execution",
          .available (executed - (control.item "observed_at").number ≤ maxAge)
            "execution:control_freshness_not_established"]
      else []) ++
    (v.body .policy).toList.flatMap (fun p => window p "valid_from" "valid_until" executed "execution:policy") ++
    (v.body .approval).toList.flatMap fun a => window a "issued_at" "expires_at" executed "execution:approval")

def actualChecks (op e : Json) : List Check :=
  match validateOperation (e.item "actual_operation") with
  | .error _ => [.require false "execution:actual_operation_shape"]
  | .ok _ => [.require (digest py (e.item "actual_operation") = digest py op) "execution:actual_operation_mismatch"]

/-- `bytes.fromhex(value[2:])` of a text that `HEX` matches. -/
def hexBytes (v : Json) : Bytes := (unhex (String.ofList (v.text.toList.drop 2))).getD []

def executionChecks (v : View) (at_ maxAge : ℤ) (e : Json) : List Check :=
  [.require (e.item "operation_digest" = .str (digest py v.operation)) "execution:operation_digest_mismatch",
    .require (e.item "policy_digest" = v.operation.item "policy_digest") "execution:policy_digest_mismatch"] ++
  boundChecks py v e .approval "approval_digest" ++ boundChecks py v e .finalRevocation "revocation_digest" ++
  boundChecks py v e .controlObservation "control_digest" ++ actualChecks py v.operation e ++
  [.require (hexOk (e.item "signing_payload")) "execution:signing_payload_shape"] ++
  (if hexOk (e.item "signing_payload") then
    [.require (.str (bytesDigest py (hexBytes (e.item "signing_payload"))) = v.operation.item "signing_payload_digest")
      "execution:signing_payload_digest_mismatch"]
  else []) ++
  [.require (oneOf ["signed", "broadcast", "included", "offchain_stopped", "unknown", "not_observed"] (e.item "state"))
      "execution:state_shape",
    .available (oneOf ["signed", "broadcast", "included"] (e.item "state")) "execution:signing_not_observed",
    .require (integerOk (e.item "observed_at")) "execution:time_shape"] ++
  if integerOk (e.item "observed_at") then executionTimes v at_ maxAge e else []

/-- `_execution` -/
def execution (v : View) (at_ maxAge : ℤ) : List Check :=
  bodyChecks py v .execution ++ (v.body .execution).toList.flatMap (executionChecks py v at_ maxAge)

/-! ## The delegation on chain -/

/-- The keys that the caller trusts for any other role. -/
def otherKeys (trust : Trust) : List Bytes :=
  (trust.filter fun r => r.1 ≠ "chain_observer").flatMap fun r => r.2.map Prod.snd

def contextOk (b : Json) : Bool := decimalOk (b.item "block_number") && blockHashOk (b.item "block_hash")

def inclusionOk (b : Json) : Bool :=
  blockHashOk (b.item "transaction_hash") && decimalOk (b.item "transaction_block_number") &&
    blockHashOk (b.item "transaction_block_hash")

/-- The block of the state against the block of the transaction. -/
def blockChecks (b : Json) : List Check :=
  .require (decimalValue (b.item "transaction_block_number") ≤ decimalValue (b.item "block_number"))
    "chain:state_block_precedes_inclusion" ::
    if b.item "block_number" = b.item "transaction_block_number" then
      [.require (b.item "block_hash" = b.item "transaction_block_hash") "chain:inclusion_block_hash_mismatch"]
    else if decimalValue (b.item "transaction_block_number") < decimalValue (b.item "block_number") then
      [.available false "chain:later_block_ancestry_not_proven_in_v0"]
    else []

def inclusionChecks (b : Json) : List Check :=
  if ["transaction_hash", "transaction_block_number", "transaction_block_hash"].all fun f => b.item f = .null then
    [.available false "chain:transaction_inclusion_unobserved"]
  else .require (inclusionOk b) "chain:transaction_context_shape" ::
    if contextOk b && inclusionOk b then blockChecks b else []

def finalityChecks (b : Json) : Option Json → List Check
  | none => [.available false "chain:required_finality_unavailable"]
  | some policy => [.available (b.item "finality" = .str "finalized" ||
      b.item "finality" = .str "observed_block" && policy.item "required_finality" = .str "observed_block")
      "chain:required_finality_not_observed"]

/-- The code that the operation asks for. -/
def requestedCode (op : Json) : String :=
  if op.item "action" = .str "clear_delegation" then "0x"
  else "0xef0100" ++ String.ofList ((op.item "delegation_target").text.toList.drop 2)

def codeChecks (op b : Json) : List Check :=
  if op.item "action" = .str "transfer" then
    [.available false "chain:operation_does_not_request_delegation_transition"]
  else if hexOk (b.item "delegation_code") then
    [.require (b.item "delegation_code" = .str (requestedCode op)) "chain:requested_delegation_state_contradicted"]
  else []

/-- What a chain observation is asked about the execution that was verified. -/
def submissionChecks (b execution : Json) : List Check :=
  [.require (b.item "execution_digest" = .str (digest py execution)) "chain:execution_digest_mismatch",
    .available (oneOf ["broadcast", "included"] (execution.item "state")) "chain:submission_not_observed"]

def chainTimes (at_ : ℤ) (execution : Option Json) (b : Json) : List Check :=
  .available ((b.item "observed_at").number ≤ at_) "chain:future_observation" ::
    execution.toList.flatMap fun e =>
      if integerOk (e.item "observed_at") then
        [.require ((e.item "observed_at").number ≤ (b.item "observed_at").number)
          "chain:observation_precedes_execution"]
      else []

def chainChecks (v : View) (trust : Trust) (at_ : ℤ) (b : Json) : List Check :=
  let publicKey := (v.found .chainObservation).map Prod.snd
  [.available (publicKey.any fun key => !(otherKeys trust).contains key)
      "chain:independent_observer_key_not_established",
    .require (b.item "operation_digest" = .str (digest py v.operation)) "chain:operation_digest_mismatch"] ++
  agree b v.operation ["chain_id", "wallet"] "chain:" "_mismatch" ++
  [.require (integerOk (b.item "observed_at")) "chain:observation_time_shape"] ++
  (if integerOk (b.item "observed_at") then chainTimes at_ (v.body .execution) b else []) ++
  [.available (v.body .execution).isSome "chain:execution_binding_unavailable"] ++
  (v.body .execution).toList.flatMap (submissionChecks py b) ++
  [.require (contextOk b) "chain:block_context_shape",
    .require (oneOf ["success", "reverted", "missing"] (b.item "receipt_status")) "chain:receipt_status_shape",
    .require (oneOf ["observed_block", "finalized", "unknown"] (b.item "finality")) "chain:finality_shape",
    .require (hexOk (b.item "delegation_code")) "chain:code_shape"] ++
  finalityChecks b (v.body .policy) ++ inclusionChecks b ++ codeChecks v.operation b

/-- `_chain` -/
def chain (v : View) (trust : Trust) (at_ : ℤ) : List Check :=
  bodyChecks py v .chainObservation ++ (v.body .chainObservation).toList.flatMap (chainChecks py v trust at_)

/-! ## Bundles -/

/-- `CLAIMS` -/
inductive Claim where
  | integrity
  | authorization
  | executionMatch
  | delegationState
  deriving DecidableEq

inductive Admission where
  | allow
  | deny
  deriving DecidableEq

/-- `admission_decision` on a report of this schema. -/
def admissionDecision (claims : Claim → ClaimResult) : Admission :=
  if [Claim.integrity, .authorization, .executionMatch, .delegationState].all
    fun c => (claims c).verdict = .valid then .allow else .deny

structure Report where
  evaluationTime : ℤ
  claims : Claim → ClaimResult
  runId : Json
  operationDigest : Option String
  admission : Admission

/-- The bundle as it is read back, when its shape and scope are those of the schema. -/
def readBundle (bundle : Json) : Except String Json := do
  let bundle ← loadJson py (← canonicalJson py bundle)
  require (bundle.hasFields ["schema", "synthetic", "run_id", "operation", "evidence"]) "bundle_fields"
  require (bundle.item "schema" = .str bundleSchema && bundle.item "synthetic" = .bool true && textOk (bundle.item "run_id"))
    "bundle_schema_or_scope"
  require ((bundle.item "evidence").isDict && (bundle.item "evidence").keys.all fun k => (records.map Record.name).contains k)
    "evidence_fields"
  validateOperation (bundle.item "operation")
  return bundle

/-- The report on a bundle that cannot be used. -/
def unusable (at_ : ℤ) (message : String) : Report where
  evaluationTime := at_
  claims claim := ⟨if claim = .integrity then .invalid else .indeterminate, ["bundle_unusable:" ++ message], []⟩
  runId := .null
  operationDigest := none
  admission := .deny

def viewOf (trust : Trust) (bundle : Json) : View where
  found record := (readRecord py trust (bundle.item "evidence") record).2
  evidence := bundle.item "evidence"
  operation := bundle.item "operation"
  runId := bundle.item "run_id"

/-- The checks of the integrity claim. -/
def integrity (trust : Trust) (bundle : Json) : List Check :=
  let checks := records.flatMap fun record => (readRecord py trust (bundle.item "evidence") record).1
  checks ++ [.available (checks.filterMap Check.digest ≠ []) "no_supplied_signed_evidence"]

/-- The checks of the four claims on a bundle that was read. -/
def claimChecks (trust : Trust) (at_ maxAge : ℤ) (bundle : Json) : Claim → List Check
  | .integrity => integrity py trust bundle
  | .authorization => authorization py (viewOf py trust bundle) at_ maxAge
  | .executionMatch => execution py (viewOf py trust bundle) at_ maxAge
  | .delegationState => chain py (viewOf py trust bundle) trust at_

def successText (v : View) : Claim → String
  | .integrity => "all_supplied_evidence_signatures_verified_completeness_not_established"
  | .authorization => "exact_intent_authorized_at_caller_time_with_scoped_control_evidence"
  | .executionMatch => if (v.body .execution).isNone then "execution_matches"
      else "signed_observer_binds_exact_declared_operation_and_exact_payload_bytes"
  | .delegationState => if (v.body .chainObservation).isNone then "delegation_state_matches"
      else "requested_delegation_code_observed_at_bound_block_and_required_finality"

/-- The assessment of a bundle that was read. -/
def assess (trust : Trust) (at_ maxAge : ℤ) (bundle : Json) : Report :=
  let claims := fun c => claimResult (claimChecks py trust at_ maxAge bundle c) (successText (viewOf py trust bundle) c)
  { evaluationTime := at_, claims, runId := bundle.item "run_id",
    operationDigest := some (digest py (bundle.item "operation")), admission := admissionDecision claims }

/-- `verify_bundle` -/
def verifyBundle (bundle : Json) (trust : Trust) (evaluationTime maxSnapshotAge : ℤ) : Except String Report := do
  checkTrust py trust
  require (integerOk (.int evaluationTime) && integerOk (.int maxSnapshotAge) && maxSnapshotAge ≠ 0)
    "caller_evaluation_time_or_max_age"
  match readBundle py bundle with
  | .error message => return unusable evaluationTime message
  | .ok bundle => return assess py trust evaluationTime maxSnapshotAge bundle

end Values
end VapEvidence.Wallet

import Mathlib.Data.List.Sort
import VapEvidence.PaymentStores

set_option autoImplicit false

/-!
# Admission of a payment

The admission gate around the payment runtime: its configuration, the assessment
of the supplied evidence at one moment, the proof record written with a claim,
and the recheck of such a record from its own bytes.
-/
namespace VapEvidence.Authorization
open Json Payment

def policySchema : String := "synthetic-payment-admission-policy-v0"
def approvalSchema : String := "synthetic-payment-admission-approval-v0"
def statusSchema : String := "synthetic-payment-admission-status-v0"
def decisionSchema : String := "synthetic-payment-admission-decision-v0"
def proofSchema : String := "synthetic-payment-admission-proof-v0"
def signingDomain : Bytes := encodeUtf8 "VSO synthetic payment admission evidence v0".toList ++ [0]
def approvals : List String := ["maker_approval", "checker_approval"]
def slots : List String := approvals ++ ["final_status"]
def roles : List String := ["approver", "status_authority"]
def roleOf (slot : String) : String := if slot = "final_status" then "status_authority" else "approver"
def policyFields : List String :=
  ["schema", "policy_id", "version", "context", "principal_id", "credential_id",
    "configuration_digest", "recovery_epoch", "allowed_sources", "allowed_beneficiaries",
    "max_amount_minor", "valid_from_ms", "valid_until_ms"]
def approvalFields : List String :=
  ["schema", "kind", "approval_id", "request_digest", "policy_digest", "issued_at_ms", "expires_at_ms"]
def statusFields : List String :=
  ["schema", "kind", "status_id", "request_digest", "policy_digest", "approval_digests",
    "principal_id", "credential_id", "configuration_digest", "recovery_epoch", "observed_at_ms",
    "valid_until_ms", "state", "revoked_at_ms"]
def identityFields : List String := ["person_id", "roles"] ++ scopeFields ++ ["valid_from_ms", "valid_until_ms"]
def recordFields : List String :=
  ["schema", "request_bytes", "policy_bytes", "trust_manifest_bytes", "identity_manifest_bytes",
    "max_status_age_ms", "evidence", "decision"]

/-! ## Configuration -/

def elements : Json → List Json
  | .arr xs => xs
  | _ => []

/-- `_texts` -/
def textsOk : Json → Bool
  | .arr xs => xs.length ≤ 64 && xs.all textOk && decide xs.Nodup
  | _ => false

def policyOk (v : Json) : Bool :=
  v.hasFields policyFields && v.item "schema" = .str policySchema &&
    ["policy_id", "version", "principal_id", "credential_id"].all (fun f => textOk (v.item f)) &&
    hashOk (v.item "configuration_digest") && integerOk (v.item "recovery_epoch") &&
    textsOk (v.item "allowed_sources") && textsOk (v.item "allowed_beneficiaries") &&
    decimalOk (v.item "max_amount_minor") &&
    integerOk (v.item "valid_from_ms") && integerOk (v.item "valid_until_ms") &&
    (v.item "valid_from_ms").number < (v.item "valid_until_ms").number

def identityOk (m : String × Json) : Bool :=
  m.1.length = 64 && m.1.toList.all isLowerHex && m.2.hasFields identityFields &&
    textOk (m.2.item "person_id") && textsOk (m.2.item "roles") && elements (m.2.item "roles") ≠ [] &&
    (elements (m.2.item "roles")).all (fun r => r = .str "maker" || r = .str "checker") &&
    scopeFields.all (fun f => textOk (m.2.item f)) &&
    integerOk (m.2.item "valid_from_ms") && integerOk (m.2.item "valid_until_ms") &&
    (m.2.item "valid_from_ms").number < (m.2.item "valid_until_ms").number

abbrev TrustedKeys := List (String × List (String × Bytes))

structure GateConfig where
  policy : Json
  trustedKeys : TrustedKeys
  identities : Json
  maxStatusAgeMs : ℤ

section Gate
variable (py : Platform)

/-- `_policy` -/
def policyOf (value : Json) : Except String Json := do
  let value ← load py (← canonical py value)
  require (policyOk value) "configured_policy_shape"
  let _ ← validateContext py (value.item "context")
  return value

def trustValue (trust : TrustedKeys) : Json :=
  dict (trust.map fun e => (e.1, dict (e.2.map fun k => (k.1, .str (hex k.2)))))

def checkKeys : List (String × Bytes) → Except String Unit
  | [] => .ok ()
  | (id, key) :: keys => do
    require (textOk (.str id) && key.length = 32) "configured_role_key_shape"
    require (py.publicKeyLoads key) "An Ed25519 public key is 32 bytes long"
    checkKeys keys

def checkRoles : TrustedKeys → Except String Unit
  | [] => .ok ()
  | (_, keys) :: rest => do
    checkKeys py keys
    checkRoles rest

/-- `_trust_manifest` -/
def trustManifest (trust : TrustedKeys) : Except String Json := do
  require (trust.all fun e => roles.contains e.1) "configured_trust_roles"
  checkRoles py trust
  load py (← canonical py (trustValue trust))

/-- `_identity_manifest` -/
def identityManifest (identities : Json) : Except String Json := do
  let result ← load py (← canonical py identities)
  match result with
  | .obj ms =>
    require (ms.all identityOk) "configured_identity_shape"
    return result
  | _ => .error "configured_identity_mapping"

/-! ## Assessment -/

/-- `_Decision`: reasons that deny and reasons that leave the outcome unknown. -/
structure Findings where
  denied : List String
  unknown : List String

namespace Findings

instance : Append Findings := ⟨fun a b => ⟨a.denied ++ b.denied, a.unknown ++ b.unknown⟩⟩

def none : Findings := ⟨[], []⟩

def demand (condition : Bool) (reason : String) : Findings :=
  if condition then none else ⟨[reason], []⟩

def available (condition : Bool) (reason : String) : Findings :=
  if condition then none else ⟨[], [reason]⟩

def all (fs : List Findings) : Findings := fs.foldl (· ++ ·) none

def verdict (f : Findings) : String :=
  if f.denied ≠ [] then "DENIED" else if f.unknown ≠ [] then "UNKNOWN" else "AUTHORIZED"

/-- `sorted(set(...))` -/
def reasons (f : Findings) : List String :=
  let found := f.denied ++ f.unknown
  (if found = [] then ["configured_mock_admission_supported_at_claim_time"] else found).dedup.insertionSort
    (· ≤ ·)

end Findings

open Findings

def approvalShape (body : Json) (slot : String) : Bool :=
  body.hasFields approvalFields && body.item "schema" = .str approvalSchema &&
    body.item "kind" = .str slot && textOk (body.item "approval_id") &&
    hashOk (body.item "request_digest") && hashOk (body.item "policy_digest") &&
    integerOk (body.item "issued_at_ms") && integerOk (body.item "expires_at_ms")

def statusShape (body : Json) : Bool :=
  body.hasFields statusFields && body.item "schema" = .str statusSchema &&
    body.item "kind" = .str "final_status" &&
    ["status_id", "principal_id", "credential_id"].all (fun f => textOk (body.item f)) &&
    ["request_digest", "policy_digest", "configuration_digest"].all (fun f => hashOk (body.item f)) &&
    ["recovery_epoch", "observed_at_ms", "valid_until_ms"].all (fun f => integerOk (body.item f)) &&
    ["active", "revoked", "unknown"].any (fun s => body.item "state" = .str s) &&
    (body.item "revoked_at_ms" = .null || integerOk (body.item "revoked_at_ms")) &&
    (body.item "approval_digests").hasFields approvals &&
    (body.item "approval_digests").members.all fun m => hashOk m.2

abbrev EvidenceBytes := List (String × Bytes)

/-- An envelope whose bytes are canonical and well formed. -/
def readEnvelope (raw : Bytes) : Except String Json := do
  let envelope ← load py raw
  require (envelope.hasFields ["key_id", "payload", "signature"] && canonical py envelope = .ok raw &&
    textOk (envelope.item "key_id") && signatureOk (envelope.item "signature"))
    "envelope_shape_or_encoding"
  return envelope

def envelopeVerifies (envelope : Json) (key : Json) : Except String Unit := do
  let message ← canonical py (pick ["key_id", "payload"] envelope)
  match unhex key.text, unhex (envelope.item "signature").text with
  | some key, some signature =>
    require (py.publicKeyLoads key && py.verify key (signingDomain ++ message) signature)
      "InvalidSignature"
  | _, _ => .error "non-hexadecimal number found in fromhex() arg"

/-- `_verified`: the signed statement and the hexadecimal key that signed it, or what is unknown. -/
def verified (slot : String) (evidence : EvidenceBytes) (trust : Json) (now : ℤ) :
    Except String (Json × Json) :=
  match evidence.lookup slot with
  | .none => .error (slot ++ ":missing_envelope")
  | .some raw =>
    match readEnvelope py raw with
    | .error _ => .error (slot ++ ":signature_or_canonical_envelope_unverifiable")
    | .ok envelope =>
      match (trust.item (roleOf slot)).get? (envelope.item "key_id").text with
      | .none => .error (slot ++ ":no_configured_role_key")
      | .some key =>
        match envelopeVerifies py envelope key with
        | .error _ => .error (slot ++ ":signature_or_canonical_envelope_unverifiable")
        | .ok () =>
          let body := envelope.item "payload"
          let shape := if approvals.contains slot then approvalShape body slot else statusShape body
          let observed := body.item (if approvals.contains slot then "issued_at_ms" else "observed_at_ms")
          if ¬ shape then .error (slot ++ ":signed_statement_shape_unusable")
          else if now < observed.number then .error (slot ++ ":statement_after_admission_time")
          else .ok (body, key)

def unknownOf {α : Type} : Except String α → Findings
  | .ok _ => none
  | .error reason => ⟨[], [reason]⟩

def within (v : Json) (first last : String) (now : ℤ) : Bool :=
  (v.item first).number ≤ now && now < (v.item last).number

variable {py} in
def policyFindings (r : Request py) (policy : Json) (now : ℤ) : Findings :=
  all ([demand (within policy "valid_from_ms" "valid_until_ms" now) "policy:outside_validity_window"] ++
    contextFields.map (fun f => demand (r.json.item f = (policy.item "context").item f)
      ("policy:" ++ f ++ "_mismatch")) ++
    ["configuration_digest", "recovery_epoch"].map (fun f =>
      demand (r.json.item f = policy.item f) ("policy:" ++ f ++ "_mismatch")) ++
    [demand ((elements (policy.item "allowed_sources")).contains (r.json.item "source_account"))
        "policy:source_not_allowed",
      demand ((elements (policy.item "allowed_beneficiaries")).contains (r.json.item "beneficiary"))
        "policy:beneficiary_not_allowed",
      demand (amount (r.field "amount_minor") ≤ amount (policy.item "max_amount_minor").text)
        "policy:amount_limit_exceeded"])

variable {py} in
def approvalFindings (r : Request py) (policyDigest : String) (identities : Json) (now : ℤ)
    (slot role : String) (approval key : Json) : Findings :=
  all ([demand (approval.item "request_digest" = .str r.digest) (slot ++ ":request_digest_mismatch"),
      demand (approval.item "policy_digest" = .str policyDigest) (slot ++ ":policy_digest_mismatch"),
      demand ((approval.item "issued_at_ms").number < (approval.item "expires_at_ms").number)
        (slot ++ ":invalid_window"),
      demand (within approval "issued_at_ms" "expires_at_ms" now) (slot ++ ":outside_validity_window")] ++
    match identities.get? key.text with
    | .none => [available false (slot ++ ":configured_identity_missing")]
    | .some identity =>
      [demand ((elements (identity.item "roles")).contains (.str role)) (slot ++ ":role_ineligible")] ++
      scopeFields.map (fun f => demand (identity.item f = r.json.item f)
        (slot ++ ":identity_" ++ f ++ "_mismatch")) ++
      [demand (within identity "valid_from_ms" "valid_until_ms" (approval.item "issued_at_ms").number)
          (slot ++ ":identity_not_eligible_at_issuance"),
        demand (within identity "valid_from_ms" "valid_until_ms" now)
          (slot ++ ":identity_not_eligible_at_admission")])

def freshness (status : Json) (now maxStatusAge : ℤ) : Bool :=
  within status "observed_at_ms" "valid_until_ms" now &&
    now - (status.item "observed_at_ms").number ≤ maxStatusAge

def revocationFindings (status : Json) (now : ℤ) : Findings :=
  if status.item "state" = .str "revoked" then
    match status.item "revoked_at_ms" with
    | .null => available false "final_status:revocation_time_missing"
    | revoked => all
      [demand (revoked.number ≤ (status.item "observed_at_ms").number)
          "final_status:revocation_after_observation",
        demand (now < revoked.number) "final_status:credential_revoked"]
  else all
    [demand (status.item "revoked_at_ms" = .null) "final_status:contradictory_revocation_time",
      available (status.item "state" = .str "active") "final_status:active_state_not_supplied"]

variable {py} in
def statusFindings (r : Request py) (policyDigest : String) (policy : Json) (evidence : EvidenceBytes)
    (approval : String → Except String (Json × Json)) (status : Json) (now maxStatusAge : ℤ) :
    Findings :=
  all ([demand (status.item "request_digest" = .str r.digest) "final_status:request_digest_mismatch",
      demand (status.item "policy_digest" = .str policyDigest) "final_status:policy_digest_mismatch"] ++
    ["principal_id", "credential_id", "configuration_digest", "recovery_epoch"].map (fun f =>
      demand (status.item f = policy.item f) ("final_status:" ++ f ++ "_mismatch")) ++
    approvals.map (fun slot => match approval slot with
      | .ok (record, _) => all
        [demand ((status.item "approval_digests").item slot =
            .str (bytesDigest py ((evidence.lookup slot).getD []))) ("final_status:" ++ slot ++ "_digest_mismatch"),
          demand ((record.item "issued_at_ms").number ≤ (status.item "observed_at_ms").number)
            ("final_status:precedes_" ++ slot)]
      | .error _ => ⟨[], ["final_status:" ++ slot ++ "_referent_unverifiable"]⟩) ++
    [demand ((status.item "observed_at_ms").number < (status.item "valid_until_ms").number)
        "final_status:invalid_window",
      available (freshness status now maxStatusAge) "final_status:missing_current_freshness",
      if freshness status now maxStatusAge then revocationFindings status now else none])

/-- Two present values that must differ. -/
def distinctFindings (a b : Option Json) (reason : String) : Findings :=
  match a, b with
  | .some a, .some b => demand (a ≠ b) reason
  | _, _ => none

def personOf (identities : Json) : Except String (Json × Json) → Option Json
  | .ok (_, key) => (identities.get? key.text).map fun identity => identity.item "person_id"
  | .error _ => .none

def approvalId : Except String (Json × Json) → Option Json
  | .ok (approval, _) => .some (approval.item "approval_id")
  | .error _ => .none

variable {py} in
def assessFindings (r : Request py) (evidence : EvidenceBytes) (problems : List String)
    (policy trust identities : Json) (policyDigest : String) (now maxStatusAge : ℤ) : Findings :=
  let record := fun slot => verified py slot evidence trust now
  let approvalOf := fun slot role => match record slot with
    | .ok (approval, key) => approvalFindings r policyDigest identities now slot role approval key
    | .error _ => none
  all [⟨[], problems⟩, policyFindings r policy now,
    all (slots.map fun slot => unknownOf (record slot)),
    approvalOf "maker_approval" "maker", approvalOf "checker_approval" "checker",
    distinctFindings (personOf identities (record "maker_approval"))
      (personOf identities (record "checker_approval")) "approvals:same_configured_person",
    distinctFindings (approvalId (record "maker_approval")) (approvalId (record "checker_approval"))
      "approvals:duplicate_approval_id",
    match record "final_status" with
    | .ok (status, _) => statusFindings r policyDigest policy evidence record status now maxStatusAge
    | .error _ => none]

variable {py} in
/-- `_assess` -/
def assess (r : Request py) (evidence : EvidenceBytes) (problems : List String)
    (policy trust identities : Json) (now maxStatusAge : ℤ) : Except String Json := do
  let policyDigest ← digest py policy
  let found := assessFindings r evidence problems policy trust identities policyDigest now maxStatusAge
  let trustDigest ← digest py trust
  let identityDigest ← digest py identities
  return dict [("schema", .str decisionSchema), ("verdict", .str found.verdict),
    ("request_digest", .str r.digest), ("evaluated_at_ms", .int now),
    ("admitted_at_ms", if found.verdict = "AUTHORIZED" then .int now else .null),
    ("reasons", .arr (found.reasons.map .str)), ("policy_digest", .str policyDigest),
    ("trust_manifest_digest", .str trustDigest), ("identity_manifest_digest", .str identityDigest),
    ("evidence_digests", dict (evidence.map fun e => (e.1, .str (bytesDigest py e.2))))]

/-! ## Supplied evidence -/

/-- What a caller passes as `evidence`; a slot that holds no bytes is `none`. -/
inductive Supplied where
  | absent
  | unusable
  | items (items : List (String × Option Bytes))

/-- `_freeze_evidence` -/
def freezeEvidence : Supplied → EvidenceBytes × List String
  | .absent => ([], [])
  | .unusable => ([], ["evidence_slots_unusable"])
  | .items items =>
    if items.any fun e => !slots.contains e.1 then ([], ["evidence_slots_unusable"])
    else
      let usable : Option Bytes → Bool := fun raw => raw.any fun raw => 0 < raw.length && raw.length ≤ 16384
      (slots.filterMap fun slot => (items.lookup slot).bind fun raw =>
          if usable raw then raw.map fun raw => (slot, raw) else .none,
        slots.filterMap fun slot => (items.lookup slot).bind fun raw =>
          if usable raw then .none else .some (slot ++ ":original_canonical_envelope_bytes_required"))

/-! ## Proof records -/

def hexMembers (evidence : EvidenceBytes) : Json := dict (evidence.map fun e => (e.1, .str (hex e.2)))

variable {py} in
def proofRecord (r : Request py) (policyBytes trustBytes identitiesBytes : Bytes) (maxStatusAge : ℤ)
    (evidence : EvidenceBytes) (decision : Json) : Json :=
  dict [("schema", .str proofSchema), ("request_bytes", .str (hex r.raw)),
    ("policy_bytes", .str (hex policyBytes)), ("trust_manifest_bytes", .str (hex trustBytes)),
    ("identity_manifest_bytes", .str (hex identitiesBytes)), ("max_status_age_ms", .int maxStatusAge),
    ("evidence", hexMembers evidence), ("decision", decision)]

/-- `_decoded_hex` -/
def decodedHex (value : Json) : Except String Bytes :=
  match value with
  | .str s =>
    match unhex s with
    | .some (b :: bs) => .ok (b :: bs)
    | _ => .error "record_hex_encoding"
  | _ => .error "record_hex_encoding"

def decodeMembers : List (String × Json) → Except String (List (String × Bytes))
  | [] => .ok []
  | (k, v) :: ms => do
    let raw ← decodedHex v
    return (k, raw) :: (← decodeMembers ms)

def decodeTrust : List (String × Json) → Except String TrustedKeys
  | [] => .ok []
  | (role, .obj keys) :: rest => do
    let keys ← decodeMembers keys
    return (role, keys) :: (← decodeTrust rest)
  | _ => .error "'items'"

def recordOk (raw : Bytes) (record : Json) : Bool :=
  record.hasFields recordFields && record.item "schema" = .str proofSchema &&
    canonical py record = .ok raw && integerOk (record.item "max_status_age_ms") &&
    record.item "max_status_age_ms" ≠ .int 0 && (record.item "evidence").hasFields slots &&
    (record.item "decision").isDict

/-- The decision that a record's own bytes reproduce. -/
def recheckDecision (raw : Bytes) : Except String Json := do
  let record ← load py raw
  require (recordOk py raw record) "UNVERIFIABLE"
  let rawRequest ← decodedHex (record.item "request_bytes")
  let r ← readRequest py "UNVERIFIABLE" rawRequest
  let policyRaw ← decodedHex (record.item "policy_bytes")
  let policy ← policyOf py (← load py policyRaw)
  require (canonical py policy = .ok policyRaw) "UNVERIFIABLE"
  let trustRaw ← decodedHex (record.item "trust_manifest_bytes")
  let originalTrust ← load py trustRaw
  require originalTrust.isDict "UNVERIFIABLE"
  let trust ← trustManifest py (← decodeTrust originalTrust.members)
  require (canonical py trust = .ok trustRaw) "UNVERIFIABLE"
  let identityRaw ← decodedHex (record.item "identity_manifest_bytes")
  let identities ← identityManifest py (← load py identityRaw)
  require (canonical py identities = .ok identityRaw) "UNVERIFIABLE"
  let original := record.item "decision"
  let admitted := original.item "admitted_at_ms"
  require (integerOk admitted && (original.item "evaluated_at_ms").pyEq admitted) "UNVERIFIABLE"
  let evidence ← decodeMembers (record.item "evidence").members
  let (frozen, problems) := freezeEvidence (.items (evidence.map fun e => (e.1, .some e.2)))
  let reconstructed ← assess r frozen problems policy trust identities admitted.number
    (record.item "max_status_age_ms").number
  require (reconstructed.item "verdict" = .str "AUTHORIZED" && reconstructed.pyEq original)
    "UNVERIFIABLE"
  return reconstructed

structure Recheck where
  verdict : String
  decision : Option Json
  recordDigest : String

/-- `recheck_record` -/
def recheckRecord (raw : Bytes) : Recheck :=
  match recheckDecision py raw with
  | .ok decision => ⟨"SUPPORTED", .some decision, bytesDigest py raw⟩
  | .error _ => ⟨"UNVERIFIABLE", .none, bytesDigest py raw⟩

/-! ## The authorized adapter -/

structure AuthorizedAdapter where
  adapter : Adapter
  policyBytes : Bytes
  trustBytes : Bytes
  identitiesBytes : Bytes
  maxStatusAgeMs : ℤ
  faultHook : Bool

/-- `AuthorizedAdapter.__init__` -/
def newAuthorizedAdapter (adapter : Adapter) (config : GateConfig) (faultHook : Bool) :
    Except String AuthorizedAdapter := do
  let policyBytes ← canonical py (← policyOf py config.policy)
  let trustBytes ← canonical py (← trustManifest py config.trustedKeys)
  let identitiesBytes ← canonical py (← identityManifest py config.identities)
  require (integerOk (.int config.maxStatusAgeMs) && config.maxStatusAgeMs ≠ 0)
    "configured_status_freshness"
  return { adapter, policyBytes, trustBytes, identitiesBytes,
           maxStatusAgeMs := config.maxStatusAgeMs, faultHook }

def unavailableAdmission (requestDigest : Json) (reason : String) : Json :=
  dict [("verdict", .str "UNKNOWN"), ("request_digest", requestDigest),
    ("reasons", .arr [.str reason]), ("proof_digest", .null)]

variable {py}

/-- The evidence of one call, as `_admission_callback` closes over it. -/
structure Admission where
  gate : AuthorizedAdapter
  evidence : EvidenceBytes
  problems : List String

/-- The callback `admit`; `hook` is what the fault hook does. -/
def Admission.admitting (c : Admission) (hook : Except Failure Unit) (r : Request py) (now : ℤ) (j : Journal) :
    Except Failure Journal := do
  let policy ← check (load py c.gate.policyBytes)
  let trust ← check (load py c.gate.trustBytes)
  let identities ← check (load py c.gate.identitiesBytes)
  let decision ← check (assess r c.evidence c.problems policy trust identities now c.gate.maxStatusAgeMs)
  if decision.item "verdict" ≠ .str "AUTHORIZED" then .error (.blocked decision)
  else
    let record ← check (canonical py (proofRecord r c.gate.policyBytes c.gate.trustBytes
      c.gate.identitiesBytes c.gate.maxStatusAgeMs c.evidence decision))
    let proofs ← integrity (j.proofs.insert ⟨r.digest, record, bytesDigest py record, now⟩)
    match (if c.gate.faultHook then hook else .ok ()) with
    | .ok () => return { j with proofs }
    | .error _ => .error (.blocked (unavailableAdmission (.str r.digest)
        "authorization_transaction_fault_no_post"))

inductive ReadingStatus where
  | unavailable
  | missing
  | conflict
  | found
  deriving DecidableEq

structure Reading where
  status : ReadingStatus
  requestDigest : String
  recordBytes : Option Bytes
  recordDigest : Option String
  decision : Option Json

/-- The checks of `read_authorization` on a stored proof. -/
def readingOf (r : Request py) (claim : Dispatch) (proof : ProofRow) : Reading :=
  let refused : Reading := ⟨.unavailable, r.digest, .none, .none, .none⟩
  match recheckDecision py proof.recordBytes with
  | .error _ => refused
  | .ok decision =>
    match load py proof.recordBytes with
    | .error _ => refused
    | .ok packed =>
      if bytesDigest py proof.recordBytes = proof.recordDigest ∧
          packed.item "request_bytes" = .str (hex r.raw) ∧
          decision.item "request_digest" = .str r.digest ∧
          decision.item "admitted_at_ms" = .int proof.admittedAt ∧ proof.admittedAt = claim.claimedAt
      then ⟨.found, r.digest, .some proof.recordBytes, .some proof.recordDigest, .some decision⟩
      else refused

/-- `read_authorization` on one snapshot of the journal. -/
def readAuthorization (a : AuthorizedAdapter) (r : Request py) (j : Journal) : Reading :=
  match find Dispatch.identity j.dispatches.rows a.adapter.scope r with
  | .error _ => ⟨.conflict, r.digest, .none, .none, .none⟩
  | .ok .none => ⟨.missing, r.digest, .none, .none, .none⟩
  | .ok (.some claim) =>
    match j.proofs.rows.find? fun p => p.requestDigest = r.digest with
    | .none => ⟨.missing, r.digest, .none, .none, .none⟩
    | .some proof => readingOf r claim proof

end Gate
end VapEvidence.Authorization

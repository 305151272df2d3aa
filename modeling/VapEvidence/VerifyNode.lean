import VapEvidence.EvidencePack

set_option autoImplicit false

/-!
# The Node verifier

`verifyPack` of `verify_node.mjs`. Times are compared as texts, attempts and
outcomes are kept in two maps, and the tree is computed over ranges of leaf
digests.
-/
namespace VapEvidence.Evidence.Node
open Json

/-! ## Values -/

/-- `Object.keys` -/
def objectKeys (v : Json) : Option (List String) :=
  match v with
  | .obj ms => some (ms.map Prod.fst)
  | _ => none

/-- `exactObject` -/
def exactObject (value : Json) (fields : List String) (label : String) : Run Unit :=
  match objectKeys value with
  | none => .error (.verification (label ++ " must be an object"))
  | some actual => require (actual.length = fields.length && actual.all fun key => fields.contains key)
      (label ++ " has missing or unsupported fields")

/-- `integer` -/
def integer (value : Json) (minimum maximum : ℤ) (label : String) : Run Unit :=
  let message := label ++ " must be an integer from " ++ toString minimum ++ " to " ++ toString maximum
  match value with
  | .int n => require (isSafeInteger n && minimum ≤ n && n ≤ maximum) message
  | _ => .error (.verification message)

/-- `equal` -/
def equal (value expected : Json) (label : String) : Run Unit :=
  require (value = expected) (label ++ " is unsupported or does not match")

/-- `digest` -/
def digest (value : Json) (label : String) : Run Unit :=
  match value with
  | .str s => require (units s.toList = 64 && !s.toList.any fun c => !isLowerHex c)
      (label ++ " must be a lowercase SHA-256 digest")
  | _ => .error (.verification (label ++ " must be a lowercase SHA-256 digest"))

/-- `base64Bytes` -/
def base64Bytes (value : Json) (length : ℕ) (label : String) : Run Bytes :=
  match value with
  | .str s => do
    require (s.toList ≠ []) (label ++ " must be canonical padded base64")
    let bytes := Base64.decodeLoose s.toList
    require (bytes.length = length && Base64.encode bytes = s.toList)
      (label ++ " must be canonical padded base64 for " ++ toString length ++ " bytes")
    return bytes
  | _ => .error (.verification (label ++ " must be canonical padded base64"))

/-- `days` of `timestamp` -/
def days (leap : Bool) : List ℕ := [31, if leap then 29 else 28, 31, 30, 31, 30, 31, 31, 30, 31, 30, 31]

/-- `timestamp` -/
def timestamp (value : Json) (label : String) : Run Unit :=
  match value with
  | .str s => do
    require (units s.toList = 20) (label ++ " must be a UTC timestamp of exactly 20 characters")
    require (fits template s.toList) (label ++ " must have YYYY-MM-DDTHH:MM:SSZ form")
    match timeFields s.toList with
    | [year, month, day, hour, minute, second] =>
      let leap := year % 4 = 0 && (year % 100 ≠ 0 || year % 400 = 0)
      require (!(year < 1 || month < 1 || month > 12 || day < 1 || day > (days leap).getD (month - 1) 0 ||
        hour > 23 || minute > 59 || second > 59)) (label ++ " is not a real UTC calendar value")
    | _ => .error .other
  | _ => .error (.verification (label ++ " must be a UTC timestamp of exactly 20 characters"))

/-- `a < b` between texts; the shapes leave no other operands. -/
def lessText : Json → Json → Bool
  | .str a, .str b => a.toList < b.toList
  | _, _ => false

/-! ## Shapes -/

/-- `validateScope` -/
def validateScope (scope : Json) : Run Unit := do
  exactObject scope scopeFields "scope"
  scopeTexts.forM fun key => do lift (printable (← sub scope key) ("scope." ++ key) true)
  timestamp (← sub scope "window_start") "scope.window_start"
  timestamp (← sub scope "window_end") "scope.window_end"
  require (!lessText (← sub scope "window_end") (← sub scope "window_start")) "scope window is reversed"
  let types ← sub scope "in_scope_event_types"
  require (isList types && (items types).length = eventTypes.length &&
    ((items types).zip eventTypes).all fun p => p.1 = .str p.2) "scope.in_scope_event_types is unsupported"
  integer (← sub scope "expected_attempt_count") 1 64 "scope.expected_attempt_count"
  equal (← sub scope "completeness_rule") (.str "ATTEMPT_OUTCOME_BIJECTION") "scope.completeness_rule"

/-- `validateEvent` from the provenance on. -/
def validateProvenance (provenance : Json) (attempt : Bool) (label : String) : Run Unit := do
  if attempt then
    exactObject provenance attemptFields (label ++ ".provenance")
    digest (← sub provenance "input_hash") (label ++ ".provenance.input_hash")
    exactObject (← sub provenance "context") ["jurisdiction"] (label ++ ".provenance.context")
    lift (printable (← sub (← sub provenance "context") "jurisdiction")
      (label ++ ".provenance.context.jurisdiction") true)
  else
    exactObject provenance outcomeFields (label ++ ".provenance")
    let outcome ← sub provenance "outcome"
    require (outcomes.any fun o => outcome = .str o) (label ++ ".provenance.outcome is unsupported")
    lift (printable (← sub provenance "reason_code") (label ++ ".provenance.reason_code") true)
    let review ← sub provenance "human_review_required"
    require (review = .bool true || review = .bool false)
      (label ++ ".provenance.human_review_required must be boolean")
  provenanceTexts.forM fun key => do
    lift (printable (← sub provenance key) (label ++ ".provenance." ++ key) true)

/-- `validateEvent` -/
def validateEvent (event : Json) (index : ℕ) : Run Unit := do
  let label := "events[" ++ toString index ++ "]"
  exactObject event eventFields label
  equal (← sub event "contract_id") (.str contractId) (label ++ ".contract_id")
  eventTexts.forM fun key => do lift (printable (← sub event key) (label ++ "." ++ key) true)
  integer (← sub event "sequence_no") 1 128 (label ++ ".sequence_no")
  let kind ← sub event "event_type"
  require (eventTypes.any fun k => kind = .str k) (label ++ ".event_type is unsupported")
  timestamp (← sub event "timestamp") (label ++ ".timestamp")
  digest (← sub event "payload_hash") (label ++ ".payload_hash")
  let _ ← base64Bytes (← sub event "signature") 64 (label ++ ".signature")
  validateProvenance (← sub event "provenance") (kind = .str attemptType) label

/-- `pack.events.forEach(validateEvent)` from an index on. -/
def validateEvents : ℕ → List Json → Run Unit
  | _, [] => .ok ()
  | index, event :: rest => do
    validateEvent event index
    validateEvents (index + 1) rest

def validateRecord (record : Json) (field kind : String) : Run Unit := do
  exactObject record recordFields field
  equal (← sub record "record_type") (.str kind) (field ++ ".record_type")
  lift (printable (← sub record "key_id") (field ++ ".key_id") true)
  digest (← sub record "merkle_root") (field ++ ".merkle_root")
  digest (← sub record "scope_commitment") (field ++ ".scope_commitment")
  integer (← sub record "event_count") 1 128 (field ++ ".event_count")
  timestamp (← sub record "issued_at") (field ++ ".issued_at")
  let _ ← base64Bytes (← sub record "signature") 64 (field ++ ".signature")

/-- `validatePack` -/
def validatePack (pack : Json) : Run Unit := do
  exactObject pack packFields "pack"
  equal (← sub pack "contract_id") (.str contractId) "contract_id"
  equal (← sub pack "canonicalization") (.str canonicalization) "canonicalization"
  equal (← sub pack "hash_algorithm") (.str "SHA-256") "hash_algorithm"
  equal (← sub pack "signature_algorithm") (.str "Ed25519") "signature_algorithm"
  validateScope (← sub pack "scope")
  digest (← sub pack "scope_commitment") "scope_commitment"
  let events ← sub pack "events"
  require (isList events && !((items events).length < 2) && !((items events).length > 128))
    "events must be an array with 2 through 128 entries"
  validateEvents 0 (items events)
  let merkle ← sub pack "merkle"
  exactObject merkle ["algorithm", "root"] "merkle"
  equal (← sub merkle "algorithm") (.str "RFC6962-SHA256") "merkle.algorithm"
  digest (← sub merkle "root") "merkle.root"
  roleRecords.forM fun r => do validateRecord (← sub pack r.1) r.1 r.2.2

/-- The loop over the roles, with `keyIds`, `keyValues` and `publicKeys` so far. -/
def validateRoles (roles : Json) (keyIds : List Json) (keyValues : List String) (publicKeys : List (String × Bytes)) :
    List String → Run (List (String × Bytes))
  | [] => .ok publicKeys
  | role :: rest => do
    let entry ← sub roles role
    exactObject entry ["key_id", "public_key"] ("trust.roles." ++ role)
    let id ← sub entry "key_id"
    lift (printable id ("trust.roles." ++ role ++ ".key_id") true)
    let raw ← base64Bytes (← sub entry "public_key") 32 ("trust.roles." ++ role ++ ".public_key")
    require (!(id ∈ keyIds || hex raw ∈ keyValues)) "trust roles must use distinct key identifiers and public keys"
    validateRoles roles (id :: keyIds) (hex raw :: keyValues) ((role, raw) :: publicKeys) rest

/-- `validateTrust` -/
def validateTrust (trust : Json) : Run (List (String × Bytes)) := do
  exactObject trust trustFields "trust"
  equal (← sub trust "contract_id") (.str contractId) "trust.contract_id"
  equal (← sub trust "trust_version") (.str "demo-trust/1") "trust.trust_version"
  digest (← sub trust "scope_commitment") "trust.scope_commitment"
  let roles ← sub trust "roles"
  exactObject roles roleNames "trust.roles"
  validateRoles roles [] [] [] roleNames

/-! ## `verifyPack` -/

section Verify
variable (py : Platform)

/-- `sha256(canonical(value)).toString('hex')` -/
def commitment (value : Json) : Run Json := do
  let bytes ← lift (canonical value)
  return .str (hex (py.sha256 bytes))

/-- `publicKeys[role]`; an absent key is refused when the key object is made. -/
def keyOf (publicKeys : List (String × Bytes)) (role : String) : Bytes := (publicKeys.lookup role).getD []

/-- `verifySignature` -/
def verifySignature (body signature : Json) (rawKey : Bytes) (label : String) : Run Unit := do
  let signatureBytes ← base64Bytes signature 64 (label ++ " signature")
  require (py.publicKeyLoads rawKey) (label ++ " signature cannot be verified")
  let bytes ← lift (canonical body)
  require (py.verify rawKey bytes signatureBytes) (label ++ " signature does not match the supplied role key")

/-- `while (split * 2 < count) split *= 2` -/
def splitLoop (count split : ℕ) : ℕ :=
  if h : 0 < split ∧ split * 2 < count then splitLoop count (split * 2) else split
termination_by count - split
decreasing_by omega

/-- `leaves` of `merkleRoot` -/
def leafDigests (events : List Json) : Run (List Bytes) :=
  events.mapM fun event => do
    let bytes ← lift (canonical event)
    return py.sha256 (0 :: bytes)

theorem splitLoop_pow {count k : ℕ} (h : 2 ^ k < count) : splitLoop count (2 ^ k) = Merkle.splitPoint count := by
  generalize hs : 2 ^ k = split at h
  fun_induction splitLoop count split generalizing k with
  | case1 split hlt ih => exact ih (by rw [Nat.pow_succ, hs]) hlt.2
  | case2 split hge =>
    subst hs
    have hpos := Nat.two_pow_pos k
    exact Merkle.eq_splitPoint h (by omega)

theorem splitLoop_one {count : ℕ} (h : 2 ≤ count) : splitLoop count 1 = Merkle.splitPoint count :=
  splitLoop_pow (k := 0) h

/-- `subtree` -/
def subtree (leaves : List Bytes) (first stop : ℕ) : Bytes :=
  if _h₀ : stop - first = 0 then py.sha256 []
  else if _h₁ : stop - first = 1 then leaves.getD first []
  else
    let split := splitLoop (stop - first) 1
    py.sha256 (1 :: (subtree leaves first (first + split) ++ subtree leaves (first + split) stop))
termination_by stop - first
decreasing_by
  · have := Merkle.splitPoint_lt (show 2 ≤ stop - first by omega)
    rw [splitLoop_one (by omega)]
    omega
  · have := Merkle.splitPoint_pos (stop - first)
    rw [splitLoop_one (by omega)]
    omega

/-- `merkleRoot` -/
def merkleRoot (events : List Json) : Run Json := do
  let leaves ← leafDigests py events
  return .str (hex (subtree py leaves 0 leaves.length))

/-- One turn of the loop over the signatures of the events. -/
def signedEvent (trust : Json) (producerKey : Bytes) (event : Json) : Run Unit := do
  equal (← sub event "key_id") (← sub (← sub (← sub trust "roles") "producer") "key_id")
    "event producer key identifier"
  equal (← sub event "payload_hash") (← commitment py (without ["payload_hash", "signature"] event))
    "event payload hash"
  verifySignature py (without ["signature"] event) (← sub event "signature") producerKey "event"

/-- The loop over the sequence, with `eventIds` and `previousTimestamp` so far. -/
def sequenced (scope : Json) : ℕ → List Json → Json → List Json → Run Unit
  | _, _, _, [] => .ok ()
  | index, eventIds, previous, event :: rest => do
    let id ← sub event "event_id"
    require (id ∉ eventIds) "duplicate event identifier"
    equal (← sub event "sequence_no") (.int (index + 1)) "event sequence number"
    equal (← sub event "chain_id") (← sub scope "chain_id") "event chain identifier"
    equal (← sub event "policy_id") (← sub scope "policy_id") "event policy identifier"
    let time ← sub event "timestamp"
    require (!(lessText time (← sub scope "window_start") || lessText (← sub scope "window_end") time))
      "event timestamp is outside the declared inclusive window"
    require (!lessText time previous) "event timestamps are not nondecreasing"
    sequenced scope (index + 1) (id :: eventIds) time rest

/-- One turn of the loop over the role records. -/
def roleRecord (pack trust : Json) (publicKeys : List (String × Bytes)) (root scopeCommitment : Json)
    (length : ℕ) (field role : String) : Run Unit := do
  let record ← sub pack field
  equal (← sub record "key_id") (← sub (← sub (← sub trust "roles") role) "key_id") (field ++ " role key identifier")
  verifySignature py (without ["signature"] record) (← sub record "signature") (keyOf publicKeys role) field
  equal (← sub record "merkle_root") root (field ++ " Merkle root")
  equal (← sub record "scope_commitment") scopeCommitment (field ++ " scope commitment")
  equal (← sub record "event_count") (.int length) (field ++ " event count")
  require (!lessText (← sub record "issued_at") (← sub (← sub pack "scope") "window_end"))
    (field ++ " timestamp precedes the window end")

/-- `attempts` and `outcomes`: sequence numbers by attempt identifier. -/
structure Groups where
  attempts : List (Json × Json) := []
  outcomes : List (Json × Json) := []

/-- One turn of the loop over the groups. -/
def groupEvent (groups : Groups) (event : Json) : Run Groups := do
  let attempt := (← sub event "event_type") = .str attemptType
  let group := if attempt then groups.attempts else groups.outcomes
  let id ← sub (← sub event "provenance") "attempt_id"
  require (id ∉ group.map Prod.fst) "attempt/outcome identifier occurs more than once within its event type"
  let group := group ++ [(id, ← sub event "sequence_no")]
  return if attempt then { groups with attempts := group } else { groups with outcomes := group }

def groupEvents : Groups → List Json → Run Groups
  | groups, [] => .ok groups
  | groups, event :: rest => do groupEvents (← groupEvent groups event) rest

/-- `a <= b` between numbers; the shapes leave no other operands. -/
def lessOrEqual : Json → Json → Bool
  | .int a, .int b => a ≤ b
  | _, _ => false

/-- The last loop, over the attempts. -/
def answered (outcomes : List (Json × Json)) (attempts : List (Json × Json)) : Run Unit :=
  attempts.forM fun (id, sequence) =>
    match outcomes.lookup id with
    | none => .error (.verification "recorded attempt has no corresponding outcome")
    | some later => require (!lessOrEqual later sequence) "outcome does not follow its attempt"

/-- `verifyPack` -/
def verifyPack (pack trust : Json) : Run (List String) := do
  let _ ← lift (canonical pack)
  let _ ← lift (canonical trust)
  validatePack pack
  let publicKeys ← validateTrust trust
  let scope ← sub pack "scope"
  let scopeCommitment ← commitment py scope
  equal (← sub pack "scope_commitment") scopeCommitment "pack scope commitment"
  equal (← sub trust "scope_commitment") scopeCommitment "externally supplied scope commitment"
  let events := items (← sub pack "events")
  events.forM (signedEvent py trust (keyOf publicKeys "producer"))
  sequenced scope 0 [] (.str "") events
  let root ← merkleRoot py events
  equal (← sub (← sub pack "merkle") "root") root "Merkle root"
  roleRecords.forM fun r => roleRecord py pack trust publicKeys root scopeCommitment events.length r.1 r.2.1
  let groups ← groupEvents {} events
  require (!(groups.attempts.length ≠ groups.outcomes.length ||
    .int groups.attempts.length ≠ (← sub scope "expected_attempt_count")))
    "attempt/outcome cardinality does not match the pinned scope"
  answered groups.outcomes groups.attempts
  return checkNames

/-- The verdict of `main` on the bytes of the two files. -/
def main (packFile trustFile : Bytes) : Verdict :=
  verdict do
    let pack ← lift (loadJsonFile packFile)
    let trust ← lift (loadJsonFile trustFile)
    verifyPack py pack trust

end Verify
end VapEvidence.Evidence.Node

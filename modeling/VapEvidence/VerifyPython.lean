import VapEvidence.EvidencePack

set_option autoImplicit false

/-!
# The Python verifier

`verify_pack` of `verify_python.py`. `_validate_shape` is cut at its objects; the
roles are walked in key order, in the source in the order of the file.
-/
namespace VapEvidence.Evidence.Python
open Json

/-! ## Values -/

/-- `_shape` -/
def shape (value : Json) (fields : List String) (label : String) : Run Unit :=
  require (value.hasFields fields) (label ++ " has missing or unknown fields")

/-- `_string` -/
def string (value : Json) (label : String) : Run Unit :=
  match value with
  | .str s => require (0 < s.length && s.length ≤ 1024 && s.toList.all isPrintable)
      (label ++ " must be nonempty ASCII")
  | _ => .error (.verification (label ++ " must be nonempty ASCII"))

/-- `_count` -/
def count (value : Json) (low high : ℤ) (label : String) : Run Unit :=
  match value with
  | .int n => require (low ≤ n && n ≤ high) (label ++ " is out of range")
  | _ => .error (.verification (label ++ " is out of range"))

/-- `_hex` -/
def hexDigest (value : Json) (label : String) : Run Unit :=
  match value with
  | .str s => require (s.length = 64 && s.toList.all isLowerHex) (label ++ " must be a lowercase SHA-256 digest")
  | _ => .error (.verification (label ++ " must be a lowercase SHA-256 digest"))

/-- `_base64` -/
def base64 (value : Json) (size : ℕ) (label : String) : Run Bytes :=
  match value with
  | .str s =>
    match Base64.decodeStrict s.toList with
    | none => .error (.verification (label ++ " is not canonical base64"))
    | some raw => do
      require (raw.length = size && Base64.encode raw = s.toList)
        (label ++ " has the wrong length or noncanonical base64")
      return raw
  | _ => .error (.verification (label ++ " must be base64 text"))

/-- `_timestamp` -/
def timestamp (value : Json) (label : String) : Run DateTime :=
  match value with
  | .str s =>
    if fits template s.toList then
      match strptime s.toList with
      | some time => .ok time
      | none => .error (.verification (label ++ " is not a real calendar timestamp"))
    else .error (.verification (label ++ " must be a UTC timestamp with seconds"))
  | _ => .error (.verification (label ++ " must be a UTC timestamp with seconds"))

/-! ## `_validate_shape` -/

def validateScope (scope : Json) : Run (DateTime × DateTime) := do
  shape scope scopeFields "scope"
  scopeTexts.forM fun key => do string (← sub scope key) ("scope." ++ key)
  let start ← timestamp (← sub scope "window_start") "scope.window_start"
  let stop ← timestamp (← sub scope "window_end") "scope.window_end"
  require (start ≤ stop) "scope window is reversed"
  require ((← sub scope "in_scope_event_types") = .arr (eventTypes.map .str)) "unsupported in-scope event types"
  require ((← sub scope "completeness_rule") = .str "ATTEMPT_OUTCOME_BIJECTION") "unsupported completeness rule"
  count (← sub scope "expected_attempt_count") 1 64 "expected_attempt_count"
  return (start, stop)

def validateProvenance (provenance : Json) (attempt : Bool) : Run Unit := do
  shape provenance (if attempt then attemptFields else outcomeFields) "provenance"
  provenanceTexts.forM fun key => do string (← sub provenance key) ("provenance." ++ key)
  if attempt then
    hexDigest (← sub provenance "input_hash") "input_hash"
    shape (← sub provenance "context") ["jurisdiction"] "context"
    string (← sub (← sub provenance "context") "jurisdiction") "jurisdiction"
  else
    let outcome ← sub provenance "outcome"
    require (outcomes.any fun o => outcome = .str o) "unsupported outcome"
    string (← sub provenance "reason_code") "reason_code"
    let review ← sub provenance "human_review_required"
    require (review = .bool true || review = .bool false) "human_review_required must be boolean"

def validateEvent (event : Json) : Run Unit := do
  shape event eventFields "event"
  require ((← sub event "contract_id") = .str contractId) "unsupported event contract"
  let kind ← sub event "event_type"
  require (eventTypes.any fun k => kind = .str k) "unsupported event type"
  eventTexts.forM fun key => do string (← sub event key) ("event." ++ key)
  count (← sub event "sequence_no") 1 128 "sequence_no"
  let _ ← timestamp (← sub event "timestamp") "event.timestamp"
  hexDigest (← sub event "payload_hash") "payload_hash"
  let _ ← base64 (← sub event "signature") 64 "event signature"
  validateProvenance (← sub event "provenance") (kind = .str attemptType)

def validateRecord (record : Json) (field : String) : Run Unit := do
  shape record recordFields field
  string (← sub record "record_type") "record_type"
  string (← sub record "key_id") "record.key_id"
  hexDigest (← sub record "merkle_root") "record.merkle_root"
  hexDigest (← sub record "scope_commitment") "record.scope_commitment"
  count (← sub record "event_count") 1 128 "record.event_count"
  let _ ← timestamp (← sub record "issued_at") "record.issued_at"
  let _ ← base64 (← sub record "signature") 64 "record signature"

/-- The loop over `trust["roles"].items()`, with `role_keys` and `role_ids` so far. -/
def validateRoles (keys : List (String × Bytes)) (ids : List Json) :
    List (String × Json) → Run (List (String × Bytes))
  | [] => .ok keys
  | (role, config) :: rest => do
    shape config ["key_id", "public_key"] "trust role"
    let id ← sub config "key_id"
    string id "trust.key_id"
    let raw ← base64 (← sub config "public_key") 32 "public_key"
    require (id ∉ ids && raw ∉ keys.map Prod.snd) "roles require distinct key IDs and public keys"
    validateRoles (keys ++ [(role, raw)]) (ids ++ [id]) rest

def validatePack (pack : Json) : Run (DateTime × DateTime) := do
  shape pack packFields "pack"
  require ((← sub pack "contract_id") = .str contractId) "unsupported contract_id"
  require ((← sub pack "canonicalization") = .str canonicalization) "unsupported canonicalization"
  require ((← sub pack "hash_algorithm") = .str "SHA-256") "unsupported hash algorithm"
  require ((← sub pack "signature_algorithm") = .str "Ed25519") "unsupported signature algorithm"
  let window ← validateScope (← sub pack "scope")
  hexDigest (← sub pack "scope_commitment") "scope_commitment"
  let events ← sub pack "events"
  require (isList events && 2 ≤ (items events).length && (items events).length ≤ 128)
    "events must contain between 2 and 128 items"
  (items events).forM validateEvent
  let merkle ← sub pack "merkle"
  shape merkle ["algorithm", "root"] "merkle"
  require ((← sub merkle "algorithm") = .str "RFC6962-SHA256") "unsupported Merkle algorithm"
  hexDigest (← sub merkle "root") "merkle.root"
  roleRecords.forM fun r => do validateRecord (← sub pack r.1) r.1
  return window

def validateTrust (trust : Json) : Run (List (String × Bytes)) := do
  shape trust trustFields "trust"
  require ((← sub trust "contract_id") = .str contractId && (← sub trust "trust_version") = .str "demo-trust/1")
    "unsupported trust contract"
  hexDigest (← sub trust "scope_commitment") "trust.scope_commitment"
  let roles ← sub trust "roles"
  shape roles roleNames "trust.roles"
  validateRoles [] [] roles.members

/-- `_validate_shape` -/
def validateShape (pack trust : Json) : Run ((DateTime × DateTime) × List (String × Bytes)) := do
  lift (subset 0 pack)
  lift (subset 0 trust)
  let window ← validatePack pack
  let roleKeys ← validateTrust trust
  return (window, roleKeys)

/-! ## `verify_pack` -/

section Verify
variable (py : Platform)

/-- `_digest` -/
def digest (value : Json) : Run Json := do
  let raw ← lift (canonical py value)
  return .str (hex (py.sha256 raw))

/-- `int.bit_length` -/
def bitLength (n : ℕ) : ℕ := if n = 0 then 0 else Nat.log2 n + 1

theorem shift_bitLength {n : ℕ} (h : 2 ≤ n) : 1 <<< (bitLength (n - 1) - 1) = Merkle.splitPoint n := by
  rw [bitLength, if_neg (by omega), Nat.add_sub_cancel, Nat.one_shiftLeft]
  rfl

/-- `merkle_root` -/
def tree : List Json → Run Bytes
  | [] => .ok (py.sha256 [])
  | [leaf] => do
    let raw ← lift (canonical py leaf)
    return py.sha256 (0 :: raw)
  | a :: b :: rest => do
    let split := 1 <<< (bitLength ((a :: b :: rest).length - 1) - 1)
    let left ← tree ((a :: b :: rest).take split)
    let right ← tree ((a :: b :: rest).drop split)
    return py.sha256 (1 :: (left ++ right))
termination_by leaves => leaves.length
decreasing_by
  · rw [shift_bitLength (by simp), List.length_take]
    exact lt_of_le_of_lt (min_le_left _ _) (Merkle.splitPoint_lt (by simp))
  · rw [shift_bitLength (by simp), List.length_drop]
    exact Nat.sub_lt (by simp) (Merkle.splitPoint_pos _)

def keyOf (roleKeys : List (String × Bytes)) (role : String) : Run Bytes :=
  match roleKeys.lookup role with
  | some key => .ok key
  | none => .error .other

/-- `_signature` -/
def signature (value : Json) (publicKey : Bytes) (label : String) : Run Unit := do
  let sig ← base64 (← sub value "signature") 64 (label ++ " signature")
  let raw ← lift (canonical py (without ["signature"] value))
  require (py.publicKeyLoads publicKey && py.verify publicKey raw sig) (label ++ " signature is invalid")

/-- One turn of the loop over the signatures of the events. -/
def signedEvent (roles : Json) (producerKey : Run Bytes) (event : Json) : Run Unit := do
  require ((← sub event "key_id") = (← sub (← sub roles "producer") "key_id"))
    "event is not signed by the producer role"
  require ((← sub event "payload_hash") = (← digest py (without ["payload_hash", "signature"] event)))
    "event payload hash mismatch"
  signature py event (← producerKey) "event"

/-- The loop over the sequence, with `seen_ids` and `previous_time` so far. -/
def sequenced (scope : Json) (start stop : DateTime) : ℕ → List Json → DateTime → List Json → Run Unit
  | _, _, _, [] => .ok ()
  | sequence, seenIds, previous, event :: rest => do
    require ((← sub event "sequence_no") = .int sequence) "sequence is not contiguous in array order"
    let id ← sub event "event_id"
    require (id ∉ seenIds) "duplicate event ID"
    require ((← sub event "chain_id") = (← sub scope "chain_id") &&
      (← sub event "policy_id") = (← sub scope "policy_id")) "event chain or policy differs from scope"
    let time ← timestamp (← sub event "timestamp") "event.timestamp"
    require (start ≤ time && time ≤ stop && previous ≤ time) "event timestamp is outside the window or decreases"
    sequenced scope start stop (sequence + 1) (id :: seenIds) time rest

/-- One turn of the loop over the role receipts. -/
def roleReceipt (pack roles : Json) (roleKeys : List (String × Bytes)) (root commitment : Json)
    (length : ℕ) (stop : DateTime) (field role kind : String) : Run Unit := do
  let record ← sub pack field
  require ((← sub record "record_type") = .str kind &&
    (← sub record "key_id") = (← sub (← sub roles role) "key_id")) (field ++ " has the wrong record type or role")
  require ((← sub record "merkle_root") = root && (← sub record "scope_commitment") = commitment &&
    (← sub record "event_count") = .int length) (field ++ " binding mismatch")
  let issued ← timestamp (← sub record "issued_at") (field ++ ".issued_at")
  require (stop ≤ issued) (field ++ " predates the end of the scope")
  signature py record (← keyOf roleKeys role) field

/-- `pairs`: for each attempt identifier the event types seen under it, with their sequence numbers. -/
abbrev Pairs : Type := List (Json × List (Json × Json))

/-- `pairs[id] = pair`, in place where the key is there. -/
def setPair (id : Json) (pair : List (Json × Json)) : Pairs → Pairs
  | [] => [(id, pair)]
  | (k, p) :: rest => if k = id then (k, pair) :: rest else (k, p) :: setPair id pair rest

/-- One turn of the loop over the pairs. -/
def pairEvent (pairs : Pairs) (event : Json) : Run Pairs := do
  let id ← sub (← sub event "provenance") "attempt_id"
  let pair := (pairs.lookup id).getD []
  let kind ← sub event "event_type"
  require (kind ∉ pair.map Prod.fst) "duplicate attempt or outcome for an attempt ID"
  if kind = .str outcomeType then
    require (.str attemptType ∈ pair.map Prod.fst) "outcome appears before its attempt"
  return setPair id (pair ++ [(kind, ← sub event "sequence_no")]) pairs

def pairEvents : Pairs → List Json → Run Pairs
  | pairs, [] => .ok pairs
  | pairs, event :: rest => do pairEvents (← pairEvent pairs event) rest

/-- `set(pair) == set(EVENT_TYPES)` -/
def isComplete (pair : List (Json × Json)) : Bool :=
  eventTypes.all (fun k => .str k ∈ pair.map Prod.fst) &&
    (pair.map Prod.fst).all fun k => eventTypes.any fun t => k = .str t

/-- `verify_pack` -/
def verifyPack (pack trust : Json) : Run (List String) := do
  let ((start, stop), roleKeys) ← validateShape pack trust
  let scope ← sub pack "scope"
  let events ← sub pack "events"
  let roles ← sub trust "roles"
  let commitment ← digest py scope
  require ((← sub pack "scope_commitment") = commitment && commitment = (← sub trust "scope_commitment"))
    "scope does not match the caller's pinned commitment"
  (items events).forM (signedEvent py roles (keyOf roleKeys "producer"))
  sequenced scope start stop 1 [] start (items events)
  let root := .str (hex (← tree py (items events)))
  require ((← sub (← sub pack "merkle") "root") = root) "Merkle root mismatch"
  roleRecords.forM fun r =>
    roleReceipt py pack roles roleKeys root commitment (items events).length stop r.1 r.2.1 r.2.2
  let pairs ← pairEvents [] (items events)
  require ((← sub scope "expected_attempt_count") = .int pairs.length && pairs.all fun p => isComplete p.2)
    "attempt/outcome bijection does not match the pinned expected count"
  return checkNames

/-- The verdict of `main` on the bytes of the two files. -/
def main (packFile trustFile : Bytes) : Verdict :=
  verdict do
    let pack ← lift (loadJson packFile)
    let trust ← lift (loadJson trustFile)
    verifyPack py pack trust

end Verify
end VapEvidence.Evidence.Python

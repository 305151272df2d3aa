import VapEvidence.Base64
import VapEvidence.CanonicalAgreement
import VapEvidence.DateTime
import VapEvidence.MerkleTree

set_option autoImplicit false

/-!
# Evidence packs

What an accepted pack is, apart from either verifier: the shape of a pack and of
its trust file, and what binds the two together.
-/
namespace VapEvidence.Evidence
open Json

/-! ## Names -/

def attemptType : String := "AI_DECISION_ATTEMPT"
def outcomeType : String := "AI_DECISION_OUTCOME"
def eventTypes : List String := [attemptType, outcomeType]
def packFields : List String :=
  ["contract_id", "canonicalization", "hash_algorithm", "signature_algorithm", "scope", "scope_commitment",
   "events", "merkle", "producer_manifest", "observer_receipt", "demo_anchor_receipt"]
def scopeFields : List String :=
  ["chain_id", "batch_id", "policy_id", "window_start", "window_end", "in_scope_event_types",
   "expected_attempt_count", "completeness_rule"]
def scopeTexts : List String := ["chain_id", "batch_id", "policy_id"]
def eventFields : List String :=
  ["contract_id", "chain_id", "event_id", "sequence_no", "event_type", "timestamp", "issuer_id", "key_id",
   "policy_id", "model_id", "provenance", "payload_hash", "signature"]
def eventTexts : List String := ["chain_id", "event_id", "issuer_id", "key_id", "policy_id", "model_id"]
def provenanceTexts : List String := ["attempt_id", "actor", "action"]
def attemptFields : List String := provenanceTexts ++ ["input_hash", "context"]
def outcomeFields : List String := provenanceTexts ++ ["outcome", "reason_code", "human_review_required"]
def outcomes : List String := ["APPROVED", "DENIED_AUTOMATION"]
def recordFields : List String :=
  ["record_type", "key_id", "merkle_root", "scope_commitment", "event_count", "issued_at", "signature"]
def trustFields : List String := ["contract_id", "trust_version", "scope_commitment", "roles"]
def roleNames : List String := ["producer", "observer", "anchor"]
/-- `ROLE_RECORDS`: the record, its role and its type. -/
def roleRecords : List (String × String × String) :=
  [("producer_manifest", "producer", "PRODUCER_MANIFEST"), ("observer_receipt", "observer", "OBSERVER_RECEIPT"),
   ("demo_anchor_receipt", "anchor", "DEMO_ANCHOR_RECEIPT")]
/-- The checks a verifier reports when it accepts. -/
def checkNames : List String :=
  ["contract-and-shape", "pinned-scope", "event-signatures", "sequence-and-scope", "rfc6962-root",
   "role-receipts", "attempt-outcome-bijection"]

/-! ## Values of the parts -/

def isLowerHex (c : Char) : Bool := ('0' ≤ c ∧ c ≤ '9') ∨ ('a' ≤ c ∧ c ≤ 'f')

/-- Nonempty printable ASCII. -/
def IsText (v : Json) : Prop := ∃ s, v = .str s ∧ Printable s ∧ s ≠ ""

def IsCount (low high : ℤ) (v : Json) : Prop := ∃ n, v = .int n ∧ low ≤ n ∧ n ≤ high

def IsDigest (v : Json) : Prop := ∃ s, v = .str s ∧ s.length = 64 ∧ s.toList.all isLowerHex = true

/-- Canonical base64 of `size` bytes. -/
def IsBase64 (size : ℕ) (v : Json) : Prop :=
  ∃ raw, v = .str (String.ofList (Base64.encode raw)) ∧ raw.length = size

/-- The bytes of a base64 text. -/
def rawOf : Json → Bytes
  | .str s => Base64.decodeLoose s.toList
  | _ => []

def timeOf : Json → Option DateTime
  | .str s => strptime s.toList
  | _ => none

instance : Inhabited DateTime := ⟨⟨1, 1, 1, 0, 0, 0, by decide⟩⟩

def IsTime (v : Json) : Prop := (timeOf v).isSome = true

/-- The time a text of the form stands for. -/
def instant (v : Json) : DateTime := (timeOf v).getD default

/-- The elements of an array. -/
def items : Json → List Json
  | .arr xs => xs
  | _ => []

def isList : Json → Bool
  | .arr _ => true
  | _ => false

/-- A dictionary without some of its keys. -/
def without (keys : List String) : Json → Json
  | .obj ms => .obj (ms.filter fun m => !keys.contains m.1)
  | v => v

def isAttempt (event : Json) : Bool := event.item "event_type" = .str attemptType

def attemptId (event : Json) : Json := (event.item "provenance").item "attempt_id"

def keyId (trust : Json) (role : String) : Json := ((trust.item "roles").item role).item "key_id"

def roleKey (trust : Json) (role : String) : Bytes := rawOf (((trust.item "roles").item role).item "public_key")

/-! ## Shape -/

structure ScopeShape (scope : Json) : Prop where
  fields : scope.hasFields scopeFields = true
  texts : ∀ k ∈ scopeTexts, IsText (scope.item k)
  start : IsTime (scope.item "window_start")
  stop : IsTime (scope.item "window_end")
  window : instant (scope.item "window_start") ≤ instant (scope.item "window_end")
  types : scope.item "in_scope_event_types" = .arr (eventTypes.map .str)
  rule : scope.item "completeness_rule" = .str "ATTEMPT_OUTCOME_BIJECTION"
  count : IsCount 1 64 (scope.item "expected_attempt_count")

structure AttemptShape (provenance : Json) : Prop where
  fields : provenance.hasFields attemptFields = true
  input : IsDigest (provenance.item "input_hash")
  context : (provenance.item "context").hasFields ["jurisdiction"] = true
  jurisdiction : IsText ((provenance.item "context").item "jurisdiction")

structure OutcomeShape (provenance : Json) : Prop where
  fields : provenance.hasFields outcomeFields = true
  outcome : ∃ o ∈ outcomes, provenance.item "outcome" = .str o
  reason : IsText (provenance.item "reason_code")
  review : ∃ b, provenance.item "human_review_required" = .bool b

structure EventShape (event : Json) : Prop where
  fields : event.hasFields eventFields = true
  contract : event.item "contract_id" = .str contractId
  kind : ∃ k ∈ eventTypes, event.item "event_type" = .str k
  texts : ∀ k ∈ eventTexts, IsText (event.item k)
  sequence : IsCount 1 128 (event.item "sequence_no")
  time : IsTime (event.item "timestamp")
  payload : IsDigest (event.item "payload_hash")
  signature : IsBase64 64 (event.item "signature")
  provenance : if isAttempt event then AttemptShape (event.item "provenance")
    else OutcomeShape (event.item "provenance")
  names : ∀ k ∈ provenanceTexts, IsText ((event.item "provenance").item k)

structure RecordShape (record : Json) : Prop where
  fields : record.hasFields recordFields = true
  kind : IsText (record.item "record_type")
  key : IsText (record.item "key_id")
  root : IsDigest (record.item "merkle_root")
  commitment : IsDigest (record.item "scope_commitment")
  count : IsCount 1 128 (record.item "event_count")
  issued : IsTime (record.item "issued_at")
  signature : IsBase64 64 (record.item "signature")

structure PackShape (pack : Json) : Prop where
  fields : pack.hasFields packFields = true
  contract : pack.item "contract_id" = .str contractId
  canonicalization : pack.item "canonicalization" = .str canonicalization
  hash : pack.item "hash_algorithm" = .str "SHA-256"
  signatures : pack.item "signature_algorithm" = .str "Ed25519"
  scope : ScopeShape (pack.item "scope")
  commitment : IsDigest (pack.item "scope_commitment")
  list : isList (pack.item "events") = true
  atLeast : 2 ≤ (items (pack.item "events")).length
  atMost : (items (pack.item "events")).length ≤ 128
  events : ∀ e ∈ items (pack.item "events"), EventShape e
  merkle : (pack.item "merkle").hasFields ["algorithm", "root"] = true
  algorithm : (pack.item "merkle").item "algorithm" = .str "RFC6962-SHA256"
  root : IsDigest ((pack.item "merkle").item "root")
  records : ∀ r ∈ roleRecords, RecordShape (pack.item r.1)

structure TrustShape (trust : Json) : Prop where
  fields : trust.hasFields trustFields = true
  contract : trust.item "contract_id" = .str contractId
  version : trust.item "trust_version" = .str "demo-trust/1"
  commitment : IsDigest (trust.item "scope_commitment")
  roles : (trust.item "roles").hasFields roleNames = true
  role : ∀ r ∈ roleNames, ((trust.item "roles").item r).hasFields ["key_id", "public_key"] = true ∧
    IsText (keyId trust r) ∧ IsBase64 32 (((trust.item "roles").item r).item "public_key")
  distinct : roleNames.Pairwise fun r r' => keyId trust r ≠ keyId trust r' ∧ roleKey trust r ≠ roleKey trust r'

/-! ## What an accepted pack holds -/

section Accepted
variable (py : Platform)

/-- The canonical bytes of a value of the subset. -/
def canonBytes (v : Json) : Bytes := encodeUtf8 (dumps py.floatRepr true v)

/-- The hexadecimal digest of the canonical bytes. -/
def digestOf (v : Json) : Json := .str (hex (py.sha256 (canonBytes py v)))

/-- The signature of a value over the rest of it verifies under the key. -/
def SignedBy (key : Bytes) (v : Json) : Prop :=
  py.publicKeyLoads key = true ∧
    py.verify key (canonBytes py (without ["signature"] v)) (rawOf (v.item "signature")) = true

/-- RFC 6962 hashing of canonical events. -/
def merkleHash : Merkle.TreeHash Bytes Bytes where
  empty := py.sha256 []
  leaf d := py.sha256 (0 :: d)
  node l r := py.sha256 (1 :: (l ++ r))

def rootOf (events : List Json) : Json :=
  .str (hex ((merkleHash py).root (.ofList (events.map (canonBytes py)))))

structure SignedEvent (trust event : Json) : Prop where
  key : event.item "key_id" = keyId trust "producer"
  payload : event.item "payload_hash" = digestOf py (without ["payload_hash", "signature"] event)
  signature : SignedBy py (roleKey trust "producer") event

/-- The events are numbered in array order, have distinct identifiers, belong to the scope, and
    their times do not decrease inside the window. -/
structure Sequenced (scope : Json) (events : List Json) : Prop where
  number : ∀ i, ∀ h : i < events.length, (events.get ⟨i, h⟩).item "sequence_no" = .int (i + 1)
  ids : (events.map fun e => e.item "event_id").Nodup
  chain : ∀ e ∈ events, e.item "chain_id" = scope.item "chain_id" ∧ e.item "policy_id" = scope.item "policy_id"
  window : ∀ e ∈ events, instant (scope.item "window_start") ≤ instant (e.item "timestamp") ∧
    instant (e.item "timestamp") ≤ instant (scope.item "window_end")
  times : events.Pairwise fun e f => instant (e.item "timestamp") ≤ instant (f.item "timestamp")

structure RecordBinds (pack trust : Json) (record role kind : String) : Prop where
  typed : (pack.item record).item "record_type" = .str kind
  key : (pack.item record).item "key_id" = keyId trust role
  root : (pack.item record).item "merkle_root" = rootOf py (items (pack.item "events"))
  commitment : (pack.item record).item "scope_commitment" = digestOf py (pack.item "scope")
  count : (pack.item record).item "event_count" = .int (items (pack.item "events")).length
  issued : instant ((pack.item "scope").item "window_end") ≤ instant ((pack.item record).item "issued_at")
  signature : SignedBy py (roleKey trust role) (pack.item record)

/-- Every attempt has one outcome, every outcome one attempt before it, and there are `count` attempts. -/
structure Bijection (events : List Json) (count : Json) : Prop where
  once : (events.map fun e => (isAttempt e, attemptId e)).Nodup
  before : ∀ earlier e later, events = earlier ++ e :: later → isAttempt e = false →
    ∃ a ∈ earlier, isAttempt a = true ∧ attemptId a = attemptId e
  answered : ∀ a ∈ events, isAttempt a = true → ∃ e ∈ events, isAttempt e = false ∧ attemptId e = attemptId a
  count : count = .int (events.filter isAttempt).length

/-- A pack that a trust file accepts. -/
structure Accepted (pack trust : Json) : Prop where
  packDomain : Subset 0 pack
  trustDomain : Subset 0 trust
  packShape : PackShape pack
  trustShape : TrustShape trust
  pinned : pack.item "scope_commitment" = digestOf py (pack.item "scope") ∧
    trust.item "scope_commitment" = digestOf py (pack.item "scope")
  events : ∀ e ∈ items (pack.item "events"), SignedEvent py trust e
  sequence : Sequenced (pack.item "scope") (items (pack.item "events"))
  root : (pack.item "merkle").item "root" = rootOf py (items (pack.item "events"))
  records : ∀ r ∈ roleRecords, RecordBinds py pack trust r.1 r.2.1 r.2.2
  bijection : Bijection (items (pack.item "events")) ((pack.item "scope").item "expected_attempt_count")

end Accepted

/-! ## Running a verifier -/

/-- What a verifier raises: its own `VerificationError`, or anything else. -/
inductive Raised where
  | verification (message : String)
  | other

def Raised.isVerification : Raised → Prop
  | .verification _ => True
  | .other => False

abbrev Run (α : Type) : Type := Except Raised α

/-- `_require`, and a condition before `reject`. -/
def require (c : Bool) (message : String) : Run Unit := if c then .ok () else .error (.verification message)

/-- A reader or canonicaliser inside a verifier. -/
def lift {α : Type} (m : Except String α) : Run α := m.mapError .verification

/-- `value[k]`; an absent key or a value that is no dictionary is another exception. In the Node
    verifier an absent property is `undefined`, which no access reaches. -/
def sub (v : Json) (k : String) : Run Json :=
  match v.get? k with
  | some x => .ok x
  | none => .error .other

inductive Verdict where
  | pass (checks : List String)
  | fail
  | error
  deriving DecidableEq

def verdict : Run (List String) → Verdict
  | .ok checks => .pass checks
  | .error (.verification _) => .fail
  | .error .other => .error

end VapEvidence.Evidence

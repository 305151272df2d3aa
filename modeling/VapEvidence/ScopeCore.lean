import VapEvidence.ScopeCrypto

set_option autoImplicit false

/-!
# The current-framework pass of the declared-scope verifier

`scope_verifier/verifier.py` up to `Evaluation.core`: the checks of signatures, anchor,
index, events and commitment proofs, and the requirement results drawn from them.
-/
namespace VapEvidence.Scope
open Json Recording
open Incident (Packages Raised Run inputError sub sha256Hex)

/-! ## What an evaluation leaves behind -/

structure Check where
  check : String
  result : State
  reason : String
  evidence : List String
  deriving DecidableEq

/-- An entry of `findings` or `unresolved`. -/
structure Note where
  code : String
  reason : String
  evidence : List String
  deriving DecidableEq

inductive Entry where
  | crypto (c : Check)
  | scope (c : Check)
  | finding (n : Note)
  | unresolved (n : Note)
  deriving DecidableEq

def Entry.crypto? : Entry → Option Check
  | .crypto c => some c
  | _ => none

def Entry.scope? : Entry → Option Check
  | .scope c => some c
  | _ => none

def Entry.finding? : Entry → Option Note
  | .finding n => some n
  | _ => none

def Entry.unresolved? : Entry → Option Note
  | .unresolved n => some n
  | _ => none

abbrev M : Type → Type := Recording Raised Entry

/-- `self.crypto.items` -/
def cryptoOf (log : List Entry) : List Check := log.filterMap Entry.crypto?

/-- `aggregate` -/
def aggregate (checks : List Check) : State :=
  let states := checks.map Check.result
  if states.contains .failed then .failed
  else if states.isEmpty || states.contains .indeterminate then .indeterminate
  else .verified

def put (c : Check) : M Bool := do
  record (.crypto c)
  return c.result = .verified

/-- `self.crypto.add` -/
def add (check : String) (result : State) (reason : String) (evidence : List String) : M Bool :=
  put ⟨check, result, reason, evidence⟩

def stateOf (condition : Bool) : State := if condition then .verified else .failed

/-- `self.crypto.test` -/
def test (check : String) (condition : Bool) (reason : String) (evidence : List String) : M Bool :=
  add check (stateOf condition) reason evidence

/-! ## Evaluations -/

structure Evaluation where
  p : Json
  trust : Json
  at_ : ℕ
  simulate : Bool

/-- `Evaluation.__init__` -/
def newEvaluation (package trust at_ : Json) (simulate : Bool) : Run Evaluation := do
  objectValue package "package"
  objectValue trust "trust"
  return ⟨package, trust, ← natural at_ maxTime, simulate && trust.item "purpose" = .str "synthetic-test-only"⟩

section Evaluation
variable (pk : Packages) (ev : Evaluation)

/-- That a signed body has the kind, the evaluation and the policy of the evaluator. -/
def bound (obj : Json) (kind ref : String) : Run Bool := do
  objectValue obj ref
  let body ← sub obj "body"
  objectValue body (ref ++ ".body")
  ["kind", "evaluation_id", "policy_digest"].forM fun key => do
    let _ ← stringValue (← sub body key) (ref ++ ".body." ++ key)
  allOf [return body.item "kind" = .str kind,
    do return body.item "evaluation_id" = (← sub ev.trust "evaluation_id"),
    do return body.item "policy_digest" = (← sub ev.trust "policy_digest")]

/-- `Evaluation.signed` -/
def signed (obj : Json) (kind ref : String) : M Bool := do
  let (state, reason) ← authenticate pk obj ev.trust kind
  let ok ← add (ref ++ ".signature") state reason [ref]
  if obj = .null then return false
  else
    let binding ← bound ev obj kind ref
    let bindingOk ← test (ref ++ ".binding") binding "Object kind, evaluation and policy must match evaluator inputs" [ref]
    return bindingOk && ok

/-- `Evaluation.receipt` -/
def receipt (obj : Json) (target purpose ref : String) : M Bool := do
  if obj = .null then
    let _ ← add ref .indeterminate "Required external receipt is absent" [ref]
    return false
  else
    let ok ← signed pk ev obj "receipt" ref
    let body ← sub obj "body"
    let exact_ ← allOf [do return (← sub body "target_digest") = .str target, do return (← sub body "purpose") = .str purpose]
    let targetOk ← test (ref ++ ".target") exact_ "Exact receipt target and purpose binding" [ref]
    let accepted ← natural (← sub body "accepted_at") maxTime
    let uncertainty ← natural (← sub body "uncertainty") 86400
    if ev.at_ < accepted + uncertainty then
      let _ ← add (ref ++ ".availability") .indeterminate "Receipt is not established by the evaluator's time" [ref]
      return false
    else if body.item "adapter" ≠ .str "synthetic-receipt/1" || !ev.simulate then
      let _ ← add (ref ++ ".trust_path") .indeterminate
        "Only a simulated receipt adapter exists; use explicit synthetic mode for fixtures" [ref]
      return false
    else
      let _ ← add (ref ++ ".trust_path") .verified
        "Simulation: test key authenticates the receipt; no independent time attestation" [ref]
      return targetOk && ok

/-! ## The anchored batch -/

/-- A list of at most `maxItems` values. -/
def collection (value : Json) (message : String) : Run (List Json) :=
  match value with
  | .arr xs => if xs.length ≤ maxItems then .ok xs else inputError message
  | _ => inputError message

/-- The policy of the package, which names the keys that may sign for a source. -/
def readPolicy : Run Json := do
  Incident.require ((← sub ev.p "format") = .str adapter) "Unsupported evidence adapter"
  let _ ← collection (← sub ev.p "events") "Unsupported event collection"
  let policy ← sub ev.p "policy"
  objectValue policy "policy"
  let signers ← sub policy "event_signers"
  objectValue signers "policy.event_signers"
  signers.members.forM fun m => do
    let _ ← stringValue (.str m.1) "event source"
    let _ ← stringArray m.2 "event source signers"
  Incident.require (← allOf [do return (← sub policy "adapter") = .str adapter,
    do return (← sub policy "multiplicity") = .str "exactly-one-per-obligation"])
    "Unimplemented adapter or multiplicity policy"
  return policy

/-- What the anchor commits to, with the index that the package supplies for it. -/
structure Batch where
  batch : Json
  size : ℕ
  index : List Json
  ids : List Json

def readBatch : Run Batch := do
  Incident.require (!falsy (ev.p.item "anchor")) "This adapter requires an anchor object"
  let batch ← sub (← sub (← sub ev.p "anchor") "body") "batch"
  let size ← natural (← sub batch "event_count") maxItems
  let index ← collection (← sub ev.p "batch_index") "Unsupported batch index"
  return ⟨batch, size, index, ← index.mapM fun entry => sub entry "event_id"⟩

/-- `set(values)`, which raises on a value that cannot be hashed. -/
def asSet (values : List Json) : Run Unit := if values.all hashable then .ok () else .error .type

/-- `index_good` -/
def indexGood (b : Batch) : Run Bool :=
  allOf [return b.index.length = b.size,
    do asSet b.ids; return distinct b.ids = b.size,
    do return .str (← digest pk (.arr b.index)) = (← sub b.batch "index_digest"),
    do
      let leaves ← b.index.mapM fun e => do hexBytes (← sub e "leaf_hash") 32
      return .str (hex (merkleRoot pk leaves)) = (← sub b.batch "merkle_root"),
    do return equal (← sub b.batch "first_event_id") (b.ids.head?.getD .null),
    do return equal (← sub b.batch "last_event_id") (b.ids.getLast?.getD .null),
    do return equal (← sub b.batch "policy_digest") (← sub ev.trust "policy_digest")]

/-- The evaluation once the policy, the anchor, its index and its receipt are checked. -/
structure Anchored extends Batch where
  policy : Json
  policyOk : Bool
  indexOk : Bool
  anchorOk : Bool

def anchored : M Anchored := do
  let policy ← readPolicy ev
  let pinned ← (do return .str (← digest pk policy) = (← sub ev.trust "policy_digest") : Run Bool)
  let policyOk ← test "policy.binding" pinned "Policy digest must be pinned outside the package"
    ["policy", "trust.policy_digest"]
  let signedOk ← signed pk ev (ev.p.item "anchor") "anchor" "anchor"
  let b ← readBatch ev
  let good ← indexGood pk ev b
  let goodOk ← test "anchor.index" good "Signed index digest, distinct IDs, root, count, endpoints and policy binding"
    ["anchor.batch", "batch_index"]
  let anchorDigest ← digest pk (ev.p.item "anchor")
  let receiptOk ← receipt pk ev (ev.p.item "anchor_receipt") anchorDigest "anchor" "anchor_receipt"
  return { b with
    policy, policyOk, indexOk := goodOk && (signedOk && policyOk), anchorOk := signedOk && policyOk && receiptOk }

/-! ## Events and commitment proofs -/

/-- What the loop over the events keeps of one event. -/
structure Delivered where
  eventId : String
  body : Json
  index : ℕ
  sigOk : Bool
  hashOk : Bool
  proofOk : Bool
  valid : Bool
  inclusion : Check

def inclusionCheck (ref : String) (ok : Bool) : Check :=
  ⟨ref ++ ".inclusion", stateOf ok, "RFC 6962 inclusion and authenticated index identity", [ref, "anchor", "batch_index"]⟩

/-- The identity and the place that the index has for an event. -/
def included (a : Anchored) (body event : Json) (index : ℕ) : Run Bool :=
  allOf [return index < a.index.length,
    do
      let leaf ← leafHash pk body
      return equal (a.index.getD index .null) (dict [("event_id", body.item "event_id"),
        ("source_id", body.item "source_id"), ("event_type", body.item "event_type"), ("leaf_hash", .str (hex leaf))]),
    do
      let leaf ← leafHash pk body
      inclusion pk leaf index a.size (← sub event "path") (← sub a.batch "merkle_root")]

/-- One round of the loop over the events. -/
def deliver (a : Anchored) (pos : ℕ) (event : Json) : M Delivered := do
  let ref := "events[" ++ toString pos ++ "]"
  let envelope ← sub event "signed"
  let body ← sub envelope "body"
  let _ ← sub body "event_id"
  (["event_id", "source_id", "event_type"].forM fun key => do
    let _ ← stringValue (← sub body key) (ref ++ "." ++ key) : Run Unit)
  let signedOk ← signed pk ev envelope "event" (ref ++ ".signed")
  let keyId ← sub envelope "key_id"
  let signers := ((a.policy.item "event_signers").get? (textAt body "source_id")).getD (.arr [])
  let sourceOk := (elems signers).any fun s => equal keyId s
  let authorized ← add (ref ++ ".source") (if sourceOk then .verified else .indeterminate)
    "Signer authorization for the named source" [ref, "policy"]
  let sigOk := authorized && signedOk
  let hashed ← (do return .str (← digest pk body) = (← sub event "event_hash") : Run Bool)
  let hashOk ← test (ref ++ ".hash") hashed "SHA-256 of RFC 8785 canonical event body" [ref]
  let index ← natural (← sub event "index") maxItems
  let inclusion := inclusionCheck ref (← included pk a body event index)
  let proofOk ← put inclusion
  return { eventId := textAt body "event_id", body, index, sigOk, hashOk, proofOk, inclusion
           valid := sigOk && hashOk && proofOk && a.indexOk && a.anchorOk }

/-- What `self.proofs` keeps of one commitment proof, and its check. -/
structure Commitment where
  identity : Json
  valid : Bool
  inclusion : Check

/-- One round of the loop over the commitment proofs. -/
def commit (a : Anchored) (pos : ℕ) (proof : Json) : M Commitment := do
  let ref := "commitment_proofs[" ++ toString pos ++ "]"
  let index ← natural (← sub proof "index") maxItems
  let identity ← (return dict [("event_id", ← sub proof "event_id"), ("event_type", ← sub proof "event_type"),
    ("source_id", ← sub proof "source_id"), ("leaf_hash", ← sub proof "leaf_hash")] : Run Json)
  let ok ← allOf [return index < a.index.length, return equal (a.index.getD index .null) identity,
    do
      let leaf ← hexBytes (← sub proof "leaf_hash") 32
      inclusion pk leaf index a.size (← sub proof "path") (← sub a.batch "merkle_root")]
  let inclusion : Check := ⟨ref, stateOf ok, "Hidden payload commitment bound to the authenticated batch index",
    [ref, "anchor", "batch_index"]⟩
  let ok ← put inclusion
  asSet [identity.item "event_id"]
  return ⟨identity, ok && a.indexOk && a.anchorOk, inclusion⟩

/-! ## Requirements -/

def isEventSignature (name : String) : Bool :=
  "events[".toList.isPrefixOf name.toList && ".signature".toList.isSuffixOf name.toList

/-- Whether every position and every identity of the anchored batch was delivered. -/
def complete (a : Anchored) (events : List Delivered) : Run Bool :=
  let ids := events.map Delivered.eventId
  let indices := events.map Delivered.index
  allOf [return ids.length = a.size, return ids.dedup.length = a.size,
    return (indices.all fun i => i < a.size) && (List.range a.size).all fun i => indices.contains i,
    do
      asSet a.ids
      return (ids.all fun i => a.ids.contains (.str i)) && a.ids.all fun i => ids.any fun d => i = .str d]

/-- The results of the implemented requirements, from the checks up to here. -/
def requirements (a : Anchored) (events : List Delivered) (crypto anchoring : List Check) : Run (List Check) := do
  let hashesOk := events.all Delivered.hashOk
  let sigsOk := events.all Delivered.sigOk
  let ids := events.map Delivered.eventId
  let signatureFailure := crypto.any fun c => isEventSignature c.check && c.result = .failed
  let complete ← complete a events
  let completeness : State :=
    if complete && !(hashesOk && sigsOk && events.all Delivered.proofOk) then .indeterminate
    else stateOf complete
  return [
    ⟨"INT-001/003", stateOf hashesOk, "Implemented JCS and event hashes for supplied event bodies only", ["events"]⟩,
    ⟨"INT-002", stateOf (ids.dedup.length = ids.length),
      "Distinct supplied event IDs; UUIDv7 is not imposed by this adapter", ["events"]⟩,
    ⟨"INT-005", if sigsOk then .verified else if signatureFailure then .failed else .indeterminate,
      "Ed25519 event signatures requested by this experiment policy; framework requirement is SHOULD", ["events"]⟩,
    ⟨"INT-006", aggregate anchoring,
      "Signed Merkle root, inclusion and external receipt; simulation only when explicitly enabled",
      ["anchor", "anchor_receipt", "events", "batch_index"]⟩,
    ⟨"INT-008", if a.indexOk && a.anchorOk then completeness else .indeterminate,
      "Reconcile delivery with the original authenticated batch, including count, IDs, range and policy; " ++
        "a valid subset is not a complete batch", ["anchor", "batch_index", "events"]⟩,
    ⟨"INT-004", .indeterminate, "Profile-specific sequencing beyond Merkle position is not implemented", []⟩,
    ⟨"INT-007", .indeterminate, "Operational continuity, fallback and assurance evidence are not implemented", []⟩,
    ⟨"INT-009", .indeterminate, "Recovery authorization and bounds are not implemented", []⟩]

/-- What the experimental pass reads of the core pass. -/
structure Core extends Anchored where
  events : List Delivered
  proofs : List Commitment
  requirements : List Check

/-- `p.get("commitment_proofs", [])` -/
def commitmentProofs : Json := (ev.p.get? "commitment_proofs").getD (.arr [])

/-- `Evaluation.core` -/
def core : M Core := do
  let ((a, events, proofs, anchoring), log) ← listen do
    let (a, log) ← listen (anchored pk ev)
    let events ← each (fun e => deliver pk ev a e.2 e.1) (elems (ev.p.item "events")).zipIdx
    let supplied ← collection (commitmentProofs ev) "Unsupported commitment proof collection"
    let proofs ← each (fun e => commit pk a e.2 e.1) supplied.zipIdx
    return (a, events, proofs,
      cryptoOf log ++ events.map Delivered.inclusion ++ proofs.map Commitment.inclusion)
  return { a with events, proofs, requirements := ← requirements a events (cryptoOf log) anchoring }

end Evaluation
end VapEvidence.Scope

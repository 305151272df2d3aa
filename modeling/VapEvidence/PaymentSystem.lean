import VapEvidence.CustodyRecords
import VapEvidence.Interleaving

set_option autoImplicit false

/-!
# The payment system

One journal, one provider and one collector, with the processes that run on
them. An effect is one committed transaction, one message or one hook of a call;
the environment starts processes and delivers messages, late, twice or never.
-/
namespace VapEvidence.Payment
open Json Authorization Custody Interleaving

/-- The stores, the processes that run on them and the messages sent so far. The last four fields
    are history that no code reads: claims inserted, calls whose claim created no row, receipts whose storing
    raised, and prerequisites that failed. -/
structure Services where
  journal : Journal
  provider : ProviderStore
  collector : CollectorStore
  adapters : List Adapter
  authorized : List AuthorizedAdapter
  collected : List CollectedAdapter
  providers : List ProviderConfig
  collectors : List CollectorConfig
  sent : List (ℕ × Bytes)
  lookups : List Query
  wire : List Bytes
  collections : List Bytes
  inserted : List (ℕ × Bytes)
  unclaimed : List ℕ
  storeFailures : List Failure
  refused : List (ℕ × Bytes)

def Services.initial : Services :=
  ⟨.empty, .empty, .empty, [], [], [], [], [], [], [], [], [], [], [], [], []⟩

section System
variable (py : Platform)

inductive Effect where
  | claim (a : Adapter) (r : Request py) (admission : Option Admission)
  | read (a : Adapter) (r : Request py)
  | store (a : Adapter) (r : Request py) (status : Status) (receipt : Bytes)
  | post (raw : Bytes)
  | get (query : Query)
  | answer (a : Adapter)
  | hook (point : String)
  | refuse (raw : Bytes)
  | authorization (g : AuthorizedAdapter) (r : Request py)
  | collect (package : Bytes)
  | nonce
  | readback (packageDigest nonce : String)
  | persist (c : CollectedAdapter) (r : Request py) (package : Bytes) (observed : Collected) (stage : String)
  | custody (requestDigest : String)

/-- What `read_custody` selects: the marker of a request and its observations. -/
structure CustodyRows where
  marker : Option String
  rows : List CustodyObservation

variable {py} in
def Effect.Result : Effect py → Type
  | .claim .. => Except Failure (Dispatch × Bool)
  | .read .. => Except Failure (Option Dispatch)
  | .store .. => Except Failure Dispatch
  | .post .. => Unit
  | .get .. => Unit
  | .answer .. => Except Failure (ℕ × Bytes)
  | .hook .. => Except Failure Unit
  | .refuse .. => Unit
  | .authorization .. => Reading
  | .collect .. => Except Failure (ℕ × Bytes)
  | .nonce => String
  | .readback .. => Except Failure (ℕ × Bytes)
  | .persist .. => Except Failure Unit
  | .custody .. => Except Failure CustodyRows

abbrev Program (α : Type) := Prog (Effect py) Effect.Result α

/-! ## What each effect does -/

/-- How a transaction ends: committed, rolled back by its own error, or reported as failed by
    SQLite, then with or without its effect. -/
inductive Ends {σ α : Type} (tx : Except Failure (α × σ)) (s : σ) : σ → Except Failure α → Prop where
  | committed {a : α} {s' : σ} (h : tx = .ok (a, s')) : Ends tx s s' (.ok a)
  | raised {e : Failure} (h : tx = .error e) : Ends tx s s (.error e)
  | refused (text : String) : Ends tx s s (.error (.sqlite text))
  | unreachable : Ends tx s s (.error .os)
  | reported {a : α} {s' : σ} (text : String) (h : tx = .ok (a, s')) : Ends tx s s' (.error (.sqlite text))

/-- Whatever verifies under the pinned key was signed in a receipt the provider has sent. -/
def Unforged (wire : List Bytes) (key body : Bytes) : Prop :=
  ∀ v message signature, load py body = .ok v →
    signedParts signingDomain (canonical py) v = .ok (message, signature) →
    py.verify key message signature = true →
    ∃ issued ∈ wire, ∃ w, load py issued = .ok w ∧
      signedParts signingDomain (canonical py) w = .ok (message, signature)

/-- The claims of a call that a transaction added to the journal. -/
def newClaims (i : ℕ) (j j' : Journal) : List (ℕ × Bytes) :=
  (j'.dispatches.rows.drop j.dispatches.rows.length).map fun d => (i, d.identity.requestBytes)

def callback (admission : Option Admission) (hook : Except Failure Unit) (r : Request py) (now : ℤ)
    (j : Journal) : Except Failure Journal :=
  match admission with
  | none => .ok j
  | some c => c.admitting hook r now j

/-- A call whose claim did not answer that it created the row. -/
def unclaimedBy {α : Type} (i : ℕ) : Except Failure (α × Bool) → List ℕ
  | .ok (_, true) => []
  | _ => [i]

/-- The errors among the results of a call's transactions. -/
def errorOf {α : Type} : Except Failure α → List Failure
  | .ok _ => []
  | .error e => [e]

variable {py}

def exec (i : ℕ) (s : Services) : (e : Effect py) → Services → e.Result → Prop
  | .claim a r admission, t, res => ∃ now hook j,
      Ends (claim a r (callback py admission hook r) now s.journal) s.journal j res ∧
      t = { s with journal := j, inserted := s.inserted ++ newClaims i s.journal j,
                   unclaimed := s.unclaimed ++ unclaimedBy i res }
  | .read a r, t, res => t = s ∧ (res = readDispatch a r s.journal ∨ ∃ text, res = .error (.sqlite text))
  | .store a r status receipt, t, res => ∃ now j,
      Ends (storeReceipt a r status receipt now s.journal) s.journal j res ∧
      t = { s with journal := j, storeFailures := s.storeFailures ++ errorOf res }
  | .post raw, t, _ => t = { s with sent := s.sent ++ [(i, raw)] }
  | .get query, t, _ => t = { s with lookups := s.lookups ++ [query] }
  | .answer a, t, res => t = s ∧ ∀ status body, res = .ok (status, body) →
      body.length ≤ maxBody ∧ Unforged py s.wire a.providerPublicKey body
  | .hook _, t, _ => t = s
  | .refuse raw, t, _ => t = { s with refused := s.refused ++ [(i, raw)] }
  | .authorization g r, t, res => t = s ∧ (res = readAuthorization g r s.journal ∨
      res = ⟨.unavailable, r.digest, none, none, none⟩)
  | .collect package, t, res =>
      (t = { s with collections := s.collections ++ [package] } ∧ ∃ e, res = .error e) ∨
      (t = s ∧ ∃ status body, status ≠ 200 ∧ res = .ok (status, body)) ∨
      ∃ config ∈ s.collectors, ∃ now ack k, Custody.collect py config package now s.collector = .ok (ack, k) ∧
        t = { s with collector := k } ∧ (res = .ok (200, ack) ∨ ∃ e, res = .error e)
  | .nonce, t, _ => t = s
  | .readback packageDigest nonce, t, res => t = s ∧
      ((∃ e, res = .error e) ∨ (∃ status body, status ≠ 200 ∧ res = .ok (status, body)) ∨
        ∃ config ∈ s.collectors, ∃ now body,
          Custody.readback py config packageDigest nonce now s.collector = .ok body ∧ res = .ok (200, body))
  | .persist c r package observed stage, t, res => ∃ (now : ℕ) (j : Journal),
      Ends ((persist c r package observed stage now s.journal).map fun j => ((), j)) s.journal j res ∧
      t = { s with journal := j }
  | .custody requestDigest, t, res => t = s ∧
      ((∃ text, res = .error (.sqlite text)) ∨
        res = .ok ⟨(s.journal.prerequisites.rows.find? fun p => p.requestDigest = requestDigest).map
            CustodyPrerequisite.observationDigest,
          s.journal.observations.rows.filter fun o => o.requestDigest = requestDigest⟩)

/-- Processes start on the stores; the provider and the collector process what was sent. -/
inductive Environment (py : Platform) (s : Services) : Services → Prop where
  | adapter {endpoint : String} {context : Json} {key : Bytes} {credential digest : String} {epoch : ℤ}
      {providerId : String} {faultHook : Bool} {a : Adapter} {j : Journal}
      (made : newAdapter py endpoint context key credential digest epoch providerId faultHook = .ok a)
      (opened : initializeJournal py a s.journal = .ok j) :
      Environment py s { s with journal := j, adapters := a :: s.adapters }
  | authorized {a : Adapter} {config : GateConfig} {faultHook : Bool} {g : AuthorizedAdapter}
      (known : a ∈ s.adapters) (made : newAuthorizedAdapter py a config faultHook = .ok g) :
      Environment py s { s with authorized := g :: s.authorized }
  | collected {g : AuthorizedAdapter} {endpoint : String} {context : Json} {key : Bytes}
      {credential collectorId : String} {epoch : ℤ} {faultHook : Bool} {c : CollectedAdapter} {j : Journal}
      (known : g ∈ s.authorized)
      (made : newCollectedAdapter py g endpoint context key credential collectorId epoch faultHook = .ok c)
      (opened : initializeLocal py c s.journal = .ok j) :
      Environment py s { s with journal := j, collected := c :: s.collected }
  | provider {config config' : ProviderConfig} {p : ProviderStore}
      (started : initializeProvider py config s.provider = .ok (config', p)) :
      Environment py s { s with provider := p, providers := config' :: s.providers }
  | deliver {m : ℕ × Bytes} {config : ProviderConfig} {now : ℤ} {receipt : Bytes} {p : ProviderStore}
      (sent : m ∈ s.sent) (serving : config ∈ s.providers)
      (processed : doPost py config m.2 now s.provider = .ok (receipt, p)) :
      Environment py s { s with provider := p, wire := s.wire ++ [receipt] }
  | lookup {query : Query} {config : ProviderConfig} {receipt : Bytes}
      (sent : query ∈ s.lookups) (serving : config ∈ s.providers)
      (processed : lookupPayment py config query s.provider = .ok (.ok receipt)) :
      Environment py s { s with wire := s.wire ++ [receipt] }
  | collector {config config' : CollectorConfig} {k : CollectorStore}
      (started : initializeCollector py config s.collector = .ok (config', k)) :
      Environment py s { s with collector := k, collectors := config' :: s.collectors }
  | collection {package : Bytes} {config : CollectorConfig} {now : ℤ} {ack : Bytes} {k : CollectorStore}
      (sent : package ∈ s.collections) (serving : config ∈ s.collectors)
      (processed : Custody.collect py config package now s.collector = .ok (ack, k)) :
      Environment py s { s with collector := k }

variable (py) in
def system : Semantics Services (Effect py) Effect.Result := ⟨exec, Environment py⟩

/-! ## Results -/

inductive State where
  | settled
  | failed
  | unknown
  | rejected
  | conflict
  | journalUnavailable
  deriving DecidableEq

def Status.state : Status → State
  | .settled => .settled
  | .failed => .failed

/-- `_result`, and what the wrappers attach to it. -/
structure Result where
  state : State
  requestDigest : Option String
  reason : String
  receipt : Option Bytes
  observationWarning : Option String
  custodyWarning : Option String
  mockAdmission : Option Json
  synthetic : Bool
  businessAuthorizationVerified : Bool
  automaticRetry : Bool
  productionGate : Bool

def result (state : State) (requestDigest : Option String) (reason : String)
    (receipt : Option Bytes) : Result :=
  ⟨state, requestDigest, reason, receipt, none, none, none, true, false, false, false⟩

def Result.terminal (x : Result) : Bool := x.state = .settled || x.state = .failed

variable (py) in
/-- `Adapter._from_row` -/
def fromRow (a : Adapter) (row : Dispatch) : Result :=
  match row.observed with
  | none => result .unknown (some row.identity.requestDigest) "durable_claim_outcome_unresolved" none
  | some o =>
    match verifyReceipt py o.receipt row.identity.requestBytes a.providerPublicKey a.providerId with
    | .ok payload =>
      if statusOf payload = o.status then
        result o.status.state (some row.identity.requestDigest) "stored_verified_native_receipt"
          (some o.receipt)
      else result .unknown (some row.identity.requestDigest)
        "stored_receipt_unverifiable_claim_retained" none
    | .error _ => result .unknown (some row.identity.requestDigest)
        "stored_receipt_unverifiable_claim_retained" none

def rejected : Result := result .rejected none "request_schema_or_scope_rejected" none

/-! ## The adapter's programs -/

open Prog

/-! The effects as programs. -/

abbrev claimRow (a : Adapter) (r : Request py) (admission : Option Admission) :
    Program py (Except Failure (Dispatch × Bool)) := .eff (.claim a r admission) .ret

abbrev readRow (a : Adapter) (r : Request py) : Program py (Except Failure (Option Dispatch)) :=
  .eff (.read a r) .ret

abbrev storeRow (a : Adapter) (r : Request py) (status : Status) (receipt : Bytes) :
    Program py (Except Failure Dispatch) := .eff (.store a r status receipt) .ret

abbrev post (raw : Bytes) : Program py Unit := .eff (.post raw) .ret

abbrev get (query : Query) : Program py Unit := .eff (.get query) .ret

abbrev answer (a : Adapter) : Program py (Except Failure (ℕ × Bytes)) := .eff (.answer a) .ret

abbrev hook (point : String) : Program py (Except Failure Unit) := .eff (.hook point) .ret

abbrev refuse (raw : Bytes) : Program py Unit := .eff (.refuse raw) .ret

abbrev authorizationOf (g : AuthorizedAdapter) (r : Request py) : Program py Reading :=
  .eff (.authorization g r) .ret

abbrev postPackage (package : Bytes) : Program py (Except Failure (ℕ × Bytes)) :=
  .eff (.collect package) .ret

abbrev tokenHex : Program py String := .eff .nonce .ret

abbrev getReadback (packageDigest nonce : String) : Program py (Except Failure (ℕ × Bytes)) :=
  .eff (.readback packageDigest nonce) .ret

abbrev persistRow (c : CollectedAdapter) (r : Request py) (package : Bytes) (observed : Collected)
    (stage : String) : Program py (Except Failure Unit) :=
  .eff (.persist c r package observed stage) .ret

abbrev selectCustody (requestDigest : String) : Program py (Except Failure CustodyRows) :=
  .eff (.custody requestDigest) .ret

/-- A fault hook, when one is configured. -/
def faultPoint (configured : Bool) (point : String) : Program py (Except Failure Unit) :=
  if configured then hook point else .ret (.ok ())

/-- `_retain_unknown` -/
def retainUnknown (a : Adapter) (r : Request py) (reason : String) : Program py Result := do
  match ← readRow a r with
  | .ok (some row) =>
    let stored := fromRow py a row
    if stored.terminal then return { stored with observationWarning := some reason }
    else return result .unknown (some r.digest) reason none
  | _ => return result .unknown (some r.digest) reason none

/-- What follows a response: verification, the hook, and the transaction of `_store_receipt`. -/
def settleResponse (a : Adapter) (r : Request py) (receipt : Bytes) :
    Program py (Except Failure Result) :=
  match verifyReceipt py receipt r.raw a.providerPublicKey a.providerId with
  | .error text => .ret (.error (.value text))
  | .ok payload =>
    (faultPoint a.faultHook "after_response").andThen fun _ =>
      (storeRow a r (statusOf payload) receipt).andThen fun row => .ret (.ok (fromRow py a row))

/-- The body of `_submit_prepared` after a fresh claim. -/
def dispatchClaimed (a : Adapter) (r : Request py) (before : Program py (Except Failure Unit))
    (after : Bytes → Program py (Except Failure Unit)) : Program py (Except Failure Result) :=
  (faultPoint a.faultHook "after_claim").andThen fun _ => do
    match ← before with
    | .error e =>
      refuse r.raw
      return .error e
    | .ok () =>
      post r.raw
      (answer a).andThen fun (status, receipt) =>
        if status ≠ 200 then
          .ok <$> retainUnknown a r ("provider_http_" ++ toString status ++ "_claim_retained")
        else (settleResponse a r receipt).andThen fun terminal => do
          match ← after receipt with
          | .ok () => return .ok terminal
          | .error _ =>
            return .ok { terminal with custodyWarning := some "post_effect_custody_unresolved" }

/-- `Adapter._submit_prepared`; an `AdmissionBlocked` passes through to the caller. -/
def submitPrepared (a : Adapter) (r : Request py) (admission : Option Admission)
    (before : Program py (Except Failure Unit)) (after : Bytes → Program py (Except Failure Unit)) :
    Program py (Except Failure Result) := do
  match ← claimRow a r admission with
  | .error (.value text) =>
    let state := if text = "immutable_request_identity_conflict" then State.conflict else .rejected
    return .ok (result state (some r.digest) text none)
  | .error (.sqlite _) | .error .os =>
    return .ok (result .journalUnavailable (some r.digest) "durable_claim_not_confirmed_no_post" none)
  | .error e => return .error e
  | .ok (row, false) => return .ok (fromRow py a row)
  | .ok (_, true) =>
    match ← dispatchClaimed a r before after with
    | .ok x => return .ok x
    | .error _ => .ok <$> retainUnknown a r "post_claim_outcome_unresolved"

/-- The outcome of a status read that raised. -/
def unreadable (r : Request py) (reason : String) : Failure → Result
  | .value text =>
    let state := if text = "immutable_request_identity_conflict" then State.conflict else .unknown
    result state (some r.digest) text none
  | _ => result .unknown (some r.digest) reason none

def readStatusPrepared (a : Adapter) (r : Request py) : Program py Result := do
  match ← readRow a r with
  | .ok (some row) => return fromRow py a row
  | .ok none => return result .unknown (some r.digest) "no_durable_claim_in_this_store" none
  | .error e => return unreadable r "journal_unreadable" e

def lookupQuery (r : Request py) : Query :=
  [("operation_id", [r.operationId]), ("idempotency_key", [r.idempotencyKey]), ("request_digest", [r.digest])]

def reconcilePrepared (a : Adapter) (r : Request py) : Program py Result := do
  match ← readRow a r with
  | .error e => return unreadable r "journal_unreadable_no_lookup" e
  | .ok none => return result .unknown (some r.digest) "no_durable_claim_in_this_store" none
  | .ok (some row) =>
    let cached := fromRow py a row
    if cached.terminal then return cached
    else
      get (lookupQuery r)
      match ← answer a with
      | .error _ => retainUnknown a r "read_only_reconciliation_unresolved"
      | .ok (status, receipt) =>
        if status ≠ 200 then retainUnknown a r ("read_only_lookup_http_" ++ toString status)
        else
          match ← settleResponse a r receipt with
          | .ok x => return x
          | .error _ => retainUnknown a r "read_only_reconciliation_unresolved"

/-- `_prepare` before a program on the validated request. -/
def prepared {α : Type} (a : Adapter) (request : Json) (refused : α) (body : Request py → Program py α) :
    Program py α :=
  match prepare py a request with
  | .ok r => body r
  | .error _ => .ret refused

/-! ## The authorized adapter's programs -/

/-- `AuthorizedAdapter._attach` -/
def attachAdmission (g : AuthorizedAdapter) (r : Request py) (x : Result) : Program py Result := do
  let original ← authorizationOf g r
  match original.status, original.decision, original.recordDigest with
  | .found, some decision, some recordDigest =>
    if x.requestDigest = some original.requestDigest then
      return { x with mockAdmission := some (dict (decision.members ++
        [("proof_digest", .str recordDigest), ("historical_original_decision", .bool true)])) }
    else return { x with mockAdmission := some (unavailableAdmission
      ((x.requestDigest.map Json.str).getD .null) "original_authorization_proof_found") }
  | status, _, _ =>
    let name := match status with
      | .unavailable => "unavailable"
      | .missing => "missing"
      | .conflict => "conflict"
      | .found => "found"
    return { x with mockAdmission := some (unavailableAdmission
      ((x.requestDigest.map Json.str).getD .null) ("original_authorization_proof_" ++ name)) }

/-- `AuthorizedAdapter._submit_prepared` -/
def submitAuthorizedPrepared (g : AuthorizedAdapter) (r : Request py) (evidence : Supplied)
    (before : Program py (Except Failure Unit)) (after : Bytes → Program py (Except Failure Unit)) :
    Program py (Except Failure Result) := do
  let (original, problems) := freezeEvidence evidence
  match ← submitPrepared g.adapter r (some ⟨g, original, problems⟩) before after with
  | .ok x => .ok <$> attachAdmission g r x
  | .error (.blocked decision) =>
    return .ok { result .rejected (some r.digest) "mock_admission_not_committed_no_post" none with
      mockAdmission := some (dict (decision.members ++ [("proof_digest", .null)])) }
  | .error e => return .error e

def rejectedAdmission : Result :=
  { rejected with mockAdmission := some (unavailableAdmission .null "native_request_unusable") }

/-! ## The collected adapter's programs -/

/-- `CollectorClient.collect_and_check` -/
def collectAndCheck (pins : Pins) (package : Bytes) : Program py (Except Failure Collected) :=
  match validatePackage py package pins.context with
  | .error text => .ret (.error (.value text))
  | .ok _ => (postPackage package).andThen fun (status, ack) =>
    if status ≠ 200 then .ret (.error (.value "collector_ack_unavailable"))
    else
      match verifyAck py ack package pins.publicKey pins.collectorId pins.recoveryEpoch with
      | .error text => .ret (.error (.value text))
      | .ok _ => do
        let nonce ← tokenHex
        (getReadback (bytesDigest py package) nonce).andThen fun (status, response) =>
          if status ≠ 200 then .ret (.error (.value "collector_readback_unavailable"))
          else
            match verifyReadback py response package pins.publicKey nonce pins.collectorId
                pins.recoveryEpoch with
            | .error text => .ret (.error (.value text))
            | .ok observation =>
              if observation.ackBytes = some ack then
                .ret (.ok ⟨ack, observation.readbackBytes, observation.nonce⟩)
              else .ret (.error (.value "collector_original_ack_not_read_back"))

/-- `_collect_and_persist` -/
def collectAndPersist (c : CollectedAdapter) (r : Request py) (package : Bytes) (stage : String) :
    Program py (Except Failure Unit) :=
  match validatePackage py package c.pins.context with
  | .error text => .ret (.error (.value text))
  | .ok _ => (collectAndCheck c.pins package).andThen fun observed =>
    (faultPoint c.faultHook "after_verified_collection").andThen fun _ =>
      (persistRow c r package observed stage).andThen fun _ =>
        faultPoint (stage = "PRE_DISPATCH" && c.faultHook) "after_pre_dispatch_persisted"

def packaged (r : Request py) (kind : Kind) (evidence : Bytes)
    (body : Bytes → Program py (Except Failure Unit)) : Program py (Except Failure Unit) :=
  match makePackage r kind evidence with
  | .ok package => body package
  | .error text => .ret (.error (.value text))

/-- `before` in `CollectedAdapter.submit` -/
def beforeDispatch (c : CollectedAdapter) (r : Request py) : Program py (Except Failure Unit) := do
  let proof ← authorizationOf c.authorized r
  match proof.status, proof.recordBytes with
  | .found, some record =>
    if proof.requestDigest = r.digest then
      packaged r .admissionRecord record fun package => collectAndPersist c r package "PRE_DISPATCH"
    else return .error (.value "original_authorization_record_unavailable")
  | _, _ => return .error (.value "original_authorization_record_unavailable")

/-- `after` in `CollectedAdapter.submit` -/
def afterReceipt (c : CollectedAdapter) (r : Request py) (receipt : Bytes) :
    Program py (Except Failure Unit) :=
  match verifyReceipt py receipt r.raw c.authorized.adapter.providerPublicKey
      c.authorized.adapter.providerId with
  | .error text => .ret (.error (.value text))
  | .ok _ => packaged r .providerReceipt receipt fun package => collectAndPersist c r package "POST_EFFECT"

/-- `_originals`: the packages of what is retained of a request. -/
def originals (c : CollectedAdapter) (r : Request py) : Program py (Except Failure Originals) := do
  let proof ← authorizationOf c.authorized r
  let admission := match proof.status, proof.recordBytes with
    | .found, some record => (makePackage r .admissionRecord record).map fun package =>
        [(Kind.admissionRecord, package)]
    | _, _ => .ok []
  match admission with
  | .error text => return .error (.value text)
  | .ok first =>
    let financial ← readStatusPrepared c.authorized.adapter r
    match financial.terminal, financial.receipt with
    | true, some receipt =>
      match makePackage r .providerReceipt receipt with
      | .ok package => return .ok (first ++ [(Kind.providerReceipt, package)])
      | .error text => return .error (.value text)
    | _, _ => return .ok first

inductive PreDispatch where
  | unknown
  | notRecorded
  | verifiedPrerequisite (observationDigest : String)

structure CustodyReading where
  preDispatch : PreDispatch
  observations : List LocalObservation
  unverifiable : ℕ

def CustodyReading.empty : CustodyReading := ⟨.unknown, [], 0⟩

/-- The first observation of a kind, newest row first. -/
def CustodyReading.acknowledged (x : CustodyReading) (kind : Kind) : Option LocalObservation :=
  x.observations.find? fun o => o.row.kind = kind.text

def acceptedRows (pins : Pins) (expected : Originals) (requestDigest : String)
    (rows : List CustodyObservation) : List LocalObservation :=
  rows.filterMap fun row => (@verifiedLocal py pins row expected requestDigest).toOption

/-- The rows that `read_custody` looks at: the newest 128, and the marked one if it is older. -/
def custodyRows (x : CustodyRows) : List CustodyObservation :=
  let newest := x.rows.reverse.take 128
  match x.marker with
  | none => newest
  | some marker =>
    if newest.all fun row => row.observationDigest ≠ marker then
      newest ++ x.rows.filter fun row => row.observationDigest = marker
    else newest

/-- `read_custody` -/
def readCustody (c : CollectedAdapter) (r : Request py) : Program py CustodyReading := do
  match ← originals c r with
  | .error _ => return .empty
  | .ok expected =>
    match ← selectCustody r.digest with
    | .error _ => return .empty
    | .ok x =>
      let rows := custodyRows x
      let accepted := @acceptedRows py c.pins expected r.digest rows
      let preDispatch := match x.marker with
        | none => PreDispatch.notRecorded
        | some marker =>
          if accepted.any fun o => o.row.observationDigest = marker &&
              o.row.kind = Kind.admissionRecord.text && o.row.stage = "PRE_DISPATCH"
          then .verifiedPrerequisite marker else .unknown
      return ⟨preDispatch, accepted, rows.length - accepted.length⟩

/-- `CollectedAdapter._attach` -/
def attachCustody (c : CollectedAdapter) (r : Request py) (x : Result) :
    Program py (Result × CustodyReading) := do
  if x.requestDigest = some r.digest then
    let custody ← readCustody c r
    return (x, custody)
  else return (x, .empty)

def submitCollectedPrepared (c : CollectedAdapter) (r : Request py) (evidence : Supplied) :
    Program py (Except Failure (Result × CustodyReading)) :=
  (submitAuthorizedPrepared c.authorized r evidence (beforeDispatch c r) (afterReceipt c r)).andThen
    fun x => .ok <$> attachCustody c r x

/-- The loop of `recover_evidence`: the kinds that stay unresolved. -/
def recoverAll (c : CollectedAdapter) (r : Request py) : Originals → Program py (List Kind)
  | [] => .ret []
  | (kind, package) :: rest => do
    let outcome ← collectAndPersist c r package "HISTORICAL_RECOVERY"
    let failures ← recoverAll c r rest
    match outcome with
    | .ok () => return failures
    | .error _ => return kind :: failures

def recoverEvidencePrepared (c : CollectedAdapter) (r : Request py) :
    Program py (Except Failure (Result × CustodyReading)) :=
  (originals c r).andThen fun packages => do
    let _ ← recoverAll c r packages
    let status ← readStatusPrepared c.authorized.adapter r
    let x ← attachAdmission c.authorized r status
    .ok <$> attachCustody c r x

/-! ## Calls -/

/-- A value a caller passes: dictionaries have each key once. -/
structure Value where
  json : Json
  wf : json.WF

inductive Call where
  | submit (a : Adapter) (request : Value)
  | reconcile (a : Adapter) (request : Value)
  | readStatus (a : Adapter) (request : Value)
  | submitAuthorized (g : AuthorizedAdapter) (request : Value) (evidence : Supplied)
  | reconcileAuthorized (g : AuthorizedAdapter) (request : Value)
  | readStatusAuthorized (g : AuthorizedAdapter) (request : Value)
  | submitCollected (c : CollectedAdapter) (request : Value) (evidence : Supplied)
  | reconcileCollected (c : CollectedAdapter) (request : Value)
  | readStatusCollected (c : CollectedAdapter) (request : Value)
  | recoverEvidence (c : CollectedAdapter) (request : Value)

def Call.adapter : Call → Adapter
  | .submit a _ | .reconcile a _ | .readStatus a _ => a
  | .submitAuthorized g _ _ | .reconcileAuthorized g _ | .readStatusAuthorized g _ => g.adapter
  | .submitCollected c _ _ | .reconcileCollected c _ | .readStatusCollected c _ | .recoverEvidence c _ =>
    c.authorized.adapter

def Call.request : Call → Value
  | .submit _ v | .reconcile _ v | .readStatus _ v | .submitAuthorized _ v _
  | .reconcileAuthorized _ v | .readStatusAuthorized _ v | .submitCollected _ v _
  | .reconcileCollected _ v | .readStatusCollected _ v | .recoverEvidence _ v => v

/-- The calls that may claim and send. -/
def Call.submits : Call → Bool
  | .submit .. | .submitAuthorized .. | .submitCollected .. => true
  | _ => false

/-- A call is made on an object that was constructed. -/
def Call.Constructed (s : Services) : Call → Prop
  | .submit a _ | .reconcile a _ | .readStatus a _ => a ∈ s.adapters
  | .submitAuthorized g _ _ | .reconcileAuthorized g _ | .readStatusAuthorized g _ => g ∈ s.authorized
  | .submitCollected c _ _ | .reconcileCollected c _ | .readStatusCollected c _ | .recoverEvidence c _ =>
    c ∈ s.collected

def skip : Program py (Except Failure Unit) := .ret (.ok ())

variable (py) in
/-- What a call runs; an exception that leaves it is `error`. -/
def Call.body : Call → Program py (Except Failure Result)
  | .submit a v => prepared a v.json (.ok rejected) fun r => submitPrepared a r none skip fun _ => skip
  | .reconcile a v => prepared a v.json (.ok rejected) fun r => .ok <$> reconcilePrepared a r
  | .readStatus a v => prepared a v.json (.ok rejected) fun r => .ok <$> readStatusPrepared a r
  | .submitAuthorized g v evidence => prepared g.adapter v.json (.ok rejectedAdmission) fun r =>
      submitAuthorizedPrepared g r evidence skip fun _ => skip
  | .reconcileAuthorized g v => prepared g.adapter v.json (.ok rejectedAdmission) fun r => do
      let x ← reconcilePrepared g.adapter r
      .ok <$> attachAdmission g r x
  | .readStatusAuthorized g v => prepared g.adapter v.json (.ok rejectedAdmission) fun r => do
      let x ← readStatusPrepared g.adapter r
      .ok <$> attachAdmission g r x
  | .submitCollected c v evidence => prepared c.authorized.adapter v.json (.ok rejectedAdmission) fun r =>
      (submitCollectedPrepared c r evidence).andThen fun x => .ret (.ok x.1)
  | .reconcileCollected c v => prepared c.authorized.adapter v.json (.ok rejectedAdmission) fun r => do
      let x ← reconcilePrepared c.authorized.adapter r
      let x ← attachAdmission c.authorized r x
      let x ← attachCustody c r x
      return .ok x.1
  | .readStatusCollected c v => prepared c.authorized.adapter v.json (.ok rejectedAdmission) fun r => do
      let x ← readStatusPrepared c.authorized.adapter r
      let x ← attachAdmission c.authorized r x
      let x ← attachCustody c r x
      return .ok x.1
  | .recoverEvidence c v => prepared c.authorized.adapter v.json (.ok rejectedAdmission) fun r =>
      (recoverEvidencePrepared c r).andThen fun x => .ret (.ok x.1)

/-- Worlds of the payment system. -/
abbrev PaymentWorld (py : Platform) := World Services (Effect py) Effect.Result Call (Except Failure Result)

/-- Runs in which every call meets `allowed`, from a system with empty stores. -/
def Reachable (py : Platform) (allowed : Call → Prop) (w : PaymentWorld py) : Prop :=
  Run (system py) (fun s c => c.Constructed s ∧ allowed c) (Call.body py) (World.initial .initial) w

end System
end VapEvidence.Payment

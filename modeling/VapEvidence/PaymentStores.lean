import VapEvidence.PaymentReceipt
import VapEvidence.UniqueTable

set_option autoImplicit false

/-!
# The provider store and the dispatch journal

Two SQLite stores and the transactions the payment runtime commits on them. A
transaction takes the store it sees and gives an error, which leaves the store
as it was, or the result with the store that is committed.
-/
namespace VapEvidence.Payment
open Json

/-- The exceptions this development tells apart; `other` is any further `Exception`. -/
inductive Failure where
  | value (text : String)
  | sqlite (text : String)
  | os
  | blocked (decision : Json)
  | other
  deriving DecidableEq

/-- A check of the runtime, raised inside a transaction. -/
def check {α : Type} (x : Except String α) : Except Failure α := x.mapError .value

def integrity {α : Type} (x : Option α) : Except Failure α :=
  match x with
  | some a => .ok a
  | none => .error (.sqlite "UNIQUE constraint failed")

/-! ## Rows -/

structure Identity where
  requestDigest : String
  scope : String
  operationId : String
  idempotencyKey : String
  requestBytes : Bytes
  deriving DecidableEq

/-- `PRIMARY KEY(request_digest)`, `UNIQUE(scope, operation_id)`, `UNIQUE(scope, idempotency_key)` -/
def Identity.Clash (a b : Identity) : Prop :=
  a.requestDigest = b.requestDigest ∨
    (a.scope = b.scope ∧ (a.operationId = b.operationId ∨ a.idempotencyKey = b.idempotencyKey))

instance : DecidableRel Identity.Clash := fun a b => by unfold Identity.Clash; infer_instance

theorem Identity.Clash.symm {a b : Identity} (h : a.Clash b) : b.Clash a := by
  rcases h with h | ⟨h, h' | h'⟩
  · exact Or.inl h.symm
  · exact Or.inr ⟨h.symm, Or.inl h'.symm⟩
  · exact Or.inr ⟨h.symm, Or.inr h'.symm⟩

structure PaymentRow where
  identity : Identity
  status : Status
  receipt : Bytes
  deriving DecidableEq

structure EffectRow where
  requestDigest : String
  sourceAccount : String
  beneficiary : String
  amountMinor : String
  deriving DecidableEq

structure BalanceRow where
  account : String
  amountMinor : String
  deriving DecidableEq

structure Metadata where
  identity : String
  generation : Option String
  deriving DecidableEq

structure ProviderStore where
  metadata : Option Metadata
  balances : Table BalanceRow.account (· = ·)
  payments : Table PaymentRow.identity Identity.Clash
  effects : Table EffectRow.requestDigest (· = ·)

def ProviderStore.empty : ProviderStore := ⟨none, .empty, .empty, .empty⟩

/-- What a terminal dispatch row holds beyond its claim. -/
structure Observed where
  status : Status
  receipt : Bytes
  observedAt : ℤ
  deriving DecidableEq

/-- A dispatch; without an observation its state is `CLAIMED`, as the table's check demands. -/
structure Dispatch where
  identity : Identity
  claimedAt : ℤ
  observed : Option Observed
  deriving DecidableEq

def Dispatch.state (d : Dispatch) : String :=
  match d.observed with
  | none => "CLAIMED"
  | some o => o.status.upper

structure ProofRow where
  requestDigest : String
  recordBytes : Bytes
  recordDigest : String
  admittedAt : ℤ
  deriving DecidableEq

structure CustodyObservation where
  observationDigest : String
  requestDigest : String
  kind : String
  stage : String
  recordBytes : Bytes
  deriving DecidableEq

structure CustodyPrerequisite where
  requestDigest : String
  observationDigest : String
  deriving DecidableEq

structure CustodyMetadata where
  identity : String
  epoch : ℤ
  deriving DecidableEq

structure Journal where
  metadata : Option Metadata
  dispatches : Table Dispatch.identity Identity.Clash
  proofs : Table ProofRow.requestDigest (· = ·)
  custodyMetadata : Option CustodyMetadata
  observations : Table CustodyObservation.observationDigest (· = ·)
  prerequisites : Table CustodyPrerequisite.requestDigest (· = ·)

def Journal.empty : Journal := ⟨none, .empty, .empty, none, .empty, .empty⟩

section Stores
variable (py : Platform)

/-- `canonical_json(value).decode("utf-8")` -/
def canonicalText (v : Json) : Except String String := do
  let _ ← canonical py v
  return String.ofList (dumps py.floatRepr false v)

def generationValue (epoch : ℤ) (configuration : String) : Json :=
  dict [("recovery_epoch", .int epoch), ("configuration_digest", .str configuration)]

/-- `_meta` -/
def storeMeta (expected : Json) (epoch : ℤ) (configuration : String) :
    Option Metadata → Except String Metadata
  | none => do
    let encoded ← canonicalText py expected
    let generation ← canonicalText py (generationValue epoch configuration)
    return ⟨encoded, some generation⟩
  | some row => do
    let encoded ← canonicalText py expected
    require (row.identity = encoded) "persisted_store_identity_mismatch"
    match row.generation with
    | none => .error "persisted_generation_missing"
    | some generation =>
      let previous ← loadJsonText py runtimeBounds generation
      let reached := (previous.item "recovery_epoch").number
      require (¬ (epoch < reached ∨
          epoch = reached ∧ .str configuration ≠ previous.item "configuration_digest"))
        "persisted_generation_rollback_or_redefinition"
      if reached < epoch then
        let generation ← canonicalText py (generationValue epoch configuration)
        return { row with generation := some generation }
      else return row

/-- `_current_generation` -/
def currentGeneration (metadata : Option Metadata) (epoch : ℤ) (configuration : String) :
    Except String Unit := do
  let current ← match metadata.bind Metadata.generation with
    | none => pure .null
    | some generation => loadJsonText py runtimeBounds generation
  require (current = generationValue epoch configuration) "stale_runtime_generation"

variable {py} in
/-- The identity columns of a request in a scope. -/
def Request.identity (r : Request py) (scope : String) : Identity where
  requestDigest := r.digest
  scope := scope
  operationId := r.operationId
  idempotencyKey := r.idempotencyKey
  requestBytes := r.raw

variable {py} in
/-- `_find` -/
def find {α : Type} (key : α → Identity) (rows : List α) (scope : String) (r : Request py) :
    Except String (Option α) :=
  match rows.filter fun row => (key row).scope = scope &&
      ((key row).operationId = r.operationId || (key row).idempotencyKey = r.idempotencyKey) with
  | [] => .ok none
  | [row] =>
    if (key row).operationId = r.operationId ∧ (key row).idempotencyKey = r.idempotencyKey ∧
        (key row).requestBytes = r.raw then .ok (some row)
    else .error "immutable_request_identity_conflict"
  | _ => .error "immutable_request_identity_conflict"

/-! ## The provider -/

structure ProviderConfig where
  context : Json
  privateKey : Bytes
  credential : String
  configurationDigest : String
  recoveryEpoch : ℤ
  initialBalances : Json
  providerId : String

def providerSchema : String := "synthetic-loopback-payment-store-v0"

/-- `str(number)` -/
def decimal (n : ℕ) : String := String.ofList (Nat.toDigits 10 n)

def balancesOk (balances : Json) : Bool :=
  match balances with
  | .obj ms => ms ≠ [] && ms.all fun m => textOk (.str m.1) && decimalOk m.2
  | _ => false

/-- `INSERT OR IGNORE INTO balances` -/
def seedBalance (t : Table BalanceRow.account (· = ·)) (m : String × Json) :
    Table BalanceRow.account (· = ·) :=
  (t.insert ⟨m.1, m.2.text⟩).getD t

def providerIdentity (config : ProviderConfig) (context balances : Json) : Json :=
  dict [("schema", .str providerSchema), ("context", context),
    ("provider_id", .str config.providerId),
    ("provider_public_key", .str (hex (py.publicKey config.privateKey))),
    ("initial_balances", balances)]

/-- `_initialize_provider`: the configuration the process serves with, and the store. -/
def initializeProvider (config : ProviderConfig) (s : ProviderStore) :
    Except Failure (ProviderConfig × ProviderStore) := do
  let context ← check (validateContext py config.context)
  check (require (integerOk (.int config.recoveryEpoch) && hashText config.configurationDigest)
    "generation_shape")
  check (require (credentialOk config.credential) "ephemeral_credential_shape")
  check (require (config.privateKey.length = 32) "provider_private_key_shape")
  check (require (textOk (.str config.providerId)) "provider_configuration_shape")
  let balances ← check do load py (← canonical py config.initialBalances)
  check (require (balancesOk balances) "initial_balances_shape")
  let metadata ← check (storeMeta py (providerIdentity py config context balances)
    config.recoveryEpoch config.configurationDigest s.metadata)
  return ({ config with context := context, initialBalances := balances },
    { s with metadata := some metadata, balances := balances.members.foldl seedBalance s.balances })

/-- The deferred foreign key of `effects`, checked when a transaction commits. -/
def commitProvider (s : ProviderStore) : Except Failure ProviderStore :=
  if s.effects.rows.all fun e => s.payments.rows.any fun p => p.identity.requestDigest = e.requestDigest
  then .ok s
  else .error (.sqlite "FOREIGN KEY constraint failed")

def setAmount (account : String) (amountMinor : String) (t : Table BalanceRow.account (· = ·)) :
    Table BalanceRow.account (· = ·) :=
  t.update (fun b => b.account = account) (fun b => { b with amountMinor }) fun _ => rfl

variable {py} in
/-- The decision of `_apply_payment` on the two balances it reads. -/
def failureReason (r : Request py) (balances : List (String × ℕ)) : Option String :=
  let amountMinor := amount (r.field "amount_minor")
  if balances.length ≠ 2 then some "unknown_account"
  else if (balances.lookup (r.field "source_account")).getD 0 < amountMinor then
    some "insufficient_funds"
  else if 78 < (decimal ((balances.lookup (r.field "beneficiary")).getD 0 + amountMinor)).length then
    some "balance_limit"
  else none

variable {py} in
def balancesOf (r : Request py) (s : ProviderStore) : List (String × ℕ) :=
  (s.balances.rows.filter fun b =>
    b.account = r.field "source_account" || b.account = r.field "beneficiary").map
      fun b => (b.account, amount b.amountMinor)

variable {py} in
/-- The two updates and the insertion of a payment that settles. -/
def settle (r : Request py) (balances : List (String × ℕ)) (s : ProviderStore) :
    Except Failure ProviderStore := do
  let amountMinor := amount (r.field "amount_minor")
  let source := decimal ((balances.lookup (r.field "source_account")).getD 0 - amountMinor)
  let target := decimal ((balances.lookup (r.field "beneficiary")).getD 0 + amountMinor)
  let debited := setAmount (r.field "source_account") source s.balances
  let credited := setAmount (r.field "beneficiary") target debited
  let effects ← integrity (s.effects.insert
    ⟨r.digest, r.field "source_account", r.field "beneficiary", r.field "amount_minor"⟩)
  return { s with balances := credited, effects }

/-- `_apply_payment`: the receipt, whether the payment was created, and the store. -/
def applyPayment (config : ProviderConfig) (r : Request py) (now : ℤ) (s : ProviderStore) :
    Except Failure ((Bytes × Bool) × ProviderStore) := do
  let scope ← check (scopeOf py config.context)
  match ← check (find PaymentRow.identity s.payments.rows scope r) with
  | some row => return ((row.receipt, false), s)
  | none =>
    check (currentGeneration py s.metadata config.recoveryEpoch config.configurationDigest)
    check (checkGeneration r.json config.context config.recoveryEpoch config.configurationDigest)
    let balances := balancesOf r s
    let failure := failureReason r balances
    let status := if failure.isSome then Status.failed else .settled
    let s ← (if failure = none then settle r balances s else .ok s : Except Failure ProviderStore)
    let receipt ← check (signedReceipt py config.privateKey config.providerId r status failure now)
    let payments ← integrity (s.payments.insert ⟨r.identity scope, status, receipt⟩)
    let s ← commitProvider { s with payments }
    return ((receipt, true), s)

/-- `do_POST` on an authenticated body: the response, and the store. -/
def doPost (config : ProviderConfig) (raw : Bytes) (now : ℤ) (s : ProviderStore) :
    Except Failure (Bytes × ProviderStore) := do
  let r ← check (readRequest py "noncanonical_request_bytes" raw)
  check (checkScope r.json config.context)
  let ((receipt, _), s) ← applyPayment py config r now s
  return (receipt, s)

abbrev Query := List (String × List String)

/-- `_lookup_payment`: a receipt with status 200, or the status of an error. -/
def lookupPayment (config : ProviderConfig) (query : Query) (s : ProviderStore) :
    Except Failure (Except ℕ Bytes) := do
  match query.lookup "operation_id", query.lookup "idempotency_key", query.lookup "request_digest",
      query.length with
  | some [operation], some [key], some [requestDigest], 3 =>
    if textOk (.str operation) ∧ textOk (.str key) ∧ hashText requestDigest then
      let scope ← check (scopeOf py config.context)
      match s.payments.rows.filter fun p => p.identity.scope = scope &&
          (p.identity.operationId = operation || p.identity.idempotencyKey = key) with
      | [] => return .error 404
      | [row] =>
        if row.identity.operationId = operation ∧ row.identity.idempotencyKey = key ∧
            row.identity.requestDigest = requestDigest then return .ok row.receipt
        else return .error 409
      | _ => return .error 409
    else return .error 400
  | _, _, _, _ => return .error 400

/-! ## The adapter's journal -/

structure Adapter where
  host : String
  port : ℕ
  context : Json
  scope : String
  providerPublicKey : Bytes
  credential : String
  configurationDigest : String
  recoveryEpoch : ℤ
  providerId : String
  faultHook : Bool

def journalSchema : String := "synthetic-payment-dispatch-journal-v0"

/-- `_endpoint`: `http://127\.0\.0\.1:[1-9][0-9]{0,4}` with a port in range. -/
def checkEndpoint (endpoint : String) : Except String (String × ℕ) := do
  let port := endpoint.toList.drop 17
  require ("http://127.0.0.1:".toList.isPrefixOf endpoint.toList && decimalDigits port &&
    port ≠ ['0'] && port.length ≤ 5) "literal_loopback_endpoint_required"
  let number := Nat.ofDigitChars 10 port 0
  require (1 ≤ number && number ≤ 65535) "loopback_port_range"
  return ("127.0.0.1", number)

/-- `Adapter.__init__` up to the journal. -/
def newAdapter (endpoint : String) (context : Json) (providerPublicKey : Bytes) (credential : String)
    (configurationDigest : String) (recoveryEpoch : ℤ) (providerId : String) (faultHook : Bool) :
    Except String Adapter := do
  let (host, port) ← checkEndpoint endpoint
  let context ← validateContext py context
  let scope ← scopeOf py context
  require (providerPublicKey.length = 32) "provider_public_key_shape"
  require (py.publicKeyLoads providerPublicKey) "An Ed25519 public key is 32 bytes long"
  require (credentialOk credential) "ephemeral_credential_shape"
  require (integerOk (.int recoveryEpoch) && hashText configurationDigest) "generation_shape"
  require (textOk (.str providerId)) "adapter_configuration_shape"
  return { host, port, context, scope, providerPublicKey, credential, configurationDigest,
           recoveryEpoch, providerId, faultHook }

def journalIdentity (a : Adapter) : Json :=
  dict [("schema", .str journalSchema), ("context", a.context), ("provider_id", .str a.providerId),
    ("provider_public_key", .str (hex a.providerPublicKey))]

/-- `_initialize_journal` -/
def initializeJournal (a : Adapter) (j : Journal) : Except Failure Journal := do
  let metadata ← check (storeMeta py (journalIdentity a) a.recoveryEpoch a.configurationDigest j.metadata)
  return { j with metadata := some metadata }

/-- `_prepare`, with the check that `_submit_prepared` makes first. -/
def prepare (a : Adapter) (request : Json) : Except String (Request py) := do
  let raw ← requestBytes py request
  let r ← readRequest py "prepared_request_bytes_mismatch" raw
  checkScope r.json a.context
  return r

/-- The deferred foreign key of `authorization_proofs`, checked when a transaction commits. -/
def commitJournal (j : Journal) : Except Failure Journal :=
  if j.proofs.rows.all fun p => j.dispatches.rows.any fun d => d.identity.requestDigest = p.requestDigest
  then .ok j
  else .error (.sqlite "FOREIGN KEY constraint failed")

/-- `SELECT * FROM dispatches WHERE request_digest=?` -/
def selectDispatch (j : Journal) (requestDigest : String) : Except Failure Dispatch :=
  match j.dispatches.rows.find? fun d => d.identity.requestDigest = requestDigest with
  | some row => .ok row
  | none => .error .other

variable {py}

/-- `Adapter._claim`; `admit` is the callback of a configured experiment. -/
def claim (a : Adapter) (r : Request py) (admitting : ℤ → Journal → Except Failure Journal) (now : ℤ)
    (j : Journal) : Except Failure ((Dispatch × Bool) × Journal) := do
  match ← check (find Dispatch.identity j.dispatches.rows a.scope r) with
  | some row => return ((row, false), j)
  | none =>
    check (currentGeneration py j.metadata a.recoveryEpoch a.configurationDigest)
    check (checkGeneration r.json a.context a.recoveryEpoch a.configurationDigest)
    let j ← admitting now j
    let dispatches ← integrity (j.dispatches.insert ⟨r.identity a.scope, now, none⟩)
    let j := { j with dispatches }
    let row ← selectDispatch j r.digest
    let j ← commitJournal j
    return ((row, true), j)

/-- The transaction of `Adapter._store_receipt` on a receipt that verified. -/
def storeReceipt (a : Adapter) (r : Request py) (status : Status) (receipt : Bytes) (now : ℤ)
    (j : Journal) : Except Failure (Dispatch × Journal) := do
  match ← check (find Dispatch.identity j.dispatches.rows a.scope r) with
  | none => .error (.value "original_dispatch_claim_missing")
  | some existing =>
    match existing.observed with
    | some o =>
      if o.receipt ≠ receipt then .error (.value "conflicting_terminal_receipt")
      else return (existing, j)
    | none =>
      let dispatches := j.dispatches.update
        (fun d => d.identity.requestDigest = r.digest && d.observed.isNone)
        (fun d => { d with observed := some ⟨status, receipt, now⟩ }) fun _ => rfl
      let j := { j with dispatches }
      let row ← selectDispatch j r.digest
      return (row, j)

/-- `Adapter._read` -/
def readDispatch (a : Adapter) (r : Request py) (j : Journal) : Except Failure (Option Dispatch) :=
  check (find Dispatch.identity j.dispatches.rows a.scope r)

/-! ## What each transaction does -/

theorem check_ok {α : Type} {x : Except String α} {a : α} : check x = .ok a ↔ x = .ok a := by
  cases x <;> simp [check, Except.mapError]

theorem integrity_ok {α : Type} {x : Option α} {a : α} : integrity x = .ok a ↔ x = some a := by
  cases x <;> simp [integrity]

theorem canonicalText_ok {v : Json} {t : String} (h : canonicalText py v = .ok t) :
    ∃ raw, canonical py v = .ok raw ∧ raw = encodeUtf8 t.toList := by
  obtain ⟨raw, hraw, h⟩ := bind_ok h
  cases h
  refine ⟨raw, hraw, ?_⟩
  rw [String.toList_ofList]
  exact (canonicalJson_ok py runtimeBounds hraw).2.1

theorem canonicalText_eq {v : Json} (h : checkValue py runtimeBounds 0 v = .ok ())
    (hl : (encodeUtf8 (dumps py.floatRepr false v)).length ≤ maxBody) :
    canonicalText py v = .ok (String.ofList (dumps py.floatRepr false v)) := by
  rw [canonicalText, canonical_eq h hl]
  rfl

theorem canonicalText_injective {v w : Json} {t : String} (hv : v.WF) (hw : w.WF)
    (h : canonicalText py v = .ok t) (h' : canonicalText py w = .ok t) : v = w := by
  obtain ⟨raw, hr, rfl⟩ := canonicalText_ok h
  obtain ⟨raw', hr', rfl⟩ := canonicalText_ok h'
  exact canonicalJson_injective py runtimeBounds hv hw hr hr'

/-- A store keeps the identity it was created with, and answers to no other. -/
theorem storeMeta_ok {expected : Json} {epoch : ℤ} {configuration : String}
    {row : Option Metadata} {m : Metadata}
    (h : storeMeta py expected epoch configuration row = .ok m) :
    canonicalText py expected = .ok m.identity ∧ ∀ old, row = some old → old.identity = m.identity := by
  cases row with
  | none =>
    obtain ⟨encoded, he, h⟩ := bind_ok h
    obtain ⟨generation, -, h⟩ := bind_ok h
    cases h
    exact ⟨he, fun _ ho => by cases ho⟩
  | some row =>
    obtain ⟨encoded, he, h⟩ := bind_ok h
    obtain ⟨_, hid, h⟩ := bind_ok h
    have hid := of_decide_eq_true (require_ok.1 hid)
    have hm : m.identity = row.identity := by
      split at h
      · cases h
      · obtain ⟨previous, -, h⟩ := bind_ok h
        obtain ⟨_, -, h⟩ := bind_ok h
        split_ifs at h
        · obtain ⟨text, -, h⟩ := bind_ok h
          cases h
          rfl
        · cases h
          rfl
    exact ⟨hm ▸ hid ▸ he, fun old ho => by cases ho; exact hm.symm⟩

theorem find_some {α : Type} {key : α → Identity} {rows : List α} {scope : String} {r : Request py}
    {row : α} (h : find key rows scope r = .ok (some row)) :
    row ∈ rows ∧ (key row).scope = scope ∧ (key row).operationId = r.operationId ∧
      (key row).idempotencyKey = r.idempotencyKey ∧ (key row).requestBytes = r.raw := by
  unfold find at h
  split at h
  · cases h
  · next row' hr =>
    split_ifs at h with hc
    obtain rfl := Option.some.inj (Except.ok.inj h)
    have hm := List.mem_singleton_self row'
    rw [← hr] at hm
    obtain ⟨hm, hs⟩ := List.mem_filter.1 hm
    simp only [Bool.and_eq_true, decide_eq_true_eq] at hs
    exact ⟨hm, hs.1, hc⟩
  · cases h

theorem find_none {α : Type} {key : α → Identity} {rows : List α} {scope : String} {r : Request py}
    (h : find key rows scope r = .ok none) :
    ∀ row ∈ rows, (key row).scope = scope →
      (key row).operationId ≠ r.operationId ∧ (key row).idempotencyKey ≠ r.idempotencyKey := by
  unfold find at h
  split at h
  · next hr =>
    intro row hrow hs
    have := List.filter_eq_nil_iff.1 hr row hrow
    simpa [hs] using this
  · split_ifs at h
    cases h
  · cases h

/-- What a payment that settles writes. -/
def effectOf (r : Request py) : EffectRow :=
  ⟨r.digest, r.field "source_account", r.field "beneficiary", r.field "amount_minor"⟩

/-- The row and the account amounts that one new payment commits. -/
structure Created (py : Platform) (r : Request py) (s s' : ProviderStore) (receipt : Bytes) where
  scope : String
  status : Status
  metadata : s'.metadata = s.metadata
  fresh : find PaymentRow.identity s.payments.rows scope r = .ok none
  issued : IsReceipt r status receipt
  payments : s'.payments.rows = s.payments.rows ++ [⟨r.identity scope, status, receipt⟩]
  outcome : (status = .failed ∧ s'.balances = s.balances ∧ s'.effects = s.effects) ∨
    (status = .settled ∧ failureReason r (balancesOf r s) = none ∧
      settle r (balancesOf r s) s = .ok { s with balances := s'.balances, effects := s'.effects })

namespace Created
variable {r : Request py} {s s' : ProviderStore} {receipt : Bytes} (c : Created py r s s' receipt)
include c

def row : PaymentRow := ⟨r.identity c.scope, c.status, receipt⟩

theorem mem : c.row ∈ s'.payments.rows := by
  rw [c.payments]
  exact List.mem_append_right _ List.mem_cons_self

theorem not_mem : c.row ∉ s.payments.rows := by
  have hu := s'.payments.unique
  rw [c.payments] at hu
  exact fun h => (List.pairwise_append.1 hu).2.2 _ h _ List.mem_cons_self (Or.inl rfl)

end Created

theorem settle_ok {r : Request py} {balances : List (String × ℕ)} {s s' : ProviderStore}
    (h : settle r balances s = .ok s') : ∃ b e, s' = { s with balances := b, effects := e } := by
  obtain ⟨e, -, h⟩ := bind_ok h
  cases h
  exact ⟨_, e, rfl⟩

theorem commitProvider_ok {s s' : ProviderStore} (h : commitProvider s = .ok s') : s' = s := by
  unfold commitProvider at h
  split_ifs at h
  cases h
  rfl

/-- A call of `_apply_payment` replays a stored receipt or creates one payment. -/
theorem applyPayment_ok {config : ProviderConfig} {r : Request py} {now : ℤ} {s s' : ProviderStore}
    {receipt : Bytes} {created : Bool}
    (h : applyPayment py config r now s = .ok ((receipt, created), s')) :
    (created = false ∧ s' = s ∧ ∃ row ∈ s.payments.rows,
      row.receipt = receipt ∧ row.identity.requestBytes = r.raw) ∨
    (created = true ∧ ∃ c : Created py r s s' receipt, scopeOf py config.context = .ok c.scope) := by
  obtain ⟨scope, hscope, h⟩ := bind_ok h
  obtain ⟨existing, hfind, h⟩ := bind_ok h
  rw [check_ok] at hscope hfind
  cases existing with
  | some row =>
    cases h
    obtain ⟨hm, -, -, -, hraw⟩ := find_some hfind
    exact Or.inl ⟨rfl, rfl, row, hm, rfl, hraw⟩
  | none =>
    obtain ⟨_, -, h⟩ := bind_ok h
    obtain ⟨_, -, h⟩ := bind_ok h
    obtain ⟨s₁, hs₁, h⟩ := bind_ok h
    obtain ⟨receipt', hreceipt, h⟩ := bind_ok h
    obtain ⟨payments, hpay, h⟩ := bind_ok h
    obtain ⟨s₂, hs₂, h⟩ := bind_ok h
    cases h
    obtain rfl := commitProvider_ok hs₂
    rw [check_ok] at hreceipt
    rw [integrity_ok] at hpay
    refine Or.inr ⟨rfl, ?_⟩
    split_ifs at hs₁ with hf
    · obtain ⟨b, e, rfl⟩ := settle_ok hs₁
      rw [hf] at hreceipt hpay
      exact ⟨⟨scope, .settled, rfl, hfind, ⟨_, _, _, _, hreceipt⟩, (Table.insert_some hpay).1,
        Or.inr ⟨rfl, hf, hs₁⟩⟩, hscope⟩
    · cases hs₁
      obtain ⟨reason, hreason⟩ := Option.ne_none_iff_exists'.1 hf
      rw [hreason] at hreceipt hpay
      exact ⟨⟨scope, .failed, rfl, hfind, ⟨_, _, _, _, hreceipt⟩, (Table.insert_some hpay).1,
        Or.inl ⟨rfl, rfl, rfl⟩⟩, hscope⟩

end Stores
end VapEvidence.Payment

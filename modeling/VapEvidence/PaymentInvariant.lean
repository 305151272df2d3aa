import VapEvidence.PaymentConservation
import VapEvidence.PaymentSystem
import VapEvidence.PaymentTransactions

set_option autoImplicit false

/-!
# The invariant of the payment system

One invariant links the journal, the messages in flight and the provider's rows.
Where every claim passes the admission gate it also links claims to proofs, and
where every claim passes custody it links messages to what the collector holds.
-/
namespace VapEvidence.Payment
open Json Authorization Custody Interleaving

/-- Which submissions a run has: any, gated by admission, or held to custody. -/
inductive Mode where
  | any
  | gated
  | held
  deriving DecidableEq

def Mode.Allowed : Mode → Call → Prop
  | .any, _ => True
  | .gated, .submit .. => False
  | .gated, _ => True
  | .held, .submit .. | .held, .submitAuthorized .. => False
  | .held, _ => True

section Invariant
variable (py : Platform)

/-- What a client verified of a package the collector holds. -/
def Checked (pins : Pins) (package : Bytes) (observed : Collected) : Prop :=
  ∃ response, verifyReadback py response package pins.publicKey observed.nonce pins.collectorId
    pins.recoveryEpoch = .ok ⟨observed.readbackBytes, some observed.ackBytes, observed.nonce⟩

/-- The proof `p` was written with the claim `d`, on the decision that a gate came to then. -/
def Decided (s : Services) (d : Dispatch) (p : ProofRow) (decision : Json) : Prop :=
  ∃ g ∈ s.authorized, ∃ (r : Request py) (supplied : Supplied) (policy trust identities : Json),
    d.identity.requestBytes = r.raw ∧
    load py g.policyBytes = .ok policy ∧ load py g.trustBytes = .ok trust ∧
    load py g.identitiesBytes = .ok identities ∧
    assess r (freezeEvidence supplied).1 (freezeEvidence supplied).2 policy trust identities d.claimedAt
      g.maxStatusAgeMs = .ok decision ∧
    decision.item "verdict" = .str "AUTHORIZED" ∧
    canonical py (proofRecord r g.policyBytes g.trustBytes g.identitiesBytes g.maxStatusAgeMs
      (freezeEvidence supplied).1 decision) = .ok p.recordBytes ∧
    p = ⟨r.digest, p.recordBytes, bytesDigest py p.recordBytes, d.claimedAt⟩

def Admitted (s : Services) (d : Dispatch) (p : ProofRow) : Prop := ∃ decision, Decided py s d p decision

/-- What the journal and the collector hold of a package that was collected before dispatch. -/
structure Deposited (s : Services) (c : CollectedAdapter) (package : Bytes) where
  value : Json
  pinDigest : String
  observed : Collected
  recordedAt : ℕ
  record : Bytes
  stored : CollectionRecord
  valid : validatePackage py package c.pins.context = .ok value
  checked : Checked py c.pins package observed
  pin : encodeDigest py (pinIdentity c.pins) = .ok pinDigest
  written : encode py (observationValue c.pins pinDigest package value observed "PRE_DISPATCH" recordedAt) =
    .ok record
  stored_mem : stored ∈ s.collector.records.rows
  stored_package : stored.packageBytes = package
  observation : (⟨bytesDigest py record, (value.item "request_digest").text, (value.item "kind").text,
    "PRE_DISPATCH", record⟩ : CustodyObservation) ∈ s.journal.observations.rows
  marker : (⟨(value.item "request_digest").text, bytesDigest py record⟩ : CustodyPrerequisite) ∈
    s.journal.prerequisites.rows

/-- A request whose stored authorization record was deposited before it is sent. -/
structure Custodied (s : Services) (raw : Bytes) where
  c : CollectedAdapter
  r : Request py
  proof : ProofRow
  package : Bytes
  known : c ∈ s.collected
  request : r.raw = raw
  scope : checkScope r.json c.authorized.adapter.context = .ok ()
  proof_mem : proof ∈ s.journal.proofs.rows
  proof_request : proof.requestDigest = r.digest
  made : makePackage r .admissionRecord proof.recordBytes = .ok package
  deposited : Deposited py s c package

structure Inv (mode : Mode) (s : Services) : Prop where
  adapters : ∀ a ∈ s.adapters, a.context.WF ∧ scopeOf py a.context = .ok a.scope
  pinned : ∀ a ∈ s.adapters, ∃ m, s.journal.metadata = some m ∧
    canonicalText py (journalIdentity a) = .ok m.identity
  authorized : ∀ g ∈ s.authorized, g.adapter ∈ s.adapters ∧
    ∃ config hook, newAuthorizedAdapter py g.adapter config hook = .ok g
  collected : ∀ c ∈ s.collected, c.authorized ∈ s.authorized
  inserted : s.inserted.map Prod.snd = s.journal.dispatches.rows.map fun d => d.identity.requestBytes
  dispatch : ∀ d ∈ s.journal.dispatches.rows, ∃ a ∈ s.adapters, ∃ r : Request py,
    d.identity = r.identity a.scope ∧ checkScope r.json a.context = .ok ()
  sentOwned : ∀ m ∈ s.sent, m ∈ s.inserted
  sentNodup : s.sent.Nodup
  unclaimed : ∀ i ∈ s.unclaimed, ∀ raw, (i, raw) ∉ s.sent
  refused : ∀ m ∈ s.refused, m ∈ s.inserted ∧ m ∉ s.sent
  payment : ∀ p ∈ s.provider.payments.rows, ∃ (r : Request py) (scope : String),
    r.scope = .ok scope ∧ p.identity = r.identity scope ∧ IsReceipt r p.status p.receipt ∧
      ∃ m ∈ s.sent, m.2 = r.raw
  effects : s.provider.effects.rows.map EffectRow.requestDigest = settledDigests s.provider.payments.rows
  wire : ∀ b ∈ s.wire, ∃ p ∈ s.provider.payments.rows, p.receipt = b
  observed : ∀ d ∈ s.journal.dispatches.rows, ∀ o, d.observed = some o →
    ∃ p ∈ s.provider.payments.rows, p.identity.requestBytes = d.identity.requestBytes ∧
      p.receipt = o.receipt ∧ p.status = o.status
  storeFailures : Failure.value "conflicting_terminal_receipt" ∉ s.storeFailures
  proofs : mode ≠ .any → s.journal.proofs.rows.map ProofRow.requestDigest =
    s.journal.dispatches.rows.map fun d => d.identity.requestDigest
  proof : mode ≠ .any → ∀ d ∈ s.journal.dispatches.rows, ∃ p ∈ s.journal.proofs.rows, Admitted py s d p
  custody : mode = .held → ∀ m ∈ s.sent, Nonempty (Custodied py s m.2)

/-- What only grows, for whoever runs. -/
structure Grows (s t : Services) : Prop where
  adapters : s.adapters ⊆ t.adapters
  authorized : s.authorized ⊆ t.authorized
  collected : s.collected ⊆ t.collected
  dispatches : ∀ d ∈ s.journal.dispatches.rows, ∃ d' ∈ t.journal.dispatches.rows,
    d'.identity = d.identity ∧ d'.claimedAt = d.claimedAt ∧
      ∀ o, d.observed = some o → d'.observed = some o
  proofs : s.journal.proofs.rows ⊆ t.journal.proofs.rows
  observations : s.journal.observations.rows ⊆ t.journal.observations.rows
  prerequisites : s.journal.prerequisites.rows ⊆ t.journal.prerequisites.rows
  payments : s.provider.payments.rows ⊆ t.provider.payments.rows
  records : s.collector.records.rows ⊆ t.collector.records.rows
  wire : s.wire ⊆ t.wire
  sent : s.sent ⊆ t.sent
  inserted : s.inserted ⊆ t.inserted
  refused : s.refused ⊆ t.refused
  unclaimed : s.unclaimed ⊆ t.unclaimed

/-- The history of call `i` is its own. -/
structure Own (i : ℕ) (s t : Services) : Prop where
  inserted : ∀ raw, (i, raw) ∈ t.inserted → (i, raw) ∈ s.inserted
  sent : ∀ raw, (i, raw) ∈ t.sent → (i, raw) ∈ s.sent
  refused : ∀ raw, (i, raw) ∈ t.refused → (i, raw) ∈ s.refused
  unclaimed : i ∈ t.unclaimed → i ∈ s.unclaimed

theorem Grows.refl (s : Services) : Grows s s where
  adapters := List.Subset.refl _
  authorized := List.Subset.refl _
  collected := List.Subset.refl _
  dispatches d hd := ⟨d, hd, rfl, rfl, fun _ h => h⟩
  proofs := List.Subset.refl _
  observations := List.Subset.refl _
  prerequisites := List.Subset.refl _
  payments := List.Subset.refl _
  records := List.Subset.refl _
  wire := List.Subset.refl _
  sent := List.Subset.refl _
  inserted := List.Subset.refl _
  refused := List.Subset.refl _
  unclaimed := List.Subset.refl _

theorem Grows.trans {s t u : Services} (h : Grows s t) (k : Grows t u) : Grows s u where
  adapters := List.Subset.trans h.adapters k.adapters
  authorized := List.Subset.trans h.authorized k.authorized
  collected := List.Subset.trans h.collected k.collected
  dispatches d hd := by
    obtain ⟨d', hd', hi, hc, ho⟩ := h.dispatches d hd
    obtain ⟨d'', hd'', hi', hc', ho'⟩ := k.dispatches d' hd'
    exact ⟨d'', hd'', hi'.trans hi, hc'.trans hc, fun o h => ho' o (ho o h)⟩
  proofs := List.Subset.trans h.proofs k.proofs
  observations := List.Subset.trans h.observations k.observations
  prerequisites := List.Subset.trans h.prerequisites k.prerequisites
  payments := List.Subset.trans h.payments k.payments
  records := List.Subset.trans h.records k.records
  wire := List.Subset.trans h.wire k.wire
  sent := List.Subset.trans h.sent k.sent
  inserted := List.Subset.trans h.inserted k.inserted
  refused := List.Subset.trans h.refused k.refused
  unclaimed := List.Subset.trans h.unclaimed k.unclaimed

theorem Own.refl (i : ℕ) (s : Services) : Own i s s :=
  ⟨fun _ h => h, fun _ h => h, fun _ h => h, id⟩

theorem Own.trans {i : ℕ} {s t u : Services} (h : Own i s t) (k : Own i t u) : Own i s u :=
  ⟨fun _ x => h.inserted _ (k.inserted _ x), fun _ x => h.sent _ (k.sent _ x),
    fun _ x => h.refused _ (k.refused _ x), fun x => h.unclaimed (k.unclaimed x)⟩

/-- Call `i` has done nothing yet. -/
structure Fresh (i : ℕ) (s : Services) : Prop where
  inserted : ∀ raw, (i, raw) ∉ s.inserted
  sent : ∀ raw, (i, raw) ∉ s.sent
  refused : ∀ raw, (i, raw) ∉ s.refused
  unclaimed : i ∉ s.unclaimed

theorem Fresh.own {i : ℕ} {s t : Services} (h : Fresh i s) (k : Own i s t) : Fresh i t :=
  ⟨fun _ x => h.inserted _ (k.inserted _ x), fun _ x => h.sent _ (k.sent _ x),
    fun _ x => h.refused _ (k.refused _ x), fun x => h.unclaimed (k.unclaimed x)⟩

def outline (mode : Mode) : Outline Services where
  inv := Inv py mode
  rely i s t := Grows s t ∧ Own i s t
  fresh := Fresh
  rely_refl i s := ⟨Grows.refl s, Own.refl i s⟩
  rely_trans h k := ⟨h.1.trans k.1, h.2.trans k.2⟩
  fresh_stable h k := k.own h.2

variable {py}

theorem Admitted.grows {s t : Services} {d : Dispatch} {p : ProofRow} (h : Admitted py s d p)
    (hg : Grows s t) : Admitted py t d p := by
  obtain ⟨decision, g, hmem, h⟩ := h
  exact ⟨decision, g, hg.authorized hmem, h⟩

/-- An admission is about the claim's bytes and moment, not about its outcome. -/
theorem Admitted.of_eq {s : Services} {d d' : Dispatch} {p : ProofRow} (h : Admitted py s d p)
    (hi : d'.identity = d.identity) (hc : d'.claimedAt = d.claimedAt) : Admitted py s d' p := by
  obtain ⟨decision, h⟩ := h
  refine ⟨decision, ?_⟩
  unfold Decided at h ⊢
  rw [hi, hc]
  exact h

def Deposited.grows {s t : Services} {c : CollectedAdapter} {package : Bytes}
    (h : Deposited py s c package) (hg : Grows s t) : Deposited py t c package :=
  { h with
    stored_mem := hg.records h.stored_mem
    observation := hg.observations h.observation
    marker := hg.prerequisites h.marker }

def Custodied.grows {s t : Services} {raw : Bytes} (h : Custodied py s raw) (hg : Grows s t) :
    Custodied py t raw :=
  { h with
    known := hg.collected h.known
    proof_mem := hg.proofs h.proof_mem
    deposited := h.deposited.grows hg }

/-! ## Rows determined by their request -/

theorem dispatch_unique {s : Services} {mode : Mode} (h : Inv py mode s) {d d' : Dispatch}
    (hd : d ∈ s.journal.dispatches.rows) (hd' : d' ∈ s.journal.dispatches.rows)
    (he : d.identity.requestBytes = d'.identity.requestBytes) : d = d' := by
  obtain ⟨a, -, r, hi, -⟩ := h.dispatch d hd
  obtain ⟨a', -, r', hi', -⟩ := h.dispatch d' hd'
  rw [hi, hi'] at he
  have hr : r.raw = r'.raw := he
  refine s.journal.dispatches.eq_of_clash (fun _ _ h => h.symm) hd hd' (Or.inl ?_)
  rw [hi, hi']
  exact congrArg (bytesDigest py) hr

theorem payment_unique {s : Services} {mode : Mode} (h : Inv py mode s) {p p' : PaymentRow}
    (hp : p ∈ s.provider.payments.rows) (hp' : p' ∈ s.provider.payments.rows)
    (he : p.identity.requestBytes = p'.identity.requestBytes) : p = p' := by
  obtain ⟨r, scope, -, hi, -⟩ := h.payment p hp
  obtain ⟨r', scope', -, hi', -⟩ := h.payment p' hp'
  rw [hi, hi'] at he
  have hr : r.raw = r'.raw := he
  refine s.provider.payments.eq_of_clash (fun _ _ h => h.symm) hp hp' (Or.inl ?_)
  rw [hi, hi']
  exact congrArg (bytesDigest py) hr

theorem dispatch_digest {s : Services} {mode : Mode} (h : Inv py mode s) {d : Dispatch}
    (hd : d ∈ s.journal.dispatches.rows) {r : Request py} (hr : d.identity.requestBytes = r.raw) :
    d.identity.requestDigest = r.digest := by
  obtain ⟨a, -, r', hi, -⟩ := h.dispatch d hd
  rw [hi] at hr ⊢
  exact congrArg (bytesDigest py) hr

/-- Each claim was inserted once, by one call. -/
theorem inserted_nodup {s : Services} {mode : Mode} (h : Inv py mode s) :
    (s.inserted.map Prod.snd).Nodup := by
  rw [h.inserted]
  refine List.pairwise_map.2 (s.journal.dispatches.unique.imp_of_mem ?_)
  intro d d' hd hd' hne he
  obtain rfl := dispatch_unique h hd hd' he
  exact hne (Or.inl rfl)

theorem inserted_unique {s : Services} {mode : Mode} (h : Inv py mode s) {m m' : ℕ × Bytes}
    (hm : m ∈ s.inserted) (hm' : m' ∈ s.inserted) (he : m.2 = m'.2) : m = m' :=
  List.inj_on_of_nodup_map (inserted_nodup h) hm hm' he

end Invariant
end VapEvidence.Payment

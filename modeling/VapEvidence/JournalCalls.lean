import VapEvidence.Answers
import VapEvidence.PaymentSafety

set_option autoImplicit false

/-!
# Every operation on one journal

The calls of the payment system and the two that only look at custody, on a network
that may answer anything: no signature is trusted. What the journal holds only grows,
and each row belongs to a request in the journal's scope.
-/
namespace VapEvidence.Payment
open Json Authorization Custody Interleaving

section Operations
variable {py : Platform}

/-- What `check_custody` reports; a package whose readback failed has no observation. -/
structure CustodyCheck where
  presentAtReadbacks : Bool
  observations : List (Kind × Option Readback)

/-- `CollectorClient.readback` -/
def readbackPackage (pins : Pins) (package : Bytes) : Program py (Except Failure Readback) :=
  match validatePackage py package pins.context with
  | .error text => .ret (.error (.value text))
  | .ok _ => do
    let nonce ← tokenHex
    (getReadback (bytesDigest py package) nonce).andThen fun (status, response) =>
      if status ≠ 200 then .ret (.error (.value "collector_readback_unavailable"))
      else .ret (check (verifyReadback py response package pins.publicKey nonce pins.collectorId
        pins.recoveryEpoch))

/-- The loop of `check_custody`. -/
def checkAll (pins : Pins) : Originals → Program py (List (Kind × Option Readback))
  | [] => .ret []
  | (kind, package) :: rest => do
    let observed ← readbackPackage pins package
    let others ← checkAll pins rest
    return (kind, observed.toOption) :: others

/-- `check_custody` -/
def checkCustody (c : CollectedAdapter) (r : Request py) : Program py CustodyCheck := do
  match ← originals c r with
  | .error _ => return ⟨false, []⟩
  | .ok packages =>
    let observations ← checkAll c.pins packages
    let present := [Kind.admissionRecord, .providerReceipt].all fun kind =>
      (observations.lookup kind).any fun observed => observed.any fun x => x.ackBytes.isSome
    return ⟨present, observations⟩

/-- An operation of an adapter, or one of a collected adapter that looks at custody only. -/
inductive JournalCall where
  | payment (c : Call)
  | readCustody (c : CollectedAdapter) (request : Value)
  | checkCustody (c : CollectedAdapter) (request : Value)

inductive Outcome where
  | paid (x : Result)
  | custody (x : CustodyReading)
  | checked (x : CustodyCheck)

def JournalCall.adapter : JournalCall → Adapter
  | .payment c => c.adapter
  | .readCustody c _ | .checkCustody c _ => c.authorized.adapter

def JournalCall.request : JournalCall → Value
  | .payment c => c.request
  | .readCustody _ v | .checkCustody _ v => v

def JournalCall.Constructed (s : Services) : JournalCall → Prop
  | .payment c => c.Constructed s
  | .readCustody c _ | .checkCustody c _ => c ∈ s.collected

variable (py) in
def JournalCall.body : JournalCall → Program py (Except Failure Outcome)
  | .payment c => do
    let x ← c.body py
    return x.map .paid
  | .readCustody c v => prepared c.authorized.adapter v.json (.ok (.custody .empty)) fun r => do
    let x ← Payment.readCustody c r
    return .ok (.custody x)
  | .checkCustody c v => prepared c.authorized.adapter v.json (.ok (.checked ⟨false, []⟩)) fun r => do
    let x ← Payment.checkCustody c r
    return .ok (.checked x)

/-! ## The network and the journal -/

/-- The effects as they are where nothing that arrives is trusted. -/
def exposed (i : ℕ) (s : Services) : (e : Effect py) → Services → e.Result → Prop
  | .answer _, t, _ => t = s
  | .collect package, t, _ => t = { s with collections := s.collections ++ [package] }
  | .readback .., t, _ => t = s
  | e, t, res => exec i s e t res

/-- A read of the journal is answered from its rows; SQLite may instead fail it. -/
def Readable (s : Services) : (e : Effect py) → e.Result → Prop
  | .claim .., res => ∀ e, res = .error e → e ≠ .os ∧ ∀ text, e ≠ .sqlite text
  | .read a r, res => res = readDispatch a r s.journal
  | .authorization g r, res => res = readAuthorization g r s.journal
  | .custody _, res => ∀ e, res ≠ .error e
  | _, _ => True

/-- The services with the calls that a read of the journal failed. -/
structure Watched where
  services : Services
  unread : List ℕ

def Watched.initial : Watched := ⟨.initial, []⟩

variable (py) in
def journalSystem : Semantics Watched (Effect py) Effect.Result where
  exec i s e t r := exposed i s.services e t.services r ∧
    (Readable s.services e r ∧ t.unread = s.unread ∨ ¬ Readable s.services e r ∧ t.unread = i :: s.unread)
  env s t := Environment py s.services t.services ∧ t.unread = s.unread

abbrev JournalWorld (py : Platform) :=
  World Watched (Effect py) Effect.Result JournalCall (Except Failure Outcome)

/-- Runs of any operations on one journal. -/
abbrev JournalRun (py : Platform) : JournalWorld py → JournalWorld py → Prop :=
  Run (journalSystem py) (fun s c => c.Constructed s.services) (JournalCall.body py)

def JournalReachable (py : Platform) (w : JournalWorld py) : Prop :=
  JournalRun py (World.initial .initial) w

/-! ## What only grows -/

theorem grows_journal {s : Services} {j : Journal} {collections : List Bytes} {collected : List CollectedAdapter}
    (hc : s.collected ⊆ collected)
    (hd : ∀ d ∈ s.journal.dispatches.rows, ∃ d' ∈ j.dispatches.rows, d'.identity = d.identity ∧
      d'.claimedAt = d.claimedAt ∧ ∀ o, d.observed = some o → d'.observed = some o)
    (hp : s.journal.proofs.rows ⊆ j.proofs.rows) (ho : s.journal.observations.rows ⊆ j.observations.rows)
    (hq : s.journal.prerequisites.rows ⊆ j.prerequisites.rows) :
    Grows s { s with journal := j, collected, collections } :=
  { Grows.refl s with
    collected := hc
    dispatches := hd
    proofs := hp
    observations := ho
    prerequisites := hq }

theorem kept_rows (j : Journal) : ∀ d ∈ j.dispatches.rows, ∃ d' ∈ j.dispatches.rows, d'.identity = d.identity ∧
    d'.claimedAt = d.claimedAt ∧ ∀ o, d.observed = some o → d'.observed = some o :=
  fun d hd => ⟨d, hd, rfl, rfl, fun _ h => h⟩

/-- The rows a claim leaves, whether it found its row or added it. -/
theorem grows_claim {a : Adapter} {r : Request py} {admission : Option Admission} {now : ℤ}
    {hook : Except Failure Unit} {j j' : Journal} {row : Dispatch} {created : Bool}
    (h : claim a r (callback py admission hook r) now j = .ok ((row, created), j')) :
    j.dispatches.rows ⊆ j'.dispatches.rows ∧ j.proofs.rows ⊆ j'.proofs.rows ∧
      j'.observations = j.observations ∧ j'.prerequisites = j.prerequisites ∧ j'.metadata = j.metadata ∧
      ∀ d ∈ j'.dispatches.rows, d ∈ j.dispatches.rows ∨ d = row ∧ row.identity = r.identity a.scope := by
  have hkeep : ∀ j₁, callback py admission hook r now j = .ok j₁ → j₁.dispatches = j.dispatches := by
    intro j₁ hj₁
    rw [(callback_ok hj₁).1]
  rcases claim_ok h hkeep with ⟨-, rfl, -, -⟩ | ⟨-, hrow, -, hrows, j₁, hj₁, hj'⟩
  · exact ⟨List.Subset.refl _, List.Subset.refl _, rfl, rfl, rfl, fun d hd => .inl hd⟩
  · obtain ⟨hframe, hadm⟩ := callback_ok hj₁
    have hproofs : j.proofs.rows ⊆ j₁.proofs.rows := by
      rcases hadm with ⟨-, hp⟩ | ⟨c, -, hc⟩
      · rw [hp]
        exact List.Subset.refl _
      · obtain ⟨_, _, _, _, _, -, -, -, -, -, -, hp, -⟩ := admit_ok hc
        rw [hp]
        exact List.subset_append_left _ _
    have ho : j'.observations = j.observations := by rw [hj', hframe]
    have hq : j'.prerequisites = j.prerequisites := by rw [hj', hframe]
    have hm : j'.metadata = j.metadata := by rw [hj', hframe]
    have hp : j'.proofs = j₁.proofs := by rw [hj']
    refine ⟨hrows ▸ List.subset_append_left _ _, hp ▸ hproofs, ho, hq, hm, fun d hd => ?_⟩
    rw [hrows] at hd
    rcases List.mem_append.1 hd with hd | hd
    · exact .inl hd
    · exact .inr ⟨List.mem_singleton.1 hd, hrow ▸ rfl⟩

theorem grows_observeRow {j j' : Journal} {requestDigest : String} {o : Observed}
    (h : j'.dispatches.rows = j.dispatches.rows.map (observeRow requestDigest o)) :
    ∀ d ∈ j.dispatches.rows, ∃ d' ∈ j'.dispatches.rows, d'.identity = d.identity ∧
      d'.claimedAt = d.claimedAt ∧ ∀ o, d.observed = some o → d'.observed = some o :=
  fun d hd => ⟨observeRow requestDigest o d, h ▸ List.mem_map_of_mem hd, observeRow_identity _ _ d,
    observeRow_claimedAt _ _ d, fun _ ho => observeRow_observed ho⟩

/-- Whatever the network answers, an effect takes nothing away. -/
theorem grows_exposed {i : ℕ} {s t : Services} {e : Effect py} {res : e.Result} (hx : exposed i s e t res) :
    Grows s t := by
  cases e with
  | claim a r admission =>
    obtain ⟨now, hook, j, hj, rfl⟩ := hx
    rcases ends_cases hj with ⟨rfl, -⟩ | ⟨⟨row, created⟩, htx, -⟩
    · exact
        { Grows.refl s with
          inserted := List.subset_append_left _ _
          unclaimed := List.subset_append_left _ _ }
    · obtain ⟨hd, hp, ho, hq, -, -⟩ := grows_claim htx
      exact
        { Grows.refl s with
          dispatches := fun d hm => ⟨d, hd hm, rfl, rfl, fun _ h => h⟩
          proofs := hp
          observations := ho ▸ List.Subset.refl _
          prerequisites := hq ▸ List.Subset.refl _
          inserted := List.subset_append_left _ _
          unclaimed := List.subset_append_left _ _ }
  | store a r status receipt =>
    obtain ⟨now, j, hj, rfl⟩ := hx
    rcases ends_cases hj with ⟨rfl, -⟩ | ⟨row, htx, -⟩
    · exact { Grows.refl s with }
    · obtain ⟨d, -, -, ⟨o, -, -, -, rfl⟩ | ⟨-, -, -, hrows, hframe⟩⟩ := storeReceipt_ok htx
      · exact { Grows.refl s with }
      · have hp : j.proofs = s.journal.proofs := by rw [hframe]
        have ho : j.observations = s.journal.observations := by rw [hframe]
        have hq : j.prerequisites = s.journal.prerequisites := by rw [hframe]
        exact
          { Grows.refl s with
            dispatches := grows_observeRow hrows
            proofs := hp ▸ List.Subset.refl _
            observations := ho ▸ List.Subset.refl _
            prerequisites := hq ▸ List.Subset.refl _ }
  | persist c r package observed stage =>
    obtain ⟨now, j, hj, rfl⟩ := hx
    rcases ends_cases hj with ⟨rfl, -⟩ | ⟨⟨⟩, htx, -⟩
    · exact Grows.refl s
    · obtain ⟨j', hp, he⟩ := map_ok htx
      obtain rfl : j' = j := congrArg Prod.snd he
      obtain ⟨value, pinDigest, record, -, -, -, -, ho, hpre, hnot, hframe⟩ := persist_ok hp
      have hd : j'.dispatches = s.journal.dispatches := by rw [hframe]
      have hpr : j'.proofs = s.journal.proofs := by rw [hframe]
      refine grows_journal (List.Subset.refl _) (hd ▸ kept_rows s.journal) (hpr ▸ List.Subset.refl _)
        (ho ▸ List.subset_append_left _ _) ?_
      by_cases hs : stage = "PRE_DISPATCH"
      · rw [(hpre hs).2]
        exact List.subset_append_left _ _
      · rw [hnot hs]
        exact List.Subset.refl _
  | read | authorization | custody =>
    obtain ⟨rfl, -⟩ := hx
    exact Grows.refl t
  | answer | readback | hook | nonce =>
    obtain rfl : t = s := hx
    exact Grows.refl t
  | get | collect =>
    obtain rfl : t = _ := hx
    exact { Grows.refl s with }
  | post raw =>
    obtain rfl : t = _ := hx
    exact { Grows.refl s with sent := List.subset_append_left _ _ }
  | refuse raw =>
    obtain rfl : t = _ := hx
    exact { Grows.refl s with refused := List.subset_append_left _ _ }

theorem grows_environment {s t : Services} (he : Environment py s t) : Grows s t := by
  cases he with
  | @adapter _ _ _ _ _ _ _ _ a j made opened =>
    obtain ⟨m, -, -, -, hj⟩ := initializeJournal_ok opened
    have hd : j.dispatches = s.journal.dispatches := by rw [hj]
    have hp : j.proofs = s.journal.proofs := by rw [hj]
    have ho : j.observations = s.journal.observations := by rw [hj]
    have hq : j.prerequisites = s.journal.prerequisites := by rw [hj]
    exact
      { Grows.refl s with
        adapters := List.subset_cons_self _ _
        dispatches := hd ▸ kept_rows s.journal
        proofs := hp ▸ List.Subset.refl _
        observations := ho ▸ List.Subset.refl _
        prerequisites := hq ▸ List.Subset.refl _ }
  | authorized known made => exact { Grows.refl s with authorized := List.subset_cons_self _ _ }
  | @collected _ _ _ _ _ _ _ _ c j known made opened =>
    have hj := initializeLocal_ok opened
    have hd : j.dispatches = s.journal.dispatches := by rw [hj]
    have hp : j.proofs = s.journal.proofs := by rw [hj]
    have ho : j.observations = s.journal.observations := by rw [hj]
    have hq : j.prerequisites = s.journal.prerequisites := by rw [hj]
    exact grows_journal (List.subset_cons_self _ _) (hd ▸ kept_rows s.journal) (hp ▸ List.Subset.refl _)
      (ho ▸ List.Subset.refl _) (hq ▸ List.Subset.refl _)
  | provider started =>
    obtain ⟨_, _, -, -, -, -, -, -, hpay, -, -⟩ := initializeProvider_ok started
    exact { Grows.refl s with payments := hpay ▸ List.Subset.refl _ }
  | deliver sent serving processed =>
    obtain ⟨r, created, -, -, happ⟩ := doPost_ok processed
    refine { Grows.refl s with payments := ?_, wire := List.subset_append_left _ _ }
    rcases applyPayment_ok happ with ⟨-, rfl, -⟩ | ⟨-, c, -⟩
    · exact List.Subset.refl _
    · rw [c.payments]
      exact List.subset_append_left _ _
  | lookup sent serving processed => exact { Grows.refl s with wire := List.subset_append_left _ _ }
  | collector started =>
    exact { Grows.refl s with records := initializeCollector_ok started ▸ List.Subset.refl _ }
  | collection sent serving processed => exact { Grows.refl s with records := collect_ok processed }

theorem journal_grows {w w' : JournalWorld py} (hr : JournalRun py w w') :
    Grows w.shared.services w'.shared.services := by
  induction hr with
  | refl => exact Grows.refl _
  | tail _ hstep ih =>
    refine ih.trans ?_
    cases hstep with
    | spawn i c free ok => exact Grows.refl _
    | run i at_eff done => exact grows_exposed done.1
    | environment done => exact grows_environment done.1
    | crash i running => exact Grows.refl _

/-! ## What belongs to the journal -/

variable (py) in
/-- The adapters are pinned to the journal, and its rows are of requests in their scope. -/
structure JournalInv (s : Services) : Prop where
  adapters : ∀ a ∈ s.adapters, a.context.WF ∧ scopeOf py a.context = .ok a.scope
  pinned : ∀ a ∈ s.adapters, ∃ m, s.journal.metadata = some m ∧
    canonicalText py (journalIdentity a) = .ok m.identity
  authorized : ∀ g ∈ s.authorized, g.adapter ∈ s.adapters
  collected : ∀ c ∈ s.collected, c.authorized ∈ s.authorized ∧ c.authorized.adapter.context = c.pins.context
  dispatch : ∀ d ∈ s.journal.dispatches.rows, ∃ a ∈ s.adapters, ∃ r : Request py,
    d.identity = r.identity a.scope ∧ checkScope r.json a.context = .ok ()

/-- A call claims for its own adapter, and in its scope. -/
def Scoped (c : JournalCall) : Effect py → Prop
  | .claim a r _ => a = c.adapter ∧ checkScope r.json a.context = .ok ()
  | _ => True

theorem Quiet.scoped {c : JournalCall} {e : Effect py} (h : Quiet e) : Scoped c e := by
  cases e <;> first | exact h.elim | trivial

theorem scoped_of_not_claims {c : JournalCall} {e : Effect py} (h : ¬ Claims e) : Scoped c e := by
  cases e <;> first | exact absurd trivial h | trivial

theorem uses_dispatchClaimed {c : JournalCall} {a : Adapter} {r : Request py}
    {before : Program py (Except Failure Unit)} {after : Bytes → Program py (Except Failure Unit)}
    (hbefore : before.Uses Quiet) (hafter : ∀ receipt, (after receipt).Uses Quiet) :
    (dispatchClaimed a r before after).Uses (Scoped c) := by
  have quiet {α : Type} {p : Program py α} (hp : p.Uses Quiet) := hp.mono fun e => Quiet.scoped (c := c) (e := e)
  refine (quiet (uses_faultPoint _ _)).andThen fun _ => (quiet hbefore).bind fun x => ?_
  rcases x with e | ⟨⟩
  · exact ⟨trivial, fun _ => trivial⟩
  refine ⟨trivial, fun _ => Prog.Uses.andThen ⟨trivial, fun _ => trivial⟩ fun x => ?_⟩
  dsimp only
  split_ifs
  · exact (quiet (uses_retainUnknown a r _)).bind fun _ => trivial
  · refine ((uses_settle a r x.2).mono fun _ => scoped_of_not_claims).andThen fun terminal => ?_
    refine (quiet (hafter x.2)).bind fun y => ?_
    rcases y with e | ⟨⟩ <;> trivial

theorem uses_submit {c : JournalCall} {r : Request py} {admission : Option Admission}
    {before : Program py (Except Failure Unit)} {after : Bytes → Program py (Except Failure Unit)}
    (hs : checkScope r.json c.adapter.context = .ok ()) (hbefore : before.Uses Quiet)
    (hafter : ∀ receipt, (after receipt).Uses Quiet) :
    (submitPrepared c.adapter r admission before after).Uses (Scoped c) := by
  refine ⟨⟨rfl, hs⟩, fun res => ?_⟩
  rcases res with e | ⟨row, created⟩
  · cases e <;> trivial
  cases created with
  | false => trivial
  | true =>
    refine (uses_dispatchClaimed hbefore hafter).bind fun x => ?_
    rcases x with e | y
    · exact ((uses_retainUnknown _ r _).mono fun e => Quiet.scoped (c := c) (e := e)).bind fun _ => trivial
    · trivial

theorem uses_scoped_prepared {α : Type} {c : JournalCall} {a : Adapter} {v : Json} {refused : α}
    {body : Request py → Program py α}
    (h : ∀ r, checkScope r.json a.context = .ok () → (body r).Uses (Scoped c)) :
    (prepared a v refused body).Uses (Scoped c) := by
  unfold prepared
  split
  · next r hr => exact h r (prepare_ok hr).2
  · trivial

theorem reads_readbackPackage (pins : Pins) (package : Bytes) :
    (readbackPackage pins package : Program py _).Uses ReadOnly := by
  unfold readbackPackage
  split
  · trivial
  · refine ⟨trivial, fun nonce => Prog.Uses.andThen ⟨trivial, fun _ => trivial⟩ fun x => ?_⟩
    dsimp only
    split_ifs <;> trivial

theorem reads_checkAll (pins : Pins) (packages : Originals) :
    (checkAll pins packages : Program py _).Uses ReadOnly := by
  induction packages with
  | nil => trivial
  | cons p rest ih => exact (reads_readbackPackage pins p.2).bind fun _ => ih.bind fun _ => trivial

theorem reads_checkCustody (c : CollectedAdapter) (r : Request py) : (checkCustody c r).Uses ReadOnly := by
  refine (reads_originals c r).bind fun x => ?_
  rcases x with e | packages
  · trivial
  · exact (reads_checkAll c.pins packages).bind fun _ => trivial

theorem uses_checkCustody (c : CollectedAdapter) (r : Request py) : (checkCustody c r).Uses Quiet :=
  (reads_checkCustody c r).mono fun _ => ReadOnly.quiet

theorem uses_authorized {c : JournalCall} {g : AuthorizedAdapter} {r : Request py} {evidence : Supplied}
    {before : Program py (Except Failure Unit)} {after : Bytes → Program py (Except Failure Unit)}
    (ha : c.adapter = g.adapter) (hs : checkScope r.json g.adapter.context = .ok ()) (hbefore : before.Uses Quiet)
    (hafter : ∀ receipt, (after receipt).Uses Quiet) :
    (submitAuthorizedPrepared g r evidence before after).Uses (Scoped c) := by
  refine Prog.Uses.bind (ha ▸ uses_submit (ha ▸ hs) hbefore hafter) fun x => ?_
  rcases x with e | y
  · cases e <;> trivial
  · exact ((uses_attachAdmission g r y).mono fun e => Quiet.scoped (c := c) (e := e)).bind fun _ => trivial

/-- Every call claims for its own adapter only. -/
theorem uses_body (c : JournalCall) : (c.body py).Uses (Scoped c) := by
  have quiet {α : Type} {p : Program py α} (hp : p.Uses Quiet) := hp.mono fun e => Quiet.scoped (c := c) (e := e)
  cases c with
  | readCustody c v => exact uses_scoped_prepared fun r _ => quiet ((uses_readCustody c r).bind fun _ => trivial)
  | checkCustody c v => exact uses_scoped_prepared fun r _ => quiet ((uses_checkCustody c r).bind fun _ => trivial)
  | payment p =>
    refine Prog.Uses.bind ?_ fun x => trivial
    by_cases hp : p.submits = false
    · exact (uses_of_not_submits hp).mono fun _ => scoped_of_not_claims
    cases p with
    | submit a v => exact uses_scoped_prepared fun r hs => uses_submit (c := .payment (.submit a v)) hs trivial fun _ => trivial
    | submitAuthorized g v evidence =>
      exact uses_scoped_prepared fun r hs => uses_authorized rfl hs trivial fun _ => trivial
    | submitCollected k v evidence =>
      refine uses_scoped_prepared fun r hs => Prog.Uses.andThen ?_ fun _ => trivial
      refine (uses_authorized rfl hs (uses_beforeDispatch k r) (uses_afterReceipt k r)).andThen fun x => ?_
      exact quiet ((uses_attachCustody k r x).bind fun _ => trivial)
    | _ => exact absurd rfl hp

theorem Call.Constructed.grows {s t : Services} {c : Call} (h : c.Constructed s) (hg : Grows s t) :
    c.Constructed t := by
  cases c <;> first | exact hg.adapters h | exact hg.authorized h | exact hg.collected h

theorem JournalCall.Constructed.grows {s t : Services} {c : JournalCall} (h : c.Constructed s) (hg : Grows s t) :
    c.Constructed t := by
  cases c with
  | payment c => exact Call.Constructed.grows h hg
  | readCustody | checkCustody => exact hg.collected h

/-- The adapter of a call was opened on the journal. -/
theorem JournalInv.adapter_mem {s : Services} (h : JournalInv py s) {c : JournalCall} (hc : c.Constructed s) :
    c.adapter ∈ s.adapters := by
  cases c with
  | payment c =>
    cases c <;> first
      | exact hc
      | exact h.authorized _ hc
      | exact h.authorized _ (h.collected _ hc).1
  | readCustody | checkCustody => exact h.authorized _ (h.collected _ hc).1

/-- The journal with the same metadata, the same objects, and rows that were there before. -/
theorem JournalInv.of_rows {s t : Services} (h : JournalInv py s) (ha : t.adapters = s.adapters)
    (hg : t.authorized = s.authorized) (hc : t.collected = s.collected)
    (hm : t.journal.metadata = s.journal.metadata)
    (hd : ∀ d ∈ t.journal.dispatches.rows, ∃ d' ∈ s.journal.dispatches.rows, d.identity = d'.identity) :
    JournalInv py t where
  adapters := by rw [ha]; exact h.adapters
  pinned := by rw [ha, hm]; exact h.pinned
  authorized := by rw [hg, ha]; exact h.authorized
  collected := by rw [hc, hg]; exact h.collected
  dispatch d hm' := by
    obtain ⟨d', hd', hi⟩ := hd d hm'
    rw [hi, ha]
    exact h.dispatch d' hd'

/-- Only an adapter that was opened claims, and only in its scope. -/
def Claimant (s : Services) : Effect py → Prop
  | .claim a r _ => a ∈ s.adapters ∧ checkScope r.json a.context = .ok ()
  | _ => True

theorem JournalInv.claimant {s : Services} (h : JournalInv py s) {c : JournalCall} (hc : c.Constructed s)
    {e : Effect py} (he : Scoped c e) : Claimant s e := by
  cases e with
  | claim a r admission =>
    obtain ⟨rfl, hscope⟩ := he
    exact ⟨h.adapter_mem hc, hscope⟩
  | _ => trivial

theorem inv_exposed {i : ℕ} {s t : Services} {e : Effect py} {res : e.Result} (h : JournalInv py s)
    (he : Claimant s e) (hx : exposed i s e t res) : JournalInv py t := by
  have same {u : Services} (ha : u.adapters = s.adapters) (hg : u.authorized = s.authorized)
      (hk : u.collected = s.collected) (hj : u.journal = s.journal) : JournalInv py u :=
    h.of_rows ha hg hk (by rw [hj]) fun d hd => ⟨d, hj ▸ hd, rfl⟩
  cases e with
  | claim a r admission =>
    obtain ⟨now, hook, j, hj, rfl⟩ := hx
    rcases ends_cases hj with ⟨rfl, -⟩ | ⟨⟨row, created⟩, htx, -⟩
    · exact same rfl rfl rfl rfl
    · obtain ⟨-, -, -, -, hm, hrows⟩ := grows_claim htx
      refine { h with pinned := by rw [hm]; exact h.pinned, dispatch := fun d hd => ?_ }
      rcases hrows d hd with hd | ⟨rfl, hid⟩
      · exact h.dispatch d hd
      · exact ⟨a, he.1, r, hid, he.2⟩
  | store a r status receipt =>
    obtain ⟨now, j, hj, rfl⟩ := hx
    rcases ends_cases hj with ⟨rfl, -⟩ | ⟨row, htx, -⟩
    · exact same rfl rfl rfl rfl
    · obtain ⟨d, -, -, ⟨o, -, -, -, rfl⟩ | ⟨-, -, -, hrows, hframe⟩⟩ := storeReceipt_ok htx
      · exact same rfl rfl rfl rfl
      · have hm : j.metadata = s.journal.metadata := by rw [hframe]
        refine h.of_rows rfl rfl rfl hm fun d hd => ?_
        change d ∈ j.dispatches.rows at hd
        rw [hrows] at hd
        obtain ⟨d', hd', rfl⟩ := List.mem_map.1 hd
        exact ⟨d', hd', observeRow_identity _ _ d'⟩
  | persist k r package observed stage =>
    obtain ⟨now, j, hj, rfl⟩ := hx
    rcases ends_cases hj with ⟨rfl, -⟩ | ⟨⟨⟩, htx, -⟩
    · exact same rfl rfl rfl rfl
    · obtain ⟨j', hp, he⟩ := map_ok htx
      obtain rfl : j' = j := congrArg Prod.snd he
      obtain ⟨_, _, _, -, -, -, -, -, -, -, hframe⟩ := persist_ok hp
      have hd : j'.dispatches = s.journal.dispatches := by rw [hframe]
      have hm : j'.metadata = s.journal.metadata := by rw [hframe]
      exact h.of_rows rfl rfl rfl hm fun d hm' => ⟨d, hd ▸ hm', rfl⟩
  | read | authorization | custody =>
    obtain ⟨rfl, -⟩ := hx
    exact h
  | answer | readback | hook | nonce =>
    obtain rfl : t = s := hx
    exact h
  | get | collect | post | refuse =>
    obtain rfl : t = _ := hx
    exact same rfl rfl rfl rfl

theorem inv_environment {s t : Services} (h : JournalInv py s) (he : Environment py s t) : JournalInv py t := by
  have same {u : Services} (ha : u.adapters = s.adapters) (hg : u.authorized = s.authorized)
      (hk : u.collected = s.collected) (hj : u.journal = s.journal) : JournalInv py u :=
    h.of_rows ha hg hk (by rw [hj]) fun d hd => ⟨d, hj ▸ hd, rfl⟩
  cases he with
  | @adapter _ _ _ _ _ _ _ _ a j made opened =>
    obtain ⟨hw, hscope⟩ := newAdapter_ok made
    obtain ⟨m, hm, hid, hold, hj⟩ := initializeJournal_ok opened
    have hd : j.dispatches = s.journal.dispatches := by rw [hj]
    refine
      { adapters := List.forall_mem_cons.2 ⟨⟨hw, hscope⟩, h.adapters⟩
        pinned := List.forall_mem_cons.2 ⟨⟨m, hm, hid⟩, fun b hb => ?_⟩
        authorized := fun g hg => List.mem_cons_of_mem _ (h.authorized g hg)
        collected := h.collected
        dispatch := fun d hd' => ?_ }
    · obtain ⟨old, hold', hid'⟩ := h.pinned b hb
      exact ⟨m, hm, by rw [hid', hold old hold']⟩
    · obtain ⟨b, hb, hrest⟩ := h.dispatch d (hd ▸ hd')
      exact ⟨b, List.mem_cons_of_mem _ hb, hrest⟩
  | authorized known made =>
    refine
      { h with
        authorized := List.forall_mem_cons.2 ⟨newAuthorizedAdapter_adapter made ▸ known, h.authorized⟩
        collected := fun c hc => ⟨List.mem_cons_of_mem _ (h.collected c hc).1, (h.collected c hc).2⟩ }
  | @collected _ _ _ _ _ _ _ _ c j known made opened =>
    have hj := initializeLocal_ok opened
    have hd : j.dispatches = s.journal.dispatches := by rw [hj]
    have hm : j.metadata = s.journal.metadata := by rw [hj]
    obtain ⟨rfl, hcontext⟩ := newCollectedAdapter_ok made
    exact
      { h with
        pinned := by rw [hm]; exact h.pinned
        collected := List.forall_mem_cons.2 ⟨⟨known, hcontext⟩, h.collected⟩
        dispatch := by rw [hd]; exact h.dispatch }
  | _ => exact same rfl rfl rfl rfl

theorem inv_empty : JournalInv py .initial where
  adapters _ h := by cases h
  pinned _ h := by cases h
  authorized _ h := by cases h
  collected _ h := by cases h
  dispatch _ h := by cases h

theorem journal_inv {w : JournalWorld py} (h : JournalReachable py w) :
    JournalInv py w.shared.services ∧ ∀ i c p, w.procs i = .live c p → c.Constructed w.shared.services := by
  refine inv_uses (I := fun s : Watched => JournalInv py s.services)
    (K := fun c (s : Watched) => JournalCall.Constructed s.services c) inv_empty uses_body (fun hc => hc)
    ?_ ?_ ?_ ?_ h
  · exact fun hI hc he hx => inv_exposed hI (hI.claimant hc he) hx.1
  · exact fun hI he => inv_environment hI he.1
  · exact fun hx c hc => hc.grows (grows_exposed hx.1)
  · exact fun he c hc => hc.grows (grows_environment he.1)

end Operations
end VapEvidence.Payment

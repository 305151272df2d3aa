import VapEvidence.CustodyPackages
import VapEvidence.JournalSafety

set_option autoImplicit false

/-!
# The history of custody

The operations that only look, reconcile or recover leave the prerequisites alone and
send nothing, and a prerequisite that was verified once is verified by every later read.
-/
namespace VapEvidence.Payment
open Json Authorization Custody Interleaving

section Looking
variable {py : Platform}

def JournalCall.submits : JournalCall → Bool
  | .payment c => c.submits
  | .readCustody .. | .checkCustody .. => false

def JournalCall.reconciles : JournalCall → Bool
  | .payment (.reconcile ..) | .payment (.reconcileAuthorized ..) | .payment (.reconcileCollected ..) => true
  | _ => false

/-- One claimed row becomes terminal, the rest of the dispatches stay as they are. -/
def Settles (rows rows' : List Dispatch) : Prop :=
  ∃ first d d' rest, rows = first ++ d :: rest ∧ rows' = first ++ d' :: rest ∧ d.state = "CLAIMED" ∧
    (d'.state = "SETTLED" ∨ d'.state = "FAILED") ∧ d'.identity = d.identity ∧ d'.claimedAt = d.claimedAt

/-- What a call that does not submit may do. -/
def Looks (c : JournalCall) : Effect py → Prop
  | .claim .. | .post .. | .refuse .. => False
  | .store a .. => c.reconciles = true ∧ a = c.adapter
  | .persist _ _ _ _ stage => stage ≠ "PRE_DISPATCH"
  | _ => True

theorem ReadOnly.looks {c : JournalCall} {e : Effect py} (h : ReadOnly e) : Looks c e := by
  cases e <;> first | exact h.elim | trivial

theorem looks_reads {α : Type} {p : Program py α} (c : JournalCall) (h : p.Uses ReadOnly) : p.Uses (Looks c) :=
  h.mono fun _ => ReadOnly.looks

theorem looks_collectAndPersist (c : CollectedAdapter) (r : Request py) (package : Bytes) {stage : String}
    (hs : stage ≠ "PRE_DISPATCH") (k : JournalCall) : (collectAndPersist c r package stage).Uses (Looks k) := by
  unfold collectAndPersist
  split
  · trivial
  · refine (looks_reads k (reads_collectAndCheck _ _)).andThen fun observed => ?_
    refine (looks_reads k (reads_faultPoint _ _)).andThen fun _ => ?_
    exact Prog.Uses.andThen ⟨hs, fun _ => trivial⟩ fun _ => looks_reads k (reads_faultPoint _ _)

theorem looks_recoverAll (c : CollectedAdapter) (r : Request py) (packages : Originals) (k : JournalCall) :
    (recoverAll c r packages).Uses (Looks k) := by
  induction packages with
  | nil => trivial
  | cons p rest ih =>
    refine (looks_collectAndPersist c r p.2 (by decide) k).bind fun outcome => ih.bind fun failures => ?_
    rcases outcome with e | ⟨⟩ <;> trivial

theorem looks_settle (a : Adapter) (r : Request py) (receipt : Bytes) {k : JournalCall}
    (hk : k.reconciles = true ∧ a = k.adapter) :
    (settleResponse a r receipt).Uses (Looks k) := by
  unfold settleResponse
  split
  · trivial
  · refine (looks_reads k (reads_faultPoint _ _)).andThen fun _ => ?_
    exact Prog.Uses.andThen ⟨hk, fun _ => trivial⟩ fun _ => trivial

theorem looks_reconcile (a : Adapter) (r : Request py) {k : JournalCall}
    (hk : k.reconciles = true ∧ a = k.adapter) :
    (reconcilePrepared a r).Uses (Looks k) := by
  have hretain (reason : String) := looks_reads k (reads_retainUnknown a r reason)
  refine ⟨trivial, fun res => ?_⟩
  rcases res with e | _ | d
  · trivial
  · trivial
  · change Prog.Uses _ (if (fromRow py a d).terminal then _ else _)
    split_ifs
    · trivial
    · refine ⟨trivial, fun _ => ⟨trivial, fun res => ?_⟩⟩
      rcases res with e | ⟨code, receipt⟩
      · exact hretain _
      · change Prog.Uses _ (if code ≠ 200 then _ else _)
        split_ifs
        · exact hretain _
        · refine (looks_settle a r receipt hk).bind fun x => ?_
          rcases x with e | y
          · exact hretain _
          · trivial

theorem looks_prepared {α : Type} {A : Effect py → Prop} {a : Adapter} {v : Json} {refused : α}
    {body : Request py → Program py α} (h : ∀ r, (body r).Uses A) : (prepared a v refused body).Uses A := by
  unfold prepared
  split
  · exact h _
  · trivial

theorem looks_body {c : JournalCall} (hc : c.submits = false) : (c.body py).Uses (Looks c) := by
  cases c with
  | readCustody c v => exact looks_prepared fun r => (looks_reads _ (reads_readCustody c r)).bind fun _ => trivial
  | checkCustody c v => exact looks_prepared fun r => (looks_reads _ (reads_checkCustody c r)).bind fun _ => trivial
  | payment p =>
    refine Prog.Uses.bind ?_ fun x => trivial
    cases p with
    | submit | submitAuthorized | submitCollected => cases hc
    | reconcile a v => exact looks_prepared fun r => (looks_reconcile a r ⟨rfl, rfl⟩).bind fun _ => trivial
    | readStatus a v => exact looks_prepared fun r => (looks_reads _ (reads_readStatus a r)).bind fun _ => trivial
    | reconcileAuthorized g v =>
      refine looks_prepared fun r => (looks_reconcile _ r ⟨rfl, rfl⟩).bind fun x => ?_
      exact (looks_reads _ (reads_attachAdmission g r x)).bind fun _ => trivial
    | readStatusAuthorized g v =>
      refine looks_prepared fun r => looks_reads _ ((reads_readStatus _ r).bind fun x => ?_)
      exact (reads_attachAdmission g r x).bind fun _ => trivial
    | reconcileCollected c v =>
      refine looks_prepared fun r => (looks_reconcile _ r ⟨rfl, rfl⟩).bind fun x => ?_
      refine (looks_reads _ (reads_attachAdmission _ r x)).bind fun y => ?_
      exact (looks_reads _ (reads_attachCustody c r y)).bind fun _ => trivial
    | readStatusCollected c v =>
      refine looks_prepared fun r => looks_reads _ ((reads_readStatus _ r).bind fun x => ?_)
      exact (reads_attachAdmission _ r x).bind fun y => (reads_attachCustody c r y).bind fun _ => trivial
    | recoverEvidence c v =>
      refine looks_prepared fun r => Prog.Uses.andThen ?_ fun _ => trivial
      refine (looks_reads _ (reads_originals c r)).andThen fun packages => ?_
      refine (looks_recoverAll c r packages _).bind fun _ => (looks_reads _ (reads_readStatus _ r)).bind fun x => ?_
      refine (looks_reads _ (reads_attachAdmission _ r x)).bind fun y => ?_
      exact (looks_reads _ (reads_attachCustody c r y)).bind fun _ => trivial

/-- Among rows of different keys, an update of one key's row changes that row only. -/
theorem map_observeRow {rows : List Dispatch} (hu : rows.Pairwise fun a b => ¬ a.identity.Clash b.identity)
    {d : Dispatch} (hd : d ∈ rows) (hnone : d.observed = none) (o : Observed) :
    ∃ first rest, rows = first ++ d :: rest ∧
      rows.map (observeRow d.identity.requestDigest o) = first ++ { d with observed := some o } :: rest := by
  obtain ⟨first, rest, rfl⟩ := List.append_of_mem hd
  obtain ⟨-, hright, hleft⟩ := List.pairwise_append.1 hu
  have hrest := (List.pairwise_cons.1 hright).1
  have other {b : Dispatch} (hb : b.identity.requestDigest ≠ d.identity.requestDigest) :
      observeRow d.identity.requestDigest o b = b := by
    rw [observeRow, if_neg (by simp [hb])]
  have hfirst : first.map (observeRow d.identity.requestDigest o) = first := by
    refine (List.map_congr_left fun b hb => ?_).trans (List.map_id _)
    exact other fun heq => hleft b hb d List.mem_cons_self (.inl heq)
  have hlast : rest.map (observeRow d.identity.requestDigest o) = rest := by
    refine (List.map_congr_left fun b hb => ?_).trans (List.map_id _)
    exact other fun heq => hrest b hb (.inl heq.symm)
  refine ⟨first, rest, rfl, ?_⟩
  rw [List.map_append, List.map_cons, hfirst, hlast, observeRow, if_pos (by simp [hnone])]

/-- What one step of a call that does not submit leaves of the journal. -/
theorem looks_exposed {i : ℕ} {s t : Services} {c : JournalCall} {e : Effect py} {res : e.Result} (h : JournalInv py s)
    (hc : c.Constructed s) (he : Looks c e) (hx : exposed i s e t res) :
    t.journal.prerequisites.rows = s.journal.prerequisites.rows ∧ t.sent = s.sent ∧
      (t.journal.dispatches.rows = s.journal.dispatches.rows ∨
        c.reconciles = true ∧ Settles s.journal.dispatches.rows t.journal.dispatches.rows) := by
  cases e with
  | claim => exact he.elim
  | post => exact he.elim
  | refuse => exact he.elim
  | store a r status receipt =>
    obtain ⟨now, j, hj, rfl⟩ := hx
    rcases ends_cases hj with ⟨rfl, -⟩ | ⟨row, htx, -⟩
    · exact ⟨rfl, rfl, .inl rfl⟩
    obtain ⟨d, hd, hraw, ⟨o, -, -, -, rfl⟩ | ⟨hnone, -, -, hrows, hframe⟩⟩ := storeReceipt_ok htx
    · exact ⟨rfl, rfl, .inl rfl⟩
    have hq : j.prerequisites = s.journal.prerequisites := by rw [hframe]
    refine ⟨by rw [hq], rfl, .inr ⟨he.1, ?_⟩⟩
    have hid := h.identity_eq (he.2 ▸ h.adapter_mem hc) hd hraw
    have hdig : d.identity.requestDigest = r.digest := by rw [hid]; rfl
    obtain ⟨first, rest, hsplit, hmap⟩ := map_observeRow s.journal.dispatches.unique hd hnone ⟨status, receipt, now⟩
    rw [hdig, ← hrows] at hmap
    refine ⟨first, d, _, rest, hsplit, hmap, ?_, ?_, rfl, rfl⟩
    · rw [Dispatch.state, hnone]
    · cases status with
      | settled => exact .inl rfl
      | failed => exact .inr rfl
  | persist k r package observed stage =>
    obtain ⟨now, j, hj, rfl⟩ := hx
    rcases ends_cases hj with ⟨rfl, -⟩ | ⟨⟨⟩, htx, -⟩
    · exact ⟨rfl, rfl, .inl rfl⟩
    obtain ⟨j', hp, hj'⟩ := map_ok htx
    obtain rfl : j' = j := congrArg Prod.snd hj'
    obtain ⟨_, _, _, -, -, -, -, -, -, hnot, hframe⟩ := persist_ok hp
    have hd : j'.dispatches = s.journal.dispatches := by rw [hframe]
    exact ⟨by rw [hnot he], rfl, .inl (by rw [hd])⟩
  | read | authorization | custody =>
    obtain ⟨rfl, -⟩ := hx
    exact ⟨rfl, rfl, .inl rfl⟩
  | answer | readback | hook | nonce =>
    obtain rfl : t = s := hx
    exact ⟨rfl, rfl, .inl rfl⟩
  | get | collect =>
    obtain rfl : t = _ := hx
    exact ⟨rfl, rfl, .inl rfl⟩

end Looking

section Marker
variable {py : Platform}

/-! ## An observation verifies again -/

/-- An accepted observation is accepted again by pins of the same identity and no earlier epoch, as long as
    the expected package of its kind is the same. -/
theorem verifiedLocal_again {pins pins' : Pins} {row : CustodyObservation} {expected expected' : Originals}
    {requestDigest : String} {accepted : LocalObservation} {kind : Kind} {package : Bytes}
    (h : @verifiedLocal py pins row expected requestDigest = .ok accepted)
    (hid : pinIdentity pins' = pinIdentity pins) (hepoch : pins.recoveryEpoch ≤ pins'.recoveryEpoch)
    (hkind : row.kind = kind.text) (he : expected.lookup kind = some package)
    (he' : expected'.lookup kind = some package) :
    @verifiedLocal py pins' row expected' requestDigest = .ok accepted := by
  have items (p : Pins) : (pinIdentity p).item "collector_id" = .str p.collectorId ∧
      (pinIdentity p).item "public_key" = .str (hex p.publicKey) := by
    constructor <;> exact item_of_get? (by simp [pinIdentity, get?_dict, lookup_cons_ite])
  obtain ⟨hc, hk⟩ := items pins
  obtain ⟨hc', hk'⟩ := items pins'
  rw [hid] at hc' hk'
  have hcollector : pins'.collectorId = pins.collectorId := Json.str.inj (hc'.symm.trans hc)
  have hkey : pins'.publicKey = pins.publicKey := hex_injective (Json.str.inj (hk'.symm.trans hk))
  obtain ⟨record, hrecord, h⟩ := bind_ok h
  obtain ⟨pinDigest, hpin, h⟩ := bind_ok h
  obtain ⟨_, hok, h⟩ := bind_ok h
  obtain ⟨original, horiginal, h⟩ := bind_ok h
  obtain ⟨_, hmatch, h⟩ := bind_ok h
  obtain ⟨response, hresponse, h⟩ := bind_ok h
  obtain ⟨checked, hchecked, h⟩ := bind_ok h
  have hok := require_ok.1 hok
  have hok' : @observationOk py pins' pinDigest row record requestDigest = true := by
    simp only [observationOk, Bool.and_eq_true, decide_eq_true_eq] at hok ⊢
    obtain ⟨⟨⟨hrest, hle⟩, hdig⟩, hat⟩ := hok
    exact ⟨⟨⟨hrest, hle.trans hepoch⟩, hdig⟩, hat⟩
  have hrecordKind : kindOf (record.item "kind") = some kind := by
    simp only [observationOk, Bool.and_eq_true, decide_eq_true_eq] at hok
    rw [hok.1.1.1.1.1.1.2, hkind, kindOf_text]
  have hmatch := require_ok.1 hmatch
  rw [hrecordKind, Option.any_some, he] at hmatch
  have hmatch' : (kindOf (record.item "kind")).any (fun kind => expected'.lookup kind = some original) = true := by
    rw [hrecordKind, Option.any_some, he']
    exact hmatch
  rw [← hid] at hpin
  rw [← hkey, ← hcollector] at hchecked
  simp only [verifiedLocal, hrecord, hpin, hok', horiginal, hmatch', hresponse, hchecked, require, if_true, bind,
    Except.bind]
  exact h

/-- What an accepted observation says of its row, and the package it was checked against. -/
theorem verifiedLocal_ok {pins : Pins} {row : CustodyObservation} {expected : Originals} {requestDigest : String}
    {accepted : LocalObservation} (h : @verifiedLocal py pins row expected requestDigest = .ok accepted) :
    accepted.row = row ∧ row.requestDigest = requestDigest ∧
      ∀ kind : Kind, row.kind = kind.text → ∃ package, expected.lookup kind = some package := by
  obtain ⟨record, -, h⟩ := bind_ok h
  obtain ⟨pinDigest, -, h⟩ := bind_ok h
  obtain ⟨_, hok, h⟩ := bind_ok h
  obtain ⟨original, -, h⟩ := bind_ok h
  obtain ⟨_, hmatch, h⟩ := bind_ok h
  obtain ⟨response, -, h⟩ := bind_ok h
  obtain ⟨checked, -, h⟩ := bind_ok h
  have hok := require_ok.1 hok
  simp only [observationOk, Bool.and_eq_true, decide_eq_true_eq] at hok
  have hmatch := require_ok.1 hmatch
  have hrow : accepted.row = row := by
    cases hack : checked.ackBytes with
    | none =>
      rw [hack] at h
      cases h
    | some ack =>
      rw [hack] at h
      cases h
      rfl
  refine ⟨hrow, hok.1.1.1.1.1.1.1.2, fun kind hkind => ⟨original, ?_⟩⟩
  rw [hok.1.1.1.1.1.1.2, hkind, kindOf_text, Option.any_some] at hmatch
  exact of_decide_eq_true hmatch

/-! ## The packages of what is retained -/

def admissionPackages (r : Request py) (proof : Reading) : Except String Originals :=
  match proof.status, proof.recordBytes with
  | .found, some record => (makePackage r .admissionRecord record).map fun package =>
      [(Kind.admissionRecord, package)]
  | _, _ => .ok []

def receiptPackages (r : Request py) (first : Originals) (financial : Result) : Except Failure Originals :=
  match financial.terminal, financial.receipt with
  | true, some receipt =>
    match makePackage r .providerReceipt receipt with
    | .ok package => .ok (first ++ [(Kind.providerReceipt, package)])
    | .error text => .error (.value text)
  | _, _ => .ok first

theorem originals_eq (c : CollectedAdapter) (r : Request py) : originals c r =
    .eff (.authorization c.authorized r) fun proof => match admissionPackages r proof with
      | .error text => .ret (.error (.value text))
      | .ok first => readStatusPrepared c.authorized.adapter r >>= fun financial =>
          .ret (receiptPackages r first financial) := by
  refine congrArg (Prog.eff (Effect.authorization c.authorized r)) (funext fun proof => ?_)
  change (match admissionPackages r proof with
    | .error text => _
    | .ok first => _) = _
  cases admissionPackages r proof with
  | error text => rfl
  | ok first =>
    refine congrArg (readStatusPrepared c.authorized.adapter r >>= ·) (funext fun financial => ?_)
    unfold receiptPackages
    generalize financial.terminal = terminal
    generalize financial.receipt = retained
    cases terminal with
    | false => rfl
    | true =>
      cases retained with
      | none => rfl
      | some receipt =>
        dsimp only
        cases makePackage r .providerReceipt receipt <;> rfl

theorem lookup_receipt {first : Originals} {package : Bytes} :
    (first ++ [(Kind.providerReceipt, package)]).lookup .admissionRecord = first.lookup .admissionRecord := by
  induction first with
  | nil => rfl
  | cons p first ih =>
    obtain ⟨kind, raw⟩ := p
    cases kind with
    | admissionRecord => rfl
    | providerReceipt => exact ih

theorem receiptPackages_lookup {r : Request py} {first expected : Originals} {financial : Result}
    (h : receiptPackages r first financial = .ok expected) :
    expected.lookup .admissionRecord = first.lookup .admissionRecord := by
  unfold receiptPackages at h
  split at h
  · split at h
    · cases h
      exact lookup_receipt
    · cases h
  · cases h
    rfl

theorem admissionPackages_lookup {r : Request py} {proof : Reading} {first : Originals} {package : Bytes}
    (h : admissionPackages r proof = .ok first) (hl : first.lookup .admissionRecord = some package) :
    ∃ record, proof.status = .found ∧ proof.recordBytes = some record ∧
      makePackage r .admissionRecord record = .ok package := by
  unfold admissionPackages at h
  split at h
  · next record hs hr =>
    obtain ⟨made, hmade, he⟩ := map_ok h
    obtain rfl := he
    obtain rfl : made = package := Option.some.inj hl
    exact ⟨record, hs, hr, hmade⟩
  · cases h
    cases hl

theorem receiptPackages_open {r : Request py} {first : Originals} {financial : Result}
    (h : financial.terminal = false) : receiptPackages r first financial = .ok first := by
  simp only [receiptPackages, h]

/-- A receipt that a row shows is packed. -/
theorem receiptPackages_ok (hpy : py.Standard) {a : Adapter} {r : Request py} {row : Dispatch}
    (hraw : row.identity.requestBytes = r.raw) (first : Originals) :
    ∃ expected, receiptPackages r first (fromRow py a row) = .ok expected := by
  unfold receiptPackages
  split
  · next receipt hterminal hreceipt =>
    have hmade : ∃ package, makePackage r .providerReceipt receipt = .ok package := by
      unfold fromRow at hterminal hreceipt
      split at hreceipt
      · cases hreceipt
      · next o ho =>
        split at hreceipt
        · next payload hv =>
          split_ifs at hreceipt
          · cases hreceipt
            rw [hraw] at hv
            obtain ⟨body, hbody, henv, rfl, hpay, -, hdig, hreq, -⟩ := verifyReceipt_ok hv
            obtain ⟨-, hcanonical, -⟩ := envelopeOk_iff.1 henv
            have hlen := (canonicalJson_ok py runtimeBounds hcanonical).2.2
            have hpos := canonicalJson_pos py runtimeBounds (loadJson_wf py _ hbody) hcanonical
            simp only [payloadOk, Bool.and_eq_true, decide_eq_true_eq] at hpay
            obtain ⟨⟨⟨hfields, hschema⟩, -⟩, -⟩ := hpay
            have hdict : (body.item "payload").isDict = true := by
              obtain ⟨ms, hms, -⟩ := hasFields_obj hfields
              rw [hms]
              rfl
            refine makePackage_eq hpy hpos hlen hbody ?_
            simp only [evidenceBinding, hdict, hschema, hdig, hreq, Request.digest, Kind.text, require, decide_true,
              Bool.and_self, if_true, bind, Except.bind]
            rw [if_neg (by decide)]
          · cases hreceipt
        · cases hreceipt
    obtain ⟨package, hp⟩ := hmade
    rw [hp]
    exact ⟨_, rfl⟩
  · exact ⟨_, rfl⟩

/-! ## What a read answers -/

variable {X : (e : Effect py) → e.Result → Prop}

/-- The packages a read compares with: the admission record's was made of a record found in the journal. -/
theorem originals_found {c : CollectedAdapter} {r : Request py} {expected : Originals} {package : Bytes}
    (h : (originals c r).Answered X (.ok expected)) (he : expected.lookup .admissionRecord = some package) :
    ∃ proof record, X (.authorization c.authorized r) proof ∧ proof.status = .found ∧
      proof.recordBytes = some record ∧ makePackage r .admissionRecord record = .ok package := by
  rw [originals_eq] at h
  obtain ⟨proof, hproof, h⟩ := Prog.Answered.of_eff h
  cases hfirst : admissionPackages r proof with
  | error text =>
    rw [hfirst] at h
    cases Prog.Answered.of_ret h
  | ok first =>
    rw [hfirst] at h
    obtain ⟨financial, -, h⟩ := Prog.Answered.of_bind h
    have hmade := Prog.Answered.of_ret h
    obtain ⟨record, hs, hr, hp⟩ := admissionPackages_lookup hfirst (receiptPackages_lookup hmade.symm ▸ he)
    exact ⟨proof, record, hproof, hs, hr, hp⟩

/-- Where the admission record is found and the row is the request's own, the packages are made. -/
theorem originals_made (hpy : py.Standard) {c : CollectedAdapter} {r : Request py} {record package : Bytes}
    {res : Except Failure Originals} (h : (originals c r).Answered X res)
    (hauth : ∀ proof, X (.authorization c.authorized r) proof → proof.status = .found ∧ proof.recordBytes = some record)
    (hread : ∀ row, X (.read c.authorized.adapter r) (.ok (some row)) → row.identity.requestBytes = r.raw)
    (hmade : makePackage r .admissionRecord record = .ok package) :
    ∃ expected, res = .ok expected ∧ expected.lookup .admissionRecord = some package := by
  rw [originals_eq] at h
  obtain ⟨proof, hproof, h⟩ := Prog.Answered.of_eff h
  obtain ⟨hs, hr⟩ := hauth proof hproof
  have hfirst : admissionPackages r proof = .ok [(.admissionRecord, package)] := by
    simp only [admissionPackages, hs, hr, hmade]
    rfl
  rw [hfirst] at h
  obtain ⟨financial, hfinancial, h⟩ := Prog.Answered.of_bind h
  obtain rfl := Prog.Answered.of_ret h
  have hpacked : ∃ expected, receiptPackages r [(Kind.admissionRecord, package)] financial = .ok expected := by
    obtain ⟨answer, hanswer, hfinancial⟩ := Prog.Answered.of_eff hfinancial
    rcases answer with e | _ | row
    · obtain rfl := Prog.Answered.of_ret hfinancial
      exact ⟨_, receiptPackages_open (notTerminal_unreadable r _ e _ rfl)⟩
    · obtain rfl := Prog.Answered.of_ret hfinancial
      exact ⟨_, rfl⟩
    · obtain rfl := Prog.Answered.of_ret hfinancial
      exact receiptPackages_ok hpy (hread row hanswer) _
  obtain ⟨expected, hexpected⟩ := hpacked
  refine ⟨expected, hexpected, ?_⟩
  rw [receiptPackages_lookup hexpected]
  rfl

/-- The prerequisite that a read reports, from the rows it got. -/
def preDispatchOf (accepted : List LocalObservation) : Option String → PreDispatch
  | none => .notRecorded
  | some marker =>
    if accepted.any fun o => o.row.observationDigest = marker &&
        o.row.kind = Kind.admissionRecord.text && o.row.stage = "PRE_DISPATCH"
    then .verifiedPrerequisite marker else .unknown

/-- A read that got its rows reports the prerequisite they show, and otherwise none. -/
theorem readCustody_answered {c : CollectedAdapter} {r : Request py} {y : CustodyReading}
    (h : (readCustody c r).Answered X y) :
    ∃ res, (originals c r).Answered X res ∧ ((∃ e, res = .error e ∧ y = .empty) ∨ ∃ expected, res = .ok expected ∧
      ∃ answer, X (.custody r.digest) answer ∧ ((∃ e, answer = .error e ∧ y = .empty) ∨ ∃ rows, answer = .ok rows ∧
        y.preDispatch = preDispatchOf (@acceptedRows py c.pins expected r.digest (custodyRows rows)) rows.marker)) := by
  obtain ⟨res, hres, h⟩ := Prog.Answered.of_bind h
  refine ⟨res, hres, ?_⟩
  rcases res with e | expected
  · exact .inl ⟨e, rfl, Prog.Answered.of_ret h⟩
  obtain ⟨answer, hanswer, h⟩ := Prog.Answered.of_eff h
  refine .inr ⟨expected, rfl, answer, hanswer, ?_⟩
  rcases answer with e | rows
  · exact .inl ⟨e, rfl, Prog.Answered.of_ret h⟩
  · obtain rfl := Prog.Answered.of_ret h
    exact .inr ⟨rows, rfl, rfl⟩

theorem preDispatchOf_verified {accepted : List LocalObservation} {marker : Option String} {m : String} :
    preDispatchOf accepted marker = .verifiedPrerequisite m ↔ marker = some m ∧ ∃ o ∈ accepted,
      o.row.observationDigest = m ∧ o.row.kind = Kind.admissionRecord.text ∧ o.row.stage = "PRE_DISPATCH" := by
  cases marker with
  | none => simp [preDispatchOf]
  | some marker =>
    simp only [preDispatchOf, Option.some.injEq]
    split_ifs with hany
    · obtain ⟨o, ho, hall⟩ := List.any_eq_true.1 hany
      simp only [Bool.and_eq_true, decide_eq_true_eq] at hall
      constructor
      · rintro ⟨⟩
        exact ⟨rfl, o, ho, hall.1.1, hall.1.2, hall.2⟩
      · rintro ⟨rfl, -⟩
        rfl
    · refine ⟨fun h => (by cases h), ?_⟩
      rintro ⟨rfl, o, ho, hd, hk, hs⟩
      refine absurd (List.any_eq_true.2 ⟨o, ho, ?_⟩) hany
      simp only [hd, hk, hs, decide_true, Bool.and_self]

theorem mem_custodyRows {x : CustodyRows} {row : CustodyObservation} (h : row ∈ custodyRows x) : row ∈ x.rows := by
  have hnewest (h : row ∈ x.rows.reverse.take 128) : row ∈ x.rows := List.mem_reverse.1 (List.mem_of_mem_take h)
  unfold custodyRows at h
  split at h
  · exact hnewest h
  · dsimp only at h
    split_ifs at h
    · rcases List.mem_append.1 h with h | h
      · exact hnewest h
      · exact (List.mem_filter.1 h).1
    · exact hnewest h

/-- The marked observation is among the rows that are looked at, however many came after it. -/
theorem marked_row {x : CustodyRows} {m : String} (hm : x.marker = some m) {row : CustodyObservation}
    (hrow : row ∈ x.rows) (hd : row.observationDigest = m)
    (hu : ∀ a ∈ x.rows, ∀ b ∈ x.rows, a.observationDigest = b.observationDigest → a = b) : row ∈ custodyRows x := by
  simp only [custodyRows, hm]
  split_ifs with hall
  · exact List.mem_append_right _ (List.mem_filter.2 ⟨hrow, by simp [hd]⟩)
  · simp only [List.all_eq_true, not_forall] at hall
    obtain ⟨other, hother, hne⟩ := hall
    simp only [ne_eq, decide_not, Bool.not_eq_true', decide_eq_false_iff_not, not_not] at hne
    have hmem := List.mem_reverse.1 (List.mem_of_mem_take hother)
    rw [hu row hrow other hmem (hd.trans hne.symm)]
    exact hother

/-! ## What a verified prerequisite rests on -/

/-- The rows behind a verified prerequisite, each of which stays in the journal. -/
structure Marked (py : Platform) (pins : Pins) (r : Request py) (marker : String) (j : Journal) where
  claim : Dispatch
  proof : ProofRow
  prerequisite : CustodyPrerequisite
  row : CustodyObservation
  record : Bytes
  package : Bytes
  expected : Originals
  accepted : LocalObservation
  claim_mem : claim ∈ j.dispatches.rows
  claim_request : claim.identity.requestBytes = r.raw
  proof_mem : proof ∈ j.proofs.rows
  proof_request : proof.requestDigest = r.digest
  found : (readingOf r claim proof).status = .found ∧ (readingOf r claim proof).recordBytes = some record
  made : makePackage r .admissionRecord record = .ok package
  prerequisite_mem : prerequisite ∈ j.prerequisites.rows
  prerequisite_request : prerequisite.requestDigest = r.digest
  prerequisite_marker : prerequisite.observationDigest = marker
  row_mem : row ∈ j.observations.rows
  row_request : row.requestDigest = r.digest
  row_marker : row.observationDigest = marker
  row_kind : row.kind = Kind.admissionRecord.text
  row_stage : row.stage = "PRE_DISPATCH"
  lookup : expected.lookup .admissionRecord = some package
  verifies : @Custody.verifiedLocal py pins row expected r.digest = .ok accepted

/-- Only the claim's row may have changed, and its reading depends on when it was claimed. -/
theorem Marked.grows {pins : Pins} {r : Request py} {marker : String} {s t : Services}
    (x : Marked py pins r marker s.journal) (hg : Grows s t) : ∃ y : Marked py pins r marker t.journal,
      y.record = x.record ∧ y.row = x.row ∧ y.prerequisite = x.prerequisite := by
  obtain ⟨d, hd, hid, hat, -⟩ := hg.dispatches _ x.claim_mem
  have hsame : readingOf r d x.proof = readingOf r x.claim x.proof := by
    unfold readingOf
    rw [hat]
  exact
    ⟨{ x with
      claim := d
      claim_mem := hd
      claim_request := by rw [hid, x.claim_request]
      proof_mem := hg.proofs x.proof_mem
      found := hsame ▸ x.found
      prerequisite_mem := hg.prerequisites x.prerequisite_mem
      row_mem := hg.observations x.row_mem }, rfl, rfl, rfl⟩

/-! ## Over a run -/

theorem readAuthorization_rows {g : AuthorizedAdapter} {r : Request py} {j : Journal}
    (h : (readAuthorization g r j).status = .found) :
    ∃ claim ∈ j.dispatches.rows, claim.identity.requestBytes = r.raw ∧
      ∃ proof ∈ j.proofs.rows, proof.requestDigest = r.digest ∧ readAuthorization g r j = readingOf r claim proof := by
  unfold readAuthorization at h ⊢
  cases hfind : find Dispatch.identity j.dispatches.rows g.adapter.scope r with
  | error e =>
    rw [hfind] at h
    cases h
  | ok claim =>
    cases claim with
    | none =>
      rw [hfind] at h
      cases h
    | some claim =>
      rw [hfind] at h
      obtain ⟨hm, -, -, -, hraw⟩ := find_some hfind
      cases hproof : j.proofs.rows.find? fun p => p.requestDigest = r.digest with
      | none =>
        rw [hproof] at h
        cases h
      | some proof =>
        exact ⟨claim, hm, hraw, proof, List.mem_of_find?_eq_some hproof, by simpa using List.find?_some hproof, rfl⟩

theorem JournalInv.authorization_eq {s : Services} (h : JournalInv py s) {g : AuthorizedAdapter}
    (hg : g.adapter ∈ s.adapters) {r : Request py} {claim : Dispatch} {proof : ProofRow}
    (hc : claim ∈ s.journal.dispatches.rows) (hraw : claim.identity.requestBytes = r.raw)
    (hp : proof ∈ s.journal.proofs.rows) (hdig : proof.requestDigest = r.digest) :
    readAuthorization g r s.journal = readingOf r claim proof := by
  have hproof : s.journal.proofs.rows.find? (fun p => p.requestDigest = r.digest) = some proof :=
    s.journal.proofs.find?_eq (fun _ _ h => h.symm) hp (decide_eq_true hdig) fun b hb => by
      rw [of_decide_eq_true hb, hdig]
  rw [readAuthorization, h.find_eq hg hc hraw]
  dsimp only
  rw [hproof]

theorem readCustody_body {c : CollectedAdapter} {v : Value} {x : Except Failure Outcome}
    (h : ((JournalCall.readCustody c v).body py).Answered X x) :
    (∃ e, prepare py c.authorized.adapter v.json = .error e ∧ x = .ok (.custody .empty)) ∨
      ∃ r y, prepare py c.authorized.adapter v.json = .ok r ∧ x = .ok (.custody y) ∧ (readCustody c r).Answered X y := by
  change (prepared _ _ _ _).Answered X x at h
  unfold prepared at h
  cases hp : prepare py c.authorized.adapter v.json with
  | error e =>
    rw [hp] at h
    exact .inl ⟨e, rfl, Prog.Answered.of_ret h⟩
  | ok r =>
    rw [hp] at h
    obtain ⟨y, hy, h⟩ := Prog.Answered.of_bind h
    exact .inr ⟨r, y, rfl, Prog.Answered.of_ret h, hy⟩

/-- A prerequisite that a read verified rests on rows of the journal. -/
theorem marked_of_read {w : JournalWorld py} (h : JournalReachable py w) {i : ℕ} {c : CollectedAdapter} {v : Value}
    {y : CustodyReading} {m : String} (hi : w.procs i = .live (.readCustody c v) (.ret (.ok (.custody y))))
    (hy : y.preDispatch = .verifiedPrerequisite m) :
    ∃ r, prepare py c.authorized.adapter v.json = .ok r ∧
      Nonempty (Marked py c.pins r m w.shared.services.journal) := by
  have refused (hempty : y = .empty) : False := by
    rw [hempty] at hy
    cases hy
  have hbody : ((JournalCall.readCustody c v).body py).Answered _ _ := finishes_run h hi
  rcases readCustody_body hbody with ⟨e, -, hx⟩ | ⟨r, y', hprep, hx, hread⟩
  · cases hx
    exact (refused rfl).elim
  cases hx
  refine ⟨r, hprep, ?_⟩
  obtain ⟨res, horiginals, ⟨e, -, he⟩ | ⟨expected, rfl, answer, hanswer, ⟨e, -, he⟩ | ⟨rows, rfl, hpre⟩⟩⟩ :=
    readCustody_answered hread
  · exact (refused he).elim
  · exact (refused he).elim
  obtain ⟨hmarker, accepted, haccepted, hd, hk, hs⟩ := preDispatchOf_verified.1 (hpre.symm.trans hy)
  obtain ⟨row, hrow, hverified⟩ := List.mem_filterMap.1 haccepted
  have hverifies : @verifiedLocal py c.pins row expected r.digest = .ok accepted := by
    cases hv : @verifiedLocal py c.pins row expected r.digest with
    | error e =>
      rw [hv] at hverified
      cases hverified
    | ok o =>
      rw [hv] at hverified
      cases hverified
      rfl
  obtain ⟨rfl, hdigest, hlookup⟩ := verifiedLocal_ok hverifies
  obtain ⟨package, hpackage⟩ := hlookup .admissionRecord hk
  obtain ⟨reading, record, hauth, hfound, hrecord, hmade⟩ := originals_found horiginals hpackage
  obtain ⟨v₁, _, -, hv₁, hv₁', -, ⟨-, hauth | hauth⟩, -⟩ := hauth
  swap
  · rw [hauth] at hfound
    cases hfound
  obtain ⟨v₂, _, -, hv₂, hv₂', -, ⟨-, hcustody⟩, -⟩ := hanswer
  rcases hcustody with ⟨_, he⟩ | he
  · cases he
  cases he
  have hg₁ := journal_grows (hv₁.trans hv₁')
  have hg₂ := journal_grows (hv₂.trans hv₂')
  rw [hauth] at hfound hrecord
  obtain ⟨claim, hclaim, hraw, proof, hproof, hrequest, hreading⟩ := readAuthorization_rows hfound
  rw [hreading] at hfound hrecord
  obtain ⟨p, hp, hpm⟩ := Option.map_eq_some_iff.1 hmarker
  obtain ⟨hobserved, -⟩ := List.mem_filter.1 (mem_custodyRows hrow)
  obtain ⟨claim', hclaim', hid, hat, -⟩ := hg₁.dispatches claim hclaim
  have hsame : readingOf r claim' proof = readingOf r claim proof := by
    unfold readingOf
    rw [hat]
  exact
    ⟨{ claim := claim'
       proof
       prerequisite := p
       row := accepted.row
       record
       package
       expected
       accepted
       claim_mem := hclaim'
       claim_request := by rw [hid, hraw]
       proof_mem := hg₁.proofs hproof
       proof_request := hrequest
       found := hsame ▸ ⟨hfound, hrecord⟩
       made := hmade
       prerequisite_mem := hg₂.prerequisites (List.mem_of_find?_eq_some hp)
       prerequisite_request := by simpa using List.find?_some hp
       prerequisite_marker := hpm
       row_mem := hg₂.observations hobserved
       row_request := hdigest
       row_marker := hd
       row_kind := hk
       row_stage := hs
       lookup := hpackage
       verifies := hverifies }⟩

/-- Rows that verify a prerequisite verify it in every read of a later state. -/
theorem read_of_marked (hpy : py.Standard) {w w' : JournalWorld py} (h : JournalReachable py w)
    (hr : JournalRun py w w') {pins : Pins} {r : Request py} {m : String}
    (hm : Nonempty (Marked py pins r m w.shared.services.journal)) {j : ℕ} {c : CollectedAdapter} {v : Value}
    {x : Except Failure Outcome} (hidle : w.procs j = .idle) (hj : w'.procs j = .live (.readCustody c v) (.ret x))
    (hid : pinIdentity c.pins = pinIdentity pins) (hepoch : pins.recoveryEpoch ≤ c.pins.recoveryEpoch)
    (hprep : prepare py c.authorized.adapter v.json = .ok r) (hread : j ∉ w'.shared.unread) :
    ∃ y, x = .ok (.custody y) ∧ y.preDispatch = .verifiedPrerequisite m := by
  have hbody := finishes_run hr hj
  rw [hidle] at hbody
  rcases readCustody_body hbody with ⟨e, he, -⟩ | ⟨r', y, hr', rfl, hanswered⟩
  · rw [hprep] at he
    cases he
  obtain rfl := Except.ok.inj (hr'.symm.trans hprep)
  refine ⟨y, rfl, ?_⟩
  obtain ⟨mark⟩ := hm
  have at_ {e : Effect py} {res : e.Result} (hp : Performed (journalSystem py) (fun s c => c.Constructed s.services)
      (JournalCall.body py) w w' j (.readCustody c v) e res) : ∃ s t : Services, JournalInv py s ∧
        c.authorized.adapter ∈ s.adapters ∧ exposed j s e t res ∧ Readable s e res ∧
          ∃ mark' : Marked py pins r' m s.journal, mark'.record = mark.record ∧ mark'.row = mark.row ∧
            mark'.prerequisite = mark.prerequisite := by
    obtain ⟨u, u', hu, ⟨k, hk⟩, hx, hok⟩ := performed_readable hp hread
    have hinv := journal_inv (h.trans hu)
    exact ⟨_, _, hinv.1, hinv.1.adapter_mem (hinv.2 j _ _ hk), hx, hok, mark.grows (journal_grows hu)⟩
  have hauth (proof : Reading) (hp : Performed (journalSystem py) (fun s c => c.Constructed s.services)
      (JournalCall.body py) w w' j (.readCustody c v) (.authorization c.authorized r') proof) :
      proof.status = .found ∧ proof.recordBytes = some mark.record := by
    obtain ⟨s, t, hinv, ha, -, hok, mark', hrecord, -⟩ := at_ hp
    obtain rfl : proof = readAuthorization c.authorized r' s.journal := hok
    rw [hinv.authorization_eq ha mark'.claim_mem mark'.claim_request mark'.proof_mem mark'.proof_request, ← hrecord]
    exact mark'.found
  obtain ⟨res, horiginals, hres⟩ := readCustody_answered hanswered
  obtain ⟨expected, rfl, hlookup⟩ := originals_made hpy horiginals hauth (fun row hp => by
    obtain ⟨s, t, -, -, hx, -⟩ := at_ hp
    exact (exec_read (i := j) hx).2.2) mark.made
  rcases hres with ⟨e, he, -⟩ | ⟨_, he, answer, hanswer, hrows⟩
  · cases he
  cases he
  obtain ⟨s, t, -, -, hx, hok, mark', -, hrow, hprerequisite⟩ := at_ hanswer
  rcases hrows with ⟨e, rfl, -⟩ | ⟨rows, rfl, hpre⟩
  · exact absurd rfl (hok e)
  obtain ⟨-, ⟨_, he⟩ | he⟩ := hx
  · cases he
  cases he
  have hmarker : (s.journal.prerequisites.rows.find? fun p => p.requestDigest = r'.digest).map
      CustodyPrerequisite.observationDigest = some m := by
    rw [s.journal.prerequisites.find?_eq (fun _ _ h => h.symm) (hprerequisite ▸ mark'.prerequisite_mem)
      (decide_eq_true mark.prerequisite_request) fun b hb => by rw [of_decide_eq_true hb, mark.prerequisite_request]]
    exact congrArg some mark.prerequisite_marker
  have hmem : mark.row ∈ s.journal.observations.rows.filter fun o => o.requestDigest = r'.digest :=
    List.mem_filter.2 ⟨hrow ▸ mark'.row_mem, decide_eq_true mark.row_request⟩
  have hlooked := marked_row (x := ⟨_, _⟩) hmarker hmem mark.row_marker fun a ha b hb hd =>
    s.journal.observations.eq_of_clash (fun _ _ h => h.symm) (List.mem_filter.1 ha).1 (List.mem_filter.1 hb).1 hd
  have hverifies := verifiedLocal_again mark.verifies hid hepoch mark.row_kind mark.lookup hlookup
  have haccepted : mark.accepted ∈ @acceptedRows py c.pins expected r'.digest (custodyRows ⟨_, _⟩) :=
    List.mem_filterMap.2 ⟨mark.row, hlooked, by rw [hverifies]; rfl⟩
  have hsame := (verifiedLocal_ok mark.verifies).1
  rw [hpre]
  exact preDispatchOf_verified.2 ⟨hmarker, mark.accepted, haccepted, by rw [hsame, mark.row_marker],
    by rw [hsame, mark.row_kind], by rw [hsame, mark.row_stage]⟩

end Marker

theorem samplePlatform_standard : samplePlatform.Standard where
  ascii _ _ := rfl
  digest _ := rfl
  signature _ _ := rfl

/-- From any state `read_status` on an opened adapter comes to its read. -/
theorem readStatus_first {py : Platform} {a : Adapter} {v : Value} {r : Request py} (hr : prepare py a v.json = .ok r)
    {s : Watched} (hs : JournalReachable py ⟨s, fun _ => .idle⟩) (ha : a ∈ s.services.adapters) :
    ∃ w k, JournalReachable py w ∧ w.procs 0 = .live (.payment (.readStatus a v)) (.eff (.read a r) k) ∧
      (journalSystem py).exec 0 w.shared (.read a r) s (readDispatch a r s.services.journal) := by
  let c : JournalCall := .payment (.readStatus a v)
  have hbody : ∃ k, c.body py = .eff (.read a r) k := by
    simp only [c, JournalCall.body, Call.body, prepared, hr]
    exact ⟨_, rfl⟩
  obtain ⟨k, hk⟩ := hbody
  refine ⟨⟨s, Function.update (fun _ => .idle) 0 (.live c (c.body py))⟩, k, ?_, ?_, ⟨rfl, .inl rfl⟩, .inl ⟨rfl, rfl⟩⟩
  · exact hs.trans (.single (.spawn 0 c rfl ha))
  · rw [← hk]
    change Function.update (fun _ => Proc.idle) 0 (.live c (c.body py)) 0 = .live c (c.body py)
    exact Function.update_self 0 _ _

end VapEvidence.Payment

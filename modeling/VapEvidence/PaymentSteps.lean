import VapEvidence.PaymentInvariant

set_option autoImplicit false

/-!
# Every step keeps the payment invariant

One lemma for each effect of a call and one for the environment.
-/
namespace VapEvidence.Payment
open Json Authorization Custody Interleaving

section Steps
variable {py : Platform} {mode : Mode}

/-- A step of call `i` keeps the invariant and what the other calls rely on. -/
def Kept (py : Platform) (mode : Mode) (i : ℕ) (s t : Services) : Prop :=
  Inv py mode t ∧ Grows s t ∧ ∀ j, j ≠ i → Own j s t

theorem Inv.proof_grows {s t : Services} (h : Inv py mode s) (hg : Grows s t)
    (hd : t.journal.dispatches = s.journal.dispatches) :
    mode ≠ .any → ∀ d ∈ t.journal.dispatches.rows, ∃ p ∈ t.journal.proofs.rows, Admitted py t d p := by
  intro hm d hd'
  obtain ⟨p, hp, ha⟩ := h.proof hm d (hd ▸ hd')
  exact ⟨p, hg.proofs hp, ha.grows hg⟩

theorem Inv.custody_grows {s t : Services} (h : Inv py mode s) (hg : Grows s t) (hs : t.sent = s.sent) :
    mode = .held → ∀ m ∈ t.sent, Nonempty (Custodied py t m.2) := by
  intro hm m hm'
  obtain ⟨c⟩ := h.custody hm m (hs ▸ hm')
  exact ⟨c.grows hg⟩

/-- A journal that only gains custody rows. -/
theorem kept_journal {i : ℕ} {s : Services} (h : Inv py mode s) {j : Journal}
    (hj : j = { s.journal with observations := j.observations, prerequisites := j.prerequisites })
    (ho : s.journal.observations.rows ⊆ j.observations.rows)
    (hp : s.journal.prerequisites.rows ⊆ j.prerequisites.rows) :
    Kept py mode i s { s with journal := j } := by
  have hm : j.metadata = s.journal.metadata := by rw [hj]
  have hd : j.dispatches = s.journal.dispatches := by rw [hj]
  have hpr : j.proofs = s.journal.proofs := by rw [hj]
  have hg : Grows s { s with journal := j } :=
    { Grows.refl s with
      dispatches := fun d hd' => ⟨d, hd ▸ hd', rfl, rfl, fun _ h => h⟩
      proofs := hpr ▸ List.Subset.refl _
      observations := ho
      prerequisites := hp }
  refine ⟨?_, hg, fun k _ => ⟨fun _ h => h, fun _ h => h, fun _ h => h, id⟩⟩
  exact
    { adapters := h.adapters
      pinned := by rw [hm]; exact h.pinned
      authorized := h.authorized
      collected := h.collected
      inserted := by rw [hd]; exact h.inserted
      dispatch := by rw [hd]; exact h.dispatch
      sentOwned := h.sentOwned
      sentNodup := h.sentNodup
      unclaimed := h.unclaimed
      refused := h.refused
      payment := h.payment
      effects := h.effects
      wire := h.wire
      observed := by rw [hd]; exact h.observed
      storeFailures := h.storeFailures
      proofs := by rw [hpr, hd]; exact h.proofs
      proof := h.proof_grows hg hd
      custody := h.custody_grows hg rfl }

/-- A collector that only gains records, and other messages that carry no payment. -/
theorem kept_collector {i : ℕ} {s : Services} (h : Inv py mode s) {k : CollectorStore}
    {lookups : List Query} {collections : List Bytes} (hk : s.collector.records.rows ⊆ k.records.rows) :
    Kept py mode i s { s with collector := k, lookups, collections } := by
  have hg : Grows s { s with collector := k, lookups, collections } :=
    { Grows.refl s with records := hk }
  refine ⟨?_, hg, fun k _ => ⟨fun _ h => h, fun _ h => h, fun _ h => h, id⟩⟩
  exact
    { h with
      proof := h.proof_grows hg rfl
      custody := h.custody_grows hg rfl }

theorem kept_same {i : ℕ} {s : Services} (h : Inv py mode s) : Kept py mode i s s :=
  ⟨h, Grows.refl s, fun j _ => Own.refl j s⟩

theorem collect_ok {config : CollectorConfig} {raw : Bytes} {now : ℤ} {s s' : CollectorStore}
    {ack : Bytes} (h : Custody.collect py config raw now s = .ok (ack, s')) :
    s.records.rows ⊆ s'.records.rows := by
  obtain ⟨package, -, h⟩ := bind_ok h
  dsimp only at h
  split at h
  · next old _ =>
    by_cases hr : old.packageBytes ≠ raw
    · rw [if_pos hr] at h
      cases h
    · rw [if_neg hr] at h
      cases h
      exact List.Subset.refl _
  · obtain ⟨_, -, h⟩ := bind_ok h
    obtain ⟨_, -, h⟩ := bind_ok h
    obtain ⟨_, -, h⟩ := bind_ok h
    obtain ⟨records, hins, h⟩ := bind_ok h
    cases h
    rw [integrity_ok] at hins
    dsimp only
    rw [(Table.insert_some hins).1]
    exact List.subset_append_left _ _

theorem ends_cases {σ α : Type} {tx : Except Failure (α × σ)} {s s' : σ} {res : Except Failure α}
    (h : Ends tx s s' res) :
    (s' = s ∧ ∀ a, res ≠ .ok a) ∨ ∃ a, tx = .ok (a, s') ∧ ∀ b, res = .ok b → b = a := by
  cases h with
  | committed h => exact Or.inr ⟨_, h, fun b hb => (Except.ok.inj hb).symm⟩
  | raised h => exact Or.inl ⟨rfl, fun a ha => by cases ha⟩
  | refused text => exact Or.inl ⟨rfl, fun a ha => by cases ha⟩
  | unreachable => exact Or.inl ⟨rfl, fun a ha => by cases ha⟩
  | reported text h => exact Or.inr ⟨_, h, fun b hb => by cases hb⟩

/-- The effects that neither claim, nor send a payment, nor store a receipt. -/
def Quiet : Effect py → Prop
  | .claim .. | .store .. | .post .. | .refuse .. => False
  | _ => True

/-- The effects that leave every store of the client as it is. -/
def ReadOnly : Effect py → Prop
  | .claim .. | .store .. | .post .. | .refuse .. | .persist .. => False
  | _ => True

theorem ReadOnly.quiet {e : Effect py} (h : ReadOnly e) : Quiet e := by
  cases e <;> first | exact h.elim | trivial

theorem kept_quiet {i : ℕ} {s t : Services} {e : Effect py} {res : e.Result} (he : Quiet e)
    (h : Inv py mode s) (hx : exec i s e t res) : Kept py mode i s t ∧ Own i s t := by
  have own {k : CollectorStore} {lookups : List Query} {collections : List Bytes} {j : Journal} :
      Own i s { s with collector := k, lookups, collections, journal := j } :=
    ⟨fun _ h => h, fun _ h => h, fun _ h => h, id⟩
  cases e with
  | claim => exact he.elim
  | store => exact he.elim
  | post => exact he.elim
  | refuse => exact he.elim
  | read =>
    obtain ⟨rfl, -⟩ := hx
    exact ⟨kept_same h, own⟩
  | get =>
    obtain rfl : t = _ := hx
    exact ⟨kept_collector h (List.Subset.refl _), own⟩
  | answer =>
    obtain ⟨rfl, -⟩ := hx
    exact ⟨kept_same h, own⟩
  | hook =>
    obtain rfl : t = s := hx
    exact ⟨kept_same h, own⟩
  | authorization =>
    obtain ⟨rfl, -⟩ := hx
    exact ⟨kept_same h, own⟩
  | collect =>
    rcases hx with ⟨rfl, -⟩ | ⟨rfl, -⟩ | ⟨config, -, now, ack, k, hk, rfl, -⟩
    · exact ⟨kept_collector h (List.Subset.refl _), own⟩
    · exact ⟨kept_same h, own⟩
    · exact ⟨kept_collector h (collect_ok hk), own⟩
  | nonce =>
    obtain rfl : t = s := hx
    exact ⟨kept_same h, own⟩
  | readback =>
    obtain ⟨rfl, -⟩ := hx
    exact ⟨kept_same h, own⟩
  | persist c r package observed stage =>
    obtain ⟨now, j, hj, rfl⟩ := hx
    refine ⟨?_, own⟩
    rcases ends_cases hj with ⟨rfl, -⟩ | ⟨⟨⟩, htx, -⟩
    · exact kept_same h
    · obtain ⟨j', hp, he⟩ := map_ok htx
      obtain rfl : j' = j := congrArg Prod.snd he
      obtain ⟨value, pinDigest, record, -, -, -, -, ho, hpre, hnot, hframe⟩ := persist_ok hp
      refine kept_journal h hframe (ho ▸ List.subset_append_left _ _) ?_
      by_cases hs : stage = "PRE_DISPATCH"
      · rw [(hpre hs).2]
        exact List.subset_append_left _ _
      · rw [hnot hs]
        exact List.Subset.refl _
  | custody =>
    obtain ⟨rfl, -⟩ := hx
    exact ⟨kept_same h, own⟩

/-! ## Claiming -/

theorem callback_ok {admission : Option Admission} {hook : Except Failure Unit} {r : Request py} {now : ℤ}
    {j j' : Journal} (h : callback py admission hook r now j = .ok j') :
    j' = { j with proofs := j'.proofs } ∧
      ((admission = none ∧ j'.proofs = j.proofs) ∨ ∃ c, admission = some c ∧ c.admitting hook r now j = .ok j') := by
  cases admission with
  | none =>
    cases h
    exact ⟨rfl, Or.inl ⟨rfl, rfl⟩⟩
  | some c =>
    obtain ⟨_, _, _, _, _, -, -, -, -, -, -, -, hframe⟩ := admit_ok h
    exact ⟨hframe, Or.inr ⟨c, rfl, h⟩⟩

/-- The callback a submission passes, as the mode demands it. -/
def AdmissionFor (mode : Mode) (s : Services) (a : Adapter) : Option Admission → Prop
  | none => mode = .any
  | some c => c.gate ∈ s.authorized ∧ c.gate.adapter = a ∧
      ∃ supplied, c.evidence = (freezeEvidence supplied).1 ∧ c.problems = (freezeEvidence supplied).2

theorem mem_unclaimedBy {i j : ℕ} {α : Type} {res : Except Failure (α × Bool)} (h : j ∈ unclaimedBy i res) :
    j = i := by
  unfold unclaimedBy at h
  split at h
  · cases h
  · exact List.mem_singleton.1 h

/-- A claim that raised, or found a row, leaves only its failure behind. -/
theorem kept_unclaimed {i : ℕ} {s : Services} {α : Type} (res : Except Failure (α × Bool))
    (h : Inv py mode s) (hf : Fresh i s) :
    Kept py mode i s { s with unclaimed := s.unclaimed ++ unclaimedBy i res } := by
  have hg : Grows s { s with unclaimed := s.unclaimed ++ unclaimedBy i res } :=
    { Grows.refl s with unclaimed := List.subset_append_left _ _ }
  refine ⟨{ h with unclaimed := ?_, proof := h.proof_grows hg rfl, custody := h.custody_grows hg rfl },
    hg, fun j hj => ⟨fun _ h => h, fun _ h => h, fun _ h => h, fun he => ?_⟩⟩
  · intro m hm raw
    rcases List.mem_append.1 hm with hm | hm
    · exact h.unclaimed m hm raw
    · rw [mem_unclaimedBy hm]
      exact hf.sent raw
  · exact (List.mem_append.1 he).resolve_right fun he => hj (mem_unclaimedBy he)

/-- The world after a fresh claim: its row, its proof and its owner. -/
theorem kept_created {i : ℕ} {s : Services} {α : Type} (res : Except Failure (α × Bool)) {a : Adapter} {r : Request py}
    {admission : Option Admission} {hook : Except Failure Unit} {now : ℤ} {j j₁ : Journal}
    (h : Inv py mode s) (ha : a ∈ s.adapters) (hs : checkScope r.json a.context = .ok ())
    (hadm : AdmissionFor mode s a admission) (hf : Fresh i s)
    (hrows : j.dispatches.rows = s.journal.dispatches.rows ++ [⟨r.identity a.scope, now, none⟩])
    (hcall : callback py admission hook r now s.journal = .ok j₁)
    (hj : j = { j₁ with dispatches := j.dispatches }) :
    Kept py mode i s { s with
      journal := j, inserted := s.inserted ++ [(i, r.raw)],
      unclaimed := s.unclaimed ++ unclaimedBy i res } := by
  obtain ⟨hframe, hproofs⟩ := callback_ok hcall
  have hm : j.metadata = s.journal.metadata := by rw [hj, hframe]
  have ho : j.observations = s.journal.observations := by rw [hj, hframe]
  have hp : j.prerequisites = s.journal.prerequisites := by rw [hj, hframe]
  have hpr : j.proofs = j₁.proofs := by rw [hj]
  have hsub : s.journal.proofs.rows ⊆ j.proofs.rows := by
    rw [hpr]
    rcases hproofs with ⟨-, he⟩ | ⟨c, -, hc⟩
    · rw [he]
      exact List.Subset.refl _
    · obtain ⟨_, _, _, _, _, -, -, -, -, -, -, he, -⟩ := admit_ok hc
      rw [he]
      exact List.subset_append_left _ _
  have hg : Grows s { s with
      journal := j, inserted := s.inserted ++ [(i, r.raw)],
      unclaimed := s.unclaimed ++ unclaimedBy i res } :=
    { Grows.refl s with
      dispatches := fun d hd => ⟨d, hrows ▸ List.mem_append_left _ hd, rfl, rfl, fun _ h => h⟩
      proofs := hsub
      observations := ho ▸ List.Subset.refl _
      prerequisites := hp ▸ List.Subset.refl _
      inserted := List.subset_append_left _ _
      unclaimed := List.subset_append_left _ _ }
  refine ⟨?_, hg, fun k hk => ⟨fun raw hr => ?_, fun _ h => h, fun _ h => h, fun he => ?_⟩⟩
  · refine
      { h with
        pinned := by rw [hm]; exact h.pinned
        inserted := ?_
        dispatch := ?_
        sentOwned := fun m hm => List.mem_append_left _ (h.sentOwned m hm)
        unclaimed := ?_
        refused := fun m hm => ⟨List.mem_append_left _ (h.refused m hm).1, (h.refused m hm).2⟩
        observed := ?_
        proofs := ?_
        proof := ?_
        custody := h.custody_grows hg rfl }
    · rw [hrows, List.map_append, List.map_append, h.inserted]
      rfl
    · intro d hd
      rw [hrows] at hd
      rcases List.mem_append.1 hd with hd | hd
      · exact h.dispatch d hd
      · obtain rfl := List.mem_singleton.1 hd
        exact ⟨a, ha, r, rfl, hs⟩
    · intro m hm raw
      rcases List.mem_append.1 hm with hm | hm
      · exact h.unclaimed m hm raw
      · rw [mem_unclaimedBy hm]
        exact hf.sent raw
    · intro d hd o hod
      rw [hrows] at hd
      rcases List.mem_append.1 hd with hd | hd
      · exact h.observed d hd o hod
      · obtain rfl := List.mem_singleton.1 hd
        cases hod
    · intro hmode
      rcases hproofs with ⟨rfl, -⟩ | ⟨c, rfl, hc⟩
      · exact absurd hadm hmode
      · obtain ⟨_, _, _, _, _, -, -, -, -, -, -, he, -⟩ := admit_ok hc
        rw [hpr, he, hrows, List.map_append, List.map_append, h.proofs hmode]
        rfl
    · intro hmode d hd
      rw [hrows] at hd
      rcases List.mem_append.1 hd with hd | hd
      · obtain ⟨p, hp, hadm⟩ := h.proof hmode d hd
        exact ⟨p, hg.proofs hp, hadm.grows hg⟩
      · obtain rfl := List.mem_singleton.1 hd
        rcases hproofs with ⟨rfl, -⟩ | ⟨c, rfl, hc⟩
        · exact absurd hadm hmode
        · obtain ⟨policy, trust, identities, decision, record, hpol, htr, hid, hdec, hver, hrec, he, -⟩ :=
            admit_ok hc
          obtain ⟨hgate, -, supplied, hev, hprob⟩ := hadm
          rw [hev, hprob] at hdec
          rw [hev] at hrec
          refine ⟨⟨r.digest, record, bytesDigest py record, now⟩, ?_, decision, c.gate, hgate, r, supplied,
            policy, trust, identities, rfl, hpol, htr, hid, hdec, hver, hrec, rfl⟩
          rw [hpr, he]
          exact List.mem_append_right _ List.mem_cons_self
  · rcases List.mem_append.1 hr with hr | hr
    · exact hr
    · exact absurd (congrArg Prod.fst (List.mem_singleton.1 hr)) hk
  · exact (List.mem_append.1 he).resolve_right fun he => hk (mem_unclaimedBy he)

/-- What a call knows once its claim has answered. -/
def ClaimAnswer (i : ℕ) (r : Request py) (t : Services) : Except Failure (Dispatch × Bool) → Prop
  | .error _ => True
  | .ok (row, false) => row ∈ t.journal.dispatches.rows ∧ row.identity.requestBytes = r.raw
  | .ok (_, true) => (i, r.raw) ∈ t.inserted ∧ (∀ raw, (i, raw) ∉ t.sent) ∧ (∀ raw, (i, raw) ∉ t.refused) ∧
      i ∉ t.unclaimed

theorem newClaims_self (i : ℕ) (j : Journal) : newClaims i j j = [] := by
  simp [newClaims]

theorem kept_claim {i : ℕ} {s t : Services} {a : Adapter} {r : Request py} {admission : Option Admission}
    {res : Except Failure (Dispatch × Bool)} (h : Inv py mode s) (ha : a ∈ s.adapters)
    (hs : checkScope r.json a.context = .ok ()) (hadm : AdmissionFor mode s a admission) (hf : Fresh i s)
    (hx : exec i s (.claim a r admission) t res) : Kept py mode i s t ∧ ClaimAnswer i r t res := by
  obtain ⟨now, hook, j, hends, rfl⟩ := hx
  rcases ends_cases hends with ⟨rfl, hno⟩ | ⟨⟨row, created⟩, htx, hres⟩
  · rw [newClaims_self, List.append_nil]
    refine ⟨kept_unclaimed res h hf, ?_⟩
    cases res with
    | error e => trivial
    | ok x => exact absurd rfl (hno x)
  · have hdisp : ∀ j₁, callback py admission hook r now s.journal = .ok j₁ →
        j₁.dispatches = s.journal.dispatches := fun j₁ h => by rw [(callback_ok h).1]
    rcases claim_ok htx hdisp with ⟨rfl, rfl, hm, hraw⟩ | ⟨rfl, rfl, -, hrows, j₁, hcall, hj⟩
    · rw [newClaims_self, List.append_nil]
      refine ⟨kept_unclaimed res h hf, ?_⟩
      cases res with
      | error e => trivial
      | ok x =>
        obtain rfl := hres x rfl
        exact ⟨hm, hraw⟩
    · have hnew : newClaims i s.journal j = [(i, r.raw)] := by
        rw [newClaims, hrows, List.drop_left]
        rfl
      rw [hnew]
      refine ⟨kept_created res h ha hs hadm hf hrows hcall hj, ?_⟩
      cases res with
      | error e => trivial
      | ok x =>
        obtain rfl := hres x rfl
        refine ⟨List.mem_append_right _ List.mem_cons_self, hf.sent, hf.refused, fun he => ?_⟩
        rcases List.mem_append.1 he with he | he
        · exact hf.unclaimed he
        · cases he

/-! ## Storing a receipt -/

/-- The provider committed this receipt for the request. -/
def Issued (r : Request py) (status : Status) (receipt : Bytes) (s : Services) : Prop :=
  ∃ p ∈ s.provider.payments.rows, p.identity.requestBytes = r.raw ∧ p.receipt = receipt ∧ p.status = status

theorem Issued.grows {r : Request py} {status : Status} {receipt : Bytes} {s t : Services}
    (h : Issued r status receipt s) (hg : Grows s t) : Issued r status receipt t := by
  obtain ⟨p, hp, h⟩ := h
  exact ⟨p, hg.payments hp, h⟩

/-- A journal in which one claim was given the receipt the provider committed for it. -/
theorem inv_observed {s : Services} {r : Request py} {status : Status} {receipt : Bytes} {now : ℤ}
    (h : Inv py mode s) (hi : Issued r status receipt s) {j : Journal}
    (hrows : j.dispatches.rows = s.journal.dispatches.rows.map (observeRow r.digest ⟨status, receipt, now⟩))
    (hj : j = { s.journal with dispatches := j.dispatches }) {failures : List Failure}
    (hfail : Failure.value "conflicting_terminal_receipt" ∉ failures)
    (hclaim : ∃ d ∈ s.journal.dispatches.rows, d.identity.requestBytes = r.raw) :
    Inv py mode { s with journal := j, storeFailures := failures } ∧
      Grows s { s with journal := j, storeFailures := failures } := by
  have hm : j.metadata = s.journal.metadata := by rw [hj]
  have hpr : j.proofs = s.journal.proofs := by rw [hj]
  have ho : j.observations = s.journal.observations := by rw [hj]
  have hp : j.prerequisites = s.journal.prerequisites := by rw [hj]
  have hg : Grows s { s with journal := j, storeFailures := failures } :=
    { Grows.refl s with
      dispatches := fun d hd => ⟨observeRow r.digest ⟨status, receipt, now⟩ d,
        hrows ▸ List.mem_map_of_mem hd, observeRow_identity _ _ _, observeRow_claimedAt _ _ _,
        fun _ h => observeRow_observed h⟩
      proofs := hpr ▸ List.Subset.refl _
      observations := ho ▸ List.Subset.refl _
      prerequisites := hp ▸ List.Subset.refl _ }
  refine ⟨?_, hg⟩
  have hback : ∀ d ∈ j.dispatches.rows, ∃ d₀ ∈ s.journal.dispatches.rows,
      d = observeRow r.digest ⟨status, receipt, now⟩ d₀ := by
    intro d hd
    rw [hrows] at hd
    obtain ⟨d₀, hd₀, rfl⟩ := List.mem_map.1 hd
    exact ⟨d₀, hd₀, rfl⟩
  refine
    { h with
      pinned := by rw [hm]; exact h.pinned
      inserted := ?_
      dispatch := ?_
      observed := ?_
      storeFailures := hfail
      proofs := ?_
      proof := ?_
      custody := h.custody_grows hg rfl }
  · rw [h.inserted, hrows, List.map_map]
    exact List.map_congr_left fun d _ => by simp
  · intro d hd
    obtain ⟨d₀, hd₀, rfl⟩ := hback d hd
    rw [observeRow_identity]
    exact h.dispatch d₀ hd₀
  · intro d hd o hod
    obtain ⟨d₀, hd₀, rfl⟩ := hback d hd
    rw [observeRow_identity]
    rcases observed_observeRow hod with hold | ⟨hdig, rfl⟩
    · exact h.observed d₀ hd₀ o hold
    · obtain ⟨p, hp, hraw, hrec, hst⟩ := hi
      obtain ⟨d₁, hd₁, hraw₁⟩ := hclaim
      have heq : d₀ = d₁ := s.journal.dispatches.eq_of_clash (fun _ _ h => h.symm) hd₀ hd₁
        (Or.inl (hdig.trans (dispatch_digest h hd₁ hraw₁).symm))
      exact ⟨p, hp, by rw [hraw, heq, hraw₁], hrec, hst⟩
  · intro hmode
    rw [hpr, hrows, List.map_map, h.proofs hmode]
    exact List.map_congr_left fun d _ => by simp
  · intro hmode d hd
    obtain ⟨d₀, hd₀, rfl⟩ := hback d hd
    obtain ⟨p, hp, hadm⟩ := h.proof hmode d₀ hd₀
    exact ⟨p, hg.proofs hp, (hadm.grows hg).of_eq (observeRow_identity _ _ _) (observeRow_claimedAt _ _ _)⟩

theorem not_mem_storeFailures {s : Services} {α : Type} {res : Except Failure α} (h : Inv py mode s)
    (hr : res ≠ .error (.value "conflicting_terminal_receipt")) :
    Failure.value "conflicting_terminal_receipt" ∉ s.storeFailures ++ errorOf res := by
  intro hm
  rcases List.mem_append.1 hm with hm | hm
  · exact h.storeFailures hm
  · cases res with
    | ok a => cases hm
    | error e => exact hr (by rw [List.mem_singleton.1 hm])

theorem kept_store {i : ℕ} {s t : Services} {a : Adapter} {r : Request py} {status : Status}
    {receipt : Bytes} {res : Except Failure Dispatch} (h : Inv py mode s)
    (hi : Issued r status receipt s) (hx : exec i s (.store a r status receipt) t res) :
    (Kept py mode i s t ∧ Own i s t) ∧
      ∀ row, res = .ok row → row ∈ t.journal.dispatches.rows ∧ row.identity.requestBytes = r.raw := by
  obtain ⟨now, j, hends, rfl⟩ := hx
  have hown : ∀ k, Own k s { s with journal := j, storeFailures := s.storeFailures ++ errorOf res } :=
    fun k => ⟨fun _ h => h, fun _ h => h, fun _ h => h, id⟩
  -- The branch "conflicting_terminal_receipt": the row's receipt came from the same payment.
  have hconf : res ≠ .error (.value "conflicting_terminal_receipt") := by
    rintro rfl
    cases hends with
    | raised htx =>
      obtain ⟨d, hd, hraw, o, ho, hne⟩ := storeReceipt_conflict htx
      obtain ⟨p, hp, hpraw, hprec, -⟩ := h.observed d hd o ho
      obtain ⟨p', hp', hpraw', hprec', -⟩ := hi
      obtain rfl := payment_unique h hp hp' (by rw [hpraw, hraw, hpraw'])
      exact hne (hprec.symm.trans hprec')
  have hfail := not_mem_storeFailures h hconf
  have same : j = s.journal → Inv py mode { s with
      journal := j, storeFailures := s.storeFailures ++ errorOf res } ∧
      Grows s { s with journal := j, storeFailures := s.storeFailures ++ errorOf res } := by
    rintro rfl
    have hg : Grows s { s with storeFailures := s.storeFailures ++ errorOf res } := { Grows.refl s with }
    exact ⟨{ h with storeFailures := hfail, proof := h.proof_grows hg rfl, custody := h.custody_grows hg rfl }, hg⟩
  rcases ends_cases hends with ⟨rfl, hno⟩ | ⟨row, htx, hres⟩
  · obtain ⟨hinv, hg⟩ := same rfl
    exact ⟨⟨⟨hinv, hg, fun k _ => hown k⟩, hown i⟩, fun row hrow => absurd hrow (hno row)⟩
  · obtain ⟨d, hd, hraw, hcase⟩ := storeReceipt_ok htx
    rcases hcase with ⟨o, ho, -, rfl, rfl⟩ | ⟨-, hrow, hdig, hrows, hj⟩
    · obtain ⟨hinv, hg⟩ := same rfl
      exact ⟨⟨⟨hinv, hg, fun k _ => hown k⟩, hown i⟩, fun row hrow => by rw [hres row hrow]; exact ⟨hd, hraw⟩⟩
    · obtain ⟨hinv, hg⟩ := inv_observed h hi hrows hj hfail ⟨d, hd, hraw⟩
      refine ⟨⟨⟨hinv, hg, fun k _ => hown k⟩, hown i⟩, fun row' hrow' => ?_⟩
      rw [hres row' hrow']
      refine ⟨hrow, ?_⟩
      obtain ⟨d', hd', hi', -, -⟩ := hg.dispatches d hd
      have hdd := dispatch_digest h hd hraw
      have heq : row = d' := j.dispatches.eq_of_clash (fun _ _ h => h.symm) hrow hd'
        (Or.inl (hdig.trans (hdd.symm.trans (congrArg Identity.requestDigest hi').symm)))
      rw [heq, hi']
      exact hraw

/-! ## Sending -/

theorem kept_post {i : ℕ} {s t : Services} {raw : Bytes} (h : Inv py mode s) (hin : (i, raw) ∈ s.inserted)
    (hs : (i, raw) ∉ s.sent) (hr : (i, raw) ∉ s.refused) (hf : i ∉ s.unclaimed)
    (hc : mode = .held → Nonempty (Custodied py s raw)) (hx : exec i s (.post raw : Effect py) t ()) :
    Kept py mode i s t := by
  obtain rfl : t = _ := hx
  have hg : Grows s { s with sent := s.sent ++ [(i, raw)] } :=
    { Grows.refl s with sent := List.subset_append_left _ _ }
  refine ⟨?_, hg, fun k hk => ⟨fun _ h => h, fun x hx => ?_, fun _ h => h, id⟩⟩
  · refine
      { h with
        sentOwned := ?_
        sentNodup := ?_
        unclaimed := ?_
        refused := ?_
        payment := ?_
        proof := h.proof_grows hg rfl
        custody := ?_ }
    · intro m hm
      rcases List.mem_append.1 hm with hm | hm
      · exact h.sentOwned m hm
      · exact List.mem_singleton.1 hm ▸ hin
    · refine List.nodup_append.2 ⟨h.sentNodup, List.nodup_singleton _, ?_⟩
      intro m hm m' hm' he
      exact hs (List.mem_singleton.1 hm' ▸ he ▸ hm)
    · intro m hm x hx
      rcases List.mem_append.1 hx with hx | hx
      · exact h.unclaimed m hm x hx
      · have he : m = i := congrArg Prod.fst (List.mem_singleton.1 hx)
        exact hf (he ▸ hm)
    · intro m hm
      refine ⟨(h.refused m hm).1, fun hx => ?_⟩
      rcases List.mem_append.1 hx with hx | hx
      · exact (h.refused m hm).2 hx
      · exact hr (List.mem_singleton.1 hx ▸ hm)
    · intro p hp
      obtain ⟨r, scope, h1, h2, h3, m, hm, h4⟩ := h.payment p hp
      exact ⟨r, scope, h1, h2, h3, m, List.mem_append_left _ hm, h4⟩
    · intro hmode m hm
      rcases List.mem_append.1 hm with hm | hm
      · obtain ⟨c⟩ := h.custody hmode m hm
        exact ⟨c.grows hg⟩
      · obtain ⟨c⟩ := hc hmode
        rw [List.mem_singleton.1 hm]
        exact ⟨c.grows hg⟩
  · rcases List.mem_append.1 hx with hx | hx
    · exact hx
    · exact absurd (congrArg Prod.fst (List.mem_singleton.1 hx)) hk

theorem kept_refuse {i : ℕ} {s t : Services} {raw : Bytes} (h : Inv py mode s) (hin : (i, raw) ∈ s.inserted)
    (hs : (i, raw) ∉ s.sent) (hx : exec i s (.refuse raw : Effect py) t ()) : Kept py mode i s t := by
  obtain rfl : t = _ := hx
  have hg : Grows s { s with refused := s.refused ++ [(i, raw)] } :=
    { Grows.refl s with refused := List.subset_append_left _ _ }
  refine ⟨{ h with refused := ?_, proof := h.proof_grows hg rfl, custody := h.custody_grows hg rfl }, hg,
    fun k hk => ⟨fun _ h => h, fun _ h => h, fun x hx => ?_, id⟩⟩
  · intro m hm
    rcases List.mem_append.1 hm with hm | hm
    · exact h.refused m hm
    · rw [List.mem_singleton.1 hm]
      exact ⟨hin, hs⟩
  · rcases List.mem_append.1 hx with hx | hx
    · exact hx
    · exact absurd (congrArg Prod.fst (List.mem_singleton.1 hx)) hk

/-! ## The environment -/

theorem validateContext_ok {v context : Json} (h : validateContext py v = .ok context) :
    context.WF ∧ contextOk context = true := by
  obtain ⟨_, -, h⟩ := bind_ok h
  obtain ⟨snapshot, hs, h⟩ := bind_ok h
  obtain ⟨_, ho, h⟩ := bind_ok h
  cases h
  exact ⟨loadJson_wf py _ hs, require_ok.1 ho⟩

theorem newAdapter_ok {endpoint : String} {context : Json} {key : Bytes} {credential digest : String}
    {epoch : ℤ} {providerId : String} {faultHook : Bool} {a : Adapter}
    (h : newAdapter py endpoint context key credential digest epoch providerId faultHook = .ok a) :
    a.context.WF ∧ scopeOf py a.context = .ok a.scope := by
  obtain ⟨⟨host, port⟩, -, h⟩ := bind_ok h
  obtain ⟨context', hc, h⟩ := bind_ok h
  obtain ⟨scope, hs, h⟩ := bind_ok h
  obtain ⟨_, -, h⟩ := bind_ok h
  obtain ⟨_, -, h⟩ := bind_ok h
  obtain ⟨_, -, h⟩ := bind_ok h
  obtain ⟨_, -, h⟩ := bind_ok h
  obtain ⟨_, -, h⟩ := bind_ok h
  cases h
  exact ⟨(validateContext_ok hc).1, hs⟩

theorem initializeJournal_ok {a : Adapter} {j j' : Journal} (h : initializeJournal py a j = .ok j') :
    ∃ m, j'.metadata = some m ∧ canonicalText py (journalIdentity a) = .ok m.identity ∧
      (∀ old, j.metadata = some old → old.identity = m.identity) ∧
      j' = { j with metadata := j'.metadata } := by
  obtain ⟨m, hm, h⟩ := bind_ok h
  rw [check_ok] at hm
  cases h
  obtain ⟨hid, hold⟩ := storeMeta_ok hm
  exact ⟨m, rfl, hid, hold, rfl⟩

theorem newAuthorizedAdapter_adapter {a : Adapter} {config : GateConfig} {faultHook : Bool}
    {g : AuthorizedAdapter} (h : newAuthorizedAdapter py a config faultHook = .ok g) : g.adapter = a := by
  obtain ⟨_, -, h⟩ := bind_ok h
  obtain ⟨_, -, h⟩ := bind_ok h
  obtain ⟨_, -, h⟩ := bind_ok h
  obtain ⟨_, -, h⟩ := bind_ok h
  obtain ⟨_, -, h⟩ := bind_ok h
  obtain ⟨_, -, h⟩ := bind_ok h
  obtain ⟨_, -, h⟩ := bind_ok h
  cases h
  rfl

theorem newCollectedAdapter_ok {g : AuthorizedAdapter} {endpoint : String} {context : Json} {key : Bytes}
    {credential collectorId : String} {epoch : ℤ} {faultHook : Bool} {c : CollectedAdapter}
    (h : newCollectedAdapter py g endpoint context key credential collectorId epoch faultHook = .ok c) :
    c.authorized = g ∧ g.adapter.context = c.pins.context := by
  obtain ⟨_, -, h⟩ := bind_ok h
  obtain ⟨context', -, h⟩ := bind_ok h
  obtain ⟨_, -, h⟩ := bind_ok h
  obtain ⟨_, -, h⟩ := bind_ok h
  obtain ⟨_, -, h⟩ := bind_ok h
  obtain ⟨_, -, h⟩ := bind_ok h
  obtain ⟨_, hc, h⟩ := bind_ok h
  cases h
  exact ⟨rfl, of_decide_eq_true (require_ok.1 hc)⟩

theorem initializeLocal_ok {c : CollectedAdapter} {j j' : Journal} (h : initializeLocal py c j = .ok j') :
    j' = { j with custodyMetadata := j'.custodyMetadata } := by
  obtain ⟨_, -, h⟩ := bind_ok h
  dsimp only at h
  split at h
  · cases h
    rfl
  · obtain ⟨_, -, h⟩ := bind_ok h
    cases h
    rfl

theorem initializeCollector_ok {config config' : CollectorConfig} {s s' : CollectorStore}
    (h : initializeCollector py config s = .ok (config', s')) : s'.records = s.records := by
  obtain ⟨_, -, h⟩ := bind_ok h
  obtain ⟨_, -, h⟩ := bind_ok h
  obtain ⟨_, -, h⟩ := bind_ok h
  obtain ⟨_, -, h⟩ := bind_ok h
  obtain ⟨_, -, h⟩ := bind_ok h
  obtain ⟨_, -, h⟩ := bind_ok h
  cases h
  rfl

theorem doPost_ok {config : ProviderConfig} {raw : Bytes} {now : ℤ} {s s' : ProviderStore} {receipt : Bytes}
    (h : doPost py config raw now s = .ok (receipt, s')) :
    ∃ (r : Request py) (created : Bool), r.raw = raw ∧ r.scope = scopeOf py config.context ∧
      applyPayment py config r now s = .ok ((receipt, created), s') := by
  obtain ⟨r, hr, h⟩ := bind_ok h
  obtain ⟨u, hu, h⟩ := bind_ok h
  obtain ⟨⟨⟨receipt', created⟩, s''⟩, happ, h⟩ := bind_ok h
  rw [check_ok] at hr hu
  cases h
  exact ⟨r, created, readRequest_ok hr, scope_of_checkScope hu, happ⟩

theorem lookupPayment_ok {config : ProviderConfig} {query : Query} {s : ProviderStore} {receipt : Bytes}
    (h : lookupPayment py config query s = .ok (.ok receipt)) : ∃ p ∈ s.payments.rows, p.receipt = receipt := by
  unfold lookupPayment at h
  split at h
  · split_ifs at h
    · obtain ⟨scope, -, h⟩ := bind_ok h
      split at h
      · cases h
      · next row hrow =>
        split_ifs at h
        · cases h
          have hm := List.mem_singleton_self row
          rw [← hrow] at hm
          exact ⟨row, (List.mem_filter.1 hm).1, rfl⟩
        · cases h
      · cases h
    · cases h
  · cases h

theorem journalIdentity_wf {a : Adapter} (h : a.context.WF) : (journalIdentity a).WF := by
  refine dict_wf fun p hp => ?_
  simp only [List.mem_cons, List.not_mem_nil, or_false] at hp
  rcases hp with rfl | rfl | rfl | rfl
  · trivial
  · exact h
  · trivial
  · trivial

/-- A payment the provider processed. -/
theorem inv_deliver {s : Services} {m : ℕ × Bytes} {config : ProviderConfig} {now : ℤ} {receipt : Bytes}
    {p : ProviderStore} (h : Inv py mode s) (hs : m ∈ s.sent)
    (hp : doPost py config m.2 now s.provider = .ok (receipt, p)) :
    Inv py mode { s with provider := p, wire := s.wire ++ [receipt] } ∧
      Grows s { s with provider := p, wire := s.wire ++ [receipt] } := by
  obtain ⟨r, created, hraw, hscope, happ⟩ := doPost_ok hp
  have hsub : s.provider.payments.rows ⊆ p.payments.rows := by
    rcases applyPayment_ok happ with ⟨-, rfl, -⟩ | ⟨-, c, -⟩
    · exact List.Subset.refl _
    · rw [c.payments]
      exact List.subset_append_left _ _
  have hwire : ∃ row ∈ p.payments.rows, row.receipt = receipt := by
    rcases applyPayment_ok happ with ⟨-, rfl, row, hrow, hrec, -⟩ | ⟨-, c, -⟩
    · exact ⟨row, hrow, hrec⟩
    · exact ⟨_, c.mem, rfl⟩
  have hg : Grows s { s with provider := p, wire := s.wire ++ [receipt] } :=
    { Grows.refl s with payments := hsub, wire := List.subset_append_left _ _ }
  refine ⟨?_, hg⟩
  refine
    { h with
      payment := ?_
      effects := ?_
      wire := ?_
      observed := ?_
      proof := h.proof_grows hg rfl
      custody := h.custody_grows hg rfl }
  · rcases applyPayment_ok happ with ⟨-, rfl, -⟩ | ⟨-, c, hc⟩
    · exact h.payment
    · intro row hrow
      rw [c.payments] at hrow
      rcases List.mem_append.1 hrow with hrow | hrow
      · exact h.payment row hrow
      · obtain rfl := List.mem_singleton.1 hrow
        exact ⟨r, c.scope, hscope.trans hc, rfl, c.issued, m, hs, hraw.symm⟩
  · rcases applyPayment_ok happ with ⟨-, rfl, -⟩ | ⟨-, c, -⟩
    · exact h.effects
    · exact settled_created c h.effects
  · intro b hb
    rcases List.mem_append.1 hb with hb | hb
    · obtain ⟨row, hrow, he⟩ := h.wire b hb
      exact ⟨row, hsub hrow, he⟩
    · rw [List.mem_singleton.1 hb]
      exact hwire
  · intro d hd o ho
    obtain ⟨row, hrow, he⟩ := h.observed d hd o ho
    exact ⟨row, hsub hrow, he⟩

theorem kept_environment {s t : Services} (h : Inv py mode s) (he : Environment py s t) :
    Inv py mode t ∧ Grows s t ∧ ∀ j, Own j s t := by
  cases he with
  | @adapter _ _ _ _ _ _ _ _ a j made opened =>
    obtain ⟨hw, hscope⟩ := newAdapter_ok made
    obtain ⟨m, hm, hid, hold, hj⟩ := initializeJournal_ok opened
    have hd : j.dispatches = s.journal.dispatches := by rw [hj]
    have hpr : j.proofs = s.journal.proofs := by rw [hj]
    have ho : j.observations = s.journal.observations := by rw [hj]
    have hp : j.prerequisites = s.journal.prerequisites := by rw [hj]
    have hg : Grows s { s with journal := j, adapters := a :: s.adapters } :=
      { Grows.refl s with
        adapters := List.subset_cons_self _ _
        dispatches := fun d hd' => ⟨d, hd ▸ hd', rfl, rfl, fun _ h => h⟩
        proofs := hpr ▸ List.Subset.refl _
        observations := ho ▸ List.Subset.refl _
        prerequisites := hp ▸ List.Subset.refl _ }
    refine ⟨?_, hg, fun k => ⟨fun _ h => h, fun _ h => h, fun _ h => h, id⟩⟩
    refine
      { h with
        adapters := ?_
        pinned := ?_
        authorized := fun g hg => ⟨List.mem_cons_of_mem _ (h.authorized g hg).1, (h.authorized g hg).2⟩
        inserted := by rw [hd]; exact h.inserted
        dispatch := ?_
        observed := by rw [hd]; exact h.observed
        proofs := by rw [hpr, hd]; exact h.proofs
        proof := h.proof_grows hg hd
        custody := h.custody_grows hg rfl }
    · intro b hb
      rcases List.mem_cons.1 hb with rfl | hb
      · exact ⟨hw, hscope⟩
      · exact h.adapters b hb
    · intro b hb
      rcases List.mem_cons.1 hb with rfl | hb
      · exact ⟨m, hm, hid⟩
      · obtain ⟨old, hold', hid'⟩ := h.pinned b hb
        exact ⟨m, hm, by rw [hid', hold old hold']⟩
    · rw [hd]
      intro d hd'
      obtain ⟨b, hb, hrest⟩ := h.dispatch d hd'
      exact ⟨b, List.mem_cons_of_mem _ hb, hrest⟩
  | @authorized a config faultHook g known made =>
    have hg : Grows s { s with authorized := g :: s.authorized } :=
      { Grows.refl s with authorized := List.subset_cons_self _ _ }
    refine ⟨?_, hg, fun k => ⟨fun _ h => h, fun _ h => h, fun _ h => h, id⟩⟩
    refine
      { h with
        authorized := ?_
        collected := fun c hc => List.mem_cons_of_mem _ (h.collected c hc)
        proof := h.proof_grows hg rfl
        custody := h.custody_grows hg rfl }
    intro g' hg'
    rcases List.mem_cons.1 hg' with rfl | hg'
    · have ha := newAuthorizedAdapter_adapter made
      exact ⟨ha ▸ known, config, faultHook, ha ▸ made⟩
    · exact h.authorized g' hg'
  | @collected g _ _ _ _ _ _ _ c j known made opened =>
    have hj := initializeLocal_ok opened
    have hd : j.dispatches = s.journal.dispatches := by rw [hj]
    have hpr : j.proofs = s.journal.proofs := by rw [hj]
    have ho : j.observations = s.journal.observations := by rw [hj]
    have hp : j.prerequisites = s.journal.prerequisites := by rw [hj]
    have hm : j.metadata = s.journal.metadata := by rw [hj]
    have hg : Grows s { s with journal := j, collected := c :: s.collected } :=
      { Grows.refl s with
        collected := List.subset_cons_self _ _
        dispatches := fun d hd' => ⟨d, hd ▸ hd', rfl, rfl, fun _ h => h⟩
        proofs := hpr ▸ List.Subset.refl _
        observations := ho ▸ List.Subset.refl _
        prerequisites := hp ▸ List.Subset.refl _ }
    refine ⟨?_, hg, fun k => ⟨fun _ h => h, fun _ h => h, fun _ h => h, id⟩⟩
    refine
      { h with
        pinned := by rw [hm]; exact h.pinned
        collected := ?_
        inserted := by rw [hd]; exact h.inserted
        dispatch := by rw [hd]; exact h.dispatch
        observed := by rw [hd]; exact h.observed
        proofs := by rw [hpr, hd]; exact h.proofs
        proof := h.proof_grows hg hd
        custody := h.custody_grows hg rfl }
    intro c' hc'
    rcases List.mem_cons.1 hc' with rfl | hc'
    · rw [(newCollectedAdapter_ok made).1]
      exact known
    · exact h.collected c' hc'
  | @provider config config' p started =>
    obtain ⟨_, _, -, -, -, -, -, -, hpay, heff, -⟩ := initializeProvider_ok started
    have hg : Grows s { s with provider := p, providers := config' :: s.providers } :=
      { Grows.refl s with payments := hpay ▸ List.Subset.refl _ }
    refine ⟨?_, hg, fun k => ⟨fun _ h => h, fun _ h => h, fun _ h => h, id⟩⟩
    exact
      { h with
        payment := by rw [hpay]; exact h.payment
        effects := by rw [hpay, heff]; exact h.effects
        wire := by rw [hpay]; exact h.wire
        observed := by rw [hpay]; exact h.observed
        proof := h.proof_grows hg rfl
        custody := h.custody_grows hg rfl }
  | deliver sent serving processed =>
    obtain ⟨hinv, hg⟩ := inv_deliver h sent processed
    exact ⟨hinv, hg, fun k => ⟨fun _ h => h, fun _ h => h, fun _ h => h, id⟩⟩
  | @lookup query config receipt sent serving processed =>
    have hg : Grows s { s with wire := s.wire ++ [receipt] } :=
      { Grows.refl s with wire := List.subset_append_left _ _ }
    refine ⟨?_, hg, fun k => ⟨fun _ h => h, fun _ h => h, fun _ h => h, id⟩⟩
    refine { h with wire := ?_, proof := h.proof_grows hg rfl, custody := h.custody_grows hg rfl }
    intro b hb
    rcases List.mem_append.1 hb with hb | hb
    · exact h.wire b hb
    · rw [List.mem_singleton.1 hb]
      exact lookupPayment_ok processed
  | @collector config config' k started =>
    have hrec := initializeCollector_ok started
    have hg : Grows s { s with collector := k, collectors := config' :: s.collectors } :=
      { Grows.refl s with records := hrec ▸ List.Subset.refl _ }
    exact ⟨{ h with proof := h.proof_grows hg rfl, custody := h.custody_grows hg rfl }, hg,
      fun k => ⟨fun _ h => h, fun _ h => h, fun _ h => h, id⟩⟩
  | @collection package config now ack k sent serving processed =>
    have hg : Grows s { s with collector := k } :=
      { Grows.refl s with records := collect_ok processed }
    exact ⟨{ h with proof := h.proof_grows hg rfl, custody := h.custody_grows hg rfl }, hg,
      fun k => ⟨fun _ h => h, fun _ h => h, fun _ h => h, id⟩⟩

theorem inv_initial : Inv py mode .initial where
  adapters _ h := by cases h
  pinned _ h := by cases h
  authorized _ h := by cases h
  collected _ h := by cases h
  inserted := rfl
  dispatch _ h := by cases h
  sentOwned _ h := by cases h
  sentNodup := List.nodup_nil
  unclaimed _ h := by cases h
  refused _ h := by cases h
  payment _ h := by cases h
  effects := rfl
  wire _ h := by cases h
  observed _ h := by cases h
  storeFailures h := by cases h
  proofs _ := rfl
  proof _ _ h := by cases h
  custody _ _ h := by cases h

end Steps
end VapEvidence.Payment

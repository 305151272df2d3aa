import VapEvidence.CustodyPrograms

set_option autoImplicit false

/-!
# Runs of the payment system

Submission, the wrappers' calls, and with them the invariant over every run.
-/
namespace VapEvidence.Payment
open Json Authorization Custody Interleaving

section Submission
variable {py : Platform} {mode : Mode} {i : ℕ}

/-- Call `i` inserted the claim of `raw` and has done nothing with it yet. -/
structure Claimed (i : ℕ) (raw : Bytes) (s : Services) : Prop where
  inserted : (i, raw) ∈ s.inserted
  sent : ∀ raw, (i, raw) ∉ s.sent
  refused : ∀ raw, (i, raw) ∉ s.refused
  unclaimed : i ∉ s.unclaimed

theorem Claimed.stable {raw : Bytes} {s t : Services} (h : Claimed i raw s) (hg : Grows s t)
    (ho : Own i s t) : Claimed i raw t :=
  ⟨hg.inserted h.inserted, fun _ x => h.sent _ (ho.sent _ x), fun _ x => h.refused _ (ho.refused _ x),
    fun x => h.unclaimed (ho.unclaimed x)⟩

theorem AdmissionFor.grows {s t : Services} {a : Adapter} {admission : Option Admission}
    (h : AdmissionFor mode s a admission) (hg : Grows s t) : AdmissionFor mode t a admission := by
  cases admission with
  | none => exact h
  | some c => exact ⟨hg.authorized h.1, h.2⟩

theorem runs_claim {a : Adapter} {r : Request py} {admission : Option Admission} {s : Services}
    (ha : a ∈ s.adapters) (hs : checkScope r.json a.context = .ok ()) (hadm : AdmissionFor mode s a admission)
    (hf : Fresh i s) :
    Runs py mode i (claimRow a r admission) (fun res t => ClaimAnswer i r t res ∧ Inv py mode t) s := by
  intro s₁ ⟨hg, ho⟩ hi t res hx
  obtain ⟨⟨hinv, hg', hothers⟩, hans⟩ := kept_claim hi (hg.adapters ha) hs (hadm.grows hg) (hf.own ho) hx
  exact ⟨⟨hinv, fun j hj => ⟨hg', hothers j hj⟩⟩, hans, hinv⟩

theorem runs_post {raw : Bytes} {s : Services} (hc : Claimed i raw s)
    (hcust : mode = .held → Nonempty (Custodied py s raw)) :
    Runs py mode i (post raw) (fun _ _ => True) s := by
  intro s₁ ⟨hg, ho⟩ hi t res hx
  have hc₁ := hc.stable hg ho
  obtain ⟨hinv, hg', hothers⟩ := kept_post hi hc₁.inserted (hc₁.sent raw) (hc₁.refused raw) hc₁.unclaimed
    (fun hm => (hcust hm).map fun c => c.grows hg) hx
  exact ⟨⟨hinv, fun j hj => ⟨hg', hothers j hj⟩⟩, trivial⟩

theorem runs_refuse {raw : Bytes} {s : Services} (hc : Claimed i raw s) :
    Runs py mode i (refuse raw) (fun _ _ => True) s := by
  intro s₁ ⟨hg, ho⟩ hi t res hx
  have hc₁ := hc.stable hg ho
  obtain ⟨hinv, hg', hothers⟩ := kept_refuse hi hc₁.inserted (hc₁.sent raw) hx
  exact ⟨⟨hinv, fun j hj => ⟨hg', hothers j hj⟩⟩, trivial⟩

/-- What a call that may raise says about the provider. -/
def TruthfulOrRaised (r : Request py) (x : Except Failure Result) (s : Services) : Prop :=
  ∀ y, x = .ok y → Truthful r y s

theorem truthful_raised {r : Request py} {e : Failure} {s : Services} : TruthfulOrRaised r (.error e) s :=
  fun _ h => by cases h

theorem truthful_returned {r : Request py} {x : Result} {s : Services} (h : Truthful r x s) :
    TruthfulOrRaised r (.ok x) s := by
  intro y hy
  cases hy
  exact h

/-- The prerequisite of a submission, when custody is demanded. -/
def Prerequisite (py : Platform) (mode : Mode) (i : ℕ) (r : Request py) (before : Program py (Except Failure Unit))
    (s : Services) : Prop :=
  before.Uses Quiet ∧ ∀ t, Grows s t →
    Runs py mode i before (fun x u => x = .ok () → mode = .held → Nonempty (Custodied py u r.raw)) t

theorem Prerequisite.grows {r : Request py} {before : Program py (Except Failure Unit)} {s t : Services}
    (h : Prerequisite py mode i r before s) (hg : Grows s t) : Prerequisite py mode i r before t :=
  ⟨h.1, fun u hu => h.2 u (hg.trans hu)⟩

theorem runs_answered {a : Adapter} {r : Request py} {after : Bytes → Program py (Except Failure Unit)}
    (hafter : ∀ receipt, (after receipt).Uses Quiet) (s : Services) :
    Runs py mode i ((answer a).andThen fun (status, receipt) =>
      if status ≠ 200 then
        .ok <$> retainUnknown a r ("provider_http_" ++ toString status ++ "_claim_retained")
      else (settleResponse a r receipt).andThen fun terminal => do
        match ← after receipt with
        | .ok () => return .ok terminal
        | .error _ =>
          return .ok { terminal with custodyWarning := some "post_effect_custody_unresolved" })
      (TruthfulOrRaised r) s := by
  refine wp_andThen _ _ (runs_quiet_ret (by trivial) fun s₁ t res _ hi hx _ _ _ => ?_)
  rcases res with e | ⟨code, receipt⟩
  · exact truthful_raised
  obtain ⟨rfl, hrec⟩ := exec_answer hi hx
  dsimp only
  split_ifs
  · exact wp_bind _ _ (runs_mono (runs_retainUnknown a r _ t) fun x u hu => truthful_returned hu)
  · refine wp_andThen _ _ (runs_mono (runs_settle hrec) fun x u hu => ?_)
    rcases x with e | terminal
    · exact truthful_raised
    refine wp_bind _ _ (runs_mono (runs_uses (hafter receipt) u) fun x v hv => ?_)
    rcases x with e | ⟨⟩
    · exact truthful_returned (((hu terminal rfl).grows hv.1).of_state rfl)
    · exact truthful_returned ((hu terminal rfl).grows hv.1)

theorem runs_dispatchClaimed {a : Adapter} {r : Request py} {before : Program py (Except Failure Unit)}
    {after : Bytes → Program py (Except Failure Unit)} {s : Services} (hc : Claimed i r.raw s)
    (hbefore : Prerequisite py mode i r before s) (hafter : ∀ receipt, (after receipt).Uses Quiet) :
    Runs py mode i (dispatchClaimed a r before after) (TruthfulOrRaised r) s := by
  refine wp_andThen _ _ (runs_mono (runs_uses (uses_faultPoint _ _) s) fun x t ht => ?_)
  rcases x with e | ⟨⟩
  · exact truthful_raised
  have hct := hc.stable ht.1 ht.2
  refine wp_bind _ _ (runs_mono (wp_and _ _ (runs_uses hbefore.1 t) (hbefore.2 t ht.1)) fun x u ⟨hu, hcust⟩ => ?_)
  have hcu := hct.stable hu.1 hu.2
  rcases x with e | ⟨⟩
  · exact wp_bind _ _ (runs_mono (runs_refuse hcu) fun _ _ _ => truthful_raised)
  · exact wp_bind _ _ (runs_mono (runs_post hcu (hcust rfl)) fun _ v _ => runs_answered hafter v)

theorem runs_submit {a : Adapter} {r : Request py} {admission : Option Admission}
    {before : Program py (Except Failure Unit)} {after : Bytes → Program py (Except Failure Unit)}
    {s : Services} (ha : a ∈ s.adapters) (hs : checkScope r.json a.context = .ok ())
    (hadm : AdmissionFor mode s a admission) (hf : Fresh i s)
    (hbefore : Prerequisite py mode i r before s) (hafter : ∀ receipt, (after receipt).Uses Quiet) :
    Runs py mode i (submitPrepared a r admission before after) (TruthfulOrRaised r) s := by
  refine wp_bind _ _ (runs_mono (runs_grows (runs_claim ha hs hadm hf)) fun x t ⟨⟨hans, hi⟩, hg⟩ => ?_)
  rcases x with e | ⟨row, created⟩
  · cases e with
    | value text =>
      refine truthful_returned (truthful_of_open fun status => ?_)
      dsimp only [result]
      split_ifs
      · exact conflict_open status
      · exact rejected_open status
    | sqlite | os => exact truthful_returned (truthful_of_open journalUnavailable_open)
    | _ => exact truthful_raised
  · cases created with
    | false => exact truthful_returned (fromRow_truthful hi hans.1 hans.2)
    | true =>
      obtain ⟨h1, h2, h3, h4⟩ := hans
      refine wp_bind _ _ (runs_mono
        (runs_dispatchClaimed ⟨h1, h2, h3, h4⟩ (hbefore.grows hg) hafter) fun x u hu => ?_)
      rcases x with e | y
      · exact wp_bind _ _ (runs_mono (runs_retainUnknown a r _ u) fun x v hv => truthful_returned hv)
      · exact truthful_returned (hu y rfl)

end Submission

section Wrappers
variable {py : Platform} {mode : Mode} {i : ℕ}

theorem reads_attachAdmission (g : AuthorizedAdapter) (r : Request py) (x : Result) :
    (attachAdmission g r x).Uses ReadOnly := by
  refine ⟨trivial, fun original => ?_⟩
  dsimp only [Prog.bind]
  split
  · split_ifs <;> trivial
  · trivial

theorem uses_attachAdmission (g : AuthorizedAdapter) (r : Request py) (x : Result) :
    (attachAdmission g r x).Uses Quiet :=
  (reads_attachAdmission g r x).mono fun _ => ReadOnly.quiet

theorem attachAdmission_state (g : AuthorizedAdapter) (r : Request py) (x : Result) :
    (attachAdmission g r x).Returns fun y => y.state = x.state := by
  intro original
  dsimp only [Prog.bind]
  split
  · split_ifs <;> rfl
  · rfl

theorem runs_attachAdmission {g : AuthorizedAdapter} {r : Request py} {x : Result} {s : Services}
    (h : Truthful r x s) : Runs py mode i (attachAdmission g r x) (Truthful r) s :=
  runs_mono (wp_returns _ _ (runs_uses (uses_attachAdmission g r x) s) (attachAdmission_state g r x))
    fun _ _ ⟨ht, hy⟩ => (h.grows ht.1).of_state hy

theorem reads_readStatus (a : Adapter) (r : Request py) : (readStatusPrepared a r).Uses ReadOnly := by
  refine ⟨trivial, fun res => ?_⟩
  rcases res with e | _ | d <;> trivial

theorem uses_readStatus (a : Adapter) (r : Request py) : (readStatusPrepared a r).Uses Quiet :=
  (reads_readStatus a r).mono fun _ => ReadOnly.quiet

theorem reads_originals (c : CollectedAdapter) (r : Request py) : (originals c r).Uses ReadOnly := by
  refine ⟨trivial, fun proof => ?_⟩
  dsimp only [Prog.bind]
  split
  · trivial
  · refine (reads_readStatus _ r).bind fun financial => ?_
    split
    · split <;> trivial
    · trivial

theorem uses_originals (c : CollectedAdapter) (r : Request py) : (originals c r).Uses Quiet :=
  (reads_originals c r).mono fun _ => ReadOnly.quiet

theorem reads_readCustody (c : CollectedAdapter) (r : Request py) : (readCustody c r).Uses ReadOnly := by
  refine (reads_originals c r).bind fun expected => ?_
  rcases expected with e | expected
  · trivial
  · refine ⟨trivial, fun res => ?_⟩
    rcases res with e | x <;> trivial

theorem uses_readCustody (c : CollectedAdapter) (r : Request py) : (readCustody c r).Uses Quiet :=
  (reads_readCustody c r).mono fun _ => ReadOnly.quiet

theorem reads_attachCustody (c : CollectedAdapter) (r : Request py) (x : Result) :
    (attachCustody c r x).Uses ReadOnly := by
  unfold attachCustody
  split_ifs
  · exact (reads_readCustody c r).bind fun _ => trivial
  · trivial

theorem uses_attachCustody (c : CollectedAdapter) (r : Request py) (x : Result) :
    (attachCustody c r x).Uses Quiet :=
  (reads_attachCustody c r x).mono fun _ => ReadOnly.quiet

theorem attachCustody_result (c : CollectedAdapter) (r : Request py) (x : Result) :
    (attachCustody c r x).Returns fun y => y.1 = x := by
  have any {α : Type} (p : Program py α) : p.Returns fun _ => True := by
    induction p with
    | ret a => trivial
    | eff e k ih => exact ih
  unfold attachCustody
  split_ifs
  · exact (any _).bind fun _ _ => rfl
  · rfl

theorem runs_attachCustody {c : CollectedAdapter} {r : Request py} {x : Result} {s : Services}
    (h : Truthful r x s) : Runs py mode i (attachCustody c r x) (fun y => Truthful r y.1) s :=
  runs_mono (wp_returns _ _ (runs_uses (uses_attachCustody c r x) s) (attachCustody_result c r x))
    fun _ _ ⟨ht, hy⟩ => (h.grows ht.1).of_state (congrArg Result.state hy)

theorem uses_recoverAll (c : CollectedAdapter) (r : Request py) (packages : Originals) :
    (recoverAll c r packages).Uses Quiet := by
  induction packages with
  | nil => trivial
  | cons p rest ih =>
    refine (uses_collectAndPersist c r p.2 _).bind fun outcome => ih.bind fun failures => ?_
    rcases outcome with e | ⟨⟩ <;> trivial

theorem runs_recoverEvidence (c : CollectedAdapter) (r : Request py) (s : Services) :
    Runs py mode i (recoverEvidencePrepared c r)
      (fun x t => TruthfulOrRaised r (x.map Prod.fst) t) s := by
  refine wp_andThen _ _ (runs_mono (runs_uses (uses_originals c r) s) fun x t _ => ?_)
  rcases x with e | packages
  · exact truthful_raised
  refine wp_bind _ _ (runs_mono (runs_uses (uses_recoverAll c r packages) t) fun _ u _ => ?_)
  refine wp_bind _ _ (runs_mono (runs_readStatus _ r u) fun status v hv => ?_)
  refine wp_bind _ _ (runs_mono (runs_attachAdmission hv) fun x w hw => ?_)
  exact wp_bind _ _ (runs_mono (runs_attachCustody hw) fun y _ hy => truthful_returned hy)

theorem prerequisite_skip {r : Request py} {s : Services} (h : mode ≠ .held) :
    Prerequisite py mode i r skip s :=
  ⟨trivial, fun _ _ _ hm => absurd hm h⟩

theorem prerequisite_collected {c : CollectedAdapter} {r : Request py} {s : Services} (hc : c ∈ s.collected)
    (hs : checkScope r.json c.authorized.adapter.context = .ok ()) :
    Prerequisite py mode i r (beforeDispatch c r) s :=
  ⟨uses_beforeDispatch c r, fun _ ht =>
    runs_mono (runs_beforeDispatch (ht.collected hc) hs) fun _ _ h hx _ => h hx⟩

theorem runs_submitAuthorized {g : AuthorizedAdapter} {r : Request py} {evidence : Supplied}
    {before : Program py (Except Failure Unit)} {after : Bytes → Program py (Except Failure Unit)}
    {s : Services} (hg : g ∈ s.authorized) (ha : g.adapter ∈ s.adapters)
    (hs : checkScope r.json g.adapter.context = .ok ()) (hf : Fresh i s)
    (hbefore : Prerequisite py mode i r before s) (hafter : ∀ receipt, (after receipt).Uses Quiet) :
    Runs py mode i (submitAuthorizedPrepared g r evidence before after) (TruthfulOrRaised r) s := by
  have hadm : AdmissionFor mode s g.adapter
      (some ⟨g, (freezeEvidence evidence).1, (freezeEvidence evidence).2⟩) :=
    ⟨hg, rfl, evidence, rfl, rfl⟩
  refine wp_bind _ _ (runs_mono (runs_submit ha hs hadm hf hbefore hafter) fun x t hx => ?_)
  rcases x with e | y
  · cases e with
    | blocked decision => exact truthful_returned (truthful_of_open rejected_open)
    | _ => exact truthful_raised
  · exact wp_bind _ _ (runs_mono (runs_attachAdmission (hx y rfl)) fun z u hz => truthful_returned hz)

theorem runs_submitCollected {c : CollectedAdapter} {r : Request py} {evidence : Supplied} {s : Services}
    (hc : c ∈ s.collected) (hg : c.authorized ∈ s.authorized) (ha : c.authorized.adapter ∈ s.adapters)
    (hs : checkScope r.json c.authorized.adapter.context = .ok ()) (hf : Fresh i s) :
    Runs py mode i (submitCollectedPrepared c r evidence) (fun x t => TruthfulOrRaised r (x.map Prod.fst) t) s := by
  refine wp_andThen _ _ (runs_mono (runs_submitAuthorized hg ha hs hf (prerequisite_collected hc hs)
    (uses_afterReceipt c r)) fun x t hx => ?_)
  rcases x with e | y
  · exact truthful_raised
  · exact wp_bind _ _ (runs_mono (runs_attachCustody (hx y rfl)) fun z u hz => truthful_returned hz)

end Wrappers

/-! ## Calls -/

section Calls
variable {py : Platform} {mode : Mode} {i : ℕ}

/-- A terminal outcome of a call names a payment committed for its validated request. -/
def Reported (py : Platform) (_ : ℕ) (c : Call) (x : Except Failure Result) (s : Services) : Prop :=
  ∀ y, x = .ok y → ∀ status : Status, y.state = status.state →
    ∃ r, prepare py c.adapter c.request.json = .ok r ∧
      ∃ p ∈ s.provider.payments.rows, p.identity.requestBytes = r.raw ∧ p.status = status

theorem Reported.grows {c : Call} {x : Except Failure Result} {s t : Services}
    (h : Reported py i c x s) (hg : Grows s t) : Reported py i c x t := by
  intro y hy status hs
  obtain ⟨r, hr, p, hp, hrest⟩ := h y hy status hs
  exact ⟨r, hr, p, hg.payments hp, hrest⟩

theorem runs_prepared {c : Call} {refused : Result} {body : Request py → Program py (Except Failure Result)}
    {s : Services} (hbody : c.body py = prepared c.adapter c.request.json (.ok refused) body)
    (hrefused : refused.state = .rejected)
    (h : ∀ r, checkScope r.json c.adapter.context = .ok () →
      Runs py mode i (body r) (TruthfulOrRaised r) s) :
    Runs py mode i (c.body py) (lasting (outline py mode) i (Reported py i c)) s := by
  rw [hbody, prepared]
  split
  · next r hr =>
    refine runs_mono (h r (prepare_ok hr).2) fun x t hx u hu _ => Reported.grows ?_ hu.1
    exact fun y hy status hs => ⟨r, hr, hx y hy status hs⟩
  · intro t _ _ y hy status hs
    cases hy
    exact absurd (hrefused.symm.trans hs) (rejected_open status)

theorem runs_fst {r : Request py} {p : Program py (Except Failure (Result × CustodyReading))} {s : Services}
    (h : Runs py mode i p (fun x t => TruthfulOrRaised r (x.map Prod.fst) t) s) :
    Runs py mode i (p.andThen fun x => .ret (.ok x.1)) (TruthfulOrRaised r) s :=
  wp_andThen _ _ (runs_mono h fun x t hx => by
    rcases x with e | y
    · exact truthful_raised
    · exact hx)

/-- Every call a mode allows keeps the invariant and reports only what is committed. -/
theorem runs_call {c : Call} {s : Services} (hi : Inv py mode s) (hf : Fresh i s) (hc : c.Constructed s)
    (hm : mode.Allowed c) :
    Runs py mode i (c.body py) (lasting (outline py mode) i (Reported py i c)) s := by
  cases c with
  | submit a v =>
    have hmode : mode = .any := by cases mode <;> first | rfl | exact hm.elim
    exact runs_prepared rfl rfl fun r hs => runs_submit hc hs hmode hf
      (prerequisite_skip (by rw [hmode]; decide)) fun _ => trivial
  | reconcile a v =>
    exact runs_prepared rfl rfl fun r _ =>
      wp_bind _ _ (runs_mono (runs_reconcile a r s) fun x t hx => truthful_returned hx)
  | readStatus a v =>
    exact runs_prepared rfl rfl fun r _ =>
      wp_bind _ _ (runs_mono (runs_readStatus a r s) fun x t hx => truthful_returned hx)
  | submitAuthorized g v evidence =>
    have hmode : mode ≠ .held := by
      rintro rfl
      exact hm
    exact runs_prepared rfl rfl fun r hs => runs_submitAuthorized hc (hi.authorized g hc).1 hs hf
      (prerequisite_skip hmode) fun _ => trivial
  | reconcileAuthorized g v =>
    refine runs_prepared rfl rfl fun r _ => wp_bind _ _ (runs_mono (runs_reconcile _ r s) fun x t hx => ?_)
    exact wp_bind _ _ (runs_mono (runs_attachAdmission hx) fun y u hy => truthful_returned hy)
  | readStatusAuthorized g v =>
    refine runs_prepared rfl rfl fun r _ => wp_bind _ _ (runs_mono (runs_readStatus _ r s) fun x t hx => ?_)
    exact wp_bind _ _ (runs_mono (runs_attachAdmission hx) fun y u hy => truthful_returned hy)
  | submitCollected c v evidence =>
    have hg := hi.collected c hc
    exact runs_prepared rfl rfl fun r hs =>
      runs_fst (runs_submitCollected hc hg (hi.authorized _ hg).1 hs hf)
  | reconcileCollected c v =>
    refine runs_prepared rfl rfl fun r _ => wp_bind _ _ (runs_mono (runs_reconcile _ r s) fun x t hx => ?_)
    refine wp_bind _ _ (runs_mono (runs_attachAdmission hx) fun y u hy => ?_)
    exact wp_bind _ _ (runs_mono (runs_attachCustody hy) fun z v hz => truthful_returned hz)
  | readStatusCollected c v =>
    refine runs_prepared rfl rfl fun r _ => wp_bind _ _ (runs_mono (runs_readStatus _ r s) fun x t hx => ?_)
    refine wp_bind _ _ (runs_mono (runs_attachAdmission hx) fun y u hy => ?_)
    exact wp_bind _ _ (runs_mono (runs_attachCustody hy) fun z v hz => truthful_returned hz)
  | recoverEvidence c v =>
    exact runs_prepared rfl rfl fun r _ => runs_fst (runs_recoverEvidence c r s)

theorem payment_respects (py : Platform) (mode : Mode) :
    Respects (system py) (outline py mode) (fun s c => c.Constructed s ∧ mode.Allowed c) (Call.body py)
      (Reported py) where
  environment h he := by
    obtain ⟨hinv, hg, ho⟩ := kept_environment h he
    exact ⟨hinv, fun j => ⟨hg, ho j⟩⟩
  call h hf hc := runs_call h hf hc.1 hc.2

theorem fresh_initial (i : ℕ) : Fresh i .initial where
  inserted _ h := by cases h
  sent _ h := by cases h
  refused _ h := by cases h
  unclaimed h := by cases h

theorem payment_sound {w : PaymentWorld py} (h : Reachable py mode.Allowed w) :
    Sound (system py) (outline py mode) (Reported py) w :=
  sound_run (payment_respects py mode)
    (sound_initial inv_initial fun i => fresh_initial i) h

theorem payment_inv {w : PaymentWorld py} (h : Reachable py mode.Allowed w) : Inv py mode w.shared :=
  (payment_sound h).inv

/-- What a run has committed stays committed. -/
theorem payment_grows {w w' : PaymentWorld py} (h : Reachable py mode.Allowed w)
    (hr : Run (system py) (fun s c => c.Constructed s ∧ mode.Allowed c) (Call.body py) w w') :
    Grows w.shared w'.shared :=
  sound_run_rel (payment_respects py mode) Grows.refl Grows.trans And.left (payment_sound h) hr

/-- A run in which a provider starts on the empty stores. -/
theorem sample_run (mode : Mode) : ∃ w : PaymentWorld samplePlatform, Reachable samplePlatform mode.Allowed w ∧
    w.shared.providers = [sampleProvider] := by
  obtain ⟨store, h⟩ := sampleProvider_starts
  exact ⟨_, .tail .refl (.environment (.provider h)), rfl⟩

end Calls
end VapEvidence.Payment

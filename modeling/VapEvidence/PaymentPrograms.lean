import VapEvidence.PaymentSteps

set_option autoImplicit false

/-!
# The adapter's programs keep the payment invariant

Each program is run once against everything the other calls may do between its
effects. A terminal result it returns names a payment that the provider committed.
-/
namespace VapEvidence.Payment
open Json Authorization Custody Interleaving

section Programs
variable {py : Platform} {mode : Mode} {i : ℕ}

/-- Call `i` can run `p` from `s` and ends in `Q`, whatever the others do. -/
abbrev Runs (py : Platform) (mode : Mode) (i : ℕ) {α : Type} (p : Program py α) (Q : α → Services → Prop)
    (s : Services) : Prop :=
  wp (system py) (outline py mode) i p Q s

theorem runs_mono {α : Type} {p : Program py α} {Q Q' : α → Services → Prop} {s : Services}
    (h : Runs py mode i p Q s) (hQ : ∀ a s, Q a s → Q' a s) : Runs py mode i p Q' s :=
  wp_mono _ _ h hQ

/-- What is known at the start of a program stays known. -/
theorem runs_grows {α : Type} {p : Program py α} {Q : α → Services → Prop} {s : Services}
    (h : Runs py mode i p Q s) : Runs py mode i p (fun a t => Q a t ∧ Grows s t) s :=
  wp_rel _ _ Grows.refl Grows.trans And.left h

theorem runs_quiet {α : Type} {e : Effect py} (he : Quiet e) {f : e.Result → Program py α}
    {Q : α → Services → Prop} {s : Services}
    (h : ∀ s₁ t res, Grows s s₁ → Inv py mode s₁ → exec i s₁ e t res → Grows s t → Own i s t →
      Inv py mode t → Runs py mode i (f res) Q t) :
    Runs py mode i (Prog.eff e .ret >>= f) Q s := by
  intro s₁ ⟨hg, ho⟩ hi t res hx
  obtain ⟨⟨hinv, hg', hothers⟩, hown⟩ := kept_quiet he hi hx
  exact ⟨⟨hinv, fun j hj => ⟨hg', hothers j hj⟩⟩, h s₁ t res hg hi hx (hg.trans hg') (ho.trans hown) hinv⟩

theorem runs_quiet_ret {e : Effect py} (he : Quiet e) {Q : e.Result → Services → Prop} {s : Services}
    (h : ∀ s₁ t res, Grows s s₁ → Inv py mode s₁ → exec i s₁ e t res → Grows s t → Own i s t →
      Inv py mode t → Q res t) :
    Runs py mode i (Prog.eff e .ret) Q s :=
  runs_quiet (f := Prog.ret) he h

/-- A program of quiet effects leaves the call's own history alone. -/
theorem runs_uses {α : Type} {p : Program py α} (hp : p.Uses Quiet) (s : Services) :
    Runs py mode i p (fun _ t => Grows s t ∧ Own i s t) s :=
  wp_uses (system py) (outline py mode) (A := Quiet) (K := fun t => Grows s t ∧ Own i s t)
    (fun hr _ hK => ⟨hK.1.trans hr.1, hK.2.trans hr.2⟩)
    (fun _ he _ _ _ hi hK hx => by
      obtain ⟨⟨hinv, hg, hothers⟩, hown⟩ := kept_quiet he hi hx
      exact ⟨⟨hinv, fun j hj => ⟨hg, hothers j hj⟩⟩, hK.1.trans hg, hK.2.trans hown⟩)
    hp ⟨Grows.refl s, Own.refl i s⟩

/-! ## What results say -/

/-- A terminal result names a payment the provider committed with that outcome. -/
def Truthful (r : Request py) (x : Result) (s : Services) : Prop :=
  ∀ status : Status, x.state = status.state →
    ∃ p ∈ s.provider.payments.rows, p.identity.requestBytes = r.raw ∧ p.status = status

theorem Truthful.grows {r : Request py} {x : Result} {s t : Services} (h : Truthful r x s)
    (hg : Grows s t) : Truthful r x t := by
  intro status hx
  obtain ⟨p, hp, hrest⟩ := h status hx
  exact ⟨p, hg.payments hp, hrest⟩

theorem Truthful.of_state {r : Request py} {x y : Result} {s : Services} (h : Truthful r x s)
    (hy : y.state = x.state) : Truthful r y s :=
  fun status hs => h status (hy ▸ hs)

theorem truthful_of_open {r : Request py} {x : Result} {s : Services}
    (h : ∀ status : Status, x.state ≠ status.state) : Truthful r x s :=
  fun status hs => absurd hs (h status)

theorem unknown_open (status : Status) : State.unknown ≠ status.state := by cases status <;> decide

theorem rejected_open (status : Status) : State.rejected ≠ status.state := by cases status <;> decide

theorem conflict_open (status : Status) : State.conflict ≠ status.state := by cases status <;> decide

theorem journalUnavailable_open (status : Status) : State.journalUnavailable ≠ status.state := by
  cases status <;> decide

theorem truthful_unknown {r : Request py} {requestDigest : Option String} {reason : String}
    {receipt : Option Bytes} {s : Services} :
    Truthful r (result .unknown requestDigest reason receipt) s :=
  truthful_of_open unknown_open

theorem truthful_unreadable (r : Request py) (reason : String) (e : Failure) (s : Services) :
    Truthful r (unreadable r reason e) s := by
  cases e with
  | value text =>
    refine truthful_of_open fun status => ?_
    dsimp only [unreadable, result]
    split_ifs
    · exact conflict_open status
    · exact unknown_open status
  | _ => exact truthful_unknown

theorem Status.state_injective {a b : Status} (h : a.state = b.state) : a = b := by
  cases a <;> cases b <;> first | rfl | cases h

theorem fromRow_state {a : Adapter} {d : Dispatch} {status : Status}
    (h : (fromRow py a d).state = status.state) : ∃ o, d.observed = some o ∧ o.status = status := by
  unfold fromRow at h
  split at h
  · exact absurd h (unknown_open status)
  · next o ho =>
    split at h
    · split_ifs at h
      · exact ⟨o, ho, Status.state_injective h⟩
      · exact absurd h (unknown_open status)
    · exact absurd h (unknown_open status)

theorem fromRow_truthful {a : Adapter} {r : Request py} {d : Dispatch} {s : Services} (h : Inv py mode s)
    (hd : d ∈ s.journal.dispatches.rows) (hr : d.identity.requestBytes = r.raw) :
    Truthful r (fromRow py a d) s := by
  intro status hs
  obtain ⟨o, ho, rfl⟩ := fromRow_state hs
  obtain ⟨p, hp, hraw, -, hstatus⟩ := h.observed d hd o ho
  exact ⟨p, hp, hraw.trans hr, hstatus⟩

/-! ## Reading the journal and the provider's answers -/

theorem exec_read {a : Adapter} {r : Request py} {s t : Services} {d : Dispatch}
    (h : exec i s (.read a r) t (.ok (some d))) :
    t = s ∧ d ∈ s.journal.dispatches.rows ∧ d.identity.requestBytes = r.raw := by
  obtain ⟨rfl, he | ⟨_, he⟩⟩ := h
  · obtain ⟨hd, -, -, -, hraw⟩ := find_some (check_ok.1 he.symm)
    exact ⟨rfl, hd, hraw⟩
  · cases he

/-- What a program knows of an answer: if it verifies, the provider issued it. -/
def Received (py : Platform) (a : Adapter) (receipt : Bytes) (s : Services) : Prop :=
  ∀ (r : Request py) payload,
    verifyReceipt py receipt r.raw a.providerPublicKey a.providerId = .ok payload →
    Issued r (statusOf payload) receipt s

theorem Received.grows {a : Adapter} {receipt : Bytes} {s t : Services} (h : Received py a receipt s)
    (hg : Grows s t) : Received py a receipt t :=
  fun r payload hv => (h r payload hv).grows hg

theorem statusOf_receiptPayload (r : Request py) (providerId : String) (status : Status)
    (failure : Option String) (now : ℤ) :
    statusOf (receiptPayload py r providerId status failure now) = status := by
  have hi : (receiptPayload py r providerId status failure now).item "status" = .str status.text :=
    item_of_get? (by simp [receiptPayload, get?_dict, lookup_cons_ite])
  rw [statusOf, hi]
  cases status <;> decide

theorem request_receiptPayload (r : Request py) (providerId : String) (status : Status)
    (failure : Option String) (now : ℤ) :
    (receiptPayload py r providerId status failure now).item "request" = r.json :=
  item_of_get? (by simp [receiptPayload, get?_dict, lookup_cons_ite])

theorem received_of_unforged {a : Adapter} {receipt : Bytes} {s : Services} (h : Inv py mode s)
    (hu : Unforged py s.wire a.providerPublicKey receipt) : Received py a receipt s := by
  intro r payload hv
  obtain ⟨body, hbody, henv, rfl, -, ⟨message, signature, hparts, hverify⟩, -, hraw, -⟩ := verifyReceipt_ok hv
  obtain ⟨issued, hissued, issuedBody, hib, hip⟩ := hu body message signature hbody hparts hverify
  obtain ⟨p, hp, rfl⟩ := h.wire issued hissued
  obtain ⟨rp, scope, -, hid, hreceipt, -⟩ := h.payment p hp
  obtain ⟨rfl, providerId, failure, now, hpay⟩ := receipt_unique hreceipt hib hip hbody henv hparts
  rw [hpay, request_receiptPayload, rp.ok] at hraw
  refine ⟨p, hp, ?_, rfl, ?_⟩
  · rw [hid]
    exact Except.ok.inj hraw
  · rw [hpay, statusOf_receiptPayload]

theorem exec_answer {a : Adapter} {s t : Services} {code : ℕ} {body : Bytes} (hi : Inv py mode s)
    (h : exec i s (.answer a : Effect py) t (.ok (code, body))) : t = s ∧ Received py a body s := by
  obtain ⟨rfl, hb⟩ := h
  exact ⟨rfl, received_of_unforged hi (hb code body rfl).2⟩

/-! ## The programs without the claim -/

theorem runs_retainUnknown (a : Adapter) (r : Request py) (reason : String) (s : Services) :
    Runs py mode i (retainUnknown a r reason) (Truthful r) s := by
  refine runs_quiet (by trivial) fun s₁ t res _ hi hx _ _ ht => ?_
  rcases res with e | _ | d
  · exact truthful_unknown
  · exact truthful_unknown
  · obtain ⟨rfl, hd, hraw⟩ := exec_read hx
    dsimp only
    split_ifs
    · exact (fromRow_truthful hi hd hraw).of_state rfl
    · exact truthful_unknown

theorem runs_readStatus (a : Adapter) (r : Request py) (s : Services) :
    Runs py mode i (readStatusPrepared a r) (Truthful r) s := by
  refine runs_quiet (by trivial) fun s₁ t res _ hi hx _ _ ht => ?_
  split
  · next d =>
    obtain ⟨rfl, hd, hraw⟩ := exec_read hx
    exact fromRow_truthful hi hd hraw
  · exact truthful_unknown
  · next e => exact truthful_unreadable r _ e t

theorem reads_faultPoint (configured : Bool) (point : String) :
    (faultPoint configured point : Program py _).Uses ReadOnly := by
  unfold faultPoint
  split_ifs
  · exact ⟨trivial, fun _ => trivial⟩
  · trivial

theorem uses_faultPoint (configured : Bool) (point : String) :
    (faultPoint configured point : Program py _).Uses Quiet :=
  (reads_faultPoint configured point).mono fun _ => ReadOnly.quiet

theorem runs_store {a : Adapter} {r : Request py} {status : Status} {receipt : Bytes} {s : Services}
    (h : Issued r status receipt s) :
    Runs py mode i (storeRow a r status receipt) (fun res t => ∀ row, res = .ok row →
      row ∈ t.journal.dispatches.rows ∧ row.identity.requestBytes = r.raw ∧ Inv py mode t) s := by
  intro s₁ ⟨hg, _⟩ hi t res hx
  obtain ⟨⟨⟨hinv, hg', hothers⟩, -⟩, hrow⟩ := kept_store hi (h.grows hg) hx
  exact ⟨⟨hinv, fun j hj => ⟨hg', hothers j hj⟩⟩, fun row he => ⟨(hrow row he).1, (hrow row he).2, hinv⟩⟩

theorem runs_settle {a : Adapter} {r : Request py} {receipt : Bytes} {s : Services}
    (h : Received py a receipt s) :
    Runs py mode i (settleResponse a r receipt) (fun x t => ∀ y, x = .ok y → Truthful r y t) s := by
  unfold settleResponse
  split
  · exact fun y hy => by cases hy
  · next payload hv =>
    refine wp_andThen _ _ (runs_mono (runs_uses (uses_faultPoint _ _) s) fun x t ht => ?_)
    cases x with
    | error e => exact fun y hy => by cases hy
    | ok u =>
      refine wp_andThen _ _ (runs_mono (runs_store ((h r payload hv).grows ht.1)) fun x t ht => ?_)
      cases x with
      | error e => exact fun y hy => by cases hy
      | ok row =>
        intro y hy
        cases hy
        obtain ⟨hd, hraw, hi⟩ := ht row rfl
        exact fromRow_truthful hi hd hraw

theorem runs_reconcile (a : Adapter) (r : Request py) (s : Services) :
    Runs py mode i (reconcilePrepared a r) (Truthful r) s := by
  refine runs_quiet (by trivial) fun s₁ t res _ hi hx _ _ ht => ?_
  split
  · next e => exact truthful_unreadable r _ e t
  · exact truthful_unknown
  · next d =>
    obtain ⟨rfl, hd, hraw⟩ := exec_read hx
    dsimp only
    split_ifs
    · exact fromRow_truthful hi hd hraw
    · refine runs_quiet (by trivial) fun _ t _ _ _ _ _ _ _ => ?_
      refine runs_quiet (by trivial) fun _ t res _ hi hx _ _ _ => ?_
      split
      · exact runs_retainUnknown a r _ t
      · next code receipt =>
        obtain ⟨rfl, hrec⟩ := exec_answer hi hx
        split_ifs
        · exact runs_retainUnknown a r _ t
        · refine wp_bind _ _ (runs_mono (runs_settle hrec) fun x u hu => ?_)
          cases x with
          | ok y => exact hu y rfl
          | error e => exact runs_retainUnknown a r _ u

end Programs
end VapEvidence.Payment

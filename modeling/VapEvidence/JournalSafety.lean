import VapEvidence.AdmissionSafety
import VapEvidence.JournalCalls

set_option autoImplicit false

/-!
# Terminal outcomes stay

A dispatch row moves from its claim to one terminal observation and no further, and
once a call has returned that outcome every call that reads the journal returns it.
-/
namespace VapEvidence.Payment
open Json Authorization Custody Interleaving

section Rows
variable {py : Platform}

/-- All adapters of a journal have one context, one scope and one provider. -/
theorem JournalInv.pinned_eq {s : Services} (h : JournalInv py s) {a b : Adapter} (ha : a ∈ s.adapters)
    (hb : b ∈ s.adapters) : a.context = b.context ∧ a.scope = b.scope ∧ a.providerId = b.providerId ∧
      a.providerPublicKey = b.providerPublicKey := by
  obtain ⟨m, hm, hid⟩ := h.pinned a ha
  obtain ⟨m', hm', hid'⟩ := h.pinned b hb
  obtain rfl := Option.some.inj (hm.symm.trans hm')
  obtain ⟨hwa, hsa⟩ := h.adapters a ha
  obtain ⟨hwb, hsb⟩ := h.adapters b hb
  have hj := canonicalText_injective (journalIdentity_wf hwa) (journalIdentity_wf hwb) hid hid'
  have items (a : Adapter) : (journalIdentity a).item "context" = a.context ∧
      (journalIdentity a).item "provider_id" = .str a.providerId ∧
      (journalIdentity a).item "provider_public_key" = .str (hex a.providerPublicKey) := by
    refine ⟨?_, ?_, ?_⟩ <;> exact item_of_get? (by simp [journalIdentity, get?_dict, lookup_cons_ite])
  obtain ⟨hc, hp, hk⟩ := items a
  obtain ⟨hc', hp', hk'⟩ := items b
  rw [hj] at hc hp hk
  have hcontext : a.context = b.context := hc.symm.trans hc'
  refine ⟨hcontext, ?_, Json.str.inj (hp.symm.trans hp'), hex_injective (Json.str.inj (hk.symm.trans hk'))⟩
  rw [hcontext] at hsa
  exact Except.ok.inj (hsa.symm.trans hsb)

/-- The row of a request carries the identity that its adapter gives the request. -/
theorem JournalInv.identity_eq {s : Services} (h : JournalInv py s) {a : Adapter} (ha : a ∈ s.adapters)
    {r : Request py} {d : Dispatch} (hd : d ∈ s.journal.dispatches.rows)
    (hraw : d.identity.requestBytes = r.raw) : d.identity = r.identity a.scope := by
  obtain ⟨b, hb, r', hi, -⟩ := h.dispatch d hd
  rw [hi] at hraw
  obtain rfl := Request.ext_raw (show r'.raw = r.raw from hraw)
  rw [hi, (h.pinned_eq ha hb).2.1]

theorem JournalInv.find_eq {s : Services} (h : JournalInv py s) {a : Adapter} (ha : a ∈ s.adapters)
    {r : Request py} {d : Dispatch} (hd : d ∈ s.journal.dispatches.rows)
    (hraw : d.identity.requestBytes = r.raw) :
    find Dispatch.identity s.journal.dispatches.rows a.scope r = .ok (some d) :=
  find_of_identity _ hd (h.identity_eq ha hd hraw)

theorem JournalInv.row_unique {s : Services} (h : JournalInv py s) {d d' : Dispatch}
    (hd : d ∈ s.journal.dispatches.rows) (hd' : d' ∈ s.journal.dispatches.rows) {r : Request py}
    (hraw : d.identity.requestBytes = r.raw) (hdig : d'.identity.requestDigest = r.digest) : d' = d := by
  obtain ⟨a, ha, -⟩ := h.dispatch d hd
  refine s.journal.dispatches.eq_of_clash (fun _ _ h => h.symm) hd' hd (Or.inl ?_)
  rw [hdig, h.identity_eq ha hd hraw]
  rfl

/-! ## The last answer of a call -/

/-- The state and the receipt that an adapter reads off a row. -/
def Shows (a : Adapter) (row : Dispatch) (x : Except Failure Result) : Prop :=
  ∃ y, x = .ok y ∧ y.state = (fromRow py a row).state ∧ y.receipt = (fromRow py a row).receipt

def NotTerminal (x : Except Failure Result) : Prop := ∀ y, x = .ok y → y.terminal = false

/-- A value repeats the row that the call's last answer shows, or no row was shown and it is open. -/
def Repeats (a : Adapter) (r : Request py) : (e : Effect py) → e.Result → Except Failure Result → Prop
  | .claim a' r' _, res, x => a' = a ∧ r' = r ∧ match res with
    | .ok (row, _) => @Shows py a row x
    | .error _ => NotTerminal x
  | .read a' r', res, x => a' = a ∧ r' = r ∧ match res with
    | .ok (some row) => @Shows py a row x
    | _ => NotTerminal x
  | .store a' r' _ _, res, x => a' = a ∧ r' = r ∧ ∃ row, res = .ok row ∧ @Shows py a row x
  | _, _, _ => False

theorem shows_fromRow (a : Adapter) (row : Dispatch) : @Shows py a row (.ok (fromRow py a row)) :=
  ⟨_, rfl, rfl, rfl⟩

theorem notTerminal_error (e : Failure) : NotTerminal (.error e) := fun _ h => by cases h

theorem notTerminal_ok {x : Result} (h : x.terminal = false) : NotTerminal (.ok x) := by
  intro y hy
  cases hy
  exact h

theorem notTerminal_unreadable (r : Request py) (reason : String) (e : Failure) :
    NotTerminal (.ok (unreadable r reason e)) := by
  refine notTerminal_ok ?_
  cases e with
  | value text =>
    unfold unreadable
    dsimp only
    split_ifs <;> rfl
  | _ => rfl

/-- A row that shows no terminal outcome shows none at all. -/
theorem fromRow_open {a : Adapter} {row : Dispatch} (h : ¬ (fromRow py a row).terminal = true) :
    (fromRow py a row).state = .unknown ∧ (fromRow py a row).receipt = none := by
  unfold fromRow at h ⊢
  split
  · exact ⟨rfl, rfl⟩
  · next o ho =>
    rw [ho] at h
    dsimp only at h
    split
    · next payload hv =>
      rw [hv] at h
      dsimp only at h
      split_ifs at h ⊢ with hs
      · exact absurd (by cases o.status <;> rfl) h
      · exact ⟨rfl, rfl⟩
    · exact ⟨rfl, rfl⟩

theorem shows_unknown {a : Adapter} {row : Dispatch} (h : ¬ (fromRow py a row).terminal = true)
    (requestDigest : Option String) (reason : String) :
    @Shows py a row (.ok (result .unknown requestDigest reason none)) :=
  ⟨_, rfl, (fromRow_open h).1.symm, (fromRow_open h).2.symm⟩

theorem retainUnknown_concludes (a : Adapter) (r : Request py) (reason : String) :
    (retainUnknown a r reason).Concludes fun e res y => Repeats a r e res (.ok y) := by
  intro res
  rcases res with e | _ | row
  · refine ⟨fun y hy => ?_, trivial⟩
    cases hy
    exact ⟨rfl, rfl, notTerminal_ok rfl⟩
  · refine ⟨fun y hy => ?_, trivial⟩
    cases hy
    exact ⟨rfl, rfl, notTerminal_ok rfl⟩
  · change (∀ y, (if (fromRow py a row).terminal then _ else _) = Prog.ret y → _) ∧
      Prog.Concludes _ (if (fromRow py a row).terminal then _ else _)
    split_ifs with ht
    · refine ⟨fun y hy => ?_, trivial⟩
      cases hy
      exact ⟨rfl, rfl, _, rfl, rfl, rfl⟩
    · refine ⟨fun y hy => ?_, trivial⟩
      cases hy
      exact ⟨rfl, rfl, shows_unknown ht _ _⟩

theorem readStatus_concludes (a : Adapter) (r : Request py) :
    (readStatusPrepared a r).Concludes fun e res y => Repeats a r e res (.ok y) := by
  intro res
  rcases res with e | _ | row
  · refine ⟨fun y hy => ?_, trivial⟩
    cases hy
    exact ⟨rfl, rfl, notTerminal_unreadable r _ e⟩
  · refine ⟨fun y hy => ?_, trivial⟩
    cases hy
    exact ⟨rfl, rfl, notTerminal_ok rfl⟩
  · refine ⟨fun y hy => ?_, trivial⟩
    cases hy
    exact ⟨rfl, rfl, shows_fromRow a row⟩

/-- A call that catches what a piece raised goes on to read its row. -/
def Caught (a : Adapter) (r : Request py) (e : Effect py) (res : e.Result) (x : Except Failure Result) : Prop :=
  ∀ y, x = .ok y → Repeats a r e res (.ok y)

theorem caught_error (a : Adapter) (r : Request py) (e : Effect py) (res : e.Result) (f : Failure) :
    Caught a r e res (.error f) := fun _ h => by cases h

theorem faultPoint_caught {configured : Bool} {point : String} {a : Adapter} {r : Request py}
    {f : Unit → Program py (Except Failure Result)} (hf : ∀ u, (f u).Concludes (Caught a r))
    (hpending : ∀ u x, f u ≠ .ret x) :
    ((faultPoint configured point).andThen f).Concludes (Caught a r) := by
  refine Prog.Concludes.andThen ?_ hf
  unfold faultPoint
  split_ifs
  · intro res
    refine ⟨fun x hx => ?_, trivial⟩
    cases x with
    | error e => exact caught_error a r _ _ e
    | ok u => exact fun b hb => absurd hb (hpending u b)
  · trivial

theorem settle_caught (a : Adapter) (r : Request py) (receipt : Bytes) :
    (settleResponse a r receipt).Concludes (Caught a r) := by
  unfold settleResponse
  split
  · trivial
  · refine faultPoint_caught (fun _ => ?_) fun _ _ h => by cases h
    intro res
    cases res with
    | error e =>
      refine ⟨fun x hx => ?_, trivial⟩
      cases hx
      exact caught_error a r _ _ e
    | ok row =>
      refine ⟨fun x hx => ?_, trivial⟩
      cases hx
      intro y hy
      cases hy
      exact ⟨rfl, rfl, row, rfl, shows_fromRow a row⟩

theorem settle_ret {a : Adapter} {r : Request py} {receipt : Bytes} {x : Except Failure Result}
    (h : settleResponse a r receipt = .ret x) : ∃ e, x = .error e := by
  unfold settleResponse at h
  split at h
  · cases h
    exact ⟨_, rfl⟩
  · obtain ⟨u, hu, h⟩ := Prog.ret_of_bind h
    cases u with
    | error e =>
      cases h
      exact ⟨e, rfl⟩
    | ok u => cases h

/-- A piece whose errors are caught by a read. -/
theorem caught_retain {a : Adapter} {r : Request py} {p : Program py (Except Failure Result)} {reason : String}
    (hp : p.Concludes (Caught a r)) :
    (p >>= fun x => match x with
      | .ok y => .ret y
      | .error _ => retainUnknown a r reason).Concludes fun e res y => Repeats a r e res (.ok y) := by
  refine Prog.Concludes.bind (hp.mono fun e res x hx y hy => ?_) fun x => ?_
  · cases x with
    | ok z =>
      cases hy
      exact hx _ rfl
    | error f => cases hy
  · cases x with
    | ok y => trivial
    | error f => exact retainUnknown_concludes a r reason

theorem reconcile_concludes (a : Adapter) (r : Request py) :
    (reconcilePrepared a r).Concludes fun e res y => Repeats a r e res (.ok y) := by
  intro res
  rcases res with e | _ | row
  · refine ⟨fun y hy => ?_, trivial⟩
    cases hy
    exact ⟨rfl, rfl, notTerminal_unreadable r _ e⟩
  · refine ⟨fun y hy => ?_, trivial⟩
    cases hy
    exact ⟨rfl, rfl, notTerminal_ok rfl⟩
  · change (∀ y, (if (fromRow py a row).terminal then _ else _) = Prog.ret y → _) ∧
      Prog.Concludes _ (if (fromRow py a row).terminal then _ else _)
    split_ifs with ht
    · refine ⟨fun y hy => ?_, trivial⟩
      cases hy
      exact ⟨rfl, rfl, shows_fromRow a row⟩
    · refine ⟨fun y hy => (by cases hy), fun _ => ⟨fun y hy => (by cases hy), fun res => ?_⟩⟩
      rcases res with e | ⟨code, receipt⟩
      · exact ⟨fun y hy => (by cases hy), retainUnknown_concludes a r _⟩
      · change (∀ y, (if code ≠ 200 then _ else _) = Prog.ret y → _) ∧ Prog.Concludes _ (if code ≠ 200 then _ else _)
        split_ifs
        · exact ⟨fun y hy => (by cases hy), retainUnknown_concludes a r _⟩
        · refine ⟨fun y hy => ?_, caught_retain (settle_caught a r receipt)⟩
          obtain ⟨x, hx, hy⟩ := Prog.ret_of_bind hy
          obtain ⟨e, rfl⟩ := settle_ret hx
          cases hy

/-- What follows the claim: without a prerequisite or a follow-up, as `Adapter.submit` runs it. -/
theorem dispatchClaimed_caught (a : Adapter) (r : Request py) :
    (dispatchClaimed a r skip fun _ => skip).Concludes (Caught a r) := by
  refine faultPoint_caught (fun _ => ?_) fun _ _ h => by cases h
  refine fun _ => ⟨fun x hx => (by cases hx), fun res => ?_⟩
  rcases res with e | ⟨code, receipt⟩
  · refine ⟨fun x hx => ?_, trivial⟩
    cases hx
    exact caught_error a r _ _ e
  · change (∀ x, (if code ≠ 200 then _ else _) = Prog.ret x → _) ∧ Prog.Concludes _ (if code ≠ 200 then _ else _)
    split_ifs
    · refine ⟨fun x hx => (by cases hx), ?_⟩
      refine Prog.Concludes.bind ((retainUnknown_concludes a r _).mono fun e res y hy x hx => ?_) fun _ => trivial
      cases hx
      intro z hz
      cases hz
      exact hy
    · constructor
      · intro x hx
        obtain ⟨y, hy, hx⟩ := Prog.ret_of_bind hx
        obtain ⟨e, rfl⟩ := settle_ret hy
        cases hx
        exact caught_error a r _ _ e
      · refine Prog.Concludes.andThen ((settle_caught a r receipt).mono fun e res x hx => ?_) fun _ => trivial
        cases x with
        | error f => exact caught_error a r e res f
        | ok terminal =>
          intro y hy
          cases hy
          exact hx

theorem dispatchClaimed_pending (a : Adapter) (r : Request py) (x : Except Failure Result) :
    dispatchClaimed a r skip (fun _ => skip) ≠ .ret x := by
  intro h
  obtain ⟨u, hu, h⟩ := Prog.ret_of_bind h
  cases u with
  | error e =>
    unfold faultPoint at hu
    split_ifs at hu
    cases hu
  | ok u => cases h

theorem submit_concludes (a : Adapter) (r : Request py) :
    (submitPrepared a r none skip fun _ => skip).Concludes (Repeats a r) := by
  intro res
  rcases res with e | ⟨row, created⟩
  · have open_ (x : Except Failure Result) (hx : NotTerminal x) :
        (∀ y, (Prog.ret x : Program py _) = .ret y → Repeats a r (.claim a r none) (.error e) y) ∧
          (Prog.ret x : Program py _).Concludes (Repeats a r) := by
      refine ⟨fun y hy => ?_, trivial⟩
      cases hy
      exact ⟨rfl, rfl, hx⟩
    cases e with
    | value text =>
      refine open_ _ (notTerminal_ok ?_)
      split_ifs <;> rfl
    | sqlite | os => exact open_ _ (notTerminal_ok rfl)
    | blocked | other => exact open_ _ (notTerminal_error _)
  · cases created with
    | false =>
      refine ⟨fun x hx => ?_, trivial⟩
      cases hx
      exact ⟨rfl, rfl, shows_fromRow a row⟩
    | true =>
      change (∀ x, (dispatchClaimed a r skip (fun _ => skip) >>= _) = Prog.ret x → _) ∧
        Prog.Concludes _ (dispatchClaimed a r skip (fun _ => skip) >>= _)
      constructor
      · intro x hx
        obtain ⟨y, hy, -⟩ := Prog.ret_of_bind hx
        exact absurd hy (dispatchClaimed_pending a r y)
      · refine Prog.Concludes.bind ((dispatchClaimed_caught a r).mono fun e res x hx b hb => ?_) fun x => ?_
        · cases x with
          | ok y =>
            cases hb
            exact hx y rfl
          | error f => cases hb
        · cases x with
          | ok y => trivial
          | error f =>
            refine Prog.Concludes.bind ((retainUnknown_concludes a r _).mono fun e res y hy b hb => ?_) fun _ => trivial
            cases hb
            exact hy

/-! ## Calls of the adapter itself -/

/-- `submit`, `reconcile` and `read_status` of `Adapter`. -/
def JournalCall.native : JournalCall → Bool
  | .payment (.submit ..) | .payment (.reconcile ..) | .payment (.readStatus ..) => true
  | _ => false

/-- A native call's outcome repeats its last answer. -/
def Concluded (c : JournalCall) (e : Effect py) (res : e.Result) (x : Except Failure Outcome) : Prop :=
  c.native = true → ∃ r, prepare py c.adapter c.request.json = .ok r ∧ ∃ y, x = y.map .paid ∧
    Repeats c.adapter r e res y

theorem prepared_concludes {a : Adapter} {v : Json} {body : Request py → Program py (Except Failure Result)}
    {c : JournalCall} (ha : a = c.adapter) (hv : v = c.request.json) (h : ∀ r, (body r).Concludes (Repeats a r)) :
    (prepared a v (.ok rejected) body >>= fun x => Prog.ret (x.map Outcome.paid)).Concludes (Concluded c) := by
  unfold prepared
  split
  · next r hr =>
    refine Prog.Concludes.bind ((h r).mono fun e res x hx b hb => ?_) fun _ => trivial
    cases hb
    exact fun _ => ⟨r, ha ▸ hv ▸ hr, x, rfl, ha ▸ hx⟩
  · trivial

theorem concludes_any {α : Type} {F : (e : Effect py) → e.Result → α → Prop} {p : Program py α}
    (hF : ∀ e r a, F e r a) : p.Concludes F := by
  induction p with
  | ret a => trivial
  | eff e k ih => exact fun r => ⟨fun a _ => hF e r a, ih r⟩

theorem body_concludes (c : JournalCall) : (c.body py).Concludes (Concluded c) := by
  by_cases hn : c.native = true
  · cases c with
    | readCustody | checkCustody => cases hn
    | payment p =>
      cases p with
      | submit a v => exact prepared_concludes rfl rfl (submit_concludes a)
      | reconcile a v =>
        refine prepared_concludes rfl rfl fun r => ?_
        refine Prog.Concludes.bind ((reconcile_concludes a r).mono fun e res y hy b hb => ?_) fun _ => trivial
        cases hb
        exact hy
      | readStatus a v =>
        refine prepared_concludes rfl rfl fun r => ?_
        refine Prog.Concludes.bind ((readStatus_concludes a r).mono fun e res y hy b hb => ?_) fun _ => trivial
        cases hb
        exact hy
      | _ => cases hn
  · exact concludes_any fun _ _ _ h => absurd h hn

/-! ## Answers and rows -/

theorem claim_existing {a : Adapter} {r : Request py} {admitting : ℤ → Journal → Except Failure Journal} {now : ℤ}
    {j : Journal} {d : Dispatch} (h : find Dispatch.identity j.dispatches.rows a.scope r = .ok (some d)) :
    claim a r admitting now j = .ok ((d, false), j) := by
  simp [claim, h, check, Except.mapError, bind, Except.bind, pure, Except.pure]

/-- Once its row is observed, what a call concludes from is that row. -/
theorem Repeats.observed {i : ℕ} {s t : Services} {a : Adapter} {r : Request py} {e : Effect py} {res : e.Result}
    {x : Except Failure Result} (h : Repeats a r e res x) (hs : JournalInv py s) (ha : a ∈ s.adapters)
    (hx : exposed i s e t res) (hread : Readable s e res) {d : Dispatch} (hd : d ∈ s.journal.dispatches.rows)
    (hraw : d.identity.requestBytes = r.raw) {o : Observed} (ho : d.observed = some o) : @Shows py a d x := by
  have hfind := hs.find_eq ha hd hraw
  cases e with
  | claim a' r' admission =>
    obtain ⟨rfl, rfl, h⟩ := h
    obtain ⟨now, hook, j, hends, -⟩ := hx
    rw [claim_existing hfind] at hends
    cases hends with
    | committed hok =>
      cases hok
      exact h
    | raised hno => cases hno
    | refused text => exact absurd rfl ((hread _ rfl).2 text)
    | unreachable => exact absurd rfl (hread _ rfl).1
    | reported text hok => exact absurd rfl ((hread _ rfl).2 text)
  | read a' r' =>
    obtain ⟨rfl, rfl, h⟩ := h
    obtain rfl : res = readDispatch a' r' s.journal := hread
    rw [readDispatch, hfind] at h
    exact h
  | store a' r' status receipt =>
    obtain ⟨rfl, rfl, row, rfl, h⟩ := h
    obtain ⟨now, j, hends, -⟩ := hx
    cases hends with
    | committed hok =>
      obtain ⟨d', hd', hraw', hcase⟩ := storeReceipt_ok hok
      obtain rfl := hs.row_unique hd hd' hraw (by rw [hs.identity_eq ha hd' hraw']; rfl)
      rcases hcase with ⟨-, -, -, rfl, -⟩ | ⟨hnone, -⟩
      · exact h
      · rw [hnone] at ho
        cases ho
  | _ => exact h.elim

/-- A terminal value was read off a row of the journal. -/
theorem Repeats.row {i : ℕ} {s t : Services} {a : Adapter} {r : Request py} {e : Effect py} {res : e.Result}
    {y : Result} (h : Repeats a r e res (.ok y)) (hs : JournalInv py s) (ht : JournalInv py t) (ha : a ∈ s.adapters)
    (hx : exposed i s e t res) (hy : y.terminal = true) : ∃ d ∈ t.journal.dispatches.rows,
      d.identity.requestBytes = r.raw ∧ y.state = (fromRow py a d).state ∧ y.receipt = (fromRow py a d).receipt := by
  have open_ (hn : NotTerminal (.ok y)) : False := by
    rw [hn y rfl] at hy
    cases hy
  cases e with
  | claim a' r' admission =>
    obtain ⟨rfl, rfl, h⟩ := h
    obtain ⟨now, hook, j, hends, rfl⟩ := hx
    cases hends with
    | @committed row _ hok =>
      obtain ⟨z, hz, hshow⟩ := h
      cases hz
      have hkeep : ∀ j₁, callback py admission hook r' now s.journal = .ok j₁ →
          j₁.dispatches = s.journal.dispatches := by
        intro j₁ hj₁
        rw [(callback_ok hj₁).1]
      rcases claim_ok hok hkeep with ⟨-, rfl, hm, hraw⟩ | ⟨-, hrow, -, hrows, -⟩
      · exact ⟨_, hm, hraw, hshow⟩
      · refine ⟨row.1, ?_, by rw [hrow]; rfl, hshow⟩
        change row.1 ∈ j.dispatches.rows
        rw [hrows]
        exact List.mem_append_right _ List.mem_cons_self
    | raised | refused | unreachable | reported => exact (open_ h).elim
  | read a' r' =>
    obtain ⟨rfl, rfl, h⟩ := h
    rcases res with f | _ | row
    · exact (open_ h).elim
    · exact (open_ h).elim
    · obtain ⟨rfl, hm, hraw⟩ := exec_read (i := i) hx
      obtain ⟨z, hz, hshow⟩ := h
      cases hz
      exact ⟨row, hm, hraw, hshow⟩
  | store a' r' status receipt =>
    obtain ⟨rfl, rfl, row, rfl, z, hz, hshow⟩ := h
    cases hz
    have hg := grows_exposed hx
    obtain ⟨now, j, hends, rfl⟩ := hx
    cases hends with
    | committed hok =>
      obtain ⟨d, hd, hraw, ⟨o, -, -, rfl, rfl⟩ | ⟨-, hrow, hdig, -⟩⟩ := storeReceipt_ok hok
      · exact ⟨row, hd, hraw, hshow⟩
      · obtain ⟨d', hd', hid, -⟩ := hg.dispatches d hd
        have hraw' : d'.identity.requestBytes = r'.raw := by rw [hid, hraw]
        obtain rfl := ht.row_unique hd' hrow hraw' hdig
        exact ⟨row, hd', hraw', hshow⟩
  | _ => exact h.elim

/-- Adapters of one journal read the same off a row, whatever became of it since. -/
theorem fromRow_eq {a b : Adapter} (hk : a.providerPublicKey = b.providerPublicKey)
    (hp : a.providerId = b.providerId) {d d' : Dispatch} (hi : d'.identity = d.identity)
    (ho : d'.observed = d.observed) : fromRow py b d' = fromRow py a d := by
  unfold fromRow
  rw [hi, ho, hk, hp]

theorem fromRow_terminal {a : Adapter} {d : Dispatch} {y : Result} (hy : y.terminal = true)
    (hs : y.state = (fromRow py a d).state) : ∃ o, d.observed = some o := by
  cases ho : d.observed with
  | some o => exact ⟨o, rfl⟩
  | none =>
    rw [fromRow, ho] at hs
    simp [Result.terminal, hs, result] at hy

/-- The same request bytes prepare to the same request on every adapter of the journal. -/
theorem prepare_again {s : Services} (h : JournalInv py s) {a b : Adapter} (ha : a ∈ s.adapters)
    (hb : b ∈ s.adapters) {v v' : Json} {r : Request py} (hr : prepare py a v = .ok r)
    (hv : requestBytes py v' = requestBytes py v) : prepare py b v' = .ok r := by
  obtain ⟨hraw, hscope⟩ := prepare_ok hr
  rw [(h.pinned_eq ha hb).1] at hscope
  simp only [prepare, hv, hraw, r.readRequest_raw, hscope, bind, Except.bind]
  rfl

end Rows

/-! ## Runs -/

section Runs
variable {py : Platform}

theorem Dispatch.state_cases (d : Dispatch) :
    (d.state = "CLAIMED" ∧ d.observed = none) ∨
      ((d.state = "SETTLED" ∨ d.state = "FAILED") ∧ ∃ o, d.observed = some o) := by
  unfold Dispatch.state
  cases ho : d.observed with
  | none => exact .inl ⟨rfl, rfl⟩
  | some o =>
    refine .inr ⟨?_, o, rfl⟩
    change o.status.upper = _ ∨ o.status.upper = _
    cases o.status with
    | settled => exact .inl rfl
    | failed => exact .inr rfl

/-- Every row stays, with its request and its claim, and moves at most from `CLAIMED` to a terminal state. -/
theorem rows_move {s t : Services} (hg : Grows s t) {d : Dispatch} (hd : d ∈ s.journal.dispatches.rows) :
    ∃ d' ∈ t.journal.dispatches.rows, d'.identity = d.identity ∧ d'.claimedAt = d.claimedAt ∧
      (d' = d ∨ d.state = "CLAIMED" ∧ (d'.state = "SETTLED" ∨ d'.state = "FAILED")) := by
  obtain ⟨d', hd', hi, hc, ho⟩ := hg.dispatches d hd
  refine ⟨d', hd', hi, hc, ?_⟩
  have same (h : d'.observed = d.observed) : d' = d := by
    cases d
    cases d'
    cases hi
    cases hc
    cases h
    rfl
  rcases d.state_cases with ⟨hclaimed, hnone⟩ | ⟨-, o, hsome⟩
  · rcases d'.state_cases with ⟨-, hnone'⟩ | ⟨hterminal, -⟩
    · exact .inl (same (hnone'.trans hnone.symm))
    · exact .inr ⟨hclaimed, hterminal⟩
  · exact .inl (same ((ho o hsome).trans hsome.symm))

theorem native_pending {c : JournalCall} (hc : c.native = true) {r : Request py}
    (hp : prepare py c.adapter c.request.json = .ok r) (x : Except Failure Outcome) : c.body py ≠ .ret x := by
  have pending {a : Adapter} {v : Json} {e : Effect py} {k : e.Result → Program py (Except Failure Result)}
      {body : Request py → Program py (Except Failure Result)} (hv : prepare py a v = .ok r) (hk : body r = .eff e k) :
      (prepared a v (.ok rejected) body >>= fun x => Prog.ret (x.map Outcome.paid)) ≠ .ret x := by
    unfold prepared
    rw [hv]
    intro h
    obtain ⟨y, hy, -⟩ := Prog.ret_of_bind h
    dsimp only at hy
    rw [hk] at hy
    cases hy
  cases c with
  | readCustody | checkCustody => cases hc
  | payment p =>
    cases p with
    | submit | reconcile | readStatus => exact pending hp rfl
    | _ => cases hc

/-- A native call that does nothing rejects its request. -/
theorem native_rejected {c : JournalCall} (hc : c.native = true) {y : Result}
    (h : c.body py = .ret (.ok (.paid y))) : y = rejected := by
  cases hp : prepare py c.adapter c.request.json with
  | ok r => exact absurd h (native_pending hc hp _)
  | error e =>
    have refused {a : Adapter} {v : Json} {body : Request py → Program py (Except Failure Result)}
        (hv : prepare py a v = .error e) (h : (prepared a v (.ok rejected) body >>=
          fun x => Prog.ret (x.map Outcome.paid)) = .ret (.ok (.paid y))) : y = rejected := by
      unfold prepared at h
      rw [hv] at h
      cases h
      rfl
    cases c with
    | readCustody | checkCustody => cases hc
    | payment p =>
      cases p with
      | submit | reconcile | readStatus => exact refused hp h
      | _ => cases hc

theorem unread_run {w w' : JournalWorld py} (hr : JournalRun py w w') {i : ℕ} (h : i ∈ w.shared.unread) :
    i ∈ w'.shared.unread := by
  induction hr with
  | refl => exact h
  | tail _ hstep ih =>
    cases hstep with
    | spawn | crash => exact ih
    | run j at_eff done =>
      rcases done.2 with ⟨-, hu⟩ | ⟨-, hu⟩
      · rw [hu]
        exact ih
      · rw [hu]
        exact List.mem_cons_of_mem _ ih
    | environment done =>
      rw [done.2]
      exact ih

/-- A native call that returned repeats an answer it got while it was open. -/
theorem native_concludes {w w' : JournalWorld py} (h : JournalReachable py w) (hr : JournalRun py w w') {i : ℕ}
    {c : JournalCall} {x : Except Failure Outcome} (hc : c.native = true)
    (hopen : ∀ b, w.procs i ≠ .live c (.ret b)) (hi : w'.procs i = .live c (.ret x)) {r : Request py}
    (hp : prepare py c.adapter c.request.json = .ok r) :
    ∃ e res, Performed (journalSystem py) (fun s c => c.Constructed s.services) (JournalCall.body py) w w' i c e res ∧
      ∃ y, x = y.map .paid ∧ Repeats c.adapter r e res y := by
  rcases concludes_run body_concludes h hr hopen hi with hret | ⟨e, res, hperf, hF⟩
  · exact absurd hret (native_pending hc hp x)
  · obtain ⟨r', hr', y, hy, hrep⟩ := hF hc
    obtain rfl := Except.ok.inj (hr'.symm.trans hp)
    exact ⟨e, res, hperf, y, hy, hrep⟩

/-- A terminal value that a native call returned stands in a row of the journal. -/
theorem returned_row {w : JournalWorld py} (h : JournalReachable py w) {i : ℕ} {c : JournalCall} {y : Result}
    (hi : w.procs i = .live c (.ret (.ok (.paid y)))) (hc : c.native = true) (hy : y.terminal = true) :
    ∃ r, prepare py c.adapter c.request.json = .ok r ∧ ∃ d ∈ w.shared.services.journal.dispatches.rows,
      d.identity.requestBytes = r.raw ∧ y.state = (fromRow py c.adapter d).state ∧
        y.receipt = (fromRow py c.adapter d).receipt := by
  have hbody := concludes_run body_concludes .refl h (fun b hb => by cases hb) hi
  rcases hbody with hret | ⟨e, res, ⟨v, v', hv, hvv, hv', ⟨k, hk⟩, hx⟩, hF⟩
  · exact absurd hy (by rw [native_rejected hc hret]; decide)
  obtain ⟨r, hr, z, hz, hrep⟩ := hF hc
  cases z with
  | error f => cases hz
  | ok z =>
    cases hz
    have hinv := journal_inv hv
    have ha := hinv.1.adapter_mem (hinv.2 i c _ hk)
    obtain ⟨d, hd, hraw, hstate, hreceipt⟩ := hrep.row hinv.1 (journal_inv (hv.trans hvv)).1 ha hx.1 hy
    obtain ⟨d', hd', hi', -, ho⟩ := (journal_grows hv').dispatches d hd
    obtain ⟨o, hobs⟩ := fromRow_terminal hy hstate
    have hsame := @fromRow_eq py c.adapter c.adapter rfl rfl d d' hi' ((ho o hobs).trans hobs.symm)
    exact ⟨r, hr, d', hd', by rw [hi', hraw], hsame ▸ hstate, hsame ▸ hreceipt⟩

/-- What a call performs, where none of its reads failed, is answered from the journal. -/
theorem performed_readable {w w' : JournalWorld py} {j : ℕ} {c : JournalCall} {e : Effect py} {res : e.Result}
    (h : Performed (journalSystem py) (fun s c => c.Constructed s.services) (JournalCall.body py) w w' j c e res)
    (hread : j ∉ w'.shared.unread) :
    ∃ v v' : JournalWorld py, JournalRun py w v ∧ (∃ k, v.procs j = .live c (.eff e k)) ∧
      exposed j v.shared.services e v'.shared.services res ∧ Readable v.shared.services e res := by
  obtain ⟨v, v', hv, -, hv', hk, hx⟩ := h
  refine ⟨v, v', hv, hk, hx.1, ?_⟩
  by_contra hno
  refine hread (unread_run hv' ?_)
  rcases hx.2 with ⟨hyes, -⟩ | ⟨-, hun⟩
  · exact absurd hyes hno
  · rw [hun]
    exact List.mem_cons_self

end Runs

/-! ## A small instance -/

def sampleDigest : String := "sha256:0000000000000000000000000000000000000000000000000000000000000000"

def sampleRequest : Value where
  json := dict [("schema", .str requestSchema), ("tenant", .str "t"), ("environment", .str "e"),
    ("api_audience", .str "a"), ("idempotency_domain", .str "i"), ("currency", .str "JPY"),
    ("minor_unit_scale", .int 0), ("operation_id", .str "o"), ("idempotency_key", .str "k"),
    ("configuration_digest", .str sampleDigest), ("recovery_epoch", .int 1), ("source_account", .str "alice"),
    ("beneficiary", .str "bob"), ("amount_minor", .str "1")]
  wf := dict_wf (by simp [Json.WF])

def sampleAdapter : Adapter where
  host := "127.0.0.1"
  port := 8080
  context := sampleContext
  scope := sampleDigest
  providerPublicKey := List.replicate 32 7
  credential := "credential-of-the-sample"
  configurationDigest := sampleDigest
  recoveryEpoch := 1
  providerId := "synthetic-loopback-provider-v0"
  faultHook := false

theorem requestBytes_eq {py : Platform} {v c : Json} {raw : Bytes} (hw : v.WF) (h : canonical py v = .ok raw)
    (hf : (v.hasFields requestFields && v.item "schema" = .str requestSchema) = true)
    (hc : validateContext py (pick contextFields v) = .ok c) (ho : requestFieldsOk v = true) :
    requestBytes py v = .ok raw := by
  simp only [requestBytes, h, load_canonical hw h, hf, hc, ho, require, if_true, bind, Except.bind, pure,
    Except.pure]

theorem prepare_eq {py : Platform} {a : Adapter} {v : Json} {raw : Bytes} (hw : v.WF)
    (h : requestBytes py v = .ok raw) (hs : checkScope v a.context = .ok ()) :
    prepare py a v = .ok ⟨v, raw, hw, h⟩ := by
  have hread := Request.readRequest_raw ⟨v, raw, hw, h⟩ "prepared_request_bytes_mismatch"
  dsimp only at hread
  simp only [prepare, h, hread, hs, bind, Except.bind, pure, Except.pure]

theorem newAdapter_eq {py : Platform} {endpoint host scope : String} {port : ℕ} {context : Json} {key : Bytes}
    {credential digest : String} {epoch : ℤ} {providerId : String} {faultHook : Bool}
    (he : checkEndpoint endpoint = .ok (host, port)) (hc : validateContext py context = .ok context)
    (hs : scopeOf py context = .ok scope) (hk : key.length = 32) (hl : py.publicKeyLoads key = true)
    (hcred : credentialOk credential = true) (hg : (integerOk (.int epoch) && hashText digest) = true)
    (ht : textOk (.str providerId) = true) :
    newAdapter py endpoint context key credential digest epoch providerId faultHook =
      .ok ⟨host, port, context, scope, key, credential, digest, epoch, providerId, faultHook⟩ := by
  simp only [newAdapter, he, hc, hs, hk, hl, hcred, hg, ht, require, decide_true, if_true, bind, Except.bind, pure,
    Except.pure]

theorem initializeJournal_eq {py : Platform} {a : Adapter} {identity generation : String}
    (hi : canonicalText py (journalIdentity a) = .ok identity)
    (hg : canonicalText py (generationValue a.recoveryEpoch a.configurationDigest) = .ok generation) :
    initializeJournal py a .empty = .ok { Journal.empty with metadata := some ⟨identity, some generation⟩ } := by
  simp only [initializeJournal, Journal.empty, storeMeta, hi, hg, check, Except.mapError, bind, Except.bind, pure,
    Except.pure]

theorem sample_bytesDigest (raw : Bytes) : bytesDigest samplePlatform raw = sampleDigest := by
  change "sha256:" ++ hex (List.replicate 32 0) = sampleDigest
  decide +kernel

theorem sampleAdapter_made : newAdapter samplePlatform "http://127.0.0.1:8080" sampleContext (List.replicate 32 7)
    "credential-of-the-sample" sampleDigest 1 "synthetic-loopback-provider-v0" false = .ok sampleAdapter := by
  have hscope : scopeOf samplePlatform sampleContext = .ok sampleDigest := by
    have h := @canonical_eq samplePlatform (pick scopeFields sampleContext) (by decide +kernel) (by decide +kernel)
    simp only [scopeOf, digest, h, sample_bytesDigest, bind, Except.bind, pure, Except.pure]
  exact newAdapter_eq (by decide +kernel) sampleContext_valid hscope rfl rfl (by decide +kernel)
    (by decide +kernel) (by decide +kernel)

theorem sampleJournal_opened : ∃ j, initializeJournal samplePlatform sampleAdapter .empty = .ok j :=
  ⟨_, initializeJournal_eq (canonicalText_eq (by decide +kernel) (by decide +kernel))
    (canonicalText_eq (by decide +kernel) (by decide +kernel))⟩

theorem sampleRequest_prepared : ∃ r, prepare samplePlatform sampleAdapter sampleRequest.json = .ok r := by
  have hpick : pick contextFields sampleRequest.json = sampleContext := by decide +kernel
  have hcanonical := @canonical_eq samplePlatform sampleRequest.json (by decide +kernel) (by decide +kernel)
  have hbytes := requestBytes_eq sampleRequest.wf hcanonical (by decide +kernel) (hpick ▸ sampleContext_valid)
    (by decide +kernel)
  exact ⟨_, prepare_eq sampleRequest.wf hbytes (by decide +kernel)⟩

/-- From any state `read_status` on an opened adapter runs to its return. -/
theorem readStatus_run {py : Platform} {a : Adapter} {v : Value} {r : Request py} (hr : prepare py a v.json = .ok r)
    {s : Watched} (ha : a ∈ s.services.adapters) :
    ∃ w' x, JournalRun py ⟨s, fun _ => .idle⟩ w' ∧ w'.procs 0 = .live (.payment (.readStatus a v)) (.ret x) := by
  let c : JournalCall := .payment (.readStatus a v)
  let w : JournalWorld py := ⟨s, fun _ => .idle⟩
  obtain ⟨k, hbody, x, hk⟩ : ∃ k, c.body py = .eff (.read a r) k ∧
      ∃ x, k (readDispatch a r s.services.journal) = .ret x := by
    simp only [c, JournalCall.body, Call.body, prepared, hr]
    refine ⟨_, rfl, ?_⟩
    rcases readDispatch a r s.services.journal with e | _ | row <;> exact ⟨_, rfl⟩
  let u : JournalWorld py := ⟨s, Function.update w.procs 0 (.live c (c.body py))⟩
  have hat : u.procs 0 = .live c (.eff (.read a r) k) := by
    rw [← hbody]
    exact Function.update_self 0 _ w.procs
  have hread : (journalSystem py).exec 0 u.shared (.read a r) s (readDispatch a r s.services.journal) :=
    ⟨⟨rfl, .inl rfl⟩, .inl ⟨rfl, rfl⟩⟩
  have hstep : Step (journalSystem py) (fun s c => c.Constructed s.services) (JournalCall.body py) u _ :=
    .run 0 hat hread
  rw [hk] at hstep
  exact ⟨_, x, .tail (.single (.spawn 0 c rfl ha)) hstep, Function.update_self 0 _ u.procs⟩

end VapEvidence.Payment

import VapEvidence.PaymentRuns

set_option autoImplicit false

/-!
# One payment, one receipt

Over every run: one message and one payment for each identity of a request, sent
by the submission that inserted the claim, and terminal claims that carry the
receipt of that payment.
-/
namespace VapEvidence.Payment
open Json Authorization Custody Interleaving

section Submitters
variable {py : Platform} {i : ℕ}

/-- The effects through which a call may come to send. -/
def Claims : Effect py → Prop
  | .claim .. | .post .. => True
  | _ => False

theorem Quiet.not_claims {e : Effect py} (h : Quiet e) : ¬ Claims e := by
  cases e <;> first | exact h.elim | exact id

theorem reads_retainUnknown (a : Adapter) (r : Request py) (reason : String) :
    (retainUnknown a r reason).Uses ReadOnly := by
  refine ⟨trivial, fun res => ?_⟩
  rcases res with e | _ | d
  · trivial
  · trivial
  · change Prog.Uses ReadOnly (if (fromRow py a d).terminal then _ else _)
    split_ifs <;> trivial

theorem uses_retainUnknown (a : Adapter) (r : Request py) (reason : String) :
    (retainUnknown a r reason).Uses Quiet :=
  (reads_retainUnknown a r reason).mono fun _ => ReadOnly.quiet

theorem uses_settle (a : Adapter) (r : Request py) (receipt : Bytes) :
    (settleResponse a r receipt).Uses fun e => ¬ Claims e := by
  unfold settleResponse
  split
  · trivial
  · refine ((uses_faultPoint _ _).mono fun _ => Quiet.not_claims).andThen fun _ => ?_
    exact Prog.Uses.andThen ⟨id, fun _ => trivial⟩ fun _ => trivial

theorem uses_reconcile (a : Adapter) (r : Request py) : (reconcilePrepared a r).Uses fun e => ¬ Claims e := by
  have hretain (reason : String) := (uses_retainUnknown a r reason).mono fun _ => Quiet.not_claims
  refine ⟨id, fun res => ?_⟩
  rcases res with e | _ | d
  · trivial
  · trivial
  · change Prog.Uses _ (if (fromRow py a d).terminal then _ else _)
    split_ifs
    · trivial
    · refine ⟨id, fun _ => ⟨id, fun res => ?_⟩⟩
      rcases res with e | ⟨code, receipt⟩
      · exact hretain _
      · change Prog.Uses _ (if code ≠ 200 then _ else _)
        split_ifs
        · exact hretain _
        · refine (uses_settle a r receipt).bind fun x => ?_
          rcases x with e | y
          · exact hretain _
          · trivial

theorem uses_prepared {a : Adapter} {request : Json} {refused : Except Failure Result} {A : Effect py → Prop}
    {body : Request py → Program py (Except Failure Result)} (h : ∀ r, (body r).Uses A) :
    (prepared a request refused body).Uses A := by
  unfold prepared
  split
  · exact h _
  · trivial

theorem uses_recoverEvidence (c : CollectedAdapter) (r : Request py) :
    (recoverEvidencePrepared c r).Uses Quiet := by
  refine (uses_originals c r).andThen fun packages => (uses_recoverAll c r packages).bind fun _ => ?_
  refine (uses_readStatus _ r).bind fun x => (uses_attachAdmission _ r x).bind fun y => ?_
  exact (uses_attachCustody c r y).bind fun _ => trivial

/-- Only submissions claim or send. -/
theorem uses_of_not_submits {c : Call} (h : c.submits = false) : (c.body py).Uses fun e => ¬ Claims e := by
  have quiet {α : Type} {p : Program py α} (hp : p.Uses Quiet) := hp.mono fun _ => Quiet.not_claims
  cases c with
  | submit | submitAuthorized | submitCollected => cases h
  | reconcile a v => exact uses_prepared fun r => (uses_reconcile a r).bind fun _ => trivial
  | readStatus a v => exact uses_prepared fun r => (quiet (uses_readStatus a r)).bind fun _ => trivial
  | reconcileAuthorized g v =>
    exact uses_prepared fun r => (uses_reconcile _ r).bind fun x =>
      (quiet (uses_attachAdmission g r x)).bind fun _ => trivial
  | readStatusAuthorized g v =>
    exact uses_prepared fun r => quiet ((uses_readStatus _ r).bind fun x =>
      (uses_attachAdmission g r x).bind fun _ => trivial)
  | reconcileCollected c v =>
    exact uses_prepared fun r => (uses_reconcile _ r).bind fun x =>
      quiet ((uses_attachAdmission _ r x).bind fun y => (uses_attachCustody c r y).bind fun _ => trivial)
  | readStatusCollected c v =>
    exact uses_prepared fun r => quiet ((uses_readStatus _ r).bind fun x =>
      (uses_attachAdmission _ r x).bind fun y => (uses_attachCustody c r y).bind fun _ => trivial)
  | recoverEvidence c v =>
    exact uses_prepared fun r => quiet ((uses_recoverEvidence c r).andThen fun _ => trivial)

theorem exec_inserted {s t : Services} {e : Effect py} {res : e.Result} (h : exec i s e t res) (j : ℕ)
    (hm : ∃ raw, (j, raw) ∈ t.inserted) : (∃ raw, (j, raw) ∈ s.inserted) ∨ (j = i ∧ Claims e) := by
  obtain ⟨raw, hraw⟩ := hm
  cases e with
  | claim a r admission =>
    obtain ⟨_, _, j', -, rfl⟩ := h
    rcases List.mem_append.1 hraw with hraw | hraw
    · exact Or.inl ⟨raw, hraw⟩
    · obtain ⟨_, -, he⟩ := List.mem_map.1 hraw
      exact Or.inr ⟨(congrArg Prod.fst he).symm, trivial⟩
  | store | persist =>
    obtain ⟨_, _, -, rfl⟩ := h
    exact Or.inl ⟨raw, hraw⟩
  | post | get | hook | refuse | nonce =>
    obtain rfl : t = _ := h
    exact Or.inl ⟨raw, hraw⟩
  | read | answer | authorization | readback | custody =>
    obtain ⟨rfl, -⟩ := h
    exact Or.inl ⟨raw, hraw⟩
  | collect =>
    rcases h with ⟨rfl, -⟩ | ⟨rfl, -⟩ | ⟨_, -, _, _, _, -, rfl, -⟩ <;> exact Or.inl ⟨raw, hraw⟩

theorem environment_inserted {s t : Services} (h : Environment py s t) : t.inserted = s.inserted := by
  cases h <;> rfl

/-- The call that inserted a claim is a submission. -/
theorem submits_of_inserted {allowed : Call → Prop} {w : PaymentWorld py} (h : Reachable py allowed w)
    {m : ℕ × Bytes} (hm : m ∈ w.shared.inserted) :
    ∃ c, (w.procs m.1).call = some c ∧ c.submits = true := by
  have henv : ∀ {s t}, (system py).env s t → ∀ j, (∃ raw, (j, raw) ∈ t.inserted) → ∃ raw, (j, raw) ∈ s.inserted :=
    fun he j ⟨raw, hraw⟩ => ⟨raw, environment_inserted he ▸ hraw⟩
  have hinit : ∀ j, ¬ ∃ raw, (j, raw) ∈ Services.initial.inserted := fun _ ⟨_, hraw⟩ => by cases hraw
  obtain ⟨c, hc, hu⟩ := marked_run exec_inserted henv hinit h ⟨m.2, hm⟩
  refine ⟨c, hc, ?_⟩
  by_contra hns
  exact hu (uses_of_not_submits (by simpa using hns))

end Submitters

/-! ## One payment for each identity -/

section Once
variable {py : Platform}

/-- The payments sent in a scope under one value of a request's key. -/
def sentFor (key : Request py → String) (scope value : String) (s : Services) : List (ℕ × Bytes) :=
  s.sent.filter fun m => match readRequest py "" m.2 with
    | .ok r => r.scope = .ok scope && key r = value
    | .error _ => false

def paymentsFor (key : Identity → String) (scope value : String) (s : ProviderStore) : List PaymentRow :=
  s.payments.rows.filter fun p => p.identity.scope = scope && key p.identity = value

/-- The effects of the payments in a scope under one value of a key. -/
def effectsFor (key : Identity → String) (scope value : String) (s : ProviderStore) : List EffectRow :=
  s.effects.rows.filter fun e =>
    (paymentsFor key scope value s).any fun p => p.identity.requestDigest = e.requestDigest

/-- Within a scope, one value of the key is sent, paid and settled at most once. -/
structure OncePer (requestKey : Request py → String) (rowKey : Identity → String) (s : Services) : Prop where
  sent : ∀ scope value, (sentFor requestKey scope value s).length ≤ 1
  payments : ∀ scope value, (paymentsFor rowKey scope value s.provider).length ≤ 1
  effects : ∀ scope value, (effectsFor rowKey scope value s.provider).length ≤ 1

/-- A message was claimed by its sender, for the request it carries. -/
theorem sent_dispatch {mode : Mode} {s : Services} (h : Inv py mode s) {m : ℕ × Bytes} (hm : m ∈ s.sent) :
    ∃ d ∈ s.journal.dispatches.rows, ∃ (r : Request py) (scope : String), r.raw = m.2 ∧
      r.scope = .ok scope ∧ d.identity = r.identity scope := by
  have hmem : m.2 ∈ s.inserted.map Prod.snd := List.mem_map_of_mem (h.sentOwned m hm)
  rw [h.inserted] at hmem
  obtain ⟨d, hd, hraw⟩ := List.mem_map.1 hmem
  obtain ⟨a, ha, r, hid, hs⟩ := h.dispatch d hd
  rw [hid] at hraw
  exact ⟨d, hd, r, a.scope, hraw, (scope_of_checkScope hs).trans (h.adapters a ha).2, hid⟩

theorem mem_sentFor {key : Request py → String} {scope value : String} {s : Services} {m : ℕ × Bytes}
    (h : m ∈ sentFor key scope value s) :
    m ∈ s.sent ∧ ∃ r : Request py, r.raw = m.2 ∧ r.scope = .ok scope ∧ key r = value := by
  obtain ⟨hm, hp⟩ := List.mem_filter.1 h
  refine ⟨hm, ?_⟩
  split at hp
  · next r hr =>
    simp only [Bool.and_eq_true, decide_eq_true_eq] at hp
    exact ⟨r, readRequest_ok hr, hp.1, hp.2⟩
  · cases hp

theorem oncePer {mode : Mode} {s : Services} (h : Inv py mode s) {requestKey : Request py → String}
    {rowKey : Identity → String} (hkey : ∀ (r : Request py) scope, rowKey (r.identity scope) = requestKey r)
    (hclash : ∀ a b : Identity, a.scope = b.scope → rowKey a = rowKey b → a.Clash b) :
    OncePer requestKey rowKey s := by
  have hpay : ∀ scope value, (paymentsFor rowKey scope value s.provider).length ≤ 1 := by
    intro scope value
    refine s.provider.payments.length_filter_le_one _ fun a b ha hb => ?_
    simp only [Bool.and_eq_true, decide_eq_true_eq] at ha hb
    exact hclash _ _ (ha.1.trans hb.1.symm) (ha.2.trans hb.2.symm)
  refine ⟨fun scope value => ?_, hpay, fun scope value => ?_⟩
  · refine length_le_one_of_pairwise (h.sentNodup.filter _) fun m hm m' hm' hne => hne ?_
    obtain ⟨hs, r, hr, hscope, hvalue⟩ := mem_sentFor hm
    obtain ⟨hs', r', hr', hscope', hvalue'⟩ := mem_sentFor hm'
    obtain ⟨d, hd, q, scope₁, hq, hq₁, hid⟩ := sent_dispatch h hs
    obtain ⟨d', hd', q', scope₂, hq', hq₂, hid'⟩ := sent_dispatch h hs'
    obtain rfl := Request.ext_raw (hq.trans hr.symm)
    obtain rfl := Request.ext_raw (hq'.trans hr'.symm)
    obtain rfl := Except.ok.inj (hq₁.symm.trans hscope)
    obtain rfl := Except.ok.inj (hq₂.symm.trans hscope')
    have heq := s.journal.dispatches.eq_of_clash (fun _ _ h => h.symm) hd hd' (by
      rw [hid, hid']
      exact hclash _ _ rfl (by rw [hkey, hkey, hvalue, hvalue']))
    have hraw : m.2 = m'.2 := by
      rw [← hq, ← hq']
      exact congrArg Identity.requestBytes (hid.symm.trans ((congrArg Dispatch.identity heq).trans hid'))
    exact inserted_unique h (h.sentOwned m hs) (h.sentOwned m' hs') hraw
  · refine s.provider.effects.length_filter_le_one _ fun a b ha hb => ?_
    obtain ⟨p, hp, hpa⟩ := List.any_eq_true.1 ha
    obtain ⟨q, hq, hqb⟩ := List.any_eq_true.1 hb
    have hpq : p = q := by
      match hl : paymentsFor rowKey scope value s.provider, hpay scope value with
      | [], _ =>
        rw [hl] at hp
        cases hp
      | [x], _ =>
        rw [hl] at hp hq
        rw [List.mem_singleton.1 hp, List.mem_singleton.1 hq]
    rw [← of_decide_eq_true hpa, ← of_decide_eq_true hqb, hpq]

end Once

/-! ## One receipt for each claim -/

section Agreement
variable {py : Platform}

theorem Dispatch.state_settled {d : Dispatch} {o : Observed} (h : d.observed = some o) :
    d.state = "SETTLED" ↔ o.status = .settled := by
  rw [Dispatch.state, h]
  change o.status.upper = "SETTLED" ↔ o.status = .settled
  cases o.status <;> decide

theorem Dispatch.observed_of_state {d : Dispatch} (h : d.state ≠ "CLAIMED") : ∃ o, d.observed = some o := by
  cases ho : d.observed with
  | none => exact absurd (by rw [Dispatch.state, ho]) h
  | some o => exact ⟨o, rfl⟩

def effectsOf (p : PaymentRow) (s : ProviderStore) : List EffectRow :=
  s.effects.rows.filter fun e => e.requestDigest = p.identity.requestDigest

theorem effectsOf_settled {mode : Mode} {s : Services} (h : Inv py mode s) {p : PaymentRow}
    (hp : p ∈ s.provider.payments.rows) (hs : p.status = .settled) :
    (effectsOf p s.provider).length = 1 := by
  have hle : (effectsOf p s.provider).length ≤ 1 :=
    s.provider.effects.length_filter_le_one _ fun a b ha hb =>
      (of_decide_eq_true ha).trans (of_decide_eq_true hb).symm
  have hmem : p.identity.requestDigest ∈ s.provider.effects.rows.map EffectRow.requestDigest := by
    rw [h.effects]
    exact List.mem_map_of_mem (List.mem_filter.2 ⟨hp, decide_eq_true hs⟩)
  obtain ⟨e, he, hd⟩ := List.mem_map.1 hmem
  have hpos : 0 < (effectsOf p s.provider).length :=
    List.length_pos_of_mem (List.mem_filter.2 ⟨he, decide_eq_true hd⟩)
  omega

end Agreement
end VapEvidence.Payment

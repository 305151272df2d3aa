import VapEvidence.PaymentRuns
import VapEvidence.ProofRecheck

set_option autoImplicit false

/-!
# A claim and its proof

Where every claim passes the admission gate: claims and proofs are written
together or not at all, and each proof gives back the decision of its claim.
-/
namespace VapEvidence.Payment
open Json Authorization Custody Interleaving

section Admissions
variable {py : Platform} {mode : Mode}

/-- A row with the identity of a request is what `_find` finds. -/
theorem find_of_identity {α : Type} {key : α → Identity} (t : Table key Identity.Clash) {row : α}
    {r : Request py} {scope : String} (hm : row ∈ t.rows) (hk : key row = r.identity scope) :
    find key t.rows scope r = .ok (some row) := by
  have hp : row ∈ t.rows.filter fun row => (key row).scope = scope &&
      ((key row).operationId = r.operationId || (key row).idempotencyKey = r.idempotencyKey) := by
    rw [List.mem_filter, hk]
    simp [Request.identity, hm]
  have hle : (t.rows.filter fun row => (key row).scope = scope &&
      ((key row).operationId = r.operationId || (key row).idempotencyKey = r.idempotencyKey)).length ≤ 1 := by
    refine length_le_one_of_pairwise (t.unique.filter _) fun a ha b hb hne => ?_
    have selected {a : α} (ha : a ∈ t.rows.filter fun row => (key row).scope = scope &&
        ((key row).operationId = r.operationId || (key row).idempotencyKey = r.idempotencyKey)) : a = row := by
      obtain ⟨ha, hs⟩ := List.mem_filter.1 ha
      simp only [Bool.and_eq_true, Bool.or_eq_true, decide_eq_true_eq] at hs
      exact t.eq_of_clash (fun _ _ h => h.symm) ha hm (Or.inr ⟨by rw [hk]; exact hs.1, by rw [hk]; exact hs.2⟩)
    rw [selected ha, selected hb] at hne
    exact hne (Or.inl rfl)
  unfold find
  match hl : t.rows.filter fun row => (key row).scope = scope &&
      ((key row).operationId = r.operationId || (key row).idempotencyKey = r.idempotencyKey), hle with
  | [], _ =>
    rw [hl] at hp
    cases hp
  | [x], _ =>
    rw [hl] at hp
    obtain rfl := List.mem_singleton.1 hp
    dsimp only
    rw [hk]
    exact if_pos ⟨rfl, rfl, rfl⟩

/-- The adapters on one journal share its scope. -/
theorem adapters_scope {s : Services} (h : Inv py mode s) {a b : Adapter} (ha : a ∈ s.adapters)
    (hb : b ∈ s.adapters) : a.scope = b.scope := by
  obtain ⟨m, hm, hid⟩ := h.pinned a ha
  obtain ⟨m', hm', hid'⟩ := h.pinned b hb
  obtain rfl := Option.some.inj (hm.symm.trans hm')
  obtain ⟨hwa, hsa⟩ := h.adapters a ha
  obtain ⟨hwb, hsb⟩ := h.adapters b hb
  have hj := canonicalText_injective (journalIdentity_wf hwa) (journalIdentity_wf hwb) hid hid'
  have hc : a.context = b.context := by
    have context (a : Adapter) : (journalIdentity a).item "context" = a.context :=
      item_of_get? (by simp [journalIdentity, get?_dict, lookup_cons_ite])
    rw [← context a, hj, context b]
  rw [hc] at hsa
  exact Except.ok.inj (hsa.symm.trans hsb)

theorem Decided.recheck {s : Services} (h : Inv py mode s) {d : Dispatch} {p : ProofRow} {decision : Json}
    (hd : Decided py s d p decision) : recheckDecision py p.recordBytes = .ok decision := by
  obtain ⟨g, hg, r, supplied, policy, trust, identities, -, hp, ht, hi, hassess, hv, hrec, -⟩ := hd
  obtain ⟨config, hook, hnew⟩ := (h.authorized g hg).2
  obtain ⟨policy', trust', identities', hc⟩ := newAuthorizedAdapter_configured hnew
  obtain rfl := Except.ok.inj (hp.symm.trans (policyOf_again hc.accepted.choose_spec hc.policyBytes).1)
  obtain rfl := Except.ok.inj (ht.symm.trans (trustManifest_again hc.keyed.choose_spec hc.trustBytes).1)
  obtain rfl := Except.ok.inj (hi.symm.trans (identityManifest_again hc.identified.choose_spec
    hc.identitiesBytes).1)
  exact recheckDecision_proofRecord hc hassess hv hrec

/-- Any gate on the journal reads an admitted claim's proof. -/
theorem Decided.reading {s : Services} (h : Inv py mode s) {d : Dispatch} {p : ProofRow} {decision : Json}
    (hd : Decided py s d p decision) (hdm : d ∈ s.journal.dispatches.rows) (hpm : p ∈ s.journal.proofs.rows)
    {g : AuthorizedAdapter} (hg : g ∈ s.authorized) {r : Request py} (hr : r.raw = d.identity.requestBytes) :
    readAuthorization g r s.journal =
      ⟨.found, r.digest, some p.recordBytes, some p.recordDigest, some decision⟩ := by
  have hrecheck := hd.recheck h
  obtain ⟨g', -, r', supplied, policy, trust, identities, hraw, -, -, -, hassess, hv, hrec, hp⟩ := hd
  obtain rfl := Request.ext_raw (hr.trans hraw)
  obtain ⟨a, ha, r'', hid, hs⟩ := h.dispatch d hdm
  obtain rfl : r = r'' := Request.ext_raw (hr.trans (congrArg Identity.requestBytes hid))
  rw [adapters_scope h ha (h.authorized g hg).1] at hid
  have hfind := find_of_identity s.journal.dispatches hdm hid
  have hproof : s.journal.proofs.rows.find? (fun p => p.requestDigest = r.digest) = some p := by
    have hpd : p.requestDigest = r.digest := congrArg ProofRow.requestDigest hp
    cases hf : s.journal.proofs.rows.find? fun p => p.requestDigest = r.digest with
    | none => exact absurd (decide_eq_true hpd) (List.find?_eq_none.1 hf p hpm)
    | some q =>
      have hq : q.requestDigest = r.digest := by simpa using List.find?_some hf
      rw [s.journal.proofs.eq_of_clash (fun _ _ h => h.symm) (List.mem_of_find?_eq_some hf) hpm
        (hq.trans hpd.symm)]
  obtain ⟨hwf, -, hrequest, -, hadm⟩ := assess_ok hassess
  have hload := load_canonical (proofRecord_wf r _ _ _ _ _ hwf) hrec
  have hbytes := (proofRecord_items r g'.policyBytes g'.trustBytes g'.identitiesBytes g'.maxStatusAgeMs
    (freezeEvidence supplied).1 decision).2.1
  have hdigest : bytesDigest py p.recordBytes = p.recordDigest := (congrArg ProofRow.recordDigest hp).symm
  have hat : p.admittedAt = d.claimedAt := congrArg ProofRow.admittedAt hp
  simp only [readAuthorization, hfind, hproof, readingOf, hrecheck, hload, hbytes, hrequest, (hadm hv).1, hdigest,
    hat, and_self, if_true]

/-- A claim whose admission fails leaves the journal as it was and creates no row. -/
theorem claim_refused {a : Adapter} {r : Request py} {admitting : ℤ → Journal → Except Failure Journal} {now : ℤ}
    {j j' : Journal} {res : Except Failure (Dispatch × Bool)} {e : Failure} (h : admitting now j = .error e)
    (hends : Ends (claim a r admitting now j) j j' res) : j' = j ∧ ∀ row, res ≠ .ok (row, true) := by
  have none : ∀ row created j', claim a r admitting now j = .ok ((row, created), j') → j' = j ∧ created = false := by
    intro row created j' hc
    rcases claim_ok hc (fun j₁ h₁ => by rw [h] at h₁; cases h₁) with ⟨hf, hj, -⟩ | ⟨-, -, -, -, j₁, h₁, -⟩
    · exact ⟨hj, hf⟩
    · rw [h] at h₁
      cases h₁
  rcases ends_cases hends with ⟨hj, hno⟩ | ⟨⟨row, created⟩, htx, hres⟩
  · exact ⟨hj, fun row => hno _⟩
  · obtain ⟨hj, rfl⟩ := none row created j' htx
    exact ⟨hj, fun row' hr => by cases hres _ hr⟩

/-- The worlds a run reaches from one it is in. -/
abbrev Later (py : Platform) (mode : Mode) : PaymentWorld py → PaymentWorld py → Prop :=
  Run (system py) (fun s c => c.Constructed s ∧ mode.Allowed c) (Call.body py)

/-- The world after call `i` got the answer `res` to its claim. -/
def afterClaim (w : PaymentWorld py) (i : ℕ) (c : Call)
    (k : Except Failure (Dispatch × Bool) → Program py (Except Failure Result)) (j : Journal)
    (res : Except Failure (Dispatch × Bool)) : PaymentWorld py :=
  ⟨{ w.shared with journal := j, inserted := w.shared.inserted ++ newClaims i w.shared.journal j,
                   unclaimed := w.shared.unclaimed ++ unclaimedBy i res },
    Function.update w.procs i (.live c (k res))⟩

/-- A call whose claim created no row sends nothing, whatever follows. -/
theorem unclaimed_sends_nothing {w : PaymentWorld py} (h : Reachable py mode.Allowed w) {i : ℕ} {c : Call}
    {a : Adapter} {r : Request py} {admission : Option Admission}
    {k : Except Failure (Dispatch × Bool) → Program py (Except Failure Result)}
    (hi : w.procs i = .live c (.eff (.claim a r admission) k)) {now : ℤ} {hook : Except Failure Unit} {j : Journal}
    {res : Except Failure (Dispatch × Bool)}
    (hends : Ends (claim a r (callback py admission hook r) now w.shared.journal) w.shared.journal j res)
    (hres : ∀ row, res ≠ .ok (row, true)) {w' : PaymentWorld py}
    (hlater : Later py mode (afterClaim w i c k j res) w') (raw : Bytes) : (i, raw) ∉ w'.shared.sent := by
  have hstep : Step (system py) (fun s c => c.Constructed s ∧ mode.Allowed c) (Call.body py) w
      (afterClaim w i c k j res) := .run i hi ⟨now, hook, j, hends, rfl⟩
  have hnext : Reachable py mode.Allowed (afterClaim w i c k j res) := h.tail hstep
  have hmem : i ∈ (afterClaim w i c k j res).shared.unclaimed := by
    refine List.mem_append_right _ ?_
    rcases res with e | ⟨row, created⟩
    · exact List.mem_cons_self
    · cases created with
      | false => exact List.mem_cons_self
      | true => exact absurd rfl (hres row)
  exact (payment_inv (hnext.trans hlater)).unclaimed i ((payment_grows hnext hlater).unclaimed hmem) raw

end Admissions
end VapEvidence.Payment

import VapEvidence.CustodyRecords

set_option autoImplicit false

/-!
# What the journal transactions do

One lemma for each transaction on the journal: the rows it adds or rewrites, and
the tables it leaves alone.
-/
namespace VapEvidence.Payment
open Json Authorization Custody

section Transactions
variable {py : Platform}

/-- Checking the scope makes the request's scope the context's. -/
theorem scope_of_checkScope {r : Request py} {context : Json} {u : Unit}
    (h : checkScope r.json context = .ok u) : r.scope = scopeOf py context := by
  have hf := require_ok.1 h
  simp only [List.all_eq_true, decide_eq_true_eq] at hf
  have hp : pick scopeFields r.json = pick scopeFields context := by
    rw [pick, pick, List.map_congr_left fun f hf' => by rw [hf f hf']]
  rw [Request.scope, scopeOf, scopeOf, hp]

theorem prepare_ok {a : Adapter} {v : Json} {r : Request py} (h : prepare py a v = .ok r) :
    requestBytes py v = .ok r.raw ∧ checkScope r.json a.context = .ok () := by
  obtain ⟨raw, hraw, h⟩ := bind_ok h
  obtain ⟨r', hr', h⟩ := bind_ok h
  obtain ⟨u, hu, h⟩ := bind_ok h
  cases h
  rw [readRequest_ok hr']
  exact ⟨hraw, hu⟩

/-- A validated request prepares again, to itself. -/
theorem prepare_request {a : Adapter} {r : Request py} (h : checkScope r.json a.context = .ok ()) :
    prepare py a r.json = .ok r := by
  simp only [prepare, r.ok, bind, Except.bind, Request.readRequest_raw, h]
  rfl

theorem selectDispatch_ok {j : Journal} {requestDigest : String} {d : Dispatch}
    (h : selectDispatch j requestDigest = .ok d) :
    d ∈ j.dispatches.rows ∧ d.identity.requestDigest = requestDigest := by
  unfold selectDispatch at h
  split at h
  · next row hrow =>
    cases h
    exact ⟨List.mem_of_find?_eq_some hrow, by simpa using List.find?_some hrow⟩
  · cases h

theorem commitJournal_ok {j j' : Journal} (h : commitJournal j = .ok j') : j' = j := by
  unfold commitJournal at h
  split_ifs at h
  cases h
  rfl

/-- A claim finds its row, or adds one behind what the callback did. -/
theorem claim_ok {a : Adapter} {r : Request py} {admitting : ℤ → Journal → Except Failure Journal} {now : ℤ}
    {j j' : Journal} {row : Dispatch} {created : Bool}
    (h : claim a r admitting now j = .ok ((row, created), j'))
    (hkeep : ∀ j₁, admitting now j = .ok j₁ → j₁.dispatches = j.dispatches) :
    (created = false ∧ j' = j ∧ row ∈ j.dispatches.rows ∧ row.identity.requestBytes = r.raw) ∨
    (created = true ∧ row = ⟨r.identity a.scope, now, none⟩ ∧
      find Dispatch.identity j.dispatches.rows a.scope r = .ok none ∧
      j'.dispatches.rows = j.dispatches.rows ++ [row] ∧
      ∃ j₁, admitting now j = .ok j₁ ∧ j' = { j₁ with dispatches := j'.dispatches }) := by
  obtain ⟨existing, hfind, h⟩ := bind_ok h
  rw [check_ok] at hfind
  cases existing with
  | some d =>
    cases h
    obtain ⟨hm, -, -, -, hraw⟩ := find_some hfind
    exact Or.inl ⟨rfl, rfl, hm, hraw⟩
  | none =>
    obtain ⟨_, -, h⟩ := bind_ok h
    obtain ⟨_, -, h⟩ := bind_ok h
    obtain ⟨j₁, hj₁, h⟩ := bind_ok h
    obtain ⟨dispatches, hins, h⟩ := bind_ok h
    obtain ⟨d, hd, h⟩ := bind_ok h
    obtain ⟨j₂, hj₂, h⟩ := bind_ok h
    cases h
    obtain rfl := commitJournal_ok hj₂
    rw [integrity_ok] at hins
    have hrows := (Table.insert_some hins).1
    obtain ⟨hmem, hdig⟩ := selectDispatch_ok hd
    have hnew : (⟨r.identity a.scope, now, none⟩ : Dispatch) ∈ dispatches.rows :=
      hrows ▸ List.mem_append_right _ List.mem_cons_self
    obtain rfl := dispatches.eq_of_clash (fun _ _ h => h.symm) hmem hnew (Or.inl hdig)
    refine Or.inr ⟨rfl, rfl, hfind, ?_, j₁, hj₁, rfl⟩
    rw [← hkeep j₁ hj₁]
    exact hrows

/-- What `admit` retains: one proof record of an authorized decision. -/
theorem admit_ok {c : Admission} {hook : Except Failure Unit} {r : Request py} {now : ℤ} {j j' : Journal}
    (h : c.admitting hook r now j = .ok j') :
    ∃ policy trust identities decision record,
      load py c.gate.policyBytes = .ok policy ∧ load py c.gate.trustBytes = .ok trust ∧
      load py c.gate.identitiesBytes = .ok identities ∧
      assess r c.evidence c.problems policy trust identities now c.gate.maxStatusAgeMs = .ok decision ∧
      decision.item "verdict" = .str "AUTHORIZED" ∧
      canonical py (proofRecord r c.gate.policyBytes c.gate.trustBytes c.gate.identitiesBytes
        c.gate.maxStatusAgeMs c.evidence decision) = .ok record ∧
      j'.proofs.rows = j.proofs.rows ++ [⟨r.digest, record, bytesDigest py record, now⟩] ∧
      j' = { j with proofs := j'.proofs } := by
  obtain ⟨policy, hp, h⟩ := bind_ok h
  obtain ⟨trust, ht, h⟩ := bind_ok h
  obtain ⟨identities, hi, h⟩ := bind_ok h
  obtain ⟨decision, hd, h⟩ := bind_ok h
  rw [check_ok] at hp ht hi hd
  by_cases hv : decision.item "verdict" ≠ .str "AUTHORIZED"
  · rw [if_pos hv] at h
    cases h
  rw [if_neg hv] at h
  obtain ⟨record, hr, h⟩ := bind_ok h
  obtain ⟨proofs, hins, h⟩ := bind_ok h
  rw [check_ok] at hr
  rw [integrity_ok] at hins
  refine ⟨policy, trust, identities, decision, record, hp, ht, hi, hd, not_not.1 hv, hr, ?_⟩
  split at h
  · cases h
    exact ⟨(Table.insert_some hins).1, rfl⟩
  · cases h

/-- The row update of `_store_receipt`. -/
def observeRow (requestDigest : String) (o : Observed) (d : Dispatch) : Dispatch :=
  if d.identity.requestDigest = requestDigest && d.observed.isNone then { d with observed := some o } else d

@[simp] theorem observeRow_identity (requestDigest : String) (o : Observed) (d : Dispatch) :
    (observeRow requestDigest o d).identity = d.identity := by
  unfold observeRow
  split_ifs <;> rfl

@[simp] theorem observeRow_claimedAt (requestDigest : String) (o : Observed) (d : Dispatch) :
    (observeRow requestDigest o d).claimedAt = d.claimedAt := by
  unfold observeRow
  split_ifs <;> rfl

theorem observeRow_observed {requestDigest : String} {o o' : Observed} {d : Dispatch}
    (h : d.observed = some o') : (observeRow requestDigest o d).observed = some o' := by
  rw [observeRow, if_neg (by simp [h])]
  exact h

theorem observed_observeRow {requestDigest : String} {o o' : Observed} {d : Dispatch}
    (h : (observeRow requestDigest o d).observed = some o') :
    d.observed = some o' ∨ (d.identity.requestDigest = requestDigest ∧ o' = o) := by
  unfold observeRow at h
  split_ifs at h with hc
  · simp only [Bool.and_eq_true, decide_eq_true_eq] at hc
    exact Or.inr ⟨hc.1, (Option.some.inj h).symm⟩
  · exact Or.inl h

/-- Storing a receipt finds the claim, and its row carries that receipt already or is given it. -/
theorem storeReceipt_ok {a : Adapter} {r : Request py} {status : Status} {receipt : Bytes} {now : ℤ}
    {j j' : Journal} {row : Dispatch} (h : storeReceipt a r status receipt now j = .ok (row, j')) :
    ∃ d ∈ j.dispatches.rows, d.identity.requestBytes = r.raw ∧
      ((∃ o, d.observed = some o ∧ o.receipt = receipt ∧ row = d ∧ j' = j) ∨
        (d.observed = none ∧ row ∈ j'.dispatches.rows ∧ row.identity.requestDigest = r.digest ∧
          j'.dispatches.rows = j.dispatches.rows.map (observeRow r.digest ⟨status, receipt, now⟩) ∧
          j' = { j with dispatches := j'.dispatches })) := by
  obtain ⟨existing, hfind, h⟩ := bind_ok h
  rw [check_ok] at hfind
  cases existing with
  | none => cases h
  | some d =>
    obtain ⟨hm, -, -, -, hraw⟩ := find_some hfind
    refine ⟨d, hm, hraw, ?_⟩
    dsimp only at h
    split at h
    · next o ho =>
      by_cases hr : o.receipt ≠ receipt
      · rw [if_pos hr] at h
        cases h
      · rw [if_neg hr] at h
        cases h
        exact Or.inl ⟨o, ho, not_not.1 hr, rfl, rfl⟩
    · next hnone =>
      obtain ⟨d', hd', h⟩ := bind_ok h
      cases h
      obtain ⟨hm', hdig⟩ := selectDispatch_ok hd'
      exact Or.inr ⟨hnone, hm', hdig, rfl, rfl⟩

/-- A conflict is raised only over a row that carries another receipt. -/
theorem storeReceipt_conflict {a : Adapter} {r : Request py} {status : Status} {receipt : Bytes}
    {now : ℤ} {j : Journal}
    (h : storeReceipt a r status receipt now j = .error (.value "conflicting_terminal_receipt")) :
    ∃ d ∈ j.dispatches.rows, d.identity.requestBytes = r.raw ∧
      ∃ o, d.observed = some o ∧ o.receipt ≠ receipt := by
  unfold storeReceipt at h
  cases hfind : find Dispatch.identity j.dispatches.rows a.scope r with
  | error text =>
    simp only [hfind, check, Except.mapError, bind, Except.bind, Except.error.injEq, Failure.value.injEq] at h
    unfold find at hfind
    split at hfind
    · cases hfind
    · split_ifs at hfind
      cases hfind
      exact absurd h (by decide)
    · cases hfind
      exact absurd h (by decide)
  | ok existing =>
    simp only [hfind, check, Except.mapError, bind, Except.bind] at h
    cases existing with
    | none =>
      simp only [Except.error.injEq, Failure.value.injEq] at h
      exact absurd h (by decide)
    | some d =>
      obtain ⟨hm, -, -, -, hraw⟩ := find_some hfind
      refine ⟨d, hm, hraw, ?_⟩
      dsimp only at h
      split at h
      · next o ho =>
        by_cases hr : o.receipt ≠ receipt
        · exact ⟨o, ho, hr⟩
        · rw [if_neg hr] at h
          cases h
      · split at h
        · next e he =>
          unfold selectDispatch at he
          split at he
          · cases he
          · cases he
            cases h
        · cases h

/-- `_persist` adds one observation of the package, and with it a marker before dispatch. -/
theorem persist_ok {c : CollectedAdapter} {r : Request py} {package : Bytes} {observed : Collected}
    {stage : String} {recordedAt : ℤ} {j j' : Journal}
    (h : persist c r package observed stage recordedAt j = .ok j') :
    ∃ value pinDigest record, validatePackage py package c.pins.context = .ok value ∧
      stages.contains stage = true ∧ encodeDigest py (pinIdentity c.pins) = .ok pinDigest ∧
      encode py (observationValue c.pins pinDigest package value observed stage recordedAt) = .ok record ∧
      j'.observations.rows = j.observations.rows ++ [⟨bytesDigest py record,
        (value.item "request_digest").text, (value.item "kind").text, stage, record⟩] ∧
      (stage = "PRE_DISPATCH" → (value.item "kind").text = Kind.admissionRecord.text ∧
        j'.prerequisites.rows = j.prerequisites.rows ++
          [⟨(value.item "request_digest").text, bytesDigest py record⟩]) ∧
      (stage ≠ "PRE_DISPATCH" → j'.prerequisites = j.prerequisites) ∧
      j' = { j with observations := j'.observations, prerequisites := j'.prerequisites } := by
  obtain ⟨value, hvalue, h⟩ := bind_ok h
  obtain ⟨_, hstage, h⟩ := bind_ok h
  obtain ⟨pinDigest, hpin, h⟩ := bind_ok h
  obtain ⟨record, hrecord, h⟩ := bind_ok h
  obtain ⟨_, -, h⟩ := bind_ok h
  obtain ⟨claim, -, h⟩ := bind_ok h
  obtain ⟨_, -, h⟩ := bind_ok h
  obtain ⟨_, -, h⟩ := bind_ok h
  obtain ⟨observations, hins, h⟩ := bind_ok h
  rw [check_ok] at hvalue hstage hpin hrecord
  rw [integrity_ok] at hins
  refine ⟨value, pinDigest, record, hvalue, require_ok.1 hstage, hpin, hrecord, ?_⟩
  by_cases hp : stage = "PRE_DISPATCH"
  · rw [if_pos hp] at h
    obtain ⟨_, hkind, h⟩ := bind_ok h
    obtain ⟨prerequisites, hmark, h⟩ := bind_ok h
    cases h
    rw [check_ok] at hkind
    rw [integrity_ok] at hmark
    exact ⟨(Table.insert_some hins).1,
      fun _ => ⟨of_decide_eq_true (require_ok.1 hkind), (Table.insert_some hmark).1⟩,
      fun hn => absurd hp hn, rfl⟩
  · rw [if_neg hp] at h
    cases h
    exact ⟨(Table.insert_some hins).1, fun hn => absurd hn hp, fun _ => rfl, rfl⟩

end Transactions
end VapEvidence.Payment

import VapEvidence.UploadCalls
import VapEvidence.IncidentEnvelopes

set_option autoImplicit false

/-!
# The journal as the gateways meet it

How the journal answers the effects of its callers, before a transaction is committed
or after, and what its answers say.
-/
namespace VapEvidence.Upload
open Json Incident Interleaving

variable {pk : Packages}

variable (pk) in
/-- A transaction takes place or not, and one that took place may go unacknowledged. -/
def transact (s : Journal) : (e : Effect) → Journal → Answer e → Prop
  | .lookup requestId, t, r => t = s ∧ (r = none ∨ r = some (s requestId))
  | .claim requestId fingerprint serialized, t, r =>
    (t = s ∧ ∃ e, r = .error e) ∨
      (∃ row, claimIntent pk requestId fingerprint serialized s = .ok (.inl row) ∧ t = s ∧ r = .ok (some row)) ∨
      (claimIntent pk requestId fingerprint serialized s = .ok (.inr t) ∧ (r = .ok none ∨ ∃ e, r = .error e))
  | .finish requestId state details serialized, t, r =>
    (t = s ∧ ∃ e, r = .error e) ∨
      (∃ row, setTerminal pk requestId state details serialized s = .ok (.inl row) ∧ t = s ∧ r = .ok (some row)) ∨
      (setTerminal pk requestId state details serialized s = .ok (.inr t) ∧ (r = .ok none ∨ ∃ e, r = .error e))
  | _, t, _ => t = s

theorem claimIntent_keeps {requestId fingerprint k : String} {serialized : List Char} {journal journal' : Journal}
    (h : claimIntent pk requestId fingerprint serialized journal = .ok (.inr journal')) (hk : journal' k = none) :
    journal k = none := by
  obtain ⟨hnone, rfl⟩ := claimIntent_inserted h
  by_cases hr : k = requestId
  · exact hr ▸ hnone
  · rwa [Function.update_of_ne hr] at hk

theorem setTerminal_keeps {requestId state k : String} {details : Json} {serialized : List Char}
    {journal journal' : Journal} (h : setTerminal pk requestId state details serialized journal = .ok (.inr journal'))
    (hk : journal' k = none) : journal k = none := by
  obtain ⟨stored, -, -, rfl⟩ := setTerminal_written h
  by_cases hr : k = requestId
  · subst k
    simp at hk
  · rwa [Function.update_of_ne hr] at hk

/-- No row is removed. -/
theorem transact_absent {s t : Journal} {e : Effect} {r : Answer e} {k : String} (h : transact pk s e t r)
    (hk : t k = none) : s k = none := by
  cases e with
  | lookup requestId =>
    rw [h.1] at hk
    exact hk
  | claim requestId fingerprint serialized =>
    rcases h with ⟨rfl, -⟩ | ⟨row, -, rfl, -⟩ | ⟨hinsert, -⟩
    · exact hk
    · exact hk
    · exact claimIntent_keeps hinsert hk
  | finish requestId state details serialized =>
    rcases h with ⟨rfl, -⟩ | ⟨row, -, rfl, -⟩ | ⟨hset, -⟩
    · exact hk
    · exact hk
    · exact setTerminal_keeps hset hk
  | _ =>
    obtain rfl : t = s := h
    exact hk

/-- The commit of an intent that `claim` learned of. -/
def inserts (requestId : String) : (e : Effect) × Answer e → Bool
  | ⟨.claim r _ _, .ok none⟩ => r = requestId
  | _ => false

theorem inserts_transact {requestId : String} {s t : Journal} {e : Effect} {r : Answer e} (h : transact pk s e t r)
    (hi : inserts requestId ⟨e, r⟩) : s requestId = none ∧ t requestId ≠ none := by
  cases e with
  | claim rid fingerprint serialized =>
    rcases r with _ | _ | row
    · cases hi
    · obtain rfl : rid = requestId := by simpa [inserts] using hi
      rcases h with ⟨-, e, he⟩ | ⟨row, -, -, he⟩ | ⟨hinsert, -⟩
      · cases he
      · cases he
      · obtain ⟨hnone, rfl⟩ := claimIntent_inserted hinsert
        exact ⟨hnone, by simp⟩
    · cases hi
  | _ => cases hi

/-! ## Rows that were read -/

/-- A row of JSON values. -/
def Row.WF (row : Row) : Prop := row.snapshot.WF ∧ row.details.WF

theorem decodeRow_wf {requestId : String} {stored : StoredRow} {row : Row} (h : decodeRow pk requestId stored = .ok row) :
    row.WF := by
  unfold decodeRow at h
  obtain ⟨_, -, h⟩ := bind_ok h
  obtain ⟨_, -, h⟩ := bind_ok h
  obtain ⟨_, -, h⟩ := bind_ok h
  obtain ⟨snapshot, hsnapshot, h⟩ := bind_ok h
  obtain ⟨details, hdetails, h⟩ := bind_ok h
  obtain ⟨_, -, h⟩ := bind_ok h
  obtain ⟨_, -, h⟩ := bind_ok h
  cases h
  refine ⟨decodeJson_wf hsnapshot, ?_⟩
  cases ht : stored.details with
  | none =>
    rw [ht] at hdetails
    cases hdetails
    trivial
  | some t =>
    rw [ht] at hdetails
    exact decodeJson_wf hdetails

/-- A row that comes with an answer is one that was read. -/
def Plain : (e : Effect) × Answer e → Prop
  | ⟨.claim .., .ok (some row)⟩ => row.WF
  | _ => True

theorem plain_transact {s t : Journal} {e : Effect} {r : Answer e} (h : transact pk s e t r) : Plain ⟨e, r⟩ := by
  cases e with
  | claim requestId fingerprint serialized =>
    rcases r with _ | _ | row
    · trivial
    · trivial
    · rcases h with ⟨-, e, he⟩ | ⟨row', hfound, -, he⟩ | ⟨-, he | ⟨e, he⟩⟩
      · cases he
      · cases he
        unfold claimIntent at hfound
        split at hfound
        · obtain ⟨found, hdecoded, hfound⟩ := bind_ok hfound
          cases hfound
          exact decodeRow_wf hdecoded
        · cases hfound
      · cases he
      · cases he
  | _ => trivial

variable (pk) in
/-- `claim` answers with a row that was read. -/
theorem claimRow_plain (requestId : Json) (fingerprint : String) (snapshot : Json) :
    Prog.Along (fun _ _ => True) (fun h r => (∀ o ∈ h, Plain o) → ∀ x : String × Row, r = .ok x → x.2.WF)
      (claimRow pk requestId fingerprint snapshot) [] := by
  unfold claimRow
  refine Prog.Along.andThen ?_
  cases identifier requestId with
  | error e => exact fun _ _ h => nomatch h
  | ok id =>
    refine Prog.Along.andThen ?_
    cases checkFingerprint fingerprint with
    | error e => exact fun _ _ h => nomatch h
    | ok _ =>
      refine Prog.Along.andThen ?_
      cases encoded pk snapshot with
      | error e => exact fun _ _ h => nomatch h
      | ok serialized =>
        refine ⟨trivial, fun r => ?_⟩
        rcases r with e | found | row
        · exact fun _ _ h => nomatch h
        · refine Prog.Along.after_andThen (fun _ _ _ => trivial) (selectRow_unsent pk id) ?_ (fun _ _ _ _ _ h => nomatch h)
          intro read d hread _
          cases read with
          | none => exact fun _ _ h => nomatch h
          | some row =>
            rintro - _ ⟨⟩
            exact (selectRow_reads id).path hread row rfl
        · rintro hplain _ ⟨⟩
          exact hplain ⟨.claim id fingerprint serialized, .ok (some row)⟩ (by simp)
where
  selectRow_reads (id : String) :
      Prog.Along (fun _ _ => True) (fun _ r => ∀ row, r = .ok (some row) → row.WF) (selectRow pk id) [] := by
    refine Prog.Along.andThen ⟨trivial, fun found => ?_⟩
    rcases found with _ | _ | stored
    · exact fun _ h => nomatch h
    · exact fun _ h => nomatch h
    · intro row hrow
      obtain ⟨row', hdecoded, hrow⟩ := map_ok hrow
      cases hrow
      exact decodeRow_wf hdecoded

end VapEvidence.Upload

import VapEvidence.ErasureTask

set_option autoImplicit false

/-!
# The deletion journal

Results and journal rows of `provider.py`, and the two transactions that write the
journal.
-/
namespace VapEvidence.Erasure
open Json Incident

def intent : String := "deletion_intent"
/-- `TERMINAL` -/
def terminal : List String := ["LOCAL_UNLINK_CONFIRMED", "ACKNOWLEDGED_ONLY", "BLOCKED", "OUTCOME_UNKNOWN"]
/-- `RESULT_STATES` -/
def resultStates : List String := terminal ++ ["REPLAY_NO_ACTION", "REQUEST_ID_CONFLICT"]
def resultFields : List String :=
  ["state", "attempted", "acknowledgement", "attestation", "receipt", "journal_state", "reason"]

/-! ## Results -/

/-- The result of a deletion; absent evidence is `null`. -/
structure Result where
  state : String
  attempted : Bool
  acknowledgement : Json
  attestation : Json
  receipt : Json
  journalState : String
  reason : String

def Result.toJson (r : Result) : Json :=
  dict [("state", .str r.state), ("attempted", .bool r.attempted), ("acknowledgement", r.acknowledgement),
    ("attestation", r.attestation), ("receipt", r.receipt), ("journal_state", .str r.journalState),
    ("reason", .str r.reason)]

def isState (choices : List String) : Json → Bool
  | .str s => choices.contains s
  | _ => false

/-- `_validate_result` -/
@[irreducible] def validateResult (result : Json) : Run Unit := do
  exactKeys result resultFields []
  let state := result.item "state"
  let attempted := result.item "attempted"
  Incident.require (isState resultStates state) "Unsupported provider result state"
  Incident.require ((attempted = .bool true || attempted = .bool false) && isNonemptyText (result.item "reason"))
    "Malformed provider attempt or reason"
  Incident.require (isState (terminal ++ [intent, "NOT_CLAIMED", "UNAVAILABLE"]) (result.item "journal_state"))
    "Unsupported provider journal state"
  ["acknowledgement", "attestation", "receipt"].forM fun k =>
    Incident.require (result.item k = .null || (result.item k).isDict) "Malformed provider evidence envelope"
  if state = .str "LOCAL_UNLINK_CONFIRMED" then
    Incident.require (attempted = .bool true && ["acknowledgement", "attestation", "receipt"].all fun k => result.item k ≠ .null)
      "Confirmed local unlink lacks its measured evidence"
  else
    Incident.require (result.item "attestation" = .null && result.item "receipt" = .null)
      "An unconfirmed result cannot assert completion"
  Incident.require (!(isState ["BLOCKED", "ACKNOWLEDGED_ONLY", "REPLAY_NO_ACTION", "REQUEST_ID_CONFLICT"] state &&
    attempted = .bool true)) "Provider state is inconsistent with an unlink attempt"
  Incident.require (!(state = .str "ACKNOWLEDGED_ONLY" && result.item "acknowledgement" = .null))
    "Acknowledgement-only state lacks its acknowledgement"
  Incident.require (!(isState ["REPLAY_NO_ACTION", "REQUEST_ID_CONFLICT"] state && result.item "acknowledgement" ≠ .null))
    "Replays cannot issue fresh acknowledgements"
where
  isNonemptyText : Json → Bool
    | .str s => s ≠ ""
    | _ => false

/-! ## Rows -/

/-- A row of `erasure_journal` under its request identifier. -/
structure StoredRow where
  fingerprint : String
  state : String
  snapshot : List Char
  result : Option (List Char)

/-- `erasure_journal` -/
abbrev Journal : Type := String → Option StoredRow

/-- A decoded row; an absent result is `null`. -/
structure Row where
  requestId : String
  fingerprint : String
  state : String
  snapshot : Json
  result : Json

section Rows
variable (pk : Packages)

/-- `_historical_context` -/
def historicalContext (task pins : Json) : Run TaskContext := do
  let requestedAt : Run Json := do
    sub (← sub (← sub (← sub task "request") "body") "data") "requested_at"
  match requestedAt with
  | .ok at_ => validateTask pk task pins at_
  | .error _ => inputError "Task lacks its original request time"

/-- `_validate_row` -/
def validateRow (pins : Json) (row : Row) : Run Unit := do
  let context ← historicalContext pk row.snapshot pins
  Incident.require (row.requestId = context.requestId && row.fingerprint = context.taskSha256)
    "Journal row does not bind its original signed task"
  Incident.require (terminal.contains row.state || row.state = intent) "Unsupported persisted deletion state"
  if row.state = intent then
    Incident.require (row.result = .null) "An unfinished intent cannot contain a terminal result"
  else
    validateResult row.result
    Incident.require (row.result.item "state" = .str row.state && row.result.item "journal_state" = .str row.state)
      "Persisted terminal state and result disagree"

def decodeResult : Option (List Char) → Run Json
  | none => .ok .null
  | some t => decodeJson pk (encodeUtf8 t)

/-- `_decode_row` of a row that is there. -/
def decodeRow (pins : Json) (requestId : String) (stored : StoredRow) : Run Row := do
  let snapshot ← decodeJson pk (encodeUtf8 stored.snapshot)
  let result ← decodeResult pk stored.result
  let row : Row := ⟨requestId, stored.fingerprint, stored.state, snapshot, result⟩
  validateRow pk pins row
  return row

/-- `canonical(value).decode()` -/
def canonicalText (value : Json) : Run (List Char) := do
  match decodeUtf8 (← canonical pk value) with
  | some s => .ok s
  | none => .error .other

/-! ## Transactions -/

/-- The transaction of `_claim` up to its commit: the row it finds, or the journal with the intent. -/
def claimIntent (pins : Json) (requestId fingerprint : String) (snapshot : Json) (journal : Journal) :
    Run (Row ⊕ Journal) := do
  match journal requestId with
  | some stored => return .inl (← decodeRow pk pins requestId stored)
  | none =>
    let text ← canonicalText pk snapshot
    return .inr (Function.update journal requestId (some ⟨fingerprint, intent, text, none⟩))

/-- The transaction of `_finish` up to its commit. -/
def setTerminal (pins : Json) (requestId state : String) (result : Json) (journal : Journal) : Run Journal := do
  match journal requestId with
  | none => .error .other
  | some stored =>
    let row ← decodeRow pk pins requestId stored
    if row.state = intent then
      let text ← canonicalText pk result
      return Function.update journal requestId (some { stored with state := state, result := some text })
    else .error .other

variable {pk}

theorem historicalContext_sha256 {task pins : Json} {context : TaskContext}
    (h : historicalContext pk task pins = .ok context) :
    ∃ captured, capture pk task = .ok captured ∧ digest pk captured = .ok context.taskSha256 := by
  unfold historicalContext at h
  dsimp only at h
  split at h
  · exact validateTask_sha256 h
  · cases h

theorem decodeRow_state {pins : Json} {requestId : String} {stored : StoredRow} {row : Row}
    (h : decodeRow pk pins requestId stored = .ok row) : row.state = stored.state := by
  unfold decodeRow at h
  obtain ⟨snapshot, -, h⟩ := bind_ok h
  obtain ⟨result, -, h⟩ := bind_ok h
  obtain ⟨_, -, h⟩ := bind_ok h
  cases h
  rfl

/-- An intent is only inserted where there was no row. -/
theorem claimIntent_inserted {pins : Json} {requestId fingerprint : String} {snapshot : Json} {journal journal' : Journal}
    (h : claimIntent pk pins requestId fingerprint snapshot journal = .ok (.inr journal')) :
    journal requestId = none ∧ ∃ text, journal' =
      Function.update journal requestId (some ⟨fingerprint, intent, text, none⟩) := by
  unfold claimIntent at h
  split at h
  · obtain ⟨row, -, h⟩ := bind_ok h
    cases h
  · next hnone =>
    obtain ⟨text, -, h⟩ := bind_ok h
    cases h
    exact ⟨hnone, text, rfl⟩

/-- A result is only written where the row was an intent. -/
theorem setTerminal_ok {pins : Json} {requestId state : String} {result : Json} {journal journal' : Journal}
    (h : setTerminal pk pins requestId state result journal = .ok journal') :
    ∃ stored text, journal requestId = some stored ∧ stored.state = intent ∧
      canonicalText pk result = .ok text ∧ journal' =
        Function.update journal requestId (some { stored with state := state, result := some text }) := by
  unfold setTerminal at h
  split at h
  · cases h
  · next stored hstored =>
    obtain ⟨row, hrow, h⟩ := bind_ok h
    split_ifs at h with hi
    obtain ⟨text, htext, h⟩ := bind_ok h
    cases h
    exact ⟨stored, text, hstored, (decodeRow_state hrow).symm.trans hi, htext, rfl⟩

end Rows
end VapEvidence.Erasure

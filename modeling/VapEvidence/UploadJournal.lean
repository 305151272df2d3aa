import VapEvidence.IncidentValues

set_option autoImplicit false

/-!
# The request journal

`protocol.py` and `journal.py` of the upload pilot: control messages, rows of the
one-shot journal and the two transactions that write it.
-/
namespace VapEvidence.Upload
open Json Incident

/-! ## Messages -/

def maxPayload : ℕ := 1024 * 1024
def maxControl : ℕ := 64 * 1024
/-- `DOMAIN` -/
def controlDomain : Bytes := encodeUtf8 "upload-pilot-control/0.1".toList ++ [0]

section Messages
variable (pk : Packages)

/-- `decode_json` -/
def decodeJson (maxBytes : ℕ) (raw : Bytes) : Run Json := Incident.decodeJson pk (floatHooks pk) maxBytes raw

/-- `sign_record` -/
def signRecord (body : Json) (secret keyId : String) : Run Json := signEnvelope pk recordDomain body secret keyId

/-- `sign_control` -/
def signControl (body : Json) (secret keyId : String) : Run Json := signEnvelope pk controlDomain body secret keyId

def envelopeTexts : EnvelopeTexts :=
  ⟨"Unexpected control signature algorithm or key", "Unexpected control record kind", "Invalid control signature"⟩

/-- `verify_control` -/
def verifyControl (envelope : Json) (public_ : String) (keyId : Json) (kind : String) : Run Json :=
  verifyEnvelope pk controlDomain envelopeTexts envelope public_ keyId kind

end Messages

/-! ## Rows -/

def intent : String := "dispatch_intent"
/-- `STATES` -/
def states : List String := ["dispatch_intent", "blocked_after_intent", "receipt_confirmed", "outcome_unknown"]
def maxJournalJson : ℕ := 32 * 1024 * 1024

/-- A row of `request_journal` under its request identifier. -/
structure StoredRow where
  fingerprint : String
  state : String
  snapshot : List Char
  details : Option (List Char)

/-- `request_journal` -/
abbrev Journal : Type := String → Option StoredRow

/-- A decoded row; absent details are `null`. -/
structure Row where
  requestId : String
  fingerprint : String
  state : String
  snapshot : Json
  details : Json

/-- `_identifier` -/
def identifier : Json → Run String
  | .str s =>
    if !s.toList.all isBlank && s.length ≤ maxText then .ok s else inputError "Invalid journal request identifier"
  | _ => inputError "Invalid journal request identifier"

/-- `_fingerprint` -/
def checkFingerprint (s : String) : Run Unit :=
  Incident.require (s.length = 64 && s.toList.all isLowerHex) "Invalid journal fingerprint"

section Rows
variable (pk : Packages)

/-- `_encoded` -/
def encoded (value : Json) : Run (List Char) := do
  let raw ← canonical pk value
  if maxJournalJson < raw.length then .error .other
  else
    match decodeUtf8 raw with
    | some s => .ok s
    | none => .error .other

def decodeDetails : Option (List Char) → Run Json
  | none => .ok .null
  | some t => decodeJson pk maxJournalJson (encodeUtf8 t)

/-- `0 <= value <= 1024 * 1024` of an integer. -/
def isByteLength : Json → Bool
  | .int n => 0 ≤ n && n ≤ maxPayload
  | _ => false

/-- The self-consistent measured binding of a snapshot of this gateway. -/
def measuredBinding (requestId fingerprint : String) (snapshot : Json) : Run Bool := do
  let evidence ← sub snapshot "evidence"
  let subject ← sub (← sub evidence "target") "subject"
  let length ← sub snapshot "byte_length"
  let measured := dict [("evaluation_id", ← sub evidence "evaluation_id"), ("subject", subject), ("byte_length", length)]
  return (← sub subject "request_id") = .str requestId && (← sub snapshot "request_id") = .str requestId &&
    (← sub subject "payload_sha256") = (← sub snapshot "payload_sha256") &&
    .str (← digest pk subject) = (← sub snapshot "subject_sha256") && isByteLength length &&
    (← digest pk measured) = fingerprint

/-- `raise JournalError` behind a condition -/
def ensure (b : Bool) : Run Unit := if b then .ok () else .error .other

def holds : Run Bool → Bool
  | .ok b => b
  | .error _ => false

/-- `_row` of a row that is there. -/
def decodeRow (requestId : String) (stored : StoredRow) : Run Row := do
  let _ ← identifier (.str requestId)
  checkFingerprint stored.fingerprint
  ensure (states.contains stored.state)
  let snapshot ← decodeJson pk maxJournalJson (encodeUtf8 stored.snapshot)
  let details ← decodeDetails pk stored.details
  ensure (snapshot.isDict && (details = .null || details.isDict))
  ensure (snapshot.get? "format" ≠ some (.str "upload-pilot-intent/0.1") ||
    holds (measuredBinding pk requestId stored.fingerprint snapshot))
  return ⟨requestId, stored.fingerprint, stored.state, snapshot, details⟩

/-! ## Transactions -/

/-- The transaction of `claim` up to its commit: the row it finds, or the journal with the intent. -/
def claimIntent (requestId fingerprint : String) (serialized : List Char) (journal : Journal) : Run (Row ⊕ Journal) :=
  match journal requestId with
  | some stored => do return .inl (← decodeRow pk requestId stored)
  | none => .ok (.inr (Function.update journal requestId (some ⟨fingerprint, intent, serialized, none⟩)))

/-- The transaction of `finish` up to its commit: the row that already holds the result, or the
    journal with it. -/
def setTerminal (requestId state : String) (details : Json) (serialized : List Char) (journal : Journal) :
    Run (Row ⊕ Journal) :=
  match journal requestId with
  | none => .error .other
  | some stored => do
    let row ← decodeRow pk requestId stored
    if row.state = intent then
      return .inr (Function.update journal requestId (some { stored with state := state, details := some serialized }))
    else
      ensure (row.state = state)
      ensure ((← digest pk row.details) = (← digest pk details))
      return .inl row

variable {pk}

theorem decodeRow_state {requestId : String} {stored : StoredRow} {row : Row}
    (h : decodeRow pk requestId stored = .ok row) : row.state = stored.state := by
  unfold decodeRow at h
  iterate 7 obtain ⟨_, -, h⟩ := bind_ok h
  cases h
  rfl

/-- An intent is only inserted where there was no row. -/
theorem claimIntent_inserted {requestId fingerprint : String} {serialized : List Char} {journal journal' : Journal}
    (h : claimIntent pk requestId fingerprint serialized journal = .ok (.inr journal')) :
    journal requestId = none ∧
      journal' = Function.update journal requestId (some ⟨fingerprint, intent, serialized, none⟩) := by
  unfold claimIntent at h
  split at h
  · obtain ⟨row, -, h⟩ := bind_ok h
    cases h
  · next hnone =>
    cases h
    exact ⟨hnone, rfl⟩

/-- A result is only written where the row was an intent. -/
theorem setTerminal_written {requestId state : String} {details : Json} {serialized : List Char}
    {journal journal' : Journal} (h : setTerminal pk requestId state details serialized journal = .ok (.inr journal')) :
    ∃ stored, journal requestId = some stored ∧ stored.state = intent ∧ journal' =
      Function.update journal requestId (some { stored with state := state, details := some serialized }) := by
  unfold setTerminal at h
  split at h
  · cases h
  · next stored hstored =>
    obtain ⟨row, hrow, h⟩ := bind_ok h
    split_ifs at h with hi
    · cases h
      exact ⟨stored, hstored, (decodeRow_state hrow).symm.trans hi, rfl⟩
    · iterate 4 obtain ⟨_, -, h⟩ := bind_ok h
      cases h

end Rows
end VapEvidence.Upload

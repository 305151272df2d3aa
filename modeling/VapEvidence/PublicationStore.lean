import VapEvidence.PublicationHtml
import VapEvidence.Histories
import Mathlib.Logic.Function.Basic

set_option autoImplicit false

/-!
# The local publisher

`store.py` of the publication pilot: the journal of intents, and `LocalPublisher.publish`
as a program over its effects on the journal, the private stage and the visible directory.
-/
namespace VapEvidence.Publication
open Json Incident Interleaving

/-! ## Rows -/

def intent : String := "publication_intent"
/-- `STATES` of the journal -/
def journalStates : List String :=
  ["publication_intent", "blocked_after_intent", "local_output_confirmed", "outcome_unknown"]
def snapshotFields : List String := ["request_id", "fingerprint", "artifact_sha256", "disclosure_sha256", "byte_length",
  "destination_id", "visible_name"]

/-- A row of `publication_journal` under its request identifier. -/
structure StoredRow where
  fingerprint : String
  state : String
  snapshot : List Char
  result : Option (List Char)

/-- `publication_journal` -/
abbrev Journal : Type := String → Option StoredRow

/-- A decoded row; an absent result is `null`. -/
structure Row where
  requestId : String
  fingerprint : String
  state : String
  snapshot : Json
  result : Json

/-- `_hex` of the store -/
def storeHex (value : Json) : Run String :=
  match value with
  | .str s =>
    if s.length = 64 && s.toList.all isLowerHex then .ok s
    else inputError "Expected a lowercase SHA-256 hexadecimal digest"
  | _ => inputError "Expected a lowercase SHA-256 hexadecimal digest"

/-- `raise StoreError` behind a condition -/
def ensure (b : Bool) : Run Unit := if b then .ok () else .error .other

section Rows
variable (pk : Packages)

/-- `_safe_name` -/
def safeName (requestId : String) : String := sha256Hex pk (encodeUtf8 requestId.toList) ++ ".html"

/-- `0 <= value <= MAX_HTML` of an integer -/
def isHtmlLength : Json → Bool
  | .int n => 0 ≤ n && n ≤ maxHtml
  | _ => false

/-- `_validate_snapshot` -/
def validateSnapshot (snapshot : Json) : Run Unit := do
  Incident.require (snapshot.hasFields snapshotFields) "Unsupported local store object fields"
  let requestId ← identifier (snapshot.item "request_id")
  let _ ← identifier (snapshot.item "destination_id")
  let _ ← storeHex (snapshot.item "fingerprint")
  let _ ← storeHex (snapshot.item "artifact_sha256")
  let _ ← storeHex (snapshot.item "disclosure_sha256")
  Incident.require (isHtmlLength (snapshot.item "byte_length")) "Invalid measured artifact length"
  Incident.require (snapshot.item "visible_name" = .str (safeName pk requestId)) "Visible name does not bind the request identifier"

/-- `_validate_row` -/
def validateRow (row : Row) : Run Unit := do
  validateSnapshot pk row.snapshot
  Incident.require (.str row.requestId = row.snapshot.item "request_id" && .str row.fingerprint = row.snapshot.item "fingerprint" &&
    journalStates.contains row.state) "Persisted request binding or state is inconsistent"
  Incident.require (row.result = .null || row.result.isDict) "Malformed persisted publication result"

def decodeResult : Option (List Char) → Run Json
  | none => .ok .null
  | some t => decodeJson pk (encodeUtf8 t)

/-- `_decode_row` of a row that is there. -/
def decodeRow (requestId : String) (stored : StoredRow) : Run Row := do
  let snapshot ← decodeJson pk (encodeUtf8 stored.snapshot)
  let result ← decodeResult pk stored.result
  let row : Row := ⟨requestId, stored.fingerprint, stored.state, snapshot, result⟩
  validateRow pk row
  return row

/-- The row stands for the same action. -/
def sameAction (row : Row) (fingerprint : String) (snapshot : Json) : Run Bool := do
  if row.fingerprint = fingerprint then return (← digest pk row.snapshot) = (← digest pk snapshot) else return false

/-- `canonical(value).decode()` -/
def encoded (value : Json) : Run (List Char) := do
  match decodeUtf8 (← canonical pk value) with
  | some s => .ok s
  | none => .error .other

/-! ## Transactions -/

/-- The transaction of `_claim` up to its commit: the row it finds, or the journal with the intent. -/
def claimIntent (requestId fingerprint : String) (serialized : List Char) (journal : Journal) : Run (Row ⊕ Journal) :=
  match journal requestId with
  | some stored => do return .inl (← decodeRow pk requestId stored)
  | none => .ok (.inr (Function.update journal requestId (some ⟨fingerprint, intent, serialized, none⟩)))

/-- The transaction of `_finish` up to its commit. -/
def setTerminal (requestId state : String) (serialized : List Char) (journal : Journal) : Run Journal :=
  match journal requestId with
  | none => .error .other
  | some stored => do
    let row ← decodeRow pk requestId stored
    ensure (row.state = intent)
    return Function.update journal requestId (some { stored with state := state, result := some serialized })

end Rows

/-! ## Effects -/

inductive Directory where
  | staging
  | visible

inductive Effect where
  /-- The clock of the gate. -/
  | clock
  | afterSnapshot
  | beforePublish
  | lookup (requestId : String)
  /-- The transaction of `_claim`. -/
  | claim (requestId fingerprint : String) (serialized : List Char)
  /-- The transaction of `_finish`. -/
  | finish (requestId state : String) (serialized : List Char)
  /-- `uuid4().hex` -/
  | fresh
  /-- `_directory`, entered and left. -/
  | openDirectory (d : Directory)
  | closeDirectory (d : Directory)
  | syncDirectory (d : Directory)
  /-- `os.open` of a new stage. -/
  | createStage (name : String)
  | write (file : ℕ) (bytes : Bytes)
  /-- `os.fchmod`, `os.fsync` and `os.fstat` of the stage. -/
  | sealStage (file : ℕ)
  | closeStage (file : ℕ)
  /-- `os.link` of a stage to a visible name. -/
  | link (stage name : String)
  | afterLink
  /-- The file under a visible name and its bytes. -/
  | readArtifact (name : String)
  /-- The clock of the publisher. -/
  | publisherClock
  | unlinkStage (name : String)

/-- What a clock raises: an `InputError`, an `OSError`, or anything else. -/
inductive Thrown where
  | input (message : String)
  | os (message : String)
  | other

inductive LinkAnswer where
  | linked
  | exists
  | failed
  deriving DecidableEq

/-- Answers; `none` and `false` are exceptions. -/
@[reducible] def Answer : Effect → Type
  | .clock => Except Thrown Json
  | .lookup _ => Option (Option StoredRow)
  | .claim .. => Run (Option Row)
  | .finish .. => Run Unit
  | .fresh => String
  | .createStage _ => Option ℕ
  | .write .. => Option ℕ
  | .link .. => LinkAnswer
  | .readArtifact _ => Option (ℕ × Bytes)
  | .publisherClock => Option Json
  | _ => Bool

abbrev Program (α : Type) : Type := Prog Effect Answer α

/-- An effect that answers or raises. -/
def perform {α : Type} (e : Effect) (read : Answer e → Option α) : Program (Run α) :=
  .eff e fun r => .ret <| match read r with
    | some a => .ok a
    | none => .error .other

/-- An effect that passes or raises. -/
def pass (e : Effect) (passed : Answer e → Bool) : Program (Run Unit) :=
  .eff e fun r => .ret (if passed r then .ok () else .error .other)

/-! ## The publisher -/

structure LocalPublisher where
  destinationId : String
  publicKey : String
  secret : String
  keyId : String

/-- The result of `publish`. -/
structure Published where
  state : String
  attempted : Bool
  visibleName : String
  receipt : Json
  journalState : String
  reason : String

@[irreducible] def Published.toJson (p : Published) : Json :=
  dict [("state", .str p.state), ("attempted", .bool p.attempted), ("visible_name", .str p.visibleName),
    ("receipt", p.receipt), ("journal_state", .str p.journalState), ("reason", .str p.reason)]

/-- A request as measured by its caller. -/
structure Request where
  requestId : String
  fingerprint : String
  html : Bytes
  disclosureSha256 : String

/-- What a publication leaves: its result and what the caller's gate returned. -/
structure Outcome (σ : Type) where
  result : Published
  gate : Option σ

section Publish
variable (pk : Packages) (p : LocalPublisher)

/-- The row under an identifier. -/
def selectRow (requestId : String) : Program (Run (Option Row)) :=
  (perform (.lookup requestId) fun r => r).andThen fun
    | none => .ret (.ok none)
    | some stored => .ret ((decodeRow pk requestId stored).map some)

/-- `_claim`: the row with its status. -/
@[irreducible] def claimRow (requestId fingerprint : String) (snapshot : Json) : Program (Run (String × Row)) :=
  (Prog.ret (validateSnapshot pk snapshot)).andThen fun _ =>
  (Prog.ret (encoded pk snapshot)).andThen fun serialized =>
  Prog.andThen (.eff (.claim requestId fingerprint serialized) .ret) fun
    | some row => .ret do return (if ← sameAction pk row fingerprint snapshot then "REPLAY" else "CONFLICT", row)
    | none =>
      (selectRow pk requestId).andThen fun
        | some row => .ret (.ok ("CLAIMED", row))
        | none => .ret (.error .other)

/-- `_finish` -/
def finishRow (requestId state : String) (result : Json) : Program (Run (Option Row)) :=
  (Prog.ret (encoded pk result)).andThen fun serialized =>
  Prog.andThen (.eff (.finish requestId state serialized) .ret) fun _ => selectRow pk requestId

/-- `_current_state` -/
def currentState (requestId : String) : Program String := do
  match ← selectRow pk requestId with
  | .ok none => return "NOT_CLAIMED"
  | .ok (some row) => return row.state
  | .error _ => return "UNAVAILABLE"

/-- `_replay` -/
def replay (result : Published) (row : Row) (fingerprint : String) (snapshot : Json) : Run Published := do
  if ← sameAction pk row fingerprint snapshot then
    return { result with
      state := "REPLAY_NO_PUBLICATION", reason := "REQUEST_ALREADY_CLAIMED_NO_RECEIPT_REASSERTED"
      journalState := row.state, receipt := .null }
  else
    return { result with
      state := "REQUEST_ID_CONFLICT", reason := "REQUEST_ID_BINDS_DIFFERENT_ACTION"
      journalState := row.state, receipt := .null }

/-- The measured snapshot of a request. -/
def snapshotOf (q : Request) : Json :=
  dict [("request_id", .str q.requestId), ("fingerprint", .str q.fingerprint),
    ("artifact_sha256", .str (sha256Hex pk q.html)), ("disclosure_sha256", .str q.disclosureSha256),
    ("byte_length", .int q.html.length), ("destination_id", .str p.destinationId),
    ("visible_name", .str (safeName pk q.requestId))]

/-- What `_persist` checks of the row it gets back. -/
@[irreducible] def persisted (result : Published) (q : Request) (state : String) (row : Option Row) : Run Unit := do
  match row with
  | none => inputError "Unsupported local store object fields"
  | some row => do
    validateRow pk row
    ensure (row.requestId = q.requestId && row.state = state)
    ensure (← sameAction pk row q.fingerprint (snapshotOf pk p q))
    ensure ((← digest pk row.result) = (← digest pk result.toJson))

/-- `_persist` -/
def persist (result : Published) (q : Request) (state : String) : Program Published := do
  let result := { result with journalState := state }
  match ← (finishRow pk q.requestId state result.toJson).andThen fun row => .ret (persisted pk p result q state row) with
  | .ok _ => return result
  | .error _ =>
    let found ← currentState pk q.requestId
    return { result with
      state := "OUTCOME_UNKNOWN", reason := "PUBLICATION_RESULT_PERSISTENCE_NOT_ESTABLISHED", receipt := .null
      journalState := found }

/-! ## The stage -/

/-- `os.write` until nothing remains. -/
def writeStage (file : ℕ) : Bytes → Program (Run Unit)
  | [] => .ret (.ok ())
  | b :: bs =>
    .eff (.write file (b :: bs)) fun
      | none => .ret (.error .other)
      | some 0 => .ret (.error .other)
      | some (n + 1) => writeStage file (bs.drop n)
  termination_by bs => bs.length
  decreasing_by simp only [List.length_drop, List.length_cons]; omega

/-- `os.close` of the stage, whatever went before. -/
def closeStage (file : ℕ) (before : Run Unit) : Program (Run Unit) := do
  let closed ← pass (.closeStage file) fun r => r
  return before.bind fun _ => closed

/-- The stage is written, sealed and closed. -/
def fillStage (file : ℕ) (html : Bytes) : Program (Run Unit) := do
  let filled ← (writeStage file html).andThen fun _ => pass (.sealStage file) fun r => r
  closeStage file filled

/-! ## The link -/

/-- `SAFE_NAME` -/
def isSafeName (name : String) : Bool :=
  name.length = 69 && (name.toList.take 64).all isLowerHex && name.toList.drop 64 = ".html".toList

/-- `_read_artifact` with the identity of the stage: the digest and length of what is visible. -/
def readArtifact (name : String) (file : ℕ) : Program (Run (String × ℕ)) :=
  (Prog.ret (ensure (isSafeName name))).andThen fun _ =>
  (perform (.readArtifact name) fun r => r).andThen fun (found, bytes) => .ret do
    ensure (found = file && bytes.length ≤ maxHtml)
    return (sha256Hex pk bytes, bytes.length)

/-- The receipt of a publication. -/
def receiptOf (q : Request) (observedAt : Json) : Run Json :=
  signMessage pk (dict [("kind", .str "local_publication_receipt"), ("request_id", .str q.requestId),
    ("fingerprint", .str q.fingerprint), ("artifact_sha256", .str (sha256Hex pk q.html)),
    ("disclosure_sha256", .str q.disclosureSha256), ("byte_length", .int q.html.length),
    ("destination_id", .str p.destinationId), ("visible_name", .str (safeName pk q.requestId)),
    ("observed_at", observedAt)]) p.secret p.keyId

/-- What follows the link: the hook, the readback and the receipt. -/
def readback (q : Request) (file : ℕ) (afterLink : Bool) : Program (Run Json) :=
  (if afterLink then pass .afterLink fun r => r else .ret (.ok ())).andThen fun _ =>
  (pass (.syncDirectory .visible) fun r => r).andThen fun _ =>
  (readArtifact pk (safeName pk q.requestId) file).andThen fun actual =>
  (Prog.ret (ensure (actual = (sha256Hex pk q.html, q.html.length)))).andThen fun _ =>
  (perform .publisherClock fun r => r).andThen fun observedAt =>
  .ret do
    let _ ← timestamp observedAt
    receiptOf pk p q observedAt

/-- From a permitted publication on. -/
def publishLinked (q : Request) (result : Published) (stage : String) (file : ℕ) (afterLink : Bool) : Program Published :=
  let result := { result with attempted := true }
  .eff (.link stage (safeName pk q.requestId)) fun
    | .exists => persist pk p { result with reason := "VISIBLE_NAME_ALREADY_EXISTS" } q "blocked_after_intent"
    | .failed => persist pk p { result with
        state := "OUTCOME_UNKNOWN", reason := "ATOMIC_PUBLICATION_OUTCOME_UNKNOWN" } q "outcome_unknown"
    | .linked => do
      match ← readback pk p q file afterLink with
      | .error _ =>
        let result := { result with state := "OUTCOME_UNKNOWN", reason := "VISIBLE_OUTPUT_READBACK_NOT_ESTABLISHED" }
        persist pk p result q "outcome_unknown"
      | .ok receipt =>
        let result := { result with
          state := "LOCAL_OUTPUT_CONFIRMED", reason := "MEASURED_LOCAL_FILE_CONFIRMED", receipt }
        persist pk p result q "local_output_confirmed"

/-- What `publish` checks of the row that `_claim` returns: a row to replay, or nothing. -/
def checkClaim (q : Request) (status : String) (row : Row) : Run (Option Row) := do
  validateRow pk row
  ensure (row.requestId = q.requestId)
  let matches_ ← sameAction pk row q.fingerprint (snapshotOf pk p q)
  if status = "CLAIMED" then
    ensure (matches_ && row.state = intent && row.result = .null)
    return none
  else
    ensure (status = if matches_ then "REPLAY" else "CONFLICT")
    return some row

variable {σ : Type} (gate : Program (Run σ)) (permitted : σ → Bool)

/-- From a committed intent on. -/
def publishClaimed (q : Request) (result : Published) (stage : String) (file : ℕ) (afterLink : Bool) :
    Program (Outcome σ) := do
  let result := { result with journalState := intent }
  match ← gate with
  | .error _ =>
    let result ← persist pk p { result with
      state := "OUTCOME_UNKNOWN", reason := "BEFORE_LINK_CALLBACK_FAILED" } q "outcome_unknown"
    return ⟨result, none⟩
  | .ok checked =>
    if permitted checked then
      let result ← publishLinked pk p q result stage file afterLink
      return ⟨result, some checked⟩
    else
      let result ← persist pk p { result with reason := "FINAL_GATE_BLOCKED_PUBLICATION" } q "blocked_after_intent"
      return ⟨result, some checked⟩

/-- What `publish` makes of the claim. -/
@[irreducible] def claimed (q : Request) (result : Published) : Program (Run (Option Published)) :=
  (claimRow pk q.requestId q.fingerprint (snapshotOf pk p q)).andThen fun (status, row) => .ret do
    match ← checkClaim pk p q status row with
    | none => return none
    | some row => return some (← replay pk result row q.fingerprint (snapshotOf pk p q))

/-- From an established stage on. -/
@[irreducible] def publishStaged (q : Request) (result : Published) (stage : String) (file : ℕ) (afterLink : Bool) :
    Program (Outcome σ) := do
  match ← claimed pk p q result with
  | .error _ =>
    let found ← currentState pk q.requestId
    return ⟨{ result with
      reason := "PUBLICATION_INTENT_ACKNOWLEDGEMENT_NOT_ESTABLISHED", journalState := found }, none⟩
  | .ok (some replayed) => return ⟨replayed, none⟩
  | .ok none => publishClaimed pk p gate permitted q result stage file afterLink

/-- The stage of a request: whether it was created, and the file when it is established. -/
def establishStage (stage : String) (html : Bytes) : Program (Bool × Option ℕ) :=
  .eff (.createStage stage) fun
    | none => .ret (false, none)
    | some file => do
      match ← (fillStage file html).andThen fun _ => pass (.syncDirectory .staging) fun r => r with
      | .ok _ => return (true, some file)
      | .error _ => return (true, none)

/-- Inside both directories. -/
@[irreducible] def publishInside (q : Request) (result : Published) (stage : String) (afterLink : Bool) :
    Program (Outcome σ × Bool) := do
  match ← establishStage stage q.html with
  | (created, none) => return (⟨{ result with reason := "PRIVATE_STAGE_NOT_ESTABLISHED" }, none⟩, created)
  | (created, some file) =>
    let outcome ← publishStaged pk p gate permitted q result stage file afterLink
    return (outcome, created)

/-- The result when a directory is not available. -/
def unavailable (q : Request) (result : Published) : Program Published := do
  let found ← currentState pk q.requestId
  return { result with
    state := if result.attempted then "OUTCOME_UNKNOWN" else "BLOCKED_WITHOUT_PUBLICATION"
    reason := "CONTROLLER_DIRECTORIES_UNAVAILABLE", receipt := .null, journalState := found }

/-- The work inside both directories, which are left in any case. -/
@[irreducible] def withDirectories (q : Request) (result : Published) (stage : String) (afterLink : Bool) :
    Program (Outcome σ × Bool) :=
  .eff (.openDirectory .staging) fun
    | false => do return (⟨← unavailable pk q result, none⟩, false)
    | true =>
      .eff (.openDirectory .visible) fun
        | false => .eff (.closeDirectory .staging) fun _ => do return (⟨← unavailable pk q result, none⟩, false)
        | true => do
          let (outcome, created) ← publishInside pk p gate permitted q result stage afterLink
          .eff (.closeDirectory .visible) fun left => .eff (.closeDirectory .staging) fun left' =>
            if left && left' then .ret (outcome, created)
            else do return (⟨← unavailable pk q outcome.result, outcome.gate⟩, created)

/-- The stage's own name is removed; an exception is ignored. -/
def cleanup (stage : String) : Program Unit :=
  .eff (.openDirectory .staging) fun
    | false => .ret ()
    | true => .eff (.unlinkStage stage) fun
      | false => .eff (.closeDirectory .staging) fun _ => .ret ()
      | true => .eff (.syncDirectory .staging) fun _ => .eff (.closeDirectory .staging) fun _ => .ret ()

/-- The row that answers a request before anything is prepared. -/
def existing (q : Request) (result : Published) : Program (Run (Option Published)) :=
  (selectRow pk q.requestId).andThen fun
    | none => .ret (.ok none)
    | some row => .ret do
      validateRow pk row
      ensure (row.requestId = q.requestId)
      return some (← replay pk result row q.fingerprint (snapshotOf pk p q))

/-- `publish` of a checked request. -/
@[irreducible] def publishRequest (q : Request) (afterLink : Bool) : Program (Outcome σ) := do
  let result : Published :=
    ⟨"BLOCKED_WITHOUT_PUBLICATION", false, safeName pk q.requestId, .null, "NOT_CLAIMED", "NOT_PREPARED"⟩
  match ← existing pk p q result with
  | .error _ =>
    return ⟨{ result with reason := "JOURNAL_UNAVAILABLE_BEFORE_CLAIM", journalState := "UNAVAILABLE" }, none⟩
  | .ok (some replayed) => return ⟨replayed, none⟩
  | .ok none =>
    .eff .fresh fun token => do
      let (outcome, created) ← withDirectories pk p gate permitted q result (token ++ ".stage") afterLink
      if created then cleanup (token ++ ".stage")
      return outcome

/-- `publish` -/
def publish (requestId : Json) (fingerprint : String) (html : Bytes) (disclosureSha256 : String) (afterLink : Bool) :
    Program (Run (Outcome σ)) :=
  (Prog.ret (identifier requestId)).andThen fun requestId =>
  (Prog.ret (storeHex (.str fingerprint))).andThen fun _ =>
  (Prog.ret (storeHex (.str disclosureSha256))).andThen fun _ =>
  (Prog.ret (Incident.require (html.length ≤ maxHtml) "Publisher requires immutable bytes within the 1 MiB limit")).andThen fun _ => do
    return .ok (← publishRequest pk p gate permitted ⟨requestId, fingerprint, html, disclosureSha256⟩ afterLink)

end Publish
end VapEvidence.Publication

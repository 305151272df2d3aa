import VapEvidence.ErasureJournal
import VapEvidence.Histories

set_option autoImplicit false

/-!
# The local provider

`LocalProvider.delete` as a program over its effects: the journal, the clock, the
hooks and the calls to the operating system. Every answer but the journal's is
left open.
-/
namespace VapEvidence.Erasure
open Json Incident Interleaving

/-! ## Effects -/

inductive Directory where
  | root
  | namespace_
  deriving DecidableEq

/-- What `fstat`, `lstat` or `stat` tells of a file. -/
structure FileInfo where
  regular : Bool
  directory : Bool
  device : ℤ
  inode : ℤ
  size : ℤ
  mtime : ℤ
  ctime : ℤ
  deriving DecidableEq

/-- `_file_state` -/
def FileInfo.fileState (info : FileInfo) : List ℤ := [info.device, info.inode, info.size, info.mtime, info.ctime]

inductive Opened where
  | descriptor
  | notFound
  | failed
  deriving DecidableEq

inductive Effect where
  /-- A lookup of a row over a connection of its own, or after a commit. -/
  | lookup (requestId : String)
  /-- The transaction of `_claim`. -/
  | claim (pins : Json) (requestId fingerprint : String) (snapshot : Json)
  /-- The transaction of `_finish`. -/
  | finish (pins : Json) (requestId state : String) (result : Json)
  | clock
  | beforeUnlink
  | afterUnlink
  | openDirectory (path : Directory)
  | closeDirectory
  | lstat (path : Directory)
  | fstatDirectory
  | openFile (name : String)
  | fstatFile
  | readFile (size : ℕ)
  | statFile (name : String)
  | closeFile
  | unlink (name : String)
  | fsyncDirectory

/-- Answers; `none` and `false` are exceptions. -/
@[reducible] def Answer : Effect → Type
  | .lookup _ => Option (Option StoredRow)
  | .claim .. => Run (Option Row)
  | .finish .. => Run Unit
  | .clock => Option Json
  | .openDirectory _ => Option FileInfo
  | .lstat _ => Option FileInfo
  | .fstatDirectory => Option FileInfo
  | .openFile _ => Opened
  | .fstatFile => Option FileInfo
  | .readFile _ => Option Bytes
  | .statFile _ => Option FileInfo
  | _ => Bool

abbrev Program (α : Type) : Type := Prog Effect Answer α

/-- A provider object and the arguments of one `delete`. -/
structure Call where
  pins : Json
  secret : String
  /-- Device and inode of each directory when the object was made. -/
  identities : Directory → ℤ × ℤ
  task : Json
  beforeUnlink : Bool
  afterUnlink : Bool
  acknowledgeOnly : Bool

def Call.keyId (c : Call) : Json := (keyOf c.pins "provider").1
def Call.key (c : Call) : Json := (keyOf c.pins "provider").2

/-- An effect that answers or raises. -/
def perform {α : Type} (e : Effect) (read : Answer e → Option α) : Program (Run α) :=
  .eff e fun r => .ret <| match read r with
    | some a => .ok a
    | none => .error .other

/-- An effect that only succeeds or raises. -/
def attempt (e : Effect) (done : Answer e → Bool) : Program (Run Unit) :=
  perform e fun r => if done r then some () else none

/-- `raise` behind a condition -/
def ensure (b : Bool) : Program (Run Unit) := .ret (if b then .ok () else .error .other)

section Delete
variable (pk : Packages) (c : Call)

/-! ## The journal -/

/-- `get` -/
def get (requestId : String) : Program (Run (Option Row)) :=
  (perform (.lookup requestId) fun r => r).andThen fun
    | none => .ret (.ok none)
    | some stored => .ret ((decodeRow pk c.pins requestId stored).map some)

/-- `_claim`: the row with its status. -/
def claimRow (context : TaskContext) (owned : Json) : Program (Run (String × Row)) :=
  (Prog.ret (historicalContext pk owned c.pins)).andThen fun own =>
  (ensure (context.requestId = own.requestId && context.taskSha256 = own.taskSha256)).andThen fun _ =>
  Prog.andThen (.eff (.claim c.pins context.requestId context.taskSha256 owned) .ret) fun
    | some row => .ret (.ok (if row.fingerprint = context.taskSha256 then "REPLAY" else "CONFLICT", row))
    | none =>
      (get pk c context.requestId).andThen fun
        | some row => .ret (.ok ("CLAIMED", row))
        | none => .ret (.error .other)

/-- `_finish` -/
def finishRow (context : TaskContext) (state : String) (result : Json) : Program (Run Row) :=
  (Prog.ret (validateResult result)).andThen fun _ =>
  (ensure (terminal.contains state && result.item "state" = .str state &&
    result.item "journal_state" = .str state)).andThen fun _ =>
  Prog.andThen (.eff (.finish c.pins context.requestId state result) .ret) fun _ =>
  (get pk c context.requestId).andThen fun
    | some row => .ret (.ok row)
    | none => .ret (.error .other)

/-- `_current_state` -/
def currentState (requestId : String) : Program String := do
  match ← get pk c requestId with
  | .ok none => return "NOT_CLAIMED"
  | .ok (some row) => return row.state
  | .error _ => return "UNAVAILABLE"

/-- `_replay` -/
def replay (result : Result) (row : Row) (fingerprint : String) : Result :=
  if row.fingerprint = fingerprint then
    { result with
      state := "REPLAY_NO_ACTION", journalState := row.state,
      reason := "REQUEST_ALREADY_CLAIMED_NO_EVIDENCE_REASSERTED" }
  else
    { result with
      state := "REQUEST_ID_CONFLICT", journalState := row.state, reason := "REQUEST_ID_BINDS_DIFFERENT_TASK" }

/-- `_replay_if_claimed` -/
def replayIfClaimed (result : Result) (context : TaskContext) : Program (Option Result) := do
  match ← get pk c context.requestId with
  | .ok none => return none
  | .ok (some row) => return some (replay result row context.taskSha256)
  | .error _ => return some { result with reason := "JOURNAL_UNAVAILABLE_BEFORE_CLAIM", journalState := "UNAVAILABLE" }

/-- What `_persist` checks of the row it gets back. -/
def persisted (result : Result) (context : TaskContext) (row : Row) : Run Unit := do
  validateRow pk c.pins row
  Incident.require (row.requestId = context.requestId && row.fingerprint = context.taskSha256 && row.state = result.state &&
    (← digest pk row.snapshot) = context.taskSha256 && (← digest pk row.result) = (← digest pk result.toJson))
    "Terminal acknowledgement does not bind the owned deletion result"

/-- `_persist` -/
def persist (result : Result) (context : TaskContext) : Program Result := do
  let result := { result with journalState := result.state }
  match ← (finishRow pk c context result.state result.toJson).andThen fun row => .ret (persisted pk c result context row) with
  | .ok _ => return result
  | .error _ =>
    let state ← currentState pk c context.requestId
    return { result with
      state := "OUTCOME_UNKNOWN", reason := "RESULT_PERSISTENCE_NOT_ESTABLISHED", attestation := .null,
      receipt := .null, journalState := state }

/-! ## Time and evidence -/

/-- What `_time` checks of a reading of the clock. -/
def checkTime (earliest value : Json) : Run Json := do
  let at_ ← timestamp value
  let lower ← timestamp earliest
  let notBefore ← timestamp (c.key.item "not_before")
  let notAfter ← timestamp (c.key.item "not_after")
  Incident.require (!(at_ < lower) && notBefore ≤ at_ && at_ < notAfter)
    "Provider event time or signing-key validity is inapplicable"
  return value

/-- `_time` -/
def time (earliest : Json) : Program (Run Json) :=
  (perform .clock fun r => r).andThen fun value => .ret (checkTime c earliest value)

/-- `_time` with `validate_task` at the time it gives. -/
def currentTask (owned earliest : Json) : Program (Run Json) :=
  (time c earliest).andThen fun at_ => .ret ((validateTask pk owned c.pins at_).map fun _ => at_)

/-- `_record` -/
def record (context : TaskContext) (kind : String) (eventAt data : Json) : Run Json := do
  let start := if kind = "erasure.acknowledgement" then "ack" else "completion"
  let recordId := start ++ "-" ++ String.ofList (context.taskSha256.toList.take 48)
  let recordId := if .str recordId = context.requestRecordId then recordId ++ "-p" else recordId
  signRecord pk (dict [("record_id", .str recordId), ("evaluation_id", context.evaluationId), ("kind", .str kind),
    ("issuer", c.key.item "issuer"), ("recorded_at", eventAt), ("binding", context.subject), ("data", data)])
    c.secret (textOf c.keyId)

def acknowledgement (context : TaskContext) (acknowledgedAt : Json) : Run Json :=
  record pk c context "erasure.acknowledgement" acknowledgedAt (dict
    [("request_record_id", context.requestRecordId), ("acknowledged_at", acknowledgedAt), ("queue_state", .str "received")])

/-! ## The file -/

def absent : Json := dict [("state", .str "ABSENT"), ("sha256", .null), ("byte_length", .null)]

/-- `_expected` -/
def expected (manifest : Json) : Json :=
  dict [("state", .str "PRESENT"), ("sha256", manifest.item "sha256"), ("byte_length", manifest.item "byte_length")]

/-- The loop of `_measure` over the chunks of a file. -/
def readAll (total : ℕ) (chunks : Bytes) : Program (Run Bytes) :=
  .eff (.readFile (min 65536 (maxObject + 1 - total))) fun
    | none => .ret (.error .other)
    | some chunk =>
      if _h : chunk = [] then .ret (.ok chunks)
      else if _h' : maxObject < total + chunk.length then .ret (.error .other)
      else readAll (total + chunk.length) (chunks ++ chunk)
termination_by maxObject + 1 - total
decreasing_by
  have := List.length_pos_of_ne_nil _h
  omega

/-- `_measure` between opening and closing the file. -/
def measureOpened (name : String) : Program (Run (Json × Option (List ℤ))) :=
  (perform .fstatFile fun r => r).andThen fun before =>
  (ensure (before.regular && 1 ≤ before.size && before.size ≤ maxObject)).andThen fun _ =>
  (readAll 0 []).andThen fun content =>
  (perform .fstatFile fun r => r).andThen fun after =>
  (ensure (before.fileState = after.fileState)).andThen fun _ =>
  (perform (.statFile name) fun r => r).andThen fun current =>
  (ensure (current.regular && current.fileState = before.fileState)).andThen fun _ =>
  .ret (.ok (dict [("state", .str "PRESENT"), ("sha256", .str (sha256Hex pk content)),
    ("byte_length", .int content.length)], some before.fileState))

/-- `_measure` -/
def measure (name : String) : Program (Run (Json × Option (List ℤ))) :=
  .eff (.openFile name) fun
    | .notFound => .ret (.ok (absent, none))
    | .failed => .ret (.error .other)
    | .descriptor => do
      let result ← measureOpened pk name
      match ← attempt .closeFile id with
      | .ok _ => return result
      | .error e => return .error e

/-- `_check_namespace` -/
def checkNamespace : Program (Run Unit) :=
  (perform (.lstat .root) fun r => r).andThen fun root =>
  (ensure (root.directory && (root.device, root.inode) = c.identities .root)).andThen fun _ =>
  (perform (.lstat .namespace_) fun r => r).andThen fun space =>
  (ensure (space.directory && (space.device, space.inode) = c.identities .namespace_)).andThen fun _ =>
  (perform .fstatDirectory fun r => r).andThen fun opened =>
  ensure ((opened.device, opened.inode) = c.identities .namespace_)

/-- `_directory` before its `yield` -/
def enterDirectory : Program (Run Unit) :=
  (perform (.openDirectory .namespace_) fun r => r).andThen fun info =>
  if (info.device, info.inode) = c.identities .namespace_ then .ret (.ok ())
  else (attempt .closeDirectory id).andThen fun _ => .ret (.error .other)

/-- A hook that is given is called. -/
def hook (given : Bool) (e : Effect) (done : Answer e → Bool) : Program (Run Unit) :=
  if given then attempt e done else .ret (.ok ())

/-! ## `delete` -/

def blocked : Result where
  state := "BLOCKED"
  attempted := false
  acknowledgement := .null
  attestation := .null
  receipt := .null
  journalState := "NOT_CLAIMED"
  reason := "NOT_PREPARED"

/-- What `delete` does before its first effect. -/
def prepare : Run (Json × TaskContext × String) := do
  let owned ← capture pk c.task
  let context ← historicalContext pk owned c.pins
  checkManifest "Object manifest length is outside the supported bound"
    "Object manifest does not match the pinned provider namespace" context.manifest c.pins
  let name ← objectName pk context.manifest
  return (owned, context, name)

/-- The handler around the open directory. -/
def unavailable (result : Result) (context : TaskContext) : Program Result := do
  let journalState ← currentState pk c context.requestId
  return { result with
    state := if result.attempted || result.journalState = intent then "OUTCOME_UNKNOWN" else "BLOCKED"
    reason := "CONTROLLER_STORAGE_UNAVAILABLE", attestation := .null, receipt := .null, journalState }

/-- A refusal before the claim looks for the row of another caller once more. -/
def refuse (reason : String) (context : TaskContext) : Program Result := do
  let result := { blocked with reason }
  match ← replayIfClaimed pk c result context with
  | none => return result
  | some prior => return prior

/-- What `delete` checks of the row that `_claim` returns: a row to replay, or nothing. -/
def checkClaim (context : TaskContext) (status : String) (row : Row) : Run (Option Row) := do
  validateRow pk c.pins row
  Incident.require (row.requestId = context.requestId) "Claim acknowledgement is for another request"
  let snapshot ← digest pk row.snapshot
  let matched : Bool := row.fingerprint = context.taskSha256 && snapshot = context.taskSha256
  if status = "CLAIMED" then
    Incident.require (matched && row.state = intent && row.result = .null)
      "Claim acknowledgement does not match the owned deletion intent"
    return none
  else
    Incident.require (status = if matched then "REPLAY" else "CONFLICT")
      "Claim disposition contradicts the acknowledged task"
    return some row

/-- The last checks before the file is removed, up to the time of removal. -/
def finalCheck (owned : Json) (context : TaskContext) (name : String) (identity : Option (List ℤ))
    (acknowledgedAt : Json) : Program (Run Json) :=
  (currentTask pk c owned acknowledgedAt).andThen fun finalAt =>
  (measure pk name).andThen fun (measured, finalIdentity) =>
  (ensure (measured = expected context.manifest && finalIdentity = identity)).andThen fun _ =>
  (currentTask pk c owned finalAt).andThen fun unlinkedAt =>
  (perform (.statFile name) fun r => r).andThen fun current =>
  (ensure (current.regular && some current.fileState = finalIdentity)).andThen fun _ =>
  (checkNamespace c).andThen fun _ => .ret (.ok unlinkedAt)

/-- The receipt and the attestation of a removal. -/
def completion (context : TaskContext) (measurement unlinkedAt observedAt : Json) : Run (Json × Json) := do
  let receipt ← signMessage pk (dict [("kind", .str "local_unlink_receipt"), ("task_sha256", .str context.taskSha256),
    ("request_id", .str context.requestId), ("manifest_sha256", .str context.manifestSha256),
    ("before", pick ["sha256", "byte_length"] measurement), ("unlinked_at", unlinkedAt), ("observed_at", observedAt),
    ("after", .str "ABSENT")]) c.secret (textOf c.keyId)
  let attestation ← record pk c context "erasure.provider_attestation" observedAt (dict
    [("request_record_id", context.requestRecordId), ("completed_at", observedAt),
     ("locations", .arr [.str location]), ("exclusions", .arr (exclusions.map .str))])
  return (receipt, attestation)

/-- What follows the removal: the receipt and the attestation of a confirmed one. -/
def afterRemoval (context : TaskContext) (name : String) (measurement unlinkedAt : Json) :
    Program (Run (Json × Json)) :=
  (hook c.afterUnlink .afterUnlink id).andThen fun _ =>
  (attempt .fsyncDirectory id).andThen fun _ =>
  (measure pk name).andThen fun (absence, _) =>
  (ensure (absence = absent)).andThen fun _ =>
  (checkNamespace c).andThen fun _ =>
  (time c unlinkedAt).andThen fun observedAt => .ret (completion pk c context measurement unlinkedAt observedAt)

def finishRemoval (result : Result) (context : TaskContext) : Run (Json × Json) → Program Result
  | .error _ => persist pk c { result with
      state := "OUTCOME_UNKNOWN", reason := "UNLINK_OR_SCOPED_COMPLETION_NOT_ESTABLISHED", attestation := .null,
      receipt := .null } context
  | .ok (receipt, attestation) => persist pk c { result with
      state := "LOCAL_UNLINK_CONFIRMED", reason := "EXACT_NAMESPACE_ENTRY_REMOVAL_CONFIRMED", attestation, receipt } context

/-- From the call of `os.unlink` on. -/
def removal (result : Result) (context : TaskContext) (name : String) (measurement unlinkedAt : Json) :
    Program Result :=
  .eff (.unlink name) fun removed => do
    let outcome ← if removed then afterRemoval pk c context name measurement unlinkedAt else .ret (.error .other)
    finishRemoval pk c result context outcome

/-- From the claim on. -/
def claimed (owned : Json) (context : TaskContext) (name : String) (measurement : Json)
    (identity : Option (List ℤ)) (proposedAt : Json) : Program Result := do
  let result := { blocked with journalState := intent }
  match ← (time c proposedAt).andThen fun at_ => .ret ((acknowledgement pk c context at_).map fun ack => (at_, ack)) with
  | .error _ =>
    persist pk c { result with state := "OUTCOME_UNKNOWN", reason := "ACKNOWLEDGEMENT_NOT_ESTABLISHED" } context
  | .ok (acknowledgedAt, ack) =>
    let result := { result with acknowledgement := ack }
    if c.acknowledgeOnly then
      persist pk c { result with state := "ACKNOWLEDGED_ONLY", reason := "REQUEST_RECEIVED_WITHOUT_DELETION" } context
    else
      match ← hook c.beforeUnlink .beforeUnlink id with
      | .error _ =>
        persist pk c { result with state := "OUTCOME_UNKNOWN", reason := "BEFORE_UNLINK_CALLBACK_FAILED" } context
      | .ok _ =>
        match ← finalCheck pk c owned context name identity acknowledgedAt with
        | .error _ =>
          persist pk c { result with reason := "FINAL_AUTHORIZATION_OR_OBJECT_NOT_ESTABLISHED" } context
        | .ok unlinkedAt => removal pk c { result with attempted := true } context name measurement unlinkedAt

/-- Inside the open directory. -/
def inDirectory (owned : Json) (context : TaskContext) (name : String) (proposedAt : Json) : Program Result := do
  match ← measure pk name with
  | .error _ => refuse pk c "REQUESTED_OBJECT_NOT_SAFELY_ESTABLISHED" context
  | .ok (measurement, identity) =>
    if measurement ≠ expected context.manifest then refuse pk c "REQUESTED_OBJECT_NOT_PRESENT_AS_BOUND" context
    else
      match ← (claimRow pk c context owned).andThen fun (status, row) => .ret (checkClaim pk c context status row) with
      | .error _ =>
        let journalState ← currentState pk c context.requestId
        return { blocked with reason := "INTENT_ACKNOWLEDGEMENT_NOT_ESTABLISHED", journalState }
      | .ok (some row) => return replay blocked row context.taskSha256
      | .ok none => claimed pk c owned context name measurement identity proposedAt

/-- `with self._directory(self.namespace_root)`, and its handler. -/
def withDirectory (context : TaskContext) (body : Program Result) : Program Result := do
  match ← enterDirectory c with
  | .error _ => unavailable pk c blocked context
  | .ok _ =>
    let result ← body
    match ← attempt .closeDirectory id with
    | .ok _ => return result
    | .error _ => unavailable pk c result context

/-- `delete`; an exception leaves it only before the first effect. -/
def delete : Program (Run Result) :=
  match prepare pk c with
  | .error e => .ret (.error e)
  | .ok (owned, context, name) => do
    match ← replayIfClaimed pk c blocked context with
    | some prior => return .ok prior
    | none =>
      match ← currentTask pk c owned context.operationAt with
      | .error _ => return .ok { blocked with reason := "AUTHORIZATION_NOT_CURRENT" }
      | .ok proposedAt =>
        let result ← withDirectory pk c context (inDirectory pk c owned context name proposedAt)
        return .ok result

end Delete

/-! ## The system -/

/-- How the journal answers, before a transaction is committed or after; everything else answers as it
    likes. -/
def exec (pk : Packages) (_ : ℕ) (s : Journal) : (e : Effect) → Journal → Answer e → Prop
  | .lookup requestId, t, r => t = s ∧ (r = none ∨ r = some (s requestId))
  | .claim pins requestId fingerprint snapshot, t, r =>
    (t = s ∧ ∃ e, r = .error e) ∨
      (∃ row, claimIntent pk pins requestId fingerprint snapshot s = .ok (.inl row) ∧ t = s ∧ r = .ok (some row)) ∨
      (claimIntent pk pins requestId fingerprint snapshot s = .ok (.inr t) ∧ (r = .ok none ∨ ∃ e, r = .error e))
  | .finish pins requestId state result, t, r =>
    (t = s ∧ ∃ e, r = .error e) ∨
      (setTerminal pk pins requestId state result s = .ok t ∧ (r = .ok () ∨ ∃ e, r = .error e))
  | _, t, _ => t = s

def semantics (pk : Packages) : Semantics Journal Effect Answer where
  exec := exec pk
  env s t := t = s

abbrev DeletionWorld : Type := World (Journal × Log Effect Answer) Effect Answer Call (Run Result)

/-- Runs of any calls from an empty journal. -/
def Reachable (pk : Packages) (w : DeletionWorld) : Prop :=
  Interleaving.Run (semantics pk).logged (fun _ _ => True) (delete pk) (World.initial (fun _ => none, [])) w

end VapEvidence.Erasure

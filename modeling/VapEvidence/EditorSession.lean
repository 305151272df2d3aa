import VapEvidence.PublicationEditor
import VapEvidence.Transaction

set_option autoImplicit false

/-!
# The editing session

`Editor` of `editor.py`: the collector that signs each operation of a session, the calls
`set_block` and `snapshot` on its state, and what a session has written to each block.
-/
namespace VapEvidence.Publication
open Json Incident Transaction

section Collector
variable (pk : Packages)

/-- What an editor is constructed with: a document and the collector's key. -/
structure Collector where
  documentId : String
  secret : String
  publicKey : String
  keyId : String
  identified : identifier (.str documentId) = .ok documentId
  keyed : Incident.publicKey pk secret = .ok publicKey
  named : editorKeyId (.str keyId) = .ok keyId

theorem identifier_self {value : Json} {s : String} (h : identifier value = .ok s) : identifier (.str s) = .ok s := by
  unfold identifier at h
  split at h
  · split_ifs at h with hs
    · cases h
      exact if_pos hs
    · cases h
  · cases h

theorem editorKeyId_self {value : Json} {s : String} (h : editorKeyId value = .ok s) :
    editorKeyId (.str s) = .ok s := by
  unfold editorKeyId at h
  split at h
  · split_ifs at h with hs
    · cases h
      exact if_pos hs
    · cases h
  · cases h

/-- The checks of `Editor.__init__`. -/
def newCollector (documentId : Json) (secret : String) (keyId : Json) : Run (Collector pk) :=
  match hd : identifier documentId with
  | .error e => .error e
  | .ok documentId =>
    match hp : publicKey pk secret with
    | .error e => .error e
    | .ok publicKey =>
      match hk : editorKeyId keyId with
      | .error e => .error e
      | .ok keyId => .ok ⟨documentId, secret, publicKey, keyId, identifier_self hd, hp, editorKeyId_self hk⟩

/-- The state of an editor. -/
structure Editor where
  blocks : List (String × String)
  operations : List Json
  lastTime : Option ℤ

/-- The state that `Editor.__init__` leaves. -/
def newEditor : Editor := ⟨[], [], none⟩

variable {pk}

/-- `_now`, where the clock shows `clock`. -/
def now (clock : Json) : Call Raised Editor ℤ := do
  let parsed ← Transaction.perform (timestamp clock)
  let e ← get
  Transaction.perform (Incident.require (e.lastTime.all fun last => !(parsed < last)) "Editor clock moved backwards")
  return parsed

/-- The body of an operation. -/
def operationBody (documentId : String) (sequence : ℕ) (previous before after blockId text activity : String)
    (observedAt : Json) : Json :=
  dict [("kind", .str "editor_operation"), ("document_id", .str documentId), ("sequence", .int sequence),
    ("previous_sha256", .str previous), ("before_sha256", .str before), ("after_sha256", .str after),
    ("block_id", .str blockId), ("text", .str text), ("activity", .str activity), ("observed_at", observedAt)]

/-- The digest of the last operation, or the start of the chain. -/
def chainHead (pk : Packages) (operations : List Json) : Run String :=
  match operations.getLast? with
  | some last => digest pk last
  | none => .ok genesis

/-- `Editor.set_block` -/
def setBlock (c : Collector pk) (clock blockId text activity : Json) : Call Raised Editor Json := do
  let blockId ← Transaction.perform (identifier blockId)
  let text ← Transaction.perform (blockText text)
  Transaction.perform (Incident.require (activity = .str (textOf activity) && activities.contains (textOf activity))
    "Unsupported local activity")
  let e ← get
  Transaction.perform (Incident.require (e.operations.length < maxOperations) "Editor operation limit reached")
  Transaction.perform (Incident.require ((e.blocks.lookup blockId).isSome || e.blocks.length < maxBlocks) "Editor block limit reached")
  let parsed ← now clock
  let replacement := assign blockId text e.blocks
  let previous ← Transaction.perform (chainHead pk e.operations)
  let before ← Transaction.perform (digest pk (stateJson c.documentId e.blocks))
  let after ← Transaction.perform (digest pk (stateJson c.documentId replacement))
  let envelope ← Transaction.perform (signMessage pk (operationBody c.documentId (e.operations.length + 1) previous before after
    blockId text (textOf activity) clock) c.secret c.keyId)
  let prospective := e.operations ++ [envelope]
  let raw ← Transaction.perform (canonical pk (dict [("operations", .arr prospective),
    ("document", stateJson c.documentId replacement)]))
  -- The rest is reserved for the checkpoint that is signed later.
  Transaction.perform (Incident.require (raw.length ≤ maxJson - 4096) "Editor snapshot exceeds the bounded JSON budget")
  set { e with blocks := replacement, operations := prospective, lastTime := some parsed }
  return envelope

def checkpointBody (documentId : String) (sequence : ℕ) (chainHead : String) (document observedAt : Json) : Json :=
  dict [("kind", .str "editor_checkpoint"), ("document_id", .str documentId), ("sequence", .int sequence),
    ("chain_head_sha256", .str chainHead), ("document", document), ("observed_at", observedAt)]

def snapshotJson (documentId : String) (operations : List Json) (checkpoint : Json) : Json :=
  dict [("format", .str snapshotFormat), ("document_id", .str documentId), ("operations", .arr operations),
    ("checkpoint", checkpoint)]

/-- `Editor.snapshot` -/
def snapshot (c : Collector pk) (clock : Json) : Call Raised Editor Json := do
  let e ← get
  Transaction.perform (Incident.require (!e.blocks.isEmpty) "Cannot checkpoint an empty document")
  let parsed ← now clock
  let head ← Transaction.perform (chainHead pk e.operations)
  let checkpoint ← Transaction.perform (signMessage pk (checkpointBody c.documentId e.operations.length head
    (stateJson c.documentId e.blocks) clock) c.secret c.keyId)
  let result := snapshotJson c.documentId e.operations checkpoint
  let raw ← Transaction.perform (canonical pk result)
  Transaction.perform (Incident.require (raw.length ≤ maxJson) "Editor snapshot exceeds the bounded JSON budget")
  set { e with lastTime := some parsed }
  return result

/-- A call on an editor, and what its clock shows then. -/
inductive EditorCall where
  | setBlock (clock blockId text activity : Json)
  | snapshot (clock : Json)

def EditorCall.clock : EditorCall → Json
  | .setBlock clock _ _ _ => clock
  | .snapshot clock => clock

def EditorCall.perform (c : Collector pk) : EditorCall → Call Raised Editor Json
  | .setBlock clock blockId text activity => Publication.setBlock c clock blockId text activity
  | .snapshot clock => Publication.snapshot c clock

/-! ## Calls that raise -/

theorem reads_now (clock : Json) : Reads (now clock) :=
  (reads_perform _).bind fun _ => reads_get.bind fun _ => (reads_perform _).bind fun _ => reads_pure _

theorem atomic_setBlock (c : Collector pk) (clock blockId text activity : Json) :
    Atomic (setBlock c clock blockId text activity) := by
  refine .bind (reads_perform _) fun _ => ?_
  refine .bind (reads_perform _) fun _ => ?_
  refine .bind (reads_perform _) fun _ => ?_
  refine .bind reads_get fun _ => ?_
  refine .bind (reads_perform _) fun _ => ?_
  refine .bind (reads_perform _) fun _ => ?_
  refine .bind (reads_now clock) fun _ => ?_
  refine .bind (reads_perform _) fun _ => ?_
  refine .bind (reads_perform _) fun _ => ?_
  refine .bind (reads_perform _) fun _ => ?_
  refine .bind (reads_perform _) fun _ => ?_
  refine .bind (reads_perform _) fun _ => ?_
  refine .bind (reads_perform _) fun _ => ?_
  exact atomic_set _ _

theorem atomic_snapshot (c : Collector pk) (clock : Json) : Atomic (snapshot c clock) := by
  refine .bind reads_get fun _ => ?_
  refine .bind (reads_perform _) fun _ => ?_
  refine .bind (reads_now clock) fun _ => ?_
  refine .bind (reads_perform _) fun _ => ?_
  refine .bind (reads_perform _) fun _ => ?_
  refine .bind (reads_perform _) fun _ => ?_
  refine .bind (reads_perform _) fun _ => ?_
  exact atomic_set _ _

/-- A call that raises leaves the editor as it was. -/
theorem atomic_perform (c : Collector pk) (call : EditorCall) : Atomic (call.perform c) := by
  cases call with
  | setBlock clock blockId text activity => exact atomic_setBlock c clock blockId text activity
  | snapshot clock => exact atomic_snapshot c clock

/-! ## Calls that return -/

theorem now_returned {clock : Json} {e e' : Editor} {at_ : ℤ} (h : (now clock).on e = (.ok at_, e')) :
    timestamp clock = .ok at_ ∧ (∀ last, e.lastTime = some last → last ≤ at_) ∧ e' = e := by
  obtain ⟨parsed, hclock, h⟩ := perform_returned h
  rw [on_get_bind] at h
  obtain ⟨⟨⟩, hle, h⟩ := perform_returned h
  cases h
  refine ⟨hclock, fun last hlast => ?_, rfl⟩
  have hle := Incident.require_ok hle
  rw [hlast] at hle
  simpa using hle

theorem now_returns {clock : Json} {e : Editor} {at_ : ℤ} (h : timestamp clock = .ok at_)
    (hle : ∀ last, e.lastTime = some last → last ≤ at_) : (now clock).on e = (.ok at_, e) := by
  have hrequire : Incident.require (e.lastTime.all fun last => !decide (at_ < last)) "Editor clock moved backwards" = .ok () := by
    have : (e.lastTime.all fun last => !decide (at_ < last)) = true := by
      cases hl : e.lastTime with
      | none => rfl
      | some last => simpa using hle last hl
    rw [Incident.require, this]
    rfl
  rw [now, on_perform_bind h, on_get_bind, on_perform_bind hrequire, on_pure]

/-- What `set_block` has checked when it returns, and what it has written. -/
structure Written (c : Collector pk) (clock blockId text : Json) (e e' : Editor) (envelope : Json)
    (id block label previous before after : String) (at_ : ℤ) : Prop where
  identified : identifier blockId = .ok id
  plain : blockText text = .ok block
  supported : activities.contains label = true
  operations : e.operations.length < maxOperations
  room : (e.blocks.lookup id).isSome = true ∨ e.blocks.length < maxBlocks
  read : timestamp clock = .ok at_
  later : ∀ last, e.lastTime = some last → last ≤ at_
  previousDigest : chainHead pk e.operations = .ok previous
  beforeDigest : digest pk (stateJson c.documentId e.blocks) = .ok before
  afterDigest : digest pk (stateJson c.documentId (assign id block e.blocks)) = .ok after
  signed : signMessage pk (operationBody c.documentId (e.operations.length + 1) previous before after id block label
    clock) c.secret c.keyId = .ok envelope
  budget : ∃ raw, canonical pk (dict [("operations", .arr (e.operations ++ [envelope])),
    ("document", stateJson c.documentId (assign id block e.blocks))]) = .ok raw ∧ raw.length ≤ maxJson - 4096
  state : e' = ⟨assign id block e.blocks, e.operations ++ [envelope], some at_⟩

theorem setBlock_returned {c : Collector pk} {clock blockId text activity envelope : Json} {e e' : Editor}
    (h : (setBlock c clock blockId text activity).on e = (.ok envelope, e')) :
    ∃ id block previous before after at_, activity = .str (textOf activity) ∧
      Written c clock blockId text e e' envelope id block (textOf activity) previous before after at_ := by
  obtain ⟨id, hid, h⟩ := perform_returned h
  obtain ⟨block, hblock, h⟩ := perform_returned h
  obtain ⟨⟨⟩, hactivity, h⟩ := perform_returned h
  rw [on_get_bind] at h
  obtain ⟨⟨⟩, hoperations, h⟩ := perform_returned h
  obtain ⟨⟨⟩, hblocks, h⟩ := perform_returned h
  obtain ⟨at_, e₁, hnow, h⟩ := bind_returned h
  obtain ⟨hclock, hle, rfl⟩ := now_returned hnow
  obtain ⟨previous, hprevious, h⟩ := perform_returned h
  obtain ⟨before, hbefore, h⟩ := perform_returned h
  obtain ⟨after, hafter, h⟩ := perform_returned h
  obtain ⟨signed, hsigned, h⟩ := perform_returned h
  obtain ⟨raw, hraw, h⟩ := perform_returned h
  obtain ⟨⟨⟩, hbudget, h⟩ := perform_returned h
  rw [on_set_bind, on_pure] at h
  cases h
  have hactivity := Incident.require_ok hactivity
  have hblocks := Incident.require_ok hblocks
  rw [Bool.and_eq_true, decide_eq_true_iff] at hactivity
  rw [Bool.or_eq_true, decide_eq_true_iff] at hblocks
  exact ⟨id, block, previous, before, after, at_, hactivity.1, hid, hblock, hactivity.2,
    of_decide_eq_true (Incident.require_ok hoperations), hblocks, hclock, hle, hprevious, hbefore, hafter, hsigned,
    ⟨raw, hraw, of_decide_eq_true (Incident.require_ok hbudget)⟩, rfl⟩

theorem snapshot_returned {c : Collector pk} {clock result : Json} {e e' : Editor}
    (h : (snapshot c clock).on e = (.ok result, e')) : ∃ at_, timestamp clock = .ok at_ ∧
      (∀ last, e.lastTime = some last → last ≤ at_) ∧ e' = { e with lastTime := some at_ } := by
  rw [snapshot, on_get_bind] at h
  obtain ⟨_, -, h⟩ := perform_returned h
  obtain ⟨at_, e₁, hnow, h⟩ := bind_returned h
  obtain ⟨hclock, hle, rfl⟩ := now_returned hnow
  obtain ⟨_, -, h⟩ := perform_returned h
  obtain ⟨_, -, h⟩ := perform_returned h
  obtain ⟨_, -, h⟩ := perform_returned h
  obtain ⟨_, -, h⟩ := perform_returned h
  rw [on_set_bind, on_pure] at h
  cases h
  exact ⟨at_, hclock, hle, rfl⟩

end Collector
end VapEvidence.Publication

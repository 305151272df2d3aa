import VapEvidence.IncidentEnvelopes

set_option autoImplicit false

/-!
# The publication editor

`protocol.py` and `editor.py` of the publication pilot: the signed operations of a local
editing session, replayed to the document they leave, and the disclosure of what they used.
-/
namespace VapEvidence.Publication
open Json Incident

/-! ## Messages -/

/-- `DOMAIN` -/
def domain : Bytes := encodeUtf8 "publication-pilot-control/0.1".toList ++ [0]
def maxHtml : ℕ := 1024 * 1024
def maxJson : ℕ := 4 * 1024 * 1024

def isIdentifierStart (c : Char) : Bool := ('A' ≤ c && c ≤ 'Z') || ('a' ≤ c && c ≤ 'z') || ('0' ≤ c && c ≤ '9')

def isIdentifierChar (c : Char) : Bool := isIdentifierStart c || c = '_' || c = '-'

def isIdentifier : List Char → Bool
  | c :: cs => isIdentifierStart c && cs.all isIdentifierChar && cs.length ≤ 63
  | [] => false

/-- `identifier` -/
def identifier (value : Json) : Run String :=
  match value with
  | .str s => if isIdentifier s.toList then .ok s else inputError "Unsupported bounded identifier"
  | _ => inputError "Unsupported bounded identifier"

def envelopeTexts : EnvelopeTexts :=
  ⟨"Unexpected control signature algorithm or key", "Unexpected control record kind", "Invalid control signature"⟩

section Messages
variable (pk : Packages)

/-- `decode_json` -/
def decodeJson (raw : Bytes) : Run Json := Incident.decodeJson pk (floatHooks pk) maxJson raw

/-- `decode_json(canonical(value))` -/
@[irreducible] def owned (value : Json) : Run Json := do decodeJson pk (← canonical pk value)

/-- `sign_message` -/
def signMessage (body : Json) (secret keyId : String) : Run Json := signEnvelope pk domain body secret keyId

/-- `verify_message` -/
def verifyMessage (envelope : Json) (public_ keyId kind : String) : Run Json :=
  verifyEnvelope pk domain envelopeTexts envelope public_ (.str keyId) kind

end Messages

/-! ## Shapes -/

/-- `FORMAT` -/
def snapshotFormat : String := "publication-editor-snapshot/0.1"
def maxOperations : ℕ := 64
def maxBlocks : ℕ := 16
def maxBlockCharacters : ℕ := 8192
def genesis : String := String.ofList (List.replicate 64 '0')
def aiActivities : List String := ["generation", "substantive_editing", "proofreading", "translation"]
def activities : List String := aiActivities ++ ["import", "manual_edit"]
def operationFields : List String := ["kind", "document_id", "sequence", "previous_sha256", "before_sha256",
  "after_sha256", "block_id", "text", "activity", "observed_at"]
def checkpointFields : List String := ["kind", "document_id", "sequence", "chain_head_sha256", "document", "observed_at"]

/-- `_exact` -/
def exact (value : Json) (fields : List String) : Run Unit :=
  Incident.require (value.hasFields fields) "Unexpected editor object fields"

/-- `_hex` -/
def editorHex (value : Json) (size : ℕ) : Run String :=
  match value with
  | .str s =>
    if s.length = size && s.toList.all isLowerHex then .ok s
    else inputError "Invalid editor digest or signature encoding"
  | _ => inputError "Invalid editor digest or signature encoding"

/-- `_key_id` -/
def editorKeyId (value : Json) : Run String :=
  match value with
  | .str s =>
    if !s.toList.all isBlank && s.length ≤ 256 then .ok s
    else inputError "Expected a bounded collector key identifier"
  | _ => inputError "Expected a bounded collector key identifier"

/-- A control character that plain text may not hold. -/
def isControl (c : Char) : Bool := (c.toNat < 32 && ! ['\r', '\n', '\t'].contains c) || c.toNat = 127

/-- `_text` -/
def blockText (value : Json) : Run String :=
  match value with
  | .str s => do
    Incident.require (s.length ≤ maxBlockCharacters) "Block text exceeds the supported character limit"
    Incident.require (!s.toList.any isControl) "Unsupported control character in plain text"
    return s
  | _ => inputError "Block text exceeds the supported character limit"

/-- `_sequence` -/
def sequence : Json → Run ℕ
  | .int n => if 1 ≤ n ∧ n ≤ maxOperations then .ok n.toNat else inputError "Invalid editor operation sequence"
  | _ => inputError "Invalid editor operation sequence"

/-- The items of an array of texts. -/
def stringItems : Json → Option (List String)
  | .arr xs => xs.mapM fun
    | .str s => some s
    | _ => none
  | _ => none

/-- `_activities`; equal to its sorted set is in strictly increasing order. -/
def disclosedActivities (value : Json) : Run (List String) :=
  match stringItems value with
  | some items =>
    if items.all (aiActivities.contains ·) && decide (items.Pairwise (· < ·)) then .ok items
    else inputError "AI activities must be sorted, unique supported labels"
  | none => inputError "AI activities must be sorted, unique supported labels"

/-- The checks of a document's blocks, where some identifiers have been seen. -/
def documentBlocks (seen : List String) : List Json → Run (List (String × String))
  | [] => .ok []
  | block :: blocks => do
    exact block ["block_id", "text"]
    let id ← identifier (block.item "block_id")
    let text ← blockText (block.item "text")
    Incident.require (!seen.contains id) "Duplicate block identifier"
    return (id, text) :: (← documentBlocks (id :: seen) blocks)

/-- `_document` -/
def checkDocument (document : Json) : Run (List (String × String)) := do
  exact document ["document_id", "blocks"]
  let _ ← identifier (document.item "document_id")
  match document.item "blocks" with
  | .arr blocks => do
    Incident.require (blocks.length ≤ maxBlocks && !blocks.isEmpty) "A document requires between 1 and 16 ordered blocks"
    documentBlocks [] blocks
  | _ => inputError "A document requires between 1 and 16 ordered blocks"

/-- An operation of the editor, as its shape admits it. -/
structure Operation where
  documentId : String
  sequence : ℕ
  previous : String
  before : String
  after : String
  blockId : String
  text : String
  activity : String
  observedAt : Json
  at_ : ℤ

/-- `_operation_shape` -/
def operationShape (body : Json) : Run Operation := do
  exact body operationFields
  Incident.require (body.item "kind" = .str "editor_operation") "Unexpected editor operation kind"
  let documentId ← identifier (body.item "document_id")
  let blockId ← identifier (body.item "block_id")
  let sequence ← sequence (body.item "sequence")
  let previous ← editorHex (body.item "previous_sha256") 64
  let before ← editorHex (body.item "before_sha256") 64
  let after ← editorHex (body.item "after_sha256") 64
  let text ← blockText (body.item "text")
  let activity := textOf (body.item "activity")
  Incident.require (body.item "activity" = .str activity && activities.contains activity) "Unsupported local activity"
  let at_ ← timestamp (body.item "observed_at")
  return { documentId, sequence, previous, before, after, blockId, text, activity, observedAt := body.item "observed_at", at_ }

/-- `_checkpoint_shape`: the time of a checkpoint. -/
def checkpointShape (body : Json) : Run ℤ := do
  exact body checkpointFields
  Incident.require (body.item "kind" = .str "editor_checkpoint") "Unexpected editor checkpoint kind"
  let _ ← identifier (body.item "document_id")
  let _ ← sequence (body.item "sequence")
  let _ ← editorHex (body.item "chain_head_sha256") 64
  let _ ← checkDocument (body.item "document")
  timestamp (body.item "observed_at")

/-- `_envelope_shape` -/
def envelopeShape {α : Type} (envelope : Json) (shape : Json → Run α) : Run Unit := do
  exact envelope ["algorithm", "key_id", "body", "signature"]
  Incident.require (envelope.item "algorithm" = .str "Ed25519") "Unsupported editor signature algorithm"
  let _ ← editorKeyId (envelope.item "key_id")
  let _ ← editorHex (envelope.item "signature") 128
  let _ ← shape (envelope.item "body")
  return ()

/-! ## Documents -/

def blockJson (block : String × String) : Json := dict [("block_id", .str block.1), ("text", .str block.2)]

/-- `_state` -/
def stateJson (documentId : String) (blocks : List (String × String)) : Json :=
  dict [("document_id", .str documentId), ("blocks", .arr (blocks.map blockJson))]

/-- `_revision` -/
def revision (sequence : ℕ) (contentDigest : String) : String :=
  "rev-" ++ toString sequence ++ "-" ++ String.ofList (contentDigest.toList.take 24)

/-- `values[key] = value` of a dictionary in insertion order -/
def assign {α : Type} (key : String) (value : α) : List (String × α) → List (String × α)
  | [] => [(key, value)]
  | (k, v) :: rest => if k = key then (k, value) :: rest else (k, v) :: assign key value rest

/-- What a replay has reached: the blocks, the last operation on each, the head of the chain, the time
    of the last operation and the activities seen. -/
structure Replay where
  blocks : List (String × String)
  lastWrites : List (String × Operation)
  previous : String
  lastTime : Option ℤ
  observed : List String

/-- An adopted block: one whose last operation is a simulated AI activity. -/
structure Adopted where
  blockId : String
  revisionId : String
  sha256 : String
  activity : String
  observedAt : Json

/-- What a verified snapshot shows. -/
structure View where
  documentId : String
  revisionId : String
  blocks : List (String × String)
  observedActivities : List String
  adopted : List Adopted
  sourceSha256 : String
  lineageSha256 : String
  observedAt : Json

section Snapshot
variable (pk : Packages)

/-- One operation of the loop of `verify_snapshot`. -/
def replayOne (documentId collectorPublic collectorKeyId : String) (number : ℕ) (envelope : Json) (r : Replay) :
    Run Replay := do
  let body ← verifyMessage pk envelope collectorPublic collectorKeyId "editor_operation"
  let op ← operationShape body
  Incident.require (op.documentId = documentId && op.sequence = number) "Editor sequence or document identity mismatch"
  Incident.require (op.previous = r.previous && op.before = (← digest pk (stateJson documentId r.blocks)))
    "Editor chain head or before-state mismatch"
  Incident.require (r.lastTime.all fun last => !(op.at_ < last)) "Editor chronology is inconsistent"
  Incident.require ((r.blocks.lookup op.blockId).isSome || r.blocks.length < maxBlocks) "Editor block limit exceeded during replay"
  let blocks := assign op.blockId op.text r.blocks
  Incident.require (op.after = (← digest pk (stateJson documentId blocks))) "Editor after-state mismatch"
  return {
    blocks
    lastWrites := assign op.blockId op r.lastWrites
    previous := ← digest pk envelope
    lastTime := some op.at_
    observed := if aiActivities.contains op.activity then r.observed.insert op.activity else r.observed }

/-- The loop of `verify_snapshot`. -/
def replayAll (documentId collectorPublic collectorKeyId : String) (number : ℕ) : List Json → Replay → Run Replay
  | [], r => .ok r
  | envelope :: envelopes, r => do
    replayAll documentId collectorPublic collectorKeyId (number + 1) envelopes
      (← replayOne pk documentId collectorPublic collectorKeyId number envelope r)

/-- The adopted blocks of a document. -/
def adoptedBlocks (r : Replay) : List Adopted :=
  r.blocks.filterMap fun block =>
    match r.lastWrites.lookup block.1 with
    | some last =>
      let blockHash := sha256Hex pk (encodeUtf8 block.2.toList)
      if aiActivities.contains last.activity then
        some ⟨block.1, revision last.sequence blockHash, blockHash, last.activity, last.observedAt⟩
      else none
    | none => none

/-- What `verify_snapshot` checks before it owns the snapshot. -/
def snapshotShape (snapshot : Json) : Run Unit := do
  exact snapshot ["format", "document_id", "operations", "checkpoint"]
  Incident.require (snapshot.item "format" = .str snapshotFormat) "Unsupported editor snapshot format"
  let _ ← identifier (snapshot.item "document_id")
  match snapshot.item "operations" with
  | .arr operations => do
    Incident.require (1 ≤ operations.length && operations.length ≤ maxOperations) "Invalid editor operation count"
    operations.forM fun envelope => envelopeShape envelope operationShape
  | _ => inputError "Invalid editor operation count"
  envelopeShape (snapshot.item "checkpoint") checkpointShape

/-- What `verify_snapshot` checks of the checkpoint against the replayed state: its time. -/
def checkCheckpoint (documentId : String) (count : ℕ) (r : Replay) (checkpoint : Json) : Run Unit := do
  let at_ ← checkpointShape checkpoint
  Incident.require (checkpoint.item "document_id" = .str documentId && checkpoint.item "sequence" = .int count &&
    checkpoint.item "chain_head_sha256" = .str r.previous &&
    (checkpoint.item "document").pyEq (stateJson documentId r.blocks))
    "Editor checkpoint does not match replayed state"
  Incident.require (r.lastTime.all fun last => !(at_ < last)) "Checkpoint predates its final operation"

/-- `verify_snapshot` -/
@[irreducible] def verifySnapshot (snapshot : Json) (collectorPublic collectorKeyId : String) : Run View := do
  let _ ← editorKeyId (.str collectorKeyId)
  snapshotShape snapshot
  let raw ← canonical pk snapshot
  Incident.require (raw.length ≤ maxJson) "Editor snapshot exceeds the bounded JSON budget"
  let captured ← decodeJson pk raw
  let documentId := textOf (← sub captured "document_id")
  match ← sub captured "operations" with
  | .arr operations => do
    let r ← replayAll pk documentId collectorPublic collectorKeyId 1 operations ⟨[], [], genesis, none, []⟩
    let checkpoint ← verifyMessage pk (← sub captured "checkpoint") collectorPublic collectorKeyId "editor_checkpoint"
    checkCheckpoint documentId operations.length r checkpoint
    let sourceHash ← digest pk (stateJson documentId r.blocks)
    return {
      documentId
      revisionId := revision operations.length sourceHash
      blocks := r.blocks
      observedActivities := r.observed.mergeSort (· ≤ ·)
      adopted := adoptedBlocks pk r
      sourceSha256 := sourceHash
      lineageSha256 := ← digest pk captured
      observedAt := checkpoint.item "observed_at" }
  | _ => .error .type

end Snapshot

/-! ## Disclosures -/

/-- `activity.replace("_", " ")` -/
def spaced (s : String) : String := String.ofList (s.toList.map fun c => if c = '_' then ' ' else c)

/-- `disclosure_text` -/
def disclosureText (disclosure : Json) : Run String := do
  exact disclosure ["activities", "scope"]
  let items ← disclosedActivities (disclosure.item "activities")
  Incident.require (disclosure.item "scope" = .str "recorded_local_session_only") "Unsupported disclosure scope"
  let labels := if items.isEmpty then "none declared" else String.intercalate ", " (items.map spaced)
  return "Synthetic local publication pilot. Declared simulated AI activities: " ++ labels ++ ". " ++
    "Coverage is limited to this recorded local editing session. This editor invokes no external AI model. " ++
    "The origin of imported content and activity outside this session is unknown; this disclosure does not " ++
    "establish human-only authorship or complete AI provenance."

end VapEvidence.Publication

import VapEvidence.UploadJournal
import VapEvidence.IncidentEnvelopes

set_option autoImplicit false

/-!
# Control messages of the collector

`protocol.py` of the collector pilot: bounded messages without floats, their signatures,
and what a receipt and a status must bind.
-/
namespace VapEvidence.Collector
open Json Incident

/-- `DOMAIN` -/
def domain : Bytes := encodeUtf8 "collector-pilot-control/0.1".toList ++ [0]
def maxControl : ℕ := 64 * 1024
def maxString : ℕ := 256
def maxMembers : ℕ := 1024
def maxNesting : ℕ := 32

def envelopeFields : List String := ["algorithm", "key_id", "body", "signature"]
def intentFields : List String := ["kind", "collector_id", "collection_id", "request_id", "evaluation_id",
  "subject_sha256", "payload_sha256", "byte_length", "policy_sha256", "decision_sha256", "created_at"]
def receiptFields : List String := ["kind", "collector_id", "collection_id", "request_id", "request_sha256",
  "recorded_at", "receipt_id", "storage"]
def queryFields : List String := ["kind", "collector_id", "collection_id", "request_id", "request_sha256", "nonce",
  "created_at"]
def statusFields : List String := ["kind", "collector_id", "collection_id", "request_id", "request_sha256",
  "query_sha256", "nonce", "status", "receipt", "checked_at"]

/-! ## Values -/

/-- `_exact` -/
def exact (value : Json) (fields : List String) : Run Json := do
  Incident.require (value.hasFields fields) "Unexpected control object fields"
  return value

/-- `_text` -/
def controlText (value : Json) : Run String :=
  match value with
  | .str s =>
    if !s.toList.all isBlank && s.length ≤ maxString then .ok s
    else inputError "Expected a bounded nonempty control string"
  | _ => inputError "Expected a bounded nonempty control string"

/-- `_hex` -/
def controlHex (value : Json) (length : ℕ) : Run String :=
  match value with
  | .str s =>
    if s.length = 2 * length && s.toList.all isLowerHex then .ok s
    else inputError "Invalid lowercase hexadecimal control value"
  | _ => inputError "Invalid lowercase hexadecimal control value"

mutual
/-- `_bounded` -/
def bounded (depth : ℕ) : Json → Run Unit
  | .arr xs => do
    Incident.require (depth ≤ maxNesting) "Control JSON is too deeply nested"
    Incident.require (xs.length ≤ maxMembers) "Control JSON array is too large"
    boundedAll (depth + 1) xs
  | .obj ms => do
    Incident.require (depth ≤ maxNesting) "Control JSON is too deeply nested"
    Incident.require (ms.length ≤ maxMembers) "Invalid control JSON object"
    boundedFields (depth + 1) ms
  | .float _ => do
    Incident.require (depth ≤ maxNesting) "Control JSON is too deeply nested"
    inputError "Control JSON permits no floats or non-JSON values"
  | _ => Incident.require (depth ≤ maxNesting) "Control JSON is too deeply nested"
def boundedAll (depth : ℕ) : List Json → Run Unit
  | [] => .ok ()
  | x :: xs => do bounded depth x; boundedAll depth xs
def boundedFields (depth : ℕ) : List (String × Json) → Run Unit
  | [] => .ok ()
  | (_, x) :: ms => do bounded depth x; boundedFields depth ms
end

/-- The hooks of `decode_json`. -/
def controlHooks : Hooks where
  parseInt t := .ok (.int (intToken t))
  parseFloat _ := .error "Control JSON permits no floats or non-finite values"
  parseConstant _ := .error "Control JSON permits no floats or non-finite values"
  objectPairs := uniquePairs "Duplicate control JSON key"

section Messages
variable (pk : Packages)

/-- `decode_json` -/
def decodeJson (raw : Bytes) : Run Json := do
  Incident.require (raw.length ≤ maxControl) "Invalid or oversized control JSON"
  match decodeUtf8 raw with
  | none => inputError "Invalid control JSON"
  | some s =>
    match loads controlHooks s with
    | .error _ => inputError "Invalid control JSON"
    | .ok value =>
      match (do bounded 0 value; canonical pk value) with
      | .error _ => inputError "Invalid control JSON"
      | .ok _ => .ok value

/-- `capture` -/
@[irreducible] def capture (value : Json) : Run Json :=
  match (do bounded 0 value; decodeJson pk (← canonical pk value)) with
  | .ok owned => .ok owned
  | .error _ => inputError "Invalid control value"

/-! ## Bodies -/

/-- `collection_id` -/
def collectionId (collectorId requestId : Json) : Run String := do
  let _ ← controlText collectorId
  let _ ← controlText requestId
  digest pk (dict [("collector_id", collectorId), ("request_id", requestId)])

/-- `_identity` -/
def identity (body : Json) : Run Unit := do
  let _ ← controlText (body.item "collector_id")
  let _ ← controlText (body.item "request_id")
  let _ ← controlHex (body.item "collection_id") 32
  let id ← collectionId pk (body.item "collector_id") (body.item "request_id")
  Incident.require (body.item "collection_id" = .str id) "Collection identity does not match its request"

/-- `validate_intent` -/
@[irreducible] def validateIntent (body : Json) : Run Json := do
  let body ← exact (← capture pk body) intentFields
  Incident.require (body.item "kind" = .str "collection_intent") "Expected a collection intent"
  identity pk body
  let _ ← controlText (body.item "evaluation_id")
  let _ ← controlHex (body.item "subject_sha256") 32
  let _ ← controlHex (body.item "payload_sha256") 32
  let _ ← controlHex (body.item "policy_sha256") 32
  let _ ← controlHex (body.item "decision_sha256") 32
  Incident.require (Upload.isByteLength (body.item "byte_length")) "Invalid payload length in collection intent"
  let _ ← timestamp (body.item "created_at")
  return body

/-- `validate_query` -/
def validateQuery (body : Json) : Run Json := do
  let body ← exact (← capture pk body) queryFields
  Incident.require (body.item "kind" = .str "collection_query") "Expected a collection query"
  identity pk body
  let _ ← controlHex (body.item "request_sha256") 32
  let _ ← controlHex (body.item "nonce") 32
  let _ ← timestamp (body.item "created_at")
  return body

/-! ## Envelopes -/

/-- `_envelope` -/
def envelope (value : Json) (kind : String) : Run Json := do
  let envelope ← exact (← capture pk value) envelopeFields
  Incident.require (envelope.item "algorithm" = .str "Ed25519") "Unexpected control signature algorithm"
  let _ ← controlText (envelope.item "key_id")
  let _ ← controlHex (envelope.item "signature") 64
  Incident.require ((envelope.item "body").isDict && (envelope.item "body").get? "kind" = some (.str kind))
    "Unexpected control record kind"
  return envelope

/-- `sign_control` -/
@[irreducible] def signControl (body : Json) (secret keyId : String) : Run Json := do
  let _ ← controlHex (.str secret) 32
  let _ ← controlText (.str keyId)
  Incident.require body.isDict "A control body must be an object"
  let body ← capture pk body
  let message ← signingBytes pk domain (dict [("algorithm", .str "Ed25519"), ("key_id", .str keyId), ("body", body)])
  match unhex secret with
  | some raw =>
    return dict [("algorithm", .str "Ed25519"), ("key_id", .str keyId), ("body", body),
      ("signature", .str (hex (pk.sign raw message)))]
  | none => .error .other

/-- `verify_control` -/
def verifyControl (value : Json) (public_ keyId kind : String) : Run Json := do
  let envelope ← envelope pk value kind
  let _ ← controlHex (.str public_) 32
  let _ ← controlText (.str keyId)
  Incident.require (envelope.item "key_id" = .str keyId) "Unexpected control signing key"
  let message ← signingBytes pk domain (unsignedOf envelope)
  match unhex public_, unhex (textOf (envelope.item "signature")) with
  | some key, some signature => do
    Incident.require (pk.verify key message signature) "Invalid collector control signature"
    return envelope.item "body"
  | _, _ => .error .other

/-- The fields that bind a body to what it answers. -/
def binds (fields : List String) (body original : Json) : Bool := fields.all fun k => body.item k = original.item k

/-- `verify_receipt` -/
@[irreducible] def verifyReceipt (value intent : Json) (collectorPublic collectorKeyId : String) (at_ : Json) : Run Json := do
  let intent ← envelope pk intent "collection_intent"
  let original ← validateIntent pk (intent.item "body")
  let body ← exact (← verifyControl pk value collectorPublic collectorKeyId "collection_receipt") receiptFields
  identity pk body
  let _ ← controlHex (body.item "request_sha256") 32
  let _ ← controlText (body.item "receipt_id")
  Incident.require (body.item "storage" = .str "sqlite-wal-full") "Unexpected collector storage claim"
  Incident.require (binds ["collector_id", "collection_id", "request_id"] body original &&
    body.item "request_sha256" = .str (← digest pk intent)) "Collector receipt does not bind this intent"
  let created ← timestamp (original.item "created_at")
  let recorded ← timestamp (body.item "recorded_at")
  Incident.require (created ≤ recorded) "Collector receipt chronology is invalid"
  Incident.require (recorded ≤ (← timestamp at_)) "Collector receipt chronology is invalid"
  return body

/-- `verify_status` -/
@[irreducible] def verifyStatus (value query intent : Json) (collectorPublic collectorKeyId : String) (at_ : Json) : Run Json := do
  let intent ← envelope pk intent "collection_intent"
  let original ← validateIntent pk (intent.item "body")
  let query ← envelope pk query "collection_query"
  let requested ← validateQuery pk (query.item "body")
  Incident.require (binds ["collector_id", "collection_id", "request_id"] requested original &&
    requested.item "request_sha256" = .str (← digest pk intent) &&
    !((← timestamp (requested.item "created_at")) < (← timestamp (original.item "created_at"))))
    "Collector query does not bind this intent"
  let body ← exact (← verifyControl pk value collectorPublic collectorKeyId "collection_status") statusFields
  identity pk body
  let _ ← controlHex (body.item "request_sha256") 32
  let _ ← controlHex (body.item "query_sha256") 32
  let _ ← controlHex (body.item "nonce") 32
  Incident.require (binds ["collector_id", "collection_id", "request_id", "request_sha256", "nonce"] body requested &&
    body.item "query_sha256" = .str (← digest pk query)) "Collector status does not bind this fresh query"
  let asked ← timestamp (requested.item "created_at")
  let checked ← timestamp (body.item "checked_at")
  Incident.require (asked ≤ checked) "Collector status chronology is invalid"
  Incident.require (checked ≤ (← timestamp at_)) "Collector status chronology is invalid"
  if body.item "status" = .str "FOUND" then
    let _ ← verifyReceipt pk (body.item "receipt") intent collectorPublic collectorKeyId (body.item "checked_at")
    return body
  else if body.item "status" = .str "NOT_FOUND" then
    Incident.require (body.item "receipt" = .null) "Missing collector record cannot carry a receipt"
    return body
  else inputError "Unsupported collector status"

end Messages

/-! ## What is captured -/

section Capture
variable {pk : Packages}

theorem controlHooks_closed : Closed controlHooks WF where
  null := trivial
  bool _ := trivial
  str _ := trivial
  arr xs h := (wfList_iff xs).2 h
  parseInt t v h := by cases h; trivial
  parseFloat t v h := by cases h
  parseConstant t v h := by cases h
  objectPairs ms v h hv := by
    change uniquePairs _ ms = _ at hv
    unfold uniquePairs at hv
    split_ifs at hv
    cases hv
    exact dict_wf h

theorem controlHooks_narrower (pk : Packages) : Narrower controlHooks (floatHooks pk) where
  parseInt _ _ h := h
  parseFloat _ _ h := nomatch h
  parseConstant _ _ h := nomatch h
  objectPairs ms v h := by
    change uniquePairs _ ms = _ at h ⊢
    unfold uniquePairs at h ⊢
    split_ifs at h ⊢
    exact h

mutual
theorem bounded_floatless : ∀ {depth : ℕ} (v : Json), bounded depth v = .ok () → Floatless v
  | _, .null, _ => trivial
  | _, .bool _, _ => trivial
  | _, .int _, _ => trivial
  | _, .str _, _ => trivial
  | _, .float _, h => by
    unfold bounded at h
    obtain ⟨_, -, h⟩ := bind_ok h
    cases h
  | depth, .arr xs, h => by
    rw [bounded] at h
    obtain ⟨_, -, h⟩ := bind_ok h
    obtain ⟨_, -, h⟩ := bind_ok h
    exact boundedAll_floatless xs h
  | depth, .obj ms, h => by
    rw [bounded] at h
    obtain ⟨_, -, h⟩ := bind_ok h
    obtain ⟨_, -, h⟩ := bind_ok h
    exact boundedFields_floatless ms h
theorem boundedAll_floatless : ∀ {depth : ℕ} (xs : List Json), boundedAll depth xs = .ok () → FloatlessList xs
  | _, [], _ => trivial
  | depth, x :: xs, h => by
    rw [boundedAll] at h
    obtain ⟨⟨⟩, hx, h⟩ := bind_ok h
    exact ⟨bounded_floatless x hx, boundedAll_floatless xs h⟩
theorem boundedFields_floatless :
    ∀ {depth : ℕ} (ms : List (String × Json)), boundedFields depth ms = .ok () → FloatlessMembers ms
  | _, [], _ => trivial
  | depth, (_, x) :: ms, h => by
    rw [boundedFields] at h
    obtain ⟨⟨⟩, hx, h⟩ := bind_ok h
    exact ⟨bounded_floatless x hx, boundedFields_floatless ms h⟩
end

theorem decodeJson_ok {raw : Bytes} {v : Json} (h : decodeJson pk raw = .ok v) :
    ∃ s, decodeUtf8 raw = some s ∧ loads controlHooks s = .ok v ∧ bounded 0 v = .ok () := by
  unfold decodeJson at h
  obtain ⟨_, -, h⟩ := bind_ok h
  split at h
  · cases h
  · next s hs =>
    split at h
    · cases h
    · next value hvalue =>
      split at h
      · cases h
      · next hchecked =>
        cases h
        obtain ⟨⟨⟩, hbounded, -⟩ := bind_ok hchecked
        exact ⟨s, hs, hvalue, hbounded⟩

theorem capture_ok {v owned : Json} (h : capture pk v = .ok owned) :
    ∃ raw, bounded 0 v = .ok () ∧ canonical pk v = .ok raw ∧ decodeJson pk raw = .ok owned := by
  unfold capture at h
  split at h
  · next hread =>
    cases h
    obtain ⟨⟨⟩, hbounded, hread⟩ := bind_ok hread
    obtain ⟨raw, hraw, hread⟩ := bind_ok hread
    exact ⟨raw, hbounded, hraw, hread⟩
  · cases h

/-- A captured value is a value of JSON without floats. -/
theorem capture_plain {v owned : Json} (h : capture pk v = .ok owned) : owned.WF ∧ Floatless owned := by
  obtain ⟨raw, -, -, hread⟩ := capture_ok h
  obtain ⟨s, -, hloads, hbounded⟩ := decodeJson_ok hread
  exact ⟨loads_closed controlHooks_closed hloads, bounded_floatless owned hbounded⟩

/-- Capturing changes nothing. -/
theorem capture_eq (hpk : ReadsBack pk) {v owned : Json} (hv : v.WF) (h : capture pk v = .ok owned) : owned = v := by
  obtain ⟨raw, hbounded, hraw, hread⟩ := capture_ok h
  obtain ⟨s, hs, hloads, -⟩ := decodeJson_ok hread
  obtain ⟨t, ht, hback⟩ := hpk v raw hv (bounded_floatless v hbounded) (canonical_rfc8785 hraw)
  rw [hs] at ht
  cases ht
  rw [loads_narrower (controlHooks_narrower pk) hloads] at hback
  exact Except.ok.inj hback

theorem envelope_eq (hpk : ReadsBack pk) {v w : Json} {kind : String} (hv : v.WF) (h : envelope pk v kind = .ok w) :
    w = v := by
  unfold envelope at h
  obtain ⟨w', hw, h⟩ := bind_ok h
  obtain ⟨w'', hexact, h⟩ := bind_ok h
  iterate 4 obtain ⟨_, -, h⟩ := bind_ok h
  cases h
  obtain ⟨_, -, hexact⟩ := bind_ok hexact
  cases hexact
  exact capture_eq hpk hv hw

theorem envelope_plain {v w : Json} {kind : String} (h : envelope pk v kind = .ok w) : w.WF ∧ Floatless w := by
  unfold envelope at h
  obtain ⟨w', hw, h⟩ := bind_ok h
  obtain ⟨w'', hexact, h⟩ := bind_ok h
  iterate 4 obtain ⟨_, -, h⟩ := bind_ok h
  cases h
  obtain ⟨_, -, hexact⟩ := bind_ok hexact
  cases hexact
  exact capture_plain hw

theorem verifyControl_plain {value body : Json} {public_ keyId kind : String}
    (h : verifyControl pk value public_ keyId kind = .ok body) : body.WF ∧ Floatless body := by
  unfold verifyControl at h
  obtain ⟨e, he, h⟩ := bind_ok h
  iterate 4 obtain ⟨_, -, h⟩ := bind_ok h
  split at h
  · obtain ⟨_, -, h⟩ := bind_ok h
    cases h
    have hplain := envelope_plain he
    exact ⟨wf_item hplain.1 _, floatless_item hplain.2 _⟩
  · cases h

/-- What `sign_control` returns is an envelope of the captured body. -/
theorem signControl_ok {body signed : Json} {secret keyId : String} (h : signControl pk body secret keyId = .ok signed) :
    ∃ owned, capture pk body = .ok owned ∧ signed.item "body" = owned ∧ signed.WF := by
  unfold signControl at h
  obtain ⟨_, -, h⟩ := bind_ok h
  obtain ⟨_, -, h⟩ := bind_ok h
  obtain ⟨_, -, h⟩ := bind_ok h
  obtain ⟨owned, howned, h⟩ := bind_ok h
  obtain ⟨message, -, h⟩ := bind_ok h
  split at h
  · cases h
    exact ⟨owned, howned, envelope_body _ _ _ _, dict_wf (by simp [WF, (capture_plain howned).1])⟩
  · cases h

theorem binds_item {fields : List String} {body original : Json} (h : binds fields body original = true) {k : String}
    (hk : k ∈ fields) : body.item k = original.item k := of_decide_eq_true (List.all_eq_true.1 h k hk)

/-- A receipt binds the signed intent it acknowledges. -/
theorem verifyReceipt_binds (hpk : ReadsBack pk) {value intent at_ body : Json} {public_ keyId : String}
    (hintent : intent.WF) (h : verifyReceipt pk value intent public_ keyId at_ = .ok body) :
    ∃ d, digest pk intent = .ok d ∧ body.item "request_sha256" = .str d := by
  unfold verifyReceipt at h
  obtain ⟨intent', henvelope, h⟩ := bind_ok h
  rw [envelope_eq hpk hintent henvelope] at h
  iterate 7 obtain ⟨_, -, h⟩ := bind_ok h
  obtain ⟨d, hd, h⟩ := bind_ok h
  obtain ⟨_, hbinds, h⟩ := bind_ok h
  iterate 5 obtain ⟨_, -, h⟩ := bind_ok h
  cases h
  have hb := Incident.require_ok hbinds
  simp only [Bool.and_eq_true, decide_eq_true_eq] at hb
  exact ⟨d, hd, hb.2⟩

theorem validateIntent_wf {v w : Json} (h : validateIntent pk v = .ok w) : w.WF := by
  unfold validateIntent at h
  obtain ⟨w', hw, h⟩ := bind_ok h
  obtain ⟨w'', hexact, h⟩ := bind_ok h
  iterate 9 obtain ⟨_, -, h⟩ := bind_ok h
  cases h
  obtain ⟨_, -, hexact⟩ := bind_ok hexact
  cases hexact
  exact (capture_plain hw).1

theorem validateQuery_eq (hpk : ReadsBack pk) {v w : Json} (hv : v.WF) (h : validateQuery pk v = .ok w) : w = v := by
  unfold validateQuery at h
  obtain ⟨w', hw, h⟩ := bind_ok h
  obtain ⟨w'', hexact, h⟩ := bind_ok h
  iterate 5 obtain ⟨_, -, h⟩ := bind_ok h
  cases h
  obtain ⟨_, -, hexact⟩ := bind_ok hexact
  cases hexact
  exact capture_eq hpk hv hw

/-- A status answers the query it is verified against, and says whether there is a receipt. -/
theorem verifyStatus_binds (hpk : ReadsBack pk) {value query intent at_ body : Json} {public_ keyId : String}
    (hquery : query.WF) (h : verifyStatus pk value query intent public_ keyId at_ = .ok body) :
    (∃ d, digest pk query = .ok d ∧ body.item "query_sha256" = .str d) ∧
      body.item "nonce" = (query.item "body").item "nonce" ∧
      (body.item "status" = .str "FOUND" ∨ body.item "status" = .str "NOT_FOUND") ∧ body.WF ∧ Floatless body := by
  unfold verifyStatus at h
  obtain ⟨intent', -, h⟩ := bind_ok h
  obtain ⟨original, -, h⟩ := bind_ok h
  obtain ⟨query', henvelope, h⟩ := bind_ok h
  rw [envelope_eq hpk hquery henvelope] at h
  obtain ⟨requested, hrequested, h⟩ := bind_ok h
  rw [validateQuery_eq hpk (wf_item hquery _) hrequested] at h
  iterate 4 obtain ⟨_, -, h⟩ := bind_ok h
  obtain ⟨answered, hanswered, h⟩ := bind_ok h
  obtain ⟨answered', hexact, h⟩ := bind_ok h
  iterate 4 obtain ⟨_, -, h⟩ := bind_ok h
  obtain ⟨d, hd, h⟩ := bind_ok h
  obtain ⟨_, hbinds, h⟩ := bind_ok h
  have hplain : answered'.WF ∧ Floatless answered' := by
    obtain ⟨_, -, hexact⟩ := bind_ok hexact
    cases hexact
    exact verifyControl_plain hanswered
  iterate 5 obtain ⟨_, -, h⟩ := bind_ok h
  have hb := Incident.require_ok hbinds
  simp only [Bool.and_eq_true, decide_eq_true_eq] at hb
  have hnonce := binds_item hb.1 (k := "nonce") (by simp)
  split_ifs at h with hfound hmissing
  · obtain ⟨_, -, h⟩ := bind_ok h
    cases h
    exact ⟨⟨d, hd, hb.2⟩, hnonce, .inl hfound, hplain⟩
  · obtain ⟨_, -, h⟩ := bind_ok h
    cases h
    exact ⟨⟨d, hd, hb.2⟩, hnonce, .inr hmissing, hplain⟩
  · cases h

end Capture
end VapEvidence.Collector

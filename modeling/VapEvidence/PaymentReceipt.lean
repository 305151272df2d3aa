import VapEvidence.PaymentRequest

set_option autoImplicit false

/-!
# Provider receipts

The provider signs a receipt for each payment it commits; the adapter verifies
the exact receipt bytes against one immutable request. Two receipts that carry
one signed message and one signature are the same bytes.
-/
namespace VapEvidence.Payment
open Json

def receiptSchema : String := "synthetic-loopback-payment-receipt-v0"
def signingDomain : Bytes := encodeUtf8 "VSO local payment runtime receipt v0".toList ++ [0]
def failureReasons : List String := ["insufficient_funds", "unknown_account", "balance_limit"]
def payloadFields : List String :=
  ["schema", "provider_id", "request_digest", "request", "status", "failure_reason", "effect_id",
    "recorded_at_ms"]

inductive Status where
  | settled
  | failed
  deriving DecidableEq

def Status.text : Status → String
  | .settled => "settled"
  | .failed => "failed"

/-- `status.upper()` -/
def Status.upper : Status → String
  | .settled => "SETTLED"
  | .failed => "FAILED"

def statusOf (payload : Json) : Status :=
  if payload.item "status" = .str "settled" then .settled else .failed

/-- `[0-9a-f]{128}` -/
def signatureOk : Json → Bool
  | .str s => s.length = 128 && s.toList.all isLowerHex
  | _ => false

def envelope (payload : Json) (signature : Bytes) : Json :=
  dict [("payload", payload), ("signature", .str (hex signature))]

section Receipts
variable (py : Platform)

def receiptPayload (r : Request py) (providerId : String) (status : Status) (failure : Option String)
    (now : ℤ) : Json :=
  dict [("schema", .str receiptSchema), ("provider_id", .str providerId),
    ("request_digest", .str r.digest), ("request", r.json), ("status", .str status.text),
    ("failure_reason", (failure.map Json.str).getD .null),
    ("effect_id", if status = .settled then .str r.digest else .null),
    ("recorded_at_ms", .int now)]

/-- `_signed_receipt` -/
def signedReceipt (privateKey : Bytes) (providerId : String) (r : Request py) (status : Status)
    (failure : Option String) (now : ℤ) : Except String Bytes := do
  let payload := receiptPayload py r providerId status failure now
  let message ← canonical py payload
  canonical py (envelope payload (py.sign privateKey (signingDomain ++ message)))

def envelopeOk (receipt : Bytes) (body : Json) : Bool :=
  body.hasFields ["payload", "signature"] && canonical py body = .ok receipt &&
    signatureOk (body.item "signature")

def payloadOk (providerId : String) (payload : Json) : Bool :=
  payload.hasFields payloadFields && payload.item "schema" = .str receiptSchema &&
    payload.item "provider_id" = .str providerId && integerOk (payload.item "recorded_at_ms")

/-- The checks of a terminal status, each with the text of its error. -/
def checkStatus (payload : Json) : Except String Unit :=
  if payload.item "status" = .str "settled" then
    require (payload.item "effect_id" = payload.item "request_digest" &&
      payload.item "failure_reason" = .null) "native_receipt_settlement_shape"
  else if payload.item "status" = .str "failed" then
    require (payload.item "effect_id" = .null &&
      failureReasons.any fun reason => payload.item "failure_reason" = .str reason)
      "native_receipt_failure_shape"
  else .error "native_receipt_nonterminal_status"

/-- The bytes that a receipt's signature is over, and the signature. -/
def signedParts (domain : Bytes) (canonical : Json → Except String Bytes) (body : Json) :
    Except String (Bytes × Bytes) := do
  let message ← canonical (body.item "payload")
  match unhex (body.item "signature").text with
  | some signature => return (domain ++ message, signature)
  | none => .error "non-hexadecimal number found in fromhex() arg"

def verifyReceipt (receipt rawRequest key : Bytes) (providerId : String) : Except String Json := do
  require (key.length = 32) "provider_public_key_shape"
  let body ← load py receipt
  require (envelopeOk py receipt body) "native_receipt_envelope"
  let payload := body.item "payload"
  require (payloadOk providerId payload) "native_receipt_payload"
  require (py.publicKeyLoads key) "An Ed25519 public key is 32 bytes long"
  let (message, signature) ← signedParts signingDomain (canonical py) body
  require (py.verify key message signature) "native_receipt_signature"
  require (payload.item "request_digest" = .str (bytesDigest py rawRequest))
    "native_receipt_request_mismatch"
  let raw ← requestBytes py (payload.item "request")
  require (raw = rawRequest) "native_receipt_request_mismatch"
  checkStatus payload
  return payload

/-! ## What verification establishes -/

/-- A receipt whose signature verifies under `key`, as a client may see it on the wire. -/
def VerifiesUnder (key : Bytes) (domain : Bytes) (canonical : Json → Except String Bytes)
    (body : Json) : Prop :=
  ∃ message signature, signedParts domain canonical body = .ok (message, signature) ∧
    py.verify key message signature = true

variable {py}

theorem verifyReceipt_ok {receipt rawRequest key : Bytes} {providerId : String} {payload : Json}
    (h : verifyReceipt py receipt rawRequest key providerId = .ok payload) :
    ∃ body, load py receipt = .ok body ∧ envelopeOk py receipt body = true ∧
      payload = body.item "payload" ∧ payloadOk providerId payload = true ∧
      VerifiesUnder py key signingDomain (canonical py) body ∧
      payload.item "request_digest" = .str (bytesDigest py rawRequest) ∧
      requestBytes py (payload.item "request") = .ok rawRequest ∧ checkStatus payload = .ok () := by
  obtain ⟨_, -, h⟩ := bind_ok h
  obtain ⟨body, hbody, h⟩ := bind_ok h
  obtain ⟨_, henv, h⟩ := bind_ok h
  obtain ⟨_, hpay, h⟩ := bind_ok h
  obtain ⟨_, -, h⟩ := bind_ok h
  obtain ⟨⟨message, signature⟩, hparts, h⟩ := bind_ok h
  obtain ⟨_, hverify, h⟩ := bind_ok h
  obtain ⟨_, hdigest, h⟩ := bind_ok h
  obtain ⟨raw, hraw, h⟩ := bind_ok h
  obtain ⟨_, heq, h⟩ := bind_ok h
  obtain ⟨_, hstatus, h⟩ := bind_ok h
  cases h
  have hd := require_ok.1 hdigest
  have he := require_ok.1 heq
  simp only [decide_eq_true_eq] at hd he
  exact ⟨body, hbody, require_ok.1 henv, rfl, require_ok.1 hpay,
    ⟨message, signature, hparts, require_ok.1 hverify⟩, hd, he ▸ hraw, hstatus⟩

theorem envelope_wf {payload : Json} (h : payload.WF) (signature : Bytes) :
    (envelope payload signature).WF := by
  refine dict_wf fun p hp => ?_
  simp only [List.mem_cons, List.not_mem_nil, or_false] at hp
  rcases hp with rfl | rfl
  · exact h
  · trivial

theorem item_envelope (payload : Json) (signature : Bytes) :
    (envelope payload signature).item "payload" = payload ∧
      (envelope payload signature).item "signature" = .str (hex signature) := by
  constructor <;> exact item_of_get? (by simp [envelope, get?_dict, lookup_cons_ite])

theorem signedParts_ok {domain : Bytes} {encode : Json → Except String Bytes} {body : Json}
    {message signature : Bytes} (h : signedParts domain encode body = .ok (message, signature)) :
    ∃ m, encode (body.item "payload") = .ok m ∧ message = domain ++ m ∧
      unhex (body.item "signature").text = some signature := by
  obtain ⟨m, hm, h⟩ := bind_ok h
  split at h
  · next s hs =>
    cases h
    exact ⟨m, hm, rfl, hs⟩
  · cases h

/-- The envelope is rebuilt from the signed payload and the signature. -/
theorem eq_envelope {body : Json} {signature : Bytes} (hw : body.WF)
    (hf : body.hasFields ["payload", "signature"] = true) (hs : signatureOk (body.item "signature") = true)
    (hu : unhex (body.item "signature").text = some signature) :
    body = envelope (body.item "payload") signature := by
  have hsig : body.item "signature" = .str (hex signature) := by
    rw [hex_of_unhex hu]
    cases hb : body.item "signature" <;> rw [hb] at hs <;> first | rfl | cases hs
  refine (eq_pick hw hf).trans ?_
  rw [envelope, ← hsig]
  rfl

theorem envelopeOk_iff {receipt : Bytes} {body : Json} : envelopeOk py receipt body = true ↔
    body.hasFields ["payload", "signature"] = true ∧ canonical py body = .ok receipt ∧
      signatureOk (body.item "signature") = true := by
  simp [envelopeOk, and_assoc]

/-- A verified receipt is the canonical envelope of what was signed. -/
theorem receipt_eq {receipt : Bytes} {body : Json} {message signature : Bytes}
    (hb : load py receipt = .ok body) (he : envelopeOk py receipt body = true)
    (hp : signedParts signingDomain (canonical py) body = .ok (message, signature)) :
    ∃ payload m, payload = body.item "payload" ∧ payload.WF ∧ canonical py payload = .ok m ∧
      message = signingDomain ++ m ∧ canonical py (envelope payload signature) = .ok receipt := by
  obtain ⟨hf, hc, hs⟩ := envelopeOk_iff.1 he
  have hw : body.WF := loadJson_wf py _ hb
  obtain ⟨m, hm, rfl, hu⟩ := signedParts_ok hp
  refine ⟨_, m, rfl, wf_item hw _, hm, rfl, ?_⟩
  rw [← eq_envelope hw hf hs hu]
  exact hc

/-- A receipt for `r` in one of the two terminal states, as `_signed_receipt` builds it. -/
def IsReceipt (r : Request py) (status : Status) (receipt : Bytes) : Prop :=
  ∃ privateKey providerId failure now, signedReceipt py privateKey providerId r status failure now = .ok receipt

theorem receiptPayload_wf (r : Request py) (providerId : String) (status : Status)
    (failure : Option String) (now : ℤ) : (receiptPayload py r providerId status failure now).WF := by
  refine dict_wf fun p hp => ?_
  simp only [List.mem_cons, List.not_mem_nil, or_false] at hp
  rcases hp with rfl | rfl | rfl | rfl | rfl | rfl | rfl | rfl
  · trivial
  · trivial
  · trivial
  · exact r.wf
  · trivial
  · cases failure <;> trivial
  · dsimp only
    split_ifs <;> trivial
  · trivial

theorem signedReceipt_ok {privateKey : Bytes} {providerId : String} {r : Request py} {status : Status}
    {failure : Option String} {now : ℤ} {receipt : Bytes}
    (h : signedReceipt py privateKey providerId r status failure now = .ok receipt) :
    ∃ message, canonical py (receiptPayload py r providerId status failure now) = .ok message ∧
      canonical py (envelope (receiptPayload py r providerId status failure now)
        (py.sign privateKey (signingDomain ++ message))) = .ok receipt := by
  obtain ⟨message, hm, h⟩ := bind_ok h
  exact ⟨message, hm, h⟩

/-- Two receipts with one signed message and one signature are one receipt. -/
theorem receipt_unique {r : Request py} {status : Status} {issued receipt : Bytes} {body issuedBody : Json}
    {message signature : Bytes} (hi : IsReceipt r status issued) (hib : load py issued = .ok issuedBody)
    (hip : signedParts signingDomain (canonical py) issuedBody = .ok (message, signature))
    (hb : load py receipt = .ok body) (he : envelopeOk py receipt body = true)
    (hp : signedParts signingDomain (canonical py) body = .ok (message, signature)) :
    receipt = issued ∧ ∃ providerId failure now,
      body.item "payload" = receiptPayload py r providerId status failure now := by
  obtain ⟨privateKey, providerId, failure, now, hs⟩ := hi
  obtain ⟨m₀, hm₀, hc₀⟩ := signedReceipt_ok hs
  have hw₀ := receiptPayload_wf r providerId status failure now
  have hload := loadJson_canonicalJson py runtimeBounds (envelope_wf hw₀ _) hc₀
  obtain rfl := Except.ok.inj (hload.symm.trans hib)
  obtain ⟨m₁, hm₁, he₁, hu₁⟩ := signedParts_ok hip
  rw [(item_envelope _ _).1] at hm₁
  rw [(item_envelope _ _).2, Json.text, unhex_hex] at hu₁
  obtain ⟨payload, m, rfl, hw, hm, he₂, hc⟩ := receipt_eq hb he hp
  have hmm : m₁ = m := List.append_cancel_left (he₁.symm.trans he₂)
  have hpay : body.item "payload" = receiptPayload py r providerId status failure now :=
    canonicalJson_injective py runtimeBounds hw hw₀ (hmm ▸ hm) hm₁
  refine ⟨?_, providerId, failure, now, hpay⟩
  rw [hpay, ← Option.some.inj hu₁] at hc
  exact Except.ok.inj (hc.symm.trans hc₀)

end Receipts
end VapEvidence.Payment

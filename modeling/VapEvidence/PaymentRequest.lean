import VapEvidence.BoundedJson
import VapEvidence.JsonFields

set_option autoImplicit false

/-!
# Payment requests

The field checks of the payment runtime, its contexts and its requests. A
`Request` carries the canonical bytes that `request_bytes` accepted, so only a
validated request can be claimed, sent or applied.
-/
namespace VapEvidence
open Json

/-! ## Checks that raise -/

def require (c : Bool) (message : String) : Except String Unit :=
  if c then .ok () else .error message

theorem require_ok {c : Bool} {message : String} {u : Unit} :
    require c message = .ok u ↔ c = true := by
  cases c <;> simp [require]

namespace Json

/-- The characters of a value known to be a string. -/
protected def text : Json → String
  | .str s => s
  | _ => ""

/-- The number of a value known to be an integer. -/
def number : Json → ℤ
  | .int n => n
  | _ => 0

end Json

namespace Payment

def maxBody : ℕ := 65536

def runtimeBounds : JsonBounds where
  depth := 16
  string := maxBody
  list := 128
  dict := 128
  document := maxBody
  depthError := "json_nesting_limit"
  integerError := "json_integer_limit"
  stringError := "json_string_limit_or_normalization"
  typeError := "json_value_type_or_size"
  documentError := "json_document_limit"
  inputError := "json_input_size_or_type"

def requestSchema : String := "synthetic-loopback-payment-request-v0"
def scopeFields : List String := ["tenant", "environment", "api_audience", "idempotency_domain"]
def contextFields : List String := scopeFields ++ ["currency", "minor_unit_scale"]
def requestFields : List String :=
  ["schema"] ++ contextFields ++ ["operation_id", "idempotency_key", "configuration_digest",
    "recovery_epoch", "source_account", "beneficiary", "amount_minor"]

/-! ## Field checks -/

def textOk : Json → Bool
  | .str s => 0 < s.length && s.length ≤ 128 && s.toList.all fun c => 32 ≤ c.toNat
  | _ => false

/-- `0|[1-9][0-9]*` -/
def decimalDigits : List Char → Bool
  | ['0'] => true
  | d :: ds => d ≠ '0' && (d :: ds).all Char.isDigit
  | [] => false

def decimalOk : Json → Bool
  | .str s => s.length ≤ 78 && decimalDigits s.toList
  | _ => false

def integerOk : Json → Bool
  | .int n => 0 ≤ n && n ≤ maxInteger
  | _ => false

def isLowerHex (c : Char) : Bool := ('0' ≤ c ∧ c ≤ '9') ∨ ('a' ≤ c ∧ c ≤ 'f')

/-- `sha256:[0-9a-f]{64}` -/
def hashText (s : String) : Bool :=
  "sha256:".toList.isPrefixOf s.toList && s.length = 71 && (s.toList.drop 7).all isLowerHex

def hashOk : Json → Bool
  | .str s => hashText s
  | _ => false

def currencyOk : Json → Bool
  | .str s => s.length = 3 && s.toList.all fun c => 'A' ≤ c && c ≤ 'Z'
  | _ => false

def scaleOk : Json → Bool
  | .int n => 0 ≤ n && n ≤ 9
  | _ => false

/-- `int(value)` of a decimal text. -/
def amount (s : String) : ℕ := Nat.ofDigitChars 10 s.toList 0

def credentialOk (s : String) : Bool :=
  24 ≤ s.length && s.length ≤ 256 &&
    s.toList.all fun c => c.isAlphanum || c = '_' || c = '-'

section Requests
variable (py : Platform)

def canonical (v : Json) : Except String Bytes := canonicalJson py runtimeBounds v

def load (raw : Bytes) : Except String Json := loadJson py runtimeBounds raw

def bytesDigest (raw : Bytes) : String := "sha256:" ++ hex (py.sha256 raw)

def digest (v : Json) : Except String String := do
  return bytesDigest py (← canonical py v)

def contextOk (v : Json) : Bool :=
  v.hasFields contextFields && scopeFields.all (fun f => textOk (v.item f)) &&
    currencyOk (v.item "currency") && scaleOk (v.item "minor_unit_scale")

def validateContext (context : Json) : Except String Json := do
  let snapshot ← load py (← canonical py context)
  require (contextOk snapshot) "context_shape"
  return snapshot

def requestFieldsOk (item : Json) : Bool :=
  ["operation_id", "idempotency_key", "source_account", "beneficiary"].all
      (fun f => textOk (item.item f)) &&
    item.item "source_account" ≠ item.item "beneficiary" &&
    hashOk (item.item "configuration_digest") && integerOk (item.item "recovery_epoch") &&
    decimalOk (item.item "amount_minor") && amount (item.item "amount_minor").text ≠ 0

def requestBytes (request : Json) : Except String Bytes := do
  let raw ← canonical py request
  let item ← load py raw
  require (item.hasFields requestFields && item.item "schema" = .str requestSchema) "request_schema"
  let _ ← validateContext py (pick contextFields item)
  require (requestFieldsOk item) "request_fields"
  return raw

/-- `_scope` -/
def scopeOf (context : Json) : Except String String := digest py (pick scopeFields context)

/-- `_check_scope` -/
def checkScope (request context : Json) : Except String Unit :=
  require (scopeFields.all fun f => request.item f = context.item f) "request_scope_mismatch"

/-- `_check_generation` -/
def checkGeneration (request context : Json) (epoch : ℤ) (configuration : String) :
    Except String Unit :=
  require (request.item "currency" = context.item "currency" &&
      request.item "minor_unit_scale" = context.item "minor_unit_scale" &&
      request.item "recovery_epoch" = .int epoch &&
      request.item "configuration_digest" = .str configuration)
    "request_currency_unit_or_generation_mismatch"

/-! ## Validated requests -/

structure Request where
  json : Json
  raw : Bytes
  wf : json.WF
  ok : requestBytes py json = .ok raw

namespace Request
variable {py} (r : Request py)

def field (name : String) : String := (r.json.item name).text
def operationId : String := r.field "operation_id"
def idempotencyKey : String := r.field "idempotency_key"
def digest : String := bytesDigest py r.raw
def scope : Except String String := scopeOf py r.json

end Request

/-- A request read from bytes that are its own canonical bytes. -/
def readRequest (mismatch : String) (raw : Bytes) : Except String (Request py) :=
  match hl : load py raw with
  | .error e => .error e
  | .ok v =>
    match hr : requestBytes py v with
    | .error e => .error e
    | .ok raw' =>
      if he : raw' = raw then .ok ⟨v, raw, loadJson_wf py _ hl, he ▸ hr⟩ else .error mismatch

variable {py}

theorem requestBytes_ok {v : Json} {raw : Bytes} (h : requestBytes py v = .ok raw) :
    canonical py v = .ok raw ∧ ∃ item, load py raw = .ok item ∧
      item.hasFields requestFields = true ∧ item.item "schema" = .str requestSchema ∧
      (∃ c, validateContext py (pick contextFields item) = .ok c) ∧ requestFieldsOk item = true := by
  obtain ⟨raw', hraw, h⟩ := bind_ok h
  obtain ⟨item, hitem, h⟩ := bind_ok h
  obtain ⟨u, hs, h⟩ := bind_ok h
  obtain ⟨c, hc, h⟩ := bind_ok h
  obtain ⟨u', hf, h⟩ := bind_ok h
  cases h
  have hs' := require_ok.1 hs
  simp only [Bool.and_eq_true, decide_eq_true_eq] at hs'
  exact ⟨hraw, item, hitem, hs'.1, hs'.2, ⟨c, hc⟩, require_ok.1 hf⟩

namespace Request
variable (r : Request py)

theorem canonical_json : canonical py r.json = .ok r.raw := (requestBytes_ok r.ok).1

theorem load_raw : load py r.raw = .ok r.json :=
  loadJson_canonicalJson py runtimeBounds r.wf r.canonical_json

theorem fields_ok : r.json.hasFields requestFields = true ∧
    r.json.item "schema" = .str requestSchema ∧ requestFieldsOk r.json = true := by
  obtain ⟨-, item, hl, hf, hs, -, ho⟩ := requestBytes_ok r.ok
  obtain rfl : r.json = item := Except.ok.inj (r.load_raw.symm.trans hl)
  exact ⟨hf, hs, ho⟩

/-- The bytes determine the request. -/
theorem ext_raw {r r' : Request py} (h : r.raw = r'.raw) : r = r' := by
  have hj : r.json = r'.json :=
    Except.ok.inj (r.load_raw.symm.trans ((congrArg (load py) h).trans r'.load_raw))
  cases r
  cases r'
  simp_all

theorem readRequest_raw (mismatch : String) : readRequest py mismatch r.raw = .ok r := by
  unfold readRequest
  split
  · next h => exact absurd (r.load_raw.symm.trans h) (by simp)
  · next v h =>
    obtain rfl : r.json = v := Except.ok.inj (r.load_raw.symm.trans h)
    split
    · next h => exact absurd (r.ok.symm.trans h) (by simp)
    · next raw' h =>
      obtain rfl : r.raw = raw' := Except.ok.inj (r.ok.symm.trans h)
      simp

end Request

theorem readRequest_ok {mismatch : String} {raw : Bytes} {r : Request py}
    (h : readRequest py mismatch raw = .ok r) : r.raw = raw := by
  unfold readRequest at h
  split at h
  · cases h
  · split at h
    · cases h
    · split_ifs at h
      cases h
      rfl

theorem text_of_textOk {v : Json} (h : textOk v = true) : v = .str v.text := by
  cases v <;> first | rfl | cases h

theorem text_of_decimalOk {v : Json} (h : decimalOk v = true) : v = .str v.text := by
  cases v <;> first | rfl | cases h

theorem canonical_eq {v : Json} (h : checkValue py runtimeBounds 0 v = .ok ())
    (hl : (encodeUtf8 (dumps py.floatRepr false v)).length ≤ maxBody) :
    canonical py v = .ok (encodeUtf8 (dumps py.floatRepr false v)) := by
  rw [canonical, canonicalJson, h]
  exact if_neg (not_lt.2 hl)

theorem load_canonical {v : Json} {raw : Bytes} (hw : v.WF) (h : canonical py v = .ok raw) :
    load py raw = .ok v := loadJson_canonicalJson py runtimeBounds hw h

theorem validateContext_self {v : Json} {raw : Bytes} (hw : v.WF) (h : canonical py v = .ok raw)
    (ho : contextOk v = true) : validateContext py v = .ok v := by
  simp only [validateContext, h, load_canonical hw h, ho, bind, Except.bind, require]
  rfl

end Requests

/-! ## A small instance -/

def samplePlatform : Platform where
  sha256 _ := List.replicate 32 0
  normalizeNFC s := s
  floatRepr _ := []
  publicKey k := k
  publicKeyLoads _ := true
  sign _ _ := List.replicate 64 0
  verify _ _ _ := true

def sampleContext : Json :=
  dict [("tenant", .str "t"), ("environment", .str "e"), ("api_audience", .str "a"),
    ("idempotency_domain", .str "i"), ("currency", .str "JPY"), ("minor_unit_scale", .int 0)]

theorem sampleContext_valid : validateContext samplePlatform sampleContext = .ok sampleContext :=
  validateContext_self (dict_wf (by simp [Json.WF]))
    (canonical_eq (by decide +kernel) (by decide +kernel)) (by decide +kernel)

end Payment
end VapEvidence

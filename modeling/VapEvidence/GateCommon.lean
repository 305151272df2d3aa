import VapEvidence.ScopeCrypto
import VapEvidence.Transaction

set_option autoImplicit false

/-!
# Messages of the pre-record gate

`record_gate/common.py`: strict JSON, domain-separated signatures and the checks of envelopes and
intents that the gate and its two services share.
-/
namespace VapEvidence.RecordGate
open Json
open Incident (Packages Run sub textOf)
open Scope (hexBytes signingBytes falsy)

/-- What a service raises: `Rejected` with its reason, a broken constraint of a table, or anything
    that the scope verifier and Python raise. -/
inductive Refusal where
  | rejected (reason : String)
  | integrity
  | raised (e : Incident.Raised)
  deriving DecidableEq

abbrev Answer (α : Type) : Type := Except Refusal α

def lift {α : Type} : Run α → Answer α
  | .ok a => .ok a
  | .error e => .error (.raised e)

theorem lift_ok {α : Type} {r : Run α} {a : α} (h : lift r = .ok a) : r = .ok a := by
  cases r with
  | ok b =>
    cases h
    rfl
  | error e => cases h

/-- `require` -/
def require (condition : Bool) (reason : String) : Answer Unit :=
  if condition then .ok () else .error (.rejected reason)

theorem require_ok {condition : Bool} {reason : String} {u : Unit} (h : require condition reason = .ok u) :
    condition = true := by
  unfold require at h
  split_ifs at h with hc
  exact hc

/-- `DOMAIN` -/
def domain : Bytes := encodeUtf8 "pre-record-gate-experiment/1".toList ++ [0]

section Messages
variable (pk : Packages)

/-- `canonical` of `scope_verifier.crypto`. -/
def canonical (value : Json) : Answer Bytes := lift (Scope.canonical pk value)

/-- `digest` of `scope_verifier.crypto`. -/
def digest (value : Json) : Answer String := lift (Scope.digest pk value)

/-- `canonical(value).decode()` -/
def canonicalText (value : Json) : Answer String := do
  match decodeUtf8 (← canonical pk value) with
  | some s => .ok (String.ofList s)
  | none => .error (.raised .other)

/-- The floats that `json.loads` reads the constants as. -/
def constantBits (t : List Char) : UInt64 :=
  if t = "NaN".toList then 0x7ff8000000000000
  else if t = "Infinity".toList then 0x7ff0000000000000
  else 0xfff0000000000000

/-- `json.loads` without hooks. -/
def plainHooks : Hooks where
  parseInt t := .ok (.int (intToken t))
  parseFloat t := .ok (.float (pk.floatOf t))
  parseConstant t := .ok (.float (constantBits t))
  objectPairs ps := .ok (dict ps)

/-- `json.loads` with the pairs hook of `decode`. -/
def gateHooks : Hooks := { plainHooks pk with objectPairs := uniquePairs "duplicate_json_key" }

/-- `json.loads` of a text that a table keeps. -/
def loadsText (s : String) : Answer Json :=
  match loads (plainHooks pk) s.toList with
  | .ok value => .ok value
  | .error _ => .error (.raised .other)

/-- `decode` of UTF-8 bytes. -/
def decode (raw : Bytes) : Answer Json := do
  require (raw.length ≤ 1024 * 1024) "input_too_large"
  match decodeUtf8 raw with
  | none => .error (.raised .other)
  | some s =>
    match loads (gateHooks pk) s with
    | .error _ => .error (.raised .other)
    | .ok value => do
      let _ ← canonical pk value
      return value

/-- The bytes that a signature covers: of the gate's own domain, or of the scope verifier's. -/
def signedData (unsigned : Json) (research : Bool) : Answer Bytes :=
  if research then lift (signingBytes pk unsigned) else do return domain ++ (← canonical pk unsigned)

/-- `sign` -/
def sign (body : Json) (secret keyId : String) (research : Bool) : Answer Json := do
  let unsigned := dict [("algorithm", .str "Ed25519"), ("key_id", .str keyId), ("body", body)]
  let data ← signedData pk unsigned research
  let raw ← lift (hexBytes (.str secret) 32)
  return dict [("algorithm", .str "Ed25519"), ("key_id", .str keyId), ("body", body),
    ("signature", .str (hex (pk.sign raw data)))]

/-- The body of `check`. -/
def verified (env : Json) (publicKey kind keyId : String) (research : Bool) : Answer Json := do
  require (env.hasFields ["algorithm", "key_id", "body", "signature"]) "envelope_fields"
  require (env.item "algorithm" = .str "Ed25519" && env.item "key_id" = .str keyId) "key_or_algorithm"
  require ((← lift (sub (env.item "body") "kind")) = .str kind) "object_kind"
  let data ← signedData pk (pick ["algorithm", "key_id", "body"] env) research
  let key ← lift (hexBytes (.str publicKey) 32)
  let signature ← lift (hexBytes (env.item "signature") 64)
  if pk.verify key data signature then return env.item "body" else .error (.raised .other)

/-- `check` -/
def check (env : Json) (publicKey kind keyId : String) (research : Bool) : Answer Json :=
  match verified pk env publicKey kind keyId research with
  | .ok body => .ok body
  | .error _ => .error (.rejected ("invalid_" ++ kind ++ "_signature_or_shape"))

def isIdChar (c : Char) : Bool := ('a' ≤ c && c ≤ 'z') || ('0' ≤ c && c ≤ '9') || c = '-'

/-- `intent` -/
def intent (value : Json) : Answer Json := do
  require (value.hasFields ["operation_id", "action", "target", "args"]) "intent_fields"
  let id := textOf (value.item "operation_id")
  require (value.item "operation_id" = .str id && 1 ≤ id.length && id.length ≤ 80 && id.toList.all isIdChar) "operation_id"
  require (value.item "action" = .str "create_record" && value.item "target" = .str "sandbox/records")
    "unsupported_operation"
  require ((value.item "args").hasFields ["text"]) "argument_fields"
  let text := (value.item "args").item "text"
  require (text = .str (textOf text) && 0 < (textOf text).length && (textOf text).length ≤ 256) "argument_text"
  decode pk (← canonical pk value)

end Messages
end VapEvidence.RecordGate

import VapEvidence.BoundedJson
import VapEvidence.DateTime
import VapEvidence.JsonFields

set_option autoImplicit false

/-!
# Values of the incident experiments

`incident_assessor/model.py`: the checks on single values that the incident
experiments share, and the canonical bytes and digests of values.
-/
namespace VapEvidence.Incident
open Json

/-- The packages the experiments rest on: SHA-256, Ed25519, `float` of a JSON number and
    `rfc8785.dumps`, which raises on a value outside its domain. -/
structure Packages extends Platform where
  floatOf : List Char → UInt64
  rfc8785 : Json → Option Bytes

/-- What the experiments raise: an `InputError` with its text, a `KeyError`, a `TypeError`, or
    anything else. -/
inductive Raised where
  | input (message : String)
  | key
  | type
  | other
  deriving DecidableEq

abbrev Run (α : Type) : Type := Except Raised α

def inputError {α : Type} (message : String) : Run α := .error (.input message)

def require (c : Bool) (message : String) : Run Unit := if c then .ok () else inputError message

/-- `value[k]` with a text for `k`. -/
def sub (v : Json) (k : String) : Run Json :=
  match v with
  | .obj ms =>
    match ms.lookup k with
    | some x => .ok x
    | none => .error .key
  | _ => .error .type

/-- The characters of a value that is a text. -/
def textOf : Json → String
  | .str s => s
  | _ => ""

/-! ## Single values -/

def maxItems : ℕ := 10000
def maxDepth : ℕ := 64
def maxText : ℕ := 16384

/-- `str.isspace` of a character. -/
def isBlank (c : Char) : Bool :=
  (9 ≤ c.toNat && c.toNat ≤ 13) || (28 ≤ c.toNat && c.toNat ≤ 32) || c.toNat = 0x85 || c.toNat = 0xa0 ||
    c.toNat = 0x1680 || (0x2000 ≤ c.toNat && c.toNat ≤ 0x200a) || c.toNat = 0x2028 || c.toNat = 0x2029 ||
    c.toNat = 0x202f || c.toNat = 0x205f || c.toNat = 0x3000

/-- `exact_keys` -/
def exactKeys (value : Json) (required : List String) (optional : List String) : Run Unit :=
  match value with
  | .obj ms =>
    require (required.all (fun k => (ms.map Prod.fst).contains k) &&
      ms.all fun m => required.contains m.1 || optional.contains m.1) "Object fields differ"
  | _ => inputError "Expected an object"

/-- `text` -/
def text (value : Json) : Run String :=
  match value with
  | .str s =>
    if !s.toList.all isBlank && s.length ≤ maxText then .ok s
    else inputError "Expected a nonempty string of at most 16384 characters"
  | _ => inputError "Expected a nonempty string of at most 16384 characters"

/-- `strings` -/
def strings (value : Json) : Run (List String) :=
  match value with
  | .arr xs => do
    require (xs.length ≤ maxItems) "Expected a bounded string array"
    let items ← xs.mapM text
    require items.Nodup "Duplicate string array item"
    return items
  | _ => inputError "Expected a bounded string array"

/-- `enum` -/
def enum (value : Json) (choices : List String) : Run String := do
  let s ← text value
  require (choices.contains s) ("Unsupported enum value: " ++ s)
  return s

def isLowerHex (c : Char) : Bool := ('0' ≤ c && c ≤ '9') || ('a' ≤ c && c ≤ 'f')

/-- `digest_hex` -/
def digestHex (value : Json) (length : ℕ) : Run String :=
  match value with
  | .str s =>
    if s.length = 2 * length && s.toList.all isLowerHex then .ok s
    else inputError ("Expected lowercase hexadecimal of length " ++ toString (2 * length))
  | _ => inputError ("Expected lowercase hexadecimal of length " ++ toString (2 * length))

/-! ## Times -/

def daysBeforeYear (year : ℕ) : ℕ := (year - 1) * 365 + (year - 1) / 4 - (year - 1) / 100 + (year - 1) / 400

def daysBeforeMonth (year month : ℕ) : ℕ := ((List.range (month - 1)).map fun m => daysInMonth year (m + 1)).sum

/-- A fraction of a second in microseconds; one to six digits after a point, or nothing. -/
def fraction (s : List Char) : Option (ℕ × List Char) :=
  match s with
  | '.' :: t =>
    let digits := t.takeWhile Char.isDigit
    if digits ≠ [] ∧ digits.length ≤ 6 then some (number (digits ++ List.replicate (6 - digits.length) '0'), t.dropWhile Char.isDigit)
    else none
  | _ => some (0, s)

/-- The offset from UTC in minutes: `Z`, or a sign with hours and minutes below a day. -/
def offset (s : List Char) : Option ℤ :=
  match s with
  | ['Z'] => some 0
  | sign :: a :: b :: ':' :: c :: d :: [] =>
    let minutes := number [a, b] * 60 + number [c, d]
    if (sign = '+' ∨ sign = '-') ∧ [a, b, c, d].all Char.isDigit ∧ minutes < 1440 then
      some (if sign = '-' then -(minutes : ℤ) else minutes)
    else none
  | _ => none

/-- `datetime.fromisoformat` behind the pattern of the source: an instant in microseconds, from the
    start of the calendar in UTC. -/
def instantOf (s : List Char) : Option ℤ :=
  if fits (template.dropLast) (s.take 19) then
    match timeFields (s.take 19), fraction (s.drop 19) with
    | [year, month, day, hour, minute, second], some (micro, rest) =>
      match offset rest with
      | some off =>
        if RealTime year month day hour minute second then
          let days := daysBeforeYear year + daysBeforeMonth year month + day
          some (((((days * 24 + hour) * 60 + minute : ℕ) : ℤ) - off) * 60000000 + (second * 1000000 + micro : ℕ))
        else none
      | none => none
    | _, _ => none
  else none

/-- `timestamp` -/
def timestamp (value : Json) : Run ℤ := do
  let s ← text value
  match instantOf s.toList with
  | some at_ => .ok at_
  | none => inputError "Expected ISO 8601 seconds with a timezone; precision at most microseconds"

/-- `interval` -/
def interval (start stop : Json) : Run (ℤ × ℤ) := do
  let left ← timestamp start
  let right ← timestamp stop
  require (left < right) "Time interval must be nonempty and increasing"
  return (left, right)

/-! ## Canonical values -/

mutual
/-- `bounded_json` -/
def boundedJson (depth : ℕ) : Json → Run Unit
  | .arr xs => do
    require (depth ≤ maxDepth) "JSON nesting exceeds 64 levels"
    require (xs.length ≤ maxItems) "Array exceeds 10000 items"
    boundedElems (depth + 1) xs
  | .obj ms => do
    require (depth ≤ maxDepth) "JSON nesting exceeds 64 levels"
    require (ms.length ≤ maxItems) "Object is too large or has a non-string key"
    boundedMembers (depth + 1) ms
  | _ => require (depth ≤ maxDepth) "JSON nesting exceeds 64 levels"
def boundedElems (depth : ℕ) : List Json → Run Unit
  | [] => .ok ()
  | x :: xs => do boundedJson depth x; boundedElems depth xs
def boundedMembers (depth : ℕ) : List (String × Json) → Run Unit
  | [] => .ok ()
  | (_, x) :: ms => do boundedJson depth x; boundedMembers depth ms
end

section Canonical
variable (pk : Packages)

/-- `canonical` -/
def canonical (value : Json) : Run Bytes := do
  boundedJson 0 value
  match pk.rfc8785 value with
  | some raw => .ok raw
  | none => inputError "Value is outside the supported JCS data model"

/-- `hashlib.sha256(raw).hexdigest()` -/
def sha256Hex (raw : Bytes) : String := hex (pk.sha256 raw)

/-- `digest` -/
def digest (value : Json) : Run String := do return sha256Hex pk (← canonical pk value)

/-- `json.loads` with the hooks of the experiments on UTF-8 bytes of at most `maxBytes`; every
    exception on the way is an `InputError`. -/
def decodeJson (hooks : Hooks) (maxBytes : ℕ) (raw : Bytes) : Run Json := do
  require (raw.length ≤ maxBytes) "Invalid or oversized JSON message"
  match decodeUtf8 raw with
  | none => inputError "Invalid JSON message"
  | some s =>
    match loads hooks s with
    | .error _ => inputError "Invalid JSON message"
    | .ok value =>
      match canonical pk value with
      | .error _ => inputError "Invalid JSON message"
      | .ok _ => .ok value

/-- The hooks of the experiments that read floats. -/
def floatHooks : Hooks where
  parseInt t := .ok (.int (intToken t))
  parseFloat t := .ok (.float (pk.floatOf t))
  parseConstant _ := .error "Non-finite JSON constant"
  objectPairs := uniquePairs "Duplicate JSON key"

/-! ## Signed envelopes -/

/-- `ADAPTER` with its terminator, the domain of assessor records. -/
def recordDomain : Bytes := encodeUtf8 "incident-evidence-adapter/0.1".toList ++ [0]

def unsignedOf (envelope : Json) : Json := pick ["algorithm", "key_id", "body"] envelope

/-- The bytes that a signature covers. -/
def signingBytes (domain : Bytes) (unsigned : Json) : Run Bytes := do return domain ++ (← canonical pk unsigned)

/-- `public_key` -/
def publicKey (secret : String) : Run String := do
  let _ ← digestHex (.str secret) 32
  match unhex secret with
  | some raw => .ok (hex (pk.publicKey raw))
  | none => .error .other

/-- `_sign`, in the domain of a protocol or of assessor records. -/
def signEnvelope (domain : Bytes) (body : Json) (secret keyId : String) : Run Json := do
  let _ ← digestHex (.str secret) 32
  let _ ← text (.str keyId)
  let message ← signingBytes pk domain (dict [("algorithm", .str "Ed25519"), ("key_id", .str keyId), ("body", body)])
  match unhex secret with
  | some raw =>
    return dict [("algorithm", .str "Ed25519"), ("key_id", .str keyId), ("body", body),
      ("signature", .str (hex (pk.sign raw message)))]
  | none => .error .other

/-- The texts with which a protocol refuses an envelope. -/
structure EnvelopeTexts where
  key : String
  kind : String
  signature : String

/-- The verification of an envelope of one kind. -/
def verifyEnvelope (domain : Bytes) (texts : EnvelopeTexts) (envelope : Json) (public_ : String) (keyId : Json)
    (kind : String) : Run Json := do
  exactKeys envelope ["algorithm", "key_id", "body", "signature"] []
  require (envelope.item "algorithm" = .str "Ed25519" && envelope.item "key_id" = keyId) texts.key
  let body := envelope.item "body"
  require (body.isDict && body.item "kind" = .str kind) texts.kind
  let _ ← digestHex (.str public_) 32
  let signature ← digestHex (envelope.item "signature") 64
  let message ← signingBytes pk domain (unsignedOf envelope)
  match unhex public_, unhex signature with
  | some key, some raw => do
    require (pk.verify key message raw) texts.signature
    return body
  | _, _ => .error .other

end Canonical
end VapEvidence.Incident

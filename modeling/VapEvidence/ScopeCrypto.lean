import Mathlib.Data.Nat.Size
import VapEvidence.IncidentValues
import VapEvidence.Recording

set_option autoImplicit false

/-!
# Values, signatures and hash trees of the declared-scope verifier

`scope_verifier/crypto.py`, and Python's equality and truth of the values that the
verifier compares.
-/
namespace VapEvidence.Scope
open Json
open Incident (Packages Raised Run inputError sub isLowerHex sha256Hex)

def adapter : String := "vap-evidence-research-adapter/1"
def version : String := "0.1.1"
def baseline : String := "9465c722be9efae18622ac4f04896bb0e1ea53d7"
def maxItems : ℕ := 10000

/-- `2**53 - 1` -/
def maxTime : ℕ := 9007199254740991

/-! ## Python values -/

/-- A finite number as a mantissa and an exponent of two. -/
def numberParts : Json → Option (ℤ × ℤ)
  | .bool b => some (cond b 1 0, 0)
  | .int n => some (n, 0)
  | .float bits =>
    let exponent : ℕ := (bits.toNat / 2 ^ 52) % 2 ^ 11
    let fraction : ℕ := bits.toNat % 2 ^ 52
    let sign : ℤ := if bits.toNat / 2 ^ 63 = 0 then 1 else -1
    if exponent = 2047 then none
    else if exponent = 0 then some (sign * fraction, -1074)
    else some (sign * (2 ^ 52 + fraction : ℕ), exponent - 1075)
  | _ => none

def sameNumber (a b : ℤ × ℤ) : Bool :=
  a.1 * 2 ^ (a.2 - min a.2 b.2).toNat = b.1 * 2 ^ (b.2 - min a.2 b.2).toNat

mutual
/-- `==` between two values that JSON can hold. -/
def equal : Json → Json → Bool
  | .null, .null => true
  | .str a, .str b => a == b
  | .arr a, .arr b => equalList a b
  | .obj a, .obj b => equalMembers a b
  | a, b =>
    match numberParts a, numberParts b with
    | some x, some y => sameNumber x y
    | _, _ => false
def equalList : List Json → List Json → Bool
  | [], [] => true
  | a :: as, b :: bs => equal a b && equalList as bs
  | _, _ => false
def equalMembers : List (String × Json) → List (String × Json) → Bool
  | [], [] => true
  | (k, a) :: as, (l, b) :: bs => k == l && equal a b && equalMembers as bs
  | _, _ => false
end

/-- `not value` -/
def falsy : Json → Bool
  | .null => true
  | .bool b => !b
  | .int n => n = 0
  | .float bits => bits.toNat % 2 ^ 63 = 0
  | .str s => s = ""
  | .arr xs => xs.isEmpty
  | .obj ms => ms.isEmpty

def hashable : Json → Bool
  | .arr _ => false
  | .obj _ => false
  | _ => true

/-- `table.get(key)`, or `default` where the key is missing. -/
def dictGet (table key default : Json) : Run Json :=
  match key with
  | .str k => .ok ((table.get? k).getD default)
  | .arr _ => .error .type
  | .obj _ => .error .type
  | _ => .ok default

/-- How many values differ: `len(set(values))`. -/
def distinct : List Json → ℕ
  | [] => 0
  | x :: xs => if xs.any fun y => equal x y then distinct xs else distinct xs + 1

/-- `a and b and …`, where what comes after a false part is not evaluated. -/
def allOf : List (Run Bool) → Run Bool
  | [] => .ok true
  | part :: parts => do if ← part then allOf parts else return false

/-- The text under a key that an earlier check read. -/
def textAt (v : Json) (k : String) : String := Incident.textOf (v.item k)

/-- The integer under a key that an earlier check read. -/
def intAt (v : Json) (k : String) : ℤ :=
  match v.item k with
  | .int n => n
  | _ => 0

def elems : Json → List Json
  | .arr xs => xs
  | _ => []

/-! ## Checked values -/

/-- `object_value` -/
def objectValue (value : Json) (name : String) : Run Unit := Incident.require value.isDict (name ++ " must be an object")

/-- `array_value` -/
def arrayValue (value : Json) (name : String) : Run (List Json) :=
  match value with
  | .arr xs =>
    if xs.length ≤ maxItems then .ok xs else inputError (name ++ " must be an array of at most 10000 items")
  | _ => inputError (name ++ " must be an array of at most 10000 items")

/-- `string_value` -/
def stringValue (value : Json) (name : String) : Run String :=
  match value with
  | .str s => if s ≠ "" then .ok s else inputError (name ++ " must be a nonempty string")
  | _ => inputError (name ++ " must be a nonempty string")

/-- `string_array` -/
def stringArray (value : Json) (name : String) : Run (List String) := do
  (← arrayValue value name).mapM fun item => stringValue item (name ++ " item")

/-- `natural` -/
def natural (value : Json) (maximum : ℕ) : Run ℕ :=
  match value with
  | .int n =>
    if 0 ≤ n ∧ n ≤ maximum then .ok n.toNat else inputError "Expected a bounded nonnegative integer"
  | _ => inputError "Expected a bounded nonnegative integer"

/-- `hex_bytes` -/
def hexBytes (value : Json) (length : ℕ) : Run Bytes :=
  match value with
  | .str s =>
    if s.length = 2 * length && s.toList.all isLowerHex then .ok ((unhex s).getD [])
    else inputError "Invalid lowercase hexadecimal value"
  | _ => inputError "Invalid lowercase hexadecimal value"

section Crypto
variable (pk : Packages)

/-- `canonical` -/
def canonical (value : Json) : Run Bytes :=
  match pk.rfc8785 value with
  | some raw => .ok raw
  | none => inputError "Value is outside the supported JCS data model"

/-- `digest` -/
def digest (value : Json) : Run String := do return sha256Hex pk (← canonical pk value)

/-! ## Signatures -/

inductive State where
  | verified
  | failed
  | indeterminate
  deriving DecidableEq

/-- `signing_bytes` -/
def signingBytes (envelope : Json) : Run Bytes := do
  let algorithm ← sub envelope "algorithm"
  let keyId ← sub envelope "key_id"
  let body ← sub envelope "body"
  return encodeUtf8 adapter.toList ++ [0] ++
    (← canonical pk (dict [("algorithm", algorithm), ("key_id", keyId), ("body", body)]))

/-- `authenticate` -/
def authenticate (envelope trust : Json) (role : String) : Run (State × String) :=
  if !envelope.isDict then .ok (.indeterminate, "missing signed object")
  else if envelope.item "algorithm" ≠ .str "Ed25519" then .ok (.indeterminate, "unsupported signature algorithm")
  else if (envelope.get? "signature").isNone || (envelope.get? "body").isNone then
    .ok (.indeterminate, "signature or signed body unavailable")
  else do
    let keys ← sub trust "keys"
    objectValue keys "trust.keys"
    let key ← dictGet keys (envelope.item "key_id") .null
    if key = .null then return (.indeterminate, "no evaluator-authorized key for this role")
    else
      objectValue key "trust key"
      let roles ← stringArray (← sub key "roles") "trust key roles"
      if !roles.contains role then return (.indeterminate, "no evaluator-authorized key for this role")
      else
        let publicKey ← hexBytes (← sub key "public_key") 32
        let signature ← hexBytes (envelope.item "signature") 64
        if pk.verify publicKey (← signingBytes pk envelope) signature then
          return (.verified, "Ed25519 signature verified under evaluator trust configuration")
        else return (.failed, "Ed25519 signature mismatch")

/-! ## Hash trees -/

/-- `leaf_hash` -/
def leafHash (body : Json) : Run Bytes := do return pk.sha256 (0 :: (← canonical pk body))

/-- `node_hash` -/
def nodeHash (left right : Bytes) : Bytes := pk.sha256 (1 :: (left ++ right))

/-- `split` -/
def split (size : ℕ) : ℕ := 1 <<< (Nat.size (size - 1) - 1)

theorem split_pos (size : ℕ) : 0 < split size := by
  rw [split, Nat.shiftLeft_eq, one_mul]
  exact Nat.two_pow_pos _

theorem split_lt {size : ℕ} (h : 2 ≤ size) : split size < size := by
  have hpos : 0 < Nat.size (size - 1) := Nat.size_pos.2 (by omega)
  have hle : 2 ^ (Nat.size (size - 1) - 1) ≤ size - 1 := Nat.lt_size.1 (by omega)
  rw [split, Nat.shiftLeft_eq, one_mul]
  omega

/-- `merkle_root` -/
def merkleRoot (leaves : List Bytes) : Bytes :=
  match leaves with
  | [] => pk.sha256 []
  | [leaf] => leaf
  | a :: b :: rest =>
    let k := split (rest.length + 2)
    nodeHash pk (merkleRoot ((a :: b :: rest).take k)) (merkleRoot ((a :: b :: rest).drop k))
termination_by leaves.length
decreasing_by
  · have := split_lt (show 2 ≤ rest.length + 2 by omega)
    rw [List.length_take, List.length_cons, List.length_cons]
    omega
  · have := split_pos (rest.length + 2)
    rw [List.length_drop, List.length_cons, List.length_cons]
    omega

/-- `audit_path` -/
def auditPath (leaves : List Bytes) (index : ℕ) : Run (List String) :=
  if index < leaves.length then .ok (siblings leaves index) else inputError "Merkle index out of range"
where
  siblings (leaves : List Bytes) (index : ℕ) : List String :=
    match leaves with
    | [] => []
    | [_] => []
    | a :: b :: rest =>
      let k := split (rest.length + 2)
      if index < k then siblings ((a :: b :: rest).take k) index ++ [hex (merkleRoot pk ((a :: b :: rest).drop k))]
      else siblings ((a :: b :: rest).drop k) (index - k) ++ [hex (merkleRoot pk ((a :: b :: rest).take k))]
  termination_by leaves.length
  decreasing_by
    · have := split_lt (show 2 ≤ rest.length + 2 by omega)
      rw [List.length_take, List.length_cons, List.length_cons]
      omega
    · have := split_pos (rest.length + 2)
      rw [List.length_drop, List.length_cons, List.length_cons]
      omega

/-- `fold` of `inclusion`: the hash of a subtree of `n` leaves, and what is left of the siblings;
    nothing when the proof is truncated. -/
def fold (leaf : Bytes) (i n : ℕ) (siblings : List Bytes) : Option (Bytes × List Bytes) :=
  if _h : n ≤ 1 then some (leaf, siblings)
  else do
    let (child, rest) ← if i < split n then fold leaf i (split n) siblings else fold leaf (i - split n) (n - split n) siblings
    match rest with
    | [] => none
    | sibling :: rest => some (if i < split n then nodeHash pk child sibling else nodeHash pk sibling child, rest)
termination_by n
decreasing_by
  · exact split_lt (by omega)
  · have := split_pos n
    omega

/-- `inclusion` -/
def inclusion (leaf : Bytes) (index size : ℕ) (path root : Json) : Run Bool := do
  Incident.require (size ≤ maxItems && index ≤ maxItems) "Expected a bounded nonnegative integer"
  match path with
  | .arr items =>
    if size = 0 || size ≤ index || 64 < items.length then return false
    else
      let siblings ← items.mapM fun item => hexBytes item 32
      match fold pk leaf index size siblings with
      | some (result, []) => return result = (← hexBytes root 32)
      | _ => return false
  | _ => return false

end Crypto
end VapEvidence.Scope

import Mathlib.Algebra.GroupWithZero.Nat
import VapEvidence.StrictJson

set_option autoImplicit false

/-!
# The strict reader of the Node verifier

`strictParse` of `verify_node.mjs` as a descent over the text that is left. Text
is a list of characters; positions in errors count UTF-16 units.
-/
namespace VapEvidence.Evidence.Node
open Json

def maxDepth : ℕ := 16
def maxStringLength : ℕ := 1024

/-- `text.length` -/
def units (s : List Char) : ℕ := (s.map fun c => if c.toNat < 65536 then 1 else 2).sum

/-- `printable` -/
def printable (value : Json) (label : String) (nonempty : Bool) : Except String Unit :=
  let message := label ++ " must be " ++ (if nonempty then "nonempty " else "") ++
    "printable ASCII of at most 1024 characters"
  match value with
  | .str s => check (units s.toList ≤ maxStringLength && !(nonempty && s.isEmpty) &&
      !s.toList.any fun c => c.toNat < 0x20 || 0x7e < c.toNat) message
  | _ => .error message

/-- The nearest double to a natural number, ties to even; past the range of doubles, where the
    source has an infinity, it is a number as far from the safe integers. -/
def roundDouble (n : ℕ) : ℕ :=
  if n < 2 ^ 53 then n
  else
    let unit := 2 ^ (Nat.log2 n - 52)
    let q := n / unit
    let r := n % unit
    (if unit < 2 * r ∨ (2 * r = unit ∧ q % 2 = 1) then q + 1 else q) * unit

/-- `Number` of an integer token. -/
def toNumber : List Char → ℤ
  | '-' :: ds => -(roundDouble (Nat.ofDigitChars 10 ds 0) : ℤ)
  | ds => roundDouble (Nat.ofDigitChars 10 ds 0)

/-- `Number.isSafeInteger` -/
def isSafeInteger (n : ℤ) : Bool := n.natAbs ≤ maxSafeInteger

/-- The text of a string token up to its closing quote, and what follows; without a closing quote,
    how far past the end of the text the search stops. -/
def closeQuote : List Char → Except ℕ (List Char × List Char)
  | [] => .error 0
  | '"' :: s => .ok (['"'], s)
  | ['\\'] => .error 1
  | '\\' :: c :: s => (closeQuote s).map fun p => ('\\' :: c :: p.1, p.2)
  | c :: s => (closeQuote s).map fun p => (c :: p.1, p.2)

section Parse
variable (text : List Char)

/-- `syntax` where the text from `offset` on is `rest`. -/
def syntaxError (message : String) (rest : List Char) (past : ℕ) : String :=
  message ++ " at character " ++ toString (units text - units rest + past)

/-- `stringValue` -/
def stringValue : List Char → Except String (String × List Char)
  | '"' :: s =>
    match closeQuote s with
    | .error past => .error (syntaxError text "unterminated JSON string" [] past)
    | .ok (body, r) =>
      match scanString body with
      | some (cs, []) => do
        printable (.str (String.ofList cs)) "JSON string" false
        return (String.ofList cs, r)
      | _ => .error (syntaxError text "invalid JSON string escape or control character" r 0)
  | s => .error (syntaxError text "expected JSON string" s 0)

/-- The digits of a number token after its sign. -/
def numberDigits : List Char → Except String (List Char × List Char)
  | [] => .error (syntaxError text "expected integer digits" [] 0)
  | d :: r =>
    if d = '0' then
      if (r.head?.map Char.isDigit).getD false then
        .error (syntaxError text "leading zero is not permitted" r 0)
      else .ok (['0'], r)
    else if d.isDigit then .ok (d :: r.takeWhile Char.isDigit, r.dropWhile Char.isDigit)
    else .error (syntaxError text "expected integer digits" (d :: r) 0)

/-- The checks of `numberValue` on a token, and its number. -/
def tokenValue (token r : List Char) : Except String (Json × List Char) := do
  check (r.head? ≠ some '.' ∧ r.head? ≠ some 'e' ∧ r.head? ≠ some 'E')
    (syntaxError text "fractional and exponent number tokens are not permitted" r 0)
  check (token ≠ ['-', '0']) (syntaxError text "negative zero is not permitted" r 0)
  check (isSafeInteger (toNumber token)) (syntaxError text "integer is outside the safe range" r 0)
  return (.int (toNumber token), r)

/-- `numberValue` -/
def numberValue : List Char → Except String (Json × List Char)
  | '-' :: s => do
    let p ← numberDigits text s
    tokenValue text ('-' :: p.1) p.2
  | s => do
    let p ← numberDigits text s
    tokenValue text p.1 p.2

/-- The end of `value`: the three words and numbers. -/
def scalarValue (s : List Char) : Except String (Json × List Char) :=
  match token? "true".toList s with
  | some r => .ok (.bool true, r)
  | none =>
  match token? "false".toList s with
  | some r => .ok (.bool false, r)
  | none =>
  match token? "null".toList s with
  | some r => .ok (.null, r)
  | none =>
    if (s.head?.map fun c => c = '-' || c.isDigit).getD false then numberValue text s
    else .error (syntaxError text "expected JSON value" s 0)

mutual
/-- `value`; the fuel bounds the calls and is never what stops `strictParse`. -/
def value : ℕ → ℕ → List Char → Except String (Json × List Char)
  | 0, _, _ => .error "fuel"
  | n + 1, depth, s =>
    if maxDepth < depth then .error (syntaxError text "JSON nesting exceeds 16" (skipSpace s) 0)
    else
      match skipSpace s with
      | '"' :: t => (stringValue text ('"' :: t)).map fun p => (.str p.1, p.2)
      | '{' :: t =>
        match skipSpace t with
        | '}' :: r => .ok (.obj [], r)
        | r => do
          let (ms, r) ← members n depth [] r
          return (dict ms, r)
      | '[' :: t =>
        match skipSpace t with
        | ']' :: r => .ok (.arr [], r)
        | r => do
          let (xs, r) ← elements n depth r
          return (.arr xs, r)
      | t => scalarValue text t
/-- The loop over the members of an object, from a key on. -/
def members : ℕ → ℕ → List String → List Char → Except String (List (String × Json) × List Char)
  | 0, _, _, _ => .error "fuel"
  | n + 1, depth, seen, s => do
    let (key, r) ← stringValue text (skipSpace s)
    check (key ∉ seen) (syntaxError text "duplicate JSON object key" r 0)
    match skipSpace r with
    | ':' :: r => do
      let (x, r) ← value n (depth + 1) r
      match skipSpace r with
      | '}' :: r => return ([(key, x)], r)
      | ',' :: r => do
        let (ms, r) ← members n depth (key :: seen) r
        return ((key, x) :: ms, r)
      | r => .error (syntaxError text "expected comma or closing brace" r 0)
    | r => .error (syntaxError text "expected colon" r 0)
/-- The loop over the elements of an array. -/
def elements : ℕ → ℕ → List Char → Except String (List Json × List Char)
  | 0, _, _ => .error "fuel"
  | n + 1, depth, s => do
    let (x, r) ← value n (depth + 1) s
    match skipSpace r with
    | ']' :: r => return ([x], r)
    | ',' :: r => do
      let (xs, r) ← elements n depth r
      return (x :: xs, r)
    | r => .error (syntaxError text "expected comma or closing bracket" r 0)
end

end Parse

/-- `strictParse` -/
def strictParse (text : List Char) : Except String Json := do
  check ((encodeUtf8 text).length ≤ maxFileBytes) "JSON input exceeds 2 MiB"
  check (text.head? ≠ some '\ufeff') "UTF-8 BOM is not permitted"
  let (result, r) ← value text (scanFuel text) 0 text
  check (skipSpace r = []) (syntaxError text "unexpected trailing input" (skipSpace r) 0)
  return result

/-- `loadJsonFile` on the bytes of the file. -/
def loadJsonFile (bytes : Bytes) : Except String Json := do
  check (bytes.length ≤ maxFileBytes) "JSON input exceeds 2 MiB"
  check (!([0xef, 0xbb, 0xbf] : Bytes).isPrefixOf bytes) "UTF-8 BOM is not permitted"
  match decodeUtf8 bytes with
  | none => .error "JSON input is not valid UTF-8"
  | some text => strictParse text

/-! ## Canonical text -/

/-- `values.join(',')` -/
def join : List (List Char) → List Char
  | [] => []
  | [t] => t
  | t :: ts => t ++ ',' :: join ts

mutual
/-- `encode`; keys are held sorted, and `JSON.stringify` of a string escapes nothing above ASCII. -/
def encode (depth : ℕ) : Json → Except String (List Char)
  | .null => do
    check (depth ≤ maxDepth) "JSON nesting exceeds 16"
    return "null".toList
  | .str s => do
    check (depth ≤ maxDepth) "JSON nesting exceeds 16"
    printable (.str s) "JSON string" false
    return dumpString false s
  | .bool b => do
    check (depth ≤ maxDepth) "JSON nesting exceeds 16"
    return if b then "true".toList else "false".toList
  | .int n => do
    check (depth ≤ maxDepth) "JSON nesting exceeds 16"
    check (isSafeInteger n) "JSON numbers must be safe integers, excluding negative zero"
    return dumpInt n
  | .float _ => do
    check (depth ≤ maxDepth) "JSON nesting exceeds 16"
    .error "JSON numbers must be safe integers, excluding negative zero"
  | .arr xs => do
    check (depth ≤ maxDepth) "JSON nesting exceeds 16"
    let values ← encodeElems (depth + 1) xs
    return '[' :: join values ++ [']']
  | .obj ms => do
    check (depth ≤ maxDepth) "JSON nesting exceeds 16"
    let members ← encodeMembers (depth + 1) ms
    return '{' :: join members ++ ['}']
def encodeElems (depth : ℕ) : List Json → Except String (List (List Char))
  | [] => .ok []
  | x :: xs => do
    let t ← encode depth x
    let ts ← encodeElems depth xs
    return t :: ts
def encodeMembers (depth : ℕ) : List (String × Json) → Except String (List (List Char))
  | [] => .ok []
  | (k, x) :: ms => do
    printable (.str k) "JSON object key" false
    let t ← encode depth x
    let ts ← encodeMembers depth ms
    return (dumpString false k ++ ':' :: t) :: ts
end

/-- `canonical` -/
def canonical (v : Json) : Except String Bytes := (encode 0 v).map encodeUtf8

end VapEvidence.Evidence.Node

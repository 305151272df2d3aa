import VapEvidence.JsonValue

set_option autoImplicit false

/-!
# JSON text

`dumps` is `json.dumps` with compact separators over dictionaries in key order;
`loads` is `json.loads` with its hooks for numbers, constants and objects. Text
is a list of characters, so a string that holds a lone surrogate has no value
here: its escape is refused while scanning.
-/
namespace VapEvidence
open Json

def hexDigit (n : ℕ) : Char :=
  if n < 10 then Char.ofNat (48 + n) else Char.ofNat (87 + n)

def hexValue (c : Char) : Option ℕ :=
  if '0' ≤ c ∧ c ≤ '9' then some (c.toNat - 48)
  else if 'a' ≤ c ∧ c ≤ 'f' then some (c.toNat - 87)
  else if 'A' ≤ c ∧ c ≤ 'F' then some (c.toNat - 55)
  else none

/-! ## Writing -/

def escapeUnit (n : ℕ) : List Char :=
  ['\\', 'u', hexDigit (n / 4096), hexDigit (n / 256 % 16), hexDigit (n / 16 % 16), hexDigit (n % 16)]

/-- One character of a string; `ascii` is the flag `ensure_ascii`. -/
def escapeChar (ascii : Bool) (c : Char) : List Char :=
  if c = '"' then ['\\', '"']
  else if c = '\\' then ['\\', '\\']
  else if c = '\n' then ['\\', 'n']
  else if c = '\r' then ['\\', 'r']
  else if c = '\t' then ['\\', 't']
  else if c = '\x08' then ['\\', 'b']
  else if c = '\x0c' then ['\\', 'f']
  else if c.toNat < 32 then escapeUnit c.toNat
  else if ascii ∧ 126 < c.toNat then
    if c.toNat < 65536 then escapeUnit c.toNat
    else escapeUnit (55296 + (c.toNat - 65536) / 1024) ++ escapeUnit (56320 + (c.toNat - 65536) % 1024)
  else [c]

def dumpString (ascii : Bool) (s : String) : List Char :=
  '"' :: s.toList.flatMap (escapeChar ascii) ++ ['"']

def dumpInt (n : ℤ) : List Char :=
  if n < 0 then '-' :: Nat.toDigits 10 n.natAbs else Nat.toDigits 10 n.natAbs

section Dump
variable (floatRepr : UInt64 → List Char) (ascii : Bool)

mutual
def dumps : Json → List Char
  | .null => "null".toList
  | .bool true => "true".toList
  | .bool false => "false".toList
  | .int n => dumpInt n
  | .float bits => floatRepr bits
  | .str s => dumpString ascii s
  | .arr [] => ['[', ']']
  | .arr (x :: xs) => '[' :: (dumps x ++ dumpElems xs)
  | .obj [] => ['{', '}']
  | .obj ((k, x) :: ms) => '{' :: (dumpString ascii k ++ ':' :: (dumps x ++ dumpMembers ms))
def dumpElems : List Json → List Char
  | [] => [']']
  | x :: xs => ',' :: (dumps x ++ dumpElems xs)
def dumpMembers : List (String × Json) → List Char
  | [] => ['}']
  | (k, x) :: ms => ',' :: (dumpString ascii k ++ ':' :: (dumps x ++ dumpMembers ms))
end

end Dump

/-! ## Scanning -/

/-- `parse_int`, `parse_float`, `parse_constant` and `object_pairs_hook`. -/
structure Hooks where
  parseInt : List Char → Except String Json
  parseFloat : List Char → Except String Json
  parseConstant : List Char → Except String Json
  objectPairs : List (String × Json) → Except String Json

def isSpace (c : Char) : Bool := c = ' ' ∨ c = '\t' ∨ c = '\n' ∨ c = '\r'

def skipSpace : List Char → List Char
  | [] => []
  | c :: s => if isSpace c then skipSpace s else c :: s

/-- The rest of the text after a fixed token. -/
def token? (t s : List Char) : Option (List Char) :=
  if t.isPrefixOf s then some (s.drop t.length) else none

def hex4 (a b c d : Char) : Option ℕ := do
  return (← hexValue a) * 4096 + (← hexValue b) * 256 + (← hexValue c) * 16 + (← hexValue d)

def simpleEscape (c : Char) : Option Char :=
  if c = '"' then some '"'
  else if c = '\\' then some '\\'
  else if c = '/' then some '/'
  else if c = 'b' then some '\x08'
  else if c = 'f' then some '\x0c'
  else if c = 'n' then some '\n'
  else if c = 'r' then some '\r'
  else if c = 't' then some '\t'
  else none

/-- The character of a `\u` escape pair or of a single unit; none for a lone surrogate. -/
def unitChar (u : ℕ) : Option Char :=
  if 55296 ≤ u ∧ u ≤ 57343 then none else some (Char.ofNat u)

def pairChar (u v : ℕ) : Option Char :=
  if 55296 ≤ u ∧ u ≤ 56319 ∧ 56320 ≤ v ∧ v ≤ 57343 then
    some (Char.ofNat (65536 + (u - 55296) * 1024 + (v - 56320)))
  else none

/-- The characters up to the closing quote, and the text after it. -/
def scanString : List Char → Option (List Char × List Char)
  | [] => none
  | '"' :: s => some ([], s)
  | '\\' :: 'u' :: a :: b :: c :: d :: s =>
    match hex4 a b c d with
    | none => none
    | some u =>
      match unitChar u with
      | some ch => (scanString s).map fun p => (ch :: p.1, p.2)
      | none =>
        match s with
        | '\\' :: 'u' :: e :: f :: g :: h :: t =>
          match (hex4 e f g h).bind (pairChar u) with
          | some ch => (scanString t).map fun p => (ch :: p.1, p.2)
          | none => none
        | _ => none
  | '\\' :: e :: s =>
    match simpleEscape e with
    | some ch => (scanString s).map fun p => (ch :: p.1, p.2)
    | none => none
  | c :: s => if c.toNat < 32 then none else (scanString s).map fun p => (c :: p.1, p.2)

def spanDigits (s : List Char) : List Char × List Char :=
  (s.takeWhile Char.isDigit, s.dropWhile Char.isDigit)

/-- `-?(0|[1-9][0-9]*)`, as the characters of the token and the rest. -/
def scanInteger (s : List Char) : Option (List Char × List Char) :=
  let (sign, r) := match s with
    | '-' :: r => (['-'], r)
    | r => ([], r)
  match r with
  | [] => none
  | d :: r =>
    if d = '0' then some (sign ++ ['0'], r)
    else if d.isDigit then
      let (ds, r) := spanDigits r
      some (sign ++ d :: ds, r)
    else none

/-- `\.[0-9]+`, when it is there. -/
def scanFraction : List Char → Option (List Char × List Char)
  | '.' :: d :: r =>
    if d.isDigit then
      let (ds, r) := spanDigits r
      some ('.' :: d :: ds, r)
    else none
  | _ => none

/-- `[eE][-+]?[0-9]+`, when it is there. -/
def scanExponent : List Char → Option (List Char × List Char)
  | e :: r =>
    if e = 'e' ∨ e = 'E' then
      let (sign, r) := match r with
        | '+' :: r => (['+'], r)
        | '-' :: r => (['-'], r)
        | r => ([], r)
      match spanDigits r with
      | ([], _) => none
      | (ds, r) => some (e :: (sign ++ ds), r)
    else none
  | [] => none

section Scan
variable (h : Hooks)

def scanNumber (s : List Char) : Except String (Json × List Char) :=
  match scanInteger s with
  | none => .error "Expecting value"
  | some (t, r) =>
    match scanFraction r with
    | some (f, r) =>
      match scanExponent r with
      | some (e, r) => (h.parseFloat (t ++ f ++ e)).map fun v => (v, r)
      | none => (h.parseFloat (t ++ f)).map fun v => (v, r)
    | none =>
      match scanExponent r with
      | some (e, r) => (h.parseFloat (t ++ e)).map fun v => (v, r)
      | none => (h.parseInt t).map fun v => (v, r)

/-- The six fixed tokens; the last three go to `parse_constant`. -/
def scanToken (s : List Char) : Option (Except String (Json × List Char)) :=
  match token? "null".toList s with
  | some r => some (.ok (.null, r))
  | none =>
  match token? "true".toList s with
  | some r => some (.ok (.bool true, r))
  | none =>
  match token? "false".toList s with
  | some r => some (.ok (.bool false, r))
  | none =>
  match token? "NaN".toList s with
  | some r => some ((h.parseConstant "NaN".toList).map fun v => (v, r))
  | none =>
  match token? "Infinity".toList s with
  | some r => some ((h.parseConstant "Infinity".toList).map fun v => (v, r))
  | none =>
  match token? "-Infinity".toList s with
  | some r => some ((h.parseConstant "-Infinity".toList).map fun v => (v, r))
  | none => none

def scanScalar (s : List Char) : Except String (Json × List Char) :=
  match scanToken h s with
  | some r => r
  | none => scanNumber h s

mutual
/-- `scan_once`; the fuel bounds the calls and is never what stops `loads`. -/
def scanOnce : ℕ → List Char → Except String (Json × List Char)
  | 0, _ => .error "fuel"
  | _ + 1, [] => .error "Expecting value"
  | n + 1, c :: s =>
    if c = '"' then
      match scanString s with
      | some (cs, r) => .ok (.str (String.ofList cs), r)
      | none => .error "Invalid string"
    else if c = '{' then
      match skipSpace s with
      | '}' :: r => (h.objectPairs []).map fun v => (v, r)
      | r => do
        let (ms, r) ← scanMembers n r
        let v ← h.objectPairs ms
        return (v, r)
    else if c = '[' then
      match skipSpace s with
      | ']' :: r => .ok (.arr [], r)
      | r => do
        let (xs, r) ← scanElems n r
        return (.arr xs, r)
    else scanScalar h (c :: s)
def scanMembers : ℕ → List Char → Except String (List (String × Json) × List Char)
  | 0, _ => .error "fuel"
  | n + 1, s =>
    match s with
    | '"' :: s =>
      match scanString s with
      | none => .error "Invalid string"
      | some (cs, r) =>
        match skipSpace r with
        | ':' :: r => do
          let (x, r) ← scanOnce n (skipSpace r)
          match skipSpace r with
          | '}' :: r => return ([(String.ofList cs, x)], r)
          | ',' :: r => do
            let (ms, r) ← scanMembers n (skipSpace r)
            return ((String.ofList cs, x) :: ms, r)
          | _ => .error "Expecting ',' delimiter"
        | _ => .error "Expecting ':' delimiter"
    | _ => .error "Expecting property name enclosed in double quotes"
def scanElems : ℕ → List Char → Except String (List Json × List Char)
  | 0, _ => .error "fuel"
  | n + 1, s => do
    let (x, r) ← scanOnce n s
    match skipSpace r with
    | ']' :: r => return ([x], r)
    | ',' :: r => do
      let (xs, r) ← scanElems n (skipSpace r)
      return (x :: xs, r)
    | _ => .error "Expecting ',' delimiter"
end

/-- Enough calls for any text of this length. -/
def scanFuel (s : List Char) : ℕ := 2 * s.length + 2

def loads (s : List Char) : Except String Json :=
  if s.head? = some '\ufeff' then .error "Unexpected UTF-8 BOM"
  else
    match scanOnce h (scanFuel s) (skipSpace s) with
    | .error e => .error e
    | .ok (v, r) => if skipSpace r = [] then .ok v else .error "Extra data"

end Scan

/-- The pairs hook of this repository's readers: a repeated key is an error. -/
def uniquePairs (message : String) (ps : List (String × Json)) : Except String Json :=
  if (ps.map Prod.fst).Nodup then .ok (dict ps) else .error message

end VapEvidence

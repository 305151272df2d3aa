import VapEvidence.JsonDistinct

set_option autoImplicit false

/-!
# Values of the review report

`common.py` of the incident review report: bounded JSON values, their bytes, and the
concrete JSON pointers through which the report attributes what it shows.
-/
namespace VapEvidence.Review
open Json

/-- What the report takes from its runtime. -/
structure Runtime where
  sha256 : Bytes → Bytes
  floatRepr : UInt64 → List Char
  floatOf : List Char → UInt64

/-- A `ReviewError` with its text, or a value. -/
abbrev Run (α : Type) : Type := Except String α

def require (c : Bool) (message : String) : Run Unit := if c then .ok () else .error message

theorem require_ok {c : Bool} {message : String} {u : Unit} (h : require c message = .ok u) : c = true := by
  unfold require at h
  split_ifs at h with hc
  exact hc

/-! ## Bounded JSON -/

def maxInput : ℕ := 4 * 1024 * 1024

mutual
/-- `_bounded` -/
def bounded (depth : ℕ) : Json → Run Unit
  | .obj ms => do
    require (depth ≤ 64) "JSON depth exceeds the presentation limit"
    require (ms.length ≤ 10000) "JSON container exceeds the presentation limit"
    boundedMembers (depth + 1) ms
  | .arr xs => do
    require (depth ≤ 64) "JSON depth exceeds the presentation limit"
    require (xs.length ≤ 10000) "JSON container exceeds the presentation limit"
    boundedElems (depth + 1) xs
  | .float b => do
    require (depth ≤ 64) "JSON depth exceeds the presentation limit"
    require (isFinite b) "Non-finite JSON value"
  | _ => require (depth ≤ 64) "JSON depth exceeds the presentation limit"
def boundedElems (depth : ℕ) : List Json → Run Unit
  | [] => .ok ()
  | x :: xs => do bounded depth x; boundedElems depth xs
def boundedMembers (depth : ℕ) : List (String × Json) → Run Unit
  | [] => .ok ()
  | (k, x) :: ms => do
    bounded depth (.str k)
    bounded depth x
    boundedMembers depth ms
end

mutual
/-- Every integer has at most 4300 digits, the limit of its conversion to and from text. -/
def convertible : Json → Bool
  | .int n => n.natAbs < 10 ^ 4300
  | .arr xs => convertibleElems xs
  | .obj ms => convertibleMembers ms
  | _ => true
def convertibleElems : List Json → Bool
  | [] => true
  | x :: xs => convertible x && convertibleElems xs
def convertibleMembers : List (String × Json) → Bool
  | [] => true
  | (_, x) :: ms => convertible x && convertibleMembers ms
end

section
variable (rt : Runtime)

def sha256Hex (raw : Bytes) : String := hex (rt.sha256 raw)

/-- `int` of a token of at most 4300 digits. -/
def limitedInt (token : List Char) : Except String Json :=
  if (token.dropWhile (· = '-')).length ≤ 4300 then .ok (.int (intToken token))
  else .error "Exceeds the limit (4300 digits) for integer string conversion"

def strictHooks : Hooks where
  parseInt := limitedInt
  parseFloat t := .ok (.float (rt.floatOf t))
  parseConstant _ := .error "Non-finite JSON constant"
  objectPairs := uniquePairs "Duplicate JSON object key"

/-- `strict_json` -/
def strictJson (raw : Bytes) : Run Json := do
  require (raw.length ≤ maxInput) "Invalid or oversized JSON bytes"
  match decodeUtf8 raw with
  | none => .error "Invalid presentation JSON"
  | some s =>
    match loads (strictHooks rt) s with
    | .error _ => .error "Invalid presentation JSON"
    | .ok value =>
      match bounded 0 value with
      | .error _ => .error "Invalid presentation JSON"
      | .ok _ => .ok value

/-- The text of `json_bytes`, all of it ASCII. -/
def jsonText (value : Json) : Run (List Char) :=
  match bounded 0 value with
  | .error _ => .error "Unsupported presentation JSON"
  | .ok _ =>
    if convertible value then .ok (dumps rt.floatRepr true value ++ ['\n']) else .error "Unsupported presentation JSON"

/-- `json_bytes` -/
def jsonBytes (value : Json) : Run Bytes := do return encodeUtf8 (← jsonText rt value)

end

/-! ## Pointers -/

/-- `pointer[1:].split("/")`, read from the front: the parts of a text between slashes. -/
def splitSlash (s : List Char) : List (List Char) := s.splitOn '/'

/-- `re.search(r"~(?![01])", part)` -/
def badEscape : List Char → Bool
  | [] => false
  | '~' :: '0' :: s => badEscape s
  | '~' :: '1' :: s => badEscape s
  | c :: s => c = '~' || badEscape s

/-- `part.replace(old, new)` for an `old` of a tilde and one character. -/
def replaceTilde (mark : Char) (new : List Char) : List Char → List Char
  | '~' :: c :: s => if c = mark then new ++ replaceTilde mark new s else '~' :: replaceTilde mark new (c :: s)
  | c :: s => c :: replaceTilde mark new s
  | [] => []

/-- `part.replace("~1", "/").replace("~0", "~")` -/
def unescapePart (part : List Char) : List Char := replaceTilde '0' ['~'] (replaceTilde '1' ['/'] part)

/-- `re.fullmatch(r"0|[1-9][0-9]*", part)` -/
def isIndex : List Char → Bool
  | ['0'] => true
  | c :: s => '1' ≤ c && c ≤ '9' && s.all Char.isDigit
  | [] => false

/-- One part of a pointer. -/
def resolvePart (value : Json) (part : List Char) : Run Json := do
  require (!badEscape part) "Invalid JSON Pointer escape"
  let part := unescapePart part
  match value with
  | .obj ms =>
    match ms.lookup (String.ofList part) with
    | some x => .ok x
    | none => .error "JSON Pointer refers to a missing field"
  | .arr xs =>
    if !isIndex part || 6 < part.length then .error "JSON Pointer refers to a missing index"
    else
      match xs[Nat.ofDigitChars 10 part 0]? with
      | some x => .ok x
      | none => .error "JSON Pointer refers to a missing index"
  | _ => .error "JSON Pointer traverses a scalar"

/-- `resolve_pointer` -/
def resolvePointer (value : Json) (pointer : String) : Run Json :=
  match pointer.toList with
  | [] => .ok value
  | c :: s =>
    if pointer.length ≤ 2048 && c = '/' then (splitSlash s).foldlM resolvePart value
    else .error "Invalid concrete JSON Pointer"

/-! ## References -/

/-- A reference to a place in the captured evidence. -/
structure Source where
  file : String
  sha256 : String
  pointer : String
  deriving DecidableEq

/-- The archived files of a case. -/
abbrev Files : Type := List (String × Bytes)

def isPathChar (c : Char) : Bool :=
  ('A' ≤ c && c ≤ 'Z') || ('a' ≤ c && c ≤ 'z') || ('0' ≤ c && c ≤ '9') || ['_', '.', '-', '/'].contains c

/-- `safe_path` -/
def safePath (path : String) : Run Unit :=
  require (path.length ≤ 240 && !path.toList.isEmpty && path.toList.all isPathChar && path.toList.head? ≠ some '/' &&
    !(splitSlash path.toList).any (fun part => [[], ['.'], ['.', '.']].contains part))
    "Unsupported repository or evidence path"

/-- `reference` -/
def reference (rt : Runtime) (files : Files) (file pointer : String) : Run Source := do
  safePath file
  require ("evidence/".toList.isPrefixOf file.toList) "Source reference is outside the captured evidence"
  match files.lookup file with
  | none => .error "Source reference is outside the captured evidence"
  | some raw => do
    let _ ← resolvePointer (← strictJson rt raw) pointer
    return ⟨file, sha256Hex rt raw, pointer⟩

end VapEvidence.Review

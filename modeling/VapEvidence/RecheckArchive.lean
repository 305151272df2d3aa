import Mathlib.Data.Finset.Dedup
import Mathlib.Data.Finset.Insert
import Mathlib.Data.String.Basic
import VapEvidence.FixedFields
import VapEvidence.IncidentValues

set_option autoImplicit false

/-!
# The recheck archive

`incident_recheck/archive.py`: a ZIP envelope of stored members over a fixed inventory of
paths, its encoder and its exact parser, and the manifest that it carries.
-/
namespace VapEvidence.Recheck
open Json Incident

def maxArchive : ℕ := 16 * 1024 * 1024
def maxMember : ℕ := 4 * 1024 * 1024
def maxMembers : ℕ := 256
def maxPayload : ℕ := 12 * 1024 * 1024
def maxCentral : ℕ := 128 * 1024
def maxJson : ℕ := 4 * 1024 * 1024
def manifestName : String := "manifest.json"
def snapshotId : String := "incident-ci-2026-10-30"

/-- A `KitError` with its text. -/
abbrev Kit (α : Type) : Type := Except String α

def kitRequire (c : Bool) (message : String) : Kit Unit := if c then .ok () else .error message

/-! ## Paths -/

def asciiBytes (s : String) : Bytes := s.toList.map fun c => UInt8.ofNat c.toNat

/-- `bytes.decode("ascii")` -/
def decodeAscii (raw : Bytes) : Option String :=
  if raw.all (· < 128) then some (String.ofList (raw.map fun b => Char.ofNat b.toNat)) else none

/-- The characters of a safe path. -/
def pathChar (c : Char) : Bool := c.isAlphanum || c = '_' || c = '.' || c = '-' || c = '/'

/-- A part that no path may have. -/
def emptyOrDots (part : List Char) : Bool := part = [] || part = ['.'] || part = ['.', '.']

/-- `safe_path` -/
def safePath (value : String) : Kit Unit :=
  kitRequire (!(value = "" || 240 < value.length || !value.toList.all pathChar || value.toList.head? = some '/' ||
    (value.toList.splitOn '/').any emptyOrDots)) "Unsupported archive-relative path"

/-- `_path` -/
def pathBytes (name : String) : Kit Bytes := do
  kitRequire (name.toList.all fun c => c.toNat < 128) "Archive paths must be ASCII"
  let raw := asciiBytes name
  safePath name
  kitRequire (!(raw = [] || 65535 < raw.length || name.toList.head? = some '/' || name.toList.contains '\\' ||
    name.toList.contains '\x00' || name.toList.contains ':' || (name.toList.splitOn '/').any emptyOrDots))
    "Unsafe archive path"
  return raw

/-- `str.casefold` of ASCII text. -/
def casefold (s : String) : String := s.map Char.toLower

/-- The loop of `_inventory` over its paths. -/
def foldPaths : List String → List String → Kit Unit
  | [], _ => .ok ()
  | name :: rest, folded => do
    let _ ← pathBytes name
    kitRequire (casefold name ∉ folded) "Trusted payload inventory contains colliding paths"
    foldPaths rest (casefold name :: folded)

/-- `_inventory`, for the paths of the fixed payload in the order of their set. -/
def inventory (paths : List String) : Kit (Finset String) := do
  kitRequire (!(manifestName ∈ paths || paths = [] || maxMembers < paths.length + 1))
    "Trusted payload inventory is outside archive bounds"
  foldPaths paths []
  return paths.toFinset

/-! ## Files -/

/-- A dictionary from paths to bytes, in insertion order. -/
abbrev Files : Type := List (String × Bytes)

def Files.names (files : Files) : List String := files.map Prod.fst

/-- `files[name]` of a name that is there. -/
def Files.content (files : Files) (name : String) : Bytes := (files.lookup name).getD []

/-- `sorted(files)` -/
def sortNames (names : List String) : List String := names.mergeSort fun a b => decide (a ≤ b)

/-- The loop of `_owned_payload`, with the total so far. -/
def ownedMembers : Files → ℕ → Kit ℕ
  | [], total => .ok total
  | (name, value) :: rest, total => do
    let _ ← pathBytes name
    kitRequire (value.length ≤ maxMember) "Payload members must be owned bytes within the member limit"
    ownedMembers rest (total + value.length)

/-- `_owned_payload`: the total size of the payload. -/
def ownedPayload (paths : List String) (payload : Files) : Kit ℕ := do
  kitRequire (payload.length + 1 ≤ maxMembers) "Payload must be a bounded dictionary of owned bytes"
  let expected ← inventory paths
  kitRequire (payload.names.toFinset = expected) "Payload differs from the exact fixed file inventory"
  let total ← ownedMembers payload 0
  kitRequire (total ≤ maxPayload) "Aggregate payload exceeds the supported limit"
  return total

/-! ## Records -/

/-- One bit of a reflected CRC step. -/
def crcBit (crc : UInt32) : UInt32 := if crc &&& 1 = 1 then (crc >>> 1) ^^^ 0xEDB88320 else crc >>> 1

def crcByte (crc : UInt32) (b : UInt8) : UInt32 :=
  (List.range 8).foldl (fun c _ => crcBit c) (crc ^^^ b.toUInt32)

/-- `binascii.crc32` -/
def crc32 (raw : Bytes) : ℕ := ((raw.foldl crcByte 0xFFFFFFFF) ^^^ 0xFFFFFFFF).toNat

/-- `LOCAL`, after its signature. -/
def localWidths : List ℕ := [2, 2, 2, 2, 2, 4, 4, 4, 2, 2]
/-- `CENTRAL`, after its signature. -/
def centralWidths : List ℕ := [2, 2, 2, 2, 2, 2, 4, 4, 4, 2, 2, 2, 2, 2, 4, 4]
/-- `END`, after its signature. -/
def endWidths : List ℕ := [2, 2, 2, 2, 4, 4, 2]

def localSize : ℕ := 30
def centralSize : ℕ := 46
def endSize : ℕ := 22

def localSignature : Bytes := [0x50, 0x4b, 3, 4]
def centralSignature : Bytes := [0x50, 0x4b, 1, 2]
def endSignature : Bytes := [0x50, 0x4b, 5, 6]

def version : ℕ := 20
/-- `(3 << 8) | VERSION` -/
def unixVersion : ℕ := 788
/-- `(stat.S_IFREG | 0o644) << 16` -/
def fileAttributes : ℕ := 2175008768
def dosDate : ℕ := 33

/-- `Struct.pack` of a signature and its numbers. -/
def packRecord (signature : Bytes) (widths values : List ℕ) : Bytes := signature ++ Fields.pack widths values

/-- `Struct.unpack_from` -/
def unpackRecord (widths : List ℕ) (raw : Bytes) (offset : ℕ) : Bytes × List ℕ :=
  ((raw.drop offset).take 4, Fields.unpack widths (raw.drop (offset + 4)))

/-- `raw[start:stop]` -/
def slice (raw : Bytes) (start stop : ℕ) : Bytes := (raw.drop start).take (stop - start)

def localRecord (name content : Bytes) : Bytes :=
  packRecord localSignature localWidths
    [version, 0, 0, 0, dosDate, crc32 content, content.length, content.length, name.length, 0] ++ name ++ content

def centralRecord (name content : Bytes) (offset : ℕ) : Bytes :=
  packRecord centralSignature centralWidths [unixVersion, version, 0, 0, 0, dosDate, crc32 content, content.length,
    content.length, name.length, 0, 0, 0, 0, fileAttributes, offset] ++ name

def endRecord (count size offset : ℕ) : Bytes :=
  packRecord endSignature endWidths [0, 0, count, count, size, offset, 0]

/-! ## Encoding -/

/-- A path with its bytes and the content under it. -/
structure Member where
  name : String
  raw : Bytes
  content : Bytes
  deriving DecidableEq

def Member.central (m : Member) : ℕ := centralSize + m.raw.length
def Member.extent (m : Member) : ℕ := localSize + m.raw.length + m.content.length

/-- The files in the order of their names. -/
def sortedMembers (files : Files) : Kit (List Member) :=
  (sortNames files.names).mapM fun name => do return ⟨name, ← pathBytes name, files.content name⟩

/-- The loop of `_encode_zip`: its local parts, its central parts and the offset it ends at. -/
def encodeMembers : List Member → ℕ → Kit (Bytes × Bytes × ℕ)
  | [], offset => .ok ([], [], offset)
  | m :: rest, offset => do
    kitRequire (m.content.length ≤ maxMember) "Encoded archive member exceeds its size limit"
    let (locals, centrals, last) ← encodeMembers rest (offset + m.extent)
    return (localRecord m.raw m.content ++ locals, centralRecord m.raw m.content offset ++ centrals, last)

/-- `_encode_zip` -/
def encodeZip (files : Files) : Kit Bytes := do
  let members ← sortedMembers files
  let size := (members.map Member.central).sum
  kitRequire (members.length ≤ maxMembers && size ≤ maxCentral &&
    (members.map Member.extent).sum + size + endSize ≤ maxArchive)
    "Encoded archive would exceed a physical format limit"
  let (locals, centrals, offset) ← encodeMembers members 0
  return locals ++ centrals ++ endRecord members.length size offset

/-! ## Parsing -/

/-- What a central record says of its member. -/
structure Entry where
  name : String
  nameBytes : Bytes
  crc : ℕ
  size : ℕ
  localOffset : ℕ
  deriving DecidableEq

/-- One round of the loop over the central directory. -/
def readCentral (raw : Bytes) (centralEnd cursor aggregate : ℕ) (entries : List Entry) :
    Kit (Entry × ℕ × ℕ) := do
  kitRequire (cursor + centralSize ≤ centralEnd) "Truncated ZIP central directory"
  match unpackRecord centralWidths raw cursor with
  | (signature, [madeBy, needed, flags, compression, dosTime, date, crc, compressedSize, size, nameLength, extraLength,
      commentLength, diskStart, internal, external, localOffset]) => do
    kitRequire (signature = centralSignature && madeBy = unixVersion && needed = version && flags = 0 &&
      compression = 0 && dosTime = 0 && date = dosDate && extraLength = 0 && commentLength = 0 && diskStart = 0 &&
      internal = 0 && external = fileAttributes) "Unsupported ZIP entry flags, mode, metadata or compression"
    kitRequire (compressedSize = size && size ≤ maxMember && nameLength ≠ 0)
      "ZIP member size or stored encoding is invalid"
    let stop := cursor + centralSize + nameLength
    kitRequire (stop ≤ centralEnd) "ZIP member name exceeds the central directory"
    let nameBytes := slice raw (cursor + centralSize) stop
    match decodeAscii nameBytes with
    | none => .error "ZIP member path is not ASCII"
    | some name => do
      let _ ← pathBytes name
      kitRequire (name ∉ entries.map Entry.name && casefold name ∉ entries.map fun e => casefold e.name)
        "Duplicate or casefold-colliding ZIP member path"
      let aggregate := if name = manifestName then aggregate else aggregate + size
      kitRequire (name = manifestName || aggregate ≤ maxPayload) "ZIP aggregate payload exceeds the limit"
      return (⟨name, nameBytes, crc, size, localOffset⟩, stop, aggregate)
  | _ => .error "unpack_from requires a buffer"

/-- The loop over the central directory. -/
def readDirectory (raw : Bytes) (centralEnd : ℕ) : ℕ → ℕ → ℕ → List Entry → Kit (List Entry × ℕ)
  | 0, cursor, _, entries => .ok (entries, cursor)
  | count + 1, cursor, aggregate, entries => do
    let (entry, cursor, aggregate) ← readCentral raw centralEnd cursor aggregate entries
    readDirectory raw centralEnd count cursor aggregate (entries ++ [entry])

/-- One round of the loop over the members: the content of the next one, and where it ends. -/
def readLocal (raw : Bytes) (centralOffset cursor : ℕ) (entry : Entry) : Kit (Bytes × ℕ) := do
  kitRequire (entry.localOffset = cursor && cursor + localSize ≤ centralOffset)
    "ZIP members overlap, have gaps or refer outside their physical order"
  match unpackRecord localWidths raw cursor with
  | (signature, [needed, flags, compression, dosTime, date, localCrc, compressedSize, size, nameLength,
      extraLength]) => do
    kitRequire (signature = localSignature && needed = version && flags = 0 && compression = 0 && dosTime = 0 &&
      date = dosDate && localCrc = entry.crc && compressedSize = entry.size && size = entry.size &&
      nameLength = entry.nameBytes.length && extraLength = 0)
      "ZIP local header disagrees with its supported central entry"
    let nameStart := cursor + localSize
    let dataStart := nameStart + nameLength
    let stop := nameStart + nameLength + entry.size
    kitRequire (stop ≤ centralOffset && slice raw nameStart dataStart = entry.nameBytes)
      "ZIP member extent or local name does not match the central entry"
    let content := slice raw dataStart stop
    kitRequire (crc32 content = entry.crc) "ZIP member CRC mismatch"
    return (content, stop)
  | _ => .error "unpack_from requires a buffer"

/-- The loop over the members. -/
def readMembers (raw : Bytes) (centralOffset : ℕ) : List Entry → ℕ → Files → Kit (Files × ℕ)
  | [], cursor, files => .ok (files, cursor)
  | entry :: rest, cursor, files => do
    let (content, cursor) ← readLocal raw centralOffset cursor entry
    readMembers raw centralOffset rest cursor (files ++ [(entry.name, content)])

/-- `_parse_zip` -/
def parseZip (paths : List String) (raw : Bytes) : Kit Files := do
  kitRequire (endSize ≤ raw.length) "Truncated ZIP ending"
  match unpackRecord endWidths raw (raw.length - endSize) with
  | (signature, [disk, centralDisk, onDisk, count, size, centralOffset, comment]) => do
    kitRequire (signature = endSignature && disk = 0 && centralDisk = 0 && onDisk = count && 0 < count &&
      count ≤ maxMembers && comment = 0) "Unsupported ZIP ending, count, comment or multidisk format"
    kitRequire (0 < size && size ≤ maxCentral && centralOffset + size = raw.length - endSize &&
      localSize ≤ centralOffset) "ZIP central directory bounds or trailing data are invalid"
    let (entries, cursor) ← readDirectory raw (centralOffset + size) count centralOffset 0 []
    kitRequire (cursor = centralOffset + size && entries.map Entry.name = sortNames (entries.map Entry.name))
      "ZIP central directory has extra records or unsorted names"
    let expected ← inventory paths
    kitRequire ((entries.map Entry.name).toFinset = insert manifestName expected)
      "ZIP member inventory differs from the fixed public payload"
    let (files, cursor) ← readMembers raw centralOffset entries 0 []
    kitRequire (cursor = centralOffset) "ZIP data contains unreferenced or trailing bytes"
    return files
  | _ => .error "unpack_from requires a buffer"

/-! ## The manifest -/

section Manifest
variable (pk : Packages)

/-- `math.isfinite` of the bits of a float. -/
def finite (b : UInt64) : Bool := (b >>> 52) &&& 0x7ff ≠ 0x7ff

mutual
/-- `_bounded` -/
def bounded (depth : ℕ) : Json → Kit Unit
  | .arr xs => do
    kitRequire (depth ≤ 64) "JSON nesting exceeds the bounded contract"
    kitRequire (xs.length ≤ 10000) "JSON container exceeds the bounded contract"
    boundedElems (depth + 1) xs
  | .obj ms => do
    kitRequire (depth ≤ 64) "JSON nesting exceeds the bounded contract"
    kitRequire (ms.length ≤ 10000) "JSON container exceeds the bounded contract"
    boundedMembers (depth + 1) ms
  | .float b => do
    kitRequire (depth ≤ 64) "JSON nesting exceeds the bounded contract"
    kitRequire (finite b) "Non-finite JSON value"
  | _ => kitRequire (depth ≤ 64) "JSON nesting exceeds the bounded contract"
def boundedElems (depth : ℕ) : List Json → Kit Unit
  | [] => .ok ()
  | x :: xs => do bounded depth x; boundedElems depth xs
def boundedMembers (depth : ℕ) : List (String × Json) → Kit Unit
  | [] => .ok ()
  | (_, x) :: ms => do
    kitRequire (depth ≤ 64) "JSON nesting exceeds the bounded contract"
    bounded depth x
    boundedMembers depth ms
end

/-- `json_bytes`; every refusal on the way is one `KitError`. -/
def jsonBytes (value : Json) : Kit Bytes :=
  match bounded 0 value with
  | .error _ => .error "Unsupported manifest JSON value"
  | .ok _ => .ok (encodeUtf8 (dumps pk.floatRepr true value ++ ['\n']))

/-- `int` of a token, at most 4300 digits long. -/
def limitedInt (token : List Char) : Except String Json :=
  if (token.dropWhile (· = '-')).length ≤ 4300 then .ok (.int (intToken token))
  else .error "Exceeds the limit (4300 digits) for integer string conversion"

/-- The hooks of `strict_json`. -/
def kitHooks : Hooks where
  parseInt := limitedInt
  parseFloat t := .ok (.float (pk.floatOf t))
  parseConstant _ := .error "Non-finite JSON input"
  objectPairs := uniquePairs "Duplicate JSON object key"

/-- `strict_json` -/
def strictJson (raw : Bytes) : Kit Json := do
  kitRequire (raw.length ≤ maxJson) "Invalid or oversized JSON input"
  match decodeUtf8 raw with
  | none => .error "Invalid JSON input"
  | some s =>
    match loads (kitHooks pk) s with
    | .error _ => .error "Invalid JSON input"
    | .ok data =>
      match bounded 0 data with
      | .error _ => .error "Invalid JSON input"
      | .ok _ => .ok data

/-- `SCOPE` -/
def scope : Json :=
  dict [("operation", .str "OFFLINE_RECHECK_ONLY"), ("independent_reproduction", .str "NOT_ESTABLISHED"),
    ("actions_reexecuted", .bool false), ("conformance", .str "NOT_ASSESSED")]

/-- `_manifest` -/
def manifest (files : Files) : Json :=
  dict [("format", .str "incident-recheck-archive/0.1"), ("snapshot_id", .str snapshotId), ("scope", scope),
    ("entries", .arr ((sortNames files.names).map fun name =>
      dict [("path", .str name), ("sha256", .str (sha256Hex pk (files.content name))),
        ("byte_length", .int (files.content name).length)]))]

/-! ## Archives -/

structure BuildReport where
  archiveSha256 : String
  manifestSha256 : String
  fileCount : ℕ
  payloadBytes : ℕ
  deriving DecidableEq

/-- `build_archive` on the file at the destination: its report, and the file that it created. -/
def buildArchive (paths : List String) (destination : Option Bytes) (payload : Files) :
    Kit (BuildReport × Bytes) := do
  let total ← ownedPayload paths payload
  let manifestBytes ← jsonBytes pk (manifest pk payload)
  let archive ← encodeZip (payload ++ [(manifestName, manifestBytes)])
  match destination with
  | some _ => .error "Cannot exclusively create and finish the requested archive"
  | none => return (⟨sha256Hex pk archive, sha256Hex pk manifestBytes, payload.length, total⟩, archive)

/-- `_read_archive`, of a regular file that does not change. -/
def readArchive : Option Bytes → Kit Bytes
  | none => .error "Cannot safely read the requested regular archive"
  | some raw => do
    kitRequire (0 < raw.length && raw.length ≤ maxArchive)
      "Archive input must be a bounded nonempty regular file, not a symlink"
    return raw

structure Inspection where
  manifest : Json
  files : Files
  archiveSha256 : String
  manifestSha256 : String

/-- `inspect_archive` -/
def inspectArchive (paths : List String) (file : Option Bytes) (expectedSha256 : String) : Kit Inspection := do
  kitRequire (expectedSha256.length = 64 && expectedSha256.toList.all isLowerHex)
    "A separate lowercase SHA-256 digest is required"
  let raw ← readArchive file
  let actual := sha256Hex pk raw
  kitRequire (actual = expectedSha256) "Archive does not match the externally supplied SHA-256"
  let members ← parseZip paths raw
  let manifestBytes := members.content manifestName
  let rest := members.filter fun m => m.1 ≠ manifestName
  let value ← strictJson pk manifestBytes
  let expected ← jsonBytes pk (manifest pk rest)
  kitRequire (manifestBytes = expected)
    "Manifest schema, canonical encoding, inventory, digest or length does not match payload"
  return ⟨value, rest, actual, sha256Hex pk manifestBytes⟩

end Manifest
end VapEvidence.Recheck

import VapEvidence.JsonText

set_option autoImplicit false

/-!
# Bytes, text encodings and hexadecimal
-/
namespace VapEvidence

abbrev Bytes := List UInt8

/-! ## UTF-8 -/

def encodeUtf8 (s : List Char) : Bytes := s.flatMap String.utf8EncodeChar

def decodeUtf8 (b : Bytes) : Option (List Char) :=
  (ByteArray.utf8Decode? b.toByteArray).map Array.toList

theorem toByteArray_flatMap (s : List Char) :
    (s.flatMap String.utf8EncodeChar).toByteArray = s.utf8Encode := rfl

theorem decodeUtf8_encodeUtf8 (s : List Char) : decodeUtf8 (encodeUtf8 s) = some s := by
  rw [decodeUtf8, encodeUtf8, toByteArray_flatMap, List.utf8Decode?_utf8Encode]
  simp

theorem decodeUtf8_encodeChar (c : Char) (b : Bytes) :
    decodeUtf8 (String.utf8EncodeChar c ++ b) = (decodeUtf8 b).map (c :: ·) := by
  have h : (String.utf8EncodeChar c ++ b).toByteArray = [c].utf8Encode ++ b.toByteArray := by
    rw [List.toByteArray_append, ← toByteArray_flatMap, List.flatMap_singleton]
  rw [decodeUtf8, h, ByteArray.utf8Decode?_utf8Encode_singleton_append, decodeUtf8]
  cases b.toByteArray.utf8Decode? <;> simp

theorem encodeUtf8_injective : Function.Injective encodeUtf8 := by
  intro s t h
  have := congrArg decodeUtf8 h
  simpa [decodeUtf8_encodeUtf8] using this

theorem encodeUtf8_append (s t : List Char) : encodeUtf8 (s ++ t) = encodeUtf8 s ++ encodeUtf8 t := by
  simp [encodeUtf8]

theorem encodeUtf8_ascii (c : Char) (hc : c.toNat < 128) : String.utf8EncodeChar c = [c.toNat.toUInt8] := by
  have hs : c.utf8Size = 1 := by
    rw [Char.utf8Size_eq_one_iff]
    exact UInt32.le_iff_toNat_le.2 (by change c.toNat ≤ 127; omega)
  rw [String.utf8EncodeChar_eq_singleton hs]
  rfl

/-! ## The encodings `json.loads` accepts -/

inductive Encoding where
  | utf8 | utf8sig | utf16le | utf16be | utf32le | utf32be
  deriving DecidableEq

/-- `json.detect_encoding`, with the byte order of a mark already applied. -/
def detectEncoding (b : Bytes) : Encoding × Bytes :=
  if [0x00, 0x00, 0xfe, 0xff].isPrefixOf b then (.utf32be, b.drop 4)
  else if [0xff, 0xfe, 0x00, 0x00].isPrefixOf b then (.utf32le, b.drop 4)
  else if [0xfe, 0xff].isPrefixOf b then (.utf16be, b.drop 2)
  else if [0xff, 0xfe].isPrefixOf b then (.utf16le, b.drop 2)
  else if [0xef, 0xbb, 0xbf].isPrefixOf b then (.utf8sig, b.drop 3)
  else match b with
    | b₀ :: b₁ :: b₂ :: b₃ :: _ =>
      if b₀ = 0 then (if b₁ ≠ 0 then .utf16be else .utf32be, b)
      else if b₁ = 0 then (if b₂ ≠ 0 ∨ b₃ ≠ 0 then .utf16le else .utf32le, b)
      else (.utf8, b)
    | [b₀, b₁] =>
      if b₀ = 0 then (.utf16be, b)
      else if b₁ = 0 then (.utf16le, b)
      else (.utf8, b)
    | _ => (.utf8, b)

/-- A code point as a character; a surrogate is none. -/
def scalar? (n : ℕ) : Option Char :=
  if n < 55296 ∨ (57343 < n ∧ n < 1114112) then some (Char.ofNat n) else none

def decodeUtf32 (little : Bool) : Bytes → Option (List Char)
  | [] => some []
  | a :: b :: c :: d :: r => do
    let n := if little then ((d.toNat * 256 + c.toNat) * 256 + b.toNat) * 256 + a.toNat
      else ((a.toNat * 256 + b.toNat) * 256 + c.toNat) * 256 + d.toNat
    return (← scalar? n) :: (← decodeUtf32 little r)
  | _ => none

def unit16 (little : Bool) (a b : UInt8) : ℕ :=
  if little then b.toNat * 256 + a.toNat else a.toNat * 256 + b.toNat

def decodeUtf16 (little : Bool) : Bytes → Option (List Char)
  | [] => some []
  | a :: b :: c :: d :: r =>
    match unitChar (unit16 little a b) with
    | some ch => (decodeUtf16 little (c :: d :: r)).map (ch :: ·)
    | none =>
      match pairChar (unit16 little a b) (unit16 little c d) with
      | some ch => (decodeUtf16 little r).map (ch :: ·)
      | none => none
  | [a, b] => (unitChar (unit16 little a b)).map fun ch => [ch]
  | _ => none

/-- The text `json.loads` reads out of bytes. A text with a lone surrogate has no value here. -/
def decodeText (b : Bytes) : Option (List Char) :=
  match detectEncoding b with
  | (.utf8, r) => decodeUtf8 r
  | (.utf8sig, r) => decodeUtf8 r
  | (.utf16le, r) => decodeUtf16 true r
  | (.utf16be, r) => decodeUtf16 false r
  | (.utf32le, r) => decodeUtf32 true r
  | (.utf32be, r) => decodeUtf32 false r

/-- Bytes that start with a printable ASCII character and hold no zero byte are UTF-8. -/
theorem detectEncoding_plain (a : UInt8) (b : Bytes) (ha : a < 128) (h0 : a ≠ 0)
    (h : ∀ x ∈ b, x ≠ 0) : detectEncoding (a :: b) = (.utf8, a :: b) := by
  have h1 : a ≠ 0xff := by rintro rfl; exact absurd ha (by decide)
  have h2 : a ≠ 0xfe := by rintro rfl; exact absurd ha (by decide)
  have h3 : a ≠ 0xef := by rintro rfl; exact absurd ha (by decide)
  have mark {x : UInt8} {xs : Bytes} (hx : a ≠ x) : ¬ (x :: xs).isPrefixOf (a :: b) = true := by
    simp [List.isPrefixOf, Ne.symm hx]
  unfold detectEncoding
  rw [if_neg (mark h0), if_neg (mark h1), if_neg (mark h2), if_neg (mark h1), if_neg (mark h3)]
  split
  · next heq =>
    cases heq
    rw [if_neg h0, if_neg (h _ List.mem_cons_self)]
  · next heq =>
    cases heq
    rw [if_neg h0, if_neg (h _ List.mem_cons_self)]
  · rfl

/-! ## Hexadecimal -/

def hexByte (b : UInt8) : List Char := [hexDigit (b.toNat / 16), hexDigit (b.toNat % 16)]

/-- `bytes.hex()`. -/
def hex (b : Bytes) : String := String.ofList (b.flatMap hexByte)

def lowerHexValue (c : Char) : Option ℕ :=
  if '0' ≤ c ∧ c ≤ '9' then some (c.toNat - 48)
  else if 'a' ≤ c ∧ c ≤ 'f' then some (c.toNat - 87)
  else none

def unhexChars : List Char → Option Bytes
  | [] => some []
  | a :: b :: s => do
    return (((← lowerHexValue a) * 16 + (← lowerHexValue b)).toUInt8) :: (← unhexChars s)
  | _ => none

/-- `bytes.fromhex` behind a check for lowercase digits in pairs. -/
def unhex (s : String) : Option Bytes := unhexChars s.toList

theorem lowerHexValue_hexDigit : ∀ n < 16, lowerHexValue (hexDigit n) = some n := by decide

theorem unhexChars_hexByte (b : UInt8) (s : List Char) :
    unhexChars (hexByte b ++ s) = (unhexChars s).map (b :: ·) := by
  have hb := b.toNat_lt
  simp only [hexByte, List.cons_append, List.nil_append, unhexChars,
    lowerHexValue_hexDigit _ (show b.toNat / 16 < 16 by omega),
    lowerHexValue_hexDigit _ (show b.toNat % 16 < 16 by omega)]
  have he : (b.toNat / 16 * 16 + b.toNat % 16).toUInt8 = b := by
    rw [show b.toNat / 16 * 16 + b.toNat % 16 = b.toNat by omega]
    simp
  cases unhexChars s with
  | none => rfl
  | some t => exact congrArg (fun x => some (x :: t)) he

@[simp] theorem unhex_hex (b : Bytes) : unhex (hex b) = some b := by
  rw [unhex, hex, String.toList_ofList]
  induction b with
  | nil => rfl
  | cons b bs ih => simp [List.flatMap_cons, unhexChars_hexByte, ih]

theorem hex_injective : Function.Injective hex := by
  intro a b h
  have := congrArg unhex h
  simpa using this

@[simp] theorem hex_length (b : Bytes) : (hex b).length = 2 * b.length := by
  rw [hex, String.length_ofList]
  induction b with
  | nil => rfl
  | cons b bs ih => rw [List.flatMap_cons, List.length_append, ih]; simp [hexByte]; omega

theorem hexDigit_lowerHexValue {c : Char} {n : ℕ} (h : lowerHexValue c = some n) :
    n < 16 ∧ hexDigit n = c := by
  unfold lowerHexValue at h
  split_ifs at h with h0 h1
  · have ha : 48 ≤ c.toNat := h0.1
    have hb : c.toNat ≤ 57 := h0.2
    cases h
    rw [hexDigit, if_pos (by omega), show 48 + (c.toNat - 48) = c.toNat by omega]
    exact ⟨by omega, Char.ofNat_toNat c⟩
  · have ha : 97 ≤ c.toNat := h1.1
    have hb : c.toNat ≤ 102 := h1.2
    cases h
    rw [hexDigit, if_neg (by omega), show 87 + (c.toNat - 87) = c.toNat by omega]
    exact ⟨by omega, Char.ofNat_toNat c⟩

theorem flatMap_of_unhexChars : ∀ {s : List Char} {b : Bytes}, unhexChars s = some b →
    b.flatMap hexByte = s
  | [], b, h => by cases h; rfl
  | [_], b, h => by simp [unhexChars] at h
  | x :: y :: s, b, h => by
    simp only [unhexChars, Option.bind_eq_bind, Option.pure_def, Option.bind_eq_some_iff,
      Option.some.injEq] at h
    obtain ⟨m, hm, n, hn, t, ht, rfl⟩ := h
    obtain ⟨hm16, hx⟩ := hexDigit_lowerHexValue hm
    obtain ⟨hn16, hy⟩ := hexDigit_lowerHexValue hn
    have hv : (m * 16 + n).toUInt8.toNat = m * 16 + n := by
      simp only [Nat.toUInt8, UInt8.toNat_ofNat']
      omega
    rw [List.flatMap_cons, flatMap_of_unhexChars ht, hexByte, hv,
      show (m * 16 + n) / 16 = m by omega, show (m * 16 + n) % 16 = n by omega, hx, hy]
    rfl

/-- `bytes.fromhex(value).hex() == value` for lowercase digits. -/
theorem hex_of_unhex {s : String} {b : Bytes} (h : unhex s = some b) : hex b = s := by
  rw [hex, flatMap_of_unhexChars h, String.ofList_toList]

end VapEvidence

import VapEvidence.Bytes
import VapEvidence.Fallible

set_option autoImplicit false

/-!
# Form-encoded queries

`urlencode` and `parse_qs` of Python: names and values are written in UTF-8 with percent
escapes, and a query that was written so is read back field by field.
-/
namespace VapEvidence.UrlEncoded

/-! ## Text with replacement characters -/

/-- The bytes that a character with the given first byte takes; none starts with a byte of width 0. -/
def width (lead : UInt8) : ℕ :=
  if lead < 0x80 then 1
  else if 0xc2 ≤ lead && lead ≤ 0xdf then 2
  else if 0xe0 ≤ lead && lead ≤ 0xef then 3
  else if 0xf0 ≤ lead && lead ≤ 0xf4 then 4
  else 0

def isContinuation (b : UInt8) : Bool := 0x80 ≤ b && b ≤ 0xbf

/-- The second bytes that may follow a first byte. -/
def mayFollow (lead second : UInt8) : Bool :=
  isContinuation second && (lead ≠ 0xe0 || 0xa0 ≤ second) && (lead ≠ 0xed || second ≤ 0x9f) &&
    (lead ≠ 0xf0 || 0x90 ≤ second) && (lead ≠ 0xf4 || second ≤ 0x8f)

/-- The length of the longest start of a character at the front. -/
def stretch : Bytes → ℕ
  | lead :: second :: rest =>
    if 2 ≤ width lead && mayFollow lead second then
      2 + ((rest.take (width lead - 2)).takeWhile isContinuation).length
    else 1
  | rest => rest.length

/-- What cannot be read becomes U+FFFD, stretch by stretch; `fuel` bounds the stretches. -/
def decodeStretches : ℕ → Bytes → List Char
  | 0, _ => []
  | _, [] => []
  | fuel + 1, raw =>
    let n := stretch raw
    (match decodeUtf8 (raw.take n) with
      | some s => s
      | none => [Char.ofNat 0xfffd]) ++ decodeStretches fuel (raw.drop n)

/-- `raw.decode("utf-8", errors="replace")` -/
def decodeReplace (raw : Bytes) : List Char :=
  match decodeUtf8 raw with
  | some s => s
  | none => decodeStretches raw.length raw

/-! ## Reading -/

def hexValue (c : Char) : Option ℕ :=
  if '0' ≤ c && c ≤ '9' then some (c.toNat - 48)
  else if 'a' ≤ c && c ≤ 'f' then some (c.toNat - 87)
  else if 'A' ≤ c && c ≤ 'F' then some (c.toNat - 55)
  else none

/-- `unquote_to_bytes` on ASCII characters -/
def unescape : List Char → Bytes
  | '%' :: a :: b :: s =>
    match hexValue a, hexValue b with
    | some x, some y => (x * 16 + y).toUInt8 :: unescape s
    | _, _ => 0x25 :: unescape (a :: b :: s)
  | c :: s => c.toNat.toUInt8 :: unescape s
  | [] => []

/-- The parts of a text for `unquote`; `pending` are the ASCII characters since the last other one. -/
def unquoteParts (pending : List Char) : List Char → List Char
  | [] => decodeReplace (unescape pending)
  | c :: s =>
    if c.toNat < 128 then unquoteParts (pending ++ [c]) s
    else decodeReplace (unescape pending) ++ c :: unquoteParts [] s

/-- `unquote` -/
def unquote (s : List Char) : List Char := if s.contains '%' then unquoteParts [] s else s

def plusToSpace (s : List Char) : List Char := s.map fun c => if c = '+' then ' ' else c

/-- A field of a query: its name and its value. -/
def field (s : List Char) : Except String (String × String) :=
  if s.contains '=' then
    let name := s.takeWhile (· ≠ '=')
    let value := (s.dropWhile (· ≠ '=')).drop 1
    .ok (String.ofList (unquote (plusToSpace name)), String.ofList (unquote (plusToSpace value)))
  else .error "bad query field"

/-- The values of one name after the other, names in the order in which they come first. -/
def collect : List (String × String) → List (String × List String)
  | [] => []
  | (k, v) :: fields =>
    (k, v :: (fields.filter fun f => f.1 = k).map Prod.snd) :: (collect fields).filter fun f => f.1 ≠ k

/-- `parse_qs` with blank values, strict parsing and at most `limit` fields -/
def parseQs (limit : ℕ) (query : List Char) : Except String (List (String × List String)) :=
  if query.isEmpty then .ok []
  else if limit < query.count '&' + 1 then .error "Max number of fields exceeded"
  else do
    let fields ← (query.splitOn '&').mapM field
    return collect fields

/-! ## Writing -/

def hexDigit (n : ℕ) : Char := if n < 10 then Char.ofNat (48 + n) else Char.ofNat (55 + n)

def isSafe (b : UInt8) : Bool :=
  (0x30 ≤ b && b ≤ 0x39) || (0x41 ≤ b && b ≤ 0x5a) || (0x61 ≤ b && b ≤ 0x7a) || b = 0x5f || b = 0x2e || b = 0x2d || b = 0x7e

def quoteByte (b : UInt8) : List Char :=
  if isSafe b then [Char.ofNat b.toNat]
  else if b = 0x20 then ['+']
  else ['%', hexDigit (b.toNat / 16), hexDigit (b.toNat % 16)]

/-- `quote_plus` -/
def quotePlus (s : String) : List Char := (encodeUtf8 s.toList).flatMap quoteByte

/-- `urlencode` -/
def urlencode (fields : List (String × String)) : List Char :=
  ['&'].intercalate (fields.map fun f => quotePlus f.1 ++ '=' :: quotePlus f.2)

/-! ## Reading what was written -/

theorem quoteByte_spec : ∀ n < 256, (quoteByte n.toUInt8).all (fun c => c.toNat < 128 && c ≠ '&' && c ≠ '=' && c ≠ '#') = true := by
  decide +kernel

/-- A quoted byte is its own character, apart from the sign for a space, or an escape. -/
theorem plusToSpace_quoteByte_spec : ∀ n < 256,
    (plusToSpace (quoteByte n.toUInt8) = [Char.ofNat n] ∧ n < 128 ∧ n ≠ 37) ∨
      plusToSpace (quoteByte n.toUInt8) = ['%', hexDigit (n / 16), hexDigit (n % 16)] := by
  decide +kernel

theorem hexValue_hexDigit : ∀ n < 16, hexValue (hexDigit n) = some n := by
  decide +kernel

theorem ofNat_ascii : ∀ n < 128, (Char.ofNat n).toNat = n := by
  decide +kernel

theorem toUInt8_toNat (b : UInt8) : b.toNat.toUInt8 = b := by
  simp

theorem mem_quotePlus {s : String} {c : Char} (h : c ∈ quotePlus s) :
    c.toNat < 128 ∧ c ≠ '&' ∧ c ≠ '=' ∧ c ≠ '#' := by
  obtain ⟨b, -, hc⟩ := List.mem_flatMap.1 h
  have hspec := quoteByte_spec b.toNat b.toNat_lt
  rw [toUInt8_toNat, List.all_eq_true] at hspec
  have hc := hspec c hc
  simp only [Bool.and_eq_true, decide_eq_true_eq, and_assoc] at hc
  exact hc

theorem unescape_cons {c : Char} (h : c ≠ '%') (s : List Char) : unescape (c :: s) = c.toNat.toUInt8 :: unescape s := by
  rw [unescape]
  rintro a b t rfl -
  exact h rfl

/-- Reading undoes the quoting of one byte. -/
theorem unescape_quoteByte (b : UInt8) (s : List Char) :
    unescape (plusToSpace (quoteByte b) ++ s) = b :: unescape s := by
  have hb := b.toNat_lt
  rcases plusToSpace_quoteByte_spec b.toNat hb with ⟨hsame, hascii, hne⟩ | hescape
  · rw [toUInt8_toNat] at hsame
    have hnat := ofNat_ascii b.toNat hascii
    rw [hsame, List.singleton_append, unescape_cons (fun h => hne (by rw [← hnat, h]; rfl)), hnat, toUInt8_toNat]
  · rw [toUInt8_toNat] at hescape
    have hparts : b.toNat / 16 * 16 + b.toNat % 16 = b.toNat := by omega
    rw [hescape, List.cons_append, List.cons_append, List.cons_append, List.nil_append, unescape,
      hexValue_hexDigit (b.toNat / 16) (by omega), hexValue_hexDigit (b.toNat % 16) (by omega)]
    dsimp only
    rw [hparts, toUInt8_toNat]

theorem unescape_quotePlus (s : String) : unescape (plusToSpace (quotePlus s)) = encodeUtf8 s.toList := by
  unfold quotePlus
  generalize encodeUtf8 s.toList = raw
  induction raw with
  | nil => rfl
  | cons b raw ih =>
    have hsplit : plusToSpace ((b :: raw).flatMap quoteByte) =
        plusToSpace (quoteByte b) ++ plusToSpace (raw.flatMap quoteByte) := by
      simp only [plusToSpace, List.flatMap_cons, List.map_append]
    rw [hsplit, unescape_quoteByte, ih]

theorem decodeReplace_encodeUtf8 (s : List Char) : decodeReplace (encodeUtf8 s) = s := by
  rw [decodeReplace, decodeUtf8_encodeUtf8]

/-- ASCII text without escapes says itself. -/
theorem unescape_plain {s : List Char} (h : ∀ c ∈ s, c.toNat < 128) (hp : '%' ∉ s) : unescape s = encodeUtf8 s := by
  induction s with
  | nil => rfl
  | cons c s ih =>
    rw [List.mem_cons, not_or] at hp
    have hc := h c List.mem_cons_self
    rw [unescape_cons (fun he => hp.1 he.symm), ih (fun d hd => h d (List.mem_cons_of_mem _ hd)) hp.2]
    rw [encodeUtf8, encodeUtf8, List.flatMap_cons, encodeUtf8_ascii c hc, List.singleton_append]

theorem unquoteParts_ascii {s : List Char} (h : ∀ c ∈ s, c.toNat < 128) (pending : List Char) :
    unquoteParts pending s = decodeReplace (unescape (pending ++ s)) := by
  induction s generalizing pending with
  | nil => rw [unquoteParts, List.append_nil]
  | cons c s ih =>
    rw [unquoteParts, if_pos (h c List.mem_cons_self), ih (fun d hd => h d (List.mem_cons_of_mem _ hd)),
      List.append_assoc, List.singleton_append]

theorem unquote_ascii {s : List Char} (h : ∀ c ∈ s, c.toNat < 128) : unquote s = decodeReplace (unescape s) := by
  unfold unquote
  split_ifs with hp
  · exact unquoteParts_ascii h []
  · rw [List.contains_eq_mem, decide_eq_true_eq] at hp
    rw [unescape_plain h hp, decodeReplace_encodeUtf8]

/-- Reading undoes the quoting of a text. -/
theorem unquote_quotePlus (s : String) : String.ofList (unquote (plusToSpace (quotePlus s))) = s := by
  have hascii : ∀ c ∈ plusToSpace (quotePlus s), c.toNat < 128 := by
    intro c hc
    obtain ⟨d, hd, rfl⟩ := List.mem_map.1 hc
    split_ifs
    · decide
    · exact (mem_quotePlus hd).1
  rw [unquote_ascii hascii, unescape_quotePlus, decodeReplace_encodeUtf8, String.ofList_toList]

theorem field_written (k v : String) : field (quotePlus k ++ '=' :: quotePlus v) = .ok (k, v) := by
  have hname : ∀ c ∈ quotePlus k, decide (c ≠ '=') = true := fun c hc => decide_eq_true (mem_quotePlus hc).2.2.1
  unfold field
  rw [if_pos (by simp)]
  simp only [List.takeWhile_append_of_pos hname, List.dropWhile_append_of_pos hname, List.takeWhile_cons,
    List.dropWhile_cons, ne_eq, not_true_eq_false, decide_false, Bool.false_eq_true, if_false, List.append_nil,
    List.drop_one, List.tail_cons, unquote_quotePlus]

theorem collect_distinct {fields : List (String × String)} (h : (fields.map Prod.fst).Nodup) :
    collect fields = fields.map fun f => (f.1, [f.2]) := by
  induction fields with
  | nil => rfl
  | cons f fields ih =>
    obtain ⟨k, v⟩ := f
    rw [List.map_cons, List.nodup_cons] at h
    have hne : ∀ f ∈ fields, f.1 ≠ k := fun f hf he => h.1 (List.mem_map.2 ⟨f, hf, he⟩)
    have hnone : fields.filter (fun f => f.1 = k) = [] := by
      rw [List.filter_eq_nil_iff]
      intro f hf
      simpa using hne f hf
    have hall : ((fields.map fun f => (f.1, [f.2])).filter fun f => f.1 ≠ k) = fields.map fun f => (f.1, [f.2]) := by
      rw [List.filter_eq_self]
      intro f hf
      obtain ⟨g, hg, rfl⟩ := List.mem_map.1 hf
      simpa using hne g hg
    rw [collect, ih h.2, hnone, hall]
    rfl

theorem not_mem_intercalate {c d : Char} (hd : c ≠ d) {parts : List (List Char)} (h : ∀ part ∈ parts, c ∉ part) :
    c ∉ [d].intercalate parts := by
  induction parts with
  | nil => exact List.not_mem_nil
  | cons part parts ih =>
    have hrest := ih fun p hp => h p (List.mem_cons_of_mem _ hp)
    cases parts with
    | nil =>
      rw [List.intercalate_singleton]
      exact h part List.mem_cons_self
    | cons next parts =>
      rw [List.intercalate_cons_cons, List.mem_append, List.mem_append, List.mem_singleton, not_or, not_or]
      exact ⟨⟨h part List.mem_cons_self, hd⟩, hrest⟩

/-- A query that was written has no fragment in it. -/
theorem not_mem_urlencode (fields : List (String × String)) : '#' ∉ urlencode fields := by
  refine not_mem_intercalate (by decide) fun part hpart => ?_
  obtain ⟨f, -, rfl⟩ := List.mem_map.1 hpart
  rw [List.mem_append, List.mem_cons, not_or, not_or]
  exact ⟨fun hm => (mem_quotePlus hm).2.2.2 rfl, by decide, fun hm => (mem_quotePlus hm).2.2.2 rfl⟩

theorem length_splitOn (s : List Char) (c : Char) : (s.splitOn c).length = s.count c + 1 := by
  induction s with
  | nil => rfl
  | cons d s ih =>
    rw [List.splitOn_cons_eq_if_modifyHead, List.count_cons]
    split_ifs
    · rw [List.length_cons, ih]
    · rw [List.length_modifyHead, ih]

/-- A query that was written is read back field by field. -/
theorem parseQs_urlencode {fields : List (String × String)} {limit : ℕ} (hne : fields ≠ [])
    (hlimit : fields.length ≤ limit) (hdistinct : (fields.map Prod.fst).Nodup) :
    parseQs limit (urlencode fields) = .ok (fields.map fun f => (f.1, [f.2])) := by
  have hparts : (urlencode fields).splitOn '&' = fields.map fun f => quotePlus f.1 ++ '=' :: quotePlus f.2 := by
    refine List.splitOn_intercalate '&' ?_ (by simpa using hne)
    intro part hpart
    obtain ⟨f, -, rfl⟩ := List.mem_map.1 hpart
    rw [List.mem_append, List.mem_cons, not_or, not_or]
    exact ⟨fun hm => (mem_quotePlus hm).2.1 rfl, by decide, fun hm => (mem_quotePlus hm).2.1 rfl⟩
  have hcount := length_splitOn (urlencode fields) '&'
  rw [hparts, List.length_map] at hcount
  have hempty : (urlencode fields).isEmpty = false := by
    cases he : urlencode fields with
    | nil =>
      rw [he, List.splitOn_nil] at hparts
      cases fields with
      | nil => exact absurd rfl hne
      | cons f rest =>
        have hhead := congrArg List.head? hparts
        simp at hhead
    | cons => rfl
  have hfields : (fields.map fun f => quotePlus f.1 ++ '=' :: quotePlus f.2).mapM field = .ok fields := by
    refine mapM_eq (List.forall₂_map_left_iff.2 (List.forall₂_same.2 fun f _ => ?_))
    exact field_written f.1 f.2
  unfold parseQs
  rw [hempty, if_neg Bool.false_ne_true, if_neg (by omega), hparts, hfields]
  exact congrArg Except.ok (collect_distinct hdistinct)

end VapEvidence.UrlEncoded

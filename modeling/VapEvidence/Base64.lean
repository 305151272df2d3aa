import VapEvidence.Bytes

set_option autoImplicit false

/-!
# Base64

The standard alphabet with padding. Two decoders read it: a strict one, and one
that also takes the URL alphabet and skips what it does not know. Both undo the
encoder, so a text that re-encodes to itself means the same to both.
-/
namespace VapEvidence.Base64

def encodeDigit (n : ℕ) : Char :=
  if n < 26 then Char.ofNat (65 + n)
  else if n < 52 then Char.ofNat (71 + n)
  else if n < 62 then Char.ofNat (n - 4)
  else if n = 62 then '+'
  else '/'

def decodeDigit (c : Char) : Option ℕ :=
  if 'A' ≤ c ∧ c ≤ 'Z' then some (c.toNat - 65)
  else if 'a' ≤ c ∧ c ≤ 'z' then some (c.toNat - 71)
  else if '0' ≤ c ∧ c ≤ '9' then some (c.toNat + 4)
  else if c = '+' then some 62
  else if c = '/' then some 63
  else none

/-- The digit in either alphabet. -/
def looseDigit (c : Char) : Option ℕ :=
  if c = '-' then some 62 else if c = '_' then some 63 else decodeDigit c

/-- The six-bit groups of the bytes, the last one filled with zero bits. -/
def sextets : Bytes → List ℕ
  | [] => []
  | [a] => [a.toNat / 4, a.toNat % 4 * 16]
  | [a, b] => [a.toNat / 4, a.toNat % 4 * 16 + b.toNat / 16, b.toNat % 16 * 4]
  | a :: b :: c :: r =>
    a.toNat / 4 :: (a.toNat % 4 * 16 + b.toNat / 16) :: (b.toNat % 16 * 4 + c.toNat / 64) ::
      c.toNat % 64 :: sextets r

/-- The whole bytes in a list of six-bit groups; bits left over are dropped. -/
def regroup : List ℕ → Bytes
  | a :: b :: c :: d :: r =>
    (a * 4 + b / 16).toUInt8 :: (b % 16 * 16 + c / 4).toUInt8 :: (c % 4 * 64 + d).toUInt8 :: regroup r
  | [a, b, c] => [(a * 4 + b / 16).toUInt8, (b % 16 * 16 + c / 4).toUInt8]
  | [a, b] => [(a * 4 + b / 16).toUInt8]
  | _ => []

def padding (n : ℕ) : List Char := List.replicate ((4 - n % 4) % 4) '='

def encode (b : Bytes) : List Char :=
  (sextets b).map encodeDigit ++ padding (sextets b).length

/-- Only the alphabet, then exactly the padding that completes the last group. -/
def decodeStrict (s : List Char) : Option Bytes :=
  let body := s.takeWhile (· ≠ '=')
  if s.drop body.length = padding body.length ∧ body.length % 4 ≠ 1 then
    (body.mapM decodeDigit).map regroup
  else none

/-- Everything up to the first padding character, unknown characters left out. -/
def decodeLoose (s : List Char) : Bytes := regroup ((s.takeWhile (· ≠ '=')).filterMap looseDigit)

theorem decodeDigit_encodeDigit : ∀ n < 64, decodeDigit (encodeDigit n) = some n := by decide

theorem looseDigit_encodeDigit : ∀ n < 64, looseDigit (encodeDigit n) = some n := by decide

theorem encodeDigit_ne_pad : ∀ n < 64, encodeDigit n ≠ '=' := by decide

theorem sextets_lt : ∀ (b : Bytes), ∀ n ∈ sextets b, n < 64
  | [], n, h => by cases h
  | [a], n, h => by
    have ha := a.toNat_lt
    simp only [sextets, List.mem_cons, List.not_mem_nil, or_false] at h
    omega
  | [a, b], n, h => by
    have ha := a.toNat_lt
    have hb := b.toNat_lt
    simp only [sextets, List.mem_cons, List.not_mem_nil, or_false] at h
    omega
  | a :: b :: c :: r, n, h => by
    have ha := a.toNat_lt
    have hb := b.toNat_lt
    have hc := c.toNat_lt
    simp only [sextets, List.mem_cons] at h
    rcases h with h | h | h | h | h
    · omega
    · omega
    · omega
    · omega
    · exact sextets_lt r n h

theorem sextets_length : ∀ (b : Bytes), (sextets b).length % 4 ≠ 1
  | [] => by simp [sextets]
  | [_] => by simp [sextets]
  | [_, _] => by simp [sextets]
  | a :: b :: c :: r => by
    have := sextets_length r
    simp only [sextets, List.length_cons]
    omega

theorem toUInt8_eq {n : ℕ} {b : UInt8} (h : n = b.toNat) : n.toUInt8 = b := by
  rw [h]
  simp

theorem regroup_sextets : ∀ (b : Bytes), regroup (sextets b) = b
  | [] => rfl
  | [a] => by
    have ha := a.toNat_lt
    simp only [sextets, regroup]
    rw [toUInt8_eq (b := a) (by omega)]
  | [a, b] => by
    have ha := a.toNat_lt
    have hb := b.toNat_lt
    simp only [sextets, regroup]
    rw [toUInt8_eq (b := a) (by omega), toUInt8_eq (b := b) (by omega)]
  | a :: b :: c :: r => by
    have ha := a.toNat_lt
    have hb := b.toNat_lt
    have hc := c.toNat_lt
    simp only [sextets, regroup]
    rw [toUInt8_eq (b := a) (by omega), toUInt8_eq (b := b) (by omega),
      toUInt8_eq (b := c) (by omega), regroup_sextets r]

theorem takeWhile_encode (b : Bytes) :
    (encode b).takeWhile (· ≠ '=') = (sextets b).map encodeDigit := by
  have hd : ∀ c ∈ (sextets b).map encodeDigit, decide (c ≠ '=') = true := by
    intro c hc
    obtain ⟨n, hn, rfl⟩ := List.mem_map.1 hc
    simpa using encodeDigit_ne_pad n (sextets_lt b n hn)
  rw [encode, List.takeWhile_append_of_pos hd, padding]
  cases (4 - (sextets b).length % 4) % 4 <;> simp [List.replicate_succ]

/-- A decoder of digits that undoes `encodeDigit` undoes it along a list. -/
theorem filterMap_encodeDigit (f : Char → Option ℕ) (hf : ∀ n < 64, f (encodeDigit n) = some n)
    (ns : List ℕ) (h : ∀ n ∈ ns, n < 64) : (ns.map encodeDigit).filterMap f = ns := by
  induction ns with
  | nil => rfl
  | cons n ns ih =>
    rw [List.map_cons, List.filterMap_cons, hf n (h n (by simp))]
    simp only [ih fun m hm => h m (List.mem_cons_of_mem _ hm)]

theorem mapM_encodeDigit (ns : List ℕ) (h : ∀ n ∈ ns, n < 64) :
    (ns.map encodeDigit).mapM decodeDigit = some ns := by
  induction ns with
  | nil => rfl
  | cons n ns ih =>
    rw [List.map_cons, List.mapM_cons, decodeDigit_encodeDigit n (h n (by simp)),
      ih fun m hm => h m (List.mem_cons_of_mem _ hm)]
    rfl

@[simp] theorem decodeLoose_encode (b : Bytes) : decodeLoose (encode b) = b := by
  rw [decodeLoose, takeWhile_encode,
    filterMap_encodeDigit looseDigit looseDigit_encodeDigit _ (sextets_lt b), regroup_sextets]

@[simp] theorem decodeStrict_encode (b : Bytes) : decodeStrict (encode b) = some b := by
  have hdrop : (encode b).drop ((sextets b).map encodeDigit).length = padding (sextets b).length := by
    rw [encode, List.drop_left]
  unfold decodeStrict
  simp only [takeWhile_encode]
  rw [if_pos ⟨by rw [hdrop, List.length_map], by rw [List.length_map]; exact sextets_length b⟩,
    mapM_encodeDigit _ (sextets_lt b)]
  exact congrArg some (regroup_sextets b)

theorem encode_injective : Function.Injective encode := by
  intro a b h
  have := congrArg decodeLoose h
  simpa using this

theorem encode_eq_nil {b : Bytes} (h : encode b = []) : b = [] := by
  have := congrArg decodeLoose h
  rw [decodeLoose_encode] at this
  exact this

end VapEvidence.Base64

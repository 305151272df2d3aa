import Mathlib.Algebra.Group.Int.Defs
import Mathlib.Algebra.GroupWithZero.Nat
import Mathlib.Data.Char
import Mathlib.Data.List.Lex
import Mathlib.Order.Lattice

set_option autoImplicit false

/-!
# Calendar times in text

Times of the form `YYYY-MM-DDThh:mm:ssZ`. A `DateTime` is a real calendar time;
comparing texts of the form character by character is comparing the times.
-/
namespace VapEvidence

def isLeap (year : ℕ) : Bool := year % 4 = 0 && (year % 100 ≠ 0 || year % 400 = 0)

def daysInMonth (year month : ℕ) : ℕ :=
  if month = 2 then if isLeap year then 29 else 28
  else if month = 4 ∨ month = 6 ∨ month = 9 ∨ month = 11 then 30
  else 31

/-- The ranges of `datetime`; a leap second is outside. -/
def RealTime (year month day hour minute second : ℕ) : Prop :=
  1 ≤ year ∧ 1 ≤ month ∧ month ≤ 12 ∧ 1 ≤ day ∧ day ≤ daysInMonth year month ∧
    hour ≤ 23 ∧ minute ≤ 59 ∧ second ≤ 59

instance (year month day hour minute second : ℕ) : Decidable (RealTime year month day hour minute second) :=
  inferInstanceAs (Decidable (_ ∧ _))

structure DateTime where
  year : ℕ
  month : ℕ
  day : ℕ
  hour : ℕ
  minute : ℕ
  second : ℕ
  real : RealTime year month day hour minute second

namespace DateTime

/-- The components in the order in which times compare. -/
def fields (t : DateTime) : List ℕ := [t.year, t.month, t.day, t.hour, t.minute, t.second]

theorem fields_injective : Function.Injective fields := by
  intro t u h
  obtain ⟨y, m, d, h₁, n, s, ht⟩ := t
  simp only [fields, List.cons.injEq, and_true] at h
  obtain ⟨rfl, rfl, rfl, rfl, rfl, rfl⟩ := h
  rfl

instance : LinearOrder DateTime := LinearOrder.lift' fields fields_injective

theorem le_iff (t u : DateTime) : t ≤ u ↔ t.fields ≤ u.fields := Iff.rfl

end DateTime

/-! ## Text of the form -/

/-- `dddd-dd-ddTdd:dd:ddZ` -/
def template : List Char :=
  List.replicate 4 'd' ++ '-' :: (List.replicate 2 'd' ++ '-' :: (List.replicate 2 'd' ++ 'T' ::
    (List.replicate 2 'd' ++ ':' :: (List.replicate 2 'd' ++ ':' :: (List.replicate 2 'd' ++ ['Z'])))))

/-- The text has a digit for each `d` of the template and the template's own characters elsewhere. -/
def fits : List Char → List Char → Bool
  | [], [] => true
  | t :: ts, c :: cs => (if t = 'd' then c.isDigit else c = t) && fits ts cs
  | _, _ => false

def number (digits : List Char) : ℕ := Nat.ofDigitChars 10 digits 0

/-- The numbers in a text of the form. -/
def timeFields (s : List Char) : List ℕ :=
  [number (s.take 4), number ((s.drop 5).take 2), number ((s.drop 8).take 2),
   number ((s.drop 11).take 2), number ((s.drop 14).take 2), number ((s.drop 17).take 2)]

/-- `datetime.strptime` behind a check of the form. -/
def strptime (s : List Char) : Option DateTime :=
  if fits template s then
    match timeFields s with
    | [year, month, day, hour, minute, second] =>
      if h : RealTime year month day hour minute second then
        some ⟨year, month, day, hour, minute, second, h⟩
      else none
    | _ => none
  else none

theorem strptime_some {s : List Char} {t : DateTime} (h : strptime s = some t) :
    fits template s = true ∧ t.fields = timeFields s := by
  unfold strptime timeFields at h
  split_ifs at h with hf
  dsimp only at h
  split_ifs at h
  cases h
  exact ⟨hf, rfl⟩

/-! ## The order of texts -/

theorem number_cons (c : Char) (cs : List Char) :
    number (c :: cs) = 10 ^ cs.length * (c.toNat - 48) + number cs := by
  rw [number, Nat.ofDigitChars_cons, Nat.ofDigitChars_eq_ofDigitChars_zero, Nat.mul_zero, Nat.zero_add]
  rfl

theorem number_lt {s : List Char} (h : ∀ c ∈ s, c.isDigit = true) : number s < 10 ^ s.length := by
  induction s with
  | nil => exact Nat.one_pos
  | cons c s ih =>
    have hs := ih fun d hd => h d (List.mem_cons_of_mem _ hd)
    have hc : c.toNat ≤ 57 := (Char.isDigit_iff_toNat.1 (h c (by simp))).2
    have hmul : 10 ^ s.length * (c.toNat - 48) ≤ 10 ^ s.length * 9 := Nat.mul_le_mul_left _ (by omega)
    rw [number_cons, List.length_cons, Nat.pow_succ]
    omega

/-- Digits of one length compare as their numbers. -/
theorem digits_lt_iff {s t : List Char} (hl : s.length = t.length) (hs : ∀ c ∈ s, c.isDigit = true)
    (ht : ∀ c ∈ t, c.isDigit = true) : (s < t ↔ number s < number t) ∧ (s = t ↔ number s = number t) := by
  induction s generalizing t with
  | nil =>
    obtain rfl := List.length_eq_zero_iff.1 hl.symm
    simp
  | cons c s ih =>
    cases t with
    | nil => cases hl
    | cons d t =>
      have hlen : s.length = t.length := by simpa using hl
      have hs' := fun x hx => hs x (List.mem_cons_of_mem _ hx)
      have ht' := fun x hx => ht x (List.mem_cons_of_mem _ hx)
      obtain ⟨ihlt, iheq⟩ := ih hlen hs' ht'
      have hsn := number_lt hs'
      have htn := number_lt ht'
      have hc : 48 ≤ c.toNat := (Char.isDigit_iff_toNat.1 (hs c (by simp))).1
      have hd : 48 ≤ d.toNat := (Char.isDigit_iff_toNat.1 (ht d (by simp))).1
      have hcd : c < d ↔ c.toNat < d.toNat := Iff.rfl
      have hceq : c = d ↔ c.toNat = d.toNat :=
        ⟨congrArg _, fun h => by rw [← Char.ofNat_toNat c, h, Char.ofNat_toNat]⟩
      have hstep {a b : ℕ} (hab : a < b) : 10 ^ t.length * a + 10 ^ t.length ≤ 10 ^ t.length * b := by
        rw [← Nat.mul_succ]
        exact Nat.mul_le_mul_left _ hab
      rw [hlen] at hsn
      rw [List.cons_lt_cons_iff, List.cons.injEq, number_cons, number_cons, hlen, ihlt, iheq, hcd, hceq]
      rcases lt_trichotomy c.toNat d.toNat with h | h | h
      · have := hstep (show c.toNat - 48 < d.toNat - 48 by omega)
        omega
      · rw [h]
        omega
      · have := hstep (show d.toNat - 48 < c.toNat - 48 by omega)
        omega

theorem append_lt_append_iff {α : Type} [LinearOrder α] {a a' b b' : List α} (h : a.length = a'.length) :
    a ++ b < a' ++ b' ↔ a < a' ∨ (a = a' ∧ b < b') := by
  induction a generalizing a' with
  | nil =>
    obtain rfl := List.length_eq_zero_iff.1 h.symm
    simp
  | cons x a ih =>
    cases a' with
    | nil => cases h
    | cons y a' =>
      simp only [List.cons_append, List.cons_lt_cons_iff, ih (by simpa using h), List.cons.injEq]
      tauto

/-- `n` digits. -/
def Digits (n : ℕ) (s : List Char) : Prop := s.length = n ∧ ∀ c ∈ s, c.isDigit = true

theorem fits_digits {n : ℕ} {ts s : List Char} (h : fits (List.replicate n 'd' ++ ts) s = true) :
    ∃ p r, s = p ++ r ∧ Digits n p ∧ fits ts r = true := by
  induction n generalizing s with
  | zero => exact ⟨[], s, rfl, ⟨rfl, by simp⟩, h⟩
  | succ n ih =>
    rw [List.replicate_succ, List.cons_append] at h
    cases s with
    | nil => simp [fits] at h
    | cons c s =>
      simp only [fits, if_true, Bool.and_eq_true] at h
      obtain ⟨p, r, rfl, ⟨hl, hp⟩, hr⟩ := ih h.2
      exact ⟨c :: p, r, rfl, ⟨congrArg Nat.succ hl, List.forall_mem_cons.2 ⟨h.1, hp⟩⟩, hr⟩

theorem fits_sep {t : Char} {ts s : List Char} (ht : t ≠ 'd') (h : fits (t :: ts) s = true) :
    ∃ r, s = t :: r ∧ fits ts r = true := by
  cases s with
  | nil => simp [fits] at h
  | cons c s =>
    simp only [fits, if_neg ht, Bool.and_eq_true, decide_eq_true_eq] at h
    exact ⟨s, by rw [h.1], h.2⟩

/-- A text of the form, cut at its separators. -/
structure Stamp (s y m d hh mm ss : List Char) : Prop where
  text : s = y ++ '-' :: (m ++ '-' :: (d ++ 'T' :: (hh ++ ':' :: (mm ++ ':' :: (ss ++ ['Z'])))))
  year : Digits 4 y
  month : Digits 2 m
  day : Digits 2 d
  hour : Digits 2 hh
  minute : Digits 2 mm
  second : Digits 2 ss

theorem fits_template {s : List Char} (h : fits template s = true) :
    ∃ y m d hh mm ss, Stamp s y m d hh mm ss := by
  rw [template] at h
  obtain ⟨y, s, rfl, hy, h⟩ := fits_digits h
  obtain ⟨s, rfl, h⟩ := fits_sep (by decide) h
  obtain ⟨m, s, rfl, hm, h⟩ := fits_digits h
  obtain ⟨s, rfl, h⟩ := fits_sep (by decide) h
  obtain ⟨d, s, rfl, hd, h⟩ := fits_digits h
  obtain ⟨s, rfl, h⟩ := fits_sep (by decide) h
  obtain ⟨hh, s, rfl, hhh, h⟩ := fits_digits h
  obtain ⟨s, rfl, h⟩ := fits_sep (by decide) h
  obtain ⟨mm, s, rfl, hmm, h⟩ := fits_digits h
  obtain ⟨s, rfl, h⟩ := fits_sep (by decide) h
  obtain ⟨ss, s, rfl, hss, h⟩ := fits_digits h
  obtain ⟨s, rfl, h⟩ := fits_sep (by decide) h
  cases s with
  | nil => exact ⟨y, m, d, hh, mm, ss, rfl, hy, hm, hd, hhh, hmm, hss⟩
  | cons c s => simp [fits] at h

theorem Stamp.timeFields {s y m d hh mm ss : List Char} (h : Stamp s y m d hh mm ss) :
    timeFields s = [number y, number m, number d, number hh, number mm, number ss] := by
  obtain ⟨rfl, ⟨hy, -⟩, ⟨hm, -⟩, ⟨hd, -⟩, ⟨hhh, -⟩, ⟨hmm, -⟩, ⟨hss, -⟩⟩ := h
  obtain ⟨y₀, y, rfl⟩ := List.exists_cons_of_length_eq_add_one hy
  obtain ⟨y₁, y₂, y₃, rfl⟩ := List.length_eq_three.1 (by simpa using hy)
  obtain ⟨_, _, rfl⟩ := List.length_eq_two.1 hm
  obtain ⟨_, _, rfl⟩ := List.length_eq_two.1 hd
  obtain ⟨_, _, rfl⟩ := List.length_eq_two.1 hhh
  obtain ⟨_, _, rfl⟩ := List.length_eq_two.1 hmm
  obtain ⟨_, _, rfl⟩ := List.length_eq_two.1 hss
  rfl

theorem group_lt {n : ℕ} {p p' r r' : List Char} {c : Char} (h : Digits n p) (h' : Digits n p') :
    p ++ c :: r < p' ++ c :: r' ↔ number p < number p' ∨ (number p = number p' ∧ r < r') := by
  have hd := digits_lt_iff (h.1.trans h'.1.symm) h.2 h'.2
  rw [append_lt_append_iff (h.1.trans h'.1.symm), hd.1, hd.2, List.cons_lt_cons_iff]
  simp

/-- Texts of the form compare as their numbers in turn. -/
theorem text_lt_iff {s t : List Char} (hs : fits template s = true) (ht : fits template t = true) :
    s < t ↔ timeFields s < timeFields t := by
  obtain ⟨y, m, d, hh, mm, ss, h⟩ := fits_template hs
  obtain ⟨y', m', d', hh', mm', ss', h'⟩ := fits_template ht
  rw [h.timeFields, h'.timeFields, h.text, h'.text, group_lt h.year h'.year, group_lt h.month h'.month,
    group_lt h.day h'.day, group_lt h.hour h'.hour, group_lt h.minute h'.minute, group_lt h.second h'.second]
  simp only [List.cons_lt_cons_iff, List.not_lt_nil]

theorem strptime_lt_iff {s t : List Char} {a b : DateTime} (ha : strptime s = some a)
    (hb : strptime t = some b) : a < b ↔ s < t := by
  obtain ⟨hs, hsf⟩ := strptime_some ha
  obtain ⟨ht, htf⟩ := strptime_some hb
  rw [text_lt_iff hs ht, ← hsf, ← htf]
  rfl

end VapEvidence

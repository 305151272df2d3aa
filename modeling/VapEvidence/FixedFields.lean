import Mathlib.Data.List.Basic
import Mathlib.Data.List.Forall2
import Mathlib.Tactic.Ring

set_option autoImplicit false

/-!
# Records of fixed-width fields

Little-endian numbers of given widths, laid end to end: what is packed unpacks, and
any bytes of the right length are the packing of what they unpack to.
-/
namespace VapEvidence.Fields

/-- The `w` low bytes of a number, lowest first. -/
def leBytes : ℕ → ℕ → List UInt8
  | 0, _ => []
  | w + 1, n => UInt8.ofNat n :: leBytes w (n / 256)

def leNat : List UInt8 → ℕ
  | [] => 0
  | b :: bs => b.toNat + 256 * leNat bs

@[simp] theorem length_leBytes (w n : ℕ) : (leBytes w n).length = w := by
  induction w generalizing n with
  | zero => rfl
  | succ w ih => rw [leBytes, List.length_cons, ih]

theorem leNat_leBytes {w n : ℕ} (h : n < 256 ^ w) : leNat (leBytes w n) = n := by
  induction w generalizing n with
  | zero =>
    rw [pow_zero] at h
    rw [leBytes, leNat]
    omega
  | succ w ih =>
    have hq : n / 256 < 256 ^ w := by
      rw [pow_succ] at h
      exact Nat.div_lt_of_lt_mul (by rwa [mul_comm])
    rw [leBytes, leNat, ih hq, UInt8.toNat_ofNat']
    omega

theorem leBytes_leNat (bs : List UInt8) : leBytes bs.length (leNat bs) = bs := by
  induction bs with
  | nil => rfl
  | cons b bs ih =>
    have hlt := b.toNat_lt
    have hb : UInt8.ofNat (b.toNat + 256 * leNat bs) = b := by
      apply UInt8.toNat_inj.1
      rw [UInt8.toNat_ofNat']
      omega
    have hq : (b.toNat + 256 * leNat bs) / 256 = leNat bs := by omega
    rw [List.length_cons, leNat, leBytes, hb, hq, ih]

/-- The fields of the given widths, in order. -/
def pack : List ℕ → List ℕ → List UInt8
  | w :: ws, n :: ns => leBytes w n ++ pack ws ns
  | _, _ => []

def unpack : List ℕ → List UInt8 → List ℕ
  | [], _ => []
  | w :: ws, bs => leNat (bs.take w) :: unpack ws (bs.drop w)

/-- Every value has a field that is wide enough. -/
def Fits : List ℕ → List ℕ → Prop := List.Forall₂ fun w n => n < 256 ^ w

theorem length_pack {ws ns : List ℕ} (h : ns.length = ws.length) : (pack ws ns).length = ws.sum := by
  induction ws generalizing ns with
  | nil => rfl
  | cons w ws ih =>
    cases ns with
    | nil => cases h
    | cons n ns => rw [pack, List.length_append, length_leBytes, ih (Nat.succ.inj h), List.sum_cons]

theorem unpack_pack {ws ns : List ℕ} (h : Fits ws ns) (r : List UInt8) : unpack ws (pack ws ns ++ r) = ns := by
  induction h with
  | nil => rfl
  | @cons w n ws ns hn _ ih =>
    have hl : (leBytes w n).length = w := length_leBytes w n
    rw [pack, List.append_assoc, unpack, List.take_left' hl, List.drop_left' hl, leNat_leBytes hn, ih]

theorem pack_unpack {ws : List ℕ} {bs : List UInt8} (h : ws.sum ≤ bs.length) :
    pack ws (unpack ws bs) = bs.take ws.sum := by
  induction ws generalizing bs with
  | nil => rfl
  | cons w ws ih =>
    rw [List.sum_cons] at h ⊢
    have hw : (bs.take w).length = w := by
      rw [List.length_take]
      omega
    have hrest : ws.sum ≤ (bs.drop w).length := by
      rw [List.length_drop]
      omega
    have hhead := leBytes_leNat (bs.take w)
    rw [hw] at hhead
    rw [unpack, pack, hhead, ih hrest, List.take_add]

theorem length_unpack (ws : List ℕ) (bs : List UInt8) : (unpack ws bs).length = ws.length := by
  induction ws generalizing bs with
  | nil => rfl
  | cons w ws ih => rw [unpack, List.length_cons, ih, List.length_cons]

end VapEvidence.Fields

import Mathlib.Algebra.Order.Ring.Int
import Mathlib.Tactic.Common

/-!
# Little-endian numbers

A number in `n` bytes, the lowest byte first.
-/

/-- The lowest `n` bytes of a number. -/
def toLittleEndian : (n value : Nat) → List UInt8
  | 0, _ => []
  | n + 1, value => UInt8.ofNat value :: toLittleEndian n (value / 256)

def ofLittleEndian : List UInt8 → Nat
  | [] => 0
  | b :: bytes => b.toNat + 256 * ofLittleEndian bytes

@[simp] theorem length_toLittleEndian (n value : Nat) : (toLittleEndian n value).length = n := by
  induction n generalizing value with
  | zero => rfl
  | succ n ih => rw [toLittleEndian, List.length_cons, ih]

theorem ofLittleEndian_toLittleEndian (n value : Nat) :
    ofLittleEndian (toLittleEndian n value) = value % 256 ^ n := by
  induction n generalizing value with
  | zero => simp [toLittleEndian, ofLittleEndian, Nat.mod_one]
  | succ n ih =>
    rw [toLittleEndian, ofLittleEndian, ih, UInt8.toNat_ofNat']
    exact (Nat.mod_mul ..).symm.trans (congrArg (value % ·) Nat.pow_succ'.symm)

theorem toLittleEndian_ofLittleEndian (bytes : List UInt8) :
    toLittleEndian bytes.length (ofLittleEndian bytes) = bytes := by
  induction bytes with
  | nil => rfl
  | cons b bytes ih =>
    have hb : b.toNat < 256 := b.toNat_lt
    have hdiv : (b.toNat + 256 * ofLittleEndian bytes) / 256 = ofLittleEndian bytes := by omega
    rw [List.length_cons, ofLittleEndian, toLittleEndian, hdiv, ih]
    congr 1
    apply UInt8.toNat_inj.mp
    rw [UInt8.toNat_ofNat']
    omega

theorem ofLittleEndian_lt (bytes : List UInt8) : ofLittleEndian bytes < 256 ^ bytes.length := by
  induction bytes with
  | nil => exact Nat.one_pos
  | cons b bytes ih =>
    have hb : b.toNat < 256 := b.toNat_lt
    rw [List.length_cons, Nat.pow_succ', ofLittleEndian]
    omega

import Toxcore.ForStd.LittleEndian
import Toxcore.Native.CryptoCore

/-!
# Nonces as bytes

The loops of `increment_nonce` and `increment_nonce_number` over the bytes of a nonce.  The carry, a
`uint_fast16_t`, stays below `2 ^ 16`.
-/

namespace Toxcore

open List

/-- A turn of the loop: the sum goes into the byte, and what is left of it is the carry. -/
def storeByte (sum : Nat) (bytes : Bytes) : Bytes × Nat := (UInt8.ofNat sum :: bytes, sum >>> 8)

/-- `increment_nonce`; the loop runs from the last byte to the first. -/
def incrementNonceBytes (nonce : Bytes) : Bytes :=
  (nonce.foldr (fun b loop => storeByte (loop.2 + b.toNat) loop.1) ([], 1)).1

def numAsNonce (increment : UInt32) : Bytes :=
  List.replicate (cryptoNonceSize - 4) 0 ++ packU32 increment

def incrementNonceNumberBytes (nonce : Bytes) (increment : UInt32) : Bytes :=
  ((nonce.zip (numAsNonce increment)).foldr
    (fun b loop => storeByte (loop.2 + (b.1.toNat + b.2.toNat)) loop.1) ([], 0)).1

def nonceOfBytes (bytes : Bytes) : Nonce := BitVec.ofNat 192 (ofLittleEndian bytes.reverse)

/-! ## The loops add -/

theorem ofLittleEndian_concat (bytes : Bytes) (b : UInt8) :
    ofLittleEndian (bytes ++ [b]) = ofLittleEndian bytes + 256 ^ bytes.length * b.toNat := by
  induction bytes with
  | nil => simp [ofLittleEndian]
  | cons a bytes ih =>
    rw [cons_append, ofLittleEndian, ofLittleEndian, ih, length_cons, Nat.pow_succ',
      Nat.mul_add, Nat.mul_assoc, Nat.add_assoc]

theorem ofLittleEndian_reverse_cons (b : UInt8) (bytes : Bytes) :
    ofLittleEndian (b :: bytes).reverse =
      ofLittleEndian bytes.reverse + 256 ^ bytes.length * b.toNat := by
  rw [reverse_cons, ofLittleEndian_concat, length_reverse]

/-- The loop over digits, from the last one to the first. -/
def storeLoop {α : Type} (digit : α → Nat) (carry : Nat) (l : List α) : Bytes × Nat :=
  l.foldr (fun a loop => storeByte (loop.2 + digit a) loop.1) ([], carry)

theorem length_storeLoop {α : Type} (digit : α → Nat) (carry : Nat) (l : List α) :
    (storeLoop digit carry l).1.length = l.length := by
  induction l with
  | nil => rfl
  | cons a l ih =>
    show (storeLoop digit carry l).1.length + 1 = _
    rw [ih, length_cons]

/-- The number that the bytes and the carry stand for. -/
def storedNumber (loop : Bytes × Nat) : Nat :=
  ofLittleEndian loop.1.reverse + 256 ^ loop.1.length * loop.2

theorem storedNumber_storeLoop_cons {α : Type} (digit : α → Nat) (carry : Nat) (a : α)
    (l : List α) : storedNumber (storeLoop digit carry (a :: l)) =
      storedNumber (storeLoop digit carry l) + 256 ^ l.length * digit a := by
  rw [← length_storeLoop digit carry l]
  generalize hloop : storeLoop digit carry l = loop
  have hturn : storeLoop digit carry (a :: l) = storeByte (loop.2 + digit a) loop.1 := by
    rw [← hloop]
    rfl
  have hsum : loop.2 + digit a = (loop.2 + digit a) % 256 + 256 * ((loop.2 + digit a) / 256) :=
    (Nat.mod_add_div _ 256).symm
  have hcarry : (loop.2 + digit a) >>> 8 = (loop.2 + digit a) / 256 := Nat.shiftRight_eq_div_pow ..
  have hpow : 256 ^ (loop.1.length + 1) = 256 ^ loop.1.length * 256 := Nat.pow_succ ..
  rw [hturn]
  show ofLittleEndian (UInt8.ofNat (loop.2 + digit a) :: loop.1).reverse +
    256 ^ (loop.1.length + 1) * ((loop.2 + digit a) >>> 8) = _
  rw [ofLittleEndian_reverse_cons, UInt8.toNat_ofNat', hcarry, storedNumber, Nat.add_assoc,
    Nat.add_assoc, ← Nat.mul_add, hpow, Nat.mul_assoc, ← Nat.mul_add]
  congr 2
  exact hsum.symm

theorem ofLittleEndian_storeLoop {α : Type} (digit : α → Nat) (carry : Nat) (l : List α) :
    ofLittleEndian (storeLoop digit carry l).1.reverse =
      storedNumber (storeLoop digit carry l) % 256 ^ l.length := by
  have hlt := ofLittleEndian_lt (storeLoop digit carry l).1.reverse
  rw [length_reverse, length_storeLoop] at hlt
  rw [storedNumber, length_storeLoop, Nat.add_mul_mod_self_left, Nat.mod_eq_of_lt hlt]

theorem storedNumber_increment (carry : Nat) (nonce : Bytes) :
    storedNumber (storeLoop UInt8.toNat carry nonce) = ofLittleEndian nonce.reverse + carry := by
  induction nonce with
  | nil => simp [storedNumber, storeLoop, ofLittleEndian]
  | cons b nonce ih =>
    rw [storedNumber_storeLoop_cons, ofLittleEndian_reverse_cons]
    omega

theorem storedNumber_incrementNumber (carry : Nat) (nonce number : Bytes) (h : nonce.length = number.length) :
    storedNumber (storeLoop (fun b => b.1.toNat + b.2.toNat) carry (nonce.zip number)) =
      ofLittleEndian nonce.reverse + ofLittleEndian number.reverse + carry := by
  induction nonce generalizing number with
  | nil =>
    cases number with
    | nil => simp [storedNumber, storeLoop, ofLittleEndian]
    | cons c number => cases h
  | cons b nonce ih =>
    cases number with
    | nil => cases h
    | cons c number =>
      have hlength : nonce.length = number.length := Nat.succ.inj h
      have hzip : (nonce.zip number).length = nonce.length := by
        rw [length_zip, hlength, Nat.min_self]
      rw [zip_cons_cons, storedNumber_storeLoop_cons, ih number hlength,
        ofLittleEndian_reverse_cons, ofLittleEndian_reverse_cons, hzip, ← hlength]
      show _ + 256 ^ nonce.length * (b.toNat + c.toNat) = _
      rw [Nat.mul_add]
      omega

theorem ofLittleEndian_reverse_numAsNonce (increment : UInt32) :
    ofLittleEndian (numAsNonce increment).reverse = increment.toNat := by
  have hlt := increment.toNat_lt
  show ofLittleEndian (List.replicate 20 0 ++ packU32 increment).reverse = _
  simp only [packU32, reverse_append, reverse_cons, reverse_nil, nil_append,
    cons_append, reverse_replicate, ofLittleEndian, UInt8.toNat_ofNat']
  have hzero : ofLittleEndian (List.replicate 20 0) = 0 := by decide
  omega

theorem nonceOfBytes_incrementNonceBytes {nonce : Bytes} (h : nonce.length = cryptoNonceSize) :
    nonceOfBytes (incrementNonceBytes nonce) = incrementNonce (nonceOfBytes nonce) := by
  have hbytes : incrementNonceBytes nonce = (storeLoop UInt8.toNat 1 nonce).1 := rfl
  have hsize : 256 ^ cryptoNonceSize = 2 ^ 192 := by decide
  apply BitVec.eq_of_toNat_eq
  rw [hbytes, nonceOfBytes, ofLittleEndian_storeLoop, storedNumber_increment, h, hsize, incrementNonce,
    nonceOfBytes, BitVec.toNat_add, BitVec.toNat_ofNat, BitVec.toNat_ofNat, Nat.mod_mod, Nat.mod_add_mod]
  rfl

theorem nonceOfBytes_incrementNonceNumberBytes {nonce : Bytes}
    (h : nonce.length = cryptoNonceSize) (increment : UInt32) :
    nonceOfBytes (incrementNonceNumberBytes nonce increment) =
      incrementNonceNumber (nonceOfBytes nonce) increment := by
  have hnumber : (numAsNonce increment).length = cryptoNonceSize := by
    rfl
  have hzip : (nonce.zip (numAsNonce increment)).length = cryptoNonceSize := by
    rw [length_zip, h, hnumber, Nat.min_self]
  have hbytes : incrementNonceNumberBytes nonce increment =
      (storeLoop (fun b => b.1.toNat + b.2.toNat) 0 (nonce.zip (numAsNonce increment))).1 := rfl
  have hsize : 256 ^ cryptoNonceSize = 2 ^ 192 := by decide
  apply BitVec.eq_of_toNat_eq
  rw [hbytes, nonceOfBytes, ofLittleEndian_storeLoop, hzip,
    storedNumber_incrementNumber 0 nonce _ (h.trans hnumber.symm), hsize, ofLittleEndian_reverse_numAsNonce,
    incrementNonceNumber, nonceOfBytes, BitVec.toNat_add, BitVec.toNat_ofNat, BitVec.toNat_ofNat,
    BitVec.toNat_ofNat, Nat.mod_mod, Nat.add_zero, Nat.mod_add_mod, Nat.add_mod_mod]

end Toxcore

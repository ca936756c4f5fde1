import Toxcore.Native.ClientData

/-!
# The distance of two keys

The exclusive or of two keys, read as a big-endian number.  `id_closest` compares it byte by byte.
-/

namespace Toxcore

open List

def bytesDistance : Bytes → Bytes → Nat
  | b :: pk, b' :: pk' => (b ^^^ b').toNat * 256 ^ pk.length + bytesDistance pk pk'
  | _, _ => 0

def keyDistance (pk pk' : PublicKey) : Nat := bytesDistance pk.toList pk'.toList

theorem bytesDistance_lt (pk pk' : Bytes) : bytesDistance pk pk' < 256 ^ pk.length := by
  induction pk generalizing pk' with
  | nil =>
    rw [bytesDistance]
    · exact Nat.one_pos
    · exact nofun
  | cons b pk ih =>
    cases pk' with
    | nil =>
      rw [bytesDistance]
      · exact Nat.pow_pos (by decide)
      · exact nofun
    | cons b' pk' =>
      have hb := (b ^^^ b').toNat_lt
      have hrest := ih pk'
      have hmul : ((b ^^^ b').toNat + 1) * 256 ^ pk.length ≤ 256 * 256 ^ pk.length :=
        Nat.mul_le_mul_right _ hb
      rw [bytesDistance, length_cons]
      rw [Nat.add_mul] at hmul
      omega

theorem add_mul_lt {x y d e m : Nat} (hxy : x < y) (hd : d < m) : x * m + d < y * m + e := by
  have hmul : (x + 1) * m ≤ y * m := Nat.mul_le_mul_right m hxy
  rw [Nat.add_mul] at hmul
  omega

theorem idClosestLoop_eq {pk pk1 pk2 : Bytes} (h1 : pk1.length = pk.length) (h2 : pk2.length = pk.length) :
    (idClosestLoop pk pk1 pk2 = .first ↔ bytesDistance pk pk1 < bytesDistance pk pk2) ∧
      (idClosestLoop pk pk1 pk2 = .second ↔ bytesDistance pk pk2 < bytesDistance pk pk1) := by
  induction pk generalizing pk1 pk2 with
  | nil =>
    exact ⟨⟨nofun, fun h => absurd h (Nat.lt_irrefl 0)⟩, ⟨nofun, fun h => absurd h (Nat.lt_irrefl 0)⟩⟩
  | cons b pk ih =>
    match pk1, pk2 with
    | [], _ => exact nomatch h1
    | _ :: _, [] => exact nomatch h2
    | b1 :: pk1, b2 :: pk2 =>
      obtain ⟨hfirst, hsecond⟩ := ih (Nat.succ.inj h1) (Nat.succ.inj h2)
      have hlt1 := bytesDistance_lt pk pk1
      have hlt2 := bytesDistance_lt pk pk2
      rw [idClosestLoop, bytesDistance, bytesDistance]
      by_cases hless : b ^^^ b1 < b ^^^ b2
      · rw [if_pos hless]
        have hlt := add_mul_lt (e := bytesDistance pk pk2) (UInt8.lt_iff_toNat_lt.mp hless) hlt1
        exact ⟨⟨fun _ => hlt, fun _ => rfl⟩, ⟨nofun, fun h => absurd hlt (Nat.lt_asymm h)⟩⟩
      · rw [if_neg hless]
        by_cases hmore : b ^^^ b1 > b ^^^ b2
        · rw [if_pos hmore]
          have hlt := add_mul_lt (e := bytesDistance pk pk1) (UInt8.lt_iff_toNat_lt.mp hmore) hlt2
          exact ⟨⟨nofun, fun h => absurd hlt (Nat.lt_asymm h)⟩, ⟨fun _ => hlt, fun _ => rfl⟩⟩
        · have heq : (b ^^^ b1).toNat = (b ^^^ b2).toNat :=
            Nat.le_antisymm (Nat.le_of_not_lt fun h => hmore (UInt8.lt_iff_toNat_lt.mpr h))
              (Nat.le_of_not_lt fun h => hless (UInt8.lt_iff_toNat_lt.mpr h))
          rw [if_neg hmore, heq, hfirst, hsecond]
          constructor
          · omega
          · omega

theorem idClosest_eq_first_iff {pk pk1 pk2 : PublicKey} :
    idClosest pk pk1 pk2 = .first ↔ keyDistance pk pk1 < keyDistance pk pk2 :=
  (idClosestLoop_eq (by simp) (by simp)).1

theorem idClosest_eq_second_iff {pk pk1 pk2 : PublicKey} :
    idClosest pk pk1 pk2 = .second ↔ keyDistance pk pk2 < keyDistance pk pk1 :=
  (idClosestLoop_eq (by simp) (by simp)).2

theorem bytesDistance_injective {pk pk1 pk2 : Bytes} (h1 : pk1.length = pk.length)
    (h2 : pk2.length = pk.length) (heq : bytesDistance pk pk1 = bytesDistance pk pk2) :
    pk1 = pk2 := by
  induction pk generalizing pk1 pk2 with
  | nil => rw [length_eq_zero_iff.mp h1, length_eq_zero_iff.mp h2]
  | cons b pk ih =>
    match pk1, pk2 with
    | [], _ => exact nomatch h1
    | _ :: _, [] => exact nomatch h2
    | b1 :: pk1, b2 :: pk2 =>
      rw [bytesDistance] at heq
      have hlt1 := bytesDistance_lt pk pk1
      have hlt2 := bytesDistance_lt pk pk2
      have hbyte : (b ^^^ b1).toNat = (b ^^^ b2).toNat := by
        by_contra hne
        obtain hlt | hlt := Nat.lt_or_gt_of_ne hne
        · exact absurd heq (Nat.ne_of_lt (add_mul_lt hlt hlt1))
        · exact absurd heq.symm (Nat.ne_of_lt (add_mul_lt hlt hlt2))
      rw [hbyte] at heq
      have hxor := UInt8.toNat_inj.mp hbyte
      rw [UInt8.xor_right_inj] at hxor
      rw [hxor, ih (Nat.succ.inj h1) (Nat.succ.inj h2) (Nat.add_left_cancel heq)]

theorem keyDistance_injective (pk : PublicKey) : Function.Injective (keyDistance pk) :=
  fun _ _ heq => Vector.toList_inj.mp (bytesDistance_injective (by simp) (by simp) heq)

end Toxcore

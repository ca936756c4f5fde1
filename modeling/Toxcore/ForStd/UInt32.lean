import Mathlib.Data.UInt

/-!
# Cyclic distance on `UInt32`

Sequence numbers that wrap are compared by their distance from a moving origin:
`(n - s).toNat` is the number of increments that lead from `s` to `n`.  These lemmas
move between such distances, so that window arguments can be closed by `omega`.
-/

namespace UInt32

/-- The distance from `s` to `n`, as a number below `2 ^ 32`. -/
def dist (s n : UInt32) : Nat := (n - s).toNat

theorem dist_def (s n : UInt32) : dist s n = (2 ^ 32 - s.toNat + n.toNat) % 2 ^ 32 := by
  simp [dist, UInt32.toNat_sub]

@[simp] theorem dist_self (s : UInt32) : dist s s = 0 := by
  have := s.toNat_lt
  rw [dist_def]; omega

theorem dist_eq_zero {s n : UInt32} : dist s n = 0 ↔ n = s := by
  have := s.toNat_lt
  have := n.toNat_lt
  rw [dist_def, ← UInt32.toNat_inj]; omega

theorem dist_inj {s m n : UInt32} (h : dist s m = dist s n) : m = n := by
  have := m.toNat_lt
  have := n.toNat_lt
  rw [dist_def, dist_def] at h
  apply UInt32.toNat_inj.mp; omega

theorem dist_add_one {s n : UInt32} (h : dist s n + 1 < 2 ^ 32) :
    dist s (n + 1) = dist s n + 1 := by
  rw [dist_def] at h ⊢
  rw [dist_def, UInt32.toNat_add, UInt32.toNat_one]; omega

theorem add_ofNat_dist (s n : UInt32) : s + UInt32.ofNat (dist s n) = n := by
  unfold dist
  rw [UInt32.ofNat_toNat, UInt32.add_comm, UInt32.sub_add_cancel]

theorem dist_add_ofNat (s : UInt32) {k : Nat} (hk : k < 2 ^ 32) : dist s (s + UInt32.ofNat k) = k := by
  unfold dist
  rw [UInt32.add_comm, UInt32.add_sub_cancel, UInt32.toNat_ofNat', Nat.mod_eq_of_lt hk]

theorem dist_add_one_left {s n : UInt32} (h : n ≠ s) : dist (s + 1) n + 1 = dist s n := by
  have := s.toNat_lt
  have := n.toNat_lt
  have hne : n.toNat ≠ s.toNat := fun he => h (UInt32.toNat_inj.mp he)
  rw [dist_def, dist_def, UInt32.toNat_add, UInt32.toNat_one]; omega

theorem dist_of_le {s t n : UInt32} (h : dist s t ≤ dist s n) :
    dist t n = dist s n - dist s t := by
  have := t.toNat_lt
  rw [dist_def, dist_def] at h
  rw [dist_def, dist_def, dist_def]; omega

theorem dist_of_lt {s t n : UInt32} (h : dist s n < dist s t) :
    dist t n = 2 ^ 32 + dist s n - dist s t := by
  have := t.toNat_lt
  rw [dist_def, dist_def] at h
  rw [dist_def, dist_def, dist_def]; omega

theorem dist_of_toNat_le {s n : UInt32} (h : s.toNat ≤ n.toNat) :
    dist s n = n.toNat - s.toNat := by
  have := n.toNat_lt
  rw [dist_def]; omega

theorem dist_of_toNat_lt {s n : UInt32} (h : n.toNat < s.toNat) :
    dist s n = 2 ^ 32 - (s.toNat - n.toNat) := by
  have := s.toNat_lt
  rw [dist_def]; omega

theorem toNat_mem_of_dist_le {s n e : UInt32} (hse : s.toNat ≤ e.toNat)
    (h : dist s n ≤ dist s e) : s.toNat ≤ n.toNat ∧ n.toNat ≤ e.toNat := by
  have := e.toNat_lt
  rw [dist_of_toNat_le hse] at h
  by_cases hlt : n.toNat < s.toNat
  · rw [dist_of_toNat_lt hlt] at h
    omega
  · rw [dist_of_toNat_le (by omega)] at h
    omega

theorem eq_of_mod_eq_of_dist_lt {c : Nat} (hc : c ∣ 2 ^ 32) {s m n : UInt32}
    (hm : dist s m < c) (hn : dist s n < c) (h : m.toNat % c = n.toNat % c) : m = n := by
  apply dist_inj (s := s)
  have hmod : ∀ k : UInt32, (dist s k + s.toNat) % c = k.toNat % c := by
    intro k
    have hs := s.toNat_lt
    rw [dist_def, ← Nat.mod_mod_of_dvd _ hc, Nat.mod_add_mod]
    have : (2 ^ 32 - s.toNat + k.toNat + s.toNat) = k.toNat + 2 ^ 32 := by omega
    rw [this, Nat.add_mod_right, Nat.mod_mod_of_dvd _ hc]
  have hmn : (dist s m + s.toNat) % c = (dist s n + s.toNat) % c := by
    rw [hmod, hmod, h]
  have := Nat.ModEq.add_right_cancel' s.toNat hmn
  rwa [Nat.ModEq, Nat.mod_eq_of_lt hm, Nat.mod_eq_of_lt hn] at this

end UInt32

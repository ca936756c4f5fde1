import Mathlib.Data.List.Basic
import Mathlib.Data.List.Nodup
import Mathlib.Data.List.Perm.Subperm

/-!
# Windows in a ring

Slots `0, …, n - 1` in a ring, and the window from a start up to, but excluding, an end.  When the start is
the end, the window is empty; so a window never holds all slots of the ring.
-/

namespace RingWindow

variable {n start stop i : Nat}

def distance (n start i : Nat) : Nat := (i + n - start) % n

def InWindow (n start stop i : Nat) : Prop := i < n ∧ distance n start i < distance n start stop

instance (n start stop i : Nat) : Decidable (InWindow n start stop i) :=
  inferInstanceAs (Decidable (_ ∧ _))

def next (n i : Nat) : Nat := (i + 1) % n

theorem distance_eq (hstart : start < n) (hi : i < n) :
    distance n start i = if start ≤ i then i - start else i + n - start := by
  rw [distance]
  split
  · rw [show i + n - start = (i - start) + n by omega, Nat.add_mod_right, Nat.mod_eq_of_lt (by omega)]
  · rw [Nat.mod_eq_of_lt (by omega)]

theorem distance_lt (hn : 0 < n) (start i : Nat) : distance n start i < n := Nat.mod_lt _ hn

theorem next_lt (hn : 0 < n) (i : Nat) : next n i < n := Nat.mod_lt _ hn

theorem next_eq (hi : i < n) : next n i = if i + 1 = n then 0 else i + 1 := by
  rw [next]
  split
  · rename_i heq
    rw [heq, Nat.mod_self]
  · rw [Nat.mod_eq_of_lt (by omega)]

theorem not_inWindow_self (start i : Nat) (hstart : start < n) : ¬InWindow n start start i := by
  rintro ⟨-, hlt⟩
  rw [distance_eq hstart hstart] at hlt
  simp at hlt

section

variable (hstart : start < n)
include hstart

theorem inWindow_next_stop (hstop : stop < n) (hroom : next n stop ≠ start) :
    InWindow n start (next n stop) i ↔ InWindow n start stop i ∨ i = stop := by
  rw [InWindow, InWindow, distance_eq hstart (next_lt (by omega) stop), distance_eq hstart hstop]
  rw [next_eq hstop] at hroom ⊢
  by_cases hi : i < n
  · rw [distance_eq hstart hi]
    split_ifs at hroom ⊢
    all_goals omega
  · constructor
    · exact fun h => absurd h.1 hi
    · omega

theorem inWindow_next_start (hstop : stop < n) (hne : start ≠ stop) :
    InWindow n (next n start) stop i ↔ InWindow n start stop i ∧ i ≠ start := by
  have hnext := next_lt (by omega : 0 < n) start
  rw [InWindow, InWindow, distance_eq hnext hstop, distance_eq hstart hstop]
  by_cases hi : i < n
  · rw [distance_eq hnext hi, distance_eq hstart hi, next_eq hstart]
    split_ifs
    all_goals omega
  · constructor
    · exact fun h => absurd h.1 hi
    · exact fun h => absurd h.1.1 hi

theorem distance_next_start (hstop : stop < n) (hne : start ≠ stop) :
    distance n (next n start) stop + 1 = distance n start stop := by
  rw [distance_eq (next_lt (by omega) start) hstop, distance_eq hstart hstop, next_eq hstart]
  split_ifs
  all_goals omega

theorem distance_eq_zero_iff (hi : i < n) : distance n start i = 0 ↔ start = i := by
  rw [distance_eq hstart hi]
  split_ifs
  all_goals omega

theorem distance_injective {j : Nat} (hi : i < n) (hj : j < n)
    (h : distance n start i = distance n start j) : i = j := by
  rw [distance_eq hstart hi, distance_eq hstart hj] at h
  split_ifs at h
  all_goals omega

theorem length_lt_of_inWindow {slots : List Nat} (hslots : slots.Nodup)
    (hwindow : ∀ i ∈ slots, InWindow n start stop i) : slots.length < n := by
  have hnodup : (slots.map (distance n start)).Nodup :=
    List.Nodup.map_on (fun i hi j hj h => distance_injective hstart (hwindow i hi).1 (hwindow j hj).1 h) hslots
  have hsub : slots.map (distance n start) ⊆ List.range (distance n start stop) := by
    intro d hd
    obtain ⟨i, hi, rfl⟩ := List.mem_map.mp hd
    exact List.mem_range.mpr (hwindow i hi).2
  have hle := (List.subperm_of_subset hnodup hsub).length_le
  rw [List.length_map, List.length_range] at hle
  exact Nat.lt_of_le_of_lt hle (distance_lt (by omega) start stop)

end

end RingWindow

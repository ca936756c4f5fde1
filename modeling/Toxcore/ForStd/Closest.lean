import Mathlib.Data.Finset.Card
import Mathlib.Data.List.Perm.Basic

/-!
# The closest elements of a set

A list of the `n` elements of a set with the smallest distances, and what keeps it such a list when
another element comes to the set: to append it while there is room, and to drop the farthest one
after that.
-/

variable {α : Type*} {dist : α → Nat} {n : Nat} {s : Finset α} {l l' : List α} {a b : α}

/-- The list holds the `n` elements of `s` that are closest, or all of them. -/
structure IsClosest (dist : α → Nat) (n : Nat) (s : Finset α) (l : List α) : Prop where
  nodup : l.Nodup
  mem : ∀ a ∈ l, a ∈ s
  length : l.length = min n s.card
  closer : ∀ a ∈ l, ∀ b ∈ s, b ∉ l → dist a < dist b

namespace IsClosest

theorem empty (dist : α → Nat) (n : Nat) : IsClosest dist n ∅ [] where
  nodup := List.nodup_nil
  mem _ h := nomatch h
  length := by
    rw [Finset.card_empty, Nat.min_zero]
    rfl
  closer _ h := nomatch h

variable [DecidableEq α]

section

variable (h : IsClosest dist n s l)
include h

theorem mem_of_length_lt (hroom : l.length < n) (hb : b ∈ s) : b ∈ l := by
  have hcard : l.toFinset.card = l.length := List.toFinset_card_of_nodup h.nodup
  have hlength := h.length
  have hsubset : l.toFinset ⊆ s := fun a ha => h.mem a (List.mem_toFinset.mp ha)
  have heq : l.toFinset = s := Finset.eq_of_subset_of_card_le hsubset (by omega)
  rw [← heq] at hb
  exact List.mem_toFinset.mp hb

theorem insert_of_mem (hb : b ∈ s) : IsClosest dist n (insert b s) l := by
  rw [Finset.insert_eq_of_mem hb]
  exact h

theorem append (hroom : l.length < n) (hb : b ∉ l) :
    IsClosest dist n (insert b s) (l ++ [b]) := by
  have hnot : b ∉ s := fun hmem => hb (h.mem_of_length_lt hroom hmem)
  have hlength := h.length
  refine ⟨?_, ?_, ?_, ?_⟩
  · exact List.nodup_append.mpr ⟨h.nodup, List.nodup_singleton b, fun a ha c hc heq =>
      hb (List.mem_singleton.mp hc ▸ heq ▸ ha)⟩
  · intro a ha
    obtain ha | ha := List.mem_append.mp ha
    · exact Finset.mem_insert_of_mem (h.mem a ha)
    · rw [List.mem_singleton.mp ha]
      exact Finset.mem_insert_self b s
  · rw [List.length_append, List.length_singleton, Finset.card_insert_of_notMem hnot]
    omega
  · -- nothing is left out
    intro a _ c hc hcl
    obtain rfl | hc := Finset.mem_insert.mp hc
    · exact absurd (List.mem_append_right l List.mem_cons_self) hcl
    · exact absurd (List.mem_append_left [b] (h.mem_of_length_lt hroom hc)) hcl

theorem exchange (hinj : Function.Injective dist) (hfull : l.length = n)
    (hb : b ∉ l) {z : α} (hperm : (z :: l').Perm (b :: l)) (hfar : ∀ a ∈ l', dist a ≤ dist z) :
    IsClosest dist n (insert b s) l' := by
  have hnodup : (z :: l').Nodup := hperm.nodup_iff.mpr (List.nodup_cons.mpr ⟨hb, h.nodup⟩)
  obtain ⟨hz, hnodup'⟩ := List.nodup_cons.mp hnodup
  have hlength := h.length
  have hle : s.card ≤ (insert b s).card := Finset.card_le_card (Finset.subset_insert b s)
  have hlength' := hperm.length_eq
  rw [List.length_cons, List.length_cons] at hlength'
  refine ⟨hnodup', ?_, by omega, ?_⟩
  · intro a ha
    obtain rfl | ha := List.mem_cons.mp (hperm.mem_iff.mp (List.mem_cons_of_mem z ha))
    · exact Finset.mem_insert_self a s
    · exact Finset.mem_insert_of_mem (h.mem a ha)
  · intro a ha c hc hcl
    have haz : dist a < dist z := by
      refine Nat.lt_of_le_of_ne (hfar a ha) fun heq => ?_
      rw [hinj heq] at ha
      exact hz ha
    by_cases hcz : c = z
    · rw [hcz]
      exact haz
    · have hout : c ∉ b :: l := by
        rw [← hperm.mem_iff, List.mem_cons]
        exact fun hmem => hmem.elim hcz hcl
      rw [List.mem_cons, not_or] at hout
      have hcs : c ∈ s := (Finset.mem_insert.mp hc).resolve_left hout.1
      obtain rfl | hal := List.mem_cons.mp (hperm.mem_iff.mp (List.mem_cons_of_mem z ha))
      · -- the new element stays, so the dropped one was in the list
        have hzl : z ∈ l := by
          obtain rfl | hzl := List.mem_cons.mp (hperm.mem_iff.mp List.mem_cons_self)
          · exact absurd ha hz
          · exact hzl
        exact Nat.lt_trans haz (h.closer z hzl c hcs hout.2)
      · exact h.closer a hal c hcs hout.2

end

end IsClosest

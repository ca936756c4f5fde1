import Mathlib.Data.List.Basic
import Mathlib.Data.List.Perm.Basic

/-!
# Sweeps over an array

A loop goes over an array by index and removes the entries that are due by moving the last entry into the
gap.  It then goes on to the next index, so that it does not look at the entry that was moved.

`sweep due list` is what such a loop examines and what it passes over.  The loop removes all entries that
are due exactly if it passes over none of them.
-/

namespace List

variable {α : Type*}

/-- The entries that the loop examines, and those that it moves into a gap and passes over. -/
def sweep (due : α → Bool) : List α → List α × List α
  | [] => ([], [])
  | a :: list =>
    if due a then
      match list.getLast? with
      | none => ([a], [])
      | some b => (a :: (sweep due list.dropLast).1, b :: (sweep due list.dropLast).2)
    else (a :: (sweep due list).1, (sweep due list).2)
termination_by list => list.length
decreasing_by
  all_goals simp
  all_goals omega

variable {due truth : α → Bool}

@[simp] theorem sweep_nil : sweep due [] = ([], []) := by rw [sweep]

theorem sweep_cons_of_not_due {a : α} (h : due a = false) (list : List α) :
    sweep due (a :: list) = (a :: (sweep due list).1, (sweep due list).2) := by
  rw [sweep]
  simp [h]

theorem sweep_singleton_of_due {a : α} (h : due a = true) : sweep due [a] = ([a], []) := by
  rw [sweep]
  simp [h]

theorem sweep_concat_of_due {a : α} (h : due a = true) (list : List α) (b : α) :
    sweep due (a :: (list ++ [b])) = (a :: (sweep due list).1, b :: (sweep due list).2) := by
  rw [sweep]
  simp [h]

def swept (due : α → Bool) (list : List α) : List α :=
  (sweep due list).1.filter (!due ·) ++ (sweep due list).2

@[simp] theorem swept_nil : swept due [] = [] := by simp [swept]

theorem swept_cons_of_not_due {a : α} (h : due a = false) (list : List α) :
    swept due (a :: list) = a :: swept due list := by
  rw [swept, swept, sweep_cons_of_not_due h, filter_cons_of_pos (by simp [h]), cons_append]

theorem swept_singleton_of_due {a : α} (h : due a = true) : swept due [a] = [] := by
  rw [swept, sweep_singleton_of_due h, filter_cons_of_neg (by simp [h])]
  simp

theorem swept_concat_of_due_perm {a : α} (h : due a = true) (list : List α) (b : α) :
    (swept due (a :: (list ++ [b]))).Perm (b :: swept due list) := by
  rw [swept, sweep_concat_of_due h, filter_cons_of_neg (by simp [h])]
  exact perm_middle

theorem sweep_perm (due : α → Bool) (list : List α) : ((sweep due list).1 ++ (sweep due list).2).Perm list := by
  induction list using sweep.induct due with
  | case1 => simp
  | case2 a list hdue hlast =>
    obtain rfl := getLast?_eq_none_iff.mp hlast
    rw [sweep_singleton_of_due hdue, append_nil]
  | case3 a list hdue b hlast ih =>
    obtain ⟨list, rfl⟩ := getLast?_eq_some_iff.mp hlast
    rw [sweep_concat_of_due hdue]
    rw [dropLast_concat] at ih
    refine Perm.cons a (perm_middle.trans ?_)
    -- the last entry was passed over, the others are swept
    exact (ih.cons b).trans (perm_append_singleton b list).symm
  | case4 a list hdue ih =>
    rw [sweep_cons_of_not_due (by simpa using hdue)]
    exact ih.cons a

theorem swept_perm_filter_iff (h : ∀ a, truth a = true → due a = true) (list : List α) :
    (swept due list).Perm (list.filter (!truth ·)) ↔
      (∀ a ∈ (sweep due list).1, due a = true → truth a = true) ∧
        ∀ a ∈ (sweep due list).2, truth a = false := by
  classical
  have hperm := (sweep_perm due list).filter (!truth ·)
  rw [filter_append] at hperm
  constructor
  · intro hswept
    -- an entry occurs as often on both sides
    have hcount : ∀ a, ((sweep due list).1.filter (!due ·)).count a + (sweep due list).2.count a =
        ((sweep due list).1.filter (!truth ·)).count a + ((sweep due list).2.filter (!truth ·)).count a := by
      intro a
      rw [← count_append, ← count_append]
      exact (hswept.trans hperm.symm).count_eq a
    constructor
    · intro a ha hdue
      by_contra htruth
      have hleft : ((sweep due list).1.filter (!due ·)).count a = 0 :=
        count_eq_zero_of_not_mem fun hmem => by simp [hdue] at hmem
      have hright : ((sweep due list).2.filter (!truth ·)).count a = (sweep due list).2.count a :=
        count_filter (by simpa using htruth)
      have hpos : 0 < ((sweep due list).1.filter (!truth ·)).count a :=
        count_pos_iff.mpr (mem_filter.mpr ⟨ha, by simpa using htruth⟩)
      have hboth := hcount a
      omega
    · intro a ha
      by_contra htruth
      have hleft : ((sweep due list).1.filter (!truth ·)).count a = 0 :=
        count_eq_zero_of_not_mem fun hmem => by simp [htruth] at hmem
      have hright : ((sweep due list).2.filter (!truth ·)).count a = 0 :=
        count_eq_zero_of_not_mem fun hmem => by simp [htruth] at hmem
      have hpos : 0 < (sweep due list).2.count a := count_pos_iff.mpr ha
      have hboth := hcount a
      omega
  · intro hcond
    refine Perm.trans ?_ hperm
    have hexamined : (sweep due list).1.filter (!due ·) = (sweep due list).1.filter (!truth ·) := by
      refine filter_congr fun a ha => ?_
      cases hdue : due a with
      | true => rw [hcond.1 a ha hdue]
      | false =>
        cases htruth : truth a with
        | false => rfl
        | true => simp [h a htruth] at hdue
    have hpassed : (sweep due list).2.filter (!truth ·) = (sweep due list).2 :=
      filter_eq_self.mpr fun a ha => by simp [hcond.2 a ha]
    rw [swept, hexamined, hpassed]

end List

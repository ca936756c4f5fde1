import Mathlib.Data.List.Basic
import Mathlib.Data.List.DropRight
import Mathlib.Data.List.InsertIdx
import Mathlib.Data.List.Perm.Basic

/-!
# List lemmas
-/

namespace List

variable {α : Type*}

variable {i : Nat} {a : α}

theorem IsPrefix.getElem?_eq_some {xs ys : List α} (h : xs <+: ys) (ha : xs[i]? = some a) : ys[i]? = some a := by
  obtain ⟨t, rfl⟩ := h
  obtain ⟨hi, -⟩ := getElem?_eq_some_iff.mp ha
  rw [getElem?_append_left hi, ha]

theorem IsPrefix.concat_of_getElem? {xs ys : List α} (h : xs <+: ys) (ha : ys[xs.length]? = some a)
    : xs ++ [a] <+: ys := by
  obtain ⟨t, rfl⟩ := h
  cases t with
  | nil => simp at ha
  | cons b t =>
    obtain rfl : b = a := by simpa using ha
    exact ⟨t, by simp⟩

variable {β : Type*}

theorem length_flatMap_of_length_eq {f : α → List β} {n : Nat} (h : ∀ a, (f a).length = n) (l : List α)
    : (l.flatMap f).length = l.length * n := by
  induction l with
  | nil => simp
  | cons a l ih => rw [flatMap_cons, length_append, ih, h, length_cons, Nat.succ_mul, Nat.add_comm]

variable {f : α → β} {l : List α} {b : α}

theorem map_set_of_eq (h : l[i]? = some a) (hf : f b = f a) : (l.set i b).map f = l.map f := by
  obtain ⟨hi, rfl⟩ := getElem?_eq_some_iff.mp h
  rw [map_set, hf, ← getElem_map f (h := by simpa using hi), set_getElem_self]

theorem getElem?_rdropWhile {p : α → Bool} (h : l[i]? = some a) (ha : ¬p a) : (l.rdropWhile p)[i]? = some a := by
  have hsplit := rdropWhile_append_rtakeWhile (p := p) (l := l)
  rw [← hsplit] at h
  by_cases hi : i < (l.rdropWhile p).length
  · rwa [getElem?_append_left hi] at h
  · rw [getElem?_append_right (Nat.le_of_not_lt hi)] at h
    exact absurd (mem_rtakeWhile_imp (mem_of_getElem? h)) ha

theorem take_set_perm_eraseIdx (hi : i < l.length) (ha : l[l.length - 1]? = some a)
    : ((l.set i a).take (l.length - 1)).Perm (l.eraseIdx i) := by
  have hsplit : l = l.take (l.length - 1) ++ [a] := by
    obtain ⟨hlast, rfl⟩ := getElem?_eq_some_iff.mp ha
    rw [take_append_getElem, Nat.sub_add_cancel (by omega), take_length]
  rcases Nat.lt_or_eq_of_le (Nat.le_sub_one_of_lt hi) with hlt | rfl
  · have hinit : i < (l.take (l.length - 1)).length := by
      rw [length_take]
      omega
    rw [take_set]
    refine (set_perm_cons_eraseIdx hinit a).trans ?_
    conv_rhs => rw [hsplit, eraseIdx_append_of_lt_length hinit]
    exact (perm_append_singleton a _).symm
  · rw [take_set_of_le le_rfl, eraseIdx_eq_take_drop_succ, drop_of_length_le (by omega), append_nil]

theorem mem_eraseIdx_iff_of_nodup_map (h : (l.map f).Nodup) (ha : l[i]? = some a)
    : b ∈ l.eraseIdx i ↔ b ∈ l ∧ f b ≠ f a := by
  rw [mem_eraseIdx_iff_getElem?]
  constructor
  · rintro ⟨j, hji, hb⟩
    refine ⟨mem_of_getElem? hb, fun heq => hji ?_⟩
    have hj : j < (l.map f).length := by
      rw [length_map]
      exact (getElem?_eq_some_iff.mp hb).1
    apply (getElem?_inj hj h).mp
    rw [getElem?_map, getElem?_map, hb, ha, Option.map_some, Option.map_some, heq]
  · rintro ⟨hb, hne⟩
    obtain ⟨j, hj⟩ := mem_iff_getElem?.mp hb
    refine ⟨j, ?_, hj⟩
    rintro rfl
    rw [hj] at ha
    exact hne (congrArg f (Option.some.inj ha))

theorem mem_set_iff_of_nodup_map {a' : α} (h : (l.map f).Nodup) (ha : l[i]? = some a) :
    b ∈ l.set i a' ↔ b = a' ∨ b ∈ l ∧ f b ≠ f a := by
  rw [(set_perm_cons_eraseIdx (getElem?_eq_some_iff.mp ha).1 a').mem_iff, mem_cons,
    mem_eraseIdx_iff_of_nodup_map h ha]

theorem map_subperm_map (f : α → β) {l1 l2 : List α} (h : l1.Subperm l2) : (l1.map f).Subperm (l2.map f) := by
  obtain ⟨l, hperm, hsub⟩ := h
  exact ⟨l.map f, hperm.map f, hsub.map f⟩

theorem nodup_of_subperm {l1 l2 : List α} (h : l1.Subperm l2) (hnodup : l2.Nodup) : l1.Nodup := by
  obtain ⟨l, hperm, hsub⟩ := h
  exact hperm.nodup_iff.mp (hsub.nodup hnodup)

theorem pairwise_insertIdx {R : α → α → Prop} (h : l.Pairwise R) (hbefore : ∀ j b, j < i → l[j]? = some b → R b a)
    (hafter : ∀ j b, i ≤ j → l[j]? = some b → R a b) : (l.insertIdx i a).Pairwise R := by
  induction l generalizing i with
  | nil => cases i <;> simp
  | cons c l ih =>
    obtain ⟨hc, hl⟩ := pairwise_cons.mp h
    cases i with
    | zero =>
      refine pairwise_cons.mpr ⟨fun b hb => ?_, h⟩
      obtain ⟨j, hj⟩ := mem_iff_getElem?.mp hb
      exact hafter j b (Nat.zero_le j) hj
    | succ i =>
      refine pairwise_cons.mpr ⟨fun b hb => ?_, ih hl ?_ ?_⟩
      · rcases eq_or_mem_of_mem_insertIdx hb with rfl | hb
        · exact hbefore 0 c (Nat.succ_pos i) rfl
        · exact hc b hb
      · exact fun j b hj hb => hbefore (j + 1) b (Nat.succ_lt_succ hj) hb
      · exact fun j b hj hb => hafter (j + 1) b (Nat.succ_le_succ hj) hb

theorem zip_insertIdx {l' : List β} (h : l.length = l'.length) (i : Nat) (a : α) (b : β) :
    (l.insertIdx i a).zip (l'.insertIdx i b) = (l.zip l').insertIdx i (a, b) := by
  induction i generalizing l l' with
  | zero => rfl
  | succ i ih =>
    cases l with
    | nil =>
      rfl
    | cons c l =>
      cases l' with
      | nil => exact nomatch h
      | cons d l' =>
        rw [insertIdx_succ_cons, insertIdx_succ_cons, zip_cons_cons, zip_cons_cons,
          insertIdx_succ_cons, ih (Nat.succ.inj h)]

theorem zip_eraseIdx (l : List α) (l' : List β) (i : Nat) :
    (l.eraseIdx i).zip (l'.eraseIdx i) = (l.zip l').eraseIdx i := by
  induction l generalizing l' i with
  | nil => rfl
  | cons a l ih =>
    cases l' with
    | nil => rw [eraseIdx_nil, zip_nil_right, zip_nil_right, eraseIdx_nil]
    | cons b l' =>
      cases i with
      | zero => rfl
      | succ i =>
        rw [eraseIdx_cons_succ, eraseIdx_cons_succ, zip_cons_cons, zip_cons_cons, eraseIdx_cons_succ, ih]

theorem headD_mem {d : α} (h : l.isEmpty = false) : l.headD d ∈ l := by
  cases l with
  | nil => cases h
  | cons a l => exact mem_cons_self

theorem exists_map_snd_eq {γ : Type*} {f : β → γ} {l : List (α × γ)} {l' : List β} (h : l.map Prod.snd = l'.map f) :
    ∃ pairs : List (α × β), l = pairs.map (fun pair => (pair.1, f pair.2)) ∧ pairs.map Prod.snd = l' := by
  induction l' generalizing l with
  | nil => exact ⟨[], map_eq_nil_iff.mp h, rfl⟩
  | cons b l' ih =>
    cases l with
    | nil => cases h
    | cons a l =>
      obtain ⟨hhead, htail⟩ := cons.inj h
      obtain ⟨pairs, hl, hpairs⟩ := ih htail
      refine ⟨(a.1, b) :: pairs, ?_, by rw [map_cons, hpairs]⟩
      rw [map_cons, hl, ← hhead]

theorem map_modify_of_eq {f : α → α} {g : α → β} (h : ∀ a, g (f a) = g a) (l : List α) (i : Nat)
    : (l.modify i f).map g = l.map g := by
  induction l generalizing i with
  | nil => cases i <;> rfl
  | cons a l ih =>
    cases i with
    | zero => rw [modify_zero_cons, map_cons, map_cons, h]
    | succ i => rw [modify_succ_cons, map_cons, map_cons, ih]

theorem map_filter_modify {f : α → α} {p : α → Bool} {g : α → β}
    (h : ∀ a, l[i]? = some a → p (f a) = p a ∧ (p a = true → g (f a) = g a)) :
    ((l.modify i f).filter p).map g = (l.filter p).map g := by
  induction l generalizing i with
  | nil => cases i <;> rfl
  | cons a l ih =>
    cases i with
    | zero =>
      obtain ⟨hp, hg⟩ := h a rfl
      rw [modify_zero_cons, filter_cons, filter_cons, hp]
      split
      · rw [map_cons, map_cons, hg ‹_›]
      · rfl
    | succ i =>
      rw [modify_succ_cons, filter_cons, filter_cons]
      split
      · rw [map_cons, map_cons, ih h]
      · exact ih h

end List

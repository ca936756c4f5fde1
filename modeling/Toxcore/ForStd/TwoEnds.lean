import Mathlib.Algebra.BigOperators.Group.Finset.Basic
import Mathlib.Algebra.Order.BigOperators.Group.Finset
import Mathlib.Algebra.Order.Ring.Int
import Mathlib.Data.Fintype.Basic

/-!
# The two ends of an ordered set

Slots that hold the smallest and the greatest elements of a set.  A new element takes the place of an
element of a low slot that is greater, or of a high slot that is smaller, and the replaced element is
inserted again.  This ends, whichever slot is chosen each time, and what is left over then lies
between the low and the high slots.
-/

namespace TwoEnds

variable {ι α κ : Type*} [LinearOrder κ] (small : ι → Prop) (pos : α → κ)

inductive Replaces [DecidableEq ι] : (ι → α) × α → (ι → α) × α → Prop where
  | low {f : ι → α} {a : α} (i : ι) : small i → pos a < pos (f i) → Replaces (f, a) (Function.update f i a, f i)
  | high {f : ι → α} {a : α} (i : ι) : ¬small i → pos (f i) < pos a →
      Replaces (f, a) (Function.update f i a, f i)

structure Between (f : ι → α) (rest : List α) : Prop where
  low : ∀ i, small i → ∀ a ∈ rest, pos (f i) ≤ pos a
  high : ∀ i, ¬small i → ∀ a ∈ rest, pos a ≤ pos (f i)

structure Inward (f f' : ι → α) : Prop where
  low : ∀ i, small i → pos (f' i) ≤ pos (f i)
  high : ∀ i, ¬small i → pos (f i) ≤ pos (f' i)

variable {small pos} {f f' f'' : ι → α} {a b : α} {rest : List α}

theorem Inward.refl (f : ι → α) : Inward small pos f f := ⟨fun _ _ => le_refl _, fun _ _ => le_refl _⟩

theorem Inward.trans (h1 : Inward small pos f f') (h2 : Inward small pos f' f'') : Inward small pos f f'' where
  low i hi := le_trans (h2.low i hi) (h1.low i hi)
  high i hi := le_trans (h1.high i hi) (h2.high i hi)

section

variable (h : Between small pos f rest)
include h

theorem Between.of_inward (hinward : Inward small pos f f') :
    Between small pos f' rest where
  low i hi a ha := le_trans (hinward.low i hi) (h.low i hi a ha)
  high i hi a ha := le_trans (h.high i hi a ha) (hinward.high i hi)

theorem Between.cons (ha : Between small pos f [a]) :
    Between small pos f (a :: rest) where
  low i hi b hb := by
    cases List.mem_cons.mp hb with
    | inl heq => exact heq ▸ ha.low i hi a List.mem_cons_self
    | inr hb => exact h.low i hi b hb
  high i hi b hb := by
    cases List.mem_cons.mp hb with
    | inl heq => exact heq ▸ ha.high i hi a List.mem_cons_self
    | inr hb => exact h.high i hi b hb

theorem Between.low_le_high (ha : a ∈ rest) {i j : ι} (hi : small i)
    (hj : ¬small j) : pos (f i) ≤ pos (f j) :=
  le_trans (h.low i hi a ha) (h.high j hj a ha)

theorem Between.closest_low (hrest : rest ≠ [])
    (hb : b ∈ rest ∨ ∃ j, f j = b) (hinj : ∀ i, pos (f i) = pos b → f i = b) {i : ι} (hi : small i)
    (hout : ∀ j, small j → f j ≠ b) : pos (f i) < pos b := by
  refine lt_of_le_of_ne ?_ fun heq => hout i hi (hinj i heq)
  cases hb with
  | inl hb => exact h.low i hi b hb
  | inr hb =>
    obtain ⟨j, rfl⟩ := hb
    obtain ⟨a, ha⟩ := List.exists_mem_of_ne_nil rest hrest
    exact h.low_le_high ha hi fun hj => hout j hj rfl

theorem Between.closest_high (hrest : rest ≠ [])
    (hb : b ∈ rest ∨ ∃ j, f j = b) (hinj : ∀ i, pos (f i) = pos b → f i = b) {i : ι} (hi : ¬small i)
    (hout : ∀ j, ¬small j → f j ≠ b) : pos b < pos (f i) := by
  refine lt_of_le_of_ne ?_ fun heq => hout i hi (hinj i heq.symm)
  cases hb with
  | inl hb => exact h.high i hi b hb
  | inr hb =>
    obtain ⟨j, rfl⟩ := hb
    obtain ⟨a, ha⟩ := List.exists_mem_of_ne_nil rest hrest
    exact h.low_le_high ha (not_not.mp fun hj => hout j hj rfl) hi

end

theorem Replaces.inward [DecidableEq ι] (h : Replaces small pos (f, a) (f', b)) :
    Inward small pos f f' := by
  cases h with
  | low i hi hlt =>
    constructor
    · intro j _
      by_cases hj : j = i
      · rw [hj, Function.update_self]
        exact le_of_lt hlt
      · rw [Function.update_of_ne hj]
    · intro j hj
      rw [Function.update_of_ne fun heq : j = i => hj (heq ▸ hi)]
  | high i hi hlt =>
    constructor
    · intro j hj
      rw [Function.update_of_ne fun heq : j = i => hi (heq ▸ hj)]
    · intro j _
      by_cases hj : j = i
      · rw [hj, Function.update_self]
        exact le_of_lt hlt
      · rw [Function.update_of_ne hj]

section elements

variable [Fintype ι]

def elements (s : (ι → α) × α) : Multiset α := s.2 ::ₘ Finset.univ.val.map s.1

theorem elements_update [DecidableEq ι] (f : ι → α) (a : α) (i : ι) :
    elements (Function.update f i a, f i) = elements (f, a) := by
  have hcons : (Finset.univ : Finset ι).val = i ::ₘ ((Finset.univ : Finset ι).val.erase i) :=
    (Multiset.cons_erase (Finset.mem_univ i)).symm
  have hrest : ((Finset.univ : Finset ι).val.erase i).map (Function.update f i a) =
      ((Finset.univ : Finset ι).val.erase i).map f := by
    refine Multiset.map_congr rfl fun j hj => Function.update_of_ne ?_ a f
    exact ((Multiset.Nodup.mem_erase_iff Finset.univ.nodup).mp hj).1
  simp only [elements]
  rw [hcons, Multiset.map_cons, Multiset.map_cons, hrest, Function.update_self, Multiset.cons_swap]

theorem Replaces.elements_eq [DecidableEq ι] {s t : (ι → α) × α} (h : Replaces small pos s t) :
    elements t = elements s := by
  cases h with
  | low i _ _ => exact elements_update _ _ i
  | high i _ _ => exact elements_update _ _ i

end elements

/-! ## The potential -/

theorem countP_lt_countP {all : Multiset α} {p q : α → Prop} [DecidablePred p] [DecidablePred q]
    (himp : ∀ x, p x → q x) (ha : a ∈ all) (hp : ¬p a) (hq : q a) : all.countP p < all.countP q := by
  obtain ⟨rest, rfl⟩ := Multiset.exists_cons_of_mem ha
  rw [Multiset.countP_cons_of_neg _ hp, Multiset.countP_cons_of_pos _ hq]
  rw [Multiset.countP_eq_card_filter, Multiset.countP_eq_card_filter]
  exact Nat.lt_succ_of_le (Multiset.card_le_card (Multiset.monotone_filter_right _ himp))

variable [DecidablePred small]

def better (small : ι → Prop) [DecidablePred small] (pos : α → κ) (all : Multiset α) (i : ι) (a : α) : Nat :=
  if small i then all.countP (pos · < pos a) else all.countP (pos a < pos ·)

theorem better_lt {all : Multiset α} {i : ι} (ha : a ∈ all)
    (h : (small i ∧ pos a < pos b) ∨ (¬small i ∧ pos b < pos a)) :
    better small pos all i a < better small pos all i b := by
  unfold better
  cases h with
  | inl h =>
    rw [if_pos h.1, if_pos h.1]
    exact countP_lt_countP (fun x hx => lt_trans hx h.2) ha (lt_irrefl _) h.2
  | inr h =>
    rw [if_neg h.1, if_neg h.1]
    exact countP_lt_countP (fun x hx => lt_trans h.2 hx) ha (lt_irrefl _) h.2

variable [Fintype ι]

def potential (small : ι → Prop) [DecidablePred small] (pos : α → κ) (s : (ι → α) × α) : Nat :=
  ∑ i, better small pos (elements s) i (s.1 i)

theorem better_le {s : (ι → α) × α} (i : ι) :
    better small pos (elements s) i (s.1 i) ≤ Fintype.card ι := by
  have hmem : s.1 i ∈ elements s :=
    Multiset.mem_cons_of_mem (Multiset.mem_map_of_mem _ (Finset.mem_univ i))
  have hcard : Multiset.card (elements s) = Fintype.card ι + 1 := by
    rw [elements, Multiset.card_cons, Multiset.card_map]
    rfl
  -- the element itself is not better
  have hlt : ∀ (p : α → Prop) [DecidablePred p], ¬p (s.1 i) → (elements s).countP p ≤ Fintype.card ι := by
    intro p _ hp
    have hcount := countP_lt_countP (q := fun _ => True) (fun _ _ => trivial) hmem hp trivial
    have hle := Nat.lt_of_lt_of_le hcount (Multiset.countP_le_card _ _)
    rw [hcard] at hle
    exact Nat.le_of_lt_succ hle
  unfold better
  split
  · exact hlt _ (lt_irrefl _)
  · exact hlt _ (lt_irrefl _)

theorem potential_le (s : (ι → α) × α) :
    potential small pos s ≤ Fintype.card ι * Fintype.card ι := by
  have hle := Finset.sum_le_card_nsmul Finset.univ (fun i => better small pos (elements s) i (s.1 i))
    (Fintype.card ι) fun i _ => better_le i
  rwa [nsmul_eq_mul] at hle

theorem Replaces.potential_lt [DecidableEq ι] {s t : (ι → α) × α} (h : Replaces small pos s t) :
    potential small pos t < potential small pos s := by
  unfold potential
  rw [h.elements_eq]
  -- only the slot of the replaced element changes
  have hupdate : ∀ (f : ι → α) (a : α) (i : ι),
      (small i ∧ pos a < pos (f i)) ∨ (¬small i ∧ pos (f i) < pos a) →
        ∑ j, better small pos (elements (f, a)) j (Function.update f i a j) <
          ∑ j, better small pos (elements (f, a)) j (f j) := by
    intro f a i hbetter
    have hlt : better small pos (elements (f, a)) i (Function.update f i a i) <
        better small pos (elements (f, a)) i (f i) := by
      rw [Function.update_self]
      exact better_lt (Multiset.mem_cons_self a _) hbetter
    refine Finset.sum_lt_sum (fun j _ => ?_) ⟨i, Finset.mem_univ i, hlt⟩
    by_cases hj : j = i
    · rw [hj]
      exact Nat.le_of_lt hlt
    · rw [Function.update_of_ne hj]
  cases h with
  | low i hi hlt => exact hupdate _ _ i (.inl ⟨hi, hlt⟩)
  | high i hi hlt => exact hupdate _ _ i (.inr ⟨hi, hlt⟩)

end TwoEnds

import Mathlib.Tactic.Common

/-!
# Data that is put together from chunks

A list is cut into chunks of a fixed size `c`, the last of which may be shorter.  A memory of the same
length collects them in any order; the elements that have come are counted.
-/

def chunkCount (c length : Nat) : Nat := (length + c - 1) / c

def chunkSize (c length k : Nat) : Nat := min c (length - c * k)

/-- The number of elements in the chunks that `P` selects. -/
def covered (c : Nat) (P : Nat → Bool) (length : Nat) : Nat :=
  (List.range length).countP fun j => P (j / c)

def chunk {α : Type} (c : Nat) (data : List α) (k : Nat) : List α := (data.drop (c * k)).take c

section

variable {c length k : Nat} {P Q : Nat → Bool}

theorem lt_chunkCount_iff (hc : 0 < c) : k < chunkCount c length ↔ c * k < length := by
  rw [chunkCount, Nat.lt_div_iff_mul_lt hc, Nat.mul_comm k c]
  omega

theorem div_eq_iff_of_pos (hc : 0 < c) (j : Nat) : j / c = k ↔ c * k ≤ j ∧ j < c * k + c := by
  rw [Nat.div_eq_iff hc]
  constructor
  · intro h
    rw [Nat.mul_comm k c] at h
    omega
  · intro h
    rw [Nat.mul_comm k c]
    omega

theorem covered_le (c : Nat) (P : Nat → Bool) (length : Nat) : covered c P length ≤ length :=
  Nat.le_trans List.countP_le_length (Nat.le_of_eq List.length_range)

theorem covered_congr (h : ∀ i, P i = Q i) : covered c P length = covered c Q length :=
  congrArg (covered c · length) (funext h)

theorem covered_succ : covered c P (length + 1) = covered c P length + (P (length / c)).toNat := by
  rw [covered, List.range_succ, List.countP_append, List.countP_singleton]
  cases P (length / c) <;> rfl

theorem covered_false : covered c (fun _ => false) length = 0 :=
  List.countP_eq_zero.mpr fun _ _ => Bool.false_ne_true

theorem covered_insert (hc : 0 < c) (hnew : P k = false) (hQ : ∀ i, Q i = (P i || i == k))
    (length : Nat) : covered c Q length = covered c P length + chunkSize c length k := by
  induction length with
  | zero =>
    show 0 = 0 + min c (0 - c * k)
    omega
  | succ n ih =>
    have hplace := div_eq_iff_of_pos (k := k) hc n
    rw [covered_succ, covered_succ, ih, hQ]
    unfold chunkSize
    by_cases heq : n / c = k
    · -- the next element is one of chunk `k`
      have hrange := hplace.mp heq
      rw [heq, hnew, beq_self_eq_true]
      show _ + 1 = _ + 0 + _
      omega
    · rw [beq_false_of_ne heq, Bool.or_false]
      omega

theorem covered_lt (hc : 0 < c) (k length : Nat) :
    covered c (fun i => i < k) length = min (c * k) length := by
  induction k with
  | zero => rw [covered_congr fun i => decide_eq_false (Nat.not_lt_zero i), covered_false, Nat.mul_zero,
      Nat.zero_min]
  | succ k ih =>
    have hnew : decide (k < k) = false := decide_eq_false (Nat.lt_irrefl k)
    have hnext (i : Nat) : decide (i < k + 1) = (decide (i < k) || i == k) := by
      rw [Bool.eq_iff_iff, Bool.or_eq_true, decide_eq_true_iff, decide_eq_true_iff, beq_iff_eq]
      omega
    rw [covered_insert hc hnew hnext, chunkSize, Nat.mul_succ]
    omega

theorem of_covered_eq (h : covered c P length = length) {j : Nat} (hj : j < length) :
    P (j / c) = true := by
  have hall : (List.range length).countP (fun j => P (j / c)) = (List.range length).length := by
    rw [List.length_range]
    exact h
  exact List.countP_eq_length.mp hall j (List.mem_range.mpr hj)

end

section

variable {α : Type} {c k : Nat} {P Q : Nat → Bool} {data memory : List α}

theorem length_chunk (c : Nat) (data : List α) (k : Nat) :
    (chunk c data k).length = chunkSize c data.length k := by
  rw [chunk, List.length_take, List.length_drop, chunkSize]

theorem getElem?_chunk {j : Nat} (hj : j < c) : (chunk c data k)[j]? = data[c * k + j]? := by
  rw [chunk, List.getElem?_take_of_lt hj, List.getElem?_drop]

/-- The memory holds the chunks that `P` selects. -/
structure HoldsChunks (c : Nat) (P : Nat → Bool) (data memory : List α) : Prop where
  length : memory.length = data.length
  get : ∀ j < data.length, P (j / c) = true → memory[j]? = data[j]?

theorem HoldsChunks.none (h : memory.length = data.length) :
    HoldsChunks c (fun _ => false) data memory :=
  ⟨h, fun _ _ hP => absurd hP Bool.false_ne_true⟩

theorem HoldsChunks.overwrite (h : HoldsChunks c P data memory) (hc : 0 < c)
    (hk : c * k < data.length) (hQ : ∀ i, Q i = (P i || i == k)) :
    HoldsChunks c Q data
      (memory.take (c * k) ++ chunk c data k ++
        memory.drop (c * k + (chunk c data k).length)) := by
  have hlength := h.length
  have hsize := length_chunk c data k
  unfold chunkSize at hsize
  have htake : (memory.take (c * k)).length = c * k := by
    rw [List.length_take]
    omega
  refine ⟨?_, fun j hj hQj => ?_⟩
  · rw [List.length_append, List.length_append, List.length_drop, htake]
    omega
  · have hplace := div_eq_iff_of_pos (k := k) hc j
    rw [List.append_assoc]
    by_cases hbefore : j < c * k
    · -- before the chunk
      rw [List.getElem?_append_left (by omega), List.getElem?_take_of_lt hbefore]
      have hne : j / c ≠ k := fun heq => by omega
      rw [hQ, beq_false_of_ne hne, Bool.or_false] at hQj
      exact h.get j hj hQj
    · rw [List.getElem?_append_right (by omega)]
      by_cases hin : j < c * k + c
      · rw [List.getElem?_append_left (by omega), getElem?_chunk (by omega)]
        congr 1
        omega
      · -- behind the chunk, which is a full one
        rw [List.getElem?_append_right (by omega), List.getElem?_drop]
        have hne : j / c ≠ k := fun heq => by omega
        rw [hQ, beq_false_of_ne hne, Bool.or_false] at hQj
        rw [← h.get j hj hQj]
        congr 1
        omega

theorem HoldsChunks.eq_of_covered (h : HoldsChunks c P data memory)
    (hall : covered c P data.length = data.length) : memory = data := by
  refine List.ext_getElem? fun j => ?_
  by_cases hj : j < data.length
  · exact h.get j hj (of_covered_eq hall hj)
  · rw [List.getElem?_eq_none (Nat.le_of_not_lt hj), List.getElem?_eq_none]
    rw [h.length]
    exact Nat.le_of_not_lt hj

end

import Toxcore.Spec.PacketsArrayCorrect

/-!
# Request packets

A request packet lists the holes of the receive array by gaps: byte `n` in `1 … 255` asks for the `n`-th number
after the last position, and byte `0` passes 255 numbers. `handle_request_packet` frees every packet it passes
without finding it requested.
-/

namespace Toxcore

open UInt32 (dist dist_self dist_add_one dist_add_one_left dist_inj dist_eq_zero)

/-- The loop of `handle_request_packet` frees the packet `j` positions further on. -/
def requestFrees : (n : Nat) → (data : Bytes) → (j : Nat) → Prop
  | _, [], _ => False
  | n, d :: _, 0 => n ≠ d.toNat
  | n, d :: data, j + 1 =>
    if n = d.toNat then requestFrees 1 data j
    else if n = 255 then d = 0 ∧ requestFrees 1 data j
    else requestFrees (n + 1) (d :: data) j

theorem requestFrees_nil (n j : Nat) : ¬requestFrees n [] j := by
  cases j <;> simp [requestFrees]

namespace PacketsArray

variable {a : PacketsArray}

/-! ## Generated packets -/

theorem generateRequestLoop_head (a : PacketsArray) (count : Nat) (i : UInt32)
    (n room : Nat) (hn : n ≤ 255) (d : UInt8) (rest : Bytes)
    (h : a.generateRequestLoop count i n room = d :: rest) : d = 0 ∨ n ≤ d.toNat := by
  induction count generalizing i n with
  | zero => simp [generateRequestLoop] at h
  | succ count ih =>
    rw [generateRequestLoop] at h
    split at h
    · obtain ⟨rfl, -⟩ := h
      right
      rw [UInt8.toNat_ofNat']; omega
    · split at h
      · simp only [List.cons.injEq] at h
        exact .inl h.1.symm
      · rcases ih (i + 1) (n + 1) (by omega) h with h0 | h1
        · exact .inl h0
        · right; omega

private theorem generateRequestLoop_frees (a : PacketsArray) (count : Nat) (i : UInt32) (n room : Nat)
    (hn : n ≤ 255) (hn0 : 0 < n) (j : Nat) (h : requestFrees n (a.generateRequestLoop count i n room) j) :
    j < count ∧ (a.buffer (slotOf (i + UInt32.ofNat j))).isSome := by
  induction count generalizing i n room j with
  | zero => exact absurd h (requestFrees_nil n j)
  | succ count ih =>
    -- the position after `i`, seen from `i + 1`
    have hshift : ∀ k : Nat, i + UInt32.ofNat (k + 1) = i + 1 + UInt32.ofNat k := by
      intro k
      rw [UInt32.ofNat_add, show UInt32.ofNat 1 = (1 : UInt32) from rfl,
        UInt32.add_comm (UInt32.ofNat k), UInt32.add_assoc]
    -- after a byte is written the counter restarts at one
    have hrest : ∀ k, requestFrees 1
        (if room ≤ 1 then [] else a.generateRequestLoop count (i + 1) 1 (room - 1)) k →
        k < count ∧ (a.buffer (slotOf (i + 1 + UInt32.ofNat k))).isSome := by
      intro k hk
      split at hk
      · exact absurd hk (requestFrees_nil 1 k)
      · exact ih (i + 1) 1 (room - 1) (by omega) (by omega) k hk
    rw [generateRequestLoop] at h
    split at h
    · -- a hole: the byte equals the counter, so this position is requested
      have hbyte : (UInt8.ofNat n).toNat = n := by rw [UInt8.toNat_ofNat']; omega
      cases j with
      | zero => simp [requestFrees, hbyte] at h
      | succ j =>
        simp only [requestFrees, hbyte, ↓reduceIte] at h
        obtain ⟨hlt, hsome⟩ := hrest j h
        rw [hshift]
        exact ⟨by omega, hsome⟩
    · have hocc : (a.buffer (slotOf i)).isSome := by
        cases hb : a.buffer (slotOf i) <;> simp_all
      split at h
      · -- 255 positions without a hole: the byte is zero
        rename_i hn255
        subst hn255
        cases j with
        | zero => exact ⟨by omega, by simpa using hocc⟩
        | succ j =>
          simp only [requestFrees, show (255 : Nat) ≠ (0 : UInt8).toNat by decide, true_and] at h
          obtain ⟨hlt, hsome⟩ := hrest j h
          rw [hshift]
          exact ⟨by omega, hsome⟩
      · rename_i hn255
        cases j with
        | zero => exact ⟨by omega, by simpa using hocc⟩
        | succ j =>
          cases hg : a.generateRequestLoop count (i + 1) (n + 1) room with
          | nil => rw [hg] at h; exact absurd h (requestFrees_nil n _)
          | cons d rest =>
            have hhead := generateRequestLoop_head a count (i + 1) (n + 1) room (by omega) d rest hg
            have hne : n ≠ d.toNat := by
              rcases hhead with rfl | hle
              · exact Nat.pos_iff_ne_zero.mp hn0
              · omega
            rw [hg] at h
            simp only [requestFrees, hne, hn255] at h
            rw [← hg] at h
            obtain ⟨hlt, hsome⟩ := ih (i + 1) (n + 1) room (by omega) (by omega) j h
            rw [hshift]
            exact ⟨by omega, hsome⟩

theorem generateRequestPacket_frees (hwf : a.WellFormed) {length : Nat} {data : Bytes}
    (h : a.generateRequestPacket length = some data) :
    ∃ rest, data = packetIdRequest :: rest ∧
      ∀ j, requestFrees 1 rest j →
        j < a.size ∧ (a.lookup (a.bufferStart + UInt32.ofNat j)).isSome := by
  unfold generateRequestPacket at h
  split at h
  · cases h
  split at h
  · cases h
    exact ⟨[], rfl, fun j hj => absurd hj (requestFrees_nil 1 j)⟩
  split at h
  · cases h
    exact ⟨[], rfl, fun j hj => absurd hj (requestFrees_nil 1 j)⟩
  · cases h
    refine ⟨_, rfl, fun j hj => ?_⟩
    obtain ⟨hlt, hsome⟩ := generateRequestLoop_frees a _ _ 1 _ (by omega) (by omega) j hj
    rw [toNat_numPacketsArray] at hlt
    have hcap := hwf.size_le
    have hoff : a.offset (a.bufferStart + UInt32.ofNat j) = j := by
      have := a.bufferStart.toNat_lt
      have hj32 : j < 2 ^ 32 := by
        have : cryptoPacketBufferSize < 2 ^ 32 := by decide
        omega
      rw [offset, UInt32.dist_def, UInt32.toNat_add, UInt32.toNat_ofNat_of_lt' hj32]
      omega
    refine ⟨hlt, ?_⟩
    rw [← hwf.buffer_slotOf (by omega)]
    exact hsome

/-! ## Handled packets -/

/-- Packets were freed or marked: nothing is added, and only numbers in `freed` are removed. -/
structure Pruned (freed : UInt32 → Prop) (a b : PacketsArray) : Prop where
  wellFormed : b.WellFormed
  bufferStart_eq : b.bufferStart = a.bufferStart
  bufferEnd_eq : b.bufferEnd = a.bufferEnd
  data_eq : ∀ m d, b.lookup m = some d → ∃ d₀, a.lookup m = some d₀ ∧ d₀.data = d.data
  removed : ∀ m d, a.lookup m = some d → b.lookup m = none → freed m

variable {b c : PacketsArray} {freed : UInt32 → Prop}

theorem Pruned.refl (hwf : a.WellFormed) : Pruned freed a a where
  wellFormed := hwf
  bufferStart_eq := rfl
  bufferEnd_eq := rfl
  data_eq := fun _ d h => ⟨d, h, rfl⟩
  removed := fun m d h h' => by rw [h] at h'; exact nomatch h'

theorem Pruned.trans (hab : Pruned freed a b) (hbc : Pruned freed b c) : Pruned freed a c where
  wellFormed := hbc.wellFormed
  bufferStart_eq := hbc.bufferStart_eq.trans hab.bufferStart_eq
  bufferEnd_eq := hbc.bufferEnd_eq.trans hab.bufferEnd_eq
  data_eq := by
    intro m d h
    obtain ⟨d1, h1, e1⟩ := hbc.data_eq m d h
    obtain ⟨d0, h0, e0⟩ := hab.data_eq m d1 h1
    exact ⟨d0, h0, e0.trans e1⟩
  removed := by
    intro m d h h'
    cases hb : b.lookup m with
    | none => exact hab.removed m d h hb
    | some d1 => exact hbc.removed m d1 hb h'

theorem Pruned.mono {freed' : UInt32 → Prop} (hab : Pruned freed a b)
    (h : ∀ m, freed m → freed' m) : Pruned freed' a b :=
  { hab with removed := fun m d hm hn => h m (hab.removed m d hm hn) }

theorem pruned_requestSlot (hwf : a.WellFormed) {i : UInt32} (hi : a.offset i < a.size)
    (tempTime rttTime : UInt64) : Pruned freed a (a.requestSlot i tempTime rttTime) := by
  have hbuf := hwf.buffer_slotOf (Nat.lt_of_lt_of_le hi hwf.size_le)
  unfold requestSlot
  split
  · exact Pruned.refl hwf
  · rename_i packet hp
    rw [hp] at hbuf
    split
    · refine ⟨hwf.setSlot _ hi, rfl, rfl, ?_, ?_⟩
      · intro m d h
        rw [hwf.lookup_setSlot _ hi] at h
        split at h
        · rename_i hmi
          cases h
          exact ⟨packet, by rw [hmi, ← hbuf], rfl⟩
        · exact ⟨d, h, rfl⟩
      · intro m d h h'
        rw [hwf.lookup_setSlot _ hi] at h'
        split at h'
        · exact nomatch h'
        · rw [h] at h'; exact nomatch h'
    · exact Pruned.refl hwf

theorem pruned_freeSlot {s : RequestState} (hwf : s.array.WellFormed) {i : UInt32}
    (hi : s.array.offset i < s.array.size) : Pruned (· = i) s.array (freeSlot s i).array := by
  unfold freeSlot
  split
  · exact Pruned.refl hwf
  · refine ⟨hwf.setSlot _ hi, rfl, rfl, ?_, ?_⟩
    · intro m d h
      simp only [hwf.lookup_setSlot _ hi] at h
      split at h
      · cases h
      · exact ⟨d, h, rfl⟩
    · intro m d h h'
      simp only [hwf.lookup_setSlot _ hi] at h'
      split at h'
      · rename_i hmi; exact hmi
      · rw [h] at h'; exact nomatch h'

private theorem frees_of_frees_succ {count n n' : Nat} {i m : UInt32} {data data' : Bytes}
    (hcount : count < 2 ^ 32 - 1) (hmono : ∀ k, requestFrees n' data' k → requestFrees n data (k + 1))
    (h : dist (i + 1) m < count ∧ requestFrees n' data' (dist (i + 1) m)) :
    dist i m < count + 1 ∧ requestFrees n data (dist i m) := by
  have hmi : m ≠ i := by
    rintro rfl
    -- `i` itself is a full turn away from `i + 1`
    have h' := h.1
    rw [UInt32.dist_def, UInt32.toNat_add, UInt32.toNat_one] at h'
    omega
  rw [← UInt32.dist_add_one_left hmi]
  exact ⟨by omega, hmono _ h.2⟩

theorem handleRequestLoop_spec (tempTime rttTime : UInt64) (count : Nat) (i : UInt32) (n : Nat) (data : Bytes)
    (s : RequestState) (hwf : s.array.WellFormed) (hi : s.array.offset i + count ≤ s.array.size) :
    Pruned (fun m => dist i m < count ∧ requestFrees n data (dist i m)) s.array
      (handleRequestLoop tempTime rttTime count i n data s).2.array := by
  induction count generalizing i n data s with
  | zero => exact Pruned.refl hwf
  | succ count ih =>
    cases data with
    | nil => exact Pruned.refl hwf
    | cons d data =>
      have hin : s.array.offset i < s.array.size := by omega
      have hsz := hwf.size_le
      have hsmall : cryptoPacketBufferSize < 2 ^ 32 - 1 := by decide
      have hnext : ∀ t : PacketsArray, t.bufferStart = s.array.bufferStart →
          t.bufferEnd = s.array.bufferEnd → t.offset (i + 1) + count ≤ t.size := by
        intro t hs he
        have : s.array.offset (i + 1) = s.array.offset i + 1 :=
          dist_add_one (by unfold offset at hin; omega)
        unfold offset size at *
        rw [hs, he]
        omega
      -- the freed position, if any, is `i`
      have hself : requestFrees n (d :: data) 0 →
          Pruned (fun m => dist i m < count + 1 ∧ requestFrees n (d :: data) (dist i m)) s.array
            (freeSlot s i).array := by
        intro h0
        refine (pruned_freeSlot hwf hin).mono ?_
        rintro m rfl
        rw [dist_self]
        exact ⟨by omega, h0⟩
      rw [handleRequestLoop]
      by_cases hreq : n = d.toNat
      · -- requested: kept, and the counter restarts
        rw [if_pos hreq]
        have hkeep : Pruned (fun _ => False) s.array (s.array.requestSlot i tempTime rttTime) :=
          pruned_requestSlot hwf hin tempTime rttTime
        have hrec := ih (i + 1) 1 data
          { s with
            array := s.array.requestSlot i tempTime rttTime
            requested := s.requested + 1 } hkeep.wellFormed
          (hnext _ hkeep.bufferStart_eq hkeep.bufferEnd_eq)
        refine (hkeep.mono fun _ => False.elim).trans (hrec.mono fun m hm => ?_)
        refine frees_of_frees_succ (by omega) (fun k hk => ?_) hm
        simpa only [requestFrees, hreq, ↓reduceIte] using hk
      · rw [if_neg hreq]
        have hfree := hself hreq
        by_cases h255 : n = 255
        · rw [if_pos h255]
          by_cases hd : d = 0
          · rw [if_neg (by simpa using hd)]
            refine hfree.trans ((ih (i + 1) 1 data _ hfree.wellFormed
              (hnext _ hfree.bufferStart_eq hfree.bufferEnd_eq)).mono fun m hm => ?_)
            refine frees_of_frees_succ (by omega) (fun k hk => ?_) hm
            simp only [requestFrees, h255, hd, true_and]
            exact hk
          · rw [if_pos (by simpa using hd)]
            exact hfree
        · rw [if_neg h255]
          refine hfree.trans ((ih (i + 1) (n + 1) (d :: data) _ hfree.wellFormed
            (hnext _ hfree.bufferStart_eq hfree.bufferEnd_eq)).mono fun m hm => ?_)
          refine frees_of_frees_succ (by omega) (fun k hk => ?_) hm
          simpa only [requestFrees, hreq, h255, ↓reduceIte] using hk

theorem handleRequestPacket_spec (hwf : a.WellFormed) (data : Bytes)
    (latestSendTime rttTime tempTime : UInt64) :
    Pruned (fun m => ∃ rest, data = packetIdRequest :: rest ∧ a.offset m < a.size ∧
        requestFrees 1 rest (a.offset m)) a
      (a.handleRequestPacket data latestSendTime rttTime tempTime).2.1 := by
  cases data with
  | nil => exact Pruned.refl hwf
  | cons d rest =>
    unfold handleRequestPacket
    by_cases hd : d = packetIdRequest
    · subst hd
      by_cases hrest : rest = []
      · simp only [hrest]
        exact Pruned.refl hwf
      · have hloop := handleRequestLoop_spec tempTime rttTime a.numPacketsArray.toNat
          a.bufferStart 1 rest ⟨a, 0, 0⟩ hwf
          (by rw [toNat_numPacketsArray]; simp [offset_bufferStart])
        simp only [ne_eq, not_true_eq_false, hrest, ↓reduceIte]
        have hloop := hloop.mono fun m hm => (⟨rest, rfl, hm⟩ :
          ∃ rest', packetIdRequest :: rest = packetIdRequest :: rest' ∧
            a.offset m < a.size ∧ requestFrees 1 rest' (a.offset m))
        split <;> simp_all
    · simp only [ne_eq, hd]
      exact Pruned.refl hwf

end PacketsArray

end Toxcore

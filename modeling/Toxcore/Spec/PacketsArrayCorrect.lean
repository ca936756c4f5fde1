import Toxcore.Native.PacketsArray
import Toxcore.ForStd.UInt32

/-!
# `Packets_Array` as a map from packet numbers to packets

`PacketsArray.lookup` reads a packet array as a partial map defined on the cyclic
interval `{bufferStart, bufferEnd)`.  `WellFormed` is the representation invariant:
the interval fits the buffer, and every slot that belongs to no number of the
interval is empty.
-/

namespace Toxcore

open UInt32 (dist dist_def dist_self dist_eq_zero dist_inj dist_add_one dist_add_one_left dist_of_le dist_of_lt)

theorem slotOf_inj {s m n : UInt32} (hm : dist s m < cryptoPacketBufferSize)
    (hn : dist s n < cryptoPacketBufferSize) (h : slotOf m = slotOf n) : m = n :=
  UInt32.eq_of_mod_eq_of_dist_lt (by decide) hm hn (by simpa [slotOf] using h)

namespace PacketsArray

variable {a a' : PacketsArray} {m n : UInt32} {d : PacketData}

def offset (a : PacketsArray) (n : UInt32) : Nat := dist a.bufferStart n

/-- `num_packets_array` as a natural number. -/
def size (a : PacketsArray) : Nat := dist a.bufferStart a.bufferEnd

/-- The packet with number `n`, if `n` is in `{bufferStart, bufferEnd)` and not a hole. -/
def lookup (a : PacketsArray) (n : UInt32) : Option PacketData :=
  if a.offset n < a.size then a.buffer (slotOf n) else none

/-- The representation invariant of `Packets_Array`. -/
structure WellFormed (a : PacketsArray) : Prop where
  size_le : a.size ≤ cryptoPacketBufferSize
  empty_after : ∀ n, a.size ≤ a.offset n → a.offset n < cryptoPacketBufferSize → a.buffer (slotOf n) = none

theorem toNat_numPacketsArray (a : PacketsArray) : a.numPacketsArray.toNat = a.size := rfl

theorem offset_bufferStart (a : PacketsArray) : a.offset a.bufferStart = 0 := dist_self _

theorem wellFormed_empty : WellFormed empty where
  size_le := by simp [size, empty]
  empty_after := by simp [empty]

@[simp] theorem lookup_empty (n : UInt32) : lookup empty n = none := by
  unfold lookup
  split <;> rfl

theorem offset_lt_of_lookup (h : a.lookup n = some d) : a.offset n < a.size := by
  by_contra hlt
  simp [lookup, hlt] at h

theorem WellFormed.buffer_slotOf (hwf : a.WellFormed)
    (hn : a.offset n < cryptoPacketBufferSize) : a.buffer (slotOf n) = a.lookup n := by
  unfold lookup
  split
  · rfl
  · exact hwf.empty_after n (by omega) hn

/-! ## Writing one slot -/

@[simp] theorem setSlot_offset (a : PacketsArray) (n m : UInt32) (v : Option PacketData) :
    (a.setSlot n v).offset m = a.offset m := rfl

@[simp] theorem setSlot_size (a : PacketsArray) (n : UInt32) (v : Option PacketData) :
    (a.setSlot n v).size = a.size := rfl

@[simp] theorem setSlot_buffer_self (a : PacketsArray) (n : UInt32) (v : Option PacketData) :
    (a.setSlot n v).buffer (slotOf n) = v := by
  simp [setSlot]

theorem setSlot_buffer_of_ne (v : Option PacketData) (hm : a.offset m < cryptoPacketBufferSize)
    (hn : a.offset n < cryptoPacketBufferSize) (hne : m ≠ n) :
    (a.setSlot n v).buffer (slotOf m) = a.buffer (slotOf m) := by
  simp only [setSlot]
  rw [Function.update_of_ne]
  exact fun h => hne (slotOf_inj hm hn h)

section

variable (hwf : a.WellFormed)
include hwf

theorem WellFormed.setSlot (v : Option PacketData)
    (hn : a.offset n < a.size) : (a.setSlot n v).WellFormed where
  size_le := hwf.size_le
  empty_after := by
    intro m hm hcap
    simp only [setSlot_offset, setSlot_size] at hm hcap
    have hn' : a.offset n < cryptoPacketBufferSize := Nat.lt_of_lt_of_le hn hwf.size_le
    have hne : m ≠ n := by rintro rfl; omega
    rw [setSlot_buffer_of_ne v hcap hn' hne]
    exact hwf.empty_after m hm hcap

theorem WellFormed.lookup_setSlot (v : Option PacketData) (hn : a.offset n < a.size) :
    (a.setSlot n v).lookup m = if m = n then v else a.lookup m := by
  have hn' : a.offset n < cryptoPacketBufferSize := Nat.lt_of_lt_of_le hn hwf.size_le
  by_cases hmn : m = n
  · subst hmn
    simp [lookup, hn]
  · simp only [lookup, setSlot_offset, setSlot_size, hmn]
    by_cases hm : a.offset m < a.size
    · simp only [hm]
      exact setSlot_buffer_of_ne v (Nat.lt_of_lt_of_le hm hwf.size_le) hn' hmn
    · simp only [hm, ↓reduceIte]

/-! ## `add_data_to_buffer` -/

theorem addDataToBuffer_spec {calloc : Bool}
    (h : a.addDataToBuffer n d calloc = some a') :
    a.offset n < cryptoPacketBufferSize ∧ a.lookup n = none ∧ a'.WellFormed ∧
      a'.bufferStart = a.bufferStart ∧ a'.size = max a.size (a.offset n + 1) ∧
      ∀ m, a'.lookup m = if m = n then some d else a.lookup m := by
  change (if cryptoPacketBufferSize ≤ a.offset n then _ else _) = _ at h
  split at h
  · cases h
  have hcap : a.offset n < cryptoPacketBufferSize := by omega
  split at h
  · cases h
  rename_i hfree
  have hfree : a.buffer (slotOf n) = none := by simpa using hfree
  have hlook : a.lookup n = none := by rw [← hwf.buffer_slotOf hcap]; exact hfree
  split at h
  · cases h
  have hsmall : cryptoPacketBufferSize < 2 ^ 32 := by decide
  refine ⟨hcap, hlook, ?_⟩
  split at h
  · -- the packet lies at or past `buffer_end`: the interval grows
    rename_i hge
    change a.size ≤ a.offset n at hge
    cases h
    have hsz : dist a.bufferStart (n + 1) = a.offset n + 1 :=
      dist_add_one (by unfold offset at hcap; omega)
    refine ⟨⟨?_, ?_⟩, rfl, ?_, ?_⟩
    · change dist a.bufferStart (n + 1) ≤ _
      omega
    · intro m hm hmcap
      change dist a.bufferStart (n + 1) ≤ a.offset m at hm
      change a.offset m < _ at hmcap
      have hne : m ≠ n := by rintro rfl; omega
      rw [setSlot_buffer_of_ne _ hmcap hcap hne]
      exact hwf.empty_after m (by omega) hmcap
    · change dist a.bufferStart (n + 1) = _
      omega
    · intro m
      change (if a.offset m < dist a.bufferStart (n + 1) then
        (a.setSlot n (some d)).buffer (slotOf m) else none) = _
      by_cases hmn : m = n
      · subst hmn
        rw [if_pos (by omega), if_pos rfl, setSlot_buffer_self]
      · split
        · rw [setSlot_buffer_of_ne _ (by omega) hcap hmn]
          exact hwf.buffer_slotOf (by omega)
        · rw [lookup, if_neg (by omega)]
  · -- the packet fills a hole of the interval
    rename_i hge
    change ¬a.size ≤ a.offset n at hge
    cases h
    refine ⟨hwf.setSlot _ (by omega), rfl, ?_, fun m => hwf.lookup_setSlot _ (by omega)⟩
    simp only [setSlot_size]
    omega

theorem addDataToBuffer_isSome (hcap : a.offset n < cryptoPacketBufferSize)
    (hfree : a.lookup n = none) : (a.addDataToBuffer n d true).isSome := by
  have hslot : a.buffer (slotOf n) = none := by rw [hwf.buffer_slotOf hcap]; exact hfree
  change (if a.offset n ≥ cryptoPacketBufferSize then _ else _ : Option PacketsArray).isSome
  rw [if_neg (by omega)]
  simp only [hslot]
  simp only [Option.isSome_none, Bool.false_eq_true, ↓reduceIte, Bool.not_true]
  split <;> rfl

end

/-! ## `get_data_pointer` -/

private theorem getDataPointer_outside_iff :
    (a.bufferEnd - n > a.numPacketsArray ∨ n - a.bufferStart ≥ a.numPacketsArray) ↔
      a.size ≤ a.offset n := by
  change a.size < dist n a.bufferEnd ∨ a.size ≤ a.offset n ↔ _
  constructor
  · rintro (h | h)
    · by_contra hlt
      have := dist_of_le (s := a.bufferStart) (t := n) (n := a.bufferEnd) (by unfold size offset at hlt; omega)
      unfold size at h
      omega
    · exact h
  · exact .inr

theorem getDataPointer_eq_packet :
    a.getDataPointer n = .packet d ↔ a.lookup n = some d := by
  unfold getDataPointer lookup
  simp only [getDataPointer_outside_iff]
  by_cases h : a.offset n < a.size
  · rw [if_neg (by omega), if_pos h]
    cases hb : a.buffer (slotOf n) <;> simp
  · rw [if_pos (by omega), if_neg h]
    simp

theorem getDataPointer_eq_outside :
    a.getDataPointer n = .outside ↔ a.size ≤ a.offset n := by
  unfold getDataPointer
  simp only [getDataPointer_outside_iff]
  split
  · simp_all
  · cases hb : a.buffer (slotOf n) <;> simp_all

/-! ## `add_data_end_of_buffer` -/

theorem addDataEndOfBuffer_spec (hwf : a.WellFormed) {calloc : Bool} {id : UInt32}
    (h : a.addDataEndOfBuffer d calloc = some (id, a')) :
    a.size < cryptoPacketBufferSize ∧ id = a.bufferEnd ∧ a'.WellFormed ∧
      a'.bufferStart = a.bufferStart ∧ a'.bufferEnd = a.bufferEnd + 1 ∧ a'.size = a.size + 1 ∧
      ∀ m, a'.lookup m = if m = a.bufferEnd then some d else a.lookup m := by
  unfold addDataEndOfBuffer at h
  rw [toNat_numPacketsArray] at h
  split at h
  · cases h
  have hcap : a.size < cryptoPacketBufferSize := by omega
  split at h
  · cases h
  obtain ⟨rfl, rfl⟩ := h
  have hsmall : cryptoPacketBufferSize < 2 ^ 32 := by decide
  have hend : a.offset a.bufferEnd = a.size := rfl
  have hsz : dist a.bufferStart (a.bufferEnd + 1) = a.size + 1 :=
    dist_add_one (by unfold size at hcap; omega)
  refine ⟨hcap, rfl, ⟨?_, ?_⟩, rfl, rfl, hsz, ?_⟩
  · change dist a.bufferStart (a.bufferEnd + 1) ≤ _
    omega
  · intro m hm hmcap
    change dist a.bufferStart (a.bufferEnd + 1) ≤ a.offset m at hm
    change a.offset m < _ at hmcap
    have hne : m ≠ a.bufferEnd := by rintro rfl; omega
    rw [setSlot_buffer_of_ne _ hmcap (by omega) hne]
    exact hwf.empty_after m (by omega) hmcap
  · intro m
    change (if a.offset m < dist a.bufferStart (a.bufferEnd + 1) then
      (a.setSlot a.bufferEnd (some d)).buffer (slotOf m) else none) = _
    by_cases hme : m = a.bufferEnd
    · subst hme
      rw [if_pos (by omega), if_pos rfl, setSlot_buffer_self]
    · split
      · rename_i hlt
        rw [setSlot_buffer_of_ne _ (by omega) (by omega) hme]
        exact hwf.buffer_slotOf (by omega)
      · rename_i hlt
        rw [lookup, if_neg (by omega)]

theorem lookup_of_addDataEndOfBuffer {calloc : Bool} {id : UInt32}
    (h : a.addDataEndOfBuffer d calloc = some (id, a')) : a'.lookup id = some d := by
  unfold addDataEndOfBuffer at h
  rw [toNat_numPacketsArray] at h
  split at h
  · cases h
  rename_i hcap
  split at h
  · cases h
  obtain ⟨rfl, rfl⟩ := h
  have hsmall : cryptoPacketBufferSize < 2 ^ 32 := by decide
  have hsz : dist a.bufferStart (a.bufferEnd + 1) = a.size + 1 :=
    dist_add_one (by unfold size at hcap; omega)
  change (if a.size < dist a.bufferStart (a.bufferEnd + 1) then
    (a.setSlot a.bufferEnd (some d)).buffer (slotOf a.bufferEnd) else none) = _
  rw [if_pos (by omega), setSlot_buffer_self]

/-! ## `read_data_beg_buffer` -/

theorem readDataBegBuffer_eq_none (hwf : a.WellFormed) :
    a.readDataBegBuffer = none ↔ a.lookup a.bufferStart = none := by
  have h0 : a.offset a.bufferStart = 0 := offset_bufferStart a
  unfold readDataBegBuffer
  split
  · rename_i he
    have : a.size = 0 := dist_eq_zero.mpr he
    simp [lookup, this]
  · rename_i he
    rw [hwf.buffer_slotOf (n := a.bufferStart) (by rw [h0]; decide)]
    cases a.lookup a.bufferStart <;> simp

theorem readDataBegBuffer_spec (hwf : a.WellFormed) {id : UInt32}
    (h : a.readDataBegBuffer = some (id, d, a')) :
    id = a.bufferStart ∧ a.lookup a.bufferStart = some d ∧ a'.WellFormed ∧
      a'.bufferStart = a.bufferStart + 1 ∧ a'.bufferEnd = a.bufferEnd ∧ a'.size + 1 = a.size ∧
      ∀ m, a'.lookup m = if m = a.bufferStart then none else a.lookup m := by
  have h0 : a.offset a.bufferStart = 0 := offset_bufferStart a
  have hcap0 : a.offset a.bufferStart < cryptoPacketBufferSize := by rw [h0]; decide
  have hsmall : cryptoPacketBufferSize < 2 ^ 32 := by decide
  unfold readDataBegBuffer at h
  split at h
  · cases h
  rename_i he
  split at h
  · cases h
  rename_i data hslot
  obtain ⟨rfl, rfl, rfl⟩ := h
  have hlook := hwf.buffer_slotOf hcap0
  rw [hslot] at hlook
  have hsz : dist (a.bufferStart + 1) a.bufferEnd + 1 = a.size := dist_add_one_left he
  -- offsets shrink by one, except that `bufferStart` itself moves to the far end
  have hoff : ∀ m, m ≠ a.bufferStart → dist (a.bufferStart + 1) m + 1 = a.offset m :=
    fun m hm => dist_add_one_left hm
  have hoff0 : dist (a.bufferStart + 1) a.bufferStart = 2 ^ 32 - 1 := by
    rw [dist_def, UInt32.toNat_add, UInt32.toNat_one]; omega
  have hbuf : ∀ m, m ≠ a.bufferStart → a.offset m < cryptoPacketBufferSize →
      (a.setSlot a.bufferStart none).buffer (slotOf m) = a.buffer (slotOf m) :=
    fun m hm hmcap => setSlot_buffer_of_ne _ hmcap hcap0 hm
  have hwfsz := hwf.size_le
  refine ⟨rfl, hlook.symm, ⟨?_, ?_⟩, rfl, rfl, hsz, ?_⟩
  · change dist (a.bufferStart + 1) a.bufferEnd ≤ _
    omega
  · intro m hm hmcap
    change dist (a.bufferStart + 1) a.bufferEnd ≤ dist (a.bufferStart + 1) m at hm
    change dist (a.bufferStart + 1) m < _ at hmcap
    have hne : m ≠ a.bufferStart := by rintro rfl; omega
    have hom := hoff m hne
    by_cases hlast : a.offset m < cryptoPacketBufferSize
    · rw [hbuf m hne hlast]
      exact hwf.empty_after m (by omega) hlast
    · -- `m` is `CRYPTO_PACKET_BUFFER_SIZE` past the old start and reuses its slot
      have hslotEq : slotOf m = slotOf a.bufferStart := by
        have hm' : a.offset m = cryptoPacketBufferSize := by omega
        have := a.bufferStart.toNat_lt
        rw [offset, dist_def] at hm'
        simp only [slotOf, Fin.mk.injEq]
        simp only [cryptoPacketBufferSize] at hm' ⊢
        omega
      rw [hslotEq, setSlot_buffer_self]
  · intro m
    change (if dist (a.bufferStart + 1) m < dist (a.bufferStart + 1) a.bufferEnd then
      (a.setSlot a.bufferStart none).buffer (slotOf m) else none) = _
    by_cases hms : m = a.bufferStart
    · subst hms
      simp
    · have hom := hoff m hms
      split
      · rw [hbuf m hms (by omega)]
        exact hwf.buffer_slotOf (by omega)
      · rw [lookup, if_neg (by omega)]

/-! ## `clear_buffer_until` -/

@[simp] theorem clearSlots_bufferEnd (a : PacketsArray) (i : UInt32) (count : Nat) :
    (a.clearSlots i count).bufferEnd = a.bufferEnd := by
  induction count generalizing a i with
  | zero => rfl
  | succ count ih => exact ih _ _

theorem clearSlots_buffer_of_none (a : PacketsArray) (i : UInt32) (count : Nat)
    (j : Fin cryptoPacketBufferSize) (h : a.buffer j = none) :
    (a.clearSlots i count).buffer j = none := by
  induction count generalizing a i with
  | zero => exact h
  | succ count ih =>
    apply ih
    simp only [PacketsArray.setSlot, Function.update_apply]
    split
    · rfl
    · exact h

theorem clearSlots_buffer_of_lt (a : PacketsArray) (i m : UInt32) (count : Nat)
    (h : dist i m < count) : (a.clearSlots i count).buffer (slotOf m) = none := by
  induction count generalizing a i with
  | zero => omega
  | succ count ih =>
    by_cases hmi : m = i
    · subst hmi
      rw [clearSlots]
      exact clearSlots_buffer_of_none _ _ _ _ (setSlot_buffer_self _ _ _)
    · have := dist_add_one_left (s := i) hmi
      exact ih _ _ (by omega)

theorem clearSlots_buffer_of_ge (a : PacketsArray) (i m : UInt32) (count : Nat)
    (hcount : count ≤ dist i m) (hm : dist i m < cryptoPacketBufferSize) :
    (a.clearSlots i count).buffer (slotOf m) = a.buffer (slotOf m) := by
  induction count generalizing a i with
  | zero => rfl
  | succ count ih =>
    have hmi : m ≠ i := by rintro rfl; rw [dist_self] at hcount; omega
    have hd := dist_add_one_left (s := i) hmi
    rw [clearSlots, ih _ _ (by omega) (by omega)]
    simp only [PacketsArray.setSlot]
    rw [Function.update_of_ne]
    exact fun h => hmi (slotOf_inj (s := i) hm (by rw [dist_self]; decide) h)

private theorem clearBufferUntil_fails_iff :
    (a.bufferEnd - n ≥ a.numPacketsArray ∨ n - a.bufferStart > a.numPacketsArray) ↔
      ¬(0 < a.offset n ∧ a.offset n ≤ a.size) := by
  change a.size ≤ dist n a.bufferEnd ∨ a.size < a.offset n ↔ _
  by_cases hle : a.offset n ≤ a.size
  · have := dist_of_le (s := a.bufferStart) (t := n) (n := a.bufferEnd) hle
    unfold size offset at *
    omega
  · omega

theorem clearBufferUntil_eq_none :
    a.clearBufferUntil n = none ↔ ¬(0 < a.offset n ∧ a.offset n ≤ a.size) := by
  unfold clearBufferUntil
  simp only [clearBufferUntil_fails_iff]
  split <;> simp_all

theorem bufferStart_of_clearBufferUntil (h : a.clearBufferUntil n = some a') :
    a'.bufferStart = n := by
  unfold clearBufferUntil at h
  simp only at h
  split at h
  · cases h
  · cases h
    rfl

theorem clearBufferUntil_spec (hwf : a.WellFormed) (h : a.clearBufferUntil n = some a') :
    0 < a.offset n ∧ a.offset n ≤ a.size ∧ a'.WellFormed ∧ a'.bufferStart = n ∧
      a'.bufferEnd = a.bufferEnd ∧ a'.size = a.size - a.offset n ∧
      ∀ m, a'.lookup m = if a.offset m < a.offset n then none else a.lookup m := by
  have hrange : 0 < a.offset n ∧ a.offset n ≤ a.size := by
    by_contra hc
    rw [clearBufferUntil_eq_none.mpr hc] at h
    exact nomatch h
  obtain ⟨hpos, hle⟩ := hrange
  unfold clearBufferUntil at h
  simp only [clearBufferUntil_fails_iff, hpos, hle, and_self, not_true_eq_false, ↓reduceIte,
    Option.some.injEq] at h
  subst h
  have hwfsz := hwf.size_le
  have hsmall : 2 * cryptoPacketBufferSize < 2 ^ 32 := by decide
  have hsz : dist n a.bufferEnd = a.size - a.offset n :=
    dist_of_le (s := a.bufferStart) (t := n) (n := a.bufferEnd) hle
  have hge : ∀ m, a.offset n ≤ a.offset m → dist n m = a.offset m - a.offset n :=
    fun m hm => dist_of_le (s := a.bufferStart) hm
  have hlt : ∀ m, a.offset m < a.offset n → dist n m = 2 ^ 32 + a.offset m - a.offset n :=
    fun m hm => dist_of_lt (s := a.bufferStart) hm
  refine ⟨hpos, hle, ⟨?_, ?_⟩, rfl, clearSlots_bufferEnd _ _ _, ?_, ?_⟩
  · change dist n (a.clearSlots _ _).bufferEnd ≤ _
    rw [clearSlots_bufferEnd]; omega
  · intro m hm hmcap
    change dist n (a.clearSlots _ _).bufferEnd ≤ dist n m at hm
    rw [clearSlots_bufferEnd] at hm
    change dist n m < _ at hmcap
    change (a.clearSlots a.bufferStart (a.offset n)).buffer (slotOf m) = none
    have hom : a.offset n ≤ a.offset m := by
      by_contra hc
      have := hlt m (by omega)
      omega
    have hdm := hge m hom
    by_cases hcap : a.offset m < cryptoPacketBufferSize
    · rw [clearSlots_buffer_of_ge _ _ _ _ hom hcap]
      exact hwf.empty_after m (by omega) hcap
    · -- `m` reuses the slot of a number that was just cleared
      obtain ⟨k, hk, hslot⟩ : ∃ k, a.offset k < a.offset n ∧ slotOf m = slotOf k := by
        refine ⟨m - 32768, ?_, ?_⟩
        · have := m.toNat_lt
          simp only [offset, dist_def, UInt32.toNat_sub, cryptoPacketBufferSize,
            show (32768 : UInt32).toNat = 32768 from rfl] at *
          omega
        · simp only [slotOf, Fin.mk.injEq, UInt32.toNat_sub, cryptoPacketBufferSize,
            show (32768 : UInt32).toNat = 32768 from rfl]
          omega
      rw [hslot]
      exact clearSlots_buffer_of_lt _ _ _ _ hk
  · rw [clearSlots_bufferEnd]; exact hsz
  · intro m
    change (if dist n m < dist n (a.clearSlots _ _).bufferEnd then
      (a.clearSlots a.bufferStart (a.offset n)).buffer (slotOf m) else none) = _
    rw [clearSlots_bufferEnd]
    by_cases hmn : a.offset m < a.offset n
    · have := hlt m hmn
      rw [if_neg (by omega), if_pos hmn]
    · have hdm := hge m (by omega)
      split
      · rw [clearSlots_buffer_of_ge _ _ _ _ (show a.offset n ≤ a.offset m by omega)
          (show a.offset m < _ by omega)]
        exact hwf.buffer_slotOf (by omega)
      · rw [lookup, if_neg (by omega)]

/-! ## `set_buffer_end` -/

theorem setBufferEnd_spec (hwf : a.WellFormed) (h : a.setBufferEnd n = some a') :
    a.offset n ≤ cryptoPacketBufferSize ∧ a.size ≤ a.offset n ∧ a'.WellFormed ∧
      a'.bufferStart = a.bufferStart ∧ a'.bufferEnd = n ∧ a'.size = a.offset n ∧
      ∀ m, a'.lookup m = a.lookup m := by
  unfold setBufferEnd at h
  split at h
  · cases h
  rename_i hcap
  split at h
  · cases h
  rename_i hend
  cases h
  change ¬a.offset n > _ at hcap
  change ¬dist a.bufferEnd n > _ at hend
  have hwfsz := hwf.size_le
  have hsmall : 2 * cryptoPacketBufferSize < 2 ^ 32 := by decide
  have hge : a.size ≤ a.offset n := by
    by_contra hc
    have := dist_of_lt (s := a.bufferStart) (t := a.bufferEnd) (n := n) (by unfold size offset at hc; omega)
    unfold size offset at *
    omega
  refine ⟨by omega, hge, ⟨?_, ?_⟩, rfl, rfl, rfl, ?_⟩
  · change a.offset n ≤ _
    omega
  · intro m hm hmcap
    exact hwf.empty_after m (Nat.le_trans hge hm) hmcap
  · intro m
    change (if a.offset m < a.offset n then a.buffer (slotOf m) else none) = _
    split
    · exact hwf.buffer_slotOf (by omega)
    · rw [lookup, if_neg (by omega)]

end PacketsArray

end Toxcore

import Mathlib.Algebra.Order.Ring.Int
import Mathlib.Data.UInt
import Toxcore.Native.PingArray

/-!
# Ping arrays

What happens to one slot of the ring: it is neither cleared nor overwritten before it times
out, as long as fewer than `total_size` pings are added after it.  `dht_ping_array` has 512
slots and a timeout of five seconds.
-/

namespace Toxcore

open List

namespace PingArray

/-- A ping array as `new_dht` makes it. -/
structure Sized (array : PingArray) : Prop where
  totalSize : array.totalSize = 512
  timeout : array.timeout = 5
  length : array.entries.length = 512

def slotOf (pingId : UInt64) : Nat := pingId.toNat % 512

theorem sized_pingArrayNew {array : PingArray} (h : pingArrayNew 512 5 = some array) :
    array.Sized := by
  cases h
  exact ⟨rfl, rfl, length_replicate⟩

variable {array : PingArray} {now random : UInt64} {malloc : Bool} {data : Bytes}

/-! ## Clearing -/

theorem Sized.clearTimedoutLoop (h : array.Sized) (count : Nat) :
    (clearTimedoutLoop now count array).Sized := by
  induction count generalizing array with
  | zero => exact h
  | succ count ih =>
    unfold PingArray.clearTimedoutLoop
    simp only
    split
    · exact h
    · split
      · exact h
      · exact ih ⟨h.totalSize, h.timeout, by simpa [clearEntry] using h.length⟩

theorem lastAdded_clearTimedoutLoop (count : Nat) (array : PingArray) :
    (clearTimedoutLoop now count array).lastAdded = array.lastAdded := by
  induction count generalizing array with
  | zero => rfl
  | succ count ih =>
    unfold clearTimedoutLoop
    simp only
    split
    · rfl
    · split
      · rfl
      · exact ih _

def Lasting (now : UInt64) (entry : PingArrayEntry) : Prop :=
  entry = emptyPingArrayEntry ∨ monoTimeIsTimeout now entry.pingTime 5 = false

theorem entries_clearTimedoutLoop (h : array.Sized) {i : Nat} {entry : PingArrayEntry}
    (hentry : array.entries[i]? = some entry) (hlasting : Lasting now entry) (count : Nat) :
    (clearTimedoutLoop now count array).entries[i]? = some entry := by
  induction count generalizing array with
  | zero => exact hentry
  | succ count ih =>
    unfold clearTimedoutLoop
    simp only
    split
    · exact hentry
    · rename_i other hother
      split
      · exact hentry
      · rename_i htimeout
        refine ih ⟨h.totalSize, h.timeout, by simpa [clearEntry] using h.length⟩ ?_
        simp only [clearEntry, getElem?_set]
        split
        · rename_i heq
          -- the entry itself is timed out, so it is empty
          rw [heq, hentry] at hother
          cases hother
          rw [h.timeout] at htimeout
          rcases hlasting with rfl | hlasting
          · rw [if_pos]
            rw [heq]
            exact (List.getElem?_eq_some_iff.mp hentry).1
          · exact absurd hlasting (by simpa using htimeout)
        · exact hentry

/-! ## Adding -/

/-- The array in which `ping_array_add` writes the new entry. -/
def prepared (array : PingArray) (now : UInt64) : PingArray :=
  (array.pingArrayClearTimedout now).makeRoom

theorem pingArrayAdd_eq (array : PingArray) (now random : UInt64) (malloc : Bool) (data : Bytes) :
    array.pingArrayAdd now random malloc data =
      if !malloc then (0, array.prepared now)
      else
        (makePingId (array.prepared now).totalSize random
            ((array.prepared now).lastAdded % (array.prepared now).totalSize),
          { array.prepared now with
            entries := (array.prepared now).entries.set
              ((array.prepared now).lastAdded % (array.prepared now).totalSize).toNat
              { data := some data
                pingTime := now
                pingId := makePingId (array.prepared now).totalSize random
                  ((array.prepared now).lastAdded % (array.prepared now).totalSize) }
            lastAdded := (array.prepared now).lastAdded + 1 }) :=
  rfl

theorem lastAdded_prepared (array : PingArray) (now : UInt64) :
    (array.prepared now).lastAdded = array.lastAdded := by
  have hclear : (array.pingArrayClearTimedout now).lastAdded = array.lastAdded :=
    lastAdded_clearTimedoutLoop _ _
  unfold prepared makeRoom
  simp only
  split <;> exact hclear

theorem Sized.prepared (h : array.Sized) (now : UInt64) : (array.prepared now).Sized := by
  have hclear : (array.pingArrayClearTimedout now).Sized := h.clearTimedoutLoop _
  unfold PingArray.prepared makeRoom
  simp only
  split
  · exact ⟨hclear.totalSize, hclear.timeout, by simpa [clearEntry] using hclear.length⟩
  · exact hclear

theorem Sized.pingArrayAdd (h : array.Sized) : (array.pingArrayAdd now random malloc data).2.Sized := by
  have hprepared := h.prepared now
  rw [pingArrayAdd_eq]
  split
  · exact hprepared
  · exact ⟨hprepared.totalSize, hprepared.timeout, (length_set).trans hprepared.length⟩

theorem toNat_lastAdded_mod (h : array.Sized) :
    (array.lastAdded % array.totalSize).toNat = array.lastAdded.toNat % 512 := by
  rw [h.totalSize]
  rfl

/-- A slot of the ring with its entry, after which at most `adds` pings were added. -/
structure Slot (array : PingArray) (i : Nat) (entry : PingArrayEntry) (adds : Nat) : Prop where
  sized : array.Sized
  entry : array.entries[i]? = some entry
  added : ∃ k, k ≤ adds ∧ array.lastAdded.toNat % 512 = (i + 1 + k) % 512

variable {i adds : Nat} {entry : PingArrayEntry}

theorem Slot.lt (h : array.Slot i entry adds) : i < 512 := by
  rw [← h.sized.length]
  exact (List.getElem?_eq_some_iff.mp h.entry).1

theorem toNat_lastAdded_succ (array : PingArray) :
    (array.lastAdded + 1).toNat % 512 = (array.lastAdded.toNat + 1) % 512 := by
  rw [UInt32.toNat_add]
  simp only [UInt32.toNat_one]
  omega

theorem entries_prepared (h : array.Sized) (hentry : array.entries[i]? = some entry)
    (hlasting : Lasting now entry) (hother : array.lastAdded.toNat % 512 ≠ i) :
    (array.prepared now).entries[i]? = some entry := by
  have hclear : (array.pingArrayClearTimedout now).Sized := h.clearTimedoutLoop _
  have hentry : (array.pingArrayClearTimedout now).entries[i]? = some entry :=
    entries_clearTimedoutLoop h hentry hlasting _
  have hlast : (array.pingArrayClearTimedout now).lastAdded = array.lastAdded :=
    lastAdded_clearTimedoutLoop _ _
  rw [← hlast, ← toNat_lastAdded_mod hclear] at hother
  unfold prepared makeRoom
  simp only
  split
  · simp only [clearEntry]
    rw [getElem?_set_ne hother, hentry]
  · exact hentry

theorem Slot.pingArrayAdd (h : array.Slot i entry adds) (hlasting : Lasting now entry)
    (hadds : adds + 1 < 512) :
    (array.pingArrayAdd now random malloc data).2.Slot i entry (adds + 1) := by
  obtain ⟨k, hk, hadded⟩ := h.added
  -- the next slot is another one
  have hother : array.lastAdded.toNat % 512 ≠ i := by
    omega
  have hentry := entries_prepared h.sized h.entry hlasting hother
  have hsucc := toNat_lastAdded_succ (array.prepared now)
  rw [← lastAdded_prepared array now] at hadded hother
  rw [← toNat_lastAdded_mod (h.sized.prepared now)] at hother
  refine ⟨h.sized.pingArrayAdd, ?_, ?_⟩
  · rw [pingArrayAdd_eq]
    split
    · exact hentry
    · exact (getElem?_set_ne hother).trans hentry
  · rw [pingArrayAdd_eq]
    split
    · exact ⟨k, by omega, hadded⟩
    · exact ⟨k + 1, by omega, hsucc.trans (by omega)⟩

theorem toNat_makePingId {size : UInt32} (random : UInt64) {index : UInt32} (hdvd : size.toNat ∣ 2 ^ 64)
    (hindex : index.toNat < size.toNat) :
    makePingId size random index ≠ 0 ∧ (makePingId size random index).toNat % size.toNat = index.toNat := by
  have hrandom := random.toNat_lt
  obtain ⟨k, hk⟩ := hdvd
  have hquotient : random.toNat / size.toNat < k := by
    rw [Nat.div_lt_iff_lt_mul (Nat.zero_lt_of_lt hindex), Nat.mul_comm, ← hk]
    exact hrandom
  -- the multiple of the size below the random number leaves room for an index
  have hroom : random.toNat / size.toNat * size.toNat + size.toNat ≤ 2 ^ 64 := by
    rw [hk, ← Nat.succ_mul, Nat.mul_comm size.toNat]
    exact Nat.mul_le_mul_right _ hquotient
  have hid : (random / size.toUInt64 * size.toUInt64 + index.toUInt64).toNat =
      random.toNat / size.toNat * size.toNat + index.toNat := by
    rw [UInt64.toNat_add, UInt64.toNat_mul, UInt64.toNat_div, UInt32.toNat_toUInt64, UInt32.toNat_toUInt64]
    rw [Nat.mod_eq_of_lt (show random.toNat / size.toNat * size.toNat < 2 ^ 64 by omega)]
    exact Nat.mod_eq_of_lt (by omega)
  have hmod : ∀ n, (n * size.toNat + index.toNat) % size.toNat = index.toNat := by
    intro n
    rw [Nat.mul_comm, Nat.mul_add_mod, Nat.mod_eq_of_lt hindex]
  rw [makePingId]
  split
  · rename_i hzero
    rw [hzero, UInt64.zero_add]
    have hnat := congrArg UInt64.toNat hzero
    have hzero : (0 : UInt64).toNat = 0 := rfl
    refine ⟨fun heq => ?_, ?_⟩
    · have heq := congrArg UInt64.toNat heq
      rw [UInt32.toNat_toUInt64] at heq
      omega
    · rw [UInt32.toNat_toUInt64, Nat.mod_self]
      omega
  · rename_i hnonzero
    refine ⟨hnonzero, ?_⟩
    rw [hid]
    exact hmod _

theorem slotOf_makePingId (random : UInt64) {index : UInt32} (h : index.toNat < 512) :
    slotOf (makePingId 512 random index) = index.toNat := by
  have hdvd : (512 : UInt32).toNat ∣ 2 ^ 64 := ⟨2 ^ 55, rfl⟩
  exact (toNat_makePingId random hdvd h).2

theorem slot_pingArrayAdd (h : array.Sized) (hadd : (array.pingArrayAdd now random malloc data).1 ≠ 0) :
    (array.pingArrayAdd now random malloc data).2.Slot
      (slotOf (array.pingArrayAdd now random malloc data).1)
      { data := some data, pingTime := now
        pingId := (array.pingArrayAdd now random malloc data).1 } 0 := by
  have hprepared := h.prepared now
  have hmod := toNat_lastAdded_mod hprepared
  have hsucc := toNat_lastAdded_succ (array.prepared now)
  have hindex : ((array.prepared now).lastAdded % (array.prepared now).totalSize).toNat < 512 := by
    omega
  have hslot := slotOf_makePingId random hindex
  rw [← hprepared.totalSize] at hslot
  have hsized : (array.pingArrayAdd now random malloc data).2.Sized := h.pingArrayAdd
  rw [pingArrayAdd_eq] at hadd hsized ⊢
  split
  · rename_i hmalloc
    rw [if_pos hmalloc] at hadd
    exact absurd rfl hadd
  · rename_i hmalloc
    rw [if_neg hmalloc] at hsized
    refine ⟨hsized, ?_, 0, Nat.le_refl 0, ?_⟩
    · simp only [hslot]
      exact getElem?_set_self (by rw [hprepared.length]; exact hindex)
    · simp only [hslot]
      omega

/-! ## Checking -/

theorem Sized.pingArrayCheck (h : array.Sized) (now : UInt64) (length : Nat) (pingId : UInt64) :
    (array.pingArrayCheck now length pingId).2.Sized := by
  unfold PingArray.pingArrayCheck
  simp only
  split_ifs
  · exact h
  · split
    · exact h
    · split_ifs
      · exact h
      · exact h
      · split
        · exact h
        · split_ifs
          · exact h
          · exact ⟨h.totalSize, h.timeout, (length_set).trans h.length⟩

theorem toNat_mod_totalSize (h : array.Sized) (pingId : UInt64) :
    (pingId % array.totalSize.toUInt64).toUInt32.toNat = slotOf pingId := by
  rw [h.totalSize, slotOf, UInt64.toNat_toUInt32, UInt64.toNat_mod]
  have hsize : (512 : UInt32).toUInt64.toNat = 512 := rfl
  rw [hsize]
  omega

theorem Slot.pingArrayCheck (h : array.Slot i entry adds) {pingId : UInt64} {length : Nat}
    (hkeep : entry.pingId = pingId → ∀ data, entry.data = some data → length < data.length) :
    (array.pingArrayCheck now length pingId).2.Slot i entry adds := by
  have hsized := h.sized.pingArrayCheck now length pingId
  refine ⟨hsized, ?_, ?_⟩
  · unfold PingArray.pingArrayCheck
    simp only [toNat_mod_totalSize h.sized]
    split_ifs
    · exact h.entry
    · split
      · exact h.entry
      · rename_i other hother
        split_ifs with hother' htimeout
        · exact h.entry
        · exact h.entry
        · split
          · exact h.entry
          · rename_i data hdata
            split_ifs with hlength
            · exact h.entry
            · simp only [clearEntry, toNat_mod_totalSize h.sized]
              rw [getElem?_set_ne, h.entry]
              rintro rfl
              rw [h.entry] at hother
              cases hother
              exact hlength (hkeep (not_not.mp hother') data hdata)
  · have hlast : (array.pingArrayCheck now length pingId).2.lastAdded = array.lastAdded := by
      unfold PingArray.pingArrayCheck
      simp only
      split_ifs
      · rfl
      · split
        · rfl
        · split_ifs
          · rfl
          · rfl
          · split
            · rfl
            · split_ifs <;> rfl
    rw [hlast]
    exact h.added

theorem pingArrayCheck_of_slot {pingId pingTime : UInt64} {length : Nat} (hid : pingId ≠ 0)
    (h : array.Slot (slotOf pingId) { data := some data, pingTime, pingId } adds)
    (htimeout : monoTimeIsTimeout now pingTime 5 = false) (hlength : data.length ≤ length) :
    (array.pingArrayCheck now length pingId).1 = some data ∧
      (array.pingArrayCheck now length pingId).2.Slot (slotOf pingId) emptyPingArrayEntry adds := by
  have hsized := h.sized.pingArrayCheck now length pingId
  have hlt := h.lt
  have hcheck : array.pingArrayCheck now length pingId =
      (some data, array.clearEntry (pingId % array.totalSize.toUInt64).toUInt32) := by
    unfold PingArray.pingArrayCheck
    rw [if_neg hid]
    simp only [toNat_mod_totalSize h.sized, h.entry]
    rw [if_neg (by simp), h.sized.timeout, show ((5 : UInt32).toUInt64) = 5 from rfl, htimeout,
      if_neg (by simp), if_neg (Nat.not_lt.mpr hlength)]
  rw [hcheck] at hsized ⊢
  refine ⟨rfl, hsized, ?_, h.added⟩
  simp only [clearEntry, toNat_mod_totalSize h.sized]
  exact getElem?_set_self (by rw [h.sized.length]; exact hlt)

theorem pingArrayCheck_of_empty {pingId : UInt64} {length : Nat}
    (h : array.Slot (slotOf pingId) emptyPingArrayEntry adds) :
    (array.pingArrayCheck now length pingId).1 = none := by
  unfold PingArray.pingArrayCheck
  simp only [toNat_mod_totalSize h.sized, h.entry]
  split_ifs with hzero hid
  · rfl
  · rfl
  · exact absurd (not_not.mp hid).symm hzero
  · rfl

end PingArray

end Toxcore

import Toxcore.Spec.PingArrayCorrect

/-!
# Runs of a ping array

A ping array of any size against the history of its calls. The counters wrap, but a slot holds the last ping
that was added to it, until that ping is given back or has timed out.
-/

namespace Toxcore

open List

inductive PingCall where
  | add (now random : UInt64) (data : Bytes)
  | check (now : UInt64) (length : Nat) (pingId : UInt64)
deriving DecidableEq

def PingCall.now : PingCall → UInt64
  | .add now _ _ => now
  | .check now _ _ => now

inductive PingEvent where
  | added (now : UInt64) (data : Bytes) (pingId : UInt64)
  | checked (now : UInt64) (length : Nat) (pingId : UInt64) (result : Option Bytes)
deriving DecidableEq

namespace PingEvent

def AddsTo (size slot : Nat) : PingEvent → Prop
  | .added _ _ pingId => pingId.toNat % size = slot
  | .checked .. => False

def Returns (pingId : UInt64) : PingEvent → Prop
  | .added .. => False
  | .checked _ _ pingId' result => result.isSome ∧ pingId' = pingId

end PingEvent

structure LoggedPings where
  history : List PingEvent
  array : PingArray

def LoggedPings.call (pings : LoggedPings) : PingCall → LoggedPings
  | .add now random data =>
    let added := pings.array.pingArrayAdd now random true data
    { history := .added now data added.1 :: pings.history, array := added.2 }
  | .check now length pingId =>
    let checked := pings.array.pingArrayCheck now length pingId
    { history := .checked now length pingId checked.1 :: pings.history, array := checked.2 }

def PingArray.run (array : PingArray) (calls : List PingCall) : LoggedPings :=
  calls.foldl LoggedPings.call { history := [], array }

def Pending (size : Nat) (history : List PingEvent) (now : UInt64) (data : Bytes) (pingId : UInt64) : Prop :=
  ∃ later earlier, history = later ++ PingEvent.added now data pingId :: earlier ∧
    ∀ event ∈ later, ¬event.AddsTo size (pingId.toNat % size) ∧ ¬event.Returns pingId

/-- Every check returned the data of a pending ping that fits, and nothing if there is none. -/
def OneShot (size timeout : UInt32) (history : List PingEvent) : Prop :=
  ∀ later now length pingId result earlier,
    history = later ++ PingEvent.checked now length pingId result :: earlier →
    ∀ data, result = some data ↔ ∃ time, Pending size.toNat earlier time data pingId ∧
      now.toNat < time.toNat + timeout.toNat ∧ data.length ≤ length

/-! ## The history -/

variable {size : Nat} {history : List PingEvent} {now time : UInt64} {data data' : Bytes}
  {pingId pingId' : UInt64}

theorem pending_added : Pending size (.added now data pingId :: history) time data' pingId' ↔
    (time = now ∧ data' = data ∧ pingId' = pingId) ∨
      (pingId.toNat % size ≠ pingId'.toNat % size ∧ Pending size history time data' pingId') := by
  constructor
  · intro h
    obtain ⟨later, earlier, hhistory, hlater⟩ := h
    -- the pending add is the new one or lies before it
    cases later with
    | nil =>
      injection hhistory with hevent
      injection hevent with htime hdata hid
      exact .inl ⟨htime.symm, hdata.symm, hid.symm⟩
    | cons event later =>
      injection hhistory with hevent hrest
      refine .inr ⟨?_, later, earlier, hrest, fun e he => hlater e (mem_cons_of_mem _ he)⟩
      have hfirst := (hlater event mem_cons_self).1
      rwa [← hevent] at hfirst
  · intro h
    cases h with
    | inl heq =>
      obtain ⟨rfl, rfl, rfl⟩ := heq
      exact ⟨[], history, rfl, fun e he => absurd he not_mem_nil⟩
    | inr hold =>
      obtain ⟨hslot, later, earlier, hhistory, hlater⟩ := hold
      refine ⟨.added now data pingId :: later, earlier, by rw [hhistory]; rfl, fun e he => ?_⟩
      cases mem_cons.mp he with
      | inl heq =>
        rw [heq]
        exact ⟨hslot, fun hreturns => hreturns⟩
      | inr he => exact hlater e he

theorem pending_checked {length : Nat} {result : Option Bytes} :
    Pending size (.checked now length pingId result :: history) time data' pingId' ↔
      Pending size history time data' pingId' ∧ ¬(result.isSome ∧ pingId = pingId') := by
  constructor
  · intro h
    obtain ⟨later, earlier, hhistory, hlater⟩ := h
    cases later with
    | nil =>
      injection hhistory with hevent
      cases hevent
    | cons event later =>
      injection hhistory with hevent hrest
      refine ⟨⟨later, earlier, hrest, fun e he => hlater e (mem_cons_of_mem _ he)⟩, ?_⟩
      have hfirst := (hlater event mem_cons_self).2
      rwa [← hevent] at hfirst
  · intro h
    obtain ⟨⟨later, earlier, hhistory, hlater⟩, hnot⟩ := h
    refine ⟨.checked now length pingId result :: later, earlier, by rw [hhistory]; rfl, fun e he => ?_⟩
    cases mem_cons.mp he with
    | inl heq =>
      rw [heq]
      exact ⟨fun hadds => hadds, hnot⟩
    | inr he => exact hlater e he

namespace PingArray

/-! ## Arrays of any size -/

/-- A ping array as `ping_array_new` makes it. -/
structure Shaped (size timeout : UInt32) (array : PingArray) : Prop where
  totalSize : array.totalSize = size
  timeout : array.timeout = timeout
  length : array.entries.length = size.toNat

variable {array : PingArray}

theorem size_of_pingArrayNew {size timeout : UInt32} (h : pingArrayNew size timeout = some array) :
    size.toNat ≠ 0 ∧ size.toNat ∣ 2 ^ 64 ∧ array.Shaped size timeout ∧
      array.entries = List.replicate size.toNat emptyPingArrayEntry := by
  unfold pingArrayNew at h
  split at h
  · cases h
  · rename_i hzero
    split at h
    · cases h
    · rename_i hpower
      cases h
      have hsize : size.toNat ≠ 0 := fun heq => hzero (.inl (UInt32.toNat_inj.mp heq))
      -- the source tests for a power of two by its bits
      have hland : size.toNat &&& (size.toNat - 1) = 0 := by
        have hnat := congrArg UInt32.toNat (not_not.mp hpower)
        have hone : (1 : UInt32) ≤ size := UInt32.le_iff_toNat_le.mpr (Nat.one_le_iff_ne_zero.mpr hsize)
        rwa [UInt32.toNat_and, UInt32.toNat_sub_of_le _ _ hone] at hnat
      obtain ⟨k, hk⟩ := (Nat.and_sub_one_eq_zero_iff_isPowerOfTwo hsize).mp hland
      have hlt := size.toNat_lt
      rw [hk] at hlt
      have hexp : k ≤ 64 := Nat.le_trans (Nat.le_of_lt ((Nat.pow_lt_pow_iff_right (by decide)).mp hlt)) (by decide)
      refine ⟨hsize, ?_, ⟨rfl, rfl, length_replicate⟩, rfl⟩
      rw [hk]
      exact Nat.pow_dvd_pow 2 hexp

structure Cleared (now : UInt64) (array array' : PingArray) : Prop where
  totalSize : array'.totalSize = array.totalSize
  timeout : array'.timeout = array.timeout
  length : array'.entries.length = array.entries.length
  entry : ∀ (i : Nat) (entry : PingArrayEntry), array.entries[i]? = some entry →
    array'.entries[i]? = some entry ∨ (array'.entries[i]? = some emptyPingArrayEntry ∧
      monoTimeIsTimeout now entry.pingTime array.timeout.toUInt64)

theorem Cleared.refl (now : UInt64) (array : PingArray) : Cleared now array array :=
  ⟨rfl, rfl, rfl, fun _ _ h => .inl h⟩

theorem Cleared.trans {array' array'' : PingArray} (h1 : Cleared now array array') (h2 : Cleared now array' array'')
    : Cleared now array array'' where
  totalSize := h2.totalSize.trans h1.totalSize
  timeout := h2.timeout.trans h1.timeout
  length := h2.length.trans h1.length
  entry i entry hentry := by
    cases h1.entry i entry hentry with
    | inl hsame =>
      have hnext := h2.entry i entry hsame
      rwa [h1.timeout] at hnext
    | inr hempty =>
      -- an empty entry stays empty
      cases h2.entry i _ hempty.1 with
      | inl hsame => exact .inr ⟨hsame, hempty.2⟩
      | inr hagain => exact .inr ⟨hagain.1, hempty.2⟩

variable {entry : PingArrayEntry}

theorem cleared_clearEntry {index : UInt32} (hentry : array.entries[index.toNat]? = some entry)
    (htimeout : monoTimeIsTimeout now entry.pingTime array.timeout.toUInt64) (lastDeleted : UInt32) :
    Cleared now array { array.clearEntry index with lastDeleted } := by
  refine ⟨rfl, rfl, ?_, fun i other hother => ?_⟩
  · exact length_set
  · show (array.entries.set _ _)[i]? = _ ∨ (array.entries.set _ _)[i]? = _ ∧ _
    by_cases hi : index.toNat = i
    · subst hi
      rw [hentry] at hother
      cases hother
      exact .inr ⟨getElem?_set_self (List.getElem?_eq_some_iff.mp hentry).1, htimeout⟩
    · rw [getElem?_set_ne hi]
      exact .inl hother

theorem cleared_clearTimedoutLoop (count : Nat) (array : PingArray) :
    Cleared now array (clearTimedoutLoop now count array) := by
  induction count generalizing array with
  | zero => exact Cleared.refl now array
  | succ count ih =>
    -- the loop stops at the first entry that has not timed out
    rw [clearTimedoutLoop]
    cases hentry : array.entries[(array.lastDeleted % array.totalSize).toNat]? with
    | none => exact Cleared.refl now array
    | some entry =>
      dsimp only
      split
      · exact Cleared.refl now array
      · rename_i htimeout
        rw [Bool.not_eq_true', Bool.not_eq_false] at htimeout
        exact (cleared_clearEntry hentry htimeout _).trans (ih _)

variable {size timeout : UInt32} {array : PingArray}

structure Added (now : UInt64) (data : Bytes) (array array' : PingArray) (pingId : UInt64) : Prop where
  nonzero : pingId ≠ 0
  shaped : Shaped array.totalSize array.timeout array'
  slot : array'.entries[pingId.toNat % array.totalSize.toNat]? = some { data := some data, pingTime := now, pingId }
  other : ∀ (i : Nat) (entry : PingArrayEntry), i ≠ pingId.toNat % array.totalSize.toNat →
    array.entries[i]? = some entry → array'.entries[i]? = some entry ∨
      (array'.entries[i]? = some emptyPingArrayEntry ∧
        monoTimeIsTimeout now entry.pingTime array.timeout.toUInt64)

theorem Shaped.add (h : array.Shaped size timeout) (hsize : size.toNat ≠ 0) (hdvd : size.toNat ∣ 2 ^ 64)
    (now random : UInt64) (data : Bytes) :
    Added now data array (array.pingArrayAdd now random true data).2
      (array.pingArrayAdd now random true data).1 := by
  have hcleared : Cleared now array (array.pingArrayClearTimedout now) := cleared_clearTimedoutLoop _ _
  have hprepared : (array.prepared now).totalSize = array.totalSize ∧
      (array.prepared now).timeout = array.timeout ∧
      (array.prepared now).entries.length = array.entries.length := by
    rw [prepared, makeRoom]
    split
    · exact ⟨hcleared.totalSize, hcleared.timeout, length_set.trans hcleared.length⟩
    · exact ⟨hcleared.totalSize, hcleared.timeout, hcleared.length⟩
  -- only the slot of the new ping is cleared besides
  have hroom : ∀ (i : Nat), i ≠ (array.lastAdded % array.totalSize).toNat →
      (array.prepared now).entries[i]? = (array.pingArrayClearTimedout now).entries[i]? := by
    intro i hi
    have hlast : (array.pingArrayClearTimedout now).lastAdded = array.lastAdded :=
      lastAdded_clearTimedoutLoop _ _
    rw [prepared, makeRoom]
    split
    · rw [hlast, hcleared.totalSize]
      exact getElem?_set_ne (Ne.symm hi)
    · rfl
  rw [pingArrayAdd_eq, if_neg (by decide), lastAdded_prepared, hprepared.1]
  have hindex : (array.lastAdded % array.totalSize).toNat < array.totalSize.toNat := by
    rw [h.totalSize]
    exact Nat.mod_lt _ (Nat.zero_lt_of_ne_zero hsize)
  obtain ⟨hid, hslot⟩ := toNat_makePingId random (h.totalSize ▸ hdvd) hindex
  have hlength : (array.prepared now).entries.length = array.totalSize.toNat := by
    rw [hprepared.2.2, h.length, h.totalSize]
  constructor
  · exact hid
  · exact ⟨hprepared.1, hprepared.2.1, length_set.trans hlength⟩
  · rw [hslot]
    exact getElem?_set_self (by rw [hlength]; exact hindex)
  · intro i entry hi hentry
    rw [hslot] at hi
    rw [getElem?_set_ne (Ne.symm hi), hroom i hi]
    exact hcleared.entry i entry hentry

structure Answers (timeout : UInt32) (entry : PingArrayEntry) (now : UInt64) (length : Nat) (pingId : UInt64)
    (data : Bytes) : Prop where
  nonzero : pingId ≠ 0
  pingId : entry.pingId = pingId
  inTime : ¬monoTimeIsTimeout now entry.pingTime timeout.toUInt64
  stored : entry.data = some data
  fits : data.length ≤ length

theorem Shaped.check (h : array.Shaped size timeout) (hdvd : size.toNat ∣ 2 ^ 64)
    (hentry : array.entries[pingId.toNat % size.toNat]? = some entry) (now : UInt64) (length : Nat) :
    (∃ data, Answers timeout entry now length pingId data ∧ (array.pingArrayCheck now length pingId).1 = some data ∧
      (array.pingArrayCheck now length pingId).2 =
        { array with entries := array.entries.set (pingId.toNat % size.toNat) emptyPingArrayEntry }) ∨
    ((∀ data, ¬Answers timeout entry now length pingId data) ∧
      array.pingArrayCheck now length pingId = (none, array)) := by
  have hindex : (pingId % array.totalSize.toUInt64).toUInt32.toNat = pingId.toNat % size.toNat := by
    have hlt := size.toNat_lt
    have hle : pingId.toNat % size.toNat < 2 ^ 32 := by
      by_cases hzero : size.toNat = 0
      · rw [hzero] at hdvd
        exact absurd (Nat.eq_zero_of_zero_dvd hdvd) (by decide)
      · exact Nat.lt_trans (Nat.mod_lt _ (Nat.zero_lt_of_ne_zero hzero)) hlt
    rw [h.totalSize]
    exact Nat.mod_eq_of_lt hle
  rw [PingArray.pingArrayCheck]
  -- one case for each test of the source, in its order
  by_cases hzero : pingId = 0
  · rw [if_pos hzero]
    exact .inr ⟨fun data hanswers => hanswers.nonzero hzero, rfl⟩
  · rw [if_neg hzero]
    dsimp only
    rw [hindex, hentry]
    dsimp only
    by_cases hid : entry.pingId = pingId
    · rw [if_neg (not_not.mpr hid)]
      by_cases htime : monoTimeIsTimeout now entry.pingTime array.timeout.toUInt64
      · rw [if_pos htime]
        rw [h.timeout] at htime
        exact .inr ⟨fun data hanswers => hanswers.inTime htime, rfl⟩
      · rw [if_neg htime]
        rw [h.timeout] at htime
        cases hdata : entry.data with
        | none =>
          refine .inr ⟨fun data hanswers => ?_, rfl⟩
          have hstored := hanswers.stored
          rw [hdata] at hstored
          cases hstored
        | some data =>
          dsimp only
          by_cases hlength : data.length > length
          · rw [if_pos hlength]
            refine .inr ⟨fun other hanswers => ?_, rfl⟩
            have hother := hanswers.stored
            rw [hdata] at hother
            cases hother
            exact Nat.not_le_of_lt hlength hanswers.fits
          · rw [if_neg hlength]
            refine .inl ⟨data, ⟨hzero, hid, htime, hdata, Nat.le_of_not_lt hlength⟩, rfl, ?_⟩
            rw [clearEntry, hindex]
    · rw [if_pos hid]
      exact .inr ⟨fun data hanswers => hid hanswers.pingId, rfl⟩

/-! ## What the slots hold -/

def InRange (timeout : UInt32) (time : UInt64) : Prop := time.toNat + timeout.toNat < 2 ^ 64

instance (timeout : UInt32) : DecidablePred (InRange timeout) := fun _ => Nat.decLt _ _

theorem monoTimeIsTimeout_iff (h : InRange timeout time) :
    monoTimeIsTimeout now time timeout.toUInt64 ↔ time.toNat + timeout.toNat ≤ now.toNat := by
  rw [monoTimeIsTimeout, decide_eq_true_iff, UInt64.le_iff_toNat_le, UInt64.toNat_add, UInt32.toNat_toUInt64,
    Nat.mod_eq_of_lt h]

/-- A slot after the calls of the history, the last one at the time `now`. -/
inductive Holds (size timeout : UInt32) (history : List PingEvent) (now : UInt64) (i : Nat) :
    PingArrayEntry → Prop where
  | free : (∀ time data pingId, Pending size.toNat history time data pingId → pingId.toNat % size.toNat = i →
      time.toNat + timeout.toNat ≤ now.toNat) → Holds size timeout history now i emptyPingArrayEntry
  | ping {time : UInt64} {data : Bytes} {pingId : UInt64} : pingId ≠ 0 → InRange timeout time →
      (∀ time' data' pingId', pingId'.toNat % size.toNat = i →
        (Pending size.toNat history time' data' pingId' ↔ time' = time ∧ data' = data ∧ pingId' = pingId)) →
      Holds size timeout history now i { data := some data, pingTime := time, pingId }

structure Explained (size timeout : UInt32) (now : UInt64) (pings : LoggedPings) : Prop where
  shaped : pings.array.Shaped size timeout
  slot : ∀ i, i < size.toNat → ∃ entry, pings.array.entries[i]? = some entry ∧
    Holds size timeout pings.history now i entry
  nonzero : ∀ time data pingId, PingEvent.added time data pingId ∈ pings.history → pingId ≠ 0
  checks : OneShot size timeout pings.history

variable {i : Nat}

section

variable (h : Holds size timeout history now i entry)
include h

theorem Holds.mono {now' : UInt64} (hle : now ≤ now') :
    Holds size timeout history now' i entry := by
  cases h with
  | free hexpired =>
    exact .free fun time data pingId hpending hslot =>
      Nat.le_trans (hexpired time data pingId hpending hslot) (UInt64.le_iff_toNat_le.mp hle)
  | ping hid hrange hpending => exact .ping hid hrange hpending

theorem Holds.clear (htime : monoTimeIsTimeout now entry.pingTime timeout.toUInt64) :
    Holds size timeout history now i emptyPingArrayEntry := by
  cases h with
  | free hexpired => exact .free hexpired
  | ping hid hrange hpending =>
    -- the only ping of the slot is the one that timed out
    refine .free fun time data pingId hother hslot => ?_
    obtain ⟨rfl, -, -⟩ := (hpending time data pingId hslot).mp hother
    exact (monoTimeIsTimeout_iff hrange).mp htime

theorem Holds.congr {history' : List PingEvent}
    (hsame : ∀ time data pingId, pingId.toNat % size.toNat = i → (Pending size.toNat history' time data pingId ↔ Pending size.toNat history time data pingId))
    :
    Holds size timeout history' now i entry := by
  cases h with
  | free hexpired =>
    exact .free fun time data pingId hpending hslot =>
      hexpired time data pingId ((hsame time data pingId hslot).mp hpending) hslot
  | ping hid hrange hpending =>
    exact .ping hid hrange fun time data pingId hslot =>
      (hsame time data pingId hslot).trans (hpending time data pingId hslot)

end

theorem oneShot_added (h : OneShot size timeout history) (now : UInt64) (data : Bytes) (pingId : UInt64) :
    OneShot size timeout (.added now data pingId :: history) := by
  intro later now' length pingId' result earlier hhistory
  cases later with
  | nil =>
    injection hhistory with hevent
    cases hevent
  | cons event later =>
    injection hhistory with _ hrest
    exact h later now' length pingId' result earlier hrest

theorem oneShot_checked (h : OneShot size timeout history) {length : Nat} {result : Option Bytes}
    (hresult : ∀ data, result = some data ↔ ∃ time, Pending size.toNat history time data pingId ∧ now.toNat < time.toNat + timeout.toNat ∧ data.length ≤ length)
    :
    OneShot size timeout (.checked now length pingId result :: history) := by
  intro later now' length' pingId' result' earlier hhistory
  cases later with
  | nil =>
    injection hhistory with hevent hrest
    injection hevent with hnow hlength hid hresult'
    subst hnow hlength hid hresult' hrest
    exact hresult
  | cons event later =>
    injection hhistory with _ hrest
    exact h later now' length' pingId' result' earlier hrest

variable {pings : LoggedPings} {last : UInt64}

theorem Explained.add (h : Explained size timeout last pings) (hsize : size.toNat ≠ 0) (hdvd : size.toNat ∣ 2 ^ 64)
    (hnow : last ≤ now) (hrange : InRange timeout now) (random : UInt64) (data : Bytes)
    : Explained size timeout now (pings.call (.add now random data)) := by
  have hadded := h.shaped.add hsize hdvd now random data
  have hshaped := hadded.shaped
  have hslot := hadded.slot
  have hother := hadded.other
  rw [h.shaped.totalSize, h.shaped.timeout] at hshaped hother
  rw [h.shaped.totalSize] at hslot
  refine ⟨hshaped, fun i hi => ?_, fun time data' pingId hmem => ?_, oneShot_added h.checks now data _⟩
  · by_cases hsame : i = (pings.array.pingArrayAdd now random true data).1.toNat % size.toNat
    · -- what was pending in this slot is overwritten
      refine ⟨_, hsame ▸ hslot, .ping hadded.nonzero hrange fun time' data' pingId' hslot' => ?_⟩
      refine pending_added.trans ⟨fun hcases => ?_, fun heq => .inl heq⟩
      cases hcases with
      | inl heq => exact heq
      | inr hold => exact absurd (hsame.symm.trans hslot'.symm) hold.1
    · obtain ⟨entry, hentry, hholds⟩ := h.slot i hi
      have hlater : Holds size timeout
          (.added now data (pings.array.pingArrayAdd now random true data).1 :: pings.history) now i entry := by
        refine (hholds.mono hnow).congr fun time' data' pingId' hslot' => ?_
        refine pending_added.trans ⟨fun hcases => ?_, fun hold => .inr ⟨fun heq => ?_, hold⟩⟩
        · cases hcases with
          | inl heq => exact absurd (heq.2.2 ▸ hslot'.symm) hsame
          | inr hold => exact hold.2
        · exact hsame (heq.trans hslot').symm
      -- the calls before the add may have left an entry there that is cleared now
      cases hother i entry hsame hentry with
      | inl hkept => exact ⟨entry, hkept, hlater⟩
      | inr hcleared => exact ⟨_, hcleared.1, hlater.clear hcleared.2⟩
  · cases mem_cons.mp hmem with
    | inl heq =>
      injection heq with _ _ hid
      rw [hid]
      exact hadded.nonzero
    | inr hold => exact h.nonzero time data' pingId hold

theorem Holds.answers_iff (hholds : Holds size timeout history last (pingId.toNat % size.toNat) entry)
    (hnow : last ≤ now) (length : Nat) (data : Bytes) : Answers timeout entry now length pingId data ↔
      ∃ time, Pending size.toNat history time data pingId ∧
        now.toNat < time.toNat + timeout.toNat ∧ data.length ≤ length := by
  have hle := UInt64.le_iff_toNat_le.mp hnow
  cases hholds with
  | free hexpired =>
    -- an empty entry has the ping id 0, which is never checked for
    constructor
    · intro hanswers
      exact absurd hanswers.pingId.symm hanswers.nonzero
    · intro hpending
      obtain ⟨time, hpending, htime, -⟩ := hpending
      have hexpired := hexpired time data pingId hpending rfl
      omega
  | @ping time data' pingId' hid hrange hpending =>
    constructor
    · intro hanswers
      have hanswersTime := hanswers.inTime
      rw [monoTimeIsTimeout_iff hrange, Nat.not_le] at hanswersTime
      exact ⟨time, (hpending _ _ _ rfl).mpr ⟨rfl, (Option.some.inj hanswers.stored).symm, hanswers.pingId.symm⟩,
        hanswersTime, hanswers.fits⟩
    · intro hexists
      obtain ⟨time', hpending', htime, hfits⟩ := hexists
      obtain ⟨rfl, rfl, rfl⟩ := (hpending time' data pingId rfl).mp hpending'
      refine ⟨hid, rfl, ?_, rfl, hfits⟩
      rw [monoTimeIsTimeout_iff hrange]
      omega

theorem Explained.check (h : Explained size timeout last pings) (hsize : size.toNat ≠ 0) (hdvd : size.toNat ∣ 2 ^ 64)
    (hnow : last ≤ now) (length : Nat) (pingId : UInt64) :
    Explained size timeout now (pings.call (.check now length pingId)) := by
  have hlt : pingId.toNat % size.toNat < size.toNat := Nat.mod_lt _ (Nat.zero_lt_of_ne_zero hsize)
  obtain ⟨entry, hentry, hholds⟩ := h.slot _ hlt
  have hiff := hholds.answers_iff hnow length
  have hnonzero : ∀ (result : Option Bytes) (time : UInt64) (data : Bytes) (pingId' : UInt64),
      PingEvent.added time data pingId' ∈ PingEvent.checked now length pingId result :: pings.history →
        pingId' ≠ 0 := by
    intro result time data pingId' hmem
    cases mem_cons.mp hmem with
    | inl heq => cases heq
    | inr hold => exact h.nonzero time data pingId' hold
  cases h.shaped.check hdvd hentry now length with
  | inl hsome =>
    obtain ⟨data, hanswers, hresult, harray⟩ := hsome
    have hchecks : OneShot size timeout (.checked now length pingId (some data) :: pings.history) := by
      refine oneShot_checked h.checks fun data' => ?_
      rw [← hiff data']
      constructor
      · intro heq
        cases heq
        exact hanswers
      · intro hanswers'
        rw [← hanswers.stored, hanswers'.stored]
    rw [LoggedPings.call, hresult, harray]
    refine ⟨⟨h.shaped.totalSize, h.shaped.timeout, length_set.trans h.shaped.length⟩, ?_,
      hnonzero _, hchecks⟩
    intro i hi
    by_cases hsame : pingId.toNat % size.toNat = i
    · -- the ping was returned, so that nothing is pending in its slot
      subst hsame
      refine ⟨emptyPingArrayEntry, ?_, .free fun time data' pingId' hpending hslot => ?_⟩
      · exact getElem?_set_self (by rw [h.shaped.length]; exact hlt)
      · obtain ⟨hpending, hnot⟩ := pending_checked.mp hpending
        cases hholds with
        | free _ => exact absurd hanswers.pingId.symm hanswers.nonzero
        | ping hid hrange hpending' =>
          obtain ⟨-, -, heq⟩ := (hpending' time data' pingId' hslot).mp hpending
          exact absurd ⟨rfl, hanswers.pingId.symm.trans heq.symm⟩ hnot
    · obtain ⟨other, hother, hholds'⟩ := h.slot i hi
      rw [getElem?_set_ne hsame]
      refine ⟨other, hother, (hholds'.mono hnow).congr fun time data' pingId' hslot => ?_⟩
      refine pending_checked.trans ⟨fun hpending => hpending.1, fun hpending => ⟨hpending, fun heq => ?_⟩⟩
      exact hsame (heq.2 ▸ hslot)
  | inr hnone =>
    -- nothing is returned, so that the slots and what is pending stay as they are
    obtain ⟨hnot, hcheck⟩ := hnone
    have hchecks : OneShot size timeout (.checked now length pingId none :: pings.history) := by
      refine oneShot_checked h.checks fun data' => ?_
      rw [← hiff data']
      constructor
      · intro heq
        cases heq
      · exact fun hanswers => absurd hanswers (hnot data')
    rw [LoggedPings.call, hcheck]
    refine ⟨h.shaped, fun i hi => ?_, hnonzero _, hchecks⟩
    obtain ⟨other, hother, hholds'⟩ := h.slot i hi
    refine ⟨other, hother, (hholds'.mono hnow).congr fun time data' pingId' _ => ?_⟩
    exact pending_checked.trans ⟨fun hpending => hpending.1, fun hpending =>
      ⟨hpending, fun heq => by cases heq.1⟩⟩

/-! ## Runs -/

def InOrder (calls : List PingCall) : Prop := (calls.map PingCall.now).Pairwise (· ≤ ·)

instance (calls : List PingCall) : Decidable (InOrder calls) :=
  inferInstanceAs (Decidable ((calls.map PingCall.now).Pairwise (· ≤ ·)))

theorem explained_pingArrayNew (h : pingArrayNew size timeout = some array) :
    Explained size timeout 0 { history := [], array } := by
  obtain ⟨-, -, hshaped, hentries⟩ := size_of_pingArrayNew h
  have hnothing : ∀ time data pingId, ¬Pending size.toNat [] time data pingId := by
    intro time data pingId hpending
    obtain ⟨later, earlier, hhistory, -⟩ := hpending
    exact absurd hhistory.symm (append_ne_nil_of_right_ne_nil later (cons_ne_nil _ earlier))
  refine ⟨hshaped, fun i hi => ⟨emptyPingArrayEntry, ?_, ?_⟩, fun time data pingId hmem => ?_, ?_⟩
  · rw [hentries]
    exact getElem?_replicate_of_lt hi
  · exact .free fun time data pingId hpending _ => absurd hpending (hnothing time data pingId)
  · exact absurd hmem not_mem_nil
  · intro later now length pingId result earlier hhistory
    exact absurd hhistory.symm (append_ne_nil_of_right_ne_nil later (cons_ne_nil _ earlier))

def CallInRange (timeout : UInt32) : PingCall → Prop
  | .add now _ _ => InRange timeout now
  | .check .. => True

instance (timeout : UInt32) : DecidablePred (CallInRange timeout)
  | .add now _ _ => inferInstanceAs (Decidable (InRange timeout now))
  | .check .. => inferInstanceAs (Decidable True)

theorem Explained.calls (h : Explained size timeout last pings) (hsize : size.toNat ≠ 0) (hdvd : size.toNat ∣ 2 ^ 64)
    (calls : List PingCall) (horder : InOrder calls) (hlast : ∀ call ∈ calls, last ≤ call.now)
    (hrange : ∀ call ∈ calls, CallInRange timeout call) :
    ∃ now, Explained size timeout now (calls.foldl LoggedPings.call pings) := by
  -- the time of the last call bounds the times from below
  induction calls generalizing pings last with
  | nil => exact ⟨last, h⟩
  | cons call calls ih =>
    obtain ⟨hfirst, hrest⟩ := pairwise_cons.mp horder
    have hnow := hlast call mem_cons_self
    have hnext : Explained size timeout call.now (pings.call call) := by
      cases call with
      | add now random data =>
        exact h.add hsize hdvd hnow (hrange _ mem_cons_self) random data
      | check now length pingId => exact h.check hsize hdvd hnow length pingId
    exact ih hnext hrest (fun call' hcall' => hfirst _ (mem_map_of_mem hcall'))
      fun call' hcall' => hrange call' (mem_cons_of_mem _ hcall')

theorem Shaped.consumes (h : array.Shaped size timeout) (hsize : size.toNat ≠ 0) (hdvd : size.toNat ∣ 2 ^ 64)
    {length : Nat} (hsome : (array.pingArrayCheck now length pingId).1 = some data) :
    (array.pingArrayCheck now length pingId).2.entries[pingId.toNat % size.toNat]? = some emptyPingArrayEntry := by
  have hlt : pingId.toNat % size.toNat < array.entries.length := by
    rw [h.length]
    exact Nat.mod_lt _ (Nat.zero_lt_of_ne_zero hsize)
  cases h.check hdvd (getElem?_eq_getElem hlt) now length with
  | inl hfound =>
    obtain ⟨_, _, _, harray⟩ := hfound
    rw [harray]
    exact getElem?_set_self hlt
  | inr hnone =>
    rw [hnone.2] at hsome
    cases hsome

/-- At times that do not go back and leave room for the timeout, a check returns the data of an add exactly if it is
    the last to its slot, fresh, fits and was not returned; no id is zero. -/
theorem run_oneShot (hnew : pingArrayNew size timeout = some array) (calls : List PingCall)
    (horder : InOrder calls) (hrange : ∀ call ∈ calls, CallInRange timeout call) :
    OneShot size timeout (array.run calls).history ∧
    (∀ time data pingId, PingEvent.added time data pingId ∈ (array.run calls).history → pingId ≠ 0) ∧
    ∀ now length pingId data, ((array.run calls).array.pingArrayCheck now length pingId).1 = some data →
      ((array.run calls).array.pingArrayCheck now length pingId).2.entries[pingId.toNat % size.toNat]? =
        some emptyPingArrayEntry := by
  obtain ⟨hsize, hdvd, -, -⟩ := size_of_pingArrayNew hnew
  obtain ⟨now, hexplained⟩ := (explained_pingArrayNew hnew).calls hsize hdvd calls horder
    (fun call _ => UInt64.le_iff_toNat_le.mpr (Nat.zero_le _)) hrange
  exact ⟨hexplained.checks, hexplained.nonzero, fun now length pingId data hsome =>
    hexplained.shaped.consumes hsize hdvd hsome⟩

def somePings : List PingCall :=
  [.add 10 6 [1], .add 10 9 [2], .check 11 5 6, .check 11 5 6, .add 12 2 [3], .add 12 3 [4], .check 13 5 9]

theorem run_oneShot_somePings : ∃ array, pingArrayNew 2 5 = some array ∧
    OneShot 2 5 (array.run somePings).history ∧
    (∀ time data pingId, PingEvent.added time data pingId ∈ (array.run somePings).history → pingId ≠ 0) ∧
    ∀ now length pingId data, ((array.run somePings).array.pingArrayCheck now length pingId).1 = some data →
      ((array.run somePings).array.pingArrayCheck now length pingId).2.entries[pingId.toNat %
        (2 : UInt32).toNat]? = some emptyPingArrayEntry := by
  have hnew : pingArrayNew 2 5 = some _ := rfl
  exact ⟨_, hnew, run_oneShot hnew somePings (by decide) (by decide)⟩

/-- Close to the end of the clock a ping that was just added is not given back. -/
theorem not_oneShot_wrapping : ¬∀ (size timeout : UInt32) (array : PingArray) (calls : List PingCall),
    pingArrayNew size timeout = some array → InOrder calls → OneShot size timeout (array.run calls).history := by
  intro hall
  have hnew : pingArrayNew 1 1 = some _ := rfl
  have hshot := hall 1 1 _ [.add 0xFFFFFFFFFFFFFFFF 0 [7], .check 0xFFFFFFFFFFFFFFFF 1 1] hnew (by decide)
  have hnone : (none : Option Bytes) = some [7] := (hshot [] 0xFFFFFFFFFFFFFFFF 1 1 none
    [.added 0xFFFFFFFFFFFFFFFF [7] 1] rfl [7]).mpr
      ⟨0xFFFFFFFFFFFFFFFF, ⟨[], [], rfl, fun _ hmem => absurd hmem not_mem_nil⟩, by decide, Nat.le_refl 1⟩
  cases hnone

end PingArray

end Toxcore

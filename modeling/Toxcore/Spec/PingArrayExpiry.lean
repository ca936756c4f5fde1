import Mathlib.Data.Int.ModEq
import Mathlib.Data.Nat.Prime.Basic
import Toxcore.Spec.PingArrayRuns

/-!
# Expiry in a ping array

The entries from `last_deleted` to `last_added` are a queue, oldest first, from whose front
`ping_array_clear_timedout` drops what has timed out, until a ping is added to a full ring.
-/

namespace Toxcore

open List

namespace PingArray

/-- A call together with the outcome of its `malloc`. -/
def callWith (array : PingArray) (call : PingCall × Bool) : PingArray :=
  match call.1 with
  | .add now random data => (array.pingArrayAdd now random call.2 data).2
  | .check now length pingId => (array.pingArrayCheck now length pingId).2

def runWith (array : PingArray) (calls : List (PingCall × Bool)) : PingArray :=
  calls.foldl callWith array

def timedOut (timeout : UInt32) (now : UInt64) (entry : PingArrayEntry) : Bool :=
  monoTimeIsTimeout now entry.pingTime timeout.toUInt64

structure Thorough (now : UInt64) (array : PingArray) : Prop where
  count : array.lastAdded - array.lastDeleted ≤ array.totalSize
  expired : ∀ entry ∈ (array.pingArrayClearTimedout now).entries, entry.data.isSome →
    ¬timedOut array.timeout now entry

/-- After any of the calls, at any time from then on. -/
def ThoroughRun (array : PingArray) (calls : List (PingCall × Bool)) : Prop :=
  ∀ earlier now, earlier <+: calls → (∀ call ∈ earlier, call.1.now ≤ now) →
    (array.runWith earlier).Thorough now

/-- `total_size` pings were added since the oldest one, and that one stays. -/
structure Full (now : UInt64) (array : PingArray) : Prop where
  count : array.lastAdded - array.lastDeleted = array.totalSize
  oldest : ∃ entry, array.entries[(array.lastDeleted % array.totalSize).toNat]? = some entry ∧
    ¬timedOut array.timeout now entry

/-- No ping is added to a full ring. -/
def RoomyRun : PingArray → List (PingCall × Bool) → Prop
  | _, [] => True
  | array, call :: calls =>
    (∀ now random data, call = (.add now random data, true) → ¬array.Full now) ∧ RoomyRun (array.callWith call) calls

/-! ## Slots -/

variable {size timeout : UInt32} {now last : UInt64} {array : PingArray} {queue : Nat → PingArrayEntry} {count : Nat}

theorem slot_injective {n a b s : Nat} (h : (n + a) % s = (n + b) % s) (ha : a < s) (hb : b < s) : a = b :=
  Nat.ModEq.eq_of_lt_of_lt (Nat.ModEq.add_left_cancel' n h) ha hb

theorem exists_slot (n : Nat) {i s : Nat} (hi : i < s) : ∃ j, j < s ∧ (n + j) % s = i := by
  have hlt := Nat.mod_lt n (Nat.zero_lt_of_lt hi)
  refine ⟨(i + (s - n % s)) % s, Nat.mod_lt _ (Nat.zero_lt_of_lt hi), ?_⟩
  have hsum : n + (i + (s - n % s)) = i + s * (n / s + 1) := by
    have hn := Nat.div_add_mod n s
    rw [Nat.mul_add]
    omega
  rw [Nat.add_mod_mod, hsum, Nat.add_mul_mod_self_left, Nat.mod_eq_of_lt hi]

theorem size_dvd (hdvd : size.toNat ∣ 2 ^ 64) : size.toNat ∣ 2 ^ 32 := by
  obtain ⟨k, -, hk⟩ := (Nat.dvd_prime_pow Nat.prime_two).mp hdvd
  have hlt := size.toNat_lt
  rw [hk] at hlt ⊢
  exact Nat.pow_dvd_pow 2 (Nat.le_of_lt ((Nat.pow_lt_pow_iff_right (by decide)).mp hlt))

theorem slot_add (hdvd : size.toNat ∣ 2 ^ 64) (m n : UInt32) (j : Nat) :
    ((m + n).toNat + j) % size.toNat = (m.toNat + (n.toNat + j)) % size.toNat := by
  rw [UInt32.toNat_add, Nat.add_mod, Nat.mod_mod_of_dvd _ (size_dvd hdvd), ← Nat.add_mod, Nat.add_assoc]

/-! ## The queue -/

/-- The entries from `last_deleted` on; one that was given back is empty, like those behind the last one. -/
structure Queued (size timeout : UInt32) (last : UInt64) (queue : Nat → PingArrayEntry) (count : Nat)
    (array : PingArray) : Prop where
  shaped : array.Shaped size timeout
  lastAdded : array.lastAdded = array.lastDeleted + UInt32.ofNat count
  bound : count ≤ size.toNat
  slot : ∀ j, j < size.toNat → array.entries[(array.lastDeleted.toNat + j) % size.toNat]? = some (queue j)
  behind : ∀ j, count ≤ j → queue j = emptyPingArrayEntry
  sorted : ∀ j k, j < k → (queue k).data.isSome → (queue j).pingTime ≤ (queue k).pingTime
  past : ∀ j, (queue j).pingTime ≤ last ∧ InRange timeout (queue j).pingTime

theorem past_empty (timeout : UInt32) (last : UInt64) :
    emptyPingArrayEntry.pingTime ≤ last ∧ InRange timeout emptyPingArrayEntry.pingTime := by
  refine ⟨UInt64.le_iff_toNat_le.mpr (Nat.zero_le _), ?_⟩
  have hlt := timeout.toNat_lt
  show 0 + timeout.toNat < 2 ^ 64
  omega

theorem queued_pingArrayNew (h : pingArrayNew size timeout = some array) :
    Queued size timeout 0 (fun _ => emptyPingArrayEntry) 0 array := by
  obtain ⟨-, -, hshaped, hentries⟩ := size_of_pingArrayNew h
  have hcount : array.lastAdded = array.lastDeleted + 0 := by
    unfold pingArrayNew at h
    split at h
    · cases h
    · split at h
      · cases h
      · cases h
        rfl
  refine ⟨hshaped, hcount, Nat.zero_le _, fun j hj => ?_, fun _ _ => rfl, fun _ _ _ hdata => ?_,
    fun _ => past_empty timeout 0⟩
  · rw [hentries]
    exact getElem?_replicate_of_lt (Nat.mod_lt _ (Nat.zero_lt_of_lt hj))
  · cases hdata

section

variable (h : Queued size timeout last queue count array)
include h

theorem Queued.mono (hle : last ≤ now) : Queued size timeout now queue count array :=
  { h with past := fun j => ⟨UInt64.le_trans (h.past j).1 hle, (h.past j).2⟩ }

theorem Queued.toNat_count : (array.lastAdded - array.lastDeleted).toNat = count := by
  rw [h.lastAdded, UInt32.add_comm, UInt32.add_sub_cancel]
  exact UInt32.toNat_ofNat_of_lt' (Nat.lt_of_le_of_lt h.bound size.toNat_lt)

theorem Queued.slot_lastAdded (hdvd : size.toNat ∣ 2 ^ 64) :
    (array.lastAdded % array.totalSize).toNat = (array.lastDeleted.toNat + count) % size.toNat := by
  have hadd := slot_add hdvd array.lastDeleted (UInt32.ofNat count) 0
  rw [UInt32.toNat_ofNat_of_lt' (Nat.lt_of_le_of_lt h.bound size.toNat_lt), ← h.lastAdded] at hadd
  rw [h.shaped.totalSize]
  exact hadd

theorem Queued.slot_set {j : Nat} (hj : j < size.toNat) (entry : PingArrayEntry) {k : Nat} (hk : k < size.toNat) :
    (array.entries.set ((array.lastDeleted.toNat + j) % size.toNat) entry)[(array.lastDeleted.toNat + k) %
      size.toNat]? = some (Function.update queue j entry k) := by
  by_cases hkj : k = j
  · rw [hkj, Function.update_self]
    refine getElem?_set_self ?_
    rw [h.shaped.length]
    exact Nat.mod_lt _ (Nat.zero_lt_of_lt hj)
  · rw [Function.update_of_ne hkj, getElem?_set_ne fun heq => hkj (slot_injective heq hj hk).symm]
    exact h.slot k hk

theorem Queued.setEmpty {j : Nat} (hj : j < size.toNat) :
    Queued size timeout last (Function.update queue j emptyPingArrayEntry) count { array with
      entries := array.entries.set ((array.lastDeleted.toNat + j) % size.toNat) emptyPingArrayEntry } where
  shaped := ⟨h.shaped.totalSize, h.shaped.timeout, length_set.trans h.shaped.length⟩
  lastAdded := h.lastAdded
  bound := h.bound
  slot k hk := h.slot_set hj _ hk
  behind k hk := by
    rw [Function.update_apply]
    split
    · rfl
    · exact h.behind k hk
  sorted k l hkl hdata := by
    -- an empty entry has the time zero, and no entry has to come before it
    by_cases hl : l = j
    · rw [hl, Function.update_self] at hdata
      cases hdata
    · rw [Function.update_of_ne hl] at hdata ⊢
      rw [Function.update_apply]
      split
      · exact UInt64.le_iff_toNat_le.mpr (Nat.zero_le _)
      · exact h.sorted k l hkl hdata
  past k := by
    rw [Function.update_apply]
    split
    · exact past_empty timeout last
    · exact h.past k

theorem Queued.append (hdvd : size.toNat ∣ 2 ^ 64) {entry : PingArrayEntry} (hroom : count < size.toNat)
    (htime : entry.pingTime = last) (hrange : InRange timeout last) :
    Queued size timeout last (Function.update queue count entry) (count + 1) { array with
      entries := array.entries.set (array.lastAdded % array.totalSize).toNat entry
      lastAdded := array.lastAdded + 1 } where
  shaped := ⟨h.shaped.totalSize, h.shaped.timeout, length_set.trans h.shaped.length⟩
  lastAdded := by
    rw [UInt32.ofNat_add, ← UInt32.add_assoc, ← h.lastAdded]
    rfl
  bound := hroom
  slot k hk := by
    rw [h.slot_lastAdded hdvd]
    exact h.slot_set hroom entry hk
  behind k hk := by
    rw [Function.update_of_ne (Nat.ne_of_gt hk)]
    exact h.behind k (Nat.le_of_succ_le hk)
  sorted k l hkl hdata := by
    by_cases hl : l = count
    · rw [hl, Function.update_self, Function.update_of_ne (by omega), htime]
      exact (h.past k).1
    · rw [Function.update_of_ne hl] at hdata ⊢
      have hk : k ≠ count := by
        intro hk
        rw [h.behind l (hk ▸ Nat.le_of_lt hkl)] at hdata
        cases hdata
      rw [Function.update_of_ne hk]
      exact h.sorted k l hkl hdata
  past k := by
    rw [Function.update_apply]
    split
    · rw [htime]
      exact ⟨UInt64.le_refl _, hrange⟩
    · exact h.past k

end

/-! ## Clearing -/

theorem Queued.dropOldest (h : Queued size timeout last queue (count + 1) array) (hdvd : size.toNat ∣ 2 ^ 64) :
    Queued size timeout last (fun j => queue (j + 1)) count
      { array.clearEntry (array.lastDeleted % array.totalSize) with lastDeleted := array.lastDeleted + 1 } where
  shaped := ⟨h.shaped.totalSize, h.shaped.timeout, length_set.trans h.shaped.length⟩
  lastAdded := by
    refine h.lastAdded.trans ?_
    rw [UInt32.ofNat_add, UInt32.add_comm (UInt32.ofNat _), ← UInt32.add_assoc]
    rfl
  bound := Nat.le_of_succ_le h.bound
  slot j hj := by
    have hset : ∀ k, k < size.toNat → _ := fun k hk =>
      h.slot_set (Nat.zero_lt_of_lt hj) emptyPingArrayEntry hk
    rw [slot_add hdvd, UInt32.toNat_one, Nat.add_comm 1 j, h.shaped.totalSize]
    by_cases hlast : j + 1 = size.toNat
    · -- the slot that was freed comes last now
      rw [hlast, Nat.add_mod_right, h.behind _ h.bound]
      exact hset 0 (Nat.zero_lt_of_lt hj)
    · exact hset (j + 1) (by omega)
  behind j hj := h.behind (j + 1) (Nat.succ_le_succ hj)
  sorted j k hjk hdata := h.sorted (j + 1) (k + 1) (Nat.succ_lt_succ hjk) hdata
  past j := h.past (j + 1)

/-- The loop drops what has timed out from the front of the queue, and stops at the first entry that has not. -/
theorem Queued.clear (h : Queued size timeout last queue count array) (hdvd : size.toNat ∣ 2 ^ 64) (now : UInt64) :
    ∃ m rest, m + rest = count ∧ (rest ≠ 0 → ¬timedOut timeout now (queue m)) ∧
      Queued size timeout last (fun j => queue (j + m)) rest (array.pingArrayClearTimedout now) := by
  rw [pingArrayClearTimedout, h.toNat_count]
  induction count generalizing array queue with
  | zero => exact ⟨0, 0, rfl, fun hrest => absurd rfl hrest, h⟩
  | succ count ih =>
    have hslot := h.slot 0 (Nat.lt_of_lt_of_le (Nat.zero_lt_succ _) h.bound)
    rw [clearTimedoutLoop]
    rw [UInt32.toNat_mod, h.shaped.totalSize]
    rw [Nat.add_zero] at hslot
    rw [hslot, h.shaped.timeout]
    dsimp only
    by_cases htime : timedOut timeout now (queue 0)
    · rw [if_neg (by rw [Bool.not_eq_true', Bool.not_eq_false]; exact htime)]
      have hdropped := h.dropOldest hdvd
      rw [h.shaped.totalSize] at hdropped
      obtain ⟨m, rest, hsum, hfirst, hrest⟩ := ih hdropped
      exact ⟨m + 1, rest, by omega, hfirst, hrest⟩
    · rw [if_pos (by rw [Bool.not_eq_true']; exact Bool.eq_false_of_not_eq_true htime)]
      exact ⟨0, count + 1, Nat.zero_add _, fun _ => htime, h⟩

theorem Queued.thorough (h : Queued size timeout last queue count array) (hdvd : size.toNat ∣ 2 ^ 64) :
    array.Thorough now := by
  obtain ⟨m, rest, -, hfirst, hrest⟩ := h.clear hdvd now
  refine ⟨?_, fun entry hmem hdata => ?_⟩
  · rw [UInt32.le_iff_toNat_le, h.toNat_count, h.shaped.totalSize]
    exact h.bound
  · obtain ⟨i, hi⟩ := getElem?_of_mem hmem
    have hlt := (List.getElem?_eq_some_iff.mp hi).1
    rw [hrest.shaped.length] at hlt
    obtain ⟨j, hj, hslot⟩ := exists_slot (array.pingArrayClearTimedout now).lastDeleted.toNat hlt
    have hentry := hrest.slot j hj
    rw [hslot, hi] at hentry
    cases hentry
    have hfront : rest ≠ 0 := by
      intro hzero
      rw [hrest.behind j (hzero ▸ Nat.zero_le j)] at hdata
      cases hdata
    have htime := hfirst hfront
    rw [h.shaped.timeout]
    -- the times do not decrease behind the entry at which the loop stopped
    cases j with
    | zero =>
      rw [Nat.zero_add]
      exact htime
    | succ j =>
      have hle := UInt64.le_iff_toNat_le.mp (h.sorted m (j + 1 + m) (by omega) hdata)
      rw [timedOut, monoTimeIsTimeout_iff (h.past _).2] at htime ⊢
      omega

/-! ## Calls -/

theorem Queued.makeRoom (h : Queued size timeout last queue count array) (hdvd : size.toNat ∣ 2 ^ 64)
    (hsize : size.toNat ≠ 0) : ∃ queue', Queued size timeout last queue' count array.makeRoom := by
  have hslot := h.slot_lastAdded hdvd
  rw [PingArray.makeRoom]
  cases Nat.lt_or_eq_of_le h.bound with
  | inl hroom =>
    rw [hslot, h.slot _ hroom, h.behind _ (Nat.le_refl _)]
    exact ⟨queue, h⟩
  | inr hfull =>
    split
    · have hdeleted : array.lastAdded - array.totalSize = array.lastDeleted := by
        rw [h.lastAdded, hfull, h.shaped.totalSize, UInt32.ofNat_toNat, UInt32.add_sub_cancel]
      have hset := h.setEmpty (Nat.pos_of_ne_zero hsize)
      rw [clearEntry, hslot, hfull, Nat.add_mod_right, hdeleted]
      exact ⟨_, hfull ▸ hset⟩
    · exact ⟨queue, h⟩

theorem Queued.add (h : Queued size timeout now queue count array) (hdvd : size.toNat ∣ 2 ^ 64)
    (hsize : size.toNat ≠ 0) (hrange : InRange timeout now) (random : UInt64) (malloc : Bool) (data : Bytes)
    (hroom : malloc → ¬array.Full now) :
    ∃ queue' count', Queued size timeout now queue' count' (array.pingArrayAdd now random malloc data).2 := by
  obtain ⟨m, rest, hsum, hfirst, hrest⟩ := h.clear hdvd now
  obtain ⟨queue', hqueue⟩ := hrest.makeRoom hdvd hsize
  cases malloc with
  | false => exact ⟨queue', rest, hqueue⟩
  | true =>
    refine ⟨_, _, hqueue.append hdvd (Nat.lt_of_le_of_ne hqueue.bound fun heq => hroom rfl ?_) rfl hrange⟩
    -- nothing was dropped from a full ring
    have hbound := h.bound
    have hm : m = 0 := by omega
    have hcount : count = size.toNat := by omega
    have hpos := Nat.pos_of_ne_zero hsize
    refine ⟨UInt32.toNat_inj.mp ?_, queue 0, ?_, ?_⟩
    · rw [h.toNat_count, h.shaped.totalSize, hcount]
    · rw [h.shaped.totalSize]
      exact h.slot 0 hpos
    · rw [h.shaped.timeout, ← hm]
      exact hfirst (by omega)

theorem Queued.check (h : Queued size timeout last queue count array) (hdvd : size.toNat ∣ 2 ^ 64)
    (hsize : size.toNat ≠ 0) (now : UInt64) (length : Nat) (pingId : UInt64) :
    ∃ queue', Queued size timeout last queue' count (array.pingArrayCheck now length pingId).2 := by
  obtain ⟨j, hj, hslot⟩ := exists_slot array.lastDeleted.toNat (Nat.mod_lt pingId.toNat (Nat.pos_of_ne_zero hsize))
  have hentry := h.slot j hj
  rw [hslot] at hentry
  cases h.shaped.check hdvd hentry now length with
  | inl hsome =>
    obtain ⟨-, -, -, harray⟩ := hsome
    rw [harray, ← hslot]
    exact ⟨_, h.setEmpty hj⟩
  | inr hnone =>
    rw [hnone.2]
    exact ⟨queue, h⟩

theorem Queued.run (h : Queued size timeout last queue count array) (hdvd : size.toNat ∣ 2 ^ 64) (hsize : size.toNat ≠ 0)
    {calls : List (PingCall × Bool)} (horder : InOrder (calls.map Prod.fst))
    (hlast : ∀ call ∈ calls, last ≤ call.1.now) (hrange : ∀ call ∈ calls, CallInRange timeout call.1)
    (hroomy : array.RoomyRun calls) {earlier : List (PingCall × Bool)} (hfront : earlier <+: calls)
    (hle : last ≤ now) (hnow : ∀ call ∈ earlier, call.1.now ≤ now) : (array.runWith earlier).Thorough now := by
  induction calls generalizing array queue count last earlier with
  | nil =>
    rw [prefix_nil.mp hfront]
    exact h.thorough hdvd
  | cons call calls ih =>
    cases earlier with
    | nil => exact h.thorough hdvd
    | cons first earlier =>
      obtain ⟨rfl, hlater⟩ := cons_prefix_cons.mp hfront
      obtain ⟨hfirst, hrest⟩ := pairwise_cons.mp horder
      have hmono := h.mono (hlast first mem_cons_self)
      have hnext : ∃ queue' count', Queued size timeout first.1.now queue' count' (array.callWith first) := by
        obtain ⟨call, malloc⟩ := first
        cases call with
        | add now random data =>
          refine hmono.add hdvd hsize (hrange _ mem_cons_self) random malloc data fun hmalloc => ?_
          exact hroomy.1 now random data (by rw [hmalloc])
        | check now length pingId =>
          obtain ⟨queue', hqueue'⟩ := hmono.check hdvd hsize now length pingId
          exact ⟨queue', count, hqueue'⟩
      obtain ⟨queue', count', hqueue'⟩ := hnext
      exact ih hqueue' hrest (fun call hcall => hfirst _ (mem_map_of_mem (mem_map_of_mem hcall)))
        (fun call hcall => hrange call (mem_cons_of_mem _ hcall)) hroomy.2 hlater (hnow first mem_cons_self)
        fun call hcall => hnow call (mem_cons_of_mem _ hcall)

/-- At times that do not go back and leave room for the timeout, the numbers in use stay within the ring and clearing
    leaves nothing that has timed out, if no ping is added to a full ring. -/
theorem run_thorough (hnew : pingArrayNew size timeout = some array) (calls : List (PingCall × Bool))
    (horder : InOrder (calls.map Prod.fst)) (hrange : ∀ call ∈ calls, CallInRange timeout call.1)
    (hroomy : array.RoomyRun calls) : array.ThoroughRun calls := by
  obtain ⟨hsize, hdvd, -, -⟩ := size_of_pingArrayNew hnew
  intro earlier now hfront hnow
  exact (queued_pingArrayNew hnew).run hdvd hsize horder (fun _ _ => UInt64.le_iff_toNat_le.mpr (Nat.zero_le _))
    hrange hroomy hfront (UInt64.le_iff_toNat_le.mpr (Nat.zero_le _)) hnow

theorem run_thorough_somePings : ∃ array, pingArrayNew 2 5 = some array ∧
    array.ThoroughRun [(.add 10 6 [1], true), (.check 11 5 6, true), (.add 12 3 [2], true)] := by
  have hnew : pingArrayNew 2 5 = some _ := rfl
  refine ⟨_, hnew, run_thorough hnew _ (by decide) (by decide) ⟨?_, ?_, ?_, trivial⟩⟩
  · exact fun _ _ _ _ hfull => absurd hfull.count (by decide)
  · intro now random data heq
    cases heq
  · exact fun _ _ _ _ hfull => absurd hfull.count (by decide)

/-- The scan starts at the newest ping, which keeps the older one that has timed out. -/
theorem not_thorough_overwritten : ¬∀ (size timeout : UInt32) (array : PingArray) (calls : List (PingCall × Bool)),
    pingArrayNew size timeout = some array → InOrder (calls.map Prod.fst) →
      (∀ call ∈ calls, CallInRange timeout call.1) → array.ThoroughRun calls := by
  intro hall
  have hnew : pingArrayNew 2 5 = some _ := rfl
  have hthorough := hall 2 5 _ [(.add 10 6 [1], true), (.add 10 7 [2], true), (.add 12 6 [3], true)] hnew (by decide)
    (by decide) _ 15 prefix_rfl (by decide)
  exact hthorough.expired { data := some [2], pingTime := 10, pingId := 7 } (by decide) rfl rfl

end PingArray

end Toxcore

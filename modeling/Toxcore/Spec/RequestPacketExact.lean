import Toxcore.Spec.RequestPacketCorrect

/-!
# What request packets say

A request packet marks the positions of the window of the sender: each one is asked for, known to be
received, or not spoken of.  The decoder follows the marks exactly, and the marks of a generated
packet are the holes of the window that it was generated from.
-/

namespace Toxcore

open List

open UInt32 (dist dist_self dist_add_one dist_add_one_left dist_inj dist_eq_zero)

inductive RequestMark where
  /-- The position is asked for. -/
  | asked
  /-- The position was passed without being asked for. -/
  | received
  /-- The packet ends before the position. -/
  | unknown
deriving DecidableEq

/-- What the bytes `data` say of the position `j`, counting from a position with the counter `n`. -/
def requestMark : (n : Nat) → (data : Bytes) → (j : Nat) → RequestMark
  | _, [], _ => .unknown
  | n, d :: _, 0 => if n = d.toNat then .asked else .received
  | n, d :: data, j + 1 =>
    if n = d.toNat ∨ n = 255 then requestMark 1 data j else requestMark (n + 1) (d :: data) j

@[simp] theorem requestMark_nil (n j : Nat) : requestMark n [] j = .unknown := by
  cases j with
  | zero => rfl
  | succ j => rfl

/-- The number of positions that the bytes speak of, counting from a position with the counter `n`. -/
def requestCovers (n : Nat) : Bytes → Nat
  | [] => 0
  | d :: data => (if d = 0 then 256 - n else d.toNat + 1 - n) + requestCovers 1 data

def Ahead (n : Nat) (data : Bytes) : Prop :=
  1 ≤ n ∧ n ≤ 255 ∧ ∀ d rest, data = d :: rest → d = 0 ∨ n ≤ d.toNat

theorem ahead_one (data : Bytes) : Ahead 1 data := by
  refine ⟨Nat.le_refl 1, by decide, ?_⟩
  intro d rest _
  by_cases hd : d = 0
  · exact .inl hd
  · right
    have : d.toNat ≠ 0 := fun h => hd (UInt8.toNat_inj.mp h)
    omega

variable {n : Nat} {data : Bytes}

theorem Ahead.succ {d : UInt8} (h : Ahead n (d :: data)) (hne : n ≠ d.toNat) (hn : n ≠ 255)
    : Ahead (n + 1) (d :: data) := by
  obtain ⟨h1, h2, h3⟩ := h
  refine ⟨by omega, by omega, ?_⟩
  intro d' rest heq
  rcases h3 d' rest heq with hzero | hle
  · exact .inl hzero
  · right
    injection heq with hd
    rw [← hd] at hle ⊢
    omega

theorem Ahead.eq_zero {d : UInt8} (h : Ahead n (d :: data)) (hne : n ≠ d.toNat) (hn : n = 255) : d = 0 := by
  rcases h.2.2 d data rfl with hzero | hle
  · exact hzero
  · have := d.toNat_lt
    omega

theorem requestMark_eq_unknown_iff (h : Ahead n data) (j : Nat) :
    requestMark n data j = .unknown ↔ requestCovers n data ≤ j := by
  induction j generalizing n data with
  | zero =>
    cases data with
    | nil => simp [requestMark, requestCovers]
    | cons d data =>
      have hcovers : 0 < requestCovers n (d :: data) := by
        obtain ⟨h1, h2, h3⟩ := h
        rw [requestCovers]
        rcases h3 d data rfl with hzero | hle
        · rw [if_pos hzero]
          omega
        · split
          · omega
          · omega
      rw [requestMark]
      constructor
      · intro heq
        split at heq
        · cases heq
        · cases heq
      · omega
  | succ j ih =>
    cases data with
    | nil => simp [requestMark, requestCovers]
    | cons d data =>
      rw [requestMark]
      by_cases hnext : n = d.toNat ∨ n = 255
      · rw [if_pos hnext, ih (ahead_one data)]
        -- the byte covers one position more
        have hone : requestCovers n (d :: data) = 1 + requestCovers 1 data := by
          rw [requestCovers]
          by_cases hd : n = d.toNat
          · have hne : d ≠ 0 := by
              intro hzero
              have := h.1
              rw [hd, hzero] at this
              exact absurd this (by decide)
            rw [if_neg hne]
            omega
          · have hn := hnext.resolve_left hd
            rw [if_pos (h.eq_zero hd hn), hn]
        omega
      · rw [not_or] at hnext
        rw [if_neg (not_or.mpr hnext), ih (h.succ hnext.1 hnext.2)]
        have hone : requestCovers n (d :: data) = 1 + requestCovers (n + 1) (d :: data) := by
          obtain ⟨h1, h2, h3⟩ := h
          rw [requestCovers, requestCovers]
          rcases h3 d data rfl with hzero | hle
          · rw [if_pos hzero, if_pos hzero]
            omega
          · split
            · omega
            · omega
        omega

namespace PacketsArray

variable {a b : PacketsArray}

/-! ## The decoder -/

def applyMark (tempTime rttTime : UInt64) (mark : RequestMark) (packet : Option PacketData) :
    Option PacketData :=
  match mark with
  | .asked => packet.map fun packet =>
      if packet.sentTime + rttTime < tempTime then { packet with sentTime := 0 } else packet
  | .received => none
  | .unknown => packet

def latestReceived (mark : Nat → RequestMark) (packet : Nat → Option PacketData) (count : Nat)
    (latest : UInt64) : UInt64 :=
  (List.range count).foldl (fun latest j =>
    if mark j = .received then ((packet j).map fun packet => max latest packet.sentTime).getD latest
    else latest) latest

theorem latestReceived_succ (mark : Nat → RequestMark) (packet : Nat → Option PacketData)
    (count : Nat) (latest : UInt64) :
    latestReceived mark packet (count + 1) latest =
      latestReceived (fun j => mark (j + 1)) (fun j => packet (j + 1)) count
        (if mark 0 = .received then ((packet 0).map fun packet => max latest packet.sentTime).getD latest
        else latest) := by
  unfold latestReceived
  rw [range_succ_eq_map, foldl_cons, foldl_map]

/-- `b` is `a` with the packets of some numbers changed. -/
structure Remarks (f : UInt32 → Option PacketData) (a b : PacketsArray) : Prop where
  wellFormed : b.WellFormed
  bufferStart_eq : b.bufferStart = a.bufferStart
  bufferEnd_eq : b.bufferEnd = a.bufferEnd
  lookup_eq : ∀ m, b.lookup m = f m

variable {i : UInt32}

theorem remarks_requestSlot (hwf : a.WellFormed) (hi : a.offset i < a.size) (tempTime rttTime : UInt64) :
    Remarks (fun m => if m = i then applyMark tempTime rttTime .asked (a.lookup m) else a.lookup m) a
      (a.requestSlot i tempTime rttTime) := by
  have hbuf := hwf.buffer_slotOf (Nat.lt_of_lt_of_le hi hwf.size_le)
  unfold requestSlot
  split
  · rename_i hnone
    refine ⟨hwf, rfl, rfl, ?_⟩
    intro m
    split
    · rename_i hmi
      rw [hmi, ← hbuf, hnone]
      rfl
    · rfl
  · rename_i packet hsome
    rw [hsome] at hbuf
    split
    · rename_i hold
      refine ⟨hwf.setSlot _ hi, rfl, rfl, ?_⟩
      intro m
      rw [hwf.lookup_setSlot _ hi]
      split
      · rename_i hmi
        rw [hmi, ← hbuf]
        simp [applyMark, hold]
      · rfl
    · rename_i hnew
      refine ⟨hwf, rfl, rfl, ?_⟩
      intro m
      split
      · rename_i hmi
        rw [hmi, ← hbuf]
        simp [applyMark, hnew]
      · rfl

theorem remarks_freeSlot {s : RequestState} (hwf : s.array.WellFormed) (hi : s.array.offset i < s.array.size) :
    Remarks (fun m => if m = i then none else s.array.lookup m) s.array (freeSlot s i).array ∧
      (freeSlot s i).requested = s.requested ∧
      (freeSlot s i).lSentTime =
        ((s.array.lookup i).map fun packet => max s.lSentTime packet.sentTime).getD s.lSentTime := by
  have hbuf := hwf.buffer_slotOf (Nat.lt_of_lt_of_le hi hwf.size_le)
  unfold freeSlot
  split
  · rename_i hnone
    rw [hnone] at hbuf
    refine ⟨⟨hwf, rfl, rfl, ?_⟩, rfl, ?_⟩
    · intro m
      split
      · rename_i hmi
        rw [hmi, ← hbuf]
      · rfl
    · rw [← hbuf]
      rfl
  · rename_i packet hsome
    rw [hsome] at hbuf
    refine ⟨⟨hwf.setSlot _ hi, rfl, rfl, ?_⟩, rfl, ?_⟩
    · intro m
      exact hwf.lookup_setSlot _ hi
    · rw [← hbuf]
      rfl

variable {mark mark' : Nat → RequestMark} {count : Nat}

theorem latestReceived_congr {packet packet' : Nat → Option PacketData} (hmark : ∀ j < count, mark j = mark' j)
    (hpacket : ∀ j < count, packet j = packet' j) (latest : UInt64) :
    latestReceived mark packet count latest = latestReceived mark' packet' count latest := by
  refine foldl_ext _ _ latest ?_
  intro latest j hj
  have hj := mem_range.mp hj
  rw [hmark j hj, hpacket j hj]

theorem not_dist_add_one_lt (hcount : count < 2 ^ 32) : ¬dist (i + 1) i < count := by
  rw [UInt32.dist_def, UInt32.toNat_add, UInt32.toNat_one]
  omega

theorem Remarks.step {tempTime rttTime : UInt64} {c : PacketsArray} (hcount : count < 2 ^ 32)
    (hab : Remarks (fun m => if m = i then applyMark tempTime rttTime (mark 0) (a.lookup m) else a.lookup m) a b)
    (hmark : ∀ j, mark (j + 1) = mark' j)
    (hbc : Remarks (fun m => if dist (i + 1) m < count then applyMark tempTime rttTime (mark' (dist (i + 1) m)) (b.lookup m) else b.lookup m) b c)
    :
    Remarks (fun m => if dist i m < count + 1 then
      applyMark tempTime rttTime (mark (dist i m)) (a.lookup m) else a.lookup m) a c := by
  refine ⟨hbc.wellFormed, hbc.bufferStart_eq.trans hab.bufferStart_eq,
    hbc.bufferEnd_eq.trans hab.bufferEnd_eq, ?_⟩
  intro m
  rw [hbc.lookup_eq, hab.lookup_eq]
  by_cases hmi : m = i
  · subst hmi
    rw [if_neg (not_dist_add_one_lt hcount), if_pos rfl, dist_self, if_pos (Nat.succ_pos count)]
  · have hdist := dist_add_one_left hmi
    rw [if_neg hmi, ← hdist, hmark]
    by_cases hlt : dist (i + 1) m < count
    · rw [if_pos hlt, if_pos (by omega)]
    · rw [if_neg hlt, if_neg (by omega)]

theorem add_ofNat_succ (i : UInt32) (j : Nat) :
    i + UInt32.ofNat (j + 1) = i + 1 + UInt32.ofNat j := by
  rw [UInt32.ofNat_add, show UInt32.ofNat 1 = (1 : UInt32) from rfl,
    UInt32.add_comm (UInt32.ofNat j), UInt32.add_assoc]

/-- What the decoding loop does from number `i` on, where the positions have the marks `mark`. -/
structure LoopResult (tempTime rttTime : UInt64) (mark : Nat → RequestMark) (i : UInt32) (count : Nat)
    (s : RequestState) (r : Bool × RequestState) : Prop where
  succeeds : r.1 = true
  array : Remarks (fun m => if dist i m < count then
    applyMark tempTime rttTime (mark (dist i m)) (s.array.lookup m) else s.array.lookup m) s.array r.2.array
  requested : r.2.requested = s.requested + (List.range count).countP fun j => mark j = .asked
  latest : r.2.lSentTime = latestReceived mark (fun j => s.array.lookup (i + UInt32.ofNat j)) count s.lSentTime

theorem LoopResult.step {tempTime rttTime : UInt64} {s t : RequestState} {r : Bool × RequestState}
    (hcount : count < 2 ^ 32 - 1)
    (harray : Remarks (fun m => if m = i then applyMark tempTime rttTime (mark 0) (s.array.lookup m) else s.array.lookup m) s.array t.array)
    (hrequested : t.requested = s.requested + if mark 0 = .asked then 1 else 0)
    (hlatest : t.lSentTime = if mark 0 = .received then ((s.array.lookup i).map fun packet => max s.lSentTime packet.sentTime).getD s.lSentTime else s.lSentTime)
    (hmark : ∀ j, mark (j + 1) = mark' j) (h : LoopResult tempTime rttTime mark' (i + 1) count t r) :
    LoopResult tempTime rttTime mark i (count + 1) s r := by
  refine ⟨h.succeeds, Remarks.step (by omega) harray hmark h.array, ?_, ?_⟩
  · rw [h.requested, range_succ_eq_map, countP_cons, countP_map]
    have hcountP : (List.range count).countP ((fun j => decide (mark j = .asked)) ∘ Nat.succ) =
        (List.range count).countP fun j => decide (mark' j = .asked) := by
      refine countP_congr ?_
      intro j _
      show decide (mark (j + 1) = .asked) = true ↔ _
      rw [hmark]
    simp only [decide_eq_true_eq]
    omega
  · rw [h.latest, hlatest, latestReceived_succ]
    have hzero : i + UInt32.ofNat 0 = i := UInt32.add_zero i
    rw [hzero]
    refine latestReceived_congr (fun j _ => (hmark j).symm) ?_ _
    intro j hj
    rw [add_ofNat_succ, harray.lookup_eq, if_neg]
    -- `i` is not met again
    intro heq
    have hd := UInt32.dist_add_ofNat (i + 1) (show j < 2 ^ 32 by omega)
    rw [heq] at hd
    exact not_dist_add_one_lt (i := i) (show j + 1 < 2 ^ 32 by omega) (by omega)

theorem handleRequestLoop_exact (tempTime rttTime : UInt64) (count : Nat) (i : UInt32) (n : Nat)
    (data : Bytes) (s : RequestState) (hwf : s.array.WellFormed)
    (hi : s.array.offset i + count ≤ s.array.size) (hahead : Ahead n data) :
    LoopResult tempTime rttTime (requestMark n data) i count s
      (handleRequestLoop tempTime rttTime count i n data s) := by
  induction count generalizing i n data s with
  | zero =>
    refine ⟨rfl, ⟨hwf, rfl, rfl, ?_⟩, rfl, rfl⟩
    intro m
    rfl
  | succ count ih =>
    have hsz := hwf.size_le
    have hsmall : cryptoPacketBufferSize < 2 ^ 32 - 1 := by decide
    have hin : s.array.offset i < s.array.size := by omega
    -- the window of the rest of the loop
    have hnext : ∀ t : PacketsArray, t.bufferStart = s.array.bufferStart →
        t.bufferEnd = s.array.bufferEnd → t.offset (i + 1) + count ≤ t.size := by
      intro t hs he
      have : s.array.offset (i + 1) = s.array.offset i + 1 :=
        dist_add_one (by unfold offset at hin; omega)
      unfold offset size at *
      rw [hs, he]
      omega
    cases data with
    | nil =>
      refine ⟨rfl, ⟨hwf, rfl, rfl, ?_⟩, ?_, ?_⟩
      · intro m
        simp [handleRequestLoop, applyMark]
      · simp [handleRequestLoop]
      · simp [handleRequestLoop, latestReceived]
    | cons d data =>
      rw [handleRequestLoop]
      by_cases hreq : n = d.toNat
      · rw [if_pos hreq]
        have hmark : requestMark n (d :: data) 0 = .asked := by
          rw [requestMark, if_pos hreq]
        have hkeep := remarks_requestSlot hwf hin tempTime rttTime
        refine LoopResult.step (by omega) ?_ ?_ ?_ ?_
          (ih (i + 1) 1 data _ hkeep.wellFormed
            (hnext _ hkeep.bufferStart_eq hkeep.bufferEnd_eq) (ahead_one data))
        · rw [hmark]
          exact hkeep
        · rw [hmark, if_pos rfl]
        · rw [hmark, if_neg (by decide)]
        · intro j
          rw [requestMark, if_pos (.inl hreq)]
      · rw [if_neg hreq]
        have hmark : requestMark n (d :: data) 0 = .received := by
          rw [requestMark, if_neg hreq]
        obtain ⟨hfree, hrequested, hlatest⟩ := remarks_freeSlot hwf hin
        -- the packet is freed, and the loop goes on with another counter
        have hgo : ∀ (n' : Nat) (data' : Bytes), Ahead n' data' →
            (∀ j, requestMark n (d :: data) (j + 1) = requestMark n' data' j) →
            LoopResult tempTime rttTime (requestMark n (d :: data)) i (count + 1) s
              (handleRequestLoop tempTime rttTime count (i + 1) n' data' (freeSlot s i)) := by
          intro n' data' hahead' hrest
          refine LoopResult.step (by omega) ?_ ?_ ?_ hrest
            (ih (i + 1) n' data' _ hfree.wellFormed (hnext _ hfree.bufferStart_eq hfree.bufferEnd_eq) hahead')
          · rw [hmark]
            exact hfree
          · rw [hmark]
            exact hrequested
          · rw [hmark]
            exact hlatest
        by_cases h255 : n = 255
        · rw [if_pos h255, if_neg (not_not.mpr (hahead.eq_zero hreq h255))]
          refine hgo 1 data (ahead_one data) ?_
          intro j
          rw [requestMark, if_pos (.inr h255)]
        · rw [if_neg h255]
          refine hgo (n + 1) (d :: data) (hahead.succ hreq h255) ?_
          intro j
          rw [requestMark, if_neg (not_or.mpr ⟨hreq, h255⟩)]

/-! ## Generated packets -/

theorem ahead_generateRequestLoop (a : PacketsArray) (count : Nat) (i : UInt32) {n : Nat} (room : Nat)
    (hn1 : 1 ≤ n) (hn2 : n ≤ 255) : Ahead n (a.generateRequestLoop count i n room) :=
  ⟨hn1, hn2, fun d rest heq => generateRequestLoop_head a count i n room hn2 d rest heq⟩

def slotAfter (a : PacketsArray) (i : UInt32) (j : Nat) : Option PacketData :=
  a.buffer (slotOf (i + UInt32.ofNat j))

theorem requestMark_generateRequestLoop (a : PacketsArray) (count : Nat) (i : UInt32)
    (n room : Nat) (hn1 : 1 ≤ n) (hn2 : n ≤ 255) (j : Nat) :
    (requestMark n (a.generateRequestLoop count i n room) j = .asked → j < count ∧ a.slotAfter i j = none) ∧
    (requestMark n (a.generateRequestLoop count i n room) j = .received →
      j < count ∧ (a.slotAfter i j).isSome) ∧
    (count ≤ room → j < count → a.slotAfter i j = none →
      requestMark n (a.generateRequestLoop count i n room) j = .asked) := by
  induction count generalizing i n room j with
  | zero =>
    rw [generateRequestLoop, requestMark_nil]
    exact ⟨(absurd · (by decide)), (absurd · (by decide)), fun _ hj => absurd hj (Nat.not_lt_zero j)⟩
  | succ count ih =>
    have hzero : a.slotAfter i 0 = a.buffer (slotOf i) := by
      rw [slotAfter, show i + UInt32.ofNat 0 = i from UInt32.add_zero i]
    have hshift : ∀ k, a.slotAfter i (k + 1) = a.slotAfter (i + 1) k := by
      intro k
      rw [slotAfter, add_ofNat_succ, slotAfter]
    -- after a byte is written the counter restarts at one
    have hrest : ∀ k, (requestMark 1
        (if room ≤ 1 then [] else a.generateRequestLoop count (i + 1) 1 (room - 1)) k = .asked →
          k + 1 < count + 1 ∧ a.slotAfter i (k + 1) = none) ∧
        (requestMark 1
        (if room ≤ 1 then [] else a.generateRequestLoop count (i + 1) 1 (room - 1)) k = .received →
          k + 1 < count + 1 ∧ (a.slotAfter i (k + 1)).isSome) ∧
        (count + 1 ≤ room → k + 1 < count + 1 → a.slotAfter i (k + 1) = none → requestMark 1
        (if room ≤ 1 then [] else a.generateRequestLoop count (i + 1) 1 (room - 1)) k = .asked) := by
      intro k
      rw [hshift]
      by_cases hroom : room ≤ 1
      · rw [if_pos hroom, requestMark_nil]
        exact ⟨(absurd · (by decide)), (absurd · (by decide)), fun hcount hk => by omega⟩
      · rw [if_neg hroom]
        obtain ⟨hasked, hreceived, hall⟩ := ih (i + 1) 1 (room - 1) (by omega) (by omega) k
        refine ⟨?_, ?_, ?_⟩
        · intro hmark
          obtain ⟨hlt, hnone⟩ := hasked hmark
          exact ⟨by omega, hnone⟩
        · intro hmark
          obtain ⟨hlt, hsome⟩ := hreceived hmark
          exact ⟨by omega, hsome⟩
        · exact fun hcount hk => hall (by omega) (by omega)
    rw [generateRequestLoop]
    split
    · -- a hole: the byte is the counter
      rename_i hhole
      have hbyte : (UInt8.ofNat n).toNat = n := by
        rw [UInt8.toNat_ofNat']
        omega
      cases j with
      | zero =>
        rw [requestMark, if_pos hbyte.symm, hzero]
        exact ⟨fun _ => ⟨by omega, Option.isNone_iff_eq_none.mp hhole⟩, (absurd · (by decide)), fun _ _ _ => rfl⟩
      | succ j =>
        rw [requestMark, if_pos (.inl hbyte.symm)]
        exact hrest j
    · rename_i hocc
      have hocc : (a.buffer (slotOf i)).isSome :=
        Option.isSome_iff_ne_none.mpr (by simpa using hocc)
      have hne : a.slotAfter i 0 ≠ none := by
        rw [hzero]
        exact Option.isSome_iff_ne_none.mp hocc
      split
      · -- 255 positions without a hole: the byte is zero
        rename_i hn255
        have hbyte : n ≠ (0 : UInt8).toNat := by
          show n ≠ 0
          omega
        cases j with
        | zero =>
          rw [requestMark, if_neg hbyte]
          exact ⟨(absurd · (by decide)), fun _ => ⟨by omega, by rw [hzero]; exact hocc⟩, fun _ _ hnone => absurd hnone hne⟩
        | succ j =>
          rw [requestMark, if_pos (.inr hn255)]
          exact hrest j
      · rename_i hn255
        obtain ⟨hasked, hreceived, hall⟩ := ih (i + 1) (n + 1) room (by omega) (by omega) (j - 1)
        cases hg : a.generateRequestLoop count (i + 1) (n + 1) room with
        | nil =>
          rw [hg] at hall
          rw [requestMark_nil]
          refine ⟨(absurd · (by decide)), (absurd · (by decide)), ?_⟩
          intro hcount hj hnone
          cases j with
          | zero => exact absurd hnone hne
          | succ j =>
            rw [hshift] at hnone
            have hcontra := hall (by omega) (by omega) hnone
            rw [requestMark_nil] at hcontra
            cases hcontra
        | cons d rest =>
          have hhead := generateRequestLoop_head a count (i + 1) (n + 1) room (by omega) d rest hg
          have hdn : n ≠ d.toNat := by
            rcases hhead with rfl | hle
            · show n ≠ 0
              omega
            · omega
          cases j with
          | zero =>
            rw [requestMark, if_neg hdn]
            exact ⟨(absurd · (by decide)), fun _ => ⟨by omega, by rw [hzero]; exact hocc⟩,
              fun _ _ hnone => absurd hnone hne⟩
          | succ j =>
            rw [hg] at hasked hreceived hall
            rw [requestMark, if_neg (not_or.mpr ⟨hdn, hn255⟩), hshift]
            refine ⟨?_, ?_, ?_⟩
            · intro hmark
              obtain ⟨hlt, hnone⟩ := hasked hmark
              exact ⟨by omega, hnone⟩
            · intro hmark
              obtain ⟨hlt, hsome⟩ := hreceived hmark
              exact ⟨by omega, hsome⟩
            · exact fun hcount hj => hall (by omega) (by omega)

theorem WellFormed.slotAfter_eq (hwf : a.WellFormed) {j : Nat} (hj : j < a.size) :
    a.slotAfter a.bufferStart j = a.lookup (a.bufferStart + UInt32.ofNat j) := by
  have hcap := hwf.size_le
  have hsmall : cryptoPacketBufferSize < 2 ^ 32 := by decide
  refine hwf.buffer_slotOf ?_
  rw [offset, UInt32.dist_add_ofNat _ (by omega)]
  omega

theorem generateRequestPacket_marks (hwf : a.WellFormed) {length : Nat} (hlength : length ≠ 0) :
    ∃ rest, a.generateRequestPacket length = some (packetIdRequest :: rest) ∧
      requestCovers 1 rest ≤ a.size ∧
      (∀ j, requestMark 1 rest j = .asked ↔
        j < requestCovers 1 rest ∧ a.lookup (a.bufferStart + UInt32.ofNat j) = none) ∧
      (a.size < length → ∀ j < a.size, a.lookup (a.bufferStart + UInt32.ofNat j) = none →
        j < requestCovers 1 rest) := by
  have hnothing : ∀ j, requestMark 1 [] j = .asked ↔
      j < requestCovers 1 [] ∧ a.lookup (a.bufferStart + UInt32.ofNat j) = none := by
    intro j
    rw [requestMark_nil]
    exact ⟨nofun, fun h => absurd h.1 (Nat.not_lt_zero j)⟩
  unfold generateRequestPacket
  rw [if_neg hlength]
  by_cases hempty : a.bufferStart = a.bufferEnd
  · rw [if_pos hempty]
    refine ⟨[], rfl, Nat.zero_le _, hnothing, ?_⟩
    intro _ j hj
    have hsize : a.size = 0 := dist_eq_zero.mpr hempty.symm
    omega
  rw [if_neg hempty]
  by_cases hone : length ≤ 1
  · rw [if_pos hone]
    refine ⟨[], rfl, Nat.zero_le _, hnothing, ?_⟩
    intro hlt j hj
    omega
  rw [if_neg hone, toNat_numPacketsArray]
  have hmarks := requestMark_generateRequestLoop a a.size a.bufferStart 1 (length - 1) (by omega) (by omega)
  have hahead := ahead_generateRequestLoop a a.size a.bufferStart (n := 1) (length - 1) (by omega) (by omega)
  generalize a.generateRequestLoop a.size a.bufferStart 1 (length - 1) = rest at hmarks hahead
  have hunknown := requestMark_eq_unknown_iff hahead
  refine ⟨rest, rfl, ?_, ?_, ?_⟩
  · -- the position after the window is not spoken of
    rw [← hunknown]
    cases hmark : requestMark 1 rest a.size with
    | unknown => rfl
    | asked => exact absurd ((hmarks a.size).1 hmark).1 (Nat.lt_irrefl _)
    | received => exact absurd ((hmarks a.size).2.1 hmark).1 (Nat.lt_irrefl _)
  · intro j
    constructor
    · intro hmark
      obtain ⟨hlt, hnone⟩ := (hmarks j).1 hmark
      rw [hwf.slotAfter_eq hlt] at hnone
      refine ⟨?_, hnone⟩
      by_contra hcovers
      rw [(hunknown j).mpr (by omega)] at hmark
      cases hmark
    · intro h
      cases hmark : requestMark 1 rest j with
      | asked => rfl
      | unknown =>
        have := (hunknown j).mp hmark
        omega
      | received =>
        obtain ⟨hlt, hsome⟩ := (hmarks j).2.1 hmark
        rw [hwf.slotAfter_eq hlt, h.2] at hsome
        cases hsome
  · intro hlt j hj hnone
    rw [← hwf.slotAfter_eq hj] at hnone
    have hmark := (hmarks j).2.2 (by omega) hj hnone
    by_contra hcovers
    rw [(hunknown j).mpr (by omega)] at hmark
    cases hmark

/-! ## Generating and handling -/

theorem handleRequestPacket_exact (hwf : a.WellFormed) (rest : Bytes)
    (latestSendTime rttTime tempTime : UInt64) :
    ∃ b, a.handleRequestPacket (packetIdRequest :: rest) latestSendTime rttTime tempTime =
        (some ((List.range a.size).countP fun j => requestMark 1 rest j = .asked), b,
          max latestSendTime (latestReceived (requestMark 1 rest)
            (fun j => a.lookup (a.bufferStart + UInt32.ofNat j)) a.size 0)) ∧
      Remarks (fun m => applyMark tempTime rttTime (requestMark 1 rest (a.offset m)) (a.lookup m))
        a b := by
  -- outside of the window there is nothing to mark
  have hwindow : ∀ m, (if dist a.bufferStart m < a.size then
      applyMark tempTime rttTime (requestMark 1 rest (dist a.bufferStart m)) (a.lookup m)
      else a.lookup m) =
        applyMark tempTime rttTime (requestMark 1 rest (a.offset m)) (a.lookup m) := by
    intro m
    split
    · rfl
    · rename_i hout
      rw [show a.lookup m = none from if_neg hout]
      cases requestMark 1 rest (a.offset m) with
      | asked => rfl
      | received => rfl
      | unknown => rfl
  by_cases hrest : rest = []
  · subst hrest
    refine ⟨a, ?_, hwf, rfl, rfl, ?_⟩
    · have hmax : max latestSendTime 0 = latestSendTime := by
        show (if latestSendTime ≤ 0 then 0 else latestSendTime) = latestSendTime
        split
        · rename_i hle
          exact (UInt64.toNat_inj.mp (Nat.le_zero.mp (UInt64.le_iff_toNat_le.mp hle))).symm
        · rfl
      simp [handleRequestPacket, latestReceived, hmax]
    · intro m
      rw [requestMark_nil]
      rfl
  · have hloop := handleRequestLoop_exact tempTime rttTime a.size a.bufferStart 1 rest ⟨a, 0, 0⟩ hwf
      (by simp [offset_bufferStart]) (ahead_one rest)
    unfold handleRequestPacket
    dsimp only
    rw [if_neg (not_not.mpr rfl), if_neg hrest, toNat_numPacketsArray]
    generalize handleRequestLoop tempTime rttTime a.size a.bufferStart 1 rest ⟨a, 0, 0⟩ = r at hloop ⊢
    obtain ⟨ok, s⟩ := r
    obtain ⟨rfl, harray, hrequested, hlatest⟩ := hloop
    refine ⟨s.array, ?_, harray.wellFormed, harray.bufferStart_eq, harray.bufferEnd_eq, ?_⟩
    · dsimp only
      rw [show s.requested = _ from hrequested, show s.lSentTime = _ from hlatest, Nat.zero_add]
    · intro m
      rw [harray.lookup_eq]
      exact hwindow m

theorem countP_range_of_le {p : Nat → Bool} {c n : Nat} (hcn : c ≤ n) (h : ∀ j, c ≤ j → p j = false) :
    (List.range n).countP p = (List.range c).countP p := by
  obtain ⟨k, rfl⟩ := Nat.exists_eq_add_of_le hcn
  rw [range_add, countP_append, countP_map]
  have hzero : (List.range k).countP (p ∘ fun x => c + x) = 0 := by
    rw [countP_eq_zero]
    intro j _
    show ¬p (c + j) = true
    rw [h (c + j) (by omega)]
    exact nofun
  rw [hzero, Nat.add_zero]

/-- What the sender makes of a request packet about the first `covered` numbers. -/
structure RequestRoundTrip (recv send send' : PacketsArray) (covered count : Nat) : Prop where
  wellFormed : send'.WellFormed
  bufferStart_eq : send'.bufferStart = send.bufferStart
  bufferEnd_eq : send'.bufferEnd = send.bufferEnd
  /-- The missing numbers that the packet speaks of are counted, -/
  counted : count = (List.range covered).countP fun j =>
    recv.lookup (recv.bufferStart + UInt32.ofNat j) = none
  /-- and their packets are kept. -/
  kept : ∀ m, recv.offset m < covered → recv.lookup m = none →
    (send'.lookup m).map (·.data) = (send.lookup m).map (·.data)
  freed : ∀ m, recv.offset m < covered → recv.lookup m ≠ none → send'.lookup m = none
  untouched : ∀ m, covered ≤ recv.offset m → send'.lookup m = send.lookup m

/-- A generated request packet is handled by its sender: the holes that it has room for are counted and kept, and
    everything else before them is freed. -/
theorem handleRequestPacket_generated {recv send : PacketsArray} (hrecv : recv.WellFormed)
    (hsend : send.WellFormed) (hstart : send.bufferStart = recv.bufferStart) (hend : recv.size ≤ send.size)
    {length : Nat} (hlength : length ≠ 0) (latestSendTime rttTime tempTime : UInt64) :
    ∃ rest count send' latest,
      recv.generateRequestPacket length = some (packetIdRequest :: rest) ∧
      send.handleRequestPacket (packetIdRequest :: rest) latestSendTime rttTime tempTime =
        (some count, send', latest) ∧
      RequestRoundTrip recv send send' (requestCovers 1 rest) count ∧
      (∀ m, requestMark 1 rest (recv.offset m) = .asked ↔
        recv.offset m < requestCovers 1 rest ∧ recv.lookup m = none) ∧
      (recv.size < length → ∀ m, recv.offset m < recv.size → recv.lookup m = none →
        recv.offset m < requestCovers 1 rest) := by
  obtain ⟨rest, hgenerate, hcovers, hasked, hall⟩ := generateRequestPacket_marks hrecv hlength
  obtain ⟨send', hhandle, hremarks⟩ :=
    handleRequestPacket_exact hsend rest latestSendTime rttTime tempTime
  have hnumber : ∀ m, recv.bufferStart + UInt32.ofNat (recv.offset m) = m :=
    fun m => UInt32.add_ofNat_dist recv.bufferStart m
  have hoffset : ∀ m, send.offset m = recv.offset m := by
    intro m
    rw [offset, hstart, offset]
  have hunknown := requestMark_eq_unknown_iff (ahead_one rest)
  refine ⟨rest, _, send', _, hgenerate, hhandle, ?_, ?_, ?_⟩
  · refine ⟨hremarks.wellFormed, hremarks.bufferStart_eq, hremarks.bufferEnd_eq, ?_, ?_, ?_, ?_⟩
    · have hbehind : ∀ j, requestCovers 1 rest ≤ j →
          decide (requestMark 1 rest j = .asked) = false := by
        intro j hj
        rw [(hunknown j).mpr hj]
        rfl
      rw [countP_range_of_le (Nat.le_trans hcovers hend) hbehind]
      refine countP_congr ?_
      intro j hj
      rw [decide_eq_true_eq, decide_eq_true_eq, hasked]
      exact ⟨fun h => h.2, fun h => ⟨mem_range.mp hj, h⟩⟩
    · intro m hm hnone
      have hmark := (hasked (recv.offset m)).mpr ⟨hm, by rw [hnumber]; exact hnone⟩
      rw [hremarks.lookup_eq, hoffset, hmark]
      cases send.lookup m with
      | none => rfl
      | some packet =>
        simp only [applyMark, Option.map_some]
        split
        · rfl
        · rfl
    · intro m hm hsome
      have hmark : requestMark 1 rest (recv.offset m) = .received := by
        cases hmark : requestMark 1 rest (recv.offset m) with
        | received => rfl
        | unknown =>
          have := (hunknown _).mp hmark
          omega
        | asked =>
          have hnone := ((hasked _).mp hmark).2
          rw [hnumber] at hnone
          exact absurd hnone hsome
      rw [hremarks.lookup_eq, hoffset, hmark]
      rfl
    · intro m hm
      rw [hremarks.lookup_eq, hoffset, (hunknown _).mpr hm]
      rfl
  · intro m
    rw [hasked, hnumber]
  · intro hlt m hm hnone
    exact hall hlt _ hm (by rw [hnumber]; exact hnone)

/-- An array with one packet, whose number is `1`, and a window of two numbers. -/
def secondOnly : PacketsArray where
  buffer slot := if slot = slotOf 1 then some ⟨5, [7]⟩ else none
  bufferStart := 0
  bufferEnd := 2

def firstAndSecond : PacketsArray where
  buffer slot := if slot = slotOf 0 ∨ slot = slotOf 1 then some ⟨5, [7]⟩ else none
  bufferStart := 0
  bufferEnd := 2

theorem wellFormed_secondOnly : secondOnly.WellFormed := by
  refine ⟨by decide, ?_⟩
  intro n hsize hcap
  refine if_neg fun heq => ?_
  have hn := slotOf_inj (s := secondOnly.bufferStart) hcap (by decide) heq
  rw [hn] at hsize
  exact absurd hsize (by decide)

theorem wellFormed_firstAndSecond : firstAndSecond.WellFormed := by
  refine ⟨by decide, ?_⟩
  intro n hsize hcap
  refine if_neg ?_
  intro heq
  rcases heq with heq | heq
  · have hn := slotOf_inj (s := firstAndSecond.bufferStart) hcap (by decide) heq
    rw [hn] at hsize
    exact absurd hsize (by decide)
  · have hn := slotOf_inj (s := firstAndSecond.bufferStart) hcap (by decide) heq
    rw [hn] at hsize
    exact absurd hsize (by decide)

/-- The first packet of the window is asked for and kept. -/
theorem handleRequestPacket_secondOnly : ∃ rest count send' latest,
    secondOnly.generateRequestPacket 10 = some (packetIdRequest :: rest) ∧
    firstAndSecond.handleRequestPacket (packetIdRequest :: rest) 0 0 0 = (some count, send', latest) ∧
    RequestRoundTrip secondOnly firstAndSecond send' (requestCovers 1 rest) count := by
  obtain ⟨rest, count, send', latest, hgenerate, hhandle, htrip, -⟩ :=
    handleRequestPacket_generated wellFormed_secondOnly wellFormed_firstAndSecond rfl (by decide)
      (show (10 : Nat) ≠ 0 by decide) 0 0 0
  exact ⟨rest, count, send', latest, hgenerate, hhandle, htrip⟩

/-! ## Any payload -/

theorem handleRequestLoopAt_eq (payload : Bytes) (tempTime rttTime : UInt64) (count : Nat)
    (i : UInt32) (n position : Nat) (s : RequestState) :
    handleRequestLoopAt payload tempTime rttTime count i n position (payload.length - position) s =
      some (handleRequestLoop tempTime rttTime count i n (payload.drop position) s) := by
  induction count generalizing i n position s with
  | zero =>
    rw [handleRequestLoopAt, handleRequestLoop]
  | succ count ih =>
    rw [handleRequestLoopAt]
    by_cases hend : payload.length ≤ position
    · rw [if_pos (by omega), drop_eq_nil_of_le hend, handleRequestLoop]
    · have hlt : position < payload.length := by omega
      have hnext : payload.length - position - 1 = payload.length - (position + 1) := by omega
      rw [if_neg (by omega), drop_eq_getElem_cons hlt, getElem?_eq_getElem hlt,
        Option.bind_some, handleRequestLoop]
      by_cases hreq : n = (payload[position]).toNat
      · rw [if_pos hreq, if_pos hreq]
        dsimp only
        rw [if_neg (by decide), hnext, ih]
      · rw [if_neg hreq, if_neg hreq]
        dsimp only
        by_cases h255 : n = 255
        · rw [if_pos h255, if_pos h255, getElem?_eq_getElem hlt, Option.bind_some]
          by_cases hd : payload[position] = 0
          · rw [if_neg (not_not.mpr hd), if_neg (not_not.mpr hd), hnext, ih]
          · rw [if_pos hd, if_pos hd]
        · rw [if_neg h255, if_neg h255, ih, drop_eq_getElem_cons hlt]

theorem handleRequestPacketAt_eq (payload : Bytes) (latestSendTime rttTime tempTime : UInt64) :
    a.handleRequestPacketAt payload latestSendTime rttTime tempTime =
      some (a.handleRequestPacket payload latestSendTime rttTime tempTime) := by
  cases payload with
  | nil => rfl
  | cons d rest =>
    unfold handleRequestPacketAt handleRequestPacket
    rw [if_neg (by simp), getElem?_cons_zero, Option.bind_some]
    dsimp only
    by_cases hd : d = packetIdRequest
    · rw [if_neg (not_not.mpr hd), if_neg (not_not.mpr hd)]
      by_cases hrest : rest = []
      · rw [if_pos (by simp [hrest]), if_pos hrest]
      · have hlength : ¬(d :: rest).length = 1 := by
          intro heq
          exact hrest (length_eq_zero_iff.mp (Nat.succ.inj heq))
        rw [if_neg hlength, if_neg hrest, handleRequestLoopAt_eq (d :: rest) tempTime rttTime _ _ 1 1,
          drop_one, tail_cons, Option.map_some]
    · rw [if_pos hd, if_pos hd]

theorem countP_asked_le (n : Nat) (data : Bytes) (count : Nat) :
    (List.range count).countP (fun j => requestMark n data j = .asked) ≤ data.length := by
  induction count generalizing n data with
  | zero => exact Nat.zero_le _
  | succ count ih =>
    rw [range_succ_eq_map, countP_cons, countP_map]
    cases data with
    | nil => simp [Function.comp_def]
    | cons d data =>
      rw [length_cons]
      have hone := ih 1 data
      by_cases hnext : n = d.toNat ∨ n = 255
      · have hcomp : ((fun j => decide (requestMark n (d :: data) j = .asked)) ∘ Nat.succ) =
            fun j => decide (requestMark 1 data j = .asked) := by
          funext j
          show decide (requestMark n (d :: data) (j + 1) = .asked) = _
          rw [requestMark, if_pos hnext]
        rw [hcomp]
        split
        · omega
        · omega
      · have hcomp : ((fun j => decide (requestMark n (d :: data) j = .asked)) ∘ Nat.succ) =
            fun j => decide (requestMark (n + 1) (d :: data) j = .asked) := by
          funext j
          show decide (requestMark n (d :: data) (j + 1) = .asked) = _
          rw [requestMark, if_neg hnext]
        have hzero : requestMark n (d :: data) 0 = .received := by
          rw [requestMark, if_neg (not_or.mp hnext).1]
        rw [hcomp, hzero, if_neg (by decide)]
        exact ih (n + 1) (d :: data)

theorem exists_slotOf (a : PacketsArray) (slot : Fin cryptoPacketBufferSize) :
    ∃ m, a.offset m < cryptoPacketBufferSize ∧ slotOf m = slot := by
  have hslot : slot.val < 32768 := slot.isLt
  have hk : (slot.val + 32768 - a.bufferStart.toNat % 32768) % 32768 < 2 ^ 32 :=
    Nat.lt_trans (Nat.mod_lt _ (by decide)) (by decide)
  refine ⟨a.bufferStart + UInt32.ofNat ((slot.val + 32768 - a.bufferStart.toNat % 32768) % 32768), ?_, ?_⟩
  · rw [offset, UInt32.dist_add_ofNat _ hk]
    exact Nat.mod_lt _ (by decide)
  · apply Fin.ext
    show (a.bufferStart + UInt32.ofNat _).toNat % 32768 = slot.val
    rw [UInt32.toNat_add, UInt32.toNat_ofNat_of_lt' hk]
    omega

/-- What `handle_request_packet` may do with any payload. -/
structure RequestSafe (a : PacketsArray) (payload : Bytes) (result : Option Nat) (b : PacketsArray) :
    Prop where
  bufferStart_eq : b.bufferStart = a.bufferStart
  bufferEnd_eq : b.bufferEnd = a.bufferEnd
  /-- The slots of no number in the window stay as they are. -/
  outside : ∀ slot, (∀ m, a.offset m < a.size → slotOf m ≠ slot) → b.buffer slot = a.buffer slot
  /-- No packet is added. -/
  fewer : ∀ slot, a.buffer slot = none → b.buffer slot = none
  count_le : ∀ count, result = some count → count ≤ payload.length - 1 ∧ count ≤ a.size

/-- `handle_request_packet` reads inside of the payload, and changes packets of the window only. -/
theorem handleRequestPacketAt_safe (hwf : a.WellFormed) (payload : Bytes)
    (latestSendTime rttTime tempTime : UInt64) :
    ∃ result b latest, a.handleRequestPacketAt payload latestSendTime rttTime tempTime =
      some (result, b, latest) ∧ RequestSafe a payload result b := by
  rw [handleRequestPacketAt_eq]
  have hpruned := handleRequestPacket_spec hwf payload latestSendTime rttTime tempTime
  generalize hresult : a.handleRequestPacket payload latestSendTime rttTime tempTime = r at hpruned
  obtain ⟨result, b, latest⟩ := r
  refine ⟨result, b, latest, rfl, ?_⟩
  -- a slot of the new array is the packet of a number, and none is added
  have hslots : ∀ slot, ∃ m, slotOf m = slot ∧ a.buffer slot = a.lookup m ∧
      b.buffer slot = b.lookup m := by
    intro slot
    obtain ⟨m, hm, rfl⟩ := exists_slotOf a slot
    refine ⟨m, rfl, hwf.buffer_slotOf hm, hpruned.wellFormed.buffer_slotOf ?_⟩
    rw [offset, hpruned.bufferStart_eq]
    exact hm
  have hfewer : ∀ m, a.lookup m = none → b.lookup m = none := by
    intro m hnone
    by_contra hsome
    obtain ⟨d, hd⟩ := Option.ne_none_iff_exists'.mp hsome
    obtain ⟨d0, hd0, -⟩ := hpruned.data_eq m d hd
    rw [hnone] at hd0
    cases hd0
  refine ⟨hpruned.bufferStart_eq, hpruned.bufferEnd_eq, ?_, ?_, ?_⟩
  · intro slot hout
    obtain ⟨m, hm, hold, hnew⟩ := hslots slot
    have hnone : a.lookup m = none := if_neg fun hlt => hout m hlt hm
    rw [hnew, hold, hnone, hfewer m hnone]
  · intro slot hnone
    obtain ⟨m, -, hold, hnew⟩ := hslots slot
    rw [hnew]
    exact hfewer m (hold.symm.trans hnone)
  · intro count hcount
    have hfirst := congrArg Prod.fst hresult
    rw [hcount] at hfirst
    cases payload with
    | nil => cases hfirst
    | cons d rest =>
      by_cases hd : d = packetIdRequest
      · obtain ⟨b, hhandle, -⟩ :=
          handleRequestPacket_exact hwf rest latestSendTime rttTime tempTime
        rw [hd, hhandle] at hfirst
        cases hfirst
        refine ⟨countP_asked_le 1 rest a.size, ?_⟩
        have hle := countP_le_length (p := fun j => decide (requestMark 1 rest j = .asked))
          (l := List.range a.size)
        rwa [length_range] at hle
      · unfold handleRequestPacket at hfirst
        dsimp only at hfirst
        rw [if_pos hd] at hfirst
        cases hfirst

/-- A payload that asks for nothing in the window. -/
theorem handleRequestPacketAt_garbage : ∃ result b latest,
    firstAndSecond.handleRequestPacketAt [packetIdRequest, 255, 7] 0 0 0 = some (result, b, latest) ∧
    RequestSafe firstAndSecond [packetIdRequest, 255, 7] result b :=
  handleRequestPacketAt_safe wellFormed_firstAndSecond [packetIdRequest, 255, 7] 0 0 0

end PacketsArray

end Toxcore

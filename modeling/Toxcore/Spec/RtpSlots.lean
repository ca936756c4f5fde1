import Toxcore.Native.Rtp

/-!
# The work buffer as a queue

A work buffer whose slots in use are the first ones is a list of at most three frames.  This module
says what `handle_video_packet` does with this list.
-/

namespace Toxcore

open List

structure Slot (ι : Type) where
  isKeyframe : Bool
  receivedLen : UInt32
  buf : RTPMessage
  copied : List ι

variable {ι : Type}

namespace Slot

def entry (slot : Slot ι) : RTPWorkBuffer where
  isKeyframe := slot.isKeyframe
  receivedLen := slot.receivedLen
  buf := some slot.buf

def belongs (header : RTPHeader) (slot : Slot ι) : Bool :=
  slot.buf.header.sequnum = header.sequnum ∧ slot.buf.header.timestamp = header.timestamp

def start (header : RTPHeader) : Slot ι where
  isKeyframe := false
  receivedLen := 0
  buf := { len := 0, header, data := List.replicate header.dataLengthFull.toNat 0 }
  copied := []

/-- The slot with the data of the packet `name`, where `memory` is that of the message afterwards. -/
def grow (slot : Slot ι) (name : ι) (data memory : Bytes) : Slot ι :=
  { slot with
    receivedLen := slot.receivedLen + UInt32.ofNat data.length
    buf :=
      { slot.buf with
        header :=
          { slot.buf.header with
            receivedLengthFull := slot.receivedLen + UInt32.ofNat data.length }
        data := memory }
    copied := slot.copied ++ [name] }

def fill (slot : Slot ι) (header : RTPHeader) (name : ι) (data : Bytes) :
    Except RtpFault (Slot ι) :=
  (copyTo slot.buf.data header.offsetFull.toNat data).map (slot.grow name data)

/-- Whether the frame is older than that of `slot` by more than two frames. -/
def outdatedBy (slot oldest : Slot ι) : Bool :=
  oldest.buf.header.sequnum.toNat + 2 < slot.buf.header.sequnum.toNat

end Slot

namespace RTPWorkBufferList

structure Tidy (wkbl : RTPWorkBufferList) : Prop where
  length : wkbl.workBuffer.length = usedRtpWorkbufferCount
  next_le : wkbl.nextFreeEntry ≤ usedRtpWorkbufferCount
  occupied : ∀ i < wkbl.nextFreeEntry, ∃ slot, wkbl.workBuffer[i]? = some slot ∧ slot.buf.isSome
  free : ∀ i, wkbl.nextFreeEntry ≤ i → i < usedRtpWorkbufferCount → wkbl.workBuffer[i]? = some emptyWorkBuffer

def ofSlots (slots : List (Slot ι)) : RTPWorkBufferList where
  nextFreeEntry := slots.length
  workBuffer := slots.map Slot.entry ++ List.replicate (usedRtpWorkbufferCount - slots.length) emptyWorkBuffer

variable {slots : List (Slot ι)}

theorem tidy_ofSlots (h : slots.length ≤ usedRtpWorkbufferCount) :
    (ofSlots slots).Tidy where
  length := by
    rw [ofSlots, length_append, length_map, length_replicate]
    omega
  next_le := h
  occupied i hi := by
    have hlt : i < slots.length := hi
    refine ⟨slots[i].entry, ?_, rfl⟩
    rw [ofSlots, getElem?_append_left (by rw [length_map]; exact hlt), getElem?_map, getElem?_eq_getElem hlt]
    rfl
  free i hi hlt := by
    have hle : slots.length ≤ i := hi
    rw [ofSlots, getElem?_append_right (by rw [length_map]; exact hle), length_map,
      getElem?_replicate_of_lt (by omega)]

theorem getSlotLoop_map_entry (header : RTPHeader) (slots : List (Slot ι)) (i : Nat) :
    getSlotLoop header (slots.map Slot.entry) i =
      .ok ((slots.findIdx? (Slot.belongs header)).map (· + i)) := by
  induction slots generalizing i with
  | nil => rfl
  | cons slot slots ih =>
    rw [findIdx?_cons]
    show (if _ ∧ _ then _ else _) = _
    by_cases h : slot.belongs header
    · rw [if_pos h, if_pos (of_decide_eq_true h), Option.map_some, Nat.zero_add]
    · rw [if_neg h, if_neg (fun hb => h (decide_eq_true hb)), ih, Option.map_map]
      congr 2
      funext j
      show j + (i + 1) = j + 1 + i
      omega

def slotOf (slots : List (Slot ι)) (header : RTPHeader) (isMultipart : Bool) : Nat :=
  if isMultipart then slots.findIdx (Slot.belongs header) else slots.length

theorem slotOf_le (slots : List (Slot ι)) (header : RTPHeader) (isMultipart : Bool) :
    slotOf slots header isMultipart ≤ slots.length := by
  unfold slotOf
  split
  · exact findIdx_le_length
  · exact le_rfl

theorem getSlot_ofSlots (hslots : slots.length ≤ usedRtpWorkbufferCount) (header : RTPHeader) (isMultipart : Bool) :
    (ofSlots slots).getSlot header isMultipart =
      .ok (if slotOf slots header isMultipart < usedRtpWorkbufferCount
        then some (slotOf slots header isMultipart) else none) := by
  have htake : (ofSlots slots).workBuffer.take (ofSlots slots).nextFreeEntry =
      slots.map Slot.entry := take_left' (length_map _)
  have hnext : (ofSlots slots).nextFreeEntry = slots.length := rfl
  have hle := slotOf_le slots header isMultipart
  unfold getSlot
  rw [htake, getSlotLoop_map_entry, hnext]
  cases slots with
  | nil => cases isMultipart <;> rfl
  | cons slot slots =>
    have hne : (slot :: slots).length ≠ 0 := Nat.succ_ne_zero _
    rw [if_neg hne]
    cases isMultipart with
    | false =>
      show (if _ then _ else _) = Except.ok (if (slot :: slots).length < _ then _ else _)
      split <;> rfl
    | true =>
      rw [if_pos rfl]
      show _ = Except.ok (if (slot :: slots).findIdx (Slot.belongs header) < _ then
        some ((slot :: slots).findIdx (Slot.belongs header)) else none)
      change (slot :: slots).findIdx (Slot.belongs header) ≤ _ at hle
      have hfind : (slot :: slots).findIdx? (Slot.belongs header) =
          if (slot :: slots).findIdx (Slot.belongs header) < (slot :: slots).length
            then some ((slot :: slots).findIdx (Slot.belongs header)) else none := by
        rw [findIdx?_eq_guard_findIdx_lt, Option.guard]
        simp only [decide_eq_true_eq]
      rw [hfind]
      generalize (slot :: slots).findIdx (Slot.belongs header) = i at hle ⊢
      by_cases hlt : i < (slot :: slots).length
      · rw [if_pos hlt, if_pos (Nat.lt_of_lt_of_le hlt hslots)]
        rfl
      · have hi : i = (slot :: slots).length := Nat.le_antisymm hle (Nat.le_of_not_lt hlt)
        rw [if_neg hlt, hi]
        split <;> rfl

theorem processFrame_ofSlots (hslots : slots.length ≤ usedRtpWorkbufferCount) (slotId : Nat)
    (hslotId : slotId < slots.length ∨ slots = []) :
    (ofSlots slots).processFrame slotId = ((slots[slotId]?).map (·.buf), ofSlots (slots.eraseIdx slotId)) := by
  match slots, slotId with
  | [], _ => rfl
  | [_], 0 => rfl
  | [_, _], 0 => rfl
  | [_, _], 1 => rfl
  | [_, _, _], 0 => rfl
  | [_, _, _], 1 => rfl
  | [_, _, _], 2 => rfl
  | [_], k + 1 =>
    have hlt : k + 1 < 1 := hslotId.resolve_right (cons_ne_nil _ _)
    omega
  | [_, _], k + 2 =>
    have hlt : k + 2 < 2 := hslotId.resolve_right (cons_ne_nil _ _)
    omega
  | [_, _, _], k + 3 =>
    have hlt : k + 3 < 3 := hslotId.resolve_right (cons_ne_nil _ _)
    omega
  | _ :: _ :: _ :: _ :: rest, _ =>
    have hle : rest.length + 4 ≤ 3 := hslots
    omega

variable {slotId : Nat}

theorem set_ofSlots (hslotId : slotId < slots.length) (slot : Slot ι)
    : (ofSlots slots).workBuffer.set slotId slot.entry = (ofSlots (slots.set slotId slot)).workBuffer := by
  rw [ofSlots, ofSlots, length_set, map_set, set_append_left _ _ (by rw [length_map]; exact hslotId)]

theorem set_length_ofSlots (hroom : slots.length < usedRtpWorkbufferCount) (slot : Slot ι)
    : (ofSlots slots).workBuffer.set slots.length slot.entry = (ofSlots (slots ++ [slot])).workBuffer := by
  obtain ⟨k, hk⟩ : ∃ k, usedRtpWorkbufferCount - slots.length = k + 1 :=
    ⟨usedRtpWorkbufferCount - slots.length - 1, by omega⟩
  have hrest : usedRtpWorkbufferCount - (slots ++ [slot]).length = k := by
    rw [length_append, length_singleton]
    omega
  rw [ofSlots, ofSlots, hk, hrest, set_append_right _ _ (by rw [length_map]), length_map, Nat.sub_self,
    map_append, append_assoc]
  rfl

theorem copyIntoSlot_entry {wkbl : RTPWorkBufferList} (slot : Slot ι) (header : RTPHeader) (name : ι) (data : Bytes) :
    wkbl.copyIntoSlot slotId slot.entry header data =
      (slot.fill header name data).map fun slot => (slot.receivedLen == header.dataLengthFull,
        { wkbl with workBuffer := wkbl.workBuffer.set slotId slot.entry }) := by
  unfold copyIntoSlot Slot.fill Slot.entry
  dsimp only
  cases copyTo slot.buf.data header.offsetFull.toNat data <;> rfl

theorem fillDataIntoSlot_ofSlots_of_lt (hslotId : slotId < slots.length) (isKeyframe calloc : Bool) (header : RTPHeader)
    (name : ι) (data : Bytes) :
    (ofSlots slots).fillDataIntoSlot slotId isKeyframe header data calloc =
      if slots[slotId].receivedLen = 0 then .error .assertion
      else
        (slots[slotId].fill header name data).map fun slot =>
          (slot.receivedLen == header.dataLengthFull, ofSlots (slots.set slotId slot)) := by
  have hget : (ofSlots slots).workBuffer[slotId]? = some slots[slotId].entry := by
    rw [ofSlots, getElem?_append_left (by rw [length_map]; exact hslotId),
      getElem?_map, getElem?_eq_getElem hslotId]
    rfl
  have hle : slotId ≤ (ofSlots slots).nextFreeEntry := Nat.le_of_lt hslotId
  unfold fillDataIntoSlot
  rw [if_neg (fun h => h hle), hget]
  by_cases hzero : slots[slotId].receivedLen = 0
  · rw [if_pos hzero]
    exact if_pos hzero
  · rw [if_neg hzero]
    show (if slots[slotId].receivedLen = 0 then _ else _) = _
    rw [if_neg hzero, copyIntoSlot_entry _ _ name]
    cases slots[slotId].fill header name data with
    | error fault => rfl
    | ok slot =>
      rw [Except.map, set_ofSlots hslotId]
      congr 3
      exact (length_set ..).symm

theorem fillDataIntoSlot_ofSlots_length (hroom : slots.length < usedRtpWorkbufferCount) (calloc : Bool)
    (header : RTPHeader) (name : ι) (data : Bytes) :
    (ofSlots slots).fillDataIntoSlot slots.length false header data calloc =
      if !calloc then .ok (false, ofSlots slots)
      else
        ((Slot.start header).fill header name data).map fun slot =>
          (slot.receivedLen == header.dataLengthFull,
            ofSlots ((slots ++ [Slot.start header]).set slots.length slot)) := by
  have hget : (ofSlots slots).workBuffer[slots.length]? = some emptyWorkBuffer := by
    exact (tidy_ofSlots (Nat.le_of_lt hroom)).free _ le_rfl hroom
  have hnext : (ofSlots slots).nextFreeEntry = slots.length := rfl
  unfold fillDataIntoSlot
  rw [hget, hnext, if_neg (fun h => h le_rfl)]
  dsimp only
  have hzero : emptyWorkBuffer.receivedLen = 0 := rfl
  have hnone : ¬emptyWorkBuffer.buf.isSome = true := Bool.false_ne_true
  rw [if_pos hzero, if_neg hnone]
  cases calloc with
  | false => rfl
  | true =>
    have htrue : ¬(!true) = true := Bool.false_ne_true
    rw [if_neg htrue, if_neg (fun h => h hroom)]
    show copyIntoSlot _ slots.length (Slot.start header : Slot ι).entry header data = _
    rw [copyIntoSlot_entry _ _ name]
    cases (Slot.start header).fill header name data with
    | error fault => rfl
    | ok slot =>
      have hset : (slots ++ [Slot.start header]).set slots.length slot = slots ++ [slot] := by
        rw [set_append_right _ _ le_rfl, Nat.sub_self]
        rfl
      rw [Except.map, Except.map, set_length_ofSlots hroom, hset]
      congr 3
      rw [length_append, length_singleton]

end RTPWorkBufferList

/-! ## Receiving -/

namespace Slot

/-- The oldest frame, if it is older than the complete frame `slot` in slot `i` by more than two. -/
def lingering (slots : List (Slot ι)) (i : Nat) (slot : Slot ι) : List (Slot ι) :=
  (slots.take (min i 1)).filter slot.outdatedBy

/-- A packet for slot `i`, which is `slot`: the frames that are passed on, and the slots. -/
def receiveAt (slots : List (Slot ι)) (i : Nat) (slot : Slot ι) (header : RTPHeader) (name : ι)
    (data : Bytes) : Except RtpFault (List (Slot ι) × List (Slot ι)) :=
  (slot.fill header name data).map fun slot =>
    if slot.receivedLen = header.dataLengthFull then
      (slot :: lingering slots i slot, (slots.eraseIdx i).drop (lingering slots i slot).length)
    else ([], slots.set i slot)

def displaced (slots : List (Slot ι)) : List (Slot ι) :=
  slots.take (slots.length + 1 - usedRtpWorkbufferCount)

def kept (slots : List (Slot ι)) : List (Slot ι) :=
  slots.drop (slots.length + 1 - usedRtpWorkbufferCount)

def receiveNew (slots : List (Slot ι)) (header : RTPHeader) (name : ι) (data : Bytes)
    (calloc : Bool) : Except RtpFault (List (Slot ι) × List (Slot ι)) :=
  if !calloc then .ok (displaced slots, kept slots)
  else
    (receiveAt (kept slots ++ [start header]) (kept slots).length (start header) header name
      data).map fun received => (displaced slots ++ received.1, received.2)

def joined (slots : List (Slot ι)) (header : RTPHeader) (data : Bytes) : Option (Slot ι) :=
  slots[RTPWorkBufferList.slotOf slots header (header.dataLengthFull.toNat != data.length)]?

/-- `handle_video_packet` on the slots: the frames that are passed on, and the slots. -/
def receive (slots : List (Slot ι)) (header : RTPHeader) (name : ι) (data : Bytes)
    (calloc : Bool) : Except RtpFault (List (Slot ι) × List (Slot ι)) :=
  if header.dataLengthFull = 0 ∨ header.offsetFull ≥ header.dataLengthFull then .ok ([], slots)
  else
    match joined slots header data with
    | none => receiveNew slots header name data calloc
    | some slot =>
      if slot.receivedLen = 0 then .error .assertion
      else
        receiveAt slots
          (RTPWorkBufferList.slotOf slots header (header.dataLengthFull.toNat != data.length)) slot
          header name data

theorem receiveAt_ok {slots : List (Slot ι)} {i : Nat} {slot : Slot ι} {header : RTPHeader}
    {name : ι} {data : Bytes} {passed slots' : List (Slot ι)}
    (h : receiveAt slots i slot header name data = .ok (passed, slots')) :
    ∃ memory, copyTo slot.buf.data header.offsetFull.toNat data = .ok memory ∧
      (((slot.grow name data memory).receivedLen = header.dataLengthFull ∧
          passed = slot.grow name data memory :: lingering slots i (slot.grow name data memory) ∧
          slots' = (slots.eraseIdx i).drop (lingering slots i (slot.grow name data memory)).length) ∨
        ((slot.grow name data memory).receivedLen ≠ header.dataLengthFull ∧ passed = [] ∧
          slots' = slots.set i (slot.grow name data memory))) := by
  unfold receiveAt fill at h
  cases hcopy : copyTo slot.buf.data header.offsetFull.toNat data with
  | error fault => rw [hcopy] at h; cases h
  | ok memory =>
    rw [hcopy, Except.map, Except.map] at h
    injection h with h
    refine ⟨memory, rfl, ?_⟩
    by_cases hfull : (slot.grow name data memory).receivedLen = header.dataLengthFull
    · rw [if_pos hfull] at h
      injection h with hpassed hslots
      exact .inl ⟨hfull, hpassed.symm, hslots.symm⟩
    · rw [if_neg hfull] at h
      injection h with hpassed hslots
      exact .inr ⟨hfull, hpassed.symm, hslots.symm⟩

end Slot

namespace RTPSession

def withSlots (session : RTPSession) (passed slots : List (Slot ι)) : RTPSession :=
  { session with
    workBufferList := .ofSlots slots
    delivered := session.delivered ++ passed.map (·.buf) }

theorem withSlots_withSlots (session : RTPSession) (passed slots passed' slots' : List (Slot ι)) :
    (session.withSlots passed slots).withSlots passed' slots' =
      session.withSlots (passed ++ passed') slots' := by
  unfold withSlots
  rw [map_append, append_assoc]

variable {session : RTPSession} {slots : List (Slot ι)}

theorem withSlots_nil (h : session.workBufferList = .ofSlots slots) : session.withSlots [] slots = session := by
  unfold withSlots
  rw [map_nil, append_nil, ← h]

variable {i : Nat}

theorem passFrame_withSlots (session : RTPSession) (passed : List (Slot ι))
    (hslots : slots.length ≤ usedRtpWorkbufferCount) (hi : i < slots.length) :
    (session.withSlots passed slots).passFrame i =
      session.withSlots (passed ++ [slots[i]]) (slots.eraseIdx i) := by
  have hbuffer : (session.withSlots passed slots).workBufferList = .ofSlots slots := rfl
  unfold passFrame
  rw [hbuffer, RTPWorkBufferList.processFrame_ofSlots hslots i (.inl hi),
    getElem?_eq_getElem hi, ← withSlots_withSlots session passed slots]
  rfl

theorem lingers_withSlots (session : RTPSession) (passed : List (Slot ι)) (hi : i < slots.length)
    (hzero : 0 < slots.length) :
    (session.withSlots passed slots).lingers i = slots[i].outdatedBy slots[0] := by
  have hget (j : Nat) (hj : j < slots.length) :
      ((session.withSlots passed slots).workBufferList.workBuffer[j]?).bind (·.buf) =
        some slots[j].buf := by
    show ((slots.map Slot.entry ++ _)[j]?).bind _ = _
    rw [getElem?_append_left (by rw [length_map]; exact hj), getElem?_map, getElem?_eq_getElem hj]
    rfl
  unfold lingers
  rw [hget i hi, hget 0 hzero]
  rfl

theorem passFrames_withSlots (session : RTPSession) (passed : List (Slot ι))
    (hslots : slots.length ≤ usedRtpWorkbufferCount) (hi : i < slots.length) :
    (if i > 0 ∧ (session.withSlots passed slots).lingers i then
      ((session.withSlots passed slots).passFrame i).passFrame 0
    else (session.withSlots passed slots).passFrame i) =
      session.withSlots (passed ++ slots[i] :: Slot.lingering slots i slots[i])
        ((slots.eraseIdx i).drop (Slot.lingering slots i slots[i]).length) := by
  rw [lingers_withSlots session passed hi (Nat.zero_lt_of_lt hi), passFrame_withSlots session passed hslots hi]
  match slots, i with
  | oldest :: slots, 0 =>
    rfl
  | oldest :: slots, i + 1 =>
    have hrest : (oldest :: slots).eraseIdx (i + 1) = oldest :: slots.eraseIdx i := rfl
    have hlingering : Slot.lingering (oldest :: slots) (i + 1) (oldest :: slots)[i + 1] =
        if (oldest :: slots)[i + 1].outdatedBy oldest then [oldest] else [] := by
      unfold Slot.lingering
      rw [Nat.min_eq_right (Nat.le_add_left 1 i)]
      show [oldest].filter _ = _
      rw [filter_cons, filter_nil]
    rw [hlingering]
    by_cases hold : (oldest :: slots)[i + 1].outdatedBy oldest
    · rw [if_pos hold, if_pos ⟨Nat.succ_pos i, hold⟩, passFrame_withSlots, append_assoc]
      · rfl
      · have := length_eraseIdx_le slots i
        exact Nat.le_trans (Nat.succ_le_succ this) hslots
      · exact Nat.succ_pos _
    · rw [if_neg hold, if_neg (fun h => hold h.2)]
      rfl

theorem makeSlot_ofSlots (hsession : session.workBufferList = .ofSlots slots)
    (hslots : slots.length ≤ usedRtpWorkbufferCount) (header : RTPHeader) (hi : i ≤ slots.length) :
    session.makeSlot header (if i < usedRtpWorkbufferCount then some i else none) =
      .ok (if i < slots.length then (i, session)
        else ((Slot.kept slots).length,
          session.withSlots (Slot.displaced slots) (Slot.kept slots))) := by
  have hcount : usedRtpWorkbufferCount = 3 := rfl
  by_cases hlt : i < slots.length
  · rw [if_pos hlt, if_pos (Nat.lt_of_lt_of_le hlt hslots)]
    rfl
  · rw [if_neg hlt]
    have hlength : i = slots.length := Nat.le_antisymm hi (Nat.le_of_not_lt hlt)
    by_cases hroom : slots.length < usedRtpWorkbufferCount
    · have hnone : slots.length + 1 - usedRtpWorkbufferCount = 0 := by omega
      rw [Slot.kept, Slot.displaced, hnone, take_zero, drop_zero, withSlots_nil hsession,
        hlength, if_pos hroom]
      rfl
    · have hone : slots.length + 1 - usedRtpWorkbufferCount = 1 := by omega
      rw [Slot.kept, Slot.displaced, hone, hlength, if_neg hroom]
      cases slots with
      | nil => exact absurd (Nat.zero_lt_succ 2) hroom
      | cons oldest slots =>
        have hfull : slots.length = 2 := by
          rw [length_cons] at hroom hslots
          omega
        have hmcb : ∀ (session : RTPSession) message,
            (session.mcb message).workBufferList = session.workBufferList := fun _ _ => rfl
        have hget : (RTPWorkBufferList.ofSlots slots).getSlot header false = .ok (some 2) := by
          rw [RTPWorkBufferList.getSlot_ofSlots (by omega)]
          show Except.ok (if slots.length < _ then some slots.length else none) = _
          rw [hfull]
          rfl
        unfold makeSlot
        rw [hsession, RTPWorkBufferList.processFrame_ofSlots hslots 0 (.inl (Nat.succ_pos _))]
        rw [getElem?_cons_zero, Option.map_some, eraseIdx_cons_zero]
        dsimp only
        rw [hmcb, hget]
        show _ = Except.ok (slots.length, _)
        rw [hfull]
        rfl

theorem lingering_set (slot : Slot ι) :
    Slot.lingering (slots.set i slot) i slot = Slot.lingering slots i slot := by
  unfold Slot.lingering
  cases i with
  | zero => rfl
  | succ i =>
    rw [Nat.min_eq_right (Nat.le_add_left 1 i)]
    cases slots <;> rfl

theorem afterFill_withSlots (session : RTPSession) (hslots : slots.length ≤ usedRtpWorkbufferCount)
    (hi : i < slots.length) (header : RTPHeader) (slot : Slot ι) :
    session.afterFill i (slot.receivedLen == header.dataLengthFull, .ofSlots (slots.set i slot)) =
      if slot.receivedLen = header.dataLengthFull then
        session.withSlots (slot :: Slot.lingering slots i slot)
          ((slots.eraseIdx i).drop (Slot.lingering slots i slot).length)
      else session.withSlots [] (slots.set i slot) := by
  have hwith : { session with workBufferList := .ofSlots (slots.set i slot) } =
      session.withSlots [] (slots.set i slot) := by
    unfold withSlots
    rw [map_nil, append_nil]
  by_cases hfull : slot.receivedLen = header.dataLengthFull
  · rw [if_pos hfull, beq_iff_eq.mpr hfull]
    unfold afterFill
    dsimp only
    rw [hwith, passFrames_withSlots session [] (by rw [length_set]; exact hslots)
      (by rw [length_set]; exact hi), getElem_set_self, eraseIdx_set_eq,
      lingering_set, nil_append]
  · rw [if_neg hfull, beq_eq_false_iff_ne.mpr hfull]
    exact hwith

theorem afterFill_receiveAt (session : RTPSession) (hslots : slots.length ≤ usedRtpWorkbufferCount)
    (hi : i < slots.length) (slot : Slot ι) (header : RTPHeader) (name : ι) (data : Bytes) :
    ((slot.fill header name data).map fun slot =>
      (slot.receivedLen == header.dataLengthFull,
        RTPWorkBufferList.ofSlots (slots.set i slot))).map (session.afterFill i) =
      (Slot.receiveAt slots i slot header name data).map
        fun received => session.withSlots received.1 received.2 := by
  unfold Slot.receiveAt
  cases slot.fill header name data with
  | error fault => rfl
  | ok slot =>
    rw [Except.map, Except.map, Except.map, Except.map, afterFill_withSlots session hslots hi]
    by_cases hfull : slot.receivedLen = header.dataLengthFull
    · rw [if_pos hfull, if_pos hfull]
    · rw [if_neg hfull, if_neg hfull]

/-- `handle_video_packet` is `Slot.receive` on the slots. -/
theorem handleVideoPacket_ofSlots (hsession : session.workBufferList = .ofSlots slots)
    (hslots : slots.length ≤ usedRtpWorkbufferCount) (header : RTPHeader) (name : ι) (data : Bytes) (calloc : Bool) :
    session.handleVideoPacket header data calloc =
      (Slot.receive slots header name data calloc).map
        fun received => session.withSlots received.1 received.2 := by
  have hcount : usedRtpWorkbufferCount = 3 := rfl
  unfold handleVideoPacket Slot.receive Slot.joined
  by_cases hinvalid : header.dataLengthFull = 0 ∨ header.offsetFull ≥ header.dataLengthFull
  · rw [if_pos hinvalid, if_pos hinvalid]
    exact congrArg Except.ok (withSlots_nil hsession).symm
  · rw [if_neg hinvalid, if_neg hinvalid]
    dsimp only
    rw [hsession, RTPWorkBufferList.getSlot_ofSlots hslots]
    have hle := RTPWorkBufferList.slotOf_le slots header (header.dataLengthFull.toNat != data.length)
    generalize RTPWorkBufferList.slotOf slots header (header.dataLengthFull.toNat != data.length) = i at hle ⊢
    dsimp only
    rw [makeSlot_ofSlots hsession hslots header hle]
    by_cases hlt : i < slots.length
    · rw [if_pos hlt, getElem?_eq_getElem hlt]
      dsimp only
      rw [hsession, RTPWorkBufferList.fillDataIntoSlot_ofSlots_of_lt hlt false calloc header name]
      by_cases hzero : slots[i].receivedLen = 0
      · rw [if_pos hzero, if_pos hzero]
        rfl
      · rw [if_neg hzero, if_neg hzero, ← afterFill_receiveAt session hslots hlt]
        cases slots[i].fill header name data <;> rfl
    · rw [if_neg hlt, getElem?_eq_none (Nat.le_of_not_lt hlt)]
      have hkept : (Slot.kept slots).length < usedRtpWorkbufferCount := by
        rw [Slot.kept, length_drop]
        omega
      have hbuffer : (session.withSlots (Slot.displaced slots)
          (Slot.kept slots)).workBufferList = .ofSlots (Slot.kept slots) := rfl
      dsimp only
      rw [hbuffer, RTPWorkBufferList.fillDataIntoSlot_ofSlots_length hkept calloc header name]
      unfold Slot.receiveNew
      cases calloc with
      | false => rfl
      | true =>
        have hlength : (Slot.kept slots ++ [Slot.start header]).length = (Slot.kept slots).length + 1 := by
          rw [length_append, length_singleton]
        have hafter := afterFill_receiveAt
          (session.withSlots (Slot.displaced slots) (Slot.kept slots))
          (by rw [hlength]; exact hkept) (by rw [hlength]; exact Nat.lt_succ_self _)
          (Slot.start header) header name data
        refine Eq.trans ?_ (hafter.trans ?_)
        · cases (Slot.start header : Slot ι).fill header name data <;> rfl
        · cases Slot.receiveAt (Slot.kept slots ++ [Slot.start header]) (Slot.kept slots).length
              (Slot.start header) header name data with
          | error fault => rfl
          | ok received => exact congrArg Except.ok (withSlots_withSlots ..)

end RTPSession

end Toxcore

import Toxcore.ForStd.TransitionSystem
import Toxcore.Spec.RtpBounds
import Toxcore.Spec.RtpPackets

/-!
# Video frames that arrive

The receiver takes a frame for complete when it has counted as many bytes as the frame has.  That is right
as long as no piece is counted twice, and a complete frame is passed on once as long as its packets do not
come again.
-/

namespace Toxcore

open List

/-! ## Slots -/

namespace Slot

def hasPiece (slot : Slot (Nat × Nat)) (k : Nat) : Bool := slot.copied.any (·.2 == k)

def frameNumber (slot : Slot (Nat × Nat)) : Nat := (slot.copied.headD (0, 0)).1

def isFull (slot : Slot (Nat × Nat)) : Bool := slot.receivedLen == slot.buf.header.dataLengthFull

/-- The slot has the header of frame `i` and data of pieces of it only, and counts their bytes. -/
structure Collects (frame : RtpFrame) (i : Nat) (slot : Slot (Nat × Nat)) : Prop where
  names : ∀ name ∈ slot.copied, name.1 = i ∧ RTPSession.pieceSize * name.2 < frame.data.length
  sequnum : slot.buf.header.sequnum = UInt16.ofNat i
  timestamp : slot.buf.header.timestamp = frame.frameRecordTimestamp.toUInt32
  dataLengthFull : slot.buf.header.dataLengthFull.toNat = frame.data.length
  receivedLengthFull : slot.buf.header.receivedLengthFull = slot.receivedLen
  count : slot.receivedLen.toNat = covered RTPSession.pieceSize slot.hasPiece frame.data.length
  data : HoldsChunks RTPSession.pieceSize slot.hasPiece frame.data slot.buf.data

section

variable {frame : RtpFrame} {i k : Nat} {header : RTPHeader} {slot : Slot (Nat × Nat)}

theorem collects_start (h : IsPiece frame i k header) :
    (start header : Slot (Nat × Nat)).Collects frame i where
  names _ hname := nomatch hname
  sequnum := h.sequnum
  timestamp := h.timestamp
  dataLengthFull := h.dataLengthFull
  receivedLengthFull := h.receivedLengthFull
  count := covered_false.symm
  data := by
    refine .none ?_
    show (List.replicate header.dataLengthFull.toNat 0).length = _
    rw [length_replicate, h.dataLengthFull]

theorem hasPiece_grow (slot : Slot (Nat × Nat)) (i k : Nat) (data memory : Bytes) (j : Nat) :
    (slot.grow (i, k) data memory).hasPiece j = (slot.hasPiece j || j == k) := by
  show (slot.copied ++ [(i, k)]).any (·.2 == j) = _
  rw [any_append]
  congr 1
  show (k == j || false) = _
  rw [Bool.or_false, Bool.beq_comm]

section

variable (h : slot.Collects frame i)
include h

theorem Collects.copyTo_chunk (hk : RTPSession.pieceSize * k < frame.data.length) :
    copyTo slot.buf.data (RTPSession.pieceSize * k) (chunk RTPSession.pieceSize frame.data k) =
      .ok (slot.buf.data.take (RTPSession.pieceSize * k) ++ chunk RTPSession.pieceSize frame.data k ++
        slot.buf.data.drop (RTPSession.pieceSize * k + (chunk RTPSession.pieceSize frame.data k).length)) := by
  have hsize : RTPSession.pieceSize = 1292 := rfl
  have hmemory := h.data.length
  have hlength := length_chunk RTPSession.pieceSize frame.data k
  unfold chunkSize at hlength
  have hne : (chunk RTPSession.pieceSize frame.data k).length ≠ 0 := by omega
  unfold copyTo overwriteAt
  rw [if_neg (by omega), if_neg hne]

theorem Collects.grow (hframe : frame.Sendable)
    (hk : RTPSession.pieceSize * k < frame.data.length) (hnew : slot.hasPiece k = false)
    {memory : Bytes} (hcopy : copyTo slot.buf.data (RTPSession.pieceSize * k)
      (chunk RTPSession.pieceSize frame.data k) = .ok memory) :
    (slot.grow (i, k) (chunk RTPSession.pieceSize frame.data k) memory).Collects frame i := by
  have hpieces := hasPiece_grow slot i k (chunk RTPSession.pieceSize frame.data k) memory
  have hcovered := covered_insert pieceSize_pos hnew hpieces frame.data.length
  refine ⟨?_, h.sequnum, h.timestamp, h.dataLengthFull, rfl, ?_, ?_⟩
  · intro name hname
    obtain hname | hname := mem_append.mp hname
    · exact h.names name hname
    · rw [mem_singleton.mp hname]
      exact ⟨rfl, hk⟩
  · -- the count stays at most the length of the frame, so that it does not wrap around
    have hle := covered_le RTPSession.pieceSize
      (slot.grow (i, k) (chunk RTPSession.pieceSize frame.data k) memory).hasPiece frame.data.length
    have hmax := hframe.2
    rw [hcovered, ← h.count, ← length_chunk] at hle ⊢
    show (slot.receivedLen + UInt32.ofNat _).toNat = _
    rw [UInt32.toNat_add, UInt32.toNat_ofNat']
    omega
  · obtain rfl := Except.ok.inj ((h.copyTo_chunk hk).symm.trans hcopy)
    exact h.data.overwrite pieceSize_pos hk hpieces

theorem Collects.receivedLen_ne_zero (hne : slot.copied ≠ []) :
    slot.receivedLen ≠ 0 := by
  intro hzero
  obtain ⟨name, hname⟩ := exists_mem_of_ne_nil slot.copied hne
  obtain ⟨-, hk⟩ := h.names name hname
  have hcount := h.count
  rw [hzero] at hcount
  have hall := countP_eq_zero.mp hcount.symm _ (mem_range.mpr hk)
  rw [Nat.mul_div_cancel_left name.2 pieceSize_pos] at hall
  exact hall (any_eq_true.mpr ⟨name, hname, beq_self_eq_true _⟩)

theorem Collects.data_of_isFull (hfull : slot.isFull) :
    slot.buf.data = frame.data := by
  refine h.data.eq_of_covered ?_
  rw [← h.count, eq_of_beq hfull, h.dataLengthFull]

theorem Collects.frameNumber_eq (hne : slot.copied ≠ []) :
    slot.frameNumber = i := by
  unfold frameNumber
  cases hcopied : slot.copied with
  | nil => exact absurd hcopied hne
  | cons name names =>
    refine (h.names name ?_).1
    rw [hcopied]
    exact mem_cons_self

end

end

/-! ## The work buffer -/

def Collecting (frames : List RtpFrame) (slot : Slot (Nat × Nat)) : Prop :=
  slot.copied ≠ [] ∧ ∃ frame, frames[slot.frameNumber]? = some frame ∧ slot.Collects frame slot.frameNumber

def Waiting (frames : List RtpFrame) (slot : Slot (Nat × Nat)) : Prop :=
  slot.Collecting frames ∧ slot.isFull = false

section

variable {frames : List RtpFrame} {frame : RtpFrame} {i k : Nat} {header : RTPHeader}
  {slots : List (Slot (Nat × Nat))} {slot : Slot (Nat × Nat)}

theorem Waiting.receivedLen_ne_zero (h : slot.Waiting frames) : slot.receivedLen ≠ 0 := by
  obtain ⟨⟨hne, frame, -, hcollects⟩, -⟩ := h
  exact hcollects.receivedLen_ne_zero hne

theorem Collects.collecting (h : slot.Collects frame i) (hne : slot.copied ≠ [])
    (hget : frames[i]? = some frame) : slot.Collecting frames := by
  have hnumber := h.frameNumber_eq hne
  exact ⟨hne, frame, by rw [hnumber]; exact hget, by rw [hnumber]; exact h⟩

theorem Collects.receiveAt (h : slot.Collects frame i) (hframe : frame.Sendable)
    (hheader : IsPiece frame i k header) (hk : RTPSession.pieceSize * k < frame.data.length)
    (hnew : slot.hasPiece k = false) (slots : List (Slot (Nat × Nat))) (index : Nat) :
    ∃ grown : Slot (Nat × Nat), grown.Collects frame i ∧ grown.copied = slot.copied ++ [(i, k)] ∧
      grown.receivedLen.toNat = slot.receivedLen.toNat + (chunk RTPSession.pieceSize frame.data k).length ∧
      receiveAt slots index slot header (i, k) (chunk RTPSession.pieceSize frame.data k) =
        .ok (if grown.isFull then
          (grown :: lingering slots index grown,
            (slots.eraseIdx index).drop (lingering slots index grown).length)
        else ([], slots.set index grown)) := by
  obtain ⟨memory, hcopy⟩ : ∃ memory, copyTo slot.buf.data (RTPSession.pieceSize * k)
      (chunk RTPSession.pieceSize frame.data k) = .ok memory := ⟨_, h.copyTo_chunk hk⟩
  have hgrown := h.grow hframe hk hnew hcopy
  have hpieces := hasPiece_grow slot i k (chunk RTPSession.pieceSize frame.data k) memory
  have hcovered := covered_insert pieceSize_pos hnew hpieces frame.data.length
  have hfull : (slot.grow (i, k) (chunk RTPSession.pieceSize frame.data k) memory).receivedLen =
      header.dataLengthFull ↔
      (slot.grow (i, k) (chunk RTPSession.pieceSize frame.data k) memory).isFull = true := by
    have hlength : header.dataLengthFull = (slot.grow (i, k)
        (chunk RTPSession.pieceSize frame.data k) memory).buf.header.dataLengthFull := by
      rw [← UInt32.toNat_inj, hheader.dataLengthFull, hgrown.dataLengthFull]
    rw [hlength, isFull, beq_iff_eq]
  refine ⟨slot.grow (i, k) (chunk RTPSession.pieceSize frame.data k) memory, hgrown, rfl, ?_, ?_⟩
  · rw [hgrown.count, hcovered, ← h.count, length_chunk]
  · unfold Slot.receiveAt fill
    rw [hheader.offsetFull, hcopy, Except.map, Except.map]
    simp only [hfull]

/-- What a packet of frame `i` leaves behind; its frame is full if `complete` holds. -/
structure Leaves (frames : List RtpFrame) (i : Nat) (complete : Prop)
    (new slots : List (Slot (Nat × Nat))) : Prop where
  waiting : ∀ slot ∈ slots, slot.Waiting frames
  collecting : ∀ slot ∈ new, slot.Collecting frames
  full : new.filter isFull = [] ∨ complete ∧ ∃ slot, new.filter isFull = [slot] ∧ slot.frameNumber = i

theorem filter_isFull_of_waiting (h : ∀ slot ∈ slots, slot.Waiting frames) :
    slots.filter isFull = [] :=
  filter_eq_nil_iff.mpr fun slot hslot => Bool.eq_false_iff.mp (h slot hslot).2

variable {new slots' : List (Slot (Nat × Nat))}

theorem Collects.leaves (h : slot.Collects frame i) (hget : frames[i]? = some frame) (hframe : frame.Sendable)
    (hheader : IsPiece frame i k header) (hk : RTPSession.pieceSize * k < frame.data.length)
    (hnew : slot.hasPiece k = false) {index : Nat}
    (hlingering : ∀ grown, ∀ other ∈ lingering slots index grown, other.Waiting frames)
    (hothers : ∀ other ∈ slots.eraseIdx index, other.Waiting frames)
    (hreceive : Slot.receiveAt slots index slot header (i, k) (chunk RTPSession.pieceSize frame.data k) = .ok (new, slots'))
    :
    Leaves frames i (slot.receivedLen.toNat + (chunk RTPSession.pieceSize frame.data k).length =
      frame.data.length) new slots' := by
  obtain ⟨grown, hgrown, hcopied, hreceived, hok⟩ :=
    h.receiveAt hframe hheader hk hnew slots index
  have hcollecting : grown.Collecting frames := by
    refine hgrown.collecting ?_ hget
    rw [hcopied]
    exact append_ne_nil_of_right_ne_nil _ (cons_ne_nil _ _)
  rw [hok] at hreceive
  have hresult := Except.ok.inj hreceive
  cases hfull : grown.isFull with
  | true =>
    rw [hfull] at hresult
    cases hresult
    refine ⟨fun other hother => hothers other (mem_of_mem_drop hother), ?_, .inr ⟨?_, grown, ?_, ?_⟩⟩
    · intro other hother
      obtain rfl | hother := mem_cons.mp hother
      · exact hcollecting
      · exact (hlingering grown other hother).1
    · rw [← hreceived, eq_of_beq hfull, hgrown.dataLengthFull]
    · rw [filter_cons_of_pos hfull, filter_isFull_of_waiting (hlingering grown)]
    · exact hgrown.frameNumber_eq hcollecting.1
  | false =>
    rw [hfull] at hresult
    cases hresult
    refine ⟨fun other hother => ?_, nofun, .inl rfl⟩
    obtain ⟨j, hj, rfl⟩ := mem_iff_getElem.mp hother
    rw [length_set] at hj
    rw [getElem_set]
    split
    · exact ⟨hcollecting, hfull⟩
    · rename_i hne
      exact hothers _ (mem_eraseIdx_iff_getElem.mpr ⟨j, hj, fun heq => hne heq.symm, rfl⟩)

def receivedBefore (slots : List (Slot (Nat × Nat))) (header : RTPHeader) (data : Bytes) : Nat :=
  match joined slots header data with
  | none => 0
  | some slot => slot.receivedLen.toNat

/-- A packet of frame `i` that no slot has data of another frame for, and none the same data. -/
def JoinsOwn (slots : List (Slot (Nat × Nat))) (header : RTPHeader) (data : Bytes) (i k : Nat) : Prop :=
  ∀ slot, joined slots header data = some slot → slot.frameNumber = i ∧ slot.hasPiece k = false

theorem lingering_append_start (slots : List (Slot (Nat × Nat))) (header : RTPHeader)
    (grown : Slot (Nat × Nat)) :
    lingering (slots ++ [start header]) slots.length grown ⊆ slots := by
  intro other hother
  have hmem := (mem_filter.mp hother).1
  rw [take_append_of_le_length (Nat.min_le_left _ _)] at hmem
  exact mem_of_mem_take hmem

theorem eraseIdx_length_append (slots : List (Slot (Nat × Nat))) (slot : Slot (Nat × Nat)) :
    (slots ++ [slot]).eraseIdx slots.length = slots := by
  rw [eraseIdx_append_of_length_le le_rfl, Nat.sub_self]
  exact append_nil slots

theorem Leaves.append {complete : Prop} (h : Leaves frames i complete new slots')
    (hwaiting : ∀ slot ∈ slots, slot.Waiting frames) :
    Leaves frames i complete (slots ++ new) slots' := by
  refine ⟨h.waiting, fun slot hslot => ?_, ?_⟩
  · obtain hslot | hslot := mem_append.mp hslot
    · exact (hwaiting slot hslot).1
    · exact h.collecting slot hslot
  · rw [filter_append, filter_isFull_of_waiting hwaiting]
    exact h.full

theorem leaves_receive (hwaiting : ∀ slot ∈ slots, slot.Waiting frames) (hget : frames[i]? = some frame)
    (hframe : frame.Sendable) (hheader : IsPiece frame i k header) (hk : RTPSession.pieceSize * k < frame.data.length)
    (hjoins : JoinsOwn slots header (chunk RTPSession.pieceSize frame.data k) i k) {calloc : Bool}
    (hreceive : receive slots header (i, k) (chunk RTPSession.pieceSize frame.data k) calloc = .ok (new, slots')) :
    Leaves frames i (receivedBefore slots header (chunk RTPSession.pieceSize frame.data k) +
      (chunk RTPSession.pieceSize frame.data k).length = frame.data.length) new slots' := by
  have hdisplaced : ∀ slot ∈ displaced slots, slot.Waiting frames :=
    fun slot hslot => hwaiting slot (mem_of_mem_take hslot)
  have hkept : ∀ slot ∈ kept slots, slot.Waiting frames :=
    fun slot hslot => hwaiting slot (mem_of_mem_drop hslot)
  unfold receive at hreceive
  unfold receivedBefore
  rw [if_neg (hheader.valid hk)] at hreceive
  cases hjoined : joined slots header (chunk RTPSession.pieceSize frame.data k) with
  | none =>
    rw [hjoined] at hreceive
    unfold receiveNew at hreceive
    cases calloc with
    | false =>
      cases Except.ok.inj hreceive
      exact ⟨hkept, fun slot hslot => (hdisplaced slot hslot).1, .inl (filter_isFull_of_waiting hdisplaced)⟩
    | true =>
      cases hat : Slot.receiveAt (kept slots ++ [start header]) (kept slots).length (start header)
          header (i, k) (chunk RTPSession.pieceSize frame.data k) with
      | error fault => rw [hat] at hreceive; cases hreceive
      | ok received =>
        rw [hat] at hreceive
        cases Except.ok.inj hreceive
        have hrest : ∀ other ∈ (kept slots ++ [start header]).eraseIdx (kept slots).length,
            other.Waiting frames := by
          rw [eraseIdx_length_append]
          exact hkept
        have hleaves := (collects_start hheader).leaves hget hframe hheader hk rfl
          (fun grown other hother => hkept other (lingering_append_start _ header grown hother))
          hrest hat
        exact hleaves.append hdisplaced
  | some slot =>
    have hmem : slot ∈ slots := mem_of_getElem? hjoined
    obtain ⟨hnumber, hnew⟩ := hjoins slot hjoined
    obtain ⟨⟨hne, frame', hget', hcollects⟩, -⟩ := hwaiting slot hmem
    rw [hnumber, hget] at hget'
    cases hget'
    rw [hnumber] at hcollects
    rw [hjoined] at hreceive
    dsimp only at hreceive ⊢
    rw [if_neg (hcollects.receivedLen_ne_zero hne)] at hreceive
    refine hcollects.leaves hget hframe hheader hk hnew ?_ ?_ hreceive
    · intro grown other hother
      exact hwaiting other (mem_of_mem_take (mem_filter.mp hother).1)
    · exact fun other hother => hwaiting other (mem_of_mem_eraseIdx hother)

theorem exists_receive (hsound : Sound slots) (hwaiting : ∀ slot ∈ slots, slot.Waiting frames)
    (hget : frames[i]? = some frame) (hheader : IsPiece frame i k header)
    (hjoins : JoinsOwn slots header (chunk RTPSession.pieceSize frame.data k) i k) (calloc : Bool) :
    ∃ received, receive slots header (i, k) (chunk RTPSession.pieceSize frame.data k) calloc =
      .ok received := by
  refine (receive_ok_iff hsound header (i, k) _ calloc).mpr (.inr ?_)
  have hroom : Room frame.data.length header.offsetFull.toNat
      (chunk RTPSession.pieceSize frame.data k).length := by
    rw [hheader.offsetFull, length_chunk]
    unfold Room chunkSize
    omega
  cases hjoined : joined slots header (chunk RTPSession.pieceSize frame.data k) with
  | none =>
    refine .inr ?_
    rw [hheader.dataLengthFull]
    exact hroom
  | some slot =>
    have hwaits := hwaiting slot (mem_of_getElem? hjoined)
    have hzero := hwaits.receivedLen_ne_zero
    obtain ⟨hnumber, -⟩ := hjoins slot hjoined
    obtain ⟨⟨-, frame', hget', hcollects⟩, -⟩ := hwaits
    rw [hnumber, hget] at hget'
    cases hget'
    refine ⟨hzero, ?_⟩
    rw [hcollects.dataLengthFull]
    exact hroom

end

end Slot

/-! ## Runs -/

/-- A session that receives video, with the slots of its work buffer and the frames that it has passed
    on. -/
structure Reception where
  session : RTPSession
  slots : List (Slot (Nat × Nat))
  passed : List (Slot (Nat × Nat))

def RTPMessage.isFull (message : RTPMessage) : Bool :=
  message.header.receivedLengthFull == message.header.dataLengthFull

/-- The message is frame `i`. -/
structure RTPMessage.Carries (frames : List RtpFrame) (message : RTPMessage) (i : Nat) : Prop where
  frame : ∃ frame, frames[i]? = some frame ∧ message.data = frame.data ∧
    message.header.timestamp = frame.frameRecordTimestamp.toUInt32
  sequnum : message.header.sequnum = UInt16.ofNat i

/-- Every complete message is one of the frames, and no frame is passed on twice like that. -/
def Intact (frames : List RtpFrame) (delivered : List RTPMessage) : Prop :=
  ∃ numbers : List Nat, numbers.Nodup ∧
    List.Forall₂ (RTPMessage.Carries frames) (delivered.filter RTPMessage.isFull) numbers

namespace Reception

variable {frames : List RtpFrame} {s t : Reception}

def start (ssrc : UInt32) : Reception := ⟨rtpNew rtpTypeVideo ssrc, [], []⟩

/-- Packet `k` of frame `i` is not seen for the second time: neither its data nor its slot nor its frame is there. -/
structure Distinct (s : Reception) (packet : Bytes) (i k : Nat) : Prop where
  joins : Slot.JoinsOwn s.slots (rtpHeaderUnpack (packet.drop 1)) (packet.drop (1 + rtpHeaderSize)) i k
  once : Slot.receivedBefore s.slots (rtpHeaderUnpack (packet.drop 1))
      (packet.drop (1 + rtpHeaderSize)) + (packet.drop (1 + rtpHeaderSize)).length =
        (rtpHeaderUnpack (packet.drop 1)).dataLengthFull.toNat →
    ∀ slot ∈ s.passed, slot.isFull → slot.frameNumber ≠ i

/-- Packet `k` of frame `i` arrives. -/
structure Arrives (s t : Reception) (packet : Bytes) (i k : Nat) (calloc : Bool) : Prop where
  session : s.session.handleRtpPacket calloc packet = .ok t.session
  slots : ∃ new, Slot.receive s.slots (rtpHeaderUnpack (packet.drop 1)) (i, k)
      (packet.drop (1 + rtpHeaderSize)) calloc = .ok (new, t.slots) ∧ t.passed = s.passed ++ new

structure Sound (frames : List RtpFrame) (s : Reception) : Prop where
  payloadType : s.session.payloadType = rtpTypeVideo
  workBufferList : s.session.workBufferList = .ofSlots s.slots
  delivered : s.session.delivered = s.passed.map (·.buf)
  slots : Slot.Sound s.slots
  waiting : ∀ slot ∈ s.slots, slot.Waiting frames
  collecting : ∀ slot ∈ s.passed, slot.Collecting frames
  once : ((s.passed.filter Slot.isFull).map Slot.frameNumber).Nodup

variable {frame : RtpFrame} {i k : Nat} {packet : Bytes}

theorem parts_videoPacket (h : VideoPacket frame i k packet) :
    IsPiece frame i k (rtpHeaderUnpack (packet.drop 1)) ∧
      packet.drop (1 + rtpHeaderSize) = chunk RTPSession.pieceSize frame.data k ∧
      packet = rtpTypeVideo :: (rtpHeaderPack (rtpHeaderUnpack (packet.drop 1)) ++
        chunk RTPSession.pieceSize frame.data k) := by
  obtain ⟨header, hheader, rfl⟩ := h
  have hdrop : (rtpTypeVideo :: (rtpHeaderPack header ++
      chunk RTPSession.pieceSize frame.data k)).drop 1 =
        rtpHeaderPack header ++ chunk RTPSession.pieceSize frame.data k := rfl
  rw [← drop_drop, hdrop, rtpHeaderUnpack_rtpHeaderPack_append]
  exact ⟨hheader, drop_left' (length_rtpHeaderPack header), rfl⟩

theorem Sound.handleRtpPacket_eq (h : s.Sound frames) (hpacket : VideoPacket frame i k packet)
    (hk : RTPSession.pieceSize * k < frame.data.length) (calloc : Bool) :
    s.session.handleRtpPacket calloc packet =
      (Slot.receive s.slots (rtpHeaderUnpack (packet.drop 1)) (i, k)
        (packet.drop (1 + rtpHeaderSize)) calloc).map
          fun received => s.session.withSlots received.1 received.2 := by
  obtain ⟨hheader, hdata, heq⟩ := parts_videoPacket hpacket
  rw [hdata]
  generalize rtpHeaderUnpack (packet.drop 1) = header at hheader heq
  rw [heq, RTPSession.handleRtpPacket_piece h.payloadType hheader hk]
  exact RTPSession.handleVideoPacket_ofSlots h.workBufferList h.slots.1 header (i, k) _ calloc

theorem sound_start (ssrc : UInt32) : (start ssrc).Sound frames where
  payloadType := rfl
  workBufferList := rfl
  delivered := rfl
  slots := ⟨Nat.zero_le _, nofun⟩
  waiting := nofun
  collecting := nofun
  once := nodup_nil

theorem sound_step (h : s.Sound frames) (hframe : frame.Sendable) (hget : frames[i]? = some frame)
    (hpacket : VideoPacket frame i k packet) (hk : RTPSession.pieceSize * k < frame.data.length)
    (hdistinct : s.Distinct packet i k) {calloc : Bool} (harrives : s.Arrives t packet i k calloc)
    : t.Sound frames := by
  obtain ⟨hsession, new, hreceive, hpassed⟩ := harrives
  have hhandled := h.handleRtpPacket_eq hpacket hk calloc
  rw [hsession, hreceive] at hhandled
  have heq : t.session = s.session.withSlots new t.slots := Except.ok.inj hhandled
  have hslots := h.slots.receive hreceive
  obtain ⟨hheader, hdata, -⟩ := parts_videoPacket hpacket
  obtain ⟨hjoins, honce⟩ := hdistinct
  rw [hdata] at hreceive hjoins honce
  rw [hheader.dataLengthFull] at honce
  have hleaves := Slot.leaves_receive h.waiting hget hframe hheader hk hjoins hreceive
  refine ⟨?_, ?_, ?_, hslots, hleaves.waiting, fun slot hslot => ?_, ?_⟩
  · rw [heq]
    exact h.payloadType
  · rw [heq]
    rfl
  · rw [heq, hpassed, map_append, ← h.delivered]
    rfl
  · rw [hpassed] at hslot
    obtain hslot | hslot := mem_append.mp hslot
    · exact h.collecting slot hslot
    · exact hleaves.collecting slot hslot
  · rw [hpassed, filter_append, map_append]
    obtain hnone | ⟨hcomplete, slot, hone, hnumber⟩ := hleaves.full
    · rw [hnone, map_nil, append_nil]
      exact h.once
    · rw [hone, nodup_append]
      refine ⟨h.once, nodup_singleton _, fun a ha b hb => ?_⟩
      obtain ⟨other, hother, rfl⟩ := mem_map.mp ha
      obtain ⟨hmem, hfull⟩ := mem_filter.mp hother
      rw [mem_singleton.mp hb, hnumber]
      exact honce hcomplete other hmem hfull

theorem Sound.intact (h : s.Sound frames) : Intact frames s.session.delivered := by
  refine ⟨(s.passed.filter Slot.isFull).map Slot.frameNumber, h.once, ?_⟩
  have hcollecting := h.collecting
  rw [h.delivered]
  generalize s.passed = passed at hcollecting
  induction passed with
  | nil => exact .nil
  | cons slot passed ih =>
    have hrest := ih fun other hother => hcollecting other (mem_cons_of_mem _ hother)
    obtain ⟨-, frame, hget, hcollects⟩ := hcollecting slot mem_cons_self
    have hsame : slot.buf.isFull = slot.isFull := by
      unfold RTPMessage.isFull Slot.isFull
      rw [hcollects.receivedLengthFull]
    rw [map_cons]
    cases hfull : slot.isFull with
    | true =>
      rw [hfull] at hsame
      rw [filter_cons_of_pos hsame, filter_cons_of_pos hfull]
      exact .cons ⟨⟨frame, hget, hcollects.data_of_isFull hfull, hcollects.timestamp⟩, hcollects.sequnum⟩ hrest
    | false =>
      rw [hfull] at hsame
      rw [filter_cons_of_neg (Bool.eq_false_iff.mp hsame), filter_cons_of_neg (Bool.eq_false_iff.mp hfull)]
      exact hrest

/-- Packets of frames arrive in any order, any number of times or not at all, as `ok` allows. -/
def system (frames : List RtpFrame) (ssrc ssrc' : UInt32)
    (ok : Reception → Bytes → Nat → Nat → Prop) : TransitionSystem Reception where
  init s := s = start ssrc'
  step s t := ∃ packets packet i k calloc,
    ((rtpNew rtpTypeVideo ssrc).sendFrames frames)[i]? = some packets ∧
      packets[k]? = some packet ∧ ok s packet i k ∧ s.Arrives t packet i k calloc

theorem exists_frame_of_sent (hframes : ∀ frame ∈ frames, frame.Sendable) {ssrc : UInt32} {packets : List Bytes}
    (hpackets : ((rtpNew rtpTypeVideo ssrc).sendFrames frames)[i]? = some packets) (hpacket : packets[k]? = some packet)
    :
    ∃ frame, frames[i]? = some frame ∧ frame.Sendable ∧
      RTPSession.pieceSize * k < frame.data.length ∧ VideoPacket frame i k packet := by
  have hlt : i < frames.length := by
    rw [← RTPSession.length_sendFrames (rtpNew rtpTypeVideo ssrc)]
    exact (List.getElem?_eq_some_iff.mp hpackets).1
  have hget := getElem?_eq_getElem hlt
  obtain ⟨packets', hpackets', -, hpieces⟩ := RTPSession.videoPacket_of_getElem? ssrc hframes hget
  rw [hpackets] at hpackets'
  cases hpackets'
  obtain ⟨hk, hvideo⟩ := hpieces k packet hpacket
  exact ⟨frames[i], hget, hframes _ (getElem_mem hlt), hk, hvideo⟩

theorem sound_of_reachable (hframes : ∀ frame ∈ frames, frame.Sendable) {ssrc ssrc' : UInt32}
    (h : (system frames ssrc ssrc' Distinct).Reachable s) : s.Sound frames := by
  refine TransitionSystem.Reachable.invariant ?_ ?_ h
  · rintro s rfl
    exact sound_start ssrc'
  · rintro s t hs ⟨packets, packet, i, k, calloc, hpackets, hpacket, hdistinct, harrives⟩
    obtain ⟨frame, hget, hframe, hk, hvideo⟩ := exists_frame_of_sent hframes hpackets hpacket
    exact sound_step hs hframe hget hvideo hk hdistinct harrives

theorem exists_arrives (hs : s.Sound frames) (hget : frames[i]? = some frame) (hpacket : VideoPacket frame i k packet)
    (hk : RTPSession.pieceSize * k < frame.data.length) (hdistinct : s.Distinct packet i k) (calloc : Bool)
    : ∃ t, s.Arrives t packet i k calloc := by
  obtain ⟨hheader, hdata, -⟩ := parts_videoPacket hpacket
  have hjoins := hdistinct.joins
  rw [hdata] at hjoins
  obtain ⟨⟨new, slots'⟩, hreceive⟩ :=
    Slot.exists_receive hs.slots hs.waiting hget hheader hjoins calloc
  rw [← hdata] at hreceive
  have hhandled := hs.handleRtpPacket_eq hpacket hk calloc
  rw [hreceive] at hhandled
  exact ⟨⟨s.session.withSlots new slots', slots', s.passed ++ new⟩, hhandled, new, hreceive, rfl⟩

end Reception

/-! ## In order -/

namespace Slot

/-- The first `k` pieces of a frame are in the work buffer. -/
inductive Begun (frame : RtpFrame) (i : Nat) : Nat → List (Slot (Nat × Nat)) → Prop where
  | none : Begun frame i 0 []
  | some {slot : Slot (Nat × Nat)} {k : Nat} : slot.Collects frame i → slot.copied ≠ [] →
      (∀ j, slot.hasPiece j = decide (j < k + 1)) → Begun frame i (k + 1) [slot]

theorem Collects.isFull_iff {frame : RtpFrame} {i k : Nat} {slot : Slot (Nat × Nat)}
    (h : slot.Collects frame i) (hpieces : ∀ j, slot.hasPiece j = decide (j < k)) :
    slot.isFull = true ↔ ¬RTPSession.pieceSize * k < frame.data.length := by
  unfold isFull
  rw [beq_iff_eq, ← UInt32.toNat_inj, h.dataLengthFull, h.count, covered_congr hpieces,
    covered_lt pieceSize_pos]
  omega

theorem receive_next {frame : RtpFrame} {i k : Nat} {header : RTPHeader}
    {slots : List (Slot (Nat × Nat))} (h : Begun frame i k slots) (hframe : frame.Sendable)
    (hheader : IsPiece frame i k header) (hk : RTPSession.pieceSize * k < frame.data.length) :
    ∃ grown, Begun frame i (k + 1) [grown] ∧
      receive slots header (i, k) (chunk RTPSession.pieceSize frame.data k) true =
        .ok (if grown.isFull then ([grown], []) else ([], [grown])) := by
  unfold receive
  rw [if_neg (hheader.valid hk)]
  cases h with
  | none =>
    obtain ⟨grown, hgrown, hcopied, -, hok⟩ :=
      (collects_start hheader).receiveAt hframe hheader hk rfl [start header] 0
    refine ⟨grown, .some hgrown ?_ fun j => ?_, ?_⟩
    · rw [hcopied]
      exact cons_ne_nil _ _
    · show grown.copied.any (·.2 == j) = _
      rw [hcopied]
      cases j <;> rfl
    · show (Slot.receiveAt [start header] 0 (start header) header (i, 0) _).map _ = _
      rw [hok]
      cases grown.isFull <;> rfl
  | some hcollects hne hpieces =>
    rename_i slot k
    have hnew : slot.hasPiece (k + 1) = false := by
      rw [hpieces]
      exact decide_eq_false (Nat.lt_irrefl _)
    obtain ⟨grown, hgrown, hcopied, -, hok⟩ :=
      hcollects.receiveAt hframe hheader hk hnew [slot] 0
    -- the piece is not the whole frame, so that the slot of the frame is looked for
    have hmultipart : (header.dataLengthFull.toNat !=
        (chunk RTPSession.pieceSize frame.data (k + 1)).length) = true := by
      rw [bne_iff_ne, hheader.dataLengthFull, length_chunk, chunkSize, Nat.mul_succ]
      omega
    have hbelongs : slot.belongs header = true :=
      decide_eq_true ⟨hcollects.sequnum.trans hheader.sequnum.symm,
        hcollects.timestamp.trans hheader.timestamp.symm⟩
    have hslot : RTPWorkBufferList.slotOf [slot] header (header.dataLengthFull.toNat !=
        (chunk RTPSession.pieceSize frame.data (k + 1)).length) = 0 := by
      rw [hmultipart, RTPWorkBufferList.slotOf, findIdx_cons, hbelongs]
      rfl
    refine ⟨grown, .some hgrown ?_ fun j => ?_, ?_⟩
    · rw [hcopied]
      exact append_ne_nil_of_left_ne_nil hne _
    · show grown.copied.any (·.2 == j) = _
      rw [hcopied, any_append]
      show (slot.hasPiece j || (k + 1 == j || false)) = _
      rw [hpieces, Bool.eq_iff_iff, Bool.or_false, Bool.or_eq_true, decide_eq_true_iff,
        decide_eq_true_iff, beq_iff_eq]
      omega
    · unfold joined
      rw [hslot]
      show (if slot.receivedLen = 0 then _ else _) = _
      rw [if_neg (hcollects.receivedLen_ne_zero hne), hok]
      cases grown.isFull <;> rfl

end Slot

namespace RTPSession

structure Idle (session : RTPSession) : Prop where
  payloadType : session.payloadType = rtpTypeVideo
  workBufferList : session.workBufferList = .ofSlots ([] : List (Slot (Nat × Nat)))

theorem receiveAll_pieces {frame : RtpFrame} {i k : Nat} {slots : List (Slot (Nat × Nat))}
    {session : RTPSession} (htype : session.payloadType = rtpTypeVideo)
    (hbuffer : session.workBufferList = .ofSlots slots) (hfirst : Slot.Begun frame i k slots)
    (hframe : frame.Sendable) {packets : List Bytes}
    (hpackets : ∀ j packet, packets[j]? = some packet →
      pieceSize * (k + j) < frame.data.length ∧ VideoPacket frame i (k + j) packet)
    (hlength : k + packets.length = chunkCount pieceSize frame.data.length) (hne : packets ≠ []) :
    ∃ session' message, receiveAll session (packets.map fun packet => (true, packet)) = .ok session' ∧
      session'.Idle ∧ session'.delivered = session.delivered ++ [message] ∧
      message.isFull = true ∧ message.data = frame.data ∧
      message.header.timestamp = frame.frameRecordTimestamp.toUInt32 ∧
      message.header.sequnum = UInt16.ofNat i := by
  induction packets generalizing k slots session with
  | nil => exact absurd rfl hne
  | cons packet packets ih =>
    obtain ⟨hk, header, hheader, rfl⟩ := hpackets 0 packet rfl
    rw [Nat.add_zero] at hk hheader
    have hslots : slots.length ≤ usedRtpWorkbufferCount := by
      cases hfirst with
      | none => exact Nat.zero_le _
      | some => exact Nat.succ_le_succ (Nat.zero_le _)
    obtain ⟨grown, hgrown, hreceive⟩ := Slot.receive_next hfirst hframe hheader hk
    have hhandled := handleRtpPacket_piece htype hheader hk true
    rw [handleVideoPacket_ofSlots hbuffer hslots header (i, k), hreceive] at hhandled
    rw [receiveAll, map_cons, foldlM_cons, Nat.add_zero, hhandled]
    cases hgrown with
    | some hcollects hcopied hpieces =>
      have hfull := hcollects.isFull_iff hpieces
      rw [← lt_chunkCount_iff pieceSize_pos] at hfull
      cases packets with
      | nil =>
        -- the last piece
        have hlast : grown.isFull = true := by
          rw [hfull, ← hlength]
          exact Nat.lt_irrefl _
        rw [hlast]
        refine ⟨_, grown.buf, rfl, ⟨htype, rfl⟩, rfl, ?_, hcollects.data_of_isFull hlast,
          hcollects.timestamp, hcollects.sequnum⟩
        rw [RTPMessage.isFull, hcollects.receivedLengthFull]
        exact hlast
      | cons next packets =>
        have hmore : grown.isFull = false := by
          rw [Bool.eq_false_iff, Ne, hfull, not_not, ← hlength]
          exact Nat.add_lt_add_left (Nat.succ_lt_succ (Nat.succ_pos _)) k
        rw [hmore]
        have hrest := @ih (k + 1) [grown] (session.withSlots [] [grown]) htype rfl
          (.some hcollects hcopied hpieces) (fun j packet hpacket => ?_) ?_ (cons_ne_nil _ _)
        · obtain ⟨session', message, hok, hidle, hdelivered, hmessage⟩ := hrest
          refine ⟨session', message, hok, hidle, ?_, hmessage⟩
          rw [hdelivered]
          show session.delivered ++ [] ++ [message] = _
          rw [append_nil]
        · have hnext := hpackets (j + 1) packet hpacket
          rw [Nat.add_right_comm]
          exact hnext
        · show k + 1 + (packets.length + 1) = _
          rw [← hlength]
          show _ = k + (packets.length + 1 + 1)
          omega

theorem receiveAll_sendFrames (ssrc : UInt32) {all : List RtpFrame} (hframes : ∀ frame ∈ all, frame.Sendable)
    {session : RTPSession} (hidle : session.Idle) (n : Nat) (hn : n ≤ all.length) :
    ∃ session', receiveAll session ((((rtpNew rtpTypeVideo ssrc).sendFrames all).take n).flatten.map
        fun packet => (true, packet)) = .ok session' ∧ session'.Idle ∧
      ∃ messages, session'.delivered = session.delivered ++ messages ∧
        (∀ message ∈ messages, message.isFull = true) ∧
        List.Forall₂ (RTPMessage.Carries all) messages (List.range n) := by
  induction n with
  | zero =>
    refine ⟨session, rfl, hidle, [], (append_nil _).symm, nofun, .nil⟩
  | succ n ih =>
    obtain ⟨session1, hok1, hidle1, messages, hdelivered1, hfull, hcarries⟩ :=
      ih (Nat.le_of_succ_le hn)
    have hget := getElem?_eq_getElem (Nat.lt_of_succ_le hn)
    generalize all[n] = frame at hget
    have hframe := hframes frame (mem_of_getElem? hget)
    obtain ⟨packets, hpackets, hlength, hpieces⟩ := videoPacket_of_getElem? ssrc hframes hget
    have hne : packets ≠ [] := by
      rintro rfl
      have hpos := (lt_chunkCount_iff pieceSize_pos).mpr (show pieceSize * 0 < _ from hframe.1)
      rw [← hlength] at hpos
      exact absurd hpos (Nat.not_lt_zero _)
    have hfrom (j : Nat) (packet : Bytes) (hpacket : packets[j]? = some packet) :
        pieceSize * (0 + j) < frame.data.length ∧ VideoPacket frame n (0 + j) packet := by
      rw [Nat.zero_add]
      exact hpieces j packet hpacket
    obtain ⟨session2, message, hok2, hidle2, hdelivered2, hmessage, hdata, htime, hseq⟩ :=
      receiveAll_pieces hidle1.payloadType hidle1.workBufferList .none hframe hfrom
        ((Nat.zero_add _).trans hlength) hne
    refine ⟨session2, ?_, hidle2, messages ++ [message], ?_, fun m hm => ?_, ?_⟩
    · rw [take_add_one, hpackets, Option.toList_some, flatten_append, map_append]
      rw [receiveAll] at hok1 hok2 ⊢
      rw [foldlM_append, hok1]
      rw [flatten_singleton]
      exact hok2
    · rw [hdelivered2, hdelivered1, append_assoc]
    · obtain hm | hm := mem_append.mp hm
      · exact hfull m hm
      · rw [mem_singleton.mp hm]
        exact hmessage
    · rw [range_succ]
      refine rel_append hcarries (.cons ⟨⟨frame, hget, hdata, htime⟩, hseq⟩ .nil)

end RTPSession

def byteFrame : RtpFrame where
  data := [7]
  isKeyframe := false
  frameRecordTimestamp := 1000
  fragmentNum := 0
  codecUsed := .vp8
  bitRateUsed := 0
  clientCaptureDelayMs := 0
  videoFrameOrientationAngle := .angle0

theorem sendable_byteFrame : ∀ frame ∈ [byteFrame], frame.Sendable := by
  intro frame hframe
  rw [mem_singleton.mp hframe]
  exact ⟨Nat.le_refl 1, by decide⟩

def bytePacket : Bytes :=
  (rtpNew rtpTypeVideo 0).rtpPacket ((rtpNew rtpTypeVideo 0).frameHeader byteFrame) 0 [7]

namespace Reception

def receive (s : Reception) (packet : Bytes) (i k : Nat) (calloc : Bool) : Option Reception :=
  match s.session.handleRtpPacket calloc packet,
      Slot.receive s.slots (rtpHeaderUnpack (packet.drop 1)) (i, k)
        (packet.drop (1 + rtpHeaderSize)) calloc with
  | .ok session, .ok (new, slots) => some ⟨session, slots, s.passed ++ new⟩
  | _, _ => none

theorem arrives_of_receive {s t : Reception} {packet : Bytes} {i k : Nat} {calloc : Bool}
    (h : s.receive packet i k calloc = some t) : s.Arrives t packet i k calloc := by
  unfold receive at h
  split at h
  · rename_i session new slots hsession hslots
    cases h
    exact ⟨hsession, new, hslots, rfl⟩
  · cases h

def once : Option Reception := (start 0).receive bytePacket 0 0 true

theorem isSome_once : once.isSome := by decide +kernel

def twice : Option Reception := (once.get isSome_once).receive bytePacket 0 0 true

theorem isSome_twice : twice.isSome := by decide +kernel

end Reception

end Toxcore

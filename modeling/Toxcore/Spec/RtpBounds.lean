import Toxcore.Spec.RtpSlots

/-!
# RTP packets and the buffers they are copied into

A frame has a buffer of the size that its first packet announces, a message of the old protocol one
of `data_length_lower` bytes.  Later packets say where in it their data goes.  This module says which
packets a session survives.
-/

namespace Toxcore

open List

/-! ## Copies -/

/-- There is room for so many bytes at `offset` in a buffer of this size. -/
def Room (size offset length : Nat) : Prop :=
  length = 0 ∨ offset + length ≤ size

theorem copyTo_ok_iff (memory : Bytes) (offset : Nat) (data : Bytes) :
    (∃ memory', copyTo memory offset data = .ok memory') ↔
      Room memory.length offset data.length := by
  unfold copyTo Room
  constructor
  · intro ⟨memory', h⟩
    by_cases hout : data.length ≠ 0 ∧ offset + data.length > memory.length
    · rw [if_pos hout] at h
      cases h
    · omega
  · intro h
    rw [if_neg (by omega)]
    exact ⟨_, rfl⟩

theorem length_of_copyTo {memory data memory' : Bytes} {offset : Nat}
    (h : copyTo memory offset data = .ok memory') : memory'.length = memory.length := by
  unfold copyTo at h
  split at h
  · cases h
  · injection h with h
    subst h
    by_cases hzero : data.length = 0
    · rw [if_pos hzero]
    · rw [if_neg hzero, overwriteAt, length_append, length_append, length_take, length_drop]
      omega

/-! ## Frames -/

namespace Slot

variable {ι : Type}

def Sized (slot : Slot ι) : Prop :=
  slot.buf.data.length = slot.buf.header.dataLengthFull.toNat

theorem sized_start (header : RTPHeader) : (start header : Slot ι).Sized := length_replicate

theorem receiveAt_ok_iff (slots : List (Slot ι)) (i : Nat) {slot : Slot ι} (h : slot.Sized)
    (header : RTPHeader) (name : ι) (data : Bytes) :
    (∃ received, receiveAt slots i slot header name data = .ok received) ↔
      Room slot.buf.header.dataLengthFull.toNat header.offsetFull.toNat data.length := by
  rw [← h, ← copyTo_ok_iff]
  unfold receiveAt fill
  cases copyTo slot.buf.data header.offsetFull.toNat data with
  | error fault => exact ⟨fun ⟨_, h⟩ => (nomatch h), fun ⟨_, h⟩ => (nomatch h)⟩
  | ok memory => exact ⟨fun _ => ⟨memory, rfl⟩, fun _ => ⟨_, rfl⟩⟩

variable {slots passed slots' : List (Slot ι)} {header : RTPHeader} {name : ι} {data : Bytes}

theorem sized_of_receiveAt {i : Nat} {slot : Slot ι} (hslots : ∀ other ∈ slots, other.Sized) (hslot : slot.Sized)
    (h : receiveAt slots i slot header name data = .ok (passed, slots')) :
    slots'.length ≤ slots.length ∧ ∀ other ∈ slots', other.Sized := by
  obtain ⟨memory, hcopy, hfull | hpart⟩ := receiveAt_ok h
  · obtain ⟨-, -, rfl⟩ := hfull
    constructor
    · rw [length_drop]
      exact Nat.le_trans (Nat.sub_le _ _) (length_eraseIdx_le slots i)
    · intro other hother
      exact hslots other (mem_of_mem_eraseIdx (mem_of_mem_drop hother))
  · obtain ⟨-, -, rfl⟩ := hpart
    constructor
    · exact Nat.le_of_eq (length_set ..)
    · intro other hother
      cases mem_or_eq_of_mem_set hother with
      | inl hmem => exact hslots other hmem
      | inr heq =>
        rw [heq]
        exact (length_of_copyTo hcopy).trans hslot

/-- The slots are at most three, and their buffers have the sizes that the headers announce. -/
def Sound (slots : List (Slot ι)) : Prop :=
  slots.length ≤ usedRtpWorkbufferCount ∧ ∀ slot ∈ slots, slot.Sized

theorem sound_kept (h : Sound slots) (header : RTPHeader) :
    Sound (kept slots ++ [start header]) := by
  have hcount : usedRtpWorkbufferCount = 3 := rfl
  constructor
  · rw [length_append, length_singleton, kept, length_drop]
    omega
  · intro slot hslot
    cases mem_append.mp hslot with
    | inl hmem => exact h.2 slot (mem_of_mem_drop hmem)
    | inr hmem =>
      rw [mem_singleton.mp hmem]
      exact sized_start header

theorem Sound.receiveNew (hsound : Sound slots) {calloc : Bool}
    (h : receiveNew slots header name data calloc = .ok (passed, slots')) : Sound slots' := by
  unfold Slot.receiveNew at h
  cases calloc with
  | false =>
    injection h with h
    injection h with _ h
    constructor
    · rw [← h, kept, length_drop]
      exact Nat.le_trans (Nat.sub_le _ _) hsound.1
    · intro slot hslot
      rw [← h] at hslot
      exact hsound.2 slot (mem_of_mem_drop hslot)
  | true =>
    cases hat : receiveAt (kept slots ++ [start header]) (kept slots).length (start header)
        header name data with
    | error fault => rw [hat] at h; cases h
    | ok received =>
      rw [hat] at h
      injection h with h
      injection h with _ h
      have hkept := sound_kept hsound header
      have hafter := sized_of_receiveAt hkept.2 (sized_start header) hat
      rw [h] at hafter
      exact ⟨Nat.le_trans hafter.1 hkept.1, hafter.2⟩

theorem Sound.receive (hsound : Sound slots) {calloc : Bool}
    (h : receive slots header name data calloc = .ok (passed, slots')) : Sound slots' := by
  unfold Slot.receive at h
  by_cases hinvalid : header.dataLengthFull = 0 ∨ header.offsetFull ≥ header.dataLengthFull
  · rw [if_pos hinvalid] at h
    injection h with h
    injection h with _ h
    exact h ▸ hsound
  · rw [if_neg hinvalid] at h
    cases hjoined : joined slots header data with
    | none =>
      rw [hjoined] at h
      exact hsound.receiveNew h
    | some slot =>
      rw [hjoined] at h
      have hmem : slot ∈ slots := mem_of_getElem? hjoined
      by_cases hzero : slot.receivedLen = 0
      · exact absurd ((if_pos hzero).symm.trans h) (by simp)
      · have hat := (if_neg hzero).symm.trans h
        have hafter := sized_of_receiveAt hsound.2 (hsound.2 slot hmem) hat
        exact ⟨Nat.le_trans hafter.1 hsound.1, hafter.2⟩

theorem receive_ok_iff (hsound : Sound slots) (header : RTPHeader) (name : ι) (data : Bytes) (calloc : Bool) :
    (∃ received, receive slots header name data calloc = .ok received) ↔
      (header.dataLengthFull = 0 ∨ header.offsetFull ≥ header.dataLengthFull) ∨
      match joined slots header data with
      | some slot => slot.receivedLen ≠ 0 ∧
          Room slot.buf.header.dataLengthFull.toNat header.offsetFull.toNat data.length
      | none => calloc = false ∨
          Room header.dataLengthFull.toNat header.offsetFull.toNat data.length := by
  unfold Slot.receive
  by_cases hinvalid : header.dataLengthFull = 0 ∨ header.offsetFull ≥ header.dataLengthFull
  · rw [if_pos hinvalid]
    exact ⟨fun _ => .inl hinvalid, fun _ => ⟨_, rfl⟩⟩
  · rw [if_neg hinvalid, or_iff_right hinvalid]
    cases hjoined : joined slots header data with
    | none =>
      unfold receiveNew
      cases calloc with
      | false => exact ⟨fun _ => .inl rfl, fun _ => ⟨_, rfl⟩⟩
      | true =>
        rw [or_iff_right (by decide)]
        refine Iff.trans ?_ (receiveAt_ok_iff (kept slots ++ [start header]) (kept slots).length
          (sized_start header) header name data)
        cases receiveAt (kept slots ++ [start header]) (kept slots).length (start header) header
            name data with
        | error fault => exact ⟨fun ⟨_, h⟩ => (nomatch h), fun ⟨_, h⟩ => (nomatch h)⟩
        | ok received => exact ⟨fun _ => ⟨_, rfl⟩, fun _ => ⟨_, rfl⟩⟩
    | some slot =>
      have hmem : slot ∈ slots := mem_of_getElem? hjoined
      dsimp only
      by_cases hzero : slot.receivedLen = 0
      · rw [if_pos hzero]
        exact ⟨fun ⟨_, h⟩ => (nomatch h), fun h => absurd hzero h.1⟩
      · rw [if_neg hzero, receiveAt_ok_iff slots _ (hsound.2 slot hmem), and_iff_right hzero]

end Slot

/-! ## Sessions -/

namespace RTPSession

variable (session : RTPSession)

/-- The entry of the work buffer that a packet of a frame in several packets belongs to. -/
def frameOf (header : RTPHeader) (data : Bytes) : Option RTPWorkBuffer :=
  if header.dataLengthFull.toNat = data.length then none
  else
    (session.workBufferList.workBuffer.take session.workBufferList.nextFreeEntry).find? fun entry =>
      entry.buf.any fun buf =>
        buf.header.sequnum = header.sequnum ∧ buf.header.timestamp = header.timestamp

/-- A packet of a frame in the work buffer is not the first, and within the length announced first; another one is
    within its own length, or finds no memory. -/
def FitsVideo (header : RTPHeader) (data : Bytes) (calloc : Bool) : Prop :=
  (header.dataLengthFull = 0 ∨ header.offsetFull ≥ header.dataLengthFull) ∨
  match session.frameOf header data with
  | some entry => entry.receivedLen ≠ 0 ∧ ∀ buf ∈ entry.buf,
      Room buf.header.dataLengthFull.toNat header.offsetFull.toNat data.length
  | none => calloc = false ∨ Room header.dataLengthFull.toNat header.offsetFull.toNat data.length

/-- The data of the first packet of an old message is within the length it announces. -/
def FitsNew (header : RTPHeader) (data : Bytes) : Prop :=
  Room header.dataLengthLower.toNat header.offsetLower.toNat (data.length % 2 ^ 16)

def FitsOld (header : RTPHeader) (data : Bytes) : Prop :=
  header.dataLengthLower.toNat = data.length ∨
  match session.mp with
  | none => FitsNew header data
  | some mp =>
    if mp.header.sequnum = header.sequnum ∧ mp.header.timestamp = header.timestamp then
      (mp.header.dataLengthLower.toNat : Int) - mp.len.toNat < data.length ∨
        mp.header.dataLengthLower ≤ header.offsetLower ∨
        Room mp.header.dataLengthLower.toNat header.offsetLower.toNat data.length
    else mp.header.timestamp > header.timestamp ∨ FitsNew header data

/-- A packet is rejected by `handle_rtp_packet`, or it fits. -/
def Fits (calloc : Bool) : (data : Bytes) → Prop
  | [] => True
  | packetType :: data =>
    packetType ≠ session.payloadType ∨ data.length < rtpHeaderSize ∨
    session.acceptsHeader packetType (rtpHeaderUnpack data) = false ∨
    let header := rtpHeaderUnpack data
    let incomingData := data.drop rtpHeaderSize
    if header.flags &&& rtpLargeFrame ≠ 0 ∧ header.pt.toNat = rtpTypeVideo.toNat % 128 then
      session.FitsVideo header (incomingData.take (incomingData.length % 2 ^ 16)) calloc
    else session.FitsOld header incomingData

/-- The slots in use are the first ones, and every buffer has the size that its header announces. -/
structure Sound : Prop where
  slots : ∃ slots : List (Slot Unit), session.workBufferList = .ofSlots slots ∧ Slot.Sound slots
  mp : ∀ mp ∈ session.mp, mp.data.length = mp.header.dataLengthLower.toNat

variable {session}

theorem frameOf_ofSlots {slots : List (Slot Unit)}
    (h : session.workBufferList = .ofSlots slots) (header : RTPHeader) (data : Bytes) :
    session.frameOf header data = (Slot.joined slots header data).map Slot.entry := by
  unfold frameOf Slot.joined RTPWorkBufferList.slotOf
  have htake : (RTPWorkBufferList.ofSlots slots).workBuffer.take
      (RTPWorkBufferList.ofSlots slots).nextFreeEntry = slots.map Slot.entry :=
    take_left' (length_map _)
  rw [h, htake]
  by_cases hsingle : header.dataLengthFull.toNat = data.length
  · rw [if_pos hsingle, if_neg (by simp [hsingle]), getElem?_eq_none le_rfl]
    rfl
  · rw [if_neg hsingle, if_pos (by simp [hsingle]), ← find?_eq_getElem?_findIdx, find?_map]
    congr 2

theorem fitsVideo_iff {slots : List (Slot Unit)} (h : session.workBufferList = .ofSlots slots)
    (hsound : Slot.Sound slots) (header : RTPHeader) (data : Bytes) (calloc : Bool) :
    session.FitsVideo header data calloc ↔
      ∃ session', session.handleVideoPacket header data calloc = .ok session' := by
  have hreceive := Slot.receive_ok_iff hsound header () data calloc
  rw [handleVideoPacket_ofSlots h hsound.1 header () data calloc]
  unfold FitsVideo
  rw [frameOf_ofSlots h]
  refine Iff.trans ?_ (hreceive.symm.trans ?_)
  · cases Slot.joined slots header data with
    | none => exact Iff.rfl
    | some slot =>
      refine or_congr_right (and_congr_right fun _ => ?_)
      show (∀ buf ∈ some slot.buf, _) ↔ _
      simp only [Option.mem_some_iff, forall_eq']
  · cases Slot.receive slots header () data calloc with
    | error fault => exact ⟨fun ⟨_, h⟩ => (nomatch h), fun ⟨_, h⟩ => (nomatch h)⟩
    | ok received => exact ⟨fun _ => ⟨_, rfl⟩, fun _ => ⟨_, rfl⟩⟩

variable {session' : RTPSession} {header : RTPHeader} {data : Bytes}

theorem Sound.handleVideoPacket (hsound : session.Sound) {calloc : Bool}
    (h : session.handleVideoPacket header data calloc = .ok session') : session'.Sound := by
  obtain ⟨slots, hslots, hsized⟩ := hsound.slots
  rw [handleVideoPacket_ofSlots hslots hsized.1 header () data calloc] at h
  cases hreceive : Slot.receive slots header () data calloc with
  | error fault => rw [hreceive] at h; cases h
  | ok received =>
    rw [hreceive] at h
    injection h with h
    subst h
    exact ⟨⟨received.2, rfl, Slot.Sound.receive hsized hreceive⟩, hsound.mp⟩

theorem newMessage_ok_iff (header : RTPHeader) (allocateLen : Nat) (data : Bytes) :
    (∃ message, newMessage header allocateLen data (UInt16.ofNat data.length) = .ok message) ↔
      data.length % 2 ^ 16 ≤ allocateLen := by
  have hlen : (UInt16.ofNat data.length).toNat = data.length % 2 ^ 16 := UInt16.toNat_ofNat'
  unfold newMessage
  rw [hlen]
  by_cases hle : data.length % 2 ^ 16 ≤ allocateLen
  · rw [if_neg (fun h => h hle)]
    have hroom : Room (List.replicate allocateLen (0 : UInt8)).length 0
        (data.take (data.length % 2 ^ 16)).length := by
      right
      rw [length_replicate, length_take]
      omega
    obtain ⟨memory, hcopy⟩ := (copyTo_ok_iff _ _ _).mpr hroom
    rw [hcopy]
    exact ⟨fun _ => hle, fun _ => ⟨_, rfl⟩⟩
  · rw [if_pos hle]
    exact ⟨fun ⟨_, h⟩ => (nomatch h), fun h => absurd h hle⟩

theorem newMessage_ok {allocateLen : Nat} {dataLength : UInt16} {message : RTPMessage}
    (h : newMessage header allocateLen data dataLength = .ok message) :
    message.len = dataLength ∧ message.header = header ∧ message.data.length = allocateLen := by
  unfold newMessage at h
  split at h
  · cases h
  · cases hcopy : copyTo (List.replicate allocateLen 0) 0 (data.take dataLength.toNat) with
    | error fault => rw [hcopy] at h; cases h
    | ok memory =>
      rw [hcopy] at h
      injection h with h
      subst h
      exact ⟨rfl, rfl, (length_of_copyTo hcopy).trans length_replicate⟩

theorem newMultiparted_ok_iff (session : RTPSession) (header : RTPHeader) (data : Bytes) :
    (∃ session', session.newMultiparted header data = .ok session') ↔ FitsNew header data := by
  have hmessage := newMessage_ok_iff header header.dataLengthLower.toNat data
  unfold newMultiparted FitsNew
  cases hnew : newMessage header header.dataLengthLower.toNat data (UInt16.ofNat data.length) with
  | error fault =>
    rw [hnew] at hmessage
    constructor
    · intro ⟨_, h⟩
      cases h
    · intro h
      have hlarge : ¬data.length % 2 ^ 16 ≤ header.dataLengthLower.toNat := by
        intro hle
        obtain ⟨_, h⟩ := hmessage.mpr hle
        cases h
      unfold Room at h
      omega
  | ok mp =>
    rw [hnew] at hmessage
    have hle := hmessage.mp ⟨mp, rfl⟩
    obtain ⟨hlen, -, hdata⟩ := newMessage_ok hnew
    have htake : (mp.data.take mp.len.toNat).length = data.length % 2 ^ 16 := by
      rw [length_take, hdata, hlen]
      exact Nat.min_eq_left hle
    have hcopy := copyTo_ok_iff mp.data header.offsetLower.toNat (mp.data.take mp.len.toNat)
    rw [htake, hdata] at hcopy
    rw [← hcopy]
    dsimp only
    cases copyTo mp.data header.offsetLower.toNat (mp.data.take mp.len.toNat) with
    | error fault => exact ⟨fun ⟨_, h⟩ => (nomatch h), fun ⟨_, h⟩ => (nomatch h)⟩
    | ok data => exact ⟨fun _ => ⟨_, rfl⟩, fun _ => ⟨_, rfl⟩⟩

theorem Sound.newMultiparted (hsound : session.Sound) (h : session.newMultiparted header data = .ok session')
    : session'.Sound := by
  unfold RTPSession.newMultiparted at h
  cases hnew : newMessage header header.dataLengthLower.toNat data (UInt16.ofNat data.length) with
  | error fault => rw [hnew] at h; cases h
  | ok mp =>
    obtain ⟨-, hheader, hdata⟩ := newMessage_ok hnew
    rw [hnew] at h
    dsimp only at h
    cases hcopy : copyTo mp.data header.offsetLower.toNat (mp.data.take mp.len.toNat) with
    | error fault => rw [hcopy] at h; cases h
    | ok memory =>
      rw [hcopy] at h
      injection h with h
      subst h
      refine ⟨hsound.slots, ?_⟩
      intro message hmessage
      cases hmessage
      rw [length_of_copyTo hcopy, hdata, hheader]

section

variable (hsound : session.Sound)
include hsound

theorem Sound.mcb (message : RTPMessage) : (session.mcb message).Sound :=
  ⟨hsound.slots, hsound.mp⟩

theorem Sound.dropMessage : ({ session with mp := none }).Sound :=
  ⟨hsound.slots, fun _ h => (nomatch h)⟩

theorem handleOldPacket_ok_iff (header : RTPHeader) (data : Bytes) :
    (∃ session', session.handleOldPacket header data = .ok session') ↔
      session.FitsOld header data := by
  unfold handleOldPacket FitsOld
  by_cases hsingle : header.dataLengthLower.toNat = data.length
  · rw [if_pos hsingle, or_iff_left_of_imp (fun _ => hsingle)]
    have hle : data.length % 2 ^ 16 ≤ data.length := Nat.mod_le _ _
    obtain ⟨message, hnew⟩ := (newMessage_ok_iff header data.length data).mpr hle
    rw [hnew]
    exact ⟨fun _ => hsingle, fun _ => ⟨_, rfl⟩⟩
  · rw [if_neg hsingle, or_iff_right hsingle]
    cases hmp : session.mp with
    | none => exact newMultiparted_ok_iff session header data
    | some mp =>
      dsimp only
      by_cases hsame : mp.header.sequnum = header.sequnum ∧ mp.header.timestamp = header.timestamp
      · rw [if_pos hsame, if_pos hsame, ← hsound.mp mp hmp, ← copyTo_ok_iff, hsound.mp mp hmp, ← or_assoc]
        by_cases hreject : (mp.header.dataLengthLower.toNat : Int) - mp.len.toNat < data.length ∨
            mp.header.dataLengthLower ≤ header.offsetLower
        · rw [if_pos hreject]
          exact ⟨fun _ => .inl hreject, fun _ => ⟨_, rfl⟩⟩
        · rw [if_neg hreject, or_iff_right hreject]
          cases copyTo mp.data header.offsetLower.toNat data with
          | error fault => exact ⟨fun ⟨_, h⟩ => (nomatch h), fun ⟨_, h⟩ => (nomatch h)⟩
          | ok memory =>
            dsimp only
            split
            · exact ⟨fun _ => ⟨_, rfl⟩, fun _ => ⟨_, rfl⟩⟩
            · exact ⟨fun _ => ⟨_, rfl⟩, fun _ => ⟨_, rfl⟩⟩
      · rw [if_neg hsame, if_neg hsame]
        by_cases hold : mp.header.timestamp > header.timestamp
        · rw [if_pos hold]
          exact ⟨fun _ => .inl hold, fun _ => ⟨_, rfl⟩⟩
        · rw [if_neg hold, or_iff_right hold]
          exact newMultiparted_ok_iff _ header data

theorem Sound.handleOldPacket (h : session.handleOldPacket header data = .ok session') : session'.Sound := by
  unfold RTPSession.handleOldPacket at h
  by_cases hsingle : header.dataLengthLower.toNat = data.length
  · rw [if_pos hsingle] at h
    cases hnew : newMessage header data.length data (UInt16.ofNat data.length) with
    | error fault => rw [hnew] at h; cases h
    | ok message =>
      rw [hnew] at h
      injection h with h
      subst h
      cases hmp : session.mp with
      | none => exact ⟨hsound.slots, fun _ h => (nomatch h)⟩
      | some mp => exact ⟨hsound.slots, fun _ h => (nomatch h)⟩
  · rw [if_neg hsingle] at h
    cases hmp : session.mp with
    | none =>
      rw [hmp] at h
      exact hsound.newMultiparted h
    | some mp =>
      rw [hmp] at h
      dsimp only at h
      by_cases hsame : mp.header.sequnum = header.sequnum ∧ mp.header.timestamp = header.timestamp
      · rw [if_pos hsame] at h
        split at h
        · injection h with h
          exact h ▸ hsound
        · cases hcopy : copyTo mp.data header.offsetLower.toNat data with
          | error fault => rw [hcopy] at h; cases h
          | ok memory =>
            rw [hcopy] at h
            dsimp only at h
            split at h
            · injection h with h
              subst h
              exact hsound.dropMessage.mcb _
            · injection h with h
              subst h
              refine ⟨hsound.slots, ?_⟩
              intro message hmessage
              cases hmessage
              exact (length_of_copyTo hcopy).trans (hsound.mp mp hmp)
      · rw [if_neg hsame] at h
        split at h
        · injection h with h
          exact h ▸ hsound
        · exact (hsound.dropMessage.mcb mp).newMultiparted h

theorem handleRtpPacket_ok_iff (calloc : Bool) (data : Bytes) :
    (∃ session', session.handleRtpPacket calloc data = .ok session') ↔
      session.Fits calloc data := by
  obtain ⟨slots, hslots, hsized⟩ := hsound.slots
  cases data with
  | nil => exact ⟨fun _ => trivial, fun _ => ⟨session, rfl⟩⟩
  | cons packetType data =>
    unfold handleRtpPacket Fits
    dsimp only
    rw [← or_assoc]
    by_cases hother : packetType ≠ session.payloadType ∨ data.length < rtpHeaderSize
    · rw [if_pos hother]
      exact ⟨fun _ => .inl hother, fun _ => ⟨_, rfl⟩⟩
    · rw [if_neg hother, or_iff_right hother]
      cases session.acceptsHeader packetType (rtpHeaderUnpack data) with
      | false => exact ⟨fun _ => .inl rfl, fun _ => ⟨_, rfl⟩⟩
      | true =>
        rw [or_iff_right (by decide), if_neg (by decide)]
        split
        · exact (fitsVideo_iff hslots hsized _ _ calloc).symm
        · exact handleOldPacket_ok_iff hsound _ _

end

theorem Sound.handleRtpPacket (hsound : session.Sound) {calloc : Bool}
    (h : session.handleRtpPacket calloc data = .ok session') : session'.Sound := by
  cases data with
  | nil =>
    injection h with h
    exact h ▸ hsound
  | cons packetType data =>
    unfold RTPSession.handleRtpPacket at h
    dsimp only at h
    split at h
    · injection h with h
      exact h ▸ hsound
    · split at h
      · injection h with h
        exact h ▸ hsound
      · split at h
        · exact hsound.handleVideoPacket h
        · exact hsound.handleOldPacket h

theorem Sound.tidy (hsound : session.Sound) : session.workBufferList.Tidy := by
  obtain ⟨slots, hslots, hsized⟩ := hsound.slots
  rw [hslots]
  exact RTPWorkBufferList.tidy_ofSlots hsized.1

theorem sound_rtpNew (payloadType : UInt8) (ssrc : UInt32) : (rtpNew payloadType ssrc).Sound where
  slots := ⟨[], rfl, Nat.zero_le _, fun _ h => (nomatch h)⟩
  mp _ h := nomatch h

end RTPSession

/-! ## Runs -/

/-- A session receives the packets without a fault, and the slots in use are the first ones in every
    state. -/
def Receives : (session : RTPSession) → (packets : List (Bool × Bytes)) → Prop
  | session, [] => session.workBufferList.Tidy
  | session, (calloc, data) :: packets =>
    session.workBufferList.Tidy ∧
      ∃ session', session.handleRtpPacket calloc data = .ok session' ∧ Receives session' packets

def FitsAll : (session : RTPSession) → (packets : List (Bool × Bytes)) → Prop
  | _, [] => True
  | session, (calloc, data) :: packets =>
    session.Fits calloc data ∧
      ∀ session', session.handleRtpPacket calloc data = .ok session' → FitsAll session' packets

variable {session : RTPSession}

theorem receives_iff_fitsAll_of_sound (hsound : session.Sound) (packets : List (Bool × Bytes))
    : Receives session packets ↔ FitsAll session packets := by
  induction packets generalizing session with
  | nil => exact ⟨fun _ => trivial, fun _ => hsound.tidy⟩
  | cons packet packets ih =>
    obtain ⟨calloc, data⟩ := packet
    constructor
    · intro ⟨_, session', hok, hrest⟩
      refine ⟨(RTPSession.handleRtpPacket_ok_iff hsound calloc data).mp ⟨session', hok⟩, ?_⟩
      intro other hother
      rw [hok] at hother
      injection hother with hother
      exact hother ▸ (ih (hsound.handleRtpPacket hok)).mp hrest
    · intro ⟨hfits, hrest⟩
      obtain ⟨session', hok⟩ := (RTPSession.handleRtpPacket_ok_iff hsound calloc data).mpr hfits
      exact ⟨hsound.tidy, session', hok, (ih (hsound.handleRtpPacket hok)).mpr (hrest session' hok)⟩

def receiveAll (session : RTPSession) (packets : List (Bool × Bytes)) : Except RtpFault RTPSession :=
  packets.foldlM (fun session packet => session.handleRtpPacket packet.1 packet.2) session

theorem receiveAll_of_receives {packets : List (Bool × Bytes)} (h : Receives session packets)
    : ∃ session', receiveAll session packets = .ok session' := by
  induction packets generalizing session with
  | nil => exact ⟨session, rfl⟩
  | cons packet packets ih =>
    obtain ⟨-, session', hok, hrest⟩ := h
    obtain ⟨last, hlast⟩ := ih hrest
    refine ⟨last, ?_⟩
    rw [receiveAll, foldlM_cons, hok]
    exact hlast

theorem not_receives_of_fault {packets : List (Bool × Bytes)} {fault : RtpFault}
    (h : receiveAll session packets = .error fault) :
    ¬Receives session packets := by
  intro hreceives
  obtain ⟨session', hok⟩ := receiveAll_of_receives hreceives
  rw [h] at hok
  cases hok

def videoPacket (dataLengthFull offsetFull : UInt32) (data : Bytes) : Bytes :=
  rtpTypeVideo ::
    (rtpHeaderPack
      { rtpHeaderUnpack [] with pt := 65, flags := rtpLargeFrame, dataLengthFull, offsetFull } ++ data)

def audioPacket (dataLengthLower offsetLower : UInt16) (data : Bytes) : Bytes :=
  rtpTypeAudio :: (rtpHeaderPack { rtpHeaderUnpack [] with pt := 64, dataLengthLower, offsetLower } ++ data)

end Toxcore

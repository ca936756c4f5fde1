import Toxcore.Native.CryptoConnection

/-!
# Audio and video packets

`rtp.c`: frames of audio and video are cut into lossy packets with a header, and put together again.
Large frames are collected in the slots of a work buffer, messages of the old 16 bit protocol in
`mp`.  The messages that a session passes to `mcb` are collected in `delivered`.

The bytes of a message are those that were allocated for it, without the padding for the decoder.
An assertion that fails, a copy that does not stay within its buffer and the use of a missing buffer
are faults, after which nothing is known.  Clocks, bandwidth and the communication channel are left
out.  The length of a packet fits into an `int`, that of a frame with its header into a `uint32_t`.
-/

namespace Toxcore

/-! ## Constants -/

def rtpHeaderSize : Nat := 80

def rtpPaddingFields : Nat := 4

def usedRtpWorkbufferCount : Nat := 3

def rtpTypeAudio : UInt8 := 192

def rtpTypeVideo : UInt8 := 193

def rtpLargeFrame : UInt64 := 1

def rtpKeyFrame : UInt64 := 2

def rtpEncoderIsH264 : UInt64 := 4

def rtpEncoderHasRecordTimestamp : UInt64 := 8

def rtpEncoderVideoRotationAngleBit0 : UInt64 := 16

def rtpEncoderVideoRotationAngleBit1 : UInt64 := 32

def rtpEncoderIsH265 : UInt64 := 64

/-- `TOXAV_ENCODER_CODEC_USED_VALUE` -/
inductive ToxavEncoderCodecUsed where
  | vp8
  | vp9
  | h264
  | h265
deriving DecidableEq

/-- `TOXAV_CLIENT_INPUT_VIDEO_ORIENTATION_VALUE` -/
inductive ToxavClientInputVideoOrientation where
  | angle0
  | angle90
  | angle180
  | angle270
deriving DecidableEq

/-! ## Headers -/

structure RTPHeader where
  ve : BitVec 2
  pe : BitVec 1
  xe : BitVec 1
  cc : BitVec 4
  ma : BitVec 1
  pt : BitVec 7
  sequnum : UInt16
  timestamp : UInt32
  ssrc : UInt32
  flags : UInt64
  offsetFull : UInt32
  dataLengthFull : UInt32
  receivedLengthFull : UInt32
  frameRecordTimestamp : UInt64
  fragmentNum : Int32
  realFrameNum : UInt32
  encoderBitRateUsed : UInt32
  clientVideoCaptureDelayMs : UInt32
  rtpPacketNumber : UInt32
  offsetLower : UInt16
  dataLengthLower : UInt16
deriving DecidableEq

/-- The byte with these eight bits. -/
def byteOfBits (bits : BitVec 8) : UInt8 := UInt8.ofBitVec bits

def rtpHeaderPack (header : RTPHeader) : Bytes :=
  byteOfBits (header.ve ++ header.pe ++ header.xe ++ header.cc) ::
  byteOfBits (header.ma ++ header.pt) ::
  (netPackU16 header.sequnum ++
  (netPackU32 header.timestamp ++
  (netPackU32 header.ssrc ++
  (netPackU64 header.flags ++
  (netPackU32 header.offsetFull ++
  (netPackU32 header.dataLengthFull ++
  (netPackU32 header.receivedLengthFull ++
  (netPackU64 header.frameRecordTimestamp ++
  (netPackU32 header.fragmentNum.toUInt32 ++
  (netPackU32 header.realFrameNum ++
  (netPackU32 header.encoderBitRateUsed ++
  (netPackU32 header.clientVideoCaptureDelayMs ++
  (netPackU32 header.rtpPacketNumber ++
  (List.replicate (4 * rtpPaddingFields) 0 ++
  (netPackU16 header.offsetLower ++
  netPackU16 header.dataLengthLower)))))))))))))))

def rtpHeaderUnpack (data : Bytes) : RTPHeader where
  ve := (data.getD 0 0).toBitVec.extractLsb' 6 2
  pe := (data.getD 0 0).toBitVec.extractLsb' 5 1
  xe := (data.getD 0 0).toBitVec.extractLsb' 4 1
  cc := (data.getD 0 0).toBitVec.extractLsb' 0 4
  ma := (data.getD 1 0).toBitVec.extractLsb' 7 1
  pt := (data.getD 1 0).toBitVec.extractLsb' 0 7
  sequnum := netUnpackU16 (data.drop 2)
  timestamp := netUnpackU32 (data.drop 4)
  ssrc := netUnpackU32 (data.drop 8)
  flags := netUnpackU64 (data.drop 12)
  offsetFull := netUnpackU32 (data.drop 20)
  dataLengthFull := netUnpackU32 (data.drop 24)
  receivedLengthFull := netUnpackU32 (data.drop 28)
  frameRecordTimestamp := netUnpackU64 (data.drop 32)
  fragmentNum := (netUnpackU32 (data.drop 40)).toInt32
  realFrameNum := netUnpackU32 (data.drop 44)
  encoderBitRateUsed := netUnpackU32 (data.drop 48)
  clientVideoCaptureDelayMs := netUnpackU32 (data.drop 52)
  rtpPacketNumber := netUnpackU32 (data.drop 56)
  offsetLower := netUnpackU16 (data.drop (60 + 4 * rtpPaddingFields))
  dataLengthLower := netUnpackU16 (data.drop (62 + 4 * rtpPaddingFields))

/-! ## Messages and sessions -/

/-- What must not happen. -/
inductive RtpFault where
  /-- An `assert` fails. -/
  | assertion
  /-- `memcpy` or `memmove` leaves the memory of a message. -/
  | outOfBounds
  /-- The buffer of a slot is used, and it is `nullptr`. -/
  | nullBuffer
deriving DecidableEq

/-- `RTPMessage` with the bytes that are allocated for its data. -/
structure RTPMessage where
  len : UInt16
  header : RTPHeader
  data : Bytes
deriving DecidableEq

structure RTPWorkBuffer where
  isKeyframe : Bool
  receivedLen : UInt32
  buf : Option RTPMessage
deriving DecidableEq

def emptyWorkBuffer : RTPWorkBuffer := { isKeyframe := false, receivedLen := 0, buf := none }

structure RTPWorkBufferList where
  nextFreeEntry : Nat
  workBuffer : List RTPWorkBuffer
deriving DecidableEq

/-- The fields of `RTPSession` that are used here, and the messages that were passed to `mcb`. -/
structure RTPSession where
  payloadType : UInt8
  sequnum : UInt16
  rsequnum : UInt16
  rtimestamp : UInt32
  rtpPacketNum : UInt32
  ssrc : UInt32
  mp : Option RTPMessage
  workBufferList : RTPWorkBufferList
  delivered : List RTPMessage
deriving DecidableEq

/-- `rtp_new` with the random number `ssrc` for audio. -/
def rtpNew (payloadType : UInt8) (ssrc : UInt32) : RTPSession where
  payloadType
  sequnum := 0
  rsequnum := 0
  rtimestamp := 0
  rtpPacketNum := 0
  ssrc := if payloadType = rtpTypeVideo then 0 else ssrc
  mp := none
  workBufferList :=
    { nextFreeEntry := 0
      workBuffer := List.replicate usedRtpWorkbufferCount emptyWorkBuffer }
  delivered := []

/-- `memcpy` to `offset`. -/
def overwriteAt (memory : Bytes) (offset : Nat) (data : Bytes) : Bytes :=
  memory.take offset ++ data ++ memory.drop (offset + data.length)

/-- `memcpy` to `offset`, which has to stay within the memory unless it copies nothing. -/
def copyTo (memory : Bytes) (offset : Nat) (data : Bytes) : Except RtpFault Bytes :=
  if data.length ≠ 0 ∧ offset + data.length > memory.length then .error .outOfBounds
  else .ok (if data.length = 0 then memory else overwriteAt memory offset data)

def newMessage (header : RTPHeader) (allocateLen : Nat) (data : Bytes) (dataLength : UInt16) :
    Except RtpFault RTPMessage :=
  if ¬allocateLen ≥ dataLength.toNat then .error .assertion
  else
    match copyTo (List.replicate allocateLen 0) 0 (data.take dataLength.toNat) with
    | .error fault => .error fault
    | .ok memory => .ok { len := dataLength, header, data := memory }

/-! ## The work buffer -/

namespace RTPWorkBufferList

variable (wkbl : RTPWorkBufferList)

def getSlotLoop (header : RTPHeader) : List RTPWorkBuffer → (i : Nat) → Except RtpFault (Option Nat)
  | [], _ => .ok none
  | slot :: slots, i =>
    match slot.buf with
    | none => .error .nullBuffer
    | some buf =>
      if buf.header.sequnum = header.sequnum ∧ buf.header.timestamp = header.timestamp then
        .ok (some i)
      else getSlotLoop header slots (i + 1)

/-- `get_slot`; `none` is `GET_SLOT_RESULT_DROP_OLDEST_SLOT`. -/
def getSlot (header : RTPHeader) (isMultipart : Bool) : Except RtpFault (Option Nat) :=
  if wkbl.nextFreeEntry = 0 then .ok (some 0)
  else
    let found :=
      if isMultipart then getSlotLoop header (wkbl.workBuffer.take wkbl.nextFreeEntry) 0
      else .ok none
    match found with
    | .error fault => .error fault
    | .ok (some i) => .ok (some i)
    | .ok none =>
      if wkbl.nextFreeEntry < usedRtpWorkbufferCount then .ok (some wkbl.nextFreeEntry)
      else .ok none

def processFrame (slotId : Nat) : Option RTPMessage × RTPWorkBufferList :=
  if wkbl.nextFreeEntry = 0 then (none, wkbl)
  else
    let mNew := (wkbl.workBuffer[slotId]?).bind (·.buf)
    -- the entries after the slot move one step up
    let moved := (List.range' slotId (wkbl.nextFreeEntry - 1 - slotId)).foldl
      (fun workBuffer i => workBuffer.set i (workBuffer.getD (i + 1) emptyWorkBuffer))
      wkbl.workBuffer
    (mNew,
      { nextFreeEntry := wkbl.nextFreeEntry - 1
        workBuffer := moved.set (wkbl.nextFreeEntry - 1) emptyWorkBuffer })

/-- The copying of `fill_data_into_slot`: whether the frame is complete, and the slots. -/
def copyIntoSlot (slotId : Nat) (slot : RTPWorkBuffer) (header : RTPHeader) (incomingData : Bytes) :
    Except RtpFault (Bool × RTPWorkBufferList) :=
  match slot.buf with
  | none => .error .nullBuffer
  | some buf =>
    match copyTo buf.data header.offsetFull.toNat incomingData with
    | .error fault => .error fault
    | .ok data =>
      let receivedLen := slot.receivedLen + UInt32.ofNat incomingData.length
      .ok (receivedLen == header.dataLengthFull,
        { wkbl with
          workBuffer := wkbl.workBuffer.set slotId
            { slot with
              receivedLen
              buf := some
                { buf with
                  header := { buf.header with receivedLengthFull := receivedLen }
                  data } } })

/-- `fill_data_into_slot`; `calloc` says whether there is memory for a new frame. -/
def fillDataIntoSlot (slotId : Nat) (isKeyframe : Bool) (header : RTPHeader) (incomingData : Bytes)
    (calloc : Bool) : Except RtpFault (Bool × RTPWorkBufferList) :=
  if ¬slotId ≤ wkbl.nextFreeEntry then .error .assertion
  else
    match wkbl.workBuffer[slotId]? with
    | none => .error .outOfBounds
    | some slot =>
      if slot.receivedLen = 0 then
        if slot.buf.isSome then .error .assertion
        else if !calloc then .ok (false, wkbl)
        else if ¬wkbl.nextFreeEntry < usedRtpWorkbufferCount then .error .assertion
        else
          copyIntoSlot { wkbl with nextFreeEntry := wkbl.nextFreeEntry + 1 } slotId
            { isKeyframe
              receivedLen := 0
              buf := some { len := 0, header, data := List.replicate header.dataLengthFull.toNat 0 } }
            header incomingData
      else copyIntoSlot wkbl slotId slot header incomingData

end RTPWorkBufferList

/-! ## Receiving -/

namespace RTPSession

variable (session : RTPSession)

def mcb (message : RTPMessage) : RTPSession :=
  { session with delivered := session.delivered ++ [message] }

/-- `process_frame` and the callback for its message. -/
def passFrame (slotId : Nat) : RTPSession :=
  let (mNew, workBufferList) := session.workBufferList.processFrame slotId
  match mNew with
  | none => { session with workBufferList }
  | some message => { session with workBufferList }.mcb message

/-- The part of `handle_video_packet` after `get_slot`: a full work buffer passes its oldest frame
    on. -/
def makeSlot (header : RTPHeader) : Option Nat → Except RtpFault (Nat × RTPSession)
  | some slotId => .ok (slotId, session)
  | none =>
    match session.workBufferList.processFrame 0 with
    | (none, _) => .error .assertion
    | (some message, workBufferList) =>
      let session := { session with workBufferList }.mcb message
      match session.workBufferList.getSlot header false with
      | .error fault => .error fault
      | .ok none => .error .assertion
      | .ok (some slotId) => .ok (slotId, session)

/-- Whether the frame in slot 0 is older than that in `slotId` by more than two frames. -/
def lingers (slotId : Nat) : Bool :=
  match (session.workBufferList.workBuffer[0]?).bind (·.buf),
      (session.workBufferList.workBuffer[slotId]?).bind (·.buf) with
  | some mNew0, some mNew2 => mNew0.header.sequnum.toNat + 2 < mNew2.header.sequnum.toNat
  | _, _ => false

/-- The part of `handle_video_packet` after `fill_data_into_slot`. -/
def afterFill (slotId : Nat) : Bool × RTPWorkBufferList → RTPSession
  | (false, workBufferList) => { session with workBufferList }
  | (true, workBufferList) =>
    let session := { session with workBufferList }
    -- an old frame does not linger in the buffer
    if slotId > 0 ∧ session.lingers slotId then (session.passFrame slotId).passFrame 0
    else session.passFrame slotId

def handleVideoPacket (header : RTPHeader) (incomingData : Bytes) (calloc : Bool) :
    Except RtpFault RTPSession :=
  if header.dataLengthFull = 0 ∨ header.offsetFull ≥ header.dataLengthFull then .ok session
  else
    let isMultipart := header.dataLengthFull.toNat != incomingData.length
    match session.workBufferList.getSlot header isMultipart with
    | .error fault => .error fault
    | .ok found =>
      match session.makeSlot header found with
      | .error fault => .error fault
      | .ok (slotId, session) =>
        match session.workBufferList.fillDataIntoSlot slotId false header incomingData calloc with
        | .error fault => .error fault
        | .ok filled => .ok (session.afterFill slotId filled)

/-- The label `NEW_MULTIPARTED` of `handle_rtp_packet`. -/
def newMultiparted (header : RTPHeader) (incomingData : Bytes) : Except RtpFault RTPSession :=
  match newMessage header header.dataLengthLower.toNat incomingData
      (UInt16.ofNat incomingData.length) with
  | .error fault => .error fault
  | .ok mp =>
    match copyTo mp.data header.offsetLower.toNat (mp.data.take mp.len.toNat) with
    | .error fault => .error fault
    | .ok data =>
      .ok
        { session with
          rsequnum := header.sequnum
          rtimestamp := header.timestamp
          mp := some { mp with data } }

/-- The part of `handle_rtp_packet` for the old 16 bit protocol. -/
def handleOldPacket (header : RTPHeader) (incomingData : Bytes) : Except RtpFault RTPSession :=
  if header.dataLengthLower.toNat = incomingData.length then
    let session := { session with rsequnum := header.sequnum, rtimestamp := header.timestamp }
    let session :=
      match session.mp with
      | none => session
      | some mp => { session with mp := none }.mcb mp
    match newMessage header incomingData.length incomingData (UInt16.ofNat incomingData.length) with
    | .error fault => .error fault
    | .ok message => .ok (session.mcb message)
  else
    match session.mp with
    | none => session.newMultiparted header incomingData
    | some mp =>
      if mp.header.sequnum = header.sequnum ∧ mp.header.timestamp = header.timestamp then
        if (mp.header.dataLengthLower.toNat : Int) - mp.len.toNat < incomingData.length ∨
            mp.header.dataLengthLower ≤ header.offsetLower then .ok session
        else
          match copyTo mp.data header.offsetLower.toNat incomingData with
          | .error fault => .error fault
          | .ok data =>
            let mp := { mp with data, len := mp.len + UInt16.ofNat incomingData.length }
            if mp.len = mp.header.dataLengthLower then .ok ({ session with mp := none }.mcb mp)
            else .ok { session with mp := some mp }
      else if mp.header.timestamp > header.timestamp then .ok session
      else ({ session with mp := none }.mcb mp).newMultiparted header incomingData

/-- The checks of `handle_rtp_packet` on the header. -/
def acceptsHeader (packetType : UInt8) (header : RTPHeader) : Bool :=
  header.pt.toNat == packetType.toNat % 128 && header.pt.toNat == session.payloadType.toNat % 128 &&
    (header.offsetFull < header.dataLengthFull || (header.offsetFull == 0 && header.dataLengthFull == 0)) &&
    (header.flags &&& rtpLargeFrame != 0 || header.offsetLower < header.dataLengthLower)

def handleRtpPacket (calloc : Bool) : (data : Bytes) → Except RtpFault RTPSession
  | [] => .ok session
  | packetType :: data =>
    if packetType ≠ session.payloadType ∨ data.length < rtpHeaderSize then .ok session
    else
      let header := rtpHeaderUnpack data
      let incomingData := data.drop rtpHeaderSize
      if !session.acceptsHeader packetType header then .ok session
      else if header.flags &&& rtpLargeFrame ≠ 0 ∧ header.pt.toNat = rtpTypeVideo.toNat % 128 then
        -- the length is passed as `uint16_t`
        session.handleVideoPacket header (incomingData.take (incomingData.length % 2 ^ 16)) calloc
      else session.handleOldPacket header incomingData

end RTPSession

/-! ## Sending -/

/-- The arguments of `rtp_send_data`. -/
structure RtpFrame where
  data : Bytes
  isKeyframe : Bool
  frameRecordTimestamp : UInt64
  fragmentNum : Int32
  codecUsed : ToxavEncoderCodecUsed
  bitRateUsed : UInt32
  clientCaptureDelayMs : UInt32
  videoFrameOrientationAngle : ToxavClientInputVideoOrientation

def RtpFrame.flags (frame : RtpFrame) (isVideoPayload : Bool) : UInt64 :=
  let codec :=
    match frame.codecUsed with
    | .h264 => if isVideoPayload then rtpEncoderIsH264 else 0
    | .h265 => if isVideoPayload then rtpEncoderIsH265 else 0
    | .vp8 | .vp9 => 0
  let angle :=
    match frame.videoFrameOrientationAngle with
    | .angle0 => 0
    | .angle90 => rtpEncoderVideoRotationAngleBit0
    | .angle180 => rtpEncoderVideoRotationAngleBit1
    | .angle270 => rtpEncoderVideoRotationAngleBit0 ||| rtpEncoderVideoRotationAngleBit1
  rtpLargeFrame ||| rtpEncoderHasRecordTimestamp ||| codec ||| angle |||
    (if frame.isKeyframe then rtpKeyFrame else 0)

namespace RTPSession

variable (session : RTPSession)

/-- The header of the first packet of a frame, without the number of the packet. -/
def frameHeader (frame : RtpFrame) : RTPHeader where
  ve := 2
  pe := 0
  xe := 0
  cc := 0
  ma := 0
  pt := BitVec.ofNat 7 (session.payloadType.toNat % 128)
  sequnum := session.sequnum
  timestamp := frame.frameRecordTimestamp.toUInt32
  ssrc := session.ssrc
  flags := frame.flags (session.payloadType == rtpTypeVideo)
  offsetFull := 0
  dataLengthFull := UInt32.ofNat frame.data.length
  receivedLengthFull := 0
  frameRecordTimestamp := frame.frameRecordTimestamp
  fragmentNum := frame.fragmentNum
  realFrameNum := 0
  encoderBitRateUsed := frame.bitRateUsed
  clientVideoCaptureDelayMs := frame.clientCaptureDelayMs
  rtpPacketNumber := 0
  offsetLower := 0
  dataLengthLower :=
    if frame.data.length > 0xFFFF then 0xFFFF else UInt16.ofNat frame.data.length

/-- `piece`: what fits into a packet. -/
def pieceSize : Nat := maxCryptoDataSize - (rtpHeaderSize + 1)

def rtpPacket (header : RTPHeader) (sent : Nat) (piece : Bytes) : Bytes :=
  session.payloadType ::
    (rtpHeaderPack
      { header with
        rtpPacketNumber := session.rtpPacketNum
        offsetLower := UInt16.ofNat sent
        offsetFull := UInt32.ofNat sent } ++ piece)

/-- The loop of `rtp_send_data` over the pieces, at most `fuel` of them, and the remaining piece. -/
def sendPieces (header : RTPHeader) : (fuel : Nat) → (sent : Nat) → (rest : Bytes) → RTPSession →
    List Bytes × RTPSession
  | 0, _, _, session => ([], session)
  | fuel + 1, sent, rest, session =>
    if rest.length + rtpHeaderSize + 1 > maxCryptoDataSize then
      let packet := session.rtpPacket header sent (rest.take pieceSize)
      let (packets, session) := sendPieces header fuel (sent + pieceSize) (rest.drop pieceSize)
        { session with rtpPacketNum := session.rtpPacketNum + 1 }
      (packet :: packets, session)
    else if rest.length ≠ 0 then
      ([session.rtpPacket header sent rest], { session with rtpPacketNum := session.rtpPacketNum + 1 })
    else ([], session)

def rtpSendData (frame : RtpFrame) : List Bytes × RTPSession :=
  let header := session.frameHeader frame
  let (packets, session) :=
    if maxCryptoDataSize > frame.data.length + rtpHeaderSize + 1 then
      ([session.rtpPacket header 0 frame.data], { session with rtpPacketNum := session.rtpPacketNum + 1 })
    else sendPieces header (frame.data.length + 1) 0 frame.data session
  (packets, { session with sequnum := session.sequnum + 1 })

end RTPSession

end Toxcore

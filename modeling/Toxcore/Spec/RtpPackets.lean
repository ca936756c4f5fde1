import Toxcore.ForStd.Chunks
import Toxcore.Native.Rtp

/-!
# The packets of a frame

`rtp_send_data` cuts a frame into pieces and puts the same header before each, but for the offset and the
number of the packet.
-/

namespace Toxcore

open List

/-! ## Headers -/

theorem toBitVec_byteOfBits (bits : BitVec 8) : (byteOfBits bits).toBitVec = bits := rfl

theorem extractLsb'_versionByte (ve : BitVec 2) (pe xe : BitVec 1) (cc : BitVec 4) :
    (ve ++ pe ++ xe ++ cc).extractLsb' 6 2 = ve ∧ (ve ++ pe ++ xe ++ cc).extractLsb' 5 1 = pe ∧
      (ve ++ pe ++ xe ++ cc).extractLsb' 4 1 = xe ∧ (ve ++ pe ++ xe ++ cc).extractLsb' 0 4 = cc := by
  revert ve pe xe cc
  decide

theorem extractLsb'_payloadByte (ma : BitVec 1) (pt : BitVec 7) :
    (ma ++ pt).extractLsb' 7 1 = ma ∧ (ma ++ pt).extractLsb' 0 7 = pt := by
  revert ma pt
  decide

section

variable (rest : Bytes) {n : Nat}

theorem drop_netPackU16_append (num : UInt16) (hn : 2 ≤ n) :
    (netPackU16 num ++ rest).drop n = rest.drop (n - 2) := by
  rw [drop_append, length_netPackU16, drop_of_length_le (by rw [length_netPackU16]; exact hn), nil_append]

theorem drop_netPackU32_append (num : UInt32) (hn : 4 ≤ n) :
    (netPackU32 num ++ rest).drop n = rest.drop (n - 4) := by
  rw [drop_append, length_netPackU32, drop_of_length_le (by rw [length_netPackU32]; exact hn), nil_append]

theorem drop_netPackU64_append (num : UInt64) (hn : 8 ≤ n) :
    (netPackU64 num ++ rest).drop n = rest.drop (n - 8) := by
  rw [drop_append, length_netPackU64, drop_of_length_le (by rw [length_netPackU64]; exact hn), nil_append]

theorem drop_replicate_append (m : Nat) (byte : UInt8) (hn : m ≤ n) :
    (List.replicate m byte ++ rest).drop n = rest.drop (n - m) := by
  rw [drop_append, length_replicate, drop_of_length_le (by rw [length_replicate]; exact hn), nil_append]

end

theorem length_rtpHeaderPack (header : RTPHeader) : (rtpHeaderPack header).length = rtpHeaderSize := by
  unfold rtpHeaderPack rtpPaddingFields
  simp only [length_cons, length_append, length_netPackU16, length_netPackU32,
    length_netPackU64, length_replicate]
  rfl

theorem rtpHeaderUnpack_rtpHeaderPack_append (header : RTPHeader) (rest : Bytes) :
    rtpHeaderUnpack (rtpHeaderPack header ++ rest) = header := by
  obtain ⟨hve, hpe, hxe, hcc⟩ :=
    extractLsb'_versionByte header.ve header.pe header.xe header.cc
  obtain ⟨hma, hpt⟩ := extractLsb'_payloadByte header.ma header.pt
  unfold rtpHeaderUnpack rtpHeaderPack rtpPaddingFields
  simp (disch := decide) only [cons_append, append_assoc, getD_cons_zero,
    getD_cons_succ, drop_succ_cons, toBitVec_byteOfBits, drop_netPackU16_append,
    drop_netPackU32_append, drop_netPackU64_append, drop_replicate_append, Nat.reduceSub, Nat.reduceMul,
    Nat.reduceAdd, drop_zero, netUnpackU16_netPackU16_append, netUnpackU32_netPackU32_append,
    netUnpackU64_netPackU64_append, hve, hpe, hxe, hcc, hma, hpt]
  rfl

/-! ## Pieces -/

theorem pieceSize_pos : 0 < RTPSession.pieceSize := by decide

theorem chunkCount_of_lt {length : Nat} (h : RTPSession.pieceSize < length) :
    chunkCount RTPSession.pieceSize length =
      chunkCount RTPSession.pieceSize (length - RTPSession.pieceSize) + 1 := by
  have hsize : RTPSession.pieceSize = 1292 := rfl
  unfold chunkCount
  rw [hsize] at h ⊢
  omega

theorem chunkCount_of_le {length : Nat} (hpos : 0 < length) (h : length ≤ RTPSession.pieceSize) :
    chunkCount RTPSession.pieceSize length = 1 := by
  have hsize : RTPSession.pieceSize = 1292 := rfl
  unfold chunkCount
  rw [hsize] at h ⊢
  omega

namespace RTPSession

variable (session : RTPSession)

def piecePacket (header : RTPHeader) (data : Bytes) (k : Nat) : Bytes :=
  { session with rtpPacketNum := session.rtpPacketNum + UInt32.ofNat k }.rtpPacket header
    (pieceSize * k) (chunk pieceSize data k)

theorem sendPieces_eq (header : RTPHeader) (fuel sent : Nat) (rest : Bytes) (hfuel : rest.length < fuel) :
    (sendPieces header fuel sent rest session).1 =
        (List.range (chunkCount pieceSize rest.length)).map (fun k =>
          { session with rtpPacketNum := session.rtpPacketNum + UInt32.ofNat k }.rtpPacket header
            (sent + pieceSize * k) (chunk pieceSize rest k)) ∧
      ∃ rtpPacketNum, (sendPieces header fuel sent rest session).2 = { session with rtpPacketNum } := by
  have hsize : pieceSize = 1292 := rfl
  have hmax : maxCryptoDataSize = 1373 := rfl
  have hheader : rtpHeaderSize = 80 := rfl
  induction fuel generalizing sent rest session with
  | zero => exact absurd hfuel (Nat.not_lt_zero _)
  | succ fuel ih =>
    unfold sendPieces
    by_cases hlong : rest.length + rtpHeaderSize + 1 > maxCryptoDataSize
    · have hlt : pieceSize < rest.length := by omega
      have hdrop : (rest.drop pieceSize).length = rest.length - pieceSize := length_drop
      obtain ⟨hpackets, num, hsession⟩ := ih { session with rtpPacketNum := session.rtpPacketNum + 1 }
        (sent + pieceSize) (rest.drop pieceSize) (by omega)
      rw [if_pos hlong]
      dsimp only
      rw [hpackets, hsession, hdrop, chunkCount_of_lt hlt, range_succ_eq_map, map_cons, map_map]
      refine ⟨congrArg₂ List.cons ?_ ?_, num, rfl⟩
      · show rtpPacket session header sent (rest.take pieceSize) =
          rtpPacket { session with rtpPacketNum := session.rtpPacketNum + 0 } header (sent + pieceSize * 0)
            ((rest.drop (pieceSize * 0)).take pieceSize)
        rw [Nat.mul_zero, Nat.add_zero, drop_zero, UInt32.add_zero]
      · refine map_congr_left fun k _ => ?_
        have hnum : session.rtpPacketNum + 1 + UInt32.ofNat k =
            session.rtpPacketNum + UInt32.ofNat (k + 1) := by
          rw [UInt32.ofNat_add, UInt32.add_assoc, UInt32.add_comm 1]
          rfl
        have hsent : sent + pieceSize + pieceSize * k = sent + pieceSize * (k + 1) := by
          rw [Nat.mul_succ]
          omega
        have hchunk : chunk pieceSize (rest.drop pieceSize) k = chunk pieceSize rest (k + 1) := by
          rw [chunk, chunk, drop_drop, Nat.mul_succ, Nat.add_comm]
        show rtpPacket { session with rtpPacketNum := session.rtpPacketNum + 1 + UInt32.ofNat k } _ _ _ =
          rtpPacket { session with rtpPacketNum := session.rtpPacketNum + UInt32.ofNat (k + 1) } _ _ _
        rw [hnum, hsent, hchunk]
    · rw [if_neg hlong]
      by_cases hempty : rest.length ≠ 0
      · have hone := chunkCount_of_le (Nat.pos_of_ne_zero hempty) (by omega)
        rw [if_pos hempty, hone]
        refine ⟨?_, _, rfl⟩
        show [rtpPacket session header sent rest] =
          [rtpPacket { session with rtpPacketNum := session.rtpPacketNum + 0 } header
            (sent + pieceSize * 0) ((rest.drop (pieceSize * 0)).take pieceSize)]
        rw [Nat.mul_zero, Nat.add_zero, drop_zero, UInt32.add_zero, take_of_length_le (by omega)]
      · have hzero : rest.length = 0 := not_not.mp hempty
        rw [hzero]
        exact ⟨rfl, _, rfl⟩

theorem rtpSendData_eq (frame : RtpFrame) (hpos : 0 < frame.data.length) :
    (session.rtpSendData frame).1 =
        (List.range (chunkCount pieceSize frame.data.length)).map
          (session.piecePacket (session.frameHeader frame) frame.data) ∧
      ∃ rtpPacketNum, (session.rtpSendData frame).2 =
        { session with rtpPacketNum, sequnum := session.sequnum + 1 } := by
  have hsize : pieceSize = 1292 := rfl
  have hmax : maxCryptoDataSize = 1373 := rfl
  have hheader : rtpHeaderSize = 80 := rfl
  unfold rtpSendData
  dsimp only
  by_cases hshort : maxCryptoDataSize > frame.data.length + rtpHeaderSize + 1
  · have hone := chunkCount_of_le hpos (by omega)
    rw [if_pos hshort, hone]
    refine ⟨?_, _, rfl⟩
    show [rtpPacket session _ 0 frame.data] =
      [rtpPacket { session with rtpPacketNum := session.rtpPacketNum + 0 } _
        (pieceSize * 0) ((frame.data.drop (pieceSize * 0)).take pieceSize)]
    rw [Nat.mul_zero, drop_zero, UInt32.add_zero, take_of_length_le (by omega)]
  · rw [if_neg hshort]
    obtain ⟨hpackets, num, hsession⟩ := session.sendPieces_eq (session.frameHeader frame)
      (frame.data.length + 1) 0 frame.data (Nat.lt_succ_self _)
    rw [hpackets, hsession]
    refine ⟨map_congr_left fun k _ => ?_, num, rfl⟩
    rw [Nat.zero_add]
    rfl

def sendFrames (session : RTPSession) : List RtpFrame → List (List Bytes)
  | [] => []
  | frame :: frames =>
    (session.rtpSendData frame).1 :: sendFrames (session.rtpSendData frame).2 frames

theorem getElem?_sendFrames {frames : List RtpFrame} (hpos : ∀ frame ∈ frames, 0 < frame.data.length)
    {i : Nat} {frame : RtpFrame} (hget : frames[i]? = some frame) :
    ∃ sender : RTPSession, sender.payloadType = session.payloadType ∧
      sender.sequnum = session.sequnum + UInt16.ofNat i ∧
      (session.sendFrames frames)[i]? = some
        ((List.range (chunkCount pieceSize frame.data.length)).map
          (sender.piecePacket (sender.frameHeader frame) frame.data)) := by
  induction frames generalizing session i with
  | nil => exact nomatch hget
  | cons first frames ih =>
    obtain ⟨hpackets, num, hsession⟩ := session.rtpSendData_eq first (hpos _ mem_cons_self)
    cases i with
    | zero =>
      cases hget
      refine ⟨session, rfl, (UInt16.add_zero _).symm, ?_⟩
      rw [sendFrames, hpackets]
      rfl
    | succ i =>
      obtain ⟨sender, htype, hseq, hsent⟩ := ih (session.rtpSendData first).2
        (fun frame hframe => hpos frame (mem_cons_of_mem _ hframe)) hget
      refine ⟨sender, ?_, ?_, hsent⟩
      · rw [htype, hsession]
      · rw [hseq, hsession, UInt16.ofNat_add, UInt16.add_assoc, UInt16.add_comm 1]
        rfl

theorem length_sendFrames (frames : List RtpFrame) : (session.sendFrames frames).length = frames.length := by
  induction frames generalizing session with
  | nil => rfl
  | cons frame frames ih => exact congrArg Nat.succ (ih _)

end RTPSession

/-! ## Video packets -/

/-- The header of packet `k` of frame `i` of a video session. -/
structure IsPiece (frame : RtpFrame) (i k : Nat) (header : RTPHeader) : Prop where
  pt : header.pt.toNat = rtpTypeVideo.toNat % 128
  flags : header.flags &&& rtpLargeFrame ≠ 0
  sequnum : header.sequnum = UInt16.ofNat i
  timestamp : header.timestamp = frame.frameRecordTimestamp.toUInt32
  dataLengthFull : header.dataLengthFull.toNat = frame.data.length
  offsetFull : header.offsetFull.toNat = RTPSession.pieceSize * k
  receivedLengthFull : header.receivedLengthFull = 0

theorem IsPiece.valid {frame : RtpFrame} {i k : Nat} {header : RTPHeader}
    (h : IsPiece frame i k header) (hk : RTPSession.pieceSize * k < frame.data.length) :
    ¬(header.dataLengthFull = 0 ∨ header.offsetFull ≥ header.dataLengthFull) := by
  have hlength := h.dataLengthFull
  have hoffset := h.offsetFull
  rintro (hzero | hle)
  · rw [hzero] at hlength
    exact absurd hlength (Nat.ne_of_lt (Nat.zero_lt_of_lt hk))
  · have hle' := UInt32.le_iff_toNat_le.mp hle
    omega

def VideoPacket (frame : RtpFrame) (i k : Nat) (packet : Bytes) : Prop :=
  ∃ header, IsPiece frame i k header ∧
    packet = rtpTypeVideo :: (rtpHeaderPack header ++ chunk RTPSession.pieceSize frame.data k)

theorem flags_largeFrame (frame : RtpFrame) : frame.flags true &&& rtpLargeFrame ≠ 0 := by
  unfold RtpFrame.flags
  cases frame.codecUsed <;> cases frame.videoFrameOrientationAngle <;> cases frame.isKeyframe <;> decide

/-- A frame that is not empty, and not longer than `2^31` bytes. -/
def RtpFrame.Sendable (frame : RtpFrame) : Prop :=
  1 ≤ frame.data.length ∧ frame.data.length ≤ 2 ^ 31

namespace RTPSession

theorem isPiece_piecePacket {sender : RTPSession} {frame : RtpFrame} {i k : Nat}
    (htype : sender.payloadType = rtpTypeVideo) (hseq : sender.sequnum = UInt16.ofNat i)
    (hframe : frame.Sendable) (hk : pieceSize * k < frame.data.length) :
    VideoPacket frame i k (sender.piecePacket (sender.frameHeader frame) frame.data k) := by
  obtain ⟨-, hmax⟩ := hframe
  have hsmall (n : Nat) (hn : n ≤ frame.data.length) : (UInt32.ofNat n).toNat = n := by
    refine UInt32.toNat_ofNat_of_lt' ?_
    have hpow : UInt32.size = 2 * 2 ^ 31 := rfl
    omega
  unfold piecePacket rtpPacket
  rw [htype]
  refine ⟨_, ⟨?_, ?_, hseq, rfl, hsmall _ le_rfl, hsmall _ (Nat.le_of_lt hk), rfl⟩, rfl⟩
  · show (BitVec.ofNat 7 (sender.payloadType.toNat % 128)).toNat = _
    rw [htype]
    rfl
  · show frame.flags (sender.payloadType == rtpTypeVideo) &&& _ ≠ 0
    rw [htype]
    exact flags_largeFrame frame

theorem videoPacket_of_getElem? (ssrc : UInt32) {frames : List RtpFrame}
    (hframes : ∀ frame ∈ frames, frame.Sendable) {i : Nat} {frame : RtpFrame}
    (hget : frames[i]? = some frame) :
    ∃ packets, ((rtpNew rtpTypeVideo ssrc).sendFrames frames)[i]? = some packets ∧
      packets.length = chunkCount pieceSize frame.data.length ∧
      ∀ k packet, packets[k]? = some packet →
        pieceSize * k < frame.data.length ∧ VideoPacket frame i k packet := by
  obtain ⟨sender, htype, hseq, hsent⟩ := (rtpNew rtpTypeVideo ssrc).getElem?_sendFrames
    (fun frame hframe => (hframes frame hframe).1) hget
  refine ⟨_, hsent, ?_, fun k packet hpacket => ?_⟩
  · rw [length_map, length_range]
  · rw [getElem?_map] at hpacket
    obtain ⟨k', hk', rfl⟩ := Option.map_eq_some_iff.mp hpacket
    obtain ⟨hlt, rfl⟩ := List.getElem?_eq_some_iff.mp hk'
    rw [getElem_range]
    rw [length_range] at hlt
    have hk := (lt_chunkCount_iff pieceSize_pos).mp hlt
    refine ⟨hk, isPiece_piecePacket htype ?_ (hframes frame (mem_of_getElem? hget)) hk⟩
    rw [hseq]
    exact UInt16.zero_add _

theorem handleRtpPacket_piece {session : RTPSession} (htype : session.payloadType = rtpTypeVideo)
    {frame : RtpFrame} {i k : Nat} {header : RTPHeader} (h : IsPiece frame i k header)
    (hk : pieceSize * k < frame.data.length) (calloc : Bool) :
    session.handleRtpPacket calloc (rtpTypeVideo :: (rtpHeaderPack header ++ chunk pieceSize frame.data k)) =
      session.handleVideoPacket header (chunk pieceSize frame.data k) calloc := by
  have hsize : pieceSize = 1292 := rfl
  have hlength := length_chunk pieceSize frame.data k
  unfold chunkSize at hlength
  have hunpack := rtpHeaderUnpack_rtpHeaderPack_append header (chunk pieceSize frame.data k)
  have hdrop : (rtpHeaderPack header ++ chunk pieceSize frame.data k).drop rtpHeaderSize =
      chunk pieceSize frame.data k := drop_left' (length_rtpHeaderPack header)
  have haccepts : session.acceptsHeader rtpTypeVideo header = true := by
    have hoffset : header.offsetFull < header.dataLengthFull := by
      rw [UInt32.lt_iff_toNat_lt, h.offsetFull, h.dataLengthFull]
      exact hk
    unfold acceptsHeader
    rw [htype, h.pt, decide_eq_true hoffset, bne_iff_ne.mpr h.flags]
    rfl
  unfold handleRtpPacket
  dsimp only
  rw [if_neg, hunpack, hdrop]
  · rw [haccepts, if_neg (by decide), if_pos ⟨h.flags, h.pt⟩, Nat.mod_eq_of_lt (by omega), take_length]
  · rw [htype, length_append, length_rtpHeaderPack]
    exact fun hor => hor.elim (fun hne => hne rfl) fun hlt => Nat.not_lt.mpr (Nat.le_add_right _ _) hlt

end RTPSession

end Toxcore

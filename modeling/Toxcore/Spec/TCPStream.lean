import Toxcore.ForStd.TransitionSystem
import Toxcore.Native.TCPCommon

/-!
# The secure stream stays in sync

A writer, the bytes on their way and a reader, driven by any calls with any results of `send` and any way of
arriving. What the writer has taken and the reader has not read is at every time the frames of the accepted
packets that have not been returned yet, under consecutive nonces.

A priority packet that could be queued neither on the socket nor in memory is reported as refused, but its nonce
is used up and a part of it may be on the wire. The stream is in sync as long as this does not happen.
-/

namespace Toxcore

open List

/-! ## Frames -/

section frames

variable (cipher : ByteCipher Nonce) (sharedKey : SharedKey)

def frame (nonce : Nonce) (data : Bytes) : Bytes :=
  netPackU16 (UInt16.ofNat (data.length + cryptoMacSize)) ++ cipher.afternm sharedKey nonce data

def frames (nonce : Nonce) : List Bytes → Bytes
  | [] => []
  | data :: rest => frame cipher sharedKey nonce data ++ frames (incrementNonce nonce) rest

def nonceAfter (nonce : Nonce) (n : Nat) : Nonce := nonce + BitVec.ofNat 192 n

theorem nonceAfter_zero (nonce : Nonce) : nonceAfter nonce 0 = nonce := by
  simp [nonceAfter]

theorem nonceAfter_succ (nonce : Nonce) (n : Nat) :
    nonceAfter nonce (n + 1) = nonceAfter (incrementNonce nonce) n := by
  rw [nonceAfter, nonceAfter, incrementNonce, BitVec.ofNat_add, BitVec.add_assoc,
    BitVec.add_comm (BitVec.ofNat 192 n)]
  rfl

theorem incrementNonce_nonceAfter (nonce : Nonce) (n : Nat) :
    incrementNonce (nonceAfter nonce n) = nonceAfter nonce (n + 1) := by
  rw [nonceAfter, nonceAfter, incrementNonce, BitVec.ofNat_add, BitVec.add_assoc]
  rfl

theorem frames_append (nonce : Nonce) (packets : List Bytes) (data : Bytes) :
    frames cipher sharedKey nonce (packets ++ [data]) = frames cipher sharedKey nonce packets ++
      frame cipher sharedKey (nonceAfter nonce packets.length) data := by
  induction packets generalizing nonce with
  | nil => simp [frames, nonceAfter_zero]
  | cons packet packets ih =>
    rw [cons_append, frames, ih, frames, append_assoc, length_cons, nonceAfter_succ]

end frames

/-! ## The writer -/

namespace TCPConnection

/-- The bytes that are encrypted and not yet taken by the socket, in their order. -/
def unsent (con : TCPConnection) : Bytes :=
  con.lastPacket.drop con.lastPacketSent ++ con.priorityQueue.flatMap fun p => p.data.drop p.sent

def stream (con : TCPConnection) : Bytes := con.sock.wire ++ con.unsent

/-- `con'` is `con` after the socket took some of the bytes that were waiting. -/
structure Flushes (con con' : TCPConnection) : Prop where
  sharedKey : con'.sharedKey = con.sharedKey
  sentNonce : con'.sentNonce = con.sentNonce
  bytes : ∃ sent, con'.sock.wire = con.sock.wire ++ sent ∧ con.unsent = sent ++ con'.unsent

theorem Flushes.refl (con : TCPConnection) : con.Flushes con :=
  ⟨rfl, rfl, [], by simp⟩

variable {con : TCPConnection}

theorem Flushes.trans {con1 con2 : TCPConnection} (h1 : con.Flushes con1) (h2 : con1.Flushes con2)
    : con.Flushes con2 := by
  obtain ⟨sent1, hwire1, hunsent1⟩ := h1.bytes
  obtain ⟨sent2, hwire2, hunsent2⟩ := h2.bytes
  refine ⟨h2.sharedKey.trans h1.sharedKey, h2.sentNonce.trans h1.sentNonce, sent1 ++ sent2, ?_, ?_⟩
  · rw [hwire2, hwire1, append_assoc]
  · rw [hunsent1, hunsent2, append_assoc]

variable {con' : TCPConnection}

theorem Flushes.stream (h : con.Flushes con') :
    con'.stream = con.stream := by
  obtain ⟨sent, hwire, hunsent⟩ := h.bytes
  rw [TCPConnection.stream, TCPConnection.stream, hwire, hunsent, append_assoc]

variable {sock sock' : Sock}

theorem netSend_spec {buf : Bytes} {len : Int} (h : sock.netSend buf = (len, sock')) :
    len ≤ buf.length ∧ sock'.wire = sock.wire ++ buf.take len.toNat := by
  cases h
  exact ⟨by omega, rfl⟩

theorem netSend_of_le {buf : Bytes} {len : Int} (h : sock.netSend buf = (len, sock'))
    (hle : (buf.length : Int) ≤ sock.results.headD (-1)) :
    len = buf.length := by
  cases h
  omega

theorem sendPendingDataNonpriority_spec {done : Bool} (h : con.sendPendingDataNonpriority = (done, con')) :
    con.Flushes con' ∧ con'.priorityQueue = con.priorityQueue ∧
      (done = true → con'.lastPacket.drop con'.lastPacketSent = []) := by
  unfold sendPendingDataNonpriority at h
  by_cases hnone : con.lastPacket.length = 0
  · rw [if_pos hnone] at h
    cases h
    refine ⟨.refl con, rfl, fun _ => ?_⟩
    rw [eq_nil_of_length_eq_zero hnone, drop_nil]
  rw [if_neg hnone] at h
  generalize hsend : con.sock.netSend (con.lastPacket.drop con.lastPacketSent) = result at h
  obtain ⟨len, sock⟩ := result
  obtain ⟨hle, hwire⟩ := netSend_spec hsend
  dsimp only at h
  by_cases hneg : len ≤ 0
  · -- nothing was taken
    rw [if_pos hneg] at h
    cases h
    refine ⟨⟨rfl, rfl, [], ?_, rfl⟩, rfl, fun h => nomatch h⟩
    rw [hwire, Int.toNat_of_nonpos hneg, take_zero]
  rw [if_neg hneg] at h
  by_cases hall : len = ↑(con.lastPacket.length - con.lastPacketSent)
  · rw [if_pos hall] at h
    cases h
    refine ⟨⟨rfl, rfl, _, hwire, ?_⟩, rfl, fun _ => rfl⟩
    rw [unsent, unsent, drop_nil, nil_append, take_of_length_le]
    rw [length_drop]
    omega
  · rw [if_neg hall] at h
    cases h
    refine ⟨⟨rfl, rfl, _, hwire, ?_⟩, rfl, fun h => nomatch h⟩
    rw [unsent, unsent, ← append_assoc, ← drop_drop, take_append_drop]

theorem sendPriorityLoop_spec {queue queue' : List TCPPriorityList} (h : sendPriorityLoop sock queue = (sock', queue'))
    :
    ∃ sent, sock'.wire = sock.wire ++ sent ∧
      queue.flatMap (fun p => p.data.drop p.sent) =
        sent ++ queue'.flatMap (fun p => p.data.drop p.sent) := by
  induction queue generalizing sock with
  | nil =>
    cases h
    exact ⟨[], by simp⟩
  | cons p rest ih =>
    unfold sendPriorityLoop at h
    generalize hsend : sock.netSend (p.data.drop p.sent) = result at h
    obtain ⟨len, sock1⟩ := result
    obtain ⟨hle, hwire⟩ := netSend_spec hsend
    dsimp only at h
    by_cases hall : len = ↑(p.data.length - p.sent)
    · -- the whole entry was taken and the loop goes on
      rw [if_neg (not_not.mpr hall)] at h
      obtain ⟨sent, hsent, hqueue⟩ := ih h
      refine ⟨p.data.drop p.sent ++ sent, ?_, ?_⟩
      · rw [hsent, hwire, take_of_length_le, append_assoc]
        rw [length_drop]
        omega
      · rw [flatMap_cons, hqueue, append_assoc]
    · rw [if_pos hall] at h
      cases h
      refine ⟨_, hwire, ?_⟩
      rw [flatMap_cons, flatMap_cons, ← append_assoc]
      congr 1
      by_cases hpos : len > 0
      · rw [if_pos hpos, ← drop_drop, take_append_drop]
      · rw [if_neg hpos, Int.toNat_of_nonpos (by omega), take_zero, nil_append]

theorem sendPendingData_spec {done : Bool} (h : con.sendPendingData = (done, con')) :
    con.Flushes con' ∧ (done = true → con'.unsent = []) := by
  unfold sendPendingData at h
  generalize hlast : con.sendPendingDataNonpriority = result at h
  obtain ⟨lastDone, con1⟩ := result
  obtain ⟨hflush, hqueue, hdone⟩ := sendPendingDataNonpriority_spec hlast
  dsimp only at h
  cases lastDone with
  | false =>
    cases h
    exact ⟨hflush, fun h => nomatch h⟩
  | true =>
    generalize hloop : sendPriorityLoop con1.sock con1.priorityQueue = result at h
    obtain ⟨sent, hwire, hsent⟩ := sendPriorityLoop_spec hloop
    cases h
    refine ⟨hflush.trans ⟨rfl, rfl, sent, hwire, ?_⟩, fun hempty => ?_⟩
    · rw [unsent, unsent, hdone rfl, hsent]
      rfl
    · rw [unsent, List.isEmpty_iff.mp hempty, hdone rfl]
      rfl

/-- The socket takes all that is waiting and then `size` bytes more. -/
def TakesAtOnce (con : TCPConnection) (size : Nat) : Prop :=
  con.sendPendingData.1 = true ∧ (size : Int) ≤ con.sendPendingData.2.sock.results.headD (-1)

instance (con : TCPConnection) (size : Nat) : Decidable (con.TakesAtOnce size) :=
  inferInstanceAs (Decidable (_ ∧ _))

def CarefulWrite (con : TCPConnection) (allocated : Bool) (data : Bytes) (priority : Bool) : Prop :=
  priority = true → allocated = true ∨ con.TakesAtOnce (2 + (data.length + cryptoMacSize))

instance (con : TCPConnection) (allocated : Bool) (data : Bytes) (priority : Bool) :
    Decidable (con.CarefulWrite allocated data priority) :=
  inferInstanceAs (Decidable (_ → _))

structure Accepts (cipher : ByteCipher Nonce) (con con' : TCPConnection) (data : Bytes) : Prop where
  ne_nil : data ≠ []
  length_le : data.length + cryptoMacSize ≤ maxPacketSize
  sharedKey : con'.sharedKey = con.sharedKey
  sentNonce : con'.sentNonce = incrementNonce con.sentNonce
  stream : con'.stream = con.stream ++ frame cipher con.sharedKey con.sentNonce data

theorem length_frame (cipher : ByteCipher Nonce) (sharedKey : SharedKey) (nonce : Nonce) (data : Bytes) :
    (frame cipher sharedKey nonce data).length = 2 + (data.length + cryptoMacSize) := by
  rw [frame, length_append, cipher.length_afternm, netPackU16, length_reverse, length_toLittleEndian]

theorem stream_queue (con : TCPConnection) (packet : Bytes) (sent : Nat) :
    stream { con with priorityQueue := con.priorityQueue ++ [⟨packet, sent⟩] } =
      con.stream ++ packet.drop sent := by
  simp [stream, unsent]

theorem writePacket_cases {cipher : ByteCipher Nonce} {cryptoMalloc allocated : Bool} {data : Bytes} {priority : Bool}
    {result : Int} (h : con.writePacketTCPSecureConnection cipher cryptoMalloc allocated data priority = (result, con'))
    :
    result = -1 ∨ (result = 1 ∧ Accepts cipher con con' data) ∨
      (result = 0 ∧ con.Flushes con') ∨
      (result = 0 ∧ ¬con.CarefulWrite allocated data priority ∧
        con'.sentNonce = incrementNonce con.sentNonce) := by
  unfold writePacketTCPSecureConnection at h
  by_cases hlong : data.length + cryptoMacSize > maxPacketSize
  · rw [if_pos hlong] at h
    exact .inl (Prod.mk.inj h).1.symm
  rw [if_neg hlong] at h
  generalize hpending : con.sendPendingData = pending at h
  obtain ⟨sendpriority, con1⟩ := pending
  obtain ⟨hflush, hempty⟩ := sendPendingData_spec hpending
  dsimp only at h
  by_cases hwait : (!sendpriority && !priority) = true
  · rw [if_pos hwait] at h
    cases h
    exact .inr (.inr (.inl ⟨rfl, hflush⟩))
  rw [if_neg hwait] at h
  generalize hencrypt : (if cryptoMalloc = true then
    cipher.encryptDataSymmetric con1.sharedKey con1.sentNonce data else none) = encrypted at h
  cases encrypted with
  | none => exact .inl (Prod.mk.inj h).1.symm
  | some encrypted =>
    have hdata : data ≠ [] ∧ encrypted = cipher.afternm con1.sharedKey con1.sentNonce data := by
      cases cryptoMalloc with
      | false => exact nomatch hencrypt
      | true => exact ByteCipher.encryptDataSymmetric_eq_some hencrypt
    obtain ⟨hne, rfl⟩ := hdata
    rw [hflush.sharedKey, hflush.sentNonce] at h
    have hpacket : netPackU16 (UInt16.ofNat (data.length + cryptoMacSize)) ++
        cipher.afternm con.sharedKey con.sentNonce data =
          frame cipher con.sharedKey con.sentNonce data := rfl
    dsimp only at h
    rw [hpacket] at h
    have hlen := length_frame cipher con.sharedKey con.sentNonce data
    have haccepts : ∀ con2 : TCPConnection, con2.sharedKey = con.sharedKey →
        con2.sentNonce = incrementNonce con.sentNonce →
        con2.stream = con1.stream ++ frame cipher con.sharedKey con.sentNonce data →
        Accepts cipher con con2 data := fun con2 hkey hnonce hstream =>
      ⟨hne, by omega, hkey, hnonce, by rw [hstream, hflush.stream]⟩
    generalize frame cipher con.sharedKey con.sentNonce data = packet at h hlen haccepts
    cases priority with
    | true =>
      -- a priority packet goes out as far as the socket takes it, the rest is queued
      generalize hsend : (if sendpriority = true then con1.sock.netSend packet
        else (0, con1.sock)) = sent at h
      obtain ⟨len, sock⟩ := sent
      have hsock : len ≤ packet.length ∧
          sock.wire ++ con1.unsent = con1.stream ++ packet.take len.toNat := by
        cases sendpriority with
        | false =>
          cases hsend
          exact ⟨by omega, by simp [TCPConnection.stream]⟩
        | true =>
          obtain ⟨hle, hwire⟩ := netSend_spec hsend
          exact ⟨hle, by simp [TCPConnection.stream, hempty rfl, hwire]⟩
      obtain ⟨hle, hwire⟩ := hsock
      have htoNat : (if len ≤ 0 then 0 else len).toNat = len.toNat := by
        split <;> omega
      by_cases hall : (if len ≤ 0 then 0 else len) = (packet.length : Int)
      · rw [if_pos hall] at h
        cases h
        refine .inr (.inl ⟨rfl, haccepts _ rfl rfl (hwire.trans ?_)⟩)
        rw [← htoNat, hall, Int.toNat_natCast, take_length]
      · rw [if_neg hall] at h
        cases allocated with
        | true =>
          cases h
          refine .inr (.inl ⟨rfl, haccepts _ rfl rfl ?_⟩)
          refine (stream_queue _ packet _).trans ?_
          rw [htoNat]
          show (sock.wire ++ con1.unsent) ++ packet.drop len.toNat = _
          rw [hwire, append_assoc, take_append_drop]
        | false =>
          cases h
          refine .inr (.inr (.inr ⟨rfl, fun hcareful => ?_, rfl⟩))
          obtain h | ⟨hdone, hroom⟩ := hcareful rfl
          · cases h
          · rw [hpending] at hdone hroom
            obtain rfl : sendpriority = true := hdone
            have hlen' := netSend_of_le hsend (by rw [hlen]; exact hroom)
            rw [hlen', if_neg (by omega)] at hall
            exact hall rfl
    | false =>
      have hdone : sendpriority = true := by
        cases sendpriority with
        | false => exact absurd rfl hwait
        | true => rfl
      have hunsent := hempty hdone
      generalize hsend : con1.sock.netSend packet = sent at h
      obtain ⟨len, sock⟩ := sent
      obtain ⟨hle, hwire⟩ := netSend_spec hsend
      by_cases hneg : len ≤ 0
      · rw [if_pos hneg] at h
        cases h
        refine .inr (.inr (.inl ⟨rfl, hflush.trans ⟨hflush.sharedKey.symm, hflush.sentNonce.symm, [],
          ?_, rfl⟩⟩))
        rw [hwire, Int.toNat_of_nonpos hneg, take_zero]
      rw [if_neg hneg] at h
      by_cases hall : len = (packet.length : Int)
      · rw [if_pos hall] at h
        cases h
        refine .inr (.inl ⟨rfl, haccepts _ rfl rfl ?_⟩)
        show sock.wire ++ con1.unsent = _
        rw [hunsent, TCPConnection.stream, hunsent, hwire, hall, Int.toNat_natCast,
          take_length, append_nil, append_nil]
      · rw [if_neg hall] at h
        cases h
        refine .inr (.inl ⟨rfl, haccepts _ rfl rfl ?_⟩)
        have hqueue : (con1.priorityQueue.flatMap fun p => p.data.drop p.sent) = [] :=
          (append_eq_nil_iff.mp hunsent).2
        show sock.wire ++ (packet.drop len.toNat ++ con1.priorityQueue.flatMap _) = _
        rw [hqueue, TCPConnection.stream, hunsent, hwire, append_nil, append_nil,
          append_assoc, take_append_drop]

end TCPConnection

/-! ## The reader -/

/-- What is still to read: the packets `rest`, of which the first length may have been read. -/
def TCPReader.Expects (cipher : ByteCipher Nonce) (reader : TCPReader) (behind : Bytes)
    (rest : List Bytes) : Prop :=
  (reader.nextPacketLength = 0 ∧ reader.buffer ++ behind =
      frames cipher reader.sharedKey reader.recvNonce rest) ∨
  ∃ data packets, rest = data :: packets ∧
    reader.nextPacketLength = data.length + cryptoMacSize ∧
    reader.buffer ++ behind = cipher.afternm reader.sharedKey reader.recvNonce data ++
      frames cipher reader.sharedKey (incrementNonce reader.recvNonce) packets

theorem TCPReader.Expects.eq_nil {cipher : ByteCipher Nonce} {reader : TCPReader} {behind : Bytes}
    {rest : List Bytes} (h : reader.Expects cipher behind rest) (hbuffer : reader.buffer = [])
    (hbehind : behind = []) : rest = [] := by
  obtain ⟨-, hbytes⟩ | ⟨data, packets, rfl, -, hbytes⟩ := h
  · cases rest with
    | nil => rfl
    | cons data packets =>
      have hlen := congrArg List.length hbytes
      rw [hbuffer, hbehind, frames, length_append, length_append,
        TCPConnection.length_frame, length_nil] at hlen
      omega
  · have hlen := congrArg List.length hbytes
    rw [hbuffer, hbehind, length_append, length_append, cipher.length_afternm, length_nil] at hlen
    simp only [cryptoMacSize] at hlen
    omega

def Writable (data : Bytes) : Prop := data ≠ [] ∧ data.length + cryptoMacSize ≤ maxPacketSize

namespace TCPReader

variable {cipher : ByteCipher Nonce} {reader reader' : TCPReader} {cryptoMalloc : Bool} {maxLen : Nat} {result : Int}
  {out behind : Bytes}

section

variable {data : Bytes} {packets : List Bytes} (hnext : reader.nextPacketLength = data.length + cryptoMacSize)
  (hbytes : reader.buffer ++ behind = cipher.afternm reader.sharedKey reader.recvNonce data ++
    frames cipher reader.sharedKey (incrementNonce reader.recvNonce) packets)
  (h : reader.readPacketBody cipher cryptoMalloc maxLen = (result, out, reader'))

include hnext hbytes h

theorem readPacketBody_cases (hdata : Writable data) :
    (result = -1 ∧ (cryptoMalloc = false ∨ maxLen + cryptoMacSize < maxPacketSize)) ∨
      (result = 0 ∧ reader' = reader ∧ reader.buffer.length < data.length + cryptoMacSize) ∨
      (result = data.length ∧ out = data ∧ reader'.sharedKey = reader.sharedKey ∧
        reader'.recvNonce = incrementNonce reader.recvNonce ∧
        reader'.Expects cipher behind packets) := by
  obtain ⟨hne, hle⟩ := hdata
  unfold readPacketBody at h
  by_cases hmax : maxLen + cryptoMacSize < reader.nextPacketLength
  · rw [if_pos hmax] at h
    exact .inl ⟨(Prod.mk.inj h).1.symm, .inr (by omega)⟩
  rw [if_neg hmax] at h
  by_cases hshort : netSocketDataRecvBuffer reader.buffer < reader.nextPacketLength
  · rw [readTCPPacket, if_pos hshort] at h
    obtain ⟨rfl, hout⟩ := Prod.mk.inj h
    cases hout
    have hbuf : reader.buffer.length < data.length + cryptoMacSize := by
      unfold netSocketDataRecvBuffer at hshort
      unfold maxPacketSize at hle
      omega
    exact .inr (.inl ⟨rfl, rfl, hbuf⟩)
  rw [readTCPPacket, if_neg hshort] at h
  have hlen := cipher.length_afternm reader.sharedKey reader.recvNonce data
  have hbuf : reader.nextPacketLength ≤ reader.buffer.length := by
    unfold netSocketDataRecvBuffer at hshort
    omega
  -- the packet is whole in the buffer
  have htake : reader.buffer.take reader.nextPacketLength =
      cipher.afternm reader.sharedKey reader.recvNonce data := by
    have h := congrArg (List.take reader.nextPacketLength) hbytes
    rwa [take_append_of_le_length hbuf, take_left' (by rw [hlen, hnext])] at h
  have hdrop : reader.buffer.drop reader.nextPacketLength ++ behind =
      frames cipher reader.sharedKey (incrementNonce reader.recvNonce) packets := by
    have h := congrArg (List.drop reader.nextPacketLength) hbytes
    rwa [drop_append_of_le_length hbuf, drop_left' (by rw [hlen, hnext])] at h
  dsimp only at h
  rw [htake] at h
  cases cryptoMalloc with
  | false =>
    refine .inl ⟨?_, .inl rfl⟩
    rw [if_neg Bool.false_ne_true, if_pos (by rw [hlen]; simp only [cryptoMacSize]; omega)] at h
    exact (Prod.mk.inj h).1.symm
  | true =>
    rw [if_pos rfl, ByteCipher.decryptDataSymmetric_afternm hne] at h
    dsimp only at h
    rw [if_neg (by rw [hlen]; omega)] at h
    obtain ⟨rfl, hout⟩ := Prod.mk.inj h
    cases hout
    exact .inr (.inr ⟨rfl, rfl, rfl, rfl, .inl ⟨rfl, hdrop⟩⟩)

theorem readPacket_of_body (hrest : ∀ packet ∈ data :: packets, Writable packet) :
    (result = -1 ∧ (cryptoMalloc = false ∨ maxLen + cryptoMacSize < maxPacketSize)) ∨
      (result = 0 ∧ reader'.sharedKey = reader.sharedKey ∧ reader'.recvNonce = reader.recvNonce ∧
        reader'.Expects cipher behind (data :: packets) ∧ (behind = [] → data :: packets = [])) ∨
      ∃ first others, data :: packets = first :: others ∧ result = first.length ∧ out = first ∧
        reader'.sharedKey = reader.sharedKey ∧
        reader'.recvNonce = incrementNonce reader.recvNonce ∧
        reader'.Expects cipher behind others := by
  obtain hfail | ⟨hresult, rfl, hshort⟩ | ⟨hresult, hout, hreturns⟩ :=
    readPacketBody_cases hnext hbytes h (hrest data mem_cons_self)
  · exact .inl hfail
  · refine .inr (.inl ⟨hresult, rfl, rfl, .inr ⟨data, packets, rfl, hnext, hbytes⟩, ?_⟩)
    -- a packet whose bytes have all arrived is returned
    intro hbehind
    rw [hbehind, append_nil] at hbytes
    have hlen := congrArg List.length hbytes
    rw [length_append, cipher.length_afternm] at hlen
    omega
  · exact .inr (.inr ⟨data, packets, rfl, hresult, hout, hreturns⟩)

end

theorem readTCPLength_frames {sharedKey : SharedKey} {nonce : Nonce} {buffer : Bytes} {rest : List Bytes}
    (hrest : ∀ data ∈ rest, Writable data) (hbytes : buffer ++ behind = frames cipher sharedKey nonce rest) :
    (buffer.length < 2 ∧ readTCPLength buffer = (0, buffer)) ∨
      ∃ data packets length, rest = data :: packets ∧ length ≠ 0 ∧ length ≠ 65535 ∧
        length.toNat = data.length + cryptoMacSize ∧
        readTCPLength buffer = (length, buffer.drop 2) ∧
        buffer.drop 2 ++ behind = cipher.afternm sharedKey nonce data ++
          frames cipher sharedKey (incrementNonce nonce) packets := by
  by_cases hshort : 2 ≤ netSocketDataRecvBuffer buffer
  · have hbuf : 2 ≤ buffer.length := by
      unfold netSocketDataRecvBuffer at hshort
      omega
    cases rest with
    | nil =>
      have h := congrArg List.length hbytes
      rw [length_append, frames, length_nil] at h
      omega
    | cons data packets =>
      obtain ⟨hne, hle⟩ := hrest data mem_cons_self
      rw [frames, frame] at hbytes
      generalize hlength : UInt16.ofNat (data.length + cryptoMacSize) = length at hbytes
      have htoNat : length.toNat = data.length + cryptoMacSize := by
        rw [← hlength, UInt16.toNat_ofNat']
        unfold maxPacketSize at hle
        omega
      have htwo : (netPackU16 length).length = 2 := by
        rw [netPackU16, length_reverse, length_toLittleEndian]
      have hhead : netUnpackU16 buffer = length := by
        have htake : buffer.take 2 = netPackU16 length := by
          have h := congrArg (List.take 2) hbytes
          rwa [take_append_of_le_length hbuf] at h
        rw [← netUnpackU16_netPackU16_append length (buffer.drop 2), ← htake, take_append_drop]
      have hdrop : buffer.drop 2 ++ behind = cipher.afternm sharedKey nonce data ++
          frames cipher sharedKey (incrementNonce nonce) packets := by
        have h := congrArg (List.drop 2) hbytes
        rwa [drop_append_of_le_length hbuf] at h
      refine .inr ⟨data, packets, length, rfl, ?_, ?_, htoNat, ?_, hdrop⟩
      · rintro rfl
        simp [cryptoMacSize] at htoNat
      · rintro rfl
        unfold maxPacketSize at hle
        have hmax : (65535 : UInt16).toNat = 65535 := rfl
        omega
      · rw [readTCPLength, if_pos hshort]
        dsimp only
        rw [hhead, if_neg (by omega)]
  · refine .inl ⟨?_, ?_⟩
    · unfold netSocketDataRecvBuffer at hshort
      omega
    · rw [readTCPLength, if_neg hshort]

theorem readPacket_cases {rest : List Bytes} (hrest : ∀ data ∈ rest, Writable data)
    (hexpects : reader.Expects cipher behind rest)
    (h : reader.readPacketTCPSecureConnection cipher cryptoMalloc maxLen = (result, out, reader')) :
    (result = -1 ∧ (cryptoMalloc = false ∨ maxLen + cryptoMacSize < maxPacketSize)) ∨
      (result = 0 ∧ reader'.sharedKey = reader.sharedKey ∧ reader'.recvNonce = reader.recvNonce ∧
        reader'.Expects cipher behind rest ∧ (behind = [] → rest = [])) ∨
      ∃ data packets, rest = data :: packets ∧ result = data.length ∧ out = data ∧
        reader'.sharedKey = reader.sharedKey ∧
        reader'.recvNonce = incrementNonce reader.recvNonce ∧
        reader'.Expects cipher behind packets := by
  unfold readPacketTCPSecureConnection at h
  obtain ⟨hnext, hbytes⟩ | ⟨data, packets, rfl, hnext, hbytes⟩ := hexpects
  · rw [if_pos hnext] at h
    obtain ⟨hshort, hlength⟩ | ⟨data, packets, length, rfl, hzero, hmax, htoNat, hlength, hdrop⟩ :=
      readTCPLength_frames hrest hbytes
    · -- not even the length has arrived
      rw [hlength] at h
      obtain ⟨rfl, hout⟩ := Prod.mk.inj h
      cases hout
      refine .inr (.inl ⟨rfl, rfl, rfl, .inl ⟨hnext, hbytes⟩, fun hbehind => ?_⟩)
      rw [hbehind, append_nil] at hbytes
      cases rest with
      | nil => rfl
      | cons data packets =>
        have hlen := congrArg List.length hbytes
        rw [frames, length_append, TCPConnection.length_frame] at hlen
        omega
    · rw [hlength] at h
      dsimp only at h
      rw [if_neg hmax, if_neg hzero] at h
      have hbody := readPacket_of_body (by exact htoNat) (by exact hdrop) h hrest
      exact hbody
  · rw [if_neg (by rw [hnext]; simp [cryptoMacSize])] at h
    exact readPacket_of_body hnext hbytes h hrest

end TCPReader

/-! ## The system -/

/-- A writer and a reader of its stream, with the packets that were accepted and returned. -/
structure TCPStream where
  writer : TCPConnection
  reader : TCPReader
  accepted : List Bytes
  returned : List Bytes

/-- The writer's calls come with the results of `send`, and all calls with those of allocations. -/
inductive TCPStreamAct where
  | write (results : List Int) (cryptoMalloc allocated : Bool) (data : Bytes) (priority : Bool)
  | sendPending (results : List Int)
  | arrive (n : Nat)
  | read (cryptoMalloc : Bool) (maxLen : Nat)

namespace TCPStream

/-- The writer before a call during which `send` returns `results`. -/
def offer (s : TCPStream) (results : List Int) : TCPConnection :=
  { s.writer with sock := { s.writer.sock with results } }

/-- One action; `none` if a call returns `-1`, after which the connection is killed. -/
def step (cipher : ByteCipher Nonce) (s : TCPStream) : TCPStreamAct → Option TCPStream
  | .write results cryptoMalloc allocated data priority =>
    let (result, writer) := (s.offer results).writePacketTCPSecureConnection cipher cryptoMalloc
      allocated data priority
    if result = -1 then none
    else some { s with
      writer
      accepted := if result = 1 then s.accepted ++ [data] else s.accepted }
  | .sendPending results => some { s with writer := (s.offer results).sendPendingData.2 }
  | .arrive n =>
    let sock := s.writer.sock
    some { s with
      writer := { s.writer with sock := { sock with wire := sock.wire.drop n } }
      reader := { s.reader with buffer := s.reader.buffer ++ sock.wire.take n } }
  | .read cryptoMalloc maxLen =>
    let (result, data, reader) := s.reader.readPacketTCPSecureConnection cipher cryptoMalloc maxLen
    if result = -1 then none
    else some { s with
      reader
      returned := if result > 0 then s.returned ++ [data] else s.returned }

def Starts (s : TCPStream) : Prop :=
  s.writer.sharedKey = s.reader.sharedKey ∧ s.writer.sentNonce = s.reader.recvNonce ∧
    s.writer.stream = [] ∧ s.reader.buffer = [] ∧ s.reader.nextPacketLength = 0 ∧
    s.accepted = [] ∧ s.returned = []

instance (s : TCPStream) : Decidable s.Starts := inferInstanceAs (Decidable (_ ∧ _))

def Careful (s : TCPStream) : TCPStreamAct → Prop
  | .write results _ allocated data priority =>
    (s.offer results).CarefulWrite allocated data priority
  | _ => True

def system (cipher : ByteCipher Nonce) : TransitionSystem TCPStream where
  init := Starts
  step s t := ∃ act, s.Careful act ∧ s.step cipher act = some t

structure Inv (cipher : ByteCipher Nonce) (s : TCPStream) (rest : List Bytes) : Prop where
  accepted : s.accepted = s.returned ++ rest
  writable : ∀ data ∈ rest, Writable data
  sharedKey : s.writer.sharedKey = s.reader.sharedKey
  sentNonce : s.writer.sentNonce = nonceAfter s.reader.recvNonce rest.length
  expects : s.reader.Expects cipher s.writer.stream rest

variable {cipher : ByteCipher Nonce} {s t : TCPStream} {rest : List Bytes}

theorem inv_of_starts (h : s.Starts) : s.Inv cipher [] := by
  obtain ⟨hkey, hnonce, hstream, hbuffer, hnext, haccepted, hreturned⟩ := h
  refine ⟨?_, forall_mem_nil _, hkey, ?_, .inl ⟨hnext, ?_⟩⟩
  · rw [haccepted, hreturned]
    rfl
  · rw [hnonce, length_nil, nonceAfter_zero]
  · rw [hbuffer, hstream]
    rfl

variable {writer : TCPConnection}

theorem Inv.flush (h : s.Inv cipher rest) (hflush : s.writer.Flushes writer)
    : ({ s with writer } : TCPStream).Inv cipher rest where
  accepted := h.accepted
  writable := h.writable
  sharedKey := hflush.sharedKey.trans h.sharedKey
  sentNonce := hflush.sentNonce.trans h.sentNonce
  expects := hflush.stream ▸ h.expects

theorem expects_append {reader : TCPReader} {behind data : Bytes} (h : reader.Expects cipher behind rest) :
    reader.Expects cipher
      (behind ++ frame cipher reader.sharedKey (nonceAfter reader.recvNonce rest.length) data)
      (rest ++ [data]) := by
  obtain ⟨hnext, hbytes⟩ | ⟨first, packets, rfl, hnext, hbytes⟩ := h
  · refine .inl ⟨hnext, ?_⟩
    rw [← append_assoc, hbytes, frames_append]
  · refine .inr ⟨first, packets ++ [data], rfl, hnext, ?_⟩
    rw [← append_assoc, hbytes, frames_append, length_cons, nonceAfter_succ, append_assoc]

theorem Inv.accept {data : Bytes} (h : s.Inv cipher rest) (haccepts : TCPConnection.Accepts cipher s.writer writer data)
    :
    ({ s with writer, accepted := s.accepted ++ [data] } : TCPStream).Inv cipher
      (rest ++ [data]) where
  accepted := by
    rw [h.accepted, append_assoc]
  writable packet hmem := by
    obtain hmem | hmem := mem_append.mp hmem
    · exact h.writable packet hmem
    · obtain rfl := mem_singleton.mp hmem
      exact ⟨haccepts.ne_nil, haccepts.length_le⟩
  sharedKey := haccepts.sharedKey.trans h.sharedKey
  sentNonce := by
    rw [haccepts.sentNonce, h.sentNonce, incrementNonce_nonceAfter, length_append]
    rfl
  expects := by
    rw [haccepts.stream, h.sentNonce, h.sharedKey]
    exact expects_append h.expects

theorem expects_arrive {reader : TCPReader} (n : Nat) (h : reader.Expects cipher writer.stream rest) :
    TCPReader.Expects cipher
      { reader with buffer := reader.buffer ++ writer.sock.wire.take n }
      (TCPConnection.stream
        { writer with sock := { writer.sock with wire := writer.sock.wire.drop n } }) rest := by
  have hbytes : (reader.buffer ++ writer.sock.wire.take n) ++
      (writer.sock.wire.drop n ++ writer.unsent) = reader.buffer ++ writer.stream := by
    rw [TCPConnection.stream, append_assoc, ← append_assoc (writer.sock.wire.take n), take_append_drop]
  obtain ⟨hnext, heq⟩ | ⟨first, packets, rfl, hnext, heq⟩ := h
  · exact .inl ⟨hnext, hbytes.trans heq⟩
  · exact .inr ⟨first, packets, rfl, hnext, hbytes.trans heq⟩

theorem Inv.offer (h : s.Inv cipher rest) (results : List Int) :
    ({ s with writer := s.offer results } : TCPStream).Inv cipher rest :=
  ⟨h.accepted, h.writable, h.sharedKey, h.sentNonce, h.expects⟩

theorem Inv.step {act : TCPStreamAct} (h : s.Inv cipher rest) (hcareful : s.Careful act)
    (hstep : s.step cipher act = some t) : ∃ rest', t.Inv cipher rest' := by
  cases act with
  | write results cryptoMalloc allocated data priority =>
    generalize hwrite : (s.offer results).writePacketTCPSecureConnection cipher cryptoMalloc
      allocated data priority = result
    obtain ⟨result, writer⟩ := result
    simp only [TCPStream.step, hwrite] at hstep
    obtain rfl | ⟨rfl, haccepts⟩ | ⟨rfl, hflush⟩ | ⟨rfl, hdefect, -⟩ :=
      TCPConnection.writePacket_cases hwrite
    · cases hstep
    · cases hstep
      exact ⟨_, (h.offer results).accept haccepts⟩
    · cases hstep
      exact ⟨_, (h.offer results).flush hflush⟩
    · exact absurd hcareful hdefect
  | sendPending results =>
    cases hstep
    have hflush := (TCPConnection.sendPendingData_spec (rfl : (s.offer results).sendPendingData = (_, _))).1
    exact ⟨_, (h.offer results).flush hflush⟩
  | arrive n =>
    cases hstep
    exact ⟨rest, h.accepted, h.writable, h.sharedKey, h.sentNonce, expects_arrive n h.expects⟩
  | read cryptoMalloc maxLen =>
    generalize hread : s.reader.readPacketTCPSecureConnection cipher cryptoMalloc maxLen = result
    obtain ⟨result, data, reader⟩ := result
    simp only [TCPStream.step, hread] at hstep
    obtain ⟨rfl, -⟩ | ⟨rfl, hkey, hnonce, hexpects, -⟩ |
        ⟨data, packets, rfl, rfl, rfl, hkey, hnonce, hexpects⟩ :=
      TCPReader.readPacket_cases h.writable h.expects hread
    · cases hstep
    · cases hstep
      refine ⟨rest, h.accepted, h.writable, h.sharedKey.trans hkey.symm, ?_, hexpects⟩
      exact h.sentNonce.trans (by rw [← hnonce])
    · have hpos := length_pos_iff.mpr (h.writable data mem_cons_self).1
      rw [if_neg (by omega), if_pos (by omega)] at hstep
      cases hstep
      refine ⟨packets, ?_, fun d hd => h.writable d (mem_cons_of_mem _ hd),
        h.sharedKey.trans hkey.symm, ?_, hexpects⟩
      · rw [h.accepted, append_assoc]
        rfl
      · rw [hnonce, h.sentNonce, length_cons, nonceAfter_succ]

structure InSync (cipher : ByteCipher Nonce) (s : TCPStream) : Prop where
  /-- What was returned is what was accepted, in this order, and the rest is under way. -/
  returned : s.returned <+: s.accepted
  /-- The nonces are as far apart as the packets that are under way. -/
  sentNonce : s.writer.sentNonce = nonceAfter s.reader.recvNonce (s.accepted.length - s.returned.length)
  /-- Nothing was lost: without bytes under way all accepted packets were returned. -/
  drained : s.reader.buffer = [] → s.writer.stream = [] → s.returned = s.accepted
  /-- Nothing undecryptable is read. -/
  decryptable : ∀ maxLen, maxPacketSize ≤ maxLen + cryptoMacSize →
    (s.reader.readPacketTCPSecureConnection cipher true maxLen).1 ≠ -1
  /-- When all bytes have arrived, the next call returns the next packet. -/
  next : s.writer.stream = [] → ∀ data, s.accepted[s.returned.length]? = some data →
    ∀ maxLen, maxPacketSize ≤ maxLen + cryptoMacSize → ∃ reader',
      s.reader.readPacketTCPSecureConnection cipher true maxLen = ((data.length : Int), data, reader')
  /-- A refused packet has used no nonce, and no byte of it is on the wire. -/
  refused : ∀ results cryptoMalloc allocated data priority writer,
    (s.offer results).CarefulWrite allocated data priority →
    (s.offer results).writePacketTCPSecureConnection cipher cryptoMalloc allocated data priority =
      (0, writer) → s.writer.Flushes writer

theorem Inv.inSync (h : s.Inv cipher rest) : s.InSync cipher where
  returned := ⟨rest, h.accepted.symm⟩
  sentNonce := by
    rw [h.sentNonce, h.accepted, length_append, Nat.add_sub_cancel_left]
  drained hbuffer hstream := by
    rw [h.accepted, h.expects.eq_nil hbuffer hstream, append_nil]
  decryptable maxLen hmax hfail := by
    generalize hread : s.reader.readPacketTCPSecureConnection cipher true maxLen = result at hfail
    obtain ⟨result, out, reader⟩ := result
    obtain rfl : result = -1 := hfail
    obtain ⟨-, h | h⟩ | ⟨hzero, -⟩ | ⟨data, -, -, hresult, -⟩ :=
      TCPReader.readPacket_cases h.writable h.expects hread
    · cases h
    · omega
    · cases hzero
    · omega
  next hstream data hdata maxLen hmax := by
    generalize hread : s.reader.readPacketTCPSecureConnection cipher true maxLen = result
    obtain ⟨result, out, reader⟩ := result
    rw [h.accepted, getElem?_append_right le_rfl, Nat.sub_self] at hdata
    obtain ⟨-, h | h⟩ | ⟨-, -, -, -, hnil⟩ | ⟨_, packets, rfl, rfl, rfl, -⟩ :=
      TCPReader.readPacket_cases h.writable h.expects hread
    · cases h
    · omega
    · rw [hnil hstream] at hdata
      exact nomatch hdata
    · cases hdata
      exact ⟨reader, rfl⟩
  refused results cryptoMalloc allocated data priority writer hcareful hwrite := by
    obtain h | ⟨h, -⟩ | ⟨-, hflush⟩ | ⟨-, hdefect, -⟩ := TCPConnection.writePacket_cases hwrite
    · exact absurd h (by decide)
    · exact absurd h (by decide)
    · exact ⟨hflush.sharedKey, hflush.sentNonce, hflush.bytes⟩
    · exact absurd hcareful hdefect

/-- The stream is in sync in every state in which no priority packet lacks memory. -/
theorem inSync_of_careful (cipher : ByteCipher Nonce) {s : TCPStream}
    (h : (system cipher).Reachable s) : s.InSync cipher := by
  have hinv : ∃ rest, s.Inv cipher rest := by
    induction h with
    | init hs => exact ⟨[], inv_of_starts hs⟩
    | step _ hst ih =>
      obtain ⟨rest, hrest⟩ := ih
      obtain ⟨act, hcareful, hstep⟩ := hst
      exact hrest.step hcareful hstep
  obtain ⟨rest, hrest⟩ := hinv
  exact hrest.inSync

def tag (key : SharedKey) (nonce : Nonce) : Bytes :=
  (key.toList.take cryptoMacSize).zipWith (· ^^^ ·)
    ((List.range cryptoMacSize).map fun i => UInt8.ofNat (nonce.toNat / 256 ^ i))

theorem length_tag (key : SharedKey) (nonce : Nonce) : (tag key nonce).length = cryptoMacSize := by
  rw [tag, length_zipWith, length_take, Vector.length_toList]
  rfl

theorem length_tagged (key : SharedKey) (nonce : Nonce) (plain : Bytes) :
    (tag key nonce ++ plain).length = plain.length + cryptoMacSize := by
  rw [length_append, length_tag, Nat.add_comm]

theorem length_untagged (key : SharedKey) (nonce : Nonce) (encrypted plain : Bytes)
    (h : (if encrypted.take cryptoMacSize = tag key nonce then
      some (encrypted.drop cryptoMacSize) else none) = some plain) :
    encrypted.length = plain.length + cryptoMacSize := by
  split at h
  · rename_i htag
    have hlen := congrArg List.length htag
    rw [length_take, length_tag] at hlen
    rw [← Option.some.inj h, length_drop]
    omega
  · cases h

theorem untag_tag (key : SharedKey) (nonce : Nonce) (plain : Bytes) :
    (if (tag key nonce ++ plain).take cryptoMacSize = tag key nonce then
      some ((tag key nonce ++ plain).drop cryptoMacSize) else none) = some plain := by
  rw [take_left' (length_tag key nonce), if_pos rfl, drop_left' (length_tag key nonce)]

/-- A cipher that leaves the packet as it is and authenticates it with key and nonce. -/
def tagCipher : ByteCipher Nonce where
  afternm key nonce plain := tag key nonce ++ plain
  openAfternm key nonce encrypted :=
    if encrypted.take cryptoMacSize = tag key nonce then some (encrypted.drop cryptoMacSize)
    else none
  length_afternm := length_tagged
  length_openAfternm := length_untagged
  openAfternm_afternm := untag_tag

def fresh : TCPStream where
  writer :=
    { sock := ⟨[], []⟩, sharedKey := key 1, sentNonce := 0, lastPacket := [], lastPacketSent := 0,
      priorityQueue := [] }
  reader := { buffer := [], nextPacketLength := 0, sharedKey := key 1, recvNonce := 0 }
  accepted := []
  returned := []

/-- A run of actions in which no call returns `-1`. -/
def run (cipher : ByteCipher Nonce) (s : TCPStream) (acts : List TCPStreamAct) : Option TCPStream :=
  acts.foldlM (fun s act => s.step cipher act) s

theorem reachable_of_run {acts : List TCPStreamAct} (hs : (system cipher).Reachable s)
    (hcareful : ∀ act ∈ acts, ∀ u : TCPStream, u.Careful act) (h : s.run cipher acts = some t) :
    (system cipher).Reachable t := by
  induction acts generalizing s with
  | nil => exact Option.some.inj h ▸ hs
  | cons act acts ih =>
    obtain ⟨u, hu, hrun⟩ := Option.bind_eq_some_iff.mp h
    exact ih (.step hs ⟨act, hcareful act mem_cons_self s, hu⟩)
      (fun a ha => hcareful a (mem_cons_of_mem _ ha)) hrun

/-- A packet of which the socket takes five bytes, and a priority packet behind it. -/
theorem inSync_partialSend :
    ∃ s, fresh.run tagCipher [.write [5] true true [1, 2, 3] false, .write [] true true [4] true,
        .sendPending [100, 100], .arrive 100, .read true 2048] = some s ∧
      s.accepted = [[1, 2, 3], [4]] ∧ s.returned = [[1, 2, 3]] ∧ s.InSync tagCipher := by
  generalize hrun : fresh.run tagCipher _ = result
  have hlists : result.map (fun s => (s.accepted, s.returned)) =
      some ([[1, 2, 3], [4]], [[1, 2, 3]]) := by
    rw [← hrun]
    decide +kernel
  obtain ⟨s, rfl, hs⟩ := Option.map_eq_some_iff.mp hlists
  obtain ⟨haccepted, hreturned⟩ := Prod.mk.inj hs
  have hstarts : fresh.Starts := by decide +kernel
  refine ⟨s, rfl, haccepted, hreturned, inSync_of_careful tagCipher
    (reachable_of_run (.init hstarts) (fun act hact u => ?_) hrun)⟩
  simp only [mem_cons, not_mem_nil, or_false] at hact
  obtain rfl | rfl | rfl | rfl | rfl := hact
  · exact fun h => nomatch h
  · exact fun _ => .inl rfl
  all_goals trivial

/-- A priority packet is refused after five bytes of it were sent: the next packet cannot be read. -/
theorem not_inSync_withoutMemory :
    fresh.Starts ∧
    (∃ writer, (fresh.offer [5]).writePacketTCPSecureConnection tagCipher true false [1, 2, 3]
        true = (0, writer) ∧ writer.sentNonce = incrementNonce fresh.writer.sentNonce ∧
      writer.sock.wire = (frame tagCipher (key 1) 0 [1, 2, 3]).take 5) ∧
    ∃ s, fresh.run tagCipher [.write [5] true false [1, 2, 3] true,
        .write [100] true true [4, 5] false, .arrive 100] = some s ∧
      s.accepted = [[4, 5]] ∧ s.returned = [] ∧ s.step tagCipher (.read true 2048) = none := by
  refine ⟨by decide +kernel, ⟨_, rfl, by decide +kernel, by decide +kernel⟩, ?_⟩
  generalize hrun : fresh.run tagCipher _ = result
  have hlists : result.map (fun s => (s.accepted, s.returned,
      (s.step tagCipher (.read true 2048)).isNone)) = some ([[4, 5]], [], true) := by
    rw [← hrun]
    decide +kernel
  obtain ⟨s, rfl, hs⟩ := Option.map_eq_some_iff.mp hlists
  obtain ⟨haccepted, hs⟩ := Prod.mk.inj hs
  obtain ⟨hreturned, hnone⟩ := Prod.mk.inj hs
  exact ⟨s, rfl, haccepted, hreturned, Option.isNone_iff_eq_none.mp hnone⟩

end TCPStream

end Toxcore

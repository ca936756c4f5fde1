import Toxcore.Spec.NonceWindow

/-!
# The frame of a data packet

`send_data_packet_helper` puts `buffer_start`, the packet number and some padding before the payload,
and `handle_data_packet_core` takes them off again.  The padding makes the lengths of payloads equal
in steps of `CRYPTO_MAX_PADDING` bytes.
-/

namespace Toxcore

open List

structure Payload where
  id : UInt8
  rest : Bytes
  id_ne : id ≠ packetIdPadding
  length_le : rest.length + 1 ≤ maxCryptoDataSize

namespace Payload

variable (payload : Payload)

def bytes : Bytes := payload.id :: payload.rest

def steps : Nat := (maxCryptoDataSize - payload.bytes.length) / cryptoMaxPadding

theorem length_bytes_le : payload.bytes.length ≤ maxCryptoDataSize := payload.length_le

theorem length_bytes_pos : 0 < payload.bytes.length := Nat.succ_pos _

theorem length_dataPacketContents (bufferStart num : UInt32) :
    (Peer.dataPacketContents bufferStart num payload.bytes).length =
      8 + (maxCryptoDataSize - cryptoMaxPadding * payload.steps) := by
  have hle := payload.length_bytes_le
  have hsplit := Nat.mod_add_div (maxCryptoDataSize - payload.bytes.length) cryptoMaxPadding
  rw [Peer.dataPacketContents, length_append, length_append, length_append,
    length_packU32, length_packU32, length_replicate, steps]
  omega

theorem steps_le : cryptoMaxPadding * payload.steps ≤ maxCryptoDataSize :=
  Nat.le_trans (Nat.mul_div_le _ _) (Nat.sub_le _ _)

theorem sendable (bufferStart num : UInt32) :
    CryptoConnection.Sendable (Peer.dataPacketContents bufferStart num payload.bytes) := by
  have hlength := payload.length_dataPacketContents bufferStart num
  have hmax : maxCryptoDataSize = 1373 := rfl
  have hpacket : maxCryptoPacketSize = 1400 := rfl
  have hmac : cryptoMacSize = 16 := rfl
  constructor
  · omega
  · omega

end Payload

namespace Peer

/-- The packet that `send_data_packet_helper` sends. -/
def framePacket (p : Peer) (bufferStart num : UInt32) (payload : Payload) : DataPacket :=
  CryptoConnection.dataPacket p.conn.sharedKey p.conn.sentNonce
    (dataPacketContents bufferStart num payload.bytes)

theorem sendDataPacketHelper_payload {p : Peer} (hvalid : p.conn.isValid)
    (bufferStart num : UInt32) (payload : Payload) :
    p.sendDataPacketHelper bufferStart num payload.bytes true =
      (true,
        { p with
          conn := { p.conn with sentNonce := incrementNonce p.conn.sentNonce }
          wire := p.wire ++ [p.framePacket bufferStart num payload] }) := by
  have hpos := payload.length_bytes_pos
  have hle := payload.length_bytes_le
  obtain ⟨hne, hmax⟩ := payload.sendable bufferStart num
  unfold sendDataPacketHelper
  rw [if_neg (by omega)]
  unfold sendDataPacket
  rw [if_neg (by omega), hvalid]
  rfl

theorem length_framePacket (p : Peer) (bufferStart num : UInt32) (payload : Payload) :
    (p.framePacket bufferStart num payload).length =
      maxCryptoPacketSize - cryptoMaxPadding * payload.steps := by
  have hlength := payload.length_dataPacketContents bufferStart num
  have hsteps := payload.steps_le
  have hmax : maxCryptoDataSize = 1373 := rfl
  have hpacket : maxCryptoPacketSize = 1400 := rfl
  have hmac : cryptoMacSize = 16 := rfl
  show 1 + 2 + (dataPacketContents bufferStart num payload.bytes).length + cryptoMacSize = _
  omega

/-- What `handle_data_packet_core` does with the fields of a packet. -/
def handleFrame (p : Peer) (conn : CryptoConnection) (bufferStart num : UInt32) (id : UInt8)
    (rest : Bytes) (udp : Bool) (now : UInt64) (calloc : Bool) (callback : DataCallback) :
    DataResult × Peer :=
  match acknowledge conn bufferStart with
  | none => (.fail, { p with conn })
  | some (rttCalcTime, conn) =>
    if id = packetIdKill then (.kill, { p with conn })
    else
      handleRealData { p with conn := confirm conn } num (id :: rest) rttCalcTime udp now calloc callback

theorem handleDataPacketCore_frame {p : Peer} (hvalid : p.conn.isValid) {packet : DataPacket}
    {conn : CryptoConnection} {bufferStart num : UInt32} {payload : Payload}
    (hmin : cryptoDataPacketMinSize < packet.length) (hmax : packet.length ≤ maxCryptoPacketSize)
    (hhandle : p.conn.handleDataPacket packet =
      some (dataPacketContents bufferStart num payload.bytes, conn)) (udp : Bool) (now : UInt64)
    (calloc : Bool) (callback : DataCallback) :
    p.handleDataPacketCore packet udp now calloc callback =
      p.handleFrame conn bufferStart num payload.id payload.rest udp now calloc callback := by
  have hpad : (List.replicate ((maxCryptoDataSize - payload.bytes.length) % cryptoMaxPadding)
      packetIdPadding ++ payload.bytes).dropWhile (· == packetIdPadding) =
      payload.id :: payload.rest := by
    rw [dropWhile_append_of_pos (by intro b hb; simp [eq_of_mem_replicate hb])]
    exact dropWhile_cons_of_neg (by simpa using payload.id_ne)
  have hne : List.replicate ((maxCryptoDataSize - payload.bytes.length) % cryptoMaxPadding)
      packetIdPadding ++ payload.bytes ≠ [] :=
    append_ne_nil_of_right_ne_nil _ (cons_ne_nil _ _)
  unfold handleDataPacketCore handleFrame
  rw [if_neg (by omega), hvalid, hhandle]
  simp only [Bool.not_true, Bool.false_eq_true, if_false, dataPacketContents, append_assoc,
    unpackU32_packU32_append, hne, hpad]
  all_goals (cases acknowledge conn bufferStart <;> rfl)

end Peer

/-- A packet is at most `MAX_CRYPTO_PACKET_SIZE` long, its fields are recovered, and its length tells the number of
    padding steps only. -/
theorem dataFraming {sender receiver : Peer} (hsender : sender.conn.isValid)
    (hreceiver : receiver.conn.isValid) (hkey : sender.conn.sharedKey = receiver.conn.sharedKey)
    (hnonce : (sender.conn.sentNonce - receiver.conn.recvNonce).toNat < 2 ^ 16)
    (bufferStart num : UInt32) (payload : Payload) :
    ∃ packet,
      (sender.sendDataPacketHelper bufferStart num payload.bytes true).2.wire = sender.wire ++ [packet] ∧
      packet.length ≤ maxCryptoPacketSize ∧
      (∃ conn, ∀ udp now calloc callback,
        receiver.handleDataPacketCore packet udp now calloc callback =
          receiver.handleFrame conn bufferStart num payload.id payload.rest udp now calloc callback) ∧
      ∀ otherStart otherNum (other : Payload) packet',
        (sender.sendDataPacketHelper otherStart otherNum other.bytes true).2.wire = sender.wire ++ [packet'] →
        (packet.length = packet'.length ↔
          (maxCryptoDataSize - payload.bytes.length) / cryptoMaxPadding =
            (maxCryptoDataSize - other.bytes.length) / cryptoMaxPadding) := by
  have hdata : maxCryptoDataSize = 1373 := rfl
  have hpacket : maxCryptoPacketSize = 1400 := rfl
  have hpadding : cryptoMaxPadding = 8 := rfl
  have hlength := sender.length_framePacket bufferStart num payload
  have hsteps := payload.steps_le
  refine ⟨sender.framePacket bufferStart num payload, ?_, ?_, ?_, ?_⟩
  · rw [Peer.sendDataPacketHelper_payload hsender]
  · omega
  · have hhandle := CryptoConnection.handleDataPacket_dataPacket receiver.conn
      sender.conn.sentNonce (payload.sendable bufferStart num)
    rw [if_pos hnonce, ← hkey] at hhandle
    have hmin : cryptoDataPacketMinSize < (sender.framePacket bufferStart num payload).length := by
      have hpad := Nat.mod_add_div (maxCryptoDataSize - payload.bytes.length) cryptoMaxPadding
      have hstep : payload.steps = (maxCryptoDataSize - payload.bytes.length) / cryptoMaxPadding := rfl
      have hminSize : cryptoDataPacketMinSize = 27 := rfl
      rw [hpadding] at hlength hpad hstep
      omega
    exact ⟨_, Peer.handleDataPacketCore_frame hreceiver hmin (by omega) hhandle⟩
  · intro otherStart otherNum other packet' hother
    rw [Peer.sendDataPacketHelper_payload hsender] at hother
    have heq := append_cancel_left hother
    have hlength' := sender.length_framePacket otherStart otherNum other
    have hsteps' := other.steps_le
    rw [← head_eq_of_cons_eq heq, hlength, hlength']
    show _ ↔ payload.steps = other.steps
    rw [hpadding] at hsteps hsteps' ⊢
    omega

def establishedPeer : Peer := ⟨{ emptyCryptoConnection with status := .established }, [], [], []⟩

theorem dataFraming_establishedPeer :
    ∃ packet, (establishedPeer.sendDataPacketHelper 1 2 [16, 7] true).2.wire = [packet] ∧
      packet.length ≤ maxCryptoPacketSize := by
  have hvalid : establishedPeer.conn.isValid := rfl
  have hnonce : (establishedPeer.conn.sentNonce - establishedPeer.conn.recvNonce).toNat < 2 ^ 16 := by decide
  obtain ⟨packet, hwire, hle, -, -⟩ := dataFraming hvalid hvalid rfl hnonce 1 2 ⟨16, [7], by decide, by decide⟩
  exact ⟨packet, hwire, hle⟩

end Toxcore

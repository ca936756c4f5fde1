import Toxcore.ForStd.TransitionSystem
import Toxcore.Native.NgcConnection

/-!
# The lossless channel between two group peers

Peer `a` sends lossless packets to peer `b` over a network that may lose, duplicate, delay and reorder: every
packet that was sent may be handed to the other side at any later time, any number of times or never. A message
is sent in chunks, one for each fragment, and each chunk gets the next message id.
-/

namespace Toxcore

abbrev GroupMessage := UInt8 × Bytes

def chunksOf (message : GroupMessage) : List GroupMessage :=
  if message.2.length > maxGcPacketChunkSize then
    (PeerLink.firstChunk message.2 message.1 :: PeerLink.laterChunks message.2).map (gpFragment, ·)
  else [message]

/-- A message of the callers of `send_lossless_group_packet`: no fragments, and not too long. -/
structure Sendable (message : GroupMessage) : Prop where
  type : message.1 ≠ gpFragment
  length : message.2.length ≤ maxGcPacketSize

/-- Whether the message gets into the send array. When `gcc_send_packet` fails it is sent later. -/
def PeerLink.accepts (link : PeerLink) (env : NgcEnv) (message : GroupMessage) : Bool :=
  if !link.gconn.handshaked || link.gconn.pendingDelete then false
  else if message.2.length > maxGcPacketChunkSize then
    (link.gccSendLosslessPacketFragments env message.2 message.1).1
  else (link.gccSendLosslessPacket env message.2 message.1).1 != .notAdded

/-- A handler that succeeds and leaves the receiving side alone, and sends no acknowledgements. -/
structure LosslessHelper.Succeeds (helper : LosslessHelper) : Prop where
  ok : ∀ link type data, (helper link type data).1 = true
  received : ∀ link type data, (helper link type data).2.gconn.receivedMessageId = link.gconn.receivedMessageId
  recvArray : ∀ link type data, (helper link type data).2.gconn.recvArray = link.gconn.recvArray
  lastChunkId : ∀ link type data, (helper link type data).2.gconn.lastChunkId = link.gconn.lastChunkId
  handshaked : ∀ link type data, (helper link type data).2.gconn.handshaked = link.gconn.handshaked
  handed : ∀ link type data, (helper link type data).2.handed = link.handed
  sent : ∀ link type data, ∀ encrypted,
    GCPacket.lossy encrypted ∈ (helper link type data).2.sent →
    encrypted.plain.packetType = gpMessageAck → GCPacket.lossy encrypted ∈ link.sent

/-- Two peers, and the messages that `a` has accepted for sending to `b`. -/
structure GroupChannel where
  a : PeerLink
  b : PeerLink
  accepted : List GroupMessage

inductive ChannelAction where
  /-- `a` calls `send_lossless_group_packet`. -/
  | send (env : NgcEnv) (message : GroupMessage)
  /-- `a` calls `gcc_resend_packets`. -/
  | resend (env : NgcEnv)
  /-- `a` handles a lossy packet of `b`. -/
  | handleLossy (env : NgcEnv) (handler : LosslessHelper) (encrypted : Sealed LossyPlain) (directConn : Bool)
  /-- `b` handles a lossless packet of `a`. -/
  | handleLossless (env : NgcEnv) (helper : LosslessHelper) (encrypted : Sealed LosslessPlain)
      (directConn : Bool)
  /-- `b` calls `gcc_check_recv_array`. -/
  | checkRecvArray (env : NgcEnv) (helper : LosslessHelper)

namespace ChannelAction

/-- Packets are handled after they were sent, and the time is positive. -/
def Enabled (s : GroupChannel) : ChannelAction → Prop
  | .send env message => 0 < env.now ∧ Sendable message
  | .resend env => 0 < env.now
  | .handleLossy env _ encrypted _ =>
    0 < env.now ∧ encrypted.plain.packetType = gpMessageAck ∧ .lossy encrypted ∈ s.b.sent
  | .handleLossless env helper encrypted _ =>
    0 < env.now ∧ helper.Succeeds ∧ .lossless encrypted ∈ s.a.sent
  | .checkRecvArray env helper => 0 < env.now ∧ helper.Succeeds

/-- The send array takes `n` more messages. -/
def Room (gconn : GCConnection) (n : Nat) : Prop :=
  ∀ j < n, (gconn.sendArray ((gconn.sendMessageId.toNat + j) % gccBufferSize)).isEmpty ∧
    (gconn.sendMessageId.toNat + j) % gccBufferSize ≠ (gconn.sendArrayStart - 1).toNat

/-- What keeps the channel intact: message ids below `2 ^ 64`; room for a whole fragmented message, unless the ids
    fit into 16 bits; and no earlier copy of the next message. -/
def Careful (s : GroupChannel) : ChannelAction → Prop
  | .send _ message =>
    s.a.gconn.sendMessageId.toNat + (chunksOf message).length < 2 ^ 64 ∧
    (message.2.length > maxGcPacketChunkSize →
      Room s.a.gconn (chunksOf message).length ∨ s.a.gconn.sendMessageId.toNat < 2 ^ 16)
  | .handleLossless _ _ encrypted _ =>
    encrypted.plain.packetType ≠ gpFragment →
    encrypted.plain.messageId = s.b.gconn.receivedMessageId + 1 →
    (s.b.gconn.recvArray (gccGetArrayIndex encrypted.plain.messageId)).isEmpty
  | _ => True

end ChannelAction

namespace GroupChannel

def apply (s : GroupChannel) : ChannelAction → GroupChannel
  | .send env message =>
    { s with
      a := (s.a.sendLosslessGroupPacket env message.2 message.1).2
      accepted := if s.a.accepts env message then s.accepted ++ [message] else s.accepted }
  | .resend env => { s with a := s.a.gccResendPackets env }
  | .handleLossy env handler encrypted directConn =>
    { s with a := (s.a.handleGcLossyPacket env handler encrypted directConn).2 }
  | .handleLossless env helper encrypted directConn =>
    { s with b := (s.b.handleGcLosslessPacket env helper encrypted directConn).2 }
  | .checkRecvArray env helper => { s with b := s.b.gccCheckRecvArray env helper }

/-- Two handshaked peers with the same session key, empty arrays and counters that agree. -/
structure Initial (s : GroupChannel) : Prop where
  handshaked_a : s.a.gconn.handshaked
  handshaked_b : s.b.gconn.handshaked
  sharedKey : s.a.gconn.sessionSharedKey = s.b.gconn.sessionSharedKey
  counters : s.b.gconn.receivedMessageId.toNat + 1 = s.a.gconn.sendMessageId.toNat
  sendArray : s.a.gconn.sendArray = emptyMessageArray
  recvArray : s.b.gconn.recvArray = emptyMessageArray
  lastChunkId : s.b.gconn.lastChunkId = 0
  sent_a : s.a.sent = []
  sent_b : s.b.sent = []
  handed : s.b.handed = []
  accepted : s.accepted = []

def system : TransitionSystem GroupChannel where
  init := Initial
  step s t := ∃ action : ChannelAction, action.Enabled s ∧ t = s.apply action

def carefulSystem : TransitionSystem GroupChannel where
  init := Initial
  step s t := ∃ action : ChannelAction, action.Enabled s ∧ action.Careful s ∧ t = s.apply action

end GroupChannel

/-! ## The invariant -/

/-- Chunk `k` has the id `base + k`, everything sent or on the way is a chunk, and what `b` lacks is kept. -/
structure SendSide (base : Nat) (chunks : List GroupMessage) (received : Nat) (link : PeerLink) :
    Prop where
  next : link.gconn.sendMessageId.toNat = base + chunks.length
  window : base + chunks.length ≤ received + 1 + gccBufferSize
  cleared : ∀ i, (link.gconn.sendArray i).isEmpty → (link.gconn.sendArray i).messageId = 0
  slot : ∀ i, ¬(link.gconn.sendArray i).isEmpty → ∃ k,
    (link.gconn.sendArray i).messageId.toNat = base + k ∧ i = (base + k) % gccBufferSize ∧
    chunks[k]? = some ((link.gconn.sendArray i).packetType, (link.gconn.sendArray i).data)
  kept : ∀ k < chunks.length, received < base + k →
    ¬(link.gconn.sendArray ((base + k) % gccBufferSize)).isEmpty ∧
    (link.gconn.sendArray ((base + k) % gccBufferSize)).messageId.toNat = base + k
  sent : ∀ encrypted, .lossless encrypted ∈ link.sent → ∃ k,
    encrypted.plain.messageId.toNat = base + k ∧
    chunks[k]? = some (encrypted.plain.packetType, encrypted.plain.data)

/-- The receiving side after `r` chunks, of which the last `p` are fragments of an unfinished
    message. -/
structure ReceiveSide (base : Nat) (chunks : List GroupMessage) (r p : Nat) (link : PeerLink) :
    Prop where
  handshaked : link.gconn.handshaked
  received : link.gconn.receivedMessageId.toNat + 1 = base + r
  le : r ≤ chunks.length
  lastChunk : link.gconn.lastChunkId = if p = 0 then 0 else link.gconn.receivedMessageId
  slot : ∀ i, ¬(link.gconn.recvArray i).isEmpty → ∃ k,
    (link.gconn.recvArray i).messageId.toNat = base + k ∧ i = (base + k) % gccBufferSize ∧
    chunks[k]? = some ((link.gconn.recvArray i).packetType, (link.gconn.recvArray i).data) ∧
    (r ≤ k ∧ (link.gconn.recvArray i).packetType ≠ gpFragment ∨
      r ≤ k + p ∧ k < r ∧ (link.gconn.recvArray i).packetType = gpFragment)
  current : ∀ k, r ≤ k + p → k < r →
    ¬(link.gconn.recvArray ((base + k) % gccBufferSize)).isEmpty ∧
    (link.gconn.recvArray ((base + k) % gccBufferSize)).messageId.toNat = base + k
  acks : ∀ encrypted, .lossy encrypted ∈ link.sent → encrypted.plain.packetType = gpMessageAck →
    ∃ type id, encrypted.plain.data = PeerLink.ackData type id ∧
      (type = grAckRecv ∧ id.toNat ≤ link.gconn.receivedMessageId.toNat ∨ type = grAckReq ∧ id ≠ 0)

/-- `done` is delivered, `rest` is on the way, and its first `p` chunks are stored fragments. -/
structure GroupChannel.Linked (s : GroupChannel) (base : Nat) (done rest : List GroupMessage)
    (p : Nat) : Prop where
  pos : 0 < base
  bound : base + (s.accepted.flatMap chunksOf).length < 2 ^ 64
  sendable : ∀ message ∈ s.accepted, Sendable message
  accepted : s.accepted = done ++ rest
  handed : s.b.handed = done
  unfinished : p ≠ 0 → ∃ message rest', rest = message :: rest' ∧ p < (chunksOf message).length
  send : SendSide base (s.accepted.flatMap chunksOf) s.b.gconn.receivedMessageId.toNat s.a
  receive : ReceiveSide base (s.accepted.flatMap chunksOf) ((done.flatMap chunksOf).length + p) p s.b

end Toxcore

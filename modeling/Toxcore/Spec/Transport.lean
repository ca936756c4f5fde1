import Toxcore.Native.CryptoConnection
import Toxcore.Spec.RequestPacketCorrect
import Toxcore.ForStd.TransitionSystem

/-!
# Two peers and a network

Two peers with established connections exchange data packets over a network that may lose, duplicate, delay and
reorder them: every packet that was sent may be handed to the other peer at any later time, any number of times
or never. `connection_data_callback` may call the API of its connection. The invariant `Linked` relates what the
sender keeps, what the receiver holds, what was delivered, and the contents of every packet ever sent.
-/

namespace Toxcore

namespace Peer

def receive (p : Peer) (packet : DataPacket) (udp : Bool) (now : UInt64) (calloc : Bool)
    (react : Bytes → List ApiCall) : Peer :=
  match p.handleDataPacketCore packet udp now calloc (reactingCallback react) with
  | (.kill, p) => { p with conn := emptyCryptoConnection }
  | (_, p) => p

/-- One step of a peer to whom the other peer has sent `inbox`. -/
inductive Step (inbox : List DataPacket) : Peer → Peer → Prop where
  | api (p : Peer) (call : ApiCall) : Step inbox p (p.api call)
  | receive (p : Peer) (packet : DataPacket) (udp : Bool) (now : UInt64) (calloc : Bool)
      (react : Bytes → List ApiCall) (h : packet ∈ inbox) :
      Step inbox p (p.receive packet udp now calloc react)

structure Fresh (p : Peer) : Prop where
  status : p.conn.status = .established
  sendArray : p.conn.sendArray = PacketsArray.empty
  recvArray : p.conn.recvArray = PacketsArray.empty
  wire : p.wire = []
  accepted : p.accepted = []
  delivered : p.delivered = []

/-- The peer has stored packet `n` of the other peer: it is in the receive array or was
    delivered. -/
def Has (p : Peer) (n : UInt32) : Prop :=
  n.toNat < p.delivered.length ∨ (p.conn.recvArray.lookup n).isSome

/-- Fewer than `2 ^ 32 - 32768` lossless packets were written. -/
def Bounded (p : Peer) : Prop := p.accepted.length < 2 ^ 32 - cryptoPacketBufferSize

instance (p : Peer) : Decidable p.Bounded := inferInstanceAs (Decidable (_ < _))

end Peer

structure Transport where
  a : Peer
  b : Peer

def Transport.system : TransitionSystem Transport where
  init s := s.a.Fresh ∧ s.b.Fresh ∧ s.a.conn.sharedKey = s.b.conn.sharedKey
  step s t := (Peer.Step s.b.wire s.a t.a ∧ t.b = s.b) ∨ (Peer.Step s.a.wire s.b t.b ∧ t.a = s.a)

namespace Peer

/-! ## The invariant -/

structure SentContents (x : Peer) (contents : Bytes) : Prop where
  exists_fields : ∃ bufferStart num id rest,
    contents = dataPacketContents bufferStart num (id :: rest) ∧
    bufferStart.toNat ≤ x.delivered.length ∧ num.toNat ≤ x.accepted.length ∧
    id ≠ packetIdPadding ∧ id ≠ packetIdKill ∧
    (isLosslessId id → x.accepted[num.toNat]? = some (id :: rest)) ∧
    (id = packetIdRequest → ∀ j, requestFrees 1 rest j → x.Has (bufferStart + UInt32.ofNat j))

/-- Every packet a peer has sent is one it can account for, and it accepts only lossless
    payloads. -/
structure WireOk (x : Peer) : Prop where
  sent : ∀ packet ∈ x.wire, x.SentContents packet.encrypted.plain
  lossless : ∀ data ∈ x.accepted, ∃ id rest, data = id :: rest ∧ isLosslessId id

/-- The state of the direction from `x` to `y`. -/
structure Channel (x y : Peer) : Prop where
  send_wf : x.conn.sendArray.WellFormed
  recv_wf : y.conn.recvArray.WellFormed
  sendEnd : x.conn.sendArray.bufferEnd.toNat = x.accepted.length
  recvStart : y.conn.recvArray.bufferStart.toNat = y.delivered.length
  sendStart_le : x.conn.sendArray.bufferStart.toNat ≤ y.delivered.length
  recvStart_le : y.delivered.length ≤ y.conn.recvArray.bufferEnd.toNat
  recvEnd_le : y.conn.recvArray.bufferEnd.toNat ≤ x.accepted.length
  delivered_prefix : y.delivered <+: x.accepted
  send_data : ∀ n d, x.conn.sendArray.lookup n = some d → x.accepted[n.toNat]? = some d.data
  recv_data : ∀ n d, y.conn.recvArray.lookup n = some d → x.accepted[n.toNat]? = some d.data
  kept : ∀ n : UInt32, n.toNat < x.accepted.length → ¬y.Has n → (x.conn.sendArray.lookup n).isSome

structure Inv (x y : Peer) : Prop where
  forth : Channel x y
  back : Channel y x
  wire : WireOk x
  wire' : WireOk y
  bounded : x.Bounded
  bounded' : y.Bounded

theorem Inv.symm {x y : Peer} (h : Inv x y) : Inv y x :=
  ⟨h.back, h.forth, h.wire', h.wire, h.bounded', h.bounded⟩

def Linked (x y : Peer) : Prop := x.Bounded → y.Bounded → Inv x y

theorem Linked.symm {x y : Peer} (h : Linked x y) : Linked y x :=
  fun hy hx => (h hx hy).symm

end Peer

end Toxcore

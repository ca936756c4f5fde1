import Toxcore.Native.CryptoConnection
import Toxcore.Native.Group
import Toxcore.Native.NodeFormat

/-!
# Peer lists in packets

`send_peers` and `handle_send_peers` of `group.c`: the peers of a conference are sent in packets of
records, and each record is added with `addpeer`.  The functions that write to a buffer return the bytes
they wrote.
-/

namespace Toxcore

def peerResponseId : UInt8 := 9

def peerTitleId : UInt8 := 10

/-- The size of `response_packet` in `send_peers` -/
def responsePacketSize : Nat := maxCryptoDataSize - (1 + 2)

def Name.take (data : Bytes) (n : Nat) (h : n ≤ maxNameLength) : Name :=
  ⟨data.take n, Nat.le_trans (List.length_take_le n data) h⟩

/-! ## Sending -/

def peerRecord (peer : GroupPeer) : Bytes :=
  netPackU16 peer.peerNumber ++ (peer.realPk.toList ++ (peer.tempPk.toList ++
    (UInt8.ofNat peer.nick.1.length :: peer.nick.1)))

/-- What `send_peers` does. -/
structure SentPeers where
  /-- The result -/
  sent : UInt16
  /-- The packets with `PEER_RESPONSE_ID` that were sent -/
  responses : List Bytes
  /-- The packet with `PEER_TITLE_ID` -/
  title : Option Bytes

/-- The loop of `send_peers`: whether it gets to the last packet, the peers sent, and the packets. -/
def sendPeersLoop (send : Bytes → Bool) :
    List GroupPeer → (i : Nat) → (responsePacket : Bytes) → (sent : Nat) → Bool × Nat × List Bytes
  | [], i, responsePacket, sent =>
    if send responsePacket then (true, i, [responsePacket]) else (false, sent, [])
  | peer :: peers, i, responsePacket, sent =>
    if responsePacket.length + 2 + cryptoPublicKeySize * 2 + 1 + peer.nick.1.length > responsePacketSize then
      if send responsePacket then
        let (done, sent, packets) := sendPeersLoop send peers (i + 1) (peerResponseId :: peerRecord peer) i
        (done, sent, responsePacket :: packets)
      else (false, sent, [])
    else sendPeersLoop send peers (i + 1) (responsePacket ++ peerRecord peer) sent

def sendPeers (send : Bytes → Bool) (g : GroupC) : SentPeers :=
  let (done, sent, responses) := sendPeersLoop send g.group 0 [peerResponseId] 0
  let title := peerTitleId :: g.title.1
  { sent := UInt16.ofNat sent
    responses
    title := if done && decide (g.title.1.length > 0) && send title then some title else none }

/-! ## Receiving -/

namespace Conference

variable (conf : Conference)

/-- The part of `handle_send_peers` that finds the own number in the list. -/
def noteOwnNumber (selfPublicKey realPk : PublicKey) (peerNumber : UInt16) : Conference :=
  if conf.g.status = .valid ∧ realPk = selfPublicKey then
    { conf with g := { conf.g with peerNumber, status := .connected, needSendName := true } }
  else conf

/-- The loop body of `handle_send_peers`: the data after the record; `none` is `-1`. -/
def handlePeerRecord (env : GroupEnv) (selfPublicKey : PublicKey) (data : Bytes) : Option Bytes × Conference :=
  let peerNumber := netUnpackU16 data
  let realPk := bytesToVector cryptoPublicKeySize (data.drop 2)
  let tempPk := bytesToVector cryptoPublicKeySize (data.drop (2 + cryptoPublicKeySize))
  match (conf.noteOwnNumber selfPublicKey realPk peerNumber).addpeer env realPk tempPk peerNumber false with
  | (none, conf) => (none, conf)
  | (some peerIndex, conf) =>
    let nameLength := data.getD (2 + cryptoPublicKeySize * 2) 0
    let d := data.drop (2 + cryptoPublicKeySize * 2 + 1)
    if nameLength.toNat > d.length then (none, conf)
    else if hname : nameLength.toNat ≤ maxNameLength then
      let conf := if conf.g.group[peerIndex]?.any (·.nickUpdated) then conf
        else { conf with g := conf.g.setnick peerIndex (Name.take d nameLength.toNat hname) }
      (some (d.drop nameLength.toNat), conf)
    else (none, conf)

/-- The loop of `handle_send_peers`; the length of the data is enough fuel. -/
def handleSendPeersLoop (env : GroupEnv) (selfPublicKey : PublicKey) :
    (fuel : Nat) → Conference → Bytes → Bool × Conference
  | 0, conf, _ => (true, conf)
  | fuel + 1, conf, data =>
    if data.length ≥ 2 + cryptoPublicKeySize * 2 + 1 then
      match conf.handlePeerRecord env selfPublicKey data with
      | (none, conf) => (false, conf)
      | (some rest, conf) => handleSendPeersLoop env selfPublicKey fuel conf rest
    else (true, conf)

def handleSendPeers (env : GroupEnv) (selfPublicKey : PublicKey) (data : Bytes) : Bool × Conference :=
  if data.length = 0 then (false, conf)
  else handleSendPeersLoop env selfPublicKey data.length conf data

/-- The packets of a peer list are handled, each at its time: whether there was no error. -/
def handleResponses (selfPublicKey : PublicKey) : Conference → List (GroupEnv × Bytes) → Bool × Conference
  | conf, [] => (true, conf)
  | conf, (env, packet) :: packets =>
    let (handled, conf) := conf.handleSendPeers env selfPublicKey (packet.drop 1)
    let (all, conf) := handleResponses selfPublicKey conf packets
    (handled && all, conf)

end Conference

end Toxcore

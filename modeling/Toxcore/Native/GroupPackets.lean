import Toxcore.Native.GroupMessages
import Toxcore.Native.PeerResponse
import Toxcore.Native.PingArray

/-!
# Packets of a conference

`handle_message_packet_group` and `handle_direct_packet` of `group.c`, which handle the packets of the
peers of a conference, and `groupchat_freeze_timedout`, which freezes the peers who send none.  Callbacks
and queries for the peer list are not modelled.
-/

namespace Toxcore

def groupMessagePingId : UInt8 := 0

def groupMessageNewPeerId : UInt8 := 16

def groupMessageKillPeerId : UInt8 := 17

def groupMessageFreezePeerId : UInt8 := 18

def packetIdMessage : UInt8 := 64

def packetIdAction : UInt8 := 65

def peerIntroducedId : UInt8 := 1

def peerQueryId : UInt8 := 8

/-- The bytes before the payload of a message: the peer number, the message number and the id. -/
def messageHeaderSize : Nat := 2 + 4 + 1

def freezeTimeout : UInt64 := 20 * 3

namespace GroupC

variable (g : GroupC)

/-- `settitle`; the length is a byte. -/
def settitle (title : Bytes) (titleLen : UInt8) : Bool × GroupC :=
  if h : titleLen.toNat ≤ maxNameLength ∧ titleLen ≠ 0 then
    if g.title.1 = title.take titleLen.toNat then (true, g)
    else (true, { g with title := Name.take title titleLen.toNat h.1, titleFresh := true })
  else (false, g)

def countConnected : Nat := g.connections.toList.countP fun connection => connection.type == .online

/-- The connections to which `send_message_all_connections` sends; `receiver` is left out. -/
def messageTargets (receiver : Option Nat) : List Nat :=
  (List.range maxGroupConnections).filter fun i =>
    g.connections[i]?.any (fun connection => connection.type == .online) && receiver != some i

end GroupC

namespace Conference

variable (conf : Conference) (env : GroupEnv)

/-- The key of the friend behind a connection, as `get_friendcon_public_keys` writes it. -/
def connectionKey (i : Nat) : PublicKey :=
  match conf.g.connections[i]? with
  | none => env.uninitialized
  | some connection => (conf.frC.getFriendconPublicKeys connection.number).getD env.uninitialized

/-! ## Messages -/

/-- The loop body of `handle_message_packet_group` that ends an introduction. -/
def endIntroduction (realPk : PublicKey) (connectionIndex : Nat) (conf : Conference) (i : Nat) :
    Conference :=
  match conf.g.connections[i]? with
  | none => conf
  | some connection =>
    if !connection.used || !connection.has .introducer || i == connectionIndex then conf
    else if realPk = conf.connectionKey env i then conf.removeConnectionReason i .introducer
    else conf

/-- The part of `handle_message_packet_group` that ends the introductions by the peer `peer`. -/
def endIntroductions (peer : GroupPeer) (connectionIndex : Nat) : Conference :=
  if conf.g.numIntroducerConnections > 0 ∧ conf.g.countConnected > desiredClosest then
    (List.range maxGroupConnections).foldl (endIntroduction env peer.realPk connectionIndex) conf
  else conf

/-- `handle_message_packet_group` before the switch: the index of the sender, if it is to be handled. -/
def admitMessage (connectionIndex : Nat) (peerNumber : UInt16) (message : MessageInfo) :
    Option (Nat × GroupPeer) × Conference :=
  let (index, g) := if message.messageId = groupMessageFreezePeerId
    then (conf.g.getPeerIndex peerNumber, conf.g) else conf.g.notePeerActive env peerNumber
  match index with
  | none => (none, { conf with g })
  | some index =>
    match g.group[index]? with
    | none => (none, { conf with g })
    | some peer =>
      let conf := { conf with g }.endIntroductions env peer connectionIndex
      match peer.checkMessageInfo message with
      | (false, _) => (none, conf)
      | (true, peer) =>
        (some (index, peer), { conf with g := { conf.g with group := conf.g.group.set index peer } })

/-- The switch of `handle_message_packet_group`; with `none`, nothing changes and the message is not
    relayed. -/
def handleMessage (index : Nat) (peerNumber : UInt16) (messageId : UInt8) (msgData : Bytes) :
    Option Conference :=
  if messageId = groupMessagePingId then some conf
  else if messageId = groupMessageNewPeerId then
    if msgData.length ≠ 2 + cryptoPublicKeySize * 2 then none
    else
      some (conf.addpeer env (bytesToVector _ (msgData.drop 2))
        (bytesToVector _ (msgData.drop (2 + cryptoPublicKeySize))) (netUnpackU16 msgData) true).2
  else if messageId = groupMessageKillPeerId ∨ messageId = groupMessageFreezePeerId then
    if msgData.length ≠ 2 then none
    else if peerNumber ≠ netUnpackU16 msgData then none
    else if messageId = groupMessageKillPeerId then some (conf.delpeer index)
    else some (conf.freezePeer env index)
  else if messageId = groupMessageNameId then
    if h : msgData.length ≤ maxNameLength then
      some { conf with g := conf.g.setnick index ⟨msgData, h⟩ }
    else none
  else if messageId = groupMessageTitleId then
    -- `msg_data_len` has 16 bits, the parameter of `settitle` 8
    match conf.g.settitle msgData (UInt8.ofNat msgData.length) with
    | (false, _) => none
    | (true, g) => some { conf with g }
  else if messageId = packetIdMessage ∨ messageId = packetIdAction then
    if msgData.length = 0 then none else some conf
  else none

def handleMessagePacketGroup (connectionIndex : Nat) (data : Bytes) : Conference × List Nat :=
  if data.length < messageHeaderSize then (conf, [])
  else
    let peerNumber := netUnpackU16 data
    let messageId := data.getD 6 0
    match conf.admitMessage env connectionIndex peerNumber
        { messageNumber := netUnpackU32 (data.drop 2), messageId } with
    | (none, conf) => (conf, [])
    | (some (index, peer), conf) =>
      let directFromSender := peer.realPk == conf.connectionKey env connectionIndex
      match conf.handleMessage env index peerNumber messageId (data.drop messageHeaderSize) with
      | none => (conf, [])
      | some conf =>
        (conf, conf.g.messageTargets (if directFromSender then none else some connectionIndex))

/-! ## Direct packets -/

/-- `handle_direct_packet`, with the answer to a query; `send` is `send_packet_group_peer`. -/
def handleDirectPacket (selfPublicKey : PublicKey) (send : Bytes → Bool) (connectionIndex : Nat)
    (data : Bytes) : Conference × Option SentPeers :=
  match data with
  | [] => (conf, none)
  | id :: payload =>
    if id = peerIntroducedId then (conf.removeConnectionReason connectionIndex .introducing, none)
    else if id = peerQueryId then
      if conf.g.connections[connectionIndex]?.any fun connection => connection.type == .online then
        (conf, some (sendPeers send conf.g))
      else (conf, none)
    else if id = peerResponseId then ((conf.handleSendPeers env selfPublicKey payload).2, none)
    else if id = peerTitleId then
      if !conf.g.titleFresh then
        ({ conf with g := (conf.g.settitle payload (UInt8.ofNat payload.length)).2 }, none)
      else (conf, none)
    else (conf, none)

/-! ## Inactive peers -/

/-- The loop of `groupchat_freeze_timedout` from `i` on; the number of peers is enough fuel. -/
def freezeTimedoutLoop : (fuel : Nat) → (i : Nat) → Conference → Conference
  | 0, _, conf => conf
  | fuel + 1, i, conf =>
    match conf.g.group[i]? with
    | none => conf
    | some peer =>
      if peer.peerNumber = conf.g.peerNumber then freezeTimedoutLoop fuel (i + 1) conf
      else if monoTimeIsTimeout env.now peer.lastActive freezeTimeout then
        freezeTimedoutLoop fuel (i + 1) (conf.freezePeer env i)
      else freezeTimedoutLoop fuel (i + 1) conf

def groupchatFreezeTimedout : Conference :=
  let conf := conf.freezeTimedoutLoop env conf.g.group.length 0
  if conf.g.group.length ≤ 1 then { conf with g := { conf.g with titleFresh := false } } else conf

end Conference

end Toxcore

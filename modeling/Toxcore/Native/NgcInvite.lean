import Toxcore.Native.NgcPeers
import Mathlib.Data.List.DropRight

/-!
# Groups of a session and invites of friends

The slots of `GC_Session`, and how a friend that was invited to a group joins it.  What the
handler of an accepted invite takes from the messenger and from the TCP relays of the group is
in `InviteEnv`.  Allocations do not fail.
-/

namespace Toxcore

def maxGcSavedInvites : Nat := 10

def gcJoinDataLength : Nat := cryptoPublicKeySize + sigPublicKeySize

def maxFriendTcpConnections : Nat := 6

def gccMaxTcpSharedRelays : Nat := 3

/-- `GC_Chat` together with the ring of the friends that were invited. -/
structure GCSlot where
  chat : GCChat
  savedInvites : List Int
  savedInvitesIndex : Nat

structure GCSession where
  chats : List GCSlot

/-- What the handler of an accepted invite takes from the outside. -/
structure InviteEnv extends ChatEnv where
  friendIsValid : Int → Bool
  /-- The address of the friend, when its connection has one. -/
  friendIpPort : Option IPPort
  /-- `tcp_copy_connected_relays` -/
  relays : List NodeFormat
  addTcpRelayConnection : NodeFormat → Bool
  /-- Whether a packet to the friend is sent. -/
  sendFriend : Bool

def emptyGcChat : GCChat where
  group := []
  moderation :=
    { sanctions := []
      sanctionsCreds := { version := 0, hash := zeroDigest, checksum := 0
                          sigPk := Vector.replicate _ 0, sig := Vector.replicate _ 0 }
      modList := []
      founderPublicSigKey := Vector.replicate _ 0
      selfPublicSigKey := Vector.replicate _ 0
      selfSecretSigKey := Vector.replicate _ 0
      sharedStateVersion := 0 }
  connectionState := .none
  sharedState :=
    { version := 0
      founderPublicKey := { enc := Vector.replicate _ 0, sig := Vector.replicate _ 0 }
      maxpeers := 0
      groupNameLen := 0
      groupName := Vector.replicate _ 0
      privacyState := 0
      passwordLength := 0
      password := Vector.replicate _ 0
      modListHash := zeroDigest
      topicLock := 0
      voiceState := 0 }
  sharedStateSig := Vector.replicate _ 0
  topicInfo := { version := 0, checksum := 0, topic := [], publicSigKey := Vector.replicate _ 0 }
  topicSig := Vector.replicate _ 0
  topicPrevChecksum := 0
  topicTimeSet := 0
  peersChecksum := 0
  rolesChecksum := 0
  chatPublicKey := { enc := Vector.replicate _ 0, sig := Vector.replicate _ 0 }
  selfPublicKey := { enc := Vector.replicate _ 0, sig := Vector.replicate _ 0 }
  selfSecretKey := Vector.replicate _ 0
  joinType := 0
  timeConnected := 0
  lastPingInterval := 0
  lastSyncRequest := 0
  lastSyncResponsePeerList := 0
  connectionOMetre := 0
  blockHandshakes := false

/-- A slot of zero bytes. -/
def emptySlot : GCSlot where
  chat := emptyGcChat
  savedInvites := List.replicate maxGcSavedInvites 0
  savedInvitesIndex := 0

def GCChat.groupCanHandlePackets (chat : GCChat) : Bool :=
  chat.connectionState == .connecting || chat.connectionState == .connected

def GCConnection.gccSaveTcpRelay (gconn : GCConnection) (random : Nat) (tcpNode : NodeFormat) :
    Bool × GCConnection :=
  if !ipportIsset tcpNode.ipPort then (false, gconn)
  else if gconn.tcpRelays.any (·.publicKey == tcpNode.publicKey) then (false, gconn)
  else if gconn.tcpRelays.length ≥ maxFriendTcpConnections then
    (true, { gconn with tcpRelays := gconn.tcpRelays.set (random % gconn.tcpRelays.length) tcpNode })
  else (true, { gconn with tcpRelays := gconn.tcpRelays ++ [tcpNode] })

def addGcTcpRelays (env : InviteEnv) : List NodeFormat → GCConnection → Nat × GCConnection
  | [], gconn => (0, gconn)
  | node :: nodes, gconn =>
    if !env.addTcpRelayConnection node then addGcTcpRelays env nodes gconn
    else
      match gconn.gccSaveTcpRelay env.random node with
      | (false, gconn) => addGcTcpRelays env nodes gconn
      | (true, gconn) =>
        let (added, gconn) := addGcTcpRelays env nodes gconn
        (added + 1, gconn)

namespace GCSlot

variable (slot : GCSlot)

def gcInviteFriend (env : InviteEnv) (friendNumber : Int) : Bool × GCSlot :=
  if !env.friendIsValid friendNumber then (false, slot)
  else if !env.sendFriend then (false, slot)
  else
    (true, { slot with
      savedInvites := slot.savedInvites.set slot.savedInvitesIndex friendNumber
      savedInvitesIndex := (slot.savedInvitesIndex + 1) % maxGcSavedInvites })

def friendWasInvited (env : InviteEnv) (friendNumber : Int) : Bool × GCSlot :=
  match slot.savedInvites.findIdx? (· == friendNumber) with
  | none => (false, slot)
  | some i =>
    (env.friendIsValid friendNumber, { slot with savedInvites := slot.savedInvites.set i (-1) })

/-- `handle_gc_invite_accepted_packet` from `peer_add` on. -/
def acceptInvite (env : InviteEnv) (friendNumber : Int) (inviteChatPk : PublicKey) : Bool × GCSlot :=
  let (added, chat) := slot.chat.peerAdd env.toChatEnv none inviteChatPk
  match { slot with chat }.friendWasInvited env friendNumber with
  | (false, slot) => (false, slot)
  | (true, slot) =>
    match added with
    | .exists | .failed => (false, slot)
    | .added peerNumber =>
      let withIp := fun (link : PeerLink) =>
        match env.friendIpPort with
        | none => link
        | some ipPort => link.withConn { link.gconn with ipPort }
      let relays := env.relays.take gccMaxTcpSharedRelays
      let slot := { slot with chat := slot.chat.modifyLink peerNumber withIp }
      if relays.length = 0 ∧ env.friendIpPort.isNone then (false, slot)
      else
        match slot.chat.group[peerNumber]? with
        | none => (false, slot)
        | some peer =>
          let (relaysAdded, gconn) := addGcTcpRelays env relays peer.link.gconn
          let slot :=
            { slot with chat := slot.chat.modifyLink peerNumber fun link => link.withConn gconn }
          let nodesLen := (packNodes (UInt16.ofNat (gccMaxTcpSharedRelays * packedNodeSizeIp6)) relays).1.getD 0
          if relays.length > 0 ∧ (relaysAdded = 0 ∨ nodesLen = 0) ∧ env.friendIpPort.isNone then
            (false, slot)
          else (env.friendIsValid friendNumber && env.sendFriend, slot)

end GCSlot

namespace GCSession

variable (session : GCSession)

def getNewGroupIndex : Nat × GCSession :=
  match session.chats.findIdx? (·.chat.connectionState == .none) with
  | some i => (i, session)
  | none =>
    (session.chats.length,
      { chats := session.chats ++ [{ emptySlot with savedInvites := List.replicate maxGcSavedInvites (-1) }] })

/-- A new group takes a slot. All fields are set but those of the saved invites. -/
def newGroup (chat : GCChat) : Nat × GCSession :=
  let (groupNumber, session) := session.getNewGroupIndex
  (groupNumber, { chats := session.chats.modify groupNumber fun slot => { slot with chat } })

def groupDelete (groupNumber : Nat) : GCSession :=
  { chats := (session.chats.modify groupNumber fun _ => emptySlot).rdropWhile
      fun slot => slot.chat.connectionState == .none }

def gcGetGroupByPublicKey (publicKey : SigPublicKey) : Option Nat :=
  session.chats.findIdx? fun slot =>
    slot.chat.connectionState != .none && slot.chat.chatPublicKey.sig == publicKey

def handleGcInviteAcceptedPacket (env : InviteEnv) (friendNumber : Int) (data : Bytes) :
    Bool × GCSession :=
  if data.length < gcJoinDataLength then (false, session)
  else
    match session.gcGetGroupByPublicKey (bytesToVector _ data) with
    | none => (false, session)
    | some groupNumber =>
      match session.chats[groupNumber]? with
      | none => (false, session)
      | some slot =>
        if !slot.chat.groupCanHandlePackets then (false, session)
        else
          let (result, slot) :=
            slot.acceptInvite env friendNumber (bytesToVector _ (data.drop sigPublicKeySize))
          (result, { chats := session.chats.set groupNumber slot })

end GCSession

end Toxcore

import Mathlib.Data.List.Sort
import Toxcore.Native.FriendConnection

/-!
# Conferences

The peer table and the connections of a conference, from `group.c`.  A conference keeps its
active peers in `group` and inactive ones in `frozen`; it has connections to the peers that
are closest to it, to peers that it introduces to the conference and to peers that introduce
it.  Allocations succeed here.

`Conference` is a conference together with the friend connections; the functions of the
source find both through `Group_Chats`.
-/

namespace Toxcore

def maxNameLength : Nat := 128

def desiredClosest : Nat := 4

def maxGroupConnections : Nat := 16

def maxFrozenDefault : UInt32 := 128

def minEmptyConnections : Nat := 1 + maxGroupConnections / 10

/-- A nick or title; `nick_len` and `title_len` never exceed `MAX_NAME_LENGTH`. -/
def Name : Type := { name : Bytes // name.length ≤ maxNameLength }

instance : DecidableEq Name :=
  inferInstanceAs (DecidableEq { name : Bytes // name.length ≤ maxNameLength })

def Name.empty : Name := ⟨[], Nat.zero_le _⟩

/-- `GROUPCHAT_CONNECTION_REASON_*` -/
inductive Reason where
  | closest
  | introducing
  | introducer
deriving DecidableEq

/-- The bit of a reason. -/
def Reason.flag : Reason → UInt8
  | .closest => 1
  | .introducing => 2
  | .introducer => 4

inductive GroupchatConnectionType where
  | none
  | connecting
  | online
deriving DecidableEq

inductive GroupchatStatus where
  | none
  | valid
  | connected
deriving DecidableEq

inductive GroupchatClosestChange where
  | none
  | added
  | removed
deriving DecidableEq

structure MessageInfo where
  messageNumber : UInt32
  messageId : UInt8
deriving DecidableEq

/-- `Group_Peer`, without the client's `object` -/
structure GroupPeer where
  realPk : PublicKey
  tempPk : PublicKey
  tempPkUpdated : Bool
  isFriend : Bool
  lastActive : UInt64
  lastMessageInfos : Vector MessageInfo 8
  numLastMessageInfos : UInt8
  nick : Name
  nickUpdated : Bool
  peerNumber : UInt16
  recvLossy : Vector UInt8 256
  bottomLossyNumber : UInt16
  topLossyNumber : UInt16
deriving DecidableEq

def emptyGroupPeer : GroupPeer where
  realPk := Vector.replicate _ 0
  tempPk := Vector.replicate _ 0
  tempPkUpdated := false
  isFriend := false
  lastActive := 0
  lastMessageInfos := Vector.replicate _ { messageNumber := 0, messageId := 0 }
  numLastMessageInfos := 0
  nick := .empty
  nickUpdated := false
  peerNumber := 0
  recvLossy := Vector.replicate _ 0
  bottomLossyNumber := 0
  topLossyNumber := 0

structure GroupchatConnection where
  type : GroupchatConnectionType
  reasons : UInt8
  number : Nat
  groupNumber : UInt16
deriving DecidableEq

namespace GroupchatConnection

def used (connection : GroupchatConnection) : Bool := connection.type != .none

def has (connection : GroupchatConnection) (reason : Reason) : Bool :=
  connection.reasons &&& reason.flag != 0

end GroupchatConnection

structure GroupchatClosest where
  active : Bool
  realPk : PublicKey
  tempPk : PublicKey
deriving DecidableEq

/-- `Group_c`, without the client's object and callbacks -/
structure GroupC where
  status : GroupchatStatus
  needSendName : Bool
  titleFresh : Bool
  group : List GroupPeer
  frozen : List GroupPeer
  maxfrozen : UInt32
  connections : Vector GroupchatConnection maxGroupConnections
  realPk : PublicKey
  closestPeers : Vector GroupchatClosest desiredClosest
  changed : GroupchatClosestChange
  type : UInt8
  id : PublicKey
  title : Name
  messageNumber : UInt32
  lossyMessageNumber : UInt16
  peerNumber : UInt16
  numIntroducerConnections : UInt32
deriving DecidableEq

def emptyGroupC : GroupC where
  status := .none
  needSendName := false
  titleFresh := false
  group := []
  frozen := []
  maxfrozen := 0
  connections := Vector.replicate _ { type := .none, reasons := 0, number := 0, groupNumber := 0 }
  realPk := Vector.replicate _ 0
  closestPeers := Vector.replicate _
    { active := false, realPk := Vector.replicate _ 0, tempPk := Vector.replicate _ 0 }
  changed := .none
  type := 0
  id := Vector.replicate _ 0
  title := .empty
  messageNumber := 0
  lossyMessageNumber := 0
  peerNumber := 0
  numIntroducerConnections := 0

/-- What the environment decides. -/
structure GroupEnv where
  /-- `mono_time_get`, in seconds -/
  now : UInt64
  /-- `getfriend_id` finds a friend. -/
  isFriend : PublicKey → Bool
  /-- The `write_cryptpacket` of `try_send_rejoin` -/
  writeCryptpacket : Bool
  /-- The `onion_addfriend` of `new_friend_connection` -/
  onion : PublicKey → Bool
  /-- The contents of a key buffer that `get_friendcon_public_keys` did not write. -/
  uninitialized : PublicKey

/-- The last entry moves into the gap that a removed one leaves. -/
def swapRemove {α : Type} (list : List α) (index : Nat) : List α :=
  match list[list.length - 1]? with
  | none => list
  | some last => (list.set index last).take (list.length - 1)

/-! ## Closest peers -/

def calculateCompValue (pk₁ pk₂ : PublicKey) : UInt64 :=
  let value (pk : PublicKey) : UInt64 :=
    (pk.toList.take 8).foldl (fun cmp b => (cmp <<< 8) + b.toUInt64) 0
  value pk₁ - value pk₂

namespace GroupC

variable (g : GroupC)

/-- One half of the search of `add_to_closest` for a peer to replace: the index and `comp_d`. -/
def replaceIndex (compVal : UInt64) (comp : PublicKey → UInt64) (found : Option Nat × UInt64)
    (indices : List Nat) : Option Nat × UInt64 :=
  indices.foldl (fun found i =>
    match g.closestPeers[i]? with
    | none => found
    | some peer =>
      if comp peer.realPk > compVal ∧ comp peer.realPk > found.2 then (some i, comp peer.realPk)
      else found) found

/-- The index at which `add_to_closest` stores a peer. -/
def closestIndex (realPk : PublicKey) : Option Nat :=
  match g.closestPeers.toList.findIdx? fun peer => !peer.active with
  | some i => some i
  | none =>
    let found := g.replaceIndex (calculateCompValue g.realPk realPk)
      (calculateCompValue g.realPk ·) (none, 0) [0, 1]
    (g.replaceIndex (calculateCompValue realPk g.realPk) (calculateCompValue · g.realPk) found [2, 3]).1

/-- `add_to_closest`. A replaced peer is added again; replacing brings a slot closer, so that none of the 120
    arrangements of five peers in four slots and in the hand occurs twice. -/
def addToClosestLoop : (fuel : Nat) → GroupC → (realPk tempPk : PublicKey) → Bool × GroupC
  | 0, g, _, _ => (false, g)
  | fuel + 1, g, realPk, tempPk =>
    if g.realPk = realPk then (false, g)
    else if g.closestPeers.any fun peer => peer.active && peer.realPk == realPk then (true, g)
    else
      match g.closestIndex realPk with
      | none => (false, g)
      | some index =>
        let old := g.closestPeers[index]?.filter (·.active)
        let g := { g with closestPeers :=
          g.closestPeers.setIfInBounds index { active := true, realPk, tempPk } }
        let g := match old with
          | none => g
          | some peer => (addToClosestLoop fuel g peer.realPk peer.tempPk).2
        (true, if g.changed = .none then { g with changed := .added } else g)

def addToClosest (realPk tempPk : PublicKey) : Bool × GroupC :=
  addToClosestLoop 121 g realPk tempPk

def pkInClosestPeers (realPk : PublicKey) : Bool :=
  g.closestPeers.any fun peer => peer.active && peer.realPk == realPk

def removeFromClosest (realPk : PublicKey) : GroupC :=
  match g.closestPeers.toList.findIdx? fun peer => peer.active && peer.realPk == realPk with
  | none => g
  | some i =>
    match g.closestPeers[i]? with
    | none => g
    | some peer =>
      { g with
        closestPeers := g.closestPeers.setIfInBounds i { peer with active := false }
        changed := .removed }

/-! ## Peers -/

def peerInGroup (realPk : PublicKey) : Option Nat :=
  g.group.findIdx? fun peer => peer.realPk == realPk

def frozenInGroup (realPk : PublicKey) : Option Nat :=
  g.frozen.findIdx? fun peer => peer.realPk == realPk

def getPeerIndex (peerNumber : UInt16) : Option Nat :=
  g.group.findIdx? fun peer => peer.peerNumber == peerNumber

def getFrozenIndex (peerNumber : UInt16) : Option Nat :=
  g.frozen.findIdx? fun peer => peer.peerNumber == peerNumber

def deleteFrozen (frozenIndex : Nat) : Bool × GroupC :=
  if frozenIndex ≥ g.frozen.length then (false, g)
  else (true, { g with frozen := swapRemove g.frozen frozenIndex })

/-- The part of `note_peer_active` that thaws the frozen peer `peer`. -/
def thawPeer (env : GroupEnv) (frozenIndex : Nat) (peer : GroupPeer) : GroupC :=
  let peer := { peer with tempPkUpdated := false, lastActive := env.now }
  let g' := (g.addToClosest peer.realPk peer.tempPk).2
  let g' := { g' with group := g.group ++ [peer] }
  { (g'.deleteFrozen frozenIndex).2 with needSendName := true }

def notePeerActive (env : GroupEnv) (peerNumber : UInt16) : Option Nat × GroupC :=
  match g.getPeerIndex peerNumber with
  | some peerIndex =>
    (some peerIndex,
      { g with group := g.group.modify peerIndex fun peer => { peer with lastActive := env.now } })
  | none =>
    match g.getFrozenIndex peerNumber with
    | none => (none, g)
    | some frozenIndex =>
      match g.frozen[frozenIndex]? with
      | none => (none, g)
      | some peer => (some g.group.length, g.thawPeer env frozenIndex peer)

/-- `cmp_frozen` is not positive: friends first, and more recently active peers earlier. -/
def cmpFrozen (a b : GroupPeer) : Bool :=
  if a.isFriend != b.isFriend then a.isFriend else b.lastActive ≤ a.lastActive

def deleteOldFrozen : Bool × GroupC :=
  if g.frozen.length ≤ g.maxfrozen.toNat then (false, g)
  else
    (true, { g with frozen := (g.frozen.insertionSort (cmpFrozen · ·)).take g.maxfrozen.toNat })

def setnick (peerIndex : Nat) (nick : Name) : GroupC :=
  { g with group := g.group.modify peerIndex fun peer => { peer with nick, nickUpdated := true } }

/-! ## Connections -/

def friendInConnections (friendconId : Nat) : Option Nat :=
  g.connections.toList.findIdx? fun connection =>
    connection.used && connection.number == friendconId

/-- The slot that `add_conn_to_groupchat` uses: the last one that is empty. -/
def emptySlot : Option Nat :=
  (List.range maxGroupConnections).reverse.find? fun i =>
    g.connections[i]?.any fun connection => !connection.used

/-- Change one connection. -/
def modifyConnection (i : Nat) (f : GroupchatConnection → GroupchatConnection) : GroupC :=
  match g.connections[i]? with
  | none => g
  | some connection => { g with connections := g.connections.setIfInBounds i (f connection) }

def addReason (i : Nat) (reason : Reason) : GroupC :=
  if g.connections[i]?.any fun connection => !connection.has reason then
    let g := g.modifyConnection i fun connection =>
      { connection with reasons := connection.reasons ||| reason.flag }
    if reason = .introducer then
      { g with numIntroducerConnections := g.numIntroducerConnections + 1 }
    else g
  else g

def squashConnections : GroupC :=
  let used := g.connections.toList.filter (·.used)
  { g with connections :=
    ⟨(used ++ (g.connections.toList.drop used.length).map
      fun connection : GroupchatConnection => { connection with type := .none }).toArray, by
      have h : (g.connections.toList.filter (·.used)).length ≤ g.connections.toList.length :=
        List.length_filter_le _ _
      simp only [Vector.length_toList] at h
      simp only [List.size_toArray, List.length_append, List.length_map, List.length_drop,
        Vector.length_toList, used]
      omega⟩ }

/-- `empty_connection_count`: how many connections have to be removed. -/
def emptyConnectionCount : Nat :=
  minEmptyConnections - g.connections.toList.countP fun connection => !connection.used

/-- The connection that `clean_connections` removes. -/
def cleanIndex (toClear : Nat) : Nat :=
  match g.connections.toList.findIdx? fun connection =>
      connection.type == .connecting && !connection.has .closest with
  | some i => i
  | none =>
    match (g.connections.toList.take (maxGroupConnections - toClear)).findIdx? fun connection =>
        connection.type == .online && !connection.has .closest with
    | some i => i
    | none => maxGroupConnections - toClear

end GroupC

/-- A conference and the friend connections. -/
structure Conference where
  g : GroupC
  frC : FriendConnections

namespace Conference

variable (conf : Conference)

def removeConnection (i : Nat) : Conference :=
  match conf.g.connections[i]? with
  | none => conf
  | some connection =>
    let g := if connection.has .introducer then
        { conf.g with numIntroducerConnections := conf.g.numIntroducerConnections - 1 }
      else conf.g
    { g := g.modifyConnection i fun connection => { connection with type := .none }
      frC := conf.frC.killFriendConnection connection.number }

/-- `remove_connection_reason`, without the packet that it may send -/
def removeConnectionReason (i : Nat) (reason : Reason) : Conference :=
  match conf.g.connections[i]? with
  | none => conf
  | some connection =>
    if !connection.has reason then conf
    else
      let reasons := connection.reasons &&& ~~~reason.flag
      let g := conf.g.modifyConnection i fun connection => { connection with reasons }
      let g := if reason = .introducer then
          { g with numIntroducerConnections := g.numIntroducerConnections - 1 }
        else g
      if reasons = 0 then
        { g := g.modifyConnection i fun connection => { connection with type := .none }
          frC := conf.frC.killFriendConnection connection.number }
      else { conf with g }

def addConnToGroupchat (friendconId : Nat) (reason : Reason) (lock : Bool) :
    Option Nat × Conference :=
  match conf.g.friendInConnections friendconId with
  | some ind => (some ind, { conf with g := conf.g.addReason ind reason })
  | none =>
    match conf.g.emptySlot with
    | none => (none, conf)
    | some empty =>
      let g := conf.g.modifyConnection empty fun connection =>
        { connection with type := .connecting, number := friendconId, reasons := 0 }
      (some empty,
        { g := g.addReason empty reason
          frC := if lock then conf.frC.friendConnectionLock friendconId else conf.frC })

/-- The loop body of `purge_closest`. -/
def purgeSlot (env : GroupEnv) (conf : Conference) (i : Nat) : Conference :=
  match conf.g.connections[i]? with
  | none => conf
  | some connection =>
    if !connection.used || !connection.has .closest then conf
    else
      let realPk := (conf.frC.getFriendconPublicKeys connection.number).getD env.uninitialized
      if !conf.g.pkInClosestPeers realPk then conf.removeConnectionReason i .closest else conf

def purgeClosest (env : GroupEnv) : Conference :=
  (List.range maxGroupConnections).foldl (purgeSlot env) conf

/-- The loop body of `add_closest_connections`, without the packet that it may send. -/
def addClosestConnection (env : GroupEnv) (conf : Conference) (i : Nat) : Conference :=
  match conf.g.closestPeers[i]? with
  | none => conf
  | some peer =>
    if !peer.active then conf
    else
      match conf.frC.getfriendConnIdPk peer.realPk with
      | some friendconId => (conf.addConnToGroupchat friendconId .closest true).2
      | none =>
        match conf.frC.newFriendConnection (env.onion peer.realPk) peer.realPk with
        | (none, frC) => { conf with frC }
        | (some friendconId, frC) =>
          match { conf with frC }.addConnToGroupchat friendconId .closest false with
          | (none, conf) => { conf with frC := conf.frC.killFriendConnection friendconId }
          | (some _, conf) => conf

def addClosestConnections (env : GroupEnv) : Conference :=
  (List.range desiredClosest).foldl (addClosestConnection env) conf

/-- The part of `connect_to_closest` that fills up the closest peers. -/
def fillClosest : Conference :=
  if conf.g.changed = .removed then
    { conf with g :=
      conf.g.group.foldl (fun g peer => (g.addToClosest peer.realPk peer.tempPk).2) conf.g }
  else conf

def connectToClosest (env : GroupEnv) : Conference :=
  if conf.g.changed = .none then conf
  else
    let conf := (conf.fillClosest.purgeClosest env).addClosestConnections env
    { conf with g := { conf.g with changed := .none } }

def cleanConnections : Conference :=
  let conf := ((List.range conf.g.emptyConnectionCount).map (· + 1)).reverse.foldl
    (fun conf toClear =>
      let i := conf.g.cleanIndex toClear
      if conf.g.connections[i]?.any (·.used) then conf.removeConnection i else conf) conf
  { conf with g := conf.g.squashConnections }

def trySendRejoin (env : GroupEnv) (realPk : PublicKey) : Conference :=
  match conf.frC.getfriendConnIdPk realPk with
  | none => conf
  | some friendconId =>
    if !env.writeCryptpacket then conf
    else (conf.addConnToGroupchat friendconId .introducer true).2

/-! ## Removing and adding peers -/

def delpeer (peerIndex : Nat) : Conference :=
  match conf.g.group[peerIndex]? with
  | none => conf
  | some peer =>
    let conf := { conf with g := conf.g.removeFromClosest peer.realPk }
    let conf := match conf.frC.getfriendConnIdPk peer.realPk with
      | none => conf
      | some friendconId =>
        match conf.g.friendInConnections friendconId with
        | none => conf
        | some i => conf.removeConnection i
    { conf with g := { conf.g with group := swapRemove conf.g.group peerIndex } }

def freezePeer (env : GroupEnv) (peerIndex : Nat) : Conference :=
  match conf.g.group[peerIndex]? with
  | none => conf
  | some peer =>
    let conf := (conf.delpeer peerIndex).trySendRejoin env peer.realPk
    { conf with g := { conf.g with frozen := conf.g.frozen ++ [peer] }.deleteOldFrozen.2 }

def deleteActivePeerWithPk (realPk : PublicKey) : Conference :=
  match conf.g.peerInGroup realPk with
  | none => conf
  | some peerIndex => conf.delpeer peerIndex

def deleteAnyPeerWithPk (realPk : PublicKey) : Conference :=
  let conf := conf.deleteActivePeerWithPk realPk
  match conf.g.frozenInGroup realPk with
  | none => conf
  | some frozenIndex => { conf with g := (conf.g.deleteFrozen frozenIndex).2 }

/-- The part of `addpeer` for a peer whose number is in use by `peer`. -/
def updatePeer (peerIndex : Nat) (peer : GroupPeer) (realPk tempPk : PublicKey) (fresh : Bool) :
    Option Nat × Conference :=
  if peer.realPk ≠ realPk then (none, conf)
  else if fresh || !peer.tempPkUpdated then
    (some peerIndex, { conf with g := { conf.g with
      group := conf.g.group.modify peerIndex fun peer =>
        { peer with tempPk, tempPkUpdated := true } } })
  else (some peerIndex, conf)

/-- The entry of a peer that `addpeer` adds. -/
def newPeer (env : GroupEnv) (realPk tempPk : PublicKey) (peerNumber : UInt16) : GroupPeer :=
  { emptyGroupPeer with
    realPk
    tempPk
    tempPkUpdated := true
    peerNumber
    lastActive := env.now
    isFriend := env.isFriend realPk }

/-- The part of `addpeer` that adds a new peer. -/
def addNewPeer (env : GroupEnv) (realPk tempPk : PublicKey) (peerNumber : UInt16) :
    Option Nat × Conference :=
  let conf := conf.deleteAnyPeerWithPk realPk
  let g := { conf.g with group := conf.g.group ++ [newPeer env realPk tempPk peerNumber] }
  (some conf.g.group.length, { conf with g := (g.addToClosest realPk tempPk).2 })

def addpeer (env : GroupEnv) (realPk tempPk : PublicKey) (peerNumber : UInt16) (fresh : Bool) :
    Option Nat × Conference :=
  let (peerIndex, g) := if fresh then conf.g.notePeerActive env peerNumber
    else (conf.g.getPeerIndex peerNumber, conf.g)
  let conf := { conf with g }
  match peerIndex with
  | some peerIndex =>
    match conf.g.group[peerIndex]? with
    | none => (none, conf)
    | some peer => conf.updatePeer peerIndex peer realPk tempPk fresh
  | none =>
    match (if fresh then none else conf.g.getFrozenIndex peerNumber) with
    | some frozenIndex =>
      (none, { conf with g := { conf.g with
        frozen := conf.g.frozen.modify frozenIndex fun peer =>
          if peer.realPk = realPk then { peer with tempPk } else peer } })
    | none => conf.addNewPeer env realPk tempPk peerNumber

/-! ## Connection status -/

/-- The loop of `check_disconnected` from `i` on: other peers are frozen. It removes a peer or goes on. -/
def checkDisconnectedLoop (env : GroupEnv) : (fuel : Nat) → (i : Nat) → Conference → Conference
  | 0, _, conf => conf
  | fuel + 1, i, conf =>
    match conf.g.group[i]? with
    | none => conf
    | some peer =>
      if peer.realPk ≠ conf.g.realPk then checkDisconnectedLoop env fuel i (conf.freezePeer env i)
      else checkDisconnectedLoop env fuel (i + 1) conf

def checkDisconnected (env : GroupEnv) : Conference :=
  if conf.g.connections.any fun connection => connection.type == .online then conf
  else checkDisconnectedLoop env conf.g.group.length 0 conf

/-- The loop body of `set_conns_type_connections` for a connection that went offline. -/
def setOffline (env : GroupEnv) (friendconId : Nat) (conf : Conference) (i : Nat) : Conference :=
  match conf.g.connections[i]? with
  | none => conf
  | some connection =>
    if !connection.used || connection.number ≠ friendconId then conf
    else
      { conf with g := conf.g.modifyConnection i fun connection =>
        { connection with type := .connecting } }.checkDisconnected env

def setConnsTypeConnections (env : GroupEnv) (friendconId : Nat) : Conference :=
  (List.range maxGroupConnections).foldl (setOffline env friendconId) conf

/-- What `handle_packet_online`, `send_invite_response` and `handle_friend_invite_packet` set to online. -/
def setOnline (i : Nat) (groupNumber : UInt16) : Conference :=
  { conf with g := conf.g.modifyConnection i fun connection =>
    { connection with type := .online, groupNumber } }

/-- What `send_invite_response` and `handle_friend_invite_packet` add, for members with a second reason. -/
def addInviteConn (friendconId : Nat) (first second : Reason) (member : Bool)
    (otherGroupnum : UInt16) : Conference :=
  let (connectionIndex, conf) := conf.addConnToGroupchat friendconId first true
  let conf := if member then (conf.addConnToGroupchat friendconId second false).2 else conf
  match connectionIndex with
  | none => conf
  | some i => conf.setOnline i otherGroupnum

/-- The indices that `send_lossy_all_connections` writes to `connected_closest`, in their order. -/
def connectedClosest (receiver : Option Nat) : List Nat :=
  (List.range maxGroupConnections).filter fun i =>
    conf.g.connections[i]?.any (fun connection => connection.type == .online &&
      connection.has .closest) && receiver != some i

end Conference

end Toxcore

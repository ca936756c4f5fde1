import Toxcore.Native.Group
import Toxcore.Native.State

/-!
# The list of conferences

Creating, joining and deleting conferences, and the part of the save file that holds them,
from `group.c`.  A pointer that does not point into its buffer is a `Fault`.
-/

namespace Toxcore

/-- Memory accesses without a defined result. -/
inductive Fault where
  | nullPointer
  /-- A read past the end of the data. -/
  | outOfBounds
deriving DecidableEq

/-- `Group_Chats`, with what it uses of the messenger -/
structure GroupChats where
  chats : List GroupC
  frC : FriendConnections
  /-- `nc_get_self_public_key` -/
  selfPublicKey : PublicKey
  /-- `dht_get_self_public_key` -/
  dhtPublicKey : PublicKey
  name : Name

def setupConference : GroupC := { emptyGroupC with maxfrozen := maxFrozenDefault }

namespace GroupChats

variable (gC : GroupChats)

def getGroupC (groupnumber : Nat) : Option GroupC :=
  gC.chats[groupnumber]?.filter fun g => g.status != .none

def getGroupNum (type : UInt8) (id : PublicKey) : Option Nat :=
  gC.chats.findIdx? fun g => g.type == type && g.id == id

/-- `create_group_chat`. The new number is a `uint16_t`: the 65536th conference frees the array. -/
def createGroupChat : Except Fault (Nat × GroupChats) :=
  match gC.chats.findIdx? fun g => g.status == .none with
  | some i => .ok (i, gC)
  | none =>
    if UInt16.ofNat (gC.chats.length + 1) = 0 then .error .nullPointer
    else .ok (gC.chats.length, { gC with chats := gC.chats ++ [setupConference] })

def wipeGroupChat (groupnumber : Nat) : GroupChats :=
  if groupnumber ≥ gC.chats.length then gC
  else
    { gC with chats := (gC.chats.set groupnumber emptyGroupC).rdropWhile fun g =>
        g.status == .none }

/-- Run a function of a conference, which changes it and the friend connections. -/
def onConference (groupnumber : Nat) (f : Conference → Conference) : GroupChats :=
  match gC.getGroupC groupnumber with
  | none => gC
  | some g =>
    let conf := f { g, frC := gC.frC }
    { gC with chats := gC.chats.set groupnumber conf.g, frC := conf.frC }

/-- The part of `add_groupchat` and `load_conferences_helper` that adds ourselves. -/
def addSelf (env : GroupEnv) (groupnumber : Nat) (peerNumber : UInt16) : Option Nat × GroupChats :=
  match gC.getGroupC groupnumber with
  | none => (none, gC)
  | some g =>
    match { g, frC := gC.frC : Conference }.addpeer env g.realPk gC.dhtPublicKey peerNumber true with
    | (none, conf) =>
      (none, { gC with chats := gC.chats.set groupnumber conf.g, frC := conf.frC })
    | (some peerIndex, conf) =>
      (some peerIndex, { gC with
        chats := gC.chats.set groupnumber (conf.g.setnick peerIndex gC.name), frC := conf.frC })

def addGroupchat (env : GroupEnv) (type : UInt8) (id : PublicKey) : Except Fault GroupChats := do
  let (groupnumber, gC) ← gC.createGroupChat
  let gC := { gC with chats := gC.chats.modify groupnumber fun g =>
    { g with status := .connected, type, id, peerNumber := 0, realPk := gC.selfPublicKey } }
  pure (gC.addSelf env groupnumber 0).2

/-- `join_groupchat`; `friendconId` is `getfriendcon_id`, and `sent` whether `send_invite_response` sends. -/
def joinGroupchat (friendconId : Option Nat) (sent : Bool) (type : UInt8) (id : PublicKey)
    (otherGroupnum : UInt16) : Except Fault GroupChats :=
  match friendconId with
  | none => .ok gC
  | some friendconId =>
    if (gC.getGroupNum type id).isSome then .ok gC
    else do
      let (groupnumber, gC) ← gC.createGroupChat
      if !sent then
        pure { gC with chats := gC.chats.modify groupnumber fun g =>
          { g with realPk := gC.selfPublicKey } }
      else
        let gC := { gC with chats := gC.chats.modify groupnumber fun g =>
          { g with status := .valid, realPk := gC.selfPublicKey, type, id } }
        pure (gC.onConference groupnumber fun conf =>
          conf.addInviteConn friendconId .introducer .introducing false otherGroupnum)

def delGroupchat (groupnumber : Nat) : GroupChats :=
  match gC.getGroupC groupnumber with
  | none => gC
  | some g =>
    let frC := (g.connections.toList.filter (·.used)).foldl
      (fun frC connection => frC.killFriendConnection connection.number) gC.frC
    { gC with frC }.wipeGroupChat groupnumber

end GroupChats

end Toxcore

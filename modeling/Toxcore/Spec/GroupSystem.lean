import Toxcore.ForStd.TransitionSystem
import Toxcore.Native.GroupChats

/-!
# Runs of the conferences

The inputs of the conferences: the functions of the client, the handlers of packets and of connection changes,
the main loop, and the friends of the messenger. The handlers look for a connection among the slots in use, so
that functions that take a slot are called for such slots.
-/

namespace Toxcore

inductive ConferenceInput where
  | addpeer (realPk tempPk : PublicKey) (peerNumber : UInt16) (fresh : Bool)
  | notePeerActive (peerNumber : UInt16)
  | freezePeer (peerIndex : Nat)
  | delpeer (peerIndex : Nat)
  | deleteFrozen (frozenIndex : Nat)
  | deleteOldFrozen
  | setMaxFrozen (maxfrozen : UInt32)
  | setnick (peerIndex : Nat) (nick : Name)
  /-- The connection of `send_invite_response` -/
  | inviteResponse (friendconId : Nat) (member : Bool) (otherGroupnum : UInt16)
  /-- The connection of `handle_friend_invite_packet` -/
  | inviteAccepted (friendconId : Nat) (member : Bool) (otherGroupnum : UInt16)
  /-- The connection of `handle_packet_rejoin` -/
  | rejoin (friendconId : Nat)
  /-- `try_send_rejoin`, for a friend that comes online -/
  | sendRejoin (realPk : PublicKey)
  | packetOnline (friendconId : Nat) (otherGroupnum : UInt16)
  /-- `set_conns_type_connections` for a friend connection that goes offline -/
  | offline (friendconId : Nat)
  | removeReason (i : Nat) (reason : Reason)
  | removeConnection (i : Nat)
  | connectToClosest
  | cleanConnections

namespace Conference

def onSlot (conf : Conference) (i : Nat) (f : Conference → Conference) : Conference :=
  if conf.g.connections[i]?.any (·.used) then f conf else conf

def onFriendcon (conf : Conference) (friendconId : Nat) (f : Conference → Conference) :
    Conference :=
  if (conf.frC.getConn friendconId).isSome then f conf else conf

def step (env : GroupEnv) (conf : Conference) : ConferenceInput → Conference
  | .addpeer realPk tempPk peerNumber fresh => (conf.addpeer env realPk tempPk peerNumber fresh).2
  | .notePeerActive peerNumber => { conf with g := (conf.g.notePeerActive env peerNumber).2 }
  | .freezePeer peerIndex => conf.freezePeer env peerIndex
  | .delpeer peerIndex => conf.delpeer peerIndex
  | .deleteFrozen frozenIndex => { conf with g := (conf.g.deleteFrozen frozenIndex).2 }
  | .deleteOldFrozen => { conf with g := conf.g.deleteOldFrozen.2 }
  | .setMaxFrozen maxfrozen => { conf with g := { conf.g with maxfrozen }.deleteOldFrozen.2 }
  | .setnick peerIndex nick => { conf with g := conf.g.setnick peerIndex nick }
  | .inviteResponse friendconId member otherGroupnum => conf.onFriendcon friendconId fun conf =>
    conf.addInviteConn friendconId .introducer .introducing member otherGroupnum
  | .inviteAccepted friendconId member otherGroupnum => conf.onFriendcon friendconId fun conf =>
    conf.addInviteConn friendconId .introducing .introducer member otherGroupnum
  | .rejoin friendconId => conf.onFriendcon friendconId fun conf =>
    (conf.addConnToGroupchat friendconId .introducing true).2
  | .sendRejoin realPk => conf.trySendRejoin env realPk
  | .packetOnline friendconId otherGroupnum =>
    match conf.g.friendInConnections friendconId with
    | none => conf
    | some i => conf.setOnline i otherGroupnum
  | .offline friendconId => conf.setConnsTypeConnections env friendconId
  | .removeReason i reason => conf.onSlot i fun conf => conf.removeConnectionReason i reason
  | .removeConnection i => conf.onSlot i fun conf => conf.removeConnection i
  | .connectToClosest => conf.connectToClosest env
  | .cleanConnections => conf.cleanConnections

end Conference

inductive GroupInput where
  | addGroupchat (type : UInt8) (id : PublicKey)
  /-- `join_groupchat`, invited by the `i`-th friend -/
  | joinGroupchat (i : Nat) (sent : Bool) (type : UInt8) (id : PublicKey) (otherGroupnum : UInt16)
  | delGroupchat (groupnumber : Nat)
  /-- A function of one conference -/
  | conference (groupnumber : Nat) (input : ConferenceInput)
  /-- A friend is added, with `new_friend_connection`. -/
  | addFriend (realPk : PublicKey)
  /-- The `i`-th friend is removed, with `kill_friend_connection`. -/
  | delFriend (i : Nat)

structure GroupState where
  gC : GroupChats
  friends : List Nat

namespace GroupState

def step (env : GroupEnv) (s : GroupState) : GroupInput → Except Fault GroupState
  | .addGroupchat type id => return { s with gC := ← s.gC.addGroupchat env type id }
  | .joinGroupchat i sent type id otherGroupnum =>
    return { s with gC := ← s.gC.joinGroupchat s.friends[i]? sent type id otherGroupnum }
  | .delGroupchat groupnumber => pure { s with gC := s.gC.delGroupchat groupnumber }
  | .conference groupnumber input =>
    pure { s with gC := s.gC.onConference groupnumber fun conf => conf.step env input }
  | .addFriend realPk =>
    match s.gC.frC.newFriendConnection (env.onion realPk) realPk with
    | (none, frC) => pure { s with gC := { s.gC with frC } }
    | (some friendconId, frC) =>
      pure { gC := { s.gC with frC }, friends := friendconId :: s.friends }
  | .delFriend i =>
    match s.friends[i]? with
    | none => pure s
    | some friendconId =>
      pure { gC := { s.gC with frC := s.gC.frC.killFriendConnection friendconId }
             friends := s.friends.eraseIdx i }

def run (env : GroupEnv) : GroupState → List GroupInput → GroupState
  | s, [] => s
  | s, input :: inputs =>
    match s.step env input with
    | .error _ => s
    | .ok s' => run env s' inputs

end GroupState

/-- Runs of the messenger from the start, when there are no friends and no conferences. -/
def groupSystem : TransitionSystem GroupState where
  init s := s.gC.chats = [] ∧ s.gC.frC.conns = [] ∧ s.friends = []
  step s s' := ∃ env input, s.step env input = .ok s'

theorem GroupState.reachable_run (env : GroupEnv) {s : GroupState} (h : groupSystem.Reachable s)
    (inputs : List GroupInput) : groupSystem.Reachable (s.run env inputs) := by
  induction inputs generalizing s with
  | nil => exact h
  | cons input inputs ih =>
    rw [run]
    cases hstep : s.step env input with
    | error => exact h
    | ok s' => exact ih (.step h ⟨env, input, hstep⟩)

def emptyGroupState : GroupState where
  gC := { chats := [], frC := { conns := [] }, selfPublicKey := Vector.replicate _ 1,
          dhtPublicKey := Vector.replicate _ 4, name := .empty }
  friends := []

def quietEnv : GroupEnv where
  now := 1
  isFriend _ := false
  writeCryptpacket := true
  onion _ := true
  uninitialized := Vector.replicate _ 0

end Toxcore

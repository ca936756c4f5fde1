import Mathlib.Data.List.DropRight
import Toxcore.Native.CryptoCore

/-!
# Friend connections

The connections of `friend_connection.c`, which the friends of the messenger and the
conferences share: a connection is found by its key and is wiped when the last of its users
gives it up.  The part that talks to the onion and to the DHT is left out.

`lock_count` is a number here; each friend and each of the 65535 conferences hold a
connection at most once.
-/

namespace Toxcore

inductive FriendconnStatus where
  | none
  | connecting
  | connected
deriving DecidableEq

structure FriendConn where
  status : FriendconnStatus
  realPublicKey : PublicKey
  lockCount : Nat
deriving DecidableEq

def emptyFriendConn : FriendConn :=
  { status := .none, realPublicKey := Vector.replicate _ 0, lockCount := 0 }

structure FriendConnections where
  conns : List FriendConn
deriving DecidableEq

namespace FriendConnections

variable (frC : FriendConnections)

/-- `get_conn`; `none` is the null pointer. -/
def getConn (friendconId : Nat) : Option FriendConn :=
  match frC.conns[friendconId]? with
  | none => none
  | some friendCon => if friendCon.status = .none then none else some friendCon

def getfriendConnIdPk (realPk : PublicKey) : Option Nat :=
  (List.range frC.conns.length).find? fun i =>
    (frC.getConn i).any fun friendCon => friendCon.realPublicKey == realPk

def createFriendConn : Nat × FriendConnections :=
  match frC.conns.findIdx? fun friendCon => friendCon.status == .none with
  | some i => (i, frC)
  | none => (frC.conns.length, { conns := frC.conns ++ [emptyFriendConn] })

def wipeFriendConn (friendconId : Nat) : FriendConnections :=
  match frC.getConn friendconId with
  | none => frC
  | some _ =>
    { conns := (frC.conns.set friendconId emptyFriendConn).rdropWhile fun friendCon =>
        friendCon.status == .none }

def friendConnectionLock (friendconId : Nat) : FriendConnections :=
  match frC.getConn friendconId with
  | none => frC
  | some friendCon =>
    { conns := frC.conns.set friendconId { friendCon with lockCount := friendCon.lockCount + 1 } }

def getFriendconPublicKeys (friendconId : Nat) : Option PublicKey :=
  (frC.getConn friendconId).map (·.realPublicKey)

def newFriendConnection (onion : Bool) (realPublicKey : PublicKey) :
    Option Nat × FriendConnections :=
  match frC.getfriendConnIdPk realPublicKey with
  | some friendconId => (some friendconId, frC.friendConnectionLock friendconId)
  | none =>
    match frC.createFriendConn with
    | (friendconId, frC) =>
      if !onion then (none, frC)
      else
        -- the slot was wiped, so its lock count is zero
        (some friendconId,
          { conns := frC.conns.modify friendconId fun friendCon =>
              { friendCon with status := .connecting, realPublicKey } })

def killFriendConnection (friendconId : Nat) : FriendConnections :=
  match frC.getConn friendconId with
  | none => frC
  | some friendCon =>
    if 0 < friendCon.lockCount then
      { conns := frC.conns.set friendconId { friendCon with lockCount := friendCon.lockCount - 1 } }
    else frC.wipeFriendConn friendconId

end FriendConnections

end Toxcore

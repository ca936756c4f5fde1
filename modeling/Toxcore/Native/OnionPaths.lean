import Toxcore.Native.Onion
import Toxcore.Native.PingArray
import Mathlib.Logic.Function.Basic

/-!
# The paths of the onion client

The paths in `onion_client.c` through which requests are sent, for the client itself and for its friends.  The nodes
of a new path are taken from outside; those that a successful path hands to `onion_add_path_node` are left out.
-/

namespace Toxcore

def numberOnionPaths : Nat := 6

def onionPathFirstTimeout : UInt64 := 4

def onionPathTimeout : UInt64 := 10

def onionPathMaxLifetime : UInt64 := 1200

def onionPathMaxNoResponseUses : UInt32 := 4

/-- `UINT32_MAX` -/
def anyPathNum : UInt32 := 4294967295

/-- The entries of one index in the arrays of `Onion_Client_Paths`. -/
structure OnionClientPath where
  path : OnionPath
  pathNum : UInt32
  lastPathSuccess : UInt64
  lastPathUsed : UInt64
  pathCreationTime : UInt64
  lastPathUsedTimes : UInt32

abbrev OnionClientPaths := Fin numberOnionPaths → OnionClientPath

/-- `onion_paths_self` and `onion_paths_friends` -/
inductive PathTable where
  | self
  | friends
deriving DecidableEq

/-- The table for a number of `client_send_announce_request` and `set_path_timeouts`. -/
def pathTable (num : UInt32) : PathTable := if num = 0 then .self else .friends

def pathIndex (pathNum : UInt32) : Fin numberOnionPaths :=
  ⟨pathNum.toNat % numberOnionPaths, Nat.mod_lt _ (by decide)⟩

structure PathNodes where
  node1 : NodeFormat
  node2 : NodeFormat
  node3 : NodeFormat

/-- What `random_path` takes from outside. -/
structure PathEnv where
  now : UInt64
  randomRange : Fin numberOnionPaths
  /-- The result of `random_nodes_path_onion`, if there are enough nodes. -/
  nodes : Option PathNodes
  keyPair2 : KeyPair
  keyPair3 : KeyPair
  random : UInt32

def pathTimedOut (now : UInt64) (paths : OnionClientPaths) (i : Fin numberOnionPaths) : Bool :=
  let timeout :=
    if (paths i).lastPathSuccess = (paths i).pathCreationTime then onionPathFirstTimeout else onionPathTimeout
  ((paths i).lastPathUsedTimes ≥ onionPathMaxNoResponseUses && monoTimeIsTimeout now (paths i).lastPathUsed timeout) ||
    monoTimeIsTimeout now (paths i).pathCreationTime onionPathMaxLifetime

def isPathUsed (now : UInt64) (paths : OnionClientPaths) (nodes : PathNodes) : Option (Fin numberOnionPaths) :=
  (List.finRange numberOnionPaths).find? fun i =>
    !monoTimeIsTimeout now (paths i).lastPathSuccess onionPathTimeout &&
      !monoTimeIsTimeout now (paths i).pathCreationTime onionPathMaxLifetime &&
      ipportEqual (paths i).path.ipPort1 nodes.node3.ipPort

def newPathNum (random : UInt32) (i : Fin numberOnionPaths) : UInt32 := random / 6 * 6 + UInt32.ofNat i.val

/-- The part of `random_path` that chooses the index: the nodes are those of the path that is created there; `none` is
    `-1`. -/
def choosePath (env : PathEnv) (paths : OnionClientPaths) (pathNum : UInt32) :
    Option (Fin numberOnionPaths × Option PathNodes) :=
  let i := if pathNum = anyPathNum then env.randomRange else pathIndex pathNum
  if !pathTimedOut env.now paths i then some (i, none)
  else
    match env.nodes with
    | none => none
    | some nodes =>
      match isPathUsed env.now paths nodes with
      | none => some (i, some nodes)
      | some n => some (n, none)

section tables

variable (box : CryptoBox) (dhtKeys : KeyPair) (env : PathEnv)

def createPath (nodes : PathNodes) (i : Fin numberOnionPaths) (entry : OnionClientPath) : OnionClientPath where
  path := createOnionPath box dhtKeys env.keyPair2 env.keyPair3 entry.path nodes.node1 nodes.node2 nodes.node3
  pathNum := newPathNum env.random i
  lastPathSuccess := env.now
  lastPathUsed := entry.lastPathUsed
  pathCreationTime := env.now
  lastPathUsedTimes := onionPathMaxNoResponseUses / 2

def usePath (now : UInt64) (entry : OnionClientPath) : OnionClientPath :=
  { entry with
    lastPathUsed := if entry.lastPathUsedTimes < onionPathMaxNoResponseUses then now else entry.lastPathUsed
    lastPathUsedTimes := entry.lastPathUsedTimes + 1 }

def randomPath (paths : OnionClientPaths) (pathNum : UInt32) : Option (Fin numberOnionPaths) × OnionClientPaths :=
  match choosePath env paths pathNum with
  | none => (none, paths)
  | some (i, none) => (some i, Function.update paths i (usePath env.now (paths i)))
  | some (i, some nodes) =>
    (some i, Function.update paths i (usePath env.now (createPath box dhtKeys env nodes i (paths i))))

end tables

def pathExists (now : UInt64) (paths : OnionClientPaths) (pathNum : UInt32) : Bool :=
  if pathTimedOut now paths (pathIndex pathNum) then false else (paths (pathIndex pathNum)).pathNum == pathNum

/-- A response came over a path. -/
def creditPath (now : UInt64) (paths : OnionClientPaths) (i : Fin numberOnionPaths) : OnionClientPaths :=
  Function.update paths i { paths i with lastPathSuccess := now, lastPathUsedTimes := 0 }

def setPathTimeouts (now : UInt64) (numFriends : UInt16) (tables : PathTable → OnionClientPaths) (num pathNum : UInt32) :
    UInt32 × (PathTable → OnionClientPaths) :=
  if num.toNat > numFriends.toNat then (anyPathNum, tables)
  else
    let paths := tables (pathTable num)
    if (paths (pathIndex pathNum)).pathNum = pathNum then
      (pathNum, Function.update tables (pathTable num) (creditPath now paths (pathIndex pathNum)))
    else (anyPathNum, tables)

end Toxcore

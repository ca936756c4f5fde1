import Toxcore.Native.ModerationCalls
import Toxcore.Native.NgcPack

/-!
# Loading a group from any bytes

`gc_group_load` with the sections of `group_pack.c` as they are: the lengths of the file are not checked against the
arrays, allocations may fail, and a copy that is longer than its array is an outcome of its own.  `NgcPack` has the
loader of the files that `gc_save_pack_group` writes.
-/

namespace Toxcore

open Msgpack

def gcMaxSavedPeers : Nat := 100

/-- `GC_SavedPeerInfo`; an address that was not in the file is zero. -/
structure GCSavedPeerInfo where
  publicKey : PublicKey
  tcpRelay : NodeFormat
  ipPort : IPPort

/-- An element of `chats`. -/
structure LoadSlot where
  group : GCGroup
  numMods : UInt16
  /-- The entries of `saved_peers` that were stored; the packed ones in `group` are not set. -/
  savedPeers : { peers : List GCSavedPeerInfo // peers.length ≤ gcMaxSavedPeers }

/-- The outcomes of the allocations, and the reader's position after a value that is not nil. -/
structure LoadEnv extends ChatEnv where
  reallocGroupchats : Bool
  packedModList : Bool
  modList : ModListCall
  peerAdd : Bool
  packedSavedPeers : Bool
  newTcpConnections : Bool
  /-- The bytes after `bin_unpack_nil`, whose result is not looked at. -/
  afterNil : Bytes → Bytes

/-- Why a load stops: it is refused, or it writes past the end of an array. -/
inductive LoadStop where
  | failed
  | overrun
deriving DecidableEq

/-- A section of the file, as it is read. -/
abbrev LoadM (α : Type) := StateT Bytes (Except LoadStop) α

instance : MonadLift Reader LoadM where
  monadLift reader bytes :=
    match reader bytes with
    | none => .error .failed
    | some read => .ok read

namespace LoadSlot

def binUnpackInto (capacity length : Nat) : LoadM Bytes := do
  let data ← readBinFixed length
  if length ≤ capacity then return data else throw .overrun

/-- The check of a `malloc`. -/
def allocated (outcome : Bool) : LoadM Unit :=
  if outcome then return () else throw .failed

variable (env : LoadEnv) (slot : LoadSlot)

/-! ## Saved peers -/

def unpackSavedPeer (data : Bytes) : Option (GCSavedPeerInfo × Bytes) :=
  let ipPort := unpackIpPort data false
  let data := (ipPort.map Prod.snd).getD data
  let tcpRelay := (unpackNodes 1 data (UInt16.ofNat data.length) true).bind fun (nodes, processed) =>
    nodes.head?.map fun node => (node, processed)
  if tcpRelay.isNone ∧ ipPort.isNone then none
  else
    let data := data.drop ((tcpRelay.map Prod.snd).getD 0).toNat
    if data.length < cryptoPublicKeySize then none
    else
      some ({ publicKey := bytesToVector _ data
              -- `unpack_nodes` leaves an address without a key behind
              tcpRelay := (tcpRelay.map Prod.fst).getD
                { emptyNodeFormat with ipPort := ((unpackIpPort data true).map Prod.fst).getD emptyIpPort }
              ipPort := (ipPort.map Prod.fst).getD emptyIpPort }, data.drop cryptoPublicKeySize)

/-- The family of an address, at which `unpack_ip_port` clears what it writes to. -/
def startsAddress (data : Bytes) : Bool :=
  match data with
  | [] => false
  | family :: _ =>
    family == toxAfInet || family == toxAfInet6 || family == toxTcpInet || family == toxTcpInet6

/-- The loop of `unpack_gc_saved_peers`, with room for `n` entries; the count `none` is `-1`. -/
def unpackGcSavedPeers (left : Nat) (data : Bytes) :
    Except LoadStop (Option Nat × { peers : List GCSavedPeerInfo // peers.length ≤ left }) :=
  match left, data with
  | _, [] => .ok (some 0, ⟨[], Nat.zero_le _⟩)
  -- the loop has no bound for the array
  | 0, data => if startsAddress data then .error .overrun else .ok (none, ⟨[], Nat.zero_le _⟩)
  | left + 1, data =>
    match unpackSavedPeer data with
    | none => .ok (none, ⟨[], Nat.zero_le _⟩)
    | some (peer, data) => do
      let (count, savedPeers) ← unpackGcSavedPeers left data
      return (count.map (· + 1), ⟨peer :: savedPeers.1, Nat.succ_le_succ savedPeers.2⟩)

/-! ## Sections -/

def loadUnpackStateValues : LoadM LoadSlot := do
  let chat ← (Toxcore.loadUnpackStateValues slot.group.chat : Reader GCChat)
  return { slot with group := { slot.group with chat } }

def loadUnpackStateBin : LoadM LoadSlot := do
  let chat := slot.group.chat
  binUnpackArrayFixed 5
  let sharedStateSig ← binUnpackVector signatureSize
  let founderPublicKey ← binUnpackExtPublicKey
  let groupName ← binUnpackInto maxGcGroupNameSize chat.sharedState.groupNameLen.toNat
  let password ← binUnpackInto maxGcPasswordSize chat.sharedState.passwordLength.toNat
  let modListHash ← binUnpackVector cryptoSha256Size
  let sharedState := { chat.sharedState with
    founderPublicKey, modListHash
    groupName := memcpy chat.sharedState.groupName groupName
    password := memcpy chat.sharedState.password password }
  return { slot with group := { slot.group with chat := { chat with sharedStateSig, sharedState } } }

def loadUnpackTopicInfo : LoadM LoadSlot := do
  binUnpackArrayFixed 6
  let version ← binUnpackU32
  let length ← binUnpackU16
  let checksum ← binUnpackU16
  let topic ← binUnpackInto maxGcTopicSize length.toNat
  let publicSigKey ← binUnpackVector sigPublicKeySize
  let topicSig ← binUnpackVector signatureSize
  let topicInfo := { version, checksum, topic, publicSigKey }
  return { slot with group := { slot.group with chat := { slot.group.chat with topicInfo, topicSig } } }

def loadUnpackModList : LoadM LoadSlot := do
  binUnpackArrayFixed 2
  let numMods ← binUnpackU16
  if numMods = 0 then
    modify env.afterNil
    return { slot with numMods }
  else
    let numMods := min numMods (UInt16.ofNat modMaxNumModerators)
    allocated env.packedModList
    let packedModList ← readBinFixed (numMods.toNat * sigPublicKeySize)
    match env.modList.modListUnpack slot.group.chat.moderation packedModList numMods with
    | (none, _) => throw .failed
    | (some _, moderation) =>
      return { slot with numMods, group := { slot.group with chat := { slot.group.chat with moderation } } }

def loadUnpackKeys : LoadM LoadSlot := do
  let group ← (Toxcore.loadUnpackKeys slot.group : Reader GCGroup)
  return { slot with group }

def loadUnpackSelfInfo : LoadM LoadSlot := do
  let chat ← (Toxcore.loadUnpackSelfInfo env.toChatEnv slot.group.chat : Reader GCChat)
  allocated env.peerAdd
  return { slot with group := { slot.group with chat } }

/-- `load_unpack_saved_peers`; a list that is not valid to its end is no failure. -/
def loadUnpackSavedPeers : LoadM LoadSlot := do
  binUnpackArrayFixed 2
  let savedPeersSize ← binUnpackU16
  if savedPeersSize = 0 then
    modify env.afterNil
    return slot
  else
    allocated env.packedSavedPeers
    let packed ← readBinFixed savedPeersSize.toNat
    let (_, savedPeers) ← (unpackGcSavedPeers gcMaxSavedPeers packed : Except LoadStop _)
    return { slot with savedPeers }

/-- `gc_load_unpack_group` after its header. A section that fails leaves what the others have set. -/
def loadSections : List (LoadSlot → LoadM LoadSlot) → LoadSlot → Bytes → LoadSlot × Option LoadStop
  | [], slot, _ => (slot, none)
  | load :: sections, slot, bytes =>
    match load slot bytes with
    | .error stop => (slot, some stop)
    | .ok (slot, bytes) => loadSections sections slot bytes

/-- The sections after the state values. -/
def laterSections : List (LoadSlot → LoadM LoadSlot) :=
  [loadUnpackStateBin, loadUnpackTopicInfo, loadUnpackModList env, loadUnpackKeys, loadUnpackSelfInfo env,
    loadUnpackSavedPeers env]

def gcLoadUnpackGroup (bytes : Bytes) : LoadSlot × Option LoadStop :=
  match binUnpackArrayFixed 7 bytes with
  | none => (slot, some .failed)
  | some (_, bytes) => loadSections (loadUnpackStateValues :: laterSections env) slot bytes

end LoadSlot

/-! ## The session -/

/-- What `gc_group_load` does: it returns a number, or `none` for `-1`, or it writes past the end of an array. -/
inductive GroupLoad where
  | returned (groupNumber : Option Nat) (chats : List LoadSlot)
  | overrun

variable (env : LoadEnv)

/-- The slot with a group of zero bytes. -/
def emptyLoadSlot : LoadSlot where
  group := emptyGroup env.toChatEnv
  numMods := 0
  savedPeers := ⟨[], Nat.zero_le _⟩

def getNewGroupIndex (chats : List LoadSlot) : Option (Nat × List LoadSlot) :=
  match chats.findIdx? (·.group.chat.connectionState == .none) with
  | some groupNumber => some (groupNumber, chats)
  | none => if env.reallocGroupchats then some (chats.length, chats ++ [emptyLoadSlot env]) else none

/-- The slot as `gc_group_load` prepares it. -/
def LoadSlot.prepared (slot : LoadSlot) : LoadSlot :=
  { slot with
    group := { slot.group with
      chat := { slot.group.chat with group := [], lastPingInterval := env.now } } }

/-- `gc_group_load`; the connection of a public group to friends is not part of the slot. -/
def gcGroupLoad (chats : List LoadSlot) (bytes : Bytes) : GroupLoad :=
  match getNewGroupIndex env chats with
  | none => .returned none chats
  | some (groupNumber, chats) =>
    let slot := (chats.getD groupNumber (emptyLoadSlot env)).prepared env
    match slot.gcLoadUnpackGroup env bytes with
    | (_, some .overrun) => .overrun
    | (slot, some .failed) => .returned none (chats.set groupNumber slot)
    | (slot, none) =>
      let slot := { slot with group := initGcModeration slot.group }
      .returned (if env.newTcpConnections then some groupNumber else none) (chats.set groupNumber slot)

end Toxcore

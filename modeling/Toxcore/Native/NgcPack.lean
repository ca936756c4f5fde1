import Toxcore.Native.NgcFounder
import Toxcore.ForStd.Msgpack

/-!
# Saving and loading groups

`group_pack.c` with `bin_pack.c` and `bin_unpack.c`.  A group is saved as an array of seven
arrays.  The bytes that are saved of an array with a length field are those in use.

A failed load is `none`.  So is a load that would write past the end of an array, and one that
finds another value in the place of an absent list; `gc_save_pack_group` writes neither.
-/

namespace Toxcore

open Msgpack

/-! ## Values -/

def binPackU08 (value : UInt8) : Bytes := uint value.toNat

def binPackU16 (value : UInt16) : Bytes := uint value.toNat

def binPackU32 (value : UInt32) : Bytes := uint value.toNat

def binUnpackU08 : Reader UInt8 := do
  let value ← readUint 1
  return UInt8.ofNat value

def binUnpackU16 : Reader UInt16 := do
  let value ← readUint 2
  return UInt16.ofNat value

def binUnpackU32 : Reader UInt32 := do
  let value ← readUint 4
  return UInt32.ofNat value

def binUnpackArrayFixed (requiredSize : Nat) : Reader Unit := do
  let size ← readArray
  if size = requiredSize then return () else fail

/-- `bin_unpack_bin_fixed` for a whole array. -/
def binUnpackVector (n : Nat) : Reader (Vector UInt8 n) := do
  let data ← readBinFixed n
  return bytesToVector n data

/-- `bin_unpack_bin_fixed` for the first bytes of an array of zeros. -/
def binUnpackPart (n : Nat) (length : UInt16) : Reader (Vector UInt8 n) :=
  if length.toNat > n then fail
  else do
    let data ← readBinFixed length.toNat
    return memcpy (Vector.replicate n 0) data

def GroupRole.toUInt8 (role : GroupRole) : UInt8 := role.value.toUInt8

/-- The role with a value; a saved value is less than four. -/
def GroupRole.ofUInt8 (value : UInt8) : GroupRole :=
  if value = 0 then .founder
  else if value = 1 then .moderator
  else if value = 2 then .user
  else .observer

/-! ## Saving -/

def inUse {n : Nat} (array : Vector UInt8 n) (length : UInt16) : Bytes :=
  array.toList.take length.toNat

/-- An extended public key as one array. -/
def ExtPublicKey.bytes (key : ExtPublicKey) : Bytes := key.enc.toList ++ key.sig.toList

/-- An extended secret key as one array. -/
def ExtSecretKey.bytes (key : ExtSecretKey) : Bytes := key.enc.toList ++ key.sig.toList

def savePackStateValues (chat : GCChat) : Bytes :=
  array 8 ++ bool (chat.connectionState == .disconnected) ++
    binPackU16 chat.sharedState.groupNameLen ++ binPackU08 chat.sharedState.privacyState ++
    binPackU16 chat.sharedState.maxpeers ++ binPackU16 chat.sharedState.passwordLength ++
    binPackU32 chat.sharedState.version ++ binPackU32 chat.sharedState.topicLock ++
    binPackU08 chat.sharedState.voiceState

def savePackStateBin (chat : GCChat) : Bytes :=
  array 5 ++ bin chat.sharedStateSig.toList ++ bin chat.sharedState.founderPublicKey.bytes ++
    bin (inUse chat.sharedState.groupName chat.sharedState.groupNameLen) ++
    bin (inUse chat.sharedState.password chat.sharedState.passwordLength) ++
    bin chat.sharedState.modListHash.toList

def savePackTopicInfo (chat : GCChat) : Bytes :=
  array 6 ++ binPackU32 chat.topicInfo.version ++
    binPackU16 (UInt16.ofNat chat.topicInfo.topic.length) ++ binPackU16 chat.topicInfo.checksum ++
    bin chat.topicInfo.topic ++ bin chat.topicInfo.publicSigKey.toList ++ bin chat.topicSig.toList

/-- `save_pack_mod_list`; a list is at most as long as the maximum. -/
def savePackModList (chat : GCChat) : Bytes :=
  let modList := chat.moderation.modList.take modMaxNumModerators
  if modList.length = 0 then array 2 ++ binPackU16 0 ++ nil
  else array 2 ++ binPackU16 (UInt16.ofNat modList.length) ++ bin (modListPack modList)

def savePackKeys (group : GCGroup) : Bytes :=
  array 4 ++ bin group.chat.chatPublicKey.bytes ++ bin group.chatSecretKey.bytes ++
    bin group.chat.selfPublicKey.bytes ++
    bin (ExtSecretKey.mk group.chat.selfSecretKey group.selfSecretSigKey).bytes

def savePackSelfInfo (self : GCPeer) : Bytes :=
  let nickLength := min self.nickLength (UInt16.ofNat maxGcNickSize)
  array 4 ++ binPackU16 nickLength ++ binPackU08 self.role.toUInt8 ++ binPackU08 self.status ++
    bin (inUse self.nick nickLength)

def savePackSavedPeers (group : GCGroup) : Bytes :=
  if group.savedPeers.1.length = 0 then array 2 ++ binPackU16 0 ++ nil
  else
    array 2 ++ binPackU16 (UInt16.ofNat group.savedPeers.1.length) ++ bin group.savedPeers.1

/-- `gc_save_pack_group`; nothing is saved of a group without peers. -/
def gcSavePackGroup (group : GCGroup) : Bytes :=
  match group.chat.group[0]? with
  | none => []
  | some self =>
    array 7 ++ savePackStateValues group.chat ++ savePackStateBin group.chat ++
      savePackTopicInfo group.chat ++ savePackModList group.chat ++ savePackKeys group ++
      savePackSelfInfo self ++ savePackSavedPeers group

/-! ## Loading -/

def loadUnpackStateValues (chat : GCChat) : Reader GCChat := do
  binUnpackArrayFixed 8
  let manuallyDisconnected ← readBool
  let groupNameLen ← binUnpackU16
  let privacyState ← binUnpackU08
  let maxpeers ← binUnpackU16
  let passwordLength ← binUnpackU16
  let version ← binUnpackU32
  let topicLock ← binUnpackU32
  let voiceState ← binUnpackU08
  return { chat with
    connectionState := if manuallyDisconnected then .disconnected else .connecting
    -- saved groups are private until they are in sync
    joinType := hjPrivate
    sharedState := { chat.sharedState with
      groupNameLen, privacyState, maxpeers, passwordLength, version, topicLock, voiceState } }

/-- An extended public key from one array. -/
def binUnpackExtPublicKey : Reader ExtPublicKey := do
  let data ← readBinFixed 64
  return { enc := bytesToVector _ data, sig := bytesToVector _ (data.drop 32) }

/-- An extended secret key from one array. -/
def binUnpackExtSecretKey : Reader ExtSecretKey := do
  let data ← readBinFixed 96
  return { enc := bytesToVector _ data, sig := bytesToVector _ (data.drop 32) }

def loadUnpackStateBin (chat : GCChat) : Reader GCChat := do
  binUnpackArrayFixed 5
  let sharedStateSig ← binUnpackVector signatureSize
  let founderPublicKey ← binUnpackExtPublicKey
  let groupName ← binUnpackPart maxGcGroupNameSize chat.sharedState.groupNameLen
  let password ← binUnpackPart maxGcPasswordSize chat.sharedState.passwordLength
  let modListHash ← binUnpackVector cryptoSha256Size
  return { chat with
    sharedStateSig
    sharedState := { chat.sharedState with founderPublicKey, groupName, password, modListHash } }

def loadUnpackTopicInfo (chat : GCChat) : Reader GCChat := do
  binUnpackArrayFixed 6
  let version ← binUnpackU32
  let length ← binUnpackU16
  let checksum ← binUnpackU16
  if length.toNat > maxGcTopicSize then fail
  else
    let topic ← readBinFixed length.toNat
    let publicSigKey ← binUnpackVector sigPublicKeySize
    let topicSig ← binUnpackVector signatureSize
    return { chat with topicInfo := { version, checksum, topic, publicSigKey }, topicSig }

def loadUnpackModList (chat : GCChat) : Reader GCChat := do
  binUnpackArrayFixed 2
  let numMods ← binUnpackU16
  if numMods = 0 then
    readNil
    return chat
  else
    let numMods := min numMods (UInt16.ofNat modMaxNumModerators)
    let packedModList ← readBinFixed (numMods.toNat * sigPublicKeySize)
    match chat.moderation.modListUnpack packedModList numMods with
    | (none, _) => fail
    | (some _, moderation) => return { chat with moderation }

def loadUnpackKeys (group : GCGroup) : Reader GCGroup := do
  binUnpackArrayFixed 4
  let chatPublicKey ← binUnpackExtPublicKey
  let chatSecretKey ← binUnpackExtSecretKey
  let selfPublicKey ← binUnpackExtPublicKey
  let selfSecretKey ← binUnpackExtSecretKey
  return { group with
    chat := { group.chat with chatPublicKey, selfPublicKey, selfSecretKey := selfSecretKey.enc }
    chatSecretKey
    selfSecretSigKey := selfSecretKey.sig }

/-- What `load_unpack_self_info` sets in the peer that stands for ourselves. -/
def loadSelf (selfPublicKey : ExtPublicKey) (nick : Bytes) (nickLength : UInt16) (role status : UInt8)
    (peer : GCPeer) : GCPeer :=
  { peer with
    nick := memcpy peer.nick nick
    nickLength
    role := .ofUInt8 role
    status
    link := peer.link.withConn { peer.link.gconn with publicKey := selfPublicKey, confirmed := true } }

def loadUnpackSelfInfo (env : ChatEnv) (chat : GCChat) : Reader GCChat := do
  binUnpackArrayFixed 4
  let nickLength ← binUnpackU16
  let role ← binUnpackU08
  let status ← binUnpackU08
  let nickLength := min nickLength (UInt16.ofNat maxGcNickSize)
  let nick ← readBinFixed nickLength.toNat
  -- we have to add ourself before setting self info
  match chat.peerAdd env none chat.selfPublicKey.enc with
  | (.added 0, chat) =>
    return { chat with
      group := chat.group.modify 0 (loadSelf chat.selfPublicKey nick nickLength role status) }
  | _ => fail

def loadUnpackSavedPeers (group : GCGroup) : Reader GCGroup := do
  binUnpackArrayFixed 2
  let savedPeersSize ← binUnpackU16
  if savedPeersSize = 0 then
    readNil
    return group
  else
    let savedPeers ← readBinFixed savedPeersSize.toNat
    if h : savedPeers.length < 2 ^ 16 then return { group with savedPeers := ⟨savedPeers, h⟩ }
    else fail

/-- The group of zero bytes into which a group is loaded. -/
def emptyGroup (env : ChatEnv) : GCGroup where
  chat := { emptyGcChat with lastPingInterval := env.now }
  chatSecretKey := { enc := Vector.replicate _ 0, sig := Vector.replicate _ 0 }
  selfSecretSigKey := Vector.replicate _ 0
  savedPeers := ⟨[], length_noPeers⟩

def gcLoadUnpackGroup (env : ChatEnv) (group : GCGroup) : Reader GCGroup := do
  binUnpackArrayFixed 7
  let chat ← loadUnpackStateValues group.chat
  let chat ← loadUnpackStateBin chat
  let chat ← loadUnpackTopicInfo chat
  let chat ← loadUnpackModList chat
  let group ← loadUnpackKeys { group with chat }
  let chat ← loadUnpackSelfInfo env group.chat
  loadUnpackSavedPeers { group with chat }

end Toxcore

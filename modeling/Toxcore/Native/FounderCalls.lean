import Toxcore.Native.ModerationCalls
import Toxcore.Native.NgcObservers

/-!
# Changes of a group that may fail

The functions of `group_chats.c` by which the founder changes the shared state, the topic and the moderators, with the
outcome of every allocation.  Where a function signs twice the outcomes of the signatures are in the record as well;
otherwise signing fails where `crypto_signature_create` does.
-/

namespace Toxcore

def gpModList : UInt8 := 0xfc

def gpSanctionsList : UInt8 := 0xfd

def gmSetMod : UInt8 := 0x07

/-- The result of a function with its number in the source; `false` is `-1`. -/
inductive SetResult where
  | ok
  /-- The state or an argument does not allow the change. -/
  | refused (code : Int)
  /-- Signing, packing or an allocation has failed. -/
  | failed (code : Int)
deriving DecidableEq

def SignCrypto.withOutcome (crypto : SignCrypto) (outcome : Bool) : SignCrypto :=
  { crypto with signatureCreate := crypto.trySignatureCreate outcome }

/-! ## The topic -/

/-- The outcomes of a call of `gc_set_topic`. -/
structure TopicCall where
  /-- `malloc` for the packed topic -/
  packed : Bool
  /-- The signature of the packed topic. -/
  signed : Bool
  /-- `malloc` in `broadcast_gc_topic` -/
  broadcast : Bool

namespace TopicCall

variable (call : TopicCall) (crypto : SignCrypto) (env : ChatEnv) (chat : GCChat) (secretKey : SigSecretKey)

def gcSetTopic (topic : Bytes) : SetResult × GCChat :=
  if topic.length > maxGcTopicSize then (.refused (-1), chat)
  else if chat.groupTopicLockEnabled && decide (chat.gcGetSelfRole.value > GroupRole.moderator.value) then
    (.refused (-2), chat)
  else if chat.gcGetSelfRole.value > GroupRole.user.value then (.refused (-2), chat)
  else if chat.topicInfo.version = UInt32.ofNat (2 ^ 32 - 1) then (.refused (-3), chat)
  else
    -- only increment topic version when lock is enabled
    let version := if chat.groupTopicLockEnabled then chat.topicInfo.version + 1 else chat.topicInfo.version
    let topicInfo : GCTopicInfo :=
      { version, checksum := dataChecksum topic, topic, publicSigKey := chat.selfPublicKey.sig }
    -- the source returns here and does not come to `ON_ERROR`
    if !call.packed then (.failed (-3), { chat with topicInfo })
    else
      match crypto.trySignatureCreate call.signed (packGcTopicInfo topicInfo) secretKey with
      | none => (.failed (-3), chat)
      | some topicSig =>
        if !call.broadcast then (.failed (-4), chat)
        else
          let sentChat := { chat with topicInfo, topicSig }.broadcastGcTopic env
          (.ok, { sentChat with
            topicPrevChecksum := chat.topicInfo.checksum
            topicTimeSet := env.now })

def updateGcTopic (publicSigKey : SigPublicKey) : SetResult × GCChat :=
  if publicSigKey ≠ chat.topicInfo.publicSigKey then (.ok, chat)
  else call.gcSetTopic crypto env chat secretKey chat.topicInfo.topic

end TopicCall

/-! ## The shared state -/

namespace GCGroup

variable (crypto : SignCrypto) (group : GCGroup) (env : FounderEnv)

/-- `gc_founder_set_password`; `copied` is the outcome of the `malloc` for the old password. -/
def trySetPassword (copied : Bool) (password : Bytes) : Int × GCGroup :=
  if !group.chat.selfGcIsFounder then (-1, group)
  else if group.chat.sharedState.passwordLength > 0 ∧ !copied then (-4, group)
  else group.gcFounderSetPassword crypto env password

def trySetTopicLock (call : TopicCall) (newLockState : UInt8) : Int × GCGroup :=
  if newLockState > tlDisabled then (-2, group)
  else if !group.chat.selfGcIsFounder then (-3, group)
  else if !group.chat.groupCanHandlePackets then (-4, group)
  else if newLockState = (if group.chat.groupTopicLockEnabled then tlEnabled else tlDisabled) then (0, group)
  else
    let oldTopicLock := group.chat.sharedState.topicLock
    let undo := fun (state : GCSharedState) => { state with topicLock := oldTopicLock }
    if newLockState = tlEnabled then
      -- the founder signs the current topic again, with a new version
      let locked := { group.chat with
        sharedState := { group.chat.sharedState with topicLock := gcTopicLockEnabled } }
      match call.gcSetTopic crypto env.toChatEnv locked group.selfSecretSigKey group.chat.topicInfo.topic with
      | (.ok, chat) => { group with chat }.change crypto env (-5) id undo
      | (_, chat) => (-6, { group with chat := { chat with sharedState := undo chat.sharedState } })
    else
      group.change crypto env (-5) (fun state => { state with topicLock := group.chat.topicInfo.version }) undo

end GCGroup

/-! ## The moderators -/

/-- The outcomes of a call of `update_gc_sanctions_list`. -/
structure UpdateSanctionsCall where
  sanctions : SanctionsCall
  /-- `malloc` in `broadcast_gc_sanctions_list` -/
  broadcast : Bool

/-- The outcomes of a call of `prune_gc_mod_list`. -/
structure PruneModsCall where
  /-- `mod_list_remove_index` in a round of the loop. -/
  removal : Nat → ModListCall
  hash : ModListCall
  /-- The signature of the shared state. -/
  stateSigned : Bool
  /-- `malloc` in `broadcast_gc_mod_list` -/
  modListBroadcast : Bool
  sanctions : UpdateSanctionsCall
  topic : TopicCall

/-- The outcomes of a call of `founder_gc_set_moderator`. -/
structure SetModeratorCall where
  prune : PruneModsCall
  /-- `mod_list_add_entry` or `mod_list_remove_entry` -/
  modList : ModListCall
  sanctions : UpdateSanctionsCall
  topic : TopicCall
  hash : ModListCall
  /-- The signature of the shared state. -/
  stateSigned : Bool
  /-- Both buffers of `send_gc_set_mod`. -/
  setMod : Bool

namespace GCChat

def makeGcSanctionsListPacket (chat : GCChat) : Option Bytes :=
  (sanctionsListPack (modSanctionPackedSize * chat.moderation.sanctions.length + modSanctionsCredsSize)
    chat.moderation.sanctions (some chat.moderation.sanctionsCreds)).map
      (netPackU16 (UInt16.ofNat chat.moderation.sanctions.length) ++ ·)

end GCChat

def UpdateSanctionsCall.updateGcSanctionsList (call : UpdateSanctionsCall) (crypto : SignCrypto) (env : ChatEnv)
    (chat : GCChat) (publicSigKey : SigPublicKey) : SetResult × GCChat :=
  match call.sanctions.sanctionsListReplaceSig crypto chat.moderation publicSigKey with
  | (numReplaced, moderation) =>
    let chat := { chat with moderation }
    if numReplaced = 0 then (.ok, chat)
    else if !call.broadcast then (.failed (-1), chat)
    else
      match chat.makeGcSanctionsListPacket with
      | none => (.failed (-1), chat)
      | some packet => (.ok, chat.sendGcLosslessPacketAllPeers env packet gpSanctionsList)

/-- What the loop of `prune_gc_mod_list` leaves behind. -/
structure PrunedMods where
  moderation : Moderation
  /-- The moderator whose removal succeeded. -/
  pruned : Option SigPublicKey
  /-- Whether a removal has failed. -/
  failed : Bool

namespace PruneModsCall

variable (call : PruneModsCall) (crypto : SignCrypto) (env : ChatEnv)

def pruneLoop (chat : GCChat) : (rounds i : Nat) → (failed : Bool) → Moderation → PrunedMods
  | 0, _, failed, moderation => { moderation, pruned := none, failed }
  | rounds + 1, i, failed, moderation =>
    match moderation.modList[i]? with
    | none => { moderation, pruned := none, failed }
    | some publicSigKey =>
      if (chat.getPeerNumberOfSigPk publicSigKey).isSome then pruneLoop chat rounds (i + 1) failed moderation
      else
        match (call.removal i).modListRemoveIndex moderation i with
        | (false, moderation) => pruneLoop chat rounds (i + 1) true moderation
        | (true, moderation) => { moderation, pruned := some publicSigKey, failed }

def pruneGcModList (group : GCGroup) : SetResult × GCGroup :=
  if group.chat.moderation.modList.length = 0 then (.ok, group)
  else
    let loop := call.pruneLoop group.chat group.chat.moderation.modList.length 0 false group.chat.moderation
    let group := { group with chat := { group.chat with moderation := loop.moderation } }
    match loop.pruned with
    | none => (if loop.failed then .failed (-1) else .refused (-1), group)
    | some publicSigKey =>
      match call.hash.modListMakeHash crypto group.chat.moderation.modList with
      | none => (.failed (-1), group)
      | some modListHash =>
        let chat := { group.chat with sharedState := { group.chat.sharedState with modListHash } }
        match chat.signGcSharedState (crypto.withOutcome call.stateSigned) group.chatSecretKey.sig with
        | (false, chat) => (.failed (-1), { group with chat })
        | (true, chat) =>
          let chat := chat.broadcastGcSharedState env
          if !call.modListBroadcast then (.failed (-1), { group with chat })
          else
            let chat := chat.sendGcLosslessPacketAllPeers env chat.makeGcModListPacket gpModList
            match call.sanctions.updateGcSanctionsList crypto env chat publicSigKey with
            | (.ok, chat) =>
              match call.topic.updateGcTopic crypto env chat group.selfSecretSigKey publicSigKey with
              | (result, chat) => (result, { group with chat })
            | (result, chat) => (result, { group with chat })

end PruneModsCall

namespace SetModeratorCall

variable (call : SetModeratorCall) (crypto : SignCrypto) (env : ChatEnv) (group : GCGroup)

/-- The part of `founder_gc_set_moderator` that makes room for a moderator. -/
def makeRoomForMod : SetResult × GCGroup :=
  if group.chat.moderation.modList.length ≥ modMaxNumModerators then
    call.prune.pruneGcModList crypto env group
  else (.ok, group)

/-- The part of `founder_gc_set_moderator` that signs the new hash and tells the group. -/
def publishModList (publicSigKey : SigPublicKey) (addMod : Bool) : SetResult × GCGroup :=
  let oldHash := group.chat.sharedState.modListHash
  match call.hash.modListMakeHash crypto group.chat.moderation.modList with
  | none => (.failed (-1), group)
  | some modListHash =>
    let chat := { group.chat with sharedState := { group.chat.sharedState with modListHash } }
    match chat.signGcSharedState (crypto.withOutcome call.stateSigned) group.chatSecretKey.sig with
    | (false, chat) =>
      (.failed (-1), { group with
        chat := { chat with sharedState := { chat.sharedState with modListHash := oldHash } } })
    | (true, chat) =>
      let chat := chat.broadcastGcSharedState env
      if !call.setMod then (.failed (-1), { group with chat })
      else
        (.ok, { group with chat := (chat.sendGcBroadcastMessage env
          ((if addMod then 1 else 0) :: publicSigKey.toList) gmSetMod).2 })

def founderGcSetModerator (gconn : GCConnection) (addMod : Bool) : SetResult × GCGroup :=
  let publicSigKey := gconn.publicKey.sig
  if !group.chat.selfGcIsFounder then (.refused (-1), group)
  else if addMod then
    match call.makeRoomForMod crypto env group with
    | (.ok, group) =>
      match call.modList.modListAddEntry group.chat.moderation publicSigKey with
      | (false, moderation) =>
        (if group.chat.moderation.modList.length ≥ modMaxNumModerators then .refused (-1) else .failed (-1),
          { group with chat := { group.chat with moderation } })
      | (true, moderation) =>
        call.publishModList crypto env { group with chat := { group.chat with moderation } } publicSigKey addMod
    | (result, group) => (result, group)
  else
    match group.chat.moderation.modList.findIdx? (· == publicSigKey) with
    | none => (.refused (-1), group)
    | some _ =>
      match call.modList.modListRemoveEntry group.chat.moderation publicSigKey with
      | (false, moderation) => (.failed (-1), { group with chat := { group.chat with moderation } })
      | (true, moderation) =>
        match call.sanctions.updateGcSanctionsList crypto env { group.chat with moderation } publicSigKey with
        | (.ok, chat) =>
          match call.topic.updateGcTopic crypto env chat group.selfSecretSigKey publicSigKey with
          | (.ok, chat) => call.publishModList crypto env { group with chat } publicSigKey addMod
          | (result, chat) => (result, { group with chat })
        | (result, chat) => (result, { group with chat })

end SetModeratorCall

end Toxcore

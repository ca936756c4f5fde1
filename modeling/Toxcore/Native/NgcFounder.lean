import Toxcore.Native.NgcInvite

/-!
# Creating a group and changing its shared state

`gc_group_add`, `gc_group_join` and the functions by which the founder changes the shared state:
each signs the new state with the secret key of the chat and sends it to the confirmed peers.

Results are the numbers of the source.  Where the source deletes the group again, the result is
`none`.  Announcements and callbacks are not modelled; allocations and packing do not fail.
-/

namespace Toxcore

/-! ## Constants -/

def maxGcPeersDefault : UInt16 := 100

def giPublic : UInt8 := 0

def gvAll : UInt8 := 0

def tlEnabled : UInt8 := 0

def tlDisabled : UInt8 := 1

def hjPublic : UInt8 := 0

def hjPrivate : UInt8 := 1

def gsNone : UInt8 := 0

def gpTopic : UInt8 := 0xfa

def gpSharedState : UInt8 := 0xfb

/-! ## Data -/

/-- An extended secret key: the decryption key and the signature key. -/
structure ExtSecretKey where
  enc : SecretKey
  sig : SigSecretKey
deriving DecidableEq

theorem length_noPeers : ([] : Bytes).length < 2 ^ 16 := by decide

/-- `GC_Chat` with the secret keys that `GCChat` leaves out. -/
structure GCGroup where
  chat : GCChat
  chatSecretKey : ExtSecretKey
  /-- The second part of `self_secret_key`. -/
  selfSecretSigKey : SigSecretKey
  /-- `saved_peers` as `pack_gc_saved_peers` packs it; the size has 16 bits. -/
  savedPeers : { data : Bytes // data.length < 2 ^ 16 }

/-- What the creation of a group and the functions of the founder take from the outside. -/
structure FounderEnv extends ChatEnv where
  /-- `create_extended_keypair` for the keys of a new member; `none` is a failure. -/
  selfKeypair : Option (ExtPublicKey × ExtSecretKey)
  /-- `create_extended_keypair` for the keys of a new chat. -/
  chatKeypair : ExtPublicKey × ExtSecretKey
  expandChatId : SigPublicKey → Option ExtPublicKey
  /-- Whether `init_gc_tcp_connection` succeeds. -/
  initTcp : Bool
  /-- Whether `m_create_group_connection` succeeds. -/
  createConnection : Bool

/-- `memcpy` to the start of an array: the bytes behind the data stay. -/
def memcpy {n : Nat} (dest : Vector UInt8 n) (data : Bytes) : Vector UInt8 n :=
  bytesToVector _ (data ++ dest.toList.drop data.length)

namespace GCChat

variable (crypto : SignCrypto) (chat : GCChat)

/-! ## Broadcasts -/

def sendGcLosslessPacketAllPeers (env : ChatEnv) (data : Bytes) (type : UInt8) : GCChat :=
  { chat with
    group := chat.group.mapIdx fun i peer =>
      if i ≠ 0 ∧ peer.link.gconn.confirmed then
        { peer with link := (peer.link.sendLosslessGroupPacket env.toNgcEnv data type).2 }
      else peer }

def makeGcSharedStatePacket : Bytes :=
  chat.sharedStateSig.toList ++ packGcSharedState chat.sharedState

def broadcastGcSharedState (env : ChatEnv) : GCChat :=
  chat.sendGcLosslessPacketAllPeers env chat.makeGcSharedStatePacket gpSharedState

def broadcastGcTopic (env : ChatEnv) : GCChat :=
  chat.sendGcLosslessPacketAllPeers env (chat.topicSig.toList ++ packGcTopicInfo chat.topicInfo) gpTopic

/-! ## The password and the signature -/

def setGcPasswordLocal (passwd : Bytes) : Bool × GCChat :=
  if passwd.length > maxGcPasswordSize then (false, chat)
  else if passwd.length = 0 then
    (true, { chat with
      sharedState := { chat.sharedState with passwordLength := 0, password := Vector.replicate _ 0 } })
  else
    (true, { chat with
      sharedState := { chat.sharedState with
        passwordLength := UInt16.ofNat passwd.length
        password := memcpy chat.sharedState.password passwd } })

def signGcSharedState (secretKey : SigSecretKey) : Bool × GCChat :=
  if !chat.selfGcIsFounder then (false, chat)
  else
    -- an overflow would break everything
    let chat :=
      if chat.sharedState.version ≠ UInt32.ofNat (2 ^ 32 - 1) then
        chat.setGcSharedStateVersion (chat.sharedState.version + 1)
      else chat
    match crypto.signatureCreate (packGcSharedState chat.sharedState) secretKey with
    | none => (false, chat.setGcSharedStateVersion (chat.sharedState.version - 1))
    | some signature => (true, { chat with sharedStateSig := signature })

/-- Changes the shared state, signs and sends it; `undo` takes the change back when signing fails. -/
def changeSharedState (env : ChatEnv) (secretKey : SigSecretKey)
    (change undo : GCSharedState → GCSharedState) : Bool × GCChat :=
  match { chat with sharedState := change chat.sharedState }.signGcSharedState crypto secretKey with
  | (false, chat) => (false, { chat with sharedState := undo chat.sharedState })
  | (true, chat) => (true, chat.broadcastGcSharedState env)

/-! ## The topic -/

def gcSetTopic (env : ChatEnv) (secretKey : SigSecretKey) (topic : Bytes) : Int × GCChat :=
  if topic.length > maxGcTopicSize then (-1, chat)
  else if chat.groupTopicLockEnabled && decide (chat.gcGetSelfRole.value > GroupRole.moderator.value)
  then (-2, chat)
  else if chat.gcGetSelfRole.value > GroupRole.user.value then (-2, chat)
  else if chat.topicInfo.version = UInt32.ofNat (2 ^ 32 - 1) then (-3, chat)
  else
    -- only increment topic version when lock is enabled
    let version :=
      if chat.groupTopicLockEnabled then chat.topicInfo.version + 1 else chat.topicInfo.version
    let topicInfo : GCTopicInfo :=
      { version, checksum := dataChecksum topic, topic, publicSigKey := chat.selfPublicKey.sig }
    match crypto.signatureCreate (packGcTopicInfo topicInfo) secretKey with
    | none => (-3, chat)
    | some topicSig =>
      let sentChat := { chat with topicInfo, topicSig }.broadcastGcTopic env
      (0, { sentChat with
        topicPrevChecksum := chat.topicInfo.checksum
        topicTimeSet := env.now })

end GCChat

namespace GCGroup

variable (crypto : SignCrypto) (group : GCGroup) (env : FounderEnv)

/-! ## The functions of the founder -/

/-- `changeSharedState` with the key of the chat; `error` is the result when signing fails. -/
def change (error : Int) (change undo : GCSharedState → GCSharedState) : Int × GCGroup :=
  match group.chat.changeSharedState crypto env.toChatEnv group.chatSecretKey.sig change undo with
  | (false, chat) => (error, { group with chat })
  | (true, chat) => (0, { group with chat })

def gcFounderSetPassword (password : Bytes) : Int × GCGroup :=
  if !group.chat.selfGcIsFounder then (-1, group)
  else
    let oldpasswd := group.chat.sharedState.password.toList.take group.chat.sharedState.passwordLength.toNat
    match group.chat.setGcPasswordLocal password with
    | (false, _) => (-2, group)
    | (true, chat) =>
      match chat.signGcSharedState crypto group.chatSecretKey.sig with
      | (false, chat) => (-2, { group with chat := (chat.setGcPasswordLocal oldpasswd).2 })
      | (true, chat) => (0, { group with chat := chat.broadcastGcSharedState env.toChatEnv })

def gcFounderSetTopicLock (newLockState : UInt8) : Int × GCGroup :=
  if newLockState > tlDisabled then (-2, group)
  else if !group.chat.selfGcIsFounder then (-3, group)
  else if !group.chat.groupCanHandlePackets then (-4, group)
  else if newLockState = (if group.chat.groupTopicLockEnabled then tlEnabled else tlDisabled) then
    (0, group)
  else
    let oldTopicLock := group.chat.sharedState.topicLock
    let undo := fun (state : GCSharedState) => { state with topicLock := oldTopicLock }
    if newLockState = tlEnabled then
      -- the founder signs the current topic again, with a new version
      let locked := { group.chat with
        sharedState := { group.chat.sharedState with topicLock := gcTopicLockEnabled } }
      match locked.gcSetTopic crypto env.toChatEnv group.selfSecretSigKey
          group.chat.topicInfo.topic with
      | (result, chat) =>
        if result ≠ 0 then
          (-6, { group with chat := { chat with sharedState := undo chat.sharedState } })
        else { group with chat }.change crypto env (-5) id undo
    else
      group.change crypto env (-5) (fun state => { state with topicLock := group.chat.topicInfo.version }) undo

def gcFounderSetVoiceState (newVoiceState : UInt8) : Int × GCGroup :=
  if !group.chat.selfGcIsFounder then (-2, group)
  else if !group.chat.groupCanHandlePackets then (-3, group)
  else if newVoiceState = group.chat.sharedState.voiceState then (0, group)
  else
    group.change crypto env (-4) (fun state => { state with voiceState := newVoiceState })
      fun state => { state with voiceState := group.chat.sharedState.voiceState }

def gcFounderSetPrivacyState (newPrivacyState : UInt8) : Int × GCGroup :=
  if !group.chat.selfGcIsFounder then (-2, group)
  else if !group.chat.groupCanHandlePackets then (-3, group)
  else if newPrivacyState = group.chat.sharedState.privacyState then (0, group)
  else
    match group.change crypto env (-4) (fun state => { state with privacyState := newPrivacyState })
        fun state => { state with privacyState := group.chat.sharedState.privacyState } with
    | (result, group) =>
      if result ≠ 0 then (result, group)
      else
        let joinType :=
          if newPrivacyState = giPrivate then hjPrivate
          else if env.createConnection then hjPublic
          else group.chat.joinType
        (0, { group with chat := { group.chat with joinType } })

def gcFounderSetMaxPeers (maxPeers : UInt16) : Int × GCGroup :=
  if !group.chat.selfGcIsFounder then (-1, group)
  else if maxPeers = group.chat.sharedState.maxpeers then (0, group)
  else
    group.change crypto env (-2) (fun state => { state with maxpeers := maxPeers })
      fun state => { state with maxpeers := group.chat.sharedState.maxpeers }

end GCGroup

/-! ## New groups -/

def initGcSharedState (chat : GCChat) (privacyState : UInt8) : GCChat :=
  { chat with
    sharedState := { chat.sharedState with
      maxpeers := maxGcPeersDefault
      privacyState
      topicLock := gcTopicLockEnabled
      voiceState := gvAll } }

def initGcModeration (group : GCGroup) : GCGroup :=
  { group with
    chat := { group.chat with
      moderation := { group.chat.moderation with
        founderPublicSigKey := group.chat.sharedState.founderPublicKey.sig
        selfPublicSigKey := group.chat.selfPublicKey.sig
        selfSecretSigKey := group.selfSecretSigKey
        sharedStateVersion := group.chat.sharedState.version } } }

/-- What `create_new_group` sets in the peer that stands for ourselves. -/
def initSelf (nick : Bytes) (role : GroupRole) (peer : GCPeer) : GCPeer :=
  { peer with
    nick := memcpy peer.nick nick
    nickLength := UInt16.ofNat nick.length
    status := gsNone
    role
    link := peer.link.withConn { peer.link.gconn with confirmed := true } }

def createNewGroup (env : FounderEnv) (nick : Bytes) (founder : Bool) (privacyState : UInt8) :
    Option GCGroup :=
  if nick.length = 0 then none
  else if nick.length > maxGcNickSize then none
  else
    match env.selfKeypair with
    | none => none
    | some (selfPublicKey, selfSecretKey) =>
      if !env.initTcp then none
      else
        let chat := { emptyGcChat with
          connectionState := .connecting
          lastPingInterval := env.now
          selfPublicKey
          selfSecretKey := selfSecretKey.enc }
        -- you are always peer number 0
        match chat.peerAdd env.toChatEnv none selfPublicKey.enc with
        | (.added 0, chat) =>
          let chat := { chat with
            group := chat.group.modify 0 (initSelf nick (if founder then .founder else .user)) }
          some (initGcModeration
            { chat := initGcSharedState chat privacyState
              chatSecretKey := { enc := Vector.replicate _ 0, sig := Vector.replicate _ 0 }
              selfSecretSigKey := selfSecretKey.sig
              savedPeers := ⟨[], length_noPeers⟩ })
        | _ => none

def initGcSharedStateFounder (crypto : SignCrypto) (group : GCGroup) (privacyState : UInt8)
    (groupName : Bytes) : Bool × GCGroup :=
  let chat := { group.chat with
    sharedState := { group.chat.sharedState with
      founderPublicKey := group.chat.selfPublicKey
      groupName := memcpy group.chat.sharedState.groupName groupName
      groupNameLen := UInt16.ofNat groupName.length
      privacyState } }
  let (signed, chat) := chat.signGcSharedState crypto group.chatSecretKey.sig
  (signed, { group with chat })

def gcGroupAdd (crypto : SignCrypto) (env : FounderEnv) (privacyState : UInt8) (groupName nick : Bytes) :
    Option GCGroup :=
  if groupName.length > maxGcGroupNameSize then none
  else if groupName.length = 0 then none
  else
    match createNewGroup env nick true privacyState with
    | none => none
    | some group =>
      let (chatPublicKey, chatSecretKey) := env.chatKeypair
      let group := { group with chat := { group.chat with chatPublicKey }, chatSecretKey }
      match initGcSharedStateFounder crypto group privacyState groupName with
      | (false, _) => none
      | (true, group) =>
        let group := initGcModeration group
        match group.chat.moderation.sanctionsListMakeCreds crypto with
        | (false, _) => none
        | (true, moderation) =>
          match { group.chat with moderation }.gcSetTopic crypto env.toChatEnv
              group.selfSecretSigKey [] with
          | (0, chat) =>
            if privacyState = giPublic ∧ !env.createConnection then none
            else
              let chat := { chat with
                joinType := if privacyState = giPublic then hjPublic else hjPrivate
                connectionState := .connected
                timeConnected := env.now }
              some { group with chat := chat.updateGcPeerRoles }
          | _ => none

def gcGroupJoin (env : FounderEnv) (chatId : SigPublicKey) (nick passwd : Bytes) : Option GCGroup :=
  match createNewGroup env nick false giPublic with
  | none => none
  | some group =>
    match env.expandChatId chatId with
    | none => none
    | some chatPublicKey =>
      let chat := { group.chat with chatPublicKey, connectionState := .connecting }
      match (if passwd.length > 0 then chat.setGcPasswordLocal passwd else (true, chat)) with
      | (false, _) => none
      | (true, chat) =>
        if !env.createConnection then none
        else some { group with chat := chat.updateGcPeerRoles }

end Toxcore

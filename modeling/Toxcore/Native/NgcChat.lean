import Mathlib.Data.UInt
import Toxcore.Native.NgcState

/-!
# The state of a group

`GC_Chat` and the part of `group_chats.c` that keeps it in step with the other members: the peer
list, roles, sync requests, the shared state, the moderator list and the sanctions list.

Peer `0` is ourselves.  A peer holds its connection together with the packets sent over it.
Callbacks, announcements, saved peers and TCP relays of the group are not modelled.
-/

namespace Toxcore

/-! ## Constants -/

def maxGcNickSize : Nat := 128

def gcSyncRequestLimit : UInt64 := gcPingTimeout + 1

def gfState : UInt16 := 4

def gpSyncRequest : UInt8 := 0xf8

/-! ## Data -/

inductive GroupRole where
  | founder
  | moderator
  | user
  | observer
deriving DecidableEq

def GroupRole.value : GroupRole → UInt16
  | .founder => 0
  | .moderator => 1
  | .user => 2
  | .observer => 3

inductive GCConnState where
  | none
  | disconnected
  | connecting
  | connected
deriving DecidableEq

structure GCPeer where
  nick : Vector UInt8 maxGcNickSize
  nickLength : UInt16
  status : UInt8
  role : GroupRole
  peerId : UInt32
  ignored : Bool
  link : PeerLink

def zeroGCPeer : GCPeer where
  nick := Vector.replicate _ 0
  nickLength := 0
  status := 0
  role := .user
  peerId := 0
  ignored := false
  link := { gconn := zeroGCConnection, sent := [], handed := [] }

structure GCChat where
  group : List GCPeer
  moderation : Moderation
  connectionState : GCConnState
  sharedState : GCSharedState
  /-- Signed by the founder with the secret key of the chat. -/
  sharedStateSig : Signature
  topicInfo : GCTopicInfo
  topicSig : Signature
  topicPrevChecksum : UInt16
  topicTimeSet : UInt64
  peersChecksum : UInt16
  rolesChecksum : UInt16
  chatPublicKey : ExtPublicKey
  selfPublicKey : ExtPublicKey
  selfSecretKey : SecretKey
  joinType : UInt8
  timeConnected : UInt64
  lastPingInterval : UInt64
  lastSyncRequest : UInt64
  lastSyncResponsePeerList : UInt64
  connectionOMetre : UInt8
  blockHandshakes : Bool

/-- What a function of a group takes from the outside, besides the environment of a connection. -/
structure ChatEnv extends NgcEnv where
  /-- The number behind `random_range_u32`. -/
  random : Nat
  /-- `create_gc_session_keypair` -/
  keypair : PublicKey × SecretKey

namespace GCChat

variable (chat : GCChat)

/-! ## Peers -/

def getGcConnection (peerNumber : Nat) : Option GCConnection :=
  chat.group[peerNumber]?.map (·.link.gconn)

/-- Changes the connection of a peer. -/
def modifyLink (peerNumber : Nat) (f : PeerLink → PeerLink) : GCChat :=
  { chat with group := chat.group.modify peerNumber fun peer => { peer with link := f peer.link } }

/-- Sends over the connection of a peer. -/
def sendOn (peerNumber : Nat) (f : PeerLink → Bool × PeerLink) : Bool × GCChat :=
  match chat.group[peerNumber]? with
  | none => (false, chat)
  | some peer => ((f peer.link).1, chat.modifyLink peerNumber fun link => (f link).2)

def getPeerNumberOfEncPk (publicEncKey : PublicKey) (confirmed : Bool) : Option Nat :=
  chat.group.findIdx? fun peer =>
    !peer.link.gconn.pendingDelete && (!confirmed || peer.link.gconn.confirmed) &&
      peer.link.gconn.publicKey.enc == publicEncKey

def getPeerNumberOfSigPk (publicSigKey : SigPublicKey) : Option Nat :=
  chat.group.findIdx? fun peer => peer.link.gconn.publicKey.sig == publicSigKey

def getGcConfirmedNumpeers : UInt16 :=
  UInt16.ofNat (chat.group.countP (·.link.gconn.confirmed))

/-- `random_gc_connection`: the number of a confirmed peer other than ourselves. -/
def randomGcConnection (env : ChatEnv) : Option Nat :=
  if chat.group.length ≤ 1 then none
  else
    let others := chat.group.length - 1
    let base := env.random % others
    ((List.range others).map fun i => 1 + (base + i) % others).find? fun index =>
      match chat.group[index]? with
      | none => false
      | some peer => !peer.link.gconn.pendingDelete && peer.link.gconn.confirmed

/-! ## Roles -/

def gcGetSelfRole : GroupRole :=
  match chat.group[0]? with
  | none => .user
  | some peer => peer.role

def selfGcIsFounder : Bool := chat.gcGetSelfRole == .founder

def peerIsObserver (peer : GCPeer) : Bool :=
  chat.moderation.sanctionsListIsObserver peer.link.gconn.publicKey.enc

/-- `peer_is_founder`; only the encryption keys are compared. -/
def peerIsFounder (peer : GCPeer) : Bool :=
  chat.sharedState.founderPublicKey.enc == peer.link.gconn.publicKey.enc

def peerIsModerator (peer : GCPeer) : Bool :=
  if chat.peerIsFounder peer then false
  else chat.moderation.modListVerifySigPk peer.link.gconn.publicKey.sig

/-- The role that `update_gc_peer_roles` gives to a confirmed peer. -/
def peerRole (peer : GCPeer) : GroupRole :=
  if chat.peerIsFounder peer then .founder
  else if !(chat.peerIsModerator peer || chat.peerIsObserver peer) then .user
  else if chat.peerIsModerator peer then .moderator
  else .observer

/-- Whether a peer has two roles. -/
def roleConflicts (peer : GCPeer) : Bool :=
  !chat.peerIsFounder peer && chat.peerIsObserver peer && chat.peerIsModerator peer

def setGcSharedStateVersion (version : UInt32) : GCChat :=
  { chat with
    sharedState := { chat.sharedState with version }
    moderation := { chat.moderation with sharedStateVersion := version } }

/-- The first byte of the public key of a peer, as a number. -/
def firstByte (peer : GCPeer) : UInt16 :=
  (peer.link.gconn.publicKey.enc.toList.getD 0 0).toUInt16

def updateGcPeerRoles : GCChat :=
  let confirmed := chat.group.filter (·.link.gconn.confirmed)
  let chat' := { chat with
    rolesChecksum := (confirmed.map fun peer => (chat.peerRole peer).value + firstByte peer).sum
    group := chat.group.map fun peer =>
      if peer.link.gconn.confirmed then { peer with role := chat.peerRole peer } else peer }
  -- a conflict needs a new shared state
  if confirmed.any chat.roleConflicts && !chat'.selfGcIsFounder then chat'.setGcSharedStateVersion 0
  else chat'

/-! ## Sync requests -/

def chatIsPasswordProtected : Bool := decide (chat.sharedState.passwordLength > 0)

/-- The password with its length, as in three kinds of packets. -/
def packedPassword : Bytes :=
  if chat.chatIsPasswordProtected then
    netPackU16 chat.sharedState.passwordLength ++ chat.sharedState.password.toList
  else []

def sendGcSyncRequest (env : ChatEnv) (peerNumber : Nat) (syncFlags : UInt16) : Bool × GCChat :=
  if !env.isTimeout chat.lastSyncRequest gcSyncRequestLimit then (true, chat)
  else
    let chat := { chat with lastSyncRequest := env.now }
    chat.sendOn peerNumber fun link =>
      link.sendLosslessGroupPacket env.toNgcEnv (netPackU16 syncFlags ++ chat.packedPassword) gpSyncRequest

def sendGcRandomSyncRequest (env : ChatEnv) (syncFlags : UInt16) : Bool × GCChat :=
  match chat.randomGcConnection env with
  | none => (false, chat)
  | some peerNumber => chat.sendGcSyncRequest env peerNumber syncFlags

/-! ## The shared state -/

def handleGcSharedStateError (env : ChatEnv) (peerNumber : Nat) : Bool × GCChat :=
  let chat := chat.modifyLink peerNumber fun link => link.withConn link.gconn.gccMarkForDeletion
  if chat.sharedState.version = 0 then (true, { chat with connectionState := .connecting })
  else if chat.group.length ≤ 1 then (true, chat)
  else chat.sendGcRandomSyncRequest env gfState

/-- `handle_gc_shared_state`; the callbacks of `do_gc_shared_state_changes` are not modelled. -/
def handleGcSharedState (crypto : SignCrypto) (env : ChatEnv) (peerNumber : Nat) (data : Bytes) :
    Bool × GCChat :=
  if data.length < gcSharedStateEncPacketSize then chat.handleGcSharedStateError env peerNumber
  else
    let signature : Signature := bytesToVector _ data
    let ssData := data.drop signatureSize
    if !crypto.signatureVerify signature (ssData.take gcPackedSharedStateSize) chat.chatPublicKey.sig then
      chat.handleGcSharedStateError env peerNumber
    else
      let version := netUnpackU32 ssData
      if version = 0 ∨ version < chat.sharedState.version then (true, chat)
      else
        match unpackGcSharedState ssData with
        | none => (true, chat)
        | some newSharedState =>
          if !validateGcSharedState newSharedState then (true, chat)
          else
            let moderation :=
              if chat.sharedState.version = 0 then
                { chat.moderation with founderPublicSigKey := newSharedState.founderPublicKey.sig }
              else chat.moderation
            (true, { chat with
              moderation
              sharedState := newSharedState
              sharedStateSig := signature }.setGcSharedStateVersion newSharedState.version)

/-! ## The moderator list -/

/-- The results of `validate_unpack_mod_list`: `1`, `0` and `-1`. -/
inductive ModListResult where
  | mismatch
  | valid
  | invalid
deriving DecidableEq

/-- The hash of the bytes of a moderator list, zero when there are none. -/
def modListDataHash (crypto : SignCrypto) (data : Bytes) : Digest :=
  if data.length > 0 then crypto.sha256 data else zeroDigest

def validateUnpackModList (crypto : SignCrypto) (data : Bytes) (numMods : UInt16) :
    ModListResult × GCChat :=
  if numMods.toNat > modMaxNumModerators then (.invalid, chat)
  else if chat.sharedState.version > 0 ∧ modListDataHash crypto data ≠ chat.sharedState.modListHash then
    (.mismatch, chat)
  else
    match chat.moderation.modListUnpack data numMods with
    | (none, moderation) => (.invalid, { chat with moderation })
    | (some _, moderation) => (.valid, { chat with moderation })

def handleGcModList (crypto : SignCrypto) (env : ChatEnv) (data : Bytes) : Bool × GCChat :=
  if data.length < 2 then (false, chat)
  -- the founder can never be out of sync
  else if chat.selfGcIsFounder then (true, chat)
  else
    match chat.validateUnpackModList crypto (data.drop 2) (netUnpackU16 data) with
    | (.valid, chat) => (true, chat.updateGcPeerRoles)
    | (.mismatch, chat) => (true, chat)
    | (.invalid, chat) =>
      if chat.sharedState.version = 0 then (false, { chat with connectionState := .connecting })
      else if chat.group.length ≤ 1 then (true, chat)
      else (true, (chat.sendGcRandomSyncRequest env gfState).2)

/-- The data of a moderator list packet. -/
def makeGcModListPacket : Bytes :=
  netPackU16 (UInt16.ofNat chat.moderation.modList.length) ++ modListPack chat.moderation.modList

/-! ## The sanctions list -/

def handleGcSanctionsListError (env : ChatEnv) : Bool × GCChat :=
  if chat.moderation.sanctionsCreds.version > 0 then (true, chat)
  else if chat.sharedState.version = 0 then (true, { chat with connectionState := .connecting })
  else if chat.group.length ≤ 1 then (true, chat)
  else chat.sendGcRandomSyncRequest env gfState

def handleGcSanctionsList (crypto : SignCrypto) (env : ChatEnv) (stackCreds : ModSanctionCreds)
    (data : Bytes) : Bool × GCChat :=
  if data.length < 2 then (false, chat)
  else
    let numSanctions := netUnpackU16 data
    if numSanctions.toNat > modMaxNumSanctions then chat.handleGcSanctionsListError env
    else
      match sanctionsListUnpack stackCreds numSanctions (data.drop 2) with
      | none => chat.handleGcSanctionsListError env
      | some (sanctions, creds, _) =>
        if sanctions.length ≠ numSanctions.toNat then chat.handleGcSanctionsListError env
        else if !chat.moderation.sanctionsListCheckIntegrity crypto creds sanctions then
          chat.handleGcSanctionsListError env
        else if creds.version < chat.moderation.sanctionsCreds.version then (true, chat)
        else if creds.version = chat.moderation.sanctionsCreds.version ∧
            creds.checksum ≤ chat.moderation.sanctionsCreds.checksum then (true, chat)
        else
          (true, { chat with
            moderation := { chat.moderation with sanctions, sanctionsCreds := creds }
            }.updateGcPeerRoles)

end GCChat

end Toxcore

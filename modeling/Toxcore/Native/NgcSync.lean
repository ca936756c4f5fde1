import Toxcore.Native.NgcChat

/-!
# Sync information and the topic of a group

A ping tells a peer which state the sender has, and the peer asks for what it lacks.  The topic
is signed by the peer who set it.  Callbacks are not modelled.
-/

namespace Toxcore

def gfPeers : UInt16 := 1

def gfTopic : UInt16 := 2

def gcTopicLockEnabled : UInt32 := 0

def gcPingPacketMinDataSize : Nat := 2 * 4 + 4 * 3

def gpPing : UInt8 := 0x01

/-- The values that a ping holds. -/
structure SyncInfo where
  peersChecksum : UInt16
  peerCount : UInt16
  sstateVersion : UInt32
  scredsVersion : UInt32
  rolesChecksum : UInt16
  topicVersion : UInt32
  topicChecksum : UInt16
deriving DecidableEq

/-- The values as they stand in a ping. -/
def SyncInfo.pack (info : SyncInfo) : Bytes :=
  netPackU16 info.peersChecksum ++ netPackU16 info.peerCount ++ netPackU32 info.sstateVersion ++
    netPackU32 info.scredsVersion ++ netPackU16 info.rolesChecksum ++
    netPackU32 info.topicVersion ++ netPackU16 info.topicChecksum

/-- The values in the first bytes of a ping. -/
def SyncInfo.unpack (data : Bytes) : SyncInfo where
  peersChecksum := netUnpackU16 data
  peerCount := netUnpackU16 (data.drop 2)
  sstateVersion := netUnpackU32 (data.drop 4)
  scredsVersion := netUnpackU32 (data.drop 8)
  rolesChecksum := netUnpackU16 (data.drop 12)
  topicVersion := netUnpackU32 (data.drop 14)
  topicChecksum := netUnpackU16 (data.drop 18)

theorem SyncInfo.unpack_pack_append (info : SyncInfo) (rest : Bytes) :
    SyncInfo.unpack (info.pack ++ rest) = info := by
  -- a field starts where the ones before it end
  have hdrop : ∀ (data tail : Bytes) (n : Nat), data.length = n → (data ++ tail).drop n = tail := by
    intro data tail n hlen
    rw [← hlen, List.drop_left]
  have h2 := fun num tail => hdrop (netPackU16 num) tail 2 (length_netPackU16 num)
  have h4 := fun num tail => hdrop (netPackU32 num) tail 4 (length_netPackU32 num)
  simp only [SyncInfo.unpack, SyncInfo.pack, List.append_assoc]
  rw [show (4 : Nat) = 2 + 2 from rfl, show (8 : Nat) = 2 + (2 + 4) from rfl,
    show (12 : Nat) = 2 + (2 + (4 + 4)) from rfl, show (14 : Nat) = 2 + (2 + (4 + (4 + 2))) from rfl,
    show (18 : Nat) = 2 + (2 + (4 + (4 + (2 + 4)))) from rfl]
  simp only [← List.drop_drop, h2, h4, netUnpackU16_netPackU16_append, netUnpackU32_netPackU32_append]

namespace GCChat

variable (chat : GCChat)

/-! ## Pings -/

def groupTopicLockEnabled : Bool := chat.sharedState.topicLock == gcTopicLockEnabled

/-- The sum of the checksums of the credentials and of the roles. -/
def advertisedRolesChecksum : UInt16 :=
  chat.moderation.sanctionsCreds.checksum + chat.rolesChecksum

/-- What `ping_peer` tells a peer. -/
def syncInfo : SyncInfo where
  peersChecksum := chat.peersChecksum
  peerCount := chat.getGcConfirmedNumpeers
  sstateVersion := chat.sharedState.version
  scredsVersion := chat.moderation.sanctionsCreds.version
  rolesChecksum := chat.advertisedRolesChecksum
  topicVersion := chat.topicInfo.version
  topicChecksum := chat.topicInfo.checksum

def getSyncFlags (info : SyncInfo) : UInt16 :=
  let peers :=
    if info.peersChecksum ≠ chat.peersChecksum ∧ info.peerCount ≥ chat.getGcConfirmedNumpeers then
      gfPeers
    else 0
  let state :=
    if info.sstateVersion > 0 ∧
        ((info.sstateVersion > chat.sharedState.version ∨
            info.scredsVersion > chat.moderation.sanctionsCreds.version) ∨
          info.scredsVersion = chat.moderation.sanctionsCreds.version ∧
            info.rolesChecksum ≠ chat.advertisedRolesChecksum) then
      gfState
    else 0
  let topic :=
    if chat.groupTopicLockEnabled then
      if info.topicVersion > chat.topicInfo.version ∨
          info.topicVersion = chat.topicInfo.version ∧ info.topicChecksum > chat.topicInfo.checksum then
        gfTopic
      else 0
    else if info.topicChecksum > chat.topicInfo.checksum then gfTopic
    else 0
  peers ||| state ||| topic

def doGcPeerStateSync (env : ChatEnv) (peerNumber : Nat) (syncData : Bytes) : Bool × GCChat :=
  if syncData.length < gcPingPacketMinDataSize then (false, chat)
  else
    let syncFlags := chat.getSyncFlags (SyncInfo.unpack syncData)
    if syncFlags > 0 then chat.sendGcSyncRequest env peerNumber syncFlags else (false, chat)

/-! ## The topic -/

def gcGetEncPkFromSigPk (publicSigKey : SigPublicKey) : Option PublicKey :=
  (chat.group.find? fun peer => peer.link.gconn.publicKey.sig == publicSigKey).map (·.link.gconn.publicKey.enc)

def handleGcTopicValidate (env : ChatEnv) (peer : GCPeer) (topicInfo : GCTopicInfo)
    (topicLockEnabled : Bool) : Bool :=
  if topicInfo.checksum ≠ getGcTopicChecksum topicInfo then false
  else if topicLockEnabled then
    if !chat.moderation.modListVerifySigPk topicInfo.publicSigKey then false
    else if topicInfo.version < chat.topicInfo.version then false
    else true
  else if (chat.gcGetEncPkFromSigPk topicInfo.publicSigKey).any
      chat.moderation.sanctionsListIsObserver then false
  else if topicInfo.version = chat.sharedState.topicLock then
    -- always accept topic on initial connection
    if !env.isTimeout chat.timeConnected gcPingTimeout then true
    else if chat.topicPrevChecksum = topicInfo.checksum ∧
        !env.isTimeout chat.topicTimeSet gcConfirmedPeerTimeout then false
    else true
  else peer.role == .founder && topicInfo.version == chat.sharedState.topicLock + 1

def handleGcTopic (crypto : SignCrypto) (env : ChatEnv) (peer : GCPeer) (data : Bytes) :
    Bool × GCChat :=
  if data.length < signatureSize + gcMinPackedTopicInfoSize then (false, chat)
  else
    let signature : Signature := bytesToVector _ data
    let packedTopic := data.drop signatureSize
    match unpackGcTopicInfo packedTopic with
    | none => (true, chat)
    | some topicInfo =>
      if !crypto.signatureVerify signature packedTopic topicInfo.publicSigKey then (true, chat)
      else if !chat.handleGcTopicValidate env peer topicInfo chat.groupTopicLockEnabled then
        (true, chat)
      else
        (true, { chat with
          topicPrevChecksum := chat.topicInfo.checksum
          topicTimeSet := env.now
          topicInfo
          topicSig := signature })

end GCChat

end Toxcore

import Toxcore.Native.NgcConnection

/-!
# The shared state and the topic of a group

`GC_SharedState`, which the founder signs, and `GC_TopicInfo`, which the peer signs who sets
the topic, with their packed forms.
-/

namespace Toxcore

def maxGcGroupNameSize : Nat := 48

def maxGcPasswordSize : Nat := 32

def maxGcTopicSize : Nat := 512

def gcPackedSharedStateSize : Nat :=
  64 + 2 + maxGcGroupNameSize + 2 + 1 + 2 + maxGcPasswordSize + cryptoSha256Size + 4 + 4 + 1

def gcMinPackedTopicInfoSize : Nat := 2 + sigPublicKeySize + 4 + 2

def gcSharedStateEncPacketSize : Nat := signatureSize + gcPackedSharedStateSize

def giPrivate : UInt8 := 1

def gvFounder : UInt8 := 2

/-! ## The shared state -/

/-- `GC_SharedState`; the states are bytes, since a packet may hold any value. -/
structure GCSharedState where
  version : UInt32
  founderPublicKey : ExtPublicKey
  maxpeers : UInt16
  groupNameLen : UInt16
  groupName : Vector UInt8 maxGcGroupNameSize
  privacyState : UInt8
  passwordLength : UInt16
  password : Vector UInt8 maxGcPasswordSize
  modListHash : Digest
  topicLock : UInt32
  voiceState : UInt8
deriving DecidableEq

def packGcSharedState (state : GCSharedState) : Bytes :=
  netPackU32 state.version ++ state.founderPublicKey.enc.toList ++
    state.founderPublicKey.sig.toList ++ netPackU16 state.maxpeers ++
    netPackU16 state.groupNameLen ++ state.groupName.toList ++ [state.privacyState] ++
    netPackU16 state.passwordLength ++ state.password.toList ++ state.modListHash.toList ++
    netPackU32 state.topicLock ++ [state.voiceState]

def unpackGcSharedState (data : Bytes) : Option GCSharedState :=
  if data.length < gcPackedSharedStateSize then none
  else
    some
      { version := netUnpackU32 data
        founderPublicKey := { enc := bytesToVector _ (data.drop 4), sig := bytesToVector _ (data.drop 36) }
        maxpeers := netUnpackU16 (data.drop 68)
        groupNameLen := min (netUnpackU16 (data.drop 70)) (UInt16.ofNat maxGcGroupNameSize)
        groupName := bytesToVector _ (data.drop 72)
        privacyState := data.getD 120 0
        passwordLength := netUnpackU16 (data.drop 121)
        password := bytesToVector _ (data.drop 123)
        modListHash := bytesToVector _ (data.drop 155)
        topicLock := netUnpackU32 (data.drop 187)
        voiceState := data.getD 191 0 }

def validateGcSharedState (state : GCSharedState) : Bool :=
  decide (state.maxpeers > 0) && decide (state.passwordLength.toNat ≤ maxGcPasswordSize) &&
    decide (state.groupNameLen > 0) && decide (state.groupNameLen.toNat ≤ maxGcGroupNameSize) &&
    decide (state.privacyState ≤ giPrivate) && decide (state.voiceState ≤ gvFounder)

/-! ## The topic -/

/-- `GC_TopicInfo`; `topic` holds the `length` bytes in use. -/
structure GCTopicInfo where
  version : UInt32
  checksum : UInt16
  topic : Bytes
  publicSigKey : SigPublicKey
deriving DecidableEq

def getGcTopicChecksum (info : GCTopicInfo) : UInt16 := dataChecksum info.topic

/-- `pack_gc_topic_info` into a buffer that is large enough. -/
def packGcTopicInfo (info : GCTopicInfo) : Bytes :=
  netPackU32 info.version ++ netPackU16 info.checksum ++
    netPackU16 (UInt16.ofNat info.topic.length) ++ info.topic ++ info.publicSigKey.toList

def unpackGcTopicInfo (data : Bytes) : Option GCTopicInfo :=
  if data.length < 8 then none
  else
    let length := min (netUnpackU16 (data.drop 6)).toNat maxGcTopicSize
    if data.length - 8 < length + sigPublicKeySize then none
    else
      some
        { version := netUnpackU32 data
          checksum := netUnpackU16 (data.drop 4)
          topic := (data.drop 8).take length
          publicSigKey := bytesToVector _ (data.drop (8 + length)) }

/-! ## Lengths -/

theorem length_packGcTopicInfo (info : GCTopicInfo) :
    (packGcTopicInfo info).length = info.topic.length + gcMinPackedTopicInfoSize := by
  simp only [packGcTopicInfo, List.length_append, length_netPackU32, length_netPackU16,
    Vector.length_toList, gcMinPackedTopicInfoSize]
  omega

end Toxcore

import Toxcore.Native.NgcObservers

/-!
# Messages in a group

The functions of `group_chats.c` that send messages and custom packets over the lossless channels of a group, and the
handlers for what they send.
-/

namespace Toxcore

def gcMessagePseudoIdSize : Nat := 4

def maxGcMessageSize : Nat := 1372

def maxGcMessageRawSize : Nat := maxGcMessageSize + gcMessagePseudoIdSize

def maxGcCustomPacketSize : Nat := 40000

def gmPlainMessage : UInt8 := 0x02

def gmActionMessage : UInt8 := 0x03

def gmPrivateMessage : UInt8 := 0x04

def gpCustomPrivatePacket : UInt8 := 0xee

def gpCustomPacket : UInt8 := 0xf2

/-- `peer_has_voice` -/
def GroupRole.hasVoice (role : GroupRole) (voiceState : UInt8) : Bool :=
  if voiceState = 0 then role.value ≤ GroupRole.user.value
  else if voiceState = 1 then role.value ≤ GroupRole.moderator.value
  else if voiceState = 2 then role == .founder
  else false

def GroupRole.mute (role : GroupRole) : Bool := role.value ≥ GroupRole.observer.value

/-! ## Sending -/

/-- Whether there is memory, and the result of `send_lossless_group_packet`. -/
structure MessageEnv where
  memory : Bool
  sent : Bool

/-- The result of a function that sends, and the lossless packet that it hands to the channels with its type. -/
abbrev Sending := Int × Option (UInt8 × Bytes)

namespace GCChat

variable (chat : GCChat) (env : MessageEnv)

def gcSendMessage (message : Bytes) (type : UInt8) (pseudoMsgId : UInt32) : Sending :=
  if message.length > maxGcMessageSize then (-1, none)
  else if message.length = 0 then (-2, none)
  else if type ≠ 0 ∧ type ≠ 1 then (-3, none)
  else if chat.gcGetSelfRole.mute ∨ !chat.gcGetSelfRole.hasVoice chat.sharedState.voiceState then (-4, none)
  else
    let messageRaw := netPackU32 pseudoMsgId ++ message
    -- `send_gc_broadcast_message`
    if !env.memory ∨ messageRaw.length + gcBroadcastEncHeaderSize > maxGcPacketSize then (-5, none)
    else (0, some (gpBroadcast, (if type = 0 then gmPlainMessage else gmActionMessage) :: messageRaw))

def gcSendPrivateMessage (peerId : UInt32) (type : UInt8) (message : Bytes) : Sending :=
  if message.length > maxGcMessageSize then (-1, none)
  else if message.length = 0 then (-2, none)
  else if (chat.getPeerNumberOfPeerId peerId).isNone then (-3, none)
  else if type > 1 then (-4, none)
  else if chat.gcGetSelfRole.mute then (-5, none)
  else if !env.memory then (-6, none)
  else (if env.sent then 0 else -6, some (gpBroadcast, gmPrivateMessage :: type :: message))

def gcSendCustomPrivatePacket (peerId : UInt32) (message : Bytes) : Sending :=
  if message.length > maxGcCustomPacketSize then (-1, none)
  else if message.length = 0 then (-2, none)
  else if (chat.getPeerNumberOfPeerId peerId).isNone then (-3, none)
  else if chat.gcGetSelfRole.mute then (-4, none)
  else (if env.sent then 0 else -5, some (gpCustomPrivatePacket, message))

def gcSendCustomPacket (data : Bytes) : Sending :=
  if data.length > maxGcCustomPacketSize then (-1, none)
  else if data.length = 0 then (-2, none)
  else if chat.gcGetSelfRole.mute then (-3, none)
  else (0, some (gpCustomPacket, data))

end GCChat

/-! ## Receiving -/

/-- The callbacks for messages and custom packets. -/
inductive GroupMessageEvent where
  | message (peerId : UInt32) (type : UInt8) (message : Bytes) (pseudoMsgId : UInt32)
  | privateMessage (peerId : UInt32) (type : UInt8) (message : Bytes)
  | customPacket (peerId : UInt32) (data : Bytes)
  | customPrivatePacket (peerId : UInt32) (data : Bytes)
deriving DecidableEq

/-- The result of a handler and its callbacks. -/
abbrev MessageHandled := Int × List GroupMessageEvent

namespace GCChat

variable (chat : GCChat)

def handleGcMessage (peer : GCPeer) (data : Bytes) (type : UInt8) : MessageHandled :=
  if data.length > maxGcMessageRawSize ∨ data.length ≤ gcMessagePseudoIdSize then (-1, [])
  else if peer.ignored ∨ peer.role.mute ∨ !peer.role.hasVoice chat.sharedState.voiceState then (0, [])
  else if type ≠ gmPlainMessage ∧ type ≠ gmActionMessage then (0, [])
  else
    (0, [.message peer.peerId (if type = gmPlainMessage then 0 else 1) (data.drop gcMessagePseudoIdSize)
      (netUnpackU32 data)])

def handleGcPrivateMessage (peer : GCPeer) (data : Bytes) : MessageHandled :=
  if data.length > maxGcMessageSize ∨ data.length ≤ 1 then (-1, [])
  else if peer.ignored ∨ peer.role.mute then (0, [])
  else if data.headD 0 > 1 then (0, [])
  else (0, [.privateMessage peer.peerId (data.headD 0) (data.drop 1)])

/-- `handle_gc_custom_packet` and `handle_gc_custom_private_packet`, which differ in the callback. -/
def handleGcCustom (callback : UInt32 → Bytes → GroupMessageEvent) (peer : GCPeer) (data : Bytes) : MessageHandled :=
  if data.length = 0 ∨ data.length > maxGcCustomPacketSize then (-1, [])
  else if peer.ignored ∨ peer.role.mute then (0, [])
  else (0, [callback peer.peerId data])

def handleGcCustomPacket : GCPeer → Bytes → MessageHandled := handleGcCustom .customPacket

def handleGcCustomPrivatePacket : GCPeer → Bytes → MessageHandled := handleGcCustom .customPrivatePacket

def handleGcBroadcast (others : UInt8 → Bytes → MessageHandled) (peer : GCPeer) : Bytes → MessageHandled
  | [] => (-1, [])
  | broadcastType :: message =>
    if !peer.link.gconn.confirmed then (-1, [])
    else
      let (ret, events) :=
        if broadcastType = gmActionMessage ∨ broadcastType = gmPlainMessage then
          chat.handleGcMessage peer message broadcastType
        else if broadcastType = gmPrivateMessage then handleGcPrivateMessage peer message
        else others broadcastType message
      (if ret < 0 then -1 else 0, events)

def handleGcLosslessHelper (others packets : UInt8 → Bytes → MessageHandled) (peerNumber : Nat) (data : Bytes)
    (packetType : UInt8) : Bool × List GroupMessageEvent :=
  match chat.group[peerNumber]? with
  | none => (false, [])
  | some peer =>
    let (ret, events) :=
      if packetType = gpBroadcast then chat.handleGcBroadcast others peer data
      else if packetType = gpCustomPacket then handleGcCustomPacket peer data
      else if packetType = gpCustomPrivatePacket then handleGcCustomPrivatePacket peer data
      else packets packetType data
    (0 ≤ ret, events)

end GCChat

end Toxcore

import Toxcore.Native.ClientData
import Toxcore.Native.TCPServer

/-!
# Forwarding

`forwarding.c` and `timed_auth.c`: requests are sent on along a chain of nodes, each of which wraps
the way back in an authenticated sendback, and replies are sent back along the sendbacks.  The HMAC
of libsodium is a parameter.  Sending to an IPv4 or IPv6 address succeeds.

A packet handler says what it did in a `ForwardResult`.  All lengths are below `2 ^ 16`.
-/

namespace Toxcore

/-! ## Constants -/

def netPacketForwardRequest : UInt8 := 0x90

def netPacketForwarding : UInt8 := 0x91

def netPacketForwardReply : UInt8 := 0x92

def sendbackIpport : UInt8 := 0

def sendbackForward : UInt8 := 1

def sendbackTcp : UInt8 := 2

def maxSendbackSize : Nat := 0xff - 1

def maxForwardChainLength : Nat := 4

def maxPackedIpportSize : Nat := 1 + sizeIp6 + 2

def sendbackTimeout : UInt64 := 3600

def timedAuthSize : Nat := 32

/-! ## Timed authentication -/

abbrev HmacKey := Vector UInt8 32

/-- `crypto_hmac` -/
abbrev Hmac := HmacKey → Bytes → Vector UInt8 timedAuthSize

/-- `create_timed_auth_to_hash`; the time is copied in the byte order of the machine. -/
def createTimedAuthToHash (now timeout : UInt64) (previous : Bool) (data : Bytes) : Bytes :=
  toLittleEndian 8 (now / timeout - (if previous then 1 else 0)).toNat ++ data

def generateTimedAuth (hmac : Hmac) (now timeout : UInt64) (key : HmacKey) (data : Bytes) : Bytes :=
  (hmac key (createTimedAuthToHash now timeout false data)).toList

def checkTimedAuth (hmac : Hmac) (now timeout : UInt64) (key : HmacKey) (data timedAuth : Bytes) :
    Bool :=
  timedAuth == (hmac key (createTimedAuthToHash now timeout false data)).toList ||
    timedAuth == (hmac key (createTimedAuthToHash now timeout true data)).toList

/-! ## Requests -/

def forwardChainPacketSize (chainLength dataLength : Nat) : Nat :=
  chainLength * (1 + cryptoPublicKeySize) + dataLength

/-- The loop of `create_forward_chain_packet` and the data behind it. -/
def forwardChainPacket (chainKeys : List PublicKey) (data : Bytes) : Bytes :=
  chainKeys.flatMap (fun key => netPacketForwardRequest :: key.toList) ++ data

def createForwardChainPacket (chainKeys : List PublicKey) (data : Bytes) : Option Bytes :=
  if chainKeys.length = 0 ∨ chainKeys.length > maxForwardChainLength ∨
      data.length > maxForwardDataSize then none
  else some (forwardChainPacket chainKeys data)

def sendForwardRequest (chainKeys : List PublicKey) (data : Bytes) : Option Bytes :=
  if chainKeys.length = 0 ∨ chainKeys.length > maxForwardChainLength ∨
      data.length > maxForwardDataSize then none
  else createForwardChainPacket chainKeys data

/-- `send_forward_request_tcp`: the packet that is written to the relay; `none` is a result other
    than `1`. -/
def sendForwardRequestTcp (dest : IPPort) (data : Bytes) : Option Bytes :=
  if data.length > maxForwardDataSize then none
  else
    match packIpPort maxPackedIpportSize dest with
    | none => none
    | some ipport => some (tcpPacketForwardRequest :: (ipport ++ data))

/-- `tcp_send_forward_request`: the packet that is written to the relay; `none` is `-1`. -/
def tcpSendForwardRequest (dhtNode : IPPort) (chainKeys : List PublicKey) (data : Bytes) :
    Option Bytes :=
  if chainKeys.length = 0 then sendForwardRequestTcp dhtNode data
  else
    match createForwardChainPacket chainKeys data with
    | none => none
    | some packet => sendForwardRequestTcp dhtNode packet

/-! ## Nodes -/

/-- What a handler did. -/
inductive ForwardOutcome where
  | ignored
  | sent (dest : IPPort) (packet : Bytes)
  | request (forwarder : IPPort) (sendback data : Bytes)
  /-- `forwarded_response_callback` -/
  | response (data : Bytes)
  /-- `forward_reply_callback` -/
  | reply (sendbackData data : Bytes)
deriving DecidableEq

/-- What a handler did, and the sendback data that it authenticated. -/
structure ForwardResult where
  outcome : ForwardOutcome
  created : Option Bytes

/-- `Forwarding` with what it reads of the DHT and of the clock. -/
structure Forwarding where
  hmacKey : HmacKey
  now : UInt64
  closeClientlist : List ClientData
  /-- Which callbacks are set. -/
  forwardReplyCallback : Bool
  forwardedRequestCallback : Bool
  forwardedResponseCallback : Bool
deriving DecidableEq

def sendpacket (dest : IPPort) (packet : Bytes) : ForwardOutcome :=
  if dest.isIpv4 || dest.isIpv6 then .sent dest packet else .ignored

/-- The address to which `route_packet` sends. -/
def routeAddress (closeClientlist : List ClientData) (publicKey : PublicKey) : Option IPPort :=
  match closeClientlist.find? (·.publicKey = publicKey) with
  | none => none
  | some client =>
    if !client.assoc6.ipPort.isUnspec then some client.assoc6.ipPort
    else if !client.assoc4.ipPort.isUnspec then some client.assoc4.ipPort
    else none

/-- `forward_reply`: the packet that is sent to the forwarder; `none` is `false`. -/
def forwardReply (sendback data : Bytes) : Option Bytes :=
  if sendback.length > maxSendbackSize ∨ data.length > maxForwardDataSize then none
  else some (netPacketForwardReply :: UInt8.ofNat sendback.length :: (sendback ++ data))

namespace Forwarding

variable (hmac : Hmac) (forwarding : Forwarding)

/-- The sendback that `create_forwarding_packet` makes of its data. -/
def sendbackOf (sendbackData : Bytes) : Bytes :=
  generateTimedAuth hmac forwarding.now sendbackTimeout forwarding.hmacKey sendbackData ++ sendbackData

def createForwardingPacket (sendbackData data : Bytes) : Option Bytes :=
  if sendbackData.length = 0 then some (netPacketForwarding :: 0 :: data)
  else
    let sendbackLen := timedAuthSize + sendbackData.length
    if sendbackLen > maxSendbackSize then none
    else
      some (netPacketForwarding :: UInt8.ofNat sendbackLen :: (forwarding.sendbackOf hmac sendbackData ++ data))

/-- `send_forwarding`, which has at most thirteen bytes of sendback data, so that it does not fail. -/
def sendForwarding (dest : IPPort) (sendbackData data : Bytes) : ForwardResult :=
  if data.length > maxForwardDataSize then ⟨.ignored, none⟩
  else
    match forwarding.createForwardingPacket hmac sendbackData data with
    | none => ⟨.ignored, none⟩
    | some packet =>
      ⟨sendpacket dest packet, if sendbackData.length = 0 then none else some sendbackData⟩

def handleForwardRequestDht (sendbackData packet : Bytes) : ForwardResult :=
  if packet.length < 1 + cryptoPublicKeySize then ⟨.ignored, none⟩
  else
    let publicKey : PublicKey := bytesToVector _ (packet.drop 1)
    let forwardData := packet.drop (1 + cryptoPublicKeySize)
    if timedAuthSize + sendbackData.length > maxSendbackSize ∨
        forwardData.length > maxForwardDataSize then ⟨.ignored, none⟩
    else
      match forwarding.createForwardingPacket hmac sendbackData forwardData with
      | none => ⟨.ignored, none⟩
      | some forwardingPacket =>
        match routeAddress forwarding.closeClientlist publicKey with
        | none => ⟨.ignored, some sendbackData⟩
        | some dest => ⟨sendpacket dest forwardingPacket, some sendbackData⟩

def handleForwardRequest (source : IPPort) (packet : Bytes) : ForwardResult :=
  match packIpPort maxPackedIpportSize source with
  | none => ⟨.ignored, none⟩
  | some ipport => forwarding.handleForwardRequestDht hmac (sendbackIpport :: ipport) packet

/-- The end of `handle_forward_reply`: the sendback data has been authenticated. -/
def relayReply (sendbackData toForward : Bytes) : ForwardOutcome :=
  match sendbackData with
  | [] => .ignored
  | kind :: rest =>
    if kind = sendbackIpport then
      match unpackIpPort rest false with
      | some (dest, []) => (forwarding.sendForwarding hmac dest [] toForward).outcome
      | _ => .ignored
    else if kind = sendbackForward then
      match unpackIpPort rest false with
      | none => .ignored
      | some (forwarder, forwardSendback) =>
        match forwardReply forwardSendback toForward with
        | none => .ignored
        | some packet => sendpacket forwarder packet
    else if forwarding.forwardReplyCallback then .reply sendbackData toForward
    else .ignored

def handleForwardReply (packet : Bytes) : ForwardOutcome :=
  if packet.length < 1 + 1 + timedAuthSize then .ignored
  else
    let sendbackLen := (packet.getD 1 0).toNat
    let sendbackAuth := (packet.drop 2).take timedAuthSize
    if sendbackLen > maxSendbackSize then .ignored
    else if sendbackLen < timedAuthSize + 1 then .ignored
    else if packet.length < 1 + 1 + sendbackLen then .ignored
    else
      let sendbackData := (packet.drop (2 + timedAuthSize)).take (sendbackLen - timedAuthSize)
      let toForward := packet.drop (2 + sendbackLen)
      if !checkTimedAuth hmac forwarding.now sendbackTimeout forwarding.hmacKey sendbackData
          sendbackAuth then .ignored
      else forwarding.relayReply hmac sendbackData toForward

def handleForwarding (source : IPPort) (packet : Bytes) : ForwardResult :=
  if packet.length < 2 then ⟨.ignored, none⟩
  else
    let sendbackLen := (packet.getD 1 0).toNat
    if packet.length < 1 + 1 + sendbackLen then ⟨.ignored, none⟩
    else
      let sendback := (packet.drop 2).take sendbackLen
      let forwarded := packet.drop (2 + sendbackLen)
      if forwarded.head? = some netPacketForwardRequest then
        match packIpPort maxPackedIpportSize source with
        | none => ⟨.ignored, none⟩
        | some ipport =>
          forwarding.handleForwardRequestDht hmac (sendbackForward :: (ipport ++ sendback)) forwarded
      else if sendbackLen > 0 then
        if forwarding.forwardedRequestCallback then ⟨.request source sendback forwarded, none⟩
        else ⟨.ignored, none⟩
      else if forwarding.forwardedResponseCallback then ⟨.response forwarded, none⟩
      else ⟨.ignored, none⟩

/-- The handlers that `new_forwarding` registers. -/
def handlePacket (source : IPPort) : Bytes → ForwardResult
  | [] => ⟨.ignored, none⟩
  | id :: rest =>
    if id = netPacketForwardRequest then forwarding.handleForwardRequest hmac source (id :: rest)
    else if id = netPacketForwardReply then ⟨forwarding.handleForwardReply hmac (id :: rest), none⟩
    else if id = netPacketForwarding then forwarding.handleForwarding hmac source (id :: rest)
    else ⟨.ignored, none⟩

/-! ## The relay of a TCP client -/

/-- The sendback data of a client of the relay. -/
def tcpSendbackData (conId : UInt32) (identifier : UInt64) : Bytes :=
  sendbackTcp :: (netPackU32 conId ++ netPackU64 identifier)

/-- The case `TCP_PACKET_FORWARD_REQUEST` of `handle_TCP_packet`, for the bytes after the packet
    id. -/
def handleTcpForwardRequest (conId : UInt32) (identifier : UInt64) (data : Bytes) :
    ForwardResult :=
  match unpackIpPort data false with
  | none => ⟨.ignored, none⟩
  | some (dest, forwardData) =>
    if forwardData.length > maxForwardDataSize then ⟨.ignored, none⟩
    else forwarding.sendForwarding hmac dest (tcpSendbackData conId identifier) forwardData

end Forwarding

/-- The case `TCP_PACKET_FORWARDING` of `handle_TCP_client_packet`: what the callback gets. -/
def tcpClientForwarding : Bytes → Option Bytes
  | [] => none
  | id :: data => if id = tcpPacketForwarding then some data else none

/-- The arguments that `handle_forward_reply_tcp` takes out of its sendback data; `none` is
    `false`. -/
def tcpSendbackTarget (sendbackData : Bytes) : Option (UInt32 × UInt64) :=
  if sendbackData.length ≠ 1 + 4 + 8 then none
  else if sendbackData.head? ≠ some sendbackTcp then none
  else some (netUnpackU32 (sendbackData.drop 1), netUnpackU64 (sendbackData.drop 5))

end Toxcore

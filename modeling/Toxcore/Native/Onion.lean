import Toxcore.Native.SharedKeyCache
import Toxcore.Native.TCPServer

/-!
# Onion routing

`onion.c`, and the part of `TCP_server.c` by which the clients of a relay use it.  A request is
encrypted in three layers; every node takes one off, and adds the address that it came from to the
return part, encrypted with a symmetric key of its own.  A response travels back along the return
part.

Sending to an IPv4 or IPv6 address succeeds, and memory for encryption is found.
-/

namespace Toxcore

/-! ## Constants -/

def netPacketOnionSendInitial : UInt8 := 0x80

def netPacketOnionSend1 : UInt8 := 0x81

def netPacketOnionSend2 : UInt8 := 0x82

def netPacketAnnounceRequestOld : UInt8 := 0x83

def netPacketAnnounceResponseOld : UInt8 := 0x84

def netPacketOnionDataRequest : UInt8 := 0x85

def netPacketOnionDataResponse : UInt8 := 0x86

def netPacketAnnounceRequest : UInt8 := 0x87

def netPacketAnnounceResponse : UInt8 := 0x88

def netPacketOnionRecv3 : UInt8 := 0x8c

def netPacketOnionRecv2 : UInt8 := 0x8d

def netPacketOnionRecv1 : UInt8 := 0x8e

def sizeIp : Nat := 1 + sizeIp6

def sizeIpport : Nat := sizeIp + 2

def onionMaxPacketSize : Nat := 1400

def onionReturn1 : Nat := cryptoNonceSize + sizeIpport + cryptoMacSize

def onionReturn2 : Nat := cryptoNonceSize + sizeIpport + cryptoMacSize + onionReturn1

def onionReturn3 : Nat := cryptoNonceSize + sizeIpport + cryptoMacSize + onionReturn2

def onionSend3Size : Nat := cryptoNonceSize + onionSendBase + onionReturn2

def onionSend2Size : Nat := cryptoNonceSize + onionSendBase * 2 + onionReturn1

def onionSend1Size : Nat := cryptoNonceSize + onionSendBase * 3

def onionMaxDataSize : Nat := onionMaxPacketSize - (onionSend1Size + 1)

def onionResponseMaxDataSize : Nat := onionMaxPacketSize - (1 + onionReturn3)

def keyRefreshInterval : UInt64 := 2 * 60 * 60

def maxKeysPerSlot : UInt8 := 4

/-- `KEYS_TIMEOUT` of `onion.c` -/
def keysTimeout : UInt64 := 600

def tcpClientFamily : UInt8 := toxAfInet6 + 1

/-! ## Packed addresses -/

def IPPort.isToxTcpIpv4 (ipPort : IPPort) : Bool := ipPort.family == toxTcpInet

def IPPort.isTcpClient (ipPort : IPPort) : Bool := ipPort.family == tcpClientFamily

def ipPack (source : IPPort) : Bytes :=
  source.family ::
    if source.isIpv4 || source.isToxTcpIpv4 then
      source.v4 ++ List.replicate (sizeIp6 - sizeIp4) 0
    else source.v6

def ipportPack (source : IPPort) : Bytes := ipPack source ++ packPort source.port

def ipUnpack (target : IPPort) (data : Bytes) (disableFamilyCheck : Bool) : Option IPPort :=
  if data.length < 1 + sizeIp6 then none
  else
    let target := { target with family := data.headD 0 }
    let target :=
      if target.isIpv4 || target.isToxTcpIpv4 then
        -- the other bytes of the union stay as they were
        { target with
          ip := bytesToVector 16 ((data.drop 1).take sizeIp4 ++ target.ip.toList.drop sizeIp4) }
      else { target with ip := bytesToVector 16 (data.drop 1) }
    if disableFamilyCheck || target.isIpv4 || target.isIpv6 then some target else none

def ipportUnpack (target : IPPort) (data : Bytes) (disableFamilyCheck : Bool) : Option IPPort :=
  if data.length < sizeIp + 2 then none
  else
    match ipUnpack target data disableFamilyCheck with
    | none => none
    | some target => some { target with port := unpackPort (data.drop sizeIp) }

/-! ## Paths -/

/-- The bytes of a nonce, as they travel in packets. -/
abbrev OnionNonce := Vector UInt8 cryptoNonceSize

/-- `Onion_Path` without its number. -/
structure OnionPath where
  sharedKey1 : SharedKey
  sharedKey2 : SharedKey
  sharedKey3 : SharedKey
  publicKey1 : PublicKey
  publicKey2 : PublicKey
  publicKey3 : PublicKey
  ipPort1 : IPPort
  nodePublicKey1 : PublicKey
  ipPort2 : IPPort
  nodePublicKey2 : PublicKey
  ipPort3 : IPPort
  nodePublicKey3 : PublicKey

/-- A key pair, as `crypto_new_keypair` returns it. -/
structure KeyPair where
  publicKey : PublicKey
  secretKey : SecretKey
deriving DecidableEq

def createOnionPath (box : CryptoBox) (self random2 random3 : KeyPair) (newPath : OnionPath)
    (node1 node2 node3 : NodeFormat) : OnionPath where
  sharedKey1 := box.encryptPrecompute node1.publicKey self.secretKey newPath.sharedKey1
  sharedKey2 := box.encryptPrecompute node2.publicKey random2.secretKey newPath.sharedKey2
  sharedKey3 := box.encryptPrecompute node3.publicKey random3.secretKey newPath.sharedKey3
  publicKey1 := self.publicKey
  publicKey2 := random2.publicKey
  publicKey3 := random3.publicKey
  ipPort1 := node1.ipPort
  nodePublicKey1 := node1.publicKey
  ipPort2 := node2.ipPort
  nodePublicKey2 := node2.publicKey
  ipPort3 := node3.ipPort
  nodePublicKey3 := node3.publicKey

section create

variable (cipher : ByteCipher OnionNonce) (nonce : OnionNonce)

/-- A layer of a packet: the address of a node, the key of the sender for it, and `step` encrypted
    for it. -/
def onionLayer (ipPort : IPPort) (publicKey : PublicKey) (sharedKey : SharedKey) (step : Bytes) :
    Option Bytes :=
  (cipher.encryptDataSymmetric sharedKey nonce step).map fun encrypted =>
    ipportPack ipPort ++ (publicKey.toList ++ encrypted)

/-- The two inner layers, which both forms of a packet have: `step3` of `create_onion_packet`. -/
def onionInnerLayers (path : OnionPath) (dest : IPPort) (data : Bytes) : Option Bytes :=
  (onionLayer cipher nonce path.ipPort3 path.publicKey3 path.sharedKey3
    (ipportPack dest ++ data)).bind
    (onionLayer cipher nonce path.ipPort2 path.publicKey2 path.sharedKey2)

def createOnionPacket (maxPacketLength : Nat) (path : OnionPath) (dest : IPPort) (data : Bytes) :
    Option Bytes :=
  if 1 + data.length + onionSend1Size > maxPacketLength ∨ data.length = 0 then none
  else
    match onionInnerLayers cipher nonce path dest data with
    | none => none
    | some step3 =>
      (cipher.encryptDataSymmetric path.sharedKey1 nonce step3).map fun encrypted =>
        netPacketOnionSendInitial :: (nonce.toList ++ (path.publicKey1.toList ++ encrypted))

def createOnionPacketTcp (maxPacketLength : Nat) (path : OnionPath) (dest : IPPort)
    (data : Bytes) : Option Bytes :=
  if cryptoNonceSize + sizeIpport + onionSendBase * 2 + data.length > maxPacketLength ∨
      data.length = 0 then none
  else (onionInnerLayers cipher nonce path dest data).map fun packet => nonce.toList ++ packet

end create

/-- `send_onion_response`: the packet that is sent; `none` is `-1`. -/
def sendOnionResponse (data ret : Bytes) : Option Bytes :=
  if data.length > onionResponseMaxDataSize ∨ data.length = 0 then none
  else some (netPacketOnionRecv3 :: (ret.take onionReturn3 ++ data))

/-! ## Nodes -/

/-- `Onion`.  `recv1Function` says whether the callback is set. -/
structure Onion where
  secretSymmetricKey : SharedKey
  timestamp : UInt64
  sharedKeys1 : SharedKeyCache
  sharedKeys2 : SharedKeyCache
  sharedKeys3 : SharedKeyCache
  recv1Function : Bool

/-- What a node takes from the outside while it handles a packet. -/
structure OnionEnv where
  /-- `mono_time_get` -/
  now : UInt64
  newSymmetricKey : SharedKey
  randomNonce : OnionNonce
  /-- What the local variable `send_to` holds before it is written. -/
  uninitialized : IPPort

/-- What a handler did. -/
inductive OnionOutcome where
  | ignored
  | sent (dest : IPPort) (packet : Bytes)
  /-- `recv_1_function` -/
  | recv1 (dest : IPPort) (data : Bytes)
deriving DecidableEq

def onionSendpacket (dest : IPPort) (packet : Bytes) : OnionOutcome :=
  if dest.isIpv4 || dest.isIpv6 then .sent dest packet else .ignored

/-- The packets that `handle_send_2` sends on. -/
def isOnionRequestId (packetId : UInt8) : Bool :=
  packetId == netPacketAnnounceRequest || packetId == netPacketAnnounceRequestOld ||
    packetId == netPacketOnionDataRequest

/-- The packets that are sent back. -/
def isOnionResponseId (packetId : UInt8) : Bool :=
  packetId == netPacketAnnounceResponse || packetId == netPacketAnnounceResponseOld ||
    packetId == netPacketOnionDataResponse

def newOnion (now : UInt64) (secretSymmetricKey : SharedKey) (dhtSecretKey : SecretKey) :
    Option Onion :=
  (sharedKeyCacheNew now dhtSecretKey keysTimeout maxKeysPerSlot).map fun cache =>
    { secretSymmetricKey, timestamp := now, sharedKeys1 := cache, sharedKeys2 := cache,
      sharedKeys3 := cache, recv1Function := false }

namespace Onion

def changeSymmetricKey (env : OnionEnv) (onion : Onion) : Onion :=
  if monoTimeIsTimeout env.now onion.timestamp keyRefreshInterval then
    { onion with secretSymmetricKey := env.newSymmetricKey, timestamp := env.now }
  else onion

variable (cipher : ByteCipher OnionNonce) (env : OnionEnv)

/-- The return part that a node adds: `retData` encrypted with its symmetric key. -/
def returnPart (onion : Onion) (retData : Bytes) : Option Bytes :=
  (cipher.encryptDataSymmetric onion.secretSymmetricKey env.randomNonce retData).map fun encrypted =>
    env.randomNonce.toList ++ encrypted

def onionSend1 (onion : Onion) (plain : Bytes) (source : IPPort) (nonce : OnionNonce) :
    OnionOutcome :=
  if plain.length > onionMaxPacketSize + sizeIpport - (1 + cryptoNonceSize + onionReturn1) then
    .ignored
  else if plain.length ≤ sizeIpport + onionSendBase * 2 then .ignored
  else
    match ipportUnpack env.uninitialized plain false, onion.returnPart cipher env (ipportPack source)
    with
    | some sendTo, some retPart =>
      if retPart.length ≠ cryptoNonceSize + (sizeIpport + cryptoMacSize) then .ignored
      else
        onionSendpacket sendTo (netPacketOnionSend1 :: (nonce.toList ++ (plain.drop sizeIpport ++ retPart)))
    | _, _ => .ignored

variable (box : CryptoBox)

def handleSendInitial (onion : Onion) (source : IPPort) (packet : Bytes) : OnionOutcome × Onion :=
  if packet.length > onionMaxPacketSize then (.ignored, onion)
  else if packet.length ≤ 1 + onionSend1Size then (.ignored, onion)
  else
    let onion := onion.changeSymmetricKey env
    let nonce : OnionNonce := bytesToVector _ (packet.drop 1)
    let publicKey : PublicKey := bytesToVector _ (packet.drop (1 + cryptoNonceSize))
    let (sharedKey, sharedKeys1) := onion.sharedKeys1.lookup box env.now publicKey
    let onion := { onion with sharedKeys1 }
    match sharedKey with
    | none => (.ignored, onion)
    | some sharedKey =>
      match cipher.decryptDataSymmetric sharedKey nonce
          (packet.drop (1 + cryptoNonceSize + cryptoPublicKeySize)) with
      | none => (.ignored, onion)
      | some plain => (onion.onionSend1 cipher env plain source nonce, onion)

def handleSend1 (onion : Onion) (source : IPPort) (packet : Bytes) : OnionOutcome × Onion :=
  if packet.length > onionMaxPacketSize then (.ignored, onion)
  else if packet.length ≤ 1 + onionSend2Size then (.ignored, onion)
  else
    let onion := onion.changeSymmetricKey env
    let nonce : OnionNonce := bytesToVector _ (packet.drop 1)
    let publicKey : PublicKey := bytesToVector _ (packet.drop (1 + cryptoNonceSize))
    let (sharedKey, sharedKeys2) := onion.sharedKeys2.lookup box env.now publicKey
    let onion := { onion with sharedKeys2 }
    match sharedKey with
    | none => (.ignored, onion)
    | some sharedKey =>
      match cipher.decryptDataSymmetric sharedKey nonce
          ((packet.drop (1 + cryptoNonceSize + cryptoPublicKeySize)).take
            (packet.length - (1 + cryptoNonceSize + cryptoPublicKeySize + onionReturn1))) with
      | none => (.ignored, onion)
      | some plain =>
        match ipportUnpack env.uninitialized plain false,
            onion.returnPart cipher env
              (ipportPack source ++ packet.drop (packet.length - onionReturn1)) with
        | some sendTo, some retPart =>
          if retPart.length ≠ onionReturn2 then (.ignored, onion)
          else
            (onionSendpacket sendTo
              (netPacketOnionSend2 :: (nonce.toList ++ (plain.drop sizeIpport ++ retPart))), onion)
        | _, _ => (.ignored, onion)

def handleSend2 (onion : Onion) (source : IPPort) (packet : Bytes) : OnionOutcome × Onion :=
  if packet.length > onionMaxPacketSize then (.ignored, onion)
  else if packet.length ≤ 1 + onionSend3Size then (.ignored, onion)
  else
    let onion := onion.changeSymmetricKey env
    let nonce : OnionNonce := bytesToVector _ (packet.drop 1)
    let publicKey : PublicKey := bytesToVector _ (packet.drop (1 + cryptoNonceSize))
    let (sharedKey, sharedKeys3) := onion.sharedKeys3.lookup box env.now publicKey
    let onion := { onion with sharedKeys3 }
    match sharedKey with
    | none => (.ignored, onion)
    | some sharedKey =>
      match cipher.decryptDataSymmetric sharedKey nonce
          ((packet.drop (1 + cryptoNonceSize + cryptoPublicKeySize)).take
            (packet.length - (1 + cryptoNonceSize + cryptoPublicKeySize + onionReturn2))) with
      | none => (.ignored, onion)
      | some plain =>
        if !isOnionRequestId (plain.getD sizeIpport 0) then (.ignored, onion)
        else
          match ipportUnpack env.uninitialized plain false,
              onion.returnPart cipher env
                (ipportPack source ++ packet.drop (packet.length - onionReturn2)) with
          | some sendTo, some retPart =>
            if retPart.length ≠ onionReturn3 then (.ignored, onion)
            else (onionSendpacket sendTo (plain.drop sizeIpport ++ retPart), onion)
          | _, _ => (.ignored, onion)

def handleRecv (shorter : Nat) (sendId : UInt8) (onion : Onion) (packet : Bytes) :
    OnionOutcome × Onion :=
  let returnLength := cryptoNonceSize + sizeIpport + cryptoMacSize + shorter
  if packet.length > onionMaxPacketSize then (.ignored, onion)
  else if packet.length ≤ 1 + returnLength then (.ignored, onion)
  else if !isOnionResponseId (packet.getD (1 + returnLength) 0) then (.ignored, onion)
  else
    let onion := onion.changeSymmetricKey env
    match cipher.decryptDataSymmetric onion.secretSymmetricKey (bytesToVector _ (packet.drop 1))
        ((packet.drop (1 + cryptoNonceSize)).take (sizeIpport + shorter + cryptoMacSize)) with
    | none => (.ignored, onion)
    | some plain =>
      match ipportUnpack env.uninitialized plain false with
      | none => (.ignored, onion)
      | some sendTo =>
        (onionSendpacket sendTo (sendId :: (plain.drop sizeIpport ++ packet.drop (1 + returnLength))), onion)

def handleRecv3 (onion : Onion) (packet : Bytes) : OnionOutcome × Onion :=
  handleRecv cipher env onionReturn2 netPacketOnionRecv2 onion packet

def handleRecv2 (onion : Onion) (packet : Bytes) : OnionOutcome × Onion :=
  handleRecv cipher env onionReturn1 netPacketOnionRecv1 onion packet

def handleRecv1 (onion : Onion) (packet : Bytes) : OnionOutcome × Onion :=
  if packet.length > onionMaxPacketSize then (.ignored, onion)
  else if packet.length ≤ 1 + onionReturn1 then (.ignored, onion)
  else if !isOnionResponseId (packet.getD (1 + onionReturn1) 0) then (.ignored, onion)
  else
    let onion := onion.changeSymmetricKey env
    match cipher.decryptDataSymmetric onion.secretSymmetricKey (bytesToVector _ (packet.drop 1))
        ((packet.drop (1 + cryptoNonceSize)).take (sizeIpport + cryptoMacSize)) with
    | none => (.ignored, onion)
    | some plain =>
      match ipportUnpack env.uninitialized plain true with
      | none => (.ignored, onion)
      | some sendTo =>
        let data := packet.drop (1 + onionReturn1)
        if onion.recv1Function && !sendTo.isIpv4 && !sendTo.isIpv6 then (.recv1 sendTo data, onion)
        else (onionSendpacket sendTo data, onion)

end Onion

/-! ## The clients of a relay -/

/-- `con_id_to_ip_port`; numbers are stored in the byte order of the machine. -/
def conIdToIpPort (conId : UInt32) (identifier : UInt64) : IPPort :=
  { emptyIpPort with
    family := tcpClientFamily
    ip := bytesToVector 16
      (toLittleEndian 4 conId.toNat ++ List.replicate 4 0 ++ toLittleEndian 8 identifier.toNat) }

namespace TCPServer

/-- The call of `onion_send_1` in `handle_TCP_packet` for the client `conId`. -/
def handleOnionRequest (cipher : ByteCipher OnionNonce) (onionEnv : OnionEnv) (onion : Onion)
    (server : TCPServer) (conId : UInt32) (packet : Bytes) : OnionOutcome :=
  match server.acceptedConnectionArray[conId.toNat]?, packet with
  | some con, packetId :: data =>
    if packetId ≠ tcpPacketOnionRequest then .ignored
    else if data.length ≤ cryptoNonceSize + onionSendBase * 2 then .ignored
    else
      onion.onionSend1 cipher onionEnv (data.drop cryptoNonceSize)
        (conIdToIpPort conId con.identifier) (bytesToVector _ data)
  | _, _ => .ignored

/-- `handle_onion_recv_1` as the callback `recv_1_function`, with `ip_port_to_con_id`. -/
def recv1Function (env : TCPServerEnv) (server : TCPServer) (dest : IPPort) (data : Bytes) :
    TCPServer :=
  if !dest.isTcpClient then server
  else
    server.handleOnionRecv1 env (ofLittleEndian (dest.v6.take 4))
      (UInt64.ofNat (ofLittleEndian (dest.v6.drop 8))) data

end TCPServer

end Toxcore

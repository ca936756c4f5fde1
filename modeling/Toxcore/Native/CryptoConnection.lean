import Toxcore.Native.CryptoPacket
import Toxcore.Native.PacketsArray
import Toxcore.Native.Network

/-!
# Data transfer on a crypto connection

`Crypto_Connection` and the functions of `net_crypto.c` that send and receive data
packets on it, from `send_data_packet` to `handle_data_packet_core`, together with the
API functions `write_cryptpacket`, `send_lossy_cryptpacket` and `cryptpacket_received`.

These functions act on a `Peer`: the connection together with what it has put on the
wire, the payloads accepted by `write_cryptpacket`, and the payloads passed to
`connection_data_callback`.  What the environment decides is an argument: the current
time `now`, the result `calloc` of an allocation, and the result `sendOk n` of
`send_packet_to` for the packet that carries number `n`.  The floating point send rates
of `send_crypto_packets` are left out.
-/

namespace Toxcore

def maxCryptoPacketSize : Nat := 1400

def cryptoDataPacketMinSize : Nat := 1 + 2 + (4 + 4) + cryptoMacSize

def maxCryptoDataSize : Nat := maxCryptoPacketSize - cryptoDataPacketMinSize

def cryptoMaxPadding : Nat := 8

def dataNumThreshold : UInt32 := 21845

def defaultTcpPingConnection : UInt64 := 500

/-- The first byte is in `PACKET_ID_RANGE_LOSSLESS_START … PACKET_ID_RANGE_LOSSLESS_END`. -/
def isLosslessId (id : UInt8) : Bool := 16 ≤ id && id ≤ 191

/-- The first byte is in `PACKET_ID_RANGE_LOSSY_START … PACKET_ID_RANGE_LOSSY_END`. -/
def isLossyId (id : UInt8) : Bool := 192 ≤ id && id ≤ 254

inductive CryptoConnState where
  | free
  | noConnection
  | cookieRequesting
  | handshakeSent
  | notConfirmed
  | established
deriving DecidableEq

/-- `Crypto_Connection`, with the fields that the modelled functions use. -/
structure CryptoConnection where
  publicKey : PublicKey
  recvNonce : Nonce
  sentNonce : Nonce
  sessionPublicKey : PublicKey
  sessionSecretKey : SecretKey
  peerSessionPublicKey : PublicKey
  sharedKey : SharedKey
  status : CryptoConnState
  cookieRequestNumber : UInt64
  dhtPublicKey : PublicKey
  tempPacket : Option Packet
  tempPacketNumSent : UInt32
  ipPortv4 : IPPort
  ipPortv6 : IPPort
  directLastrecvTimev4 : UInt64
  directLastrecvTimev6 : UInt64
  sendArray : PacketsArray
  recvArray : PacketsArray
  packetCounter : UInt32
  packetsLeft : UInt32
  packetsLeftRequested : UInt32
  packetsSent : UInt32
  rttTime : UInt64
  maximumSpeedReached : Bool

def emptyCryptoConnection : CryptoConnection where
  publicKey := Vector.replicate _ 0
  recvNonce := 0
  sentNonce := 0
  sessionPublicKey := Vector.replicate _ 0
  sessionSecretKey := Vector.replicate _ 0
  peerSessionPublicKey := Vector.replicate _ 0
  sharedKey := Vector.replicate _ 0
  status := .free
  cookieRequestNumber := 0
  dhtPublicKey := Vector.replicate _ 0
  tempPacket := none
  tempPacketNumSent := 0
  ipPortv4 := emptyIpPort
  ipPortv6 := emptyIpPort
  directLastrecvTimev4 := 0
  directLastrecvTimev6 := 0
  sendArray := PacketsArray.empty
  recvArray := PacketsArray.empty
  packetCounter := 0
  packetsLeft := 0
  packetsLeftRequested := 0
  packetsSent := 0
  rttTime := 0
  maximumSpeedReached := false

namespace CryptoConnection

/-- The test of `crypt_connection_id_is_valid` on a connection slot. -/
def isValid (conn : CryptoConnection) : Bool :=
  conn.status != .noConnection && conn.status != .free

def clearTempPacket (conn : CryptoConnection) : CryptoConnection :=
  { conn with tempPacket := none, tempPacketNumSent := 0 }

/-- `get_nonce_uint16`: the lowest two bytes of the nonce. -/
def getNonceUint16 (nonce : Nonce) : UInt16 := UInt16.ofNat nonce.toNat

/-- `handle_data_packet`: the decrypted data and the connection, whose `recv_nonce` may
    have moved. -/
def handleDataPacket (conn : CryptoConnection) (packet : DataPacket) :
    Option (Bytes × CryptoConnection) :=
  if packet.length ≤ 1 + 2 + cryptoMacSize ∨ packet.length > maxCryptoPacketSize then none
  else
    let diff := packet.nonceLow - getNonceUint16 conn.recvNonce
    let nonce := incrementNonceNumber conn.recvNonce diff.toUInt32
    match decryptDataSymmetric conn.sharedKey nonce packet.encrypted with
    | none => none
    | some data =>
      if diff.toUInt32 > dataNumThreshold * 2 then
        some (data, { conn with
          recvNonce := incrementNonceNumber conn.recvNonce dataNumThreshold })
      else
        some (data, conn)

end CryptoConnection

/-- One end of a connection and the trace of its effects. -/
structure Peer where
  conn : CryptoConnection
  /-- The data packets sent so far. -/
  wire : List DataPacket
  /-- The payloads that `write_cryptpacket` took; the one at index `n` got number `n`. -/
  accepted : List Bytes
  /-- The payloads passed to `connection_data_callback`. -/
  delivered : List Bytes

namespace Peer

def sendDataPacket (p : Peer) (data : Bytes) (sendOk : Bool) : Bool × Peer :=
  if data.length = 0 ∨ data.length > maxCryptoPacketSize - (1 + 2 + cryptoMacSize) then (false, p)
  else if !p.conn.isValid then (false, p)
  else
    let packet : DataPacket :=
      { nonceLow := CryptoConnection.getNonceUint16 p.conn.sentNonce
        encrypted := encryptDataSymmetric p.conn.sharedKey p.conn.sentNonce data }
    (sendOk,
      { p with
        conn := { p.conn with sentNonce := incrementNonce p.conn.sentNonce }
        wire := if sendOk then p.wire ++ [packet] else p.wire })

/-- The contents that `send_data_packet_helper` builds: `buffer_start`, `num`, padding and data. -/
def dataPacketContents (bufferStart num : UInt32) (data : Bytes) : Bytes :=
  packU32 bufferStart ++ packU32 num ++
    List.replicate ((maxCryptoDataSize - data.length) % cryptoMaxPadding) packetIdPadding ++ data

def sendDataPacketHelper (p : Peer) (bufferStart num : UInt32) (data : Bytes) (sendOk : Bool) :
    Bool × Peer :=
  if data.length = 0 ∨ data.length > maxCryptoDataSize then (false, p)
  else p.sendDataPacket (dataPacketContents bufferStart num data) sendOk

def setSentTime (p : Peer) (number : UInt32) (packet : PacketData) (now : UInt64) : Peer :=
  { p with conn := { p.conn with
      sendArray := p.conn.sendArray.setSlot number (some { packet with sentTime := now }) } }

def resetMaxSpeedReached (p : Peer) (now : UInt64) (sendOk : UInt32 → Bool) : Bool × Peer :=
  if !p.conn.isValid then (false, p)
  else if p.conn.maximumSpeedReached then
    let packetNum := p.conn.sendArray.bufferEnd - 1
    let reset (p : Peer) : Peer := { p with conn := { p.conn with maximumSpeedReached := false } }
    match p.conn.sendArray.getDataPointer packetNum with
    | .packet dt =>
      if dt.sentTime = 0 then
        match p.sendDataPacketHelper p.conn.recvArray.bufferStart packetNum dt.data
            (sendOk packetNum) with
        | (false, p) => (false, p)
        | (true, p) => (true, reset (p.setSentTime packetNum dt now))
      else (true, reset p)
    | _ => (true, reset p)
  else (true, p)

def sendLosslessPacket (p : Peer) (data : Bytes) (congestionControl : Bool) (now : UInt64)
    (calloc : Bool) (sendOk : UInt32 → Bool) : Option UInt32 × Peer :=
  if data.length = 0 ∨ data.length > maxCryptoDataSize then (none, p)
  else if !p.conn.isValid then (none, p)
  else
    let p := (p.resetMaxSpeedReached now sendOk).2
    if p.conn.maximumSpeedReached && congestionControl then (none, p)
    else
      match p.conn.sendArray.addDataEndOfBuffer ⟨0, data⟩ calloc with
      | none => (none, p)
      | some (packetNum, sendArray) =>
        let p := { p with
          conn := { p.conn with sendArray }
          accepted := p.accepted ++ [data] }
        if !congestionControl && p.conn.maximumSpeedReached then (some packetNum, p)
        else
          match p.sendDataPacketHelper p.conn.recvArray.bufferStart packetNum data
              (sendOk packetNum) with
          | (true, p) =>
            match p.conn.sendArray.getDataPointer packetNum with
            | .packet dt => (some packetNum, p.setSentTime packetNum dt now)
            | _ => (some packetNum, p)
          | (false, p) =>
            (some packetNum, { p with conn := { p.conn with maximumSpeedReached := true } })

/-- `write_cryptpacket`: the packet number on success. -/
def writeCryptpacket (p : Peer) (data : Bytes) (congestionControl : Bool) (now : UInt64)
    (calloc : Bool) (sendOk : UInt32 → Bool) : Option UInt32 × Peer :=
  match data with
  | [] => (none, p)
  | id :: _ =>
    if !isLosslessId id then (none, p)
    else if !p.conn.isValid then (none, p)
    else if p.conn.status ≠ .established then (none, p)
    else if congestionControl && p.conn.packetsLeft == 0 then (none, p)
    else
      match p.sendLosslessPacket data congestionControl now calloc sendOk with
      | (none, p) => (none, p)
      | (some n, p) =>
        if congestionControl then
          (some n, { p with conn := { p.conn with
            packetsLeft := p.conn.packetsLeft - 1
            packetsLeftRequested := p.conn.packetsLeftRequested - 1
            packetsSent := p.conn.packetsSent + 1 } })
        else (some n, p)

def sendLossyCryptpacket (p : Peer) (data : Bytes) (sendOk : UInt32 → Bool) : Bool × Peer :=
  match data with
  | [] => (false, p)
  | id :: _ =>
    if data.length > maxCryptoDataSize then (false, p)
    else if !isLossyId id then (false, p)
    else if !p.conn.isValid then (false, p)
    else
      p.sendDataPacketHelper p.conn.recvArray.bufferStart p.conn.sendArray.bufferEnd data
        (sendOk p.conn.sendArray.bufferEnd)

def sendRequestPacket (p : Peer) (sendOk : UInt32 → Bool) : Bool × Peer :=
  if !p.conn.isValid then (false, p)
  else
    match p.conn.recvArray.generateRequestPacket maxCryptoDataSize with
    | none => (false, p)
    | some data =>
      p.sendDataPacketHelper p.conn.recvArray.bufferStart p.conn.sendArray.bufferEnd data
        (sendOk p.conn.sendArray.bufferEnd)

/-- The loop of `send_requested_packets` from index `i` on, with `count` packets of the
    send array left. -/
def sendRequestedLoop (now : UInt64) (sendOk : UInt32 → Bool) (maxNum : Nat) :
    (count : Nat) → (i : UInt32) → (numSent : Nat) → Peer → Option Nat × Peer
  | 0, _, numSent, p => (some numSent, p)
  | count + 1, i, numSent, p =>
    let packetNum := i + p.conn.sendArray.bufferStart
    match p.conn.sendArray.getDataPointer packetNum with
    | .outside => (none, p)
    | .hole => sendRequestedLoop now sendOk maxNum count (i + 1) numSent p
    | .packet dt =>
      if dt.sentTime ≠ 0 then sendRequestedLoop now sendOk maxNum count (i + 1) numSent p
      else
        match p.sendDataPacketHelper p.conn.recvArray.bufferStart packetNum dt.data
            (sendOk packetNum) with
        | (true, p) =>
          let p := p.setSentTime packetNum dt now
          if numSent + 1 ≥ maxNum then (some (numSent + 1), p)
          else sendRequestedLoop now sendOk maxNum count (i + 1) (numSent + 1) p
        | (false, p) =>
          if numSent ≥ maxNum then (some numSent, p)
          else sendRequestedLoop now sendOk maxNum count (i + 1) numSent p

def sendRequestedPackets (p : Peer) (maxNum : UInt32) (now : UInt64) (sendOk : UInt32 → Bool) :
    Option Nat × Peer :=
  if maxNum = 0 then (none, p)
  else if !p.conn.isValid then (none, p)
  else
    sendRequestedLoop now sendOk maxNum.toNat p.conn.sendArray.numPacketsArray.toNat 0 0 p

/-- `cryptpacket_received`: `true` for return value `0`. -/
def cryptpacketReceived (p : Peer) (packetNumber : UInt32) : Bool :=
  if !p.conn.isValid then false
  else
    let num := p.conn.sendArray.numPacketsArray
    let num1 := packetNumber - p.conn.sendArray.bufferStart
    if num ≥ num1 then false else true

/-! ## Receiving -/

/-- `connection_data_callback`, which may call the API of the connection again; `none` is null. -/
abbrev DataCallback := Option (Bytes → Peer → Peer)

/-- Result of `handle_data_packet_core`. -/
inductive DataResult where
  | ok
  | fail
  /-- `connection_kill` is called, and then `0` is returned. -/
  | kill
deriving DecidableEq

def callDataCallback (callback : DataCallback) (data : Bytes) (p : Peer) : Peer :=
  match callback with
  | none => p
  | some client => client data { p with delivered := p.delivered ++ [data] }

/-- The delivery loop of `handle_data_packet_core`, for at most `count` packets. The packet number goes through an
    `int`, and the flag is `false` when the connection is gone after the callback. -/
def deliverLoop (callback : DataCallback) : (count : Nat) → Peer → Bool × Peer
  | 0, p => (true, p)
  | count + 1, p =>
    match p.conn.recvArray.readDataBegBuffer with
    | none => (true, p)
    | some (id, dt, recvArray) =>
      let p := { p with conn := { p.conn with recvArray } }
      let ret : Int32 := id.toInt32
      if ret = -1 then (true, p)
      else
        let p := callDataCallback callback dt.data p
        if !p.conn.isValid then (false, p) else deliverLoop callback count p

/-- The acknowledgement `buffer_start`: the time for the round trip and the connection. -/
def acknowledge (conn : CryptoConnection) (bufferStart : UInt32) :
    Option (UInt64 × CryptoConnection) :=
  if bufferStart ≠ conn.sendArray.bufferStart then
    let rttCalcTime :=
      match conn.sendArray.getDataPointer conn.sendArray.bufferStart with
      | .packet packetTime => packetTime.sentTime
      | _ => 0
    match conn.sendArray.clearBufferUntil bufferStart with
    | none => none
    | some sendArray => some (rttCalcTime, { conn with sendArray })
  else some (0, conn)

/-- The first data packet that arrives confirms the connection. -/
def confirm (conn : CryptoConnection) : CryptoConnection :=
  if conn.status = .notConfirmed then { conn.clearTempPacket with status := .established }
  else conn

/-- `set_buffer_end` on the receive array; its result is ignored. -/
def setRecvBufferEnd (conn : CryptoConnection) (num : UInt32) : CryptoConnection :=
  match conn.recvArray.setBufferEnd num with
  | none => conn
  | some recvArray => { conn with recvArray }

/-- The round trip measurement at the end of `handle_data_packet_core`. -/
def updateRtt (conn : CryptoConnection) (rttCalcTime now : UInt64) : CryptoConnection :=
  if rttCalcTime ≠ 0 ∧ now - rttCalcTime < conn.rttTime then
    { conn with rttTime := now - rttCalcTime }
  else conn

/-- `handle_data_packet_core` after the padding is removed, for a packet that does not
    kill the connection. -/
def handleRealData (p : Peer) (num : UInt32) (realData : Bytes) (rttCalcTime : UInt64)
    (udp : Bool) (now : UInt64) (calloc : Bool) (callback : DataCallback) : DataResult × Peer :=
  let id := realData.headD 0
  if id = packetIdRequest then
    let rttTime := if udp then p.conn.rttTime else defaultTcpPingConnection
    match p.conn.sendArray.handleRequestPacket realData rttCalcTime rttTime now with
    | (none, sendArray, _) => (.fail, { p with conn := { p.conn with sendArray } })
    | (some _, sendArray, rttCalcTime) =>
      let conn := setRecvBufferEnd { p.conn with sendArray } num
      (.ok, { p with conn := updateRtt conn rttCalcTime now })
  else if isLosslessId id then
    match p.conn.recvArray.addDataToBuffer num ⟨0, realData⟩ calloc with
    | none => (.fail, p)
    | some recvArray =>
      let p := { p with conn := { p.conn with recvArray } }
      match deliverLoop callback recvArray.numPacketsArray.toNat p with
      | (false, p) => (.fail, p)
      | (true, p) =>
        let conn := { p.conn with packetCounter := p.conn.packetCounter + 1 }
        (.ok, { p with conn := updateRtt conn rttCalcTime now })
  else if isLossyId id then
    -- `connection_lossy_data_callback` gets the data and leaves no trace here
    (.ok, { p with conn := updateRtt (setRecvBufferEnd p.conn num) rttCalcTime now })
  else (.fail, p)

def handleDataPacketCore (p : Peer) (packet : DataPacket) (udp : Bool) (now : UInt64)
    (calloc : Bool) (callback : DataCallback) : DataResult × Peer :=
  if packet.length > maxCryptoPacketSize ∨ packet.length ≤ cryptoDataPacketMinSize then (.fail, p)
  else if !p.conn.isValid then (.fail, p)
  else
    match p.conn.handleDataPacket packet with
    | none => (.fail, p)
    | some (data, conn) =>
      match unpackU32 data with
      | none => (.fail, { p with conn })
      | some (bufferStart, data) =>
        match unpackU32 data with
        | none => (.fail, { p with conn })
        | some (num, data) =>
          if data = [] then (.fail, { p with conn })
          else
            match acknowledge conn bufferStart with
            | none => (.fail, { p with conn })
            | some (rttCalcTime, conn) =>
              match data.dropWhile (· == packetIdPadding) with
              | [] => (.fail, { p with conn })
              | id :: rest =>
                if id = packetIdKill then (.kill, { p with conn })
                else
                  handleRealData { p with conn := confirm conn } num (id :: rest) rttCalcTime udp
                    now calloc callback

/-! ## Client calls -/

/-- The calls on a connection. `refill` is the rate computation of `send_crypto_packets`. -/
inductive ApiCall where
  | write (data : Bytes) (congestionControl : Bool) (now : UInt64) (calloc : Bool) (sendOk : UInt32 → Bool)
  | lossy (data : Bytes) (sendOk : UInt32 → Bool)
  | maxSpeedReached (now : UInt64) (sendOk : UInt32 → Bool)
  | request (sendOk : UInt32 → Bool)
  | sendRequested (maxNum : UInt32) (now : UInt64) (sendOk : UInt32 → Bool)
  | refill (packetsLeft packetsLeftRequested : UInt32)

/-- Performing one call. -/
def api (p : Peer) : ApiCall → Peer
  | .write data congestionControl now calloc sendOk =>
    (p.writeCryptpacket data congestionControl now calloc sendOk).2
  | .lossy data sendOk => (p.sendLossyCryptpacket data sendOk).2
  | .maxSpeedReached now sendOk => (p.resetMaxSpeedReached now sendOk).2
  | .request sendOk => (p.sendRequestPacket sendOk).2
  | .sendRequested maxNum now sendOk => (p.sendRequestedPackets maxNum now sendOk).2
  | .refill packetsLeft packetsLeftRequested =>
    { p with conn := { p.conn with packetsLeft, packetsLeftRequested } }

def reactingCallback (react : Bytes → List ApiCall) : DataCallback :=
  some fun data p => (react data).foldl api p

end Peer

end Toxcore

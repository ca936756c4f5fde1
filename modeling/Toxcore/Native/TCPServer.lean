import Toxcore.Native.BSList
import Toxcore.Native.PingArray
import Toxcore.Native.TCPCommon

/-!
# The TCP relay server

`TCP_server.c`: clients shake hands, are confirmed by their first packet, register the keys of
other clients in their slots, and send data over the slots that are linked.  Sockets, nonces and
the queues of unsent bytes are not modelled: what is read from a socket is an argument, and whether
a packet can be written is decided by `TCPServerEnv.write`.
-/

namespace Toxcore

/-! ## Constants -/

def numReservedPorts : Nat := 16

def numClientConnections : Nat := 256 - numReservedPorts

def maxIncomingConnections : Nat := 256

def tcpPacketRoutingRequest : UInt8 := 0

def tcpPacketRoutingResponse : UInt8 := 1

def tcpPacketConnectionNotification : UInt8 := 2

def tcpPacketDisconnectNotification : UInt8 := 3

def tcpPacketPing : UInt8 := 4

def tcpPacketPong : UInt8 := 5

def tcpPacketOobSend : UInt8 := 6

def tcpPacketOobRecv : UInt8 := 7

def tcpPacketOnionRequest : UInt8 := 8

def tcpPacketOnionResponse : UInt8 := 9

def tcpPacketForwardRequest : UInt8 := 10

def tcpPacketForwarding : UInt8 := 11

def tcpMaxOobDataLength : Nat := 1024

def tcpPingFrequency : UInt64 := 30

def tcpPingTimeout : UInt64 := 10

def onionSendBase : Nat := cryptoPublicKeySize + 19 + cryptoMacSize

def maxForwardDataSize : Nat := 2048 - (1 + 1 + (0xff - 1))

/-! ## State -/

/-- The field `status` of `TCP_Secure_Conn` and `TCP_Client_Conn`. -/
inductive TCPConnStatus where
  /-- `0`: not used -/
  | unused
  | offline
  | online
deriving DecidableEq

structure TCPSecureConn where
  publicKey : PublicKey
  index : Nat
  status : TCPConnStatus
  otherId : Nat
deriving DecidableEq

inductive TCPStatus where
  | noStatus
  | connected
  | unconfirmed
  | confirmed
deriving DecidableEq

/-- `TCP_Secure_Connection`; the array `connections` has `NUM_CLIENT_CONNECTIONS` entries. -/
structure TCPSecureConnection where
  publicKey : PublicKey
  connections : Nat → TCPSecureConn
  status : TCPStatus
  identifier : UInt64
  lastPinged : UInt64
  pingId : UInt64

/-- A slot of zero bytes. -/
def zeroSecureConn : TCPSecureConn where
  publicKey := Vector.replicate _ 0
  index := 0
  status := .unused
  otherId := 0

def zeroSecureConnection : TCPSecureConnection where
  publicKey := Vector.replicate _ 0
  connections _ := zeroSecureConn
  status := .noStatus
  identifier := 0
  lastPinged := 0
  pingId := 0

/-- A packet that was written to a client. -/
structure TCPWritten where
  /-- The number of the client in the array, and its key. -/
  index : Nat
  publicKey : PublicKey
  /-- The key of the client whose packet was handled when the packet was written. -/
  source : PublicKey
  data : Bytes
deriving DecidableEq

/-- `TCP_Server`; the size of the array of accepted connections is the length of the list. -/
structure TCPServer where
  incomingConnectionQueue : Nat → TCPSecureConnection
  incomingConnectionQueueIndex : UInt16
  unconfirmedConnectionQueue : Nat → TCPSecureConnection
  unconfirmedConnectionQueueIndex : UInt16
  acceptedConnectionArray : List TCPSecureConnection
  numAcceptedConnections : Nat
  counter : UInt64
  acceptedKeyList : BSList
  /-- The packets that were written, and the number of attempts. -/
  written : List TCPWritten
  writes : Nat

/-- What the server takes from the outside. -/
structure TCPServerEnv where
  /-- `mono_time_get` -/
  now : UInt64
  random : UInt64
  /-- Whether `realloc` of the array succeeds. -/
  realloc : Bool
  /-- Whether `bs_list_add` finds memory. -/
  listMemory : Bool
  /-- Whether the packet of an attempt is written or queued. -/
  write : Nat → Bool
  forwarding : Bool
  onion : Bool

/-- The result of `write_packet_TCP_secure_connection`: `-1`, `0` and `1`. -/
inductive TCPWrite where
  | failed
  | notSent
  | sent
deriving DecidableEq

def newTCPServer : TCPServer where
  incomingConnectionQueue _ := zeroSecureConnection
  incomingConnectionQueueIndex := 0
  unconfirmedConnectionQueue _ := zeroSecureConnection
  unconfirmedConnectionQueueIndex := 0
  acceptedConnectionArray := []
  numAcceptedConnections := 0
  counter := 0
  acceptedKeyList := BSList.empty
  written := []
  writes := 0

/-! ## Slots of a connection -/

namespace TCPSecureConnection

variable (con : TCPSecureConnection) (publicKey : PublicKey)

/-- The slot in use for a key. -/
def registeredSlot : Option Nat :=
  (List.range numClientConnections).find? fun i =>
    (con.connections i).status != .unused && publicKey == (con.connections i).publicKey

/-- The first slot that is not in use. -/
def freeSlot : Option Nat :=
  (List.range numClientConnections).find? fun i => (con.connections i).status == .unused

def waitingSlot : Option Nat :=
  (List.range numClientConnections).find? fun i =>
    (con.connections i).status == .offline && (con.connections i).publicKey == publicKey

/-- Changes a slot. -/
def modifySlot (conNumber : Nat) (f : TCPSecureConn → TCPSecureConn) : TCPSecureConnection :=
  { con with
    connections := Function.update con.connections conNumber (f (con.connections conNumber)) }

def wipe : TCPSecureConnection :=
  if con.status != .noStatus then zeroSecureConnection else con

end TCPSecureConnection

namespace TCPServer

variable (env : TCPServerEnv) (server : TCPServer)

/-! ## Accepted connections -/

/-- Changes an accepted connection. -/
def modifyConnection (index : Nat) (f : TCPSecureConnection → TCPSecureConnection) : TCPServer :=
  { server with acceptedConnectionArray := server.acceptedConnectionArray.modify index f }

/-- Changes a slot of an accepted connection. -/
def modifySlot (index conNumber : Nat) (f : TCPSecureConn → TCPSecureConn) : TCPServer :=
  server.modifyConnection index fun con => con.modifySlot conNumber f

def writePacketTCPSecureConnection (index : Nat) (source : PublicKey) (data : Bytes) :
    TCPWrite × TCPServer :=
  match server.acceptedConnectionArray[index]? with
  | none => (.failed, server)
  | some con =>
    if data.length + cryptoMacSize > maxPacketSize then (.failed, server)
    else if env.write server.writes then
      (.sent, { server with
        writes := server.writes + 1
        written := server.written ++ [{ index, publicKey := con.publicKey, source, data }] })
    else (.notSent, { server with writes := server.writes + 1 })

def sendRoutingResponse (index : Nat) (source : PublicKey) (rpid : Nat) (publicKey : PublicKey) :
    TCPWrite × TCPServer :=
  server.writePacketTCPSecureConnection env index source
    (tcpPacketRoutingResponse :: UInt8.ofNat rpid :: publicKey.toList)

def sendConnectNotification (index : Nat) (source : PublicKey) (id : Nat) : TCPWrite × TCPServer :=
  server.writePacketTCPSecureConnection env index source
    [tcpPacketConnectionNotification, UInt8.ofNat (id + numReservedPorts)]

def sendDisconnectNotification (index : Nat) (source : PublicKey) (id : Nat) :
    TCPWrite × TCPServer :=
  server.writePacketTCPSecureConnection env index source
    [tcpPacketDisconnectNotification, UInt8.ofNat (id + numReservedPorts)]

def allocNewConnections (num : Nat) : Bool × TCPServer :=
  let size := server.acceptedConnectionArray.length
  if (size + num) % 2 ^ 32 < size then (false, server)
  else if !env.realloc then (false, server)
  else
    (true, { server with
      acceptedConnectionArray :=
        server.acceptedConnectionArray ++ List.replicate num zeroSecureConnection })

def getTCPConnectionIndex (publicKey : PublicKey) : Option Nat :=
  server.acceptedKeyList.bsListFind publicKey.toList

def freeAcceptedConnectionArray : TCPServer := { server with acceptedConnectionArray := [] }

def delAccepted (index : Nat) : Bool × TCPServer :=
  match server.acceptedConnectionArray[index]? with
  | none => (false, server)
  | some con =>
    if con.status = .noStatus then (false, server)
    else
      match server.acceptedKeyList.bsListRemove con.publicKey.toList index with
      | (false, _) => (false, server)
      | (true, acceptedKeyList) =>
        let server := { server with acceptedKeyList }.modifyConnection index TCPSecureConnection.wipe
        let server :=
          { server with numAcceptedConnections := server.numAcceptedConnections - 1 }
        (true, if server.numAcceptedConnections = 0 then server.freeAcceptedConnectionArray
          else server)

def rmConnectionIndex (index conNumber : Nat) : Bool × TCPServer :=
  if numClientConnections ≤ conNumber then (false, server)
  else
    match server.acceptedConnectionArray[index]? with
    | none => (false, server)
    | some con =>
      let slot := con.connections conNumber
      let clear (server : TCPServer) := server.modifySlot index conNumber fun slot =>
        { slot with index := 0, otherId := 0, status := .unused }
      match slot.status with
      | .unused => (false, server)
      | .offline => (true, clear server)
      | .online =>
        if server.acceptedConnectionArray.length ≤ slot.index then (false, server)
        else
          let server := server.modifySlot slot.index slot.otherId fun slot =>
            { slot with otherId := 0, index := 0, status := .offline }
          let server :=
            (server.sendDisconnectNotification env slot.index con.publicKey slot.otherId).2
          (true, clear server)

/-- The loop of `kill_accepted` over the first `n` slots. -/
def rmConnectionIndices (index : Nat) : (n : Nat) → TCPServer
  | 0 => server
  | n + 1 => ((rmConnectionIndices index n).rmConnectionIndex env index n).2

def killAccepted (index : Nat) : Bool × TCPServer :=
  if server.acceptedConnectionArray.length ≤ index then (false, server)
  else (server.rmConnectionIndices env index numClientConnections).delAccepted index

/-- The place for a new connection: behind the others, or the last entry without a status. -/
def placeAccepted : Option Nat × TCPServer :=
  let size := server.acceptedConnectionArray.length
  if size = server.numAcceptedConnections then
    match server.allocNewConnections env 4 with
    | (false, server) => (none, server)
    | (true, server) => (some server.numAcceptedConnections, server)
  else
    ((List.range size).reverse.find? fun i =>
      (server.acceptedConnectionArray[i]?).any (·.status = .noStatus), server)

/-- An old connection of the same key is killed. -/
def killOld (publicKey : PublicKey) : TCPServer :=
  match server.getTCPConnectionIndex publicKey with
  | some index => (server.killAccepted env index).2
  | none => server

def addAccepted (con : TCPSecureConnection) : Option Nat × TCPServer :=
  match (server.killOld env con.publicKey).placeAccepted env with
  | (none, server) => (none, server)
  | (some index, server) =>
    if !env.listMemory then (none, server)
    else
      match server.acceptedKeyList.bsListAdd con.publicKey.toList index with
      | (false, _) => (none, server)
      | (true, acceptedKeyList) =>
        (some index, { server with
          acceptedKeyList
          acceptedConnectionArray := server.acceptedConnectionArray.set index
            { con with
              status := .confirmed
              identifier := server.counter + 1
              lastPinged := env.now
              pingId := 0 }
          numAcceptedConnections := server.numAcceptedConnections + 1
          counter := server.counter + 1 })

/-! ## Packets -/

/-- `handle_TCP_routing_req` after the slot of the client was taken. -/
def linkSlot (conId index : Nat) (conKey publicKey : PublicKey) : TCPServer :=
  match server.getTCPConnectionIndex publicKey with
  | none => server
  | some otherIndex =>
    match server.acceptedConnectionArray[otherIndex]? with
    | none => server
    | some otherConn =>
      match otherConn.waitingSlot conKey with
      | none => server
      | some otherId =>
        let server := server.modifySlot conId index fun slot =>
          { slot with status := .online, index := otherIndex, otherId }
        let server := server.modifySlot otherIndex otherId fun slot =>
          { slot with status := .online, index := conId, otherId := index }
        let server := (server.sendConnectNotification env conId conKey index).2
        (server.sendConnectNotification env otherIndex conKey otherId).2

def handleTCPRoutingReq (conId : Nat) (publicKey : PublicKey) : Bool × TCPServer :=
  match server.acceptedConnectionArray[conId]? with
  | none => (false, server)
  | some con =>
    let respond (rpid : Nat) := server.sendRoutingResponse env conId con.publicKey rpid publicKey
    -- the client tries to connect to itself
    if con.publicKey = publicKey then
      let (ret, server) := respond 0
      (ret ≠ .failed, server)
    else
      match con.registeredSlot publicKey with
      | some i =>
        let (ret, server) := respond (i + numReservedPorts)
        (ret ≠ .failed, server)
      | none =>
        match con.freeSlot with
        | none =>
          let (ret, server) := respond 0
          (ret ≠ .failed, server)
        | some index =>
          match respond (index + numReservedPorts) with
          | (.notSent, server) => (true, server)
          | (.failed, server) => (false, server)
          | (.sent, server) =>
            let server := server.modifySlot conId index fun slot =>
              { slot with status := .offline, publicKey }
            (true, server.linkSlot env conId index con.publicKey publicKey)

def handleTCPOobSend (conId : Nat) (publicKey : PublicKey) (data : Bytes) : Bool × TCPServer :=
  if data.length = 0 ∨ data.length > tcpMaxOobDataLength then (false, server)
  else
    match server.acceptedConnectionArray[conId]?, server.getTCPConnectionIndex publicKey with
    | some con, some otherIndex =>
      (true, (server.writePacketTCPSecureConnection env otherIndex con.publicKey
        (tcpPacketOobRecv :: con.publicKey.toList ++ data)).2)
    | _, _ => (true, server)

def handleTCPData (con : TCPSecureConnection) (packetId : UInt8) (data : Bytes) : Bool × TCPServer :=
  if packetId.toNat < numReservedPorts then (false, server)
  else
    let slot := con.connections (packetId.toNat - numReservedPorts)
    match slot.status with
    | .unused => (false, server)
    | .offline => (true, server)
    | .online =>
      let (ret, server) := server.writePacketTCPSecureConnection env slot.index con.publicKey
        (UInt8.ofNat (slot.otherId + numReservedPorts) :: data)
      (ret ≠ .failed, server)

/-- `handle_TCP_packet`; `false` is `-1`. The onion and forwarding leave the server as it is. -/
def handleTCPPacket (conId : Nat) : Bytes → Bool × TCPServer
  | [] => (false, server)
  | packetId :: data =>
    match server.acceptedConnectionArray[conId]? with
    | none => (false, server)
    | some con =>
      if packetId = tcpPacketRoutingRequest then
        if data.length ≠ cryptoPublicKeySize then (false, server)
        else server.handleTCPRoutingReq env conId (bytesToVector _ data)
      else if packetId = tcpPacketConnectionNotification then (data.length = 1, server)
      else if packetId = tcpPacketDisconnectNotification then
        if data.length ≠ 1 then (false, server)
        else
          server.rmConnectionIndex env conId (data.headD 0 - UInt8.ofNat numReservedPorts).toNat
      else if packetId = tcpPacketPing then
        if data.length ≠ 8 then (false, server)
        else
          (true, (server.writePacketTCPSecureConnection env conId con.publicKey (tcpPacketPong :: data)).2)
      else if packetId = tcpPacketPong then
        if data.length ≠ 8 then (false, server)
        else
          -- the id is copied as it is, in the byte order of the machine
          let pingId := UInt64.ofNat (ofLittleEndian data)
          if pingId ≠ 0 then
            (true, if pingId = con.pingId then
              server.modifyConnection conId fun con => { con with pingId := 0 } else server)
          else (false, server)
      else if packetId = tcpPacketOobSend then
        if data.length ≤ cryptoPublicKeySize then (false, server)
        else
          server.handleTCPOobSend env conId (bytesToVector _ data) (data.drop cryptoPublicKeySize)
      else if packetId = tcpPacketOnionRequest then
        if env.onion then (decide (cryptoNonceSize + onionSendBase * 2 < data.length), server)
        else (true, server)
      else if packetId = tcpPacketOnionResponse then (false, server)
      else if packetId = tcpPacketForwardRequest then
        if !env.forwarding then (false, server)
        else
          match unpackIpPort data false with
          | none => (false, server)
          | some (_, forwardData) => (forwardData.length ≤ maxForwardDataSize, server)
      else if packetId = tcpPacketForwarding then (false, server)
      else server.handleTCPData env con packetId data

/-- `confirm_TCP_connection`; the connection in the queue is wiped in any case. -/
def confirmTCPConnection (con : TCPSecureConnection) (data : Bytes) : Option Nat × TCPServer :=
  match server.addAccepted env con with
  | (none, server) => (none, server)
  | (some index, server) =>
    match server.handleTCPPacket env index data with
    | (false, server) => (none, (server.killAccepted env index).2)
    | (true, server) => (some index, server)

/-! ## The queues -/

/-- `accept_connection` of a valid socket; `ready` says whether it could be configured. -/
def acceptConnection (ready : Bool) : TCPServer :=
  if !ready then server
  else
    let index := server.incomingConnectionQueueIndex.toNat % maxIncomingConnections
    { server with
      incomingConnectionQueue := Function.update server.incomingConnectionQueue index
        { (server.incomingConnectionQueue index).wipe with status := .connected }
      incomingConnectionQueueIndex := server.incomingConnectionQueueIndex + 1 }

/-- The result of `read_connection_handshake`. -/
inductive HandshakeRead where
  | notReady
  | failed
  /-- A handshake of the client with this key. -/
  | handled (publicKey : PublicKey)
deriving DecidableEq

def doIncoming (i : Nat) (read : HandshakeRead) : TCPServer :=
  let conn := server.incomingConnectionQueue i
  if conn.status ≠ .connected then server
  else
    match read with
    | .notReady => server
    | .failed =>
      { server with
        incomingConnectionQueue :=
          Function.update server.incomingConnectionQueue i zeroSecureConnection }
    | .handled publicKey =>
      let indexNew := server.unconfirmedConnectionQueueIndex.toNat % maxIncomingConnections
      { server with
        unconfirmedConnectionQueue := Function.update server.unconfirmedConnectionQueue indexNew
          { conn with publicKey, status := .unconfirmed }
        incomingConnectionQueue :=
          Function.update server.incomingConnectionQueue i zeroSecureConnection
        unconfirmedConnectionQueueIndex := server.unconfirmedConnectionQueueIndex + 1 }

/-- The result of `read_packet_TCP_secure_connection`. -/
inductive TCPRead where
  | nothing
  | failed
  | packet (data : Bytes)
deriving DecidableEq

def doUnconfirmed (i : Nat) (read : TCPRead) : TCPServer :=
  let conn := server.unconfirmedConnectionQueue i
  if conn.status ≠ .unconfirmed then server
  else
    let wiped := { server with
      unconfirmedConnectionQueue :=
        Function.update server.unconfirmedConnectionQueue i zeroSecureConnection }
    match read with
    | .nothing => server
    | .failed => wiped
    | .packet data => (wiped.confirmTCPConnection env conn data).2

/-! ## Confirmed connections -/

def tcpProcessSecurePacket (i : Nat) (read : TCPRead) : TCPServer :=
  match read with
  | .nothing => server
  | .failed => (server.killAccepted env i).2
  | .packet data =>
    match server.handleTCPPacket env i data with
    | (false, server) => (server.killAccepted env i).2
    | (true, server) => server

/-- `do_TCP_confirmed` for one connection, before its packets are read. -/
def doTCPConfirmed (i : Nat) : TCPServer :=
  match server.acceptedConnectionArray[i]? with
  | none => server
  | some conn =>
    if conn.status ≠ .confirmed then server
    else
      let isTimeout (conn : TCPSecureConnection) (timeout : UInt64) :=
        monoTimeIsTimeout env.now conn.lastPinged timeout
      let checkPing (conn : TCPSecureConnection) (server : TCPServer) :=
        if conn.pingId ≠ 0 ∧ isTimeout conn tcpPingTimeout then (server.killAccepted env i).2
        else server
      if isTimeout conn tcpPingFrequency then
        let pingId := if env.random = 0 then env.random + 1 else env.random
        match server.writePacketTCPSecureConnection env i conn.publicKey
            (tcpPacketPing :: toLittleEndian 8 pingId.toNat) with
        | (.sent, server) =>
          let pinged := { conn with lastPinged := env.now, pingId }
          checkPing pinged (server.modifyConnection i fun conn =>
            { conn with lastPinged := env.now, pingId })
        | (_, server) =>
          if isTimeout conn (tcpPingFrequency + tcpPingTimeout) then (server.killAccepted env i).2
          else checkPing conn server
      else checkPing conn server

/-- `handle_onion_recv_1` and `handle_forward_reply_tcp`, for the number and identifier in their data. -/
def replyTo (packetId : UInt8) (conId : Nat) (identifier : UInt64) (data : Bytes) : TCPServer :=
  match server.acceptedConnectionArray[conId]? with
  | none => server
  | some con =>
    if con.identifier ≠ identifier then server
    else (server.writePacketTCPSecureConnection env conId con.publicKey (packetId :: data)).2

def handleOnionRecv1 (conId : Nat) (identifier : UInt64) (data : Bytes) : TCPServer :=
  server.replyTo env tcpPacketOnionResponse conId identifier data

def handleForwardReplyTcp (conId : Nat) (identifier : UInt64) (data : Bytes) : TCPServer :=
  server.replyTo env tcpPacketForwarding conId identifier data

end TCPServer

end Toxcore

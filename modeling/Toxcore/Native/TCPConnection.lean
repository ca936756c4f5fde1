import Toxcore.Native.TCPServer
import Mathlib.Data.List.DropRight

/-!
# The clients of a TCP relay

The connections of a client to its peers over one relay: `TCP_connection.c`, and the part of
`TCP_client.c` that handles the packets of the relay.  The connection to the relay is up and its
packets are written, so that of the relays of a peer only the one entry for this relay is kept.
Pings, out of band, onion and forwarding packets change nothing here.
-/

namespace Toxcore

/-! ## State -/

/-- `TCP_Client_Conn`.  The number `-1` is `none`. -/
structure TCPClientConn where
  status : TCPConnStatus
  publicKey : PublicKey
  number : Option Nat
deriving DecidableEq

/-- `TCP_CONNECTIONS_STATUS_NONE`, `_REGISTERED` and `_ONLINE` -/
inductive TCPConnectionsStatus where
  | none
  | registered
  | online
deriving DecidableEq

/-- `TCP_Conn_to` for the relay. -/
structure TCPConnTo where
  status : TCPConnectionsStatus
  connectionId : Nat
deriving DecidableEq

/-- `TCP_CONN_NONE`, `_VALID` and `_SLEEPING` of a `TCP_Connection_to` -/
inductive TCPConnectionToStatus where
  | none
  | valid
  | sleeping
deriving DecidableEq

/-- `TCP_Connection_to`; `relay` is the entry of the relay in `connections`, if there is one. -/
structure TCPConnectionTo where
  status : TCPConnectionToStatus
  publicKey : PublicKey
  relay : Option TCPConnTo
  id : Int
deriving DecidableEq

def emptyTcpConnectionTo : TCPConnectionTo where
  status := .none
  publicKey := Vector.replicate _ 0
  relay := none
  id := 0

/-- What `tcp_data_callback` is called with, and whom the packet was for. -/
structure TCPDelivery where
  /-- The `id` and the key of the connection that the data is handed to. -/
  id : Int
  publicKey : PublicKey
  /-- The status of the connection id when the packet arrived. -/
  status : TCPConnStatus
  data : Bytes
deriving DecidableEq

/-- `TCP_Connections` with one relay, the ids of its client, and the counters of the `TCP_con`. -/
structure TCPConnections where
  connections : List TCPConnectionTo
  client : Nat → TCPClientConn
  lockCount : UInt32
  sleepCount : UInt32

/-- A `TCP_Connections` whose relay has just been connected. -/
def newTcpConnections : TCPConnections where
  connections := []
  client _ := { status := .unused, publicKey := Vector.replicate _ 0, number := some 0 }
  lockCount := 0
  sleepCount := 0

namespace TCPConnections

variable (tcpC : TCPConnections)

/-! ## Connections -/

def getConnection (connectionsNumber : Nat) : Option TCPConnectionTo :=
  (tcpC.connections[connectionsNumber]?).filter (·.status != .none)

/-- Changes a connection. -/
def modifyConnection (connectionsNumber : Nat) (f : TCPConnectionTo → TCPConnectionTo) :
    TCPConnections :=
  { tcpC with connections := tcpC.connections.modify connectionsNumber f }

def modifyClient (conId : Nat) (f : TCPClientConn → TCPClientConn) : TCPConnections :=
  { tcpC with client := Function.update tcpC.client conId (f (tcpC.client conId)) }

def createConnection : Nat × TCPConnections :=
  match tcpC.connections.findIdx? (·.status == .none) with
  | some i => (i, tcpC)
  | none =>
    (tcpC.connections.length, { tcpC with
      connections := tcpC.connections ++ [emptyTcpConnectionTo] })

def wipeConnection (connectionsNumber : Nat) : TCPConnections :=
  { tcpC with
    connections := (tcpC.connections.set connectionsNumber emptyTcpConnectionTo).rdropWhile
      (·.status == .none) }

def findTcpConnectionTo (publicKey : PublicKey) : Option Nat :=
  tcpC.connections.findIdx? fun conTo => conTo.status != .none && conTo.publicKey == publicKey

def newTcpConnectionTo (publicKey : PublicKey) (id : Int) : Option Nat × TCPConnections :=
  if (tcpC.findTcpConnectionTo publicKey).isSome then (none, tcpC)
  else
    let (connectionsNumber, tcpC) := tcpC.createConnection
    (some connectionsNumber, tcpC.modifyConnection connectionsNumber fun conTo =>
      { conTo with status := .valid, publicKey, id })

/-- `send_disconnect_request`: the client and the packet to the relay. -/
def sendDisconnectRequest (conId : Nat) : TCPConnections × List Bytes :=
  if numClientConnections ≤ conId then (tcpC, [])
  else
    (tcpC.modifyClient conId fun conn => { conn with status := .unused, number := some 0 },
      [[tcpPacketDisconnectNotification, UInt8.ofNat (conId + numReservedPorts)]])

/-- `kill_tcp_connection_to`; the packets are those to the relay. -/
def killTcpConnectionTo (connectionsNumber : Nat) : TCPConnections × List Bytes :=
  match tcpC.getConnection connectionsNumber with
  | none => (tcpC, [])
  | some conTo =>
    match conTo.relay with
    | none => (tcpC.wipeConnection connectionsNumber, [])
    | some relay =>
      let (tcpC, packets) := tcpC.sendDisconnectRequest relay.connectionId
      let tcpC :=
        if relay.status = .online then
          { tcpC with
            lockCount := tcpC.lockCount - 1
            sleepCount :=
              if conTo.status = .sleeping then tcpC.sleepCount - 1 else tcpC.sleepCount }
        else tcpC
      (tcpC.wipeConnection connectionsNumber, packets)

def setTcpConnectionToStatus (connectionsNumber : Nat) (status : Bool) : TCPConnections :=
  match tcpC.getConnection connectionsNumber with
  | none => tcpC
  | some conTo =>
    if status then
      if conTo.status ≠ .sleeping then tcpC
      else tcpC.modifyConnection connectionsNumber fun conTo => { conTo with status := .valid }
    else if conTo.status ≠ .valid then tcpC
    else
      let tcpC :=
        if conTo.relay.any (·.status = .online) then
          { tcpC with sleepCount := tcpC.sleepCount + 1 }
        else tcpC
      tcpC.modifyConnection connectionsNumber fun conTo => { conTo with status := .sleeping }

def routingRequest (publicKey : PublicKey) : Bytes := tcpPacketRoutingRequest :: publicKey.toList

def addTcpNumberRelayConnection (connectionsNumber : Nat) : TCPConnections × List Bytes :=
  match tcpC.getConnection connectionsNumber with
  | none => (tcpC, [])
  | some conTo =>
    if conTo.relay.isSome then (tcpC, [])
    else
      (tcpC.modifyConnection connectionsNumber fun conTo =>
        { conTo with relay := some { status := .none, connectionId := 0 } },
        [routingRequest conTo.publicKey])

/-! ## Packets of the relay -/

def setTcpConnectionStatus (conTo : TCPConnectionTo) (status : TCPConnectionsStatus)
    (connectionId : Nat) : Option TCPConnectionTo :=
  match conTo.relay with
  | none => none
  | some relay =>
    if relay.status = status then none
    else some { conTo with relay := some { status, connectionId } }

def setTcpConnectionNumber (conId number : Nat) : TCPConnections :=
  if numClientConnections ≤ conId then tcpC
  else if (tcpC.client conId).status = .unused then tcpC
  else tcpC.modifyClient conId fun conn => { conn with number := some number }

def tcpResponseCallback (connectionId : Nat) (publicKey : PublicKey) : TCPConnections :=
  match tcpC.findTcpConnectionTo publicKey with
  | none => tcpC
  | some connectionsNumber =>
    match (tcpC.getConnection connectionsNumber).bind fun conTo =>
        setTcpConnectionStatus conTo .registered connectionId with
    | none => tcpC
    | some conTo =>
      (tcpC.modifyConnection connectionsNumber fun _ => conTo).setTcpConnectionNumber connectionId
        connectionsNumber

def tcpStatusCallback (number : Option Nat) (connectionId : Nat) (status : TCPConnStatus) :
    TCPConnections :=
  match number with
  | none => tcpC
  | some number =>
    let set (status : TCPConnectionsStatus) (change : UInt32) :=
      match (tcpC.getConnection number).bind fun conTo =>
          setTcpConnectionStatus conTo status connectionId with
      | none => tcpC
      | some conTo =>
        { tcpC.modifyConnection number fun _ => conTo with
          lockCount := tcpC.lockCount + change
          sleepCount :=
            if conTo.status = .sleeping then tcpC.sleepCount + change else tcpC.sleepCount }
    match status with
    | .offline => set .registered (-1)
    | .online => set .online 1
    | .unused => tcpC

def tcpConnDataCallback (number : Option Nat) (status : TCPConnStatus) (data : Bytes) :
    Option TCPDelivery :=
  if data.length = 0 then none
  else
    (number.bind tcpC.getConnection).map fun conTo =>
      { id := conTo.id, publicKey := conTo.publicKey, status, data }

def packetConId (b : UInt8) : Nat := b.toNat - numReservedPorts

def handleTCPClientRoutingResponse (data : Bytes) : Bool × TCPConnections :=
  match data with
  | id :: key =>
    if key.length ≠ cryptoPublicKeySize then (false, tcpC)
    else if id.toNat < numReservedPorts then (true, tcpC)
    else if (tcpC.client (packetConId id)).status ≠ .unused then (true, tcpC)
    else
      let publicKey : PublicKey := bytesToVector _ key
      (true, (tcpC.modifyClient (packetConId id) fun _ =>
        { status := .offline, publicKey, number := none }).tcpResponseCallback (packetConId id) publicKey)
  | [] => (false, tcpC)

/-- The two handlers of notifications: the status of a connection id changes. -/
def handleTCPClientNotification (old new : TCPConnStatus) (data : Bytes) : Bool × TCPConnections :=
  match data with
  | [id] =>
    if id.toNat < numReservedPorts then (false, tcpC)
    else if (tcpC.client (packetConId id)).status ≠ old then (true, tcpC)
    else
      (true, (tcpC.modifyClient (packetConId id) fun conn =>
        { conn with status := new }).tcpStatusCallback (tcpC.client (packetConId id)).number
          (packetConId id) new)
  | _ => (false, tcpC)

def handleTCPClientConnectionNotification (data : Bytes) : Bool × TCPConnections :=
  tcpC.handleTCPClientNotification .offline .online data

def handleTCPClientDisconnectNotification (data : Bytes) : Bool × TCPConnections :=
  tcpC.handleTCPClientNotification .online .offline data

/-- `handle_TCP_client_packet`: the result, the client, and the data that is handed on. -/
def handleTCPClientPacket : Bytes → Bool × TCPConnections × Option TCPDelivery
  | packetId :: data =>
    let changed (handled : Bool × TCPConnections) := (handled.1, handled.2, none)
    if data.length = 0 then (false, tcpC, none)
    else if packetId = tcpPacketRoutingResponse then
      changed (tcpC.handleTCPClientRoutingResponse data)
    else if packetId = tcpPacketConnectionNotification then
      changed (tcpC.handleTCPClientConnectionNotification data)
    else if packetId = tcpPacketDisconnectNotification then
      changed (tcpC.handleTCPClientDisconnectNotification data)
    else if packetId = tcpPacketPing ∨ packetId = tcpPacketPong then
      -- a pong with the id zero is refused
      (data.length = 8 ∧ (packetId = tcpPacketPong → ofLittleEndian data ≠ 0), tcpC, none)
    else if packetId = tcpPacketOobRecv then (cryptoPublicKeySize < data.length, tcpC, none)
    else if packetId = tcpPacketOnionResponse ∨ packetId = tcpPacketForwarding then
      (true, tcpC, none)
    else if packetId.toNat < numReservedPorts then (false, tcpC, none)
    else
      -- the status of the connection id is not looked at
      let conn := tcpC.client (packetConId packetId)
      (true, tcpC, tcpC.tcpConnDataCallback conn.number conn.status data)
  | [] => (false, tcpC, none)

end TCPConnections

end Toxcore

import Toxcore.Native.NodeFormat

/-!
# The relays of a client

`tcp_copy_connected_relays_index` of `TCP_connection.c`.  Of a `TCP_con` and its connection only the fields that are
read here are kept.
-/

namespace Toxcore

/-- `TCP_CONN_NONE`, `_VALID`, `_CONNECTED` and `_SLEEPING` of a `TCP_con` -/
inductive TCPConStatus where
  | none
  | valid
  | connected
  | sleeping
deriving DecidableEq

structure TCPCon where
  status : TCPConStatus
  publicKey : PublicKey
  ipPort : IPPort
deriving DecidableEq

/-- The `Node_format` that `copy_tcp_relay_conn` writes. -/
def TCPCon.relay (tcpCon : TCPCon) : NodeFormat where
  publicKey := tcpCon.publicKey
  ipPort :=
    if tcpCon.ipPort.isIpv4 then { tcpCon.ipPort with family := tcpInet }
    else if tcpCon.ipPort.isIpv6 then { tcpCon.ipPort with family := tcpInet6 }
    else tcpCon.ipPort

section relays

variable (tcpConnections : List TCPCon)

def getTcpConnection (idx : Nat) : Option TCPCon := (tcpConnections[idx]?).filter (·.status != .none)

def copyTcpRelayConn (idx : UInt16) : Option NodeFormat :=
  match getTcpConnection tcpConnections idx.toNat with
  | none => none
  | some tcpCon => if tcpCon.status ≠ .connected then none else some tcpCon.relay

/-- The values of `i` in the loop from here; `none` if the loop needs more than `fuel` rounds. -/
def relayWindowLoop (stop : UInt16) : (fuel : Nat) → (i : UInt16) → Option (List UInt16)
  | 0, _ => none
  | fuel + 1, i =>
    if i = stop then some []
    else
      (relayWindowLoop stop fuel (UInt16.ofNat ((i.toNat + 1) % tcpConnections.length))).map (i :: ·)

/-- The values of `i` in `tcp_copy_connected_relays_index` -/
def relayWindow (maxNum : UInt16) (idx : UInt32) : Option (List UInt16) :=
  if tcpConnections.length = 0 then some []
  else
    let numToCopy := min maxNum (UInt16.ofNat tcpConnections.length)
    let start := UInt16.ofNat (idx.toNat % tcpConnections.length)
    let stop := UInt16.ofNat ((start.toNat + numToCopy.toNat) % tcpConnections.length)
    relayWindowLoop tcpConnections stop 65536 start

def tcpCopyConnectedRelaysIndex (maxNum : UInt16) (idx : UInt32) : Option (List NodeFormat) :=
  (relayWindow tcpConnections maxNum idx).map (·.filterMap (copyTcpRelayConn tcpConnections))

end relays

end Toxcore

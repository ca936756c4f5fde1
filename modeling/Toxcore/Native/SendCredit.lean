import Toxcore.Native.NetCrypto

/-!
# Send credit

The part of `send_crypto_packets` for one connection that keeps `packets_left` and
`packets_left_requested`.  The floating point rates are left out: what is computed from them, and from
the times that are not kept here, is an argument.
-/

namespace Toxcore

/-- A connection with the fields that `send_crypto_packets` uses for its credit. -/
structure CreditPeer where
  peer : Peer
  lastPacketsLeftSet : UInt64
  lastPacketsLeftRequestedSet : UInt64
  packetsResent : UInt32
  /-- Whether `send_crypto_packets` has seen the connection established; the source does not keep
      this. -/
  visited : Bool

/-- What the time, the rates and the network decide in one call of `send_crypto_packets`. -/
structure CreditEnv where
  /-- `temp_time` -/
  now : UInt64
  /-- `CRYPTO_SEND_PACKET_INTERVAL` has passed since the last request packet. -/
  requestDue : Bool
  /-- `request_packet_interval` has passed since the last request packet. -/
  recvRequestDue : Bool
  /-- `PACKET_COUNTER_AVERAGE_INTERVAL` has passed since the rates were computed. -/
  measure : Bool
  /-- `(uint64_t)((1000.0 / conn->packet_send_rate) + 0.5)` -/
  sendInterval : UInt64
  numPackets : UInt32
  /-- `(uint64_t)((1000.0 / conn->packet_send_rate_requested) + 0.5)` -/
  requestedInterval : UInt64
  /-- `num_packets` for `packets_left_requested` -/
  numRequested : UInt32
  /-- `send_packet_to` -/
  sendOk : UInt32 → Bool

namespace CreditPeer

variable (p : CreditPeer)

def setCredit (packetsLeft packetsLeftRequested : UInt32) : CreditPeer :=
  { p with peer := { p.peer with conn := { p.peer.conn with packetsLeft, packetsLeftRequested } } }

/-- The time for more packets. -/
def addPacketsLeft (env : CreditEnv) : CreditPeer :=
  let conn := p.peer.conn
  if env.sendInterval + p.lastPacketsLeftSet ≤ env.now then
    let packetsLeft :=
      if conn.packetsLeft > env.numPackets * 4 + cryptoMinQueueLength then
        env.numPackets * 4 + cryptoMinQueueLength
      else conn.packetsLeft + env.numPackets
    { p.setCredit packetsLeft conn.packetsLeftRequested with lastPacketsLeftSet := env.now }
  else p

/-- The time for more requested packets. -/
def setPacketsLeftRequested (env : CreditEnv) : CreditPeer :=
  if env.requestedInterval + p.lastPacketsLeftRequestedSet ≤ env.now then
    { p.setCredit p.peer.conn.packetsLeft env.numRequested with
      lastPacketsLeftRequestedSet := env.now }
  else p

/-- `packets_left_requested` is not below `packets_left`. -/
def raiseRequested : CreditPeer :=
  if p.peer.conn.packetsLeft > p.peer.conn.packetsLeftRequested then
    p.setCredit p.peer.conn.packetsLeft p.peer.conn.packetsLeft
  else p

/-- The part of `send_crypto_packets` that sets the credit of a connection. -/
def topUp (env : CreditEnv) : CreditPeer :=
  if p.lastPacketsLeftSet = 0 ∨ p.lastPacketsLeftRequestedSet = 0 then
    { p.setCredit cryptoMinQueueLength cryptoMinQueueLength with
      lastPacketsLeftRequestedSet := env.now
      lastPacketsLeftSet := env.now }
  else ((p.addPacketsLeft env).setPacketsLeftRequested env).raiseRequested

/-- `ret` packets have been sent again. -/
def subtractSent (ret : Nat) : CreditPeer :=
  let conn := p.peer.conn
  let sent := UInt32.ofNat ret
  { p.setCredit (if sent < conn.packetsLeft then conn.packetsLeft - sent else 0)
      (conn.packetsLeftRequested - sent) with
    packetsResent := p.packetsResent + sent }

/-- `send_requested_packets` with the credit of the connection. -/
def sendRequested (env : CreditEnv) : Option Nat × CreditPeer :=
  let (ret, peer) :=
    p.peer.sendRequestedPackets p.peer.conn.packetsLeftRequested env.now env.sendOk
  (ret, { p with peer })

/-- The packet counters are read and start again. -/
def takeCounters : CreditPeer :=
  { p with
    peer := { p.peer with conn := { p.peer.conn with packetCounter := 0, packetsSent := 0 } }
    packetsResent := 0 }

/-- `send_request_packet` if it is time for it. -/
def sendRequest (due : Bool) (env : CreditEnv) : CreditPeer :=
  if due then { p with peer := (p.peer.sendRequestPacket env.sendOk).2 } else p

/-- The part of `send_crypto_packets` before `send_requested_packets`. -/
def beforeRequested (env : CreditEnv) : CreditPeer :=
  let p := p.sendRequest env.recvRequestDue env
  let p := if env.measure then p.takeCounters else p
  { p.topUp env with visited := true }

/-- The request packet of a connection that has a session. -/
def firstRequest (env : CreditEnv) : CreditPeer :=
  if p.peer.conn.status = .notConfirmed ∨ p.peer.conn.status = .established then
    p.sendRequest env.requestDue env
  else p

def sendCryptoPackets (env : CreditEnv) : CreditPeer :=
  if !p.peer.conn.isValid then p
  else
    let p := p.firstRequest env
    if p.peer.conn.status = .established then
      match (p.beforeRequested env).sendRequested env with
      | (none, p) => p
      | (some ret, p) => p.subtractSent ret
    else p

/-- `write_cryptpacket` -/
def write (data : Bytes) (congestionControl : Bool) (now : UInt64) (calloc : Bool)
    (sendOk : UInt32 → Bool) : Option UInt32 × CreditPeer :=
  let (ret, peer) := p.peer.writeCryptpacket data congestionControl now calloc sendOk
  (ret, { p with peer })

end CreditPeer

/-- A connection as `accept_crypto_connection` and `new_crypto_connection` leave its credit. -/
def startCredit (peer : Peer) : CreditPeer where
  peer := { peer with conn := { peer.conn with
    packetsLeft := cryptoMinQueueLength
    packetsLeftRequested := 0 } }
  lastPacketsLeftSet := 0
  lastPacketsLeftRequestedSet := 0
  packetsResent := 0
  visited := false

end Toxcore

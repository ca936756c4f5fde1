import Toxcore.Native.DHT

/-!
# Pinging newly announced nodes

`ping.c`: nodes that were announced to us wait in the array `to_ping` until the next time that
`ping_iterate` pings them.
-/

namespace Toxcore

def pingNumMax : UInt32 := 512

def maxToPing : Nat := 32

def timeToPing : UInt64 := 2

def netPacketPingRequest : UInt8 := 0

structure Ping where
  pingArray : PingArray
  toPing : List NodeFormat
  lastToPing : UInt64
  /-- The nodes that `ping_send_request` was called for; the source does not keep them. -/
  requests : List NodeFormat

def pingNew : Option Ping := do
  let pingArray ← PingArray.pingArrayNew pingNumMax pingTimeout
  some { pingArray, toPing := List.replicate maxToPing emptyNodeFormat, lastToPing := 0, requests := [] }

namespace NodeFormat

def ipIsset (node : NodeFormat) : Bool := !node.ipPort.isUnspec

/-- `ip_reset` for the address of a node; the port stays. -/
def ipReset (node : NodeFormat) : NodeFormat :=
  { node with ipPort := { emptyIpPort with port := node.ipPort.port } }

end NodeFormat

namespace DHT

def nodeAddableToCloseList (dht : DHT) (box : CryptoBox) (env : DhtEnv) (node : NodeFormat) : Bool :=
  (dht.addToClose box env node.publicKey node.ipPort true).1

/-- `dht_getfriendip`; `none` is `-1`, and without an address the result is `0`. -/
def dhtGetfriendip (dht : DHT) (publicKey : PublicKey) : Option (Option IPPort) :=
  match dht.friends.find? fun fr => fr.publicKey == publicKey with
  | none => none
  | some frnd =>
    match frnd.clientList.find? fun client => client.publicKey == publicKey with
    | none => some none
    | some client =>
      if !assocTimeout dht.curTime client.assoc6 then some (some client.assoc6.ipPort)
      else if !assocTimeout dht.curTime client.assoc4 then some (some client.assoc4.ipPort)
      else none

end DHT

def inList (list : List ClientData) (now : UInt64) (node : NodeFormat) : Bool :=
  list.any fun client =>
    let ipptp := if node.ipPort.isIpv4 then client.assoc4 else client.assoc6
    client.publicKey == node.publicKey &&
      (!monoTimeIsTimeout now ipptp.timestamp badNodeTimeout && ipportEqual ipptp.ipPort node.ipPort)

namespace Ping

def pingSendRequest (box : CryptoBox) (env : DhtEnv) (ping : Ping) (dht : DHT) (node : NodeFormat) : Ping × DHT :=
  let ping := { ping with requests := ping.requests ++ [node] }
  if node.publicKey = dht.selfPublicKey then (ping, dht)
  else
    let sharedKey := dht.dhtGetSharedKey box node.publicKey
    let (random, rng) := dht.rng.randomU64
    let (pingId, pingArray) := ping.pingArray.pingArrayAdd env.now random (env.malloc dht.rng.next)
      (node.publicKey.toList ++ node.ipPort.bytes)
    let ping := { ping with pingArray }
    let dht := { dht with rng }
    if pingId = 0 then (ping, dht)
    else
      let (nonce, rng) := dht.rng.randomNonce
      let dht := { dht with rng }
      match sharedKey with
      -- the source passes the null pointer on; the encryption fails
      | none => (ping, dht)
      | some sharedKey =>
        let packet : DHTPacket :=
          { type := netPacketPingRequest
            publicKey := dht.selfPublicKey
            encrypted := encryptDataSymmetric sharedKey nonce (netPacketPingRequest :: DHT.pingIdBytes pingId) }
        (ping, (dht.sendpacket env node.ipPort packet).2)

/-- The entry of `to_ping` at which the loop of `ping_add` ends: one that is not set, or one with the
    key. -/
def addIndex (ping : Ping) (publicKey : PublicKey) : Option Nat :=
  ping.toPing.findIdx? fun entry => !entry.ipIsset || entry.publicKey == publicKey

/-- The part of `ping_add` that changes `to_ping`. -/
def storeToPing (ping : Ping) (dht : DHT) (node : NodeFormat) : Bool × Ping :=
  match ping.addIndex node.publicKey with
  | some i =>
    if (ping.toPing[i]?.map (·.ipIsset)).getD false then (false, ping)
    else (true, { ping with toPing := ping.toPing.set i node })
  | none =>
    let (added, toPing) := addToList ping.toPing node dht.selfPublicKey
    (added, { ping with toPing })

def pingAdd (box : CryptoBox) (env : DhtEnv) (ping : Ping) (dht : DHT) (node : NodeFormat) :
    Bool × Ping × DHT :=
  if !node.ipIsset then (false, ping, dht)
  else if !dht.nodeAddableToCloseList box env node then (false, ping, dht)
  else if inList dht.closeClientlist env.now node then (false, ping, dht)
  else if dht.dhtGetfriendip node.publicKey = some none then
    (false, ping.pingSendRequest box env dht node)
  else
    let (added, ping) := ping.storeToPing dht node
    (added, ping, dht)

/-- The loop of `ping_iterate`: the entries after it, and how many were visited. -/
def iterateLoop (box : CryptoBox) (env : DhtEnv) :
    List NodeFormat → Ping → DHT → List NodeFormat × Nat × Ping × DHT
  | [], ping, dht => ([], 0, ping, dht)
  | node :: toPing, ping, dht =>
    if !node.ipIsset then (node :: toPing, 0, ping, dht)
    else if !dht.nodeAddableToCloseList box env node then
      let (rest, visited, ping, dht) := iterateLoop box env toPing ping dht
      (node :: rest, visited + 1, ping, dht)
    else
      let (ping, dht) := ping.pingSendRequest box env dht node
      let (rest, visited, ping, dht) := iterateLoop box env toPing ping dht
      (node.ipReset :: rest, visited + 1, ping, dht)

/-- `ping_iterate` does something at all. -/
def Effective (ping : Ping) (now : UInt64) : Prop :=
  monoTimeIsTimeout now ping.lastToPing timeToPing ∧ (ping.toPing[0]?.map (·.ipIsset)).getD false

instance (ping : Ping) (now : UInt64) : Decidable (ping.Effective now) :=
  inferInstanceAs (Decidable (_ ∧ _))

def pingIterate (box : CryptoBox) (env : DhtEnv) (ping : Ping) (dht : DHT) : Ping × DHT :=
  if ¬ping.Effective env.now then (ping, dht)
  else
    let (toPing, visited, ping, dht) := iterateLoop box env ping.toPing ping dht
    (if visited ≠ 0 then { ping with toPing, lastToPing := env.now } else { ping with toPing }, dht)

end Ping

end Toxcore

import Toxcore.Native.ClientData
import Toxcore.Native.State

/-!
# The DHT

The parts of `DHT.c` that manage the client lists, the DHT friends with their locks, the
`get_nodes` exchange and the saved state.  Hole punching, the crypto request packets and
the `Ping` module are left out: they read the lists but do not change them.

`DhtEnv` is what the environment decides; random numbers come from the stream `rng`, and
allocations and sent packets succeed or fail depending on the position in that stream.
`num_friends` is a counter of its own, as the array may be longer than it says.
-/

namespace Toxcore

def pingTimeout : UInt32 := 5

def dhtPingArraySize : UInt32 := 512

def dhtFakeFriendNumber : Nat := 2

def killNodeTimeout : UInt64 := badNodeTimeout + pingInterval

def getNodeInterval : UInt64 := 20

def maxBootstrapTimes : UInt32 := 5

def dhtFriendMaxLocks : Nat := 32

def maxCloseToBootstrapNodes : Nat := 8

def netPacketGetNodes : UInt8 := 2

def netPacketSendNodesIpv6 : UInt8 := 4

def netPacketDataSearchRequest : UInt8 := 0x93

/-- `DHT_Friend_Callback`; the pointers are numbers, and `0` is the null pointer. -/
structure DHTFriendCallback where
  ipCallback : Nat
  data : Nat
  number : Int32
deriving DecidableEq

/-- A callback slot that is not used. -/
def emptyCallback : DHTFriendCallback := { ipCallback := 0, data := 0, number := 0 }

structure DHTFriend where
  publicKey : PublicKey
  clientList : List ClientData
  lastgetnode : UInt64
  bootstrapTimes : UInt32
  lockFlags : BitVec 32
  callbacks : Vector DHTFriendCallback dhtFriendMaxLocks
  toBootstrap : NodesList
deriving DecidableEq

def emptyDhtFriend (publicKey : PublicKey) : DHTFriend where
  publicKey
  clientList := List.replicate maxFriendClients emptyClientData
  lastgetnode := 0
  bootstrapTimes := 0
  lockFlags := 0
  callbacks := Vector.replicate _ emptyCallback
  toBootstrap := .zero

/-- A packet made by `dht_create_packet`. -/
structure DHTPacket where
  type : UInt8
  publicKey : PublicKey
  encrypted : Sealed Bytes
deriving DecidableEq

/-- The number of bytes of a packet on the wire. -/
def DHTPacket.length (packet : DHTPacket) : Nat :=
  1 + cryptoPublicKeySize + cryptoNonceSize + packet.encrypted.plain.length + cryptoMacSize

/-- A stream of random numbers and the position in it. -/
structure Rng where
  u64 : Nat → UInt64
  next : Nat

namespace Rng

def randomU64 (rng : Rng) : UInt64 × Rng := (rng.u64 rng.next, { rng with next := rng.next + 1 })

def randomNonce (rng : Rng) : Nonce × Rng :=
  (BitVec.ofNat 192 ((rng.u64 rng.next).toNat + (rng.u64 (rng.next + 1)).toNat * 2 ^ 64 +
    (rng.u64 (rng.next + 2)).toNat * 2 ^ 128), { rng with next := rng.next + 3 })

def randomRange (rng : Rng) (upper : Nat) : Nat × Rng :=
  ((rng.u64 rng.next).toNat % upper, { rng with next := rng.next + 1 })

/-- The public key of `crypto_new_keypair`. -/
def randomKey (rng : Rng) : PublicKey × Rng :=
  (Vector.ofFn fun i => UInt8.ofNat (rng.u64 (rng.next + i)).toNat,
    { rng with next := rng.next + cryptoPublicKeySize })

end Rng

/-- What the environment decides. -/
structure DhtEnv where
  /-- `mono_time_get`, in seconds -/
  now : UInt64
  /-- Allocations, by the position in the random stream. -/
  malloc : Nat → Bool
  /-- `sendpacket`, by the position in the random stream. -/
  sendpacket : Nat → Bool
  /-- The allocation of `sort_client_list`, by the key that the list belongs to. -/
  callocSort : PublicKey → Bool
  /-- `realloc` of the friends list -/
  realloc : Bool

structure DHT where
  selfPublicKey : PublicKey
  selfSecretKey : SecretKey
  closeClientlist : List ClientData
  closeLastgetnodes : UInt64
  closeBootstrapTimes : UInt32
  friendsList : List DHTFriend
  numFriends : UInt16
  loadedNodesList : List NodeFormat
  loadedNodesIndex : UInt32
  dhtPingArray : PingArray
  /-- The number of calls of `ping_array_add` so far; the source does not count them. -/
  pingsAdded : Nat
  curTime : UInt64
  toBootstrap : NodesList
  rng : Rng
  /-- The packets that were sent, with their destinations. -/
  sent : List (IPPort × DHTPacket)

namespace DHT

def friends (dht : DHT) : List DHTFriend := dht.friendsList.take dht.numFriends.toNat

/-- Change every friend that `num_friends` counts. -/
def mapFriends (dht : DHT) (f : DHTFriend → DHTFriend) : DHT :=
  { dht with friendsList := dht.friends.map f ++ dht.friendsList.drop dht.numFriends.toNat }

def indexOfFriendPk (dht : DHT) (pk : PublicKey) : Option Nat :=
  dht.friends.findIdx? fun fr => fr.publicKey == pk

def getCloseNodes (dht : DHT) (publicKey : PublicKey) (saFamily : UInt8)
    (isLan wantAnnounce : Bool) : NodesList :=
  let list := getCloseNodesInner dht.curTime publicKey .zero saFamily dht.closeClientlist isLan wantAnnounce
  dht.friends.foldl (fun list fr =>
    getCloseNodesInner dht.curTime publicKey list saFamily fr.clientList isLan wantAnnounce) list

/-! ## Packets -/

def dhtGetSharedKey (dht : DHT) (box : CryptoBox) (publicKey : PublicKey) : Option SharedKey :=
  box.beforenm publicKey dht.selfSecretKey

def pingIdBytes (pingId : UInt64) : Bytes :=
  (List.range 8).map fun i => UInt8.ofNat (pingId.toNat / 2 ^ (8 * i))

/-- The ping id in the first eight bytes. -/
def pingIdOfBytes (data : Bytes) : UInt64 :=
  UInt64.ofNat ((List.range 8).foldr (fun i acc => (data.getD i 0).toNat + 2 ^ 8 * acc) 0)

def dhtCreatePacket (dht : DHT) (env : DhtEnv) (sharedKey : SharedKey) (type : UInt8)
    (plain : Bytes) : Option DHTPacket × DHT :=
  if !env.malloc dht.rng.next then (none, dht)
  else
    let (nonce, rng) := dht.rng.randomNonce
    (some { type, publicKey := dht.selfPublicKey
            encrypted := encryptDataSymmetric sharedKey nonce plain }, { dht with rng })

/-- `sendpacket`, which sends only to IPv4 and IPv6 addresses -/
def sendpacket (dht : DHT) (env : DhtEnv) (ipPort : IPPort) (packet : DHTPacket) : Bool × DHT :=
  if (ipPort.isIpv4 || ipPort.isIpv6) && env.sendpacket dht.rng.next then (true, { dht with sent := dht.sent ++ [(ipPort, packet)] })
  else (false, dht)

def addPing (dht : DHT) (env : DhtEnv) (data : Bytes) : UInt64 × DHT :=
  let (random, rng) := dht.rng.randomU64
  let (pingId, dhtPingArray) :=
    dht.dhtPingArray.pingArrayAdd env.now random (env.malloc dht.rng.next) data
  (pingId, { dht with dhtPingArray, pingsAdded := dht.pingsAdded + 1, rng })

/-- What `dht_getnodes` puts into the ping array: the packed receiver, padded with zeros. -/
def packReceiver (receiver : NodeFormat) : Option Bytes :=
  match packNodes (UInt16.ofNat (2 * sizeofNodeFormat)) [receiver] with
  | (none, _) => none
  | (some _, written) =>
    some ((written ++ List.replicate (2 * sizeofNodeFormat) 0).take sizeofNodeFormat)

def dhtGetnodes (dht : DHT) (box : CryptoBox) (env : DhtEnv) (ipPort : IPPort)
    (publicKey clientId : PublicKey) : Bool × DHT :=
  if publicKey = dht.selfPublicKey then (false, dht)
  else
    match packReceiver { publicKey, ipPort } with
    | none => (false, dht)
    | some data =>
      let (pingId, dht) := dht.addPing env data
      if pingId = 0 then (false, dht)
      else
        match dht.dhtGetSharedKey box publicKey with
        -- the source passes the null pointer on; the encryption fails
        | none => (false, dht)
        | some sharedKey =>
          match dht.dhtCreatePacket env sharedKey netPacketGetNodes
              (clientId.toList ++ pingIdBytes pingId) with
          | (none, dht) => (false, dht)
          | (some packet, dht) => dht.sendpacket env ipPort packet

def sendAnnouncePing (dht : DHT) (box : CryptoBox) (env : DhtEnv) (publicKey : PublicKey)
    (ipPort : IPPort) : Bool × DHT :=
  let (plain, rng) := dht.rng.randomKey
  let (pingId, dht) := { dht with rng }.addPing env publicKey.toList
  match dht.dhtGetSharedKey box publicKey with
  | none => (false, dht)
  | some sharedKey =>
    match dht.dhtCreatePacket env sharedKey netPacketDataSearchRequest
        (plain.toList ++ pingIdBytes pingId) with
    | (none, dht) => (false, dht)
    | (some packet, dht) => dht.sendpacket env ipPort packet

/-! ## Adding nodes -/

/-- The part of `close_clientlist` for a key: its offset. -/
def closeIndex (dht : DHT) (publicKey : PublicKey) : Nat :=
  let index := bitByBitCmp publicKey dht.selfPublicKey
  (if index ≥ lclientLength then lclientLength - 1 else index) * lclientNodes

/-- Where `add_to_close` stores a node: the first entry of the bucket that has timed out. -/
def closeSlot (dht : DHT) (publicKey : PublicKey) : Option Nat :=
  (((dht.closeClientlist.drop (dht.closeIndex publicKey)).take lclientNodes).findIdx?
    fun client => assocTimeout dht.curTime client.assoc4 && assocTimeout dht.curTime client.assoc6).map
    (dht.closeIndex publicKey + ·)

def addToClose (dht : DHT) (box : CryptoBox) (env : DhtEnv) (publicKey : PublicKey)
    (ipPort : IPPort) (simulate : Bool) : Bool × DHT :=
  match dht.closeSlot publicKey with
  | none => (false, dht)
  | some i =>
    if simulate then (true, dht)
    else
      let closeClientlist := updateAt dht.closeClientlist i fun client =>
        { updateClientWithReset env.now ipPort { client with publicKey } with
          announceNode := false }
      (true, ({ dht with closeClientlist }.sendAnnouncePing box env publicKey ipPort).2)

/-- The friend part of `addto_lists` for one friend. -/
def addtoFriend (curTime : UInt64) (env : DhtEnv) (publicKey : PublicKey) (ipPort : IPPort)
    (fr : DHTFriend) : Bool × DHTFriend :=
  match clientOrIpPortInList env.now fr.clientList publicKey ipPort with
  | (true, clientList) => (true, { fr with clientList })
  | (false, clientList) =>
    match replaceAll env.now curTime (env.callocSort fr.publicKey) clientList publicKey ipPort
        fr.publicKey with
    | (used, clientList) => (used, { fr with clientList })

def addtoCloseList (dht : DHT) (box : CryptoBox) (env : DhtEnv) (publicKey : PublicKey)
    (ipPort : IPPort) : Nat × DHT :=
  match clientOrIpPortInList env.now dht.closeClientlist publicKey ipPort with
  | (true, closeClientlist) => (1, { dht with closeClientlist })
  | (false, closeClientlist) =>
    match { dht with closeClientlist }.addToClose box env publicKey ipPort false with
    | (added, dht) => (if added then 0 else 1, dht)

/-- `addto_lists`: the number of lists that use the node. The IP callbacks change nothing here. -/
def addtoLists (dht : DHT) (box : CryptoBox) (env : DhtEnv) (ipPort : IPPort)
    (publicKey : PublicKey) : Nat × DHT :=
  let ippCopy := ipPortNormalize ipPort
  let (usedClose, dht) := dht.addtoCloseList box env publicKey ippCopy
  let add := addtoFriend dht.curTime env publicKey ippCopy
  let used := dht.friends.countP fun fr => (add fr).1
  (usedClose + used, dht.mapFriends fun fr => (add fr).2)

/-- `returnedip_ports`: the first friend with the key whose list has the node is updated. -/
def returnedipPorts (dht : DHT) (env : DhtEnv) (ipPort : IPPort) (publicKey nodePublicKey : PublicKey) : DHT :=
  let ippCopy := ipPortNormalize ipPort
  if publicKey = dht.selfPublicKey then
    { dht with closeClientlist :=
      (updateClientData env.now dht.closeClientlist ippCopy nodePublicKey true).2 }
  else
    match dht.friends.findIdx? fun fr => publicKey == fr.publicKey &&
        (indexOfClientPk fr.clientList nodePublicKey).isSome with
    | none => dht
    | some i =>
      { dht with friendsList := dht.friendsList.modify i fun fr =>
        { fr with clientList :=
          (updateClientData env.now fr.clientList ippCopy nodePublicKey false).2 } }

def setAnnounceNode (dht : DHT) (publicKey : PublicKey) : DHT :=
  let index := dht.closeIndex publicKey
  let bucket := setAnnounceNodeInList ((dht.closeClientlist.drop index).take lclientNodes) publicKey
  { dht with closeClientlist := dht.closeClientlist.take index ++ bucket ++
      dht.closeClientlist.drop (index + lclientNodes) }.mapFriends fun fr =>
    { fr with clientList := setAnnounceNodeInList fr.clientList publicKey }

/-! ## Friends -/

end DHT

namespace DHTFriend

def lockToken (lockNum : Nat) : BitVec 32 := 1#32 <<< lockNum

/-- `dht_friend_lock`; the token `0` is failure. -/
def dhtFriendLock (fr : DHTFriend) (callback : DHTFriendCallback) : BitVec 32 × DHTFriend :=
  match (List.range dhtFriendMaxLocks).find? fun lockNum => fr.lockFlags &&& lockToken lockNum == 0
    with
  | none => (0, fr)
  | some lockNum =>
    (lockToken lockNum,
      { fr with
        lockFlags := fr.lockFlags ||| lockToken lockNum
        callbacks := fr.callbacks.setIfInBounds lockNum callback })

def dhtFriendUnlock (fr : DHTFriend) (token : BitVec 32) : DHTFriend :=
  match (List.range dhtFriendMaxLocks).find? fun lockNum => lockToken lockNum &&& token != 0 with
  | none => fr
  | some lockNum =>
    { fr with
      lockFlags := fr.lockFlags &&& ~~~token
      callbacks := fr.callbacks.setIfInBounds lockNum emptyCallback }

end DHTFriend

namespace DHT

/-- `dht_addfriend`: whether it returns `0`, `*lock_token` afterwards, and the new state. -/
def dhtAddfriend (dht : DHT) (env : DhtEnv) (publicKey : PublicKey) (callback : DHTFriendCallback)
    (lockToken : BitVec 32) : Bool × BitVec 32 × DHT :=
  match dht.indexOfFriendPk publicKey with
  | some friendNum =>
    match dht.friendsList[friendNum]? with
    | none => (false, lockToken, dht)
    | some fr =>
      let (tmpLockToken, fr) := fr.dhtFriendLock callback
      if tmpLockToken = 0 then (false, lockToken, dht)
      -- the token is not handed back here
      else (true, lockToken, { dht with friendsList := dht.friendsList.set friendNum fr })
  | none =>
    if !env.realloc then (false, lockToken, dht)
    else
      let (token, fr) := (emptyDhtFriend publicKey).dhtFriendLock callback
      let dht' := { dht with
        friendsList := dht.friends ++ [fr]
        numFriends := dht.numFriends + 1
        -- `nat_ping_id`
        rng := dht.rng.randomU64.2 }
      let toBootstrap := dht'.getCloseNodes publicKey toxAfUnspec true false
      (true, token, { dht' with friendsList := dht.friends ++ [{ fr with toBootstrap }] })

/-- The last friend moves into the gap that a removed friend leaves. -/
def moveLast (friendsList : List DHTFriend) (numFriends friendNum : Nat) : List DHTFriend :=
  match friendsList[numFriends]? with
  | none => friendsList
  | some last => if numFriends ≠ friendNum then friendsList.set friendNum last else friendsList

def dhtDelfriend (dht : DHT) (env : DhtEnv) (publicKey : PublicKey) (lockToken : BitVec 32) :
    Bool × DHT :=
  match dht.indexOfFriendPk publicKey with
  | none => (false, dht)
  | some friendNum =>
    match dht.friendsList[friendNum]? with
    | none => (false, dht)
    | some fr =>
      let fr := fr.dhtFriendUnlock lockToken
      let friendsList := dht.friendsList.set friendNum fr
      if fr.lockFlags ≠ 0 then (true, { dht with friendsList })
      else
        let numFriends := dht.numFriends - 1
        let friendsList := moveLast friendsList numFriends.toNat friendNum
        if numFriends = 0 then (true, { dht with friendsList := [], numFriends })
        else if !env.realloc then (false, { dht with friendsList, numFriends })
        else (true, { dht with friendsList := friendsList.take numFriends.toNat, numFriends })

/-- A `DHT` before the fake friends are added. -/
def emptyDht (env : DhtEnv) (rng : Rng) (selfPublicKey : PublicKey) (selfSecretKey : SecretKey)
    (dhtPingArray : PingArray) : DHT where
  selfPublicKey
  selfSecretKey
  closeClientlist := List.replicate lclientList emptyClientData
  closeLastgetnodes := 0
  closeBootstrapTimes := 0
  friendsList := []
  numFriends := 0
  loadedNodesList := []
  loadedNodesIndex := 0
  dhtPingArray
  pingsAdded := 0
  curTime := env.now
  toBootstrap := { nodes := List.replicate maxCloseToBootstrapNodes emptyNodeFormat, num := 0 }
  rng
  sent := []

/-- Add one fake friend with a random key; its token is not kept. -/
def addFakeFriend (env : DhtEnv) (dht : DHT) : Option DHT :=
  let (publicKey, rng) := dht.rng.randomKey
  match { dht with rng }.dhtAddfriend env publicKey emptyCallback 0 with
  | (false, _, _) => none
  | (true, _, dht) => some dht

def newDht (env : DhtEnv) (rng : Rng) (selfPublicKey : PublicKey) (selfSecretKey : SecretKey) :
    Option DHT := do
  let dhtPingArray ← PingArray.pingArrayNew dhtPingArraySize pingTimeout
  let dht ← addFakeFriend env (emptyDht env rng selfPublicKey selfSecretKey dhtPingArray)
  let dht ← addFakeFriend env dht
  if dht.numFriends.toNat ≠ dhtFakeFriendNumber then none else some dht

/-! ## The main loop -/

/-- The state of the loop of `do_ping_and_sendnode_requests`. -/
structure PingLoop where
  dht : DHT
  notKill : UInt8
  /-- The good nodes, with the address to use. -/
  nodes : List (IPPort × PublicKey)
  sort : Nat
  sortOk : Bool

/-- The loop body for association `j` of a client. -/
def pingAssoc (box : CryptoBox) (env : DhtEnv) (publicKey clientPk : PublicKey) (j : Nat)
    (loop : PingLoop) (assoc : IPPTsPng) : PingLoop × IPPTsPng :=
  if !monoTimeIsTimeout env.now assoc.timestamp killNodeTimeout then
    let (dht, pinged) :=
      if monoTimeIsTimeout env.now assoc.lastPinged pingInterval then
        ((loop.dht.dhtGetnodes box env assoc.ipPort clientPk publicKey).2, { assoc with lastPinged := env.now })
      else (loop.dht, assoc)
    let nodes := if !assocTimeout dht.curTime assoc then loop.nodes ++ [(assoc.ipPort, clientPk)]
      else loop.nodes
    ({ loop with dht, sort := 0, notKill := loop.notKill + 1, nodes }, pinged)
  else
    let sort := loop.sort + 1
    -- timed out associations should come first
    ({ loop with sort, sortOk := loop.sortOk || (sort > 1 && sort < (j + 1) * 2 - 1) }, assoc)

/-- The loop of `do_ping_and_sendnode_requests`. -/
def pingLoop (box : CryptoBox) (env : DhtEnv) (publicKey : PublicKey) :
    List ClientData → PingLoop → PingLoop × List ClientData
  | [], loop => (loop, [])
  | client :: list, loop =>
    let (loop, assoc6) := pingAssoc box env publicKey client.publicKey 0 loop client.assoc6
    let (loop, assoc4) := pingAssoc box env publicKey client.publicKey 1 loop client.assoc4
    let (loop, list) := pingLoop box env publicKey list loop
    (loop, { client with assoc4, assoc6 } :: list)

/-- Result of `do_ping_and_sendnode_requests`. -/
structure PingResult where
  dht : DHT
  notKill : UInt8
  list : List ClientData
  lastgetnode : UInt64
  bootstrapTimes : UInt32

/-- `do_ping_and_sendnode_requests`; the list is not part of `dht` meanwhile. -/
def doPingAndSendnodeRequests (dht : DHT) (box : CryptoBox) (env : DhtEnv) (lastgetnode : UInt64)
    (publicKey : PublicKey) (list : List ClientData) (bootstrapTimes : UInt32) (sortable : Bool) :
    PingResult :=
  if !env.malloc dht.rng.next then { dht, notKill := 0, list, lastgetnode, bootstrapTimes }
  else
    let (loop, list) := pingLoop box env publicKey list
      { dht, notKill := 0, nodes := [], sort := 0, sortOk := false }
    let list := if sortable && loop.sortOk then
        sortClientList list loop.dht.curTime publicKey (env.callocSort publicKey)
      else list
    let numNodes := loop.nodes.length
    if 0 < numNodes ∧ (monoTimeIsTimeout env.now lastgetnode getNodeInterval ∨
        bootstrapTimes < maxBootstrapTimes) then
      let (randNode, rng) := loop.dht.rng.randomRange numNodes
      let (randNode, rng) :=
        if numNodes - 1 ≠ randNode then
          let (more, rng) := rng.randomRange (numNodes - (randNode + 1))
          (randNode + more, rng)
        else (randNode, rng)
      let dht := { loop.dht with rng }
      let dht := match loop.nodes[randNode]? with
        | none => dht
        | some (ipPort, nodePk) => (dht.dhtGetnodes box env ipPort nodePk publicKey).2
      { dht, notKill := loop.notKill, list, lastgetnode := env.now
        bootstrapTimes := bootstrapTimes + 1 }
    else { dht := loop.dht, notKill := loop.notKill, list, lastgetnode, bootstrapTimes }

/-- Send `get_nodes` requests to the nodes of a `to_bootstrap` list. -/
def getnodesAll (dht : DHT) (box : CryptoBox) (env : DhtEnv) (clientId : PublicKey)
    (nodes : List NodeFormat) : DHT :=
  nodes.foldl (fun dht node => (dht.dhtGetnodes box env node.ipPort node.publicKey clientId).2) dht

/-- The reset of `do_Close` for nodes that are all timed out. -/
def resetBad (badonly : UInt64) (client : ClientData) : ClientData :=
  let reset (assoc : IPPTsPng) : IPPTsPng :=
    if assoc.timestamp ≠ 0 then { assoc with timestamp := badonly } else assoc
  { client with assoc4 := reset client.assoc4, assoc6 := reset client.assoc6 }

def doClose (dht : DHT) (box : CryptoBox) (env : DhtEnv) : DHT :=
  let dht := dht.getnodesAll box env dht.selfPublicKey (dht.toBootstrap.nodes.take dht.toBootstrap.num)
  let dht := { dht with toBootstrap := { dht.toBootstrap with num := 0 } }
  let result := dht.doPingAndSendnodeRequests box env dht.closeLastgetnodes dht.selfPublicKey
    dht.closeClientlist dht.closeBootstrapTimes false
  let dht := { result.dht with
    closeClientlist := result.list
    closeLastgetnodes := result.lastgetnode
    closeBootstrapTimes := result.bootstrapTimes }
  if result.notKill ≠ 0 then dht
  else { dht with closeClientlist :=
    dht.closeClientlist.map (resetBad (env.now - badNodeTimeout)) }

/-- The loop body of `do_dht_friends`. -/
def doDhtFriend (dht : DHT) (box : CryptoBox) (env : DhtEnv) (i : Nat) : DHT :=
  match dht.friendsList[i]? with
  | none => dht
  | some fr =>
    let dht := dht.getnodesAll box env fr.publicKey (fr.toBootstrap.nodes.take fr.toBootstrap.num)
    let result := dht.doPingAndSendnodeRequests box env fr.lastgetnode fr.publicKey fr.clientList
      fr.bootstrapTimes true
    { result.dht with friendsList := result.dht.friendsList.set i { fr with
        toBootstrap := { fr.toBootstrap with num := 0 }
        clientList := result.list
        lastgetnode := result.lastgetnode
        bootstrapTimes := result.bootstrapTimes } }

def doDhtFriends (dht : DHT) (box : CryptoBox) (env : DhtEnv) : DHT :=
  (List.range dht.numFriends.toNat).foldl (fun dht i => dht.doDhtFriend box env i) dht

def dhtNonLanConnected (dht : DHT) : Bool :=
  dht.closeClientlist.any fun client =>
    (!assocTimeout dht.curTime client.assoc4 && !ipIsLan client.assoc4.ipPort) ||
      (!assocTimeout dht.curTime client.assoc6 && !ipIsLan client.assoc6.ipPort)

def dhtBootstrap (dht : DHT) (box : CryptoBox) (env : DhtEnv) (node : NodeFormat) : DHT :=
  if node.publicKey = dht.selfPublicKey then dht
  else (dht.dhtGetnodes box env node.ipPort node.publicKey dht.selfPublicKey).2

def saveBootstrapFrequency : Nat := 8

def dhtConnectAfterLoad (dht : DHT) (box : CryptoBox) (env : DhtEnv) : DHT :=
  if dht.dhtNonLanConnected then { dht with loadedNodesList := [] }
  else
    (List.range (min dht.loadedNodesList.length saveBootstrapFrequency)).foldl (fun dht _ =>
      match dht.loadedNodesList[dht.loadedNodesIndex.toNat % dht.loadedNodesList.length]? with
      | none => dht
      | some node =>
        { dht.dhtBootstrap box env node with loadedNodesIndex := dht.loadedNodesIndex + 1 }) dht

/-- `do_dht`, without hole punching and `ping_iterate`. -/
def doDht (dht : DHT) (box : CryptoBox) (env : DhtEnv) : DHT :=
  if dht.curTime = env.now then dht
  else
    let dht := { dht with curTime := env.now }
    let dht := if 0 < dht.loadedNodesList.length then dht.dhtConnectAfterLoad box env else dht
    (dht.doClose box env).doDhtFriends box env

end DHT

end Toxcore

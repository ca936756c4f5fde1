import Toxcore.Native.DHT

/-!
# The `get_nodes` exchange

The packet handlers of `DHT.c`: a node answers a `get_nodes` request with the nodes it knows
that are closest to the key in the request and sends the ping id back; the requester accepts
the response if the ping id is that of a request it sent to this node.
-/

namespace Toxcore

def ipportIsset (ipPort : IPPort) : Bool := ipPort.port != 0 && !ipPort.isUnspec

/-- Add a node to a `to_bootstrap` array of `size` nodes, as `ping_node_from_getnodes_ok`
    does. -/
def addToBootstrap (size : Nat) (list : NodesList) (node : NodeFormat) (cmpPk : PublicKey) :
    NodesList :=
  if list.num < size then { nodes := list.nodes.set list.num node, num := list.num + 1 }
  else { list with nodes := (addToList list.nodes node cmpPk).2 }

namespace DHT

variable (dht : DHT) (box : CryptoBox) (env : DhtEnv)

def isPkInCloseList (publicKey : PublicKey) (ipPort : IPPort) : Bool :=
  isPkInClientList ((dht.closeClientlist.drop (dht.closeIndex publicKey)).take lclientNodes)
    dht.curTime publicKey ipPort

/-- The friend part of `ping_node_from_getnodes_ok` for one friend. -/
def pingNodeFriend (curTime : UInt64) (publicKey : PublicKey) (ipPort : IPPort) (fr : DHTFriend) :
    DHTFriend :=
  let storeOk := fr.clientList[1]?.any (storeNodeOk · curTime publicKey fr.publicKey) ||
    fr.clientList[0]?.any (storeNodeOk · curTime publicKey fr.publicKey)
  let known := (indexOfNodePk (fr.toBootstrap.nodes.take fr.toBootstrap.num) publicKey).isSome
  if storeOk && !known && !isPkInClientList fr.clientList curTime publicKey ipPort then
    { fr with toBootstrap :=
      addToBootstrap maxSentNodes fr.toBootstrap { publicKey, ipPort } fr.publicKey }
  else fr

def pingNodeFromGetnodesOk (publicKey : PublicKey) (ipPort : IPPort) : DHT :=
  let ret := (dht.addToClose box env publicKey ipPort true).1
  let known := (indexOfNodePk (dht.toBootstrap.nodes.take dht.toBootstrap.num) publicKey).isSome
  let toBootstrap :=
    if ret && !known && !dht.isPkInCloseList publicKey ipPort then
      addToBootstrap maxCloseToBootstrapNodes dht.toBootstrap { publicKey, ipPort } dht.selfPublicKey
    else dht.toBootstrap
  { dht with toBootstrap }.mapFriends (pingNodeFriend dht.curTime publicKey ipPort)

/-- The nodes of `nodes_list` in `sendnodes_ipv6`. -/
def sendnodesList (ipPort : IPPort) (clientId : PublicKey) : List NodeFormat :=
  let list := dht.getCloseNodes clientId toxAfUnspec (ipIsLan ipPort) false
  list.nodes.take list.num

/-- `sendnodes_ipv6`: whether the packet was sent. -/
def sendnodesIpv6 (ipPort : IPPort) (publicKey clientId : PublicKey) (sendbackData : Bytes)
    (sharedKey : SharedKey) : Bool × DHT :=
  if publicKey = dht.selfPublicKey then (false, dht)
  else if sendbackData.length ≠ 8 then (false, dht)
  else
    let nodes := dht.sendnodesList ipPort clientId
    let packed : Option Bytes :=
      if 0 < nodes.length then
        match packNodes (UInt16.ofNat (sizeofNodeFormat * maxSentNodes)) nodes with
        | (none, _) => none
        | (some nodesLength, written) => if nodesLength = 0 then none else some written
      else some []
    match packed with
    | none => (false, dht)
    | some data =>
      match dht.dhtCreatePacket env sharedKey netPacketSendNodesIpv6
          (UInt8.ofNat nodes.length :: data ++ sendbackData) with
      | (none, dht) => (false, dht)
      | (some packet, dht) => dht.sendpacket env ipPort packet

/-- `handle_getnodes`, without the call of `ping_add`: whether it returns `0`. -/
def handleGetnodes (source : IPPort) (packet : DHTPacket) : Bool × DHT :=
  if packet.length ≠ 1 + cryptoPublicKeySize * 2 + cryptoNonceSize + cryptoMacSize + 8 then
    (false, dht)
  else if packet.publicKey = dht.selfPublicKey then (false, dht)
  else
    match dht.dhtGetSharedKey box packet.publicKey with
    | none => (false, dht)
    | some sharedKey =>
      match decryptDataSymmetric sharedKey packet.encrypted.nonce packet.encrypted with
      | none => (false, dht)
      | some plain =>
        (true, (dht.sendnodesIpv6 env source packet.publicKey (bytesToVector _ plain)
          (plain.drop cryptoPublicKeySize) sharedKey).2)

def sentGetnodeToNode (publicKey : PublicKey) (nodeIpPort : IPPort) (pingId : UInt64) :
    Bool × DHT :=
  match dht.dhtPingArray.pingArrayCheck env.now (2 * sizeofNodeFormat) pingId with
  | (none, dhtPingArray) => (false, { dht with dhtPingArray })
  | (some data, dhtPingArray) =>
    let dht := { dht with dhtPingArray }
    if data.length ≠ sizeofNodeFormat then (false, dht)
    else
      match unpackNodes 1 data (UInt16.ofNat (2 * sizeofNodeFormat)) false with
      | some ([test], _) =>
        (ipportEqual test.ipPort nodeIpPort && test.publicKey == publicKey, dht)
      | _ => (false, dht)

/-- The bytes of a `send_nodes` packet other than the nodes. -/
def sendnodesCidSize : Nat := 1 + cryptoPublicKeySize + cryptoNonceSize + 1 + 8 + cryptoMacSize

/-- The checks of `handle_sendnodes_core`: the nodes of a packet that passes them. -/
def checkSendnodes (source : IPPort) (packet : DHTPacket) (sizePlainNodes : Nat) :
    Option (List NodeFormat) × DHT :=
  if packet.length < sendnodesCidSize then (none, dht)
  else
    let dataSize := packet.length - sendnodesCidSize
    if dataSize = 0 then (none, dht)
    else if dataSize > sizeofNodeFormat * maxSentNodes then (none, dht)
    else
      match dht.dhtGetSharedKey box packet.publicKey with
      | none => (none, dht)
      | some sharedKey =>
        match decryptDataSymmetric sharedKey packet.encrypted.nonce packet.encrypted with
        | none => (none, dht)
        | some plain =>
          let count := plain.headD 0
          if count.toNat > sizePlainNodes then (none, dht)
          else
            match dht.sentGetnodeToNode env packet.publicKey source
                (pingIdOfBytes (plain.drop (1 + dataSize))) with
            | (false, dht) => (none, dht)
            | (true, dht) =>
              match unpackNodes count.toUInt16 (plain.drop 1) (UInt16.ofNat dataSize) false with
              | none => (none, dht)
              | some (nodes, lengthNodes) =>
                if lengthNodes.toNat ≠ dataSize then (none, dht)
                else if nodes.length ≠ count.toNat then (none, dht)
                else (some nodes, dht)

def handleSendnodesCore (source : IPPort) (packet : DHTPacket) (sizePlainNodes : Nat) :
    Option (List NodeFormat) × DHT :=
  match dht.checkSendnodes box env source packet sizePlainNodes with
  | (none, dht) => (none, dht)
  | (some nodes, dht) => (some nodes, (dht.addtoLists box env source packet.publicKey).2)

/-- The loop body of `handle_sendnodes_ipv6`, without the callback. -/
def returnedNode (nodePublicKey : PublicKey) (dht : DHT) (node : NodeFormat) : DHT :=
  if ipportIsset node.ipPort then
    (dht.pingNodeFromGetnodesOk box env node.publicKey node.ipPort).returnedipPorts env
      node.ipPort node.publicKey nodePublicKey
  else dht

def handleSendnodesIpv6 (source : IPPort) (packet : DHTPacket) : DHT :=
  match dht.handleSendnodesCore box env source packet maxSentNodes with
  | (none, dht) => dht
  | (some nodes, dht) => nodes.foldl (returnedNode box env packet.publicKey) dht

def handleDataSearchResponse (packet : DHTPacket) : DHT :=
  let plainLen := packet.encrypted.plain.length
  if plainLen < cryptoPublicKeySize + 8 then dht
  else
    match dht.dhtGetSharedKey box packet.publicKey with
    | none => dht
    | some sharedKey =>
      match decryptDataSymmetric sharedKey packet.encrypted.nonce packet.encrypted with
      | none => dht
      | some plain =>
        match dht.dhtPingArray.pingArrayCheck env.now cryptoPublicKeySize
            (pingIdOfBytes (plain.drop (plainLen - 8))) with
        | (none, dhtPingArray) => { dht with dhtPingArray }
        | (some pingData, dhtPingArray) =>
          let dht := { dht with dhtPingArray }
          if pingData = packet.publicKey.toList then dht.setAnnounceNode packet.publicKey else dht

end DHT

end Toxcore

import Toxcore.Native.OnionAnnounce

/-!
# Answers to announce requests

The part of `onion_client.c` that reads announce responses, and the callback of `group_chats.c` for
the announces of groups in them.

The accounts of the paths are left out: `path_used`, the result of `set_path_timeouts`, is taken from
outside.  The callback for groups is set.  What is read from the responses is collected in the state:
the answers and nodes that `client_add_to_list` and `client_ping_nodes` are given, the requests that
are sent to these nodes, and the announces for `gc_add_peers_from_announces`.
-/

namespace Toxcore

/-! ## Constants -/

def maxOnionClients : Nat := 8

def maxOnionClientsAnnounce : Nat := 12

def onionNodeTimeout : UInt64 := 15

def onionNodeMaxPings : UInt8 := 3

def maxStoredPingedNodes : Nat := 9

def minNodePingTime : UInt64 := 10

/-! ## Nodes -/

structure OnionNode where
  publicKey : PublicKey
  ipPort : IPPort
  pingId : Bytes
  dataPublicKey : PublicKey
  isStored : UInt8
  addedTime : UInt64
  timestamp : UInt64
  lastPinged : UInt64
  pingsSinceLastResponse : UInt8
  pathUsed : UInt32

def zeroOnionNode : OnionNode where
  publicKey := Vector.replicate _ 0
  ipPort := emptyIpPort
  pingId := List.replicate onionPingIdSize 0
  dataPublicKey := Vector.replicate _ 0
  isStored := 0
  addedTime := 0
  timestamp := 0
  lastPinged := 0
  pingsSinceLastResponse := 0
  pathUsed := 0

structure LastPinged where
  publicKey : PublicKey
  timestamp : UInt64

/-- The memory of `good_to_ping`: `last_pinged` and `last_pinged_index`. -/
structure PingedNodes where
  lastPinged : List LastPinged
  lastPingedIndex : UInt8

/-- No node was pinged. -/
def noPingedNodes : PingedNodes where
  lastPinged := List.replicate maxStoredPingedNodes { publicKey := Vector.replicate _ 0, timestamp := 0 }
  lastPingedIndex := 0

/-- The fields of `Onion_Friend` that are used here. -/
structure OnionFriend where
  isValid : Bool
  realPublicKey : PublicKey
  clientsList : List OnionNode
  tempSecretKey : SecretKey
  pinged : PingedNodes
  gcPublicKey : PublicKey

/-- The arguments of a call of `client_add_to_list`. -/
structure AnnounceAnswer where
  num : Nat
  publicKey : PublicKey
  ipPort : IPPort
  isStored : UInt8
  pingidOrKey : Bytes
deriving DecidableEq

/-- The fields of `Onion_Client` that are used here; `groups` are the keys of the groups of the
    session. -/
structure OnionClient where
  friendsList : List OnionFriend
  clientsAnnounceList : List OnionNode
  selfPublicKey : PublicKey
  selfSecretKey : SecretKey
  tempPublicKey : PublicKey
  pinged : PingedNodes
  announcePingArray : PingArray
  lastPacketRecv : UInt64
  groups : List PublicKey
  /-- The calls of `client_add_to_list`. -/
  answers : List AnnounceAnswer
  /-- The calls of `client_ping_nodes`. -/
  answeredNodes : List (Nat × List NodeFormat)
  /-- The calls of `client_send_announce_request` by `client_ping_nodes`. -/
  announceRequests : List (Nat × NodeFormat)
  /-- The calls of `gc_add_peers_from_announces`. -/
  announcedPeers : List (PublicKey × List GCAnnounce)

/-- What the client takes from the outside while it reads a response. -/
structure OnionClientEnv where
  /-- `mono_time_get` -/
  now : UInt64
  /-- The result of `set_path_timeouts`. -/
  pathUsed : UInt32

variable (now : UInt64)

def onionNodeTimedOut (node : OnionNode) : Bool :=
  node.timestamp == 0 ||
    (node.pingsSinceLastResponse ≥ onionNodeMaxPings && monoTimeIsTimeout now node.lastPinged onionNodeTimeout)

def onionClientCmpEntryLe (basePublicKey : PublicKey) (entry₁ entry₂ : OnionNode) : Bool :=
  if onionNodeTimedOut now entry₁ then true
  else if onionNodeTimedOut now entry₂ then false
  else idClosest basePublicKey entry₁.publicKey entry₂.publicKey != .first

def sortOnionNodeList (list : List OnionNode) (compPublicKey : PublicKey) : List OnionNode :=
  list.insertionSort fun entry₁ entry₂ => onionClientCmpEntryLe now compPublicKey entry₁ entry₂

/-- Whether the node of an index has timed out or is farther away than `publicKey`. -/
def nodeGivesWay (referenceId : PublicKey) (list : List OnionNode) (i : Nat) (publicKey : PublicKey) : Bool :=
  (list[i]?).any fun node => onionNodeTimedOut now node ||
    idClosest referenceId node.publicKey publicKey == .second

/-- The part of `client_add_to_list` that changes the node list. -/
def addToNodeList (pathUsed : UInt32) (referenceId : PublicKey) (list : List OnionNode)
    (publicKey : PublicKey) (ipPort : IPPort) (isStored : UInt8) (pingidOrKey : Bytes) :
    List OnionNode :=
  let list := sortOnionNodeList now list referenceId
  let stored := list.findIdx? (·.publicKey == publicKey)
  let index :=
    match stored with
    | some i => some i
    | none => if nodeGivesWay now referenceId list 0 publicKey then some 0 else none
  match index with
  | none => list
  | some index =>
    list.modify index fun node =>
      { node with
        publicKey
        ipPort
        dataPublicKey := if isStored = 1 then bytesToVector _ pingidOrKey else node.dataPublicKey
        pingId := if isStored = 1 then node.pingId else pingidOrKey
        isStored
        timestamp := now
        pingsSinceLastResponse := 0
        lastPinged := if stored.isSome then node.lastPinged else 0
        addedTime := if stored.isSome then node.addedTime else now
        pathUsed }

def goodToPing (pinged : PingedNodes) (publicKey : PublicKey) : Bool × PingedNodes :=
  if pinged.lastPinged.any fun last =>
      !monoTimeIsTimeout now last.timestamp minNodePingTime && last.publicKey == publicKey then
    (false, pinged)
  else
    (true,
      { lastPinged := pinged.lastPinged.set (pinged.lastPingedIndex.toNat % maxStoredPingedNodes)
          { publicKey, timestamp := now }
        lastPingedIndex := pinged.lastPingedIndex + 1 })

/-- The loop of `client_ping_nodes`: the nodes to which requests are sent. -/
def pingNodesLoop (lanIpsAccepted : Bool) (referenceId : PublicKey) (list : List OnionNode) :
    List NodeFormat → PingedNodes → List NodeFormat × PingedNodes
  | [], pinged => ([], pinged)
  | node :: nodes, pinged =>
    if (!lanIpsAccepted && ipIsLan node.ipPort) ||
        !(nodeGivesWay now referenceId list 0 node.publicKey ||
          nodeGivesWay now referenceId list 1 node.publicKey) ||
        list.any (·.publicKey == node.publicKey) then
      pingNodesLoop lanIpsAccepted referenceId list nodes pinged
    else
      let (good, pinged) := goodToPing now pinged node.publicKey
      let (rest, pinged) := pingNodesLoop lanIpsAccepted referenceId list nodes pinged
      (if good then node :: rest else rest, pinged)

/-! ## Sendbacks -/

/-- The `IP_Port` with this object representation. -/
def ipPortOfBytes (data : Bytes) : IPPort where
  family := data.getD 0 0
  ip := bytesToVector 16 (data.drop 8)
  port := unpackPort (data.drop 24)
  padding := bytesToVector 13 ((data.drop 1).take 7 ++ data.drop 26)

/-- The data that `new_sendback` stores. -/
def sendbackData (num : UInt32) (publicKey : PublicKey) (ipPort : IPPort) (pathNum : UInt32) : Bytes :=
  toLittleEndian 4 num.toNat ++ (publicKey.toList ++ (ipPort.bytes ++ toLittleEndian 4 pathNum.toNat))

def sizeofSendbackData : Nat := 4 + cryptoPublicKeySize + 32 + 4

/-- What `check_sendback` gives back. -/
structure Sendback where
  num : UInt32
  publicKey : PublicKey
  ipPort : IPPort
  pathNum : UInt32
deriving DecidableEq

namespace OnionClient

variable (client : OnionClient)

def checkSendback (sendback : Bytes) : Option Sendback × OnionClient :=
  match client.announcePingArray.pingArrayCheck now sizeofSendbackData
      (UInt64.ofNat (ofLittleEndian (sendback.take 8))) with
  | (none, announcePingArray) => (none, { client with announcePingArray })
  | (some data, announcePingArray) =>
    if data.length ≠ sizeofSendbackData then (none, { client with announcePingArray })
    else
      (some
        { num := UInt32.ofNat (ofLittleEndian (data.take 4))
          publicKey := bytesToVector _ (data.drop 4)
          ipPort := ipPortOfBytes (data.drop (4 + cryptoPublicKeySize))
          pathNum := UInt32.ofNat (ofLittleEndian (data.drop (4 + cryptoPublicKeySize + 32))) },
        { client with announcePingArray })

/-! ## Responses -/

def clientAddToList (env : OnionClientEnv) (num : Nat) (publicKey : PublicKey) (ipPort : IPPort)
    (isStored : UInt8) (pingidOrKey : Bytes) : Bool × OnionClient :=
  let client :=
    { client with
      answers := client.answers ++ [{ num, publicKey, ipPort, isStored, pingidOrKey }] }
  if num > client.friendsList.length then (false, client)
  else if num = 0 then
    let isStored :=
      if isStored = 1 ∧ pingidOrKey.take cryptoPublicKeySize ≠ client.tempPublicKey.toList then 0
      else isStored
    (true,
      { client with
        clientsAnnounceList := addToNodeList env.now env.pathUsed client.selfPublicKey
          client.clientsAnnounceList publicKey ipPort isStored pingidOrKey })
  else if isStored ≥ 2 then (false, client)
  else
    (true,
      { client with
        friendsList := client.friendsList.modify (num - 1) fun friend =>
          { friend with
            clientsList := addToNodeList env.now env.pathUsed friend.realPublicKey friend.clientsList
              publicKey ipPort isStored pingidOrKey } })

def clientPingNodes (num : Nat) (nodes : List NodeFormat) (source : IPPort) : Bool × OnionClient :=
  let client := { client with answeredNodes := client.answeredNodes ++ [(num, nodes)] }
  if num > client.friendsList.length then (false, client)
  else if num = 0 then
    let (pings, pinged) := pingNodesLoop now (ipIsLan source) client.selfPublicKey
      client.clientsAnnounceList nodes client.pinged
    (true,
      { client with
        pinged
        announceRequests := client.announceRequests ++ pings.map (num, ·) })
  else
    match client.friendsList[num - 1]? with
    | none => (false, client)
    | some friend =>
      let (pings, pinged) := pingNodesLoop now (ipIsLan source) friend.realPublicKey
        friend.clientsList nodes friend.pinged
      (true,
        { client with
          friendsList := client.friendsList.set (num - 1) { friend with pinged }
          announceRequests := client.announceRequests ++ pings.map (num, ·) })

def gcHandleAnnounceResponseCallback (num : Nat) (data : Bytes) : Bool × OnionClient :=
  if num = 0 then (false, client)
  else
    match client.friendsList[num - 1]? with
    | none => (false, client)
    | some friend =>
      if !client.groups.contains friend.gcPublicKey then (false, client)
      else
        match gcaUnpackAnnouncesList gcaMaxSentAnnounces data with
        | none => (false, client)
        | some announces =>
          (true,
            { client with
              announcedPeers := client.announcedPeers ++ [(friend.gcPublicKey, announces)] })

variable (box : CryptoBox) (cipher : ByteCipher OnionNonce) (env : OnionClientEnv)

/-- The secret key that belongs to a number; a friend has to be valid. -/
def secretKeyOf (num : Nat) : Option SecretKey :=
  if num = 0 then some client.selfSecretKey
  else
    match client.friendsList[num - 1]? with
    | none => none
    | some friend => if !friend.isValid then none else some friend.tempSecretKey

/-- The two handlers of responses up to `client_add_to_list`: the number and the content. -/
def openAnnounceResponse (packet : Bytes) : Option (Nat × Bytes) × OnionClient :=
  if packet.length < onionAnnounceResponseMinSize ∨ packet.length > onionAnnounceResponseMaxSize then
    (none, client)
  else
    match client.checkSendback env.now (packet.drop 1) with
    | (none, client) => (none, client)
    | (some sendback, client) =>
      let num := sendback.num.toNat
      if num > client.friendsList.length then (none, client)
      else
        match client.secretKeyOf num with
        | none => (none, client)
        | some secretKey =>
          match cipher.decryptDataSymmetric
              (box.encryptPrecompute sendback.publicKey secretKey box.uninitialized)
              (bytesToVector _ (packet.drop (1 + onionAnnounceSendbackDataLength)))
              (packet.drop (1 + onionAnnounceSendbackDataLength + cryptoNonceSize)) with
          | none => (none, client)
          | some plain =>
            if plain.length ≠ 1 + onionPingIdSize + packet.length - onionAnnounceResponseMinSize then
              (none, client)
            else
              match client.clientAddToList env num sendback.publicKey sendback.ipPort
                  (plain.getD 0 0) ((plain.drop 1).take onionPingIdSize) with
              | (false, client) => (none, client)
              | (true, client) => (some (num, plain), client)

/-- The part of `handle_announce_response` that reads the nodes: their length; `none` is failure. -/
def pingAnsweredNodes (now : UInt64) (num nodesCount : Nat) (data : Bytes) (source : IPPort) :
    Option UInt16 × OnionClient :=
  if nodesCount > 0 then
    if nodesCount > maxSentNodes then (none, client)
    else
      match unpackNodes (UInt16.ofNat nodesCount) data (UInt16.ofNat data.length) false with
      | none => (none, client)
      | some (nodes, lenNodes) =>
        match client.clientPingNodes now num nodes source with
        | (false, client) => (none, client)
        | (true, client) => (some lenNodes, client)
  else (some 0, client)

def handleAnnounceResponse (source : IPPort) (packet : Bytes) : Bool × OnionClient :=
  match client.openAnnounceResponse box cipher env packet with
  | (none, client) => (false, client)
  | (some (num, plain), client) =>
    let nodesCount := (plain.getD (1 + onionPingIdSize) 0).toNat
    match client.pingAnsweredNodes env.now num nodesCount (plain.drop (2 + onionPingIdSize)) source with
    | (none, client) => (false, client)
    | (some lenNodes, client) =>
      if lenNodes.toNat + 1 < packet.length - onionAnnounceResponseMinSize then
        match client.gcHandleAnnounceResponseCallback num
            (plain.drop (2 + onionPingIdSize + lenNodes.toNat)) with
        | (false, client) => (false, client)
        | (true, client) => (true, { client with lastPacketRecv := env.now })
      else (true, { client with lastPacketRecv := env.now })

def handleAnnounceResponseOld (source : IPPort) (packet : Bytes) : Bool × OnionClient :=
  match client.openAnnounceResponse box cipher env packet with
  | (none, client) => (false, client)
  | (some (num, plain), client) =>
    let rest := plain.drop (1 + onionPingIdSize)
    if rest.length ≠ 0 then
      match unpackNodes (UInt16.ofNat maxSentNodes) rest (UInt16.ofNat rest.length) false with
      | none => (false, client)
      | some (nodes, _) =>
        if nodes.length = 0 then (false, client)
        else
          match client.clientPingNodes env.now num nodes source with
          | (false, client) => (false, client)
          | (true, client) => (true, { client with lastPacketRecv := env.now })
    else (true, { client with lastPacketRecv := env.now })

end OnionClient

end Toxcore

import Toxcore.Native.OnionClient

/-!
# Onion data

Data for a friend go to the nodes that store his announce, and from there to him: `send_onion_data`
and `handle_data_response` of `onion_client.c`, `create_data_request` and `handle_data_request` of
`onion_announce.c`.
-/

namespace Toxcore

def onionDataResponseMinSize : Nat := 1 + cryptoNonceSize + cryptoPublicKeySize + cryptoMacSize

def onionDataRequestMinSize : Nat := 1 + cryptoPublicKeySize + cryptoNonceSize + cryptoPublicKeySize + cryptoMacSize

def maxDataRequestSize : Nat := onionMaxDataSize - onionDataRequestMinSize

def onionDataInResponseMinSize : Nat := cryptoPublicKeySize + cryptoMacSize

/-- A node that stores an announce answers to `entry.retIpPort`. -/
def OnionAnnounce.handleDataRequest (now : UInt64) (onionA : OnionAnnounce) (packet : Bytes) : Option (IPPort × Bytes) :=
  if packet.length ≤ onionDataRequestMinSize + onionReturn3 then none
  else if packet.length > onionMaxPacketSize then none
  else
    match (inEntries now onionA.entries (bytesToVector _ (packet.drop 1))).bind (onionA.entries[·]?) with
    | none => none
    | some entry =>
      let data := (packet.drop (1 + cryptoPublicKeySize)).take (packet.length - (1 + cryptoPublicKeySize + onionReturn3))
      (sendOnionResponse (netPacketOnionDataResponse :: data) entry.ret).map (entry.retIpPort, ·)

variable (box : CryptoBox) (cipher : ByteCipher OnionNonce)

/-- `random` is the new key pair. -/
def createDataRequest (random : KeyPair) (maxPacketLength : Nat) (publicKey encryptPublicKey : PublicKey)
    (nonce : OnionNonce) (data : Bytes) : Option Bytes :=
  if onionDataRequestMinSize + data.length > maxPacketLength then none
  else if onionDataRequestMinSize + data.length > onionMaxDataSize then none
  else
    match cipher.encryptDataSymmetric (box.encryptPrecompute encryptPublicKey random.secretKey box.uninitialized)
        nonce data with
    | none => none
    | some encrypted =>
      if 1 + cryptoPublicKeySize + cryptoNonceSize + cryptoPublicKeySize + encrypted.length ≠
          onionDataRequestMinSize + data.length then none
      else
        some (netPacketOnionDataRequest ::
          (publicKey.toList ++ (nonce.toList ++ (random.publicKey.toList ++ encrypted))))

/-- What is drawn for a storing node: the result of `random_path`, and the new key pair. -/
structure DataRequestDraw where
  path : Option OnionPath
  random : KeyPair

/-- The arguments of `send_onion_packet_tcp_udp`; the destination is the address of the node. -/
structure SentDataRequest where
  path : OnionPath
  node : OnionNode
  request : Bytes

/-- A call of the handler for `byte`. -/
structure OnionDataCall where
  byte : UInt8
  sourcePublicKey : PublicKey
  data : Bytes

namespace OnionClient

variable (client : OnionClient)

/-- `good_nodes`, if they are enough. -/
def goodNodes (now : UInt64) (nodeList : List OnionNode) : Option (List OnionNode) :=
  let nodes := nodeList.filter fun node => !onionNodeTimedOut now node
  let good := nodes.filter fun node => node.isStored != 0
  if UInt32.ofNat good.length < (UInt32.ofNat nodes.length - 1) / 4 + 1 then none else some good

def sendOnionData (now : UInt64) (nonce : OnionNonce) (draws : Nat → DataRequestDraw) (friendNum : Nat) (data : Bytes) :
    Option (List SentDataRequest) :=
  match client.friendsList[friendNum]? with
  | none => none
  | some friend =>
    if data.length + onionDataInResponseMinSize > maxDataRequestSize then none
    else if data.length = 0 then none
    else
      match goodNodes now friend.clientsList, cipher.encryptDataSymmetric
          (box.encryptPrecompute friend.realPublicKey client.selfSecretKey box.uninitialized) nonce data with
      | some good, some encrypted =>
        if encrypted.length + cryptoPublicKeySize ≠ onionDataInResponseMinSize + data.length then none
        else
          some (good.zipIdx.filterMap fun entry => (draws entry.2).path.bind fun path =>
            (createDataRequest box cipher (draws entry.2).random onionMaxPacketSize friend.realPublicKey
              entry.1.dataPublicKey nonce (client.selfPublicKey.toList ++ encrypted)).map fun request =>
                { path, node := entry.1, request })
      | _, _ => none

/-- `tempSecretKey` is `temp_secret_key`; `registered` says which handlers are set. -/
def handleDataResponse (tempSecretKey : SecretKey) (registered : UInt8 → Bool) (packet : Bytes) :
    Option OnionDataCall :=
  if packet.length ≤ onionDataResponseMinSize + onionDataInResponseMinSize then none
  else if packet.length > maxDataRequestSize then none
  else
    let nonce : OnionNonce := bytesToVector _ (packet.drop 1)
    let publicKey : PublicKey := bytesToVector _ (packet.drop (1 + cryptoNonceSize))
    match cipher.decryptDataSymmetric (box.encryptPrecompute publicKey tempSecretKey box.uninitialized) nonce
        (packet.drop (1 + cryptoNonceSize + cryptoPublicKeySize)) with
    | none => none
    | some tempPlain =>
      if tempPlain.length ≠ packet.length - onionDataResponseMinSize then none
      else
        let source : PublicKey := bytesToVector _ tempPlain
        match cipher.decryptDataSymmetric (box.encryptPrecompute source client.selfSecretKey box.uninitialized) nonce
            (tempPlain.drop cryptoPublicKeySize) with
        | none => none
        | some plain =>
          if plain.length ≠ tempPlain.length - onionDataInResponseMinSize then none
          else if !registered (plain.getD 0 0) then none
          else some { byte := plain.getD 0 0, sourcePublicKey := source, data := plain }

end OnionClient

end Toxcore

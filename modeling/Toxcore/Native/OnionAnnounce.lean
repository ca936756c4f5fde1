import Toxcore.Native.Forwarding
import Toxcore.Native.GetNodes
import Toxcore.Native.GroupAnnounce
import Toxcore.Native.Onion

/-!
# Announces through the onion

`onion_announce.c` and `group_onion_announce.c`: a node keeps the announces that others have made to
it and answers announce requests, and the part of `onion_client.c` that reads the answers.  A request
of a group brings an announce of the group and is answered with the announces of other peers.

Allocations do not fail.  A packet that is longer than the array in which it is built has the outcome
`overrun`.
-/

namespace Toxcore

/-! ## Constants -/

def onionAnnounceMaxEntries : Nat := 160

def onionAnnounceTimeout : UInt64 := 300

def onionPingIdSize : Nat := timedAuthSize

def onionMaxExtraDataSize : Nat := 136

def onionAnnounceSendbackDataLength : Nat := 8

def onionMinimalSize : Nat :=
  onionPingIdSize + cryptoPublicKeySize * 2 + onionAnnounceSendbackDataLength

def onionAnnounceRequestMinSize : Nat :=
  1 + cryptoNonceSize + cryptoPublicKeySize + onionMinimalSize + cryptoMacSize

def announceRequestMinSizeRecv : Nat := onionAnnounceRequestMinSize + onionReturn3

def announceRequestMaxSizeRecv : Nat := announceRequestMinSizeRecv + onionMaxExtraDataSize

def onionAnnounceResponseMinSize : Nat :=
  2 + onionAnnounceSendbackDataLength + cryptoNonceSize + onionPingIdSize + cryptoMacSize

def onionAnnounceResponseMaxSize : Nat :=
  onionAnnounceResponseMinSize + onionMaxExtraDataSize * maxSentNodes

/-! ## The entries of a node -/

structure OnionAnnounceEntry where
  publicKey : PublicKey
  retIpPort : IPPort
  ret : Bytes
  dataPublicKey : PublicKey
  announceTime : UInt64

def zeroAnnounceEntry : OnionAnnounceEntry where
  publicKey := Vector.replicate _ 0
  retIpPort := emptyIpPort
  ret := List.replicate onionReturn3 0
  dataPublicKey := Vector.replicate _ 0
  announceTime := 0

/-- `Onion_Announce` with the DHT, and with the list of group announces that `gca_onion_init` gives to
    it. -/
structure OnionAnnounce where
  entries : List OnionAnnounceEntry
  hmacKey : HmacKey
  sharedKeysRecv : SharedKeyCache
  dht : DHT
  groupAnnounces : GCAnnouncesList

/-- What a node takes from the outside while it handles a request. -/
structure OnionAnnounceEnv where
  /-- `mono_time_get` -/
  now : UInt64
  randomNonce : OnionNonce

/-- The kinds of requests. -/
inductive AnnounceKind where
  /-- `NET_PACKET_ANNOUNCE_REQUEST_OLD` -/
  | old
  /-- `NET_PACKET_ANNOUNCE_REQUEST` without extra data -/
  | plain
  /-- `NET_PACKET_ANNOUNCE_REQUEST` with the announce of a group -/
  | group
deriving DecidableEq

namespace AnnounceKind

def responsePacketId : AnnounceKind → UInt8
  | .old => netPacketAnnounceResponseOld
  | .plain | .group => netPacketAnnounceResponse

def wantNodeCount : AnnounceKind → Bool
  | .old => false
  | .plain | .group => true

/-- `max_extra_size`: for a group the value that `gca_onion_init` sets. -/
def maxExtraSize : AnnounceKind → Nat
  | .old | .plain => 0
  | .group => gcaMaxSentAnnounces * sizeofGcAnnounce

end AnnounceKind

/-- What a handler did. -/
inductive AnnounceOutcome where
  | ignored
  /-- `encrypt_data_symmetric` writes `size` bytes into an array of
      `ONION_ANNOUNCE_RESPONSE_MAX_SIZE`. -/
  | overrun (size : Nat)
  | sent (dest : IPPort) (packet : Bytes)
deriving DecidableEq

namespace OnionAnnounce

variable (now : UInt64)

/-- Whether the announce of an entry is too old. -/
def timedOut (entry : OnionAnnounceEntry) : Bool :=
  monoTimeIsTimeout now entry.announceTime onionAnnounceTimeout

def inEntries (entries : List OnionAnnounceEntry) (publicKey : PublicKey) : Option Nat :=
  entries.findIdx? fun entry => !timedOut now entry && entry.publicKey == publicKey

def cmpEntryLe (basePublicKey : PublicKey) (entry₁ entry₂ : OnionAnnounceEntry) : Bool :=
  if timedOut now entry₁ then true
  else if timedOut now entry₂ then false
  else idClosest basePublicKey entry₁.publicKey entry₂.publicKey != .first

def sortOnionAnnounceList (list : List OnionAnnounceEntry) (compPublicKey : PublicKey) :
    List OnionAnnounceEntry :=
  list.insertionSort fun entry₁ entry₂ => cmpEntryLe now compPublicKey entry₁ entry₂

/-- The place of `add_to_entries`: that of the key, the last that timed out, or the first if the key is closer. -/
def entryPlace (selfPublicKey : PublicKey) (entries : List OnionAnnounceEntry)
    (publicKey : PublicKey) : Option Nat :=
  match inEntries now entries publicKey with
  | some pos => some pos
  | none =>
    match (List.range entries.length).reverse.find? fun i => (entries[i]?).any (timedOut now) with
    | some pos => some pos
    | none =>
      if (entries[0]?).any fun entry => idClosest selfPublicKey publicKey entry.publicKey == .first
      then some 0 else none

def addToEntries (selfPublicKey : PublicKey) (entries : List OnionAnnounceEntry)
    (retIpPort : IPPort) (publicKey dataPublicKey : PublicKey) (ret : Bytes) :
    Option Nat × List OnionAnnounceEntry :=
  match entryPlace now selfPublicKey entries publicKey with
  | none => (none, entries)
  | some pos =>
    let entries := entries.set pos
      { publicKey, retIpPort, ret := ret.take onionReturn3, dataPublicKey, announceTime := now }
    let entries := sortOnionAnnounceList now entries selfPublicKey
    (inEntries now entries publicKey, entries)

def makeAnnouncePayloadHelper (entries : List OnionAnnounceEntry) (pingId : Bytes)
    (index : Option Nat) (packetPublicKey dataPublicKey : PublicKey) : UInt8 × Bytes :=
  match index.bind (entries[·]?) with
  | none => (0, pingId)
  | some entry =>
    if entry.publicKey = packetPublicKey then
      if entry.dataPublicKey ≠ dataPublicKey then (0, pingId) else (2, pingId)
    else (1, entry.dataPublicKey.toList)

end OnionAnnounce

/-! ## Group announces -/

/-- What `pack_group_announces` packs after the announce in `plain` was added; `none` is `-1`. -/
def selectGroupAnnounces (list : GCAnnouncesList) (now : UInt64) (plain : Bytes) :
    Option (List GCAnnounce) × GCAnnouncesList :=
  match gcaUnpackPublicAnnounce plain with
  | none => (none, list)
  | some publicAnnounce =>
    let list := list.gcaAddAnnounce now publicAnnounce
    (some (list.gcaGetAnnounces gcaMaxSentAnnounces publicAnnounce.chatPublicKey
      publicAnnounce.baseAnnounce.peerPublicKey), list)

def packGroupAnnounces (list : GCAnnouncesList) (now : UInt64) (plain : Bytes) (length : Nat) :
    Option Bytes × GCAnnouncesList :=
  match selectGroupAnnounces list now plain with
  | (none, list) => (none, list)
  | (some announces, list) => (gcaPackAnnouncesList length announces, list)

/-! ## Requests -/

/-- The content of a request that was decrypted. -/
structure AnnounceRequest where
  publicKey : PublicKey
  sharedKey : SharedKey
  plain : Bytes
  ret : Bytes
deriving DecidableEq

namespace AnnounceRequest

variable (request : AnnounceRequest)

def pingId : Bytes := request.plain.take onionPingIdSize

/-- The key that is searched. -/
def clientId : PublicKey := bytesToVector _ (request.plain.drop onionPingIdSize)

def dataPublicKey : PublicKey :=
  bytesToVector _ (request.plain.drop (onionPingIdSize + cryptoPublicKeySize))

/-- The sendback data. -/
def sendback : Bytes :=
  (request.plain.drop (onionPingIdSize + cryptoPublicKeySize + cryptoPublicKeySize)).take
    onionAnnounceSendbackDataLength

/-- The data of the group. -/
def extra : Bytes := request.plain.drop onionMinimalSize

def pingIdData (source : IPPort) : Bytes := request.publicKey.toList ++ source.bytes

end AnnounceRequest

namespace OnionAnnounce

variable (hmac : Hmac) (box : CryptoBox) (cipher : ByteCipher OnionNonce) (env : OnionAnnounceEnv)
  (onionA : OnionAnnounce)

/-- The beginning of `handle_announce_request_common`: the request is decrypted. -/
def decryptRequest (packet : Bytes) (plainSize : Nat) : Option AnnounceRequest × OnionAnnounce :=
  let publicKey : PublicKey := bytesToVector _ (packet.drop (1 + cryptoNonceSize))
  match onionA.sharedKeysRecv.lookup box env.now publicKey with
  | (none, sharedKeysRecv) => (none, { onionA with sharedKeysRecv })
  | (some sharedKey, sharedKeysRecv) =>
    match cipher.decryptDataSymmetric sharedKey (bytesToVector _ (packet.drop 1))
        ((packet.drop (1 + cryptoNonceSize + cryptoPublicKeySize)).take
          (plainSize + cryptoMacSize)) with
    | none => (none, { onionA with sharedKeysRecv })
    | some plain =>
      if plain.length ≠ plainSize then (none, { onionA with sharedKeysRecv })
      else
        (some { publicKey, sharedKey, plain, ret := packet.drop (packet.length - onionReturn3) },
          { onionA with sharedKeysRecv })

/-- The entry that answers a request, which is added or renewed if the request carries a ping id of
    this node. -/
def findEntry (source : IPPort) (request : AnnounceRequest) : Option Nat × OnionAnnounce :=
  if checkTimedAuth hmac env.now onionAnnounceTimeout onionA.hmacKey (request.pingIdData source)
      request.pingId then
    let (index, entries) := addToEntries env.now onionA.dht.selfPublicKey onionA.entries source
      request.publicKey request.dataPublicKey request.ret
    (index, { onionA with entries })
  else (inEntries env.now onionA.entries request.clientId, onionA)

/-- The flag of a response and what follows it. -/
def announcePayload (source : IPPort) (request : AnnounceRequest) : UInt8 × Bytes :=
  let (index, onionA) := onionA.findEntry hmac env source request
  makeAnnouncePayloadHelper onionA.entries
    (generateTimedAuth hmac env.now onionAnnounceTimeout onionA.hmacKey (request.pingIdData source))
    index request.publicKey request.dataPublicKey

def nodesList (source : IPPort) (request : AnnounceRequest) : List NodeFormat :=
  onionA.dht.sendnodesList source request.clientId

/-- The packed nodes of a response; `none` when they cannot be packed. -/
def packedNodes (source : IPPort) (request : AnnounceRequest) : Option Bytes :=
  let nodes := onionA.nodesList source request
  if nodes.length ≠ 0 then
    match packNodes (UInt16.ofNat (sizeofNodeFormat * maxSentNodes)) nodes with
    | (none, _) => none
    | (some nodesLength, written) => if nodesLength ≤ 0 then none else some written
  else some []

/-- The part of `response` before the extra data. -/
def responseHead (kind : AnnounceKind) (source : IPPort) (request : AnnounceRequest) (nodes : Bytes) : Bytes :=
  let (flag, pingIdOrKey) := onionA.announcePayload hmac env source request
  flag :: (pingIdOrKey ++
    ((if kind.wantNodeCount then [UInt8.ofNat (onionA.nodesList source request).length] else []) ++ nodes))

def extraData (kind : AnnounceKind) (request : AnnounceRequest) (offset : Nat) :
    Option Bytes × OnionAnnounce :=
  match kind with
  | .old | .plain => (some [], onionA)
  | .group =>
    let responseSize := 1 + onionPingIdSize + 1 + maxSentNodes * packedNodeSizeIp6 + kind.maxExtraSize
    let (packed, groupAnnounces) := packGroupAnnounces onionA.groupAnnounces env.now request.extra
      (responseSize - offset)
    (packed, { onionA with groupAnnounces })

def responseData (kind : AnnounceKind) (request : AnnounceRequest) (encrypted : Bytes) : Bytes :=
  kind.responsePacketId :: (request.sendback ++ (env.randomNonce.toList ++ encrypted))

/-- `handle_announce_request_common` after the request was decrypted. -/
def answerRequest (kind : AnnounceKind) (source : IPPort) (request : AnnounceRequest) :
    AnnounceOutcome × OnionAnnounce :=
  let answered := (onionA.findEntry hmac env source request).2
  match onionA.packedNodes source request with
  | none => (.ignored, answered)
  | some nodes =>
    let head := onionA.responseHead hmac env kind source request nodes
    match answered.extraData env kind request head.length with
    | (none, onionA) => (.ignored, onionA)
    | (some extra, onionA) =>
      match cipher.encryptDataSymmetric request.sharedKey env.randomNonce (head ++ extra) with
      | none => (.ignored, onionA)
      | some encrypted =>
        let data := responseData env kind request encrypted
        if data.length > onionAnnounceResponseMaxSize then (.overrun data.length, onionA)
        else
          match sendOnionResponse data request.ret with
          | none => (.ignored, onionA)
          | some packet =>
            match onionSendpacket source packet with
            | .sent dest packet => (.sent dest packet, onionA)
            | _ => (.ignored, onionA)

def handleAnnounceRequestCommon (kind : AnnounceKind) (source : IPPort) (packet : Bytes)
    (plainSize : Nat) : AnnounceOutcome × OnionAnnounce :=
  match onionA.decryptRequest box cipher env packet plainSize with
  | (none, onionA) => (.ignored, onionA)
  | (some request, onionA) => onionA.answerRequest hmac cipher env kind source request

def handleGcaAnnounceRequest (source : IPPort) (packet : Bytes) : AnnounceOutcome × OnionAnnounce :=
  if packet.length > announceRequestMaxSizeRecv ∨ packet.length ≤ announceRequestMinSizeRecv then
    (.ignored, onionA)
  else
    onionA.handleAnnounceRequestCommon hmac box cipher env .group source packet
      (onionMinimalSize + packet.length - announceRequestMinSizeRecv)

def handleAnnounceRequest (source : IPPort) (packet : Bytes) : AnnounceOutcome × OnionAnnounce :=
  if packet.length ≠ announceRequestMinSizeRecv then
    onionA.handleGcaAnnounceRequest hmac box cipher env source packet
  else
    onionA.handleAnnounceRequestCommon hmac box cipher env .plain source packet
      (onionPingIdSize + cryptoPublicKeySize * 2 + onionAnnounceSendbackDataLength)

def handleAnnounceRequestOld (source : IPPort) (packet : Bytes) : AnnounceOutcome × OnionAnnounce :=
  if packet.length ≠ announceRequestMinSizeRecv then (.ignored, onionA)
  else
    onionA.handleAnnounceRequestCommon hmac box cipher env .old source packet
      (onionPingIdSize + cryptoPublicKeySize * 2 + onionAnnounceSendbackDataLength)

end OnionAnnounce

end Toxcore

import Toxcore.Native.DHT

/-!
# Saving and loading the DHT

`dht_size`, `dht_save` and `dht_load`.  The saved state has one section with packed nodes.
The lengths of `pack_nodes` and `unpack_nodes` are 16-bit numbers, and longer ones are cut
off.
-/

namespace Toxcore

def dhtStateCookieGlobal : UInt32 := 0x159000d

def dhtStateCookieType : UInt16 := 0x11ce

def dhtStateTypeNodes : UInt16 := 4

def maxSavedDhtNodes : Nat := (dhtFakeFriendNumber * maxFriendClients + lclientList) * 2

/-- The nodes that `dht_save` stores for one entry of a client list. -/
def clientNodes (client : ClientData) : List NodeFormat :=
  (if client.assoc4.timestamp ≠ 0 then
    [{ publicKey := client.publicKey, ipPort := client.assoc4.ipPort }] else []) ++
  (if client.assoc6.timestamp ≠ 0 then
    [{ publicKey := client.publicKey, ipPort := client.assoc6.ipPort }] else [])

namespace DHT

/-- The entries whose addresses are saved: those of the close list and of the fake friends. -/
def savedClients (dht : DHT) : List ClientData :=
  dht.closeClientlist ++ (dht.friends.take dhtFakeFriendNumber).flatMap (·.clientList)

/-- The array `clients` of `dht_save`. -/
def savedNodes (dht : DHT) : List NodeFormat :=
  dht.loadedNodesList ++ dht.savedClients.flatMap clientNodes

def dhtSize (dht : DHT) : UInt32 :=
  let numv4 := dht.loadedNodesList.countP (·.ipPort.isIpv4) + dht.savedClients.countP (·.assoc4.timestamp != 0)
  let numv6 := dht.loadedNodesList.countP (·.ipPort.isIpv6) + dht.savedClients.countP (·.assoc6.timestamp != 0)
  UInt32.ofNat (4 + sizeHead + packedNodeSizeIp4 * numv4 + packedNodeSizeIp6 * numv6)

/-- `dht_save`: the bytes, where `calloc` is whether the array is allocated; `none` is a write past its end. -/
def dhtSave (dht : DHT) (calloc : Bool) : Option Bytes :=
  let cookie := hostToLendianBytes32 dhtStateCookieGlobal
  if !calloc then some (cookie ++ stateWriteSectionHeader dhtStateCookieType 0 0)
  else
    let clients := dht.savedNodes
    if clients.length > maxSavedDhtNodes then none
    else
      let (len, packed) := packNodes (UInt16.ofNat (sizeofNodeFormat * clients.length)) clients
      -- the result `-1` of `pack_nodes` becomes the largest length
      let len32 : UInt32 := match len with
        | none => 0xFFFFFFFF
        | some len => UInt32.ofNat len
      some (cookie ++ stateWriteSectionHeader dhtStateCookieType len32 dhtStateTypeNodes.toUInt32 ++ packed)

def dhtLoadStateCallback (calloc : Bool) (dht : DHT) (data : Bytes) (type : UInt16) :
    StateLoadStatus × DHT :=
  if type = dhtStateTypeNodes then
    if data.length = 0 then (.continue, dht)
    else if !calloc then (.continue, { dht with loadedNodesList := [] })
    else
      match unpackNodes (UInt16.ofNat maxSavedDhtNodes) data (UInt16.ofNat data.length) false with
      | none => (.continue, { dht with loadedNodesList := [] })
      | some (nodes, _) => (.continue, { dht with loadedNodesList := nodes })
  else (.continue, dht)

def dhtLoad (dht : DHT) (calloc : Bool) (data : Bytes) : Bool × DHT :=
  if data.length > 4 then
    if lendianBytesToHost32 data = dhtStateCookieGlobal then
      stateLoad (dhtLoadStateCallback calloc) dht (data.drop 4) dhtStateCookieType
    else (false, dht)
  else (false, dht)

end DHT

end Toxcore

import Toxcore.Native.NodeFormat
import Toxcore.Native.PingArray

/-!
# Announces of groups

`group_announce.c`: the peers of public groups that were announced, kept for each group in a ring of
`GCA_MAX_SAVED_ANNOUNCES_PER_GC` entries, and their wire format.  Allocations do not fail, and the
lengths of data are below `2 ^ 16`.
-/

namespace Toxcore

def gcaMaxSavedAnnouncesPerGc : Nat := 16

def gcaMaxAnnouncedTcpRelays : UInt16 := 1

def gcaMaxSentAnnounces : Nat := 4

def gcaAnnounceMaxSize : Nat := cryptoPublicKeySize + 1 + 1 + packedNodeSizeIp6 * 2

def gcaAnnounceSaveTimeout : UInt64 := 30

def gcaDoGcaTimeout : UInt64 := 1

/-- `GC_Announce`, with the relays in use, and with an address when `ip_port_is_set`. -/
structure GCAnnounce where
  tcpRelays : List NodeFormat
  ipPort : Option IPPort
  peerPublicKey : PublicKey
deriving DecidableEq

/-- `sizeof(GC_Announce)`: a `Node_format`, the two flags with their padding, an `IP_Port` and a
    key. -/
def sizeofGcAnnounce : Nat := sizeofNodeFormat + 8 + 32 + cryptoPublicKeySize

structure GCPublicAnnounce where
  baseAnnounce : GCAnnounce
  chatPublicKey : PublicKey
deriving DecidableEq

structure GCPeerAnnounce where
  baseAnnounce : GCAnnounce
  timestamp : UInt64
deriving DecidableEq

/-- An entry of zero bytes. -/
def zeroPeerAnnounce : GCPeerAnnounce where
  baseAnnounce := { tcpRelays := [], ipPort := none, peerPublicKey := Vector.replicate _ 0 }
  timestamp := 0

structure GCAnnounces where
  chatId : PublicKey
  index : UInt64
  lastAnnounceReceivedTimestamp : UInt64
  peerAnnounces : List GCPeerAnnounce

/-- `GC_Announces_List`; the links between the groups are the order of the list. -/
structure GCAnnouncesList where
  announces : List GCAnnounces
  lastTimeoutCheck : UInt64

def newGcaList : GCAnnouncesList := { announces := [], lastTimeoutCheck := 0 }

def gcaIsValidAnnounce (announce : GCAnnounce) : Bool :=
  announce.tcpRelays.length > 0 || announce.ipPort.isSome

/-! ## Wire format -/

def gcaPackIpPort (length : Nat) (announce : GCAnnounce) : Option Bytes :=
  match announce.ipPort with
  | none => some []
  | some ipPort => packIpPort length ipPort

def gcaPackAnnounce (length : Nat) (announce : GCAnnounce) : Option Bytes :=
  if length < gcaAnnounceMaxSize then none
  else
    let header := announce.peerPublicKey.toList ++
      [if announce.ipPort.isSome then 1 else 0, UInt8.ofNat announce.tcpRelays.length]
    if announce.ipPort.isNone && announce.tcpRelays.length == 0 then none
    else
      match gcaPackIpPort (length - header.length) announce with
      | none => none
      | some ipPort =>
        match packNodes (UInt16.ofNat (length - header.length - ipPort.length)) announce.tcpRelays with
        | (none, _) => none
        | (some _, nodes) => some (header ++ ipPort ++ nodes)

/-- The address in `gca_unpack_announce` and the bytes after it; `none` is `-1`. -/
def gcaUnpackIpPort (ipPortIsSet : Bool) (data : Bytes) : Option (Option IPPort × Bytes) :=
  if ipPortIsSet then
    if data.length = 0 then none
    else (unpackIpPort data false).map fun (ipPort, rest) => (some ipPort, rest)
  else some (none, data)

def gcaUnpackAnnounce (data : Bytes) : Option (GCAnnounce × Bytes) :=
  if data.length < cryptoPublicKeySize + 2 then none
  else
    let peerPublicKey : PublicKey := bytesToVector _ data
    let ipPortIsSet := data.getD cryptoPublicKeySize 0 != 0
    let tcpRelaysCount := (data.getD (cryptoPublicKeySize + 1) 0).toNat
    if tcpRelaysCount > gcaMaxAnnouncedTcpRelays.toNat then none
    else
      match gcaUnpackIpPort ipPortIsSet (data.drop (cryptoPublicKeySize + 2)) with
      | none => none
      | some (ipPort, rest) =>
        match unpackNodes (UInt16.ofNat tcpRelaysCount) rest (UInt16.ofNat rest.length) true with
        | none => none
        | some (tcpRelays, nodesLength) =>
          if tcpRelays.length ≠ tcpRelaysCount then none
          else some ({ tcpRelays, ipPort, peerPublicKey }, rest.drop nodesLength.toNat)

def gcaUnpackPublicAnnounce (data : Bytes) : Option GCPublicAnnounce :=
  if data.length < cryptoPublicKeySize then none
  else
    (gcaUnpackAnnounce (data.drop cryptoPublicKeySize)).map fun (baseAnnounce, _) =>
      { baseAnnounce, chatPublicKey := bytesToVector _ data }

def gcaPackAnnouncesList (length : Nat) : List GCAnnounce → Option Bytes
  | [] => some []
  | announce :: announces =>
    match gcaPackAnnounce length announce with
    | none => none
    | some packed =>
      match gcaPackAnnouncesList (length - packed.length) announces with
      | none => none
      | some rest => some (packed ++ rest)

def gcaUnpackAnnouncesList : (maxCount : Nat) → Bytes → Option (List GCAnnounce)
  | 0, _ => some []
  | maxCount + 1, data =>
    if data.length = 0 then some []
    else
      match gcaUnpackAnnounce data with
      | none => none
      | some (announce, rest) =>
        match gcaUnpackAnnouncesList maxCount rest with
        | none => none
        | some announces => some (announce :: announces)

/-! ## The list -/

namespace GCAnnouncesList

def getAnnouncesByChatId (list : GCAnnouncesList) (chatId : PublicKey) : Option GCAnnounces :=
  list.announces.find? (·.chatId == chatId)

/-- The loop of `gca_get_announces` after `added`. -/
def getAnnouncesLoop (maxNodes : Nat) (exceptPublicKey : PublicKey) :
    List GCPeerAnnounce → (added : List GCAnnounce) → List GCAnnounce
  | [], added => added
  | peer :: peers, added =>
    let announce := peer.baseAnnounce
    if ¬added.length < maxNodes then added
    else if exceptPublicKey = announce.peerPublicKey then
      getAnnouncesLoop maxNodes exceptPublicKey peers added
    else if added.any (·.peerPublicKey == announce.peerPublicKey) then
      getAnnouncesLoop maxNodes exceptPublicKey peers added
    else getAnnouncesLoop maxNodes exceptPublicKey peers (added ++ [announce])

def gcaGetAnnounces (list : GCAnnouncesList) (maxNodes : Nat) (chatId exceptPublicKey : PublicKey) :
    List GCAnnounce :=
  match list.getAnnouncesByChatId chatId with
  | none => []
  | some announces =>
    getAnnouncesLoop maxNodes exceptPublicKey (announces.peerAnnounces.take announces.index.toNat) []

/-- `gca_add_announce` for a group that has an entry. -/
def addTo (curTime : UInt64) (announce : GCAnnounce) (announces : GCAnnounces) : GCAnnounces :=
  { announces with
    lastAnnounceReceivedTimestamp := curTime
    peerAnnounces := announces.peerAnnounces.set
      (announces.index % UInt64.ofNat gcaMaxSavedAnnouncesPerGc).toNat
      { baseAnnounce := announce, timestamp := curTime }
    index := announces.index + 1 }

def gcaAddAnnounce (list : GCAnnouncesList) (curTime : UInt64) (publicAnnounce : GCPublicAnnounce) :
    GCAnnouncesList :=
  let add := addTo curTime publicAnnounce.baseAnnounce
  match list.announces.findIdx? (·.chatId == publicAnnounce.chatPublicKey) with
  | some i => { list with announces := list.announces.modify i add }
  | none =>
    { list with
      announces := add
        { chatId := publicAnnounce.chatPublicKey
          index := 0
          lastAnnounceReceivedTimestamp := 0
          peerAnnounces := List.replicate gcaMaxSavedAnnouncesPerGc zeroPeerAnnounce } ::
        list.announces }

def doGca (list : GCAnnouncesList) (now : UInt64) : GCAnnouncesList :=
  if !monoTimeIsTimeout now list.lastTimeoutCheck gcaDoGcaTimeout then list
  else
    { lastTimeoutCheck := now
      announces := list.announces.filter fun announces =>
        !monoTimeIsTimeout now announces.lastAnnounceReceivedTimestamp gcaAnnounceSaveTimeout }

def cleanupGca (list : GCAnnouncesList) (chatId : PublicKey) : GCAnnouncesList :=
  match list.announces.findIdx? (·.chatId == chatId) with
  | none => list
  | some i => { list with announces := list.announces.eraseIdx i }

end GCAnnouncesList

end Toxcore

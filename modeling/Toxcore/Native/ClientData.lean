import Mathlib.Data.List.Sort
import Toxcore.Native.NodeFormat
import Toxcore.Native.PingArray

/-!
# Client lists of the DHT

The entries of `close_clientlist` and of the `client_list` of a DHT friend, and the
functions of `DHT.c` that search, update and sort one such list.  `qsort` is a stable sort.
-/

namespace Toxcore

def maxFriendClients : Nat := 8

def lclientNodes : Nat := maxFriendClients

def lclientLength : Nat := 128

def lclientList : Nat := lclientLength * lclientNodes

def maxSentNodes : Nat := 4

def pingInterval : UInt64 := 60

def badNodeTimeout : UInt64 := pingInterval + 1 * (pingInterval + 2)

structure IPPTsPng where
  ipPort : IPPort
  timestamp : UInt64
  lastPinged : UInt64
  retIpPort : IPPort
  retTimestamp : UInt64
  retIpSelf : Bool
deriving DecidableEq

def emptyIpptspng : IPPTsPng where
  ipPort := emptyIpPort
  timestamp := 0
  lastPinged := 0
  retIpPort := emptyIpPort
  retTimestamp := 0
  retIpSelf := false

structure ClientData where
  publicKey : PublicKey
  assoc4 : IPPTsPng
  assoc6 : IPPTsPng
  announceNode : Bool
deriving DecidableEq

/-- An entry of a list after `calloc`. -/
def emptyClientData : ClientData where
  publicKey := Vector.replicate _ 0
  assoc4 := emptyIpptspng
  assoc6 := emptyIpptspng
  announceNode := false

def assocTimeout (curTime : UInt64) (assoc : IPPTsPng) : Bool :=
  assoc.timestamp + badNodeTimeout ≤ curTime

/-! ## Distances between keys -/

/-- Result of `id_closest`. -/
inductive Closest where
  /-- `0`: both are at the same distance. -/
  | same
  /-- `1`: the first key is closer. -/
  | first
  /-- `2`: the second key is closer. -/
  | second
deriving DecidableEq

def idClosestLoop : Bytes → Bytes → Bytes → Closest
  | b :: pk, b₁ :: pk₁, b₂ :: pk₂ =>
    if b ^^^ b₁ < b ^^^ b₂ then .first
    else if b ^^^ b₁ > b ^^^ b₂ then .second
    else idClosestLoop pk pk₁ pk₂
  | _, _, _ => .same

def idClosest (pk pk₁ pk₂ : PublicKey) : Closest := idClosestLoop pk.toList pk₁.toList pk₂.toList

/-- The first bit, from the most significant one on, in which two bytes differ. -/
def firstUnequalBit (b₁ b₂ : UInt8) : Nat :=
  ((List.range 8).find? fun j => b₁ &&& (1 <<< UInt8.ofNat (7 - j)) !=
    b₂ &&& (1 <<< UInt8.ofNat (7 - j))).getD 8

def bitByBitCmpLoop : (i : Nat) → Bytes → Bytes → Nat
  | i, b₁ :: pk₁, b₂ :: pk₂ =>
    if b₁ = b₂ then bitByBitCmpLoop (i + 1) pk₁ pk₂ else i * 8 + firstUnequalBit b₁ b₂
  | i, _, _ => i * 8

def bitByBitCmp (pk₁ pk₂ : PublicKey) : Nat := bitByBitCmpLoop 0 pk₁.toList pk₂.toList

/-! ## Searching -/

/-- `index_of_client_pk`; `none` is `UINT32_MAX`. -/
def indexOfClientPk (list : List ClientData) (pk : PublicKey) : Option Nat :=
  list.findIdx? fun client => client.publicKey == pk

def indexOfNodePk (list : List NodeFormat) (pk : PublicKey) : Option Nat :=
  list.findIdx? fun node => node.publicKey == pk

def indexOfClientIpPort (list : List ClientData) (ipPort : IPPort) : Option Nat :=
  list.findIdx? fun client =>
    (ipPort.isIpv4 && ipportEqual client.assoc4.ipPort ipPort) ||
      (ipPort.isIpv6 && ipportEqual client.assoc6.ipPort ipPort)

/-! ## Updating -/

/-- Change the entry at an index. -/
def updateAt (list : List ClientData) (index : Nat) (f : ClientData → ClientData) :
    List ClientData :=
  list.modify index f

/-- The part of `update_client` for one address family. -/
def updateAssoc (now : UInt64) (ipPort : IPPort) (assoc : IPPTsPng) : IPPTsPng :=
  if !ipIsLan assoc.ipPort && ipIsLan ipPort then assoc
  else { assoc with ipPort, timestamp := now }

def updateClient (now : UInt64) (ipPort : IPPort) (client : ClientData) : ClientData :=
  if ipPort.isIpv4 then { client with assoc4 := updateAssoc now ipPort client.assoc4 }
  else if ipPort.isIpv6 then { client with assoc6 := updateAssoc now ipPort client.assoc6 }
  else client

/-- The end of `client_or_ip_port_in_list`: the entry is taken over for a new key. `assoc` is still the address of
    this family, not the other one. -/
def takeOver (now : UInt64) (publicKey : PublicKey) (ipPort : IPPort) (client : ClientData) :
    ClientData :=
  if ipPort.isIpv4 then
    let client := { client with assoc4 := { client.assoc4 with timestamp := now }, publicKey }
    { client with assoc4 := emptyIpptspng }
  else
    let client := { client with assoc6 := { client.assoc6 with timestamp := now }, publicKey }
    { client with assoc6 := emptyIpptspng }

def clientOrIpPortInList (now : UInt64) (list : List ClientData) (publicKey : PublicKey)
    (ipPort : IPPort) : Bool × List ClientData :=
  match indexOfClientPk list publicKey with
  | some index => (true, updateAt list index (updateClient now ipPort))
  | none =>
    match indexOfClientIpPort list ipPort with
    | none => (false, list)
    | some index => (true, updateAt list index (takeOver now publicKey ipPort))

/-- The written association of `update_client_with_reset`. -/
def resetAssoc (now : UInt64) (ipPort : IPPort) (assoc : IPPTsPng) : IPPTsPng :=
  { assoc with
    ipPort
    timestamp := now
    retIpPort := { assoc.retIpPort with
      family := toxAfUnspec, ip := Vector.replicate _ 0, port := 0 }
    retTimestamp := 0
    retIpSelf := false }

def updateClientWithReset (now : UInt64) (ipPort : IPPort) (client : ClientData) : ClientData :=
  if ipPort.isIpv4 then
    { client with assoc4 := resetAssoc now ipPort client.assoc4, assoc6 := emptyIpptspng }
  else
    { client with assoc6 := resetAssoc now ipPort client.assoc6, assoc4 := emptyIpptspng }

def storeNodeOk (client : ClientData) (curTime : UInt64) (publicKey compPublicKey : PublicKey) :
    Bool :=
  (assocTimeout curTime client.assoc4 && assocTimeout curTime client.assoc6) ||
    idClosest compPublicKey client.publicKey publicKey == .second

def dhtCmpEntryLe (curTime : UInt64) (basePublicKey : PublicKey) (entry₁ entry₂ : ClientData) :
    Bool :=
  let t₁ := assocTimeout curTime entry₁.assoc4 && assocTimeout curTime entry₁.assoc6
  let t₂ := assocTimeout curTime entry₂.assoc4 && assocTimeout curTime entry₂.assoc6
  if t₁ then true
  else if t₂ then false
  else idClosest basePublicKey entry₁.publicKey entry₂.publicKey != .first

def sortClientList (list : List ClientData) (curTime : UInt64) (compPublicKey : PublicKey)
    (calloc : Bool) : List ClientData :=
  if !calloc then list
  else list.insertionSort fun entry₁ entry₂ => dhtCmpEntryLe curTime compPublicKey entry₁ entry₂

def replaceAll (now curTime : UInt64) (calloc : Bool) (list : List ClientData)
    (publicKey : PublicKey) (ipPort : IPPort) (compPublicKey : PublicKey) :
    Bool × List ClientData :=
  if !ipPort.isIpv4 && !ipPort.isIpv6 then (false, list)
  else if !(list[1]?.any (storeNodeOk · curTime publicKey compPublicKey)) &&
      !(list[0]?.any (storeNodeOk · curTime publicKey compPublicKey)) then (false, list)
  else
    let list := sortClientList list curTime compPublicKey calloc
    (true, updateAt list 0 fun client =>
      updateClientWithReset now ipPort { client with publicKey })

def isPkInClientList (list : List ClientData) (curTime : UInt64) (publicKey : PublicKey)
    (ipPort : IPPort) : Bool :=
  match indexOfClientPk list publicKey with
  | none => false
  | some index =>
    list[index]?.any fun client =>
      !assocTimeout curTime (if ipPort.isIpv4 then client.assoc4 else client.assoc6)

/-- The association part of `update_client_data`. -/
def returnAssoc (now : UInt64) (ipPort : IPPort) (nodeIsSelf : Bool) (assoc : IPPTsPng) :
    IPPTsPng :=
  { assoc with retIpPort := ipPort, retTimestamp := now, retIpSelf := nodeIsSelf }

def updateClientData (now : UInt64) (list : List ClientData) (ipPort : IPPort) (pk : PublicKey)
    (nodeIsSelf : Bool) : Bool × List ClientData :=
  match indexOfClientPk list pk with
  | none => (false, list)
  | some index =>
    (true, updateAt list index fun client =>
      if ipPort.isIpv4 then
        { client with assoc4 := returnAssoc now ipPort nodeIsSelf client.assoc4 }
      else if ipPort.isIpv6 then
        { client with assoc6 := returnAssoc now ipPort nodeIsSelf client.assoc6 }
      else client)

def setAnnounceNodeInList (list : List ClientData) (publicKey : PublicKey) : List ClientData :=
  match indexOfClientPk list publicKey with
  | none => list
  | some index => updateAt list index fun client => { client with announceNode := true }

/-! ## Lists of close nodes -/

/-- `add_to_list`.  Each recursive call works on a later index, so the length of the list is
    enough fuel. -/
def addToListLoop (cmpPk : PublicKey) : (fuel : Nat) → List NodeFormat → NodeFormat → Bool × List NodeFormat
  | 0, nodesList, _ => (false, nodesList)
  | fuel + 1, nodesList, node =>
    match nodesList.findIdx? fun n => idClosest cmpPk n.publicKey node.publicKey == .second with
    | none => (false, nodesList)
    | some i =>
      match nodesList[i]? with
      | none => (false, nodesList)
      | some bak =>
        let nodesList := nodesList.set i node
        if i ≠ nodesList.length - 1 then (true, (addToListLoop cmpPk fuel nodesList bak).2)
        else (true, nodesList)

def addToList (nodesList : List NodeFormat) (node : NodeFormat) (cmpPk : PublicKey) :
    Bool × List NodeFormat :=
  addToListLoop cmpPk nodesList.length nodesList node

/-- The array that `get_close_nodes` fills, and the number of nodes in it. -/
structure NodesList where
  nodes : List NodeFormat
  num : Nat
deriving DecidableEq

/-- The array after `memset`. -/
def NodesList.zero : NodesList := { nodes := List.replicate maxSentNodes emptyNodeFormat, num := 0 }

/-- The association that `get_close_nodes_inner` looks at. -/
def closeNodesAssoc (saFamily : UInt8) (client : ClientData) : IPPTsPng :=
  if saFamily = toxAfInet then client.assoc4
  else if saFamily = toxAfInet6 then client.assoc6
  else if client.assoc4.timestamp ≥ client.assoc6.timestamp then client.assoc4
  else client.assoc6

/-- The loop body of `get_close_nodes_inner`. -/
def closeNodesStep (curTime : UInt64) (publicKey : PublicKey) (saFamily : UInt8)
    (isLan wantAnnounce : Bool) (list : NodesList) (client : ClientData) : NodesList :=
  if (indexOfNodePk list.nodes client.publicKey).isSome then list
  else
    let ipptp := closeNodesAssoc saFamily client
    if assocTimeout curTime ipptp then list
    else if ipIsLan ipptp.ipPort && !isLan then list
    else if wantAnnounce && !client.announceNode then list
    else
      let node := { publicKey := client.publicKey, ipPort := ipptp.ipPort }
      if list.num < maxSentNodes then
        { nodes := list.nodes.set list.num node, num := list.num + 1 }
      else { list with nodes := (addToList list.nodes node publicKey).2 }

def getCloseNodesInner (curTime : UInt64) (publicKey : PublicKey) (list : NodesList)
    (saFamily : UInt8) (clientList : List ClientData) (isLan wantAnnounce : Bool) : NodesList :=
  if saFamily ≠ toxAfInet ∧ saFamily ≠ toxAfInet6 ∧ saFamily ≠ toxAfUnspec then list
  else clientList.foldl (closeNodesStep curTime publicKey saFamily isLan wantAnnounce) list

end Toxcore

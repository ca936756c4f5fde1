import Toxcore.Native.Network

/-!
# Packed nodes

`Node_format` of `DHT.h` and its wire format: `pack_ip_port`, `unpack_ip_port`,
`pack_nodes` and `unpack_nodes`.  The lengths that the source passes as `uint16_t` are
`UInt16` here.  The functions that write to a buffer return the bytes they wrote.
-/

namespace Toxcore

/-- `TOX_TCP_INET`: the wire value of `net_family_tcp_ipv4`. -/
def toxTcpInet : UInt8 := 130

/-- `TOX_TCP_INET6`: the wire value of `net_family_tcp_ipv6`. -/
def toxTcpInet6 : UInt8 := 138

def sizeIp4 : Nat := 4

def sizeIp6 : Nat := 16

def packedNodeSizeIp4 : Nat := 1 + sizeIp4 + 2 + cryptoPublicKeySize

def packedNodeSizeIp6 : Nat := 1 + sizeIp6 + 2 + cryptoPublicKeySize

structure NodeFormat where
  publicKey : PublicKey
  ipPort : IPPort
deriving DecidableEq

def emptyNodeFormat : NodeFormat := { publicKey := Vector.replicate _ 0, ipPort := emptyIpPort }

/-- `sizeof(Node_format)`: the key, and the `IP_Port` with its padding. -/
def sizeofNodeFormat : Nat := cryptoPublicKeySize + 32

def packedNodeSize (ipPort : IPPort) : Option Nat :=
  if ipPort.isIpv4 || ipPort.isTcpIpv4 then some packedNodeSizeIp4
  else if ipPort.isIpv6 || ipPort.isTcpIpv6 then some packedNodeSizeIp6
  else none

/-- `memcpy` into an array of `n` bytes; missing bytes are zero. -/
def bytesToVector (n : Nat) (data : Bytes) : Vector UInt8 n :=
  Vector.ofFn fun i => data.getD i 0

theorem toList_bytesToVector {n : Nat} {data : Bytes} (h : n ≤ data.length) :
    (bytesToVector n data).toList = data.take n := by
  apply List.ext_getElem?
  intro i
  by_cases hi : i < n
  · have hi' : i < data.length := by omega
    simp [bytesToVector, hi, hi']
  · simp [hi]

theorem bytesToVector_toList_append {n : Nat} (v : Vector UInt8 n) (rest : Bytes) :
    bytesToVector n (v.toList ++ rest) = v := by
  ext i hi
  simp only [bytesToVector, Vector.getElem_ofFn, List.getD_eq_getElem?_getD]
  rw [List.getElem?_append_left (by simpa using hi)]
  simp [hi]

/-- The two bytes of a port, in network order. -/
def packPort (port : UInt16) : Bytes :=
  [UInt8.ofNat (port.toNat / 2 ^ 8), UInt8.ofNat port.toNat]

/-- The port with these two bytes. -/
def unpackPort (data : Bytes) : UInt16 :=
  UInt16.ofNat ((data.getD 0 0).toNat * 2 ^ 8 + (data.getD 1 0).toNat)

def packIpPort (length : Nat) (ipPort : IPPort) : Option Bytes :=
  let pack (family : UInt8) (ip : Bytes) : Option Bytes :=
    if 1 + ip.length + 2 > length then none else some (family :: ip ++ packPort ipPort.port)
  if ipPort.isIpv4 then pack toxAfInet ipPort.v4
  else if ipPort.isTcpIpv4 then pack toxTcpInet ipPort.v4
  else if ipPort.isIpv6 then pack toxAfInet6 ipPort.v6
  else if ipPort.isTcpIpv6 then pack toxTcpInet6 ipPort.v6
  else none

def unpackIpPort (data : Bytes) (tcpEnabled : Bool) : Option (IPPort × Bytes) :=
  let unpack (family : UInt8) (size : Nat) (rest : Bytes) : Option (IPPort × Bytes) :=
    if size + 2 > rest.length then none
    else
      some ({ emptyIpPort with
              family
              ip := bytesToVector 16 (rest.take size)
              port := unpackPort (rest.drop size) }, rest.drop (size + 2))
  match data with
  | [] => none
  | family :: rest =>
    if family = toxAfInet then unpack toxAfInet sizeIp4 rest
    else if family = toxTcpInet then
      if !tcpEnabled then none else unpack tcpInet sizeIp4 rest
    else if family = toxAfInet6 then unpack toxAfInet6 sizeIp6 rest
    else if family = toxTcpInet6 then
      if !tcpEnabled then none else unpack tcpInet6 sizeIp6 rest
    else none

def packNodesLoop (length : Nat) : List NodeFormat → (written : Bytes) → Option Nat × Bytes
  | [], written => (some written.length, written)
  | node :: nodes, written =>
    if ¬written.length < length then (some written.length, written)
    else
      match packIpPort (length - written.length) node.ipPort with
      | none => (none, written)
      | some ipp =>
        if written.length + ipp.length + cryptoPublicKeySize > length then (none, written ++ ipp)
        else packNodesLoop length nodes (written ++ ipp ++ node.publicKey.toList)

def packNodes (length : UInt16) (nodes : List NodeFormat) : Option Nat × Bytes :=
  packNodesLoop length.toNat nodes []

def unpackNodesLoop (tcpEnabled : Bool) : (maxNumNodes : Nat) → Bytes → Option (List NodeFormat × Bytes)
  | 0, data => some ([], data)
  | maxNumNodes + 1, data =>
    if data.length = 0 then some ([], data)
    else
      match unpackIpPort data tcpEnabled with
      | none => none
      | some (ipPort, rest) =>
        if cryptoPublicKeySize > rest.length then none
        else
          match unpackNodesLoop tcpEnabled maxNumNodes (rest.drop cryptoPublicKeySize) with
          | none => none
          | some (nodes, left) =>
            some ({ publicKey := bytesToVector _ rest, ipPort } :: nodes, left)

def unpackNodes (maxNumNodes : UInt16) (data : Bytes) (length : UInt16) (tcpEnabled : Bool) :
    Option (List NodeFormat × UInt16) :=
  match unpackNodesLoop tcpEnabled maxNumNodes.toNat (data.take length.toNat) with
  | none => none
  | some (nodes, left) => some (nodes, length - UInt16.ofNat left.length)

end Toxcore

import Toxcore.ForStd.LittleEndian
import Toxcore.Native.CryptoCore

/-!
# Addresses

`IP_Port` of `network.h` with the comparisons of `network.c` and the LAN test of
`LAN_discovery.c`.  The `IP_Union` is its sixteen raw bytes (an IPv4 address is the
first four of them) and the padding of the C structure is kept, because `net_crypto.c`
compares addresses with `memcmp`.  The last part has the numbers in packets, `net_pack_u16` and the
others.
-/

namespace Toxcore

def toxAfUnspec : UInt8 := 0

/-- `TOX_AF_INET`, also the host value of `net_family_ipv4`. -/
def toxAfInet : UInt8 := 2

/-- `TOX_AF_INET6`, also the host value of `net_family_ipv6`. -/
def toxAfInet6 : UInt8 := 10

/-- `TCP_INET`: the host value of `net_family_tcp_ipv4`. -/
def tcpInet : UInt8 := 12

/-- `TCP_INET6`: the host value of `net_family_tcp_ipv6`. -/
def tcpInet6 : UInt8 := 13

/-- `IP_Port`.  The port is the number whose big-endian bytes are stored. -/
structure IPPort where
  family : UInt8
  ip : Vector UInt8 16
  port : UInt16
  padding : Vector UInt8 13
deriving DecidableEq

def emptyIpPort : IPPort :=
  { family := toxAfUnspec, ip := Vector.replicate 16 0, port := 0,
    padding := Vector.replicate 13 0 }

namespace IPPort

def isUnspec (ipPort : IPPort) : Bool := ipPort.family == toxAfUnspec

def isIpv4 (ipPort : IPPort) : Bool := ipPort.family == toxAfInet

def isIpv6 (ipPort : IPPort) : Bool := ipPort.family == toxAfInet6

def isTcpIpv4 (ipPort : IPPort) : Bool := ipPort.family == tcpInet

def isTcpIpv6 (ipPort : IPPort) : Bool := ipPort.family == tcpInet6

def v4 (ipPort : IPPort) : Bytes := ipPort.ip.toList.take 4

def v6 (ipPort : IPPort) : Bytes := ipPort.ip.toList

/-- What `memcmp` compares: the family and its padding, the union, the port and the padding behind it. -/
def bytes (ipPort : IPPort) : Bytes :=
  ipPort.family :: ipPort.padding.toList.take 7 ++ ipPort.ip.toList ++
    [UInt8.ofNat (ipPort.port.toNat / 2 ^ 8), UInt8.ofNat ipPort.port.toNat] ++
    ipPort.padding.toList.drop 7

end IPPort

/-- `ipv6_ipv4_in_v6`: the union holds an IPv4-mapped IPv6 address. -/
def ipv6Ipv4InV6 (ip : Bytes) : Bool :=
  ip.take 8 == List.replicate 8 0 && (ip.drop 8).take 4 == [0, 0, 0xff, 0xff]

def ipEqual (a b : IPPort) : Bool :=
  if a.family = b.family then
    if a.isIpv4 || a.isTcpIpv4 then a.v4 == b.v4
    else if a.isIpv6 || a.isTcpIpv6 then a.v6 == b.v6
    else false
  else if a.isIpv4 && b.isIpv6 then
    ipv6Ipv4InV6 b.v6 && a.v4 == b.v6.drop 12
  else if a.isIpv6 && b.isIpv4 then
    ipv6Ipv4InV6 a.v6 && a.v6.drop 12 == b.v4
  else false

def ipportEqual (a b : IPPort) : Bool :=
  if a.port = 0 ∨ a.port ≠ b.port then false else ipEqual a b

def ip4IsLocal : Bytes → Bool
  | b₀ :: _ => b₀ == 127
  | [] => false

def ipIsLocal (ipPort : IPPort) : Bool :=
  if ipPort.isIpv4 then ip4IsLocal ipPort.v4
  else if ipv6Ipv4InV6 ipPort.v6 then ip4IsLocal (ipPort.v6.drop 12)
  else ipPort.v6 == List.replicate 15 0 ++ [1]

def ip4IsLan : Bytes → Bool
  | b₀ :: b₁ :: b₂ :: _ =>
    b₀ == 10 || (b₀ == 172 && b₁ ≥ 16 && b₁ ≤ 31) || (b₀ == 192 && b₁ == 168) ||
      (b₀ == 169 && b₁ == 254 && b₂ != 0 && b₂ != 255) || (b₀ == 100 && b₁ &&& 0xC0 == 0x40)
  | _ => false

/-- The link-local and multicast ranges of `ip_is_lan`. -/
def ip6IsLinkLocal (ip : Bytes) : Bool :=
  (ip[0]? == some 0xFF && (ip[1]?.any (· < 3)) && ip[15]? == some 1) ||
    (ip[0]? == some 0xFE && (ip[1]?.any fun b => b &&& 0xC0 == 0x80))

def ipIsLan (ipPort : IPPort) : Bool :=
  if ipIsLocal ipPort then true
  else if ipPort.isIpv4 then ip4IsLan ipPort.v4
  else if ipPort.isIpv6 then
    if ip6IsLinkLocal ipPort.v6 then true
    else ipv6Ipv4InV6 ipPort.v6 && ip4IsLan (ipPort.v6.drop 12)
  else false

/-- `ip_port_normalize` of `DHT.c`; only the first four bytes of the union are rewritten. -/
def ipPortNormalize (ipPort : IPPort) : IPPort :=
  if ipPort.isIpv6 && ipv6Ipv4InV6 ipPort.v6 then
    { ipPort with
      family := toxAfInet
      ip := ⟨(ipPort.v6.drop 12 ++ ipPort.v6.drop 4).toArray, by
        simp [IPPort.v6]⟩ }
  else
    ipPort

/-! ## Numbers in packets -/

def netPackU16 (num : UInt16) : Bytes := (toLittleEndian 2 num.toNat).reverse

def netUnpackU16 (data : Bytes) : UInt16 := UInt16.ofNat (ofLittleEndian (data.take 2).reverse)

def netPackU32 (num : UInt32) : Bytes := (toLittleEndian 4 num.toNat).reverse

def netUnpackU32 (data : Bytes) : UInt32 := UInt32.ofNat (ofLittleEndian (data.take 4).reverse)

def netPackU64 (num : UInt64) : Bytes := (toLittleEndian 8 num.toNat).reverse

def netUnpackU64 (data : Bytes) : UInt64 := UInt64.ofNat (ofLittleEndian (data.take 8).reverse)

theorem ofLittleEndian_take_reverse_append (n value : Nat) (rest : Bytes) :
    ofLittleEndian (((toLittleEndian n value).reverse ++ rest).take n).reverse =
      value % 256 ^ n := by
  rw [List.take_left' (by simp), List.reverse_reverse, ofLittleEndian_toLittleEndian]

theorem netUnpackU16_netPackU16_append (num : UInt16) (rest : Bytes) :
    netUnpackU16 (netPackU16 num ++ rest) = num := by
  rw [netUnpackU16, netPackU16, ofLittleEndian_take_reverse_append,
    show 256 ^ 2 = 2 ^ 16 from rfl, Nat.mod_eq_of_lt num.toNat_lt, UInt16.ofNat_toNat]

theorem netUnpackU32_netPackU32_append (num : UInt32) (rest : Bytes) :
    netUnpackU32 (netPackU32 num ++ rest) = num := by
  rw [netUnpackU32, netPackU32, ofLittleEndian_take_reverse_append,
    show 256 ^ 4 = 2 ^ 32 from rfl, Nat.mod_eq_of_lt num.toNat_lt, UInt32.ofNat_toNat]

theorem netUnpackU64_netPackU64_append (num : UInt64) (rest : Bytes) :
    netUnpackU64 (netPackU64 num ++ rest) = num := by
  rw [netUnpackU64, netPackU64, ofLittleEndian_take_reverse_append,
    show 256 ^ 8 = 2 ^ 64 from rfl, Nat.mod_eq_of_lt num.toNat_lt, UInt64.ofNat_toNat]

theorem length_netPackU16 (num : UInt16) : (netPackU16 num).length = 2 := by simp [netPackU16]

theorem length_netPackU32 (num : UInt32) : (netPackU32 num).length = 4 := by simp [netPackU32]

theorem length_netPackU64 (num : UInt64) : (netPackU64 num).length = 8 := by simp [netPackU64]

end Toxcore

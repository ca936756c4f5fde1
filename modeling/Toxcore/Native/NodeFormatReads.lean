import Toxcore.Native.NodeFormat

/-!
# Reading packed nodes

`unpack_ip_port` and `unpack_nodes` as they read a buffer at an offset.  A read behind the end of the
buffer is `none`; the result of the source is inside.
-/

namespace Toxcore

def readBytes (data : Bytes) (offset size : Nat) : Option Bytes :=
  if offset + size ≤ data.length then some ((data.drop offset).take size) else none

/-- The address part of `unpack_ip_port`, with the size that was read. -/
def readAddress (data : Bytes) (offset length : Nat) (hostFamily : UInt8) (sizeIp : Nat) :
    Option (Option (IPPort × Nat)) :=
  if 1 + sizeIp + 2 > length then some none
  else
    match readBytes data (offset + 1) sizeIp, readBytes data (offset + 1 + sizeIp) 2 with
    | some ip, some port =>
      some (some ({ emptyIpPort with
                    family := hostFamily
                    ip := bytesToVector 16 ip
                    port := unpackPort port }, 1 + sizeIp + 2))
    | _, _ => none

def readIpPort (data : Bytes) (offset length : Nat) (tcpEnabled : Bool) : Option (Option (IPPort × Nat)) :=
  match data[offset]? with
  | none => none
  | some family =>
    if family = toxAfInet then readAddress data offset length toxAfInet sizeIp4
    else if family = toxTcpInet then
      if !tcpEnabled then some none else readAddress data offset length tcpInet sizeIp4
    else if family = toxAfInet6 then readAddress data offset length toxAfInet6 sizeIp6
    else if family = toxTcpInet6 then
      if !tcpEnabled then some none else readAddress data offset length tcpInet6 sizeIp6
    else some none

/-- The loop of `unpack_nodes`: the nodes and `len_processed`. -/
def readNodesLoop (data : Bytes) (length : Nat) (tcpEnabled : Bool) :
    (maxNumNodes lenProcessed : Nat) → Option (Option (List NodeFormat × Nat))
  | 0, lenProcessed => some (some ([], lenProcessed))
  | maxNumNodes + 1, lenProcessed =>
    if ¬lenProcessed < length then some (some ([], lenProcessed))
    else
      match readIpPort data lenProcessed (length - lenProcessed) tcpEnabled with
      | none => none
      | some none => some none
      | some (some (ipPort, ippSize)) =>
        if lenProcessed + ippSize + cryptoPublicKeySize > length then some none
        else
          match readBytes data (lenProcessed + ippSize) cryptoPublicKeySize with
          | none => none
          | some publicKey =>
            match readNodesLoop data length tcpEnabled maxNumNodes
                (lenProcessed + ippSize + cryptoPublicKeySize) with
            | none => none
            | some none => some none
            | some (some (nodes, processed)) =>
              some (some ({ publicKey := bytesToVector _ publicKey, ipPort } :: nodes, processed))

/-- `unpack_nodes` of a buffer of `length` bytes. -/
def readNodes (maxNumNodes : UInt16) (data : Bytes) (length : UInt16) (tcpEnabled : Bool) :
    Option (Option (List NodeFormat × UInt16)) :=
  match readNodesLoop data length.toNat tcpEnabled maxNumNodes.toNat 0 with
  | none => none
  | some none => some none
  | some (some (nodes, processed)) => some (some (nodes, UInt16.ofNat processed))

end Toxcore

import Toxcore.Native.GetNodes
import Toxcore.Native.NgcLoad

/-!
# Packing the saved peers of a group

The counterpart of `unpack_gc_saved_peers`: the address and the relay of an entry are written without a flag.
-/

namespace Toxcore

/-- `GC_SAVED_PEER_SIZE`: a key, a `Node_format` and an `IP_Port`. -/
def gcSavedPeerSize : Nat := cryptoPublicKeySize + 64 + 32

def savedPeerIsValid (peer : GCSavedPeerInfo) : Bool := ipportIsset peer.ipPort || ipportIsset peer.tcpRelay.ipPort

/-- The call of `pack_nodes` in `pack_gc_saved_peers`; `none` is a result that is not positive. -/
def packRelay (length : Nat) (relay : NodeFormat) : Option Bytes :=
  match packNodes (UInt16.ofNat length) [relay] with
  | (some n, bytes) => if n = 0 then none else some bytes
  | (none, _) => none

def packGcSavedPeersLoop (length : Nat) :
    List GCSavedPeerInfo → (packed : Bytes) → (count : Nat) → Option (Nat × Bytes)
  | [], packed, count => some (count, packed)
  | peer :: peers, packed, count =>
    if !savedPeerIsValid peer then packGcSavedPeersLoop length peers packed count
    else
      let ipp := if ipportIsset peer.ipPort then packIpPort (length - packed.length) peer.ipPort else none
      let withIpp := packed ++ ipp.getD []
      let tcp :=
        if ipportIsset peer.tcpRelay.ipPort then packRelay (length - withIpp.length) peer.tcpRelay else none
      let withTcp := withIpp ++ tcp.getD []
      -- `packed_len` never exceeds `length`, so that of the three checks only the last can fail
      if withTcp.length + cryptoPublicKeySize > length then none
      else if tcp.isNone ∧ ipp.isNone then packGcSavedPeersLoop length peers packed count
      else packGcSavedPeersLoop length peers (withTcp ++ peer.publicKey.toList) (count + 1)

def packGcSavedPeers (savedPeers : Vector GCSavedPeerInfo gcMaxSavedPeers) (length : Nat) : Option (Nat × Bytes) :=
  packGcSavedPeersLoop length savedPeers.toList [] 0

end Toxcore

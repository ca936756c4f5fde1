import Toxcore.Native.NgcConnection
import Toxcore.Native.Onion

/-!
# Wrapping of group packets

`group_packet_wrap` and `group_packet_unwrap` of `group_chats.c`, and the checks of the length that a packet passes on
its way from one to the other.
-/

namespace Toxcore

def netPacketGcLossless : UInt8 := 91

def netPacketGcLossy : UInt8 := 92

def gcMessageIdBytes : Nat := 8

def gcMaxPacketPadding : Nat := 8

def gcMinLosslessPayloadSize : Nat := gcMessageIdBytes + cryptoNonceSize + 1 + cryptoMacSize

def gcMinLossyPayloadSize : Nat := gcMinLosslessPayloadSize - gcMessageIdBytes

def gcGetWrappedPacketSize (length : UInt16) (packetType : UInt8) : UInt16 :=
  let minHeaderSize := if packetType = netPacketGcLossy then gcMinLossyPayloadSize else gcMinLosslessPayloadSize
  length + UInt16.ofNat (cryptoPublicKeySize + gcMaxPacketPadding + minHeaderSize)

def groupPacketPaddingLength (length : UInt16) : UInt16 :=
  UInt16.ofInt ((maxGcPacketChunkSize - length.toNat : Int).tmod gcMaxPacketPadding)

/-- The outcomes of the two allocations of `group_packet_wrap`. -/
structure WrapMemory where
  plain : Bool
  encrypt : Bool

/-- `group_packet_wrap` into a buffer of `packetSize` bytes; an error is its code. -/
def groupPacketWrap (cipher : ByteCipher OnionNonce) (memory : WrapMemory) (nonce : OnionNonce) (selfPk : PublicKey)
    (sharedKey : SharedKey) (packetSize : UInt16) (data : Bytes) (messageId : UInt64)
    (gpPacketType netPacketType : UInt8) : Except Int Bytes :=
  let length := UInt16.ofNat data.length
  let paddingLen := groupPacketPaddingLength length
  let headerSize := cryptoMacSize + 1 + cryptoPublicKeySize + cryptoNonceSize +
    (if netPacketType = netPacketGcLossless then gcMessageIdBytes + 1 else 1)
  if UInt16.ofNat (length.toNat + paddingLen.toNat + headerSize) > packetSize then .error (-1)
  else if length.toNat > maxGcPacketChunkSize then .error (-1)
  else if !memory.plain then .error (-1)
  else
    let messageIdBytes := if netPacketType = netPacketGcLossless then netPackU64 messageId else []
    let plain := List.replicate paddingLen.toNat 0 ++ gpPacketType :: (messageIdBytes ++ data)
    if !memory.encrypt then .error (-2)
    else
      match cipher.encryptDataSymmetric sharedKey nonce plain with
      | none => .error (-3)
      | some encrypt => .ok (netPacketType :: (selfPk.toList ++ (nonce.toList ++ encrypt)))

/-- What `group_packet_unwrap` does: an error, the parts of the packet, or a read past the end. -/
inductive Unwrap where
  | outOfBounds
  | error (code : Int)
  | unwrapped (packetType : UInt8) (messageId : Option UInt64) (data : Bytes)
deriving DecidableEq

/-- `group_packet_unwrap` of a plaintext; `withId` is whether `message_id` is not null. -/
def unwrapPlain (withId : Bool) : Bytes → Unwrap
  | [] => .outOfBounds
  | byte :: plain =>
    if byte = 0 then
      if plain.length < (if withId then 1 + gcMessageIdBytes else 1) then .error (-3) else unwrapPlain withId plain
    else if withId then
      if plain.length < gcMessageIdBytes then .outOfBounds
      else .unwrapped byte (some (netUnpackU64 plain)) (plain.drop gcMessageIdBytes)
    else .unwrapped byte none plain

def groupPacketUnwrap (cipher : ByteCipher OnionNonce) (memory : Bool) (sharedKey : SharedKey) (withId : Bool)
    (packet : Bytes) : Unwrap :=
  if packet.length ≤ cryptoNonceSize then .error (-1)
  else if !memory then .error (-1)
  else
    match cipher.decryptDataSymmetric sharedKey (bytesToVector _ packet) (packet.drop cryptoNonceSize) with
    | none => .error (-2)
    | some [] => .error (-3)
    | some plain => unwrapPlain withId plain

def minUdpPacketSize : Nat := 1 + cryptoPublicKeySize + cryptoNonceSize + cryptoMacSize

/-- The lengths that `handle_gc_udp_packet` and `handle_gc_tcp_packet` let pass. -/
def PacketSizeAllowed (length : Nat) : Prop :=
  ¬length ≤ minUdpPacketSize ∧ ¬length > maxGcPacketChunkSize + minUdpPacketSize + cryptoPublicKeySize

/-- The lengths that the two handlers let pass, of what follows the public key. -/
def PayloadSizeAllowed (netPacketType : UInt8) (length : Nat) : Prop :=
  ¬length < if netPacketType = netPacketGcLossless then gcMinLosslessPayloadSize else gcMinLossyPayloadSize

end Toxcore

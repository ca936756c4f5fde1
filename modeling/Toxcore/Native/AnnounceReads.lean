import Toxcore.Native.GroupAnnounce
import Toxcore.Native.NodeFormatReads

/-!
# Reading packed announces

The announces of `group_announce.c` as they are packed and read with their sizes.  A read behind the end of the
buffer or a write behind the end of an array is `none`; the result of the source is inside.
-/

namespace Toxcore

def gcaPackAnnouncesListSize (count : UInt16) : UInt16 := count * UInt16.ofNat gcaAnnounceMaxSize

def gcaPublicAnnounceMaxSize : Nat := cryptoPublicKeySize + gcaAnnounceMaxSize

def gcaPackPublicAnnounce (length : Nat) (publicAnnounce : GCPublicAnnounce) : Option Bytes :=
  if length < cryptoPublicKeySize then none
  else
    (gcaPackAnnounce (length - cryptoPublicKeySize) publicAnnounce.baseAnnounce).map
      (publicAnnounce.chatPublicKey.toList ++ ·)

/-- The address in `gca_unpack_announce` at an offset, with its size. -/
def readAnnounceIpPort (data : Bytes) (offset length : Nat) (ipPortIsSet : Bool) :
    Option (Option (Option IPPort × Nat)) :=
  if !ipPortIsSet then some (some (none, 0))
  else if length = 0 then some none
  else
    match readIpPort data offset length false with
    | none => none
    | some none => some none
    | some (some (ipPort, size)) => some (some (some ipPort, size))

/-- `gca_unpack_announce` of `length` bytes, with their size. -/
def readAnnounce (data : Bytes) (length : Nat) : Option (Option (GCAnnounce × Nat)) :=
  if length < cryptoPublicKeySize + 2 then some none
  else
    match readBytes data 0 cryptoPublicKeySize, data[cryptoPublicKeySize]?, data[cryptoPublicKeySize + 1]? with
    | some publicKey, some ipPortIsSet, some tcpRelaysCount =>
      if tcpRelaysCount.toNat > gcaMaxAnnouncedTcpRelays.toNat then some none
      else
        let offset := cryptoPublicKeySize + 2
        match readAnnounceIpPort data offset (length - offset) (ipPortIsSet != 0) with
        | none => none
        | some none => some none
        | some (some (ipPort, size)) =>
          let offset := offset + size
          -- the nodes go to an array of `GCA_MAX_ANNOUNCED_TCP_RELAYS`
          if tcpRelaysCount.toNat > gcaMaxAnnouncedTcpRelays.toNat then none
          else
            match readNodes (UInt16.ofNat tcpRelaysCount.toNat) (data.drop offset) (UInt16.ofNat (length - offset))
                true with
            | none => none
            | some none => some none
            | some (some (tcpRelays, nodesLength)) =>
              if tcpRelays.length ≠ tcpRelaysCount.toNat then some none
              else
                some (some ({ tcpRelays, ipPort, peerPublicKey := bytesToVector _ publicKey },
                  offset + nodesLength.toNat))
    | _, _, _ => none

/-- `gca_unpack_public_announce` of `length` bytes, with their size. -/
def readPublicAnnounce (data : Bytes) (length : Nat) : Option (Option (GCPublicAnnounce × Nat)) :=
  if length < cryptoPublicKeySize then some none
  else
    match readBytes data 0 cryptoPublicKeySize with
    | none => none
    | some chatPublicKey =>
      match readAnnounce (data.drop cryptoPublicKeySize) (length - cryptoPublicKeySize) with
      | none => none
      | some none => some none
      | some (some (baseAnnounce, size)) =>
        some (some ({ baseAnnounce, chatPublicKey := bytesToVector _ chatPublicKey }, size + cryptoPublicKeySize))

/-- The loop of `gca_unpack_announces_list` for at most `rest` more announces, into an array of `capacity`. -/
def readAnnouncesLoop (data : Bytes) (length capacity : Nat) :
    (rest i offset : Nat) → Option (Option (List GCAnnounce))
  | 0, _, _ => some (some [])
  | rest + 1, i, offset =>
    if ¬length > offset then some (some [])
    else if ¬i < capacity then none
    else
      match readAnnounce (data.drop offset) (length - offset) with
      | none => none
      | some none => some none
      | some (some (announce, size)) =>
        match readAnnouncesLoop data length capacity rest (i + 1) (offset + size) with
        | none => none
        | some none => some none
        | some (some announces) => some (some (announce :: announces))

/-- `gca_unpack_announces_list` into an array of `max_count` -/
def readAnnouncesList (data : Bytes) (length maxCount : Nat) : Option (Option (List GCAnnounce)) :=
  readAnnouncesLoop data length maxCount maxCount 0 0

end Toxcore

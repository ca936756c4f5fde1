import Toxcore.Native.Group

/-!
# Received conference messages

Which messages of a peer are processed, from `group.c`: `check_message_info` keeps the numbers of the
latest messages and `lossy_packet_not_received` a window of received lossy packets.
-/

namespace Toxcore

def maxLastMessageInfos : Nat := 8

def maxLossyCount : Nat := 256

def groupMessageNameId : UInt8 := 48

def groupMessageTitleId : UInt8 := 49

namespace GroupPeer

variable (peer : GroupPeer)

/-- The entries of `last_message_infos` in use. -/
def messageInfos : List MessageInfo :=
  peer.lastMessageInfos.toList.take peer.numLastMessageInfos.toNat

/-- The loop of `find_message_slot_or_reject` from entry `i` on; `none` is `nullptr`. -/
def findSlotLoop (message : MessageInfo) (ignoreOlder : Bool) : List MessageInfo → (i : Nat) → Option Nat
  | [], i => some i
  | info :: infos, i =>
    if message.messageNumber - (info.messageNumber + (1 : UInt32)) ≤ (1 : UInt32) <<< 31 then some i
    else if message.messageNumber = info.messageNumber then none
    else if ignoreOlder && message.messageId == info.messageId then none
    else findSlotLoop message ignoreOlder infos (i + 1)

def findMessageSlotOrReject (message : MessageInfo) : Option Nat :=
  let ignoreOlder := message.messageId == groupMessageNameId || message.messageId == groupMessageTitleId
  findSlotLoop message ignoreOlder peer.messageInfos 0

/-- `last_message_infos` with the entries from `i` up to `num` moved by one and `message` at `i`. -/
def insertInfo (message : MessageInfo) (i num : Nat) : Vector MessageInfo 8 :=
  Vector.ofFn fun j =>
    if j.1 = i then message
    else if i < j.1 ∧ j.1 < num then peer.lastMessageInfos.get ⟨j.1 - 1, Nat.lt_of_le_of_lt (Nat.sub_le _ _) j.2⟩
    else peer.lastMessageInfos.get j

def checkMessageInfo (message : MessageInfo) : Bool × GroupPeer :=
  match peer.findMessageSlotOrReject message with
  | none => (false, peer)
  | some i =>
    if i = maxLastMessageInfos then (false, peer)
    else
      let num := if peer.numLastMessageInfos.toNat < maxLastMessageInfos
        then peer.numLastMessageInfos + 1 else peer.numLastMessageInfos
      (true, { peer with
        numLastMessageInfos := num
        lastMessageInfos := peer.insertInfo message i num.toNat })

/-- The entry of `recv_lossy` for a number. -/
def lossyIndex (number : Nat) : Fin 256 := ⟨number % maxLossyCount, Nat.mod_lt _ (by decide)⟩

/-- The loop of `lossy_packet_not_received` that forgets the packets below the new window. -/
def clearLossy (count : Nat) : Vector UInt8 256 :=
  (List.range count).foldl (fun recvLossy k =>
    let i := lossyIndex (peer.bottomLossyNumber.toNat + k)
    recvLossy.set i.1 0 i.2) peer.recvLossy

/-- `recv_lossy[message_number % MAX_LOSSY_COUNT] = 1` -/
def markLossy (messageNumber : UInt16) : GroupPeer :=
  let i := lossyIndex messageNumber.toNat
  { peer with recvLossy := peer.recvLossy.set i.1 1 i.2 }

/-- The end of `lossy_packet_not_received`: the window ends at the new number. -/
def moveLossyWindow (messageNumber : UInt16) : GroupPeer :=
  { peer with
    topLossyNumber := messageNumber
    bottomLossyNumber := messageNumber - UInt16.ofNat maxLossyCount + 1 }.markLossy messageNumber

def lossyPacketNotReceived (messageNumber : UInt16) : Int × GroupPeer :=
  if peer.bottomLossyNumber = peer.topLossyNumber then (0, peer.moveLossyWindow messageNumber)
  else if (messageNumber - peer.bottomLossyNumber).toNat < maxLossyCount then
    if peer.recvLossy.get (lossyIndex messageNumber.toNat) ≠ 0 then (1, peer)
    else (0, peer.markLossy messageNumber)
  else if (messageNumber - peer.bottomLossyNumber).toNat > 1 <<< 15 then (-1, peer)
  else
    let topDistance := (messageNumber - peer.topLossyNumber).toNat
    let recvLossy := if topDistance ≥ maxLossyCount then Vector.replicate _ 0
      else peer.clearLossy topDistance
    (0, { peer with recvLossy }.moveLossyWindow messageNumber)

end GroupPeer

end Toxcore

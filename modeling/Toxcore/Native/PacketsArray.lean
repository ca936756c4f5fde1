import Toxcore.Native.CryptoCore

/-!
# Packet buffers of `net_crypto.c`

`Packets_Array` and its operations, from `num_packets_array` to
`handle_request_packet`.  Packet numbers are `uint32_t` and wrap; a packet number
lives in slot `number % CRYPTO_PACKET_BUFFER_SIZE`.

The pointer array `buffer` is a function from slots to optional packets, and a
null pointer is `none`.  An operation that returns `-1` without touching its array
returns `none`; `handle_request_packet`, which may fail half-way, returns its array
in either case.  The result of `calloc` is the argument `calloc`.
-/

namespace Toxcore

def cryptoPacketBufferSize : Nat := 32768

def packetIdPadding : UInt8 := 0

def packetIdRequest : UInt8 := 1

def packetIdKill : UInt8 := 2

/-- `Packet_Data`; `data` holds the `length` bytes in use. -/
structure PacketData where
  sentTime : UInt64
  data : Bytes
deriving DecidableEq

def slotOf (number : UInt32) : Fin cryptoPacketBufferSize :=
  ⟨number.toNat % cryptoPacketBufferSize, Nat.mod_lt _ (by decide)⟩

/-- `Packets_Array`: the packet numbers in the array are `{bufferStart, bufferEnd)`. -/
structure PacketsArray where
  buffer : Fin cryptoPacketBufferSize → Option PacketData
  bufferStart : UInt32
  bufferEnd : UInt32

namespace PacketsArray

/-- The zeroed array of a new connection. -/
def empty : PacketsArray :=
  { buffer := fun _ => none, bufferStart := 0, bufferEnd := 0 }

/-- `array->buffer[number % CRYPTO_PACKET_BUFFER_SIZE] = packet` -/
def setSlot (array : PacketsArray) (number : UInt32) (packet : Option PacketData) :
    PacketsArray :=
  { array with buffer := Function.update array.buffer (slotOf number) packet }

/-- `num_packets_array`: the number of packets in the array, holes included. -/
def numPacketsArray (array : PacketsArray) : UInt32 :=
  array.bufferEnd - array.bufferStart

def addDataToBuffer (array : PacketsArray) (number : UInt32) (data : PacketData)
    (calloc : Bool) : Option PacketsArray :=
  if (number - array.bufferStart).toNat ≥ cryptoPacketBufferSize then none
  else if (array.buffer (slotOf number)).isSome then none
  else if !calloc then none
  else
    let array' := array.setSlot number (some data)
    if number - array.bufferStart ≥ array.numPacketsArray then
      some { array' with bufferEnd := number + 1 }
    else
      some array'

/-- Result of `get_data_pointer`. -/
inductive DataPointer where
  /-- `-1`: the number is not in the array. -/
  | outside
  /-- `0`: the slot of the number is empty. -/
  | hole
  /-- `1`: the packet with this number. -/
  | packet (data : PacketData)
deriving DecidableEq

def getDataPointer (array : PacketsArray) (number : UInt32) : DataPointer :=
  let numSpots := array.numPacketsArray
  if array.bufferEnd - number > numSpots ∨ number - array.bufferStart ≥ numSpots then .outside
  else
    match array.buffer (slotOf number) with
    | none => .hole
    | some data => .packet data

def addDataEndOfBuffer (array : PacketsArray) (data : PacketData) (calloc : Bool) :
    Option (UInt32 × PacketsArray) :=
  if array.numPacketsArray.toNat ≥ cryptoPacketBufferSize then none
  else if !calloc then none
  else
    let id := array.bufferEnd
    some (id, { array.setSlot id (some data) with bufferEnd := array.bufferEnd + 1 })

def readDataBegBuffer (array : PacketsArray) : Option (UInt32 × PacketData × PacketsArray) :=
  if array.bufferEnd = array.bufferStart then none
  else
    match array.buffer (slotOf array.bufferStart) with
    | none => none
    | some data =>
      let id := array.bufferStart
      some (id, data, { array.setSlot id none with bufferStart := array.bufferStart + 1 })

/-- The `for` loop of `clear_buffer_until` and `clear_buffer`: `count` slots are
    emptied from number `i` on. -/
def clearSlots (array : PacketsArray) (i : UInt32) : (count : Nat) → PacketsArray
  | 0 => array
  | count + 1 => (array.setSlot i none).clearSlots (i + 1) count

def clearBufferUntil (array : PacketsArray) (number : UInt32) : Option PacketsArray :=
  let numSpots := array.numPacketsArray
  if array.bufferEnd - number ≥ numSpots ∨ number - array.bufferStart > numSpots then none
  else
    -- The loop runs from `buffer_start` until it meets `number`.
    some { array.clearSlots array.bufferStart (number - array.bufferStart).toNat with
      bufferStart := number }

def clearBuffer (array : PacketsArray) : PacketsArray :=
  { array.clearSlots array.bufferStart array.numPacketsArray.toNat with
    bufferStart := array.bufferEnd }

def setBufferEnd (array : PacketsArray) (number : UInt32) : Option PacketsArray :=
  if (number - array.bufferStart).toNat > cryptoPacketBufferSize then none
  else if (number - array.bufferEnd).toNat > cryptoPacketBufferSize then none
  else some { array with bufferEnd := number }

def generateRequestLoop (array : PacketsArray) : (count : Nat) → (i : UInt32) → (n room : Nat) → Bytes
  | 0, _, _, _ => []
  | count + 1, i, n, room =>
    if (array.buffer (slotOf i)).isNone then
      UInt8.ofNat n :: if room ≤ 1 then [] else generateRequestLoop array count (i + 1) 1 (room - 1)
    else if n = 255 then
      0 :: if room ≤ 1 then [] else generateRequestLoop array count (i + 1) 1 (room - 1)
    else
      generateRequestLoop array count (i + 1) (n + 1) room

def generateRequestPacket (recvArray : PacketsArray) (length : Nat) : Option Bytes :=
  if length = 0 then none
  else if recvArray.bufferStart = recvArray.bufferEnd then some [packetIdRequest]
  else if length ≤ 1 then some [packetIdRequest]
  else
    some (packetIdRequest ::
      recvArray.generateRequestLoop recvArray.numPacketsArray.toNat recvArray.bufferStart 1 (length - 1))

/-- State of the loop of `handle_request_packet`. -/
structure RequestState where
  array : PacketsArray
  requested : Nat
  lSentTime : UInt64

/-- A requested packet: it is marked for sending again, if the round trip time has passed. -/
def requestSlot (array : PacketsArray) (i : UInt32) (tempTime rttTime : UInt64) : PacketsArray :=
  match array.buffer (slotOf i) with
  | none => array
  | some packet =>
    if packet.sentTime + rttTime < tempTime then
      array.setSlot i (some { packet with sentTime := 0 })
    else
      array

/-- A packet that is not requested: it has been received, and is freed. -/
def freeSlot (s : RequestState) (i : UInt32) : RequestState :=
  match s.array.buffer (slotOf i) with
  | none => s
  | some packet =>
    { s with array := s.array.setSlot i none, lSentTime := max s.lSentTime packet.sentTime }

/-- The loop of `handle_request_packet` from `i` on; the flag is `false` for `-1`. -/
def handleRequestLoop (tempTime rttTime : UInt64) :
    (count : Nat) → (i : UInt32) → (n : Nat) → (data : Bytes) → RequestState → Bool × RequestState
  | 0, _, _, _, s => (true, s)
  | _ + 1, _, _, [], s => (true, s)
  | count + 1, i, n, d :: data, s =>
    if n = d.toNat then
      -- `n = 0` and then `++n`
      handleRequestLoop tempTime rttTime count (i + 1) 1 data
        { s with
          array := s.array.requestSlot i tempTime rttTime
          requested := s.requested + 1 }
    else if n = 255 then
      if d ≠ 0 then (false, freeSlot s i)
      else handleRequestLoop tempTime rttTime count (i + 1) 1 data (freeSlot s i)
    else
      handleRequestLoop tempTime rttTime count (i + 1) (n + 1) (d :: data) (freeSlot s i)

def handleRequestPacket (sendArray : PacketsArray) (data : Bytes)
    (latestSendTime rttTime tempTime : UInt64) : Option Nat × PacketsArray × UInt64 :=
  match data with
  | [] => (none, sendArray, latestSendTime)
  | d :: data =>
    if d ≠ packetIdRequest then (none, sendArray, latestSendTime)
    else if data = [] then (some 0, sendArray, latestSendTime)
    else
      match handleRequestLoop tempTime rttTime sendArray.numPacketsArray.toNat
          sendArray.bufferStart 1 data ⟨sendArray, 0, 0⟩ with
      | (false, s) => (none, s.array, latestSendTime)
      | (true, s) => (some s.requested, s.array, max latestSendTime s.lSentTime)

/-! ## The pointer of `handle_request_packet` -/

/-- The loop of `handle_request_packet` with its position in the payload; `none` reads outside of it. -/
def handleRequestLoopAt (payload : Bytes) (tempTime rttTime : UInt64) :
    (count : Nat) → (i : UInt32) → (n position length : Nat) → RequestState → Option (Bool × RequestState)
  | 0, _, _, _, _, s => some (true, s)
  | count + 1, i, n, position, length, s =>
    if length = 0 then some (true, s)
    else
      payload[position]?.bind fun d =>
        -- after a match the pointer has moved on and the counter is zero
        let (n, position, length, s) :=
          if n = d.toNat then
            (0, position + 1, length - 1,
              { s with
                array := s.array.requestSlot i tempTime rttTime
                requested := s.requested + 1 })
          else (n, position, length, freeSlot s i)
        if n = 255 then
          payload[position]?.bind fun d =>
            if d ≠ 0 then some (false, s)
            else
              handleRequestLoopAt payload tempTime rttTime count (i + 1) 1 (position + 1) (length - 1) s
        else handleRequestLoopAt payload tempTime rttTime count (i + 1) (n + 1) position length s

def handleRequestPacketAt (sendArray : PacketsArray) (payload : Bytes)
    (latestSendTime rttTime tempTime : UInt64) : Option (Option Nat × PacketsArray × UInt64) :=
  if payload.length = 0 then some (none, sendArray, latestSendTime)
  else
    payload[0]?.bind fun d =>
      if d ≠ packetIdRequest then some (none, sendArray, latestSendTime)
      else if payload.length = 1 then some (some 0, sendArray, latestSendTime)
      else
        (handleRequestLoopAt payload tempTime rttTime sendArray.numPacketsArray.toNat
          sendArray.bufferStart 1 1 (payload.length - 1) ⟨sendArray, 0, 0⟩).map fun
          | (false, s) => (none, s.array, latestSendTime)
          | (true, s) => (some s.requested, s.array, max latestSendTime s.lSentTime)

end PacketsArray

end Toxcore

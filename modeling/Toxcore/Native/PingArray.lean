import Toxcore.Native.CryptoCore

/-!
# Ping arrays

`ping_array.c`: a ring of pending requests.  A ping id carries the index of its entry in
its low part, an entry is given back once, and old entries are overwritten when the ring is
full.  Times are those of `mono_time_get`, in seconds.
-/

namespace Toxcore

def monoTimeIsTimeout (now timestamp timeout : UInt64) : Bool := timestamp + timeout ≤ now

/-- `Ping_Array_Entry`; its length is that of the data. -/
structure PingArrayEntry where
  data : Option Bytes
  pingTime : UInt64
  pingId : UInt64
deriving DecidableEq

/-- The entry that `clear_entry` writes. -/
def emptyPingArrayEntry : PingArrayEntry := { data := none, pingTime := 0, pingId := 0 }

structure PingArray where
  entries : List PingArrayEntry
  lastDeleted : UInt32
  lastAdded : UInt32
  totalSize : UInt32
  timeout : UInt32
deriving DecidableEq

namespace PingArray

def pingArrayNew (size timeout : UInt32) : Option PingArray :=
  if size = 0 ∨ timeout = 0 then none
  else if size &&& (size - 1) ≠ 0 then none
  else
    some
      { entries := List.replicate size.toNat emptyPingArrayEntry
        lastDeleted := 0
        lastAdded := 0
        totalSize := size
        timeout }

def clearEntry (array : PingArray) (index : UInt32) : PingArray :=
  { array with entries := array.entries.set index.toNat emptyPingArrayEntry }

def clearTimedoutLoop (now : UInt64) : (count : Nat) → PingArray → PingArray
  | 0, array => array
  | count + 1, array =>
    let index := array.lastDeleted % array.totalSize
    match array.entries[index.toNat]? with
    | none => array
    | some entry =>
      if !monoTimeIsTimeout now entry.pingTime array.timeout.toUInt64 then array
      else
        clearTimedoutLoop now count { array.clearEntry index with lastDeleted := array.lastDeleted + 1 }

def pingArrayClearTimedout (array : PingArray) (now : UInt64) : PingArray :=
  clearTimedoutLoop now (array.lastAdded - array.lastDeleted).toNat array

/-- The ping id for an index: `random` with its low part replaced. -/
def makePingId (totalSize : UInt32) (random : UInt64) (index : UInt32) : UInt64 :=
  let pingId := random / totalSize.toUInt64 * totalSize.toUInt64 + index.toUInt64
  if pingId = 0 then pingId + totalSize.toUInt64 else pingId

/-- The part of `ping_array_add` that clears the slot of the next ping if it is in use. -/
def makeRoom (array : PingArray) : PingArray :=
  let index := array.lastAdded % array.totalSize
  if (array.entries[index.toNat]?.bind (·.data)).isSome then
    { array.clearEntry index with lastDeleted := array.lastAdded - array.totalSize }
  else array

def pingArrayAdd (array : PingArray) (now random : UInt64) (malloc : Bool) (data : Bytes) :
    UInt64 × PingArray :=
  let array := (array.pingArrayClearTimedout now).makeRoom
  if !malloc then (0, array)
  else
    let index := array.lastAdded % array.totalSize
    let pingId := makePingId array.totalSize random index
    (pingId,
      { array with
        entries := array.entries.set index.toNat { data := some data, pingTime := now, pingId }
        lastAdded := array.lastAdded + 1 })

def pingArrayCheck (array : PingArray) (now : UInt64) (length : Nat) (pingId : UInt64) :
    Option Bytes × PingArray :=
  if pingId = 0 then (none, array)
  else
    let index := (pingId % array.totalSize.toUInt64).toUInt32
    match array.entries[index.toNat]? with
    | none => (none, array)
    | some entry =>
      if entry.pingId ≠ pingId then (none, array)
      else if monoTimeIsTimeout now entry.pingTime array.timeout.toUInt64 then (none, array)
      else
        match entry.data with
        | none => (none, array)
        | some data =>
          if data.length > length then (none, array) else (some data, array.clearEntry index)

end PingArray

end Toxcore

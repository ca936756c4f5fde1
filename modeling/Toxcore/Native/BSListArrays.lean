import Toxcore.Native.BSList

/-!
# The arrays of a `BS_List`

`list.c` with its two arrays, their allocated sizes and the results of `realloc`.  An access outside
an array has no result.
-/

namespace Toxcore

/-- `BS_List`, and the numbers of bytes and of ids that are allocated. -/
structure BSListArrays where
  n : UInt32
  capacity : UInt32
  elementSize : UInt32
  data : List Bytes
  dataSize : Nat
  ids : List Int32
  idsSize : Nat
deriving DecidableEq

def listIndex (i : UInt32) : Int32 := (~~~i).toInt32

namespace BSListArrays

def readElement (list : BSListArrays) (i : UInt32) : Option Bytes :=
  if list.elementSize.toNat * i.toNat + list.elementSize.toNat ≤ list.dataSize then
    list.data[i.toNat]?
  else none

def findLoop (list : BSListArrays) (data : Bytes) : (fuel : Nat) → (i delta : UInt32) → (d : Int) → Option Int32
  | 0, _, _, _ => none
  | fuel + 1, i, delta, d =>
    match list.readElement i with
    | none => none
    | some element =>
      match memcmp data element with
      | .eq => some i.toInt32
      | .gt =>
        -- data is greater, move down
        if d = 0 ∨ i + delta = list.n then some (listIndex (i + delta))
        else if delta / 2 = 0 then findLoop list data fuel (i + delta) 1 1
        else findLoop list data fuel (i + delta) (delta / 2) d
      | .lt =>
        -- data is smaller, move up
        if d = 1 ∨ i = 0 then some (listIndex i)
        else if delta / 2 = 0 then findLoop list data fuel (i - delta) 1 0
        else findLoop list data fuel (i - delta) (delta / 2) d

def find (list : BSListArrays) (data : Bytes) : Option Int32 :=
  if list.n = 0 then some (listIndex 0)
  else
    let i := list.n / 2
    let delta := i / 2
    findLoop list data (2 * list.n.toNat + 2) i (if delta = 0 then 1 else delta) (-1)

/-- `resize`; `okData` and `okIds` are the results of `realloc`. The size is a `uint32_t`. -/
def resize (list : BSListArrays) (newSize : UInt32) (okData okIds : Bool) : Bool × BSListArrays :=
  if newSize = 0 then (true, { list with data := [], dataSize := 0, ids := [], idsSize := 0 })
  else if !okData then (false, list)
  else
    let list := { list with dataSize := (list.elementSize * newSize).toNat }
    if !okIds then (false, list)
    else (true, { list with idsSize := newSize.toNat })

/-- The initial values of `bs_list_init`. -/
def empty (elementSize : UInt32) : BSListArrays :=
  { n := 0, capacity := 0, elementSize, data := [], dataSize := 0, ids := [], idsSize := 0 }

def bsListInit (elementSize initialCapacity : UInt32) (okData okIds : Bool) :
    Bool × BSListArrays :=
  let list := empty elementSize
  if initialCapacity ≠ 0 then
    match list.resize initialCapacity okData okIds with
    | (false, list) => (false, list)
    | (true, list) => (true, { list with capacity := initialCapacity })
  else (true, { list with capacity := initialCapacity })

def readId (list : BSListArrays) (i : Int32) : Option Int32 :=
  if i.toInt.toNat < list.idsSize then list.ids[i.toInt.toNat]? else none

def bsListFind (list : BSListArrays) (data : Bytes) : Option Int32 :=
  match list.find data with
  | none => none
  | some r => if r < 0 then some (-1) else list.readId r

/-- The part of `bs_list_add` that moves the elements from `i` on and inserts the new one. -/
def insertAt (list : BSListArrays) (i : Nat) (data : Bytes) (id : Int32) : Option BSListArrays :=
  if list.elementSize.toNat * (list.n.toNat + 1) ≤ list.dataSize ∧ list.n.toNat + 1 ≤ list.idsSize then
    some { list with
      n := list.n + 1
      data := list.data.insertIdx i data
      ids := list.ids.insertIdx i id }
  else none

/-- The part of `bs_list_add` that makes room. -/
def makeRoom (list : BSListArrays) (okData okIds : Bool) : Bool × BSListArrays :=
  if list.n = list.capacity then
    let newCapacity := list.n + list.n / 2 + 1
    match list.resize newCapacity okData okIds with
    | (false, list) => (false, list)
    | (true, list) => (true, { list with capacity := newCapacity })
  else (true, list)

def bsListAdd (list : BSListArrays) (data : Bytes) (id : Int32) (okData okIds : Bool) :
    Option (Bool × BSListArrays) :=
  match list.find data with
  | none => none
  | some r =>
    -- already in list
    if r ≥ 0 then some (false, list)
    else
      match list.makeRoom okData okIds with
      | (false, list) => some (false, list)
      | (true, list) => (list.insertAt (~~~r).toInt.toNat data id).map (true, ·)

/-- The part of `bs_list_remove` that gives memory back. -/
def giveBack (list : BSListArrays) (okData okIds : Bool) : BSListArrays :=
  if list.n < list.capacity / 2 then
    let newCapacity := list.capacity / 2
    match list.resize newCapacity okData okIds with
    | (false, list) => list
    | (true, list) => { list with capacity := newCapacity }
  else list

/-- The part of `bs_list_remove` that moves the elements after `i`. -/
def removeAt (list : BSListArrays) (i : Nat) : Option BSListArrays :=
  if i + 1 = list.n.toNat ∨
      list.elementSize.toNat * list.n.toNat ≤ list.dataSize ∧ list.n.toNat ≤ list.idsSize then
    some { list with
      n := list.n - 1
      data := list.data.eraseIdx i
      ids := list.ids.eraseIdx i }
  else none

def bsListRemove (list : BSListArrays) (data : Bytes) (id : Int32) (okData okIds : Bool) :
    Option (Bool × BSListArrays) :=
  match list.find data with
  | none => none
  | some r =>
    if r < 0 then some (false, list)
    else
      match list.readId r with
      | none => none
      | some found =>
        if found ≠ id then some (false, list)
        else ((list.giveBack okData okIds).removeAt r.toInt.toNat).map (true, ·)

end BSListArrays

end Toxcore

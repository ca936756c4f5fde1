import Toxcore.Native.CryptoCore

/-!
# Sorted lists of `list.c`

`BS_List` maps byte strings of one size to ids and keeps them in the order of `memcmp`.
The arrays `data` and `ids` are one list of pairs; their capacity is left out, since
allocations succeed.  `find` is the search loop of the source with its step size `delta`
and its flag `d`; the loop runs on fuel, and reading outside the array has no result.
-/

namespace Toxcore

/-- `memcmp` on byte strings of one length. -/
def memcmp : Bytes → Bytes → Ordering
  | [], [] => .eq
  | [], _ :: _ => .lt
  | _ :: _, [] => .gt
  | a :: as, b :: bs => (compare a.toNat b.toNat).then (memcmp as bs)

structure BSList where
  entries : List (Bytes × Nat)
deriving DecidableEq

namespace BSList

def empty : BSList := ⟨[]⟩

/-- The number of elements. -/
def n (list : BSList) : Nat := list.entries.length

/-- Result of `find`. -/
inductive FindResult where
  /-- The index of the data. -/
  | found (i : Nat)
  /-- `list_index(i)`: there is no match, and the data belongs at index `i`. -/
  | insertAt (i : Nat)
deriving DecidableEq

def findLoop (list : BSList) (data : Bytes) : (fuel : Nat) → (i delta : Nat) → (d : Int) → Option FindResult
  | 0, _, _, _ => none
  | fuel + 1, i, delta, d =>
    match list.entries[i]? with
    -- a read outside the array
    | none => none
    | some entry =>
      match memcmp data entry.1 with
      | .eq => some (.found i)
      | .gt =>
        -- data is greater, move down
        if d = 0 ∨ i + delta = list.n then some (.insertAt (i + delta))
        else if delta / 2 = 0 then findLoop list data fuel (i + delta) 1 1
        else findLoop list data fuel (i + delta) (delta / 2) d
      | .lt =>
        if d = 1 ∨ i = 0 then some (.insertAt i)
        -- `i -= delta` would wrap
        else if i < delta then none
        else if delta / 2 = 0 then findLoop list data fuel (i - delta) 1 0
        else findLoop list data fuel (i - delta) (delta / 2) d

def find (list : BSList) (data : Bytes) : Option FindResult :=
  if list.n = 0 then some (.insertAt 0)
  else
    let i := list.n / 2
    let delta := i / 2
    findLoop list data (2 * list.n + 2) i (if delta = 0 then 1 else delta) (-1)

def bsListFind (list : BSList) (data : Bytes) : Option Nat :=
  match list.find data with
  | some (.found i) => (list.entries[i]?).map (·.2)
  | _ => none

def bsListAdd (list : BSList) (data : Bytes) (id : Nat) : Bool × BSList :=
  match list.find data with
  | some (.insertAt i) => (true, ⟨list.entries.insertIdx i (data, id)⟩)
  | _ => (false, list)

def bsListRemove (list : BSList) (data : Bytes) (id : Nat) : Bool × BSList :=
  match list.find data with
  | some (.found i) =>
    if (list.entries[i]?).map (·.2) ≠ some id then (false, list)
    else (true, ⟨list.entries.eraseIdx i⟩)
  | _ => (false, list)

end BSList

end Toxcore

import Toxcore.Spec.BSListRefines

/-!
# A `BS_List` is a sorted map

Runs of the four operations of `list.c` with any results of `realloc`.  A run behaves like one on a
map exactly if no `resize` leaves fewer bytes than the capacity needs: the number of bytes must not
wrap, and the arrays must not shrink half.
-/

namespace Toxcore

/-- A call of one of the operations on elements of `size` bytes, with the results of `realloc`. -/
inductive BSOp (size : Nat) where
  | init (initialCapacity : UInt32) (okData okIds : Bool)
  | find (data : Vector UInt8 size)
  | add (data : Vector UInt8 size) (id : Int32) (okData okIds : Bool)
  | remove (data : Vector UInt8 size) (id : Int32) (okData okIds : Bool)

namespace BSListArrays

def InsertionPoint (list : BSListArrays) (data : Bytes) (i : Nat) : Prop :=
  i ≤ list.n.toNat ∧
    ∀ (j : Nat) (element : Bytes), list.data[j]? = some element →
      (j < i ↔ memcmp element data = .lt) ∧ (i ≤ j ↔ memcmp data element = .lt)

/-- `find` ends at a present element, and otherwise with the complement of the insertion point. -/
def FindsIn (list : BSListArrays) (map : Bytes → Option Int32) (data : Bytes) : Prop :=
  ∃ r, list.find data = some r ∧
    ((map data).isSome → ¬r < 0 ∧ r.toInt.toNat < list.n.toNat ∧ list.data[r.toInt.toNat]? = some data) ∧
    ((map data).isNone → r < 0 ∧ list.InsertionPoint data (~~~r).toInt.toNat)

variable {list : BSListArrays} {map : Bytes → Option Int32} {size : Nat}

theorem memcmp_asymm {a b : Bytes} (h : memcmp a b = .lt) : memcmp b a ≠ .lt := by
  have hswap : memcmp b a = (memcmp a b).swap := Std.OrientedCmp.eq_swap
  rw [hswap, h]
  exact nofun

theorem InsertionPoint.of_locates (h : list.Aligned) {data : Bytes} {i : Nat}
    (hloc : list.keys.Locates data (.insertAt i)) : list.InsertionPoint data i := by
  obtain ⟨hi, hbefore, hafter⟩ := hloc
  rw [keys_n h] at hi
  refine ⟨hi, fun j element helement => ?_⟩
  have hget : list.keys.entries[j]? = some (element, 0) := by
    rw [getElem?_keys, helement]
    rfl
  constructor
  · constructor
    · exact fun hj => hbefore j _ hj hget
    · intro hlt
      by_contra hj
      exact memcmp_asymm hlt (hafter j _ (Nat.le_of_not_lt hj) hget)
  · constructor
    · exact fun hj => hafter j _ hj hget
    · intro hlt
      by_contra hj
      exact memcmp_asymm hlt (hbefore j _ (Nat.lt_of_not_le hj) hget)

theorem Refines.findsIn (h : list.Refines map) (data : Bytes) : list.FindsIn map data := by
  obtain ⟨i, r, hfind, hneg, rfl, hdata⟩ | ⟨i, r, hfind, hneg, rfl, hloc⟩ :=
    find_spec h.aligned h.sized data
  · obtain ⟨id, -, hmap⟩ := h.map_eq hdata
    refine ⟨r, hfind, fun _ => ⟨hneg, ?_, hdata⟩, ?_⟩
    · rw [← h.aligned.data_length]
      exact (List.getElem?_eq_some_iff.mp hdata).1
    · rw [hmap]
      exact nofun
  · refine ⟨r, hfind, ?_, fun _ => ⟨hneg, InsertionPoint.of_locates h.aligned hloc⟩⟩
    rw [h.map_eq_none (not_mem_of_locates hloc)]
    exact nofun

/-! ## Runs -/

/-- A run behaves like one on a map: the list holds the sorted entries, and each operation has its result. An
    addition fails for a present element or for want of memory. -/
def Behaves (map : Bytes → Option Int32) (list : BSListArrays) : List (BSOp size) → Prop
  | [] => list.Refines map
  | .init initialCapacity okData okIds :: ops =>
    list.Refines map ∧ Behaves (fun _ => none) (bsListInit list.elementSize initialCapacity okData okIds).2 ops
  | .find data :: ops =>
    list.Refines map ∧ list.FindsIn map data.toList ∧
      list.bsListFind data.toList = some ((map data.toList).getD (-1)) ∧ Behaves map list ops
  | .add data id okData okIds :: ops =>
    list.Refines map ∧ ∃ ok list', list.bsListAdd data.toList id okData okIds = some (ok, list') ∧
      (ok = true ↔ map data.toList = none ∧ (list.n < list.capacity ∨ okData = true ∧ okIds = true)) ∧
      Behaves (updated map data.toList (some id) ok) list' ops
  | .remove data id okData okIds :: ops =>
    list.Refines map ∧ ∃ ok list', list.bsListRemove data.toList id okData okIds = some (ok, list') ∧
      (ok = true ↔ map data.toList = some id) ∧ Behaves (updated map data.toList none ok) list' ops

/-- Each `resize` of a run leaves enough bytes for the capacity. -/
def SafeAll (list : BSListArrays) : List (BSOp size) → Prop
  | [] => True
  | .init initialCapacity okData okIds :: ops =>
    InitSafe list.elementSize initialCapacity okData okIds ∧
      SafeAll (bsListInit list.elementSize initialCapacity okData okIds).2 ops
  | .find _ :: ops => SafeAll list ops
  | .add data id okData okIds :: ops =>
    list.AddSafe data.toList okData okIds ∧
      ∀ ok list', list.bsListAdd data.toList id okData okIds = some (ok, list') → SafeAll list' ops
  | .remove data id okData okIds :: ops =>
    list.RemoveSafe data.toList id okData okIds ∧
      ∀ ok list', list.bsListRemove data.toList id okData okIds = some (ok, list') → SafeAll list' ops

theorem Behaves.refines {ops : List (BSOp size)} (h : Behaves map list ops) : list.Refines map := by
  match ops with
  | [] => exact h
  | .init .. :: _ => exact h.1
  | .find .. :: _ => exact h.1
  | .add .. :: _ => exact h.1
  | .remove .. :: _ => exact h.1

theorem elementSize_bsListInit (elementSize initialCapacity : UInt32) (okData okIds : Bool) :
    (bsListInit elementSize initialCapacity okData okIds).2.elementSize = elementSize :=
  (Prod.mk.inj (Prod.mk.inj (contents_bsListInit elementSize initialCapacity okData okIds)).2).1

theorem refines_bsListInit {elementSize initialCapacity : UInt32} {okData okIds : Bool}
    (hsafe : InitSafe elementSize initialCapacity okData okIds) :
    (bsListInit elementSize initialCapacity okData okIds).2.Refines fun _ => none :=
  (refines_empty elementSize).of_contents (contents_bsListInit ..) ((sized_bsListInit_iff ..).mpr hsafe)

theorem Refines.behaves_iff (h : list.Refines map) (hsize : list.elementSize.toNat = size)
    (ops : List (BSOp size)) : Behaves map list ops ↔ list.SafeAll ops := by
  induction ops generalizing list map with
  | nil => exact ⟨fun _ => trivial, fun _ => h⟩
  | cons op ops ih =>
    cases op with
    | init initialCapacity okData okIds =>
      have hsize' := (congrArg UInt32.toNat
        (elementSize_bsListInit list.elementSize initialCapacity okData okIds)).trans hsize
      constructor
      · rintro ⟨-, hrest⟩
        have hsafe := (sized_bsListInit_iff ..).mp hrest.refines.sized
        exact ⟨hsafe, (ih (refines_bsListInit hsafe) hsize').mp hrest⟩
      · rintro ⟨hsafe, hrest⟩
        exact ⟨h, (ih (refines_bsListInit hsafe) hsize').mpr hrest⟩
    | find data =>
      constructor
      · rintro ⟨-, -, -, hrest⟩
        exact (ih h hsize).mp hrest
      · intro hsafe
        exact ⟨h, h.findsIn data.toList, h.bsListFind data.toList, (ih h hsize).mpr hsafe⟩
    | add data id okData okIds =>
      have hlength : data.toList.length = list.elementSize.toNat := by
        rw [Vector.length_toList, hsize]
      constructor
      · rintro ⟨-, ok, list', hadd, -, hrest⟩
        have hsize' := (congrArg UInt32.toNat (elementSize_bsListAdd hadd)).trans hsize
        refine ⟨h.addSafe hadd hrest.refines.sized, fun ok' list'' hadd' => ?_⟩
        cases hadd.symm.trans hadd'
        exact (ih hrest.refines hsize').mp hrest
      · rintro ⟨hsafe, hrest⟩
        obtain ⟨ok, list', hadd, hok, hrefines⟩ := h.bsListAdd hlength id hsafe
        have hsize' := (congrArg UInt32.toNat (elementSize_bsListAdd hadd)).trans hsize
        exact ⟨h, ok, list', hadd, hok, (ih hrefines hsize').mpr (hrest ok list' hadd)⟩
    | remove data id okData okIds =>
      constructor
      · rintro ⟨-, ok, list', hremove, -, hrest⟩
        have hsize' := (congrArg UInt32.toNat (elementSize_bsListRemove hremove)).trans hsize
        refine ⟨h.removeSafe hremove hrest.refines.sized, fun ok' list'' hremove' => ?_⟩
        cases hremove.symm.trans hremove'
        exact (ih hrest.refines hsize').mp hrest
      · rintro ⟨hsafe, hrest⟩
        obtain ⟨ok, list', hremove, hok, hrefines⟩ := h.bsListRemove data.toList id hsafe
        have hsize' := (congrArg UInt32.toNat (elementSize_bsListRemove hremove)).trans hsize
        exact ⟨h, ok, list', hremove, hok, (ih hrefines hsize').mpr (hrest ok list' hremove)⟩

end BSListArrays

open BSListArrays

def oneOfFour (dataSize : Nat) : BSListArrays :=
  { n := 1, capacity := 4, elementSize := 1, data := [[5]], dataSize, ids := [7], idsSize := 4 }

end Toxcore

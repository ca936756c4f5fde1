import Mathlib.Data.Fintype.Card
import Mathlib.Tactic.Common
import Toxcore.Native.BSListArrays
import Toxcore.Spec.BSListCorrect

/-!
# The arrays of a `BS_List` are a sorted map

As long as the arrays are as large as `capacity` says, the loops on the arrays are those on a sorted
list, and the operations are those of a map.  `resize` may change the size of one array only.
-/

namespace Toxcore

open List

/-! ## Indices as `int` -/

variable {i : UInt32}

theorem toInt_toInt32 (h : i.toNat < 2 ^ 31) : i.toInt32.toInt = i.toNat := by
  show i.toBitVec.toInt = _
  rw [BitVec.toInt_eq_toNat_of_lt]
  · rfl
  · show 2 * i.toNat < _
    omega

theorem toInt32_nonneg (h : i.toNat < 2 ^ 31) : ¬i.toInt32 < 0 := by
  rw [Int32.lt_iff_toInt_lt, toInt_toInt32 h]
  exact Int.not_lt.mpr (Int.natCast_nonneg _)

theorem not_listIndex (i : UInt32) : ~~~(listIndex i) = i.toInt32 := by
  rw [listIndex, UInt32.toInt32_not, Int32.not_not]

theorem listIndex_neg (h : i.toNat < 2 ^ 31) : listIndex i < 0 := by
  have hbmod : (-(i.toNat : Int) - 1).bmod (2 ^ 32) = -(i.toNat : Int) - 1 := by
    rw [Int.bmod_eq_of_le] <;> omega
  rw [Int32.lt_iff_toInt_lt, listIndex, UInt32.toInt32_not, Int32.toInt_not, toInt_toInt32 h]
  show _ < (0 : Int)
  omega

def BSList.FindResult.code : BSList.FindResult → Int32
  | .found i => (UInt32.ofNat i).toInt32
  | .insertAt i => listIndex (UInt32.ofNat i)

namespace BSListArrays

/-! ## Valid arrays -/

def keys (list : BSListArrays) : BSList := ⟨list.data.map fun data => (data, 0)⟩

structure Aligned (list : BSListArrays) : Prop where
  data_length : list.data.length = list.n.toNat
  ids_length : list.ids.length = list.n.toNat
  element_length : ∀ data ∈ list.data, data.length = list.elementSize.toNat
  sorted : list.keys.Sorted

/-- The arrays are as large as `capacity` says, and that is not below `n`. -/
structure Sized (list : BSListArrays) : Prop where
  n_le : list.n ≤ list.capacity
  data_le : list.elementSize.toNat * list.capacity.toNat ≤ list.dataSize
  ids_le : list.capacity.toNat ≤ list.idsSize
  dataSize_lt : list.dataSize < 2 ^ 32

variable {list : BSListArrays}

theorem keys_n (h : list.Aligned) : list.keys.n = list.n.toNat := by
  rw [BSList.n, keys, length_map, h.data_length]

theorem getElem?_keys (i : Nat) : list.keys.entries[i]? = (list.data[i]?).map fun data => (data, 0) :=
  getElem?_map ..

section

variable (h : list.Aligned)
include h

theorem Aligned.nodup : list.data.Nodup := by
  have hsorted := pairwise_map.mp h.sorted
  refine hsorted.imp fun {a b} hlt heq => ?_
  rw [heq] at hlt
  exact memcmp_self_ne_lt b hlt

section

variable (hsized : list.Sized)
include hsized

theorem Aligned.n_lt : list.n.toNat < 2 ^ 31 := by
  have hn := UInt32.le_iff_toNat_le.mp hsized.n_le
  have hdata := hsized.data_le
  have hlt := hsized.dataSize_lt
  have hlength := h.data_length
  by_cases hbig : 2 ≤ list.elementSize.toNat
  · have hmul := Nat.mul_le_mul hbig hn
    omega
  · -- elements of at most one byte are told apart by it
    have hinj : ∀ a ∈ list.data, ∀ b ∈ list.data, (a.headD 0).toFin = (b.headD 0).toFin → a = b := by
      intro a ha b hb hab
      have hab := UInt8.toFin_inj.mp hab
      have ha := h.element_length a ha
      have hb := h.element_length b hb
      match a, b with
      | [], [] => rfl
      | [x], [y] =>
        obtain rfl : x = y := hab
        rfl
      | [], _ :: _ => exact nomatch ha.trans hb.symm
      | _ :: _, [] => exact nomatch ha.trans hb.symm
      | _ :: _ :: _, _ => simp only [length_cons] at ha; omega
      | _, _ :: _ :: _ => simp only [length_cons] at hb; omega
    have hnodup : (list.data.map fun data => (data.headD 0).toFin).Nodup := List.Nodup.map_on hinj h.nodup
    have hcard := hnodup.length_le_card
    rw [length_map, Fintype.card_fin] at hcard
    have hsize : UInt8.size = 256 := rfl
    omega

/-! ## The search -/

theorem readElement_eq (i : UInt32) :
    list.readElement i = list.data[i.toNat]? := by
  unfold readElement
  by_cases hi : i.toNat < list.n.toNat
  · have hn := UInt32.le_iff_toNat_le.mp hsized.n_le
    have hmul := Nat.mul_le_mul_left list.elementSize.toNat (Nat.le_trans hi hn)
    rw [if_pos]
    exact Nat.le_trans hmul hsized.data_le
  · have hnone : list.data[i.toNat]? = none := by
      rw [getElem?_eq_none]
      rw [h.data_length]
      exact Nat.le_of_not_lt hi
    rw [hnone]
    split <;> rfl

theorem findLoop_outside (data : Bytes) (fuel : Nat)
    {i : UInt32} (hi : list.n.toNat ≤ i.toNat) (delta : UInt32) (d : Int) :
    list.findLoop data fuel i delta d = none := by
  cases fuel with
  | zero => rfl
  | succ fuel =>
    rw [findLoop, readElement_eq h hsized, getElem?_eq_none (by rw [h.data_length]; exact hi)]

theorem findLoop_eq (data : Bytes) (fuel : Nat)
    (i : UInt32) {delta : UInt32} (hdelta : delta.toNat ≤ list.n.toNat ∨ delta = 1) (d : Int) :
    list.findLoop data fuel i delta d =
      (list.keys.findLoop data fuel i.toNat delta.toNat d).map BSList.FindResult.code := by
  have hn := h.n_lt hsized
  induction fuel generalizing i delta d with
  | zero => rfl
  | succ fuel ih =>
    rw [findLoop, BSList.findLoop, readElement_eq h hsized, getElem?_keys]
    cases hget : list.data[i.toNat]? with
    | none => rfl
    | some element =>
      have hi : i.toNat < list.n.toNat := by
        rw [← h.data_length]
        exact (List.getElem?_eq_some_iff.mp hget).1
      have hone : (1 : UInt32).toNat = 1 := rfl
      have hdelta' : delta.toNat ≤ list.n.toNat := by
        obtain hle | rfl := hdelta
        · exact hle
        · omega
      have hdiv : (delta / 2).toNat = delta.toNat / 2 := UInt32.toNat_div ..
      have hzero : delta / 2 = 0 ↔ delta.toNat / 2 = 0 := by
        rw [← UInt32.toNat_inj]
        rfl
      have hhalf : (delta / 2).toNat ≤ list.n.toNat ∨ delta / 2 = 1 := by
        left
        omega
      rw [Option.map_some]
      dsimp only
      cases memcmp data element with
      | eq =>
        show some i.toInt32 = some ((UInt32.ofNat i.toNat).toInt32)
        rw [UInt32.ofNat_toNat]
      | gt =>
        have hadd : (i + delta).toNat = i.toNat + delta.toNat := by
          rw [UInt32.toNat_add]
          omega
        have hend : i + delta = list.n ↔ i.toNat + delta.toNat = list.keys.n := by
          rw [← UInt32.toNat_inj, hadd, keys_n h]
        by_cases hstop : d = 0 ∨ i.toNat + delta.toNat = list.keys.n
        · rw [if_pos hstop, if_pos (by rw [hend]; exact hstop), ← hadd]
          show some (listIndex (i + delta)) = some (listIndex (UInt32.ofNat (i + delta).toNat))
          rw [UInt32.ofNat_toNat]
        · rw [if_neg hstop, if_neg (by rw [hend]; exact hstop)]
          by_cases hsmall : delta.toNat / 2 = 0
          · rw [if_pos hsmall, if_pos (hzero.mpr hsmall), ih _ (.inr rfl), hadd]
            rfl
          · rw [if_neg hsmall, if_neg (fun h => hsmall (hzero.mp h)), ih _ hhalf, hadd, hdiv]
      | lt =>
        have htop : i = 0 ↔ i.toNat = 0 := by
          rw [← UInt32.toNat_inj]
          rfl
        dsimp only
        by_cases hstop : d = 1 ∨ i.toNat = 0
        · rw [if_pos hstop, if_pos (by rw [htop]; exact hstop)]
          show some (listIndex i) = some (listIndex (UInt32.ofNat i.toNat))
          rw [UInt32.ofNat_toNat]
        · rw [if_neg hstop, if_neg (by rw [htop]; exact hstop)]
          by_cases hwrap : i.toNat < delta.toNat
          · -- the index wraps to one behind the list
            have hout : list.n.toNat ≤ (i - delta).toNat := by
              rw [UInt32.toNat_sub]
              omega
            split
            · exact findLoop_outside h hsized data fuel hout 1 0
            · exact findLoop_outside h hsized data fuel hout (delta / 2) d
          · have hsub : (i - delta).toNat = i.toNat - delta.toNat :=
              UInt32.toNat_sub_of_le _ _ (UInt32.le_iff_toNat_le.mpr (Nat.le_of_not_lt hwrap))
            rw [if_neg hwrap]
            by_cases hsmall : delta.toNat / 2 = 0
            · rw [if_pos hsmall, if_pos (hzero.mpr hsmall), ih _ (.inr rfl), hsub]
              rfl
            · rw [if_neg hsmall, if_neg (fun h => hsmall (hzero.mp h)), ih _ hhalf, hsub, hdiv]

theorem find_eq (data : Bytes) :
    list.find data = (list.keys.find data).map BSList.FindResult.code := by
  have hkeys := keys_n h
  have hzero : list.n = 0 ↔ list.keys.n = 0 := by
    rw [hkeys, ← UInt32.toNat_inj]
    rfl
  unfold find BSList.find
  by_cases hempty : list.keys.n = 0
  · rw [if_pos hempty, if_pos (hzero.mpr hempty)]
    rfl
  · have hhalf : (list.n / 2).toNat = list.keys.n / 2 := by
      rw [hkeys]
      exact UInt32.toNat_div ..
    have hquarter : (list.n / 2 / 2).toNat = list.keys.n / 2 / 2 := by
      rw [← hhalf]
      exact UInt32.toNat_div ..
    have hdelta : list.n / 2 / 2 = 0 ↔ list.keys.n / 2 / 2 = 0 := by
      rw [← hquarter, ← UInt32.toNat_inj]
      rfl
    rw [if_neg hempty, if_neg (fun h => hempty (hzero.mp h))]
    dsimp only
    by_cases hsmall : list.keys.n / 2 / 2 = 0
    · rw [if_pos hsmall, if_pos (hdelta.mpr hsmall), findLoop_eq h hsized _ _ _ (.inr rfl), hhalf, ← hkeys]
      rfl
    · rw [if_neg hsmall, if_neg (fun h => hsmall (hdelta.mp h)),
        findLoop_eq h hsized _ _ _ (.inl (by rw [hquarter]; omega)), hhalf, hquarter, ← hkeys]

end

end

/-- The search ends with the index of the data, or with the complement of the index where it
    belongs. -/
theorem find_spec (h : list.Aligned) (hsized : list.Sized) (data : Bytes) :
    (∃ i : Nat, ∃ r, list.find data = some r ∧ ¬r < 0 ∧ r.toInt.toNat = i ∧ list.data[i]? = some data) ∨
    (∃ i : Nat, ∃ r, list.find data = some r ∧ r < 0 ∧ (~~~r).toInt.toNat = i ∧
      list.keys.Locates data (.insertAt i)) := by
  have hn := h.n_lt hsized
  have hkeys := keys_n h
  obtain ⟨r, hr, hloc⟩ := BSList.find_spec h.sorted data
  have hfind := find_eq h hsized data
  rw [hr] at hfind
  cases r with
  | found i =>
    obtain ⟨id, hid⟩ := hloc
    rw [getElem?_keys] at hid
    obtain ⟨element, helement, heq⟩ := Option.map_eq_some_iff.mp hid
    obtain rfl : element = data := congrArg Prod.fst heq
    have hi : i < list.n.toNat := by
      rw [← h.data_length]
      exact (List.getElem?_eq_some_iff.mp helement).1
    have hofNat : (UInt32.ofNat i).toNat = i := UInt32.toNat_ofNat_of_lt' (by
      show _ < 2 ^ 32
      omega)
    refine .inl ⟨i, _, hfind, toInt32_nonneg (by rw [hofNat]; omega), ?_, helement⟩
    show ((UInt32.ofNat i).toInt32).toInt.toNat = i
    rw [toInt_toInt32 (by rw [hofNat]; omega), hofNat]
    rfl
  | insertAt i =>
    have hi : i ≤ list.n.toNat := by
      rw [← hkeys]
      exact hloc.1
    have hofNat : (UInt32.ofNat i).toNat = i := UInt32.toNat_ofNat_of_lt' (by
      show _ < 2 ^ 32
      omega)
    refine .inr ⟨i, _, hfind, listIndex_neg (by rw [hofNat]; omega), ?_, hloc⟩
    show (~~~(listIndex (UInt32.ofNat i))).toInt.toNat = i
    rw [not_listIndex, toInt_toInt32 (by rw [hofNat]; omega), hofNat]
    rfl

/-! ## Resizing -/

/-- A resize whose first reallocation succeeds leaves enough bytes for the capacity. -/
def ResizeSafe (list : BSListArrays) (newSize : UInt32) (okData okIds : Bool) : Prop :=
  okData → list.elementSize.toNat * (if okIds then newSize else list.capacity).toNat ≤
    (list.elementSize * newSize).toNat

def resized (list : BSListArrays) (newSize : UInt32) (okData okIds : Bool) : Bool × BSListArrays :=
  match list.resize newSize okData okIds with
  | (false, list) => (false, list)
  | (true, list) => (true, { list with capacity := newSize })

variable {newSize : UInt32}

theorem resized_eq (list : BSListArrays) (hne : newSize ≠ 0) (okData okIds : Bool) :
    list.resized newSize okData okIds =
      (okData && okIds,
        { list with
          capacity := if okData && okIds then newSize else list.capacity
          dataSize := if okData then (list.elementSize * newSize).toNat else list.dataSize
          idsSize := if okData && okIds then newSize.toNat else list.idsSize }) := by
  unfold resized resize
  rw [if_neg hne]
  cases okData with
  | false => rfl
  | true => cases okIds <;> rfl

theorem sized_resized_iff (hsized : list.Sized) (hne : newSize ≠ 0) (hn : list.n ≤ newSize) (okData okIds : Bool) :
    (list.resized newSize okData okIds).2.Sized ↔ list.ResizeSafe newSize okData okIds := by
  have hlt := (list.elementSize * newSize).toNat_lt
  rw [resized_eq list hne]
  cases okData with
  | false => exact ⟨fun _ h => (nomatch h), fun _ => hsized⟩
  | true =>
    cases okIds with
    | false =>
      constructor
      · intro h _
        exact h.data_le
      · intro h
        exact ⟨hsized.n_le, h rfl, hsized.ids_le, hlt⟩
    | true =>
      constructor
      · intro h _
        exact h.data_le
      · intro h
        exact ⟨hn, h rfl, le_rfl, hlt⟩

/-- What `bs_list_add` asks for when the arrays are full. -/
def grownCapacity (list : BSListArrays) : UInt32 := list.n + list.n / 2 + 1

theorem lt_grownCapacity (hn : list.n.toNat < 2 ^ 31) : list.n < list.grownCapacity := by
  have hdiv : (list.n / 2).toNat = list.n.toNat / 2 := UInt32.toNat_div ..
  have hone : (1 : UInt32).toNat = 1 := rfl
  have hhalf : list.n.toNat + list.n.toNat / 2 < 2 ^ 32 := by omega
  rw [UInt32.lt_iff_toNat_lt, grownCapacity, UInt32.toNat_add, UInt32.toNat_add, hdiv, hone,
    Nat.mod_eq_of_lt hhalf, Nat.mod_eq_of_lt (by omega)]
  omega

theorem makeRoom_eq (list : BSListArrays) (okData okIds : Bool) :
    list.makeRoom okData okIds =
      if list.n = list.capacity then list.resized list.grownCapacity okData okIds
      else (true, list) := rfl

theorem giveBack_eq (list : BSListArrays) (okData okIds : Bool) :
    list.giveBack okData okIds =
      if list.n < list.capacity / 2 then (list.resized (list.capacity / 2) okData okIds).2
      else list := by
  unfold giveBack resized
  split
  · dsimp only
    generalize list.resize (list.capacity / 2) okData okIds = result
    obtain ⟨ok, list'⟩ := result
    cases ok <;> rfl
  · rfl

theorem ne_zero_of_lt {m n : UInt32} (h : m < n) : n ≠ 0 := by
  intro hzero
  rw [hzero] at h
  exact Nat.not_lt_zero _ h

/-! ## Maps -/

structure Refines (list : BSListArrays) (map : Bytes → Option Int32) : Prop where
  aligned : list.Aligned
  sized : list.Sized
  lookup : ∀ data id, map data = some id ↔ (data, id) ∈ list.data.zip list.ids

variable {map : Bytes → Option Int32}

variable {i : Nat} {data : Bytes}

theorem Refines.map_eq (h : list.Refines map) (hdata : list.data[i]? = some data)
    : ∃ id, list.ids[i]? = some id ∧ map data = some id := by
  have hi : i < list.ids.length := by
    rw [h.aligned.ids_length, ← h.aligned.data_length]
    exact (List.getElem?_eq_some_iff.mp hdata).1
  have hid := getElem?_eq_getElem hi
  have hzip : (list.data.zip list.ids)[i]? = some (data, list.ids[i]) :=
    getElem?_zip_eq_some.mpr ⟨hdata, hid⟩
  exact ⟨_, hid, (h.lookup data _).mpr (mem_of_getElem? hzip)⟩

theorem Refines.map_eq_none (h : list.Refines map) (hnot : data ∉ list.data) :
    map data = none := by
  cases hmap : map data with
  | none => rfl
  | some id => exact absurd (of_mem_zip ((h.lookup data id).mp hmap)).1 hnot

theorem not_mem_of_locates (hloc : list.keys.Locates data (.insertAt i)) :
    data ∉ list.data :=
  fun hmem => hloc.not_mem 0 (mem_map.mpr ⟨data, hmem, rfl⟩)

variable {id : Int32}

theorem Refines.readId (h : list.Refines map) {r : Int32} (hr : r.toInt.toNat = i) (hid : list.ids[i]? = some id)
    : list.readId r = some id := by
  have hi := (List.getElem?_eq_some_iff.mp hid).1
  have hn := UInt32.le_iff_toNat_le.mp h.sized.n_le
  have hids := h.sized.ids_le
  rw [h.aligned.ids_length] at hi
  rw [BSListArrays.readId, hr, if_pos (by omega), hid]

theorem Refines.bsListFind (h : list.Refines map) (data : Bytes) :
    list.bsListFind data = some ((map data).getD (-1)) := by
  unfold BSListArrays.bsListFind
  obtain ⟨i, r, hfind, hneg, hr, hdata⟩ | ⟨i, r, hfind, hneg, hr, hloc⟩ :=
    find_spec h.aligned h.sized data
  · obtain ⟨id, hid, hmap⟩ := h.map_eq hdata
    rw [hfind, hmap]
    dsimp only
    rw [if_neg hneg, h.readId hr hid]
    rfl
  · rw [hfind, h.map_eq_none (not_mem_of_locates hloc)]
    dsimp only
    rw [if_pos hneg]
    rfl

/-! ## Adding and removing -/

theorem sized_makeRoom_iff (h : list.Aligned) (hsized : list.Sized) (okData okIds : Bool) :
    (list.makeRoom okData okIds).2.Sized ↔
      (list.n = list.capacity → list.ResizeSafe list.grownCapacity okData okIds) := by
  have hgrow := lt_grownCapacity (h.n_lt hsized)
  rw [makeRoom_eq]
  by_cases hfull : list.n = list.capacity
  · rw [if_pos hfull, sized_resized_iff hsized (ne_zero_of_lt hgrow) (UInt32.le_of_lt hgrow)]
    exact ⟨fun h _ => h, fun h => h hfull⟩
  · rw [if_neg hfull]
    exact ⟨fun _ h => absurd h hfull, fun _ => hsized⟩

theorem sized_giveBack_iff (hsized : list.Sized) (okData okIds : Bool) :
    (list.giveBack okData okIds).Sized ↔
      (list.n < list.capacity / 2 → list.ResizeSafe (list.capacity / 2) okData okIds) := by
  rw [giveBack_eq]
  by_cases hfew : list.n < list.capacity / 2
  · rw [if_pos hfew, sized_resized_iff hsized (ne_zero_of_lt hfew) (UInt32.le_of_lt hfew)]
    exact ⟨fun h _ => h, fun h => h hfew⟩
  · rw [if_neg hfew]
    exact ⟨fun _ h => absurd h hfew, fun _ => hsized⟩

def contents (list : BSListArrays) : UInt32 × UInt32 × List Bytes × List Int32 :=
  (list.n, list.elementSize, list.data, list.ids)

theorem contents_resized (list : BSListArrays) (hne : newSize ≠ 0) (okData okIds : Bool)
    : (list.resized newSize okData okIds).2.contents = list.contents := by
  rw [resized_eq list hne]
  rfl

variable {list' : BSListArrays}

theorem Aligned.of_contents (h : list.Aligned) (hcontents : list'.contents = list.contents) : list'.Aligned := by
  obtain ⟨n, capacity, elementSize, data, dataSize, ids, idsSize⟩ := list
  obtain ⟨rfl, hcontents⟩ := Prod.mk.injEq .. ▸ hcontents
  obtain ⟨rfl, hcontents⟩ := Prod.mk.injEq .. ▸ hcontents
  obtain ⟨rfl, rfl⟩ := Prod.mk.injEq .. ▸ hcontents
  exact ⟨h.data_length, h.ids_length, h.element_length, h.sorted⟩

theorem makeRoom_spec (h : list.Aligned) (hsized : list.Sized) (okData okIds : Bool) :
    (list.makeRoom okData okIds).2.contents = list.contents ∧
      ((list.makeRoom okData okIds).1 = true ↔ list.n < list.capacity ∨ okData = true ∧ okIds = true) ∧
      ((list.makeRoom okData okIds).1 = true →
        list.n < (list.makeRoom okData okIds).2.capacity) := by
  have hgrow := lt_grownCapacity (h.n_lt hsized)
  rw [makeRoom_eq]
  by_cases hfull : list.n = list.capacity
  · have hroom : ¬list.n < list.capacity := by
      rw [hfull]
      exact UInt32.lt_irrefl _
    rw [if_pos hfull, contents_resized list (ne_zero_of_lt hgrow),
      resized_eq list (ne_zero_of_lt hgrow), or_iff_right hroom]
    refine ⟨rfl, Bool.and_eq_true_iff, ?_⟩
    intro hok
    rw [if_pos hok]
    exact hgrow
  · have hroom : list.n < list.capacity :=
      UInt32.lt_of_le_of_ne hsized.n_le hfull
    rw [if_neg hfull]
    exact ⟨rfl, ⟨fun _ => .inl hroom, fun _ => rfl⟩, fun _ => hroom⟩

theorem contents_giveBack (list : BSListArrays) (okData okIds : Bool) :
    (list.giveBack okData okIds).contents = list.contents := by
  rw [giveBack_eq]
  split
  · rename_i hfew
    exact contents_resized list (ne_zero_of_lt hfew) okData okIds
  · rfl

/-! ## Inserting and erasing -/

theorem keys_insertIdx (list : BSListArrays) (i : Nat) (data : Bytes) :
    (list.data.insertIdx i data).map (fun data => (data, 0)) =
      list.keys.entries.insertIdx i (data, 0) :=
  map_insertIdx ..

theorem aligned_insertAt (h : list.Aligned) (hn : list.n.toNat < 2 ^ 31)
    (hlength : data.length = list.elementSize.toNat) (hloc : list.keys.Locates data (.insertAt i))
    (hinsert : list.insertAt i data id = some list') :
    list'.Aligned ∧ ∀ data' id', (data', id') ∈ list'.data.zip list'.ids ↔
      (data', id') = (data, id) ∨ (data', id') ∈ list.data.zip list.ids := by
  obtain ⟨hi, hbefore, hafter⟩ := hloc
  rw [keys_n h] at hi
  have hone : (1 : UInt32).toNat = 1 := rfl
  have hsucc : (list.n + 1).toNat = list.n.toNat + 1 := by
    rw [UInt32.toNat_add, hone, Nat.mod_eq_of_lt (by omega)]
  obtain rfl := Option.some.inj (Option.dite_none_right_eq_some.mp hinsert).2
  refine ⟨⟨?_, ?_, ?_, ?_⟩, ?_⟩
  · rw [hsucc, length_insertIdx_of_le_length (by rw [h.data_length]; exact hi), h.data_length]
  · rw [hsucc, length_insertIdx_of_le_length (by rw [h.ids_length]; exact hi), h.ids_length]
  · intro data' hmem
    obtain rfl | hmem := eq_or_mem_of_mem_insertIdx hmem
    · exact hlength
    · exact h.element_length data' hmem
  · show List.Pairwise _ ((list.data.insertIdx i data).map fun data => (data, 0))
    rw [keys_insertIdx]
    exact List.pairwise_insertIdx h.sorted hbefore hafter
  · intro data' id'
    rw [List.zip_insertIdx (h.data_length.trans h.ids_length.symm), mem_insertIdx]
    rw [length_zip, h.data_length, h.ids_length, Nat.min_self]
    exact hi

theorem aligned_removeAt (h : list.Aligned) (hdata : list.data[i]? = some data) (hremove : list.removeAt i = some list')
    :
    list'.Aligned ∧ ∀ data' id', (data', id') ∈ list'.data.zip list'.ids ↔
      (data', id') ∈ list.data.zip list.ids ∧ data' ≠ data := by
  have hi := (List.getElem?_eq_some_iff.mp hdata).1
  have hi' : i < list.ids.length := by
    rw [h.ids_length, ← h.data_length]
    exact hi
  have hpred : (list.n - 1).toNat = list.n.toNat - 1 := by
    rw [h.data_length] at hi
    exact UInt32.toNat_sub_of_le _ _ (UInt32.le_iff_toNat_le.mpr (Nat.succ_le_of_lt (Nat.zero_lt_of_lt hi)))
  obtain rfl := Option.some.inj (Option.dite_none_right_eq_some.mp hremove).2
  refine ⟨⟨?_, ?_, ?_, ?_⟩, ?_⟩
  · rw [hpred, length_eraseIdx_of_lt hi, h.data_length]
  · rw [hpred, length_eraseIdx_of_lt hi', h.ids_length]
  · exact fun data' hmem => h.element_length data' (mem_of_mem_eraseIdx hmem)
  · show List.Pairwise _ ((list.data.eraseIdx i).map fun data => (data, 0))
    rw [← eraseIdx_map]
    exact List.Pairwise.eraseIdx i h.sorted
  · intro data' id'
    have hzip : (list.data.zip list.ids)[i]? = some (data, list.ids[i]) :=
      getElem?_zip_eq_some.mpr ⟨hdata, getElem?_eq_getElem hi'⟩
    have hfst : (list.data.zip list.ids).map Prod.fst = list.data :=
      map_fst_zip (Nat.le_of_eq (h.data_length.trans h.ids_length.symm))
    have hnodup : ((list.data.zip list.ids).map Prod.fst).Nodup := by
      rw [hfst]
      exact h.nodup
    rw [List.zip_eraseIdx, List.mem_eraseIdx_iff_of_nodup_map hnodup hzip]

/-! ## The operations -/

/-- What `bs_list_add` needs from `realloc`. -/
def AddSafe (list : BSListArrays) (data : Bytes) (okData okIds : Bool) : Prop :=
  data ∉ list.data → list.n = list.capacity → list.ResizeSafe list.grownCapacity okData okIds

/-- What `bs_list_remove` needs from `realloc`: not only the first of the two calls succeeds. -/
def RemoveSafe (list : BSListArrays) (data : Bytes) (id : Int32) (okData okIds : Bool) : Prop :=
  (data, id) ∈ list.data.zip list.ids → list.n < list.capacity / 2 → okData → okIds ∨ list.elementSize = 0

theorem resizeSafe_half_iff (hsized : list.Sized) (hfew : list.n < list.capacity / 2) (okData okIds : Bool) :
    list.ResizeSafe (list.capacity / 2) okData okIds ↔ (okData → okIds ∨ list.elementSize = 0) := by
  have hhalf : (list.capacity / 2).toNat = list.capacity.toNat / 2 := UInt32.toNat_div ..
  have hpos : 0 < list.capacity.toNat / 2 := by
    exact Nat.zero_lt_of_lt hfew
  have hle := Nat.mul_le_mul_left list.elementSize.toNat (Nat.div_le_self list.capacity.toNat 2)
  have hbytes : (list.elementSize * (list.capacity / 2)).toNat =
      list.elementSize.toNat * (list.capacity.toNat / 2) := by
    have hdata := hsized.data_le
    have hlt := hsized.dataSize_lt
    rw [UInt32.toNat_mul, hhalf, Nat.mod_eq_of_lt (by omega)]
  unfold ResizeSafe
  rw [hbytes]
  cases okIds with
  | true =>
    constructor
    · exact fun _ _ => .inl rfl
    · intro _ _
      show _ * (list.capacity / 2).toNat ≤ _
      rw [hhalf]
  | false =>
    have hzero : list.elementSize.toNat * list.capacity.toNat ≤
        list.elementSize.toNat * (list.capacity.toNat / 2) ↔ list.elementSize = 0 := by
      constructor
      · intro hmul
        by_contra hne
        have hsize : 0 < list.elementSize.toNat := by
          rw [← UInt32.toNat_inj] at hne
          exact Nat.pos_of_ne_zero hne
        have hcap := Nat.le_of_mul_le_mul_left hmul hsize
        omega
      · intro h
        rw [h]
        exact Nat.le_of_eq ((Nat.zero_mul _).trans (Nat.zero_mul _).symm)
    constructor
    · exact fun h hok => .inr (hzero.mp (h hok))
    · intro h hok
      exact hzero.mpr ((h hok).resolve_left Bool.false_ne_true)

theorem sized_insertAt_iff (hroom : list.n < list.capacity) (hinsert : list.insertAt i data id = some list') :
    list'.Sized ↔ list.Sized := by
  obtain rfl := Option.some.inj (Option.dite_none_right_eq_some.mp hinsert).2
  constructor
  · exact fun h => ⟨UInt32.le_of_lt hroom, h.data_le, h.ids_le, h.dataSize_lt⟩
  · intro h
    refine ⟨?_, h.data_le, h.ids_le, h.dataSize_lt⟩
    have hlt := UInt32.lt_iff_toNat_lt.mp hroom
    have hcap := list.capacity.toNat_lt
    have hone : (1 : UInt32).toNat = 1 := rfl
    rw [UInt32.le_iff_toNat_le, UInt32.toNat_add, Nat.mod_eq_of_lt (by omega)]
    exact hlt

theorem sized_removeAt_iff (hn : list.n ≤ list.capacity) (hpos : 0 < list.n.toNat)
    (hremove : list.removeAt i = some list') :
    list'.Sized ↔ list.Sized := by
  obtain rfl := Option.some.inj (Option.dite_none_right_eq_some.mp hremove).2
  constructor
  · exact fun h => ⟨hn, h.data_le, h.ids_le, h.dataSize_lt⟩
  · intro h
    refine ⟨?_, h.data_le, h.ids_le, h.dataSize_lt⟩
    have hle := UInt32.le_iff_toNat_le.mp hn
    have hone : (1 : UInt32).toNat = 1 := rfl
    show list.n - 1 ≤ list.capacity
    rw [UInt32.le_iff_toNat_le, UInt32.toNat_sub_of_le _ _ (UInt32.le_iff_toNat_le.mpr (hone ▸ hpos))]
    omega

theorem Refines.of_contents (h : list.Refines map) (hcontents : list'.contents = list.contents) (hsized : list'.Sized)
    : list'.Refines map := by
  obtain ⟨-, hrest⟩ := Prod.mk.inj hcontents
  obtain ⟨-, hrest⟩ := Prod.mk.inj hrest
  obtain ⟨hdata, hids⟩ := Prod.mk.inj hrest
  refine ⟨h.aligned.of_contents hcontents, hsized, fun data id => ?_⟩
  rw [hdata, hids]
  exact h.lookup data id

theorem Refines.insertAt (h : list.Refines map) (hroom : list.n < list.capacity)
    (hlength : data.length = list.elementSize.toNat) (hloc : list.keys.Locates data (.insertAt i)) (id : Int32) :
    ∃ list', list.insertAt i data id = some list' ∧
      list'.Refines (Function.update map data (some id)) := by
  have hlt := UInt32.lt_iff_toNat_lt.mp hroom
  have hdata := Nat.le_trans (Nat.mul_le_mul_left _ hlt) h.sized.data_le
  have hids := Nat.le_trans hlt h.sized.ids_le
  have hinsert : list.insertAt i data id = some _ := if_pos ⟨hdata, hids⟩
  obtain ⟨haligned, hzip⟩ :=
    aligned_insertAt h.aligned (h.aligned.n_lt h.sized) hlength hloc hinsert
  refine ⟨_, hinsert, haligned, (sized_insertAt_iff hroom hinsert).mpr h.sized, ?_⟩
  intro data' id'
  rw [hzip]
  by_cases heq : data' = data
  · subst heq
    rw [Function.update_self]
    constructor
    · intro hid
      exact .inl (by rw [Option.some.inj hid])
    · rintro (hid | hmem)
      · rw [(Prod.mk.inj hid).2]
      · exact absurd (of_mem_zip hmem).1 (not_mem_of_locates hloc)
  · rw [Function.update_of_ne heq, h.lookup]
    exact ⟨.inr, fun hmem => hmem.resolve_left fun hid => heq (Prod.mk.inj hid).1⟩

theorem Refines.removeAt (h : list.Refines map) (hdata : list.data[i]? = some data) :
    ∃ list', list.removeAt i = some list' ∧ list'.Refines (Function.update map data none) := by
  have hle := UInt32.le_iff_toNat_le.mp h.sized.n_le
  have hi := (List.getElem?_eq_some_iff.mp hdata).1
  rw [h.aligned.data_length] at hi
  have hbytes := Nat.le_trans (Nat.mul_le_mul_left _ hle) h.sized.data_le
  have hids := Nat.le_trans hle h.sized.ids_le
  have hremove : list.removeAt i = some _ := if_pos (.inr ⟨hbytes, hids⟩)
  obtain ⟨haligned, hzip⟩ := aligned_removeAt h.aligned hdata hremove
  have hpos := Nat.zero_lt_of_lt hi
  refine ⟨_, hremove, haligned, (sized_removeAt_iff h.sized.n_le hpos hremove).mpr h.sized, ?_⟩
  intro data' id'
  rw [hzip]
  by_cases heq : data' = data
  · subst heq
    rw [Function.update_self]
    exact ⟨nofun, fun hmem => absurd rfl hmem.2⟩
  · rw [Function.update_of_ne heq, h.lookup]
    exact ⟨fun hmem => ⟨hmem, heq⟩, And.left⟩

/-- The map after `bs_list_add` or `bs_list_remove` returned `ok`. -/
def updated (map : Bytes → Option Int32) (data : Bytes) (value : Option Int32) (ok : Bool) :
    Bytes → Option Int32 :=
  if ok then Function.update map data value else map

variable {okData okIds : Bool}

theorem Refines.bsListAdd (h : list.Refines map) (hlength : data.length = list.elementSize.toNat) (id : Int32)
    (hsafe : list.AddSafe data okData okIds) :
    ∃ ok list', list.bsListAdd data id okData okIds = some (ok, list') ∧
      (ok = true ↔ map data = none ∧ (list.n < list.capacity ∨ okData = true ∧ okIds = true)) ∧
      list'.Refines (updated map data (some id) ok) := by
  unfold BSListArrays.bsListAdd
  obtain ⟨i, r, hfind, hneg, hr, hdata⟩ | ⟨i, r, hfind, hneg, hr, hloc⟩ :=
    find_spec h.aligned h.sized data
  · -- already in list
    obtain ⟨id', -, hmap⟩ := h.map_eq hdata
    rw [hfind]
    dsimp only
    rw [if_pos (Int32.not_lt.mp hneg)]
    refine ⟨false, list, rfl, ?_, h⟩
    rw [hmap]
    exact ⟨nofun, fun hnone => nomatch hnone.1⟩
  · have hnot := not_mem_of_locates hloc
    have hmap := h.map_eq_none hnot
    obtain ⟨hcontents, hok, hroom⟩ := makeRoom_spec h.aligned h.sized okData okIds
    have hsized := (sized_makeRoom_iff h.aligned h.sized okData okIds).mpr (hsafe hnot)
    rw [hfind]
    dsimp only
    rw [if_neg (Int32.not_le.mpr hneg), hr]
    generalize list.makeRoom okData okIds = result at hcontents hok hroom hsized
    obtain ⟨ok, room⟩ := result
    have hroomRefines : room.Refines map := h.of_contents hcontents hsized
    obtain ⟨hn, hrest⟩ := Prod.mk.inj hcontents
    obtain ⟨hsize, hrest⟩ := Prod.mk.inj hrest
    obtain ⟨hdata, -⟩ := Prod.mk.inj hrest
    cases ok with
    | false =>
      refine ⟨false, room, rfl, ?_, hroomRefines⟩
      rw [← hok]
      exact ⟨nofun, fun hnone => hnone.2⟩
    | true =>
      have hcap : room.n < room.capacity := by
        rw [hn]
        exact hroom rfl
      have hloc' : room.keys.Locates data (.insertAt i) := by
        unfold keys
        rw [hdata]
        exact hloc
      obtain ⟨list', hinsert, hrefines⟩ := hroomRefines.insertAt hcap (hsize ▸ hlength) hloc' id
      dsimp only
      rw [hinsert]
      exact ⟨true, list', rfl, ⟨fun _ => ⟨hmap, hok.mp rfl⟩, fun _ => rfl⟩, hrefines⟩

variable {ok : Bool}

theorem Refines.addSafe (h : list.Refines map) (hadd : list.bsListAdd data id okData okIds = some (ok, list'))
    (hsized' : list'.Sized) :
    list.AddSafe data okData okIds := by
  intro hnot
  unfold BSListArrays.bsListAdd at hadd
  obtain ⟨i, r, hfind, hneg, hr, hdata⟩ | ⟨i, r, hfind, hneg, hr, hloc⟩ :=
    find_spec h.aligned h.sized data
  · exact absurd (mem_of_getElem? hdata) hnot
  · obtain ⟨hcontents, -, hroom⟩ := makeRoom_spec h.aligned h.sized okData okIds
    rw [hfind] at hadd
    dsimp only at hadd
    rw [if_neg (Int32.not_le.mpr hneg)] at hadd
    rw [← sized_makeRoom_iff h.aligned h.sized]
    generalize list.makeRoom okData okIds = room at hcontents hroom hadd
    obtain ⟨ok', room⟩ := room
    obtain ⟨hn', -⟩ := Prod.mk.inj hcontents
    cases ok' with
    | false =>
      cases hadd
      exact hsized'
    | true =>
      obtain ⟨list'', hinsert, heq⟩ := Option.map_eq_some_iff.mp hadd
      cases heq
      refine (sized_insertAt_iff ?_ hinsert).mp hsized'
      rw [hn']
      exact hroom rfl

theorem n_le_giveBack (hsized : list.Sized) (okData okIds : Bool) :
    (list.giveBack okData okIds).n ≤ (list.giveBack okData okIds).capacity := by
  rw [giveBack_eq]
  split
  · rename_i hfew
    rw [resized_eq list (ne_zero_of_lt hfew)]
    split
    · exact UInt32.le_of_lt hfew
    · exact hsized.n_le
  · exact hsized.n_le

theorem Refines.bsListRemove (h : list.Refines map) (data : Bytes) (id : Int32)
    (hsafe : list.RemoveSafe data id okData okIds) :
    ∃ ok list', list.bsListRemove data id okData okIds = some (ok, list') ∧
      (ok = true ↔ map data = some id) ∧ list'.Refines (updated map data none ok) := by
  unfold BSListArrays.bsListRemove
  obtain ⟨i, r, hfind, hneg, hr, hdata⟩ | ⟨i, r, hfind, hneg, hr, hloc⟩ :=
    find_spec h.aligned h.sized data
  · obtain ⟨found, hid, hmap⟩ := h.map_eq hdata
    rw [hfind]
    dsimp only
    rw [if_neg hneg, h.readId hr hid, hmap, Option.some_inj]
    dsimp only
    by_cases hne : found ≠ id
    · -- the data belongs to another id
      rw [if_pos hne]
      exact ⟨false, list, rfl, ⟨nofun, fun heq => absurd heq hne⟩, h⟩
    · obtain rfl := Decidable.of_not_not hne
      have hsized : (list.giveBack okData okIds).Sized := by
        rw [sized_giveBack_iff h.sized]
        intro hfew
        rw [resizeSafe_half_iff h.sized hfew]
        exact hsafe ((h.lookup data found).mp hmap) hfew
      have hcontents := contents_giveBack list okData okIds
      have hdata' : (list.giveBack okData okIds).data[i]? = some data := by
        obtain ⟨-, hrest⟩ := Prod.mk.inj hcontents
        obtain ⟨-, hrest⟩ := Prod.mk.inj hrest
        rw [(Prod.mk.inj hrest).1]
        exact hdata
      obtain ⟨list', hremove, hrefines⟩ := (h.of_contents hcontents hsized).removeAt hdata'
      rw [if_neg hne, hr, hremove]
      exact ⟨true, list', rfl, ⟨fun _ => rfl, fun _ => rfl⟩, hrefines⟩
  · rw [hfind, h.map_eq_none (not_mem_of_locates hloc)]
    dsimp only
    rw [if_pos hneg]
    exact ⟨false, list, rfl, ⟨nofun, nofun⟩, h⟩

theorem Refines.removeSafe (h : list.Refines map) (hremove : list.bsListRemove data id okData okIds = some (ok, list'))
    (hsized' : list'.Sized) :
    list.RemoveSafe data id okData okIds := by
  intro hmem hfew
  have hmap := (h.lookup data id).mpr hmem
  unfold BSListArrays.bsListRemove at hremove
  obtain ⟨i, r, hfind, hneg, hr, hdata⟩ | ⟨i, r, hfind, hneg, hr, hloc⟩ :=
    find_spec h.aligned h.sized data
  · obtain ⟨found, hid, hfound⟩ := h.map_eq hdata
    cases hfound.symm.trans hmap
    rw [hfind] at hremove
    dsimp only at hremove
    rw [if_neg hneg, h.readId hr hid] at hremove
    dsimp only at hremove
    rw [if_neg (not_not_intro rfl)] at hremove
    obtain ⟨list'', hremoveAt, heq⟩ := Option.map_eq_some_iff.mp hremove
    cases heq
    have hpos : 0 < (list.giveBack okData okIds).n.toNat := by
      rw [(Prod.mk.inj (contents_giveBack list okData okIds)).1, ← h.aligned.data_length]
      exact Nat.zero_lt_of_lt (List.getElem?_eq_some_iff.mp hdata).1
    have hsized :=
      (sized_removeAt_iff (n_le_giveBack h.sized okData okIds) hpos hremoveAt).mp hsized'
    rw [sized_giveBack_iff h.sized] at hsized
    exact (resizeSafe_half_iff h.sized hfew okData okIds).mp (hsized hfew)
  · exact absurd (of_mem_zip hmem).1 (not_mem_of_locates hloc)

/-! ## The element size -/

theorem elementSize_resize (list : BSListArrays) (newSize : UInt32) (okData okIds : Bool) :
    (list.resize newSize okData okIds).2.elementSize = list.elementSize := by
  unfold resize
  split
  · rfl
  · cases okData with
    | false => rfl
    | true => cases okIds <;> rfl

theorem elementSize_makeRoom (list : BSListArrays) (okData okIds : Bool) :
    (list.makeRoom okData okIds).2.elementSize = list.elementSize := by
  have hresize := elementSize_resize list list.grownCapacity okData okIds
  rw [makeRoom_eq]
  split
  · unfold resized
    generalize list.resize list.grownCapacity okData okIds = result at hresize
    obtain ⟨ok, list'⟩ := result
    cases ok <;> exact hresize
  · rfl

theorem elementSize_bsListAdd (hadd : list.bsListAdd data id okData okIds = some (ok, list')) :
    list'.elementSize = list.elementSize := by
  have hroom := elementSize_makeRoom list okData okIds
  unfold bsListAdd at hadd
  generalize list.makeRoom okData okIds = result at hroom hadd
  obtain ⟨ok', room⟩ := result
  cases hfind : list.find data with
  | none =>
    rw [hfind] at hadd
    exact nomatch hadd
  | some r =>
    rw [hfind] at hadd
    dsimp only at hadd
    split at hadd
    · cases hadd
      rfl
    · cases ok' with
      | false =>
        cases hadd
        exact hroom
      | true =>
        obtain ⟨list'', hinsert, heq⟩ := Option.map_eq_some_iff.mp hadd
        cases heq
        obtain rfl := Option.some.inj (Option.dite_none_right_eq_some.mp hinsert).2
        exact hroom

theorem elementSize_bsListRemove (hremove : list.bsListRemove data id okData okIds = some (ok, list')) :
    list'.elementSize = list.elementSize := by
  unfold bsListRemove at hremove
  cases hfind : list.find data with
  | none =>
    rw [hfind] at hremove
    exact nomatch hremove
  | some r =>
    rw [hfind] at hremove
    dsimp only at hremove
    split at hremove
    · cases hremove
      rfl
    · split at hremove
      · cases hremove
      · split at hremove
        · cases hremove
          rfl
        · obtain ⟨list'', hremoveAt, heq⟩ := Option.map_eq_some_iff.mp hremove
          cases heq
          obtain rfl := Option.some.inj (Option.dite_none_right_eq_some.mp hremoveAt).2
          exact (Prod.mk.inj (Prod.mk.inj (contents_giveBack list okData okIds)).2).1

/-! ## Initialization -/

/-- What `bs_list_init` needs from `realloc`. -/
def InitSafe (elementSize initialCapacity : UInt32) (okData okIds : Bool) : Prop :=
  initialCapacity ≠ 0 → (empty elementSize).ResizeSafe initialCapacity okData okIds

theorem sized_empty (elementSize : UInt32) : (empty elementSize).Sized :=
  ⟨UInt32.le_refl _, le_rfl, le_rfl, Nat.zero_lt_succ _⟩

theorem aligned_empty (elementSize : UInt32) : (empty elementSize).Aligned :=
  ⟨rfl, rfl, fun _ hmem => (nomatch hmem), List.Pairwise.nil⟩

theorem bsListInit_eq (elementSize : UInt32) {initialCapacity : UInt32} (hne : initialCapacity ≠ 0)
    (okData okIds : Bool) :
    bsListInit elementSize initialCapacity okData okIds =
      (empty elementSize).resized initialCapacity okData okIds := by
  exact if_pos hne

theorem sized_bsListInit_iff (elementSize initialCapacity : UInt32) (okData okIds : Bool) :
    (bsListInit elementSize initialCapacity okData okIds).2.Sized ↔
      InitSafe elementSize initialCapacity okData okIds := by
  by_cases hne : initialCapacity ≠ 0
  · have hle : (0 : UInt32) ≤ initialCapacity := UInt32.zero_le
    rw [bsListInit_eq elementSize hne, sized_resized_iff (sized_empty elementSize) hne hle]
    exact ⟨fun h _ => h, fun h => h hne⟩
  · obtain rfl := Decidable.of_not_not hne
    exact ⟨fun _ h => absurd rfl h, fun _ => sized_empty elementSize⟩

theorem contents_bsListInit (elementSize initialCapacity : UInt32) (okData okIds : Bool) :
    (bsListInit elementSize initialCapacity okData okIds).2.contents = (empty elementSize).contents := by
  by_cases hne : initialCapacity ≠ 0
  · rw [bsListInit_eq elementSize hne, contents_resized _ hne]
  · obtain rfl := Decidable.of_not_not hne
    rfl

theorem refines_empty (elementSize : UInt32) : (empty elementSize).Refines fun _ => none :=
  ⟨aligned_empty elementSize, sized_empty elementSize, fun _ _ => ⟨nofun, fun hmem => (nomatch hmem)⟩⟩

end BSListArrays

end Toxcore

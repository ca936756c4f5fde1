import Toxcore.Native.BSList
import Toxcore.ForStd.List

/-!
# Correctness of the sorted lists of `list.c`

`memcmp` is a total order, and on a list sorted by it the search loop of `find` ends with
the index of the data or with the index where the data belongs.  So a `BS_List` behaves as
a map from byte strings to ids.
-/

namespace Toxcore

open List

/-! ## The order of `memcmp` -/

theorem memcmp_eq_compareLex (a b : Bytes) :
    memcmp a b = List.compareLex (compareOn UInt8.toNat) a b := by
  induction a generalizing b with
  | nil => cases b <;> rfl
  | cons x a ih =>
    cases b with
    | nil => rfl
    | cons y b =>
      rw [memcmp, List.compareLex_cons_cons, ih, compareOn]

instance : Std.TransCmp memcmp := by
  have h : memcmp = List.compareLex (compareOn UInt8.toNat) :=
    funext fun a => funext fun b => memcmp_eq_compareLex a b
  rw [h]
  infer_instance

instance : Std.LawfulEqCmp memcmp where
  compare_self {a} := by
    rw [memcmp_eq_compareLex]
    exact Std.ReflCmp.compare_self
  eq_of_compare {a b} h := by
    have hbyte : Std.LawfulEqCmp (compareOn UInt8.toNat) := by
      constructor
      intro x y hxy
      exact UInt8.toNat_inj.mp (Nat.compare_eq_eq.mp hxy)
    rw [memcmp_eq_compareLex] at h
    exact Std.LawfulEqCmp.eq_of_compare h

theorem memcmp_self_ne_lt (a : Bytes) : memcmp a a ≠ .lt := by
  have h : memcmp a a = .eq := Std.ReflCmp.compare_self
  rw [h]
  exact nofun

namespace BSList

variable {list : BSList} {data : Bytes} {i j delta fuel id : Nat} {e e' : Bytes × Nat}

def Sorted (list : BSList) : Prop := list.entries.Pairwise fun a b => memcmp a.1 b.1 = .lt

theorem sorted_empty : empty.Sorted := List.Pairwise.nil

/-- The data is at the index, or lies between the entries before and from the index on. -/
def Locates (list : BSList) (data : Bytes) : FindResult → Prop
  | .found i => ∃ id, list.entries[i]? = some (data, id)
  | .insertAt i => i ≤ list.n ∧
    (∀ j e, j < i → list.entries[j]? = some e → memcmp e.1 data = .lt) ∧
    ∀ j e, i ≤ j → list.entries[j]? = some e → memcmp data e.1 = .lt

namespace Sorted

section

variable (h : list.Sorted)
include h

theorem lt_of_lt (hij : i < j) (hi : list.entries[i]? = some e)
    (hj : list.entries[j]? = some e') : memcmp e.1 e'.1 = .lt := by
  obtain ⟨hilen, rfl⟩ := List.getElem?_eq_some_iff.mp hi
  obtain ⟨hjlen, rfl⟩ := List.getElem?_eq_some_iff.mp hj
  exact pairwise_iff_getElem.mp h i j hilen hjlen hij

theorem lt_after (hi : list.entries[i]? = some e) (hlt : memcmp data e.1 = .lt)
    (hij : i ≤ j) (hj : list.entries[j]? = some e') : memcmp data e'.1 = .lt := by
  rcases Nat.eq_or_lt_of_le hij with rfl | hij
  · rw [hi] at hj
    exact Option.some.inj hj ▸ hlt
  · exact Std.TransCmp.lt_trans hlt (h.lt_of_lt hij hi hj)

theorem lt_before (hi : list.entries[i]? = some e) (hlt : memcmp e.1 data = .lt)
    (hij : j ≤ i) (hj : list.entries[j]? = some e') : memcmp e'.1 data = .lt := by
  rcases Nat.eq_or_lt_of_le hij with rfl | hij
  · rw [hi] at hj
    exact Option.some.inj hj ▸ hlt
  · exact Std.TransCmp.lt_trans (h.lt_of_lt hij hj hi) hlt

theorem locates_succ (hi : list.entries[i]? = some e) (hlt : memcmp e.1 data = .lt)
    (hnext : ∀ e', list.entries[i + 1]? = some e' → memcmp data e'.1 = .lt) :
    list.Locates data (.insertAt (i + 1)) := by
  have hlen := (List.getElem?_eq_some_iff.mp hi).1
  refine ⟨hlen, fun j e' hj he' => h.lt_before hi hlt (Nat.le_of_lt_succ hj) he', ?_⟩
  intro j e' hj he'
  have hlen' := (List.getElem?_eq_some_iff.mp he').1
  have hsome := getElem?_eq_getElem (Nat.lt_of_le_of_lt hj hlen')
  exact h.lt_after hsome (hnext _ hsome) hj he'

theorem locates_self (hi : list.entries[i]? = some e) (hlt : memcmp data e.1 = .lt)
    (hprev : ∀ j e', j + 1 = i → list.entries[j]? = some e' → memcmp e'.1 data = .lt) :
    list.Locates data (.insertAt i) := by
  have hlen := (List.getElem?_eq_some_iff.mp hi).1
  refine ⟨Nat.le_of_lt hlen, ?_, fun j e' hj he' => h.lt_after hi hlt hj he'⟩
  intro j e' hj he'
  obtain ⟨k, rfl⟩ : ∃ k, i = k + 1 := ⟨i - 1, by omega⟩
  have hsome := getElem?_eq_getElem (Nat.lt_of_succ_lt hlen)
  exact h.lt_before hsome (hprev k _ rfl hsome) (Nat.le_of_lt_succ hj) he'

end

end Sorted

/-! ## The search loop -/

section

variable (h : list.Sorted)
include h

theorem findLoop_down (hi : i < list.n) (hfuel : list.n - i ≤ fuel)
    (hprev : ∀ j e, j + 1 = i → list.entries[j]? = some e → memcmp e.1 data = .lt) :
    ∃ r, list.findLoop data fuel i 1 1 = some r ∧ list.Locates data r := by
  induction fuel generalizing i with
  | zero => omega
  | succ fuel ih =>
    have hget : list.entries[i]? = some list.entries[i] := getElem?_eq_getElem hi
    rw [findLoop, hget]
    simp only
    split
    · rename_i heq
      refine ⟨_, rfl, list.entries[i].2, ?_⟩
      rw [hget, Std.LawfulEqCmp.eq_of_compare heq]
    · rename_i hgt
      have hlt := Std.OrientedCmp.gt_iff_lt.mp hgt
      split
      · rename_i hend
        refine ⟨_, rfl, h.locates_succ hget hlt fun e' he' => ?_⟩
        -- the end of the list is reached
        have := (List.getElem?_eq_some_iff.mp he').1
        unfold n at hend
        omega
      · refine ih (by omega) (by omega) fun j e hj he => ?_
        obtain rfl : j = i := by omega
        rw [hget] at he
        exact Option.some.inj he ▸ hlt
    · rename_i hlt
      exact ⟨_, rfl, h.locates_self hget hlt hprev⟩

theorem findLoop_up (hi : i < list.n) (hfuel : i < fuel)
    (hnext : ∀ e, list.entries[i + 1]? = some e → memcmp data e.1 = .lt) :
    ∃ r, list.findLoop data fuel i 1 0 = some r ∧ list.Locates data r := by
  induction fuel generalizing i with
  | zero => omega
  | succ fuel ih =>
    have hget : list.entries[i]? = some list.entries[i] := getElem?_eq_getElem hi
    rw [findLoop, hget]
    simp only
    split
    · rename_i heq
      refine ⟨_, rfl, list.entries[i].2, ?_⟩
      rw [hget, Std.LawfulEqCmp.eq_of_compare heq]
    · rename_i hgt
      exact ⟨_, rfl, h.locates_succ hget (Std.OrientedCmp.gt_iff_lt.mp hgt) hnext⟩
    · rename_i hlt
      split
      · refine ⟨_, rfl, h.locates_self hget hlt fun j e hj => ?_⟩
        -- the top of the list is reached
        omega
      · rw [if_neg (by omega)]
        refine ih (by omega) (by omega) fun e he => ?_
        rw [Nat.sub_add_cancel (by omega), hget] at he
        exact Option.some.inj he ▸ hlt

theorem findLoop_halving (hdelta : 1 ≤ delta)
    (hi : 2 * delta ≤ i ∧ i + 2 * delta ≤ list.n ∨ delta = 1 ∧ i < list.n) (hfuel : delta + list.n < fuel) :
    ∃ r, list.findLoop data fuel i delta (-1) = some r ∧ list.Locates data r := by
  induction fuel generalizing i delta with
  | zero => omega
  | succ fuel ih =>
    have hlen : i < list.n := by omega
    have hget : list.entries[i]? = some list.entries[i] := getElem?_eq_getElem hlen
    rw [findLoop, hget]
    simp only
    split
    · rename_i heq
      refine ⟨_, rfl, list.entries[i].2, ?_⟩
      rw [hget, Std.LawfulEqCmp.eq_of_compare heq]
    · rename_i hgt
      have hlt := Std.OrientedCmp.gt_iff_lt.mp hgt
      split
      · rename_i hend
        obtain rfl : delta = 1 := by omega
        refine ⟨_, rfl, h.locates_succ hget hlt fun e' he' => ?_⟩
        have := (List.getElem?_eq_some_iff.mp he').1
        unfold n at hend
        omega
      split
      · refine findLoop_down h (by omega) (by omega) fun j e hj he => ?_
        obtain rfl : j = i := by omega
        rw [hget] at he
        exact Option.some.inj he ▸ hlt
      · exact ih (by omega) (by omega) (by omega)
    · rename_i hlt
      split
      · refine ⟨_, rfl, h.locates_self hget hlt fun j e hj => ?_⟩
        omega
      rw [if_neg (by omega)]
      split
      · obtain rfl : delta = 1 := by omega
        refine findLoop_up h (by omega) (by omega) fun e he => ?_
        rw [Nat.sub_add_cancel (by omega), hget] at he
        exact Option.some.inj he ▸ hlt
      · exact ih (by omega) (by omega) (by omega)

theorem find_spec (data : Bytes) : ∃ r, list.find data = some r ∧ list.Locates data r := by
  unfold find
  split
  · rename_i hn
    refine ⟨_, rfl, Nat.zero_le _, fun j e hj => by omega, fun j e _ he => ?_⟩
    have := (List.getElem?_eq_some_iff.mp he).1
    unfold n at hn
    omega
  · simp only
    split
    · exact findLoop_halving h (by omega) (by omega) (by omega)
    · exact findLoop_halving h (by omega) (by omega) (by omega)

/-! ## The operations -/

theorem Sorted.index_unique {id id' : Nat}
    (hi : list.entries[i]? = some (data, id)) (hj : list.entries[j]? = some (data, id')) :
    i = j := by
  rcases Nat.lt_trichotomy i j with hij | hij | hij
  · exact absurd (h.lt_of_lt hij hi hj) (memcmp_self_ne_lt data)
  · exact hij
  · exact absurd (h.lt_of_lt hij hj hi) (memcmp_self_ne_lt data)

theorem Sorted.entry_unique {id id' : Nat} (he : (data, id) ∈ list.entries)
    (he' : (data, id') ∈ list.entries) : id = id' := by
  obtain ⟨i, hi⟩ := mem_iff_getElem?.mp he
  obtain ⟨j, hj⟩ := mem_iff_getElem?.mp he'
  rw [h.index_unique hi hj, hj] at hi
  exact (Prod.mk.inj (Option.some.inj hi)).2.symm

end

theorem Locates.not_mem (h : list.Locates data (.insertAt i)) (id : Nat) : (data, id) ∉ list.entries := by
  obtain ⟨-, hbefore, hafter⟩ := h
  intro hmem
  obtain ⟨j, hj⟩ := mem_iff_getElem?.mp hmem
  rcases Nat.lt_or_ge j i with hji | hji
  · exact absurd (hbefore j _ hji hj) (memcmp_self_ne_lt data)
  · exact absurd (hafter j _ hji hj) (memcmp_self_ne_lt data)

theorem bsListFind_eq_some_iff (h : list.Sorted) :
    list.bsListFind data = some id ↔ (data, id) ∈ list.entries := by
  obtain ⟨r, hr, hloc⟩ := find_spec h data
  unfold bsListFind
  rw [hr]
  cases r with
  | found i =>
    obtain ⟨id', hid'⟩ := hloc
    simp only [hid', Option.map_some, Option.some.injEq]
    constructor
    · rintro rfl
      exact mem_of_getElem? hid'
    · exact fun hmem => h.entry_unique (mem_of_getElem? hid') hmem
  | insertAt i => exact ⟨nofun, fun hmem => absurd hmem (hloc.not_mem id)⟩

theorem mem_bsListAdd (h : list.Sorted) {list' : BSList} (hadd : list.bsListAdd data id = (true, list')) :
    list'.Sorted ∧ (∀ id', (data, id') ∉ list.entries) ∧
      ∀ e, e ∈ list'.entries ↔ e = (data, id) ∨ e ∈ list.entries := by
  obtain ⟨r, hr, hloc⟩ := find_spec h data
  unfold bsListAdd at hadd
  rw [hr] at hadd
  cases r with
  | found i => exact nomatch hadd
  | insertAt i =>
    obtain rfl := (Prod.mk.inj hadd).2
    refine ⟨?_, hloc.not_mem, fun e => mem_insertIdx hloc.1⟩
    obtain ⟨-, hbefore, hafter⟩ := hloc
    exact List.pairwise_insertIdx h hbefore hafter

theorem mem_bsListRemove (h : list.Sorted) (data : Bytes) (id : Nat) :
    (list.bsListRemove data id).2.Sorted ∧
      ∀ e, e ∈ (list.bsListRemove data id).2.entries ↔ e ∈ list.entries ∧ e ≠ (data, id) := by
  obtain ⟨r, hr, hloc⟩ := find_spec h data
  unfold bsListRemove
  rw [hr]
  cases r with
  | found i =>
    obtain ⟨id', hid'⟩ := hloc
    have hmem' := mem_of_getElem? hid'
    simp only [hid']
    split
    · -- the data belongs to another id
      rename_i hne
      refine ⟨h, fun e => ⟨fun he => ⟨he, ?_⟩, And.left⟩⟩
      rintro rfl
      exact hne (congrArg some (h.entry_unique hmem' he))
    · rename_i heq
      obtain rfl : id' = id := by simpa using heq
      refine ⟨List.Pairwise.eraseIdx i h, fun e => ?_⟩
      rw [mem_eraseIdx_iff_getElem?]
      constructor
      · rintro ⟨j, hji, hj⟩
        refine ⟨mem_of_getElem? hj, ?_⟩
        rintro rfl
        exact hji (h.index_unique hj hid')
      · rintro ⟨he, hne⟩
        obtain ⟨j, hj⟩ := mem_iff_getElem?.mp he
        refine ⟨j, ?_, hj⟩
        rintro rfl
        exact hne (Option.some.inj (hj.symm.trans hid'))
  | insertAt i =>
    refine ⟨h, fun e => ⟨fun he => ⟨he, ?_⟩, And.left⟩⟩
    rintro rfl
    exact hloc.not_mem id he

end BSList

end Toxcore

import Toxcore.ForStd.Closest
import Toxcore.ForStd.TwoEnds
import Toxcore.Native.Group

/-!
# Closest peers

`add_to_closest` keeps the two peers that are closest to us in each direction of the ring of 64-bit values. A
peer that is replaced is added again; what drops out at last lies between the two halves.
-/

namespace Toxcore

open List

/-! ## Values on the ring -/

def appendByte (cmp : UInt64) (b : UInt8) : UInt64 := (cmp <<< 8) + b.toUInt64

def ringValue (pk : PublicKey) : UInt64 := (pk.toList.take 8).foldl appendByte 0

theorem calculateCompValue_eq (pk1 pk2 : PublicKey) :
    calculateCompValue pk1 pk2 = ringValue pk1 - ringValue pk2 := rfl

theorem toNat_appendByte {cmp : UInt64} (b : UInt8) {n : Nat} (hn : n < 8) (h : cmp.toNat < 256 ^ (7 - n)) :
    (appendByte cmp b).toNat = cmp.toNat * 256 + b.toNat ∧
      cmp.toNat * 256 + b.toNat < 256 ^ (8 - n) := by
  have hb := b.toNat_lt
  have hpow : 256 ^ (8 - n) = 256 ^ (7 - n) * 256 := by
    rw [show 8 - n = 7 - n + 1 by omega, Nat.pow_succ]
  have hle : 256 ^ (8 - n) ≤ 256 ^ 8 := Nat.pow_le_pow_right (by decide) (by omega)
  have height : (8 : UInt64).toNat % 64 = 8 := rfl
  have hlt : cmp.toNat * 256 + b.toNat < 256 ^ (8 - n) := by omega
  refine ⟨?_, hlt⟩
  rw [appendByte, UInt64.toNat_add, UInt64.toNat_shiftLeft, height, Nat.shiftLeft_eq, UInt8.toNat_toUInt64]
  omega

theorem foldl_appendByte_inj {bytes1 bytes2 : Bytes} (hlength : bytes1.length = bytes2.length)
    (hle : bytes1.length ≤ 8) {cmp1 cmp2 : UInt64} (h1 : cmp1.toNat < 256 ^ (8 - bytes1.length))
    (h2 : cmp2.toNat < 256 ^ (8 - bytes1.length))
    (h : bytes1.foldl appendByte cmp1 =
      bytes2.foldl appendByte cmp2) : cmp1 = cmp2 ∧ bytes1 = bytes2 := by
  induction bytes1 generalizing bytes2 cmp1 cmp2 with
  | nil =>
    obtain rfl := length_eq_zero_iff.mp hlength.symm
    exact ⟨h, rfl⟩
  | cons b1 bytes1 ih =>
    cases bytes2 with
    | nil => cases hlength
    | cons b2 bytes2 =>
      rw [length_cons] at hle h1 h2
      have hexp : 8 - (bytes1.length + 1) = 7 - bytes1.length := by omega
      rw [hexp] at h1 h2
      obtain ⟨hnat1, hlt1⟩ := toNat_appendByte b1 hle h1
      obtain ⟨hnat2, hlt2⟩ := toNat_appendByte b2 hle h2
      rw [← hnat1] at hlt1
      rw [← hnat2] at hlt2
      obtain ⟨hcmp, hbytes⟩ := ih (Nat.succ.inj hlength) (by omega) hlt1 hlt2 h
      have hb1 := b1.toNat_lt
      have hb2 := b2.toNat_lt
      have heq := congrArg UInt64.toNat hcmp
      refine ⟨UInt64.toNat_inj.mp (by omega), ?_⟩
      rw [hbytes, UInt8.toNat_inj.mp (show b1.toNat = b2.toNat by omega)]

theorem ringValue_inj {pk1 pk2 : PublicKey} (h : ringValue pk1 = ringValue pk2) :
    pk1.toList.take 8 = pk2.toList.take 8 := by
  have hlength : ∀ pk : PublicKey, (pk.toList.take 8).length = 8 := by
    intro pk
    rw [length_take, Vector.length_toList]
    rfl
  refine (foldl_appendByte_inj (by rw [hlength, hlength]) (Nat.le_of_eq (hlength pk1)) ?_ ?_ h).2
  all_goals
    rw [hlength]
    decide

def ringPos (own pk : PublicKey) : Nat := (calculateCompValue own pk).toNat

theorem ringPos_eq_zero_iff {own pk : PublicKey} : ringPos own pk = 0 ↔ ringValue own = ringValue pk := by
  have hown := (ringValue own).toNat_lt
  have hpk := (ringValue pk).toNat_lt
  rw [ringPos, calculateCompValue_eq, ← UInt64.toNat_inj, UInt64.toNat_sub]
  omega

theorem toNat_calculateCompValue {own pk : PublicKey} (h : ringPos own pk ≠ 0) :
    (calculateCompValue pk own).toNat = 2 ^ 64 - ringPos own pk := by
  have hown := (ringValue own).toNat_lt
  have hpk := (ringValue pk).toNat_lt
  unfold ringPos at *
  rw [calculateCompValue_eq, UInt64.toNat_sub] at h ⊢
  rw [calculateCompValue_eq, UInt64.toNat_sub]
  omega

namespace GroupC

variable {g g' : GroupC}

/-! ## The search -/

def Full (g : GroupC) : Prop := ∀ i : Fin desiredClosest, (g.closestPeers.get i).active

def slotKeys (g : GroupC) (i : Fin desiredClosest) : PublicKey := (g.closestPeers.get i).realPk

def firstHalf (i : Fin desiredClosest) : Prop := i.1 < 2

instance : DecidablePred firstHalf := fun i => Nat.decLt i.1 2

def halves (first : Bool) : List (Fin desiredClosest) :=
  if first then [⟨0, by decide⟩, ⟨1, by decide⟩] else [⟨2, by decide⟩, ⟨3, by decide⟩]

theorem mem_halves_true : ∀ i, i ∈ halves true ↔ firstHalf i := by decide

theorem mem_halves_false : ∀ i, i ∈ halves false ↔ ¬firstHalf i := by decide

theorem getElem?_closestPeers (g : GroupC) (i : Fin desiredClosest) :
    g.closestPeers[i.1]? = some (g.closestPeers.get i) := by
  exact Vector.getElem?_eq_getElem i.2

theorem replaceIndex_cons (g : GroupC) (compVal : UInt64) (comp : PublicKey → UInt64)
    (found : Option Nat × UInt64) (i : Fin desiredClosest) (indices : List Nat) :
    g.replaceIndex compVal comp found (i.1 :: indices) = g.replaceIndex compVal comp
      (if comp (g.slotKeys i) > compVal ∧ comp (g.slotKeys i) > found.2
        then (some i.1, comp (g.slotKeys i)) else found) indices := by
  rw [replaceIndex, foldl_cons, getElem?_closestPeers]
  rfl

theorem replaceIndex_spec (compVal : UInt64) (comp : PublicKey → UInt64) {found : Option Nat × UInt64}
    (hfound : found.1 = none → found.2 = 0) (indices : List (Fin desiredClosest)) :
    let result := g.replaceIndex compVal comp found (indices.map (·.1))
    (result.1 = none → found.1 = none ∧ result.2 = 0 ∧ ∀ i ∈ indices, comp (g.slotKeys i) ≤ compVal) ∧
    ∀ index, result.1 = some index → found.1 = some index ∨
      ∃ i ∈ indices, index = i.1 ∧ compVal < comp (g.slotKeys i) := by
  induction indices generalizing found with
  | nil =>
    exact ⟨fun hnone => ⟨hnone, hfound hnone, fun i hi => absurd hi not_mem_nil⟩,
      fun index hindex => .inl hindex⟩
  | cons i indices ih =>
    rw [map_cons, replaceIndex_cons]
    by_cases hbetter : comp (g.slotKeys i) > compVal ∧ comp (g.slotKeys i) > found.2
    · rw [if_pos hbetter]
      have hsome' : (some i.1, comp (g.slotKeys i)).1 = none → comp (g.slotKeys i) = 0 := fun h => by cases h
      obtain ⟨hnone, hsome⟩ := ih hsome'
      refine ⟨fun h => ?_, fun index hindex => .inr ?_⟩
      · cases (hnone h).1
      · cases hsome index hindex with
        | inl heq => exact ⟨i, mem_cons_self, (Option.some.inj heq).symm, hbetter.1⟩
        | inr hlater =>
          obtain ⟨j, hj, hindex⟩ := hlater
          exact ⟨j, mem_cons_of_mem _ hj, hindex⟩
    · rw [if_neg hbetter]
      obtain ⟨hnone, hsome⟩ := ih hfound
      refine ⟨fun h => ?_, fun index hindex => ?_⟩
      · obtain ⟨hnone, hzero, hall⟩ := hnone h
        refine ⟨hnone, hzero, fun j hj => ?_⟩
        cases mem_cons.mp hj with
        | inl heq =>
          -- nothing was found before, so that every distance is above `comp_d`
          rw [heq]
          rw [hfound hnone] at hbetter
          by_contra hlt
          have hlt := UInt64.not_le.mp hlt
          exact hbetter ⟨hlt, Nat.lt_of_le_of_lt (Nat.zero_le _) hlt⟩
        | inr hj => exact hall j hj
      · cases hsome index hindex with
        | inl heq => exact .inl heq
        | inr hlater =>
          obtain ⟨j, hj, hindex⟩ := hlater
          exact .inr ⟨j, mem_cons_of_mem _ hj, hindex⟩

theorem Full.findIdx? (h : g.Full) : (g.closestPeers.toList.findIdx? fun peer => !peer.active) = none := by
  rw [findIdx?_eq_none_iff]
  intro peer hpeer
  obtain ⟨i, hi, rfl⟩ := mem_iff_getElem.mp hpeer
  rw [Vector.length_toList] at hi
  rw [Bool.not_eq_false']
  exact h ⟨i, hi⟩

open TwoEnds (Replaces Between Inward elements potential)

variable {pk : PublicKey}

theorem Full.closestIndex (h : g.Full) (hpk : ringPos g.realPk pk ≠ 0)
    (hslots : ∀ i, ringPos g.realPk (g.slotKeys i) ≠ 0) :
    match g.closestIndex pk with
    | none => Between firstHalf (ringPos g.realPk) g.slotKeys [pk]
    | some index => ∃ i : Fin desiredClosest, index = i.1 ∧
        Replaces firstHalf (ringPos g.realPk) (g.slotKeys, pk)
          (Function.update g.slotKeys i pk, g.slotKeys i) := by
  have hpos : ∀ key, ringPos g.realPk key < 2 ^ 64 := fun key => UInt64.toNat_lt _
  -- the two directions
  have hleft : ∀ key, (calculateCompValue g.realPk key).toNat = ringPos g.realPk key := fun _ => rfl
  have hright : ∀ key, ringPos g.realPk key ≠ 0 →
      (calculateCompValue key g.realPk).toNat = 2 ^ 64 - ringPos g.realPk key :=
    fun _ => toNat_calculateCompValue
  have hnothing : ((none, 0) : Option Nat × UInt64).1 = none → (0 : UInt64) = 0 := fun _ => rfl
  have hfirst := replaceIndex_spec (g := g) (calculateCompValue g.realPk pk)
    (calculateCompValue g.realPk ·) hnothing (halves true)
  have hclosest : g.closestIndex pk = (g.replaceIndex (calculateCompValue pk g.realPk)
      (calculateCompValue · g.realPk) (g.replaceIndex (calculateCompValue g.realPk pk)
        (calculateCompValue g.realPk ·) (none, 0) [0, 1]) [2, 3]).1 := by
    rw [GroupC.closestIndex, h.findIdx?]
  rw [hclosest]
  generalize hfound : g.replaceIndex (calculateCompValue g.realPk pk) (calculateCompValue g.realPk ·)
    (none, 0) [0, 1] = found
  have hfirst : (found.1 = none → found.2 = 0 ∧ ∀ i ∈ halves true,
      calculateCompValue g.realPk (g.slotKeys i) ≤ calculateCompValue g.realPk pk) ∧
      ∀ index, found.1 = some index → ∃ i ∈ halves true, index = i.1 ∧
        calculateCompValue g.realPk pk < calculateCompValue g.realPk (g.slotKeys i) := by
    rw [← hfound]
    refine ⟨fun hnone => (hfirst.1 hnone).2, fun index hindex => ?_⟩
    cases hfirst.2 index hindex with
    | inl hnone => cases hnone
    | inr hsome => exact hsome
  have hsecond := replaceIndex_spec (g := g) (calculateCompValue pk g.realPk)
    (calculateCompValue · g.realPk) (fun hnone => (hfirst.1 hnone).1) (halves false)
  have hindices : (halves false).map (·.1) = [2, 3] := rfl
  cases hresult : (g.replaceIndex (calculateCompValue pk g.realPk) (calculateCompValue · g.realPk) found
      [2, 3]).1 with
  | none =>
    obtain ⟨hnone, -, hall⟩ := hsecond.1 hresult
    obtain ⟨-, hall'⟩ := hfirst.1 hnone
    constructor
    · intro i hi a ha
      rw [mem_singleton.mp ha]
      have hle := UInt64.le_iff_toNat_le.mp (hall' i ((mem_halves_true i).mpr hi))
      rwa [hleft] at hle
    · intro i hi a ha
      rw [mem_singleton.mp ha]
      have hle := UInt64.le_iff_toNat_le.mp (hall i ((mem_halves_false i).mpr hi))
      rw [hright _ (hslots i), hright _ hpk] at hle
      have hlt := hpos (g.slotKeys i)
      omega
  | some index =>
    cases hsecond.2 index hresult with
    | inl hfirst' =>
      obtain ⟨i, hi, rfl, hlt⟩ := hfirst.2 index hfirst'
      exact ⟨i, rfl, .low i ((mem_halves_true i).mp hi) (UInt64.lt_iff_toNat_lt.mp hlt)⟩
    | inr hsecond' =>
      obtain ⟨i, hi, rfl, hlt⟩ := hsecond'
      refine ⟨i, rfl, .high i ((mem_halves_false i).mp hi) ?_⟩
      have hlt := UInt64.lt_iff_toNat_lt.mp hlt
      rw [hright _ (hslots i), hright _ hpk] at hlt
      omega

/-! ## Nested calls -/

/-- The end of `add_to_closest`. -/
def noteAdded (g : GroupC) : GroupC := if g.changed = .none then { g with changed := .added } else g

def storeClosest (g : GroupC) (index : Nat) (realPk tempPk : PublicKey) : GroupC :=
  { g with closestPeers := g.closestPeers.setIfInBounds index { active := true, realPk, tempPk } }

/-- `add_to_closest` with at most `depth` nested calls; `none` if it does not return within them. -/
def addToClosestWithin : (depth : Nat) → GroupC → (realPk tempPk : PublicKey) → Option (Bool × GroupC)
  | 0, _, _, _ => none
  | depth + 1, g, realPk, tempPk =>
    if g.realPk = realPk then some (false, g)
    else if g.closestPeers.any fun peer => peer.active && peer.realPk == realPk then some (true, g)
    else
      match g.closestIndex realPk with
      | none => some (false, g)
      | some index =>
        match g.closestPeers[index]?.filter (·.active) with
        | none => some (true, (g.storeClosest index realPk tempPk).noteAdded)
        | some old =>
          (addToClosestWithin depth (g.storeClosest index realPk tempPk) old.realPk old.tempPk).map
            fun result => (true, result.2.noteAdded)

variable {depth : Nat}

theorem addToClosestLoop_eq {fuel : Nat} {realPk tempPk : PublicKey} {result : Bool × GroupC}
    (h : addToClosestWithin depth g realPk tempPk = some result) (hle : depth ≤ fuel) :
    addToClosestLoop fuel g realPk tempPk = result := by
  induction depth generalizing fuel g realPk tempPk result with
  | zero => cases h
  | succ depth ih =>
    obtain ⟨fuel, rfl⟩ : ∃ n, fuel = n + 1 := ⟨fuel - 1, by omega⟩
    rw [addToClosestWithin] at h
    rw [addToClosestLoop]
    split at h
    · rename_i hown
      rw [if_pos hown]
      exact Option.some.inj h
    · rename_i hown
      rw [if_neg hown]
      split at h
      · rename_i hpresent
        rw [if_pos hpresent]
        exact Option.some.inj h
      · rename_i hpresent
        rw [if_neg hpresent]
        cases hindex : g.closestIndex realPk with
        | none =>
          rw [hindex] at h
          exact Option.some.inj h
        | some index =>
          rw [hindex] at h
          dsimp only at h ⊢
          cases hold : g.closestPeers[index]?.filter (·.active) with
          | none =>
            rw [hold] at h
            exact Option.some.inj h
          | some old =>
            rw [hold] at h
            obtain ⟨nested, hnested, rfl⟩ := Option.map_eq_some_iff.mp h
            have hloop := ih hnested (Nat.le_of_succ_le_succ hle)
            show (true, (addToClosestLoop fuel (g.storeClosest index realPk tempPk) old.realPk
              old.tempPk).2.noteAdded) = _
            rw [hloop]

theorem slotKeys_storeClosest (g : GroupC) (i : Fin desiredClosest) (realPk tempPk : PublicKey) :
    (g.storeClosest i.1 realPk tempPk).slotKeys = Function.update g.slotKeys i realPk := by
  funext j
  show ((g.closestPeers.setIfInBounds i.1 _)[j.1]).realPk = _
  rw [Vector.getElem_setIfInBounds]
  by_cases h : i = j
  · rw [if_pos (congrArg Fin.val h), h, Function.update_self]
  · rw [if_neg fun heq => h (Fin.ext heq), Function.update_of_ne fun heq => h heq.symm]
    rfl

theorem Full.storeClosest (h : g.Full) (i : Fin desiredClosest) (realPk tempPk : PublicKey) :
    (g.storeClosest i.1 realPk tempPk).Full := by
  intro j
  show ((g.closestPeers.setIfInBounds i.1 _)[j.1]).active
  rw [Vector.getElem_setIfInBounds]
  split
  · rfl
  · exact h j

theorem noteAdded_eq (g : GroupC) : (g.noteAdded).realPk = g.realPk ∧ g.noteAdded.closestPeers = g.closestPeers := by
  unfold noteAdded
  split <;> exact ⟨rfl, rfl⟩

/-- What a call for a full list has done: the list has moved inward and `lost` has dropped out. -/
structure Settled (g : GroupC) (pk : PublicKey) (g' : GroupC) (lost : PublicKey) : Prop where
  realPk : g'.realPk = g.realPk
  full : g'.Full
  elements : elements (g'.slotKeys, lost) = elements (g.slotKeys, pk)
  inward : Inward firstHalf (ringPos g.realPk) g.slotKeys g'.slotKeys
  between : Between firstHalf (ringPos g.realPk) g'.slotKeys [lost]

theorem noteAdded_slotKeys (g : GroupC) : g.noteAdded.slotKeys = g.slotKeys := by
  funext i
  rw [slotKeys, (noteAdded_eq g).2]
  rfl

theorem noteAdded_full (h : g.Full) : g.noteAdded.Full := by
  intro i
  rw [(noteAdded_eq g).2]
  exact h i

theorem mem_elements_slot (g : GroupC) (pk : PublicKey) (i : Fin desiredClosest) :
    g.slotKeys i ∈ elements (g.slotKeys, pk) :=
  Multiset.mem_cons_of_mem (Multiset.mem_map_of_mem _ (Finset.mem_univ i))

theorem not_any_of_nodup (h : (elements (g.slotKeys, pk)).Nodup) :
    ¬(g.closestPeers.any fun peer => peer.active && peer.realPk == pk) := by
  rw [Vector.any_eq_true]
  intro hany
  obtain ⟨i, hi, hpeer⟩ := hany
  rw [Bool.and_eq_true] at hpeer
  refine (Multiset.nodup_cons.mp h).1 ?_
  rw [← beq_iff_eq.mp hpeer.2]
  exact Multiset.mem_map_of_mem g.slotKeys (Finset.mem_univ (⟨i, hi⟩ : Fin desiredClosest))

theorem addToClosestWithin_full (pk tempPk : PublicKey) (hfull : g.Full) (hnodup : (elements (g.slotKeys, pk)).Nodup)
    (hpos : ∀ key ∈ elements (g.slotKeys, pk), ringPos g.realPk key ≠ 0)
    (hdepth : potential firstHalf (ringPos g.realPk) (g.slotKeys, pk) < depth) :
    ∃ stored g' lost, addToClosestWithin depth g pk tempPk = some (stored, g') ∧ Settled g pk g' lost := by
  induction depth generalizing g pk tempPk with
  | zero => exact absurd hdepth (Nat.not_lt_zero _)
  | succ depth ih =>
    have hpk : ringPos g.realPk pk ≠ 0 := hpos pk (Multiset.mem_cons_self _ _)
    have hown : g.realPk ≠ pk := by
      intro heq
      exact hpk (ringPos_eq_zero_iff.mpr (congrArg ringValue heq))
    rw [addToClosestWithin, if_neg hown, if_neg (not_any_of_nodup hnodup)]
    have hclosest := hfull.closestIndex hpk fun i => hpos _ (mem_elements_slot g pk i)
    cases hindex : g.closestIndex pk with
    | none =>
      rw [hindex] at hclosest
      exact ⟨false, g, pk, rfl, rfl, hfull, rfl, Inward.refl _, hclosest⟩
    | some index =>
      rw [hindex] at hclosest
      obtain ⟨i, rfl, hreplaces⟩ := hclosest
      have hold : g.closestPeers[i.1]?.filter (·.active) = some (g.closestPeers.get i) := by
        rw [getElem?_closestPeers]
        exact Option.filter_some_pos (hfull i)
      dsimp only
      rw [hold]
      -- the replaced peer is added to the list that holds the new one
      have hslots := slotKeys_storeClosest g i pk tempPk
      have helements : elements ((g.storeClosest i.1 pk tempPk).slotKeys, g.slotKeys i) =
          elements (g.slotKeys, pk) := by
        rw [hslots]
        exact hreplaces.elements_eq
      have hlt := hreplaces.potential_lt
      rw [← hslots] at hlt hreplaces
      obtain ⟨stored, g', lost, hnested, hsettled⟩ := ih (g := g.storeClosest i.1 pk tempPk)
        (g.slotKeys i) (g.closestPeers.get i).tempPk (hfull.storeClosest i pk tempPk)
        (by rwa [helements]) (by rwa [helements])
        (Nat.lt_of_lt_of_le hlt (Nat.le_of_lt_succ hdepth))
      refine ⟨true, g'.noteAdded, lost, ?_, ?_⟩
      · show Option.map _ (addToClosestWithin depth (g.storeClosest i.1 pk tempPk) (g.slotKeys i) _) = _
        rw [hnested]
        rfl
      · constructor
        · rw [(noteAdded_eq g').1, hsettled.realPk]
          rfl
        · exact noteAdded_full hsettled.full
        · rw [noteAdded_slotKeys, hsettled.elements, helements]
        · rw [noteAdded_slotKeys]
          exact hreplaces.inward.trans hsettled.inward
        · rw [noteAdded_slotKeys]
          exact hsettled.between

/-! ## Free slots -/

def activeKeys (g : GroupC) : List PublicKey :=
  (g.closestPeers.toList.filter (·.active)).map (·.realPk)

theorem mem_activeKeys {key : PublicKey} : key ∈ g.activeKeys ↔
    g.closestPeers.any fun peer => peer.active && peer.realPk == key := by
  rw [activeKeys, mem_map, ← Vector.any_toList, any_eq_true]
  constructor
  · intro h
    obtain ⟨peer, hpeer, rfl⟩ := h
    rw [mem_filter] at hpeer
    exact ⟨peer, hpeer.1, by rw [hpeer.2, Bool.true_and, beq_iff_eq]⟩
  · intro h
    obtain ⟨peer, hpeer, hkey⟩ := h
    rw [Bool.and_eq_true, beq_iff_eq] at hkey
    exact ⟨peer, mem_filter.mpr ⟨hpeer, hkey.1⟩, hkey.2⟩

theorem filter_set_perm {peers : List GroupchatClosest} {index : Nat} (hlt : index < peers.length)
    (hfree : peers[index].active = false) (peer : GroupchatClosest) (hactive : peer.active) :
    ((peers.set index peer).filter (·.active)).Perm (peer :: peers.filter (·.active)) := by
  have hpeers : peers = peers.take index ++ peers[index] :: peers.drop (index + 1) := by
    rw [cons_getElem_drop_succ, take_append_drop]
  have hrest : peers.filter (·.active) =
      (peers.take index).filter (·.active) ++ (peers.drop (index + 1)).filter (·.active) := by
    conv => lhs; rw [hpeers]
    rw [filter_append, filter_cons_of_neg (by rw [hfree]; exact Bool.false_ne_true)]
  rw [set_eq_take_append_cons_drop, if_pos hlt, filter_append, filter_cons_of_pos hactive, hrest]
  exact perm_middle

theorem addToClosestWithin_free (tempPk : PublicKey) (hown : g.realPk ≠ pk) (hpk : pk ∉ g.activeKeys) (hfull : ¬g.Full)
    :
    ∃ g', addToClosestWithin (depth + 1) g pk tempPk = some (true, g') ∧ g'.realPk = g.realPk ∧
      g'.activeKeys.Perm (pk :: g.activeKeys) := by
  rw [addToClosestWithin, if_neg hown, if_neg fun hany => hpk (mem_activeKeys.mpr hany)]
  cases hindex : g.closestPeers.toList.findIdx? fun peer => !peer.active with
  | none =>
    refine absurd (fun i => ?_) hfull
    rw [findIdx?_eq_none_iff] at hindex
    have hactive := hindex (g.closestPeers.get i) (Vector.mem_toList_iff.mpr (Vector.getElem_mem i.2))
    rwa [Bool.not_eq_false'] at hactive
  | some index =>
    obtain ⟨hlt, hfree, -⟩ := findIdx?_eq_some_iff_getElem.mp hindex
    rw [Bool.not_eq_true'] at hfree
    have hold : g.closestPeers[index]?.filter (·.active) = none := by
      rw [← Vector.getElem?_toList, getElem?_eq_getElem hlt]
      exact Option.filter_some_neg hfree
    have hclosest : g.closestIndex pk = some index := by
      rw [GroupC.closestIndex, hindex]
    rw [hclosest]
    dsimp only
    rw [hold]
    refine ⟨_, rfl, (noteAdded_eq _).1, ?_⟩
    rw [activeKeys, (noteAdded_eq _).2]
    show ((((g.closestPeers.setIfInBounds index _).toList).filter (·.active)).map (·.realPk)).Perm _
    rw [Vector.toList_setIfInBounds]
    exact (filter_set_perm hlt hfree ⟨true, pk, tempPk⟩ rfl).map (·.realPk)

theorem Full.activeKeys (h : g.Full) : g.activeKeys = List.ofFn g.slotKeys := by
  have hfilter : g.closestPeers.toList.filter (·.active) = g.closestPeers.toList := by
    refine filter_eq_self.mpr fun peer hpeer => ?_
    obtain ⟨i, hi, rfl⟩ := mem_iff_getElem.mp hpeer
    rw [Vector.length_toList] at hi
    exact h ⟨i, hi⟩
  rw [GroupC.activeKeys, hfilter]
  refine ext_getElem ?_ fun i h1 h2 => ?_
  · rw [length_map, Vector.length_toList, length_ofFn]
  · rw [getElem_map, List.getElem_ofFn]
    rfl

theorem Full.elements_eq (h : g.Full) (pk : PublicKey) :
    elements (g.slotKeys, pk) = ↑(pk :: g.activeKeys) := by
  rw [h.activeKeys]
  rfl

/-! ## All peers -/

/-- After some of the peers were added: each of them is in a slot, or has dropped out between the two
halves. -/
structure Covers (own : PublicKey) (all done lost : List PublicKey) (g : GroupC) : Prop where
  realPk : g.realPk = own
  nodup : g.activeKeys.Nodup
  active : ∀ key ∈ g.activeKeys, key ∈ all
  dropped : ∀ key ∈ lost, key ∈ all
  seen : ∀ key ∈ done, key ∈ g.activeKeys ∨ key ∈ lost
  full : lost ≠ [] → g.Full
  between : lost ≠ [] → Between firstHalf (ringPos own) g.slotKeys lost

def closestDepth : Nat := desiredClosest * desiredClosest + 1

variable {own : PublicKey} {all done lost : List PublicKey}

theorem Covers.add (h : Covers own all done lost g) (hall : ∀ key ∈ all, ringPos own key ≠ 0) (hpk : pk ∈ all)
    (tempPk : PublicKey) :
    ∃ stored g' lost', addToClosestWithin closestDepth g pk tempPk = some (stored, g') ∧
      Covers own all (pk :: done) lost' g' := by
  have hown : g.realPk ≠ pk := by
    intro heq
    rw [h.realPk] at heq
    exact hall pk hpk (ringPos_eq_zero_iff.mpr (congrArg ringValue heq))
  by_cases hpresent : pk ∈ g.activeKeys
  · -- the peer is in a slot
    refine ⟨true, g, lost, ?_, { h with seen := ?_ }⟩
    · rw [closestDepth, addToClosestWithin, if_neg hown, if_pos (mem_activeKeys.mp hpresent)]
    · intro key hkey
      cases mem_cons.mp hkey with
      | inl heq => exact .inl (heq ▸ hpresent)
      | inr hkey => exact h.seen key hkey
  · by_cases hfull : g.Full
    · have helements := hfull.elements_eq pk
      have hmem : ∀ key ∈ elements (g.slotKeys, pk), key ∈ all := by
        intro key hkey
        rw [helements] at hkey
        cases mem_cons.mp hkey with
        | inl heq => exact heq ▸ hpk
        | inr hkey => exact h.active key hkey
      have hnodup : (elements (g.slotKeys, pk)).Nodup := by
        rw [helements]
        exact nodup_cons.mpr ⟨hpresent, h.nodup⟩
      have hdepth : potential firstHalf (ringPos g.realPk) (g.slotKeys, pk) ≤ _ := TwoEnds.potential_le _
      obtain ⟨stored, g', out, hcall, hsettled⟩ := addToClosestWithin_full pk tempPk hfull hnodup
        (fun key hkey => h.realPk ▸ hall key (hmem key hkey)) (Nat.lt_succ_of_le hdepth)
      have hperm : (out :: g'.activeKeys).Perm (pk :: g.activeKeys) := by
        rw [← Multiset.coe_eq_coe, ← helements, ← hsettled.elements, hsettled.full.elements_eq]
      have hbetween := hsettled.between
      have hinward := hsettled.inward
      rw [h.realPk] at hbetween hinward
      have hkeys : ∀ key ∈ out :: g'.activeKeys, key ∈ all := by
        intro key hkey
        cases mem_cons.mp (hperm.mem_iff.mp hkey) with
        | inl heq => exact heq ▸ hpk
        | inr hkey => exact h.active key hkey
      refine ⟨stored, g', out :: lost, hcall, ?_⟩
      constructor
      · rw [hsettled.realPk, h.realPk]
      · exact (nodup_cons.mp (hperm.nodup_iff.mpr (nodup_cons.mpr ⟨hpresent, h.nodup⟩))).2
      · exact fun key hkey => hkeys key (mem_cons_of_mem _ hkey)
      · intro key hkey
        cases mem_cons.mp hkey with
        | inl heq => exact heq ▸ hkeys out mem_cons_self
        | inr hkey => exact h.dropped key hkey
      · intro key hkey
        have hstill : key ∈ pk :: g.activeKeys → key ∈ g'.activeKeys ∨ key ∈ out :: lost := by
          intro hkey
          cases mem_cons.mp (hperm.mem_iff.mpr hkey) with
          | inl heq => exact .inr (heq ▸ mem_cons_self)
          | inr hkey => exact .inl hkey
        cases mem_cons.mp hkey with
        | inl heq => exact hstill (heq ▸ mem_cons_self)
        | inr hkey =>
          cases h.seen key hkey with
          | inl hactive => exact hstill (mem_cons_of_mem _ hactive)
          | inr hlost => exact .inr (mem_cons_of_mem _ hlost)
      · exact fun _ => hsettled.full
      · intro _
        -- what lay between the halves before still does
        by_cases hlost : lost = []
        · rw [hlost]
          exact hbetween
        · exact ((h.between hlost).of_inward hinward).cons hbetween
    · -- nothing drops out while a slot is free
      obtain ⟨g', hcall, hrealPk, hperm⟩ := addToClosestWithin_free tempPk hown hpresent hfull
      have hlost : lost = [] := by
        by_contra hlost
        exact hfull (h.full hlost)
      refine ⟨true, g', lost, hcall, ?_⟩
      constructor
      · rw [hrealPk, h.realPk]
      · exact hperm.nodup_iff.mpr (nodup_cons.mpr ⟨hpresent, h.nodup⟩)
      · intro key hkey
        cases mem_cons.mp (hperm.mem_iff.mp hkey) with
        | inl heq => exact heq ▸ hpk
        | inr hkey => exact h.active key hkey
      · exact h.dropped
      · intro key hkey
        refine .inl (hperm.mem_iff.mpr ?_)
        cases mem_cons.mp hkey with
        | inl heq => exact heq ▸ mem_cons_self
        | inr hkey =>
          cases h.seen key hkey with
          | inl hactive => exact mem_cons_of_mem _ hactive
          | inr hkey => exact absurd (hlost ▸ hkey) not_mem_nil
      · exact fun hne => absurd hlost hne
      · exact fun hne => absurd hlost hne

/-- A peer is added and what `add_to_closest` returns is dropped. -/
def addPeerWithin (depth : Nat) (g : GroupC) (peer : PublicKey × PublicKey) : Option GroupC :=
  (addToClosestWithin depth g peer.1 peer.2).map (·.2)

/-- The peers are added one after the other, as `connect_to_closest` does. -/
def addAllWithin (depth : Nat) (g : GroupC) (order : List (PublicKey × PublicKey)) : Option GroupC :=
  order.foldlM (addPeerWithin depth) g

theorem Covers.addAll (h : Covers own all done lost g) (hall : ∀ key ∈ all, ringPos own key ≠ 0)
    (order : List (PublicKey × PublicKey)) (horder : ∀ peer ∈ order, peer.1 ∈ all) :
    ∃ g' done' lost', addAllWithin closestDepth g order = some g' ∧ Covers own all done' lost' g' ∧
      (∀ key ∈ done, key ∈ done') ∧ ∀ peer ∈ order, peer.1 ∈ done' := by
  induction order generalizing g done lost with
  | nil => exact ⟨g, done, lost, rfl, h, fun _ hkey => hkey, fun _ hpeer => absurd hpeer not_mem_nil⟩
  | cons peer order ih =>
    obtain ⟨stored, g1, lost1, hcall, h1⟩ := h.add hall (horder peer mem_cons_self) peer.2
    obtain ⟨g', done', lost', hrest, h', hdone, hadded⟩ :=
      ih h1 fun peer hpeer => horder peer (mem_cons_of_mem _ hpeer)
    refine ⟨g', done', lost', ?_, h', fun key hkey => hdone key (mem_cons_of_mem _ hkey), ?_⟩
    · rw [addAllWithin, foldlM_cons, addPeerWithin, hcall]
      exact hrest
    · intro peer' hpeer'
      cases mem_cons.mp hpeer' with
      | inl heq => exact heq ▸ hdone _ mem_cons_self
      | inr hpeer' => exact hadded peer' hpeer'

def halfKeys (g : GroupC) (first : Bool) : List PublicKey := (halves first).map g.slotKeys

def firstEight (pk : PublicKey) : Bytes := pk.toList.take 8

theorem Full.mem_activeKeys (h : g.Full) {key : PublicKey} : key ∈ g.activeKeys ↔ ∃ i, g.slotKeys i = key := by
  rw [h.activeKeys, mem_ofFn']
  rfl

theorem Covers.closest (h : Covers own all done lost g) (hall : ∀ key ∈ all, ringPos own key ≠ 0)
    (hinj : ∀ key ∈ all, ∀ key' ∈ all, ringPos own key = ringPos own key' → key = key')
    (hdone : ∀ key ∈ all, key ∈ done) (hlost : lost ≠ []) :
    IsClosest (fun key => (calculateCompValue own key).toNat) 2 all.toFinset (g.halfKeys true) ∧
      IsClosest (fun key => (calculateCompValue key own).toNat) 2 all.toFinset (g.halfKeys false) := by
  have hfull := h.full hlost
  have hbetween := h.between hlost
  have hslot : ∀ i, g.slotKeys i ∈ all := fun i => h.active _ (hfull.mem_activeKeys.mpr ⟨i, rfl⟩)
  have hslots : Function.Injective g.slotKeys := by
    have hnodup := h.nodup
    rw [hfull.activeKeys] at hnodup
    exact nodup_ofFn.mp hnodup
  have hnodup : ∀ first, (g.halfKeys first).Nodup := by
    intro first
    exact List.Nodup.map hslots (by cases first <;> decide)
  -- the four slots hold different peers
  have hcard : 2 ≤ all.toFinset.card := by
    have hlength : (g.halfKeys true).length = 2 := rfl
    rw [← hlength, ← toFinset_card_of_nodup (hnodup true)]
    refine Finset.card_le_card fun key hkey => ?_
    obtain ⟨i, -, rfl⟩ := mem_map.mp (mem_toFinset.mp hkey)
    exact mem_toFinset.mpr (hslot i)
  have hmem : ∀ first, ∀ key ∈ g.halfKeys first, key ∈ all.toFinset := by
    intro first key hkey
    obtain ⟨i, -, rfl⟩ := mem_map.mp hkey
    exact mem_toFinset.mpr (hslot i)
  have hwhere : ∀ key ∈ all, key ∈ lost ∨ ∃ j, g.slotKeys j = key := by
    intro key hkey
    cases h.seen key (hdone key hkey) with
    | inl hactive => exact .inr (hfull.mem_activeKeys.mp hactive)
    | inr hdropped => exact .inl hdropped
  constructor
  · refine ⟨hnodup true, hmem true, (Nat.min_eq_left hcard).symm, ?_⟩
    intro key hkey key' hkey' hout
    obtain ⟨i, hi, rfl⟩ := mem_map.mp hkey
    have hkey' := mem_toFinset.mp hkey'
    exact hbetween.closest_low hlost (hwhere key' hkey') (fun j => hinj _ (hslot j) _ hkey')
      ((mem_halves_true i).mp hi) fun j hj heq =>
        hout (mem_map.mpr ⟨j, (mem_halves_true j).mpr hj, heq⟩)
  · refine ⟨hnodup false, hmem false, (Nat.min_eq_left hcard).symm, ?_⟩
    intro key hkey key' hkey' hout
    obtain ⟨i, hi, rfl⟩ := mem_map.mp hkey
    have hkey' := mem_toFinset.mp hkey'
    have hlt := hbetween.closest_high hlost (hwhere key' hkey') (fun j => hinj _ (hslot j) _ hkey')
      ((mem_halves_false i).mp hi) fun j hj heq =>
        hout (mem_map.mpr ⟨j, (mem_halves_false j).mpr hj, heq⟩)
    have hmax : ringPos own (g.slotKeys i) < 2 ^ 64 := UInt64.toNat_lt _
    rw [toNat_calculateCompValue (hall _ (hslot i)), toNat_calculateCompValue (hall _ hkey')]
    omega

def addPeer (g : GroupC) (peer : PublicKey × PublicKey) : GroupC := (g.addToClosest peer.1 peer.2).2

theorem foldl_addPeer {order : List (PublicKey × PublicKey)} (h : addAllWithin closestDepth g order = some g') :
    order.foldl addPeer g = g' := by
  induction order generalizing g with
  | nil => exact Option.some.inj h
  | cons peer order ih =>
    rw [addAllWithin, foldlM_cons, Option.bind_eq_bind, Option.bind_eq_some_iff] at h
    obtain ⟨g1, hcall, hrest⟩ := h
    obtain ⟨result, hresult, rfl⟩ := Option.map_eq_some_iff.mp hcall
    rw [foldl_cons, addPeer, addToClosest, addToClosestLoop_eq hresult (by decide)]
    exact ih hrest

theorem length_activeKeys_le (g : GroupC) : g.activeKeys.length ≤ desiredClosest := by
  rw [activeKeys, length_map]
  have hle := length_filter_le (fun peer : GroupchatClosest => peer.active) g.closestPeers.toList
  rwa [Vector.length_toList] at hle

theorem firstEight_eq_of_ringPos {pk' : PublicKey} (h : ringPos own pk = ringPos own pk') :
    firstEight pk = firstEight pk' := by
  refine ringValue_inj ?_
  have hsub : ringValue own - ringValue pk = ringValue own - ringValue pk' := UInt64.toNat_inj.mp h
  have hpk := (ringValue pk).toNat_lt
  have hpk' := (ringValue pk').toNat_lt
  have hnat := congrArg UInt64.toNat hsub
  rw [UInt64.toNat_sub, UInt64.toNat_sub] at hnat
  exact UInt64.toNat_inj.mp (by omega)

/-- After all peers of a set were added, in any order, the slots hold the closest ones. Every call returns, with at
    most 17 nested ones. -/
theorem closest_of_addAll (g : GroupC) (order : List (PublicKey × PublicKey)) (hcount : 5 ≤ order.length)
    (hdistinct : (order.map fun peer => firstEight peer.1).Nodup)
    (hown : ∀ peer ∈ order, firstEight peer.1 ≠ firstEight g.realPk)
    (hstart : g.activeKeys.Nodup) (hdrawn : ∀ key ∈ g.activeKeys, key ∈ order.map (·.1)) :
    ∃ g', addAllWithin 17 g order = some g' ∧ order.foldl addPeer g = g' ∧ g'.Full ∧
      IsClosest (fun key => (calculateCompValue g.realPk key).toNat) 2 (order.map (·.1)).toFinset
        (g'.halfKeys true) ∧
      IsClosest (fun key => (calculateCompValue key g.realPk).toNat) 2 (order.map (·.1)).toFinset
        (g'.halfKeys false) := by
  have hall : ∀ key ∈ order.map (·.1), ringPos g.realPk key ≠ 0 := by
    intro key hkey hzero
    obtain ⟨peer, hpeer, rfl⟩ := mem_map.mp hkey
    exact hown peer hpeer (ringValue_inj (ringPos_eq_zero_iff.mp hzero)).symm
  have hkeys : ((order.map (·.1)).map firstEight).Nodup := by
    rwa [map_map]
  have hinj : ∀ key ∈ order.map (·.1), ∀ key' ∈ order.map (·.1),
      ringPos g.realPk key = ringPos g.realPk key' → key = key' := by
    intro key hkey key' hkey' heq
    exact inj_on_of_nodup_map hkeys hkey hkey' (firstEight_eq_of_ringPos heq)
  have hcovers : Covers g.realPk (order.map (·.1)) [] [] g := by
    refine ⟨rfl, hstart, hdrawn, ?_, ?_, fun hne => absurd rfl hne, fun hne => absurd rfl hne⟩
    · exact fun key hkey => absurd hkey not_mem_nil
    · exact fun key hkey => absurd hkey not_mem_nil
  obtain ⟨g', done, lost, hrun, hcovers', -, hadded⟩ := hcovers.addAll hall order fun peer hpeer =>
    mem_map_of_mem hpeer
  have hdone : ∀ key ∈ order.map (·.1), key ∈ done := by
    intro key hkey
    obtain ⟨peer, hpeer, rfl⟩ := mem_map.mp hkey
    exact hadded peer hpeer
  have hlost : lost ≠ [] := by
    -- five peers do not fit into four slots
    intro hnil
    have hsubset : (order.map (·.1)).toFinset ⊆ g'.activeKeys.toFinset := by
      intro key hkey
      rw [mem_toFinset] at hkey ⊢
      cases hcovers'.seen key (hdone key hkey) with
      | inl hactive => exact hactive
      | inr hmem => exact absurd (hnil ▸ hmem) not_mem_nil
    have hcard := Finset.card_le_card hsubset
    rw [toFinset_card_of_nodup hkeys.of_map, toFinset_card_of_nodup hcovers'.nodup, length_map] at hcard
    have hfour : g'.activeKeys.length ≤ 4 := length_activeKeys_le g'
    omega
  exact ⟨g', hrun, foldl_addPeer hrun, hcovers'.full hlost, hcovers'.closest hall hinj hdone hlost⟩

def oneClosest : GroupC := ({ emptyGroupC with realPk := key 4 } : GroupC).storeClosest 2 (key 9) (key 0)

def fivePeers : List (PublicKey × PublicKey) :=
  [(key 7, key 0), (key 1, key 0), (key 200, key 0), (key 9, key 0), (key 6, key 0)]

theorem closest_of_addAll_fivePeers : ∃ g', addAllWithin 17 oneClosest fivePeers = some g' ∧
    fivePeers.foldl addPeer oneClosest = g' ∧ g'.Full ∧
    IsClosest (fun key => (calculateCompValue oneClosest.realPk key).toNat) 2
      (fivePeers.map (·.1)).toFinset (g'.halfKeys true) ∧
    IsClosest (fun key => (calculateCompValue key oneClosest.realPk).toNat) 2
      (fivePeers.map (·.1)).toFinset (g'.halfKeys false) :=
  closest_of_addAll oneClosest fivePeers (by decide) (by decide) (by decide) (by decide) (by decide)

end GroupC

end Toxcore

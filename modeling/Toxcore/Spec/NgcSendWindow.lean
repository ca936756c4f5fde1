import Toxcore.ForStd.RingWindow
import Toxcore.ForStd.StepRun
import Toxcore.Spec.NgcFragments

/-!
# The window of the send array

The unacknowledged messages of a connection lie between `send_array_start` and the slot of the next id. When the
two slots are the same, the array counts as empty; so it may not be filled up. `add_to_send_array` sees to that
unless `send_array_start` is 0.
-/

namespace Toxcore

open List

open RingWindow

theorem gccBufferSize_pos : 0 < gccBufferSize := by decide

theorem gccGetArrayIndex_lt (id : UInt64) : gccGetArrayIndex id < gccBufferSize :=
  Nat.mod_lt _ gccBufferSize_pos

theorem gccGetArrayIndex_add_one (id : UInt64) :
    gccGetArrayIndex (id + 1) = next gccBufferSize (gccGetArrayIndex id) := by
  have hone : (1 : UInt64).toNat = 1 := rfl
  rw [gccGetArrayIndex, gccGetArrayIndex, RingWindow.next, UInt64.toNat_add]
  simp only [gccBufferSize]
  omega

theorem mem_slotRange {start stop i : Nat} (hstart : start < gccBufferSize) :
    i ∈ slotRange start stop ↔ InWindow gccBufferSize start stop i := by
  rw [slotRange, mem_map]
  constructor
  · rintro ⟨k, hk, rfl⟩
    rw [mem_range] at hk
    have hlt : (start + k) % gccBufferSize < gccBufferSize := Nat.mod_lt _ gccBufferSize_pos
    refine ⟨hlt, ?_⟩
    have hdistance : distance gccBufferSize start ((start + k) % gccBufferSize) = k := by
      rw [distance]
      simp only [gccBufferSize] at *
      omega
    rw [hdistance]
    exact hk
  · rintro ⟨hi, hlt⟩
    refine ⟨distance gccBufferSize start i, mem_range.mpr hlt, ?_⟩
    rw [distance]
    simp only [gccBufferSize] at *
    omega

namespace GCConnection

variable {gconn : GCConnection} {env : NgcEnv} {unacked : List UInt64}

/-- The send array holds exactly the unacknowledged messages, in the window from the start up to the next id. -/
structure SendWindow (gconn : GCConnection) (unacked : List UInt64) : Prop where
  start_lt : gconn.sendArrayStart.toNat < gccBufferSize
  nodup : unacked.Nodup
  stored : ∀ id ∈ unacked, (gconn.sendArray (gccGetArrayIndex id)).isEmpty = false ∧
    (gconn.sendArray (gccGetArrayIndex id)).messageId = id
  named : ∀ i, (gconn.sendArray i).isEmpty = false →
    (gconn.sendArray i).messageId ∈ unacked ∧ gccGetArrayIndex (gconn.sendArray i).messageId = i
  window : ∀ id ∈ unacked, InWindow gccBufferSize gconn.sendArrayStart.toNat
    (gccGetArrayIndex gconn.sendMessageId) (gccGetArrayIndex id)
  /-- Only an empty window has an empty slot at its start. -/
  front : (gconn.sendArray gconn.sendArrayStart.toNat).isEmpty = true →
    gconn.sendArrayStart.toNat = gccGetArrayIndex gconn.sendMessageId
  clean : gconn.Clean

namespace SendWindow

section

variable (h : SendWindow gconn unacked)
include h

theorem congr {gconn' : GCConnection}
    (harray : gconn'.sendArray = gconn.sendArray) (hstart : gconn'.sendArrayStart = gconn.sendArrayStart)
    (hnext : gccGetArrayIndex gconn'.sendMessageId = gccGetArrayIndex gconn.sendMessageId) :
    SendWindow gconn' unacked where
  start_lt := by rw [hstart]; exact h.start_lt
  nodup := h.nodup
  stored := by rw [harray]; exact h.stored
  named := by rw [harray]; exact h.named
  window := by rw [hstart, hnext]; exact h.window
  front := by rw [harray, hstart, hnext]; exact h.front
  clean := by rw [Clean, harray]; exact h.clean

theorem inWindow {i : Nat} (hi : (gconn.sendArray i).isEmpty = false) :
    InWindow gccBufferSize gconn.sendArrayStart.toNat (gccGetArrayIndex gconn.sendMessageId) i := by
  obtain ⟨hmem, hindex⟩ := h.named i hi
  have hwindow := h.window _ hmem
  rwa [hindex] at hwindow

theorem isEmpty_of_not_inWindow {i : Nat}
    (hi : ¬InWindow gccBufferSize gconn.sendArrayStart.toNat (gccGetArrayIndex gconn.sendMessageId) i) :
    (gconn.sendArray i).isEmpty = true := by
  cases hempty : (gconn.sendArray i).isEmpty with
  | true => rfl
  | false => exact absurd (h.inWindow hempty) hi

theorem isEmpty_start (hne : unacked ≠ []) :
    (gconn.sendArray gconn.sendArrayStart.toNat).isEmpty = false := by
  cases hempty : (gconn.sendArray gconn.sendArrayStart.toNat).isEmpty with
  | false => rfl
  | true =>
    obtain ⟨id, hid⟩ := exists_mem_of_ne_nil unacked hne
    have hwindow := h.window id hid
    rw [← h.front hempty] at hwindow
    exact absurd hwindow (not_inWindow_self _ _ h.start_lt)

theorem length_lt : unacked.length < gccBufferSize := by
  -- different ids lie in different slots
  have hnodup : (unacked.map gccGetArrayIndex).Nodup := by
    refine List.Nodup.map_on (fun id hid other hother heq => ?_) h.nodup
    rw [← (h.stored id hid).2, ← (h.stored other hother).2, heq]
  have hwindow : ∀ i ∈ unacked.map gccGetArrayIndex, InWindow gccBufferSize gconn.sendArrayStart.toNat
      (gccGetArrayIndex gconn.sendMessageId) i := by
    intro i hi
    obtain ⟨id, hid, rfl⟩ := mem_map.mp hi
    exact h.window id hid
  have hlength := length_lt_of_inWindow h.start_lt hnodup hwindow
  rwa [length_map] at hlength

/-! ## Adding messages -/

theorem push (hnow : 0 < env.now) (data : Bytes) (packetType : UInt8) (hroom : gconn.HasRoom 0)
    (hlast : next gccBufferSize (gconn.slotAfter 0) ≠ gconn.sendArrayStart.toNat) :
    SendWindow (gconn.push env data packetType) (unacked ++ [gconn.sendMessageId]) := by
  have hslot := gconn.index_eq_slotAfter
  have hempty := hroom.empty
  rw [← hslot] at hempty hlast
  have hother : ∀ id ∈ unacked, gccGetArrayIndex id ≠ gccGetArrayIndex gconn.sendMessageId := by
    intro id hid heq
    have hstored := (h.stored id hid).1
    rw [heq, hempty] at hstored
    simp at hstored
  have hnew : (gconn.push env data packetType).sendArray (gccGetArrayIndex gconn.sendMessageId) =
      createArrayEntry env data packetType gconn.sendMessageId := Function.update_self ..
  have hold : ∀ i, i ≠ gccGetArrayIndex gconn.sendMessageId →
      (gconn.push env data packetType).sendArray i = gconn.sendArray i :=
    fun i hi => Function.update_of_ne hi _ _
  have hwindow : ∀ i, InWindow gccBufferSize gconn.sendArrayStart.toNat
      (gccGetArrayIndex (gconn.sendMessageId + 1)) i ↔
        InWindow gccBufferSize gconn.sendArrayStart.toNat (gccGetArrayIndex gconn.sendMessageId) i ∨
          i = gccGetArrayIndex gconn.sendMessageId := by
    intro i
    rw [gccGetArrayIndex_add_one]
    exact inWindow_next_stop h.start_lt (gccGetArrayIndex_lt _) hlast
  constructor
  case start_lt => exact h.start_lt
  case nodup =>
    refine List.Nodup.append h.nodup (nodup_singleton _) ?_
    rw [disjoint_singleton]
    exact fun hmem => hother _ hmem rfl
  case stored =>
    intro id hid
    cases mem_append.mp hid with
    | inl hmem =>
      rw [hold _ (hother id hmem)]
      exact h.stored id hmem
    | inr hmem =>
      obtain rfl := mem_singleton.mp hmem
      rw [hnew]
      exact ⟨isEmpty_createArrayEntry hnow _ _ _, rfl⟩
  case named =>
    intro i hi
    by_cases heq : i = gccGetArrayIndex gconn.sendMessageId
    · subst heq
      rw [hnew]
      exact ⟨mem_append_right _ (mem_singleton.mpr rfl), rfl⟩
    · rw [hold i heq] at hi ⊢
      obtain ⟨hmem, hindex⟩ := h.named i hi
      exact ⟨mem_append_left _ hmem, hindex⟩
  case window =>
    intro id hid
    refine (hwindow _).mpr ?_
    cases mem_append.mp hid with
    | inl hmem => exact .inl (h.window id hmem)
    | inr hmem => exact .inr (congrArg gccGetArrayIndex (mem_singleton.mp hmem))
  case front =>
    intro hfront
    by_cases heq : gconn.sendArrayStart.toNat = gccGetArrayIndex gconn.sendMessageId
    · -- the message is at the start
      have hfront : ((gconn.push env data packetType).sendArray gconn.sendArrayStart.toNat).isEmpty = true :=
        hfront
      rw [heq, hnew, isEmpty_createArrayEntry hnow] at hfront
      simp at hfront
    · have hfront : ((gconn.push env data packetType).sendArray gconn.sendArrayStart.toNat).isEmpty = true :=
        hfront
      rw [hold _ heq] at hfront
      exact absurd (h.front hfront) heq
  case clean =>
    intro i hi
    by_cases heq : i = gccGetArrayIndex gconn.sendMessageId
    · subst heq
      rw [hnew, isEmpty_createArrayEntry hnow] at hi
      simp at hi
    · rw [hold i heq] at hi ⊢
      exact h.clean i hi

end

end SendWindow

def idsFrom (id : UInt64) (k : Nat) : List UInt64 := (List.range k).map fun j => id + UInt64.ofNat j

theorem idsFrom_succ (id : UInt64) (k : Nat) : idsFrom id (k + 1) = id :: idsFrom (id + 1) k := by
  have hnext : ∀ j : Nat, id + (UInt64.ofNat j + 1) = id + 1 + UInt64.ofNat j := by
    intro j
    rw [UInt64.add_comm (UInt64.ofNat j) 1, UInt64.add_assoc]
  simp [idsFrom, range_succ_eq_map, hnext]

namespace SendWindow

theorem append (hnow : 0 < env.now) {allocs : Nat → Bool} (chunks : List Bytes) {j : Nat}
    (h : SendWindow gconn unacked) (hlength : chunks.length < gccBufferSize)
    (hfits : gconn.Fits allocs j chunks)
    (hlast : ∀ k < chunks.length, next gccBufferSize (gconn.slotAfter k) ≠ gconn.sendArrayStart.toNat) :
    SendWindow (GCConnection.append env gconn chunks)
      (unacked ++ idsFrom gconn.sendMessageId chunks.length) := by
  induction chunks generalizing gconn unacked j with
  | nil =>
    simp only [length_nil, idsFrom, range_zero, map_nil, append_nil]
    exact h
  | cons chunk chunks ih =>
    obtain ⟨⟨hroom, -⟩, hrest⟩ := (fits_cons gconn env allocs j hlength).mp hfits
    rw [length_cons] at hlength hlast ⊢
    have hpush := h.push hnow chunk gpFragment hroom (hlast 0 (by omega))
    have happend := ih hpush (by omega) hrest (fun k hk => by
      rw [slotAfter_push]
      exact hlast (k + 1) (by omega))
    rw [append_assoc] at happend
    rw [idsFrom_succ]
    exact happend

theorem not_last (h : SendWindow gconn unacked) {allocs : Nat → Bool} {j : Nat} {chunks : List Bytes}
    (hlength : chunks.length < gccBufferSize) (hfits : gconn.Fits allocs j chunks)
    (hzero : ¬(gconn.sendArrayStart = 0 ∧
      gccGetArrayIndex gconn.sendMessageId + chunks.length = gccBufferSize)) :
    ∀ k < chunks.length, next gccBufferSize (gconn.slotAfter k) ≠ gconn.sendArrayStart.toNat := by
  intro k hk heq
  have hindex := gccGetArrayIndex_lt gconn.sendMessageId
  have hslot : ∀ k, gconn.slotAfter k = (gccGetArrayIndex gconn.sendMessageId + k) % gccBufferSize := by
    intro k
    rw [slotAfter, gccGetArrayIndex, Nat.mod_add_mod]
  have hroom := (hfits k _ (getElem?_eq_getElem hk)).1
  have hstart := h.start_lt
  rw [next_eq (gconn.slotAfter_lt k)] at heq
  by_cases hne : gconn.sendArrayStart = 0
  · have hzero' : gconn.sendArrayStart.toNat = 0 := by rw [hne]; rfl
    have htop : gconn.slotAfter k + 1 = gccBufferSize := by
      by_contra hlt
      rw [if_neg hlt] at heq
      omega
    have hsum : gccGetArrayIndex gconn.sendMessageId + k + 1 = gccBufferSize := by
      rw [hslot] at htop
      simp only [gccBufferSize] at *
      omega
    by_cases hend : k + 1 = chunks.length
    · exact hzero ⟨hne, by omega⟩
    · -- the next chunk would go into the first slot, which only an empty window leaves free
      have hwrap := (hfits (k + 1) _ (getElem?_eq_getElem (by omega))).1.empty
      have hslotZero : gconn.slotAfter (k + 1) = gconn.sendArrayStart.toNat := by
        rw [hslot, ← Nat.add_assoc, hsum, Nat.mod_self, hzero']
      rw [hslotZero] at hwrap
      have hfront := h.front hwrap
      omega
  · have hpos : 0 < gconn.sendArrayStart.toNat := by
      have hnat := mt UInt16.toNat_inj.mp hne
      have hzeroNat : (0 : UInt16).toNat = 0 := rfl
      omega
    have hpred : (gconn.sendArrayStart - 1).toNat = gconn.sendArrayStart.toNat - 1 := by
      have hone : (1 : UInt16).toNat = 1 := rfl
      rw [UInt16.toNat_sub, hone]
      simp only [gccBufferSize] at hstart
      omega
    have hmiss := hroom.start
    rw [hpred] at hmiss
    split at heq
    · omega
    · omega

theorem hasRoom_of_start_zero (h : SendWindow gconn unacked) (hzero : gconn.sendArrayStart = 0) {k : Nat}
    (hk : gccGetArrayIndex gconn.sendMessageId + k < gccBufferSize) : gconn.HasRoom k := by
  have hslot : gconn.slotAfter k = gccGetArrayIndex gconn.sendMessageId + k := by
    rw [slotAfter, ← Nat.mod_add_mod]
    exact Nat.mod_eq_of_lt hk
  have hstart : gconn.sendArrayStart.toNat = 0 := by rw [hzero]; rfl
  constructor
  case start =>
    have hmax : (gconn.sendArrayStart - 1).toNat = 65535 := by rw [hzero]; rfl
    simp only [gccBufferSize] at hk
    omega
  case empty =>
    refine h.isEmpty_of_not_inWindow fun hwindow => ?_
    have hlt := hwindow.2
    rw [hslot, hstart, distance_eq gccBufferSize_pos hk, distance_eq gccBufferSize_pos (by omega)] at hlt
    simp only [Nat.zero_le, if_true] at hlt
    omega

end SendWindow

/-! ## Acknowledgements -/

theorem advanceSendArrayStart_spec {array : MessageArray} {stop : Nat} (hstop : stop < gccBufferSize)
    (fuel : Nat) {start : UInt16} (hstart : start.toNat < gccBufferSize)
    (hfuel : distance gccBufferSize start.toNat stop ≤ fuel)
    (hwindow : ∀ i, (array i).isEmpty = false → InWindow gccBufferSize start.toNat stop i) :
    (advanceSendArrayStart array stop fuel start).toNat < gccBufferSize ∧
      (∀ i, (array i).isEmpty = false →
        InWindow gccBufferSize (advanceSendArrayStart array stop fuel start).toNat stop i) ∧
      ((array (advanceSendArrayStart array stop fuel start).toNat).isEmpty = true →
        (advanceSendArrayStart array stop fuel start).toNat = stop) := by
  induction fuel generalizing start with
  | zero =>
    refine ⟨hstart, hwindow, fun _ => ?_⟩
    exact (distance_eq_zero_iff hstart hstop).mp (by omega)
  | succ fuel ih =>
    rw [advanceSendArrayStart]
    split
    · rename_i hmove
      obtain ⟨hempty, hne⟩ := hmove
      have hnext : (UInt16.ofNat ((start.toNat + 1) % gccBufferSize)).toNat =
          next gccBufferSize start.toNat := by
        have hlt : (start.toNat + 1) % gccBufferSize < gccBufferSize := Nat.mod_lt _ gccBufferSize_pos
        rw [UInt16.toNat_ofNat', Nat.mod_eq_of_lt (Nat.lt_of_lt_of_le hlt (by decide))]
        rfl
      have hdistance := distance_next_start hstart hstop hne
      refine ih ?_ ?_ fun i hi => ?_
      · rw [hnext]
        exact next_lt gccBufferSize_pos _
      · rw [hnext]
        omega
      · rw [hnext]
        refine (inWindow_next_start hstart hstop hne).mpr ⟨hwindow i hi, fun heq => ?_⟩
        rw [heq, hempty] at hi
        simp at hi
    · rename_i hstay
      refine ⟨hstart, hwindow, fun hempty => ?_⟩
      by_contra hne
      exact hstay ⟨hempty, hne⟩

section

variable {id : UInt64} {array : MessageArray} (hcleared : array (gccGetArrayIndex id) = emptyArrayEntry)
  (hother : ∀ i, i ≠ gccGetArrayIndex id → array i = gconn.sendArray i)
include hcleared hother

theorem of_isEmpty_clear {i : Nat} (hi : (array i).isEmpty = false) :
    i ≠ gccGetArrayIndex id ∧ (gconn.sendArray i).isEmpty = false := by
  by_cases heq : i = gccGetArrayIndex id
  · rw [heq, hcleared] at hi
    simp [isEmpty_emptyArrayEntry] at hi
  · rw [hother i heq] at hi
    exact ⟨heq, hi⟩

/-- A new start keeps what is left in the window. -/
theorem SendWindow.clear (h : SendWindow gconn unacked) (hmem : id ∈ unacked) {start : UInt16}
    (hlt : start.toNat < gccBufferSize)
    (hwindow : ∀ i, (array i).isEmpty = false →
      InWindow gccBufferSize start.toNat (gccGetArrayIndex gconn.sendMessageId) i)
    (hfront : (array start.toNat).isEmpty = true → start.toNat = gccGetArrayIndex gconn.sendMessageId) :
    SendWindow { gconn with sendArray := array, sendArrayStart := start } (unacked.filter (· ≠ id)) := by
  have hindex : ∀ other ∈ unacked.filter (· ≠ id), other ∈ unacked ∧
      gccGetArrayIndex other ≠ gccGetArrayIndex id := by
    intro other hother
    obtain ⟨hother, hne⟩ := mem_filter.mp hother
    refine ⟨hother, fun heq => ?_⟩
    have hentry := (h.stored other hother).2
    rw [heq, (h.stored id hmem).2] at hentry
    simp [hentry] at hne
  have hstored : ∀ other ∈ unacked.filter (· ≠ id), (array (gccGetArrayIndex other)).isEmpty = false ∧
      (array (gccGetArrayIndex other)).messageId = other := by
    intro other hmem
    obtain ⟨hmem, hne⟩ := hindex other hmem
    rw [hother _ hne]
    exact h.stored other hmem
  constructor
  case start_lt => exact hlt
  case nodup => exact h.nodup.filter _
  case stored => exact hstored
  case named =>
    intro i hi
    obtain ⟨hne, hi⟩ := of_isEmpty_clear hcleared hother hi
    obtain ⟨hnamed, hi⟩ := h.named i hi
    show (array i).messageId ∈ _ ∧ gccGetArrayIndex (array i).messageId = i
    rw [hother i hne]
    refine ⟨mem_filter.mpr ⟨hnamed, decide_eq_true fun heq => hne ?_⟩, hi⟩
    rw [← hi, heq]
  case window => exact fun other hmem => hwindow _ (hstored other hmem).1
  case front => exact hfront
  case clean =>
    intro i hi
    by_cases heq : i = gccGetArrayIndex id
    · rw [heq]
      exact hcleared
    · show array i = emptyArrayEntry
      have hi : (array i).isEmpty = true := hi
      rw [hother i heq] at hi ⊢
      exact h.clean i hi

end

theorem SendWindow.gccHandleAck (h : SendWindow gconn unacked) (id : UInt64) :
    SendWindow (gconn.gccHandleAck id).2 (unacked.filter (· ≠ id)) := by
  by_cases hmem : id ∈ unacked
  · obtain ⟨hempty, hid⟩ := h.stored id hmem
    have hcleared : (gconn.sendArray.clear (gccGetArrayIndex id)) (gccGetArrayIndex id) = emptyArrayEntry :=
      Function.update_self ..
    have hother : ∀ i, i ≠ gccGetArrayIndex id →
        (gconn.sendArray.clear (gccGetArrayIndex id)) i = gconn.sendArray i :=
      fun i hi => Function.update_of_ne hi _ _
    have hrest : ∀ i, ((gconn.sendArray.clear (gccGetArrayIndex id)) i).isEmpty = false →
        InWindow gccBufferSize gconn.sendArrayStart.toNat (gccGetArrayIndex gconn.sendMessageId) i :=
      fun i hi => h.inWindow (of_isEmpty_clear hcleared hother hi).2
    rw [GCConnection.gccHandleAck]
    dsimp only
    rw [if_neg (by simp [hempty]), if_neg (not_not.mpr hid)]
    by_cases hfirst : gccGetArrayIndex id = gconn.sendArrayStart.toNat
    · rw [if_pos hfirst]
      have hspec := advanceSendArrayStart_spec (gccGetArrayIndex_lt gconn.sendMessageId) gccBufferSize h.start_lt
        (Nat.le_of_lt (distance_lt gccBufferSize_pos _ _)) hrest
      exact h.clear hcleared hother hmem hspec.1 hspec.2.1 hspec.2.2
    · rw [if_neg hfirst]
      refine h.clear hcleared hother hmem h.start_lt hrest fun hfront => h.front ?_
      rw [hother _ (Ne.symm hfirst)] at hfront
      exact hfront
  · -- an id that is not pending names no entry
    have hsame : unacked.filter (· ≠ id) = unacked :=
      filter_eq_self.mpr fun other hother => decide_eq_true fun heq => hmem (heq ▸ hother)
    have hack : (gconn.gccHandleAck id).2 = gconn := by
      rw [GCConnection.gccHandleAck]
      split
      · rfl
      · rename_i hempty
        rw [if_pos]
        intro heq
        have hnamed := (h.named (gccGetArrayIndex id) (by simpa using hempty)).1
        rw [heq] at hnamed
        exact hmem hnamed
    rw [hsame, hack]
    exact h

end GCConnection

end Toxcore

import Mathlib.Data.UInt
import Toxcore.Native.NgcSendArray
import Toxcore.Spec.NgcChannelReceive

/-!
# Sending fragments: all or nothing

`gcc_send_lossless_packet_fragments` adds the fragments of a message one after the other and takes them back
when one does not fit.  It takes the next id back too, from a copy of 16 bits.
-/

namespace Toxcore

open List

namespace GCConnection

variable {gconn : GCConnection} {env : NgcEnv} {alloc : Bool} {allocs : Nat → Bool}

/-- The slot of the `k`-th message from now on. -/
def slotAfter (gconn : GCConnection) (k : Nat) : Nat := (gconn.sendMessageId.toNat + k) % gccBufferSize

theorem index_add (id : UInt64) (k : Nat) :
    gccGetArrayIndex (id + UInt64.ofNat k) = (id.toNat + k) % gccBufferSize := by
  rw [gccGetArrayIndex, UInt64.toNat_add, UInt64.toNat_ofNat']
  simp only [gccBufferSize]
  omega

theorem slotAfter_lt (gconn : GCConnection) (k : Nat) : gconn.slotAfter k < gccBufferSize :=
  Nat.mod_lt _ (by decide)

theorem slotAfter_inj {j k : Nat} (hj : j < gccBufferSize) (hk : k < gccBufferSize)
    (h : gconn.slotAfter j = gconn.slotAfter k) : j = k := by
  simp only [slotAfter, gccBufferSize] at *
  omega

/-! ## One message -/

def push (gconn : GCConnection) (env : NgcEnv) (data : Bytes) (packetType : UInt8) : GCConnection :=
  { gconn with
    sendArray := Function.update gconn.sendArray (gccGetArrayIndex gconn.sendMessageId)
      (createArrayEntry env data packetType gconn.sendMessageId)
    sendMessageId := gconn.sendMessageId + 1 }

/-- The `k`-th message from now on finds room in the send array. -/
structure HasRoom (gconn : GCConnection) (k : Nat) : Prop where
  start : gconn.slotAfter k ≠ (gconn.sendArrayStart - 1).toNat
  empty : (gconn.sendArray (gconn.slotAfter k)).isEmpty = true

instance (gconn : GCConnection) (k : Nat) : Decidable (gconn.HasRoom k) :=
  decidable_of_iff (gconn.slotAfter k ≠ (gconn.sendArrayStart - 1).toNat ∧
    (gconn.sendArray (gconn.slotAfter k)).isEmpty = true) ⟨fun h => ⟨h.1, h.2⟩, fun h => ⟨h.start, h.empty⟩⟩

theorem index_eq_slotAfter (gconn : GCConnection) :
    gccGetArrayIndex gconn.sendMessageId = gconn.slotAfter 0 := rfl

theorem addToSendArrayAlloc_eq (gconn : GCConnection) (env : NgcEnv) (alloc : Bool) (data : Bytes)
    (packetType : UInt8) : gconn.addToSendArrayAlloc env alloc data packetType =
      if gconn.HasRoom 0 ∧ (data ≠ [] → alloc = true) then (true, gconn.push env data packetType)
      else (false, gconn) := by
  rw [addToSendArrayAlloc, index_eq_slotAfter]
  by_cases hstart : gconn.slotAfter 0 = (gconn.sendArrayStart - 1).toNat
  · rw [if_pos hstart, if_neg fun h => h.1.start hstart]
  · rw [if_neg hstart]
    cases hempty : (gconn.sendArray (gconn.slotAfter 0)).isEmpty with
    | false =>
      have hnone : ¬gconn.HasRoom 0 := fun h => by simpa [hempty] using h.empty
      simp [hnone]
    | true =>
      have hroom : gconn.HasRoom 0 := ⟨hstart, hempty⟩
      -- only a message that is not empty needs memory
      cases data with
      | nil => simp [hroom, push, index_eq_slotAfter]
      | cons b data =>
        cases alloc with
        | true => simp [hroom, push, index_eq_slotAfter]
        | false => simp [hroom]

theorem slotAfter_push (gconn : GCConnection) (env : NgcEnv) (data : Bytes) (packetType : UInt8) (k : Nat) :
    (gconn.push env data packetType).slotAfter k = gconn.slotAfter (k + 1) := by
  have hone : (1 : UInt64).toNat = 1 := rfl
  simp only [slotAfter, push, UInt64.toNat_add, gccBufferSize]
  omega

theorem hasRoom_push (data : Bytes) (packetType : UInt8) {k : Nat} (hk : k + 1 < gccBufferSize) :
    (gconn.push env data packetType).HasRoom k ↔ gconn.HasRoom (k + 1) := by
  have hne : gconn.slotAfter (k + 1) ≠ gccGetArrayIndex gconn.sendMessageId := by
    intro h
    have hzero := slotAfter_inj hk (by decide) (h.trans gconn.index_eq_slotAfter)
    omega
  have hentry : (gconn.push env data packetType).sendArray (gconn.slotAfter (k + 1)) =
      gconn.sendArray (gconn.slotAfter (k + 1)) := Function.update_of_ne hne _ _
  have hslot := gconn.slotAfter_push env data packetType k
  constructor
  · intro h
    refine ⟨?_, ?_⟩
    · rw [← hslot]
      exact h.start
    · rw [← hentry, ← hslot]
      exact h.empty
  · intro h
    refine ⟨?_, ?_⟩
    · rw [hslot]
      exact h.start
    · rw [hslot, hentry]
      exact h.empty

/-! ## Several chunks -/

def append (env : NgcEnv) : GCConnection → List Bytes → GCConnection
  | gconn, [] => gconn
  | gconn, chunk :: chunks => append env (gconn.push env chunk gpFragment) chunks

/-- There is room and memory for all chunks; the first one takes the `j`-th allocation. -/
def Fits (gconn : GCConnection) (allocs : Nat → Bool) (j : Nat) (chunks : List Bytes) : Prop :=
  ∀ k chunk, chunks[k]? = some chunk → gconn.HasRoom k ∧ (chunk ≠ [] → allocs (j + k) = true)

theorem fits_nil (gconn : GCConnection) (allocs : Nat → Bool) (j : Nat) : gconn.Fits allocs j [] :=
  fun _ _ h => by simp at h

theorem fits_cons (gconn : GCConnection) (env : NgcEnv) (allocs : Nat → Bool) (j : Nat) {chunk : Bytes}
    {chunks : List Bytes} (hlength : (chunk :: chunks).length < gccBufferSize) : gconn.Fits allocs j (chunk :: chunks) ↔
      (gconn.HasRoom 0 ∧ (chunk ≠ [] → allocs j = true)) ∧
        (gconn.push env chunk gpFragment).Fits allocs (j + 1) chunks := by
  rw [length_cons] at hlength
  constructor
  · intro h
    refine ⟨h 0 chunk rfl, fun k other hother => ?_⟩
    have hk := (List.getElem?_eq_some_iff.mp hother).1
    obtain ⟨hroom, halloc⟩ := h (k + 1) other hother
    rw [show j + 1 + k = j + (k + 1) by omega]
    exact ⟨(hasRoom_push chunk gpFragment (by omega)).mpr hroom, halloc⟩
  · intro h k other hother
    cases k with
    | zero =>
      cases hother
      exact h.1
    | succ k =>
      have hk := (List.getElem?_eq_some_iff.mp hother).1
      rw [length_cons] at hk
      obtain ⟨hroom, halloc⟩ := h.2 k other hother
      rw [show j + 1 + k = j + (k + 1) by omega] at halloc
      exact ⟨(hasRoom_push chunk gpFragment (by omega)).mp hroom, halloc⟩

theorem sendMessageId_append (env : NgcEnv) (gconn : GCConnection) (chunks : List Bytes) :
    (append env gconn chunks).sendMessageId = gconn.sendMessageId + UInt64.ofNat chunks.length := by
  induction chunks generalizing gconn with
  | nil => simp [append]
  | cons chunk chunks ih =>
    have hlength : UInt64.ofNat (chunks.length + 1) = UInt64.ofNat chunks.length + 1 := by
      simp [UInt64.ofNat_add]
    rw [append, ih, length_cons, hlength, UInt64.add_comm (UInt64.ofNat _) 1, ← UInt64.add_assoc]
    rfl

theorem sendArrayStart_append (env : NgcEnv) (gconn : GCConnection) (chunks : List Bytes) :
    (append env gconn chunks).sendArrayStart = gconn.sendArrayStart := by
  induction chunks generalizing gconn with
  | nil => rfl
  | cons chunk chunks ih => exact ih _

theorem sendArray_append_of_ne (env : NgcEnv) (gconn : GCConnection) (chunks : List Bytes) {i : Nat}
    (h : ∀ k < chunks.length, gconn.slotAfter k ≠ i) :
    (append env gconn chunks).sendArray i = gconn.sendArray i := by
  induction chunks generalizing gconn with
  | nil => rfl
  | cons chunk chunks ih =>
    rw [length_cons] at h
    refine (ih _ fun k hk => ?_).trans (Function.update_of_ne (h 0 (by omega)).symm _ _)
    rw [slotAfter_push]
    exact h (k + 1) (by omega)

theorem sendArray_append (env : NgcEnv) (gconn : GCConnection) {chunks : List Bytes}
    (hlength : chunks.length < gccBufferSize) {k : Nat} {chunk : Bytes} (hk : chunks[k]? = some chunk) :
    (append env gconn chunks).sendArray (gconn.slotAfter k) =
      createArrayEntry env chunk gpFragment (gconn.sendMessageId + UInt64.ofNat k) := by
  induction chunks generalizing gconn k with
  | nil => simp at hk
  | cons first chunks ih =>
    rw [length_cons] at hlength
    cases k with
    | zero =>
      cases hk
      -- later chunks have other slots
      refine (sendArray_append_of_ne env _ chunks fun k hk heq => ?_).trans ?_
      · rw [slotAfter_push] at heq
        have hzero := slotAfter_inj (by omega) (by decide) heq
        omega
      · rw [← index_eq_slotAfter]
        simp [push]
    | succ k =>
      have hnext := ih (gconn.push env first gpFragment) (by omega) hk
      rw [slotAfter_push] at hnext
      rw [append, hnext]
      have hid : (gconn.push env first gpFragment).sendMessageId + UInt64.ofNat k =
          gconn.sendMessageId + UInt64.ofNat (k + 1) := by
        have hsucc : UInt64.ofNat (k + 1) = UInt64.ofNat k + 1 := by simp [UInt64.ofNat_add]
        rw [hsucc, UInt64.add_comm (UInt64.ofNat _) 1, ← UInt64.add_assoc]
        rfl
      rw [hid]

theorem addChunksAlloc_spec (env : NgcEnv) (allocs : Nat → Bool) (j : Nat) (chunks : List Bytes)
    (gconn : GCConnection) (hlength : chunks.length < gccBufferSize) :
    ∃ added, added <+: chunks ∧ gconn.Fits allocs j added ∧
      (PeerLink.addChunksAlloc env allocs j chunks gconn).2 = append env gconn added ∧
      ((PeerLink.addChunksAlloc env allocs j chunks gconn).1 = true ↔ gconn.Fits allocs j chunks) ∧
      ((PeerLink.addChunksAlloc env allocs j chunks gconn).1 = true → added = chunks) := by
  induction chunks generalizing j gconn with
  | nil =>
    exact ⟨[], prefix_rfl, gconn.fits_nil allocs j, rfl,
      ⟨fun _ => gconn.fits_nil allocs j, fun _ => rfl⟩, fun _ => rfl⟩
  | cons chunk chunks ih =>
    rw [length_cons] at hlength
    rw [PeerLink.addChunksAlloc, addToSendArrayAlloc_eq, fits_cons gconn env allocs j (by simpa using hlength)]
    by_cases hfits : gconn.HasRoom 0 ∧ (chunk ≠ [] → allocs j = true)
    · rw [if_pos hfits]
      obtain ⟨added, hadd, hadded, hgconn, hok, hall⟩ :=
        ih (j + 1) (gconn.push env chunk gpFragment) (by omega)
      have hshort := hadd.length_le
      refine ⟨chunk :: added, cons_prefix_cons.mpr ⟨rfl, hadd⟩, ?_, hgconn, ?_, ?_⟩
      · exact (fits_cons gconn env allocs j (by rw [length_cons]; omega)).mpr ⟨hfits, hadded⟩
      · exact hok.trans ⟨fun h => ⟨hfits, h⟩, fun h => h.2⟩
      · intro h
        rw [hall h]
    · rw [if_neg hfits]
      refine ⟨[], nil_prefix, gconn.fits_nil allocs j, rfl, ?_, fun h => by simp at h⟩
      exact ⟨fun h => by simp at h, fun h => absurd h.1 hfits⟩

/-! ## Taking chunks back -/

/-- An empty slot holds nothing, as `clear_array_entry` leaves it. -/
def Clean (gconn : GCConnection) : Prop :=
  ∀ i, (gconn.sendArray i).isEmpty = true → gconn.sendArray i = emptyArrayEntry

theorem index_toUInt16 (id : UInt64) : gccGetArrayIndex id.toUInt16.toUInt64 = gccGetArrayIndex id := by
  rw [gccGetArrayIndex, gccGetArrayIndex, UInt16.toNat_toUInt64, UInt64.toNat_toUInt16]
  simp only [gccBufferSize]
  omega

theorem clearSendQueueIdRange_append (hclean : gconn.Clean) {j : Nat} {chunks : List Bytes}
    (hlength : chunks.length < gccBufferSize) (hfits : gconn.Fits allocs j chunks) :
    (append env gconn chunks).clearSendQueueIdRange gconn.sendMessageId.toUInt16.toUInt64
        (append env gconn chunks).sendMessageId =
      { append env gconn chunks with
        sendArray := gconn.sendArray
        sendMessageId := gconn.sendMessageId.toUInt16.toUInt64 } := by
  have hslots : slotRange (gccGetArrayIndex gconn.sendMessageId.toUInt16.toUInt64)
      (gccGetArrayIndex (append env gconn chunks).sendMessageId) =
        (List.range chunks.length).map gconn.slotAfter := by
    rw [index_toUInt16, sendMessageId_append, index_add]
    exact slotRange_mod hlength
  rw [clearSendQueueIdRange, hslots]
  congr 1
  funext i
  rw [foldl_clear_apply]
  split
  · rename_i hmem
    obtain ⟨k, hk, rfl⟩ := mem_map.mp hmem
    have hchunk := getElem?_eq_getElem (mem_range.mp hk)
    -- the slot was free before
    exact (hclean _ (hfits k _ hchunk).1.empty).symm
  · rename_i hmem
    refine sendArray_append_of_ne env gconn chunks fun k hk heq => hmem ?_
    exact mem_map.mpr ⟨k, mem_range.mpr hk, heq⟩

end GCConnection

namespace PeerLink

open GCConnection

variable {link : PeerLink} {env : NgcEnv}

theorem length_chunks_lt (packetType : UInt8) {data : Bytes} (h : data.length < 2 ^ 16) :
    (firstChunk data packetType :: laterChunks data).length < gccBufferSize := by
  have hrest := length_restChunks_le data.length (data.drop (maxGcPacketChunkSize - 1))
  rw [length_drop] at hrest
  rw [length_cons, laterChunks, length_append, length_singleton]
  generalize (restChunks _ _).length = n at hrest ⊢
  simp only [maxGcPacketChunkSize, gccBufferSize] at *
  omega

theorem sendChunks_eq (link : PeerLink) (env : NgcEnv) (slots : List Nat) (h : ∀ i ∈ slots, (link.gconn.sendArray i).isEmpty = false) :
    (sendChunks env slots link).1 = true ∧ (sendChunks env slots link).2.gconn = link.gconn := by
  induction slots generalizing link with
  | nil => exact ⟨rfl, rfl⟩
  | cons i slots ih =>
    have hgconn : (link.sendEntry env i).2.gconn = link.gconn := SendSide.sendEntry_gconn i
    rw [sendChunks, if_neg (by simp [h i mem_cons_self])]
    have hrest := ih (link.sendEntry env i).2 fun k hk => by rw [hgconn]; exact h k (mem_cons_of_mem _ hk)
    rwa [hgconn] at hrest

/-- The chunks are sent, the first one is refused, or those that were added are taken back. -/
abbrev FragmentsSent (env : NgcEnv) (allocs : Nat → Bool) (gconn : GCConnection) (chunks : List Bytes)
    (result : Bool × PeerLink) : Prop :=
  (result.1 = true ∧ gconn.Fits allocs 0 chunks ∧ result.2.gconn = append env gconn chunks) ∨
  (result.1 = false ∧ ¬(gconn.HasRoom 0 ∧ allocs 0 = true) ∧ result.2.gconn = gconn) ∨
  (result.1 = false ∧ (gconn.HasRoom 0 ∧ allocs 0 = true) ∧ ¬gconn.Fits allocs 0 chunks ∧
    result.2.gconn.sendArray = gconn.sendArray ∧ result.2.gconn.sendArrayStart = gconn.sendArrayStart ∧
    result.2.gconn.sendMessageId = gconn.sendMessageId.toUInt16.toUInt64)

theorem gccSendLosslessPacketFragmentsAlloc_spec (hclean : link.gconn.Clean) (hnow : 0 < env.now)
    (allocs : Nat → Bool) {data : Bytes} (packetType : UInt8) (hlong : maxGcPacketChunkSize < data.length)
    (hmax : data.length < 2 ^ 16) :
    FragmentsSent env allocs link.gconn (firstChunk data packetType :: laterChunks data)
      (link.gccSendLosslessPacketFragmentsAlloc env allocs data packetType) := by
  have hne : firstChunk data packetType ≠ [] := cons_ne_nil _ _
  have hlength := length_chunks_lt packetType hmax
  rw [length_cons] at hlength
  rw [gccSendLosslessPacketFragmentsAlloc, if_neg (Nat.not_le.mpr hlong), addToSendArrayAlloc_eq]
  by_cases hfirst : link.gconn.HasRoom 0 ∧ (firstChunk data packetType ≠ [] → allocs 0 = true)
  · rw [if_pos hfirst]
    obtain ⟨added, hadd, hadded, hgconn, hok, hall⟩ := addChunksAlloc_spec env allocs 1 (laterChunks data)
      (link.gconn.push env (firstChunk data packetType) gpFragment) (by omega)
    have hfits : link.gconn.Fits allocs 0 (firstChunk data packetType :: laterChunks data) ↔ _ :=
      fits_cons link.gconn env allocs 0 (by rw [length_cons]; exact hlength)
    have hshort := hadd.length_le
    dsimp only
    generalize addChunksAlloc env allocs 1 (laterChunks data)
      (link.gconn.push env (firstChunk data packetType) gpFragment) = result at hgconn hok hall ⊢
    obtain ⟨ok, gconn⟩ := result
    subst hgconn
    have happend : append env (link.gconn.push env (firstChunk data packetType) gpFragment) added =
        append env link.gconn (firstChunk data packetType :: added) := rfl
    cases ok with
    | false =>
      right
      right
      have hnot : ¬link.gconn.Fits allocs 0 (firstChunk data packetType :: laterChunks data) :=
        fun h => by simpa using hok.mpr (hfits.mp h).2
      have hpart : link.gconn.Fits allocs 0 (firstChunk data packetType :: added) :=
        (fits_cons link.gconn env allocs 0 (by rw [length_cons]; omega)).mpr ⟨hfirst, hadded⟩
      dsimp only
      rw [happend, clearSendQueueIdRange_append hclean (by rw [length_cons]; omega) hpart]
      exact ⟨rfl, ⟨hfirst.1, hfirst.2 hne⟩, hnot, rfl, sendArrayStart_append env _ _, rfl⟩
    | true =>
      left
      obtain rfl := hall rfl
      have hall' := hfits.mpr ⟨hfirst, hok.mp rfl⟩
      have hsend := sendChunks_eq
        (link.withConn (append env link.gconn (firstChunk data packetType :: laterChunks data))) env
        (slotRange (gccGetArrayIndex link.gconn.sendMessageId.toUInt16.toUInt64)
          (gccGetArrayIndex (append env link.gconn (firstChunk data packetType :: laterChunks data)).sendMessageId))
        (fun i hi => by
          rw [index_toUInt16, sendMessageId_append, index_add,
            show gccGetArrayIndex link.gconn.sendMessageId = link.gconn.sendMessageId.toNat % gccBufferSize from rfl,
            slotRange_mod (by rw [length_cons]; exact hlength)] at hi
          obtain ⟨k, hk, rfl⟩ := mem_map.mp hi
          have hchunk := getElem?_eq_getElem (mem_range.mp hk)
          have hentry := sendArray_append env link.gconn (by rw [length_cons]; exact hlength) hchunk
          exact (congrArg GCMessageArrayEntry.isEmpty hentry).trans (isEmpty_createArrayEntry hnow _ _ _))
      exact ⟨hsend.1, hall', hsend.2⟩
  · right
    left
    rw [if_neg hfirst]
    exact ⟨rfl, fun h => hfirst ⟨h.1, fun _ => h.2⟩, rfl⟩

structure Appended (env : NgcEnv) (gconn gconn' : GCConnection) (chunks : List Bytes) : Prop where
  next : gconn'.sendMessageId = gconn.sendMessageId + UInt64.ofNat chunks.length
  start : gconn'.sendArrayStart = gconn.sendArrayStart
  free : ∀ k < chunks.length, (gconn.sendArray (gconn.slotAfter k)).isEmpty = true
  entry : ∀ k chunk, chunks[k]? = some chunk → gconn'.sendArray (gconn.slotAfter k) =
    createArrayEntry env chunk gpFragment (gconn.sendMessageId + UInt64.ofNat k)
  other : ∀ i, (∀ k < chunks.length, gconn.slotAfter k ≠ i) → gconn'.sendArray i = gconn.sendArray i

/-- A call that returns true appended the fragments; one that returns false changed nothing. -/
structure AllOrNothing (env : NgcEnv) (gconn : GCConnection) (data : Bytes) (packetType : UInt8)
    (result : Bool × GCConnection) : Prop where
  all : result.1 = true → ∃ fragments : List Bytes, fragments.flatten = packetType :: data ∧
    (∀ fragment ∈ fragments, fragment ≠ []) ∧ Appended env gconn result.2 (fragments ++ [[]])
  nothing : result.1 = false → result.2.sendArray = gconn.sendArray ∧
    result.2.sendArrayStart = gconn.sendArrayStart ∧ result.2.sendMessageId = gconn.sendMessageId

/-- All-or-nothing exactly if the first id fits into 16 bits, or no fragment finds room, or all do. -/
theorem allOrNothing_iff (hclean : link.gconn.Clean) (hnow : 0 < env.now) (allocs : Nat → Bool) {data : Bytes}
    (packetType : UInt8) (hlong : maxGcPacketChunkSize < data.length) (hmax : data.length ≤ maxGcPacketSize) :
    AllOrNothing env link.gconn data packetType
        ((link.gccSendLosslessPacketFragmentsAlloc env allocs data packetType).1,
          (link.gccSendLosslessPacketFragmentsAlloc env allocs data packetType).2.gconn) ↔
      link.gconn.sendMessageId.toNat < 2 ^ 16 ∨ ¬(link.gconn.HasRoom 0 ∧ allocs 0 = true) ∨
        link.gconn.Fits allocs 0 (firstChunk data packetType :: laterChunks data) := by
  have hshort : data.length < 2 ^ 16 := Nat.lt_of_le_of_lt hmax (by decide)
  have hlength := length_chunks_lt packetType hshort
  obtain ⟨hok, hfits, hgconn⟩ | ⟨hok, hnone, hgconn⟩ | ⟨hok, hfirst, hnot, harray, hstart, hid⟩ :=
    gccSendLosslessPacketFragmentsAlloc_spec hclean hnow allocs packetType hlong hshort
  · refine ⟨fun _ => .inr (.inr hfits), fun _ => ⟨fun _ => ?_, fun hfalse => ?_⟩⟩
    · refine ⟨firstChunk data packetType :: restChunks data.length (data.drop (maxGcPacketChunkSize - 1)),
        ?_, ?_, ?_⟩
      · rw [flatten_cons, flatten_restChunks (by rw [length_drop]; omega), firstChunk,
          cons_append, take_append_drop]
      · intro fragment hmem
        cases mem_cons.mp hmem with
        | inl heq => exact heq ▸ cons_ne_nil _ _
        | inr hrest => exact ne_nil_of_mem_restChunks hrest
      · have hchunks : firstChunk data packetType :: restChunks data.length
            (data.drop (maxGcPacketChunkSize - 1)) ++ [[]] = firstChunk data packetType :: laterChunks data := rfl
        rw [hchunks, hgconn]
        constructor
        case next => exact sendMessageId_append env _ _
        case start => exact sendArrayStart_append env _ _
        case free => exact fun k hk => (hfits k _ (getElem?_eq_getElem hk)).1.empty
        case entry => exact fun k chunk hk => sendArray_append env _ hlength hk
        case other => exact fun i hi => sendArray_append_of_ne env _ _ hi
    · rw [hok] at hfalse
      simp at hfalse
  · refine ⟨fun _ => .inr (.inl hnone), fun _ => ⟨fun htrue => ?_, fun _ => ?_⟩⟩
    · rw [hok] at htrue
      simp at htrue
    · rw [hgconn]
      exact ⟨rfl, rfl, rfl⟩
  · -- the chunks are taken back, and the id with them
    have hsame : link.gconn.sendMessageId.toUInt16.toUInt64 = link.gconn.sendMessageId ↔
        link.gconn.sendMessageId.toNat < 2 ^ 16 := by
      rw [← UInt64.toNat_inj, UInt16.toNat_toUInt64, UInt64.toNat_toUInt16]
      omega
    constructor
    · intro h
      have hkept := (h.nothing hok).2.2
      rw [hid] at hkept
      exact .inl (hsame.mp hkept)
    · intro h
      have hsmall := (h.resolve_right fun h => h.elim (fun h => h hfirst) hnot)
      refine ⟨fun htrue => ?_, fun _ => ⟨harray, hstart, hid.trans (hsame.mpr hsmall)⟩⟩
      rw [hok] at htrue
      simp at htrue

def startEnv : NgcEnv := { now := 1, nonce := 0, sendOk := true }

def newLink : PeerLink := { gconn := zeroGCConnection.gccSetSendMessageId 0, sent := [], handed := [] }

def twoFragments : Bytes := List.replicate (maxGcPacketChunkSize + 1) 0

theorem length_twoFragments : twoFragments.length = maxGcPacketChunkSize + 1 := length_replicate

theorem allOrNothing_iff_new : AllOrNothing startEnv newLink.gconn twoFragments 0
    ((newLink.gccSendLosslessPacketFragmentsAlloc startEnv (fun _ => true) twoFragments 0).1,
      (newLink.gccSendLosslessPacketFragmentsAlloc startEnv (fun _ => true)
        twoFragments 0).2.gconn) :=
  (allOrNothing_iff (fun _ _ => rfl) (by decide) (fun _ => true) 0 (by rw [length_twoFragments]; decide)
    (by rw [length_twoFragments]; decide)).mpr (.inl (by decide))

/-- The messages up to 57345 are acknowledged, and the next id is 65536: two slots are free. -/
def nearlyFull : PeerLink where
  gconn := { zeroGCConnection with
    sendMessageId := 65536
    sendArrayStart := 2
    sendArray := fun i =>
      if i < 2 then emptyArrayEntry
      else GCConnection.createArrayEntry startEnv [0] gpBroadcast (UInt64.ofNat (57344 + i)) }
  sent := []
  handed := []

theorem nearlyFull_clean : nearlyFull.gconn.Clean := by
  intro i hi
  simp only [nearlyFull] at hi ⊢
  split at hi
  · rename_i hlt
    exact if_pos hlt
  · rw [isEmpty_createArrayEntry (by decide)] at hi
    simp at hi

/-- The first fragment fits and the second one does not; afterwards the next id is 0. -/
theorem not_allOrNothing_nearlyFull :
    ¬AllOrNothing startEnv nearlyFull.gconn twoFragments 0
      ((nearlyFull.gccSendLosslessPacketFragmentsAlloc startEnv (fun _ => true) twoFragments 0).1,
        (nearlyFull.gccSendLosslessPacketFragmentsAlloc startEnv (fun _ => true)
          twoFragments 0).2.gconn) := by
  have hfull : ¬nearlyFull.gconn.HasRoom 1 := by decide
  have hsecond : (firstChunk twoFragments 0 :: laterChunks twoFragments).length ≠ 1 := by
    simp [laterChunks]
  have hspec := @gccSendLosslessPacketFragmentsAlloc_spec nearlyFull startEnv nearlyFull_clean (by decide)
    (fun _ => true) twoFragments 0 (by rw [length_twoFragments]; decide) (by rw [length_twoFragments]; decide)
  generalize nearlyFull.gccSendLosslessPacketFragmentsAlloc startEnv (fun _ => true) twoFragments 0 = result
    at hspec ⊢
  intro h
  obtain ⟨-, hfits, -⟩ | ⟨-, hnone, -⟩ | ⟨hok, -, -, -, -, hid⟩ := hspec
  · have hlt : 1 < (firstChunk twoFragments 0 :: laterChunks twoFragments).length := by
      rw [length_cons] at hsecond ⊢
      omega
    exact hfull (hfits 1 _ (getElem?_eq_getElem hlt)).1
  · have hslot : nearlyFull.gconn.slotAfter 0 = 0 := by decide
    have hroom : nearlyFull.gconn.HasRoom 0 := by
      constructor
      case start => decide
      case empty =>
        rfl
    exact hnone ⟨hroom, rfl⟩
  · exact absurd (hid.symm.trans (h.nothing hok).2.2) (by decide)

end PeerLink

end Toxcore

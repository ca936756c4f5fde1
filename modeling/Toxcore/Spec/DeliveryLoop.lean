import Toxcore.Spec.TransportTrace

/-!
# The delivery loop of `handle_data_packet_core`

After a lossless packet was stored, packets are passed to `connection_data_callback` until the first hole. The
loop keeps the packet number in an `int` and takes the number `0xffffffff` for the end marker `-1` of
`read_data_beg_buffer`.
-/

namespace Toxcore

open List

open UInt32 (dist dist_inj add_ofNat_dist dist_add_ofNat)

/-! ## Successive reads -/

/-- Successive calls of `read_data_beg_buffer` and the packets they return. -/
inductive PacketsArray.Removes : PacketsArray → List (UInt32 × PacketData) → PacketsArray → Prop
  | nil (a : PacketsArray) : Removes a [] a
  | cons {a a' a'' : PacketsArray} {id : UInt32} {d : PacketData}
      {removed : List (UInt32 × PacketData)} (h : a.readDataBegBuffer = some (id, d, a'))
      (t : Removes a' removed a'') : Removes a ((id, d) :: removed) a''

namespace PacketsArray.Removes

variable {a a' : PacketsArray} {removed : List (UInt32 × PacketData)}

section

variable (h : Removes a removed a')
include h

theorem spec (hwf : a.WellFormed) :
    a'.WellFormed ∧ a'.bufferStart = a.bufferStart + UInt32.ofNat removed.length ∧
      a'.size + removed.length = a.size ∧
      (∀ i d, removed[i]? = some d → d.1 = a.bufferStart + UInt32.ofNat i ∧ a.lookup d.1 = some d.2) ∧
      ∀ n, removed.length ≤ a.offset n → a'.lookup n = a.lookup n := by
  induction h with
  | nil a => simp [hwf]
  | @cons a a' a'' id d removed hread _ ih =>
    obtain ⟨rfl, hfirst, hwf', hstart, -, hsize, hlook⟩ := readDataBegBuffer_spec hwf hread
    obtain ⟨hwf'', hstart', hsize', hremoved, hrest⟩ := ih hwf'
    have hsucc : ∀ i, a'.bufferStart + UInt32.ofNat i = a.bufferStart + UInt32.ofNat (i + 1) := by
      intro i
      rw [hstart, UInt32.add_assoc, UInt32.add_comm 1]
      simp
    refine ⟨hwf'', ?_, ?_, ?_, ?_⟩
    · rw [hstart', hsucc, length_cons]
    · simp only [length_cons]
      omega
    · intro i d' hi
      cases i with
      | zero =>
        simp only [getElem?_cons_zero, Option.some.injEq] at hi
        subst hi
        exact ⟨by simp, hfirst⟩
      | succ i =>
        obtain ⟨hid, hd⟩ := hremoved i d' hi
        refine ⟨hid.trans (hsucc i), ?_⟩
        -- the packet is found after the first one was removed, so it is another one
        rw [hlook] at hd
        split at hd
        · cases hd
        · exact hd
    · intro n hn
      rw [length_cons] at hn
      have hne : n ≠ a.bufferStart := by
        rintro rfl
        rw [offset_bufferStart] at hn
        omega
      have hoff : a'.offset n + 1 = a.offset n := by
        unfold offset
        rw [hstart]
        exact UInt32.dist_add_one_left hne
      rw [hrest n (by omega), hlook, if_neg hne]

theorem concat {a'' : PacketsArray} {id : UInt32} {d : PacketData}
    (hread : a'.readDataBegBuffer = some (id, d, a'')) : Removes a (removed ++ [(id, d)]) a'' := by
  induction h with
  | nil a => exact .cons hread (.nil _)
  | cons hread' _ ih => exact .cons hread' (ih hread)

theorem exists_hole (hwf : a.WellFormed)
    (hlast : ∀ d ∈ removed, d.1 ≠ 0xffffffff) (hnone : a'.readDataBegBuffer = none) :
    ∃ n, n - a.bufferStart ≤ 0xffffffff - a.bufferStart ∧ a.lookup n = none := by
  obtain ⟨hwf', hstart, hsize, hremoved, hrest⟩ := h.spec hwf
  have hsmall : removed.length < 2 ^ 32 := by
    have := hwf.size_le
    have : cryptoPacketBufferSize < 2 ^ 32 := by decide
    omega
  have hoff : a.offset a'.bufferStart = removed.length := by
    rw [hstart]
    exact dist_add_ofNat _ hsmall
  refine ⟨a'.bufferStart, ?_, ?_⟩
  · -- otherwise `0xffffffff` would be among the removed packets
    change a.offset a'.bufferStart ≤ a.offset 0xffffffff
    by_contra hlt
    obtain ⟨d, hd⟩ : ∃ d, removed[a.offset 0xffffffff]? = some d :=
      ⟨_, getElem?_eq_getElem (by omega)⟩
    have hid := (hremoved _ d hd).1
    rw [offset, add_ofNat_dist] at hid
    exact hlast d (mem_of_getElem? hd) hid
  · rw [← hrest _ (by omega)]
    exact (readDataBegBuffer_eq_none hwf').mp hnone

theorem lookup_isSome {a'' : PacketsArray} {d : PacketData}
    (hwf : a.WellFormed) (hread : a'.readDataBegBuffer = some (0xffffffff, d, a'')) {n : UInt32}
    (hn : n - a.bufferStart ≤ 0xffffffff - a.bufferStart) : (a.lookup n).isSome := by
  obtain ⟨-, -, hsize, hremoved, -⟩ := (h.concat hread).spec hwf
  have hlen : (removed ++ [((0xffffffff : UInt32), d)])[removed.length]? = some (0xffffffff, d) := by
    simp
  have hmax := (hremoved _ _ hlen).1
  have hsmall : removed.length < 2 ^ 32 := by
    have := hwf.size_le
    have : cryptoPacketBufferSize < 2 ^ 32 := by decide
    simp only [length_append, length_singleton] at hsize
    omega
  have hoff : a.offset n ≤ removed.length := by
    rw [← dist_add_ofNat a.bufferStart hsmall, ← hmax]
    exact hn
  obtain ⟨d', hd'⟩ : ∃ d', (removed ++ [((0xffffffff : UInt32), d)])[a.offset n]? = some d' :=
    ⟨_, getElem?_eq_getElem (by simp; omega)⟩
  obtain ⟨hid, hlook⟩ := hremoved _ _ hd'
  rw [offset, add_ofNat_dist] at hid
  rw [← hid, hlook]
  rfl

end

end PacketsArray.Removes

namespace Peer

structure KeepsReceiver (client : Bytes → Peer → Peer) : Prop where
  recvArray : ∀ data p, (client data p).conn.recvArray = p.conn.recvArray
  delivered : ∀ data p, (client data p).delivered = p.delivered
  isValid : ∀ data p, p.conn.isValid → (client data p).conn.isValid

/-! ## The loop -/

/-- Exactly the packets were delivered that were removed, in order, up to the first hole or the end. -/
structure DeliversRemoved (p q : Peer) : Prop where
  exists_removed : ∃ removed, p.conn.recvArray.Removes removed q.conn.recvArray ∧
    q.delivered = p.delivered ++ removed.map (·.2.data) ∧
    ∀ i d, removed[i]? = some d → d.1 = p.conn.recvArray.bufferStart + UInt32.ofNat i
  stops : q.conn.recvArray.readDataBegBuffer = none

variable {client : Bytes → Peer → Peer}

theorem deliverLoop_outcome (hclient : KeepsReceiver client) (count : Nat) {p : Peer}
    (hwf : p.conn.recvArray.WellFormed) (hvalid : p.conn.isValid) (hcount : p.conn.recvArray.size ≤ count) :
    ∃ removed a, p.conn.recvArray.Removes removed a ∧ (∀ d ∈ removed, d.1 ≠ 0xffffffff) ∧
      (deliverLoop (some client) count p).2.delivered = p.delivered ++ removed.map (·.2.data) ∧
      ((a.readDataBegBuffer = none ∧ (deliverLoop (some client) count p).2.conn.recvArray = a) ∨
        ∃ d a', a.readDataBegBuffer = some (0xffffffff, d, a') ∧
          (deliverLoop (some client) count p).2.conn.recvArray = a') := by
  induction count generalizing p with
  | zero =>
    refine ⟨[], _, .nil _, nofun, by simp [deliverLoop], .inl ⟨?_, rfl⟩⟩
    rw [PacketsArray.readDataBegBuffer_eq_none hwf, PacketsArray.lookup, if_neg (by omega)]
  | succ count ih =>
    rw [deliverLoop]
    split
    · rename_i hread
      exact ⟨[], _, .nil _, nofun, by simp, .inl ⟨hread, rfl⟩⟩
    rename_i id dt recvArray hread
    obtain ⟨-, -, hwf', -, -, hsize, -⟩ := PacketsArray.readDataBegBuffer_spec hwf hread
    simp only
    split
    · -- the comparison with `-1` succeeds for packet `0xffffffff` only
      rename_i hret
      have hid : id = 0xffffffff := by
        rw [← UInt32.toUInt32_toInt32 id, hret]
        rfl
      subst hid
      exact ⟨[], _, .nil _, nofun, by simp, .inr ⟨dt, recvArray, hread, rfl⟩⟩
    rename_i hret
    have hne : id ≠ 0xffffffff := by
      rintro rfl
      exact hret (by decide)
    generalize hq : callDataCallback (some client) dt.data { p with conn := { p.conn with recvArray } } = q
    have hqarr : q.conn.recvArray = recvArray := hq ▸ hclient.recvArray dt.data _
    have hqdel : q.delivered = p.delivered ++ [dt.data] := hq ▸ hclient.delivered dt.data _
    have hqvalid : q.conn.isValid := hq ▸ hclient.isValid dt.data _ hvalid
    obtain ⟨removed, a, hrem, hlast, hdel, hend⟩ :=
      ih (p := q) (hqarr ▸ hwf') hqvalid (by rw [hqarr]; omega)
    rw [if_neg (by simp [hqvalid])]
    refine ⟨(id, dt) :: removed, a, .cons hread (hqarr ▸ hrem), ?_, ?_, hend⟩
    · simpa [hne] using hlast
    · rw [hdel, hqdel]
      simp

theorem not_deliversRemoved_of_lost {p q : Peer} (hwf : p.conn.recvArray.WellFormed)
    {removed : List (UInt32 × PacketData)} {a : PacketsArray} {id : UInt32} {d : PacketData}
    (hrem : p.conn.recvArray.Removes removed a) (hread : a.readDataBegBuffer = some (id, d, q.conn.recvArray))
    (hdel : q.delivered = p.delivered ++ removed.map (·.2.data)) : ¬DeliversRemoved p q := by
  rintro ⟨⟨removed', hrem', hdel', -⟩, -⟩
  -- both lists lead to the same array, so they have the same length
  have hlen := ((hrem.concat hread).spec hwf).2.2.1
  have hlen' := (hrem'.spec hwf).2.2.1
  have hdel'' := congrArg List.length (hdel.symm.trans hdel')
  simp only [length_append, length_map, length_singleton] at hlen hdel''
  omega

/-- The loop delivers exactly what it removes, if and only if some number up to `0xffffffff` is not stored. -/
theorem deliversRemoved_iff (hclient : KeepsReceiver client) {p : Peer} {num : UInt32} {data : Bytes}
    {calloc : Bool} {recvArray : PacketsArray} (hwf : p.conn.recvArray.WellFormed) (hvalid : p.conn.isValid)
    (hadd : p.conn.recvArray.addDataToBuffer num ⟨0, data⟩ calloc = some recvArray) :
    DeliversRemoved { p with conn := { p.conn with recvArray } }
        (deliverLoop (some client) recvArray.numPacketsArray.toNat
          { p with conn := { p.conn with recvArray } }).2 ↔
      ∃ n, n - p.conn.recvArray.bufferStart ≤ 0xffffffff - p.conn.recvArray.bufferStart ∧
        n ≠ num ∧ p.conn.recvArray.lookup n = none := by
  obtain ⟨-, -, hwf', hstart, -, hlook⟩ := PacketsArray.addDataToBuffer_spec hwf hadd
  have hhole : ∀ n, recvArray.lookup n = none ↔ n ≠ num ∧ p.conn.recvArray.lookup n = none := by
    intro n
    rw [hlook]
    split <;> simp_all
  simp only [← hhole, ← hstart]
  obtain ⟨removed, a, hrem, hlast, hdel, hend⟩ :=
    deliverLoop_outcome hclient recvArray.numPacketsArray.toNat
      (p := { p with conn := { p.conn with recvArray } }) hwf' hvalid le_rfl
  have hspec := hrem.spec hwf'
  generalize (deliverLoop (some client) recvArray.numPacketsArray.toNat
    { p with conn := { p.conn with recvArray } }).2 = q at hdel hend ⊢
  rcases hend with ⟨hnone, rfl⟩ | ⟨d, a', hread, rfl⟩
  · -- the loop stopped at a hole, which lies before `0xffffffff`
    obtain ⟨n, hn, hfree⟩ := hrem.exists_hole hwf' hlast hnone
    exact iff_of_true ⟨⟨removed, hrem, hdel, fun i d hi => (hspec.2.2.2.1 i d hi).1⟩, hnone⟩ ⟨n, hn, hfree⟩
  · -- the loop removed `0xffffffff`, so everything before it was there
    refine iff_of_false (not_deliversRemoved_of_lost hwf' hrem hread hdel) ?_
    rintro ⟨n, hn, hfree⟩
    have hsome := hrem.lookup_isSome hwf' hread hn
    rw [hfree] at hsome
    exact nomatch hsome

def waitingFor (n : UInt32) : Peer where
  conn := { emptyCryptoConnection with
    status := .established
    recvArray := { PacketsArray.empty with bufferStart := n, bufferEnd := n } }
  wire := []
  accepted := []
  delivered := []

theorem wellFormed_waitingFor (n : UInt32) : (waitingFor n).conn.recvArray.WellFormed where
  size_le := by simp [waitingFor, PacketsArray.size]
  empty_after := fun _ _ _ => rfl

def received (n : UInt32) (data : Bytes) : PacketsArray :=
  { (waitingFor n).conn.recvArray.setSlot n (some ⟨0, data⟩) with bufferEnd := n + 1 }

theorem addDataToBuffer_waitingFor (n : UInt32) (data : Bytes) :
    (waitingFor n).conn.recvArray.addDataToBuffer n ⟨0, data⟩ true = some (received n data) := by
  simp [PacketsArray.addDataToBuffer, waitingFor, received, PacketsArray.empty,
    PacketsArray.numPacketsArray, PacketsArray.setSlot, cryptoPacketBufferSize]

theorem keepsReceiver_id : KeepsReceiver fun _ p => p :=
  ⟨fun _ _ => rfl, fun _ _ => rfl, fun _ _ h => h⟩

/-- An array that waits for packet `0xffffffff` loses it. -/
theorem not_deliversRemoved_waitingFor :
    ¬∀ (client : Bytes → Peer → Peer) (p : Peer) (num : UInt32) (data : Bytes) (calloc : Bool)
      (recvArray : PacketsArray), KeepsReceiver client → p.conn.recvArray.WellFormed →
      p.conn.isValid → isLosslessId (data.headD 0) →
      p.conn.recvArray.addDataToBuffer num ⟨0, data⟩ calloc = some recvArray →
      DeliversRemoved { p with conn := { p.conn with recvArray } }
        (deliverLoop (some client) recvArray.numPacketsArray.toNat
          { p with conn := { p.conn with recvArray } }).2 := by
  intro h
  have hdel := h (fun _ p => p) (waitingFor 0xffffffff) 0xffffffff [16] true _ keepsReceiver_id
    (wellFormed_waitingFor _) rfl rfl (addDataToBuffer_waitingFor _ _)
  have hwf := (PacketsArray.addDataToBuffer_spec (wellFormed_waitingFor 0xffffffff)
    (addDataToBuffer_waitingFor 0xffffffff [16])).2.2.1
  exact not_deliversRemoved_of_lost hwf (.nil _) (d := ⟨0, [16]⟩) rfl rfl hdel

/-- An array that waits for packet `0` delivers it. -/
theorem deliversRemoved_waitingFor_zero :
    DeliversRemoved
      { waitingFor 0 with conn := { (waitingFor 0).conn with recvArray := received 0 [16] } }
      (deliverLoop (some fun _ p => p) 1
        { waitingFor 0 with conn := { (waitingFor 0).conn with recvArray := received 0 [16] } }).2 :=
  (deliversRemoved_iff keepsReceiver_id (wellFormed_waitingFor 0) rfl
    (addDataToBuffer_waitingFor 0 [16])).mpr ⟨1, by decide, by decide, by decide⟩

end Peer

end Toxcore

import Toxcore.Spec.Transport
import Toxcore.ForStd.List

/-!
# The sending side keeps the transport invariant

Every function that sends is a sequence of a few small effects: a packet goes on the wire, a packet gets a new
`sent_time`, a payload is appended to the send array, or a field changes that the invariant does not mention.
Each effect keeps `Linked`, and so does every API call (`Linked.api`).
-/

namespace Toxcore.Peer

open List

variable {x x' y : Peer}

/-! ## Effects -/

theorem SentContents.mono {contents : Bytes} (h : x.SentContents contents)
    (hacc : x.accepted <+: x'.accepted) (hdel : x.delivered.length ≤ x'.delivered.length)
    (hhas : ∀ n, x.Has n → x'.Has n) : x'.SentContents contents := by
  obtain ⟨bufferStart, num, id, rest, hc, hs, hn, hpad, hkill, hloss, hreq⟩ := h.exists_fields
  refine ⟨bufferStart, num, id, rest, hc, by omega, ?_, hpad, hkill, ?_, ?_⟩
  · exact Nat.le_trans hn hacc.length_le
  · intro hl
    exact hacc.getElem?_eq_some (hloss hl)
  · intro hr j hj
    exact hhas _ (hreq hr j hj)

/-- `x'` differs from `x` in fields outside the invariant, and has sent the contents `P`. -/
structure Sends (P : Bytes → Prop) (x x' : Peer) : Prop where
  sendArray : x'.conn.sendArray = x.conn.sendArray
  recvArray : x'.conn.recvArray = x.conn.recvArray
  accepted : x'.accepted = x.accepted
  delivered : x'.delivered = x.delivered
  wire : ∀ packet ∈ x'.wire, packet ∈ x.wire ∨ P packet.encrypted.plain

theorem Sends.has_iff {P : Bytes → Prop} (h : Sends P x x') (n : UInt32) : x'.Has n ↔ x.Has n := by
  unfold Has
  rw [h.recvArray, h.delivered]

theorem Linked.sends {P : Bytes → Prop} (h : Linked x y) (hs : Sends P x x')
    (hP : ∀ contents, Inv x y → P contents → x.SentContents contents) : Linked x' y := by
  intro hx hy
  have hinv := h (by unfold Bounded at *; rwa [← hs.accepted]) hy
  have ⟨forth, back, wire, wire', _, _⟩ := hinv
  refine ⟨?_, ?_, ?_, wire', hx, hy⟩
  · exact
      { send_wf := hs.sendArray ▸ forth.send_wf
        recv_wf := forth.recv_wf
        sendEnd := by rw [hs.sendArray, hs.accepted]; exact forth.sendEnd
        recvStart := forth.recvStart
        sendStart_le := by rw [hs.sendArray]; exact forth.sendStart_le
        recvStart_le := forth.recvStart_le
        recvEnd_le := by rw [hs.accepted]; exact forth.recvEnd_le
        delivered_prefix := by rw [hs.accepted]; exact forth.delivered_prefix
        send_data := by rw [hs.sendArray, hs.accepted]; exact forth.send_data
        recv_data := by rw [hs.accepted]; exact forth.recv_data
        kept := by rw [hs.sendArray, hs.accepted]; exact forth.kept }
  · exact
      { send_wf := back.send_wf
        recv_wf := hs.recvArray ▸ back.recv_wf
        sendEnd := back.sendEnd
        recvStart := by rw [hs.recvArray, hs.delivered]; exact back.recvStart
        sendStart_le := by rw [hs.delivered]; exact back.sendStart_le
        recvStart_le := by rw [hs.recvArray, hs.delivered]; exact back.recvStart_le
        recvEnd_le := by rw [hs.recvArray]; exact back.recvEnd_le
        delivered_prefix := by rw [hs.delivered]; exact back.delivered_prefix
        send_data := back.send_data
        recv_data := by rw [hs.recvArray]; exact back.recv_data
        kept := fun n hn hh => back.kept n hn fun h' => hh ((hs.has_iff n).mpr h') }
  · refine ⟨fun packet hp => ?_, by rw [hs.accepted]; exact wire.lossless⟩
    have hsent : x.SentContents packet.encrypted.plain := by
      rcases hs.wire packet hp with hold | hnew
      · exact wire.sent packet hold
      · exact hP _ hinv hnew
    exact hsent.mono (by rw [hs.accepted]) (by rw [hs.delivered]) fun n hn => (hs.has_iff n).mpr hn

theorem Linked.congr (h : Linked x y) (hs : Sends (fun _ => False) x x') : Linked x' y :=
  h.sends hs fun _ _ => False.elim

theorem Linked.setSentTime (h : Linked x y) {n : UInt32} {dt : PacketData}
    (hdt : x.conn.sendArray.lookup n = some dt) (now : UInt64) :
    Linked (x.setSentTime n dt now) y := by
  intro hx hy
  obtain ⟨forth, back, wire, wire', -, -⟩ := h hx hy
  have hin := PacketsArray.offset_lt_of_lookup hdt
  have hlook : ∀ m, (x.setSentTime n dt now).conn.sendArray.lookup m =
      if m = n then some { dt with sentTime := now } else x.conn.sendArray.lookup m :=
    fun m => forth.send_wf.lookup_setSlot _ hin
  have hwire : (x.setSentTime n dt now).WireOk :=
    ⟨fun packet hp => (wire.sent packet hp).mono prefix_rfl le_rfl fun _ hn => hn, wire.lossless⟩
  refine ⟨?_, { back with }, hwire, wire', hx, hy⟩
  refine { forth with send_wf := forth.send_wf.setSlot _ hin, send_data := ?_, kept := ?_ }
  · intro m d hm
    rw [hlook] at hm
    split at hm
    · rename_i hmn
      cases hm
      rw [hmn]
      exact forth.send_data n dt hdt
    · exact forth.send_data m d hm
  · intro m hm hh
    rw [hlook]
    split
    · rfl
    · exact forth.kept m hm hh

theorem Linked.append (h : Linked x y) {id : UInt8} {rest : Bytes} (hid : isLosslessId id)
    {calloc : Bool} {n : UInt32} {sendArray : PacketsArray}
    (hadd : x.conn.sendArray.addDataEndOfBuffer ⟨0, id :: rest⟩ calloc = some (n, sendArray)) :
    Linked { x with
      conn := { x.conn with sendArray }
      accepted := x.accepted ++ [id :: rest] } y := by
  intro hx hy
  have hx' : x.accepted.length + 1 < 2 ^ 32 - cryptoPacketBufferSize := by
    simpa [Bounded] using hx
  obtain ⟨forth, back, wire, wire', -, -⟩ := h (by unfold Bounded; omega) hy
  obtain ⟨hcap, rfl, hwf, hstart, hend, hsize, hlook⟩ :=
    PacketsArray.addDataEndOfBuffer_spec forth.send_wf hadd
  have hend' : sendArray.bufferEnd.toNat = x.accepted.length + 1 := by
    have := forth.sendEnd
    rw [hend, UInt32.toNat_add, UInt32.toNat_one]
    omega
  have hpre : x.accepted <+: x.accepted ++ [id :: rest] := prefix_append _ _
  refine ⟨?_, { back with }, ⟨?_, ?_⟩, wire', hx, hy⟩
  · refine
      { forth with
        send_wf := hwf
        sendEnd := by simpa using hend'
        sendStart_le := by change sendArray.bufferStart.toNat ≤ _; rw [hstart]; exact forth.sendStart_le
        recvEnd_le := Nat.le_trans forth.recvEnd_le hpre.length_le
        delivered_prefix := forth.delivered_prefix.trans hpre
        send_data := ?_
        recv_data := fun m d hm => hpre.getElem?_eq_some (forth.recv_data m d hm)
        kept := ?_ }
    · intro m d hm
      rw [hlook] at hm
      split at hm
      · rename_i hme
        cases hm
        rw [hme, forth.sendEnd]
        simp
      · exact hpre.getElem?_eq_some (forth.send_data m d hm)
    · intro m hm hh
      rw [hlook]
      split
      · rfl
      · rename_i hme
        -- `m` is not the new number, so it was accepted before
        have hne : m.toNat ≠ x.accepted.length := by
          rw [← forth.sendEnd]
          exact fun he => hme (UInt32.toNat_inj.mp he)
        refine forth.kept m ?_ hh
        simp only [length_append, length_cons, length_nil] at hm
        omega
  · intro packet hp
    exact (wire.sent packet hp).mono hpre le_rfl fun n hn => hn
  · intro data hd
    rcases mem_append.mp hd with hd | hd
    · exact wire.lossless data hd
    · exact ⟨id, rest, by simpa using hd, hid⟩

/-! ## What each sending function does -/

theorem sendDataPacketHelper_sends (x : Peer) (bufferStart num : UInt32) (data : Bytes) (sendOk : Bool) :
    Sends (· = dataPacketContents bufferStart num data) x
      (x.sendDataPacketHelper bufferStart num data sendOk).2 := by
  unfold sendDataPacketHelper sendDataPacket
  split
  · exact ⟨rfl, rfl, rfl, rfl, fun _ => .inl⟩
  split
  · exact ⟨rfl, rfl, rfl, rfl, fun _ => .inl⟩
  split
  · exact ⟨rfl, rfl, rfl, rfl, fun _ => .inl⟩
  · refine ⟨rfl, rfl, rfl, rfl, fun packet hp => ?_⟩
    simp only at hp
    split at hp
    · rcases mem_append.mp hp with hp | hp
      · exact .inl hp
      · right
        obtain rfl := mem_singleton.mp hp
        rfl
    · exact .inl hp

theorem Linked.sendDataPacketHelper (h : Linked x y) (bufferStart num : UInt32) (data : Bytes) (sendOk : Bool)
    (hc : Inv x y → x.SentContents (dataPacketContents bufferStart num data)) :
    Linked (x.sendDataPacketHelper bufferStart num data sendOk).2 y :=
  h.sends (sendDataPacketHelper_sends x bufferStart num data sendOk) fun _ hinv hcontents => hcontents ▸ hc hinv

theorem Inv.sentContents_of_lookup (h : Inv x y) {n : UInt32} {dt : PacketData}
    (hdt : x.conn.sendArray.lookup n = some dt) :
    x.SentContents (dataPacketContents x.conn.recvArray.bufferStart n dt.data) := by
  have hacc := h.forth.send_data n dt hdt
  obtain ⟨hlt, hget⟩ := List.getElem?_eq_some_iff.mp hacc
  obtain ⟨id, rest, hdata, hid⟩ := h.wire.lossless dt.data (hget ▸ getElem_mem hlt)
  rw [hdata] at hacc ⊢
  have hrange : (16 : UInt8) ≤ id := by
    simp only [isLosslessId, Bool.and_eq_true, decide_eq_true_eq] at hid
    exact hid.1
  have hbig : 16 ≤ id.toNat := by simpa [UInt8.le_iff_toNat_le] using hrange
  refine ⟨_, n, id, rest, rfl, ?_, by omega, ?_, ?_, fun _ => hacc, ?_⟩
  · rw [h.back.recvStart]
  · rintro rfl; exact absurd hbig (by decide)
  · rintro rfl; exact absurd hbig (by decide)
  · rintro rfl; exact absurd hbig (by decide)

theorem Inv.sentContents_of_other (h : Inv x y) {id : UInt8} {rest : Bytes}
    (hpad : id ≠ packetIdPadding) (hkill : id ≠ packetIdKill) (hloss : isLosslessId id = false)
    (hreq : id = packetIdRequest →
      ∀ j, requestFrees 1 rest j → x.Has (x.conn.recvArray.bufferStart + UInt32.ofNat j)) :
    x.SentContents (dataPacketContents x.conn.recvArray.bufferStart x.conn.sendArray.bufferEnd
      (id :: rest)) := by
  refine ⟨_, _, id, rest, rfl, ?_, ?_, hpad, hkill, ?_, hreq⟩
  · rw [h.back.recvStart]
  · rw [h.forth.sendEnd]
  · intro hl; rw [hloss] at hl; exact nomatch hl

section

variable (h : Linked x y)
include h

theorem Linked.resetMaxSpeedReached (now : UInt64) (sendOk : UInt32 → Bool) :
    Linked (x.resetMaxSpeedReached now sendOk).2 y := by
  have hreset : ∀ p : Peer, Sends (fun _ => False) p
      { p with conn := { p.conn with maximumSpeedReached := false } } :=
    fun p => ⟨rfl, rfl, rfl, rfl, fun _ => .inl⟩
  unfold Peer.resetMaxSpeedReached
  split
  · exact h
  split
  · simp only
    split
    · rename_i dt hdt
      have hdt := PacketsArray.getDataPointer_eq_packet.mp hdt
      split
      · have hsent := h.sendDataPacketHelper x.conn.recvArray.bufferStart
          (x.conn.sendArray.bufferEnd - 1) dt.data (sendOk (x.conn.sendArray.bufferEnd - 1))
          fun hinv => hinv.sentContents_of_lookup hdt
        have harr := (sendDataPacketHelper_sends x x.conn.recvArray.bufferStart
          (x.conn.sendArray.bufferEnd - 1) dt.data
          (sendOk (x.conn.sendArray.bufferEnd - 1))).sendArray
        split
        · rename_i p hp
          rw [hp] at hsent
          exact hsent
        · rename_i p hp
          rw [hp] at hsent harr
          exact (hsent.setSentTime (by rw [harr]; exact hdt) now).congr (hreset _)
      · exact h.congr (hreset x)
    · exact h.congr (hreset x)
  · exact h

theorem Linked.sendLosslessPacket {id : UInt8} (rest : Bytes) (hid : isLosslessId id)
    (congestionControl : Bool) (now : UInt64) (calloc : Bool) (sendOk : UInt32 → Bool) :
    Linked (x.sendLosslessPacket (id :: rest) congestionControl now calloc sendOk).2 y := by
  unfold Peer.sendLosslessPacket
  split
  · exact h
  split
  · exact h
  have hr := h.resetMaxSpeedReached now sendOk
  simp only
  generalize (x.resetMaxSpeedReached now sendOk).2 = p at hr
  split
  · exact hr
  split
  · exact hr
  · rename_i n sendArray hadd
    have ha := hr.append hid hadd
    have hlook := PacketsArray.lookup_of_addDataEndOfBuffer hadd
    generalize hq : ({ p with
      conn := { p.conn with sendArray }
      accepted := p.accepted ++ [id :: rest] } : Peer) = q at ha
    have hqs : q.conn.sendArray = sendArray := by rw [← hq]
    have hqr : q.conn.recvArray = p.conn.recvArray := by rw [← hq]
    rw [← hqs] at hlook
    split
    · exact ha
    · have hsent := ha.sendDataPacketHelper q.conn.recvArray.bufferStart n (id :: rest) (sendOk n)
        fun hinv => hinv.sentContents_of_lookup hlook
      rw [hqr] at hsent
      split
      · rename_i p' hp'
        rw [hp'] at hsent
        split
        · rename_i dt hdt
          exact hsent.setSentTime (PacketsArray.getDataPointer_eq_packet.mp hdt) now
        · exact hsent
      · rename_i p' hp'
        rw [hp'] at hsent
        exact hsent.congr ⟨rfl, rfl, rfl, rfl, fun _ => .inl⟩

theorem Linked.writeCryptpacket (data : Bytes) (congestionControl : Bool)
    (now : UInt64) (calloc : Bool) (sendOk : UInt32 → Bool) :
    Linked (x.writeCryptpacket data congestionControl now calloc sendOk).2 y := by
  unfold Peer.writeCryptpacket
  split
  · exact h
  rename_i id rest
  split
  · exact h
  rename_i hid
  split
  · exact h
  split
  · exact h
  split
  · exact h
  have hs := h.sendLosslessPacket rest (by simpa using hid) congestionControl now calloc sendOk
  split
  · rename_i p hp
    rw [hp] at hs
    exact hs
  · rename_i n p hp
    rw [hp] at hs
    split
    · exact hs.congr ⟨rfl, rfl, rfl, rfl, fun _ => .inl⟩
    · exact hs

theorem Linked.sendLossyCryptpacket (data : Bytes) (sendOk : UInt32 → Bool) :
    Linked (x.sendLossyCryptpacket data sendOk).2 y := by
  unfold Peer.sendLossyCryptpacket
  split
  · exact h
  rename_i id rest
  split
  · exact h
  split
  · exact h
  rename_i hid
  split
  · exact h
  have hrange : (192 : UInt8) ≤ id := by
    have : isLossyId id = true := by simpa using hid
    simp only [isLossyId, Bool.and_eq_true, decide_eq_true_eq] at this
    exact this.1
  have hbig : 192 ≤ id.toNat := by simpa [UInt8.le_iff_toNat_le] using hrange
  have hloss : isLosslessId id = false := by
    have : ¬id ≤ 191 := by
      change ¬id.toNat ≤ 191
      omega
    simp [isLosslessId, this]
  refine h.sendDataPacketHelper _ _ _ _ fun hinv => hinv.sentContents_of_other ?_ ?_ hloss ?_
  · rintro rfl; exact absurd hbig (by decide)
  · rintro rfl; exact absurd hbig (by decide)
  · rintro rfl; exact absurd hbig (by decide)

theorem Linked.sendRequestPacket (sendOk : UInt32 → Bool) :
    Linked (x.sendRequestPacket sendOk).2 y := by
  unfold Peer.sendRequestPacket
  split
  · exact h
  split
  · exact h
  rename_i data hdata
  refine h.sendDataPacketHelper _ _ _ _ fun hinv => ?_
  obtain ⟨rest, rfl, hfrees⟩ := PacketsArray.generateRequestPacket_frees hinv.back.recv_wf hdata
  refine hinv.sentContents_of_other (by decide) (by decide) (by decide) fun _ j hj => ?_
  exact .inr (hfrees j hj).2

end

theorem Linked.sendRequestedLoop (now : UInt64) (sendOk : UInt32 → Bool) (maxNum count : Nat)
    (i : UInt32) (numSent : Nat) (h : Linked x y) :
    Linked (Peer.sendRequestedLoop now sendOk maxNum count i numSent x).2 y := by
  induction count generalizing i numSent x with
  | zero => exact h
  | succ count ih =>
    rw [Peer.sendRequestedLoop]
    simp only
    split
    · exact h
    · exact ih (i + 1) numSent h
    · rename_i dt hdt
      have hdt := PacketsArray.getDataPointer_eq_packet.mp hdt
      split
      · exact ih (i + 1) numSent h
      · have hsent := h.sendDataPacketHelper x.conn.recvArray.bufferStart
          (i + x.conn.sendArray.bufferStart) dt.data (sendOk (i + x.conn.sendArray.bufferStart))
          fun hinv => hinv.sentContents_of_lookup hdt
        have harr := (sendDataPacketHelper_sends x x.conn.recvArray.bufferStart
          (i + x.conn.sendArray.bufferStart) dt.data
          (sendOk (i + x.conn.sendArray.bufferStart))).sendArray
        split
        · rename_i p hp
          rw [hp] at hsent harr
          have hset := hsent.setSentTime (by rw [harr]; exact hdt) now
          split
          · exact hset
          · exact ih (i + 1) (numSent + 1) hset
        · rename_i p hp
          rw [hp] at hsent
          split
          · exact hsent
          · exact ih (i + 1) numSent hsent

theorem Linked.sendRequestedPackets (h : Linked x y) (maxNum : UInt32) (now : UInt64)
    (sendOk : UInt32 → Bool) : Linked (x.sendRequestedPackets maxNum now sendOk).2 y := by
  unfold Peer.sendRequestedPackets
  split
  · exact h
  split
  · exact h
  · exact Linked.sendRequestedLoop _ _ _ _ _ _ h

/-- Every API call keeps the invariant. -/
theorem Linked.api (h : Linked x y) (call : ApiCall) : Linked (x.api call) y := by
  cases call with
  | write data congestionControl now calloc sendOk =>
    exact h.writeCryptpacket data congestionControl now calloc sendOk
  | lossy data sendOk => exact h.sendLossyCryptpacket data sendOk
  | maxSpeedReached now sendOk => exact h.resetMaxSpeedReached now sendOk
  | request sendOk => exact h.sendRequestPacket sendOk
  | sendRequested maxNum now sendOk => exact h.sendRequestedPackets maxNum now sendOk
  | refill packetsLeft packetsLeftRequested =>
    exact h.congr ⟨rfl, rfl, rfl, rfl, fun _ => .inl⟩

theorem Linked.foldl_api (h : Linked x y) (calls : List ApiCall) :
    Linked (calls.foldl Peer.api x) y := by
  induction calls generalizing x with
  | nil => exact h
  | cons call calls ih => exact ih (h.api call)

end Toxcore.Peer

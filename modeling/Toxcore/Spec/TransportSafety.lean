import Toxcore.Spec.TransportReceive
import Toxcore.Spec.TransportTrace

/-!
# Safety of the lossless transport

Every reachable state of the two-party system satisfies the transport invariant, as long as
fewer than `2 ^ 32 - 32768` lossless packets are written in each direction.
-/

namespace Toxcore

open List

namespace Peer

variable {x y : Peer}

theorem Fresh.linked (hx : x.Fresh) (hy : y.Fresh) : Linked x y := by
  have hchannel : ∀ {x y : Peer}, x.Fresh → y.Fresh → Channel x y := by
    intro x y hx hy
    exact
      { send_wf := hx.sendArray ▸ PacketsArray.wellFormed_empty
        recv_wf := hy.recvArray ▸ PacketsArray.wellFormed_empty
        sendEnd := by rw [hx.sendArray, hx.accepted]; rfl
        recvStart := by rw [hy.recvArray, hy.delivered]; rfl
        sendStart_le := by rw [hx.sendArray]; exact Nat.zero_le _
        recvStart_le := by rw [hy.delivered]; exact Nat.zero_le _
        recvEnd_le := by rw [hy.recvArray]; exact Nat.zero_le _
        delivered_prefix := by rw [hy.delivered]; exact nil_prefix
        send_data := by intro n d hn; rw [hx.sendArray, PacketsArray.lookup_empty] at hn; cases hn
        recv_data := by intro n d hn; rw [hy.recvArray, PacketsArray.lookup_empty] at hn; cases hn
        kept := by intro n hn; rw [hx.accepted] at hn; exact absurd hn (Nat.not_lt_zero _) }
  have hwire : ∀ {x : Peer}, x.Fresh → x.WireOk := by
    intro x hx
    constructor
    · rw [hx.wire]; exact nofun
    · rw [hx.accepted]; exact nofun
  intro bx by'
  exact ⟨hchannel hx hy, hchannel hy hx, hwire hx, hwire hy, bx, by'⟩

theorem Linked.step {x' : Peer} (h : Linked x y) (hstep : Step y.wire x x') : Linked x' y := by
  cases hstep with
  | api call => exact h.api call
  | receive packet udp now calloc react hp => exact h.receive hp udp now calloc react

theorem Inv.has_of_dropped {x' : Peer} (h : Inv x y) (h' : Inv x' y)
    (hacc : x.accepted <+: x'.accepted) {n : UInt32} {d : PacketData}
    (hd : x.conn.sendArray.lookup n = some d) (hd' : x'.conn.sendArray.lookup n = none) :
    y.Has n := by
  by_contra hh
  have hlt := (List.getElem?_eq_some_iff.mp (h.forth.send_data n d hd)).1
  have hkept := h'.forth.kept n (Nat.lt_of_lt_of_le hlt hacc.length_le) hh
  rw [hd'] at hkept
  exact nomatch hkept

theorem Inv.kept_payload (h : Inv x y) {n : UInt32} (hn : n.toNat < x.accepted.length) (hh : ¬y.Has n) :
    ∃ d, x.conn.sendArray.lookup n = some d ∧ x.accepted[n.toNat]? = some d.data := by
  obtain ⟨d, hd⟩ := Option.isSome_iff_exists.mp (h.forth.kept n hn hh)
  exact ⟨d, hd, h.forth.send_data n d hd⟩

theorem Inv.delivered_of_cryptpacketReceived (h : Inv x y) {n : UInt32}
    (hn : n.toNat < x.accepted.length) (hr : x.cryptpacketReceived n = true) :
    y.delivered[n.toNat]? = x.accepted[n.toNat]? ∧ n.toNat < y.delivered.length := by
  have hend := h.forth.sendEnd
  have hstart := h.forth.sendStart_le
  have hpre := h.forth.delivered_prefix
  have hlt : n.toNat < y.delivered.length := by
    unfold cryptpacketReceived at hr
    split at hr
    · cases hr
    simp only at hr
    split at hr
    · cases hr
    rename_i hnum
    by_contra hge
    apply hnum
    change UInt32.dist x.conn.sendArray.bufferStart n ≤
      UInt32.dist x.conn.sendArray.bufferStart x.conn.sendArray.bufferEnd
    rw [UInt32.dist_of_toNat_le (by omega), UInt32.dist_of_toNat_le (by omega)]
    omega
  refine ⟨?_, hlt⟩
  rw [hpre.getElem?_eq_some (getElem?_eq_getElem hlt), getElem?_eq_getElem hlt]

end Peer

namespace Transport

open Peer

theorem linked_of_reachable {s : Transport} (h : Transport.system.Reachable s) :
    Linked s.a s.b := by
  refine h.invariant (P := fun s => Linked s.a s.b) ?_ ?_
  · rintro s ⟨ha, hb, -⟩
    exact ha.linked hb
  · rintro s t hlink (⟨hstep, hb⟩ | ⟨hstep, ha⟩)
    · rw [hb]
      exact hlink.step hstep
    · rw [ha]
      exact (hlink.symm.step hstep).symm

/-- What one end has passed on is always a prefix of what the other end has accepted. -/
theorem delivered_prefix_accepted {s : Transport} (h : Transport.system.Reachable s)
    (ha : s.a.Bounded) (hb : s.b.Bounded) :
    s.b.delivered <+: s.a.accepted ∧ s.a.delivered <+: s.b.accepted := by
  have hinv := linked_of_reachable h ha hb
  exact ⟨hinv.forth.delivered_prefix, hinv.back.delivered_prefix⟩

/-! A run of three steps: `a` writes a packet, `b` receives it, and `a` receives the lossy
packet that the callback of `b` sent in reply. -/

def freshPeer : Peer where
  conn := { emptyCryptoConnection with status := .established }
  wire := []
  accepted := []
  delivered := []

def sentPacket (bufferStart : UInt32) (data : Bytes) : DataPacket :=
  ⟨0, encryptDataSymmetric (Vector.replicate _ 0) 0 (dataPacketContents bufferStart 0 data)⟩

/-- `a` has written a packet. -/
def written : Transport where
  a := freshPeer.api (.write [16, 7] false 5 true fun _ => true)
  b := freshPeer

/-- `b` has delivered it, and its callback has sent a lossy packet. -/
def answered : Transport where
  a := written.a
  b := freshPeer.receive (sentPacket 0 [16, 7]) true 6 true fun _ => [.lossy [192] fun _ => true]

/-- `a` has received the lossy packet. -/
def acknowledged : Transport where
  a := written.a.receive (sentPacket 1 [192]) true 7 true fun _ => []
  b := answered.b

theorem wire_answered : answered.b.wire = [sentPacket 1 [192]] := by rfl

theorem step_acknowledged : Transport.system.step answered acknowledged := by
  have hmem : sentPacket 1 [192] ∈ answered.b.wire := by
    rw [wire_answered]
    exact mem_singleton.mpr rfl
  left
  constructor
  · dsimp only [answered, acknowledged]
    exact Step.receive written.a _ true 7 true (fun _ => []) hmem
  · dsimp only [acknowledged]

theorem reachable_answered : Transport.system.Reachable answered := by
  have hfresh : freshPeer.Fresh := ⟨rfl, rfl, rfl, rfl, rfl, rfl⟩
  have h0 : Transport.system.Reachable ⟨freshPeer, freshPeer⟩ := .init ⟨hfresh, hfresh, rfl⟩
  have h1 : Transport.system.step ⟨freshPeer, freshPeer⟩ written :=
    .inl ⟨Step.api freshPeer (.write [16, 7] false 5 true fun _ => true), rfl⟩
  have hmem : sentPacket 0 [16, 7] ∈ written.a.wire := by
    exact mem_singleton.mpr rfl
  have h2 : Transport.system.step written answered := by
    right
    constructor
    · dsimp only [answered]
      exact Step.receive freshPeer _ true 6 true (fun _ => [.lossy [192] fun _ => true]) hmem
    · dsimp only [answered]
  exact .step (.step h0 h1) h2

/-- The run delivers a payload, so the prefix is not empty there. -/
theorem delivered_prefix_accepted_answered :
    answered.b.delivered = [[16, 7]] ∧ answered.a.accepted = [[16, 7]] ∧
      answered.b.delivered <+: answered.a.accepted :=
  ⟨by rfl, by rfl, (delivered_prefix_accepted reachable_answered (by decide) (by decide)).1⟩

/-- A packet leaves the send array only after it was stored by the other end; and a number for which
    `cryptpacket_received` returns `0` was delivered. -/
theorem released_only_after_storing {s : Transport} (h : Transport.system.Reachable s)
    (ha : s.a.Bounded) (hb : s.b.Bounded) :
    (∀ t, Transport.system.step s t → t.a.Bounded → t.b.Bounded → ∀ n d,
      (s.a.conn.sendArray.lookup n = some d → t.a.conn.sendArray.lookup n = none → s.b.Has n) ∧
      (s.b.conn.sendArray.lookup n = some d → t.b.conn.sendArray.lookup n = none → s.a.Has n)) ∧
    (∀ n : UInt32,
      (n.toNat < s.a.accepted.length → ¬s.b.Has n →
        ∃ d, s.a.conn.sendArray.lookup n = some d ∧ s.a.accepted[n.toNat]? = some d.data) ∧
      (n.toNat < s.b.accepted.length → ¬s.a.Has n →
        ∃ d, s.b.conn.sendArray.lookup n = some d ∧ s.b.accepted[n.toNat]? = some d.data)) ∧
    (∀ n : UInt32,
      (n.toNat < s.a.accepted.length → s.a.cryptpacketReceived n = true →
        s.b.delivered[n.toNat]? = s.a.accepted[n.toNat]? ∧ n.toNat < s.b.delivered.length) ∧
      (n.toNat < s.b.accepted.length → s.b.cryptpacketReceived n = true →
        s.a.delivered[n.toNat]? = s.b.accepted[n.toNat]? ∧ n.toNat < s.a.delivered.length)) := by
  have hinv := linked_of_reachable h ha hb
  refine ⟨?_, ?_, ?_⟩
  · intro t hst hta htb n d
    have hinv' := linked_of_reachable (h.step hst) hta htb
    rcases hst with ⟨hstep, heq⟩ | ⟨hstep, heq⟩
    · rw [heq] at hinv' ⊢
      refine ⟨hinv.has_of_dropped hinv' (accepted_prefix_of_step hstep), ?_⟩
      intro hd hd'
      rw [hd] at hd'
      exact nomatch hd'
    · rw [heq] at hinv' ⊢
      refine ⟨?_, hinv.symm.has_of_dropped hinv'.symm (accepted_prefix_of_step hstep)⟩
      intro hd hd'
      rw [hd] at hd'
      exact nomatch hd'
  · exact fun n => ⟨hinv.kept_payload, hinv.symm.kept_payload⟩
  · exact fun n => ⟨hinv.delivered_of_cryptpacketReceived, hinv.symm.delivered_of_cryptpacketReceived⟩

/-- In the last step of the run `a` drops packet `0`, and then it counts as received. -/
theorem released_only_after_storing_acknowledged :
    (answered.a.conn.sendArray.lookup 0 = some ⟨5, [16, 7]⟩ ∧
      acknowledged.a.conn.sendArray.lookup 0 = none ∧ answered.b.Has 0) ∧
    (acknowledged.a.cryptpacketReceived 0 = true ∧ 0 < acknowledged.b.delivered.length) := by
  have hkept : answered.a.conn.sendArray.lookup 0 = some ⟨5, [16, 7]⟩ := by rfl
  have hdropped : acknowledged.a.conn.sendArray.lookup 0 = none := by rfl
  have hreceived : acknowledged.a.cryptpacketReceived 0 = true := by rfl
  refine ⟨⟨hkept, hdropped, ?_⟩, hreceived, ?_⟩
  · exact ((released_only_after_storing reachable_answered (by decide) (by decide)).1
      acknowledged step_acknowledged (by decide) (by decide) 0 _).1 hkept hdropped
  · have hreach := reachable_answered.step step_acknowledged
    exact (((released_only_after_storing hreach (by decide) (by decide)).2.2 0).1 (by decide) hreceived).2

end Transport

end Toxcore

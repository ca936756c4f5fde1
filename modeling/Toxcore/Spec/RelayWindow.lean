import Toxcore.ForStd.RingWindow
import Toxcore.Native.TCPRelays

/-!
# Windows of connected relays

`tcp_copy_connected_relays_index` copies distinct connected relays, at most as many as were asked for.  But a window
over all slots has its end where it starts, and nothing is copied; and a slot that has no number of 16 bits
is in no window.
-/

namespace Toxcore

open List

section relays

variable {tcpConnections : List TCPCon} {maxNum : UInt16}

/-- The number of slots that the loop goes through before it is back at its start. -/
def relayRing (tcpConnections : List TCPCon) : Nat := min tcpConnections.length 65536

def IsConnectedRelay (tcpConnections : List TCPCon) (slot : Nat) : Prop :=
  ∃ tcpCon, tcpConnections[slot]? = some tcpCon ∧ tcpCon.status = .connected

theorem copyTcpRelayConn_eq_some {idx : UInt16} {relay : NodeFormat} :
    copyTcpRelayConn tcpConnections idx = some relay ↔
      ∃ tcpCon, tcpConnections[idx.toNat]? = some tcpCon ∧ tcpCon.status = .connected ∧ tcpCon.relay = relay := by
  unfold copyTcpRelayConn getTcpConnection
  cases hslot : tcpConnections[idx.toNat]? with
  | none => simp
  | some tcpCon => cases hstatus : tcpCon.status <;> simp [Option.filter, hstatus]

theorem isSome_copyTcpRelayConn {idx : UInt16} :
    (copyTcpRelayConn tcpConnections idx).isSome ↔ IsConnectedRelay tcpConnections idx.toNat := by
  rw [Option.isSome_iff_exists]
  constructor
  · rintro ⟨relay, hcopy⟩
    obtain ⟨tcpCon, hslot, hstatus, -⟩ := copyTcpRelayConn_eq_some.mp hcopy
    exact ⟨tcpCon, hslot, hstatus⟩
  · rintro ⟨tcpCon, hslot, hstatus⟩
    exact ⟨tcpCon.relay, copyTcpRelayConn_eq_some.mpr ⟨tcpCon, hslot, hstatus, rfl⟩⟩

/-! ## One window -/

theorem toNat_nextSlot {i : UInt16} (hi : i.toNat < relayRing tcpConnections) :
    (UInt16.ofNat ((i.toNat + 1) % tcpConnections.length)).toNat =
      RingWindow.next (relayRing tcpConnections) i.toNat := by
  rw [RingWindow.next_eq hi, UInt16.toNat_ofNat']
  unfold relayRing at hi ⊢
  have hlast := Nat.mod_self tcpConnections.length
  by_cases hend : i.toNat + 1 = tcpConnections.length
  · rw [hend]
    split <;> omega
  · have hmod : (i.toNat + 1) % tcpConnections.length = i.toNat + 1 := Nat.mod_eq_of_lt (by omega)
    split <;> omega

/-- What the loop goes through: every slot of the ring from `i` up to `stop`, once. -/
theorem relayWindowLoop_spec {stop i : UInt16} (hstop : stop.toNat < relayRing tcpConnections)
    (hi : i.toNat < relayRing tcpConnections) {fuel : Nat}
    (hfuel : RingWindow.distance (relayRing tcpConnections) i.toNat stop.toNat < fuel) :
    ∃ window, relayWindowLoop tcpConnections stop fuel i = some window ∧ window.Nodup ∧
      window.length = RingWindow.distance (relayRing tcpConnections) i.toNat stop.toNat ∧
      ∀ slot : UInt16, slot ∈ window ↔
        RingWindow.InWindow (relayRing tcpConnections) i.toNat stop.toNat slot.toNat := by
  induction fuel generalizing i with
  | zero => omega
  | succ fuel ih =>
    rw [relayWindowLoop]
    by_cases hend : i = stop
    · subst hend
      have hzero := (RingWindow.distance_eq_zero_iff hi hi).mpr rfl
      simp only [hzero]
      exact ⟨[], rfl, nodup_nil, rfl, fun slot => by simp [RingWindow.not_inWindow_self _ _ hi]⟩
    · have hne : i.toNat ≠ stop.toNat := fun heq => hend (UInt16.toNat_inj.mp heq)
      have hnext := toNat_nextSlot hi
      have hdistance := RingWindow.distance_next_start hi hstop hne
      rw [← hnext] at hdistance
      have hlt := RingWindow.next_lt (Nat.lt_of_le_of_lt (Nat.zero_le _) hi) i.toNat
      obtain ⟨window, hwindow, hnodup, hlength, hmem⟩ := ih (by rw [hnext]; exact hlt) (by omega)
      simp only [if_neg hend, hwindow]
      have hin : ∀ slot : UInt16, slot ∈ window ↔
          RingWindow.InWindow (relayRing tcpConnections) i.toNat stop.toNat slot.toNat ∧ slot.toNat ≠ i.toNat := by
        intro slot
        rw [hmem, hnext]
        exact RingWindow.inWindow_next_start hi hstop hne
      refine ⟨i :: window, rfl, ?_, ?_, ?_⟩
      · exact nodup_cons.mpr ⟨fun h => ((hin i).mp h).2 rfl, hnodup⟩
      · rw [length_cons]
        omega
      · intro slot
        have hfirst : RingWindow.InWindow (relayRing tcpConnections) i.toNat stop.toNat i.toNat := by
          refine ⟨hi, ?_⟩
          rw [(RingWindow.distance_eq_zero_iff hi hi).mpr rfl]
          omega
        rw [mem_cons, hin]
        constructor
        · rintro (rfl | h)
          · exact hfirst
          · exact h.1
        · intro h
          by_cases heq : slot = i
          · exact .inl heq
          · exact .inr ⟨h, fun hnat => heq (UInt16.toNat_inj.mp hnat)⟩

/-- How many slots a window has that starts in the ring. -/
theorem distance_stop {start num : Nat} (hstart : start < relayRing tcpConnections) (hnum : num < 65536)
    (hle : num ≤ tcpConnections.length) :
    let stop := (start + num) % tcpConnections.length % 65536
    let distance := RingWindow.distance (relayRing tcpConnections) start stop
    stop < relayRing tcpConnections ∧ distance ≤ num ∧
      (0 < distance ↔ 0 < num ∧ num < tcpConnections.length) := by
  intro stop distance
  have hstop : stop < relayRing tcpConnections := by
    show _ < min _ _
    have hpos : 0 < tcpConnections.length := by
      unfold relayRing at hstart
      omega
    have hmod := Nat.mod_lt (start + num) hpos
    omega
  apply And.intro hstop
  have hdistance : distance = _ := RingWindow.distance_eq hstart hstop
  rw [hdistance]
  unfold relayRing at hstart ⊢
  -- the end is behind the last slot at most once
  by_cases hwrap : start + num < tcpConnections.length
  · simp only [stop, Nat.mod_eq_of_lt hwrap]
    split <;> omega
  · have hmod : (start + num) % tcpConnections.length = start + num - tcpConnections.length := by
      rw [Nat.mod_eq_sub_mod (by omega), Nat.mod_eq_of_lt (by omega)]
    split <;> omega

theorem relayWindow_spec (hpos : 0 < tcpConnections.length) (maxNum : UInt16) (idx : UInt32) :
    let start := UInt16.ofNat (idx.toNat % tcpConnections.length)
    let num := min maxNum.toNat (tcpConnections.length % 65536)
    ∃ window, relayWindow tcpConnections maxNum idx = some window ∧ window.Nodup ∧ window.length ≤ num ∧
      (0 < window.length ↔ 0 < num ∧ num < tcpConnections.length) ∧ (0 < window.length → start ∈ window) := by
  intro start num
  have hnum : (min maxNum (UInt16.ofNat tcpConnections.length)).toNat = num := by
    rw [UInt16.toNat_min, UInt16.toNat_ofNat']
  have hmod := Nat.mod_lt idx.toNat hpos
  have hstart : start.toNat < relayRing tcpConnections := by
    show (UInt16.ofNat _).toNat < min _ _
    rw [UInt16.toNat_ofNat']
    omega
  obtain ⟨hstop, hle, hsome⟩ := distance_stop hstart (by omega : num < 65536) (by omega)
  rw [relayWindow, if_neg (by omega)]
  show ∃ window, relayWindowLoop tcpConnections (UInt16.ofNat ((start.toNat +
    (min maxNum (UInt16.ofNat tcpConnections.length)).toNat) % tcpConnections.length)) 65536 start = some window ∧ _
  rw [hnum]
  generalize hend : UInt16.ofNat ((start.toNat + num) % tcpConnections.length) = stop
  have hstopNat : (start.toNat + num) % tcpConnections.length % 65536 = stop.toNat := by
    rw [← hend]
    exact UInt16.toNat_ofNat'.symm
  rw [hstopNat] at hstop hle hsome
  obtain ⟨window, hwindow, hnodup, hlength, hmem⟩ := relayWindowLoop_spec hstop hstart (by omega : _ < 65536)
  rw [← hlength] at hle hsome
  refine ⟨window, hwindow, hnodup, hle, hsome, fun hlong => (hmem start).mpr ⟨hstart, ?_⟩⟩
  rw [(RingWindow.distance_eq_zero_iff hstart hstart).mpr rfl]
  omega

/-! ## All windows -/

/-- The slots that `tcp_copy_connected_relays_index` copies the relays of. -/
def copiedSlots (tcpConnections : List TCPCon) (maxNum : UInt16) (idx : UInt32) : Option (List UInt16) :=
  (relayWindow tcpConnections maxNum idx).map (·.filter fun i => (copyTcpRelayConn tcpConnections i).isSome)

/-- What the enumeration is for. -/
structure EnumeratesRelays (tcpConnections : List TCPCon) (maxNum : UInt16) : Prop where
  /-- Distinct connected relays are copied, at most `max_num` of them. -/
  distinct : ∀ idx, ∃ slots, copiedSlots tcpConnections maxNum idx = some slots ∧
    tcpCopyConnectedRelaysIndex tcpConnections maxNum idx =
      some (slots.filterMap (copyTcpRelayConn tcpConnections)) ∧
    slots.Nodup ∧ slots.length ≤ maxNum.toNat ∧ ∀ slot ∈ slots, IsConnectedRelay tcpConnections slot.toNat
  /-- All of them, when there is room for every slot. -/
  complete : tcpConnections.length ≤ maxNum.toNat → ∀ idx slots, copiedSlots tcpConnections maxNum idx = some slots →
    ∀ slot, IsConnectedRelay tcpConnections slot → ∃ i ∈ slots, i.toNat = slot
  /-- Every one of them for some index. -/
  covers : 0 < maxNum → ∀ slot, IsConnectedRelay tcpConnections slot →
    ∃ idx slots, copiedSlots tcpConnections maxNum idx = some slots ∧ ∃ i ∈ slots, i.toNat = slot

theorem IsConnectedRelay.lt_length {slot : Nat} (h : IsConnectedRelay tcpConnections slot) :
    slot < tcpConnections.length := by
  obtain ⟨tcpCon, hslot, -⟩ := h
  exact (List.getElem?_eq_some_iff.mp hslot).1

theorem copiedSlots_distinct (tcpConnections : List TCPCon) (maxNum : UInt16) (idx : UInt32) :
    ∃ slots, copiedSlots tcpConnections maxNum idx = some slots ∧
      tcpCopyConnectedRelaysIndex tcpConnections maxNum idx =
        some (slots.filterMap (copyTcpRelayConn tcpConnections)) ∧
      slots.Nodup ∧ slots.length ≤ maxNum.toNat ∧ ∀ slot ∈ slots, IsConnectedRelay tcpConnections slot.toNat := by
  have hwindow : ∃ window, relayWindow tcpConnections maxNum idx = some window ∧ window.Nodup ∧
      window.length ≤ maxNum.toNat := by
    rcases Nat.eq_zero_or_pos tcpConnections.length with hzero | hpos
    · exact ⟨[], by rw [relayWindow, if_pos hzero], nodup_nil, Nat.zero_le _⟩
    · obtain ⟨window, hwindow, hnodup, hlength, -⟩ := relayWindow_spec hpos maxNum idx
      exact ⟨window, hwindow, hnodup, by omega⟩
  obtain ⟨window, hwindow, hnodup, hlength⟩ := hwindow
  have hfew := length_filter_le (fun i => (copyTcpRelayConn tcpConnections i).isSome) window
  refine ⟨window.filter fun i => (copyTcpRelayConn tcpConnections i).isSome, ?_, ?_, hnodup.filter _, by omega, ?_⟩
  · rw [copiedSlots, hwindow, Option.map_some]
  · rw [tcpCopyConnectedRelaysIndex, hwindow, Option.map_some, filterMap_filter]
    congr 2
    funext i
    cases copyTcpRelayConn tcpConnections i <;> rfl
  · intro slot hslot
    exact isSome_copyTcpRelayConn.mp (mem_filter.mp hslot).2

/-- Exactly when the connected relays are enumerated. -/
theorem enumeratesRelays_iff (tcpConnections : List TCPCon) (maxNum : UInt16) :
    EnumeratesRelays tcpConnections maxNum ↔
      maxNum = 0 ∨ (∀ slot, ¬IsConnectedRelay tcpConnections slot) ∨
        (maxNum.toNat < tcpConnections.length ∧ tcpConnections.length % 65536 ≠ 0 ∧
          ∀ slot, IsConnectedRelay tcpConnections slot → slot < 65536) := by
  constructor
  · intro h
    by_cases hzero : maxNum = 0
    · exact .inl hzero
    · by_cases hnone : ∀ slot, ¬IsConnectedRelay tcpConnections slot
      · exact .inr (.inl hnone)
      · have hmax : 0 < maxNum.toNat := Nat.pos_of_ne_zero fun heq => hzero (UInt16.toNat_inj.mp heq)
        have hcovers := h.covers (UInt16.lt_iff_toNat_lt.mpr hmax)
        obtain ⟨slot, hslot⟩ := not_forall_not.mp hnone
        have hpos : 0 < tcpConnections.length := Nat.lt_of_le_of_lt (Nat.zero_le _) hslot.lt_length
        -- the window that holds this relay is not empty
        obtain ⟨idx, slots, hslots, i, hi, -⟩ := hcovers slot hslot
        obtain ⟨window, hwindow, -, -, hsome, -⟩ := relayWindow_spec hpos maxNum idx
        rw [copiedSlots, hwindow, Option.map_some, Option.some_inj] at hslots
        rw [← hslots] at hi
        obtain ⟨hnum, hfull⟩ := hsome.mp (length_pos_of_mem (mem_filter.mp hi).1)
        refine .inr (.inr ⟨?_, by omega, fun slot hslot => ?_⟩)
        · by_contra hle
          by_cases hsmall : tcpConnections.length < 65536
          · rw [Nat.mod_eq_of_lt hsmall] at hfull
            omega
          · have := maxNum.toNat_lt
            omega
        · obtain ⟨-, -, -, i, -, rfl⟩ := hcovers slot hslot
          exact i.toNat_lt
  · intro h
    refine ⟨copiedSlots_distinct tcpConnections maxNum, ?_, ?_⟩
    · intro hroom idx slots _ slot hslot
      have hlt := hslot.lt_length
      rcases h with rfl | hnone | ⟨hless, -⟩
      · exact absurd (Nat.lt_of_lt_of_le hlt hroom) (Nat.not_lt_zero _)
      · exact absurd hslot (hnone slot)
      · omega
    · intro hmax slot hslot
      rcases h with rfl | hnone | ⟨hless, hmod, hsmall⟩
      · exact absurd hmax (by decide)
      · exact absurd hslot (hnone slot)
      · have hlt := hslot.lt_length
        have hbound := hsmall slot hslot
        have hmaxNat : 0 < maxNum.toNat := UInt16.lt_iff_toNat_lt.mp hmax
        have hidx : (UInt32.ofNat slot).toNat % tcpConnections.length = slot := by
          rw [UInt32.toNat_ofNat_of_lt' (Nat.lt_trans hbound (by decide)), Nat.mod_eq_of_lt hlt]
        -- the window that starts at this slot
        obtain ⟨window, hwindow, -, -, hsome, hstart⟩ :=
          relayWindow_spec (Nat.lt_of_le_of_lt (Nat.zero_le _) hlt) maxNum (UInt32.ofNat slot)
        rw [hidx] at hstart
        have hin := hstart (hsome.mpr ⟨Nat.lt_min.mpr ⟨hmaxNat, Nat.pos_of_ne_zero hmod⟩,
          Nat.lt_of_le_of_lt (Nat.min_le_left _ _) hless⟩)
        have hnat : (UInt16.ofNat slot).toNat = slot := UInt16.toNat_ofNat_of_lt' hbound
        refine ⟨UInt32.ofNat slot, _, by rw [copiedSlots, hwindow, Option.map_some], UInt16.ofNat slot, ?_, hnat⟩
        refine mem_filter.mpr ⟨hin, isSome_copyTcpRelayConn.mpr ?_⟩
        rw [hnat]
        exact hslot

/-- One connected relay and room for one: nothing is copied. -/
theorem not_enumeratesRelays_single : ∃ (tcpConnections : List TCPCon) (maxNum : UInt16),
    ¬EnumeratesRelays tcpConnections maxNum := by
  let relay : TCPCon := { status := .connected, publicKey := Vector.replicate _ 0, ipPort := emptyIpPort }
  refine ⟨[relay], 1, fun h => ?_⟩
  obtain ⟨i, hi, -⟩ := h.complete (by decide) 0 [] (by decide) 0 ⟨relay, rfl, rfl⟩
  exact nomatch hi

end relays

end Toxcore

import Mathlib.Algebra.Order.Ring.Int
import Toxcore.ForStd.TransitionSystem
import Toxcore.Native.GroupMessages

/-!
# The window of received lossy packets

The sender numbers its lossy packets with integers, of which sixteen bits are transmitted.
`lossy_packet_not_received` remembers the packets of a window of 256 numbers that ends at the greatest
accepted number, in a bitmap that is indexed modulo 256.
-/

namespace Toxcore

open List

namespace GroupPeer

/-! ## Numbers -/

def lossyNumber (n : Int) : UInt16 := UInt16.ofInt n

theorem toNat_lossyNumber (n : Int) : ((lossyNumber n).toNat : Int) = n % 65536 := by
  have hpos : 0 ≤ n % 65536 := Int.emod_nonneg _ (by decide)
  show ((UInt16.ofNat (n % 65536).toNat).toNat : Int) = n % 65536
  rw [UInt16.toNat_ofNat_of_lt' (by show _ < 65536; omega), Int.toNat_of_nonneg hpos]

theorem toNat_lossyNumber_sub (a b : Int) :
    ((lossyNumber a - lossyNumber b).toNat : Int) = (a - b) % 65536 := by
  have ha := toNat_lossyNumber a
  have hb := toNat_lossyNumber b
  rw [UInt16.toNat_sub]
  omega

theorem lossyNumber_bottom (n : Int) :
    lossyNumber n - UInt16.ofNat maxLossyCount + 1 = lossyNumber (n - 255) := by
  have hn := toNat_lossyNumber n
  have hbottom := toNat_lossyNumber (n - 255)
  have hcount : (UInt16.ofNat maxLossyCount).toNat = 256 := rfl
  apply UInt16.toNat_inj.mp
  rw [UInt16.toNat_add, UInt16.toNat_sub, UInt16.toNat_one]
  omega

theorem lossyIndex_eq_iff {m n : Int} (bottom : Int) (hm : bottom ≤ m) (hm' : m < bottom + 256)
    (hn : bottom ≤ n) (hn' : n < bottom + 256) :
    lossyIndex (lossyNumber m).toNat = lossyIndex (lossyNumber n).toNat ↔ m = n := by
  have hmod := toNat_lossyNumber m
  have hmod' := toNat_lossyNumber n
  rw [Fin.ext_iff]
  show (lossyNumber m).toNat % 256 = (lossyNumber n).toNat % 256 ↔ m = n
  omega

/-! ## The bitmap -/

variable {peer : GroupPeer}

theorem get_markLossy (peer : GroupPeer) (number : UInt16) (i : Fin 256) :
    (peer.markLossy number).recvLossy.get i ≠ 0 ↔
      lossyIndex number.toNat = i ∨ peer.recvLossy.get i ≠ 0 := by
  show (peer.recvLossy.set (lossyIndex number.toNat).1 1 (lossyIndex number.toNat).2)[i.1] ≠ 0 ↔ _
  rw [Vector.getElem_set]
  by_cases h : lossyIndex number.toNat = i
  · rw [if_pos (congrArg Fin.val h)]
    exact ⟨fun _ => .inl h, fun _ => by decide⟩
  · rw [if_neg fun heq => h (Fin.ext heq)]
    exact ⟨.inr, fun hor => hor.resolve_left h⟩

theorem get_clearLossy (peer : GroupPeer) (count : Nat) (i : Fin 256) :
    (peer.clearLossy count).get i ≠ 0 ↔
      peer.recvLossy.get i ≠ 0 ∧ ∀ k < count, lossyIndex (peer.bottomLossyNumber.toNat + k) ≠ i := by
  induction count with
  | zero => exact ⟨fun h => ⟨h, fun k hk => absurd hk (Nat.not_lt_zero k)⟩, fun h => h.1⟩
  | succ count ih =>
    rw [clearLossy, range_succ, foldl_append]
    show ((peer.clearLossy count).set (lossyIndex (peer.bottomLossyNumber.toNat + count)).1 0
      (lossyIndex (peer.bottomLossyNumber.toNat + count)).2)[i.1] ≠ 0 ↔ _
    rw [Vector.getElem_set]
    by_cases h : lossyIndex (peer.bottomLossyNumber.toNat + count) = i
    · rw [if_pos (congrArg Fin.val h)]
      exact ⟨fun hne => absurd rfl hne, fun hall => absurd h (hall.2 count (Nat.lt_succ_self count))⟩
    · rw [if_neg fun heq => h (Fin.ext heq)]
      refine ih.trans (and_congr_right fun _ => ⟨fun hall k hk => ?_, fun hall k hk => hall k (by omega)⟩)
      by_cases hlast : k = count
      · rw [hlast]
        exact h
      · exact hall k (by omega)

/-! ## The window -/

/-- The window ends at the greatest accepted number and its entries say which numbers were accepted. -/
structure Window (top : Int) (accepted : List Int) (peer : GroupPeer) : Prop where
  top_eq : peer.topLossyNumber = lossyNumber top
  bottom_eq : peer.bottomLossyNumber = lossyNumber (top - 255)
  top_mem : top ∈ accepted
  le_top : ∀ n ∈ accepted, n ≤ top
  received : ∀ n, top - 256 < n → n ≤ top →
    (peer.recvLossy.get (lossyIndex (lossyNumber n).toNat) ≠ 0 ↔ n ∈ accepted)

variable {top n : Int} {accepted : List Int}

theorem Window.moveLossyWindow (hle : ∀ m ∈ accepted, m < n)
    (hreceived : ∀ m, n - 256 < m → m < n →
      (peer.recvLossy.get (lossyIndex (lossyNumber m).toNat) ≠ 0 ↔ m ∈ accepted)) :
    Window n (n :: accepted) (peer.moveLossyWindow (lossyNumber n)) := by
  refine ⟨rfl, lossyNumber_bottom n, mem_cons_self, ?_, ?_⟩
  · intro m hm
    cases mem_cons.mp hm with
    | inl heq => rw [heq]
    | inr hm => exact Int.le_of_lt (hle m hm)
  · intro m hlow hhigh
    rw [GroupPeer.moveLossyWindow, get_markLossy, mem_cons]
    have hindex : lossyIndex (lossyNumber n).toNat = lossyIndex (lossyNumber m).toNat ↔ n = m :=
      lossyIndex_eq_iff (n - 255) (by omega) (by omega) (by omega) (by omega)
    rw [hindex]
    by_cases heq : n = m
    · exact ⟨fun _ => .inl heq.symm, fun _ => .inl heq⟩
    · refine or_congr ⟨Eq.symm, Eq.symm⟩ (hreceived m hlow ?_)
      omega

theorem Window.get_clearLossy (h : Window top accepted peer) {m : Int} (hle : n - 256 < m) (hlt : m < n)
    (hnear : n < top + 256) (hgt : top < n) :
    (peer.clearLossy (lossyNumber n - peer.topLossyNumber).toNat).get (lossyIndex (lossyNumber m).toNat) ≠
      0 ↔ m ∈ accepted := by
  have hdistance := toNat_lossyNumber_sub n top
  have hbottom := toNat_lossyNumber (top - 255)
  have hm := toNat_lossyNumber m
  -- an entry is cleared for the numbers after the present window
  have hcleared : (∀ k < (lossyNumber n - lossyNumber top).toNat,
      lossyIndex ((lossyNumber (top - 255)).toNat + k) ≠ lossyIndex (lossyNumber m).toNat) ↔ m ≤ top := by
    constructor
    · intro hall
      by_contra hafter
      apply hall (m - top - 1).toNat (by omega)
      rw [Fin.ext_iff]
      show ((lossyNumber (top - 255)).toNat + (m - top - 1).toNat) % 256 = (lossyNumber m).toNat % 256
      omega
    · intro hbefore k hk heq
      rw [Fin.ext_iff] at heq
      have heq : ((lossyNumber (top - 255)).toNat + k) % 256 = (lossyNumber m).toNat % 256 := heq
      omega
  rw [GroupPeer.get_clearLossy, h.bottom_eq, h.top_eq, hcleared]
  by_cases hin : m ≤ top
  · rw [h.received m (by omega) hin]
    exact and_iff_left hin
  · exact ⟨fun hand => absurd hand.2 hin, fun hmem => absurd (h.le_top m hmem) hin⟩

structure NoLossy (peer : GroupPeer) : Prop where
  bottom_eq : peer.bottomLossyNumber = peer.topLossyNumber
  recvLossy : ∀ i, peer.recvLossy.get i = 0

theorem NoLossy.receive (h : NoLossy peer) (n : Int) :
    (peer.lossyPacketNotReceived (lossyNumber n)).1 = 0 ∧
      Window n [n] (peer.lossyPacketNotReceived (lossyNumber n)).2 := by
  rw [lossyPacketNotReceived, if_pos h.bottom_eq]
  refine ⟨rfl, Window.moveLossyWindow (by simp) ?_⟩
  intro m _ _
  exact ⟨fun hne => absurd (h.recvLossy _) hne, fun hmem => absurd hmem not_mem_nil⟩

/-- The result is right: new in or after the window, received before, or below the window. -/
inductive Answers (top : Int) (accepted : List Int) (n : Int) : Int → Prop where
  | received (hmem : n ∈ accepted) (hlow : top - 256 < n) : Answers top accepted n 1
  | notReceived (hmem : n ∉ accepted) (hlow : top - 256 < n) : Answers top accepted n 0
  | below (hlow : n ≤ top - 256) : Answers top accepted n (-1)

def Near (top n : Int) : Prop := (n - (top - 255)).natAbs ≤ 32767

theorem Window.receive (h : Window top accepted peer) (hnear : Near top n) :
    Answers top accepted n (peer.lossyPacketNotReceived (lossyNumber n)).1 ∧
      if (peer.lossyPacketNotReceived (lossyNumber n)).1 = 0 then
        Window (max top n) (n :: accepted) (peer.lossyPacketNotReceived (lossyNumber n)).2
      else (peer.lossyPacketNotReceived (lossyNumber n)).2 = peer := by
  have hcount : maxLossyCount = 256 := rfl
  unfold Near at hnear
  have hbottom := toNat_lossyNumber_sub n (top - 255)
  have hne : peer.bottomLossyNumber ≠ peer.topLossyNumber := by
    rw [h.bottom_eq, h.top_eq]
    intro heq
    have heq := congrArg (fun x : UInt16 => (x.toNat : Int)) heq
    rw [toNat_lossyNumber, toNat_lossyNumber] at heq
    omega
  rw [lossyPacketNotReceived, if_neg hne, h.bottom_eq, hcount]
  -- the source decides by the distance from the bottom, which is exact for numbers near it
  by_cases hwindow : (lossyNumber n - lossyNumber (top - 255)).toNat < 256
  · have hlow : top - 256 < n := by omega
    have hhigh : n ≤ top := by omega
    have hbit := h.received n hlow hhigh
    rw [if_pos hwindow]
    by_cases hset : peer.recvLossy.get (lossyIndex (lossyNumber n).toNat) ≠ 0
    · rw [if_pos hset]
      exact ⟨.received (hbit.mp hset) hlow, rfl⟩
    · rw [if_neg hset]
      refine ⟨.notReceived (fun hmem => hset (hbit.mpr hmem)) hlow, ?_⟩
      rw [max_eq_left hhigh]
      refine ⟨h.top_eq, h.bottom_eq, mem_cons_of_mem _ h.top_mem, ?_, ?_⟩
      · intro m hm
        cases mem_cons.mp hm with
        | inl heq => rw [heq]; exact hhigh
        | inr hm => exact h.le_top m hm
      · intro m hm hm'
        rw [get_markLossy, mem_cons, h.received m hm hm',
          lossyIndex_eq_iff (top - 255) (by omega) (by omega) (by omega) (by omega)]
        exact or_congr_left ⟨Eq.symm, Eq.symm⟩
  · rw [if_neg hwindow]
    by_cases hbelow : (lossyNumber n - lossyNumber (top - 255)).toNat > 1 <<< 15
    · rw [if_pos hbelow]
      exact ⟨.below (by omega), rfl⟩
    · -- the number is above the window, which moves up to it
      rw [if_neg hbelow]
      have hgt : top < n := by omega
      have hnew : n ∉ accepted := fun hmem => absurd (h.le_top n hmem) (by omega)
      refine ⟨.notReceived hnew (by omega), ?_⟩
      rw [max_eq_right (Int.le_of_lt hgt)]
      refine Window.moveLossyWindow (fun m hm => Int.lt_of_le_of_lt (h.le_top m hm) hgt) ?_
      intro m hm hm'
      have hdistance := toNat_lossyNumber_sub n top
      rw [← h.top_eq] at hdistance
      by_cases hfar : (lossyNumber n - peer.topLossyNumber).toNat ≥ 256
      · -- the old window and the new one have no number in common
        rw [if_pos hfar]
        refine ⟨fun hset => absurd ?_ hset, fun hmem => absurd (h.le_top m hmem) (by omega)⟩
        exact Vector.getElem_replicate _
      · rw [if_neg hfar]
        exact h.get_clearLossy hm hm' (by omega) hgt

/-! ## Runs -/

structure LossyReceived where
  accepted : List Int
  peer : GroupPeer

/-- The packet with number `n` arrives. -/
def LossyReceived.receive (s : LossyReceived) (n : Int) : LossyReceived :=
  let (result, peer) := s.peer.lossyPacketNotReceived (lossyNumber n)
  { accepted := if result = 0 then n :: s.accepted else s.accepted, peer }

def Greatest (accepted : List Int) (top : Int) : Prop := top ∈ accepted ∧ ∀ n ∈ accepted, n ≤ top

def NearWindow (accepted : List Int) (n : Int) : Prop := ∀ top, Greatest accepted top → Near top n

/-- Packets with numbers close to the window arrive in any order, any number of times. -/
def lossySystem : TransitionSystem LossyReceived where
  init s := s.accepted = [] ∧ NoLossy s.peer
  step s s' := ∃ n, NearWindow s.accepted n ∧ s' = s.receive n

def LossyInvariant (s : LossyReceived) : Prop :=
  (s.accepted = [] ∧ NoLossy s.peer) ∨ ∃ top, Window top s.accepted s.peer

theorem Window.greatest_iff (h : Window top accepted peer) (top' : Int) :
    Greatest accepted top' ↔ top' = top := by
  constructor
  · intro hgreatest
    exact Int.le_antisymm (h.le_top top' hgreatest.1) (hgreatest.2 top h.top_mem)
  · rintro rfl
    exact ⟨h.top_mem, h.le_top⟩

theorem LossyInvariant.receive {s : LossyReceived} (h : LossyInvariant s)
    (hnear : NearWindow s.accepted n) : LossyInvariant (s.receive n) := by
  refine .inr ?_
  rw [LossyReceived.receive]
  cases h with
  | inl hnew =>
    -- the first packet is always accepted
    obtain ⟨hresult, hwindow⟩ := hnew.2.receive n
    refine ⟨n, ?_⟩
    dsimp only
    rw [if_pos hresult, hnew.1]
    exact hwindow
  | inr hwindow =>
    obtain ⟨top, hwindow⟩ := hwindow
    obtain ⟨-, hnext⟩ := hwindow.receive (hnear top ((hwindow.greatest_iff top).mpr rfl))
    dsimp only
    split at hnext
    · rename_i hzero
      rw [if_pos hzero]
      exact ⟨max top n, hnext⟩
    · rename_i hzero
      rw [if_neg hzero, hnext]
      exact ⟨top, hwindow⟩

theorem lossyInvariant_of_reachable {s : LossyReceived} (h : lossySystem.Reachable s) :
    LossyInvariant s := by
  refine h.invariant (P := LossyInvariant) (fun _ hinit => .inl hinit) ?_
  intro s s' hinv hstep
  obtain ⟨n, hnear, rfl⟩ := hstep
  exact hinv.receive hnear

/-- A packet is new exactly if its number is above the window's bottom and was not accepted before. -/
theorem exact_of_reachable {s : LossyReceived} (h : lossySystem.Reachable s)
    (hnear : NearWindow s.accepted n) :
    ((s.peer.lossyPacketNotReceived (lossyNumber n)).1 = 0 ↔
      (∀ top, Greatest s.accepted top → top - 256 < n) ∧ n ∉ s.accepted) ∧
    ((s.peer.lossyPacketNotReceived (lossyNumber n)).1 = 1 ↔
      (∀ top, Greatest s.accepted top → top - 256 < n) ∧ n ∈ s.accepted) ∧
    ((s.peer.lossyPacketNotReceived (lossyNumber n)).1 = -1 ↔
      ∃ top, Greatest s.accepted top ∧ n ≤ top - 256) := by
  cases lossyInvariant_of_reachable h with
  | inl hnew =>
    rw [(hnew.2.receive n).1, hnew.1]
    simp [Greatest]
  | inr hwindow =>
    obtain ⟨top, hwindow⟩ := hwindow
    obtain ⟨hanswers, -⟩ := hwindow.receive (hnear top ((hwindow.greatest_iff top).mpr rfl))
    simp only [hwindow.greatest_iff]
    generalize (s.peer.lossyPacketNotReceived (lossyNumber n)).1 = result at hanswers
    cases hanswers with
    | received hmem hlow => simp [hmem, hlow]
    | notReceived hmem hlow => simp [hmem, hlow]
    | below hlow => simp [hlow]

theorem noLossy_emptyGroupPeer : NoLossy emptyGroupPeer :=
  ⟨rfl, fun _ => Vector.getElem_replicate _⟩

/-- The second packet of a run is 300 ahead of the first one, and a third one is below the window. -/
theorem exact_of_reachable_three :
    ((((LossyReceived.mk [] emptyGroupPeer).receive 10).receive 310).peer.lossyPacketNotReceived
        (lossyNumber 40)).1 = -1 := by
  have hstart : lossySystem.Reachable ⟨[], emptyGroupPeer⟩ := .init ⟨rfl, noLossy_emptyGroupPeer⟩
  have hfirst : NearWindow [] 10 := fun top h => absurd h.1 not_mem_nil
  have hsecond : NearWindow [10] 310 := by
    intro top h
    rw [mem_singleton.mp h.1, Near]
    decide
  have hreachable : lossySystem.Reachable (((LossyReceived.mk [] emptyGroupPeer).receive 10).receive 310) :=
    .step (.step hstart ⟨10, hfirst, rfl⟩) ⟨310, hsecond, rfl⟩
  have hgreatest : Greatest [310, 10] 310 := by simp [Greatest]
  refine (exact_of_reachable (n := 40) hreachable ?_).2.2.mpr ⟨310, hgreatest, by decide⟩
  intro top h
  have htop : top = 310 := Int.le_antisymm (hgreatest.2 top h.1) (h.2 310 hgreatest.1)
  rw [htop, Near]
  decide

end GroupPeer

end Toxcore

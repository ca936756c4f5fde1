import Mathlib.Data.UInt
import Toxcore.ForStd.Sweep
import Toxcore.Native.GroupPackets
import Toxcore.Spec.PeerTable

/-!
# Freezing inactive peers

`groupchat_freeze_timedout` goes over the active peers by index, while `freeze_peer` moves the last peer
into the gap.  The loop does not look at a peer that was moved.
-/

namespace Toxcore

open List

section

variable {α : Type} (pre : List α) (a : α)

theorem swapRemove_concat : swapRemove (pre ++ [a]) pre.length = pre := by
  simp [swapRemove]

theorem swapRemove_append_concat (list : List α) (b : α) :
    swapRemove (pre ++ a :: (list ++ [b])) pre.length = pre ++ b :: list := by
  have hlast : (pre ++ a :: (list ++ [b]))[(pre ++ a :: (list ++ [b])).length - 1]? = some b := by
    rw [← getLast?_eq_getElem?, ← cons_append, ← append_assoc]
    exact getLast?_concat
  have hlength : (pre ++ a :: (list ++ [b])).length - 1 = (pre ++ b :: list).length := by simp
  unfold swapRemove
  rw [hlast]
  dsimp only
  rw [hlength, set_append_right _ _ le_rfl, Nat.sub_self, set_cons_zero,
    show pre ++ b :: (list ++ [b]) = (pre ++ b :: list) ++ [b] by simp]
  exact take_left

end

/-- The peer is another one than ourselves and was last active `FREEZE_TIMEOUT` or more in the past. -/
def GroupPeer.inactive (now : UInt64) (own : UInt16) (peer : GroupPeer) : Bool :=
  peer.peerNumber != own && decide (peer.lastActive.toNat + freezeTimeout.toNat ≤ now.toNat)

/-- The tests that `groupchat_freeze_timedout` makes. -/
def GroupPeer.timesOut (now : UInt64) (own : UInt16) (peer : GroupPeer) : Bool :=
  peer.peerNumber != own && monoTimeIsTimeout now peer.lastActive freezeTimeout

theorem GroupPeer.timesOut_of_inactive {now : UInt64} {own : UInt16} (peer : GroupPeer)
    (h : peer.inactive now own = true) : peer.timesOut now own = true := by
  rw [inactive, Bool.and_eq_true, decide_eq_true_iff] at h
  rw [timesOut, Bool.and_eq_true, monoTimeIsTimeout, decide_eq_true_iff, UInt64.le_iff_toNat_le,
    UInt64.toNat_add]
  have hnow := now.toNat_lt
  refine ⟨h.1, ?_⟩
  rw [Nat.mod_eq_of_lt (Nat.lt_of_le_of_lt h.2 hnow)]
  exact h.2

namespace Conference

open GroupC GroupPeer

variable (conf : Conference) (env : GroupEnv)

theorem freezePeer_group {i : Nat} {peer : GroupPeer} (h : conf.g.group[i]? = some peer) :
    (conf.freezePeer env i).g.group = swapRemove conf.g.group i ∧
      (conf.freezePeer env i).g.peerNumber = conf.g.peerNumber := by
  have hbase := (base_trySendRejoin (conf.delpeer i) env peer.realPk).trans (conf.delpeer_spec h)
  rw [freezePeer, h]
  dsimp only
  rw [deleteOldFrozen]
  constructor
  · split
    · exact (congrArg GroupC.group hbase :)
    · exact (congrArg GroupC.group hbase :)
  · split
    · exact (congrArg GroupC.peerNumber hbase :)
    · exact (congrArg GroupC.peerNumber hbase :)

theorem freezeTimedoutLoop_group (fuel : Nat) (pre rest : List GroupPeer)
    (hgroup : conf.g.group = pre ++ rest) (hfuel : rest.length ≤ fuel) :
    (conf.freezeTimedoutLoop env fuel pre.length).g.group.Perm
      (pre ++ rest.swept (timesOut env.now conf.g.peerNumber)) := by
  induction fuel generalizing conf pre rest with
  | zero =>
    obtain rfl : rest = [] := eq_nil_of_length_eq_zero (by omega)
    rw [freezeTimedoutLoop, hgroup, List.swept_nil]
  | succ fuel ih =>
    cases rest with
    | nil =>
      have hnone : conf.g.group[pre.length]? = none := by rw [hgroup]; simp
      rw [freezeTimedoutLoop, hnone, hgroup, List.swept_nil]
    | cons peer rest =>
      have hpeer : conf.g.group[pre.length]? = some peer := by rw [hgroup]; simp
      have hlength : (pre ++ [peer]).length = pre.length + 1 := by simp
      rw [length_cons] at hfuel
      rw [freezeTimedoutLoop, hpeer]
      dsimp only
      cases hdue : peer.timesOut env.now conf.g.peerNumber with
      | false =>
        -- the peer stays, because it is ourselves or has been active
        have hkept := ih conf (pre ++ [peer]) rest (by rw [hgroup]; simp) (by omega)
        rw [hlength] at hkept
        rw [List.swept_cons_of_not_due hdue, append_cons]
        rw [timesOut, Bool.and_eq_false_iff] at hdue
        split
        · exact hkept
        · rename_i hother
          cases hdue with
          | inl hown => simp [hother] at hown
          | inr htime =>
            rw [if_neg (by simp [htime])]
            exact hkept
      | true =>
        obtain ⟨hremoved, hnumber⟩ := conf.freezePeer_group env hpeer
        have htests := hdue
        rw [timesOut, Bool.and_eq_true, bne_iff_ne] at htests
        rw [if_neg htests.1, if_pos htests.2]
        cases rest using List.reverseRecOn with
        | nil =>
          -- the last peer leaves no gap, and the loop ends
          rw [hgroup, swapRemove_concat] at hremoved
          rw [List.swept_singleton_of_due hdue, append_nil]
          have hend : (conf.freezePeer env pre.length).g.group[pre.length + 1]? = none := by
            rw [hremoved]
            simp
          cases fuel with
          | zero => rw [freezeTimedoutLoop, hremoved]
          | succ fuel => rw [freezeTimedoutLoop, hend, hremoved]
        | append_singleton rest last =>
          rw [hgroup, swapRemove_append_concat] at hremoved
          have hswept := ih (conf.freezePeer env pre.length) (pre ++ [last]) rest
            (by rw [hremoved]; simp) (by simp at hfuel; omega)
          rw [hnumber, length_append] at hswept
          refine hswept.trans ?_
          rw [append_assoc]
          exact ((List.swept_concat_of_due_perm hdue rest last).symm).append_left pre

/-- Of the active peers, exactly those who are inactive have left; ourselves is not one of them. -/
def FreezesInactive (now : UInt64) (g g' : GroupC) : Prop :=
  g'.group.Perm (g.group.filter (!inactive now g.peerNumber ·))

instance (now : UInt64) (g g' : GroupC) : Decidable (FreezesInactive now g g') :=
  inferInstanceAs (Decidable (List.Perm _ _))

structure SweepsInactive (now : UInt64) (g : GroupC) : Prop where
  examined : ∀ peer ∈ (g.group.sweep (timesOut now g.peerNumber)).1,
    peer.timesOut now g.peerNumber = true → peer.inactive now g.peerNumber = true
  passed : ∀ peer ∈ (g.group.sweep (timesOut now g.peerNumber)).2, peer.inactive now g.peerNumber = false

/-- Exactly the inactive peers are frozen, exactly if the loop passes over none of them. -/
theorem freezesInactive_iff : FreezesInactive env.now conf.g (conf.groupchatFreezeTimedout env).g ↔
    SweepsInactive env.now conf.g := by
  have hloop := conf.freezeTimedoutLoop_group env conf.g.group.length [] conf.g.group rfl le_rfl
  have hgroup : (conf.groupchatFreezeTimedout env).g.group =
      (conf.freezeTimedoutLoop env conf.g.group.length 0).g.group := by
    rw [groupchatFreezeTimedout]
    split
    · rfl
    · rfl
  rw [nil_append, length_nil, ← hgroup] at hloop
  have hdue : ∀ peer, inactive env.now conf.g.peerNumber peer = true →
      timesOut env.now conf.g.peerNumber peer = true := fun peer => peer.timesOut_of_inactive
  have hiff := List.swept_perm_filter_iff hdue conf.g.group
  rw [FreezesInactive, hloop.congr_left, hiff]
  exact ⟨fun h => ⟨h.1, h.2⟩, fun h => ⟨h.examined, h.passed⟩⟩

def oldPeer (number : UInt8) : GroupPeer :=
  { emptyGroupPeer with realPk := Vector.replicate _ number, peerNumber := number.toUInt16 }

def twoInactive : Conference where
  g := { emptyGroupC with
    status := .connected
    realPk := Vector.replicate _ 1
    peerNumber := 1
    group := [oldPeer 1, oldPeer 2, oldPeer 3]
    maxfrozen := maxFrozenDefault }
  frC := { conns := [] }

/-- The last peer moves into the place of the one that is frozen, and stays. -/
theorem not_freezesInactive_moved : ¬FreezesInactive 100 twoInactive.g
    (twoInactive.groupchatFreezeTimedout { quietEnv with now := 100 }).g := by
  intro hfreezes
  have hlength := hfreezes.length_eq
  revert hlength
  decide +kernel

end Conference

end Toxcore

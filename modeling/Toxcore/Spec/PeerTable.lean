import Toxcore.ForStd.List
import Toxcore.Spec.GroupSystem

/-!
# The peer table of a conference

Active and frozen peers together have distinct keys and distinct numbers. The last entry of an array moves into
the gap of a removed one, so that lists are considered up to permutation. A frozen peer keeps what is known
about it.
-/

namespace Toxcore

open List

theorem swapRemove_perm {α : Type} {list : List α} {i : Nat} (h : i < list.length) :
    (swapRemove list i).Perm (list.eraseIdx i) := by
  have hlast : list.length - 1 < list.length := by omega
  have hsome := getElem?_eq_getElem hlast
  unfold swapRemove
  rw [hsome]
  exact List.take_set_perm_eraseIdx h hsome

theorem mem_swapRemove {α β : Type} {f : α → β} {list : List α} {i : Nat} {a b : α}
    (h : (list.map f).Nodup) (ha : list[i]? = some a) :
    b ∈ swapRemove list i ↔ b ∈ list ∧ f b ≠ f a := by
  rw [(swapRemove_perm (List.getElem?_eq_some_iff.mp ha).1).mem_iff, List.mem_eraseIdx_iff_of_nodup_map h ha]

namespace GroupC

def peers (g : GroupC) : List GroupPeer := g.group ++ g.frozen

structure PeerTable (g : GroupC) : Prop where
  realPk : (g.peers.map (·.realPk)).Nodup
  peerNumber : (g.peers.map (·.peerNumber)).Nodup

end GroupC

namespace GroupPeer

def ident (peer : GroupPeer) : PublicKey × UInt16 := (peer.realPk, peer.peerNumber)

/-- What is kept while frozen: who the peer is, its nick and its received messages. -/
structure Kept (peer peer' : GroupPeer) : Prop where
  realPk : peer'.realPk = peer.realPk
  peerNumber : peer'.peerNumber = peer.peerNumber
  nick : peer'.nick = peer.nick
  lastMessageInfos : peer'.lastMessageInfos = peer.lastMessageInfos
  numLastMessageInfos : peer'.numLastMessageInfos = peer.numLastMessageInfos
  recvLossy : peer'.recvLossy = peer.recvLossy
  bottomLossyNumber : peer'.bottomLossyNumber = peer.bottomLossyNumber
  topLossyNumber : peer'.topLossyNumber = peer.topLossyNumber

theorem Kept.refl (peer : GroupPeer) : peer.Kept peer := ⟨rfl, rfl, rfl, rfl, rfl, rfl, rfl, rfl⟩

theorem Kept.trans {p1 p2 p3 : GroupPeer} (h1 : p1.Kept p2) (h2 : p2.Kept p3) : p1.Kept p3 where
  realPk := h2.realPk.trans h1.realPk
  peerNumber := h2.peerNumber.trans h1.peerNumber
  nick := h2.nick.trans h1.nick
  lastMessageInfos := h2.lastMessageInfos.trans h1.lastMessageInfos
  numLastMessageInfos := h2.numLastMessageInfos.trans h1.numLastMessageInfos
  recvLossy := h2.recvLossy.trans h1.recvLossy
  bottomLossyNumber := h2.bottomLossyNumber.trans h1.bottomLossyNumber
  topLossyNumber := h2.topLossyNumber.trans h1.topLossyNumber

end GroupPeer

namespace GroupC

open GroupPeer

theorem peerTable_iff (g : GroupC) :
    g.PeerTable ↔ ((g.peers.map ident).map Prod.fst).Nodup ∧ ((g.peers.map ident).map Prod.snd).Nodup := by
  rw [map_map, map_map]
  exact ⟨fun h => ⟨h.realPk, h.peerNumber⟩, fun h => ⟨h.1, h.2⟩⟩

structure Shrinks (g g' : GroupC) : Prop where
  ident : (g'.peers.map ident).Subperm (g.peers.map ident)
  kept : ∀ peer' ∈ g'.peers, ∃ peer ∈ g.peers, peer.Kept peer'

variable {g g' g1 g2 g3 : GroupC}

theorem Shrinks.of_eq (hgroup : g'.group = g.group) (hfrozen : g'.frozen = g.frozen) :
    g.Shrinks g' := by
  have hpeers : g'.peers = g.peers := by
    unfold peers
    rw [hgroup, hfrozen]
  constructor
  · rw [hpeers]
  · exact fun peer h => ⟨peer, hpeers ▸ h, .refl peer⟩

theorem Shrinks.refl (g : GroupC) : g.Shrinks g := .of_eq rfl rfl

theorem Shrinks.trans (h1 : g1.Shrinks g2) (h2 : g2.Shrinks g3) : g1.Shrinks g3 := by
  refine ⟨h2.ident.trans h1.ident, fun peer3 hmem => ?_⟩
  obtain ⟨peer2, hmem, hkept2⟩ := h2.kept peer3 hmem
  obtain ⟨peer1, hmem, hkept1⟩ := h1.kept peer2 hmem
  exact ⟨peer1, hmem, hkept1.trans hkept2⟩

theorem Shrinks.peerTable (h : g.Shrinks g') (htable : g.PeerTable) : g'.PeerTable := by
  rw [peerTable_iff] at htable ⊢
  exact ⟨List.nodup_of_subperm (List.map_subperm_map _ h.ident) htable.1,
    List.nodup_of_subperm (List.map_subperm_map _ h.ident) htable.2⟩

theorem Shrinks.of_subperm (h : g'.peers.Subperm g.peers) : g.Shrinks g' :=
  ⟨List.map_subperm_map _ h, fun peer hmem => ⟨peer, h.subset hmem, .refl peer⟩⟩

variable {f : GroupPeer → GroupPeer}

section

variable (hf : ∀ peer : GroupPeer, peer.Kept (f peer))
include hf

theorem map_ident_modify (list : List GroupPeer) (i : Nat) :
    (list.modify i f).map GroupPeer.ident = list.map GroupPeer.ident := by
  apply List.map_modify_of_eq
  intro peer
  rw [GroupPeer.ident, GroupPeer.ident, (hf peer).realPk, (hf peer).peerNumber]

theorem kept_modify {list : List GroupPeer} {i : Nat} {peer' : GroupPeer} (h : peer' ∈ list.modify i f) :
    ∃ peer ∈ list, peer.Kept peer' := by
  obtain ⟨j, hj⟩ := mem_iff_getElem?.mp h
  rw [getElem?_modify] at hj
  obtain ⟨peer, hpeer, rfl⟩ := Option.map_eq_some_iff.mp hj
  refine ⟨peer, mem_of_getElem? hpeer, ?_⟩
  split
  · exact hf peer
  · exact .refl peer

theorem shrinks_modify_group (i : Nat)
    (hgroup : g'.group = g.group.modify i f) (hfrozen : g'.frozen = g.frozen) : g.Shrinks g' := by
  constructor
  · unfold peers
    rw [hgroup, hfrozen, map_append, map_ident_modify hf, ← map_append]
  · intro peer' hmem
    rcases mem_append.mp hmem with hmem | hmem
    · rw [hgroup] at hmem
      obtain ⟨peer, hpeer, hkept⟩ := kept_modify hf hmem
      exact ⟨peer, mem_append_left _ hpeer, hkept⟩
    · exact ⟨peer', mem_append_right _ (hfrozen ▸ hmem), .refl peer'⟩

theorem shrinks_modify_frozen (i : Nat) (hgroup : g'.group = g.group)
    (hfrozen : g'.frozen = g.frozen.modify i f) : g.Shrinks g' := by
  constructor
  · unfold peers
    rw [hgroup, hfrozen, map_append, map_ident_modify hf, ← map_append]
  · intro peer' hmem
    rcases mem_append.mp hmem with hmem | hmem
    · exact ⟨peer', mem_append_left _ (hgroup ▸ hmem), .refl peer'⟩
    · rw [hfrozen] at hmem
      obtain ⟨peer, hpeer, hkept⟩ := kept_modify hf hmem
      exact ⟨peer, mem_append_right _ hpeer, hkept⟩

end

/-! ## Removing peers -/

theorem shrinks_swapRemove_group (i : Nat) (hgroup : g'.group = swapRemove g.group i)
    (hfrozen : g'.frozen = g.frozen) (hi : i < g.group.length) : g.Shrinks g' := by
  apply Shrinks.of_subperm
  unfold peers
  rw [hgroup, hfrozen, subperm_append_right]
  exact (swapRemove_perm hi).subperm.trans (eraseIdx_sublist _ _).subperm

theorem shrinks_deleteFrozen (g : GroupC) (i : Nat) : g.Shrinks (g.deleteFrozen i).2 := by
  unfold deleteFrozen
  split
  · exact .refl g
  · rename_i hi
    apply Shrinks.of_subperm
    unfold peers
    rw [subperm_append_left]
    exact (swapRemove_perm (Nat.lt_of_not_le hi)).subperm.trans (eraseIdx_sublist _ _).subperm

theorem shrinks_deleteOldFrozen (g : GroupC) : g.Shrinks g.deleteOldFrozen.2 := by
  unfold deleteOldFrozen
  split
  · exact .refl g
  · apply Shrinks.of_subperm
    unfold peers
    rw [subperm_append_left]
    exact (take_sublist _ _).subperm.trans (perm_insertionSort _ _).subperm

theorem length_deleteOldFrozen_le (g : GroupC) :
    g.deleteOldFrozen.2.frozen.length ≤ g.deleteOldFrozen.2.maxfrozen.toNat := by
  unfold deleteOldFrozen
  split
  · assumption
  · rw [length_take]
    exact Nat.min_le_left _ _

/-! ## Connections -/

def base (g : GroupC) : GroupC :=
  { g with
    connections := emptyGroupC.connections
    closestPeers := emptyGroupC.closestPeers
    changed := .none
    numIntroducerConnections := 0 }

theorem group_of_base (h : g'.base = g.base) : g'.group = g.group :=
  (congrArg GroupC.group h :)

theorem frozen_of_base (h : g'.base = g.base) : g'.frozen = g.frozen :=
  (congrArg GroupC.frozen h :)

theorem Shrinks.of_base (h : g'.base = g.base) : g.Shrinks g' :=
  .of_eq (group_of_base h) (frozen_of_base h)

theorem base_changed (g : GroupC) (changed : GroupchatClosestChange) : { g with changed }.base = g.base := rfl

theorem base_addToClosestLoop (fuel : Nat) (g : GroupC) (realPk tempPk : PublicKey) :
    (addToClosestLoop fuel g realPk tempPk).2.base = g.base := by
  induction fuel generalizing g realPk tempPk with
  | zero => rfl
  | succ fuel ih =>
    unfold addToClosestLoop
    simp only
    split_ifs
    · rfl
    · rfl
    · split
      · rfl
      · simp only
        split
        · split <;> rfl
        · rename_i peer _
          -- the peer that was replaced is added again
          split <;> exact ih _ peer.realPk peer.tempPk

@[simp] theorem base_addToClosest (g : GroupC) (realPk tempPk : PublicKey) :
    (g.addToClosest realPk tempPk).2.base = g.base :=
  base_addToClosestLoop _ g realPk tempPk

@[simp] theorem base_removeFromClosest (g : GroupC) (realPk : PublicKey) :
    (g.removeFromClosest realPk).base = g.base := by
  unfold removeFromClosest
  split
  · rfl
  · split <;> rfl

@[simp] theorem base_modifyConnection (g : GroupC) (i : Nat)
    (f : GroupchatConnection → GroupchatConnection) : (g.modifyConnection i f).base = g.base := by
  unfold modifyConnection
  split <;> rfl

@[simp] theorem base_addReason (g : GroupC) (i : Nat) (reason : Reason) :
    (g.addReason i reason).base = g.base := by
  unfold addReason
  simp only
  split_ifs
  · exact base_modifyConnection g i _
  · exact base_modifyConnection g i _
  · rfl

@[simp] theorem base_squashConnections (g : GroupC) : g.squashConnections.base = g.base := rfl

end GroupC

namespace Conference

open GroupC

variable (conf : Conference) (env : GroupEnv)

theorem base_removeConnection (i : Nat) : (conf.removeConnection i).g.base = conf.g.base := by
  unfold removeConnection
  split
  · rfl
  · simp only [base_modifyConnection]
    split <;> rfl

theorem base_removeConnectionReason (i : Nat) (reason : Reason) :
    (conf.removeConnectionReason i reason).g.base = conf.g.base := by
  unfold removeConnectionReason
  split
  · rfl
  · simp only
    split_ifs <;> simp only [base_modifyConnection]
    · exact base_modifyConnection conf.g i _
    · exact base_modifyConnection conf.g i _

theorem base_addConnToGroupchat (friendconId : Nat) (reason : Reason) (lock : Bool) :
    (conf.addConnToGroupchat friendconId reason lock).2.g.base = conf.g.base := by
  unfold addConnToGroupchat
  split
  · exact base_addReason conf.g _ reason
  · split
    · rfl
    · simp only [base_addReason, base_modifyConnection]

theorem base_foldl {α : Type} {f : Conference → α → Conference}
    (h : ∀ conf a, (f conf a).g.base = conf.g.base) (as : List α) :
    (as.foldl f conf).g.base = conf.g.base := by
  induction as generalizing conf with
  | nil => rfl
  | cons a as ih => exact (ih _).trans (h conf a)

theorem base_purgeClosest : (conf.purgeClosest env).g.base = conf.g.base := by
  apply base_foldl
  intro conf i
  unfold purgeSlot
  split
  · rfl
  · simp only
    split_ifs
    · rfl
    · exact base_removeConnectionReason conf i _
    · rfl

theorem base_addClosestConnections : (conf.addClosestConnections env).g.base = conf.g.base := by
  apply base_foldl
  intro conf i
  unfold addClosestConnection
  split
  · rfl
  · split
    · rfl
    · split
      · exact base_addConnToGroupchat conf _ _ _
      · split
        · rfl
        · rename_i friendconId frC _
          have hadd := base_addConnToGroupchat { conf with frC } friendconId .closest false
          split
          · rename_i heq
            rw [heq] at hadd
            exact hadd
          · rename_i heq
            rw [heq] at hadd
            exact hadd

theorem base_fillClosest : conf.fillClosest.g.base = conf.g.base := by
  have hgroup : ∀ (peers : List GroupPeer) (g : GroupC),
      (peers.foldl (fun g peer => (g.addToClosest peer.realPk peer.tempPk).2) g).base = g.base := by
    intro peers
    induction peers with
    | nil => exact fun _ => rfl
    | cons peer peers ih => exact fun g => (ih _).trans (base_addToClosest g _ _)
  unfold fillClosest
  split
  · exact hgroup _ _
  · rfl

theorem base_connectToClosest : (conf.connectToClosest env).g.base = conf.g.base := by
  unfold connectToClosest
  split
  · rfl
  · exact (base_changed _ _).trans ((base_addClosestConnections _ env).trans
      ((base_purgeClosest _ env).trans (base_fillClosest conf)))

theorem base_cleanConnections : conf.cleanConnections.g.base = conf.g.base := by
  have hloop : ∀ (conf : Conference) (toClear : Nat),
      (if conf.g.connections[conf.g.cleanIndex toClear]?.any (·.used) then
        conf.removeConnection (conf.g.cleanIndex toClear) else conf).g.base = conf.g.base := by
    intro conf toClear
    split
    · exact base_removeConnection conf _
    · rfl
  exact (base_squashConnections _).trans (base_foldl conf hloop _)

theorem base_trySendRejoin (realPk : PublicKey) : (conf.trySendRejoin env realPk).g.base = conf.g.base := by
  unfold trySendRejoin
  split
  · rfl
  · split
    · rfl
    · exact base_addConnToGroupchat conf _ _ _

theorem base_addInviteConn (friendconId : Nat) (first second : Reason) (member : Bool)
    (otherGroupnum : UInt16) :
    (conf.addInviteConn friendconId first second member otherGroupnum).g.base = conf.g.base := by
  unfold addInviteConn
  have hfirst := base_addConnToGroupchat conf friendconId first true
  have hsecond := base_addConnToGroupchat (conf.addConnToGroupchat friendconId first true).2
    friendconId second false
  have hconf : (if member then ((conf.addConnToGroupchat friendconId first true).2.addConnToGroupchat
      friendconId second false).2 else (conf.addConnToGroupchat friendconId first true).2).g.base =
      conf.g.base := by
    split
    · exact hsecond.trans hfirst
    · exact hfirst
  simp only
  split
  · exact hconf
  · unfold setOnline
    simp only [base_modifyConnection]
    exact hconf

end Conference

/-! ## Freezing and thawing -/

namespace GroupC

open GroupPeer

variable {g g' : GroupC}

theorem perm_cons_swapRemove {α : Type} {list : List α} {i : Nat} {a : α} (h : list[i]? = some a) :
    (a :: swapRemove list i).Perm list := by
  obtain ⟨hi, rfl⟩ := List.getElem?_eq_some_iff.mp h
  exact ((swapRemove_perm hi).cons _).trans (getElem_cons_eraseIdx_perm hi)

theorem notePeerActive_cases (g : GroupC) (env : GroupEnv) (peerNumber : UInt16) :
    (∃ i, g.getPeerIndex peerNumber = some i ∧ g.notePeerActive env peerNumber = (some i,
      { g with group := g.group.modify i fun peer => { peer with lastActive := env.now } })) ∨
    (g.getPeerIndex peerNumber = none ∧ g.getFrozenIndex peerNumber = none ∧
      g.notePeerActive env peerNumber = (none, g)) ∨
    ∃ i peer g', g.getPeerIndex peerNumber = none ∧ g.getFrozenIndex peerNumber = some i ∧
      g.frozen[i]? = some peer ∧ g.notePeerActive env peerNumber = (some g.group.length, g') ∧
      g'.group = g.group ++ [{ peer with tempPkUpdated := false, lastActive := env.now }] ∧
      g'.frozen = swapRemove g.frozen i := by
  unfold notePeerActive
  cases hpeer : g.getPeerIndex peerNumber with
  | some i => exact .inl ⟨i, rfl, rfl⟩
  | none =>
    cases hfrozen : g.getFrozenIndex peerNumber with
    | none => exact .inr (.inl ⟨rfl, rfl, rfl⟩)
    | some i =>
      have hi : i < g.frozen.length := (findIdx?_eq_some_iff_findIdx_eq.mp hfrozen).1
      have hsome := getElem?_eq_getElem hi
      refine .inr (.inr ⟨i, g.frozen[i], g.thawPeer env i g.frozen[i], rfl, rfl, hsome, ?_, ?_, ?_⟩)
      · simp only [hsome]
      · simp only [thawPeer, deleteFrozen]
        split <;> rfl
      · have hbase := base_addToClosest g g.frozen[i].realPk g.frozen[i].tempPk
        simp only [thawPeer, deleteFrozen, frozen_of_base hbase]
        rw [if_neg (Nat.not_le_of_lt hi)]

theorem shrinks_notePeerActive (g : GroupC) (env : GroupEnv) (peerNumber : UInt16) :
    g.Shrinks (g.notePeerActive env peerNumber).2 := by
  rcases g.notePeerActive_cases env peerNumber with
    ⟨i, -, heq⟩ | ⟨-, -, heq⟩ | ⟨i, peer, g', -, -, hpeer, heq, hgroup, hfrozen⟩ <;> rw [heq]
  · have hkept : ∀ peer : GroupPeer, peer.Kept { peer with lastActive := env.now } :=
      fun peer => ⟨rfl, rfl, rfl, rfl, rfl, rfl, rfl, rfl⟩
    exact shrinks_modify_group hkept i rfl rfl
  · exact .refl g
  · have hperm := perm_cons_swapRemove hpeer
    constructor
    · unfold peers
      rw [hgroup, hfrozen]
      apply List.Perm.subperm
      rw [append_assoc]
      simp only [map_append]
      apply List.Perm.append_left
      exact hperm.map ident
    · intro peer' hmem
      unfold peers at hmem
      rw [hgroup, hfrozen, append_assoc] at hmem
      rcases mem_append.mp hmem with hmem | hmem
      · exact ⟨peer', mem_append_left _ hmem, .refl peer'⟩
      · rcases mem_cons.mp hmem with rfl | hmem
        · exact ⟨peer, mem_append_right _ (mem_of_getElem? hpeer),
            ⟨rfl, rfl, rfl, rfl, rfl, rfl, rfl, rfl⟩⟩
        · exact ⟨peer', mem_append_right _ (hperm.subset (mem_cons_of_mem _ hmem)), .refl peer'⟩

end GroupC

namespace Conference

open GroupC GroupPeer

variable (conf : Conference) (env : GroupEnv)

variable {i : Nat} {peer : GroupPeer}

theorem delpeer_spec (h : conf.g.group[i]? = some peer) :
    (conf.delpeer i).g.base = { conf.g with group := swapRemove conf.g.group i }.base := by
  unfold delpeer
  rw [h]
  have hclosest := base_removeFromClosest conf.g peer.realPk
  -- removing the connection does not change the peers
  have hset : ∀ c : Conference, c.g.base = conf.g.base →
      { c.g with group := swapRemove c.g.group i }.base =
        { conf.g with group := swapRemove conf.g.group i }.base := by
    intro c hc
    rw [← group_of_base hc]
    exact congrArg (fun g : GroupC => { g with group := swapRemove c.g.group i }) hc
  simp only
  split
  · exact hset _ hclosest
  · split
    · exact hset _ hclosest
    · exact hset _ ((base_removeConnection _ _).trans hclosest)

theorem shrinks_delpeer (i : Nat) : conf.g.Shrinks (conf.delpeer i).g := by
  cases h : conf.g.group[i]? with
  | none =>
    unfold delpeer
    rw [h]
    exact .refl _
  | some peer =>
    have hbase := conf.delpeer_spec h
    exact shrinks_swapRemove_group i (congrArg GroupC.group hbase :)
      (congrArg GroupC.frozen hbase :) (List.getElem?_eq_some_iff.mp h).1

theorem freezePeer_spec (h : conf.g.group[i]? = some peer) :
    ∃ g : GroupC, (conf.freezePeer env i).g = g.deleteOldFrozen.2 ∧
      g.group = swapRemove conf.g.group i ∧ g.frozen = conf.g.frozen ++ [peer] ∧
      g.maxfrozen = conf.g.maxfrozen := by
  have hbase := (base_trySendRejoin (conf.delpeer i) env peer.realPk).trans (conf.delpeer_spec h)
  unfold freezePeer
  rw [h]
  refine ⟨{ ((conf.delpeer i).trySendRejoin env peer.realPk).g with
    frozen := ((conf.delpeer i).trySendRejoin env peer.realPk).g.frozen ++ [peer] }, rfl, ?_, ?_, ?_⟩
  · exact (congrArg GroupC.group hbase :)
  · exact congrArg (· ++ [peer]) (congrArg GroupC.frozen hbase :)
  · exact (congrArg GroupC.maxfrozen hbase :)

theorem mem_frozen_freezePeer (h : conf.g.group[i]? = some peer) (hroom : conf.g.frozen.length < conf.g.maxfrozen.toNat)
    : peer ∈ (conf.freezePeer env i).g.frozen := by
  obtain ⟨g, heq, -, hfrozen, hmax⟩ := conf.freezePeer_spec env h
  have hlength : g.frozen.length ≤ g.maxfrozen.toNat := by
    rw [hfrozen, hmax, length_append, length_singleton]
    omega
  rw [heq, deleteOldFrozen, if_pos hlength, hfrozen]
  exact mem_append_right _ (mem_singleton_self peer)

theorem shrinks_freezePeer (i : Nat) : conf.g.Shrinks (conf.freezePeer env i).g := by
  cases h : conf.g.group[i]? with
  | none =>
    unfold freezePeer
    rw [h]
    exact .refl _
  | some peer =>
    obtain ⟨g, heq, hgroup, hfrozen, -⟩ := conf.freezePeer_spec env h
    rw [heq]
    refine Shrinks.trans (.of_subperm ?_) (shrinks_deleteOldFrozen g)
    unfold peers
    rw [hgroup, hfrozen]
    apply List.Perm.subperm
    -- the peer moves from the end to its old place
    refine ((perm_append_singleton peer _).append_left _).trans ?_
    exact perm_middle.trans ((perm_cons_swapRemove h).append_right _)

theorem shrinks_checkDisconnected : conf.g.Shrinks (conf.checkDisconnected env).g := by
  have hloop : ∀ (fuel i : Nat) (conf : Conference),
      conf.g.Shrinks (checkDisconnectedLoop env fuel i conf).g := by
    intro fuel
    induction fuel with
    | zero => exact fun _ conf => .refl _
    | succ fuel ih =>
      intro i conf
      unfold checkDisconnectedLoop
      split
      · exact .refl _
      · split
        · exact (conf.shrinks_freezePeer env i).trans (ih i _)
        · exact ih (i + 1) conf
  unfold checkDisconnected
  split
  · exact .refl _
  · exact hloop _ _ _

theorem shrinks_setConnsTypeConnections (friendconId : Nat) :
    conf.g.Shrinks (conf.setConnsTypeConnections env friendconId).g := by
  have hslot : ∀ (conf : Conference) (i : Nat),
      conf.g.Shrinks (setOffline env friendconId conf i).g := by
    intro conf i
    unfold setOffline
    split
    · exact .refl _
    · split
      · exact .refl _
      · refine Shrinks.trans ?_ (shrinks_checkDisconnected _ env)
        exact .of_base (base_modifyConnection conf.g i _)
  unfold setConnsTypeConnections
  generalize List.range maxGroupConnections = is
  induction is generalizing conf with
  | nil => exact .refl _
  | cons i is ih => exact (hslot conf i).trans (ih _)

/-! ## Adding peers -/

theorem findIdx?_spec {α : Type} {p : α → Bool} {list : List α} (h : list.findIdx? p = some i)
    : ∃ a, list[i]? = some a ∧ p a := by
  obtain ⟨hi, hp, -⟩ := findIdx?_eq_some_iff_getElem.mp h
  exact ⟨list[i], getElem?_eq_getElem hi, hp⟩

theorem deleteActivePeerWithPk_spec (h : conf.g.PeerTable) (realPk : PublicKey) :
    conf.g.Shrinks (conf.deleteActivePeerWithPk realPk).g ∧
      ∀ peer ∈ (conf.deleteActivePeerWithPk realPk).g.group, peer.realPk ≠ realPk := by
  unfold deleteActivePeerWithPk
  cases hfind : conf.g.peerInGroup realPk with
  | none =>
    refine ⟨.refl _, fun peer hmem => ?_⟩
    simpa using findIdx?_eq_none_iff.mp hfind peer hmem
  | some i =>
    obtain ⟨peer, hpeer, hpk⟩ := findIdx?_spec hfind
    obtain rfl : peer.realPk = realPk := by simpa using hpk
    refine ⟨conf.shrinks_delpeer i, fun other hmem => ?_⟩
    have hgroup : (conf.delpeer i).g.group = swapRemove conf.g.group i :=
      (congrArg GroupC.group (conf.delpeer_spec hpeer) :)
    have hall := h.realPk
    unfold GroupC.peers at hall
    rw [map_append] at hall
    rw [hgroup, mem_swapRemove hall.of_append_left hpeer] at hmem
    exact hmem.2

theorem deleteAnyPeerWithPk_spec (h : conf.g.PeerTable) (realPk : PublicKey) :
    conf.g.Shrinks (conf.deleteAnyPeerWithPk realPk).g ∧
      ∀ peer ∈ (conf.deleteAnyPeerWithPk realPk).g.peers, peer.realPk ≠ realPk := by
  obtain ⟨hshrinks, hgroup⟩ := conf.deleteActivePeerWithPk_spec h realPk
  have htable := hshrinks.peerTable h
  unfold deleteAnyPeerWithPk
  generalize conf.deleteActivePeerWithPk realPk = c at hshrinks hgroup htable ⊢
  simp only
  cases hfind : c.g.frozenInGroup realPk with
  | none =>
    refine ⟨hshrinks, fun peer hmem => ?_⟩
    rcases mem_append.mp hmem with hmem | hmem
    · exact hgroup peer hmem
    · simpa using findIdx?_eq_none_iff.mp hfind peer hmem
  | some i =>
    obtain ⟨peer, hpeer, hpk⟩ := findIdx?_spec hfind
    obtain rfl : peer.realPk = realPk := by simpa using hpk
    have hi : i < c.g.frozen.length := (List.getElem?_eq_some_iff.mp hpeer).1
    refine ⟨hshrinks.trans (shrinks_deleteFrozen c.g i), fun other hmem => ?_⟩
    simp only [deleteFrozen, if_neg (Nat.not_le_of_lt hi)] at hmem
    rcases mem_append.mp hmem with hmem | hmem
    · exact hgroup other hmem
    · have hall := htable.realPk
      unfold GroupC.peers at hall
      rw [map_append] at hall
      exact ((mem_swapRemove hall.of_append_right hpeer).mp hmem).2

theorem addNewPeer_spec (realPk tempPk : PublicKey) (peerNumber : UInt16) :
    (conf.addNewPeer env realPk tempPk peerNumber).2.g.group =
        (conf.deleteAnyPeerWithPk realPk).g.group ++ [newPeer env realPk tempPk peerNumber] ∧
      (conf.addNewPeer env realPk tempPk peerNumber).2.g.frozen =
        (conf.deleteAnyPeerWithPk realPk).g.frozen := by
  unfold addNewPeer
  generalize conf.deleteAnyPeerWithPk realPk = c
  have hbase := base_addToClosest
    { c.g with group := c.g.group ++ [newPeer env realPk tempPk peerNumber] } realPk tempPk
  exact ⟨(congrArg GroupC.group hbase :), (congrArg GroupC.frozen hbase :)⟩

/-- Keys and numbers stay distinct, and a peer that is frozen afterwards is kept. -/
structure PeerStep (g g' : GroupC) : Prop where
  table : g.PeerTable → g'.PeerTable
  frozen : g.PeerTable → ∀ peer' ∈ g'.frozen, ∃ peer ∈ g.peers, peer.Kept peer'

theorem PeerStep.of_shrinks {g g' : GroupC} (h : g.Shrinks g') : PeerStep g g' :=
  ⟨h.peerTable, fun _ peer' hmem => h.kept peer' (mem_append_right _ hmem)⟩

theorem peerStep_addNewPeer (realPk tempPk : PublicKey) {peerNumber : UInt16}
    (hnumber : ∀ peer ∈ conf.g.peers, peer.peerNumber ≠ peerNumber) :
    PeerStep conf.g (conf.addNewPeer env realPk tempPk peerNumber).2.g := by
  obtain ⟨hgroup, hfrozen⟩ := conf.addNewPeer_spec env realPk tempPk peerNumber
  constructor
  · intro htable
    obtain ⟨hshrinks, hother⟩ := conf.deleteAnyPeerWithPk_spec htable realPk
    have htable' := hshrinks.peerTable htable
    generalize (conf.deleteAnyPeerWithPk realPk).g = g1 at hgroup hfrozen hshrinks hother htable'
    have hperm : (conf.addNewPeer env realPk tempPk peerNumber).2.g.peers.Perm
        (newPeer env realPk tempPk peerNumber :: g1.peers) := by
      unfold peers
      rw [hgroup, hfrozen, append_assoc]
      exact perm_middle
    constructor
    · refine (hperm.map _).nodup_iff.mpr (nodup_cons.mpr ⟨?_, htable'.realPk⟩)
      intro hmem
      obtain ⟨other, hmem, heq⟩ := mem_map.mp hmem
      exact hother other hmem heq
    · refine (hperm.map _).nodup_iff.mpr (nodup_cons.mpr ⟨?_, htable'.peerNumber⟩)
      intro hmem
      obtain ⟨other, hmem, heq⟩ := mem_map.mp hmem
      obtain ⟨old, hold, hkept⟩ := hshrinks.kept other hmem
      exact hnumber old hold (hkept.peerNumber.symm.trans heq)
  · intro htable peer' hmem
    rw [hfrozen] at hmem
    obtain ⟨hshrinks, -⟩ := conf.deleteAnyPeerWithPk_spec htable realPk
    exact hshrinks.kept peer' (mem_append_right _ hmem)

theorem shrinks_updatePeer (i : Nat) (peer : GroupPeer) (realPk tempPk : PublicKey)
    (fresh : Bool) : conf.g.Shrinks (conf.updatePeer i peer realPk tempPk fresh).2.g := by
  unfold updatePeer
  split_ifs
  · exact .refl _
  · have hkept : ∀ p : GroupPeer, p.Kept { p with tempPk, tempPkUpdated := true } :=
      fun p => ⟨rfl, rfl, rfl, rfl, rfl, rfl, rfl, rfl⟩
    exact shrinks_modify_group hkept i rfl rfl
  · exact .refl _

theorem peerNumber_ne {g : GroupC} {peerNumber : UInt16} (hgroup : g.getPeerIndex peerNumber = none)
    (hfrozen : g.getFrozenIndex peerNumber = none) :
    ∀ peer ∈ g.peers, peer.peerNumber ≠ peerNumber := by
  intro peer hmem
  rcases mem_append.mp hmem with hmem | hmem
  · simpa using findIdx?_eq_none_iff.mp hgroup peer hmem
  · simpa using findIdx?_eq_none_iff.mp hfrozen peer hmem

theorem peerStep_addpeer (realPk tempPk : PublicKey) (peerNumber : UInt16) (fresh : Bool) :
    PeerStep conf.g (conf.addpeer env realPk tempPk peerNumber fresh).2.g := by
  cases fresh with
  | true =>
    have hnote := conf.g.shrinks_notePeerActive env peerNumber
    have hcases := conf.g.notePeerActive_cases env peerNumber
    unfold addpeer
    simp only [if_true]
    rcases heq : conf.g.notePeerActive env peerNumber with ⟨_ | i, g⟩
    · -- the number is not in use
      rw [heq] at hcases
      rcases hcases with ⟨i, -, h⟩ | ⟨hgroup, hfrozen, h⟩ | ⟨i, peer, g', -, -, -, h, -⟩
      · exact nomatch (Prod.mk.inj h).1
      · obtain rfl : g = conf.g := (Prod.mk.inj h).2
        exact peerStep_addNewPeer conf env realPk tempPk (peerNumber_ne hgroup hfrozen)
      · exact nomatch (Prod.mk.inj h).1
    · rw [heq] at hnote
      apply PeerStep.of_shrinks
      simp only
      split
      · exact hnote
      · exact hnote.trans (shrinks_updatePeer { conf with g } _ _ realPk tempPk true)
  | false =>
    unfold addpeer
    simp only [Bool.false_eq_true]
    split
    · apply PeerStep.of_shrinks
      split
      · exact .refl _
      · exact shrinks_updatePeer conf _ _ realPk tempPk false
    · rename_i hgroup
      split
      · have hkept : ∀ p : GroupPeer, p.Kept (if p.realPk = realPk then { p with tempPk } else p) := by
          intro p
          split
          · exact ⟨rfl, rfl, rfl, rfl, rfl, rfl, rfl, rfl⟩
          · exact .refl p
        exact .of_shrinks (shrinks_modify_frozen hkept _ rfl rfl)
      · rename_i hfrozen
        exact peerStep_addNewPeer conf env realPk tempPk (peerNumber_ne hgroup hfrozen)

/-! ## Steps -/

theorem peerStep_setnick (g : GroupC) (i : Nat) (nick : Name) : PeerStep g (g.setnick i nick) := by
  have hgroup : (g.setnick i nick).group.map ident = g.group.map ident := by
    apply List.map_modify_of_eq
    exact fun _ => rfl
  have hident : (g.setnick i nick).peers.map ident = g.peers.map ident := by
    rw [peers, peers, map_append, map_append, hgroup]
    rfl
  constructor
  · intro htable
    rw [peerTable_iff] at htable ⊢
    rwa [hident]
  · exact fun _ peer' hmem => ⟨peer', mem_append_right _ hmem, .refl peer'⟩

theorem peerStep_step (input : ConferenceInput) : PeerStep conf.g (conf.step env input).g := by
  cases input with
  | addpeer realPk tempPk peerNumber fresh => exact peerStep_addpeer conf env _ _ _ _
  | notePeerActive peerNumber => exact .of_shrinks (shrinks_notePeerActive conf.g env peerNumber)
  | freezePeer peerIndex => exact .of_shrinks (shrinks_freezePeer conf env peerIndex)
  | delpeer peerIndex => exact .of_shrinks (shrinks_delpeer conf peerIndex)
  | deleteFrozen frozenIndex => exact .of_shrinks (shrinks_deleteFrozen conf.g frozenIndex)
  | deleteOldFrozen => exact .of_shrinks (shrinks_deleteOldFrozen conf.g)
  | setMaxFrozen maxfrozen =>
    have hset : conf.g.Shrinks { conf.g with maxfrozen := maxfrozen } := .of_eq rfl rfl
    exact .of_shrinks (hset.trans (shrinks_deleteOldFrozen _))
  | setnick peerIndex nick => exact peerStep_setnick conf.g peerIndex nick
  | inviteResponse friendconId member otherGroupnum =>
    simp only [step, onFriendcon]
    split
    · exact .of_shrinks (.of_base (base_addInviteConn conf _ _ _ _ _))
    · exact .of_shrinks (.refl _)
  | inviteAccepted friendconId member otherGroupnum =>
    simp only [step, onFriendcon]
    split
    · exact .of_shrinks (.of_base (base_addInviteConn conf _ _ _ _ _))
    · exact .of_shrinks (.refl _)
  | rejoin friendconId =>
    simp only [step, onFriendcon]
    split
    · exact .of_shrinks (.of_base (base_addConnToGroupchat conf _ _ _))
    · exact .of_shrinks (.refl _)
  | sendRejoin realPk => exact .of_shrinks (.of_base (base_trySendRejoin conf env realPk))
  | packetOnline friendconId otherGroupnum =>
    simp only [step]
    split
    · exact .of_shrinks (.refl _)
    · exact .of_shrinks (.of_base (base_modifyConnection conf.g _ _))
  | offline friendconId => exact .of_shrinks (shrinks_setConnsTypeConnections conf env friendconId)
  | removeReason i reason =>
    simp only [step, onSlot]
    split
    · exact .of_shrinks (.of_base (base_removeConnectionReason conf i reason))
    · exact .of_shrinks (.refl _)
  | removeConnection i =>
    simp only [step, onSlot]
    split
    · exact .of_shrinks (.of_base (base_removeConnection conf i))
    · exact .of_shrinks (.refl _)
  | connectToClosest => exact .of_shrinks (.of_base (base_connectToClosest conf env))
  | cleanConnections => exact .of_shrinks (.of_base (base_cleanConnections conf))

end Conference

/-! ## From freezing to thawing -/

namespace GroupC

open GroupPeer Conference

/-- Steps after each of which a peer with the key `realPk` is frozen; others may change connections. -/
inductive StaysFrozen (realPk : PublicKey) : GroupC → GroupC → Prop where
  | refl (g : GroupC) : StaysFrozen realPk g g
  | step {g₁ g₂ : GroupC} (env : GroupEnv) (frC : FriendConnections) (input : ConferenceInput) :
    StaysFrozen realPk g₁ g₂ →
    (∃ peer ∈ (Conference.step env { g := g₂, frC } input).g.frozen, peer.realPk = realPk) →
    StaysFrozen realPk g₁ (Conference.step env { g := g₂, frC } input).g

variable {g : GroupC}

theorem PeerTable.eq_of_realPk (h : g.PeerTable) {p1 p2 : GroupPeer} (h1 : p1 ∈ g.peers) (h2 : p2 ∈ g.peers)
    (heq : p1.realPk = p2.realPk) : p1 = p2 :=
  inj_on_of_nodup_map h.realPk h1 h2 heq

theorem PeerTable.eq_of_peerNumber (h : g.PeerTable) {p1 p2 : GroupPeer} (h1 : p1 ∈ g.peers) (h2 : p2 ∈ g.peers)
    (heq : p1.peerNumber = p2.peerNumber) : p1 = p2 :=
  inj_on_of_nodup_map h.peerNumber h1 h2 heq

theorem StaysFrozen.kept {realPk : PublicKey} {g' : GroupC} (h : StaysFrozen realPk g g') (htable : g.PeerTable)
    {peer : GroupPeer} (hmem : peer ∈ g.frozen) (hkey : peer.realPk = realPk) :
    g'.PeerTable ∧ ∃ peer' ∈ g'.frozen, peer.Kept peer' := by
  induction h with
  | refl => exact ⟨htable, peer, hmem, .refl peer⟩
  | @step g2 env frC input _ hfrozen ih =>
    obtain ⟨htable2, peer2, hmem2, hkept2⟩ := ih
    have hstep := peerStep_step { g := g2, frC } env input
    obtain ⟨peer3, hmem3, hkey3⟩ := hfrozen
    -- the peer with this key is an old one, and there was only one
    obtain ⟨old, hold, hkept3⟩ := hstep.frozen htable2 peer3 hmem3
    have heq : old = peer2 := by
      apply htable2.eq_of_realPk hold (mem_append_right _ hmem2)
      rw [← hkept3.realPk, hkey3, hkept2.realPk, hkey]
    subst heq
    exact ⟨hstep.table htable2, peer3, hmem3, hkept2.trans hkept3⟩

theorem notePeerActive_frozen (htable : g.PeerTable) (env : GroupEnv) {peer : GroupPeer} (hmem : peer ∈ g.frozen) :
    ∃ peer', (g.notePeerActive env peer.peerNumber).1 = some g.group.length ∧
      (g.notePeerActive env peer.peerNumber).2.group = g.group ++ [peer'] ∧ peer.Kept peer' := by
  have hpeers : peer ∈ g.peers := mem_append_right _ hmem
  rcases g.notePeerActive_cases env peer.peerNumber with
    ⟨i, hi, -⟩ | ⟨-, hnone, -⟩ | ⟨i, old, g', -, hi, hold, heq, hgroup, -⟩
  · -- a peer in both lists would be there twice
    obtain ⟨active, hactive, hnumber⟩ := findIdx?_spec hi
    have hactive := mem_of_getElem? hactive
    obtain rfl : active = peer := htable.eq_of_peerNumber (mem_append_left _ hactive) hpeers
      (by simpa using hnumber)
    have hdisjoint := (nodup_append.mp htable.realPk.of_map).2.2
    exact absurd rfl (hdisjoint active hactive active hmem)
  · have hne := findIdx?_eq_none_iff.mp hnone peer hmem
    simp at hne
  · obtain ⟨found, hfound, hnumber⟩ := findIdx?_spec hi
    obtain rfl : old = found := by simpa [hold] using hfound
    obtain rfl : old = peer := htable.eq_of_peerNumber
      (mem_append_right _ (mem_of_getElem? hold)) hpeers (by simpa using hnumber)
    rw [heq]
    exact ⟨_, rfl, hgroup, ⟨rfl, rfl, rfl, rfl, rfl, rfl, rfl, rfl⟩⟩

end GroupC

/-! ## All conferences -/

namespace GroupChats

open GroupC

def Tables (gC : GroupChats) : Prop := ∀ g ∈ gC.chats, g.PeerTable

variable {gC : GroupChats}

variable {g : GroupC}

theorem peerTable_nil (hgroup : g.group = []) (hfrozen : g.frozen = []) :
    g.PeerTable := by
  constructor <;> simp [peers, hgroup, hfrozen]

theorem Tables.set (h : gC.Tables) (hg : g.PeerTable) (i : Nat) (frC : FriendConnections)
    : { gC with chats := gC.chats.set i g, frC }.Tables := by
  intro g' hmem
  rcases mem_or_eq_of_mem_set hmem with hmem | rfl
  · exact h g' hmem
  · exact hg

theorem Tables.modify (h : gC.Tables) {f : GroupC → GroupC} (hf : ∀ g : GroupC, g.Shrinks (f g))
    (i : Nat) : { gC with chats := gC.chats.modify i f }.Tables := by
  intro g' hmem
  obtain ⟨j, hj⟩ := mem_iff_getElem?.mp hmem
  simp only [getElem?_modify, Option.map_eq_map, Option.map_eq_some_iff] at hj
  obtain ⟨g, hg, rfl⟩ := hj
  have htable := h g (mem_of_getElem? hg)
  split
  · exact (hf g).peerTable htable
  · exact htable

theorem mem_of_getGroupC {groupnumber : Nat} (h : gC.getGroupC groupnumber = some g) :
    g ∈ gC.chats :=
  mem_of_getElem? (Option.filter_eq_some_iff.mp h).1

variable {gC' : GroupChats}

section

variable (h : gC.Tables)
include h

theorem tables_createGroupChat {i : Nat} (hcreate : gC.createGroupChat = .ok (i, gC'))
    : gC'.Tables := by
  unfold createGroupChat at hcreate
  split at hcreate
  · cases hcreate
    exact h
  · split at hcreate
    · cases hcreate
    · cases hcreate
      intro g hmem
      rcases mem_append.mp hmem with hmem | hmem
      · exact h g hmem
      · obtain rfl := mem_singleton.mp hmem
        exact peerTable_nil rfl rfl

theorem tables_onConference (groupnumber : Nat) {f : Conference → Conference}
    (hf : ∀ conf, Conference.PeerStep conf.g (f conf).g) :
    (gC.onConference groupnumber f).Tables := by
  unfold onConference
  cases hg : gC.getGroupC groupnumber with
  | none => exact h
  | some g => exact h.set ((hf { g, frC := gC.frC }).table (h g (mem_of_getGroupC hg))) groupnumber _

theorem tables_addSelf (env : GroupEnv) (groupnumber : Nat) (peerNumber : UInt16) :
    (gC.addSelf env groupnumber peerNumber).2.Tables := by
  unfold addSelf
  cases hg : gC.getGroupC groupnumber with
  | none => exact h
  | some g =>
    have hadd := Conference.peerStep_addpeer { g, frC := gC.frC } env g.realPk gC.dhtPublicKey peerNumber true
    have htable := hadd.table (h g (mem_of_getGroupC hg))
    dsimp only
    split
    · rename_i conf heq
      rw [heq] at htable
      exact h.set htable groupnumber _
    · rename_i peerIndex conf heq
      rw [heq] at htable
      exact h.set ((Conference.peerStep_setnick conf.g peerIndex gC.name).table htable) groupnumber _

theorem tables_addGroupchat {env : GroupEnv} {type : UInt8} {id : PublicKey}
    (hadd : gC.addGroupchat env type id = .ok gC') : gC'.Tables := by
  unfold addGroupchat at hadd
  cases hcreate : gC.createGroupChat with
  | error => simp [hcreate, bind, Except.bind] at hadd
  | ok r =>
    rw [hcreate] at hadd
    cases hadd
    apply tables_addSelf
    apply (tables_createGroupChat h hcreate).modify
    exact fun g => .of_eq rfl rfl

theorem tables_joinGroupchat {friendconId : Option Nat} {sent : Bool} {type : UInt8} {id : PublicKey}
    {otherGroupnum : UInt16} (hjoin : gC.joinGroupchat friendconId sent type id otherGroupnum = .ok gC')
    : gC'.Tables := by
  unfold joinGroupchat at hjoin
  split at hjoin
  · cases hjoin
    exact h
  · split at hjoin
    · cases hjoin
      exact h
    · cases hcreate : gC.createGroupChat with
      | error => simp [hcreate, bind, Except.bind] at hjoin
      | ok r =>
        rw [hcreate] at hjoin
        have htables := tables_createGroupChat h hcreate
        cases sent with
        | false =>
          cases hjoin
          apply htables.modify
          exact fun g => .of_eq rfl rfl
        | true =>
          cases hjoin
          apply tables_onConference
          · apply htables.modify
            exact fun g => .of_eq rfl rfl
          · exact fun conf => .of_shrinks (.of_base (Conference.base_addInviteConn conf _ _ _ _ _))

theorem tables_delGroupchat (groupnumber : Nat) : (gC.delGroupchat groupnumber).Tables := by
  unfold delGroupchat wipeGroupChat
  split
  · exact h
  · dsimp only
    split
    · exact h
    · intro g hmem
      have hmem := ( rdropWhile_prefix _ _).subset hmem
      exact h.set (peerTable_nil rfl rfl) groupnumber gC.frC g hmem

end

end GroupChats

theorem tables_step {s s' : GroupState} {env : GroupEnv} {input : GroupInput} (h : s.gC.Tables)
    (hstep : s.step env input = .ok s') : s'.gC.Tables := by
  cases input with
  | addGroupchat type id =>
    simp only [GroupState.step] at hstep
    cases hadd : s.gC.addGroupchat env type id with
    | error => simp [hadd, bind, Except.bind] at hstep
    | ok gC =>
      rw [hadd] at hstep
      cases hstep
      exact GroupChats.tables_addGroupchat h hadd
  | joinGroupchat i sent type id otherGroupnum =>
    simp only [GroupState.step] at hstep
    cases hjoin : s.gC.joinGroupchat s.friends[i]? sent type id otherGroupnum with
    | error => simp [hjoin, bind, Except.bind] at hstep
    | ok gC =>
      rw [hjoin] at hstep
      cases hstep
      exact GroupChats.tables_joinGroupchat h hjoin
  | delGroupchat groupnumber =>
    cases hstep
    exact GroupChats.tables_delGroupchat h groupnumber
  | conference groupnumber input =>
    cases hstep
    exact GroupChats.tables_onConference h groupnumber fun conf => Conference.peerStep_step conf env input
  | addFriend realPk =>
    simp only [GroupState.step] at hstep
    split at hstep <;> cases hstep <;> exact h
  | delFriend i =>
    simp only [GroupState.step] at hstep
    split at hstep <;> cases hstep <;> exact h

theorem tables_of_reachable {s : GroupState} (h : groupSystem.Reachable s) : s.gC.Tables := by
  refine h.invariant (P := fun s => s.gC.Tables) ?_ ?_
  · rintro s ⟨hchats, -, -⟩ g hmem
    rw [hchats] at hmem
    exact absurd hmem not_mem_nil
  · rintro s s' hs ⟨env, input, hstep⟩
    exact tables_step hs hstep

/-- No two peers, active or frozen, have one key or number, at most `maxfrozen` are frozen, and a frozen peer keeps
    what belongs to it. -/
theorem peerTable_of_reachable {s : GroupState} (h : groupSystem.Reachable s) {g : GroupC}
    (hg : g ∈ s.gC.chats) :
    g.PeerTable ∧
    ∀ (env : GroupEnv) (frC : FriendConnections) (peerIndex : Nat) (peer : GroupPeer),
      g.group[peerIndex]? = some peer →
      (Conference.freezePeer { g, frC } env peerIndex).g.frozen.length ≤
        (Conference.freezePeer { g, frC } env peerIndex).g.maxfrozen.toNat ∧
      (peer ∈ (Conference.freezePeer { g, frC } env peerIndex).g.frozen →
        ∀ g', GroupC.StaysFrozen peer.realPk (Conference.freezePeer { g, frC } env peerIndex).g g' →
        ∀ env', ∃ peer', (g'.notePeerActive env' peer.peerNumber).1 = some g'.group.length ∧
          (g'.notePeerActive env' peer.peerNumber).2.group = g'.group ++ [peer'] ∧
          peer.Kept peer') := by
  have htable := tables_of_reachable h g hg
  refine ⟨htable, fun env frC peerIndex peer hpeer => ⟨?_, ?_⟩⟩
  · obtain ⟨g1, heq, -, -, -⟩ := Conference.freezePeer_spec { g, frC } env hpeer
    rw [heq]
    exact GroupC.length_deleteOldFrozen_le g1
  · intro hmem g' hstays env'
    have htable' := (Conference.shrinks_freezePeer { g, frC } env peerIndex).peerTable htable
    obtain ⟨htable'', frozen, hfrozen, hkept⟩ := hstays.kept htable' hmem rfl
    obtain ⟨thawed, hindex, hgroup, hthawed⟩ := GroupC.notePeerActive_frozen htable'' env' hfrozen
    rw [← hkept.peerNumber]
    exact ⟨thawed, hindex, hgroup, hkept.trans hthawed⟩

def twoPeers : GroupState := emptyGroupState.run quietEnv
  [.addGroupchat 0 (Vector.replicate _ 7),
    .conference 0 (.addpeer (Vector.replicate _ 2) (Vector.replicate _ 3) 1 true)]

def twoPeersConference : GroupC := twoPeers.gC.chats.headD emptyGroupC

/-- The second peer is frozen and thawed. -/
theorem peerTable_twoPeers :
    twoPeersConference.PeerTable ∧ twoPeersConference.group.length = 2 ∧
      ∃ peer', ((Conference.freezePeer { g := twoPeersConference, frC := { conns := [] } } quietEnv
        1).g.notePeerActive quietEnv 1).2.group.getLast? = some peer' ∧
        (twoPeersConference.group.getLastD emptyGroupPeer).Kept peer' := by
  have hreach : groupSystem.Reachable twoPeers :=
    GroupState.reachable_run quietEnv (.init ⟨rfl, rfl, rfl⟩) _
  have hmem : twoPeersConference ∈ twoPeers.gC.chats := List.headD_mem (by decide +kernel)
  obtain ⟨htable, hfreeze⟩ := peerTable_of_reachable hreach hmem
  have hlength : twoPeersConference.group.length = 2 := by decide +kernel
  have hlast : twoPeersConference.group[1]? = some (twoPeersConference.group.getLastD emptyGroupPeer) := by
    have hlt : 1 < twoPeersConference.group.length := by omega
    rw [getLastD_eq_getLast?, getLast?_eq_getElem?, hlength, getElem?_eq_getElem hlt]
    rfl
  have hroom : twoPeersConference.frozen.length < twoPeersConference.maxfrozen.toNat := by decide +kernel
  refine ⟨htable, hlength, ?_⟩
  obtain ⟨-, hthaw⟩ := hfreeze quietEnv { conns := [] } 1
    (twoPeersConference.group.getLastD emptyGroupPeer) hlast
  have hfrozen := Conference.mem_frozen_freezePeer { g := twoPeersConference, frC := { conns := [] } } quietEnv
    hlast hroom
  obtain ⟨peer', -, hgroup, hkept⟩ := hthaw hfrozen _ (.refl _) quietEnv
  have hnumber : (twoPeersConference.group.getLastD emptyGroupPeer).peerNumber = 1 := by
    decide +kernel
  rw [hnumber] at hgroup
  exact ⟨peer', by rw [hgroup, getLast?_concat], hkept⟩

end Toxcore

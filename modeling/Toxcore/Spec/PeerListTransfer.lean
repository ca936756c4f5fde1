import Mathlib.Data.UInt
import Toxcore.Native.PeerResponse
import Toxcore.Spec.PeerTable

/-!
# Transferring the peers of a conference

Handling the packets of `send_peers` adds the peers of the sender one after the other.  `addpeer` gives up on
a record whose number belongs to a frozen peer, even to the right one, and the rest of the packet is lost.
-/

namespace Toxcore

open List

/-! ## Packets -/

def packPeers (peers : List GroupPeer) : Bytes := peerResponseId :: peers.flatMap peerRecord

theorem length_peerRecord (peer : GroupPeer) :
    (peerRecord peer).length = 2 + cryptoPublicKeySize * 2 + 1 + peer.nick.1.length := by
  rw [peerRecord, length_append, length_append, length_append, length_cons, length_netPackU16,
    Vector.length_toList, Vector.length_toList]
  omega

/-- The packets of `send_peers` hold the records of all peers; no packet is without a record. -/
theorem sendPeersLoop_chunks (peers : List GroupPeer) (i : Nat) (chunk : List GroupPeer) (sent : Nat) :
    ∃ (n : Nat) (chunks : List (List GroupPeer)), sendPeersLoop (fun _ => true) peers i (packPeers chunk) sent = (true, n, chunks.map packPeers) ∧
      chunks.flatten = chunk ++ peers ∧ (chunk ++ peers ≠ [] → ∀ c ∈ chunks, c ≠ []) := by
  induction peers generalizing i chunk sent with
  | nil =>
    refine ⟨i, [chunk], rfl, by rw [flatten_singleton, append_nil], ?_⟩
    intro hne c hc
    rw [mem_singleton.mp hc]
    rwa [append_nil] at hne
  | cons peer peers ih =>
    have happend : packPeers chunk ++ peerRecord peer = packPeers (chunk ++ [peer]) := by
      rw [packPeers, packPeers, flatMap_append, flatMap_singleton, cons_append]
    rw [sendPeersLoop]
    split
    · -- the packet is full, and so it has a record
      rename_i hfull
      have hchunk : chunk ≠ [] := by
        intro hnil
        have hnick : peer.nick.1.length ≤ maxNameLength := peer.nick.2
        have hone : (packPeers []).length = 1 := rfl
        have hsize : responsePacketSize = 1370 := rfl
        have hmax : maxNameLength = 128 := rfl
        have hkey : cryptoPublicKeySize = 32 := rfl
        rw [hnil] at hfull
        omega
      obtain ⟨n, chunks, hloop, hflatten, hne⟩ := ih (i + 1) [peer] i
      have hsingle : peerResponseId :: peerRecord peer = packPeers [peer] := by
        rw [packPeers, flatMap_singleton]
      rw [hsingle, hloop]
      refine ⟨n, chunk :: chunks, rfl, by rw [flatten_cons, hflatten]; rfl, ?_⟩
      intro _ c hc
      cases mem_cons.mp hc with
      | inl hc => rwa [hc]
      | inr hc => exact hne (cons_ne_nil _ _) c hc
    · rw [happend]
      obtain ⟨n, chunks, hloop, hflatten, hne⟩ := ih (i + 1) (chunk ++ [peer]) sent
      rw [append_assoc] at hflatten hne
      exact ⟨n, chunks, hloop, hflatten, hne⟩

namespace Conference

variable (conf : Conference) (env : GroupEnv) (selfPublicKey : PublicKey)

/-! ## Records -/

/-- What `handle_send_peers` does with the record of a peer. -/
def handlePeer (peer : GroupPeer) : Bool × Conference :=
  match (conf.noteOwnNumber selfPublicKey peer.realPk peer.peerNumber).addpeer env peer.realPk peer.tempPk
      peer.peerNumber false with
  | (none, conf) => (false, conf)
  | (some peerIndex, conf) =>
    (true, if conf.g.group[peerIndex]?.any (·.nickUpdated) then conf
      else { conf with g := conf.g.setnick peerIndex peer.nick })

theorem handlePeerRecord_append (peer : GroupPeer) (rest : Bytes) :
    conf.handlePeerRecord env selfPublicKey (peerRecord peer ++ rest) =
      (if (conf.handlePeer env selfPublicKey peer).1 then some rest else none,
        (conf.handlePeer env selfPublicKey peer).2) := by
  have hnick : peer.nick.1.length ≤ maxNameLength := peer.nick.2
  have hmax : maxNameLength = 128 := rfl
  have hbyte : (UInt8.ofNat peer.nick.1.length).toNat = peer.nick.1.length := by
    rw [UInt8.toNat_ofNat']
    omega
  have hdata : peerRecord peer ++ rest = netPackU16 peer.peerNumber ++ (peer.realPk.toList ++ (peer.tempPk.toList ++
      (UInt8.ofNat peer.nick.1.length :: (peer.nick.1 ++ rest)))) := by
    rw [peerRecord, append_assoc, append_assoc, append_assoc, cons_append]
  -- the parts of the record, one after the other
  generalize hrecord : peerRecord peer ++ rest = data at hdata ⊢
  have hnumber : netUnpackU16 data = peer.peerNumber := by
    rw [hdata, netUnpackU16_netPackU16_append]
  have hkeys : data.drop 2 = peer.realPk.toList ++ (peer.tempPk.toList ++
      (UInt8.ofNat peer.nick.1.length :: (peer.nick.1 ++ rest))) := by
    rw [hdata, drop_left' (length_netPackU16 _)]
  have htemp : data.drop (2 + cryptoPublicKeySize) = peer.tempPk.toList ++
      (UInt8.ofNat peer.nick.1.length :: (peer.nick.1 ++ rest)) := by
    rw [← drop_drop, hkeys, drop_left' Vector.length_toList]
  have hname : data.drop (2 + cryptoPublicKeySize * 2) =
      UInt8.ofNat peer.nick.1.length :: (peer.nick.1 ++ rest) := by
    have hsum : 2 + cryptoPublicKeySize * 2 = 2 + cryptoPublicKeySize + cryptoPublicKeySize := by omega
    rw [hsum, ← drop_drop, htemp, drop_left' Vector.length_toList]
  have hlength : data.getD (2 + cryptoPublicKeySize * 2) 0 = UInt8.ofNat peer.nick.1.length := by
    rw [getD_eq_getElem?_getD, ← head?_drop, hname, head?_cons, Option.getD_some]
  have hbytes : data.drop (2 + cryptoPublicKeySize * 2 + 1) = peer.nick.1 ++ rest := by
    rw [← drop_drop, hname, drop_succ_cons, drop_zero]
  have htake : Name.take (peer.nick.1 ++ rest) peer.nick.1.length hnick = peer.nick :=
    Subtype.ext take_left
  rw [handlePeerRecord, handlePeer, hnumber, hkeys, htemp, hlength, hbytes, bytesToVector_toList_append,
    bytesToVector_toList_append]
  simp only [hbyte]
  cases (conf.noteOwnNumber selfPublicKey peer.realPk peer.peerNumber).addpeer env peer.realPk peer.tempPk
      peer.peerNumber false with
  | mk peerIndex conf' =>
    cases peerIndex with
    | none => rfl
    | some peerIndex =>
      dsimp only
      rw [if_neg (by rw [length_append]; omega), dif_pos hnick, htake, drop_left, if_pos rfl]

/-- Handle records one after the other, each at its own time, up to the first one with an error. -/
def handlePeers : Conference → List (GroupEnv × GroupPeer) → Bool × Conference
  | conf, [] => (true, conf)
  | conf, (env, peer) :: records =>
    if (conf.handlePeer env selfPublicKey peer).1 then
      handlePeers (conf.handlePeer env selfPublicKey peer).2 records
    else (false, (conf.handlePeer env selfPublicKey peer).2)

theorem handlePeers_append (records records' : List (GroupEnv × GroupPeer)) :
    conf.handlePeers selfPublicKey (records ++ records') =
      if (conf.handlePeers selfPublicKey records).1 then
        (conf.handlePeers selfPublicKey records).2.handlePeers selfPublicKey records'
      else (false, (conf.handlePeers selfPublicKey records).2) := by
  induction records generalizing conf with
  | nil => rfl
  | cons record records ih =>
    rw [cons_append, handlePeers, handlePeers]
    split
    · exact ih _
    · rfl

theorem handleSendPeersLoop_records (peers : List GroupPeer) (fuel : Nat)
    (hfuel : (peers.flatMap peerRecord).length ≤ fuel) :
    handleSendPeersLoop env selfPublicKey fuel conf (peers.flatMap peerRecord) =
      conf.handlePeers selfPublicKey (peers.map (fun peer => (env, peer))) := by
  induction peers generalizing conf fuel with
  | nil =>
    cases fuel with
    | zero => rfl
    | succ fuel => rfl
  | cons peer peers ih =>
    have hlength : ((peer :: peers).flatMap peerRecord).length =
        (peerRecord peer).length + (peers.flatMap peerRecord).length := by
      rw [flatMap_cons, length_append]
    have hrecord := length_peerRecord peer
    cases fuel with
    | zero => omega
    | succ fuel =>
      rw [handleSendPeersLoop, if_pos (by omega), flatMap_cons, handlePeerRecord_append, map_cons,
        handlePeers]
      split
      · rename_i conf' heq
        obtain ⟨hrest, hconf⟩ := Prod.mk.inj heq
        split at hrest
        · cases hrest
        · rename_i hfailed
          rw [if_neg hfailed, hconf]
      · rename_i rest conf' heq
        obtain ⟨hrest, hconf⟩ := Prod.mk.inj heq
        split at hrest
        · rename_i hdone
          rw [if_pos hdone, ← Option.some.inj hrest, hconf]
          exact ih _ fuel (by omega)
        · cases hrest

/-- `handle_send_peers` handles the records of a packet with at least one. -/
theorem handleSendPeers_pack {peers : List GroupPeer} (h : peers ≠ []) :
    conf.handleSendPeers env selfPublicKey ((packPeers peers).drop 1) =
      conf.handlePeers selfPublicKey (peers.map (fun peer => (env, peer))) := by
  have hdrop : (packPeers peers).drop 1 = peers.flatMap peerRecord := rfl
  have hpos : (peers.flatMap peerRecord).length ≠ 0 := by
    cases peers with
    | nil => exact absurd rfl h
    | cons peer peers =>
      have hrecord := length_peerRecord peer
      rw [flatMap_cons, length_append]
      omega
  rw [handleSendPeers, hdrop, if_neg hpos]
  exact handleSendPeersLoop_records conf env selfPublicKey peers _ le_rfl

theorem handleResponses_pack (chunks : List (GroupEnv × List GroupPeer)) (h : ∀ chunk ∈ chunks, chunk.2 ≠ []) :
    (conf.handleResponses selfPublicKey (chunks.map (fun chunk => (chunk.1, packPeers chunk.2)))).1 =
        (conf.handlePeers selfPublicKey
          (chunks.flatMap (fun chunk => chunk.2.map (fun peer => (chunk.1, peer))))).1 ∧
      ((conf.handlePeers selfPublicKey
          (chunks.flatMap (fun chunk => chunk.2.map (fun peer => (chunk.1, peer))))).1 = true →
        (conf.handleResponses selfPublicKey (chunks.map (fun chunk => (chunk.1, packPeers chunk.2)))).2 =
          (conf.handlePeers selfPublicKey
            (chunks.flatMap (fun chunk => chunk.2.map (fun peer => (chunk.1, peer))))).2) := by
  induction chunks generalizing conf with
  | nil => exact ⟨rfl, fun _ => rfl⟩
  | cons chunk chunks ih =>
    obtain ⟨env, peers⟩ := chunk
    have hpeers : peers ≠ [] := h (env, peers) mem_cons_self
    rw [map_cons, flatMap_cons, handlePeers_append, handleResponses]
    dsimp only
    rw [handleSendPeers_pack conf env selfPublicKey hpeers]
    generalize conf.handlePeers selfPublicKey (peers.map (fun peer => (env, peer))) = handled
    obtain ⟨hfst, hsnd⟩ := ih handled.2 (fun chunk hchunk => h chunk (mem_cons_of_mem _ hchunk))
    cases hdone : handled.1 with
    | false => exact ⟨Bool.false_and _, fun hfalse => absurd hfalse Bool.false_ne_true⟩
    | true => exact ⟨(Bool.true_and _).trans hfst, hsnd⟩

end Conference

/-! ## Peers -/

namespace GroupC

open GroupPeer

def Active (g : GroupC) (peer : GroupPeer) : Prop := peer.ident ∈ g.group.map ident

def Frozen (g : GroupC) (peer : GroupPeer) : Prop := peer.ident ∈ g.frozen.map ident

variable {g : GroupC} {q q' : GroupPeer}

theorem PeerTable.realPk_ne (h : g.PeerTable) (hq : q ∈ g.group) (hq' : q' ∈ g.frozen) : q.realPk ≠ q'.realPk := by
  have hnodup := h.realPk
  rw [peers, map_append, nodup_append'] at hnodup
  intro heq
  have hleft : q.realPk ∈ g.group.map (·.realPk) := mem_map_of_mem hq
  have hright : q'.realPk ∈ g.frozen.map (·.realPk) := mem_map_of_mem hq'
  rw [← heq] at hright
  exact hnodup.2.2 hleft hright

end GroupC

namespace Conference

open GroupC GroupPeer

variable (conf : Conference) (env : GroupEnv)

theorem mem_deleteAnyPeerWithPk (h : conf.g.PeerTable) (realPk : PublicKey) (q : GroupPeer) :
    (q ∈ (conf.deleteAnyPeerWithPk realPk).g.group ↔ q ∈ conf.g.group ∧ q.realPk ≠ realPk) ∧
      (q ∈ (conf.deleteAnyPeerWithPk realPk).g.frozen ↔ q ∈ conf.g.frozen ∧ q.realPk ≠ realPk) := by
  have hkeys := h.realPk
  rw [peers, map_append] at hkeys
  -- first the active peers, then the frozen ones
  have hactive : (q ∈ (conf.deleteActivePeerWithPk realPk).g.group ↔ q ∈ conf.g.group ∧ q.realPk ≠ realPk) ∧
      (conf.deleteActivePeerWithPk realPk).g.frozen = conf.g.frozen := by
    rw [deleteActivePeerWithPk]
    cases hfind : conf.g.peerInGroup realPk with
    | none =>
      refine ⟨⟨fun hq => ⟨hq, ?_⟩, fun hq => hq.1⟩, rfl⟩
      simpa using findIdx?_eq_none_iff.mp hfind q hq
    | some i =>
      obtain ⟨peer, hpeer, hpk⟩ := findIdx?_spec hfind
      have hpk : peer.realPk = realPk := eq_of_beq hpk
      have hgroup : (conf.delpeer i).g.group = swapRemove conf.g.group i :=
        (congrArg GroupC.group (conf.delpeer_spec hpeer) :)
      have hfrozen : (conf.delpeer i).g.frozen = conf.g.frozen :=
        (congrArg GroupC.frozen (conf.delpeer_spec hpeer) :)
      constructor
      · rw [hgroup, mem_swapRemove hkeys.of_append_left hpeer, hpk]
      · exact hfrozen
  obtain ⟨hgroup, hfrozen⟩ := hactive
  rw [deleteAnyPeerWithPk]
  generalize conf.deleteActivePeerWithPk realPk = c at hgroup hfrozen
  cases hfind : c.g.frozenInGroup realPk with
  | none =>
    refine ⟨hgroup, ⟨fun hq => ⟨hfrozen ▸ hq, ?_⟩, fun hq => hfrozen ▸ hq.1⟩⟩
    simpa using findIdx?_eq_none_iff.mp hfind q hq
  | some i =>
    obtain ⟨peer, hpeer, hpk⟩ := findIdx?_spec hfind
    have hpk : peer.realPk = realPk := eq_of_beq hpk
    have hi : i < c.g.frozen.length := (List.getElem?_eq_some_iff.mp hpeer).1
    have hdelete : (c.g.deleteFrozen i).2 = { c.g with frozen := swapRemove c.g.frozen i } := by
      rw [deleteFrozen, if_neg (Nat.not_le_of_lt hi)]
    rw [hfrozen] at hpeer
    constructor
    · show q ∈ (c.g.deleteFrozen i).2.group ↔ _
      rw [hdelete]
      exact hgroup
    · show q ∈ (c.g.deleteFrozen i).2.frozen ↔ _
      rw [hdelete]
      rw [hfrozen, mem_swapRemove hkeys.of_append_right hpeer, hpk]

theorem addpeer_cases (realPk tempPk : PublicKey) (peerNumber : UInt16) :
    (∃ i peer, conf.g.group[i]? = some peer ∧ peer.peerNumber = peerNumber ∧
      conf.addpeer env realPk tempPk peerNumber false = conf.updatePeer i peer realPk tempPk false) ∨
    (∃ peer ∈ conf.g.frozen, (∀ other ∈ conf.g.group, other.peerNumber ≠ peerNumber) ∧
      peer.peerNumber = peerNumber ∧ (conf.addpeer env realPk tempPk peerNumber false).1 = none) ∨
    ((∀ peer ∈ conf.g.peers, peer.peerNumber ≠ peerNumber) ∧
      conf.addpeer env realPk tempPk peerNumber false = conf.addNewPeer env realPk tempPk peerNumber) := by
  unfold addpeer
  simp only [Bool.false_eq_true, if_false]
  cases hgroup : conf.g.getPeerIndex peerNumber with
  | some i =>
    obtain ⟨peer, hpeer, hnumber⟩ := findIdx?_spec hgroup
    simp only [hpeer]
    exact .inl ⟨i, peer, hpeer, eq_of_beq hnumber, rfl⟩
  | none =>
    right
    cases hfrozen : conf.g.getFrozenIndex peerNumber with
    | some i =>
      obtain ⟨peer, hpeer, hnumber⟩ := findIdx?_spec hfrozen
      refine .inl ⟨peer, mem_of_getElem? hpeer, ?_, eq_of_beq hnumber, rfl⟩
      intro other hother
      simpa using findIdx?_eq_none_iff.mp hgroup other hother
    | none => exact .inr ⟨peerNumber_ne hgroup hfrozen, rfl⟩

structure Added (g : GroupC) (realPk : PublicKey) (peerNumber : UInt16) (g' : GroupC) : Prop where
  group : ∀ id, id ∈ g'.group.map ident ↔ id = (realPk, peerNumber) ∨ (id ∈ g.group.map ident ∧ id.1 ≠ realPk)
  frozen : ∀ id, id ∈ g'.frozen.map ident ↔ id ∈ g.frozen.map ident ∧ id.1 ≠ realPk

theorem added_addNewPeer (h : conf.g.PeerTable) (realPk tempPk : PublicKey) (peerNumber : UInt16) :
    Added conf.g realPk peerNumber (conf.addNewPeer env realPk tempPk peerNumber).2.g := by
  obtain ⟨hgroup, hfrozen⟩ := conf.addNewPeer_spec env realPk tempPk peerNumber
  constructor
  · intro id
    rw [hgroup, map_append, mem_append, or_comm]
    apply or_congr
    · exact mem_singleton
    · constructor
      · intro hid
        obtain ⟨q, hq, rfl⟩ := mem_map.mp hid
        have hq := (conf.mem_deleteAnyPeerWithPk h realPk q).1.mp hq
        exact ⟨mem_map_of_mem hq.1, hq.2⟩
      · intro h'
        obtain ⟨hid, hne⟩ := h'
        obtain ⟨q, hq, rfl⟩ := mem_map.mp hid
        exact mem_map_of_mem ((conf.mem_deleteAnyPeerWithPk h realPk q).1.mpr ⟨hq, hne⟩)
  · intro id
    rw [hfrozen]
    constructor
    · intro hid
      obtain ⟨q, hq, rfl⟩ := mem_map.mp hid
      have hq := (conf.mem_deleteAnyPeerWithPk h realPk q).2.mp hq
      exact ⟨mem_map_of_mem hq.1, hq.2⟩
    · intro h'
      obtain ⟨hid, hne⟩ := h'
      obtain ⟨q, hq, rfl⟩ := mem_map.mp hid
      exact mem_map_of_mem ((conf.mem_deleteAnyPeerWithPk h realPk q).2.mpr ⟨hq, hne⟩)

theorem added_of_active {g g' : GroupC} {peer : GroupPeer} (h : g.PeerTable) (hpeer : peer ∈ g.group)
    (hgroup : g'.group.map ident = g.group.map ident) (hfrozen : g'.frozen = g.frozen) :
    Added g peer.realPk peer.peerNumber g' := by
  constructor
  · intro id
    rw [hgroup]
    constructor
    · intro hid
      obtain ⟨q, hq, rfl⟩ := mem_map.mp hid
      by_cases heq : q.realPk = peer.realPk
      · left
        rw [h.eq_of_realPk (mem_append_left _ hq) (mem_append_left _ hpeer) heq]
        rfl
      · exact .inr ⟨hid, heq⟩
    · intro hid
      cases hid with
      | inl hid => rw [hid]; exact mem_map_of_mem hpeer
      | inr hid => exact hid.1
  · intro id
    rw [hfrozen]
    constructor
    · intro hid
      obtain ⟨q, hq, rfl⟩ := mem_map.mp hid
      exact ⟨hid, (h.realPk_ne hpeer hq).symm⟩
    · exact fun hid => hid.1

theorem Added.congr {g g1 g2 : GroupC} {realPk : PublicKey} {peerNumber : UInt16}
    (h : Added g realPk peerNumber g1) (hgroup : g2.group.map ident = g1.group.map ident)
    (hfrozen : g2.frozen = g1.frozen) : Added g realPk peerNumber g2 := by
  constructor
  · rw [hgroup]
    exact h.group
  · rw [hfrozen]
    exact h.frozen

theorem updatePeer_fst (i : Nat) (peer : GroupPeer) (realPk tempPk : PublicKey) (fresh : Bool) :
    (conf.updatePeer i peer realPk tempPk fresh).1.isSome ↔ peer.realPk = realPk := by
  rw [updatePeer]
  split
  · rename_i hne
    exact ⟨fun h => absurd h Bool.false_ne_true, fun h => absurd h hne⟩
  · rename_i heq
    split
    · exact ⟨fun _ => not_not.mp heq, fun _ => rfl⟩
    · exact ⟨fun _ => not_not.mp heq, fun _ => rfl⟩

theorem updatePeer_ident (i : Nat) (peer : GroupPeer) (realPk tempPk : PublicKey) (fresh : Bool) :
    (conf.updatePeer i peer realPk tempPk fresh).2.g.group.map ident = conf.g.group.map ident ∧
      (conf.updatePeer i peer realPk tempPk fresh).2.g.frozen = conf.g.frozen := by
  rw [updatePeer]
  split
  · exact ⟨rfl, rfl⟩
  · split
    · constructor
      · apply List.map_modify_of_eq
        exact fun _ => rfl
      · rfl
    · exact ⟨rfl, rfl⟩

theorem addpeer_spec (h : conf.g.PeerTable) (peer : GroupPeer) :
    ((conf.addpeer env peer.realPk peer.tempPk peer.peerNumber false).1.isSome ↔
        Active conf.g peer ∨ ∀ q ∈ conf.g.peers, q.peerNumber ≠ peer.peerNumber) ∧
      ((conf.addpeer env peer.realPk peer.tempPk peer.peerNumber false).1.isSome →
        Added conf.g peer.realPk peer.peerNumber
          (conf.addpeer env peer.realPk peer.tempPk peer.peerNumber false).2.g) := by
  -- an active peer with the number of the record has its key
  have hactive : ∀ other ∈ conf.g.peers, other.peerNumber = peer.peerNumber → Active conf.g peer →
      other ∈ conf.g.group ∧ other.realPk = peer.realPk := by
    intro other hother hnumber hpeer
    obtain ⟨q, hq, hident⟩ := mem_map.mp hpeer
    obtain ⟨hkey, hq_number⟩ := Prod.mk.inj hident
    rw [h.eq_of_peerNumber hother (mem_append_left _ hq) (hnumber.trans hq_number.symm)]
    exact ⟨hq, hkey⟩
  obtain ⟨i, other, hother, hnumber, heq⟩ | ⟨other, hother, hgroup, hnumber, heq⟩ | ⟨hfree, heq⟩ :=
    conf.addpeer_cases env peer.realPk peer.tempPk peer.peerNumber
  · -- an active peer has the number
    have hmem : other ∈ conf.g.group := mem_of_getElem? hother
    rw [heq, updatePeer_fst]
    constructor
    · constructor
      · intro hkey
        left
        exact mem_map.mpr ⟨other, hmem, Prod.ext hkey hnumber⟩
      · intro hcond
        cases hcond with
        | inl hpeer => exact (hactive other (mem_append_left _ hmem) hnumber hpeer).2
        | inr hfree => exact absurd hnumber (hfree other (mem_append_left _ hmem))
    · intro hkey
      obtain ⟨hident, hfrozen⟩ := conf.updatePeer_ident i other peer.realPk peer.tempPk false
      have hadded := added_of_active h hmem hident hfrozen
      rwa [hkey, hnumber] at hadded
  · -- a frozen peer has the number
    rw [heq]
    constructor
    · constructor
      · exact fun hsome => absurd hsome Bool.false_ne_true
      · intro hcond
        cases hcond with
        | inl hpeer =>
          exact absurd hnumber (hgroup other (hactive other (mem_append_right _ hother) hnumber hpeer).1)
        | inr hfree => exact absurd hnumber (hfree other (mem_append_right _ hother))
    · exact fun hsome => absurd hsome Bool.false_ne_true
  · rw [heq]
    exact ⟨⟨fun _ => .inr hfree, fun _ => rfl⟩, fun _ => conf.added_addNewPeer env h _ _ _⟩

theorem noteOwnNumber_peers (selfPublicKey realPk : PublicKey) (peerNumber : UInt16) :
    (conf.noteOwnNumber selfPublicKey realPk peerNumber).g.group = conf.g.group ∧
      (conf.noteOwnNumber selfPublicKey realPk peerNumber).g.frozen = conf.g.frozen := by
  rw [noteOwnNumber]
  split
  · exact ⟨rfl, rfl⟩
  · exact ⟨rfl, rfl⟩

theorem handlePeer_spec (h : conf.g.PeerTable) (selfPublicKey : PublicKey) (peer : GroupPeer) :
    ((conf.handlePeer env selfPublicKey peer).1 = true ↔
        Active conf.g peer ∨ ∀ q ∈ conf.g.peers, q.peerNumber ≠ peer.peerNumber) ∧
      ((conf.handlePeer env selfPublicKey peer).1 = true →
        (conf.handlePeer env selfPublicKey peer).2.g.PeerTable ∧
          Added conf.g peer.realPk peer.peerNumber (conf.handlePeer env selfPublicKey peer).2.g) := by
  -- finding the own number does not change the peers
  obtain ⟨hgroup, hfrozen⟩ := conf.noteOwnNumber_peers selfPublicKey peer.realPk peer.peerNumber
  have hpeers : (conf.noteOwnNumber selfPublicKey peer.realPk peer.peerNumber).g.peers = conf.g.peers := by
    rw [peers, hgroup, hfrozen]
    rfl
  have htable := (Shrinks.of_eq hgroup hfrozen).peerTable h
  rw [handlePeer]
  generalize conf.noteOwnNumber selfPublicKey peer.realPk peer.peerNumber = c at hgroup hfrozen hpeers htable
  obtain ⟨hsome, hadded⟩ := c.addpeer_spec env htable peer
  have hstep := (c.peerStep_addpeer env peer.realPk peer.tempPk peer.peerNumber false).table htable
  have hactive : Active c.g peer ↔ Active conf.g peer := by rw [Active, Active, hgroup]
  rw [hactive, hpeers] at hsome
  cases hadd : c.addpeer env peer.realPk peer.tempPk peer.peerNumber false with
  | mk peerIndex conf' =>
    rw [hadd] at hsome hadded hstep
    cases peerIndex with
    | none =>
      constructor
      · exact ⟨fun hfalse => absurd hfalse Bool.false_ne_true, fun hcond => absurd (hsome.mpr hcond) Bool.false_ne_true⟩
      · exact fun hfalse => absurd hfalse Bool.false_ne_true
    | some peerIndex =>
      have hadded : Added conf.g peer.realPk peer.peerNumber conf'.g := by
        have hadded := hadded rfl
        constructor
        · rw [← hgroup]
          exact hadded.group
        · rw [← hfrozen]
          exact hadded.frozen
      refine ⟨⟨fun _ => hsome.mp rfl, fun _ => rfl⟩, fun _ => ?_⟩
      dsimp only
      split
      · exact ⟨hstep, hadded⟩
      · -- the nick is no part of a peer's identity
        have hident : (conf'.g.setnick peerIndex peer.nick).group.map ident = conf'.g.group.map ident := by
          apply List.map_modify_of_eq
          exact fun _ => rfl
        exact ⟨(peerStep_setnick conf'.g peerIndex peer.nick).table hstep, hadded.congr hident rfl⟩

/-! ## Lists of peers -/

/-- Every record is accepted: the peer is active, or its number is free once those before are in. -/
def Ready (peers : List GroupPeer) (g : GroupC) : Prop :=
  ∀ before peer after, peers = before ++ peer :: after →
    Active g peer ∨ ∀ q ∈ g.peers, q.peerNumber = peer.peerNumber → q.realPk ∈ before.map (·.realPk)

theorem mem_peers_iff_ident (g : GroupC) (id : PublicKey × UInt16) :
    id ∈ g.peers.map ident ↔ id ∈ g.group.map ident ∨ id ∈ g.frozen.map ident := by
  rw [peers, map_append, mem_append]

theorem Added.mem_peers {g g' : GroupC} {realPk : PublicKey} {peerNumber : UInt16}
    (h : Added g realPk peerNumber g') (id : PublicKey × UInt16) :
    id ∈ g'.peers.map ident ↔ id = (realPk, peerNumber) ∨ (id ∈ g.peers.map ident ∧ id.1 ≠ realPk) := by
  rw [mem_peers_iff_ident, mem_peers_iff_ident, h.group, h.frozen, or_assoc, or_and_right]

theorem forall_peers_iff {g : GroupC} {P : PublicKey → UInt16 → Prop} :
    (∀ q ∈ g.peers, P q.realPk q.peerNumber) ↔ ∀ id ∈ g.peers.map ident, P id.1 id.2 := by
  constructor
  · intro h id hid
    obtain ⟨q, hq, rfl⟩ := mem_map.mp hid
    exact h q hq
  · intro h q hq
    exact h q.ident (mem_map_of_mem hq)

theorem ready_cons {peer : GroupPeer} {peers : List GroupPeer} {g g' : GroupC}
    (hkeys : ((peer :: peers).map (·.realPk)).Nodup) (hnumbers : ((peer :: peers).map (·.peerNumber)).Nodup)
    (h : Added g peer.realPk peer.peerNumber g') :
    Ready (peer :: peers) g ↔
      (Active g peer ∨ ∀ q ∈ g.peers, q.peerNumber ≠ peer.peerNumber) ∧ Ready peers g' := by
  rw [map_cons, nodup_cons] at hkeys hnumbers
  have hkey : ∀ other ∈ peers, other.realPk ≠ peer.realPk := fun other hother heq =>
    hkeys.1 (mem_map.mpr ⟨other, hother, heq⟩)
  have hnumber : ∀ other ∈ peers, other.peerNumber ≠ peer.peerNumber := fun other hother heq =>
    hnumbers.1 (mem_map.mpr ⟨other, hother, heq⟩)
  -- the condition on a later record does not change
  have hlater : ∀ other ∈ peers, ∀ before : List GroupPeer,
      (Active g other ∨ ∀ q ∈ g.peers, q.peerNumber = other.peerNumber →
          q.realPk ∈ (peer :: before).map (·.realPk)) ↔
        (Active g' other ∨ ∀ q ∈ g'.peers, q.peerNumber = other.peerNumber →
          q.realPk ∈ before.map (·.realPk)) := by
    intro other hother before
    apply or_congr
    · rw [Active, Active, h.group]
      constructor
      · exact fun hactive => .inr ⟨hactive, hkey other hother⟩
      · intro hactive
        cases hactive with
        | inl heq => exact absurd (Prod.mk.inj heq).1 (hkey other hother)
        | inr hactive => exact hactive.1
    · rw [forall_peers_iff (P := fun realPk peerNumber => peerNumber = other.peerNumber →
          realPk ∈ (peer :: before).map (·.realPk)),
        forall_peers_iff (P := fun realPk peerNumber => peerNumber = other.peerNumber →
          realPk ∈ before.map (·.realPk))]
      constructor
      · intro hall id hid heq
        cases (h.mem_peers id).mp hid with
        | inl hnew =>
          rw [hnew] at heq
          exact absurd heq.symm (hnumber other hother)
        | inr hold =>
          have hmem := hall id hold.1 heq
          exact (mem_cons.mp hmem).resolve_left hold.2
      · intro hall id hid heq
        by_cases hremoved : id.1 = peer.realPk
        · exact mem_cons.mpr (.inl hremoved)
        · exact mem_cons_of_mem _ (hall id ((h.mem_peers id).mpr (.inr ⟨hid, hremoved⟩)) heq)
  constructor
  · intro hready
    constructor
    · have hfirst := hready [] peer peers rfl
      apply hfirst.imp_right
      intro hall q hq heq
      exact not_mem_nil (hall q hq heq)
    · intro before other after heq
      have hother : other ∈ peers := by
        rw [heq]
        exact mem_append_right _ mem_cons_self
      exact (hlater other hother before).mp (hready (peer :: before) other after (by rw [heq]; rfl))
  · intro hready before other after heq
    cases before with
    | nil =>
      obtain ⟨rfl, rfl⟩ := List.cons.inj heq
      exact hready.1.imp_right (fun hall q hq hnum => absurd hnum (hall q hq))
    | cons first before =>
      obtain ⟨rfl, rfl⟩ := List.cons.inj heq
      have hother : other ∈ before ++ other :: after := mem_append_right _ mem_cons_self
      exact (hlater other hother before).mpr (hready.2 before other after rfl)

/-- When a list of records is accepted, and that their peers are active then. -/
theorem handlePeers_iff (selfPublicKey : PublicKey) (records : List (GroupEnv × GroupPeer))
    (h : conf.g.PeerTable) (hkeys : ((records.map Prod.snd).map (·.realPk)).Nodup)
    (hnumbers : ((records.map Prod.snd).map (·.peerNumber)).Nodup) :
    ((conf.handlePeers selfPublicKey records).1 = true ↔ Ready (records.map Prod.snd) conf.g) ∧
      ((conf.handlePeers selfPublicKey records).1 = true →
        (∀ id ∈ conf.g.group.map ident, id.1 ∉ (records.map Prod.snd).map (·.realPk) →
          id ∈ (conf.handlePeers selfPublicKey records).2.g.group.map ident) ∧
        ∀ peer ∈ records.map Prod.snd, Active (conf.handlePeers selfPublicKey records).2.g peer) := by
  induction records generalizing conf with
  | nil =>
    constructor
    · refine ⟨fun _ before peer after heq => ?_, fun _ => rfl⟩
      exact absurd heq (append_ne_nil_of_right_ne_nil _ (cons_ne_nil _ _)).symm
    · exact fun _ => ⟨fun _ hid _ => hid, fun _ hpeer => absurd hpeer not_mem_nil⟩
  | cons record records ih =>
    obtain ⟨env, peer⟩ := record
    rw [map_cons] at hkeys hnumbers ⊢
    obtain ⟨haccepted, hstep⟩ := conf.handlePeer_spec env h selfPublicKey peer
    rw [handlePeers]
    by_cases hfirst : (conf.handlePeer env selfPublicKey peer).1 = true
    · rw [if_pos hfirst]
      obtain ⟨htable, hadded⟩ := hstep hfirst
      have hkeys' := hkeys
      have hnumbers' := hnumbers
      rw [map_cons, nodup_cons] at hkeys' hnumbers'
      obtain ⟨hrest, hactive⟩ := ih _ htable hkeys'.2 hnumbers'.2
      rw [ready_cons hkeys hnumbers hadded, hrest]
      constructor
      · exact ⟨fun hready => ⟨haccepted.mp hfirst, hready⟩, fun hready => hready.2⟩
      · intro hdone
        obtain ⟨hkept, hactive⟩ := hactive (hrest.mpr hdone)
        constructor
        · intro id hid hother
          rw [map_cons, mem_cons, not_or] at hother
          exact hkept id ((hadded.group id).mpr (.inr ⟨hid, hother.1⟩)) hother.2
        · intro other hother
          cases mem_cons.mp hother with
          | inl heq =>
            rw [heq]
            exact hkept peer.ident ((hadded.group _).mpr (.inl rfl)) hkeys'.1
          | inr hother => exact hactive other hother
    · rw [if_neg hfirst]
      constructor
      · constructor
        · exact fun hfalse => absurd hfalse Bool.false_ne_true
        · intro hready
          have hcond := hready [] peer (records.map Prod.snd) rfl
          exact absurd (haccepted.mpr (hcond.imp_right (fun hall q hq heq => not_mem_nil (hall q hq heq)))) hfirst
      · exact fun hfalse => absurd hfalse Bool.false_ne_true

/-! ## Transfer -/

/-- The peers of the sender are known to the receiver afterwards: they are active, or still frozen. -/
def Transferred (sender receiver receiver' : GroupC) : Prop :=
  ∀ peer ∈ sender.group, Active receiver' peer ∨ (Frozen receiver peer ∧ Frozen receiver' peer)

/-- The packets of a peer list are handled without an error, and the peers are transferred. -/
def TransfersPeers (selfPublicKey : PublicKey) (sender : GroupC) (packets : List (GroupEnv × Bytes)) : Prop :=
  (conf.handleResponses selfPublicKey packets).1 = true ∧
    Transferred sender conf.g (conf.handleResponses selfPublicKey packets).2.g

theorem map_snd_records (chunks : List (GroupEnv × List GroupPeer)) :
    (chunks.flatMap (fun chunk => chunk.2.map (fun peer => (chunk.1, peer)))).map Prod.snd =
      (chunks.map Prod.snd).flatten := by
  induction chunks with
  | nil => rfl
  | cons chunk chunks ih =>
    rw [flatMap_cons, map_append, map_map]
    congr 1
    exact map_id _

/-- The list is transferred exactly if every record is accepted, other than that of a frozen peer. -/
theorem transfersPeers_iff {sender : GroupC} {packets : List (GroupEnv × Bytes)} (selfPublicKey : PublicKey)
    (hkeys : (sender.group.map (·.realPk)).Nodup) (hnumbers : (sender.group.map (·.peerNumber)).Nodup)
    (h : conf.g.PeerTable) (hpackets : packets.map Prod.snd = (sendPeers (fun _ => true) sender).responses) :
    conf.TransfersPeers selfPublicKey sender packets ↔ sender.group ≠ [] ∧ Ready sender.group conf.g := by
  obtain ⟨n, chunks, hloop, hflatten, hne⟩ := sendPeersLoop_chunks sender.group 0 [] 0
  have hresponses : (sendPeers (fun _ => true) sender).responses = chunks.map packPeers := by
    have hnil : packPeers [] = [peerResponseId] := rfl
    rw [hnil] at hloop
    rw [sendPeers, hloop]
  by_cases hgroup : sender.group = []
  · -- the packet of a conference without peers has no record
    have hempty : (sendPeers (fun _ => true) sender).responses = [[peerResponseId]] := by
      rw [sendPeers, hgroup]
      rfl
    rw [hempty] at hpackets
    obtain ⟨record, hrecord, hpacket⟩ := map_eq_singleton_iff.mp hpackets
    constructor
    · intro htransfer
      have hfirst := htransfer.1
      rw [hrecord] at hfirst
      obtain ⟨env, packet⟩ := record
      obtain rfl : packet = [peerResponseId] := hpacket
      exact absurd hfirst Bool.false_ne_true
    · exact fun hcond => absurd hgroup hcond.1
  · rw [hresponses] at hpackets
    obtain ⟨pairs, rfl, hpairs⟩ := List.exists_map_snd_eq hpackets
    have hnonempty : ∀ chunk ∈ pairs, chunk.2 ≠ [] := by
      intro chunk hchunk
      apply hne hgroup
      rw [← hpairs]
      exact mem_map_of_mem hchunk
    obtain ⟨hfst, hsnd⟩ := conf.handleResponses_pack selfPublicKey pairs hnonempty
    have hrecords := map_snd_records pairs
    rw [hpairs, hflatten] at hrecords
    obtain ⟨hready, hactive⟩ := conf.handlePeers_iff selfPublicKey
      (pairs.flatMap (fun chunk => chunk.2.map (fun peer => (chunk.1, peer)))) h (by rwa [hrecords])
      (by rwa [hrecords])
    rw [hrecords] at hready hactive
    rw [TransfersPeers, hfst, hready]
    constructor
    · exact fun htransfer => ⟨hgroup, htransfer.1⟩
    · intro hcond
      refine ⟨hcond.2, fun peer hpeer => .inl ?_⟩
      have hdone := hready.mpr hcond.2
      rw [hsnd hdone]
      exact (hactive hdone).2 peer hpeer

def samplePeer (number : UInt8) : GroupPeer :=
  { emptyGroupPeer with
    realPk := Vector.replicate _ number
    tempPk := Vector.replicate _ number
    peerNumber := number.toUInt16 }

def threePeers : GroupC := { emptyGroupC with group := [samplePeer 1, samplePeer 2, samplePeer 3] }

def threePackets : List (GroupEnv × Bytes) := (sendPeers (fun _ => true) threePeers).responses.map (quietEnv, ·)

def thirdPeer (frozen : List GroupPeer) : Conference where
  g := { emptyGroupC with
    status := .connected
    realPk := Vector.replicate _ 3
    group := [samplePeer 3]
    frozen
    maxfrozen := maxFrozenDefault }
  frC := { conns := [] }

theorem transfersPeers_three : (thirdPeer []).TransfersPeers (Vector.replicate _ 3) threePeers threePackets := by
  have hready : Ready threePeers.group (thirdPeer []).g := by
    intro before peer after heq
    have hpeer : peer ∈ [samplePeer 1, samplePeer 2, samplePeer 3] := by
      have hmem : peer ∈ threePeers.group := by
        rw [heq]
        exact mem_append_right _ mem_cons_self
      exact hmem
    -- the number 3 is taken by the third peer itself, the others are free
    have hfree : ∀ n : UInt8, n = 1 ∨ n = 2 → ∀ q ∈ (thirdPeer []).g.peers, q.peerNumber ≠ (samplePeer n).peerNumber := by
      intro n hn q hq
      rw [mem_singleton.mp hq]
      cases hn with
      | inl hn => rw [hn]; decide
      | inr hn => rw [hn]; decide
    rw [mem_cons, mem_cons, mem_singleton] at hpeer
    obtain rfl | rfl | rfl := hpeer
    · exact .inr (fun q hq hnumber => absurd hnumber (hfree 1 (.inl rfl) q hq))
    · exact .inr (fun q hq hnumber => absurd hnumber (hfree 2 (.inr rfl) q hq))
    · exact .inl (mem_singleton.mpr rfl)
  apply (transfersPeers_iff (thirdPeer []) (Vector.replicate _ 3) (by decide +kernel) (by decide +kernel)
    ⟨by decide +kernel, by decide +kernel⟩ (by rw [threePackets, map_map]; exact map_id _)).mpr
  exact ⟨cons_ne_nil _ _, hready⟩

/-- The record of the first peer, who is frozen, stops the packet: the second peer stays unknown. -/
theorem not_transfersPeers_frozen :
    (thirdPeer [samplePeer 1]).g.PeerTable ∧
      ¬(thirdPeer [samplePeer 1]).TransfersPeers (Vector.replicate _ 3) threePeers threePackets ∧
      ∀ q ∈ ((thirdPeer [samplePeer 1]).handleResponses (Vector.replicate _ 3) threePackets).2.g.peers,
        q.realPk ≠ (samplePeer 2).realPk := by
  have hrun : ((thirdPeer [samplePeer 1]).handleResponses (Vector.replicate _ 3) threePackets).1 = false ∧
      ∀ q ∈ ((thirdPeer [samplePeer 1]).handleResponses (Vector.replicate _ 3) threePackets).2.g.peers,
        q.realPk ≠ (samplePeer 2).realPk := by
    decide +kernel
  refine ⟨⟨by decide +kernel, by decide +kernel⟩, fun htransfer => ?_, hrun.2⟩
  have hhandled := htransfer.1
  rw [hrun.1] at hhandled
  exact Bool.false_ne_true hhandled

end Conference

end Toxcore

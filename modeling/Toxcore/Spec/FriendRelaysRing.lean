import Mathlib.Algebra.Order.Ring.Int
import Mathlib.Data.UInt
import Toxcore.Native.FriendRelays

/-!
# The ring of relays of a friend

The counter of the ring has 16 bits, and neither `2 ^ 16` nor `2 ^ 32` is a multiple of 24.  The entries are the last
distinct relays, and are offered once and newest first, while no remainder lies between them.
-/

namespace Toxcore

open List

structure RelayAdd where
  dhtTempPk : PublicKey
  dhtIpPort : IPPort
  ipPort : IPPort
  publicKey : PublicKey
  addTcpRelayPeer : NodeFormat → Int

def FriendRelays.before (con : FriendRelays) (relay : RelayAdd) : FriendRelays :=
  { con with dhtTempPk := relay.dhtTempPk, dhtIpPort := relay.dhtIpPort }

def RelayAdd.node (relay : RelayAdd) : NodeFormat :=
  FriendRelays.relay
    { dhtTempPk := relay.dhtTempPk, dhtIpPort := relay.dhtIpPort, tcpRelays := Vector.replicate _ emptyNodeFormat,
      tcpRelayCounter := 0, hostingTcpRelay := false } relay.ipPort relay.publicKey

/-- The connection after calls of `friend_add_tcp_relay`. -/
def FriendRelays.addAll (con : FriendRelays) (udpOnly : Bool) (adds : List RelayAdd) : FriendRelays :=
  adds.foldl (fun con relay =>
    ((con.before relay).friendAddTcpRelay udpOnly relay.addTcpRelayPeer relay.ipPort relay.publicKey).2) con

def storedRelays (udpOnly : Bool) (adds : List RelayAdd) : List NodeFormat :=
  if udpOnly then [] else adds.map RelayAdd.node

namespace FriendRelays

def slotOf (m : Nat) : Nat := m % 2 ^ 16 % friendMaxStoredTcpRelays

/-- The relay of addition `m` is no empty one, and its key was not added again. -/
def Current (nodes : List NodeFormat) (m : Nat) (node : NodeFormat) : Prop :=
  nodes[m]? = some node ∧ node.ipPort.isUnspec = false ∧
    ∀ later other, m < later → nodes[later]? = some other → other.publicKey ≠ node.publicKey

structure Holds (con : FriendRelays) (nodes : List NodeFormat) : Prop where
  counter : con.tcpRelayCounter = UInt16.ofNat nodes.length
  slots : ∀ i (hi : i < friendMaxStoredTcpRelays) node,
    con.tcpRelays[i] = node ∧ node.ipPort.isUnspec = false ↔
      ∃ m, Current nodes m node ∧ slotOf m = i ∧ ∀ later, m < later → later < nodes.length → slotOf later ≠ i

theorem current_concat {nodes : List NodeFormat} {added node : NodeFormat} {m : Nat} :
    Current (nodes ++ [added]) m node ↔
      (m = nodes.length ∧ node = added ∧ added.ipPort.isUnspec = false) ∨
        (Current nodes m node ∧ added.publicKey ≠ node.publicKey) := by
  rw [Current, Current]
  rcases Nat.lt_trichotomy m nodes.length with hlt | rfl | hgt
  · rw [getElem?_append_left hlt]
    constructor
    · rintro ⟨hnode, hspec, hlater⟩
      refine .inr ⟨⟨hnode, hspec, fun later other hm hother => hlater later other hm ?_⟩, ?_⟩
      · exact (getElem?_append_left (List.getElem?_eq_some_iff.mp hother).1).trans hother
      · exact hlater nodes.length added hlt (by simp)
    · rintro (⟨rfl, -, -⟩ | ⟨⟨hnode, hspec, hlater⟩, hadded⟩)
      · omega
      refine ⟨hnode, hspec, fun later other hm hother => ?_⟩
      rcases Nat.lt_or_ge later nodes.length with h | h
      · exact hlater later other hm (by rwa [getElem?_append_left h] at hother)
      · rw [getElem?_append_right h, getElem?_singleton] at hother
        grind
  · simp only [getElem?_concat_length, Option.some.injEq]
    constructor
    · rintro ⟨rfl, hspec, -⟩
      exact .inl ⟨trivial, rfl, hspec⟩
    · rintro (⟨-, rfl, hspec⟩ | ⟨⟨hnone, -⟩, -⟩)
      · refine ⟨rfl, hspec, fun later other hm hother => ?_⟩
        rw [getElem?_eq_none (by simp; omega)] at hother
        cases hother
      · simp at hnone
  · have hnone : (nodes ++ [added])[m]? = none := getElem?_eq_none (by simp; omega)
    have hnone' : nodes[m]? = none := getElem?_eq_none (by omega)
    simp only [hnone, hnone', reduceCtorEq, false_and, or_false, false_iff]
    omega

theorem Holds.add {con : FriendRelays} {nodes : List NodeFormat} (h : con.Holds nodes) (relay : RelayAdd) :
    ((con.before relay).friendAddTcpRelay false relay.addTcpRelayPeer relay.ipPort relay.publicKey).2.Holds
      (nodes ++ [relay.node]) := by
  have hindex : con.tcpRelayCounter.toNat % friendMaxStoredTcpRelays = slotOf nodes.length := by
    rw [h.counter, UInt16.toNat_ofNat', slotOf]
  have hkey : relay.node.publicKey = relay.publicKey := by
    rw [RelayAdd.node, FriendRelays.relay]
    split <;> rfl
  refine ⟨?_, fun i hi node => ?_⟩
  · show con.tcpRelayCounter + 1 = _
    rw [h.counter, length_append, length_singleton, UInt16.ofNat_add]
    rfl
  show ((withoutKey con.tcpRelays relay.publicKey).set (con.tcpRelayCounter.toNat % friendMaxStoredTcpRelays) relay.node
    (Nat.mod_lt _ (by decide)))[i] = node ∧ _ ↔ _
  simp only [Vector.getElem_set, hindex, current_concat, length_append, length_singleton]
  by_cases hslot : slotOf nodes.length = i
  · rw [if_pos hslot]
    constructor
    · rintro ⟨rfl, hspec⟩
      exact ⟨nodes.length, .inl ⟨rfl, rfl, hspec⟩, hslot, fun later hlt hle => by omega⟩
    · rintro ⟨m, ⟨rfl, rfl, hspec⟩ | ⟨⟨hnode, -⟩, -⟩, hm, hlast⟩
      · exact ⟨rfl, hspec⟩
      · have hlt := (List.getElem?_eq_some_iff.mp hnode).1
        exact absurd hslot (hlast _ hlt (Nat.lt_succ_self _))
  · rw [if_neg hslot]
    -- the entry keeps its relay unless the key is added again
    have hentry : (withoutKey con.tcpRelays relay.publicKey)[i] = node ∧ node.ipPort.isUnspec = false ↔
        (con.tcpRelays[i] = node ∧ node.ipPort.isUnspec = false) ∧ relay.node.publicKey ≠ node.publicKey := by
      simp only [withoutKey, Vector.getElem_map, hkey]
      split
      · rename_i hsame
        constructor
        · rintro ⟨rfl, hspec⟩
          exact absurd hspec (by decide)
        · rintro ⟨⟨rfl, -⟩, hne⟩
          exact absurd hsame.2.symm hne
      · rename_i hother
        constructor
        · rintro ⟨rfl, hspec⟩
          exact ⟨⟨rfl, hspec⟩, fun heq => hother ⟨by simp [hspec], heq.symm⟩⟩
        · exact fun hsame => hsame.1
    rw [hentry, h.slots i hi]
    constructor
    · rintro ⟨⟨m, hcurrent, hm, hlast⟩, hne⟩
      refine ⟨m, .inr ⟨hcurrent, hne⟩, hm, fun later hlt hle => ?_⟩
      rcases Nat.lt_succ_iff_lt_or_eq.mp hle with hlt' | rfl
      · exact hlast later hlt hlt'
      · exact hslot
    · rintro ⟨m, ⟨rfl, -, -⟩ | ⟨hcurrent, hne⟩, hm, hlast⟩
      · exact absurd hm hslot
      · exact ⟨⟨m, hcurrent, hm, fun later hlt hle => hlast later hlt (by omega)⟩, hne⟩

/-- `empty_friend_conn` -/
def newRelays : FriendRelays where
  dhtTempPk := Vector.replicate _ 0
  dhtIpPort := emptyIpPort
  tcpRelays := Vector.replicate _ emptyNodeFormat
  tcpRelayCounter := 0
  hostingTcpRelay := false

theorem holds_addAll (udpOnly : Bool) (adds : List RelayAdd) :
    (newRelays.addAll udpOnly adds).Holds (storedRelays udpOnly adds) := by
  have hempty (con : FriendRelays) (hrelays : con.tcpRelays = newRelays.tcpRelays) (hcounter : con.tcpRelayCounter = 0) :
      con.Holds [] := by
    refine ⟨hcounter, fun i hi node => ?_⟩
    simp only [hrelays, newRelays, Vector.getElem_replicate, Current, getElem?_nil, reduceCtorEq, false_and,
      exists_const, iff_false]
    rintro ⟨rfl, hspec⟩
    exact absurd hspec (by decide)
  induction adds using List.reverseRecOn with
  | nil => cases udpOnly <;> exact hempty _ rfl rfl
  | append_singleton adds relay ih =>
    rw [addAll, foldl_append]
    cases udpOnly with
    | true => exact ⟨ih.counter, ih.slots⟩
    | false =>
      rw [storedRelays, map_append]
      exact ih.add relay

/-- The relay of addition `m`, if it is current. -/
def current? (nodes : List NodeFormat) (m : Nat) : Option NodeFormat :=
  nodes[m]?.filter fun node => !node.ipPort.isUnspec && (nodes.drop (m + 1)).all (·.publicKey != node.publicKey)

theorem current?_eq_some {nodes : List NodeFormat} {m : Nat} {node : NodeFormat} :
    current? nodes m = some node ↔ Current nodes m node := by
  rw [current?, Option.filter_eq_some_iff]
  simp only [Bool.and_eq_true, Bool.not_eq_true', all_eq_true, bne_iff_ne]
  refine and_congr_right fun _ => and_congr_right fun _ => ?_
  constructor
  · intro hall later other hlt hother
    refine hall other (mem_of_getElem? (i := later - (m + 1)) ?_)
    rw [getElem?_drop, ← hother]
    congr 1
    omega
  · intro hlater other hmem
    obtain ⟨i, hi⟩ := getElem?_of_mem hmem
    rw [getElem?_drop] at hi
    exact hlater _ other (by omega) hi

def recentRelays (nodes : List NodeFormat) : List NodeFormat :=
  (List.range friendMaxStoredTcpRelays).filterMap fun k =>
    if k < nodes.length then current? nodes (nodes.length - 1 - k) else none

def Window (n : Nat) : Prop := n % 2 ^ 16 = 0 ∨ friendMaxStoredTcpRelays ≤ n % 2 ^ 16

instance (n : Nat) : Decidable (Window n) := inferInstanceAs (Decidable (_ ∨ _))

/-- The entries are the most recent distinct relays, and they are offered once and newest first. -/
structure KeepsRecent (con : FriendRelays) (nodes : List NodeFormat) : Prop where
  distinct : ∀ i j (hi : i < friendMaxStoredTcpRelays) (hj : j < friendMaxStoredTcpRelays),
    con.tcpRelays[i].ipPort.isUnspec = false → con.tcpRelays[j].ipPort.isUnspec = false →
      con.tcpRelays[i].publicKey = con.tcpRelays[j].publicKey → i = j
  recent : ∀ node : NodeFormat, node.ipPort.isUnspec = false →
    (node ∈ con.tcpRelays.toList ↔ node ∈ recentRelays nodes)
  once : ((recentRelays nodes).map NodeFormat.publicKey).Nodup
  newestFirst : ∀ accepts number, con.connectToSavedTcpRelays accepts number <+: recentRelays nodes
  all : ∀ accepts number, number ≠ 0 → (∀ i, accepts i = false) →
    con.connectToSavedTcpRelays accepts number = recentRelays nodes

variable {con : FriendRelays} {nodes : List NodeFormat}

theorem Holds.distinct (h : con.Holds nodes) (i j : Nat) (hi : i < friendMaxStoredTcpRelays)
    (hj : j < friendMaxStoredTcpRelays) (hspec : con.tcpRelays[i].ipPort.isUnspec = false)
    (hspec' : con.tcpRelays[j].ipPort.isUnspec = false)
    (hkey : con.tcpRelays[i].publicKey = con.tcpRelays[j].publicKey) : i = j := by
  obtain ⟨m, ⟨hnode, -, hlater⟩, rfl, -⟩ := (h.slots i hi _).mp ⟨rfl, hspec⟩
  obtain ⟨m', ⟨hnode', -, hlater'⟩, rfl, -⟩ := (h.slots j hj _).mp ⟨rfl, hspec'⟩
  rcases Nat.lt_trichotomy m m' with hlt | rfl | hlt
  · exact absurd hkey.symm (hlater m' _ hlt hnode')
  · rfl
  · exact absurd hkey (hlater' m _ hlt hnode)

theorem slotOf_inj {n m m' : Nat} (h : Window n) (hm : n ≤ m + friendMaxStoredTcpRelays) (hlt : m < m')
    (hm' : m' < n) : slotOf m' ≠ slotOf m := by
  simp only [slotOf, Window, friendMaxStoredTcpRelays] at *
  -- both additions lie in one period of the counter
  have hperiod : m / 2 ^ 16 = (n - 1) / 2 ^ 16 := by
    rcases h with h | h <;> omega
  have hperiod' : m' / 2 ^ 16 = (n - 1) / 2 ^ 16 := by
    rcases h with h | h <;> omega
  omega

theorem index_eq {n k : Nat} (h : Window n) (hk : k < friendMaxStoredTcpRelays) (hlt : k < n) :
    (UInt16.ofNat n).toUInt32.toNat = n % 2 ^ 16 ∧
      ((UInt16.ofNat n).toUInt32 - (UInt32.ofNat k + 1)).toNat % friendMaxStoredTcpRelays = slotOf (n - 1 - k) := by
  have hcounter : (UInt16.ofNat n).toUInt32.toNat = n % 2 ^ 16 := by
    rw [UInt16.toNat_toUInt32, UInt16.toNat_ofNat']
  refine ⟨hcounter, ?_⟩
  have hone : (UInt32.ofNat k + 1).toNat = k + 1 := by
    rw [UInt32.toNat_add, UInt32.toNat_ofNat', UInt32.toNat_one]
    simp only [friendMaxStoredTcpRelays] at hk
    omega
  rw [UInt32.toNat_sub, hcounter]
  simp only [slotOf, Window, friendMaxStoredTcpRelays] at *
  rcases h with h | h
  · omega
  · omega

theorem Holds.savedRelay (h : con.Holds nodes) (hwindow : Window nodes.length) {k : Nat}
    (hk : k < friendMaxStoredTcpRelays) :
    (if (con.savedRelay k).ipPort.isUnspec then none else some (con.savedRelay k)) =
      if k < nodes.length then current? nodes (nodes.length - 1 - k) else none := by
  have hslots := h.slots _ (Nat.mod_lt (con.tcpRelayCounter.toUInt32 - (UInt32.ofNat k + 1)).toNat (by decide))
  apply Option.ext
  intro node
  have hentry : (if (con.savedRelay k).ipPort.isUnspec then none else some (con.savedRelay k)) = some node ↔
      con.savedRelay k = node ∧ node.ipPort.isUnspec = false := by
    split
    · rename_i hspec
      simp only [reduceCtorEq, false_iff, not_and]
      rintro rfl
      simp [hspec]
    · rename_i hspec
      simp only [Option.some.injEq]
      exact ⟨fun heq => ⟨heq, by simpa [heq] using hspec⟩, fun hnode => hnode.1⟩
  rw [hentry, FriendRelays.savedRelay, hslots node]
  by_cases hlt : k < nodes.length
  · rw [if_pos hlt, current?_eq_some, h.counter, (index_eq hwindow hk hlt).2]
    constructor
    · rintro ⟨m, hcurrent, hm, hlast⟩
      have hle := (List.getElem?_eq_some_iff.mp hcurrent.1).1
      rcases Nat.lt_trichotomy m (nodes.length - 1 - k) with hless | rfl | hmore
      · exact absurd rfl (hlast _ hless (by omega))
      · exact hcurrent
      · exact absurd hm (slotOf_inj hwindow (by omega) hmore hle)
    · intro hcurrent
      exact ⟨_, hcurrent, rfl, fun later hless hle => slotOf_inj hwindow (by omega) hless hle⟩
  · have hnil : nodes = [] := by
      rw [← length_eq_zero_iff]
      simp only [Window, friendMaxStoredTcpRelays] at *
      omega
    simp [hnil, Current]

theorem connectRounds_spec (accepts : Nat → Bool) (rounds : List Nat) (number : Nat) :
    con.connectRounds accepts rounds number <+: rounds.filterMap
        (fun k => if (con.savedRelay k).ipPort.isUnspec then none else some (con.savedRelay k)) ∧
      (number ≠ 0 → (∀ i, accepts i = false) → con.connectRounds accepts rounds number = rounds.filterMap
        fun k => if (con.savedRelay k).ipPort.isUnspec then none else some (con.savedRelay k)) := by
  induction rounds generalizing number with
  | nil => exact ⟨prefix_rfl, fun _ _ => rfl⟩
  | cons k rounds ih =>
    rw [connectRounds]
    by_cases hzero : number = 0
    · rw [if_pos hzero]
      exact ⟨ nil_prefix, fun hne => absurd hzero hne⟩
    rw [if_neg hzero]
    cases hspec : (con.savedRelay k).ipPort.isUnspec with
    | true => simpa [hspec] using ih number
    | false =>
      simp only [hspec, Bool.false_eq_true, if_false, filterMap_cons, prefix_cons_inj, List.cons.injEq,
        true_and]
      refine ⟨(ih _).1, fun hne hall => ?_⟩
      rw [hall k]
      exact (ih number).2 hne hall

theorem exists_slotOf {n i : Nat} (h : Window n) (hn : friendMaxStoredTcpRelays ≤ n) (hi : i < friendMaxStoredTcpRelays) :
    ∃ m, n ≤ m + friendMaxStoredTcpRelays ∧ m < n ∧ slotOf m = i := by
  simp only [friendMaxStoredTcpRelays] at hn hi
  have hstart : (n - 24) % 2 ^ 16 ≤ 2 ^ 16 - 24 := by
    rcases h with h | h
    · omega
    · simp only [friendMaxStoredTcpRelays] at h
      omega
  obtain ⟨t, ht, hslot⟩ : ∃ t < 24, ((n - 24) % 2 ^ 16 + t) % 24 = i :=
    ⟨(i + 24 - (n - 24) % 2 ^ 16 % 24) % 24, Nat.mod_lt _ (by decide), by omega⟩
  refine ⟨n - 24 + t, by simp only [friendMaxStoredTcpRelays]; omega, by omega, ?_⟩
  rw [slotOf, friendMaxStoredTcpRelays]
  congr 1
  omega

theorem mem_recentRelays {node : NodeFormat} :
    node ∈ recentRelays nodes ↔ ∃ m, m < nodes.length ∧ nodes.length ≤ m + friendMaxStoredTcpRelays ∧ Current nodes m node := by
  rw [recentRelays, mem_filterMap]
  constructor
  · rintro ⟨k, hk, hnode⟩
    have hk := mem_range.mp hk
    split at hnode
    · exact ⟨_, by omega, by omega, current?_eq_some.mp hnode⟩
    · cases hnode
  · rintro ⟨m, hlt, hage, hcurrent⟩
    refine ⟨nodes.length - 1 - m, mem_range.mpr (by omega), ?_⟩
    rw [if_pos (by omega), current?_eq_some, show nodes.length - 1 - (nodes.length - 1 - m) = m by omega]
    exact hcurrent

/-- The ring is right after any number of additions whose remainder is zero or at least 24. -/
theorem keepsRecent_addAll (udpOnly : Bool) (adds : List RelayAdd) (h : Window (storedRelays udpOnly adds).length) :
    KeepsRecent (newRelays.addAll udpOnly adds) (storedRelays udpOnly adds) := by
  have hholds := holds_addAll udpOnly adds
  generalize newRelays.addAll udpOnly adds = con at hholds
  generalize storedRelays udpOnly adds = nodes at h hholds
  have hentries : (List.range friendMaxStoredTcpRelays).filterMap
      (fun k => if (con.savedRelay k).ipPort.isUnspec then none else some (con.savedRelay k)) = recentRelays nodes :=
    filterMap_congr fun k hk => hholds.savedRelay h (mem_range.mp hk)
  refine ⟨hholds.distinct, fun node hspec => ?_, ?_, fun accepts number => ?_, fun accepts number hne hall => ?_⟩
  · rw [mem_recentRelays, mem_iff_getElem]
    constructor
    · rintro ⟨i, hi, hnode⟩
      have hi : i < friendMaxStoredTcpRelays := by simpa using hi
      obtain ⟨m, hcurrent, hm, hlast⟩ := (hholds.slots i hi node).mp ⟨hnode, hspec⟩
      have hlt := (List.getElem?_eq_some_iff.mp hcurrent.1).1
      refine ⟨m, hlt, ?_, hcurrent⟩
      by_contra hold
      obtain ⟨later, hage, hless, hslot⟩ := exists_slotOf h (by omega) hi
      exact hlast later (by omega) hless hslot
    · rintro ⟨m, hlt, hage, hcurrent⟩
      have hi : slotOf m < friendMaxStoredTcpRelays := Nat.mod_lt _ (by decide)
      have hslot := (hholds.slots _ hi node).mpr ⟨m, hcurrent, rfl, fun later hless hle => slotOf_inj h hage hless hle⟩
      exact ⟨slotOf m, by simpa using hi, by simpa using hslot.1⟩
  · rw [List.Nodup, pairwise_map, recentRelays, pairwise_filterMap]
    refine pairwise_lt_range.imp fun {k k'} hlt node hnode node' hnode' => ?_
    split at hnode
    · split at hnode'
      · -- the relay of the later round is the older one
        exact (current?_eq_some.mp hnode').2.2 _ node (by omega) (current?_eq_some.mp hnode).1
      · cases hnode'
    · cases hnode
  · rw [← hentries]
    exact (connectRounds_spec accepts _ number).1
  · rw [← hentries]
    exact (connectRounds_spec accepts _ number).2 hne hall

def someRelay : RelayAdd where
  dhtTempPk := Vector.replicate _ 1
  dhtIpPort := emptyIpPort
  ipPort := { emptyIpPort with family := toxAfInet }
  publicKey := Vector.replicate _ 2
  addTcpRelayPeer := fun _ => -1

theorem keepsRecent_addAll_full :
    KeepsRecent (newRelays.addAll false (List.replicate 24 someRelay)) (storedRelays false (List.replicate 24 someRelay)) :=
  keepsRecent_addAll false (List.replicate 24 someRelay) (by decide)

/-- The only relay is offered twice. -/
theorem not_keepsRecent_one :
    ¬∀ (udpOnly : Bool) (adds : List RelayAdd), KeepsRecent (newRelays.addAll udpOnly adds) (storedRelays udpOnly adds) := by
  intro h
  have hprefix := ((h false [someRelay]).newestFirst (fun _ => false) 3).length_le
  exact absurd hprefix (by decide +kernel)

end FriendRelays

end Toxcore

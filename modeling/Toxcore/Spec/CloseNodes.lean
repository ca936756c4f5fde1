import Toxcore.ForStd.Closest
import Toxcore.ForStd.List
import Toxcore.Native.DHT
import Toxcore.Spec.KeyDistance

/-!
# The closest nodes that a `DHT` knows

`get_close_nodes` goes over all client lists.  `add_to_list` puts a node into the unsorted array in the
place of a farther one, which it adds again, and so on: the farthest of all drops out.
-/

namespace Toxcore

open List

def nodeKeys (nodes : List NodeFormat) : List PublicKey := nodes.map (·.publicKey)

theorem addToListLoop_spec {cmpPk : PublicKey} {fuel : Nat} {nodesList : List NodeFormat} {node : NodeFormat}
    {k : Nat} (hk : ∀ n ∈ nodesList.take k, keyDistance cmpPk n.publicKey ≤ keyDistance cmpPk node.publicKey)
    (hfuel : nodesList.length ≤ fuel + k) :
    ∃ z, (z :: nodeKeys (addToListLoop cmpPk fuel nodesList node).2).Perm
        (node.publicKey :: nodeKeys nodesList) ∧
      ∀ a ∈ nodeKeys (addToListLoop cmpPk fuel nodesList node).2,
        keyDistance cmpPk a ≤ keyDistance cmpPk z := by
  induction fuel generalizing nodesList node k with
  | zero =>
    rw [Nat.zero_add] at hfuel
    refine ⟨node.publicKey, List.Perm.refl _, fun a ha => ?_⟩
    obtain ⟨n, hn, rfl⟩ := mem_map.mp ha
    rw [take_of_length_le hfuel] at hk
    exact hk n hn
  | succ fuel ih =>
    rw [addToListLoop]
    cases hfind : nodesList.findIdx?
        fun n => idClosest cmpPk n.publicKey node.publicKey == .second with
    | none =>
      -- no node is farther than the one to be added
      refine ⟨node.publicKey, List.Perm.refl _, fun a ha => ?_⟩
      obtain ⟨n, hn, rfl⟩ := mem_map.mp ha
      have hnot := findIdx?_eq_none_iff.mp hfind n hn
      rw [beq_eq_false_iff_ne, ne_eq, idClosest_eq_second_iff] at hnot
      exact Nat.le_of_not_lt hnot
    | some i =>
      obtain ⟨hi, hfar, hbefore⟩ := findIdx?_eq_some_iff_getElem.mp hfind
      rw [beq_iff_eq, idClosest_eq_second_iff] at hfar
      have hget := getElem?_eq_getElem hi
      have hset : (nodesList[i].publicKey :: nodeKeys (nodesList.set i node)).Perm
          (node.publicKey :: nodeKeys nodesList) := by
        have hperm := (set_perm_cons_eraseIdx hi node).map (·.publicKey)
        have hself := (set_perm_cons_eraseIdx hi nodesList[i]).map (·.publicKey)
        rw [set_getElem_self] at hself
        exact (hperm.cons _).trans ((List.Perm.swap _ _ _).trans (hself.symm.cons _))
      -- the nodes up to the index are closer than the one that is displaced
      have hcloser : ∀ n ∈ (nodesList.set i node).take (i + 1),
          keyDistance cmpPk n.publicKey ≤ keyDistance cmpPk nodesList[i].publicKey := by
        intro n hn
        obtain ⟨j, hj, rfl⟩ := mem_iff_getElem.mp hn
        rw [length_take] at hj
        rw [getElem_take, getElem_set]
        split
        · exact Nat.le_of_lt hfar
        · have hnot := hbefore j (by omega)
          rw [beq_iff_eq, idClosest_eq_second_iff] at hnot
          exact Nat.le_trans (Nat.le_of_not_lt hnot) (Nat.le_of_lt hfar)
      dsimp only
      rw [hget]
      dsimp only
      by_cases hlast : i ≠ (nodesList.set i node).length - 1
      · have hki : k ≤ i := by
          by_contra hlt
          have hmem : nodesList[i] ∈ nodesList.take k :=
            mem_take_iff_getElem.mpr ⟨i, by omega, rfl⟩
          exact absurd hfar (Nat.not_lt.mpr (hk _ hmem))
        rw [if_pos hlast]
        obtain ⟨z, hperm, hz⟩ := ih hcloser (by rw [length_set]; omega)
        exact ⟨z, hperm.trans hset, hz⟩
      · rw [if_neg hlast]
        have hlength : nodesList.length = i + 1 := by
          rw [length_set] at hlast
          omega
        refine ⟨nodesList[i].publicKey, hset, fun a ha => ?_⟩
        obtain ⟨n, hn, rfl⟩ := mem_map.mp ha
        refine hcloser n ?_
        rw [take_of_length_le (by rw [length_set, hlength])]
        exact hn

theorem addToList_spec (nodesList : List NodeFormat) (node : NodeFormat) (cmpPk : PublicKey) :
    ∃ z, (z :: nodeKeys (addToList nodesList node cmpPk).2).Perm (node.publicKey :: nodeKeys nodesList) ∧
      ∀ a ∈ nodeKeys (addToList nodesList node cmpPk).2,
        keyDistance cmpPk a ≤ keyDistance cmpPk z :=
  addToListLoop_spec (k := 0) (by rw [take_zero]; exact nofun) le_rfl

/-! ## One entry -/

section

variable (curTime : UInt64) (publicKey : PublicKey) (saFamily : UInt8) (isLan wantAnnounce : Bool)

/-- The entry has an address of the family that is not timed out, and passes the filters. -/
def Eligible (client : ClientData) : Prop :=
  (saFamily = toxAfInet ∨ saFamily = toxAfInet6 ∨ saFamily = toxAfUnspec) ∧
    assocTimeout curTime (closeNodesAssoc saFamily client) = false ∧
    (ipIsLan (closeNodesAssoc saFamily client).ipPort → isLan) ∧
    (wantAnnounce → client.announceNode)

instance (client : ClientData) :
    Decidable (Eligible curTime saFamily isLan wantAnnounce client) :=
  inferInstanceAs (Decidable (_ ∧ _))

def eligibleKeys (clients : List ClientData) : Finset PublicKey :=
  ((clients.filter (Eligible curTime saFamily isLan wantAnnounce ·)).map (·.publicKey)).toFinset

def zeroKey : PublicKey := Vector.replicate _ 0

def NodesList.keys (list : NodesList) : List PublicKey := nodeKeys (list.nodes.take list.num)

/-- The nodes counted are those of the set that are closest to the key, and the others are unused. -/
structure NodesList.Closest (s : Finset PublicKey) (list : NodesList) : Prop where
  length : list.nodes.length = maxSentNodes
  num_le : list.num ≤ maxSentNodes
  unused : ∀ node ∈ list.nodes.drop list.num, node.publicKey = zeroKey
  closest : IsClosest (keyDistance publicKey) maxSentNodes s list.keys

variable {curTime publicKey saFamily isLan wantAnnounce} {list : NodesList} {client : ClientData}
  {s : Finset PublicKey}

theorem NodesList.closest_zero : NodesList.zero.Closest publicKey ∅ where
  length := length_replicate
  num_le := Nat.zero_le _
  unused node hnode := by
    rw [eq_of_mem_replicate (mem_of_mem_drop hnode)]
    rfl
  closest := IsClosest.empty _ _

theorem NodesList.Closest.length_keys (h : list.Closest publicKey s) :
    list.keys.length = list.num := by
  have hlength := h.length
  have hnum := h.num_le
  rw [NodesList.keys, nodeKeys, length_map, length_take]
  omega

theorem NodesList.Closest.indexOfNodePk_isSome (h : list.Closest publicKey s) {pk : PublicKey}
    (hpk : pk ≠ zeroKey) : (indexOfNodePk list.nodes pk).isSome ↔ pk ∈ list.keys := by
  rw [indexOfNodePk, findIdx?_isSome, any_eq_true, NodesList.keys, nodeKeys, mem_map]
  constructor
  · rintro ⟨node, hnode, heq⟩
    rw [beq_iff_eq] at heq
    rw [← take_append_drop list.num list.nodes] at hnode
    obtain hnode | hnode := mem_append.mp hnode
    · exact ⟨node, hnode, heq⟩
    · exact absurd (heq.symm.trans (h.unused node hnode)) hpk
  · rintro ⟨node, hnode, heq⟩
    exact ⟨node, mem_of_mem_take hnode, beq_iff_eq.mpr heq⟩

theorem closeNodesStep_of_not_eligible
    (hfamily : saFamily = toxAfInet ∨ saFamily = toxAfInet6 ∨ saFamily = toxAfUnspec)
    (h : ¬Eligible curTime saFamily isLan wantAnnounce client) :
    closeNodesStep curTime publicKey saFamily isLan wantAnnounce list client = list := by
  unfold closeNodesStep
  split
  · rfl
  dsimp only
  split
  · rfl
  rename_i htimeout
  split
  · rfl
  rename_i hlan
  split
  · rfl
  rename_i hannounce
  refine absurd ⟨hfamily, Bool.eq_false_of_not_eq_true htimeout, fun hip => ?_, fun hwant => ?_⟩ h
  · by_contra hnot
    rw [hip, Bool.eq_false_of_not_eq_true hnot] at hlan
    exact hlan rfl
  · by_contra hnot
    rw [hwant, Bool.eq_false_of_not_eq_true hnot] at hannounce
    exact hannounce rfl

theorem NodesList.Closest.closeNodesStep (h : list.Closest publicKey s)
    (helig : Eligible curTime saFamily isLan wantAnnounce client) (hpk : client.publicKey ≠ zeroKey) :
    (closeNodesStep curTime publicKey saFamily isLan wantAnnounce list client).Closest publicKey
      (insert client.publicKey s) := by
  obtain ⟨-, htimeout, hlan, hannounce⟩ := helig
  have hindex := h.indexOfNodePk_isSome hpk
  have hkeys := h.length_keys
  unfold Toxcore.closeNodesStep
  by_cases hmem : client.publicKey ∈ list.keys
  · rw [if_pos (hindex.mpr hmem)]
    exact ⟨h.length, h.num_le, h.unused, h.closest.insert_of_mem (h.closest.mem _ hmem)⟩
  · have hlan' : ¬(ipIsLan (closeNodesAssoc saFamily client).ipPort && !isLan) = true := by
      rw [Bool.and_eq_true]
      rintro ⟨hip, hnot⟩
      rw [hlan hip] at hnot
      exact nomatch hnot
    have hannounce' : ¬(wantAnnounce && !client.announceNode) = true := by
      rw [Bool.and_eq_true]
      rintro ⟨hwant, hnot⟩
      rw [hannounce hwant] at hnot
      exact nomatch hnot
    rw [if_neg (fun hsome => hmem (hindex.mp hsome))]
    dsimp only
    rw [if_neg (by rw [htimeout]; exact Bool.false_ne_true), if_neg hlan', if_neg hannounce']
    split
    · -- there is room
      rename_i hroom
      have hlt : list.num < list.nodes.length := by
        rw [h.length]
        exact hroom
      refine ⟨(length_set).trans h.length, hroom, fun node hnode => ?_, ?_⟩
      · rw [drop_set_of_lt (Nat.lt_succ_self _)] at hnode
        exact h.unused node (mem_of_mem_drop (i := 1) (by rw [drop_drop]; exact hnode))
      · have happend : NodesList.keys
            { nodes := list.nodes.set list.num
                { publicKey := client.publicKey, ipPort := (closeNodesAssoc saFamily client).ipPort }
              num := list.num + 1 } = list.keys ++ [client.publicKey] := by
          rw [NodesList.keys, NodesList.keys, nodeKeys, nodeKeys, take_add_one,
            take_set_of_le le_rfl, getElem?_set_self hlt, map_append]
          rfl
        rw [happend]
        exact h.closest.append (by rw [hkeys]; exact hroom) hmem
    · rename_i hfull
      have hnum : list.num = maxSentNodes := Nat.le_antisymm h.num_le (Nat.le_of_not_lt hfull)
      have hall : list.keys = nodeKeys list.nodes := by
        rw [NodesList.keys, take_of_length_le (by rw [h.length, hnum])]
      obtain ⟨z, hperm, hfar⟩ := addToList_spec list.nodes
        { publicKey := client.publicKey, ipPort := (closeNodesAssoc saFamily client).ipPort } publicKey
      generalize addToList list.nodes _ publicKey = result at hperm hfar
      have hlength : result.2.length = maxSentNodes := by
        have hlengths := hperm.length_eq
        rw [length_cons, length_cons, nodeKeys, nodeKeys, length_map, length_map, h.length] at hlengths
        exact Nat.succ.inj hlengths
      have hkeys' : NodesList.keys { list with nodes := result.2 } = nodeKeys result.2 := by
        rw [NodesList.keys, take_of_length_le (by rw [hlength, hnum])]
      refine ⟨hlength, h.num_le, fun node hnode => ?_, ?_⟩
      · rw [drop_of_length_le (by rw [hlength, hnum])] at hnode
        exact nomatch hnode
      · rw [hkeys']
        rw [hall] at hmem hkeys
        exact IsClosest.exchange (hall ▸ h.closest) (keyDistance_injective publicKey)
          (hkeys.trans hnum) hmem hperm hfar

/-! ## All lists -/

theorem eligibleKeys_cons (client : ClientData) (clients : List ClientData) :
    eligibleKeys curTime saFamily isLan wantAnnounce (client :: clients) =
      if Eligible curTime saFamily isLan wantAnnounce client then
        insert client.publicKey (eligibleKeys curTime saFamily isLan wantAnnounce clients)
      else eligibleKeys curTime saFamily isLan wantAnnounce clients := by
  unfold eligibleKeys
  by_cases h : Eligible curTime saFamily isLan wantAnnounce client
  · rw [if_pos h, filter_cons_of_pos (by simpa using h), map_cons, toFinset_cons]
  · rw [if_neg h, filter_cons_of_neg (by simpa using h)]

theorem eligibleKeys_append (clients clients' : List ClientData) :
    eligibleKeys curTime saFamily isLan wantAnnounce (clients ++ clients') =
      eligibleKeys curTime saFamily isLan wantAnnounce clients ∪
        eligibleKeys curTime saFamily isLan wantAnnounce clients' := by
  rw [eligibleKeys, filter_append, map_append, toFinset_append]
  rfl

theorem mem_eligibleKeys {clients : List ClientData} {pk : PublicKey} :
    pk ∈ eligibleKeys curTime saFamily isLan wantAnnounce clients ↔
      ∃ client ∈ clients, Eligible curTime saFamily isLan wantAnnounce client ∧
        client.publicKey = pk := by
  simp [eligibleKeys, and_assoc]

theorem NodesList.Closest.getCloseNodesInner (h : list.Closest publicKey s) {clients : List ClientData}
    (hzero : zeroKey ∉ eligibleKeys curTime saFamily isLan wantAnnounce clients) :
    (getCloseNodesInner curTime publicKey list saFamily clients isLan wantAnnounce).Closest publicKey
      (s ∪ eligibleKeys curTime saFamily isLan wantAnnounce clients) := by
  unfold Toxcore.getCloseNodesInner
  split
  · -- no entry has an address of another family
    rename_i hfamily
    have hempty : eligibleKeys curTime saFamily isLan wantAnnounce clients = ∅ := by
      rw [Finset.eq_empty_iff_forall_notMem]
      intro pk hpk
      obtain ⟨client, -, helig, -⟩ := mem_eligibleKeys.mp hpk
      obtain h | h | h := helig.1
      · exact hfamily.1 h
      · exact hfamily.2.1 h
      · exact hfamily.2.2 h
    rw [hempty, Finset.union_empty]
    exact h
  · rename_i hfamily
    rw [not_and_or, not_and_or, not_not, not_not, not_not] at hfamily
    induction clients generalizing list s with
    | nil =>
      rw [eligibleKeys, filter_nil, map_nil, toFinset_nil, Finset.union_empty]
      exact h
    | cons client clients ih =>
      rw [eligibleKeys_cons] at hzero ⊢
      rw [foldl_cons]
      by_cases helig : Eligible curTime saFamily isLan wantAnnounce client
      · rw [if_pos helig] at hzero ⊢
        rw [Finset.mem_insert, not_or] at hzero
        rw [Finset.union_insert, ← Finset.insert_union]
        exact ih (h.closeNodesStep helig (Ne.symm hzero.1)) hzero.2
      · rw [if_neg helig] at hzero ⊢
        rw [closeNodesStep_of_not_eligible hfamily helig]
        exact ih h hzero

theorem NodesList.Closest.friends (h : list.Closest publicKey s) {friends : List DHTFriend}
    (hzero : zeroKey ∉ eligibleKeys curTime saFamily isLan wantAnnounce (friends.flatMap (·.clientList))) :
    (friends.foldl (fun list fr => Toxcore.getCloseNodesInner curTime publicKey list saFamily
        fr.clientList isLan wantAnnounce) list).Closest publicKey
      (s ∪ eligibleKeys curTime saFamily isLan wantAnnounce (friends.flatMap (·.clientList))) := by
  induction friends generalizing list s with
  | nil =>
    rw [flatMap_nil, eligibleKeys, filter_nil, map_nil, toFinset_nil, Finset.union_empty]
    exact h
  | cons fr friends ih =>
    rw [flatMap_cons, eligibleKeys_append] at hzero ⊢
    rw [Finset.mem_union, not_or] at hzero
    rw [← Finset.union_assoc]
    exact ih (h.getCloseNodesInner hzero.1) hzero.2

end

def DHT.knownClients (dht : DHT) : List ClientData :=
  dht.closeClientlist ++ dht.friends.flatMap (·.clientList)

/-- The answer has as many nodes as fit, with different keys that pass the filters, and no closer ones are left out.
    -/
theorem closeNodes_closest (dht : DHT) (publicKey : PublicKey) (saFamily : UInt8) (isLan wantAnnounce : Bool)
    (hzero : zeroKey ∉ eligibleKeys dht.curTime saFamily isLan wantAnnounce dht.knownClients) :
    let answer := dht.getCloseNodes publicKey saFamily isLan wantAnnounce
    let eligible := eligibleKeys dht.curTime saFamily isLan wantAnnounce dht.knownClients
    answer.num = min maxSentNodes eligible.card ∧ answer.keys.Nodup ∧
      (∀ pk ∈ answer.keys, pk ∈ eligible) ∧
      ∀ pk ∈ answer.keys, ∀ pk' ∈ eligible, pk' ∉ answer.keys →
        keyDistance publicKey pk < keyDistance publicKey pk' := by
  intro answer eligible
  have heligible : eligible = ∅ ∪
      eligibleKeys dht.curTime saFamily isLan wantAnnounce dht.closeClientlist ∪
      eligibleKeys dht.curTime saFamily isLan wantAnnounce (dht.friends.flatMap (·.clientList)) := by
    exact eligibleKeys_append _ _
  rw [DHT.knownClients, eligibleKeys_append, Finset.mem_union, not_or] at hzero
  have hanswer : answer.Closest publicKey eligible := by
    rw [heligible]
    exact (NodesList.closest_zero.getCloseNodesInner hzero.1).friends hzero.2
  have hlength := hanswer.closest.length
  rw [hanswer.length_keys] at hlength
  exact ⟨hlength, hanswer.closest.nodup, hanswer.closest.mem, hanswer.closest.closer⟩

/-- A `DHT` at the time 1000 with these lists. -/
def dhtWith (closeClientlist : List ClientData) (friendsList : List DHTFriend) : DHT :=
  { DHT.emptyDht ⟨1000, fun _ => true, fun _ => true, fun _ => true, true⟩ ⟨fun _ => 0, 0⟩ (key 1)
      (key 1) ⟨[], 0, 0, 0, 0⟩ with
    closeClientlist
    friendsList
    numFriends := UInt16.ofNat friendsList.length }

def clientSeen (b : UInt8) (timestamp : UInt64) : ClientData :=
  { emptyClientData with
    publicKey := key b
    assoc4 := { emptyIpptspng with
      ipPort := { emptyIpPort with family := toxAfInet, ip := Vector.replicate _ b, port := 33445 }
      timestamp } }

def sixNodes : DHT :=
  dhtWith [clientSeen 9 1000, clientSeen 8 1000, emptyClientData, clientSeen 7 1000,
      clientSeen 6 1000, clientSeen 5 1000]
    [{ emptyDhtFriend (key 2) with
        clientList := [clientSeen 9 1000, clientSeen 4 1000, clientSeen 5 1000] }]

theorem closeNodes_closest_sixNodes :
    zeroKey ∉ eligibleKeys 1000 toxAfInet true false sixNodes.knownClients ∧
      let answer := sixNodes.getCloseNodes (key 4) toxAfInet true false
      let eligible := eligibleKeys 1000 toxAfInet true false sixNodes.knownClients
      answer.num = min maxSentNodes eligible.card ∧ answer.keys.Nodup ∧
        (∀ pk ∈ answer.keys, pk ∈ eligible) ∧
        ∀ pk ∈ answer.keys, ∀ pk' ∈ eligible, pk' ∉ answer.keys →
          keyDistance (key 4) pk < keyDistance (key 4) pk' := by
  have hzero : zeroKey ∉ eligibleKeys 1000 toxAfInet true false sixNodes.knownClients := by
    decide +kernel
  exact ⟨hzero, closeNodes_closest sixNodes (key 4) toxAfInet true false hzero⟩

end Toxcore

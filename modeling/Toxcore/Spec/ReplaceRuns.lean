import Toxcore.Spec.ReplaceComplete

/-!
# Runs in which `replace_all` refuses no useful node

Between two calls of `replace_all` the order of a friend's list is disturbed by time, and by nodes that are
heard from or taken over where they stand.  As long as this leaves the worst entry among the first two,
every useful node is stored.
-/

namespace Toxcore

open List

namespace DHT

/-! ## Steps that keep the order -/

/-- The friends have the same keys, and the entries of their lists the same keys and timestamps. -/
structure SameOrder (dht dht' : DHT) : Prop where
  curTime : dht'.curTime = dht.curTime
  friends : ∀ fr' ∈ dht'.friends, ∃ fr ∈ dht.friends, fr'.publicKey = fr.publicKey ∧
    fr'.clientList.map (·.core) = fr.clientList.map (·.core)

section

variable {dht dht' : DHT} {box : CryptoBox} {env : DhtEnv}

theorem SameOrder.refl (dht : DHT) : SameOrder dht dht :=
  ⟨rfl, fun fr hfr => ⟨fr, hfr, rfl, rfl⟩⟩

theorem SameOrder.trans {d1 d2 d3 : DHT} (h1 : SameOrder d1 d2) (h2 : SameOrder d2 d3) :
    SameOrder d1 d3 := by
  refine ⟨h2.curTime.trans h1.curTime, fun fr3 hfr3 => ?_⟩
  obtain ⟨fr2, hfr2, hkey2, hcore2⟩ := h2.friends fr3 hfr3
  obtain ⟨fr1, hfr1, hkey1, hcore1⟩ := h1.friends fr2 hfr2
  exact ⟨fr1, hfr1, hkey2.trans hkey1, hcore2.trans hcore1⟩

theorem SameOrder.of_eq (hfriends : dht'.friends = dht.friends) (htime : dht'.curTime = dht.curTime) :
    SameOrder dht dht' :=
  ⟨htime, fun fr hfr => ⟨fr, hfriends ▸ hfr, rfl, rfl⟩⟩

theorem SameLists.sameOrder (h : SameLists dht dht') : SameOrder dht dht' :=
  .of_eq h.friends h.curTime

theorem SameOrder.foldl {α : Type} {f : DHT → α → DHT} (h : ∀ dht a, SameOrder dht (f dht a))
    (l : List α) (dht : DHT) : SameOrder dht (l.foldl f dht) := by
  induction l generalizing dht with
  | nil => exact .refl dht
  | cons a l ih => exact (h dht a).trans (ih (f dht a))

theorem SameOrder.mapFriends (dht : DHT) {f : DHTFriend → DHTFriend}
    (hf : ∀ fr, (f fr).publicKey = fr.publicKey ∧ (f fr).clientList.map (·.core) = fr.clientList.map (·.core)) :
    SameOrder dht (dht.mapFriends f) := by
  refine ⟨rfl, fun fr' hfr' => ?_⟩
  rw [friends_mapFriends] at hfr'
  obtain ⟨fr, hfr, rfl⟩ := mem_map.mp hfr'
  exact ⟨fr, hfr, hf fr⟩

theorem mem_friends_set {i : Nat} {fr fr' x : DHTFriend} (hget : dht.friendsList[i]? = some fr)
    (hx : x ∈ { dht with friendsList := dht.friendsList.set i fr' }.friends) :
    x ∈ dht.friends ∨ x = fr' ∧ fr ∈ dht.friends := by
  rw [DHT.friends, take_set] at hx
  obtain ⟨j, hj, rfl⟩ := mem_iff_getElem.mp hx
  rw [length_set] at hj
  rw [getElem_set]
  split
  · rename_i heq
    subst heq
    refine .inr ⟨rfl, ?_⟩
    have hfr : (dht.friendsList.take dht.numFriends.toNat)[i] = fr := by
      rw [getElem_take]
      exact (List.getElem?_eq_some_iff.mp hget).2
    rw [← hfr]
    exact getElem_mem hj
  · exact .inl (getElem_mem hj)

theorem SameOrder.setFriend {i : Nat} {fr fr' : DHTFriend} (hget : dht.friendsList[i]? = some fr)
    (hkey : fr'.publicKey = fr.publicKey) (hcore : fr'.clientList.map (·.core) = fr.clientList.map (·.core)) :
    SameOrder dht { dht with friendsList := dht.friendsList.set i fr' } := by
  refine ⟨rfl, fun x hx => ?_⟩
  obtain hx | ⟨rfl, hfr⟩ := mem_friends_set hget hx
  · exact ⟨x, hx, rfl, rfl⟩
  · exact ⟨fr, hfr, hkey, hcore⟩

theorem SameOrder.of_subset (hfriends : dht'.friends ⊆ dht.friends)
    (htime : dht'.curTime = dht.curTime) : SameOrder dht dht' :=
  ⟨htime, fun fr hfr => ⟨fr, hfriends hfr, rfl, rfl⟩⟩

theorem sameOrder_returnedipPorts (ipPort : IPPort) (publicKey nodePublicKey : PublicKey) :
    SameOrder dht (dht.returnedipPorts env ipPort publicKey nodePublicKey) := by
  unfold returnedipPorts
  dsimp only
  split
  · exact .of_eq rfl rfl
  · split
    · exact .refl dht
    · rename_i i hi
      obtain ⟨hlt, -, -⟩ := findIdx?_eq_some_iff_getElem.mp hi
      have hlt' : i < dht.friendsList.length := by
        rw [DHT.friends, length_take] at hlt
        omega
      rw [modify_eq_set_get _ hlt']
      exact .setFriend (getElem?_eq_getElem hlt') rfl (core_updateClientData _ _ _ _ _)

theorem sameOrder_returnedNodes (nodePublicKey : PublicKey) (nodes : List NodeFormat) :
    SameOrder dht (nodes.foldl (returnedNode box env nodePublicKey) dht) := by
  refine .foldl (fun d node => ?_) nodes dht
  unfold returnedNode
  split
  · refine SameOrder.trans ?_ (sameOrder_returnedipPorts _ _ _)
    refine SameOrder.trans ?_ (.mapFriends _ fun fr => ?_)
    · exact .of_eq rfl rfl
    · unfold pingNodeFriend
      dsimp only
      split
      · exact ⟨rfl, rfl⟩
      · exact ⟨rfl, rfl⟩
  · exact .refl d

theorem sameOrder_handleDataSearchResponse (packet : DHTPacket) :
    SameOrder dht (dht.handleDataSearchResponse box env packet) := by
  unfold handleDataSearchResponse
  dsimp only
  split
  · exact .refl dht
  split
  · exact .refl dht
  split
  · exact .refl dht
  split
  · exact .of_eq rfl rfl
  split
  · refine SameOrder.trans ?_ (.mapFriends _ fun fr => ⟨rfl, ?_⟩)
    · exact .of_eq rfl rfl
    · exact core_setAnnounceNodeInList fr.clientList packet.publicKey
  · exact .of_eq rfl rfl

theorem sameOrder_doClose : SameOrder dht (dht.doClose box env) := by
  have hnodes := sameLists_getnodesAll dht box env dht.selfPublicKey
    (dht.toBootstrap.nodes.take dht.toBootstrap.num)
  unfold doClose
  dsimp only
  generalize dht.getnodesAll box env dht.selfPublicKey
    (dht.toBootstrap.nodes.take dht.toBootstrap.num) = d at hnodes
  refine hnodes.sameOrder.trans ?_
  obtain ⟨hdht, -⟩ := doPingAndSendnodeRequests_spec
    { d with toBootstrap := { d.toBootstrap with num := 0 } } box env d.closeLastgetnodes
    d.selfPublicKey d.closeClientlist d.closeBootstrapTimes false
  generalize doPingAndSendnodeRequests _ box env d.closeLastgetnodes
    d.selfPublicKey d.closeClientlist d.closeBootstrapTimes false = r at hdht
  have hping : SameOrder d r.dht := .of_eq hdht.friends hdht.curTime
  refine hping.trans ?_
  split
  · exact .of_eq rfl rfl
  · exact .of_eq rfl rfl

theorem sameOrder_dhtConnectAfterLoad : SameOrder dht (dht.dhtConnectAfterLoad box env) := by
  unfold dhtConnectAfterLoad
  split
  · exact .of_eq rfl rfl
  · refine .foldl (fun d _ => ?_) _ dht
    split
    · exact .refl d
    · exact (sameLists_dhtBootstrap d box env _).sameOrder.trans (.of_eq rfl rfl)

theorem take_moveLast_subset (friendsList : List DHTFriend) (numFriends friendNum : Nat) :
    (moveLast friendsList numFriends friendNum).take numFriends ⊆
      friendsList.take (numFriends + 1) := by
  have hsub : friendsList.take numFriends ⊆ friendsList.take (numFriends + 1) :=
    take_subset_take_left friendsList (Nat.le_succ numFriends)
  unfold moveLast
  split
  · exact hsub
  · rename_i last hlast
    obtain ⟨hlt, hget⟩ := List.getElem?_eq_some_iff.mp hlast
    split
    · intro fr hfr
      rw [take_set] at hfr
      obtain hfr | rfl := mem_or_eq_of_mem_set hfr
      · exact hsub hfr
      · exact mem_take_iff_getElem.mpr ⟨numFriends, by omega, hget⟩
    · exact hsub

theorem sameOrder_dhtDelfriend (publicKey : PublicKey) (lockToken : BitVec 32) :
    SameOrder dht (dht.dhtDelfriend env publicKey lockToken).2 := by
  unfold dhtDelfriend
  split
  · exact .refl dht
  · rename_i i hi
    split
    · exact .refl dht
    · rename_i fr hget
      have hset : SameOrder dht
          { dht with friendsList := dht.friendsList.set i (fr.dhtFriendUnlock lockToken) } := by
        refine .setFriend hget ?_ ?_
        · unfold DHTFriend.dhtFriendUnlock
          split <;> rfl
        · rw [clientList_dhtFriendUnlock]
      dsimp only
      split
      · exact hset
      · -- there is a friend, so that the number does not wrap around
        have hpred : (dht.numFriends - 1).toNat + 1 = dht.numFriends.toNat := by
          obtain ⟨hlt, -, -⟩ := findIdx?_eq_some_iff_getElem.mp hi
          rw [DHT.friends, length_take] at hlt
          have hpos : 1 ≤ dht.numFriends := UInt16.le_iff_toNat_le.mpr (by show 1 ≤ _; omega)
          rw [UInt16.toNat_sub_of_le _ _ hpos]
          show dht.numFriends.toNat - 1 + 1 = _
          omega
        have hmoved := take_moveLast_subset
          (dht.friendsList.set i (fr.dhtFriendUnlock lockToken)) (dht.numFriends - 1).toNat i
        rw [hpred] at hmoved
        split
        · refine hset.trans (.of_subset ?_ rfl)
          rw [DHT.friends, take_nil]
          exact nil_subset _
        split
        · exact hset.trans (.of_subset hmoved rfl)
        · refine hset.trans (.of_subset ?_ rfl)
          rw [DHT.friends, take_take, Nat.min_self]
          exact hmoved

end

/-! ## The worst entries -/

def AllWorstFirst (dht : DHT) : Prop :=
  ∀ fr ∈ dht.friends, WorstFirst dht.curTime fr.publicKey fr.clientList

section

variable {dht dht' : DHT} {box : CryptoBox} {env : DhtEnv}

theorem AllWorstFirst.sameOrder (h : dht.AllWorstFirst) (hsame : SameOrder dht dht') :
    dht'.AllWorstFirst := by
  intro fr' hfr'
  obtain ⟨fr, hfr, hkey, hcore⟩ := hsame.friends fr' hfr'
  rw [hsame.curTime, hkey]
  exact (h fr hfr).of_core hcore

theorem AllWorstFirst.setFriend (h : dht.AllWorstFirst) {i : Nat} {fr fr' : DHTFriend}
    (hget : dht.friendsList[i]? = some fr) (hkey : fr'.publicKey = fr.publicKey)
    (hlist : WorstFirst dht.curTime fr.publicKey fr.clientList →
      WorstFirst dht.curTime fr.publicKey fr'.clientList) :
    AllWorstFirst { dht with friendsList := dht.friendsList.set i fr' } := by
  intro x hx
  obtain hx | ⟨rfl, hfr⟩ := mem_friends_set hget hx
  · exact h x hx
  · rw [hkey]
    exact hlist (h fr hfr)

theorem AllWorstFirst.dhtAddfriend (h : dht.AllWorstFirst) (env : DhtEnv) (publicKey : PublicKey)
    (callback : DHTFriendCallback) (lockToken : BitVec 32) :
    (dht.dhtAddfriend env publicKey callback lockToken).2.2.AllWorstFirst := by
  unfold DHT.dhtAddfriend
  split
  · split
    · exact h
    · rename_i fr hget
      dsimp only
      split
      · exact h
      · refine h.setFriend hget ?_ ?_
        · unfold DHTFriend.dhtFriendLock
          split <;> rfl
        · rw [clientList_dhtFriendLock]
          exact id
  · split
    · exact h
    · intro fr hfr
      obtain hfr | hfr := mem_append.mp (mem_of_mem_take hfr)
      · exact h fr hfr
      · obtain rfl := mem_singleton.mp hfr
        rw [clientList_dhtFriendLock]
        exact worstFirst_replicate maxFriendClients emptyClientData

theorem worstFirst_doPingAndSendnodeRequests {publicKey : PublicKey} {list : List ClientData}
    (h : WorstFirst dht.curTime publicKey list) (box : CryptoBox) (env : DhtEnv)
    (lastgetnode : UInt64) (bootstrapTimes : UInt32) (sortable : Bool) :
    WorstFirst dht.curTime publicKey (dht.doPingAndSendnodeRequests box env lastgetnode publicKey
      list bootstrapTimes sortable).list := by
  unfold doPingAndSendnodeRequests
  split
  · exact h
  · obtain ⟨-, hcore⟩ := notKill_pingLoop box env publicKey list
      { dht, notKill := 0, nodes := [], sort := 0, sortOk := false }
    obtain ⟨hdht, -⟩ := pingLoop_spec box env publicKey list
      { dht, notKill := 0, nodes := [], sort := 0, sortOk := false }
    dsimp only
    generalize pingLoop box env publicKey list _ = r at hcore hdht
    have hpinged : WorstFirst dht.curTime publicKey r.2 := h.of_core hcore
    have hsorted : WorstFirst dht.curTime publicKey (if sortable && r.1.sortOk then
        sortClientList r.2 r.1.dht.curTime publicKey (env.callocSort publicKey) else r.2) := by
      rw [hdht.curTime]
      split
      · exact hpinged.sortClientList _
      · exact hpinged
    split
    · exact hsorted
    · exact hsorted

theorem AllWorstFirst.doDhtFriend (h : dht.AllWorstFirst) (box : CryptoBox) (env : DhtEnv)
    (i : Nat) : (dht.doDhtFriend box env i).AllWorstFirst := by
  unfold DHT.doDhtFriend
  split
  · exact h
  · rename_i fr hget
    dsimp only
    have hnodes := sameLists_getnodesAll dht box env fr.publicKey (fr.toBootstrap.nodes.take fr.toBootstrap.num)
    generalize dht.getnodesAll box env fr.publicKey (fr.toBootstrap.nodes.take fr.toBootstrap.num) = d at hnodes
    obtain ⟨hdht, -⟩ := doPingAndSendnodeRequests_spec d box env fr.lastgetnode fr.publicKey
      fr.clientList fr.bootstrapTimes true
    have hlist (hw : WorstFirst d.curTime fr.publicKey fr.clientList) :=
      worstFirst_doPingAndSendnodeRequests hw box env fr.lastgetnode fr.bootstrapTimes true
    generalize d.doPingAndSendnodeRequests box env fr.lastgetnode fr.publicKey
      fr.clientList fr.bootstrapTimes true = r at hdht hlist
    have hsame := hnodes.trans hdht
    have hget' : r.dht.friendsList[i]? = some fr := by rw [hsame.friendsList, hget]
    refine (h.sameOrder hsame.sameOrder).setFriend hget' rfl ?_
    rw [hdht.curTime]
    exact hlist

theorem AllWorstFirst.doDhtFriends (h : dht.AllWorstFirst) (box : CryptoBox) (env : DhtEnv) :
    (dht.doDhtFriends box env).AllWorstFirst := by
  unfold DHT.doDhtFriends
  generalize List.range dht.numFriends.toNat = is
  induction is generalizing dht with
  | nil => exact h
  | cons i is ih => exact ih (h.doDhtFriend box env i)

theorem AllWorstFirst.doDht (h : dht.AllWorstFirst) (box : CryptoBox)
    (hnow : ∀ fr ∈ dht.friends, WorstFirst env.now fr.publicKey fr.clientList) :
    (dht.doDht box env).AllWorstFirst := by
  unfold DHT.doDht
  split
  · exact h
  · have htime : AllWorstFirst { dht with curTime := env.now } := hnow
    refine doDhtFriends (htime.sameOrder ?_) box env
    refine SameOrder.trans ?_ sameOrder_doClose
    split
    · exact sameOrder_dhtConnectAfterLoad
    · exact .refl _

/-- Updates leave the worst entry in front, and a new node finds memory for sorting. -/
def LeavesWorst (env : DhtEnv) (curTime : UInt64) (publicKey : PublicKey) (ipPort : IPPort)
    (fr : DHTFriend) : Prop :=
  if (indexOfClientPk fr.clientList publicKey).isSome || (indexOfClientIpPort fr.clientList ipPort).isSome then
    WorstFirst curTime fr.publicKey (clientOrIpPortInList env.now fr.clientList publicKey ipPort).2
  else env.callocSort fr.publicKey = true

instance (env : DhtEnv) (curTime : UInt64) (publicKey : PublicKey) (ipPort : IPPort)
    (fr : DHTFriend) : Decidable (LeavesWorst env curTime publicKey ipPort fr) :=
  inferInstanceAs (Decidable (if (indexOfClientPk fr.clientList publicKey).isSome ||
      (indexOfClientIpPort fr.clientList ipPort).isSome then
    WorstFirst curTime fr.publicKey (clientOrIpPortInList env.now fr.clientList publicKey ipPort).2
  else env.callocSort fr.publicKey = true))

theorem worstFirst_addtoFriend {curTime : UInt64} {publicKey : PublicKey} {ipPort : IPPort}
    {fr : DHTFriend} (h : WorstFirst curTime fr.publicKey fr.clientList)
    (hleaves : LeavesWorst env curTime publicKey ipPort fr) :
    (addtoFriend curTime env publicKey ipPort fr).2.publicKey = fr.publicKey ∧
      WorstFirst curTime fr.publicKey (addtoFriend curTime env publicKey ipPort fr).2.clientList := by
  obtain ⟨hfound, -⟩ := clientOrIpPortInList_spec env.now fr.clientList publicKey ipPort
  have hsame : (clientOrIpPortInList env.now fr.clientList publicKey ipPort).1 = false →
      (clientOrIpPortInList env.now fr.clientList publicKey ipPort).2 = fr.clientList :=
    clientOrIpPortInList_of_false
  unfold LeavesWorst at hleaves
  rw [← hfound] at hleaves
  unfold addtoFriend
  generalize clientOrIpPortInList env.now fr.clientList publicKey ipPort = result at hsame hleaves
  obtain ⟨found, list⟩ := result
  cases found with
  | true => exact ⟨rfl, hleaves⟩
  | false =>
    obtain rfl : list = fr.clientList := hsame rfl
    refine ⟨rfl, ?_⟩
    rw [show env.callocSort fr.publicKey = true from hleaves]
    exact h.replaceAll env.now publicKey ipPort

theorem AllWorstFirst.addtoLists (h : dht.AllWorstFirst) (box : CryptoBox) {ipPort : IPPort}
    {publicKey : PublicKey}
    (hleaves : ∀ fr ∈ dht.friends, LeavesWorst env dht.curTime publicKey (ipPortNormalize ipPort) fr) :
    (dht.addtoLists box env ipPort publicKey).2.AllWorstFirst := by
  obtain ⟨hfriends, htime⟩ :=
    dht.friends_addtoCloseList box env publicKey (ipPortNormalize ipPort)
  intro fr' hfr'
  unfold DHT.addtoLists at hfr' ⊢
  dsimp only at hfr' ⊢
  generalize (dht.addtoCloseList box env publicKey (ipPortNormalize ipPort)).2 = d at hfriends htime hfr'
  rw [friends_mapFriends, hfriends] at hfr'
  obtain ⟨fr, hfr, rfl⟩ := mem_map.mp hfr'
  obtain ⟨hkey, hlist⟩ := worstFirst_addtoFriend (h fr hfr) (hleaves fr hfr)
  show WorstFirst d.curTime _ _
  rw [htime, hkey]
  exact hlist

/-- The time that has passed and the node that is seen leave the worst entries in front. -/
structure Undisturbed (box : CryptoBox) (env : DhtEnv) (dht : DHT) (input : DhtInput) : Prop where
  time : input = .iterate → ∀ fr ∈ dht.friends, WorstFirst env.now fr.publicKey fr.clientList
  node : ∀ ipPort publicKey, dht.addtoCall box env input = some (ipPort, publicKey) →
    ∀ fr ∈ dht.friends, LeavesWorst env dht.curTime publicKey (ipPortNormalize ipPort) fr

theorem AllWorstFirst.handleSendnodesIpv6 (h : dht.AllWorstFirst) {source : IPPort}
    {packet : DHTPacket} (hok : Undisturbed box env dht (.sendnodesPacket source packet)) :
    (dht.handleSendnodesIpv6 box env source packet).AllWorstFirst := by
  have hcheck := sameLists_checkSendnodes dht box env source packet maxSentNodes
  have hnode (hsome : (dht.checkSendnodes box env source packet maxSentNodes).1.isSome) :=
    hok.node source packet.publicKey (if_pos hsome)
  unfold DHT.handleSendnodesIpv6 handleSendnodesCore
  generalize dht.checkSendnodes box env source packet maxSentNodes = r at hcheck hnode
  obtain ⟨nodes, d⟩ := r
  have hd := h.sameOrder hcheck.sameOrder
  cases nodes with
  | none => exact hd
  | some nodes =>
    have hadd : (d.addtoLists box env source packet.publicKey).2.AllWorstFirst := by
      refine hd.addtoLists box ?_
      rw [hcheck.friends, hcheck.curTime]
      exact hnode rfl
    exact hadd.sameOrder (sameOrder_returnedNodes packet.publicKey nodes)

theorem worstFirst_step (h : dht.AllWorstFirst) {input : DhtInput}
    (hok : Undisturbed box env dht input) : (dht.step box env input).AllWorstFirst := by
  cases input with
  | addfriend publicKey callback lockToken => exact h.dhtAddfriend env publicKey callback lockToken
  | delfriend publicKey lockToken => exact h.sameOrder (sameOrder_dhtDelfriend publicKey lockToken)
  | addto ipPort publicKey =>
    have hleaves := hok.node ipPort publicKey rfl
    exact h.addtoLists box hleaves
  | getnodesPacket source packet =>
    exact h.sameOrder (sameLists_handleGetnodes dht box env source packet).sameOrder
  | sendnodesPacket source packet => exact h.handleSendnodesIpv6 hok
  | dataSearchResponse packet =>
    have hsame : SameOrder dht (dht.handleDataSearchResponse box env packet) :=
      sameOrder_handleDataSearchResponse packet
    exact h.sameOrder hsame
  | getnodes ipPort publicKey clientId =>
    exact h.sameOrder (sameLists_dhtGetnodes dht box env ipPort publicKey clientId).sameOrder
  | bootstrap node => exact h.sameOrder (sameLists_dhtBootstrap dht box env node).sameOrder
  | iterate => exact h.doDht box (hok.time rfl)
  | load calloc data =>
    obtain ⟨nodes, heq, -⟩ := loads_dhtLoad dht calloc data
    refine h.sameOrder (.of_eq ?_ ?_)
    · rw [step, heq]
      rfl
    · rw [step, heq]

theorem worstFirst_newDht {rng : Rng} {selfPublicKey : PublicKey} {selfSecretKey : SecretKey}
    (h : newDht env rng selfPublicKey selfSecretKey = some dht) : dht.AllWorstFirst := by
  have hadd {d d' : DHT} (heq : addFakeFriend env d = some d') (hd : d.AllWorstFirst) :
      d'.AllWorstFirst := by
    have hrng : AllWorstFirst { d with rng := d.rng.randomKey.2 } := hd
    have hadded := hrng.dhtAddfriend env d.rng.randomKey.1 emptyCallback 0
    unfold addFakeFriend at heq
    dsimp only at heq
    split at heq
    · cases heq
    · rename_i hres
      rw [hres] at hadded
      cases heq
      exact hadded
  unfold newDht at h
  simp only [Option.bind_eq_bind, Option.bind_eq_some_iff] at h
  obtain ⟨dhtPingArray, -, dht1, h1, dht2, h2, h⟩ := h
  split at h
  · cases h
  · cases h
    exact hadd h2 (hadd h1 fun fr hfr => absurd hfr (not_mem_nil))

end

def undisturbedSystem (box : CryptoBox) : TransitionSystem DHT where
  init := (dhtSystem box).init
  step dht dht' := ∃ env input, input.IsUdp ∧ Undisturbed box env dht input ∧ dht' = dht.step box env input

theorem worstFirst_of_reachable {box : CryptoBox} {dht : DHT}
    (h : (undisturbedSystem box).Reachable dht) : dht.AllWorstFirst := by
  refine TransitionSystem.Reachable.invariant ?_ ?_ h
  · rintro dht ⟨env, rng, pk, sk, hnew⟩
    exact worstFirst_newDht hnew
  · rintro dht _ hdht ⟨env, input, -, hok, rfl⟩
    exact worstFirst_step hdht hok

/-- `replace_all` stores every useful node in the list of each friend. -/
def ReplacesAll (dht : DHT) : Prop :=
  ∀ fr ∈ dht.friends, ∀ now calloc, ReplacesCompletely now dht.curTime calloc fr.publicKey fr.clientList

end DHT

/-- While no input moves a worst entry behind the first two, `replace_all` stores every useful node, and only then. -/
theorem replaceComplete_of_undisturbed {box : CryptoBox} {dht : DHT}
    (h : (DHT.undisturbedSystem box).Reachable dht) :
    dht.ReplacesAll ∧ ∀ now curTime calloc compPublicKey list,
      (ReplacesCompletely now curTime calloc compPublicKey list ↔
        WorstFirst curTime compPublicKey list) := by
  refine ⟨fun fr hfr now calloc => ?_, complete_iff⟩
  exact (complete_iff now dht.curTime calloc fr.publicKey fr.clientList).mpr
    (DHT.worstFirst_of_reachable h fr hfr)

theorem isSome_lonesomeNode : (DHT.fresh? 1000 1).isSome := by decide +kernel

def lonesomeNode : DHT := (DHT.fresh? 1000 1).get isSome_lonesomeNode

theorem init_lonesomeNode : (DHT.dhtSystem xorBox).init lonesomeNode :=
  ⟨.good 1000, { u64 := UInt64.ofNat, next := 0 }, key 1, key 1, (Option.some_get isSome_lonesomeNode).symm⟩

/-- A node is seen at the time 1000, and 60 seconds pass. -/
theorem replaceComplete_of_undisturbed_oneNode :
    ((lonesomeNode.step xorBox (.good 1000) (.addto address4 (key 2))).step xorBox (.good 1060)
      .iterate).ReplacesAll := by
  have hnode : ∀ fr ∈ lonesomeNode.friends,
      DHT.LeavesWorst (.good 1000) lonesomeNode.curTime (key 2) (ipPortNormalize address4) fr := by
    decide +kernel
  have htime : ∀ fr ∈ (lonesomeNode.step xorBox (.good 1000) (.addto address4 (key 2))).friends,
      WorstFirst 1060 fr.publicKey fr.clientList := by
    decide +kernel
  have hudp : address4.isUdp = true := by decide
  refine (replaceComplete_of_undisturbed (.step (.step (.init init_lonesomeNode)
    ⟨.good 1000, .addto address4 (key 2), hudp, ⟨nofun, ?_⟩, rfl⟩)
    ⟨.good 1060, .iterate, trivial, ⟨fun _ => htime, nofun⟩, rfl⟩)).1
  intro ipPort publicKey hcall
  cases hcall
  exact hnode

def farAddress (b : UInt8) : IPPort := { address4 with port := b.toUInt16 }

/-- The nodes `02`, `16`, …, `22` are seen, and then the node `30` at the address of `02`. -/
def crowdedNode : DHT :=
  ([2, 16, 17, 18, 19, 20, 21, 22].foldl
    (fun dht b => dht.step xorBox (.good 1000) (.addto (farAddress b) (key b))) lonesomeNode).step xorBox
      (.good 1000) (.addto (farAddress 2) (key 30))

theorem reachable_crowdedNode : (DHT.dhtSystem xorBox).Reachable crowdedNode := by
  have hudp (b : UInt8) : (farAddress b).isUdp = true := rfl
  have hfold (bs : List UInt8) (dht : DHT) (h : (DHT.dhtSystem xorBox).Reachable dht) :
      (DHT.dhtSystem xorBox).Reachable (bs.foldl
        (fun dht b => dht.step xorBox (.good 1000) (.addto (farAddress b) (key b))) dht) := by
    induction bs generalizing dht with
    | nil => exact h
    | cons b bs ih => exact ih _ (h.step ⟨.good 1000, .addto (farAddress b) (key b), hudp b, rfl⟩)
  exact (hfold _ _ (.init init_lonesomeNode)).step ⟨.good 1000, .addto (farAddress 2) (key 30), hudp 2, rfl⟩

/-- The nearest entry is the last one.  Taken over for another key it is the worst, and no node replaces
    it. -/
theorem not_replacesAll_crowded :
    ¬∀ (box : CryptoBox) (dht : DHT), (DHT.dhtSystem box).Reachable dht → dht.ReplacesAll := by
  intro h
  obtain ⟨fr, hfr, hnot⟩ : ∃ fr ∈ crowdedNode.friends,
      ¬WorstFirst crowdedNode.curTime fr.publicKey fr.clientList := by
    decide +kernel
  have hcomplete := h xorBox crowdedNode reachable_crowdedNode fr hfr 1000 true
  exact hnot ((complete_iff 1000 crowdedNode.curTime true fr.publicKey fr.clientList).mp hcomplete)

end Toxcore

import Toxcore.Native.GetNodes
import Toxcore.ForStd.List

/-!
# Housekeeping of the DHT

Most of what the DHT does is housekeeping: the entries of the client lists keep their keys
and addresses, and the friends keep their locks.  Only `addto_lists` stores addresses, and
only `dht_addfriend` and `dht_delfriend` change which friends there are and their locks.
-/

namespace Toxcore

open List hiding Vector

/-! ## Entries -/

/-- The key and the addresses of the entry are the same, and no address comes into use. -/
structure Tended (client client' : ClientData) : Prop where
  publicKey : client'.publicKey = client.publicKey
  ipPort4 : client'.assoc4.ipPort = client.assoc4.ipPort
  ipPort6 : client'.assoc6.ipPort = client.assoc6.ipPort
  timestamp4 : client.assoc4.timestamp = 0 → client'.assoc4.timestamp = 0
  timestamp6 : client.assoc6.timestamp = 0 → client'.assoc6.timestamp = 0

theorem Tended.refl (client : ClientData) : Tended client client :=
  ⟨rfl, rfl, rfl, id, id⟩

theorem Tended.trans {c1 c2 c3 : ClientData} (h1 : Tended c1 c2) (h2 : Tended c2 c3) :
    Tended c1 c3 where
  publicKey := h2.publicKey.trans h1.publicKey
  ipPort4 := h2.ipPort4.trans h1.ipPort4
  ipPort6 := h2.ipPort6.trans h1.ipPort6
  timestamp4 := h2.timestamp4 ∘ h1.timestamp4
  timestamp6 := h2.timestamp6 ∘ h1.timestamp6

def TendedList (list list' : List ClientData) : Prop :=
  ∀ client' ∈ list', ∃ client ∈ list, Tended client client'

theorem TendedList.refl (list : List ClientData) : TendedList list list :=
  fun client h => ⟨client, h, .refl client⟩

theorem TendedList.trans {l1 l2 l3 : List ClientData} (h1 : TendedList l1 l2)
    (h2 : TendedList l2 l3) : TendedList l1 l3 := by
  intro c3 hc3
  obtain ⟨c2, hc2, h23⟩ := h2 c3 hc3
  obtain ⟨c1, hc1, h12⟩ := h1 c2 hc2
  exact ⟨c1, hc1, h12.trans h23⟩

theorem TendedList.of_subset {list list' : List ClientData} (h : list' ⊆ list) :
    TendedList list list' :=
  fun client' h' => ⟨client', h h', .refl client'⟩

theorem mem_updateAt {list : List ClientData} {index : Nat} {f : ClientData → ClientData}
    {client' : ClientData} (h : client' ∈ updateAt list index f) :
    client' ∈ list ∨ ∃ client, list[index]? = some client ∧ client' = f client := by
  obtain ⟨i, hi⟩ := mem_iff_getElem?.mp h
  unfold updateAt at hi
  rw [getElem?_modify] at hi
  by_cases hindex : index = i
  · subst hindex
    obtain ⟨client, hclient, rfl⟩ := Option.map_eq_some_iff.mp hi
    exact .inr ⟨client, hclient, by simp⟩
  · simp only [if_neg hindex, id_map'] at hi
    exact .inl (mem_of_getElem? hi)

theorem tendedList_updateAt (list : List ClientData) (index : Nat) {f : ClientData → ClientData}
    (hf : ∀ client, Tended client (f client)) : TendedList list (updateAt list index f) := by
  intro client' h
  rcases mem_updateAt h with h | ⟨client, hclient, rfl⟩
  · exact ⟨client', h, .refl client'⟩
  · exact ⟨client, mem_of_getElem? hclient, hf client⟩

theorem mem_sortClientList {list : List ClientData} {curTime : UInt64} {pk : PublicKey}
    {calloc : Bool} {client : ClientData} :
    client ∈ sortClientList list curTime pk calloc ↔ client ∈ list := by
  unfold sortClientList
  split
  · rfl
  · exact mem_insertionSort _

theorem tendedList_updateClientData (now : UInt64) (list : List ClientData) (ipPort : IPPort)
    (pk : PublicKey) (nodeIsSelf : Bool) :
    TendedList list (updateClientData now list ipPort pk nodeIsSelf).2 := by
  unfold updateClientData
  split
  · exact .refl list
  · apply tendedList_updateAt
    intro client
    -- only the returned address changes
    split_ifs <;> exact ⟨rfl, rfl, rfl, id, id⟩

theorem tendedList_setAnnounceNodeInList (list : List ClientData) (publicKey : PublicKey) :
    TendedList list (setAnnounceNodeInList list publicKey) := by
  unfold setAnnounceNodeInList
  split
  · exact .refl list
  · exact tendedList_updateAt _ _ fun client => ⟨rfl, rfl, rfl, id, id⟩

theorem tended_resetBad (badonly : UInt64) (client : ClientData) :
    Tended client (DHT.resetBad badonly client) := by
  unfold DHT.resetBad
  refine ⟨rfl, ?_, ?_, ?_, ?_⟩ <;> simp only <;> split_ifs <;> simp_all

/-! ## Housekeeping -/

/-- What only `dht_addfriend` and `dht_delfriend` change. -/
def DHTFriend.locked (fr : DHTFriend) :
    PublicKey × BitVec 32 × Vector DHTFriendCallback dhtFriendMaxLocks :=
  (fr.publicKey, fr.lockFlags, fr.callbacks)

namespace DHT

def clients (dht : DHT) : List ClientData :=
  dht.closeClientlist ++ dht.friendsList.flatMap (·.clientList)

theorem mem_clients {dht : DHT} {client : ClientData} : client ∈ dht.clients ↔
    client ∈ dht.closeClientlist ∨ ∃ fr ∈ dht.friendsList, client ∈ fr.clientList := by
  simp [clients]

structure SameLists (dht dht' : DHT) : Prop where
  selfPublicKey : dht'.selfPublicKey = dht.selfPublicKey
  selfSecretKey : dht'.selfSecretKey = dht.selfSecretKey
  closeClientlist : dht'.closeClientlist = dht.closeClientlist
  friendsList : dht'.friendsList = dht.friendsList
  numFriends : dht'.numFriends = dht.numFriends
  loadedNodesList : dht'.loadedNodesList = dht.loadedNodesList
  curTime : dht'.curTime = dht.curTime
  toBootstrap : dht'.toBootstrap = dht.toBootstrap

theorem SameLists.refl (dht : DHT) : SameLists dht dht := ⟨rfl, rfl, rfl, rfl, rfl, rfl, rfl, rfl⟩

theorem SameLists.trans {d1 d2 d3 : DHT} (h1 : SameLists d1 d2) (h2 : SameLists d2 d3) :
    SameLists d1 d3 where
  selfPublicKey := h2.selfPublicKey.trans h1.selfPublicKey
  selfSecretKey := h2.selfSecretKey.trans h1.selfSecretKey
  closeClientlist := h2.closeClientlist.trans h1.closeClientlist
  friendsList := h2.friendsList.trans h1.friendsList
  numFriends := h2.numFriends.trans h1.numFriends
  loadedNodesList := h2.loadedNodesList.trans h1.loadedNodesList
  curTime := h2.curTime.trans h1.curTime
  toBootstrap := h2.toBootstrap.trans h1.toBootstrap

/-- The friends and their locks are the same, and the entries keep their keys and
    addresses. -/
structure Housekeeping (dht dht' : DHT) : Prop where
  selfPublicKey : dht'.selfPublicKey = dht.selfPublicKey
  selfSecretKey : dht'.selfSecretKey = dht.selfSecretKey
  numFriends : dht'.numFriends = dht.numFriends
  locked : dht'.friendsList.map (·.locked) = dht.friendsList.map (·.locked)
  clients : TendedList dht.clients dht'.clients
  loaded : dht'.loadedNodesList ⊆ dht.loadedNodesList

theorem SameLists.housekeeping {dht dht' : DHT} (h : SameLists dht dht') :
    Housekeeping dht dht' where
  selfPublicKey := h.selfPublicKey
  selfSecretKey := h.selfSecretKey
  numFriends := h.numFriends
  locked := by rw [h.friendsList]
  clients := by
    unfold DHT.clients
    rw [h.closeClientlist, h.friendsList]
    exact .refl _
  loaded := by rw [h.loadedNodesList]; exact List.Subset.refl _

theorem Housekeeping.refl (dht : DHT) : Housekeeping dht dht := (SameLists.refl dht).housekeeping

theorem Housekeeping.trans {d1 d2 d3 : DHT} (h1 : Housekeeping d1 d2) (h2 : Housekeeping d2 d3) :
    Housekeeping d1 d3 where
  selfPublicKey := h2.selfPublicKey.trans h1.selfPublicKey
  selfSecretKey := h2.selfSecretKey.trans h1.selfSecretKey
  numFriends := h2.numFriends.trans h1.numFriends
  locked := h2.locked.trans h1.locked
  clients := h1.clients.trans h2.clients
  loaded := List.Subset.trans h2.loaded h1.loaded

theorem Housekeeping.foldl {α : Type} {f : DHT → α → DHT} (h : ∀ dht a, Housekeeping dht (f dht a))
    (dht : DHT) (as : List α) : Housekeeping dht (as.foldl f dht) := by
  induction as generalizing dht with
  | nil => exact .refl dht
  | cons a as ih => exact (h dht a).trans (ih _)

theorem TendedList.clients_close {dht : DHT} {closeClientlist : List ClientData}
    (h : TendedList dht.closeClientlist closeClientlist) :
    TendedList dht.clients { dht with closeClientlist }.clients := by
  intro client' hmem
  rcases mem_clients.mp hmem with hmem | hmem
  · obtain ⟨client, hclient, htended⟩ := h client' hmem
    exact ⟨client, mem_clients.mpr (.inl hclient), htended⟩
  · exact ⟨client', mem_clients.mpr (.inr hmem), .refl client'⟩

theorem Housekeeping.close (dht : DHT) {closeClientlist : List ClientData}
    (h : TendedList dht.closeClientlist closeClientlist) :
    Housekeeping dht { dht with closeClientlist } where
  selfPublicKey := rfl
  selfSecretKey := rfl
  numFriends := rfl
  locked := rfl
  clients := TendedList.clients_close h
  loaded := List.Subset.refl _

theorem Housekeeping.friends (dht : DHT) {friendsList : List DHTFriend}
    (hlocked : friendsList.map (·.locked) = dht.friendsList.map (·.locked))
    (h : ∀ fr' ∈ friendsList, ∃ fr ∈ dht.friendsList, TendedList fr.clientList fr'.clientList) :
    Housekeeping dht { dht with friendsList } where
  selfPublicKey := rfl
  selfSecretKey := rfl
  numFriends := rfl
  locked := hlocked
  clients := by
    intro client' hmem
    rcases mem_clients.mp hmem with hmem | ⟨fr', hfr', hmem⟩
    · exact ⟨client', mem_clients.mpr (.inl hmem), .refl client'⟩
    · obtain ⟨fr, hfr, htended⟩ := h fr' hfr'
      obtain ⟨client, hclient, htended⟩ := htended client' hmem
      exact ⟨client, mem_clients.mpr (.inr ⟨fr, hfr, hclient⟩), htended⟩
  loaded := List.Subset.refl _

theorem Housekeeping.setFriend (dht : DHT) {i : Nat} {fr fr' : DHTFriend}
    (hfr : dht.friendsList[i]? = some fr) (hlocked : fr'.locked = fr.locked)
    (h : TendedList fr.clientList fr'.clientList) :
    Housekeeping dht { dht with friendsList := dht.friendsList.set i fr' } := by
  apply Housekeeping.friends
  · exact List.map_set_of_eq hfr hlocked
  · intro fr1 hfr1
    rcases mem_or_eq_of_mem_set hfr1 with hfr1 | rfl
    · exact ⟨fr1, hfr1, .refl _⟩
    · exact ⟨fr, mem_of_getElem? hfr, h⟩

theorem Housekeeping.mapFriends (dht : DHT) {f : DHTFriend → DHTFriend}
    (hlocked : ∀ fr, (f fr).locked = fr.locked) (h : ∀ fr, TendedList fr.clientList (f fr).clientList) :
    Housekeeping dht (dht.mapFriends f) := by
  apply Housekeeping.friends
  · rw [map_append, map_map]
    simp only [Function.comp_def, hlocked]
    rw [← map_append]
    exact congrArg _ (take_append_drop _ _)
  · intro fr' hfr'
    rcases mem_append.mp hfr' with hfr' | hfr'
    · obtain ⟨fr, hfr, rfl⟩ := mem_map.mp hfr'
      exact ⟨fr, mem_of_mem_take hfr, h fr⟩
    · exact ⟨fr', mem_of_mem_drop hfr', .refl _⟩

/-! ## Sending packets -/

variable (dht : DHT) (box : CryptoBox) (env : DhtEnv)

theorem sameLists_rng (rng : Rng) : SameLists dht { dht with rng } :=
  ⟨rfl, rfl, rfl, rfl, rfl, rfl, rfl, rfl⟩

theorem sameLists_addPing (data : Bytes) : SameLists dht (dht.addPing env data).2 := by
  exact ⟨rfl, rfl, rfl, rfl, rfl, rfl, rfl, rfl⟩

theorem sameLists_dhtCreatePacket (sharedKey : SharedKey) (type : UInt8) (plain : Bytes) :
    SameLists dht (dht.dhtCreatePacket env sharedKey type plain).2 := by
  unfold dhtCreatePacket
  split
  · exact .refl dht
  · exact ⟨rfl, rfl, rfl, rfl, rfl, rfl, rfl, rfl⟩

theorem sameLists_sendpacket (ipPort : IPPort) (packet : DHTPacket) :
    SameLists dht (dht.sendpacket env ipPort packet).2 := by
  unfold sendpacket
  split
  · exact ⟨rfl, rfl, rfl, rfl, rfl, rfl, rfl, rfl⟩
  · exact .refl dht

theorem sameLists_createAndSend (sharedKey : SharedKey) (type : UInt8) (plain : Bytes) (ipPort : IPPort) :
    SameLists dht (match dht.dhtCreatePacket env sharedKey type plain with
      | (none, dht) => (false, dht)
      | (some packet, dht) => dht.sendpacket env ipPort packet).2 := by
  have hcreate := sameLists_dhtCreatePacket dht env sharedKey type plain
  split
  · rename_i heq
    rwa [heq] at hcreate
  · rename_i heq
    rw [heq] at hcreate
    exact hcreate.trans (sameLists_sendpacket _ env ipPort _)

theorem sameLists_dhtGetnodes (ipPort : IPPort) (publicKey clientId : PublicKey) :
    SameLists dht (dht.dhtGetnodes box env ipPort publicKey clientId).2 := by
  unfold dhtGetnodes
  split_ifs
  · exact .refl dht
  · split
    · exact .refl dht
    · rename_i data _
      refine (sameLists_addPing dht env data).trans ?_
      simp only
      split_ifs
      · exact .refl _
      · split
        · exact .refl _
        · exact sameLists_createAndSend _ env _ _ _ _

theorem sameLists_sendAnnouncePing (publicKey : PublicKey) (ipPort : IPPort) :
    SameLists dht (dht.sendAnnouncePing box env publicKey ipPort).2 := by
  unfold sendAnnouncePing
  refine (sameLists_rng dht dht.rng.randomKey.2).trans ?_
  refine (sameLists_addPing _ env publicKey.toList).trans ?_
  simp only
  split
  · exact .refl _
  · exact sameLists_createAndSend _ env _ _ _ _

theorem sameLists_getnodesAll (clientId : PublicKey) (nodes : List NodeFormat) :
    SameLists dht (dht.getnodesAll box env clientId nodes) := by
  induction nodes generalizing dht with
  | nil => exact .refl dht
  | cons node nodes ih =>
    exact (sameLists_dhtGetnodes dht box env node.ipPort node.publicKey clientId).trans (ih _)

theorem sameLists_dhtBootstrap (node : NodeFormat) :
    SameLists dht (dht.dhtBootstrap box env node) := by
  unfold dhtBootstrap
  split
  · exact .refl dht
  · exact sameLists_dhtGetnodes dht box env _ _ _

theorem sameLists_sendnodesIpv6 (ipPort : IPPort) (publicKey clientId : PublicKey)
    (sendbackData : Bytes) (sharedKey : SharedKey) :
    SameLists dht (dht.sendnodesIpv6 env ipPort publicKey clientId sendbackData sharedKey).2 := by
  unfold sendnodesIpv6
  simp only
  split_ifs
  · exact .refl dht
  · exact .refl dht
  all_goals
    split
    · exact .refl dht
    · exact sameLists_createAndSend dht env _ _ _ _

theorem sameLists_handleGetnodes (source : IPPort) (packet : DHTPacket) :
    SameLists dht (dht.handleGetnodes box env source packet).2 := by
  unfold handleGetnodes
  split_ifs
  · exact .refl dht
  · exact .refl dht
  · split
    · exact .refl dht
    · split
      · exact .refl dht
      · exact sameLists_sendnodesIpv6 dht env _ _ _ _ _

theorem sameLists_sentGetnodeToNode (publicKey : PublicKey) (nodeIpPort : IPPort) (pingId : UInt64) :
    SameLists dht (dht.sentGetnodeToNode env publicKey nodeIpPort pingId).2 := by
  unfold sentGetnodeToNode
  split
  · exact ⟨rfl, rfl, rfl, rfl, rfl, rfl, rfl, rfl⟩
  · simp only
    split
    · exact ⟨rfl, rfl, rfl, rfl, rfl, rfl, rfl, rfl⟩
    · split <;> exact ⟨rfl, rfl, rfl, rfl, rfl, rfl, rfl, rfl⟩

theorem sameLists_checkSendnodes (source : IPPort) (packet : DHTPacket) (sizePlainNodes : Nat) :
    SameLists dht (dht.checkSendnodes box env source packet sizePlainNodes).2 := by
  unfold checkSendnodes
  simp only
  split_ifs
  · exact .refl dht
  · exact .refl dht
  · exact .refl dht
  · split
    · exact .refl dht
    · split
      · exact .refl dht
      · split_ifs
        · exact .refl dht
        · rename_i plain _ _
          have hsent := sameLists_sentGetnodeToNode dht env packet.publicKey source
            (pingIdOfBytes (plain.drop (1 + (packet.length - sendnodesCidSize))))
          split
          · rename_i heq
            rwa [heq] at hsent
          · rename_i heq
            rw [heq] at hsent
            split
            · exact hsent
            · split_ifs <;> exact hsent

/-! ## The main loop -/

theorem pingAssoc_spec (publicKey clientPk : PublicKey) (j : Nat) (loop : PingLoop) (assoc : IPPTsPng) :
    SameLists loop.dht (pingAssoc box env publicKey clientPk j loop assoc).1.dht ∧
      (pingAssoc box env publicKey clientPk j loop assoc).2.ipPort = assoc.ipPort ∧
      (pingAssoc box env publicKey clientPk j loop assoc).2.timestamp = assoc.timestamp := by
  unfold pingAssoc
  simp only
  split_ifs
  all_goals first
    | exact ⟨sameLists_dhtGetnodes _ box env _ _ _, rfl, rfl⟩
    | exact ⟨.refl _, rfl, rfl⟩

theorem pingLoop_spec (publicKey : PublicKey) (list : List ClientData) (loop : PingLoop) :
    SameLists loop.dht (pingLoop box env publicKey list loop).1.dht ∧
      TendedList list (pingLoop box env publicKey list loop).2 := by
  induction list generalizing loop with
  | nil => exact ⟨.refl _, .refl _⟩
  | cons client list ih =>
    unfold pingLoop
    simp only
    have h6 := pingAssoc_spec box env publicKey client.publicKey 0 loop client.assoc6
    generalize pingAssoc box env publicKey client.publicKey 0 loop client.assoc6 = r6 at h6 ⊢
    have h4 := pingAssoc_spec box env publicKey client.publicKey 1 r6.1 client.assoc4
    generalize pingAssoc box env publicKey client.publicKey 1 r6.1 client.assoc4 = r4 at h4 ⊢
    obtain ⟨hdht, hlist⟩ := ih r4.1
    refine ⟨(h6.1.trans h4.1).trans hdht, ?_⟩
    intro client' hclient'
    rcases mem_cons.mp hclient' with rfl | hclient'
    · refine ⟨client, mem_cons_self, ⟨rfl, h4.2.1, h6.2.1, ?_, ?_⟩⟩
      · exact fun hzero => h4.2.2.trans hzero
      · exact fun hzero => h6.2.2.trans hzero
    · obtain ⟨c, hc, htended⟩ := hlist client' hclient'
      exact ⟨c, mem_cons_of_mem _ hc, htended⟩

theorem doPingAndSendnodeRequests_spec (lastgetnode : UInt64) (publicKey : PublicKey)
    (list : List ClientData) (bootstrapTimes : UInt32) (sortable : Bool) :
    SameLists dht (dht.doPingAndSendnodeRequests box env lastgetnode publicKey list
        bootstrapTimes sortable).dht ∧
      TendedList list (dht.doPingAndSendnodeRequests box env lastgetnode publicKey list
        bootstrapTimes sortable).list := by
  unfold doPingAndSendnodeRequests
  split_ifs
  · exact ⟨.refl dht, .refl list⟩
  · simp only
    obtain ⟨hdht, hlist⟩ := pingLoop_spec box env publicKey list
      { dht, notKill := 0, nodes := [], sort := 0, sortOk := false }
    generalize pingLoop box env publicKey list
      { dht, notKill := 0, nodes := [], sort := 0, sortOk := false } = r at hdht hlist ⊢
    have hsorted : TendedList list (if (sortable && r.1.sortOk) = true then
        sortClientList r.2 r.1.dht.curTime publicKey (env.callocSort publicKey) else r.2) := by
      split
      · exact hlist.trans (.of_subset fun client h => mem_sortClientList.mp h)
      · exact hlist
    split
    · refine ⟨hdht.trans ?_, hsorted⟩
      simp only
      split
      · exact sameLists_rng _ _
      · exact (sameLists_rng _ _).trans (sameLists_dhtGetnodes _ box env _ _ _)
    · exact ⟨hdht, hsorted⟩

theorem housekeeping_toBootstrap (toBootstrap : NodesList) :
    Housekeeping dht { dht with toBootstrap } :=
  ⟨rfl, rfl, rfl, rfl, .refl _, List.Subset.refl _⟩

theorem housekeeping_doClose : Housekeeping dht (dht.doClose box env) := by
  unfold doClose
  simp only
  have hnodes := sameLists_getnodesAll dht box env dht.selfPublicKey
    (dht.toBootstrap.nodes.take dht.toBootstrap.num)
  generalize dht.getnodesAll box env dht.selfPublicKey
    (dht.toBootstrap.nodes.take dht.toBootstrap.num) = d at hnodes ⊢
  refine hnodes.housekeeping.trans ?_
  -- the array of nodes to bootstrap from is emptied
  refine (housekeeping_toBootstrap d { d.toBootstrap with num := 0 }).trans ?_
  obtain ⟨hdht, hlist⟩ := doPingAndSendnodeRequests_spec
    { d with toBootstrap := { d.toBootstrap with num := 0 } } box env d.closeLastgetnodes
    d.selfPublicKey d.closeClientlist d.closeBootstrapTimes false
  generalize doPingAndSendnodeRequests _ box env d.closeLastgetnodes
    d.selfPublicKey d.closeClientlist d.closeBootstrapTimes false = r at hdht hlist ⊢
  refine hdht.housekeeping.trans ?_
  replace hlist : TendedList r.dht.closeClientlist r.list := by rwa [hdht.closeClientlist]
  have hclose : ∀ {l : List ClientData}, TendedList r.dht.closeClientlist l →
      Housekeeping r.dht { r.dht with
        closeClientlist := l
        closeLastgetnodes := r.lastgetnode
        closeBootstrapTimes := r.bootstrapTimes } := fun h =>
    (Housekeeping.close r.dht h).trans ⟨rfl, rfl, rfl, rfl, .refl _, List.Subset.refl _⟩
  split_ifs
  · exact hclose hlist
  · apply hclose
    intro client' hclient'
    obtain ⟨client, hclient, rfl⟩ := mem_map.mp hclient'
    obtain ⟨client0, hclient0, htended⟩ := hlist client hclient
    exact ⟨client0, hclient0, htended.trans (tended_resetBad _ client)⟩

theorem housekeeping_doDhtFriend (i : Nat) : Housekeeping dht (dht.doDhtFriend box env i) := by
  unfold doDhtFriend
  split
  · exact .refl dht
  · rename_i fr hfr
    simp only
    have hnodes := sameLists_getnodesAll dht box env fr.publicKey (fr.toBootstrap.nodes.take fr.toBootstrap.num)
    generalize dht.getnodesAll box env fr.publicKey
      (fr.toBootstrap.nodes.take fr.toBootstrap.num) = d at hnodes ⊢
    obtain ⟨hdht, hlist⟩ := doPingAndSendnodeRequests_spec d box env fr.lastgetnode fr.publicKey
      fr.clientList fr.bootstrapTimes true
    generalize d.doPingAndSendnodeRequests box env fr.lastgetnode fr.publicKey
      fr.clientList fr.bootstrapTimes true = r at hdht hlist ⊢
    refine (hnodes.trans hdht).housekeeping.trans ?_
    have hfr' : r.dht.friendsList[i]? = some fr := by rw [(hnodes.trans hdht).friendsList, hfr]
    exact Housekeeping.setFriend _ hfr' rfl hlist

theorem housekeeping_doDhtFriends : Housekeeping dht (dht.doDhtFriends box env) := by
  exact .foldl (fun dht i => housekeeping_doDhtFriend dht box env i) dht _

theorem housekeeping_dhtConnectAfterLoad :
    Housekeeping dht (dht.dhtConnectAfterLoad box env) := by
  unfold dhtConnectAfterLoad
  split
  · exact ⟨rfl, rfl, rfl, rfl, .refl _, nil_subset _⟩
  · apply Housekeeping.foldl
    intro d _
    split
    · exact .refl d
    · exact (sameLists_dhtBootstrap d box env _).housekeeping.trans
        ⟨rfl, rfl, rfl, rfl, .refl _, List.Subset.refl _⟩

theorem housekeeping_doDht : Housekeeping dht (dht.doDht box env) := by
  unfold doDht
  split
  · exact .refl dht
  · simp only
    have htime : Housekeeping dht { dht with curTime := env.now } :=
      ⟨rfl, rfl, rfl, rfl, .refl _, List.Subset.refl _⟩
    refine htime.trans ?_
    refine Housekeeping.trans ?_ (housekeeping_doDhtFriends _ box env)
    refine Housekeeping.trans ?_ (housekeeping_doClose _ box env)
    split
    · exact housekeeping_dhtConnectAfterLoad _ box env
    · exact .refl _

/-! ## Returned nodes -/

theorem housekeeping_returnedipPorts (ipPort : IPPort) (publicKey nodePublicKey : PublicKey) :
    Housekeeping dht (dht.returnedipPorts env ipPort publicKey nodePublicKey) := by
  unfold returnedipPorts
  simp only
  split
  · exact .close dht (tendedList_updateClientData _ _ _ _ _)
  · split
    · exact .refl dht
    · apply Housekeeping.friends
      · apply ext_getElem?
        intro k
        rw [getElem?_map, getElem?_map, getElem?_modify, Option.map_eq_map, Option.map_map]
        congr 1
        funext fr
        split <;> rfl
      · intro fr' hfr'
        obtain ⟨k, hk⟩ := mem_iff_getElem?.mp hfr'
        rw [getElem?_modify] at hk
        obtain ⟨fr, hfr, rfl⟩ := Option.map_eq_some_iff.mp hk
        refine ⟨fr, mem_of_getElem? hfr, ?_⟩
        split
        · exact tendedList_updateClientData _ _ _ _ _
        · exact .refl _

theorem housekeeping_setAnnounceNode (publicKey : PublicKey) :
    Housekeeping dht (dht.setAnnounceNode publicKey) := by
  refine Housekeeping.trans (Housekeeping.close dht ?_) (Housekeeping.mapFriends _ ?_ ?_)
  · intro client' hclient'
    rcases mem_append.mp hclient' with hclient' | hclient'
    · rcases mem_append.mp hclient' with hclient' | hclient'
      · exact ⟨client', mem_of_mem_take hclient', .refl _⟩
      · obtain ⟨client, hclient, htended⟩ :=
          tendedList_setAnnounceNodeInList _ publicKey client' hclient'
        exact ⟨client, mem_of_mem_drop (mem_of_mem_take hclient), htended⟩
    · exact ⟨client', mem_of_mem_drop hclient', .refl _⟩
  · exact fun fr => rfl
  · exact fun fr => tendedList_setAnnounceNodeInList _ publicKey

theorem housekeeping_handleDataSearchResponse (packet : DHTPacket) :
    Housekeeping dht (dht.handleDataSearchResponse box env packet) := by
  unfold handleDataSearchResponse
  simp only
  split
  · exact .refl dht
  · split
    · exact .refl dht
    · split
      · exact .refl dht
      · split
        · exact ⟨rfl, rfl, rfl, rfl, .refl _, List.Subset.refl _⟩
        · rename_i dhtPingArray _
          have hping : Housekeeping dht { dht with dhtPingArray } :=
            ⟨rfl, rfl, rfl, rfl, .refl _, List.Subset.refl _⟩
          split
          · exact hping.trans (housekeeping_setAnnounceNode _ _)
          · exact hping

theorem housekeeping_pingNodeFromGetnodesOk (publicKey : PublicKey) (ipPort : IPPort) :
    Housekeeping dht (dht.pingNodeFromGetnodesOk box env publicKey ipPort) := by
  unfold pingNodeFromGetnodesOk
  simp only
  refine (housekeeping_toBootstrap dht _).trans (Housekeeping.mapFriends _ ?_ ?_)
  · intro fr
    unfold pingNodeFriend
    simp only
    split <;> rfl
  · intro fr
    unfold pingNodeFriend
    simp only
    split <;> exact .refl _

theorem housekeeping_returnedNodes (nodePublicKey : PublicKey) (nodes : List NodeFormat) :
    Housekeeping dht (nodes.foldl (returnedNode box env nodePublicKey) dht) := by
  apply Housekeeping.foldl
  intro d node
  unfold returnedNode
  split
  · exact (housekeeping_pingNodeFromGetnodesOk d box env _ _).trans (housekeeping_returnedipPorts _ env _ _ _)
  · exact .refl d

end DHT

end Toxcore

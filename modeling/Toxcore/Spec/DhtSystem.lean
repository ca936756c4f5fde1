import Toxcore.Native.DHTSave
import Toxcore.Spec.DhtHousekeeping
import Toxcore.Spec.NodeFormatCorrect
import Toxcore.ForStd.TransitionSystem

/-!
# Runs of the DHT

`DHT.step` is what the DHT does with one input: a call of another module, a packet, or one
round of its main loop.
-/

namespace Toxcore

open List

/-! ## Adding nodes -/

def takesOver (list : List ClientData) (publicKey : PublicKey) (ipPort : IPPort) : Prop :=
  indexOfClientPk list publicKey = none ∧ (indexOfClientIpPort list ipPort).isSome

instance (list : List ClientData) (publicKey : PublicKey) (ipPort : IPPort) :
    Decidable (takesOver list publicKey ipPort) :=
  inferInstanceAs (Decidable (_ ∧ _))

/-- What `addto_lists` does to an entry; `taken` is whether entries may be taken over. -/
inductive Added (now : UInt64) (publicKey : PublicKey) (ipPort : IPPort) (taken : Prop)
    (client : ClientData) : ClientData → Prop where
  | kept : Added now publicKey ipPort taken client client
  | updated : client.publicKey = publicKey →
      Added now publicKey ipPort taken client (updateClient now ipPort client)
  | takenOver : taken → Added now publicKey ipPort taken client (takeOver now publicKey ipPort client)
  | stored {client' : ClientData} :
      Tended (updateClientWithReset now ipPort { client with publicKey }) client' →
      Added now publicKey ipPort taken client client'

section Added

variable {now curTime : UInt64} {publicKey compPublicKey : PublicKey} {ipPort : IPPort}
  {list : List ClientData} {client client' : ClientData} {calloc : Bool} {taken : Prop}

theorem Added.mono {taken' : Prop} (h : Added now publicKey ipPort taken client client')
    (htaken : taken → taken') : Added now publicKey ipPort taken' client client' := by
  cases h with
  | kept => exact .kept
  | updated hpk => exact .updated hpk
  | takenOver ht => exact .takenOver (htaken ht)
  | stored ht => exact .stored ht

theorem publicKey_of_indexOfClientPk {index : Nat} (h : indexOfClientPk list publicKey = some index)
    (hclient : list[index]? = some client) : client.publicKey = publicKey := by
  obtain ⟨hlt, hpk, -⟩ := findIdx?_eq_some_iff_getElem.mp h
  rw [getElem?_eq_getElem hlt] at hclient
  cases hclient
  exact eq_of_beq hpk

theorem added_clientOrIpPortInList (h : client' ∈ (clientOrIpPortInList now list publicKey ipPort).2) :
    ∃ client ∈ list, Added now publicKey ipPort (takesOver list publicKey ipPort) client client' := by
  unfold clientOrIpPortInList at h
  split at h
  · rename_i index hindex
    rcases mem_updateAt h with h | ⟨client, hclient, rfl⟩
    · exact ⟨client', h, .kept⟩
    · exact ⟨client, mem_of_getElem? hclient, .updated (publicKey_of_indexOfClientPk hindex hclient)⟩
  · rename_i hindex
    split at h
    · exact ⟨client', h, .kept⟩
    · rename_i hipPort
      rcases mem_updateAt h with h | ⟨client, hclient, rfl⟩
      · exact ⟨client', h, .kept⟩
      · exact ⟨client, mem_of_getElem? hclient, .takenOver ⟨hindex, by rw [hipPort]; rfl⟩⟩

theorem clientOrIpPortInList_of_false (h : (clientOrIpPortInList now list publicKey ipPort).1 = false) :
    (clientOrIpPortInList now list publicKey ipPort).2 = list := by
  unfold clientOrIpPortInList at h ⊢
  split at h
  · cases h
  · split at h
    · rfl
    · cases h

theorem added_replaceAll
    (h : client' ∈ (replaceAll now curTime calloc list publicKey ipPort compPublicKey).2) :
    ∃ client ∈ list, Added now publicKey ipPort taken client client' := by
  unfold replaceAll at h
  split at h
  · exact ⟨client', h, .kept⟩
  · split at h
    · exact ⟨client', h, .kept⟩
    · rcases mem_updateAt h with h | ⟨client, hclient, rfl⟩
      · exact ⟨client', mem_sortClientList.mp h, .kept⟩
      · exact ⟨client, mem_sortClientList.mp (mem_of_getElem? hclient), .stored (.refl _)⟩

end Added

namespace DHT

/-- One of the lists that `addto_lists` goes through has an entry that is taken over. -/
def TakesOver (dht : DHT) (publicKey : PublicKey) (ipPort : IPPort) : Prop :=
  takesOver dht.closeClientlist publicKey ipPort ∨ ∃ fr ∈ dht.friends, takesOver fr.clientList publicKey ipPort

instance (dht : DHT) (publicKey : PublicKey) (ipPort : IPPort) :
    Decidable (dht.TakesOver publicKey ipPort) :=
  inferInstanceAs (Decidable (_ ∨ _))

/-- The entries after a key was seen at an address; the friends and their locks are the
    same. -/
structure Adds (now : UInt64) (publicKey : PublicKey) (ipPort : IPPort) (dht dht' : DHT) : Prop where
  selfPublicKey : dht'.selfPublicKey = dht.selfPublicKey
  selfSecretKey : dht'.selfSecretKey = dht.selfSecretKey
  numFriends : dht'.numFriends = dht.numFriends
  locked : dht'.friendsList.map (·.locked) = dht.friendsList.map (·.locked)
  clients : ∀ client' ∈ dht'.clients, ∃ client ∈ dht.clients,
    Added now publicKey ipPort (dht.TakesOver publicKey ipPort) client client'
  loaded : dht'.loadedNodesList = dht.loadedNodesList

variable (dht : DHT) (box : CryptoBox) (env : DhtEnv)

theorem added_addtoFriend {curTime : UInt64} {publicKey : PublicKey} {ipPort : IPPort} {fr : DHTFriend}
    {client' : ClientData} (h : client' ∈ (addtoFriend curTime env publicKey ipPort fr).2.clientList) :
    ∃ client ∈ fr.clientList,
      Added env.now publicKey ipPort (takesOver fr.clientList publicKey ipPort) client client' := by
  unfold addtoFriend at h
  have hfound : (clientOrIpPortInList env.now fr.clientList publicKey ipPort).1 = false →
      (clientOrIpPortInList env.now fr.clientList publicKey ipPort).2 = fr.clientList :=
    clientOrIpPortInList_of_false
  split at h
  · rename_i heq
    exact added_clientOrIpPortInList (by rw [heq]; exact h)
  · rename_i heq
    rw [heq] at hfound
    obtain rfl := hfound rfl
    exact added_replaceAll h

theorem locked_addtoFriend (curTime : UInt64) (publicKey : PublicKey) (ipPort : IPPort)
    (fr : DHTFriend) : (addtoFriend curTime env publicKey ipPort fr).2.locked = fr.locked := by
  unfold addtoFriend
  split <;> rfl

theorem addtoCloseList_spec (publicKey : PublicKey) (ipPort : IPPort) :
    ∃ closeClientlist,
      SameLists { dht with closeClientlist } (dht.addtoCloseList box env publicKey ipPort).2 ∧
      ∀ client' ∈ closeClientlist, ∃ client ∈ dht.closeClientlist, Added env.now publicKey ipPort
        (takesOver dht.closeClientlist publicKey ipPort) client client' := by
  unfold addtoCloseList
  have hfound : (clientOrIpPortInList env.now dht.closeClientlist publicKey ipPort).1 = false →
      (clientOrIpPortInList env.now dht.closeClientlist publicKey ipPort).2 =
        dht.closeClientlist :=
    clientOrIpPortInList_of_false
  split
  · rename_i closeClientlist heq
    refine ⟨closeClientlist, .refl _, fun client' h => ?_⟩
    exact added_clientOrIpPortInList (by rw [heq]; exact h)
  · rename_i heq
    rw [heq] at hfound
    obtain rfl := hfound rfl
    simp only [addToClose]
    split
    · exact ⟨dht.closeClientlist, .refl dht, fun client' h => ⟨client', h, .kept⟩⟩
    · refine ⟨_, sameLists_sendAnnouncePing _ box env publicKey ipPort, fun client' h => ?_⟩
      rcases mem_updateAt h with h | ⟨client, hclient, rfl⟩
      · exact ⟨client', h, .kept⟩
      · exact ⟨client, mem_of_getElem? hclient, .stored ⟨rfl, rfl, rfl, id, id⟩⟩

theorem adds_addtoLists (ipPort : IPPort) (publicKey : PublicKey) :
    Adds env.now publicKey (ipPortNormalize ipPort) dht (dht.addtoLists box env ipPort publicKey).2 := by
  unfold addtoLists
  obtain ⟨closeClientlist, hsame, hclose⟩ :=
    addtoCloseList_spec dht box env publicKey (ipPortNormalize ipPort)
  simp only
  generalize (dht.addtoCloseList box env publicKey (ipPortNormalize ipPort)).2 = d at hsame ⊢
  have hfriends : d.friends = dht.friends := by
    unfold friends
    rw [hsame.friendsList, hsame.numFriends]
  constructor
  · exact hsame.selfPublicKey
  · exact hsame.selfSecretKey
  · exact hsame.numFriends
  · unfold mapFriends
    rw [map_append, map_map]
    simp only [Function.comp_def, locked_addtoFriend]
    rw [← map_append, friends, take_append_drop, hsame.friendsList]
  · intro client' h
    rcases mem_clients.mp h with h | ⟨fr', hfr', h⟩
    · have hlist : d.closeClientlist = closeClientlist := hsame.closeClientlist
      obtain ⟨client, hclient, hadded⟩ := hclose client' (hlist ▸ h)
      exact ⟨client, mem_clients.mpr (.inl hclient), hadded.mono .inl⟩
    · rcases mem_append.mp hfr' with hfr' | hfr'
      · obtain ⟨fr, hfr, rfl⟩ := mem_map.mp hfr'
        rw [hfriends] at hfr
        obtain ⟨client, hclient, hadded⟩ := added_addtoFriend env h
        exact ⟨client, mem_clients.mpr (.inr ⟨fr, mem_of_mem_take hfr, hclient⟩),
          hadded.mono fun ht => .inr ⟨fr, hfr, ht⟩⟩
      · have hfr' : fr' ∈ dht.friendsList := hsame.friendsList ▸ mem_of_mem_drop hfr'
        exact ⟨client', mem_clients.mpr (.inr ⟨fr', hfr', h⟩), .kept⟩
  · exact hsame.loadedNodesList

/-! ## Friends -/

theorem clientList_dhtFriendLock (fr : DHTFriend) (callback : DHTFriendCallback) :
    (fr.dhtFriendLock callback).2.clientList = fr.clientList := by
  unfold DHTFriend.dhtFriendLock
  split <;> rfl

theorem clientList_dhtFriendUnlock (fr : DHTFriend) (token : BitVec 32) :
    (fr.dhtFriendUnlock token).clientList = fr.clientList := by
  unfold DHTFriend.dhtFriendUnlock
  split <;> rfl

theorem mem_clients_of_friends {dht dht' : DHT} {client : ClientData} (h : client ∈ dht'.clients)
    (hclose : dht'.closeClientlist = dht.closeClientlist)
    (hfriends : ∀ fr' ∈ dht'.friendsList, client ∈ fr'.clientList →
      client = emptyClientData ∨ ∃ fr ∈ dht.friendsList, fr'.clientList = fr.clientList) :
    client = emptyClientData ∨ client ∈ dht.clients := by
  rcases mem_clients.mp h with h | ⟨fr', hfr', h⟩
  · exact .inr (mem_clients.mpr (.inl (hclose ▸ h)))
  · rcases hfriends fr' hfr' h with hempty | ⟨fr, hfr, hlist⟩
    · exact .inl hempty
    · exact .inr (mem_clients.mpr (.inr ⟨fr, hfr, hlist ▸ h⟩))

theorem clients_dhtAddfriend (publicKey : PublicKey) (callback : DHTFriendCallback) (lockToken : BitVec 32)
    {client : ClientData} (h : client ∈ (dht.dhtAddfriend env publicKey callback lockToken).2.2.clients) :
    client = emptyClientData ∨ client ∈ dht.clients := by
  unfold dhtAddfriend at h
  simp only at h
  split at h
  · split at h
    · exact .inr h
    · rename_i fr hfr
      split at h
      · exact .inr h
      · refine mem_clients_of_friends h rfl fun fr' hfr' _ => .inr ?_
        rcases mem_or_eq_of_mem_set hfr' with hfr' | rfl
        · exact ⟨fr', hfr', rfl⟩
        · exact ⟨fr, mem_of_getElem? hfr, clientList_dhtFriendLock fr callback⟩
  · split at h
    · exact .inr h
    · refine mem_clients_of_friends h rfl fun fr' hfr' hmem => ?_
      rcases mem_append.mp hfr' with hfr' | hfr'
      · exact .inr ⟨fr', mem_of_mem_take hfr', rfl⟩
      · obtain rfl := mem_singleton.mp hfr'
        -- the list of the new friend is empty
        simp only [clientList_dhtFriendLock] at hmem
        exact .inl (eq_of_mem_replicate hmem)

theorem loadedNodesList_dhtAddfriend (publicKey : PublicKey) (callback : DHTFriendCallback)
    (lockToken : BitVec 32) :
    (dht.dhtAddfriend env publicKey callback lockToken).2.2.loadedNodesList =
      dht.loadedNodesList := by
  unfold dhtAddfriend
  simp only
  split
  · split
    · rfl
    · split <;> rfl
  · split <;> rfl

theorem loadedNodesList_dhtDelfriend (publicKey : PublicKey) (lockToken : BitVec 32) :
    (dht.dhtDelfriend env publicKey lockToken).2.loadedNodesList = dht.loadedNodesList := by
  unfold dhtDelfriend
  split
  · rfl
  · split
    · rfl
    · simp only
      split_ifs <;> rfl

theorem moveLast_subset {friendsList : List DHTFriend} {numFriends friendNum : Nat} :
    moveLast friendsList numFriends friendNum ⊆ friendsList := by
  intro fr hfr
  unfold moveLast at hfr
  split at hfr
  · exact hfr
  · rename_i last hlast
    split at hfr
    · rcases mem_or_eq_of_mem_set hfr with hfr | rfl
      · exact hfr
      · exact mem_of_getElem? hlast
    · exact hfr

theorem clients_dhtDelfriend (publicKey : PublicKey) (lockToken : BitVec 32) {client : ClientData}
    (h : client ∈ (dht.dhtDelfriend env publicKey lockToken).2.clients) :
    client = emptyClientData ∨ client ∈ dht.clients := by
  unfold dhtDelfriend at h
  split at h
  · exact .inr h
  · rename_i i _
    split at h
    · exact .inr h
    · rename_i fr hfr
      -- the unlocked friend has the same list
      have hset : ∀ fr' ∈ dht.friendsList.set i (fr.dhtFriendUnlock lockToken),
          ∃ fr ∈ dht.friendsList, fr'.clientList = fr.clientList := by
        intro fr' hfr'
        rcases mem_or_eq_of_mem_set hfr' with hfr' | rfl
        · exact ⟨fr', hfr', rfl⟩
        · exact ⟨fr, mem_of_getElem? hfr, clientList_dhtFriendUnlock fr lockToken⟩
      simp only at h
      split at h
      · exact mem_clients_of_friends h rfl fun fr' hfr' _ => .inr (hset fr' hfr')
      · have hmoved : ∀ fr' ∈ moveLast (dht.friendsList.set i (fr.dhtFriendUnlock lockToken))
              (dht.numFriends - 1).toNat i,
            ∃ fr ∈ dht.friendsList, fr'.clientList = fr.clientList :=
          fun fr' hfr' => hset fr' (moveLast_subset hfr')
        split at h
        · exact mem_clients_of_friends h rfl fun fr' hfr' _ => absurd hfr' not_mem_nil
        · split at h
          · exact mem_clients_of_friends h rfl fun fr' hfr' _ => .inr (hmoved fr' hfr')
          · exact mem_clients_of_friends h rfl fun fr' hfr' _ =>
              .inr (hmoved fr' (mem_of_mem_take hfr'))

end DHT

/-! ## Loading -/

theorem stateLoadLoop_invariant {σ : Type} {P : σ → Prop}
    {callback : σ → Bytes → UInt16 → StateLoadStatus × σ} {cookieInner : UInt16}
    (hcallback : ∀ outer data type, P outer → P (callback outer data type).2) (fuel : Nat)
    (outer : σ) (data : Bytes) (h : P outer) :
    P (stateLoadLoop callback cookieInner fuel outer data).2 := by
  induction fuel generalizing outer data with
  | zero => exact h
  | succ fuel ih =>
    unfold stateLoadLoop
    simp only
    split_ifs
    · exact h
    · exact h
    · exact h
    · have hnext := hcallback outer ((data.drop sizeHead).take (lendianBytesToHost32 data).toNat)
        (lendianBytesToHost32 (data.drop 4)).toUInt16 h
      split
      · rename_i heq
        rw [heq] at hnext
        exact ih _ _ hnext
      · rename_i heq
        rwa [heq] at hnext
      · rename_i heq
        rwa [heq] at hnext

namespace DHT

/-- `dht_load` changes only the loaded nodes, and the new ones are UDP nodes. -/
def Loads (dht dht' : DHT) : Prop :=
  ∃ nodes, dht' = { dht with loadedNodesList := nodes } ∧
    ∀ node ∈ nodes, node ∈ dht.loadedNodesList ∨ node.ipPort.isUdp

theorem loads_dhtLoadStateCallback {dht dht' : DHT} (h : Loads dht dht') (calloc : Bool)
    (data : Bytes) (type : UInt16) :
    Loads dht (dhtLoadStateCallback calloc dht' data type).2 := by
  obtain ⟨nodes, rfl, hnodes⟩ := h
  unfold dhtLoadStateCallback
  split_ifs
  · exact ⟨nodes, rfl, hnodes⟩
  · exact ⟨[], rfl, by simp⟩
  · split
    · exact ⟨[], rfl, by simp⟩
    · rename_i heq
      unfold unpackNodes at heq
      split at heq
      · cases heq
      · rename_i hloop
        cases heq
        exact ⟨_, rfl, fun node hnode => .inr (isUdp_of_unpackNodesLoop hloop node hnode)⟩
  · exact ⟨nodes, rfl, hnodes⟩

theorem loads_dhtLoad (dht : DHT) (calloc : Bool) (data : Bytes) :
    Loads dht (dht.dhtLoad calloc data).2 := by
  have hsame : Loads dht dht := ⟨dht.loadedNodesList, rfl, fun node hnode => .inl hnode⟩
  unfold dhtLoad
  split
  · split
    · exact stateLoadLoop_invariant (P := Loads dht)
        (fun _ data type h => loads_dhtLoadStateCallback h calloc data type) _ dht _ hsame
    · exact hsame
  · exact hsame

end DHT

/-! ## Runs -/

inductive DhtInput where
  | addfriend (publicKey : PublicKey) (callback : DHTFriendCallback) (lockToken : BitVec 32)
  /-- `dht_delfriend` -/
  | delfriend (publicKey : PublicKey) (lockToken : BitVec 32)
  /-- `addto_lists`, which the `Ping` module calls for a ping response -/
  | addto (ipPort : IPPort) (publicKey : PublicKey)
  /-- `handle_getnodes` -/
  | getnodesPacket (source : IPPort) (packet : DHTPacket)
  /-- `handle_sendnodes_ipv6` -/
  | sendnodesPacket (source : IPPort) (packet : DHTPacket)
  | dataSearchResponse (packet : DHTPacket)
  /-- `dht_getnodes` -/
  | getnodes (ipPort : IPPort) (publicKey clientId : PublicKey)
  /-- `dht_bootstrap` -/
  | bootstrap (node : NodeFormat)
  /-- `do_dht` -/
  | iterate
  /-- `dht_load`, and whether its allocation succeeds -/
  | load (calloc : Bool) (data : Bytes)

def DhtInput.IsUdp : DhtInput → Prop
  | .addto ipPort _ => ipPort.isUdp
  | .getnodesPacket source _ => source.isUdp
  | .sendnodesPacket source _ => source.isUdp
  | _ => True

namespace DHT

def step (box : CryptoBox) (env : DhtEnv) (dht : DHT) : DhtInput → DHT
  | .addfriend publicKey callback lockToken =>
    (dht.dhtAddfriend env publicKey callback lockToken).2.2
  | .delfriend publicKey lockToken => (dht.dhtDelfriend env publicKey lockToken).2
  | .addto ipPort publicKey => (dht.addtoLists box env ipPort publicKey).2
  | .getnodesPacket source packet => (dht.handleGetnodes box env source packet).2
  | .sendnodesPacket source packet => dht.handleSendnodesIpv6 box env source packet
  | .dataSearchResponse packet => dht.handleDataSearchResponse box env packet
  | .getnodes ipPort publicKey clientId => (dht.dhtGetnodes box env ipPort publicKey clientId).2
  | .bootstrap node => dht.dhtBootstrap box env node
  | .iterate => dht.doDht box env
  | .load calloc data => (dht.dhtLoad calloc data).2

def addtoCall (box : CryptoBox) (env : DhtEnv) (dht : DHT) : DhtInput → Option (IPPort × PublicKey)
  | .addto ipPort publicKey => some (ipPort, publicKey)
  | .sendnodesPacket source packet =>
    if (dht.checkSendnodes box env source packet maxSentNodes).1.isSome then
      some (source, packet.publicKey)
    else none
  | _ => none

variable {dht dht' : DHT} {box : CryptoBox} {env : DhtEnv}

theorem SameLists.friends (h : SameLists dht dht') : dht'.friends = dht.friends := by
  unfold DHT.friends
  rw [h.friendsList, h.numFriends]

/-- What a step is: one of three calls, housekeeping, or a call of `addto_lists` and housekeeping. -/
inductive StepCase (dht : DHT) (box : CryptoBox) (env : DhtEnv) : DhtInput → Prop
  | addfriend (publicKey callback lockToken) : StepCase dht box env (.addfriend publicKey callback lockToken)
  | delfriend (publicKey lockToken) : StepCase dht box env (.delfriend publicKey lockToken)
  | load (calloc data) : StepCase dht box env (.load calloc data)
  | keeps {input} (hkeep : Housekeeping dht (dht.step box env input)) : StepCase dht box env input
  | adds {input ipPort publicKey} (d : DHT) (hcall : dht.addtoCall box env input = some (ipPort, publicKey))
      (hsame : SameLists dht d)
      (hkeep : Housekeeping (d.addtoLists box env ipPort publicKey).2 (dht.step box env input)) :
      StepCase dht box env input

theorem stepCase (dht : DHT) (box : CryptoBox) (env : DhtEnv) (input : DhtInput) : StepCase dht box env input := by
  cases input with
  | addfriend | delfriend | load => constructor
  | addto ipPort publicKey => exact .adds dht rfl (.refl dht) (.refl _)
  | getnodesPacket source packet => exact .keeps (sameLists_handleGetnodes dht box env source packet).housekeeping
  | sendnodesPacket source packet =>
    have hcheck := sameLists_checkSendnodes dht box env source packet maxSentNodes
    rcases heq : dht.checkSendnodes box env source packet maxSentNodes with ⟨_ | nodes, d⟩
    · rw [heq] at hcheck
      refine .keeps ?_
      rw [step, handleSendnodesIpv6, handleSendnodesCore, heq]
      exact hcheck.housekeeping
    · rw [heq] at hcheck
      refine .adds d (by rw [addtoCall, heq]; rfl) hcheck ?_
      rw [step, handleSendnodesIpv6, handleSendnodesCore, heq]
      exact housekeeping_returnedNodes _ box env _ _
  | dataSearchResponse packet => exact .keeps (housekeeping_handleDataSearchResponse dht box env packet)
  | getnodes ipPort publicKey clientId => exact .keeps (sameLists_dhtGetnodes dht box env _ _ _).housekeeping
  | bootstrap node => exact .keeps (sameLists_dhtBootstrap dht box env node).housekeeping
  | iterate => exact .keeps (housekeeping_doDht dht box env)

/-- What one step does to the entries of the client lists. -/
abbrev ClientOrigin (dht : DHT) (box : CryptoBox) (env : DhtEnv) (input : DhtInput) (client' : ClientData) : Prop :=
  client' = emptyClientData ∨ ∃ client ∈ dht.clients, Tended client client' ∨
    ∃ ipPort publicKey added, dht.addtoCall box env input = some (ipPort, publicKey) ∧
      Added env.now publicKey (ipPortNormalize ipPort) (dht.TakesOver publicKey (ipPortNormalize ipPort)) client added ∧
      Tended added client'

theorem clients_step (input : DhtInput) {client' : ClientData}
    (h : client' ∈ (dht.step box env input).clients) : dht.ClientOrigin box env input client' := by
  cases stepCase dht box env input with
  | addfriend publicKey callback lockToken =>
    rcases clients_dhtAddfriend dht env publicKey callback lockToken h with h | h
    · exact .inl h
    · exact .inr ⟨client', h, .inl (.refl _)⟩
  | delfriend publicKey lockToken =>
    rcases clients_dhtDelfriend dht env publicKey lockToken h with h | h
    · exact .inl h
    · exact .inr ⟨client', h, .inl (.refl _)⟩
  | load calloc data =>
    obtain ⟨nodes, heq, -⟩ := loads_dhtLoad dht calloc data
    rw [step, heq] at h
    exact .inr ⟨client', h, .inl (.refl _)⟩
  | keeps hkeep =>
    obtain ⟨client, hclient, htended⟩ := hkeep.clients client' h
    exact .inr ⟨client, hclient, .inl htended⟩
  | @adds _ ipPort publicKey d hcall hsame hkeep =>
    obtain ⟨added, hadded, htended⟩ := hkeep.clients client' h
    obtain ⟨client, hclient, hadded⟩ := (adds_addtoLists d box env ipPort publicKey).clients added hadded
    -- the checks before the call do not touch the lists
    have hclients : d.clients = dht.clients := by
      unfold clients
      rw [hsame.closeClientlist, hsame.friendsList]
    have htakes : d.TakesOver publicKey (ipPortNormalize ipPort) ↔ dht.TakesOver publicKey (ipPortNormalize ipPort) := by
      unfold TakesOver
      rw [hsame.closeClientlist, hsame.friends]
    rw [hclients] at hclient
    exact .inr ⟨client, hclient, .inr ⟨ipPort, publicKey, added, hcall, hadded.mono htakes.mp, htended⟩⟩

/-- The locks change only in `dht_addfriend` and `dht_delfriend`. -/
theorem locked_step {input : DhtInput} (hadd : ∀ pk cb token, input ≠ .addfriend pk cb token)
    (hdel : ∀ pk token, input ≠ .delfriend pk token) :
    (dht.step box env input).numFriends = dht.numFriends ∧
      (dht.step box env input).friendsList.map (·.locked) = dht.friendsList.map (·.locked) := by
  cases stepCase dht box env input with
  | addfriend publicKey callback lockToken => exact absurd rfl (hadd _ _ _)
  | delfriend publicKey lockToken => exact absurd rfl (hdel _ _)
  | load calloc data =>
    obtain ⟨nodes, heq, -⟩ := loads_dhtLoad dht calloc data
    rw [step, heq]
    exact ⟨rfl, rfl⟩
  | keeps hkeep => exact ⟨hkeep.numFriends, hkeep.locked⟩
  | @adds _ ipPort publicKey d hcall hsame hkeep =>
    have h := adds_addtoLists d box env ipPort publicKey
    refine ⟨hkeep.numFriends.trans (h.numFriends.trans hsame.numFriends), ?_⟩
    exact hkeep.locked.trans (h.locked.trans (by rw [hsame.friendsList]))

theorem selfSecretKey_dhtAddfriend (dht : DHT) (env : DhtEnv) (publicKey : PublicKey)
    (callback : DHTFriendCallback) (lockToken : BitVec 32) :
    (dht.dhtAddfriend env publicKey callback lockToken).2.2.selfSecretKey = dht.selfSecretKey := by
  unfold dhtAddfriend
  simp only
  split
  · split
    · rfl
    · split <;> rfl
  · split <;> rfl

theorem selfSecretKey_dhtDelfriend (dht : DHT) (env : DhtEnv) (publicKey : PublicKey)
    (lockToken : BitVec 32) :
    (dht.dhtDelfriend env publicKey lockToken).2.selfSecretKey = dht.selfSecretKey := by
  unfold dhtDelfriend
  split
  · rfl
  · split
    · rfl
    · simp only
      split_ifs <;> rfl

theorem selfSecretKey_step (input : DhtInput) : (dht.step box env input).selfSecretKey = dht.selfSecretKey := by
  cases stepCase dht box env input with
  | addfriend publicKey callback lockToken => exact selfSecretKey_dhtAddfriend dht env _ _ _
  | delfriend publicKey lockToken => exact selfSecretKey_dhtDelfriend dht env _ _
  | load calloc data =>
    obtain ⟨nodes, heq, -⟩ := loads_dhtLoad dht calloc data
    rw [step, heq]
  | keeps hkeep => exact hkeep.selfSecretKey
  | @adds _ ipPort publicKey d hcall hsame hkeep =>
    have h := adds_addtoLists d box env ipPort publicKey
    exact hkeep.selfSecretKey.trans (h.selfSecretKey.trans hsame.selfSecretKey)

theorem clients_newDht {rng : Rng} {selfPublicKey : PublicKey} {selfSecretKey : SecretKey}
    (h : newDht env rng selfPublicKey selfSecretKey = some dht) :
    (∀ client ∈ dht.clients, client = emptyClientData) ∧ dht.loadedNodesList = [] := by
  -- adding a fake friend keeps this
  have hadd : ∀ {d d' : DHT}, addFakeFriend env d = some d' →
      ((∀ client ∈ d.clients, client = emptyClientData) ∧ d.loadedNodesList = []) →
      (∀ client ∈ d'.clients, client = emptyClientData) ∧ d'.loadedNodesList = [] := by
    intro d d' heq hd
    have hclients := @clients_dhtAddfriend { d with rng := d.rng.randomKey.2 } env
      d.rng.randomKey.1 emptyCallback 0
    have hloaded := loadedNodesList_dhtAddfriend { d with rng := d.rng.randomKey.2 } env
      d.rng.randomKey.1 emptyCallback 0
    unfold addFakeFriend at heq
    simp only at heq
    split at heq
    · cases heq
    · rename_i hres
      cases heq
      rw [hres] at hclients hloaded
      refine ⟨fun client hclient => ?_, hloaded.trans hd.2⟩
      rcases hclients hclient with hempty | hclient
      · exact hempty
      · exact hd.1 client hclient
  unfold newDht at h
  simp only [Option.bind_eq_bind, Option.bind_eq_some_iff] at h
  obtain ⟨dhtPingArray, -, dht1, h1, dht2, h2, h⟩ := h
  split at h
  · cases h
  · cases h
    refine hadd h2 (hadd h1 ⟨fun client hclient => ?_, rfl⟩)
    rcases mem_clients.mp hclient with hclient | ⟨fr, hfr, -⟩
    · exact eq_of_mem_replicate hclient
    · exact absurd hfr not_mem_nil

end DHT

/-! ## Address families -/

structure ClientData.Families (client : ClientData) : Prop where
  assoc4 : client.assoc4.ipPort.isIpv4 ∨ client.assoc4.ipPort = emptyIpPort ∧ client.assoc4.timestamp = 0
  assoc6 : client.assoc6.ipPort.isIpv6 ∨ client.assoc6.ipPort = emptyIpPort ∧ client.assoc6.timestamp = 0

theorem families_emptyClientData : emptyClientData.Families := ⟨.inr ⟨rfl, rfl⟩, .inr ⟨rfl, rfl⟩⟩

theorem ClientData.Families.tended {client client' : ClientData} (h : client.Families)
    (htended : Tended client client') : client'.Families := by
  constructor
  · rw [htended.ipPort4]
    exact h.assoc4.imp_right fun hempty => ⟨hempty.1, htended.timestamp4 hempty.2⟩
  · rw [htended.ipPort6]
    exact h.assoc6.imp_right fun hempty => ⟨hempty.1, htended.timestamp6 hempty.2⟩

theorem ClientData.Families.added {client client' : ClientData} {now : UInt64}
    {publicKey : PublicKey} {ipPort : IPPort} {taken : Prop} (h : client.Families)
    (hudp : ipPort.isUdp) (hadded : Added now publicKey ipPort taken client client') :
    client'.Families := by
  have hupdate : ∀ {p : IPPort → Bool} {assoc : IPPTsPng}, p ipPort →
      (p assoc.ipPort ∨ assoc.ipPort = emptyIpPort ∧ assoc.timestamp = 0) →
      (p (updateAssoc now ipPort assoc).ipPort ∨
        (updateAssoc now ipPort assoc).ipPort = emptyIpPort ∧
          (updateAssoc now ipPort assoc).timestamp = 0) := by
    intro p assoc hp hassoc
    unfold updateAssoc
    split
    · exact hassoc
    · exact .inl hp
  have hv6 : ¬ipPort.isIpv4 → ipPort.isIpv6 := by
    intro h4
    simpa [IPPort.isUdp, h4] using hudp
  cases hadded with
  | kept => exact h
  | updated _ =>
    unfold updateClient
    split_ifs with h4 h6
    · exact ⟨hupdate h4 h.assoc4, h.assoc6⟩
    · exact ⟨h.assoc4, hupdate h6 h.assoc6⟩
    · exact h
  | takenOver _ =>
    unfold takeOver
    split
    · exact ⟨.inr ⟨rfl, rfl⟩, h.assoc6⟩
    · exact ⟨h.assoc4, .inr ⟨rfl, rfl⟩⟩
  | stored htended =>
    refine ClientData.Families.tended ?_ htended
    unfold updateClientWithReset
    split_ifs with h4
    · exact ⟨.inl h4, .inr ⟨rfl, rfl⟩⟩
    · exact ⟨.inr ⟨rfl, rfl⟩, .inl (hv6 h4)⟩

theorem isUdp_ipPortNormalize {ipPort : IPPort} (h : ipPort.isUdp) : (ipPortNormalize ipPort).isUdp := by
  unfold ipPortNormalize
  split
  · exact IPPort.isUdp_iff.mpr (.inl rfl)
  · exact h

namespace DHT

variable {dht : DHT} {box : CryptoBox} {env : DhtEnv}

theorem loaded_step (input : DhtInput) {node : NodeFormat}
    (h : node ∈ (dht.step box env input).loadedNodesList) :
    node ∈ dht.loadedNodesList ∨ node.ipPort.isUdp := by
  cases stepCase dht box env input with
  | addfriend publicKey callback lockToken =>
    rw [step, loadedNodesList_dhtAddfriend] at h
    exact .inl h
  | delfriend publicKey lockToken =>
    rw [step, loadedNodesList_dhtDelfriend] at h
    exact .inl h
  | load calloc data =>
    obtain ⟨nodes, heq, hnodes⟩ := loads_dhtLoad dht calloc data
    rw [step, heq] at h
    exact hnodes node h
  | keeps hkeep => exact .inl (hkeep.loaded h)
  | @adds _ ipPort publicKey d hcall hsame hkeep =>
    have hnode := hkeep.loaded h
    rw [(adds_addtoLists d box env ipPort publicKey).loaded, hsame.loadedNodesList] at hnode
    exact .inl hnode

theorem isUdp_of_addtoCall {input : DhtInput} {ipPort : IPPort} {publicKey : PublicKey}
    (hudp : input.IsUdp) (h : dht.addtoCall box env input = some (ipPort, publicKey)) :
    ipPort.isUdp := by
  cases input with
  | addto ipPort' publicKey' =>
    cases h
    exact hudp
  | sendnodesPacket source packet =>
    simp only [addtoCall] at h
    split at h
    · cases h
      exact hudp
    · cases h
  | addfriend | delfriend | getnodesPacket | dataSearchResponse | getnodes | bootstrap | iterate
  | load => exact nomatch h

def dhtSystem (box : CryptoBox) : TransitionSystem DHT where
  init dht := ∃ env rng selfPublicKey selfSecretKey, newDht env rng selfPublicKey selfSecretKey = some dht
  step dht dht' := ∃ env input, input.IsUdp ∧ dht' = dht.step box env input

structure Families (dht : DHT) : Prop where
  clients : ∀ client ∈ dht.clients, client.Families
  loaded : ∀ node ∈ dht.loadedNodesList, node.ipPort.isUdp

theorem families_of_reachable (h : (dhtSystem box).Reachable dht) : dht.Families := by
  refine TransitionSystem.Reachable.invariant ?_ ?_ h
  · rintro dht ⟨env, rng, pk, sk, hnew⟩
    obtain ⟨hclients, hloaded⟩ := clients_newDht hnew
    refine ⟨fun client hclient => ?_, ?_⟩
    · rw [hclients client hclient]
      exact families_emptyClientData
    · simp [hloaded]
  · rintro dht _ hdht ⟨env, input, hudp, rfl⟩
    refine ⟨fun client' hclient' => ?_, fun node hnode => ?_⟩
    · rcases clients_step input hclient' with rfl | ⟨client, hclient, hcase⟩
      · exact families_emptyClientData
      · rcases hcase with htended | ⟨ipPort, publicKey, added, hcall, hadded, htended⟩
        · exact (hdht.clients client hclient).tended htended
        · refine ((hdht.clients client hclient).added ?_ hadded).tended htended
          -- the source of a packet is a UDP address
          exact isUdp_ipPortNormalize (isUdp_of_addtoCall hudp hcall)
    · rcases loaded_step input hnode with hnode | hudp
      · exact hdht.loaded node hnode
      · exact hudp

end DHT

/-! ## A fresh DHT -/

def DhtEnv.good (now : UInt64) : DhtEnv where
  now
  malloc _ := true
  sendpacket _ := true
  callocSort _ := true
  realloc := true

def address4 : IPPort :=
  { emptyIpPort with family := toxAfInet, ip := bytesToVector 16 [8, 8, 8, 8], port := 33445 }

/-- `2001:db8::1`, port 33445 -/
def address6 : IPPort :=
  { emptyIpPort with
    family := toxAfInet6
    ip := bytesToVector 16 [0x20, 1, 0xd, 0xb8, 0, 0, 0, 0, 0, 0, 0, 0, 0, 0, 0, 1]
    port := 33445 }

def DHT.fresh? (now : UInt64) (b : UInt8) : Option DHT :=
  DHT.newDht (.good now) { u64 := UInt64.ofNat, next := 0 } (key b) (key b)

end Toxcore

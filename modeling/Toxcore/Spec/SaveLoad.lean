import Toxcore.Spec.DhtSystem

/-!
# Saving and loading the DHT

`dht_save` passes `sizeof(Node_format) * num` as a 16-bit length to `pack_nodes`. From 1024 nodes on this wraps
around and nodes are lost.
-/

namespace Toxcore

open List

/-! ## Sections -/

theorem lendianBytesToHost32_append (num : UInt32) (rest : Bytes) :
    lendianBytesToHost32 (hostToLendianBytes32 num ++ rest) = num := by
  have hnum : num.toNat < 2 ^ 32 := num.toNat_lt
  apply UInt32.toNat_inj.mp
  simp [lendianBytesToHost32, hostToLendianBytes32]
  omega

@[simp] theorem length_hostToLendianBytes32 (num : UInt32) : (hostToLendianBytes32 num).length = 4 := rfl

@[simp] theorem length_stateWriteSectionHeader (cookieType : UInt16) (len sectionType : UInt32) :
    (stateWriteSectionHeader cookieType len sectionType).length = sizeHead := rfl

def nodesHeader (len : UInt32) : Bytes :=
  stateWriteSectionHeader dhtStateCookieType len dhtStateTypeNodes.toUInt32

theorem cookieType_or (cookieType type : UInt16) :
    ((cookieType.toUInt32 <<< 16 ||| type.toUInt32) >>> 16).toUInt16 = cookieType ∧
      (cookieType.toUInt32 <<< 16 ||| type.toUInt32).toUInt16 = type := by
  constructor <;> apply UInt16.eq_of_toBitVec_eq
  · ext i hi
    have h : 16 + i < 32 ∧ i < 32 := by omega
    simp [h, BitVec.getLsbD_eq_getElem hi]
  · ext i hi
    simp

/-- One step of `state_load`, at a header that announces `len` bytes. -/
theorem stateLoadLoop_header {σ : Type} (callback : σ → Bytes → UInt16 → StateLoadStatus × σ)
    (cookieType : UInt16) (fuel : Nat) (outer : σ) (len : UInt32) (type : UInt16) (rest : Bytes) :
    stateLoadLoop callback cookieType (fuel + 1) outer
        (stateWriteSectionHeader cookieType len type.toUInt32 ++ rest) =
      if rest.length < len.toNat then (false, outer)
      else
        match callback outer (rest.take len.toNat) type with
        | (.continue, outer) => stateLoadLoop callback cookieType fuel outer (rest.drop len.toNat)
        | (.error, outer) => (false, outer)
        | (.end, outer) => (true, outer) := by
  obtain ⟨hcookie, htype⟩ := cookieType_or cookieType type
  rw [stateLoadLoop, if_neg (by rw [length_append]; exact Nat.not_lt.mpr (Nat.le_add_right ..)),
    drop_left' (length_stateWriteSectionHeader ..), stateWriteSectionHeader, append_assoc,
    drop_left' (length_hostToLendianBytes32 _), UInt16.toUInt16_toUInt32]
  simp only [lendianBytesToHost32_append, hcookie, htype, ne_eq]
  rfl

theorem stateLoad_nodesHeader {σ : Type} (callback : σ → Bytes → UInt16 → StateLoadStatus × σ)
    (outer : σ) {body : Bytes} (hbody : body.length < 2 ^ 32)
    (hcontinue : (callback outer body dhtStateTypeNodes).1 = .continue) :
    stateLoad callback outer (nodesHeader (UInt32.ofNat body.length) ++ body) dhtStateCookieType =
      (true, (callback outer body dhtStateTypeNodes).2) := by
  rw [stateLoad, length_append, nodesHeader, length_stateWriteSectionHeader, Nat.add_comm, sizeHead,
    stateLoadLoop_header, UInt32.toNat_ofNat_of_lt' hbody, if_neg (Nat.lt_irrefl _), take_length, drop_length]
  rcases heq : callback outer body dhtStateTypeNodes with ⟨status, next⟩
  rw [heq] at hcontinue
  obtain rfl : status = .continue := hcontinue
  rfl

/-! ## Sizes -/

theorem IPPort.isIpv6_of_isIpv4 {ipPort : IPPort} (h : ipPort.isIpv4 = true) :
    ipPort.isIpv6 = false := by
  have hfamily : ipPort.family = toxAfInet := by simpa [isIpv4] using h
  simp [isIpv6, hfamily]
  decide

theorem length_flatMap_packed {nodes : List NodeFormat} (hudp : ∀ node ∈ nodes, node.ipPort.isUdp) :
    (nodes.flatMap NodeFormat.packed).length =
      packedNodeSizeIp4 * nodes.countP (·.ipPort.isIpv4) +
        packedNodeSizeIp6 * nodes.countP (·.ipPort.isIpv6) := by
  induction nodes with
  | nil => rfl
  | cons node nodes ih =>
    have ih := ih fun n hn => hudp n (mem_cons_of_mem _ hn)
    have hnode := node.length_packed
    rw [flatMap_cons, length_append, countP_cons, countP_cons]
    cases h4 : node.ipPort.isIpv4 with
    | true =>
      have h6 := IPPort.isIpv6_of_isIpv4 h4
      simp only [h4, h6, if_true, Bool.false_eq_true, if_false, Nat.mul_add] at hnode ⊢
      omega
    | false =>
      have h6 : node.ipPort.isIpv6 = true := by
        simpa [IPPort.isUdp, h4] using hudp node mem_cons_self
      simp only [h4, h6, if_true, Bool.false_eq_true, if_false, Nat.mul_add] at hnode ⊢
      omega

theorem clientNodes_spec {client : ClientData} (h : client.Families) :
    (clientNodes client).countP (·.ipPort.isIpv4) = (if client.assoc4.timestamp != 0 then 1 else 0) ∧
      (clientNodes client).countP (·.ipPort.isIpv6) = (if client.assoc6.timestamp != 0 then 1 else 0) ∧
      ∀ node ∈ clientNodes client, node.ipPort.isUdp := by
  have h4 : client.assoc4.timestamp ≠ 0 → client.assoc4.ipPort.isIpv4 = true ∧
      client.assoc4.ipPort.isIpv6 = false := by
    intro hused
    have hv4 := h.assoc4.resolve_right fun hempty => hused hempty.2
    exact ⟨hv4, IPPort.isIpv6_of_isIpv4 hv4⟩
  have h6 : client.assoc6.timestamp ≠ 0 → client.assoc6.ipPort.isIpv6 = true ∧
      client.assoc6.ipPort.isIpv4 = false := by
    intro hused
    have hv6 := h.assoc6.resolve_right fun hempty => hused hempty.2
    refine ⟨hv6, ?_⟩
    by_contra hv4
    rw [Bool.not_eq_false] at hv4
    rw [IPPort.isIpv6_of_isIpv4 hv4] at hv6
    exact nomatch hv6
  unfold clientNodes
  by_cases hused4 : client.assoc4.timestamp = 0 <;> by_cases hused6 : client.assoc6.timestamp = 0 <;>
    simp_all [IPPort.isUdp]

namespace DHT

variable {dht : DHT}

theorem Families.savedClients (h : dht.Families) : ∀ client ∈ dht.savedClients, client.Families := by
  intro client hclient
  apply h.clients
  rw [mem_clients]
  rcases mem_append.mp hclient with hclient | hclient
  · exact .inl hclient
  · obtain ⟨fr, hfr, hclient⟩ := mem_flatMap.mp hclient
    exact .inr ⟨fr, mem_of_mem_take (mem_of_mem_take hfr), hclient⟩

theorem Families.savedNodes (h : dht.Families) : ∀ node ∈ dht.savedNodes, node.ipPort.isUdp := by
  intro node hnode
  rcases mem_append.mp hnode with hnode | hnode
  · exact h.loaded node hnode
  · obtain ⟨client, hclient, hnode⟩ := mem_flatMap.mp hnode
    exact (clientNodes_spec (h.savedClients client hclient)).2.2 node hnode

theorem countP_flatMap_clientNodes {clients : List ClientData} (h : ∀ client ∈ clients, client.Families) :
    (clients.flatMap clientNodes).countP (·.ipPort.isIpv4) = clients.countP (·.assoc4.timestamp != 0) ∧
      (clients.flatMap clientNodes).countP (·.ipPort.isIpv6) =
        clients.countP (·.assoc6.timestamp != 0) := by
  induction clients with
  | nil => exact ⟨rfl, rfl⟩
  | cons client clients ih =>
    obtain ⟨ih4, ih6⟩ := ih fun c hc => h c (mem_cons_of_mem _ hc)
    obtain ⟨h4, h6, -⟩ := clientNodes_spec (h client mem_cons_self)
    simp only [flatMap_cons, countP_append, countP_cons]
    omega

theorem dhtSize_eq (h : dht.Families) : dht.dhtSize =
    UInt32.ofNat (4 + sizeHead + (dht.savedNodes.flatMap NodeFormat.packed).length) := by
  obtain ⟨h4, h6⟩ := countP_flatMap_clientNodes h.savedClients
  rw [length_flatMap_packed h.savedNodes]
  unfold dhtSize savedNodes
  simp only [countP_append, h4, h6]
  congr 1
  omega

/-! ## The round trip -/

def NodesSection (data : Bytes) : Prop :=
  ∃ body : Bytes, body.length < 2 ^ 32 ∧
    data = hostToLendianBytes32 dhtStateCookieGlobal ++ nodesHeader (UInt32.ofNat body.length) ++ body

/-- `dht_save` writes `dht_size` bytes that are one section, and loading them gives the saved nodes. -/
def SavesAndLoads (dht : DHT) (callocSave callocLoad : Bool) : Prop :=
  ∃ data, dht.dhtSave callocSave = some data ∧ data.length = dht.dhtSize.toNat ∧
    NodesSection data ∧
    ∀ fresh, (∃ env rng selfPublicKey selfSecretKey, newDht env rng selfPublicKey selfSecretKey = some fresh) →
      (fresh.dhtLoad callocLoad data).1 = true ∧
      (fresh.dhtLoad callocLoad data).2.loadedNodesList = dht.savedNodes.map NodeFormat.canonical

theorem dhtSave_of_lt (h : dht.Families) (hnum : dht.savedNodes.length < 1024) :
    dht.dhtSave true = some (hostToLendianBytes32 dhtStateCookieGlobal ++
      nodesHeader (UInt32.ofNat (dht.savedNodes.flatMap NodeFormat.packed).length) ++
      dht.savedNodes.flatMap NodeFormat.packed) := by
  have hle := length_flatMap_packed_le dht.savedNodes
  have hlength : (UInt16.ofNat (sizeofNodeFormat * dht.savedNodes.length)).toNat =
      64 * dht.savedNodes.length := by
    rw [show sizeofNodeFormat = 64 from rfl]
    exact Nat.mod_eq_of_lt (by omega)
  unfold dhtSave packNodes
  simp only [Bool.not_true, Bool.false_eq_true, if_false]
  rw [if_neg (by rw [show maxSavedDhtNodes = 2080 from rfl]; omega),
    packNodesLoop_of_le h.savedNodes (by simp only [length_nil]; omega)]
  rfl

theorem length_dhtSave_of_ge (h : dht.Families) (hnum : 1024 ≤ dht.savedNodes.length) {data : Bytes}
    (hsave : dht.dhtSave true = some data) : data.length < dht.dhtSize.toNat := by
  have hge := length_flatMap_packed_ge dht.savedNodes
  have hle := length_flatMap_packed_le dht.savedNodes
  unfold dhtSave at hsave
  simp only [Bool.not_true, Bool.false_eq_true, if_false] at hsave
  split at hsave
  · cases hsave
  · rename_i hmax
    rw [show maxSavedDhtNodes = 2080 from rfl] at hmax
    -- the length is a multiple of 64 that wraps around at 1024 and 2048 nodes
    have hlength : (UInt16.ofNat (sizeofNodeFormat * dht.savedNodes.length)).toNat =
        64 * dht.savedNodes.length % 2 ^ 16 := by
      rw [UInt16.toNat_ofNat', show sizeofNodeFormat = 64 from rfl]
    have hpacked : (packNodesLoop (64 * dht.savedNodes.length % 2 ^ 16) dht.savedNodes []).2.length ≤
        64 * dht.savedNodes.length % 2 ^ 16 :=
      length_packNodesLoop_le h.savedNodes (Nat.zero_le _)
    have hsize : dht.dhtSize.toNat = 12 + (dht.savedNodes.flatMap NodeFormat.packed).length := by
      rw [dhtSize_eq h, sizeHead]
      exact Nat.mod_eq_of_lt (by omega)
    cases hsave
    rw [hsize, length_append, length_append, length_hostToLendianBytes32,
      length_stateWriteSectionHeader, sizeHead, packNodes, hlength]
    omega

theorem not_nodesSection_dhtSave_false {data : Bytes} (hsave : dht.dhtSave false = some data) :
    ¬NodesSection data := by
  rintro ⟨body, -, rfl⟩
  simp only [dhtSave, Bool.not_false, if_true, Option.some.injEq] at hsave
  have hlength := congrArg List.length hsave
  simp only [length_append, length_hostToLendianBytes32, length_stateWriteSectionHeader,
    nodesHeader] at hlength
  obtain rfl : body = [] := eq_nil_of_length_eq_zero (by omega)
  exact absurd hsave (by decide)

theorem dhtLoad_nodesHeader (calloc : Bool) {nodes : List NodeFormat}
    (hudp : ∀ node ∈ nodes, node.ipPort.isUdp) (hnum : 51 * nodes.length < 2 ^ 16) :
    dht.dhtLoad calloc (hostToLendianBytes32 dhtStateCookieGlobal ++
        nodesHeader (UInt32.ofNat (nodes.flatMap NodeFormat.packed).length) ++
        nodes.flatMap NodeFormat.packed) =
      (true, if nodes = [] then dht
        else { dht with loadedNodesList := if calloc then nodes.map NodeFormat.canonical else [] }) := by
  have hle := length_flatMap_packed_le nodes
  have hge := length_flatMap_packed_ge nodes
  have hcallback : dhtLoadStateCallback calloc dht (nodes.flatMap NodeFormat.packed)
      dhtStateTypeNodes = (.continue, if nodes = [] then dht
        else { dht with loadedNodesList := if calloc then nodes.map NodeFormat.canonical else [] }) := by
    unfold dhtLoadStateCallback
    rw [if_pos rfl]
    by_cases hnil : nodes = []
    · subst hnil
      rfl
    · have hpos : 0 < nodes.length := length_pos_iff.mpr hnil
      rw [if_neg (by omega), if_neg hnil]
      cases calloc with
      | false => rfl
      | true =>
        have hlength : (UInt16.ofNat (nodes.flatMap NodeFormat.packed).length).toNat =
            (nodes.flatMap NodeFormat.packed).length := by
          exact Nat.mod_eq_of_lt (by omega)
        have hmax : (UInt16.ofNat maxSavedDhtNodes).toNat = 2080 := by decide
        have hunpack : unpackNodesLoop false 2080 (nodes.flatMap NodeFormat.packed ++ []) =
            some (nodes.map NodeFormat.canonical, []) :=
          unpackNodesLoop_flatMap false hudp (by omega) (.inr rfl)
        rw [append_nil] at hunpack
        unfold unpackNodes
        rw [hlength, hmax, take_length, hunpack]
        rfl
  unfold dhtLoad
  rw [append_assoc, lendianBytesToHost32_append, drop_left' (length_hostToLendianBytes32 _), if_pos ?_,
    if_pos rfl, stateLoad_nodesHeader _ _ (by omega) (by rw [hcallback]), hcallback]
  rw [length_append, length_append, length_hostToLendianBytes32, nodesHeader,
    length_stateWriteSectionHeader, sizeHead]
  omega

theorem isSome_fresh : (fresh? 1000 1).isSome := by decide +kernel

/-- The round trip works exactly if the arrays are allocated and fewer than 1024 nodes are saved. -/
theorem savesAndLoads_iff {box : CryptoBox} (h : (dhtSystem box).Reachable dht)
    (callocSave callocLoad : Bool) :
    dht.SavesAndLoads callocSave callocLoad ↔
      callocSave = true ∧ dht.savedNodes.length < 1024 ∧ (callocLoad = true ∨ dht.savedNodes = []) := by
  have hfamilies := families_of_reachable h
  constructor
  · rintro ⟨data, hsave, hlength, hsection, hload⟩
    obtain rfl : callocSave = true := by
      by_contra hfalse
      rw [Bool.not_eq_true] at hfalse
      rw [hfalse] at hsave
      exact not_nodesSection_dhtSave_false hsave hsection
    have hnum : dht.savedNodes.length < 1024 := by
      by_contra hge
      have hlt := length_dhtSave_of_ge hfamilies (Nat.le_of_not_lt hge) hsave
      omega
    refine ⟨rfl, hnum, ?_⟩
    by_contra hneither
    rw [not_or, Bool.not_eq_true] at hneither
    -- without the array the fresh DHT gets no nodes
    obtain ⟨-, hnodes⟩ := hload _ ⟨_, _, _, _, (Option.some_get isSome_fresh).symm⟩
    rw [dhtSave_of_lt hfamilies hnum] at hsave
    cases hsave
    rw [dhtLoad_nodesHeader _ hfamilies.savedNodes (by omega), if_neg hneither.2, hneither.1] at hnodes
    exact hneither.2 (map_eq_nil_iff.mp hnodes.symm)
  · rintro ⟨rfl, hnum, hload⟩
    have hle := length_flatMap_packed_le dht.savedNodes
    refine ⟨_, dhtSave_of_lt hfamilies hnum, ?_, ⟨_, ?_, rfl⟩, ?_⟩
    · rw [dhtSize_eq hfamilies, UInt32.toNat_ofNat', Nat.mod_eq_of_lt (by unfold sizeHead; omega)]
      simp only [length_append, length_hostToLendianBytes32, nodesHeader, length_stateWriteSectionHeader]
    · omega
    · rintro fresh ⟨env, rng, pk, sk, hnew⟩
      rw [dhtLoad_nodesHeader _ hfamilies.savedNodes (by omega)]
      refine ⟨rfl, ?_⟩
      by_cases hnil : dht.savedNodes = []
      · rw [hnil]
        exact (clients_newDht hnew).2
      · rw [if_neg hnil, if_pos (hload.resolve_right hnil)]

def noNodes : DHT := (fresh? 1000 1).get isSome_fresh

theorem init_noNodes : (dhtSystem xorBox).init noNodes :=
  ⟨.good 1000, { u64 := UInt64.ofNat, next := 0 }, key 1, key 1, (Option.some_get isSome_fresh).symm⟩

/-- A DHT in which the close list and the lists of the fake friends have one node each. -/
def oneNode : DHT := noNodes.step xorBox (.good 1000) (.addto address4 (key 5))

theorem savesAndLoads_oneNode :
    oneNode.savedNodes.length = 3 ∧ oneNode.SavesAndLoads true true := by
  have hnum : oneNode.savedNodes.length = 3 := by decide +kernel
  have hudp : address4.isUdp = true := by decide
  have hreach : (dhtSystem xorBox).Reachable oneNode :=
    .step (.init init_noNodes) ⟨.good 1000, .addto address4 (key 5), hudp, rfl⟩
  exact ⟨hnum, (savesAndLoads_iff hreach true true).mpr ⟨rfl, by omega, .inl rfl⟩⟩

def manyNodes : Bytes :=
  hostToLendianBytes32 dhtStateCookieGlobal ++
    nodesHeader (UInt32.ofNat ((List.replicate 1024
      { publicKey := key 5, ipPort := address4 : NodeFormat }).flatMap NodeFormat.packed).length) ++
    (List.replicate 1024 { publicKey := key 5, ipPort := address4 : NodeFormat }).flatMap NodeFormat.packed

/-- A DHT that loaded 1024 nodes cannot be saved. -/
theorem not_savesAndLoads_manyNodes :
    ¬∀ (box : CryptoBox) (dht : DHT), (dhtSystem box).Reachable dht →
      dht.SavesAndLoads true true := by
  intro h
  have hreach : (dhtSystem xorBox).Reachable (noNodes.step xorBox (.good 1000) (.load true manyNodes)) :=
    .step (.init init_noNodes) ⟨.good 1000, .load true manyNodes, trivial, rfl⟩
  have hload : (noNodes.step xorBox (.good 1000) (.load true manyNodes)).loadedNodesList.length =
      1024 := by
    rw [step, manyNodes, dhtLoad_nodesHeader true
      (fun node hnode => by rw [eq_of_mem_replicate hnode]; decide)
      (by rw [length_replicate]; omega)]
    rw [if_neg (by simp), if_pos rfl, length_map, length_replicate]
  obtain ⟨data, hsave, hlength, -⟩ := h xorBox _ hreach
  have hlt := length_dhtSave_of_ge (families_of_reachable hreach) ?_ hsave
  · omega
  · rw [savedNodes, length_append]
    omega

end DHT

end Toxcore

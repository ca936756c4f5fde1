import Mathlib.Logic.Relation
import Toxcore.Spec.DhtPings

/-!
# The `get_nodes` exchange

The reply to a `get_nodes` request is accepted by the node that sent the request, and its
nodes are those that the other node packed.  The ping id works once, and not any more after
512 further pings.
-/

namespace Toxcore

open List

/-! ## The nodes of a reply -/

theorem mem_addToListLoop {cmpPk : PublicKey} {fuel : Nat} {nodesList : List NodeFormat}
    {node n : NodeFormat} (h : n ∈ (addToListLoop cmpPk fuel nodesList node).2) :
    n ∈ nodesList ∨ n = node := by
  induction fuel generalizing nodesList node with
  | zero => exact .inl h
  | succ fuel ih =>
    unfold addToListLoop at h
    split at h
    · exact .inl h
    · rename_i i _
      split at h
      · exact .inl h
      · rename_i bak hbak
        -- the node that was replaced moves on
        have hset : n ∈ nodesList.set i node → n ∈ nodesList ∨ n = node :=
          mem_or_eq_of_mem_set
        simp only at h
        split at h
        · rcases ih h with h | rfl
          · exact hset h
          · exact .inl (mem_of_getElem? hbak)
        · exact hset h

theorem length_addToListLoop (cmpPk : PublicKey) (fuel : Nat) (nodesList : List NodeFormat)
    (node : NodeFormat) :
    (addToListLoop cmpPk fuel nodesList node).2.length = nodesList.length := by
  induction fuel generalizing nodesList node with
  | zero => rfl
  | succ fuel ih =>
    unfold addToListLoop
    split
    · rfl
    · split
      · rfl
      · simp only
        split
        · rw [ih, length_set]
        · rw [length_set]

def IPPort.UdpOrEmpty (ipPort : IPPort) : Prop := ipPort.isUdp ∨ ipPort = emptyIpPort

theorem udpOrEmpty_closeNodesAssoc {client : ClientData} (h : client.Families) (saFamily : UInt8) :
    (closeNodesAssoc saFamily client).ipPort.UdpOrEmpty := by
  have h4 : client.assoc4.ipPort.UdpOrEmpty := by
    rcases h.assoc4 with h4 | h4
    · exact .inl (by simp [IPPort.isUdp, h4])
    · exact .inr h4.1
  have h6 : client.assoc6.ipPort.UdpOrEmpty := by
    rcases h.assoc6 with h6 | h6
    · exact .inl (by simp [IPPort.isUdp, h6])
    · exact .inr h6.1
  unfold closeNodesAssoc
  split_ifs
  · exact h4
  · exact h6
  · exact h4
  · exact h6

/-- The array of `get_close_nodes`. -/
structure NodesList.Filled (list : NodesList) : Prop where
  length : list.nodes.length = maxSentNodes
  num : list.num ≤ maxSentNodes
  addresses : ∀ node ∈ list.nodes, node.ipPort.UdpOrEmpty

theorem NodesList.filled_zero : NodesList.zero.Filled where
  length := length_replicate
  num := Nat.zero_le _
  addresses node hnode := by
    rw [eq_of_mem_replicate hnode]
    exact .inr rfl

theorem NodesList.Filled.closeNodesStep {list : NodesList} (h : list.Filled) {client : ClientData}
    (hclient : client.Families) (curTime : UInt64) (publicKey : PublicKey) (saFamily : UInt8)
    (isLan wantAnnounce : Bool) :
    (closeNodesStep curTime publicKey saFamily isLan wantAnnounce list client).Filled := by
  have hnew := udpOrEmpty_closeNodesAssoc hclient saFamily
  unfold Toxcore.closeNodesStep
  simp only
  split_ifs with _ _ _ _ hnum
  · exact h
  · exact h
  · exact h
  · exact h
  · refine ⟨(length_set).trans h.length, hnum, fun node hnode => ?_⟩
    rcases mem_or_eq_of_mem_set hnode with hnode | rfl
    · exact h.addresses node hnode
    · exact hnew
  · refine ⟨(length_addToListLoop _ _ _ _).trans h.length, h.num, fun node hnode => ?_⟩
    rcases mem_addToListLoop hnode with hnode | rfl
    · exact h.addresses node hnode
    · exact hnew

theorem NodesList.Filled.getCloseNodesInner {list : NodesList} (h : list.Filled)
    {clientList : List ClientData} (hclients : ∀ client ∈ clientList, client.Families)
    (curTime : UInt64) (publicKey : PublicKey) (saFamily : UInt8) (isLan wantAnnounce : Bool) :
    (getCloseNodesInner curTime publicKey list saFamily clientList isLan wantAnnounce).Filled := by
  unfold Toxcore.getCloseNodesInner
  split
  · exact h
  · induction clientList generalizing list with
    | nil => exact h
    | cons client clientList ih =>
      refine ih (h.closeNodesStep (hclients client mem_cons_self) _ _ _ _ _) ?_
      exact fun c hc => hclients c (mem_cons_of_mem _ hc)

namespace DHT

theorem filled_getCloseNodes {dht : DHT} (h : dht.Families) (publicKey : PublicKey)
    (saFamily : UInt8) (isLan wantAnnounce : Bool) :
    (dht.getCloseNodes publicKey saFamily isLan wantAnnounce).Filled := by
  have hfriends : ∀ frs : List DHTFriend, (∀ fr ∈ frs, fr ∈ dht.friendsList) →
      ∀ list : NodesList, list.Filled → (frs.foldl (fun list fr =>
        getCloseNodesInner dht.curTime publicKey list saFamily fr.clientList isLan wantAnnounce)
        list).Filled := by
    intro frs
    induction frs with
    | nil => exact fun _ _ hlist => hlist
    | cons fr frs ih =>
      intro hfrs list hlist
      refine ih (fun f hf => hfrs f (mem_cons_of_mem _ hf)) _ ?_
      apply hlist.getCloseNodesInner
      intro client hclient
      exact h.clients client (mem_clients.mpr (.inr ⟨fr, hfrs fr mem_cons_self, hclient⟩))
  apply hfriends
  · exact fun fr hfr => mem_of_mem_take hfr
  · apply NodesList.filled_zero.getCloseNodesInner
    exact fun client hclient => h.clients client (mem_clients.mpr (.inl hclient))

theorem sendnodesList_spec {dht : DHT} (h : dht.Families) (ipPort : IPPort) (clientId : PublicKey) :
    (dht.sendnodesList ipPort clientId).length ≤ maxSentNodes ∧
      ∀ node ∈ dht.sendnodesList ipPort clientId, node.ipPort.UdpOrEmpty := by
  have hfilled := filled_getCloseNodes h clientId toxAfUnspec (ipIsLan ipPort) false
  unfold sendnodesList
  refine ⟨?_, fun node hnode => hfilled.addresses node (mem_of_mem_take hnode)⟩
  rw [length_take]
  exact (Nat.min_le_left _ _).trans hfilled.num

end DHT

theorem isUdp_of_packNodesLoop {length n : Nat} {nodes : List NodeFormat} {written : Bytes}
    (hnodes : ∀ node ∈ nodes, node.ipPort.UdpOrEmpty) (hlength : written.length + 51 * nodes.length ≤ length)
    (h : (packNodesLoop length nodes written).1 = some n) : ∀ node ∈ nodes, node.ipPort.isUdp := by
  induction nodes generalizing written with
  | nil => simp
  | cons node nodes ih =>
    have hle := node.length_packed_le
    have hpacked : node.packed.length = node.ipPort.packed.length + cryptoPublicKeySize := by
      simp [NodeFormat.packed]
    rw [length_cons] at hlength
    unfold packNodesLoop at h
    rw [if_neg (by omega)] at h
    rcases hnodes node mem_cons_self with hudp | hempty
    · rw [packIpPort_of_isUdp hudp, if_neg (by omega)] at h
      simp only at h
      rw [if_neg (by omega)] at h
      intro other hother
      rcases mem_cons.mp hother with rfl | hother
      · exact hudp
      · refine ih (fun n hn => hnodes n (mem_cons_of_mem _ hn)) ?_ h other hother
        simp only [length_append, Vector.length_toList]
        omega
    · rw [hempty] at h
      cases h

/-! ## The request -/

theorem length_pingIdBytes (pingId : UInt64) : (DHT.pingIdBytes pingId).length = 8 := rfl

theorem pingIdOfBytes_pingIdBytes (pingId : UInt64) :
    DHT.pingIdOfBytes (DHT.pingIdBytes pingId) = pingId := by
  have hlt : pingId.toNat < 2 ^ 64 := pingId.toNat_lt
  apply UInt64.toNat_inj.mp
  simp [DHT.pingIdOfBytes, DHT.pingIdBytes, range_succ]
  omega

theorem ipportEqual_canonical {ipPort : IPPort} (h : ipPort.isUdp) (other : IPPort) :
    ipportEqual ipPort.canonical other = ipportEqual ipPort other := by
  have hfamily := ipPort.family_canonical
  have hport := ipPort.port_canonical
  suffices hip : ipEqual ipPort.canonical other = ipEqual ipPort other by
    unfold ipportEqual
    rw [hport, hip]
  rcases IPPort.isUdp_iff.mp h with hv | hv
  · have hv4 : ipPort.canonical.v4 = ipPort.v4 := by
      have hlength : ipPort.v4.length = 4 := by simp [IPPort.v4]
      have haddress : ipPort.address = ipPort.v4 := by simp [IPPort.address, IPPort.isIpv4, hv]
      unfold IPPort.canonical
      rw [haddress]
      have htake : (bytesToVector 16 ipPort.v4).toList.take ipPort.v4.length = ipPort.v4 :=
        (take_toList_bytesToVector (by omega) le_rfl).trans take_length
      rwa [hlength] at htake
    simp only [ipEqual, IPPort.isIpv4, IPPort.isIpv6, IPPort.isTcpIpv4, hfamily, hv, hv4,
      beq_self_eq_true, Bool.true_or, Bool.true_and, if_true,
      show (toxAfInet == toxAfInet6) = false from rfl, Bool.false_and, Bool.false_eq_true, if_false]
  · have hv6 : ipPort.canonical.v6 = ipPort.v6 := by
      have haddress : ipPort.address = ipPort.v6 := by
        simp [IPPort.address, IPPort.isIpv4, hv, show toxAfInet6 ≠ toxAfInet by decide]
      unfold IPPort.canonical
      rw [haddress]
      have hvector := bytesToVector_toList_append ipPort.ip []
      rw [append_nil] at hvector
      exact congrArg Vector.toList hvector
    simp only [ipEqual, IPPort.isIpv4, IPPort.isIpv6, IPPort.isTcpIpv4, hfamily, hv, hv6,
      show (toxAfInet6 == toxAfInet) = false from rfl, show (toxAfInet6 == tcpInet) = false from rfl,
      beq_self_eq_true, Bool.true_or, Bool.true_and, if_true, Bool.false_and, Bool.false_or,
      Bool.false_eq_true, if_false]

namespace DHT

theorem packReceiver_of_isUdp {receiver : NodeFormat} (h : receiver.ipPort.isUdp) :
    ∃ rest, packReceiver receiver = some (receiver.packed ++ rest) ∧
      (receiver.packed ++ rest).length = sizeofNodeFormat := by
  have hle := receiver.length_packed_le
  have hsize : sizeofNodeFormat = 64 := rfl
  have hpack : packNodes (UInt16.ofNat (2 * sizeofNodeFormat)) [receiver] =
      (some receiver.packed.length, receiver.packed) := by
    have hlength : (UInt16.ofNat (2 * sizeofNodeFormat)).toNat = 128 := by decide
    have hloop : packNodesLoop 128 [receiver] [] =
        (some ([] ++ [receiver].flatMap NodeFormat.packed).length, [] ++ [receiver].flatMap NodeFormat.packed) :=
      packNodesLoop_of_le (by simpa using h) (by simpa using by omega)
    rw [flatMap_singleton, nil_append] at hloop
    rw [packNodes, hlength, hloop]
  refine ⟨(List.replicate (2 * sizeofNodeFormat) 0).take (sizeofNodeFormat - receiver.packed.length), ?_, ?_⟩
  · unfold packReceiver
    rw [hpack]
    simp only [take_append, take_of_length_le (show receiver.packed.length ≤ sizeofNodeFormat by omega)]
  · rw [length_append, length_take, length_replicate]
    omega

structure Requests (box : CryptoBox) (env : DhtEnv) (ipPort : IPPort)
    (publicKey clientId : PublicKey) (dht dht' : DHT) (data : Bytes) (random : UInt64)
    (malloc : Bool) (sharedKey : SharedKey) (nonce : Nonce) : Prop where
  isUdp : ipPort.isUdp
  packed : packReceiver { publicKey, ipPort } = some data
  key : dht.dhtGetSharedKey box publicKey = some sharedKey
  pingId : (dht.dhtPingArray.pingArrayAdd env.now random malloc data).1 ≠ 0
  dhtPingArray : dht'.dhtPingArray = (dht.dhtPingArray.pingArrayAdd env.now random malloc data).2
  sent : dht'.sent = dht.sent ++ [(ipPort, .mk netPacketGetNodes dht.selfPublicKey
    (encryptDataSymmetric sharedKey nonce (clientId.toList ++
      pingIdBytes (dht.dhtPingArray.pingArrayAdd env.now random malloc data).1)))]

variable {dht : DHT} {env : DhtEnv} {sharedKey : SharedKey} {type : UInt8} {ipPort : IPPort}

theorem createAndSend_of_true {plain : Bytes} {result : Bool × DHT}
    (heq : result = match dht.dhtCreatePacket env sharedKey type plain with | (none, dht) => (false, dht) | (some packet, dht) => dht.sendpacket env ipPort packet)
    (h : result.1 = true) :
    ipPort.isUdp ∧ result.2.dhtPingArray = dht.dhtPingArray ∧ ∃ nonce, result.2.sent =
      dht.sent ++ [(ipPort, .mk type dht.selfPublicKey (encryptDataSymmetric sharedKey nonce plain))] := by
  unfold dhtCreatePacket sendpacket at heq
  subst heq
  split_ifs at h ⊢ with hmalloc
  simp only at h ⊢
  split_ifs at h ⊢ with hsend
  exact ⟨(Bool.and_eq_true_iff.mp hsend).1, rfl, _, rfl⟩

variable {publicKey clientId : PublicKey}

theorem requests_dhtGetnodes {box : CryptoBox} (h : (dht.dhtGetnodes box env ipPort publicKey clientId).1 = true) :
    ∃ data random malloc sharedKey nonce, Requests box env ipPort publicKey clientId dht
      (dht.dhtGetnodes box env ipPort publicKey clientId).2 data random malloc sharedKey nonce := by
  unfold dhtGetnodes at h ⊢
  split_ifs at h ⊢ with hself
  split at h
  · cases h
  · rename_i data hdata
    simp only at h ⊢
    split_ifs at h ⊢ with hping
    split at h
    · cases h
    · rename_i sharedKey hkey
      obtain ⟨hudp, harray, nonce, hsent⟩ := createAndSend_of_true rfl h
      exact ⟨data, _, _, sharedKey, nonce, hudp, hdata, hkey, hping, harray, hsent⟩

/-! ## The reply -/

theorem append_singleton_ne {α : Type} (l : List α) (a : α) : l ≠ l ++ [a] := by
  intro h
  have hlength := congrArg List.length h
  simp at hlength

variable {out : IPPort × DHTPacket}

theorem sent_createAndSend {plain : Bytes}
    (h : (match dht.dhtCreatePacket env sharedKey type plain with | (none, dht) => (false, dht) | (some packet, dht) => dht.sendpacket env ipPort packet).2.sent = dht.sent ++ [out])
    :
    ∃ nonce, out = (ipPort, .mk type dht.selfPublicKey (encryptDataSymmetric sharedKey nonce plain)) := by
  unfold dhtCreatePacket sendpacket at h
  split_ifs at h
  · exact absurd h (append_singleton_ne _ _)
  · simp only at h
    split_ifs at h
    · exact ⟨_, (singleton_inj.mp (append_cancel_left h)).symm⟩
    · exact absurd h (append_singleton_ne _ _)

theorem sent_sendnodesIpv6 {sendbackData : Bytes} (hfamilies : dht.Families)
    (h : (dht.sendnodesIpv6 env ipPort publicKey clientId sendbackData sharedKey).2.sent = dht.sent ++ [out]) :
    (∀ node ∈ dht.sendnodesList ipPort clientId, node.ipPort.isUdp) ∧ ∃ nonce,
      out = (ipPort, .mk netPacketSendNodesIpv6 dht.selfPublicKey
        (encryptDataSymmetric sharedKey nonce
          (UInt8.ofNat (dht.sendnodesList ipPort clientId).length ::
            (dht.sendnodesList ipPort clientId).flatMap NodeFormat.packed ++ sendbackData))) := by
  obtain ⟨hlength, haddresses⟩ := sendnodesList_spec hfamilies ipPort clientId
  unfold sendnodesIpv6 at h
  generalize dht.sendnodesList ipPort clientId = nodes at h hlength haddresses ⊢
  have hfour : nodes.length ≤ 4 := hlength
  simp only at h
  split_ifs at h with hself hsendback hpos
  · exact absurd h (append_singleton_ne _ _)
  · exact absurd h (append_singleton_ne _ _)
  · -- packing fails for addresses that were never set
    have hudp : ∀ node ∈ nodes, node.ipPort.isUdp := by
      rcases hpack : packNodes (UInt16.ofNat (sizeofNodeFormat * maxSentNodes)) nodes with
        ⟨_ | n, written⟩
      · rw [hpack] at h
        exact absurd h (append_singleton_ne _ _)
      · have hloop : (packNodesLoop 256 nodes []).1 = some n := by
          rw [show packNodesLoop 256 nodes [] = (some n, written) from hpack]
        exact isUdp_of_packNodesLoop haddresses (by simp; omega) hloop
    have hsum := length_flatMap_packed_le nodes
    have hpack : packNodes (UInt16.ofNat (sizeofNodeFormat * maxSentNodes)) nodes =
        (some (nodes.flatMap NodeFormat.packed).length, nodes.flatMap NodeFormat.packed) := by
      have hloop : packNodesLoop 256 nodes [] = _ :=
        packNodesLoop_of_le hudp (by simp only [length_nil]; omega)
      rw [nil_append] at hloop
      exact hloop
    rw [hpack] at h
    simp only at h
    split_ifs at h
    · exact absurd h (append_singleton_ne _ _)
    · exact ⟨hudp, sent_createAndSend h⟩
  · obtain rfl : nodes = [] := eq_nil_of_length_eq_zero (by omega)
    exact ⟨by simp, sent_createAndSend h⟩

theorem sent_handleGetnodes {box : CryptoBox} {source : IPPort} {nonce : Nonce} {pingId : UInt64}
    (hfamilies : dht.Families) (hkey : dht.dhtGetSharedKey box publicKey = some sharedKey)
    (h : (dht.handleGetnodes box env source (.mk type publicKey (encryptDataSymmetric sharedKey nonce (clientId.toList ++ pingIdBytes pingId)))).2.sent = dht.sent ++ [out])
    :
    (∀ node ∈ dht.sendnodesList source clientId, node.ipPort.isUdp) ∧ ∃ nonce,
      out = (source, .mk netPacketSendNodesIpv6 dht.selfPublicKey
        (encryptDataSymmetric sharedKey nonce
          (UInt8.ofNat (dht.sendnodesList source clientId).length ::
            (dht.sendnodesList source clientId).flatMap NodeFormat.packed ++
              pingIdBytes pingId))) := by
  unfold handleGetnodes at h
  split_ifs at h with hlength hself
  · exact absurd h (append_singleton_ne _ _)
  · exact absurd h (append_singleton_ne _ _)
  · simp only [hkey, show ∀ plain : Bytes, (encryptDataSymmetric sharedKey nonce plain).nonce = nonce
      from fun _ => rfl, decryptDataSymmetric_encryptDataSymmetric,
      bytesToVector_toList_append] at h
    rw [drop_left' (by simp)] at h
    exact sent_sendnodesIpv6 hfamilies h

/-- A `send_nodes` packet with packed nodes. -/
def sendnodesPacket (publicKey : PublicKey) (sharedKey : SharedKey) (nonce : Nonce)
    (nodes : List NodeFormat) (pingId : UInt64) : DHTPacket :=
  .mk netPacketSendNodesIpv6 publicKey (encryptDataSymmetric sharedKey nonce
    (UInt8.ofNat nodes.length :: nodes.flatMap NodeFormat.packed ++ pingIdBytes pingId))

theorem length_sendnodesPacket (publicKey : PublicKey) (sharedKey : SharedKey) (nonce : Nonce)
    (nodes : List NodeFormat) (pingId : UInt64) :
    (sendnodesPacket publicKey sharedKey nonce nodes pingId).length =
      sendnodesCidSize + (nodes.flatMap NodeFormat.packed).length := by
  simp only [DHTPacket.length, sendnodesPacket, encryptDataSymmetric, length_append,
    length_cons, length_pingIdBytes, sendnodesCidSize]
  omega

theorem sendnodesPingId_sendnodesPacket (publicKey : PublicKey) (sharedKey : SharedKey)
    (nonce : Nonce) (nodes : List NodeFormat) (pingId : UInt64) :
    (sendnodesPacket publicKey sharedKey nonce nodes pingId).sendnodesPingId = pingId := by
  unfold DHTPacket.sendnodesPingId
  rw [length_sendnodesPacket]
  simp only [sendnodesPacket, encryptDataSymmetric]
  rw [drop_left' (by simp only [length_cons]; omega), pingIdOfBytes_pingIdBytes]

/-! ## Accepting the reply -/

section Accept

variable {dht : DHT} {box : CryptoBox} {env : DhtEnv} {source : IPPort} {receiver : NodeFormat}
  {rest : Bytes} {pingTime pingId : UInt64} {adds : Nat}

section

variable (hudp : receiver.ipPort.isUdp)
  (hlength : (receiver.packed ++ rest).length = sizeofNodeFormat) (hid : pingId ≠ 0)
  (hslot : dht.dhtPingArray.Slot (PingArray.slotOf pingId)
    { data := some (receiver.packed ++ rest), pingTime, pingId } adds)
  (htimeout : monoTimeIsTimeout env.now pingTime 5 = false) (hsource : ipportEqual receiver.ipPort source)

include hudp hlength hid hslot htimeout hsource

theorem sentGetnodeToNode_of_slot :
    ∃ dhtPingArray, dhtPingArray.Slot (PingArray.slotOf pingId) emptyPingArrayEntry adds ∧
      dht.sentGetnodeToNode env receiver.publicKey source pingId = (true, { dht with dhtPingArray }) := by
  have hfits : (receiver.packed ++ rest).length ≤ 2 * sizeofNodeFormat := by omega
  obtain ⟨hcheck, hempty⟩ := PingArray.pingArrayCheck_of_slot hid hslot htimeout hfits
  refine ⟨_, hempty, ?_⟩
  -- the address of the receiver is unpacked from what was remembered
  have hunpack : unpackNodes 1 (receiver.packed ++ rest) (UInt16.ofNat (2 * sizeofNodeFormat))
      false = some ([receiver.canonical], UInt16.ofNat (2 * sizeofNodeFormat) -
        UInt16.ofNat rest.length) := by
    have hloop : unpackNodesLoop false 1 ([receiver].flatMap NodeFormat.packed ++ rest) =
        some ([receiver].map NodeFormat.canonical, rest) :=
      unpackNodesLoop_flatMap false (by simpa using hudp) (Nat.le_refl 1) (.inl rfl)
    rw [flatMap_singleton] at hloop
    unfold unpackNodes
    rw [take_of_length_le (by rw [hlength]; decide), show (1 : UInt16).toNat = 1 from rfl, hloop]
    rfl
  unfold sentGetnodeToNode
  rcases heq : dht.dhtPingArray.pingArrayCheck env.now (2 * sizeofNodeFormat) pingId with ⟨r, array⟩
  rw [heq] at hcheck
  obtain rfl : r = some (receiver.packed ++ rest) := hcheck
  simp only
  rw [if_neg (not_not.mpr hlength), hunpack]
  simp only [NodeFormat.canonical, ipportEqual_canonical hudp, hsource, beq_self_eq_true, Bool.and_true]

theorem checkSendnodes_of_slot {sharedKey : SharedKey} {nonce : Nonce} {nodes : List NodeFormat}
    (hkey : dht.dhtGetSharedKey box receiver.publicKey = some sharedKey)
    (hnodes : ∀ node ∈ nodes, node.ipPort.isUdp) (hmax : nodes.length ≤ maxSentNodes) (hnonempty : nodes ≠ [])
    :
    ∃ dhtPingArray, dhtPingArray.Slot (PingArray.slotOf pingId) emptyPingArrayEntry adds ∧
      dht.checkSendnodes box env source
          (sendnodesPacket receiver.publicKey sharedKey nonce nodes pingId) maxSentNodes =
        (some (nodes.map NodeFormat.canonical), { dht with dhtPingArray }) := by
  obtain ⟨dhtPingArray, hempty, hsent⟩ :=
    sentGetnodeToNode_of_slot hudp hlength hid hslot htimeout hsource
  refine ⟨dhtPingArray, hempty, ?_⟩
  have hfour : nodes.length ≤ 4 := hmax
  have hpos : 0 < nodes.length := length_pos_iff.mpr hnonempty
  have hge := length_flatMap_packed_ge nodes
  have hle := length_flatMap_packed_le nodes
  have hcount : (UInt8.ofNat nodes.length).toNat = nodes.length := by
    rw [UInt8.toNat_ofNat']
    omega
  have hpacket := length_sendnodesPacket receiver.publicKey sharedKey nonce nodes pingId
  have hpingId := sendnodesPingId_sendnodesPacket receiver.publicKey sharedKey nonce nodes pingId
  unfold DHTPacket.sendnodesPingId at hpingId
  rw [hpacket, Nat.add_sub_cancel_left] at hpingId
  -- all bytes of the nodes are used up
  have hunpack : unpackNodes (UInt8.ofNat nodes.length).toUInt16
      (nodes.flatMap NodeFormat.packed ++ pingIdBytes pingId)
      (UInt16.ofNat (nodes.flatMap NodeFormat.packed).length) false =
        some (nodes.map NodeFormat.canonical,
          UInt16.ofNat (nodes.flatMap NodeFormat.packed).length) := by
    have hloop : unpackNodesLoop false nodes.length (nodes.flatMap NodeFormat.packed ++ []) = _ :=
      unpackNodesLoop_flatMap false hnodes le_rfl (.inl rfl)
    rw [append_nil] at hloop
    unfold unpackNodes
    rw [UInt16.toNat_ofNat', Nat.mod_eq_of_lt (by omega), take_left' rfl, UInt8.toNat_toUInt16, hcount, hloop]
    simp
  unfold checkSendnodes
  simp only [hpacket, Nat.add_sub_cancel_left]
  rw [if_neg (by omega), if_neg (by omega),
    if_neg (by rw [show sizeofNodeFormat * maxSentNodes = 256 from rfl]; omega)]
  simp only [
      show (sendnodesPacket receiver.publicKey sharedKey nonce nodes pingId).publicKey = receiver.publicKey from rfl,
      hkey,
      show decryptDataSymmetric sharedKey (sendnodesPacket receiver.publicKey sharedKey nonce nodes pingId).encrypted.nonce (sendnodesPacket receiver.publicKey sharedKey nonce nodes pingId).encrypted = some (sendnodesPacket receiver.publicKey sharedKey nonce nodes pingId).encrypted.plain from decryptDataSymmetric_encryptDataSymmetric _ _ _,
      hpingId, hsent]
  simp only [sendnodesPacket, encryptDataSymmetric, cons_append, headD_cons,
    drop_succ_cons, drop_zero, hcount, hunpack]
  rw [if_neg (by omega), if_neg, if_neg (by simp)]
  rw [UInt16.toNat_ofNat', Nat.mod_eq_of_lt (by omega)]
  exact not_not.mpr rfl

end

theorem checkSendnodes_of_empty {packet : DHTPacket} {sizePlainNodes : Nat}
    (hslot : dht.dhtPingArray.Slot (PingArray.slotOf packet.sendnodesPingId) emptyPingArrayEntry adds) :
    (dht.checkSendnodes box env source packet sizePlainNodes).1 = none := by
  have hsent : ∀ pk, (dht.sentGetnodeToNode env pk source packet.sendnodesPingId).1 = false := by
    intro pk
    have hnone : (dht.dhtPingArray.pingArrayCheck env.now (2 * sizeofNodeFormat)
        packet.sendnodesPingId).1 = none := PingArray.pingArrayCheck_of_empty hslot
    unfold sentGetnodeToNode
    split
    · rfl
    · rename_i heq
      rw [heq] at hnone
      cases hnone
  unfold checkSendnodes
  simp only
  split_ifs
  · rfl
  · rfl
  · rfl
  · split
    · rfl
    · split
      · rfl
      · rename_i plain hplain
        have hplain : packet.encrypted.plain = plain := by
          rw [decryptDataSymmetric_eq_some hplain]
          rfl
        split_ifs
        · rfl
        · have hfalse := hsent packet.publicKey
          rw [DHTPacket.sendnodesPingId, hplain] at hfalse
          split
          · rfl
          · rename_i heq
            rw [heq] at hfalse
            cases hfalse

end Accept

/-! ## Runs with a pending ping -/

/-- Steps of a DHT whose environments and inputs satisfy `ok`. -/
def Runs (box : CryptoBox) (ok : DhtEnv → DhtInput → Prop) : DHT → DHT → Prop :=
  Relation.ReflTransGen fun dht dht' => ∃ env input, ok env input ∧ dht' = dht.step box env input

section Pending

variable {dht dht' : DHT} {box : CryptoBox} {ok : DhtEnv → DhtInput → Prop}

theorem selfSecretKey_of_runs (h : Runs box ok dht dht') :
    dht'.selfSecretKey = dht.selfSecretKey := by
  induction h with
  | refl => rfl
  | tail _ hstep ih =>
    obtain ⟨env, input, -, rfl⟩ := hstep
    exact (selfSecretKey_step input).trans ih

/-- Until 512 more pings are added, the slot `i` has this entry. -/
def Pending (start i : Nat) (entry : PingArrayEntry) (array : PingArray) (n : Nat) : Prop :=
  n < start + 512 → start ≤ n ∧ array.Slot i entry (n - start)

variable {start i : Nat} {entry : PingArrayEntry} {env : DhtEnv}

theorem pending_addKeeps (h : PingArray.Lasting env.now entry) :
    AddKeeps (Pending start i entry) env := by
  intro array n random malloc data hpending hn
  obtain ⟨hstart, hslot⟩ := hpending (by omega)
  refine ⟨by omega, ?_⟩
  rw [Nat.sub_add_comm hstart]
  exact hslot.pingArrayAdd h (by omega)

theorem pending_checkKeeps {length : Nat} {pingId : UInt64}
    (h : entry.pingId = pingId → ∀ data, entry.data = some data → length < data.length) :
    CheckKeeps (Pending start i entry) env length pingId := by
  intro array n hpending hn
  obtain ⟨hstart, hslot⟩ := hpending hn
  exact ⟨hstart, hslot.pingArrayCheck h⟩

theorem pending_of_runs (h : Runs box ok dht dht')
    (hlasting : ∀ env input, ok env input → PingArray.Lasting env.now entry)
    (hdata : ∀ data, entry.data = some data → cryptoPublicKeySize < data.length)
    (hpingId : ∀ env source packet, ok env (.sendnodesPacket source packet) →
      entry.pingId = packet.sendnodesPingId → entry.data = none)
    (hpending : dht.Pings (Pending start i entry)) : dht'.Pings (Pending start i entry) := by
  induction h with
  | refl => exact hpending
  | tail _ hstep ih =>
    obtain ⟨env, input, hok, rfl⟩ := hstep
    apply pings_step input
    · exact pending_addKeeps (hlasting env input hok)
    · exact fun pingId => pending_checkKeeps fun _ => hdata
    · rintro source packet rfl
      apply pending_checkKeeps
      intro hid data hsome
      rw [hpingId env source packet hok hid] at hsome
      exact nomatch hsome
    · exact ih

end Pending

end DHT

/-! ## The exchange -/

/-- A request that `dht_getnodes` sent to a node, and the reply of this node. -/
structure Exchange (box : CryptoBox) where
  requester : DHT
  responder : DHT
  /-- The environment and the arguments of `dht_getnodes`. -/
  env : DhtEnv
  ipPort : IPPort
  clientId : PublicKey
  request : DHTPacket
  /-- The environment of `handle_getnodes`. -/
  replyEnv : DhtEnv
  /-- Where the request comes from, as the other node sees it. -/
  requesterAddress : IPPort
  reply : DHTPacket
  requester_reachable : (DHT.dhtSystem box).Reachable requester
  responder_reachable : (DHT.dhtSystem box).Reachable responder
  /-- Both nodes compute the same shared key. -/
  agreement : box.beforenm responder.selfPublicKey requester.selfSecretKey =
    box.beforenm requester.selfPublicKey responder.selfSecretKey
  sent_request :
    (requester.dhtGetnodes box env ipPort responder.selfPublicKey clientId).1 = true ∧
      (requester.dhtGetnodes box env ipPort responder.selfPublicKey clientId).2.sent =
        requester.sent ++ [(ipPort, request)]
  sent_reply : (responder.handleGetnodes box replyEnv requesterAddress request).2.sent =
    responder.sent ++ [(requesterAddress, reply)]

namespace Exchange

open DHT

variable {box : CryptoBox} (x : Exchange box)

def waiting : DHT :=
  (x.requester.dhtGetnodes box x.env x.ipPort x.responder.selfPublicKey x.clientId).2

def nodes : List NodeFormat := x.responder.sendnodesList x.requesterAddress x.clientId

/-- Other things that happen at the requester no later than `now`: no other packet uses up
    the ping id. -/
def Undisturbed (now : UInt64) (env : DhtEnv) (input : DhtInput) : Prop :=
  env.now ≤ now ∧ ∀ source packet, input = .sendnodesPacket source packet →
    packet.sendnodesPingId ≠ x.reply.sendnodesPingId

def receiver : NodeFormat := { publicKey := x.responder.selfPublicKey, ipPort := x.ipPort }

theorem spec : ∃ rest pingId sharedKey nonce, x.receiver.ipPort.isUdp ∧
    (x.receiver.packed ++ rest).length = sizeofNodeFormat ∧ pingId ≠ 0 ∧
    x.waiting.dhtPingArray.Slot (PingArray.slotOf pingId)
      { data := some (x.receiver.packed ++ rest), pingTime := x.env.now, pingId } 0 ∧
    x.waiting.dhtGetSharedKey box x.responder.selfPublicKey = some sharedKey ∧
    (∀ node ∈ x.nodes, node.ipPort.isUdp) ∧
    x.reply = sendnodesPacket x.responder.selfPublicKey sharedKey nonce x.nodes pingId := by
  obtain ⟨hsent, hrequest⟩ := x.sent_request
  obtain ⟨data, random, malloc, sharedKey, nonce, h⟩ := requests_dhtGetnodes hsent
  have hudp : x.receiver.ipPort.isUdp := h.isUdp
  obtain ⟨rest, hpack, hlength⟩ := packReceiver_of_isUdp hudp
  cases hpack.symm.trans h.packed
  have hslot := PingArray.slot_pingArrayAdd (sized_of_reachable x.requester_reachable) h.pingId
  rw [← h.dhtPingArray] at hslot
  -- the responder decrypts the request with the same key
  have hkey : x.responder.dhtGetSharedKey box x.requester.selfPublicKey = some sharedKey :=
    x.agreement.symm.trans h.key
  have hpacket := (append_cancel_left (h.sent.symm.trans hrequest))
  have hreply := x.sent_reply
  rw [← (Prod.mk.inj (singleton_inj.mp hpacket)).2] at hreply
  obtain ⟨hnodes, nonce', hout⟩ :=
    sent_handleGetnodes (families_of_reachable x.responder_reachable) hkey hreply
  refine ⟨rest, _, sharedKey, nonce', hudp, hlength, h.pingId, hslot, ?_, hnodes, (Prod.mk.inj hout).2⟩
  unfold dhtGetSharedKey waiting
  rw [(sameLists_dhtGetnodes _ _ _ _ _ _).selfSecretKey]
  exact h.key

/-- A reply with a node is accepted once, unless 512 more pings were added before, with the responder and its nodes.
    -/
theorem accepted {env : DhtEnv} {source : IPPort} {dht : DHT} (hnodes : x.nodes ≠ [])
    (hrun : Runs box (x.Undisturbed env.now) x.waiting dht)
    (hpings : dht.pingsAdded < x.waiting.pingsAdded + 512)
    (htimeout : monoTimeIsTimeout env.now x.env.now pingTimeout.toUInt64 = false)
    (hsource : ipportEqual x.ipPort source) :
    (∃ d, SameLists dht d ∧ dht.handleSendnodesCore box env source x.reply maxSentNodes =
      (some (x.nodes.map NodeFormat.canonical), (d.addtoLists box env source x.responder.selfPublicKey).2)) ∧
    ∀ env' source' dht', Runs box (fun _ _ => True) (dht.step box env (.sendnodesPacket source x.reply)) dht' →
      dht'.pingsAdded < x.waiting.pingsAdded + 512 →
      (dht'.handleSendnodesCore box env' source' x.reply maxSentNodes).1 = none := by
  obtain ⟨rest, pingId, sharedKey, nonce, hudp, hlength, hid, hslot, hkey, hnodesUdp, hreply⟩ :=
    x.spec
  have hpingId : x.reply.sendnodesPingId = pingId := by
    rw [hreply, sendnodesPingId_sendnodesPacket]
  have hmax := (sendnodesList_spec (families_of_reachable x.responder_reachable)
    x.requesterAddress x.clientId).1
  -- the ping is still pending when the reply arrives
  have hpending : dht.Pings (Pending x.waiting.pingsAdded (PingArray.slotOf pingId)
      { data := some (x.receiver.packed ++ rest), pingTime := x.env.now, pingId }) := by
    refine pending_of_runs hrun (fun e input hok => .inr ?_) ?_ ?_ ?_
    · have hle : e.now ≤ env.now := hok.1
      have hlate : ¬x.env.now + 5 ≤ env.now := of_decide_eq_false htimeout
      exact decide_eq_false fun h => hlate (UInt64.le_trans h hle)
    · rintro data hdata
      rw [← Option.some.inj hdata, hlength]
      decide
    · intro e source' packet hok heq
      exact absurd (heq.symm.trans hpingId.symm) (hok.2 source' packet rfl)
    · intro _
      exact ⟨le_rfl, by rw [Nat.sub_self]; exact hslot⟩
  obtain ⟨hstart, hslot⟩ := hpending hpings
  have hkey : dht.dhtGetSharedKey box x.responder.selfPublicKey = some sharedKey := by
    unfold dhtGetSharedKey
    rw [selfSecretKey_of_runs hrun]
    exact hkey
  obtain ⟨array, hempty, hcheck⟩ := checkSendnodes_of_slot hudp hlength hid
    hslot htimeout hsource hkey hnodesUdp hmax hnodes
  rw [show sendnodesPacket x.receiver.publicKey sharedKey nonce x.nodes pingId = x.reply from
    hreply.symm] at hcheck
  have hpk : x.reply.publicKey = x.responder.selfPublicKey := by rw [hreply]; rfl
  have hcore : dht.handleSendnodesCore box env source x.reply maxSentNodes =
      (some (x.nodes.map NodeFormat.canonical), (addtoLists { dht with dhtPingArray := array } box
        env source x.responder.selfPublicKey).2) := by
    unfold handleSendnodesCore
    rw [hcheck, hpk]
  refine ⟨⟨{ dht with dhtPingArray := array }, ⟨rfl, rfl, rfl, rfl, rfl, rfl, rfl, rfl⟩, hcore⟩, ?_⟩
  intro env' source' dht' hrun' hpings'
  -- from here on the slot is empty
  have hused : (dht.step box env (.sendnodesPacket source x.reply)).Pings
      (Pending x.waiting.pingsAdded (PingArray.slotOf pingId) emptyPingArrayEntry) := by
    rw [step]
    unfold handleSendnodesIpv6
    rw [hcore]
    refine .foldl (fun d node hd => pings_returnedNode hd _ node) ?_ _
    apply pings_addtoLists (pending_addKeeps (.inl rfl))
    exact fun _ => ⟨hstart, hempty⟩
  have hpending' := pending_of_runs hrun' (fun e input _ => .inl rfl) (fun _ h => absurd h (Option.some_ne_none _).symm)
    (fun _ _ _ _ _ => rfl) hused
  obtain ⟨-, hslot'⟩ := hpending' hpings'
  rw [← hpingId] at hslot'
  unfold handleSendnodesCore
  have hnone : (dht'.checkSendnodes box env' source' x.reply maxSentNodes).1 = none :=
    checkSendnodes_of_empty hslot'
  rcases heq : dht'.checkSendnodes box env' source' x.reply maxSentNodes with ⟨r, d⟩
  rw [heq] at hnone
  obtain rfl : r = none := hnone
  rfl

end Exchange

/-! ## Replies that are not accepted -/

namespace DHT

theorem isSome_fresh_both : (fresh? 1000 1).isSome ∧ (fresh? 1000 2).isSome := by decide +kernel

theorem isSome_fresh_requester : (fresh? 1000 1).isSome := isSome_fresh_both.1

theorem isSome_fresh_responder : (fresh? 1000 2).isSome := isSome_fresh_both.2

def freshRequester : DHT := (fresh? 1000 1).get isSome_fresh_requester

def freshResponder : DHT := (fresh? 1000 2).get isSome_fresh_responder

def oneNodeResponder : DHT := freshResponder.step xorBox (.good 1000) (.addto address6 (key 5))

def lastSent (dht : DHT) : Option DHTPacket := dht.sent.getLast?.map (·.2)

/-- The request to a node with the key `02..02`. -/
def freshRequest : Option DHTPacket :=
  (freshRequester.dhtGetnodes xorBox (.good 1000) address4 (key 2) (key 7)).2.lastSent

theorem isSome_freshRequest : freshRequest.isSome := by decide +kernel

def replyTo (responder : DHT) : Option DHTPacket :=
  (responder.handleGetnodes xorBox (.good 1000) address4 (freshRequest.get isSome_freshRequest)).2.lastSent

-- evaluating these goes through the 1024 entries of the close list
set_option maxRecDepth 100000

theorem isSome_replyTo_both : (replyTo freshResponder).isSome ∧ (replyTo oneNodeResponder).isSome := by
  decide +kernel

theorem isSome_replyTo_freshResponder : (replyTo freshResponder).isSome := isSome_replyTo_both.1

theorem isSome_replyTo_oneNodeResponder : (replyTo oneNodeResponder).isSome := isSome_replyTo_both.2

theorem reachable_freshResponder : (dhtSystem xorBox).Reachable freshResponder :=
  .init ⟨.good 1000, { u64 := UInt64.ofNat, next := 0 }, key 2, key 2,
    (Option.some_get isSome_fresh_responder).symm⟩

theorem reachable_oneNodeResponder : (dhtSystem xorBox).Reachable oneNodeResponder := by
  have hudp : address6.isUdp = true := by decide
  exact reachable_freshResponder.step ⟨.good 1000, .addto address6 (key 5), hudp, rfl⟩

theorem reachable_freshRequester : (dhtSystem xorBox).Reachable freshRequester :=
  .init ⟨.good 1000, { u64 := UInt64.ofNat, next := 0 }, key 1, key 1,
    (Option.some_get isSome_fresh_requester).symm⟩

theorem sent_packets :
    ((freshRequester.dhtGetnodes xorBox (.good 1000) address4 (key 2) (key 7)).1 = true ∧
      (freshRequester.dhtGetnodes xorBox (.good 1000) address4 (key 2) (key 7)).2.sent =
        freshRequester.sent ++ [(address4, freshRequest.get isSome_freshRequest)]) ∧
    (freshResponder.handleGetnodes xorBox (.good 1000) address4 (freshRequest.get isSome_freshRequest)).2.sent =
      freshResponder.sent ++ [(address4, (replyTo freshResponder).get isSome_replyTo_freshResponder)] ∧
    (oneNodeResponder.handleGetnodes xorBox (.good 1000) address4
        (freshRequest.get isSome_freshRequest)).2.sent =
      oneNodeResponder.sent ++
        [(address4, (replyTo oneNodeResponder).get isSome_replyTo_oneNodeResponder)] := by
  decide +kernel

theorem keys_nodes :
    (freshResponder.selfPublicKey = key 2 ∧ oneNodeResponder.selfPublicKey = key 2) ∧
    xorBox.beforenm freshResponder.selfPublicKey freshRequester.selfSecretKey =
      xorBox.beforenm freshRequester.selfPublicKey freshResponder.selfSecretKey ∧
    xorBox.beforenm oneNodeResponder.selfPublicKey freshRequester.selfSecretKey =
      xorBox.beforenm freshRequester.selfPublicKey oneNodeResponder.selfSecretKey := by
  decide +kernel

end DHT

namespace Exchange

open DHT

def noNodes : Exchange xorBox where
  requester := freshRequester
  responder := freshResponder
  env := .good 1000
  ipPort := address4
  clientId := key 7
  request := freshRequest.get isSome_freshRequest
  replyEnv := .good 1000
  requesterAddress := address4
  reply := (replyTo freshResponder).get isSome_replyTo_freshResponder
  requester_reachable := reachable_freshRequester
  responder_reachable := reachable_freshResponder
  agreement := keys_nodes.2.1
  sent_request := by rw [keys_nodes.1.1]; exact sent_packets.1
  sent_reply := sent_packets.2.1

def oneNode : Exchange xorBox where
  requester := freshRequester
  responder := oneNodeResponder
  env := .good 1000
  ipPort := address4
  clientId := key 7
  request := freshRequest.get isSome_freshRequest
  replyEnv := .good 1000
  requesterAddress := address4
  reply := (replyTo oneNodeResponder).get isSome_replyTo_oneNodeResponder
  requester_reachable := reachable_freshRequester
  responder_reachable := reachable_oneNodeResponder
  agreement := keys_nodes.2.2
  sent_request := by rw [keys_nodes.1.2]; exact sent_packets.1
  sent_reply := sent_packets.2.2

set_option maxRecDepth 100000 in
theorem accepted_oneNode : oneNode.nodes ≠ [] ∧
    (oneNode.waiting.handleSendnodesCore xorBox (.good 1003) address4 oneNode.reply
      maxSentNodes).1 = some (oneNode.nodes.map NodeFormat.canonical) := by
  have hnodes : oneNode.nodes ≠ [] := by decide +kernel
  have htimeout : monoTimeIsTimeout (DhtEnv.good 1003).now oneNode.env.now
      pingTimeout.toUInt64 = false := by decide +kernel
  have hsource : ipportEqual oneNode.ipPort address4 := by decide +kernel
  obtain ⟨⟨d, -, hcore⟩, -⟩ := accepted oneNode hnodes .refl
    (Nat.lt_add_of_pos_right (by decide)) htimeout hsource
  exact ⟨hnodes, congrArg Prod.fst hcore⟩

set_option maxRecDepth 100000 in
/-- Without nodes, there are no bytes between the count and the ping id, and such packets are
    dropped. -/
theorem not_accepted_noNodes : noNodes.nodes = [] ∧
    ¬monoTimeIsTimeout (DhtEnv.good 1000).now noNodes.env.now pingTimeout.toUInt64 ∧
    ipportEqual noNodes.ipPort address4 ∧
    (noNodes.waiting.handleSendnodesCore xorBox (.good 1000) address4 noNodes.reply maxSentNodes).1 = none := by
  decide +kernel

end Exchange

end Toxcore

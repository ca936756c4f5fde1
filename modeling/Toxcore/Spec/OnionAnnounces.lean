import Toxcore.Native.OnionClient
import Toxcore.Spec.GetNodesExchange
import Toxcore.Spec.GroupAnnounceCorrect
import Toxcore.Spec.OnionRoute

/-!
# Announce responses

A node answers an announce request of one of the three kinds with up to four nodes and up to four announces.
`handle_announce_request_common` encrypts the answer into an array of `ONION_ANNOUNCE_RESPONSE_MAX_SIZE` bytes,
which does not always have room for both.
-/

namespace Toxcore

open List

/-! ## Sizes -/

def nodesSize (nodes : List NodeFormat) : Nat :=
  (nodes.map fun node => (packedNodeSize node.ipPort).getD 0).sum

def GCAnnounce.size (announce : GCAnnounce) : Nat :=
  cryptoPublicKeySize + 2 + (announce.ipPort.map fun a => if a.isShort then 7 else 19).getD 0 +
    nodesSize announce.tcpRelays

def announcesSize (announces : List GCAnnounce) : Nat := (announces.map GCAnnounce.size).sum

theorem packedNodeSize_of_isPackable {a : IPPort} (h : a.isPackable) :
    packedNodeSize a = some (a.wire.length + cryptoPublicKeySize) := by
  rw [IPPort.length_wire]
  rcases IPPort.isPackable_iff.mp h with hfamily | hfamily | hfamily | hfamily
  all_goals
    simp [packedNodeSize, IPPort.isShort, IPPort.isIpv4, IPPort.isIpv6, IPPort.isTcpIpv4,
      IPPort.isTcpIpv6, hfamily, toxAfInet, toxAfInet6, tcpInet, tcpInet6, packedNodeSizeIp4,
      packedNodeSizeIp6, sizeIp4, sizeIp6]

theorem nodesSize_eq {nodes : List NodeFormat} (h : ∀ node ∈ nodes, node.ipPort.isPackable) :
    nodesSize nodes = (nodes.flatMap fun node => node.ipPort.wire ++ node.publicKey.toList).length := by
  induction nodes with
  | nil => rfl
  | cons node nodes ih =>
    have ih := ih fun n hn => h n (mem_cons_of_mem _ hn)
    rw [flatMap_cons, length_append, ← ih, length_append, Vector.length_toList]
    show (packedNodeSize node.ipPort).getD 0 + nodesSize nodes = _
    rw [packedNodeSize_of_isPackable (h node mem_cons_self)]
    rfl

theorem NodeFormat.packed_eq_wire {node : NodeFormat} (h : node.ipPort.isUdp) :
    node.packed = node.ipPort.wire ++ node.publicKey.toList := by
  have hwire : node.ipPort.wire = node.ipPort.packed := by
    have hpacked := packIpPort_of_isUdp h (node.ipPort.packed.length + node.ipPort.wire.length)
    rw [packIpPort_of_isPackable (IPPort.isPackable_of_isUdp h), if_neg (by omega),
      if_neg (by omega)] at hpacked
    exact Option.some.inj hpacked
  rw [NodeFormat.packed, hwire]

theorem length_flatMap_packed_nodes {nodes : List NodeFormat} (h : ∀ node ∈ nodes, node.ipPort.isUdp) :
    (nodes.flatMap NodeFormat.packed).length = nodesSize nodes := by
  rw [nodesSize_eq fun node hnode => IPPort.isPackable_of_isUdp (h node hnode)]
  congr 1
  induction nodes with
  | nil => rfl
  | cons node nodes ih =>
    rw [flatMap_cons, flatMap_cons, ih fun n hn => h n (mem_cons_of_mem _ hn),
      NodeFormat.packed_eq_wire (h node mem_cons_self)]

theorem GCAnnounce.length_packed_eq_size {announce : GCAnnounce} (h : announce.WellFormed) :
    announce.packed.length = announce.size := by
  rw [length_packed, length_packedAddress, packedRelays, ← nodesSize_eq h.tcpRelays]
  rfl

theorem length_flatMap_packed_announces {announces : List GCAnnounce}
    (h : ∀ announce ∈ announces, announce.WellFormed) :
    (announces.flatMap GCAnnounce.packed).length = announcesSize announces := by
  induction announces with
  | nil => rfl
  | cons announce announces ih =>
    rw [flatMap_cons, length_append, ih fun a ha => h a (mem_cons_of_mem _ ha),
      GCAnnounce.length_packed_eq_size (h announce mem_cons_self)]
    rfl

/-! ## The node that answers -/

namespace OnionAnnounce

variable {hmac : Hmac} {box : CryptoBox} {cipher : ByteCipher OnionNonce} {env : OnionAnnounceEnv}
  {onionA : OnionAnnounce} {source : IPPort} {request : AnnounceRequest}

theorem decryptRequest_eq_some {packet : Bytes} {plainSize : Nat} {onionA' : OnionAnnounce}
    (h : onionA.decryptRequest box cipher env packet plainSize = (some request, onionA')) :
    (∃ keys, onionA' = { onionA with sharedKeysRecv := keys }) ∧
      request.plain.length = plainSize ∧
      request.ret = packet.drop (packet.length - onionReturn3) := by
  unfold decryptRequest at h
  dsimp only at h
  generalize onionA.sharedKeysRecv.lookup box env.now _ = looked at h
  obtain ⟨key, keys⟩ := looked
  cases key with
  | none => exact nomatch (Prod.mk.inj h).1
  | some key =>
    dsimp only at h
    split at h
    · exact nomatch (Prod.mk.inj h).1
    · split at h
      · exact nomatch (Prod.mk.inj h).1
      · rename_i hlen
        obtain ⟨hrequest, rfl⟩ := Prod.mk.inj h
        have hrequest := Option.some.inj hrequest
        refine ⟨⟨keys, rfl⟩, ?_, ?_⟩
        · rw [← hrequest]
          exact Decidable.not_not.mp hlen
        · rw [← hrequest]

theorem decryptRequest_fst_eq {onionA' : OnionAnnounce} (h : onionA.sharedKeysRecv = onionA'.sharedKeysRecv)
    (packet : Bytes) (plainSize : Nat) :
    (onionA.decryptRequest box cipher env packet plainSize).1 =
      (onionA'.decryptRequest box cipher env packet plainSize).1 := by
  unfold decryptRequest
  rw [h]
  dsimp only
  generalize onionA'.sharedKeysRecv.lookup box env.now _ = looked
  obtain ⟨key, keys⟩ := looked
  cases key with
  | none => rfl
  | some key =>
    dsimp only
    split
    · rfl
    · split <;> rfl

theorem length_announcePayload : (onionA.announcePayload hmac env source request).2.length =
    cryptoPublicKeySize := by
  unfold announcePayload makeAnnouncePayloadHelper
  dsimp only
  split
  · exact Vector.length_toList
  · split
    · split <;> exact Vector.length_toList
    · exact Vector.length_toList

theorem announcePayload_flag_lt (hkeys : request.clientId ≠ request.publicKey)
    (hping : checkTimedAuth hmac env.now onionAnnounceTimeout onionA.hmacKey
      (request.pingIdData source) request.pingId = false) :
    (onionA.announcePayload hmac env source request).1 < 2 := by
  unfold announcePayload findEntry
  rw [hping, if_neg Bool.false_ne_true]
  dsimp only
  unfold makeAnnouncePayloadHelper
  split
  · exact (by decide : (0 : UInt8) < 2)
  · rename_i entry hentry
    obtain ⟨i, hi, hget⟩ := Option.bind_eq_some_iff.mp hentry
    -- the entry is that of the key that is searched
    obtain ⟨hlt, hfound, -⟩ := findIdx?_eq_some_iff_getElem.mp hi
    rw [getElem?_eq_getElem hlt] at hget
    rw [Option.some.inj hget] at hfound
    have hkey : entry.publicKey = request.clientId := by
      rw [Bool.and_eq_true] at hfound
      exact eq_of_beq hfound.2
    rw [if_neg (by rw [hkey]; exact hkeys)]
    exact (by decide : (1 : UInt8) < 2)

variable {kind : AnnounceKind}

/-- The announces that a response has to hold; `none` when that of the request cannot be unpacked. -/
def announcesFor (kind : AnnounceKind) (now : UInt64) (onionA : OnionAnnounce)
    (request : AnnounceRequest) : Option (List GCAnnounce) :=
  match kind with
  | .old | .plain => some []
  | .group => (selectGroupAnnounces onionA.groupAnnounces now request.extra).1

theorem announcesFor_spec (h : GCAnnouncesList.system.Reachable onionA.groupAnnounces) {now : UInt64}
    {announces : List GCAnnounce} (hannounces : announcesFor kind now onionA request = some announces) :
    announces.length ≤ gcaMaxSentAnnounces ∧ ∀ announce ∈ announces, announce.WellFormed := by
  have hnil : ([] : List GCAnnounce).length ≤ gcaMaxSentAnnounces ∧
      ∀ announce ∈ ([] : List GCAnnounce), announce.WellFormed :=
    ⟨Nat.zero_le _, fun _ h => nomatch h⟩
  cases kind with
  | old => rwa [← Option.some.inj hannounces]
  | plain => rwa [← Option.some.inj hannounces]
  | group =>
    replace hannounces : (selectGroupAnnounces onionA.groupAnnounces now request.extra).1 =
      some announces := hannounces
    unfold selectGroupAnnounces at hannounces
    cases hunpack : gcaUnpackPublicAnnounce request.extra with
    | none => rw [hunpack] at hannounces; exact nomatch hannounces
    | some publicAnnounce =>
      rw [hunpack] at hannounces
      cases hannounces
      have hadded := GCAnnouncesList.wellFormed_of_reachable (h.step (.received now hunpack))
      exact hadded.gcaGetAnnounces _ _ _

theorem packedNodes_eq (h : onionA.dht.Families) : onionA.packedNodes source request =
    if ∀ node ∈ onionA.nodesList source request, node.ipPort.isUdp then
      some ((onionA.nodesList source request).flatMap NodeFormat.packed)
    else none := by
  obtain ⟨hmax, hudpOrEmpty⟩ := DHT.sendnodesList_spec h source request.clientId
  have hfour : maxSentNodes = 4 := rfl
  have hroom : (UInt16.ofNat (sizeofNodeFormat * maxSentNodes)).toNat = 256 := rfl
  unfold packedNodes nodesList
  generalize onionA.dht.sendnodesList source request.clientId = nodes at *
  dsimp only
  split
  · have hle := length_flatMap_packed_le nodes
    by_cases hudp : ∀ node ∈ nodes, node.ipPort.isUdp
    · have hge := length_flatMap_packed_ge nodes
      rw [if_pos hudp, packNodes, packNodesLoop_of_le hudp (by rw [length_nil]; omega)]
      dsimp only
      rw [nil_append, if_neg (by omega)]
    · rw [if_neg hudp, packNodes, hroom]
      cases hpack : packNodesLoop 256 nodes [] with
      | mk n written =>
        cases n with
        | none => rfl
        | some n =>
          exact absurd (isUdp_of_packNodesLoop hudpOrEmpty (by simp; omega) (congrArg Prod.fst hpack)) hudp
  · rename_i hnil
    obtain rfl := eq_nil_of_length_eq_zero (Decidable.not_not.mp hnil)
    rfl

theorem extraData_eq (h : GCAnnouncesList.system.Reachable onionA.groupAnnounces) {offset : Nat}
    (hoffset : offset ≤ 238) : (onionA.extraData env kind request offset).1 =
      (announcesFor kind env.now onionA request).bind fun announces =>
        if announces.all gcaIsValidAnnounce then some (announces.flatMap GCAnnounce.packed)
        else none := by
  cases kind with
  | old => rfl
  | plain => rfl
  | group =>
    show (packGroupAnnounces onionA.groupAnnounces env.now request.extra
      (1 + onionPingIdSize + 1 + maxSentNodes * packedNodeSizeIp6 +
        AnnounceKind.maxExtraSize .group - offset)).1 = _
    cases hannounces : announcesFor .group env.now onionA request with
    | none =>
      replace hannounces : (selectGroupAnnounces onionA.groupAnnounces env.now request.extra).1 =
        none := hannounces
      unfold packGroupAnnounces
      generalize selectGroupAnnounces onionA.groupAnnounces env.now request.extra = selected at *
      obtain ⟨announces, list⟩ := selected
      obtain rfl : announces = none := hannounces
      rfl
    | some announces =>
      obtain ⟨hmax, hwell⟩ := announcesFor_spec h hannounces
      replace hannounces : (selectGroupAnnounces onionA.groupAnnounces env.now request.extra).1 =
        some announces := hannounces
      unfold packGroupAnnounces
      generalize selectGroupAnnounces onionA.groupAnnounces env.now request.extra = selected at *
      obtain ⟨announces', list⟩ := selected
      obtain rfl : announces' = some announces := hannounces
      have hfour : gcaMaxSentAnnounces = 4 := rfl
      have hsize : gcaAnnounceMaxSize = 136 := rfl
      have hroom : 1 + onionPingIdSize + 1 + maxSentNodes * packedNodeSizeIp6 +
        AnnounceKind.maxExtraSize .group = 782 := rfl
      exact gcaPackAnnouncesList_eq hwell (by rw [hsize]; omega) (by omega)

theorem groupAnnounces_findEntry : (onionA.findEntry hmac env source request).2.groupAnnounces =
    onionA.groupAnnounces := by
  unfold findEntry
  split <;> rfl

theorem announcesFor_findEntry (now : UInt64) :
    announcesFor kind now (onionA.findEntry hmac env source request).2 request =
      announcesFor kind now onionA request := by
  unfold announcesFor
  rw [groupAnnounces_findEntry]

theorem length_responseHead (nodes : Bytes) :
    (onionA.responseHead hmac env kind source request nodes).length =
      33 + (if kind.wantNodeCount then 1 else 0) + nodes.length := by
  have hkey : cryptoPublicKeySize = 32 := rfl
  have hpayload : (onionA.announcePayload hmac env source request).2.length = cryptoPublicKeySize :=
    length_announcePayload
  unfold responseHead
  rw [length_cons, length_append, length_append]
  split
  · rw [length_singleton]
    omega
  · rw [length_nil]
    omega

theorem length_responseHead_le (h : onionA.dht.Families) :
    (onionA.responseHead hmac env kind source request
      ((onionA.nodesList source request).flatMap NodeFormat.packed)).length ≤ 238 := by
  have hfour : maxSentNodes = 4 := rfl
  have hmax := (DHT.sendnodesList_spec h source request.clientId).1
  have hle := length_flatMap_packed_le (onionA.nodesList source request)
  have hsame : onionA.nodesList source request = onionA.dht.sendnodesList source request.clientId :=
    rfl
  rw [← hsame] at hmax
  rw [length_responseHead]
  split <;> omega

def responsePlain (hmac : Hmac) (env : OnionAnnounceEnv) (onionA : OnionAnnounce) (kind : AnnounceKind)
    (source : IPPort) (request : AnnounceRequest) (announces : List GCAnnounce) : Bytes :=
  onionA.responseHead hmac env kind source request
    ((onionA.nodesList source request).flatMap NodeFormat.packed) ++
    announces.flatMap GCAnnounce.packed

def response (hmac : Hmac) (cipher : ByteCipher OnionNonce) (env : OnionAnnounceEnv)
    (onionA : OnionAnnounce) (kind : AnnounceKind) (source : IPPort) (request : AnnounceRequest)
    (announces : List GCAnnounce) : Bytes :=
  responseData env kind request (cipher.afternm request.sharedKey env.randomNonce
    (onionA.responsePlain hmac env kind source request announces))

theorem length_sendback (hplain : onionMinimalSize ≤ request.plain.length) :
    request.sendback.length = onionAnnounceSendbackDataLength := by
  have hsize : onionMinimalSize = 104 := rfl
  have hping : onionPingIdSize = 32 := rfl
  have hkey : cryptoPublicKeySize = 32 := rfl
  have hback : onionAnnounceSendbackDataLength = 8 := rfl
  rw [AnnounceRequest.sendback, length_take, length_drop]
  omega

theorem length_response (hplain : onionMinimalSize ≤ request.plain.length) (announces : List GCAnnounce) :
    (onionA.response hmac cipher env kind source request announces).length =
      49 + (onionA.responsePlain hmac env kind source request announces).length := by
  have hback : onionAnnounceSendbackDataLength = 8 := rfl
  have hnonce : cryptoNonceSize = 24 := rfl
  have hmac' : cryptoMacSize = 16 := rfl
  rw [response, responseData, length_cons, length_append, length_sendback hplain,
    length_append, Vector.length_toList, cipher.length_afternm]
  omega

theorem answerRequest_eq_ignored (hdht : onionA.dht.Families)
    (hlist : GCAnnouncesList.system.Reachable onionA.groupAnnounces)
    (h : ¬((∀ node ∈ onionA.nodesList source request, node.ipPort.isUdp) ∧
      ∃ announces, announcesFor kind env.now onionA request = some announces ∧
        announces.all gcaIsValidAnnounce)) :
    (onionA.answerRequest hmac cipher env kind source request).1 = .ignored := by
  unfold answerRequest
  rw [packedNodes_eq hdht]
  by_cases hudp : ∀ node ∈ onionA.nodesList source request, node.ipPort.isUdp
  · rw [if_pos hudp]
    dsimp only
    have hextra : ((onionA.findEntry hmac env source request).2.extraData env kind request
        (onionA.responseHead hmac env kind source request
          ((onionA.nodesList source request).flatMap NodeFormat.packed)).length).1 = none := by
      rw [extraData_eq (by rw [groupAnnounces_findEntry]; exact hlist)
        (length_responseHead_le hdht), announcesFor_findEntry]
      cases hannounces : announcesFor kind env.now onionA request with
      | none => rfl
      | some announces =>
        exact if_neg fun hvalid => h ⟨hudp, announces, hannounces, hvalid⟩
    generalize (onionA.findEntry hmac env source request).2.extraData env kind request _ = extra at *
    obtain ⟨extra, onionA'⟩ := extra
    obtain rfl : extra = none := hextra
    rfl
  · rw [if_neg hudp]

theorem answerRequest_eq (hdht : onionA.dht.Families)
    (hlist : GCAnnouncesList.system.Reachable onionA.groupAnnounces) (hsource : source.isUdp)
    (hret : request.ret.length = onionReturn3) {announces : List GCAnnounce}
    (hudp : ∀ node ∈ onionA.nodesList source request, node.ipPort.isUdp)
    (hannounces : announcesFor kind env.now onionA request = some announces)
    (hvalid : announces.all gcaIsValidAnnounce) :
    (onionA.answerRequest hmac cipher env kind source request).1 =
      if (onionA.response hmac cipher env kind source request announces).length >
          onionAnnounceResponseMaxSize then
        .overrun (onionA.response hmac cipher env kind source request announces).length
      else
        .sent source (netPacketOnionRecv3 ::
          (request.ret ++ onionA.response hmac cipher env kind source request announces)) := by
  have hextra : ((onionA.findEntry hmac env source request).2.extraData env kind request
      (onionA.responseHead hmac env kind source request
        ((onionA.nodesList source request).flatMap NodeFormat.packed)).length).1 =
      some (announces.flatMap GCAnnounce.packed) := by
    rw [extraData_eq (by rw [groupAnnounces_findEntry]; exact hlist)
      (length_responseHead_le hdht), announcesFor_findEntry, hannounces]
    exact if_pos hvalid
  unfold answerRequest
  rw [packedNodes_eq hdht, if_pos hudp]
  dsimp only
  generalize (onionA.findEntry hmac env source request).2.extraData env kind request _ = extra at *
  obtain ⟨extra, onionA'⟩ := extra
  obtain rfl : extra = some _ := hextra
  dsimp only
  have hne : (onionA.responseHead hmac env kind source request
      ((onionA.nodesList source request).flatMap NodeFormat.packed) ++
      announces.flatMap GCAnnounce.packed).length ≠ 0 := by
    rw [length_append, length_responseHead]
    omega
  rw [ByteCipher.encryptDataSymmetric, if_neg hne]
  dsimp only
  have hdata : responseData env kind request (cipher.afternm request.sharedKey env.randomNonce
      (onionA.responseHead hmac env kind source request
        ((onionA.nodesList source request).flatMap NodeFormat.packed) ++
        announces.flatMap GCAnnounce.packed)) =
      onionA.response hmac cipher env kind source request announces := rfl
  have hpos : (onionA.response hmac cipher env kind source request announces).length ≠ 0 :=
    Nat.succ_ne_zero _
  rw [hdata]
  generalize onionA.response hmac cipher env kind source request announces = data at *
  split
  · rfl
  · have hmax : onionAnnounceResponseMaxSize = 626 := rfl
    have hroom : onionResponseMaxDataSize = 1222 := rfl
    rw [sendOnionResponse, if_neg (by omega), take_of_length_le (Nat.le_of_eq hret)]
    dsimp only
    have hsent : onionSendpacket source (netPacketOnionRecv3 :: (request.ret ++ data)) =
        .sent source (netPacketOnionRecv3 :: (request.ret ++ data)) := if_pos hsource
    rw [hsent]

end OnionAnnounce

/-! ## The one who asked -/

namespace OnionClient

structure Hears (client client' : OnionClient) (answers : List AnnounceAnswer)
    (nodes : List (Nat × List NodeFormat)) (peers : List (PublicKey × List GCAnnounce)) : Prop where
  answers : client'.answers = client.answers ++ answers
  answeredNodes : client'.answeredNodes = client.answeredNodes ++ nodes
  announcedPeers : client'.announcedPeers = client.announcedPeers ++ peers
  gcPublicKeys : client'.friendsList.map (·.gcPublicKey) = client.friendsList.map (·.gcPublicKey)
  groups : client'.groups = client.groups

variable {client client' client'' : OnionClient} {answers answers' : List AnnounceAnswer}
  {nodes nodes' : List (Nat × List NodeFormat)} {peers peers' : List (PublicKey × List GCAnnounce)}

section

variable (h : Hears client client' answers nodes peers)
include h

theorem Hears.trans (h' : Hears client' client'' answers' nodes' peers') :
    Hears client client'' (answers ++ answers') (nodes ++ nodes') (peers ++ peers') where
  answers := by rw [h'.answers, h.answers, append_assoc]
  answeredNodes := by rw [h'.answeredNodes, h.answeredNodes, append_assoc]
  announcedPeers := by rw [h'.announcedPeers, h.announcedPeers, append_assoc]
  gcPublicKeys := h'.gcPublicKeys.trans h.gcPublicKeys
  groups := h'.groups.trans h.groups

theorem Hears.received (now : UInt64) :
    Hears client { client' with lastPacketRecv := now } answers nodes peers :=
  ⟨h.answers, h.answeredNodes, h.announcedPeers, h.gcPublicKeys, h.groups⟩

theorem Hears.length_friendsList :
    client'.friendsList.length = client.friendsList.length := by
  have hlen := congrArg List.length h.gcPublicKeys
  rwa [length_map, length_map] at hlen

theorem Hears.gcPublicKey (i : Nat) :
    (client'.friendsList[i]?).map (·.gcPublicKey) = (client.friendsList[i]?).map (·.gcPublicKey) := by
  rw [← getElem?_map, h.gcPublicKeys, getElem?_map]

end

theorem hears_checkSendback (client : OnionClient) (now : UInt64) (sendback : Bytes) :
    Hears client (client.checkSendback now sendback).2 [] [] [] ∧
      (client.checkSendback now sendback).2.secretKeyOf = client.secretKeyOf := by
  unfold checkSendback
  generalize client.announcePingArray.pingArrayCheck now _ _ = checked
  obtain ⟨data, array⟩ := checked
  have hnothing : Hears client { client with announcePingArray := array } [] [] [] :=
    ⟨(append_nil _).symm, (append_nil _).symm, (append_nil _).symm, rfl, rfl⟩
  cases data with
  | none => exact ⟨hnothing, rfl⟩
  | some data =>
    dsimp only
    split
    · exact ⟨hnothing, rfl⟩
    · exact ⟨hnothing, rfl⟩

theorem checkSendback_append (now : UInt64) {sendback : Bytes}
    (hlen : sendback.length = onionAnnounceSendbackDataLength) (rest : Bytes) :
    client.checkSendback now (sendback ++ rest) = client.checkSendback now sendback := by
  have h8 : sendback.length = 8 := hlen
  unfold checkSendback
  rw [take_left' h8, take_of_length_le (Nat.le_of_eq h8)]

variable {num : Nat}

theorem clientAddToList_eq (env : OnionClientEnv) (publicKey : PublicKey) (ipPort : IPPort) {isStored : UInt8}
    (pingidOrKey : Bytes) (hnum : num ≤ client.friendsList.length) (hstored : num ≠ 0 → isStored < 2) :
    ∃ client', client.clientAddToList env num publicKey ipPort isStored pingidOrKey = (true, client') ∧
      Hears client client' [{ num, publicKey, ipPort, isStored, pingidOrKey }] [] [] := by
  unfold clientAddToList
  rw [if_neg (Nat.not_lt.mpr hnum)]
  by_cases hself : num = 0
  · rw [if_pos hself]
    exact ⟨_, rfl, ⟨rfl, (append_nil _).symm, (append_nil _).symm, rfl, rfl⟩⟩
  · have hlt := hstored hself
    rw [if_neg hself, if_neg (UInt8.not_le.mpr hlt)]
    refine ⟨_, rfl, ⟨rfl, (append_nil _).symm, (append_nil _).symm, ?_, rfl⟩⟩
    -- a friend with another node list has the same group
    apply ext_getElem?
    intro i
    rw [getElem?_map, getElem?_map, getElem?_modify]
    cases client.friendsList[i]? with
    | none => rfl
    | some friend =>
      split <;> rfl

theorem clientPingNodes_eq (now : UInt64) (nodeList : List NodeFormat) (source : IPPort)
    (hnum : num ≤ client.friendsList.length) :
    ∃ client', client.clientPingNodes now num nodeList source = (true, client') ∧
      Hears client client' [] [(num, nodeList)] [] := by
  unfold clientPingNodes
  rw [if_neg (Nat.not_lt.mpr hnum)]
  by_cases hself : num = 0
  · rw [if_pos hself]
    exact ⟨_, rfl, ⟨(append_nil _).symm, rfl, (append_nil _).symm, rfl, rfl⟩⟩
  · have hlt : num - 1 < client.friendsList.length := by omega
    rw [if_neg hself, getElem?_eq_getElem hlt]
    refine ⟨_, rfl, ⟨(append_nil _).symm, rfl, (append_nil _).symm, ?_, rfl⟩⟩
    apply ext_getElem?
    intro i
    rw [getElem?_map, getElem?_map, getElem?_set]
    split
    · rename_i hi
      rw [← hi, getElem?_eq_getElem hlt]
      rfl
    · rfl

theorem gcHandleAnnounceResponseCallback_eq {friend : OnionFriend} (hself : num ≠ 0)
    (hfriend : client.friendsList[num - 1]? = some friend) (hgroup : client.groups.contains friend.gcPublicKey)
    {announces : List GCAnnounce} (hwell : ∀ announce ∈ announces, announce.WellFormed)
    (hcount : announces.length ≤ gcaMaxSentAnnounces) (hmax : (announces.flatMap GCAnnounce.packed).length < 2 ^ 15) :
    ∃ client', client.gcHandleAnnounceResponseCallback num
        (announces.flatMap GCAnnounce.packed) = (true, client') ∧
      Hears client client' [] [] [(friend.gcPublicKey, announces.map GCAnnounce.received)] := by
  unfold gcHandleAnnounceResponseCallback
  rw [if_neg hself, hfriend]
  dsimp only
  rw [hgroup, gcaUnpackAnnouncesList_flatMap hwell hcount hmax]
  exact ⟨_, rfl, ⟨(append_nil _).symm, (append_nil _).symm, rfl, rfl, rfl⟩⟩

variable {box : CryptoBox} {cipher : ByteCipher OnionNonce}

theorem openAnnounceResponse_eq (env : OnionClientEnv) (id : UInt8) {sendback plain : Bytes}
    {found : Sendback} {secretKey : SecretKey} {key : SharedKey} (nonce : OnionNonce)
    (hlen : sendback.length = onionAnnounceSendbackDataLength)
    (hfound : (client.checkSendback env.now sendback).1 = some found)
    (hnum : found.num.toNat ≤ client.friendsList.length)
    (hsecret : client.secretKeyOf found.num.toNat = some secretKey)
    (hkey : box.encryptPrecompute found.publicKey secretKey box.uninitialized = key)
    (hplain : 33 ≤ plain.length) (hmax : 49 + plain.length ≤ onionAnnounceResponseMaxSize)
    (hstored : found.num.toNat ≠ 0 → plain.getD 0 0 < 2) :
    ∃ client', client.openAnnounceResponse box cipher env
        (id :: (sendback ++ (nonce.toList ++ cipher.afternm key nonce plain))) =
        (some (found.num.toNat, plain), client') ∧
      Hears client client'
        [{ num := found.num.toNat, publicKey := found.publicKey, ipPort := found.ipPort,
           isStored := plain.getD 0 0, pingidOrKey := (plain.drop 1).take onionPingIdSize }] [] [] := by
  have h8 : sendback.length = 8 := hlen
  have hnonce : cryptoNonceSize = 24 := rfl
  have hmac' : cryptoMacSize = 16 := rfl
  have hmin : onionAnnounceResponseMinSize = 82 := rfl
  have hping : onionPingIdSize = 32 := rfl
  have hlength : (id :: (sendback ++ (nonce.toList ++ cipher.afternm key nonce plain))).length =
      49 + plain.length := by
    rw [length_cons, length_append, length_append, Vector.length_toList, cipher.length_afternm]
    omega
  -- the parts of the packet
  have hafter : (id :: (sendback ++ (nonce.toList ++ cipher.afternm key nonce plain))).drop
      (1 + onionAnnounceSendbackDataLength) = nonce.toList ++ cipher.afternm key nonce plain := by
    rw [← hlen, Nat.add_comm, drop_succ_cons, drop_left]
  have hencrypted : (id :: (sendback ++ (nonce.toList ++ cipher.afternm key nonce plain))).drop
      (1 + onionAnnounceSendbackDataLength + cryptoNonceSize) = cipher.afternm key nonce plain := by
    rw [← drop_drop, hafter, drop_left' Vector.length_toList]
  obtain ⟨hhears, hkeys⟩ := client.hears_checkSendback env.now sendback
  unfold openAnnounceResponse
  rw [if_neg (by omega), drop_succ_cons, drop_zero, checkSendback_append env.now hlen,
    hafter, hencrypted, bytesToVector_toList_append, hlength]
  generalize client.checkSendback env.now sendback = checked at *
  obtain ⟨result, client1⟩ := checked
  obtain rfl : result = some found := hfound
  dsimp only at hhears hkeys ⊢
  have hnum1 : found.num.toNat ≤ client1.friendsList.length := by
    rw [hhears.length_friendsList]
    exact hnum
  have hne : plain ≠ [] := ne_nil_of_length_pos (by omega)
  obtain ⟨client2, hadd, hhears2⟩ := clientAddToList_eq env found.publicKey found.ipPort
    ((plain.drop 1).take onionPingIdSize) hnum1 hstored
  rw [if_neg (Nat.not_lt.mpr hnum1), hkeys, hsecret]
  dsimp only
  rw [hkey, ByteCipher.decryptDataSymmetric_afternm hne]
  dsimp only
  rw [if_neg (by omega), hadd]
  exact ⟨client2, rfl, hhears.trans hhears2⟩

theorem unpackNodes_flatMap {nodes : List NodeFormat} {rest : Bytes} {maxNumNodes : Nat}
    (hudp : ∀ node ∈ nodes, node.ipPort.isUdp) (hmax : nodes.length ≤ maxNumNodes)
    (hend : nodes.length = maxNumNodes ∨ rest = []) (hfew : maxNumNodes ≤ maxSentNodes)
    (hrest : rest.length < 2 ^ 15) :
    unpackNodes (UInt16.ofNat maxNumNodes) (nodes.flatMap NodeFormat.packed ++ rest)
      (UInt16.ofNat (nodes.flatMap NodeFormat.packed ++ rest).length) false =
      some (nodes.map NodeFormat.canonical,
        UInt16.ofNat (nodes.flatMap NodeFormat.packed).length) := by
  have hfour : maxSentNodes = 4 := rfl
  have hle := length_flatMap_packed_le nodes
  have hcount : (UInt16.ofNat maxNumNodes).toNat = maxNumNodes :=
    UInt16.toNat_ofNat_of_lt' (by show _ < 2 ^ 16; omega)
  have hlength : (UInt16.ofNat (nodes.flatMap NodeFormat.packed ++ rest).length).toNat =
      (nodes.flatMap NodeFormat.packed ++ rest).length := by
    apply UInt16.toNat_ofNat_of_lt'
    show _ < 2 ^ 16
    rw [length_append]
    omega
  rw [unpackNodes, hcount, hlength, take_length, unpackNodesLoop_flatMap false hudp hmax hend]
  dsimp only
  rw [← UInt16.ofNat_sub (by rw [length_append]; omega), length_append, Nat.add_sub_cancel]

def heardNodes (num : Nat) (nodes : List NodeFormat) : List (Nat × List NodeFormat) :=
  if nodes = [] then [] else [(num, nodes.map NodeFormat.canonical)]

def heardPeers (gcPublicKey : PublicKey) (announces : List GCAnnounce) :
    List (PublicKey × List GCAnnounce) :=
  if announces = [] then [] else [(gcPublicKey, announces.map GCAnnounce.received)]

def IsGroup (client : OnionClient) (num : Nat) (gcPublicKey : PublicKey) : Prop :=
  num ≠ 0 ∧ (client.friendsList[num - 1]?).map (·.gcPublicKey) = some gcPublicKey ∧
    client.groups.contains gcPublicKey

theorem Hears.isGroup (h : Hears client client' answers nodes peers) {gcPublicKey : PublicKey}
    (hgroup : client.IsGroup num gcPublicKey) :
    client'.IsGroup num gcPublicKey := by
  obtain ⟨hself, hfriend, hcontains⟩ := hgroup
  refine ⟨hself, ?_, ?_⟩
  · rw [h.gcPublicKey]
    exact hfriend
  · rw [h.groups]
    exact hcontains

variable {env : OnionClientEnv} {packet plain : Bytes} {num : Nat} {client1 : OnionClient}
  {nodeList : List NodeFormat}

theorem pingAnsweredNodes_eq (now : UInt64) (source : IPPort)
    (hudp : ∀ node ∈ nodeList, node.ipPort.isUdp) (hfew : nodeList.length ≤ maxSentNodes)
    {rest : Bytes} (hrest : rest.length < 2 ^ 15) (hnum : num ≤ client.friendsList.length) :
    ∃ client', client.pingAnsweredNodes now num nodeList.length
        (nodeList.flatMap NodeFormat.packed ++ rest) source =
        (some (UInt16.ofNat (nodeList.flatMap NodeFormat.packed).length), client') ∧
      Hears client client' [] (heardNodes num nodeList) [] := by
  unfold pingAnsweredNodes
  cases hnodes : nodeList with
  | nil =>
    exact ⟨client, rfl, ⟨(append_nil _).symm, (append_nil _).symm,
      (append_nil _).symm, rfl, rfl⟩⟩
  | cons node nodes =>
    rw [← hnodes, if_pos (by rw [hnodes]; exact Nat.succ_pos _), if_neg (Nat.not_lt.mpr hfew),
      unpackNodes_flatMap hudp le_rfl (.inl rfl) hfew hrest]
    dsimp only
    obtain ⟨client', hping, hhears⟩ := clientPingNodes_eq now (nodeList.map NodeFormat.canonical) source hnum
    rw [hping]
    refine ⟨client', rfl, ?_⟩
    rw [heardNodes, if_neg (by rw [hnodes]; exact cons_ne_nil _ _)]
    exact hhears

section

variable (hopen : client.openAnnounceResponse box cipher env packet = (some (num, plain), client1))
  (hhears : Hears client client1 answers [] []) (hnum : num ≤ client.friendsList.length)

include hopen hhears hnum

theorem handleAnnounceResponse_eq (source : IPPort) {flag : UInt8} {pingIdOrKey : Bytes} (hpingId : pingIdOrKey.length = onionPingIdSize) {announces : List GCAnnounce}
    (hplain : plain = flag :: (pingIdOrKey ++ UInt8.ofNat nodeList.length ::
      (nodeList.flatMap NodeFormat.packed ++ announces.flatMap GCAnnounce.packed)))
    (hpacket : packet.length = 49 + plain.length) (hudp : ∀ node ∈ nodeList, node.ipPort.isUdp)
    (hfew : nodeList.length ≤ maxSentNodes) (hwell : ∀ announce ∈ announces, announce.WellFormed)
    (hcount : announces.length ≤ gcaMaxSentAnnounces) {gcPublicKey : PublicKey}
    (hgroup : announces ≠ [] → client.IsGroup num gcPublicKey) :
    ∃ client', client.handleAnnounceResponse box cipher env source packet = (true, client') ∧
      Hears client client' answers (heardNodes num nodeList) (heardPeers gcPublicKey announces) := by
  have hping : onionPingIdSize = 32 := rfl
  have hmin : onionAnnounceResponseMinSize = 82 := rfl
  have hfour : maxSentNodes = 4 := rfl
  have hfour' : gcaMaxSentAnnounces = 4 := rfl
  have hnodesLe := length_flatMap_packed_le nodeList
  have hannouncesLe : (announces.flatMap GCAnnounce.packed).length ≤ 104 * announces.length := by
    clear hplain hcount hgroup
    induction announces with
    | nil => exact Nat.zero_le _
    | cons announce announces ih =>
      have hone := (hwell announce mem_cons_self).length_packed_le
      have ih := ih fun a ha => hwell a (mem_cons_of_mem _ ha)
      rw [flatMap_cons, length_append, length_cons]
      omega
  have hlength : plain.length = 34 + (nodeList.flatMap NodeFormat.packed).length +
      (announces.flatMap GCAnnounce.packed).length := by
    rw [hplain, length_cons, length_append, length_cons, length_append, hpingId]
    omega
  have hcountByte : (plain.getD (1 + onionPingIdSize) 0).toNat = nodeList.length := by
    rw [hplain, ← hpingId, Nat.add_comm, getD_cons_succ, getD_eq_getElem?_getD,
      getElem?_append_right le_rfl, Nat.sub_self]
    exact UInt8.toNat_ofNat_of_lt' (by show _ < 2 ^ 8; omega)
  have hrest : plain.drop (2 + onionPingIdSize) =
      nodeList.flatMap NodeFormat.packed ++ announces.flatMap GCAnnounce.packed := by
    rw [hplain, show 2 + onionPingIdSize = onionPingIdSize + 1 + 1 from rfl, drop_succ_cons,
      ← drop_drop, ← hpingId, drop_left, drop_succ_cons, drop_zero]
  have hused : (UInt16.ofNat (nodeList.flatMap NodeFormat.packed).length).toNat =
      (nodeList.flatMap NodeFormat.packed).length :=
    UInt16.toNat_ofNat_of_lt' (by show _ < 2 ^ 16; omega)
  have hnum1 : num ≤ client1.friendsList.length := by
    rw [hhears.length_friendsList]
    exact hnum
  have hshort : (announces.flatMap GCAnnounce.packed).length < 2 ^ 15 := by omega
  obtain ⟨client2, hpings, hhears2⟩ := pingAnsweredNodes_eq env.now source hudp hfew hshort hnum1
  have hheard := hhears.trans hhears2
  rw [append_nil] at hheard
  unfold handleAnnounceResponse
  rw [hopen]
  dsimp only
  rw [hcountByte, hrest, hpings]
  dsimp only
  rw [hused, hpacket, hlength]
  have hextra : plain.drop (2 + onionPingIdSize + (nodeList.flatMap NodeFormat.packed).length) =
      announces.flatMap GCAnnounce.packed := by
    rw [← drop_drop, hrest, drop_left]
  by_cases hnone : announces = []
  · rw [hnone, flatMap_nil, length_nil, if_neg (by omega)]
    refine ⟨_, rfl, ?_⟩
    exact hheard.received env.now
  · have hpos : 0 < (announces.flatMap GCAnnounce.packed).length := by
      cases announces with
      | nil => exact absurd rfl hnone
      | cons announce announces =>
        rw [flatMap_cons, length_append, GCAnnounce.length_packed]
        omega
    obtain ⟨hself, hkey, hcontains⟩ := hheard.isGroup (hgroup hnone)
    obtain ⟨friend, hfriend, rfl⟩ := Option.map_eq_some_iff.mp hkey
    obtain ⟨client3, hcallback, hhears3⟩ := gcHandleAnnounceResponseCallback_eq hself hfriend
      hcontains hwell hcount hshort
    rw [if_pos (by omega), hextra, hcallback]
    refine ⟨_, rfl, ?_⟩
    have hall := hheard.trans hhears3
    rw [append_nil, append_nil] at hall
    rw [heardPeers, if_neg hnone]
    exact hall.received env.now

theorem handleAnnounceResponseOld_eq (source : IPPort) {flag : UInt8} {pingIdOrKey : Bytes}
    (hpingId : pingIdOrKey.length = onionPingIdSize) (hplain : plain = flag :: (pingIdOrKey ++ nodeList.flatMap NodeFormat.packed))
    (hudp : ∀ node ∈ nodeList, node.ipPort.isUdp) (hfew : nodeList.length ≤ maxSentNodes) :
    ∃ client', client.handleAnnounceResponseOld box cipher env source packet = (true, client') ∧
      Hears client client' answers (heardNodes num nodeList) [] := by
  have hrest : plain.drop (1 + onionPingIdSize) = nodeList.flatMap NodeFormat.packed := by
    rw [hplain, Nat.add_comm, drop_succ_cons, ← hpingId, drop_left]
  have hnum1 : num ≤ client1.friendsList.length := by
    rw [hhears.length_friendsList]
    exact hnum
  have hunpack := unpackNodes_flatMap hudp hfew (.inr rfl) le_rfl
    (by decide : ([] : Bytes).length < 2 ^ 15)
  rw [append_nil] at hunpack
  unfold handleAnnounceResponseOld
  rw [hopen]
  dsimp only
  rw [hrest]
  by_cases hnone : nodeList = []
  · rw [hnone]
    exact ⟨_, rfl, hhears.received env.now⟩
  · have hpos : 0 < nodeList.length := length_pos_iff.mpr hnone
    have hge := length_flatMap_packed_ge nodeList
    obtain ⟨client2, hping, hhears2⟩ := clientPingNodes_eq env.now
      (nodeList.map NodeFormat.canonical) source hnum1
    rw [if_pos (by omega), hunpack]
    dsimp only
    rw [if_neg (by rw [length_map]; omega), hping]
    refine ⟨_, rfl, ?_⟩
    have hheard := hhears.trans hhears2
    rw [append_nil] at hheard
    rw [heardNodes, if_neg hnone]
    exact hheard.received env.now

end

end OnionClient

/-! ## The exchange -/

def AnnounceKind.Sized (length : Nat) : AnnounceKind → Prop
  | .old | .plain => length = announceRequestMinSizeRecv
  | .group => announceRequestMinSizeRecv < length ∧ length ≤ announceRequestMaxSizeRecv

def AnnounceKind.handleRequest (kind : AnnounceKind) (hmac : Hmac) (box : CryptoBox)
    (cipher : ByteCipher OnionNonce) (env : OnionAnnounceEnv) (onionA : OnionAnnounce)
    (source : IPPort) (packet : Bytes) : AnnounceOutcome × OnionAnnounce :=
  match kind with
  | .old => onionA.handleAnnounceRequestOld hmac box cipher env source packet
  | .plain | .group => onionA.handleAnnounceRequest hmac box cipher env source packet

def AnnounceKind.handleResponse (kind : AnnounceKind) (box : CryptoBox) (cipher : ByteCipher OnionNonce)
    (env : OnionClientEnv) (client : OnionClient) (source : IPPort) (packet : Bytes) : Bool × OnionClient :=
  match kind with
  | .old => client.handleAnnounceResponseOld box cipher env source packet
  | .plain | .group => client.handleAnnounceResponse box cipher env source packet

structure AnnounceExchange (hmac : Hmac) (box : CryptoBox) (cipher : ByteCipher OnionNonce) where
  kind : AnnounceKind
  responder : OnionAnnounce
  env : OnionAnnounceEnv
  /-- Where the request comes from, as the node sees it. -/
  source : IPPort
  packet : Bytes
  request : AnnounceRequest
  requester : OnionClient
  requesterEnv : OnionClientEnv
  /-- Where the response comes from, as the client sees it. -/
  responseSource : IPPort
  /-- What the client stored when it sent the request. -/
  sendback : Sendback
  secretKey : SecretKey
  gcPublicKey : PublicKey
  dht_reachable : (DHT.dhtSystem box).Reachable responder.dht
  groupAnnounces_reachable : GCAnnouncesList.system.Reachable responder.groupAnnounces
  isUdp_source : source.isUdp
  sized : kind.Sized packet.length
  decrypted : (responder.decryptRequest box cipher env packet
    (onionMinimalSize + packet.length - announceRequestMinSizeRecv)).1 = some request
  pending : (requester.checkSendback requesterEnv.now request.sendback).1 = some sendback
  num_le : sendback.num.toNat ≤ requester.friendsList.length
  /-- Both compute the same shared key. -/
  secretKeyOf_num : requester.secretKeyOf sendback.num.toNat = some secretKey
  agreement : box.encryptPrecompute sendback.publicKey secretKey box.uninitialized = request.sharedKey
  /-- In the search for a friend a temporary key and a ping id of zero bytes are used. -/
  search : sendback.num.toNat ≠ 0 → request.clientId ≠ request.publicKey ∧
    checkTimedAuth hmac env.now onionAnnounceTimeout responder.hmacKey (request.pingIdData source)
      request.pingId = false
  /-- Announces of groups are asked for by the peers of these. -/
  isGroup : kind = .group → requester.IsGroup sendback.num.toNat gcPublicKey

namespace AnnounceExchange

open OnionAnnounce OnionClient

variable {hmac : Hmac} {box : CryptoBox} {cipher : ByteCipher OnionNonce} (x : AnnounceExchange hmac box cipher)

def outcome : AnnounceOutcome :=
  (x.kind.handleRequest hmac box cipher x.env x.responder x.source x.packet).1

def payload : UInt8 × Bytes := x.responder.announcePayload hmac x.env x.source x.request

def nodes : List NodeFormat := x.responder.nodesList x.source x.request

def announces : Option (List GCAnnounce) := announcesFor x.kind x.env.now x.responder x.request

def answer : AnnounceAnswer where
  num := x.sendback.num.toNat
  publicKey := x.sendback.publicKey
  ipPort := x.sendback.ipPort
  isStored := x.payload.1
  pingidOrKey := x.payload.2

/-- The response is not too long, and the client takes from it what the node put into it. -/
def Answered : Prop :=
  ∃ data announces client',
    x.outcome = .sent x.source (netPacketOnionRecv3 :: (x.request.ret ++ data)) ∧
    data.length ≤ onionAnnounceResponseMaxSize ∧
    x.announces = some announces ∧
    x.kind.handleResponse box cipher x.requesterEnv x.requester x.responseSource data = (true, client') ∧
    Hears x.requester client' [x.answer] (heardNodes x.sendback.num.toNat x.nodes)
      (heardPeers x.gcPublicKey announces)

/-- The nodes have addresses, the announces can be unpacked and packed, and together they fit. -/
structure Answerable : Prop where
  nodes : ∀ node ∈ x.nodes, node.ipPort.isUdp
  announces : ∃ announces, x.announces = some announces ∧
    (∀ announce ∈ announces, gcaIsValidAnnounce announce) ∧
    nodesSize x.nodes + announcesSize announces ≤ 543

theorem announcePayload_sharedKeys (env : OnionAnnounceEnv) (onionA : OnionAnnounce)
    (keys : SharedKeyCache) (source : IPPort) (request : AnnounceRequest) :
    announcePayload hmac env { onionA with sharedKeysRecv := keys } source request =
      announcePayload hmac env onionA source request := by
  unfold announcePayload findEntry
  dsimp only
  split <;> rfl

theorem outcome_spec : ∃ keys, x.outcome =
      (answerRequest hmac cipher x.env { x.responder with sharedKeysRecv := keys } x.kind x.source
        x.request).1 ∧
    onionMinimalSize ≤ x.request.plain.length ∧ x.request.ret.length = onionReturn3 := by
  have hmin : announceRequestMinSizeRecv = 354 := rfl
  have hreturn : onionReturn3 = 177 := rfl
  have hsmall : onionPingIdSize + cryptoPublicKeySize * 2 + onionAnnounceSendbackDataLength =
    onionMinimalSize := rfl
  have hsized := x.sized
  obtain ⟨responder, hdecrypt⟩ : ∃ responder, x.responder.decryptRequest box cipher x.env x.packet
      (onionMinimalSize + x.packet.length - announceRequestMinSizeRecv) =
        (some x.request, responder) := ⟨_, Prod.ext x.decrypted rfl⟩
  obtain ⟨⟨keys, rfl⟩, hplain, hret⟩ := decryptRequest_eq_some hdecrypt
  have hge : announceRequestMinSizeRecv ≤ x.packet.length := by
    revert hsized
    cases x.kind with
    | old => exact fun h => Nat.le_of_eq (Eq.symm h)
    | plain => exact fun h => Nat.le_of_eq (Eq.symm h)
    | group => exact fun h => Nat.le_of_lt h.1
  refine ⟨keys, ?_, by omega, by rw [hret, length_drop]; omega⟩
  have hcommon : (handleAnnounceRequestCommon hmac box cipher x.env x.responder x.kind x.source
      x.packet (onionMinimalSize + x.packet.length - announceRequestMinSizeRecv)).1 =
      (answerRequest hmac cipher x.env { x.responder with sharedKeysRecv := keys } x.kind x.source
        x.request).1 := by
    unfold handleAnnounceRequestCommon
    rw [hdecrypt]
  rw [← hcommon]
  unfold outcome AnnounceKind.handleRequest
  revert hsized
  cases x.kind with
  | old =>
    intro (h : _ = _)
    rw [handleAnnounceRequestOld, if_neg (fun hne => hne h), hsmall, h, Nat.add_sub_cancel]
  | plain =>
    intro (h : _ = _)
    rw [handleAnnounceRequest, if_neg (fun hne => hne h), hsmall, h, Nat.add_sub_cancel]
  | group =>
    intro (h : _ ∧ _)
    rw [handleAnnounceRequest, if_pos (Nat.ne_of_gt h.1), handleGcaAnnounceRequest, if_neg (by omega)]

variable {announces : List GCAnnounce}

theorem announces_eq_nil (hkind : x.kind ≠ .group) (hannounces : x.announces = some announces) : announces = [] := by
  have hsome : announcesFor x.kind x.env.now x.responder x.request = some announces := hannounces
  revert hsome hkind
  cases x.kind with
  | old => exact fun _ h => (Option.some.inj h).symm
  | plain => exact fun _ h => (Option.some.inj h).symm
  | group => exact fun h => absurd rfl h

theorem length_response_eq (keys : SharedKeyCache) (hplain : onionMinimalSize ≤ x.request.plain.length)
    (hudp : ∀ node ∈ x.nodes, node.ipPort.isUdp) (hannounces : x.announces = some announces) :
    (response hmac cipher x.env { x.responder with sharedKeysRecv := keys } x.kind x.source
      x.request announces).length =
      82 + (if x.kind.wantNodeCount then 1 else 0) + nodesSize x.nodes +
        announcesSize announces := by
  have hwell := (announcesFor_spec x.groupAnnounces_reachable hannounces).2
  rw [length_response hplain, responsePlain, length_append, length_responseHead,
    length_flatMap_packed_announces hwell]
  have hnodes := length_flatMap_packed_nodes hudp
  show 49 + (33 + _ + (x.nodes.flatMap NodeFormat.packed).length + _) = _
  omega

theorem length_response_le_iff (keys : SharedKeyCache) (hplain : onionMinimalSize ≤ x.request.plain.length)
    (hudp : ∀ node ∈ x.nodes, node.ipPort.isUdp) (hannounces : x.announces = some announces) :
    (response hmac cipher x.env { x.responder with sharedKeysRecv := keys } x.kind x.source
      x.request announces).length ≤ onionAnnounceResponseMaxSize ↔
      nodesSize x.nodes + announcesSize announces ≤ 543 := by
  have hmax : onionAnnounceResponseMaxSize = 626 := rfl
  have hfour : maxSentNodes = 4 := rfl
  have hlen := x.length_response_eq keys hplain hudp hannounces
  have hfew : x.nodes.length ≤ maxSentNodes := (DHT.sendnodesList_spec
    (DHT.families_of_reachable x.dht_reachable) x.source x.request.clientId).1
  have hnodes := length_flatMap_packed_le x.nodes
  rw [length_flatMap_packed_nodes hudp] at hnodes
  by_cases hkind : x.kind = .group
  · have hwant : x.kind.wantNodeCount := by rw [hkind]; rfl
    rw [if_pos hwant] at hlen
    omega
  · -- without announces there is always room
    have hzero : announcesSize announces = 0 := by
      rw [x.announces_eq_nil hkind hannounces]
      rfl
    split at hlen <;> omega

theorem answerRequest_keys (keys : SharedKeyCache) (hret : x.request.ret.length = onionReturn3)
    (hudp : ∀ node ∈ x.nodes, node.ipPort.isUdp) (hannounces : x.announces = some announces)
    (hvalid : announces.all gcaIsValidAnnounce) :
    (answerRequest hmac cipher x.env { x.responder with sharedKeysRecv := keys } x.kind x.source
      x.request).1 =
      if (response hmac cipher x.env { x.responder with sharedKeysRecv := keys } x.kind x.source
          x.request announces).length > onionAnnounceResponseMaxSize then
        .overrun (response hmac cipher x.env { x.responder with sharedKeysRecv := keys } x.kind
          x.source x.request announces).length
      else
        .sent x.source (netPacketOnionRecv3 :: (x.request.ret ++
          response hmac cipher x.env { x.responder with sharedKeysRecv := keys } x.kind x.source
            x.request announces)) := by
  refine answerRequest_eq ?_ ?_ x.isUdp_source hret ?_ ?_ hvalid
  · exact DHT.families_of_reachable x.dht_reachable
  · exact x.groupAnnounces_reachable
  · exact hudp
  · exact hannounces

theorem responsePlain_eq (keys : SharedKeyCache) (announces : List GCAnnounce) :
    responsePlain hmac x.env { x.responder with sharedKeysRecv := keys } x.kind x.source x.request
      announces =
      x.payload.1 :: (x.payload.2 ++
        ((if x.kind.wantNodeCount then [UInt8.ofNat x.nodes.length] else []) ++
          (x.nodes.flatMap NodeFormat.packed ++ announces.flatMap GCAnnounce.packed))) := by
  unfold responsePlain responseHead
  rw [announcePayload_sharedKeys, cons_append, append_assoc, append_assoc]
  rfl

theorem answerable_of_answered (h : x.Answered) : x.Answerable := by
  obtain ⟨data, announces, client', hsent, -, hannounces, -, -⟩ := h
  obtain ⟨keys, houtcome, hplain, hret⟩ := x.outcome_spec
  have hfamilies := DHT.families_of_reachable x.dht_reachable
  have hlist := x.groupAnnounces_reachable
  have hready : (∀ node ∈ x.nodes, node.ipPort.isUdp) ∧
      ∃ announces, x.announces = some announces ∧ announces.all gcaIsValidAnnounce := by
    by_contra hnot
    have hignored : (answerRequest hmac cipher x.env { x.responder with sharedKeysRecv := keys }
        x.kind x.source x.request).1 = .ignored := answerRequest_eq_ignored hfamilies hlist hnot
    rw [houtcome, hignored] at hsent
    exact nomatch hsent
  obtain ⟨hudp, announces', hannounces', hvalid⟩ := hready
  refine ⟨hudp, announces', hannounces', all_eq_true.mp hvalid, ?_⟩
  rw [← x.length_response_le_iff keys hplain hudp hannounces']
  rw [houtcome, x.answerRequest_keys keys hret hudp hannounces' hvalid] at hsent
  split at hsent
  · cases hsent
  · rename_i hfits
    exact Nat.not_lt.mp hfits

theorem answered_of_answerable (h : x.Answerable) : x.Answered := by
  obtain ⟨hudp, announces, hannounces, hvalid, hsize⟩ := h
  obtain ⟨keys, houtcome, hplain, hret⟩ := x.outcome_spec
  have hfamilies := DHT.families_of_reachable x.dht_reachable
  have hlist := x.groupAnnounces_reachable
  obtain ⟨hcount, hwell⟩ := announcesFor_spec hlist hannounces
  have hfew : x.nodes.length ≤ maxSentNodes := (DHT.sendnodesList_spec hfamilies x.source x.request.clientId).1
  have hfits := (x.length_response_le_iff keys hplain hudp hannounces).mpr hsize
  have hlen : (response hmac cipher x.env { x.responder with sharedKeysRecv := keys } x.kind x.source
      x.request announces).length = 49 + (responsePlain hmac x.env
        { x.responder with sharedKeysRecv := keys } x.kind x.source x.request announces).length :=
    length_response hplain announces
  have hshape := x.responsePlain_eq keys announces
  have hpayload : x.payload.2.length = onionPingIdSize := length_announcePayload
  have hsent := x.answerRequest_keys keys hret hudp hannounces (all_eq_true.mpr hvalid)
  rw [if_neg (Nat.not_lt.mpr hfits), ← houtcome] at hsent
  have hdata : response hmac cipher x.env { x.responder with sharedKeysRecv := keys } x.kind x.source
      x.request announces = x.kind.responsePacketId :: (x.request.sendback ++
        (x.env.randomNonce.toList ++ cipher.afternm x.request.sharedKey x.env.randomNonce
          (responsePlain hmac x.env { x.responder with sharedKeysRecv := keys } x.kind x.source
            x.request announces))) := rfl
  generalize response hmac cipher x.env { x.responder with sharedKeysRecv := keys } x.kind x.source
    x.request announces = data at *
  generalize responsePlain hmac x.env { x.responder with sharedKeysRecv := keys } x.kind x.source
    x.request announces = plain at *
  have hflag : plain.getD 0 0 = x.payload.1 := by rw [hshape]; rfl
  have htake : (plain.drop 1).take onionPingIdSize = x.payload.2 := by
    rw [hshape, drop_succ_cons, drop_zero, take_left' hpayload]
  have hlong : 33 ≤ plain.length := by
    have hping : onionPingIdSize = 32 := rfl
    rw [hshape, length_cons, length_append]
    omega
  have hstored : x.sendback.num.toNat ≠ 0 → plain.getD 0 0 < 2 := by
    intro hself
    obtain ⟨hkeys, hping⟩ := x.search hself
    rw [hflag]
    exact announcePayload_flag_lt hkeys hping
  have hshort : 49 + plain.length ≤ onionAnnounceResponseMaxSize := by
    rw [← hlen]
    exact hfits
  obtain ⟨client1, hopen, hhears⟩ : ∃ client1,
      x.requester.openAnnounceResponse box cipher x.requesterEnv data =
        (some (x.sendback.num.toNat, plain), client1) ∧
      Hears x.requester client1 [x.answer] [] [] := by
    rw [hdata, answer, ← hflag, ← htake]
    exact openAnnounceResponse_eq x.requesterEnv x.kind.responsePacketId x.env.randomNonce
      (length_sendback hplain) x.pending x.num_le x.secretKeyOf_num x.agreement hlong hshort hstored
  have hpacket : data.length = 49 + plain.length := hlen
  have hgroup : announces ≠ [] → x.requester.IsGroup x.sendback.num.toNat x.gcPublicKey :=
    fun hne => x.isGroup (by by_contra hkind; exact hne (x.announces_eq_nil hkind hannounces))
  refine ⟨data, announces, ?_⟩
  cases hkind : x.kind with
  | old =>
    obtain rfl := x.announces_eq_nil (by rw [hkind]; exact AnnounceKind.noConfusion) hannounces
    rw [hkind, flatMap_nil, append_nil] at hshape
    obtain ⟨client', hhandle, hheard⟩ := handleAnnounceResponseOld_eq hopen hhears x.num_le
      x.responseSource hpayload hshape hudp hfew
    exact ⟨client', hsent, hfits, hannounces, hhandle, hheard⟩
  | plain | group =>
    rw [hkind] at hshape
    obtain ⟨client', hhandle, hheard⟩ := handleAnnounceResponse_eq hopen hhears x.num_le x.responseSource
      hpayload hshape hpacket hudp hfew hwell hcount hgroup
    exact ⟨client', hsent, hfits, hannounces, hhandle, hheard⟩

/-- A request is answered and understood exactly if its nodes and announces can be packed and fit. -/
theorem answered_iff_answerable : x.Answered ↔ x.Answerable :=
  ⟨x.answerable_of_answered, x.answered_of_answerable⟩

end AnnounceExchange

/-! ## A response that does not fit -/

namespace AnnounceExchange

def addressOf (b : UInt8) : IPPort := { address6 with port := 33445 + b.toUInt16 }

/-- An announce in the group with the key `key 40`, with an address and a relay. -/
def peerAnnounce (b : UInt8) : GCPublicAnnounce where
  baseAnnounce :=
    { tcpRelays := [{ publicKey := key (b + 100)
                      ipPort := { addressOf b with family := tcpInet6 } }]
      ipPort := some (addressOf b)
      peerPublicKey := key b }
  chatPublicKey := key 40

def peerAnnounceData (b : UInt8) : Bytes :=
  (key 40).toList ++ (peerAnnounce b).baseAnnounce.packed

def announcesOf (n : Nat) : GCAnnouncesList :=
  ((List.range n).map UInt8.ofNat).foldl (fun list b => list.gcaAddAnnounce 1000 (peerAnnounce b)) newGcaList

/-- A node that knows the nodes with the keys `50`, …, `50 + (n - 1)`. -/
def dhtOf (n : Nat) : DHT :=
  ((List.range n).map UInt8.ofNat).foldl
    (fun dht b => dht.step xorBox (.good 1000) (.addto (addressOf b) (key (50 + b))))
    DHT.freshResponder

def onesHmac : Hmac := fun _ _ => Vector.replicate _ 1

/-- A node that knows `n` nodes and `n` peers of the group. -/
def nodeWith (n : Nat) : OnionAnnounce where
  entries := List.replicate onionAnnounceMaxEntries zeroAnnounceEntry
  hmacKey := Vector.replicate _ 0
  sharedKeysRecv := (sharedKeyCacheNew 1000 (key 2) 1200 4).get rfl
  dht := dhtOf n
  groupAnnounces := announcesOf n

/-- The content of the request: the searched key, the sendback data and the announce of the peer
    `20`. -/
def groupPlain : Bytes :=
  List.replicate onionPingIdSize 0 ++ ((key 40).toList ++ ((key 0).toList ++
    ([16, 0, 0, 0, 0, 0, 0, 0] ++ peerAnnounceData 20)))

def groupPacket : Bytes :=
  netPacketAnnounceRequest :: ((Vector.replicate cryptoNonceSize 3).toList ++ ((key 9).toList ++
    (halfKeyCipher.afternm (Vector.zipWith (· ^^^ ·) (key 9) (key 2)) (Vector.replicate _ 3)
      groupPlain ++ List.replicate onionReturn3 7)))

def groupPeer : OnionClient where
  friendsList :=
    [{ isValid := true
       realPublicKey := key 40
       clientsList := List.replicate maxOnionClients zeroOnionNode
       tempSecretKey := key 9
       pinged := noPingedNodes
       gcPublicKey := key 40 }]
  clientsAnnounceList := List.replicate maxOnionClientsAnnounce zeroOnionNode
  selfPublicKey := key 11
  selfSecretKey := key 11
  tempPublicKey := key 12
  pinged := noPingedNodes
  announcePingArray :=
    { entries := { data := some (sendbackData 1 (key 2) address4 5), pingTime := 1000, pingId := 16 } ::
        List.replicate 15 emptyPingArrayEntry
      lastDeleted := 0
      lastAdded := 1
      totalSize := 16
      timeout := 300 }
  lastPacketRecv := 0
  groups := [key 40]
  answers := []
  answeredNodes := []
  announceRequests := []
  announcedPeers := []

theorem wellFormed_peerAnnounce (b : UInt8) : (peerAnnounce b).baseAnnounce.WellFormed where
  ipPort a h := by
    cases h
    rfl
  tcpRelays node h := by
    rw [mem_singleton.mp h]
    rfl
  count := le_rfl

theorem gcaUnpackPublicAnnounce_peerAnnounceData (b : UInt8) :
    gcaUnpackPublicAnnounce (peerAnnounceData b) = some (peerAnnounce b) := by
  have hlong : ¬(peerAnnounceData b).length < cryptoPublicKeySize := by
    rw [peerAnnounceData, length_append, Vector.length_toList]
    omega
  have hunpack := gcaUnpackAnnounce_packed_append (wellFormed_peerAnnounce b)
    (by decide : ([] : Bytes).length < 2 ^ 15)
  rw [append_nil] at hunpack
  rw [gcaUnpackPublicAnnounce, if_neg hlong, peerAnnounceData,
    drop_left' Vector.length_toList, hunpack, bytesToVector_toList_append]
  rfl

theorem reachable_announcesOf (n : Nat) : GCAnnouncesList.system.Reachable (announcesOf n) := by
  have hfold : ∀ (bs : List UInt8) (list : GCAnnouncesList), GCAnnouncesList.system.Reachable list →
      GCAnnouncesList.system.Reachable
        (bs.foldl (fun list b => list.gcaAddAnnounce 1000 (peerAnnounce b)) list) := by
    intro bs
    induction bs with
    | nil => exact fun _ h => h
    | cons b bs ih =>
      exact fun list h => ih _ (h.step (.received 1000 (gcaUnpackPublicAnnounce_peerAnnounceData b)))
  exact hfold _ _ (.init rfl)

theorem reachable_dhtOf (n : Nat) : (DHT.dhtSystem xorBox).Reachable (dhtOf n) := by
  have hfold : ∀ (bs : List UInt8) (dht : DHT), (DHT.dhtSystem xorBox).Reachable dht →
      (DHT.dhtSystem xorBox).Reachable (bs.foldl
        (fun dht b => dht.step xorBox (.good 1000) (.addto (addressOf b) (key (50 + b)))) dht) := by
    intro bs
    induction bs with
    | nil => exact fun _ h => h
    | cons b bs ih =>
      have hudp : (addressOf b).isUdp = true := rfl
      exact fun dht h => ih _ (h.step ⟨.good 1000, .addto (addressOf b) (key (50 + b)), hudp, rfl⟩)
  exact hfold _ _ DHT.reachable_freshResponder

def groupEnv : OnionAnnounceEnv := { now := 1001, randomNonce := Vector.replicate _ 4 }

def peerEnv : OnionClientEnv := { now := 1001, pathUsed := 5 }

def groupRequest : AnnounceRequest where
  publicKey := key 9
  sharedKey := Vector.zipWith (· ^^^ ·) (key 9) (key 2)
  plain := groupPlain
  ret := List.replicate onionReturn3 7

-- evaluating these goes through the 1024 entries of the close list
set_option maxRecDepth 100000

theorem decryptRequest_groupPacket (n : Nat) : ((nodeWith n).decryptRequest xorBox halfKeyCipher
    groupEnv groupPacket (onionMinimalSize + groupPacket.length - announceRequestMinSizeRecv)).1 =
    some groupRequest := by
  have hsame : (nodeWith n).sharedKeysRecv = (nodeWith 0).sharedKeysRecv := rfl
  rw [OnionAnnounce.decryptRequest_fst_eq hsame]
  decide +kernel

theorem length_groupPacket : announceRequestMinSizeRecv < groupPacket.length ∧
    groupPacket.length ≤ announceRequestMaxSizeRecv := by
  decide +kernel

theorem search_groupRequest : groupRequest.clientId ≠ groupRequest.publicKey ∧
    checkTimedAuth onesHmac groupEnv.now onionAnnounceTimeout (Vector.replicate _ 0)
      (groupRequest.pingIdData address4) groupRequest.pingId = false := by
  decide +kernel

/-- The request arrives at the node with `n` nodes and peers. -/
def groupExchange (n : Nat) : AnnounceExchange onesHmac xorBox halfKeyCipher where
  kind := .group
  responder := nodeWith n
  env := groupEnv
  source := address4
  packet := groupPacket
  request := groupRequest
  requester := groupPeer
  requesterEnv := peerEnv
  responseSource := address4
  sendback := { num := 1, publicKey := key 2, ipPort := address4, pathNum := 5 }
  secretKey := key 9
  gcPublicKey := key 40
  dht_reachable := reachable_dhtOf n
  groupAnnounces_reachable := reachable_announcesOf n
  isUdp_source := rfl
  sized := length_groupPacket
  decrypted := decryptRequest_groupPacket n
  pending := by decide +kernel
  num_le := by decide
  secretKeyOf_num := rfl
  agreement := by decide +kernel
  search _ := search_groupRequest
  isGroup _ := ⟨by decide, rfl, by decide +kernel⟩

/-- With one node and one announce, the response is understood. -/
theorem answered_groupExchange_one : (groupExchange 1).Answered := by
  apply (answered_iff_answerable _).mpr
  refine ⟨by decide +kernel, [(peerAnnounce 0).baseAnnounce], by decide +kernel, by decide +kernel,
    by decide +kernel⟩

/-- Four nodes and four announces make 703 bytes, which are written into an array of 626. -/
theorem overrun_groupExchange_four : (groupExchange 4).outcome = .overrun 703 ∧
    ¬(groupExchange 4).Answered := by
  have houtcome : (groupExchange 4).outcome = .overrun 703 := by decide +kernel
  refine ⟨houtcome, ?_⟩
  intro h
  obtain ⟨data, announces, client', hsent, -⟩ := h
  rw [houtcome] at hsent
  exact nomatch hsent

end AnnounceExchange

end Toxcore

import Toxcore.ForStd.TransitionSystem
import Toxcore.Native.Forwarding
import Toxcore.Spec.NodeFormatCorrect

/-!
# Forwarding along a chain

A network of nodes at UDP addresses. A request travels along the chain and collects a sendback that leads back
to the originator, and a reply travels along the sendback. The size test at the first node includes the headers
of the rest of the chain, so that an accepted request may be dropped there; and a reply that starts like a
forward request is taken for one by an originator that uses UDP. Everything else is delivered.
-/

namespace Toxcore

open List

/-! ## Addresses -/

namespace IPPort

def IsNode (a : IPPort) : Prop := a.isUdp = true ∧ a.canonical = a

variable {a : IPPort}

theorem isUdp_canonical (h : a.isUdp) : a.canonical.isUdp := by
  rw [isUdp_iff] at h ⊢
  rwa [family_canonical]

theorem address_canonical (a : IPPort) : a.canonical.address = a.address := by
  have hfamily : a.canonical.isIpv4 = a.isIpv4 := by rw [isIpv4, isIpv4, family_canonical]
  have hlength := a.length_address
  have hip : a.canonical.ip = bytesToVector 16 a.address := rfl
  unfold address at hlength hip ⊢
  rw [hfamily, v4, v6, hip]
  split at hlength
  · rename_i h4
    rw [if_pos h4, if_pos h4]
    apply ext_getElem?
    intro i
    by_cases hi : i < 4
    · have hi' : i < a.v4.length := by rw [hlength]; exact hi
      simp [bytesToVector, hi, hi']
    · have hi' : a.v4.length ≤ i := by
        rw [hlength]
        exact Nat.le_of_not_lt hi
      rw [getElem?_eq_none (by simp; omega), getElem?_eq_none hi']
  · rename_i h4
    rw [if_neg h4, if_neg h4, toList_bytesToVector (by rw [hlength]; rfl), take_of_length_le]
    rw [hlength]
    rfl

theorem canonical_canonical (a : IPPort) : a.canonical.canonical = a.canonical := by
  unfold canonical
  rw [show ({ emptyIpPort with family := a.family, ip := bytesToVector 16 a.address, port := a.port }
    : IPPort).address = a.address from address_canonical a]

theorem isNode_canonical (h : a.isUdp) : a.canonical.IsNode :=
  ⟨isUdp_canonical h, canonical_canonical a⟩

theorem length_packed_le (a : IPPort) : a.packed.length ≤ maxPackedIpportSize := by
  rw [length_packed, length_address]
  split <;> decide

theorem IsNode.unpack (h : a.IsNode) (rest : Bytes) :
    unpackIpPort (a.packed ++ rest) false = some (a, rest) := by
  rw [unpackIpPort_packed_append h.1, h.2]

theorem pack_of_isUdp (h : a.isUdp) :
    packIpPort maxPackedIpportSize a = some a.packed := by
  have hle := a.length_packed_le
  rw [packIpPort_of_isUdp h, if_neg (by omega)]

end IPPort

/-! ## The way of a datagram -/

structure Datagram where
  source : IPPort
  dest : IPPort
  data : Bytes

abbrev ForwardNet := IPPort → Option Forwarding

/-- The node and the callback at which the datagram ends, if it gets to a callback within `fuel`
    nodes. -/
def travel (hmac : Hmac) (net : ForwardNet) : (fuel : Nat) → Datagram → Option (IPPort × ForwardOutcome)
  | 0, _ => none
  | fuel + 1, d =>
    match net d.dest with
    | none => none
    | some node =>
      match (node.handlePacket hmac d.source d.data).outcome with
      | .ignored => none
      | .sent dest data => travel hmac net fuel ⟨d.dest, dest.canonical, data⟩
      | outcome => some (d.dest, outcome)

/-- The datagram ends at `result`, however many more nodes it may visit. -/
def Travels (hmac : Hmac) (net : ForwardNet) (d : Datagram) (result : IPPort × ForwardOutcome) :
    Prop :=
  ∃ enough, ∀ fuel, enough ≤ fuel → travel hmac net fuel d = some result

section travels

variable {hmac : Hmac} {net : ForwardNet} (d : Datagram) {result : IPPort × ForwardOutcome} {node : Forwarding}

variable {data : Bytes}

section

variable (hnode : net d.dest = some node)
include hnode

theorem Travels.of_sent {dest : IPPort}
    (hsent : (node.handlePacket hmac d.source d.data).outcome = .sent dest data)
    (h : Travels hmac net ⟨d.dest, dest.canonical, data⟩ result) : Travels hmac net d result := by
  obtain ⟨enough, henough⟩ := h
  refine ⟨enough + 1, fun fuel hfuel => ?_⟩
  obtain ⟨fuel, rfl⟩ : ∃ k, fuel = k + 1 := ⟨fuel - 1, by omega⟩
  simp only [travel, hnode, hsent]
  exact henough fuel (by omega)

theorem Travels.of_request {forwarder : IPPort} {sendback : Bytes}
    (h : (node.handlePacket hmac d.source d.data).outcome = .request forwarder sendback data) :
    Travels hmac net d (d.dest, .request forwarder sendback data) := by
  refine ⟨1, fun fuel hfuel => ?_⟩
  obtain ⟨fuel, rfl⟩ : ∃ k, fuel = k + 1 := ⟨fuel - 1, by omega⟩
  simp only [travel, hnode, h]

theorem Travels.of_response (h : (node.handlePacket hmac d.source d.data).outcome = .response data) :
    Travels hmac net d (d.dest, .response data) := by
  refine ⟨1, fun fuel hfuel => ?_⟩
  obtain ⟨fuel, rfl⟩ : ∃ k, fuel = k + 1 := ⟨fuel - 1, by omega⟩
  simp only [travel, hnode, h]

theorem Travels.of_reply {sendbackData : Bytes}
    (h : (node.handlePacket hmac d.source d.data).outcome = .reply sendbackData data) :
    Travels hmac net d (d.dest, .reply sendbackData data) := by
  refine ⟨1, fun fuel hfuel => ?_⟩
  obtain ⟨fuel, rfl⟩ : ∃ k, fuel = k + 1 := ⟨fuel - 1, by omega⟩
  simp only [travel, hnode, h]

end

variable {d}

theorem Travels.unique {result' : IPPort × ForwardOutcome} (h : Travels hmac net d result)
    (h' : Travels hmac net d result') : result = result' := by
  obtain ⟨enough, henough⟩ := h
  obtain ⟨enough', henough'⟩ := h'
  have h1 := henough (max enough enough') (Nat.le_max_left _ _)
  have h2 := henough' (max enough enough') (Nat.le_max_right _ _)
  exact Option.some.inj (h1.symm.trans h2)

theorem Travels.sent {dest : IPPort} (hnode : net d.dest = some node)
    (hsent : (node.handlePacket hmac d.source d.data).outcome = .sent dest data) (h : Travels hmac net d result)
    : Travels hmac net ⟨d.dest, dest.canonical, data⟩ result := by
  obtain ⟨enough, henough⟩ := h
  refine ⟨enough, fun fuel hfuel => ?_⟩
  have h := henough (fuel + 1) (by omega)
  simpa only [travel, hnode, hsent] using h

theorem not_travels_of_ignored (hnode : net d.dest = some node)
    (h : (node.handlePacket hmac d.source d.data).outcome = .ignored) :
    ¬Travels hmac net d result := by
  rintro ⟨enough, henough⟩
  have h' := henough (enough + 1) (by omega)
  simp only [travel, hnode, h] at h'
  exact nomatch h'

end travels

/-! ## Packets -/

/-- A packet of the kind `NET_PACKET_FORWARDING`. -/
def forwardingPacket (sendback data : Bytes) : Bytes :=
  netPacketForwarding :: UInt8.ofNat sendback.length :: (sendback ++ data)

section packets

variable {hmac : Hmac} {node : Forwarding} {source : IPPort} {sendback data : Bytes}

theorem handlePacket_forwarding (hlen : sendback.length < 256) :
    node.handlePacket hmac source (forwardingPacket sendback data) =
      if data.head? = some netPacketForwardRequest then
        match packIpPort maxPackedIpportSize source with
        | none => ⟨.ignored, none⟩
        | some ipport =>
          node.handleForwardRequestDht hmac (sendbackForward :: (ipport ++ sendback)) data
      else if sendback.length > 0 then
        if node.forwardedRequestCallback then ⟨.request source sendback data, none⟩
        else ⟨.ignored, none⟩
      else if node.forwardedResponseCallback then ⟨.response data, none⟩
      else ⟨.ignored, none⟩ := by
  have hbyte : (UInt8.ofNat sendback.length).toNat = sendback.length := by
    rw [UInt8.toNat_ofNat']
    omega
  rw [forwardingPacket, Forwarding.handlePacket, if_neg (by decide), if_neg (by decide), if_pos rfl,
    Forwarding.handleForwarding, if_neg (by simp)]
  simp only [getD_cons_succ, getD_cons_zero, hbyte]
  rw [if_neg (by simp; omega)]
  have htake : List.take sendback.length (List.drop 2 (netPacketForwarding ::
      UInt8.ofNat sendback.length :: (sendback ++ data))) = sendback := by
    simp
  have hdrop : List.drop (2 + sendback.length) (netPacketForwarding ::
      UInt8.ofNat sendback.length :: (sendback ++ data)) = data := by
    rw [← drop_drop]
    simp
  generalize List.take sendback.length _ = front at htake
  generalize List.drop (2 + sendback.length) _ = back at hdrop
  subst htake hdrop
  rfl

theorem length_sendbackOf (sendbackData : Bytes) :
    (node.sendbackOf hmac sendbackData).length = timedAuthSize + sendbackData.length := by
  rw [Forwarding.sendbackOf, length_append, generateTimedAuth, Vector.length_toList]

theorem createForwardingPacket_of_le {sendbackData : Bytes} (hne : sendbackData ≠ [])
    (hle : timedAuthSize + sendbackData.length ≤ maxSendbackSize) :
    node.createForwardingPacket hmac sendbackData data =
      some (forwardingPacket (node.sendbackOf hmac sendbackData) data) := by
  have hpos := length_pos_iff.mpr hne
  rw [Forwarding.createForwardingPacket, if_neg (by omega)]
  rw [if_neg (by omega), forwardingPacket, length_sendbackOf]

theorem handleForwardRequestDht_of_le {sendbackData : Bytes} {key : PublicKey} {dest : IPPort}
    (hne : sendbackData ≠ []) (hle : timedAuthSize + sendbackData.length ≤ maxSendbackSize)
    (hdata : data.length ≤ maxForwardDataSize)
    (hroute : routeAddress node.closeClientlist key = some dest) (hudp : dest.isUdp) :
    (node.handleForwardRequestDht hmac sendbackData (netPacketForwardRequest :: (key.toList ++ data))).outcome =
      .sent dest (forwardingPacket (node.sendbackOf hmac sendbackData) data) := by
  have hlen : (netPacketForwardRequest :: (key.toList ++ data)).length =
      1 + cryptoPublicKeySize + data.length := by
    simp
    omega
  have hkey : (bytesToVector cryptoPublicKeySize
      ((netPacketForwardRequest :: (key.toList ++ data)).drop 1)) = key :=
    bytesToVector_toList_append key data
  have hdrop : (netPacketForwardRequest :: (key.toList ++ data)).drop (1 + cryptoPublicKeySize) =
      data := by
    rw [Nat.add_comm, drop_succ_cons, drop_left' (by simp)]
  rw [Forwarding.handleForwardRequestDht, if_neg (by omega)]
  rw [hkey, hdrop, if_neg (by omega), createForwardingPacket_of_le hne hle, hroute]
  exact if_pos hudp

end packets

/-! ## Sendbacks -/

inductive ForwardOrigin where
  | udp (address : IPPort)
  | tcp (relay : IPPort) (conId : UInt32) (identifier : UInt64)

/-- The sendback, given to the node at an address of the network, leads back to the origin. -/
inductive LeadsTo (hmac : Hmac) (net : ForwardNet) : IPPort → Bytes → ForwardOrigin → Prop where
  | udp {a o : IPPort} {node : Forwarding} (hnode : net a = some node) (ho : o.IsNode) :
    LeadsTo hmac net a (node.sendbackOf hmac (sendbackIpport :: o.packed)) (.udp o)
  | tcp {a : IPPort} {node : Forwarding} (conId : UInt32) (identifier : UInt64)
    (hnode : net a = some node) :
    LeadsTo hmac net a (node.sendbackOf hmac (Forwarding.tcpSendbackData conId identifier))
      (.tcp a conId identifier)
  | forward {a b : IPPort} {node : Forwarding} {sendback : Bytes} {origin : ForwardOrigin}
    (hnode : net a = some node) (hb : b.IsNode) (h : LeadsTo hmac net b sendback origin) :
    LeadsTo hmac net a (node.sendbackOf hmac (sendbackForward :: (b.packed ++ sendback))) origin

def Knows (net : ForwardNet) (a : IPPort) (key : PublicKey) (b : IPPort) : Prop :=
  ∃ node dest, net a = some node ∧ routeAddress node.closeClientlist key = some dest ∧
    dest.isUdp = true ∧ dest.canonical = b

/-- The nodes from `a` on know each other along the keys, and the last one is at `last`. -/
inductive Chain (net : ForwardNet) : IPPort → List PublicKey → IPPort → Prop where
  | nil (a : IPPort) : Chain net a [] a
  | cons {a b last : IPPort} {key : PublicKey} {keys : List PublicKey} (hknows : Knows net a key b)
    (h : Chain net b keys last) : Chain net a (key :: keys) last

theorem forwardChainPacket_cons (key : PublicKey) (keys : List PublicKey) (data : Bytes) :
    forwardChainPacket (key :: keys) data =
      netPacketForwardRequest :: (key.toList ++ forwardChainPacket keys data) := by
  simp [forwardChainPacket]

theorem length_forwardChainPacket (keys : List PublicKey) (data : Bytes) :
    (forwardChainPacket keys data).length = forwardChainPacketSize keys.length data.length := by
  induction keys with
  | nil => simp [forwardChainPacket, forwardChainPacketSize]
  | cons key keys ih =>
    rw [forwardChainPacket_cons, length_cons, length_append, ih, Vector.length_toList,
      forwardChainPacketSize, forwardChainPacketSize, length_cons, Nat.succ_mul]
    omega

/-! ## Requests -/

section request

variable {hmac : Hmac} {net : ForwardNet} {data : Bytes} {origin : ForwardOrigin}

theorem travels_chain {a prev last : IPPort} {keys : List PublicKey} {sendback : Bytes}
    (hchain : Chain net a keys last) (ha : a.IsNode) (hprev : prev.IsNode)
    (hlast : ∃ node, net last = some node ∧ node.forwardedRequestCallback = true)
    (hlead : LeadsTo hmac net prev sendback origin) (hpos : sendback ≠ [])
    (hsendback : sendback.length + 52 * keys.length ≤ maxSendbackSize)
    (hdata : (forwardChainPacket keys data).length ≤ maxForwardDataSize)
    (hhead : data.head? ≠ some netPacketForwardRequest) :
    ∃ forwarder sendback', Travels hmac net
        ⟨prev, a, forwardingPacket sendback (forwardChainPacket keys data)⟩
        (last, .request forwarder sendback' data) ∧
      forwarder.IsNode ∧ LeadsTo hmac net forwarder sendback' origin ∧
      sendback'.length ≤ maxSendbackSize := by
  induction hchain generalizing prev sendback with
  | nil a =>
    obtain ⟨node, hnode, hcallback⟩ := hlast
    refine ⟨prev, sendback, ?_, hprev, hlead, by omega⟩
    have hhandle : (node.handlePacket hmac prev
        (forwardingPacket sendback (forwardChainPacket [] data))).outcome =
          .request prev sendback data := by
      have hlen := length_pos_iff.mpr hpos
      rw [handlePacket_forwarding (by simp only [maxSendbackSize] at hsendback; omega),
        show forwardChainPacket [] data = data from rfl, if_neg hhead, if_pos hlen, if_pos hcallback]
    exact Travels.of_request ⟨prev, a, _⟩ hnode hhandle
  | @cons a b last key keys hknows hchain ih =>
    obtain ⟨node, dest, hnode, hroute, hudp, rfl⟩ := hknows
    rw [forwardChainPacket_cons] at hdata ⊢
    have hsize : (forwardChainPacket keys data).length ≤ maxForwardDataSize := by
      rw [length_cons, length_append] at hdata
      omega
    have hpacked := prev.length_packed_le
    rw [length_cons] at hsendback
    have hmax : timedAuthSize + (sendbackForward :: (prev.packed ++ sendback)).length ≤
        sendback.length + 52 := by
      rw [length_cons, length_append]
      simp only [timedAuthSize, maxPackedIpportSize, sizeIp6] at hpacked ⊢
      omega
    obtain ⟨forwarder, sendback', htravels, hforwarder, hlead', hlen'⟩ :=
      ih (IPPort.isNode_canonical hudp) ha hlast (.forward hnode hprev hlead)
        (ne_nil_of_length_pos (by rw [length_sendbackOf, timedAuthSize]; omega))
        (by rw [length_sendbackOf]; omega) hsize
    refine ⟨forwarder, sendback', ?_, hforwarder, hlead', hlen'⟩
    refine Travels.of_sent ⟨prev, a, _⟩ hnode ?_ htravels
    rw [handlePacket_forwarding (by simp only [maxSendbackSize] at hsendback; omega),
      head?_cons, if_pos rfl, IPPort.pack_of_isUdp hprev.1]
    exact handleForwardRequestDht_of_le (cons_ne_nil _ _) (by omega) hsize hroute hudp

end request

/-! ## Replies -/

/-- The network when the reply is on its way, within `SENDBACK_TIMEOUT` seconds at each node. -/
def Later (net later : ForwardNet) : Prop :=
  ∀ a node, net a = some node → ∃ node', later a = some node' ∧ node'.hmacKey = node.hmacKey ∧
    node.now.toNat ≤ node'.now.toNat ∧
    node'.now.toNat ≤ node.now.toNat + sendbackTimeout.toNat ∧
    node'.forwardReplyCallback = node.forwardReplyCallback ∧
    node'.forwardedResponseCallback = node.forwardedResponseCallback

theorem checkTimedAuth_generateTimedAuth {hmac : Hmac} {now now' : UInt64} {key : HmacKey} {data : Bytes}
    (hle : now.toNat ≤ now'.toNat) (hsoon : now'.toNat ≤ now.toNat + sendbackTimeout.toNat) :
    checkTimedAuth hmac now' sendbackTimeout key data
      (generateTimedAuth hmac now sendbackTimeout key data) = true := by
  have htimeout : sendbackTimeout.toNat = 3600 := rfl
  have hperiod : now'.toNat / 3600 = now.toNat / 3600 ∨
      now'.toNat / 3600 = now.toNat / 3600 + 1 := by
    omega
  unfold checkTimedAuth generateTimedAuth
  rw [Bool.or_eq_true, beq_iff_eq, beq_iff_eq]
  obtain hsame | hnext := hperiod
  · left
    have hdiv : now' / sendbackTimeout = now / sendbackTimeout := by
      apply UInt64.toNat_inj.mp
      rw [UInt64.toNat_div, UInt64.toNat_div, htimeout, hsame]
    unfold createTimedAuthToHash
    rw [hdiv]
  · right
    have hdiv : now' / sendbackTimeout - 1 = now / sendbackTimeout - 0 := by
      apply UInt64.toNat_inj.mp
      have hone : (1 : UInt64).toNat = 1 := rfl
      rw [UInt64.toNat_sub_of_le _ _ (by
        rw [UInt64.le_iff_toNat_le, UInt64.toNat_div, htimeout]; omega), UInt64.sub_zero,
        UInt64.toNat_div, UInt64.toNat_div, htimeout, hone]
      omega
    unfold createTimedAuthToHash
    rw [if_pos rfl, if_neg Bool.false_ne_true, hdiv]

section reply

variable {hmac : Hmac} {node : Forwarding} {source : IPPort}

theorem handlePacket_reply {auth sendbackData data : Bytes} (hauth : auth.length = timedAuthSize)
    (hne : sendbackData ≠ []) (hle : (auth ++ sendbackData).length ≤ maxSendbackSize) :
    (node.handlePacket hmac source (netPacketForwardReply ::
        UInt8.ofNat (auth ++ sendbackData).length :: (auth ++ sendbackData ++ data))).outcome =
      if !checkTimedAuth hmac node.now sendbackTimeout node.hmacKey sendbackData auth then .ignored
      else node.relayReply hmac sendbackData data := by
  have hpos := length_pos_iff.mpr hne
  have hlen : (auth ++ sendbackData).length = timedAuthSize + sendbackData.length := by
    rw [length_append, hauth]
  have hbyte : (UInt8.ofNat (auth ++ sendbackData).length).toNat =
      timedAuthSize + sendbackData.length := by
    rw [UInt8.toNat_ofNat', hlen]
    simp only [maxSendbackSize] at hle hlen ⊢
    omega
  generalize hsize : UInt8.ofNat (auth ++ sendbackData).length = size at hbyte ⊢
  rw [Forwarding.handlePacket, if_neg (by decide), if_pos rfl]
  have hpacket : (netPacketForwardReply :: size :: (auth ++ sendbackData ++ data)).length =
      2 + timedAuthSize + sendbackData.length + data.length := by
    simp only [length_cons, length_append]
    omega
  have hauth' : ((netPacketForwardReply :: size :: (auth ++ sendbackData ++ data)).drop 2).take
      timedAuthSize = auth := by
    rw [← hauth]
    simp
  have hdata' : ((netPacketForwardReply :: size :: (auth ++ sendbackData ++ data)).drop
      (2 + timedAuthSize)).take (timedAuthSize + sendbackData.length - timedAuthSize) =
        sendbackData := by
    rw [Nat.add_sub_cancel_left, ← drop_drop, ← hauth]
    simp
  have hrest : (netPacketForwardReply :: size :: (auth ++ sendbackData ++ data)).drop
      (2 + (timedAuthSize + sendbackData.length)) = data := by
    rw [← hlen, ← drop_drop]
    simp
  rw [Forwarding.handleForwardReply, if_neg (by omega)]
  simp only [getD_cons_succ, getD_cons_zero, hbyte, hauth', hdata', hrest]
  rw [if_neg (by omega), if_neg (by omega), if_neg (by omega)]

variable {net later : ForwardNet} {sendback data : Bytes}

variable {a : IPPort}

theorem handlePacket_forwardReply (source : IPPort) {sendbackData : Bytes} (hlater : Later net later)
    (hnode : net a = some node) (hne : sendbackData ≠ [])
    (hle : (node.sendbackOf hmac sendbackData).length ≤ maxSendbackSize) (hdata : data.length ≤ maxForwardDataSize) :
    ∃ packet node', forwardReply (node.sendbackOf hmac sendbackData) data = some packet ∧
      later a = some node' ∧ node'.forwardReplyCallback = node.forwardReplyCallback ∧
      (node'.handlePacket hmac source packet).outcome = node'.relayReply hmac sendbackData data := by
  obtain ⟨node', hnode', hkey, hle', hsoon, hcallback, -⟩ := hlater a node hnode
  refine ⟨_, node', if_neg (by omega), hnode', hcallback, ?_⟩
  have hauth : (generateTimedAuth hmac node.now sendbackTimeout node.hmacKey sendbackData).length =
      timedAuthSize := Vector.length_toList
  rw [Forwarding.sendbackOf, handlePacket_reply hauth hne hle, ← hkey,
    checkTimedAuth_generateTimedAuth hle' hsoon]
  rfl

theorem forwardReply_of_le (hle : sendback.length ≤ maxSendbackSize)
    (hdata : data.length ≤ maxForwardDataSize) : ∃ packet, forwardReply sendback data = some packet :=
  ⟨_, if_neg (by omega)⟩

theorem travels_sent_iff (result : IPPort × ForwardOutcome) {d : Datagram} {dest : IPPort}
    (hnode : net d.dest = some node)
    (hsent : (node.handlePacket hmac d.source d.data).outcome = .sent dest data) :
    Travels hmac net d result ↔ Travels hmac net ⟨d.dest, dest.canonical, data⟩ result :=
  ⟨fun h => h.sent hnode hsent, fun h => .of_sent d hnode hsent h⟩

variable {packet : Bytes}

theorem travels_reply_step {b : IPPort} (source : IPPort) (hlater : Later net later) (hnode : net a = some node)
    (hb : b.IsNode) (hle : (node.sendbackOf hmac (sendbackForward :: (b.packed ++ sendback))).length ≤ maxSendbackSize)
    (hdata : data.length ≤ maxForwardDataSize)
    (hpacket : forwardReply (node.sendbackOf hmac (sendbackForward :: (b.packed ++ sendback))) data = some packet) :
    ∃ inner, forwardReply sendback data = some inner ∧ ∀ result,
      Travels hmac later ⟨source, a, packet⟩ result ↔ Travels hmac later ⟨a, b, inner⟩ result := by
  obtain ⟨packet', node', hpacket', hnode', -, hhandle⟩ :=
    handlePacket_forwardReply source hlater hnode (cons_ne_nil _ _) hle hdata
  obtain rfl : packet' = packet := Option.some.inj (hpacket'.symm.trans hpacket)
  rw [length_sendbackOf, length_cons, length_append] at hle
  obtain ⟨inner, hinner⟩ := forwardReply_of_le (show sendback.length ≤ maxSendbackSize by omega) hdata
  refine ⟨inner, hinner, fun result => ?_⟩
  have hsent : (node'.handlePacket hmac source packet').outcome = .sent b inner := by
    rw [hhandle, Forwarding.relayReply, hb.unpack]
    dsimp only
    rw [hinner]
    exact if_pos hb.1
  have hiff := travels_sent_iff result (d := ⟨source, a, packet'⟩) hnode' hsent
  rwa [hb.2] at hiff

theorem travels_reply_udp {o : IPPort} (source : IPPort) (hlater : Later net later)
    (hlead : LeadsTo hmac net a sendback (.udp o)) (hle : sendback.length ≤ maxSendbackSize)
    (hdata : data.length ≤ maxForwardDataSize) (hpacket : forwardReply sendback data = some packet) :
    ∃ f, ∀ result, Travels hmac later ⟨source, a, packet⟩ result ↔
      Travels hmac later ⟨f, o, forwardingPacket [] data⟩ result := by
  generalize horigin : ForwardOrigin.udp o = origin at hlead
  induction hlead generalizing packet source with
  | @udp a o' node hnode ho =>
    obtain rfl : o = o' := ForwardOrigin.udp.inj horigin
    refine ⟨a, fun result => ?_⟩
    obtain ⟨packet', node', hpacket', hnode', -, hhandle⟩ :=
      handlePacket_forwardReply source hlater hnode (cons_ne_nil _ _) hle hdata
    obtain rfl : packet' = packet := Option.some.inj (hpacket'.symm.trans hpacket)
    have hunpack : unpackIpPort o.packed false = some (o, []) := by
      have h := ho.unpack []
      rwa [append_nil] at h
    have hsent : (node'.handlePacket hmac source packet').outcome =
        .sent o (forwardingPacket [] data) := by
      rw [hhandle, Forwarding.relayReply, if_pos rfl, hunpack]
      dsimp only
      rw [Forwarding.sendForwarding, if_neg (by omega)]
      exact if_pos ho.1
    have hiff := travels_sent_iff result (d := ⟨source, a, packet'⟩) hnode' hsent
    rwa [ho.2] at hiff
  | tcp conId identifier hnode => exact nomatch horigin
  | @forward a b node sendback origin hnode hb hlead ih =>
    obtain ⟨inner, hinner, hstep⟩ := travels_reply_step source hlater hnode hb hle hdata hpacket
    rw [length_sendbackOf, length_cons, length_append] at hle
    obtain ⟨f, hf⟩ := ih a (by omega) hinner horigin
    exact ⟨f, fun result => (hstep result).trans (hf result)⟩

theorem travels_reply_tcp {relay : IPPort} {conId : UInt32} {identifier : UInt64} (source : IPPort)
    (hlater : Later net later) (hrelay : ∃ node, net relay = some node ∧ node.forwardReplyCallback = true)
    (hlead : LeadsTo hmac net a sendback (.tcp relay conId identifier)) (hle : sendback.length ≤ maxSendbackSize)
    (hdata : data.length ≤ maxForwardDataSize) (hpacket : forwardReply sendback data = some packet) :
    Travels hmac later ⟨source, a, packet⟩
      (relay, .reply (Forwarding.tcpSendbackData conId identifier) data) := by
  generalize horigin : ForwardOrigin.tcp relay conId identifier = origin at hlead
  induction hlead generalizing packet source with
  | udp hnode ho => exact nomatch horigin
  | @tcp a node conId' identifier' hnode =>
    obtain ⟨rfl, rfl, rfl⟩ : relay = a ∧ conId = conId' ∧ identifier = identifier' := by
      injection horigin with h1 h2 h3
      exact ⟨h1, h2, h3⟩
    obtain ⟨packet', node', hpacket', hnode', hcallback', hhandle⟩ :=
      handlePacket_forwardReply source hlater hnode (cons_ne_nil _ _) hle hdata
    obtain rfl : packet' = packet := Option.some.inj (hpacket'.symm.trans hpacket)
    have hcallback : node'.forwardReplyCallback = true := by
      obtain ⟨node0, hnode0, hcallback0⟩ := hrelay
      obtain rfl : node = node0 := Option.some.inj (hnode.symm.trans hnode0)
      rw [hcallback', hcallback0]
    refine Travels.of_reply ⟨source, relay, packet'⟩ hnode' ?_
    rw [hhandle, Forwarding.tcpSendbackData, Forwarding.relayReply, if_neg (by decide),
      if_neg (by decide), if_pos hcallback]
  | @forward a b node sendback origin hnode hb hlead ih =>
    obtain ⟨inner, hinner, hstep⟩ := travels_reply_step source hlater hnode hb hle hdata hpacket
    rw [length_sendbackOf, length_cons, length_append] at hle
    exact (hstep _).mpr (ih a (by omega) hinner horigin)

end reply

/-! ## What is not delivered -/

section dropped

variable {hmac : Hmac} {net : ForwardNet}

theorem handleForwardRequestDht_cases (hmac : Hmac) (node : Forwarding) (packet : Bytes)
    {sendbackData : Bytes} (hne : sendbackData ≠ []) :
    (node.handleForwardRequestDht hmac sendbackData packet).outcome = .ignored ∨
      ∃ dest, (node.handleForwardRequestDht hmac sendbackData packet).outcome =
          .sent dest (forwardingPacket (node.sendbackOf hmac sendbackData)
            (packet.drop (1 + cryptoPublicKeySize))) ∧
        timedAuthSize + sendbackData.length ≤ maxSendbackSize := by
  unfold Forwarding.handleForwardRequestDht
  by_cases hshort : packet.length < 1 + cryptoPublicKeySize
  · rw [if_pos hshort]
    exact .inl rfl
  rw [if_neg hshort]
  by_cases hlong : timedAuthSize + sendbackData.length > maxSendbackSize ∨
      (packet.drop (1 + cryptoPublicKeySize)).length > maxForwardDataSize
  · rw [if_pos hlong]
    exact .inl rfl
  rw [if_neg hlong, createForwardingPacket_of_le hne (by omega)]
  cases routeAddress node.closeClientlist (bytesToVector _ (packet.drop 1)) with
  | none => exact .inl rfl
  | some dest =>
    dsimp only [sendpacket]
    split
    · exact .inr ⟨dest, rfl, by omega⟩
    · exact .inl rfl

theorem travel_ne_response {a source b : IPPort} {sendback data response : Bytes} {fuel : Nat}
    (hne : sendback ≠ []) (hle : sendback.length ≤ maxSendbackSize) :
    travel hmac net fuel ⟨source, a, forwardingPacket sendback data⟩ ≠
      some (b, .response response) := by
  induction fuel generalizing a source sendback data with
  | zero => exact fun h => nomatch h
  | succ fuel ih =>
    intro h
    rw [travel] at h
    cases hnode : net a with
    | none =>
      rw [hnode] at h
      exact nomatch h
    | some node =>
      rw [hnode] at h
      dsimp only at h
      rw [handlePacket_forwarding (by simp only [maxSendbackSize] at hle; omega)] at h
      have hpos := length_pos_iff.mpr hne
      by_cases hhead : data.head? = some netPacketForwardRequest
      · rw [if_pos hhead] at h
        cases hpack : packIpPort maxPackedIpportSize source with
        | none =>
          rw [hpack] at h
          exact nomatch h
        | some ipport =>
          rw [hpack] at h
          obtain hignored | ⟨dest, hsent, hle'⟩ := handleForwardRequestDht_cases hmac node data
            (cons_ne_nil sendbackForward (ipport ++ sendback))
          · rw [hignored] at h
            exact nomatch h
          · rw [hsent] at h
            refine ih ?_ ?_ h
            · exact ne_nil_of_length_pos (by rw [length_sendbackOf, timedAuthSize]; omega)
            · rw [length_sendbackOf]
              exact hle'
      · rw [if_neg hhead, if_pos hpos] at h
        cases hcallback : node.forwardedRequestCallback with
        | true =>
          rw [hcallback] at h
          exact nomatch (Prod.mk.inj (Option.some.inj h)).2
        | false =>
          rw [hcallback] at h
          exact nomatch h

end dropped

/-! ## Delivery over UDP -/

/-- The nodes of a chain that starts with the request of a UDP node `o` to the node at `f`. -/
structure UdpChain (net later : ForwardNet) (o f last : IPPort) (keys : List PublicKey) :
    Prop where
  origin : o.IsNode
  first : f.IsNode
  chain : Chain net f keys last
  receives : ∃ node, net last = some node ∧ node.forwardedRequestCallback = true
  responds : ∃ node, net o = some node ∧ node.forwardedResponseCallback = true
  later : Later net later

/-- The request gets to the last node, and the reply with its sendback to the originator. -/
def Delivered (hmac : Hmac) (net later : ForwardNet) (o f last : IPPort) (packet data reply : Bytes) : Prop :=
  ∃ forwarder sendback, Travels hmac net ⟨o, f, packet⟩ (last, .request forwarder sendback data) ∧
    sendback.length ≤ maxSendbackSize ∧
    ∃ replyPacket, forwardReply sendback reply = some replyPacket ∧
      Travels hmac later ⟨last, forwarder, replyPacket⟩ (o, .response reply)

section udp

variable {hmac : Hmac} {net later : ForwardNet} {o f last : IPPort} {key : PublicKey}
  {keys : List PublicKey} {data reply : Bytes}

theorem UdpChain.travels (h : UdpChain net later o f last (key :: keys))
    (hkeys : keys.length < maxForwardChainLength)
    (hdata : (forwardChainPacket keys data).length ≤ maxForwardDataSize)
    (hhead : data.head? ≠ some netPacketForwardRequest) :
    ∃ forwarder sendback, Travels hmac net ⟨o, f, forwardChainPacket (key :: keys) data⟩
        (last, .request forwarder sendback data) ∧
      LeadsTo hmac net forwarder sendback (.udp o) ∧ sendback.length ≤ maxSendbackSize := by
  obtain ⟨ho, hf, hchain, hreceives, -, -⟩ := h
  cases hchain with
  | cons hknows hchain =>
    obtain ⟨node, dest, hnode, hroute, hudp, rfl⟩ := hknows
    have hpacked := o.length_packed_le
    have hsize : timedAuthSize + (sendbackIpport :: o.packed).length ≤ 52 := by
      rw [length_cons]
      simp only [timedAuthSize, maxPackedIpportSize, sizeIp6] at hpacked ⊢
      omega
    simp only [maxForwardChainLength] at hkeys
    have hmax : maxSendbackSize = 254 := rfl
    have hlead : LeadsTo hmac net f _ (.udp o) := .udp hnode ho
    obtain ⟨forwarder, sendback, htravels, -, hlead, hlen⟩ :=
      travels_chain hchain (IPPort.isNode_canonical hudp) hf hreceives hlead
        (ne_nil_of_length_pos (by rw [length_sendbackOf, timedAuthSize]; omega))
        (by rw [length_sendbackOf]; omega) hdata hhead
    refine ⟨forwarder, sendback, Travels.of_sent ⟨o, f, _⟩ hnode ?_ htravels, hlead, hlen⟩
    rw [forwardChainPacket_cons, Forwarding.handlePacket, if_pos rfl,
      Forwarding.handleForwardRequest, IPPort.pack_of_isUdp ho.1]
    exact handleForwardRequestDht_of_le (cons_ne_nil _ _) (by omega) hdata hroute hudp

theorem UdpChain.dropped {result : IPPort × ForwardOutcome} (h : UdpChain net later o f last (key :: keys))
    (hdata : maxForwardDataSize < (forwardChainPacket keys data).length) :
    ¬Travels hmac net ⟨o, f, forwardChainPacket (key :: keys) data⟩ result := by
  obtain ⟨ho, -, hchain, -, -, -⟩ := h
  cases hchain with
  | cons hknows hchain =>
    obtain ⟨node, dest, hnode, -⟩ := hknows
    refine not_travels_of_ignored hnode ?_
    rw [forwardChainPacket_cons, Forwarding.handlePacket, if_pos rfl,
      Forwarding.handleForwardRequest, IPPort.pack_of_isUdp ho.1]
    dsimp only
    rw [Forwarding.handleForwardRequestDht]
    have hdrop : (netPacketForwardRequest :: (key.toList ++ forwardChainPacket keys data)).drop
        (1 + cryptoPublicKeySize) = forwardChainPacket keys data := by
      rw [Nat.add_comm, drop_succ_cons, drop_left' (by simp)]
    rw [hdrop, if_neg (by simp; omega), if_pos (.inr hdata)]

theorem not_travels_response {source a : IPPort} {node : Forwarding} (hnode : net a = some node)
    (hhead : data.head? = some netPacketForwardRequest) :
    ¬Travels hmac net ⟨source, a, forwardingPacket [] data⟩ (a, .response data) := by
  rintro ⟨enough, henough⟩
  have h := henough (enough + 1) (by omega)
  rw [travel] at h
  rw [hnode] at h
  dsimp only at h
  rw [handlePacket_forwarding (by simp), if_pos hhead] at h
  cases hpack : packIpPort maxPackedIpportSize source with
  | none =>
    rw [hpack] at h
    exact nomatch h
  | some ipport =>
    rw [hpack] at h
    obtain hignored | ⟨dest, hsent, hle⟩ := handleForwardRequestDht_cases hmac node data
      (cons_ne_nil sendbackForward (ipport ++ []))
    · rw [hignored] at h
      exact nomatch h
    · rw [hsent] at h
      refine travel_ne_response ?_ ?_ h
      · exact ne_nil_of_length_pos (by rw [length_sendbackOf, timedAuthSize]; omega)
      · rw [length_sendbackOf]
        exact hle

theorem travels_response {source a : IPPort} {node : Forwarding} (hnode : net a = some node)
    (hcallback : node.forwardedResponseCallback = true) (hhead : data.head? ≠ some netPacketForwardRequest) :
    Travels hmac net ⟨source, a, forwardingPacket [] data⟩ (a, .response data) := by
  refine Travels.of_response ⟨source, a, _⟩ hnode ?_
  rw [handlePacket_forwarding (by simp), if_neg hhead, if_neg (by simp), if_pos hcallback]

theorem UdpChain.delivered_iff {packet : Bytes} (h : UdpChain net later o f last keys)
    (haccepted : sendForwardRequest keys data = some packet)
    (hhead : data.head? ≠ some netPacketForwardRequest) (hreply : reply.length ≤ maxForwardDataSize) :
    Delivered hmac net later o f last packet data reply ↔
      forwardChainPacketSize (keys.length - 1) data.length ≤ maxForwardDataSize ∧
        reply.head? ≠ some netPacketForwardRequest := by
  unfold sendForwardRequest createForwardChainPacket at haccepted
  by_cases hbad : keys.length = 0 ∨ keys.length > maxForwardChainLength ∨ data.length > maxForwardDataSize
  · rw [if_pos hbad] at haccepted
    exact nomatch haccepted
  rw [if_neg hbad, if_neg hbad] at haccepted
  cases haccepted
  cases keys with
  | nil => exact absurd (.inl rfl) hbad
  | cons key keys =>
    obtain ⟨onode, honode, hocallback⟩ := h.responds
    obtain ⟨onode', honode', -, -, -, -, hsame⟩ := h.later o onode honode
    rw [length_cons, Nat.add_sub_cancel, ← length_forwardChainPacket]
    have hkeys : keys.length < maxForwardChainLength := by
      rw [length_cons] at hbad
      omega
    constructor
    · rintro ⟨forwarder, sendback, hrequest, hle, replyPacket, hpacket, hresponse⟩
      have hsize : (forwardChainPacket keys data).length ≤ maxForwardDataSize := by
        by_contra hlong
        exact h.dropped (Nat.lt_of_not_le hlong) hrequest
      refine ⟨hsize, fun hreplyHead => ?_⟩
      obtain ⟨forwarder', sendback', hrequest', hlead, -⟩ := h.travels hkeys hsize hhead
      have hunique := (Prod.mk.inj (hrequest.unique hrequest')).2
      injection hunique with hforwarder hsendback _
      subst hforwarder hsendback
      obtain ⟨f', hf'⟩ := travels_reply_udp last h.later hlead hle hreply hpacket
      exact not_travels_response honode' hreplyHead ((hf' _).mp hresponse)
    · rintro ⟨hsize, hreplyHead⟩
      obtain ⟨forwarder, sendback, hrequest, hlead, hle⟩ := h.travels hkeys hsize hhead
      obtain ⟨replyPacket, hpacket⟩ := forwardReply_of_le hle hreply
      obtain ⟨f', hf'⟩ := travels_reply_udp last h.later hlead hle hreply hpacket
      refine ⟨forwarder, sendback, hrequest, hle, replyPacket, hpacket, (hf' _).mpr ?_⟩
      exact travels_response honode' (by rw [hsame, hocallback]) hreplyHead

end udp

/-! ## Delivery through a relay -/

/-- The nodes of a chain that starts with the request of a client of the relay to the node
    `dhtNode`. -/
structure TcpChain (net later : ForwardNet) (relay dhtNode last : IPPort) (keys : List PublicKey) :
    Prop where
  relay_isNode : relay.IsNode
  relays : ∃ node, net relay = some node ∧ node.forwardReplyCallback = true
  isUdp : dhtNode.isUdp = true
  chain : Chain net dhtNode.canonical keys last
  receives : ∃ node, net last = some node ∧ node.forwardedRequestCallback = true
  later : Later net later

/-- The relay hands `reply` to this client, if it is connected and can be written to, or to nobody. -/
def HandsToClient (conId : UInt32) (identifier : UInt64) (reply : Bytes) : Prop :=
  ∀ (env : TCPServerEnv) (server : TCPServer),
    (∀ con, server.acceptedConnectionArray[conId.toNat]? = some con → con.identifier = identifier →
      env.write server.writes = true →
      ∃ written, (server.handleForwardReplyTcp env conId.toNat identifier reply).written =
          server.written ++ [written] ∧
        written.index = conId.toNat ∧ written.publicKey = con.publicKey ∧
        tcpClientForwarding written.data = some reply) ∧
    ((∀ con, server.acceptedConnectionArray[conId.toNat]? = some con → con.identifier ≠ identifier) →
      server.handleForwardReplyTcp env conId.toNat identifier reply = server)

def DeliveredTcp (hmac : Hmac) (net later : ForwardNet) (relay last : IPPort) (conId : UInt32)
    (identifier : UInt64) (packet data reply : Bytes) : Prop :=
  ∃ node rest dest forwarded forwarder sendback, net relay = some node ∧
    packet = tcpPacketForwardRequest :: rest ∧
    (node.handleTcpForwardRequest hmac conId identifier rest).outcome = .sent dest forwarded ∧
    Travels hmac net ⟨relay, dest.canonical, forwarded⟩ (last, .request forwarder sendback data) ∧
    sendback.length ≤ maxSendbackSize ∧
    ∃ replyPacket sendbackData, forwardReply sendback reply = some replyPacket ∧
      Travels hmac later ⟨last, forwarder, replyPacket⟩ (relay, .reply sendbackData reply) ∧
      tcpSendbackTarget sendbackData = some (conId, identifier) ∧
      HandsToClient conId identifier reply

section tcp

variable {hmac : Hmac} {net later : ForwardNet} {relay dhtNode last : IPPort}
  {keys : List PublicKey} {data reply : Bytes}

theorem handsToClient (conId : UInt32) (identifier : UInt64)
    (hreply : reply.length ≤ maxForwardDataSize) : HandsToClient conId identifier reply := by
  intro env server
  unfold TCPServer.handleForwardReplyTcp TCPServer.replyTo
  constructor
  · intro con hcon hidentifier hwrite
    have hsize : ¬(tcpPacketForwarding :: reply).length + cryptoMacSize > maxPacketSize := by
      simp only [length_cons, cryptoMacSize, maxPacketSize, maxForwardDataSize] at hreply ⊢
      omega
    simp only [hcon, hidentifier, ne_eq, not_true_eq_false, if_false,
      TCPServer.writePacketTCPSecureConnection, hsize, hwrite, if_true]
    exact ⟨_, rfl, rfl, rfl, rfl⟩
  · intro hother
    split
    · rfl
    · rename_i con hcon
      rw [if_pos (hother con hcon)]

theorem tcpSendbackTarget_tcpSendbackData (conId : UInt32) (identifier : UInt64) :
    tcpSendbackTarget (Forwarding.tcpSendbackData conId identifier) = some (conId, identifier) := by
  have hlen : (netPackU32 conId).length = 4 := by
    rw [netPackU32, length_reverse, length_toLittleEndian]
  have hlen' : (netPackU64 identifier).length = 8 := by
    rw [netPackU64, length_reverse, length_toLittleEndian]
  have hdrop : (netPackU32 conId ++ netPackU64 identifier).drop 4 = netPackU64 identifier :=
    drop_left' hlen
  have h64 := netUnpackU64_netPackU64_append identifier []
  rw [append_nil] at h64
  rw [tcpSendbackTarget, Forwarding.tcpSendbackData, if_neg (by simp [hlen, hlen']), if_neg (by simp),
    drop_succ_cons, drop_zero, netUnpackU32_netPackU32_append, drop_succ_cons, hdrop, h64]

theorem tcpSendForwardRequest_eq_some {packet : Bytes} (hudp : dhtNode.isUdp = true)
    (h : tcpSendForwardRequest dhtNode keys data = some packet) :
    keys.length ≤ maxForwardChainLength ∧
      (forwardChainPacket keys data).length ≤ maxForwardDataSize ∧
      packet = tcpPacketForwardRequest :: (dhtNode.packed ++ forwardChainPacket keys data) := by
  have hwrite : ∀ payload, sendForwardRequestTcp dhtNode payload = some packet →
      payload.length ≤ maxForwardDataSize ∧
        packet = tcpPacketForwardRequest :: (dhtNode.packed ++ payload) := by
    intro payload h
    unfold sendForwardRequestTcp at h
    by_cases hlong : payload.length > maxForwardDataSize
    · rw [if_pos hlong] at h
      exact nomatch h
    · rw [if_neg hlong, IPPort.pack_of_isUdp hudp] at h
      exact ⟨by omega, (Option.some.inj h).symm⟩
  unfold tcpSendForwardRequest at h
  by_cases hkeys : keys.length = 0
  · obtain rfl := eq_nil_of_length_eq_zero hkeys
    obtain ⟨hle, hpacket⟩ := hwrite data h
    exact ⟨Nat.zero_le _, hle, hpacket⟩
  · rw [if_neg hkeys] at h
    unfold createForwardChainPacket at h
    by_cases hbad : keys.length = 0 ∨ keys.length > maxForwardChainLength ∨ data.length > maxForwardDataSize
    · rw [if_pos hbad] at h
      exact nomatch h
    · rw [if_neg hbad] at h
      obtain ⟨hle, hpacket⟩ := hwrite _ h
      exact ⟨by omega, hle, hpacket⟩

theorem TcpChain.delivered {packet : Bytes} (h : TcpChain net later relay dhtNode last keys) (conId : UInt32)
    (identifier : UInt64) (haccepted : tcpSendForwardRequest dhtNode keys data = some packet)
    (hhead : data.head? ≠ some netPacketForwardRequest) (hreply : reply.length ≤ maxForwardDataSize) :
    DeliveredTcp hmac net later relay last conId identifier packet data reply := by
  obtain ⟨hkeys, hsize, rfl⟩ := tcpSendForwardRequest_eq_some h.isUdp haccepted
  obtain ⟨node, hnode, -⟩ := h.relays
  have hlen : (Forwarding.tcpSendbackData conId identifier).length = 13 := by
    simp [Forwarding.tcpSendbackData, netPackU32, netPackU64]
  have hne : Forwarding.tcpSendbackData conId identifier ≠ [] := cons_ne_nil _ _
  have hmax : maxSendbackSize = 254 := rfl
  have hauth : timedAuthSize = 32 := rfl
  simp only [maxForwardChainLength] at hkeys
  have hlead : LeadsTo hmac net relay _ (.tcp relay conId identifier) :=
    .tcp conId identifier hnode
  obtain ⟨forwarder, sendback, htravels, -, hlead', hle⟩ :=
    travels_chain h.chain (IPPort.isNode_canonical h.isUdp) h.relay_isNode h.receives hlead
      (ne_nil_of_length_pos (by rw [length_sendbackOf, hlen]; omega))
      (by rw [length_sendbackOf, hlen]; omega) hsize hhead
  obtain ⟨replyPacket, hpacket⟩ := forwardReply_of_le hle hreply
  have hsent : (node.handleTcpForwardRequest hmac conId identifier
      (dhtNode.packed ++ forwardChainPacket keys data)).outcome = .sent dhtNode.canonical
        (forwardingPacket (node.sendbackOf hmac (Forwarding.tcpSendbackData conId identifier))
          (forwardChainPacket keys data)) := by
    rw [Forwarding.handleTcpForwardRequest, unpackIpPort_packed_append h.isUdp]
    dsimp only
    rw [if_neg (by omega), Forwarding.sendForwarding, if_neg (by omega),
      createForwardingPacket_of_le hne (by omega)]
    exact if_pos (IPPort.isUdp_canonical h.isUdp)
  refine ⟨node, _, _, _, forwarder, sendback, hnode, rfl, hsent, ?_, hle, replyPacket, _, hpacket,
    travels_reply_tcp last h.later h.relays hlead' hle hreply hpacket,
    tcpSendbackTarget_tcpSendbackData conId identifier, handsToClient conId identifier hreply⟩
  rw [IPPort.canonical_canonical]
  exact htravels

end tcp

/-! ## Only sendbacks of one's own are used -/

/-- A node and the sendback data that it has authenticated so far, each with the time. -/
structure LoggedNode where
  node : Forwarding
  log : List (UInt64 × Bytes)

namespace LoggedNode

def record (s : LoggedNode) (result : ForwardResult) : LoggedNode :=
  { s with log := s.log ++ result.created.toList.map fun data => (s.node.now, data) }

def system (hmac : Hmac) : TransitionSystem LoggedNode where
  init s := s.log = []
  step s t :=
    (∃ source packet, t = s.record (s.node.handlePacket hmac source packet)) ∨
    (∃ conId identifier data, t = s.record (s.node.handleTcpForwardRequest hmac conId identifier data)) ∨
    (∃ now closeClientlist, s.node.now ≤ now ∧
      t = { s with node := { s.node with now, closeClientlist } })

/-- The code in a packet is none that only the node could have made and has not made. -/
def Unforged (hmac : Hmac) (s : LoggedNode) (packet : Bytes) : Prop :=
  ∀ toHash, (packet.drop 2).take timedAuthSize = (hmac s.node.hmacKey toHash).toList →
    ∃ entry ∈ s.log, toHash = createTimedAuthToHash entry.1 sendbackTimeout false entry.2

def sendbackData (packet : Bytes) : Bytes :=
  (packet.drop (2 + timedAuthSize)).take ((packet.getD 1 0).toNat - timedAuthSize)

/-- The node relays the reply only if it made the sendback within the last two periods. -/
def RelaysOwn (hmac : Hmac) (s : LoggedNode) : Prop :=
  ∀ packet, s.Unforged hmac packet → s.node.handleForwardReply hmac packet ≠ .ignored →
    ∃ time, (time, sendbackData packet) ∈ s.log ∧ time.toNat ≤ s.node.now.toNat ∧
      s.node.now.toNat < time.toNat + 2 * sendbackTimeout.toNat

theorem createTimedAuthToHash_inj {now time : UInt64} {previous : Bool} {data data' : Bytes}
    (h : createTimedAuthToHash now sendbackTimeout previous data =
      createTimedAuthToHash time sendbackTimeout false data') :
    now / sendbackTimeout - (if previous then 1 else 0) = time / sendbackTimeout ∧ data = data' := by
  obtain ⟨htime, hdata⟩ := append_inj h (by simp [length_toLittleEndian])
  have hnum := congrArg ofLittleEndian htime
  rw [ofLittleEndian_toLittleEndian, ofLittleEndian_toLittleEndian, if_neg Bool.false_ne_true,
    UInt64.sub_zero, show 256 ^ 8 = 2 ^ 64 from rfl, Nat.mod_eq_of_lt (UInt64.toNat_lt _),
    Nat.mod_eq_of_lt (UInt64.toNat_lt _)] at hnum
  exact ⟨UInt64.toNat_inj.mp hnum, hdata⟩

theorem period_of_eq {now time : UInt64} {previous : Bool}
    (h : now / sendbackTimeout - (if previous then 1 else 0) = time / sendbackTimeout) :
    now.toNat < time.toNat + 2 * sendbackTimeout.toNat := by
  have htimeout : sendbackTimeout.toNat = 3600 := rfl
  have hnum := congrArg UInt64.toNat h
  rw [UInt64.toNat_div] at hnum
  cases previous with
  | false =>
    rw [if_neg Bool.false_ne_true, UInt64.sub_zero, UInt64.toNat_div, htimeout] at hnum
    omega
  | true =>
    have hone : (1 : UInt64).toNat = 1 := rfl
    have hnow := now.toNat_lt
    rw [if_pos rfl, UInt64.toNat_sub, UInt64.toNat_div, htimeout, hone] at hnum
    omega

variable {hmac : Hmac}

theorem checkTimedAuth_of_relayed {node : Forwarding} {packet : Bytes}
    (h : node.handleForwardReply hmac packet ≠ .ignored) :
    checkTimedAuth hmac node.now sendbackTimeout node.hmacKey (sendbackData packet)
      ((packet.drop 2).take timedAuthSize) = true := by
  by_contra hcheck
  apply h
  rw [Bool.not_eq_true] at hcheck
  unfold sendbackData at hcheck
  unfold Forwarding.handleForwardReply
  dsimp only
  rw [hcheck, Bool.not_false, if_pos rfl]
  simp only [ite_self]

theorem log_le {s : LoggedNode} (h : (system hmac).Reachable s) : ∀ entry ∈ s.log, entry.1 ≤ s.node.now := by
  have hrecord : ∀ (s : LoggedNode) result, (∀ entry ∈ s.log, entry.1 ≤ s.node.now) →
      ∀ entry ∈ (s.record result).log, entry.1 ≤ s.node.now := by
    intro s result hs entry hentry
    obtain hold | hnew := mem_append.mp hentry
    · exact hs entry hold
    · obtain ⟨data, -, rfl⟩ := mem_map.mp hnew
      exact UInt64.le_refl _
  refine h.invariant (P := fun s => ∀ entry ∈ s.log, entry.1 ≤ s.node.now)
    (fun s hs entry hentry => ?_) fun s t hs hst => ?_
  · rw [show s.log = [] from hs] at hentry
    exact nomatch hentry
  · obtain ⟨source, packet, rfl⟩ | ⟨conId, identifier, data, rfl⟩ | ⟨now, closeClientlist, hnow, rfl⟩ := hst
    · exact hrecord s _ hs
    · exact hrecord s _ hs
    · exact fun entry hentry => UInt64.le_trans (hs entry hentry) hnow

theorem relaysOwn {s : LoggedNode} (h : (system hmac).Reachable s) :
    s.RelaysOwn hmac := by
  intro packet hunforged hrelayed
  have hcheck := checkTimedAuth_of_relayed hrelayed
  unfold checkTimedAuth at hcheck
  rw [Bool.or_eq_true, beq_iff_eq, beq_iff_eq] at hcheck
  have hfound : ∃ previous, (packet.drop 2).take timedAuthSize = (hmac s.node.hmacKey
      (createTimedAuthToHash s.node.now sendbackTimeout previous (sendbackData packet))).toList := by
    obtain hcheck | hcheck := hcheck
    · exact ⟨false, hcheck⟩
    · exact ⟨true, hcheck⟩
  obtain ⟨previous, hauth⟩ := hfound
  obtain ⟨⟨time, data⟩, hmem, heq⟩ := hunforged _ hauth
  obtain ⟨hperiod, hdata⟩ := createTimedAuthToHash_inj heq
  have hle : time.toNat ≤ s.node.now.toNat := UInt64.le_iff_toNat_le.mp (log_le h _ hmem)
  exact ⟨time, hdata ▸ hmem, hle, period_of_eq hperiod⟩

end LoggedNode

/-! ## The result -/

section witness

def nodeAddress (b : UInt8) : IPPort :=
  { emptyIpPort with family := toxAfInet, ip := bytesToVector 16 [10, 0, 0, b], port := 33445 }

def nodeKnowing (b : UInt8) : Forwarding where
  hmacKey := Vector.replicate _ 0
  now := 7200
  closeClientlist :=
    [{ emptyClientData with
      publicKey := key b, assoc4 := { emptyIpptspng with ipPort := nodeAddress b } }]
  forwardReplyCallback := true
  forwardedRequestCallback := true
  forwardedResponseCallback := true

def rowNet : ForwardNet := fun a =>
  ([1, 2, 3, 4].find? fun b => a = nodeAddress b).map fun b => nodeKnowing (b + 1)

def lengthHmac : Hmac := fun key data => key.map (· ^^^ UInt8.ofNat data.length)

theorem isNode_nodeAddress (b : UInt8) : (nodeAddress b).IsNode := by
  constructor
  · rfl
  · have hv4 : (nodeAddress b).address = [10, 0, 0, b] := by
      have hipv4 : (nodeAddress b).isIpv4 = true := rfl
      rw [IPPort.address, if_pos hipv4]
      exact take_toList_bytesToVector (by decide) (Nat.le_refl 4)
    rw [IPPort.canonical, hv4, nodeAddress]

theorem udpChain_rowNet :
    UdpChain rowNet rowNet (nodeAddress 1) (nodeAddress 2) (nodeAddress 4) [key 3, key 4] where
  origin := isNode_nodeAddress 1
  first := isNode_nodeAddress 2
  chain := .cons ⟨nodeKnowing 3, nodeAddress 3, by decide +kernel, by decide +kernel, rfl, rfl⟩
    (.cons ⟨nodeKnowing 4, nodeAddress 4, by decide +kernel, by decide +kernel, rfl, rfl⟩ (.nil _))
  receives := ⟨nodeKnowing 5, by decide +kernel, rfl⟩
  responds := ⟨nodeKnowing 2, by decide +kernel, rfl⟩
  later a node h := ⟨node, h, rfl, le_rfl, by omega, rfl, rfl⟩

end witness

end Toxcore

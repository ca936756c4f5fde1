import Toxcore.Native.NgcSavedPeers
import Toxcore.Spec.NgcLoadSafe
import Toxcore.Spec.NodeListCodec

/-!
# The saved peers of a group

Without flags for the optional parts, `unpack_gc_saved_peers` takes for an address what starts like one.  It restores
the entries exactly if no key without a relay before it does, and stays in the array unless a hundred entries are
followed by the family of an address.
-/

namespace Toxcore

open List hiding Vector

open LoadSlot

namespace GCSavedPeerInfo

variable (peer : GCSavedPeerInfo)

def ipp : Option Bytes := if ipportIsset peer.ipPort then some peer.ipPort.wire else none

def relay : Option Bytes := if ipportIsset peer.tcpRelay.ipPort then some peer.tcpRelay.wire else none

def bytes : Bytes := peer.ipp.getD [] ++ peer.relay.getD [] ++ peer.publicKey.toList

def restored : GCSavedPeerInfo where
  publicKey := peer.publicKey
  tcpRelay := if ipportIsset peer.tcpRelay.ipPort then peer.tcpRelay.received else emptyNodeFormat
  ipPort := if ipportIsset peer.ipPort then peer.ipPort.received else emptyIpPort

structure Packs : Prop where
  udp : ipportIsset peer.ipPort → peer.ipPort.isUdp
  relay : ipportIsset peer.tcpRelay.ipPort → peer.tcpRelay.ipPort.isPackable

structure Clear : Prop extends Packs peer where
  noIpp : ¬ipportIsset peer.ipPort → ¬peer.tcpRelay.ipPort.isUdp
  noRelay : ¬ipportIsset peer.tcpRelay.ipPort → ¬startsAddress peer.publicKey.toList

end GCSavedPeerInfo

open GCSavedPeerInfo

def RoundTrips (saved : Vector GCSavedPeerInfo gcMaxSavedPeers) : Prop :=
  ∃ count bytes result, packGcSavedPeers saved (gcMaxSavedPeers * gcSavedPeerSize) = some (count, bytes) ∧
    unpackGcSavedPeers gcMaxSavedPeers bytes = .ok result ∧
    result.1 = some (saved.toList.filter savedPeerIsValid).length ∧
    result.2.1 = (saved.toList.filter savedPeerIsValid).map restored

variable {peer : GCSavedPeerInfo}

theorem length_ipp_le (peer : GCSavedPeerInfo) : (peer.ipp.getD []).length ≤ 19 := by
  unfold ipp
  split
  · rw [Option.getD_some, IPPort.length_wire]
    split <;> decide
  · exact Nat.zero_le _

theorem length_relay_le (peer : GCSavedPeerInfo) : (peer.relay.getD []).length ≤ 51 := by
  unfold relay
  split
  · rw [Option.getD_some, NodeFormat.length_wire, IPPort.length_wire]
    split <;> decide
  · exact Nat.zero_le _

/-! ## Packing -/

theorem packIpPort_eq_ipp (hpacks : peer.Packs) {length : Nat} (hlength : 19 ≤ length) :
    (if ipportIsset peer.ipPort then packIpPort length peer.ipPort else none) = peer.ipp := by
  have hle := length_ipp_le peer
  unfold ipp at hle ⊢
  split
  · rename_i hset
    rw [if_pos hset, Option.getD_some] at hle
    rw [packIpPort_of_isPackable (IPPort.isPackable_of_isUdp (hpacks.udp hset)), if_neg (by omega)]
  · rfl

theorem packRelay_eq_relay (hpacks : peer.Packs) {length : Nat} (hlt : length < 2 ^ 16) (hlength : 51 ≤ length) :
    (if ipportIsset peer.tcpRelay.ipPort then packRelay length peer.tcpRelay else none) = peer.relay := by
  have hle := length_relay_le peer
  unfold relay at hle ⊢
  split
  · rename_i hset
    rw [if_pos hset, Option.getD_some] at hle
    have hpack := @packNodesLoop_wire length [peer.tcpRelay] [] (by simpa using hpacks.relay hset) (by simpa using by omega)
    rw [flatMap_singleton, nil_append] at hpack
    have hpos := peer.tcpRelay.length_wire_pos
    rw [packRelay, packNodes, UInt16.toNat_ofNat_of_lt' hlt, hpack]
    dsimp only
    rw [if_neg (by omega)]
  · rfl

theorem packGcSavedPeersLoop_eq {length : Nat} (hlt : length < 2 ^ 16) (peers : List GCSavedPeerInfo)
    (hpacks : ∀ peer ∈ peers, savedPeerIsValid peer → peer.Packs) (packed : Bytes) (count : Nat)
    (hlength : packed.length + 102 * peers.length ≤ length) :
    packGcSavedPeersLoop length peers packed count =
      some (count + (peers.filter savedPeerIsValid).length,
        packed ++ (peers.filter savedPeerIsValid).flatMap bytes) := by
  induction peers generalizing packed count with
  | nil => simp [packGcSavedPeersLoop]
  | cons peer peers ih =>
    rw [length_cons] at hlength
    have ih := ih fun other hmem => hpacks other (mem_cons_of_mem _ hmem)
    rw [packGcSavedPeersLoop]
    by_cases hvalid : savedPeerIsValid peer
    · have hpack := hpacks peer mem_cons_self hvalid
      have hipp := length_ipp_le peer
      have hrelay := length_relay_le peer
      have hsome : ¬(peer.relay.isNone ∧ peer.ipp.isNone) := by
        rw [savedPeerIsValid] at hvalid
        unfold relay ipp
        grind
      rw [hvalid, packIpPort_eq_ipp hpack (by omega)]
      dsimp only
      rw [packRelay_eq_relay hpack (by omega) (by rw [length_append]; omega), if_neg (by decide),
        if_neg (by rw [length_append, length_append]; unfold cryptoPublicKeySize; omega), if_neg hsome,
        ih _ _ (by simp only [length_append, Vector.length_toList]; unfold cryptoPublicKeySize; omega),
        filter_cons_of_pos hvalid]
      simp [bytes, Nat.add_assoc, Nat.add_comm 1]
    · rw [filter_cons_of_neg hvalid, Bool.eq_false_of_not_eq_true hvalid]
      exact ih packed count (by omega)

/-! ## Unpacking -/

theorem unpackNodes_one {data : Bytes} (hlt : data.length < 2 ^ 16) :
    ((unpackNodes 1 data (UInt16.ofNat data.length) true).bind fun found =>
      found.1.head?.map fun node => (node, found.2)) =
      (unpackIpPort data true).bind fun found =>
        if found.2.length < cryptoPublicKeySize then none
        else
          some ({ publicKey := bytesToVector _ found.2, ipPort := found.1 },
            UInt16.ofNat data.length - UInt16.ofNat (found.2.drop cryptoPublicKeySize).length) := by
  have hone : (1 : UInt16).toNat = 0 + 1 := rfl
  rw [unpackNodes, UInt16.toNat_ofNat_of_lt' hlt, take_length, hone, unpackNodesLoop]
  by_cases hnil : data.length = 0
  · rw [eq_nil_of_length_eq_zero hnil]
    rfl
  · rw [if_neg hnil]
    cases unpackIpPort data true with
    | none => rfl
    | some found =>
      dsimp only [Option.bind_some]
      by_cases hkey : found.2.length < cryptoPublicKeySize
      · rw [if_pos hkey, if_pos hkey]
        rfl
      · rw [if_neg hkey, if_neg hkey]
        rfl

theorem unpackSavedPeer_eq {data : Bytes} (hlt : data.length < 2 ^ 16) :
    unpackSavedPeer data =
      let ipp := unpackIpPort data false
      let rest := (ipp.map Prod.snd).getD data
      let finish (tcpRelay : NodeFormat) (rest : Bytes) :=
        if rest.length < cryptoPublicKeySize then none
        else
          some ({ publicKey := bytesToVector _ rest, tcpRelay, ipPort := (ipp.map Prod.fst).getD emptyIpPort },
            rest.drop cryptoPublicKeySize)
      match unpackIpPort rest true with
      | none => if ipp.isNone then none else finish emptyNodeFormat rest
      | some (ipPort, rest') =>
        if rest'.length < cryptoPublicKeySize then
          if ipp.isNone then none else finish { emptyNodeFormat with ipPort } rest
        else finish { publicKey := bytesToVector _ rest', ipPort } (rest'.drop cryptoPublicKeySize) := by
  have hrest : (((unpackIpPort data false).map Prod.snd).getD data).length ≤ data.length := by
    cases hipp : unpackIpPort data false with
    | none => exact le_rfl
    | some found =>
      rw [(eq_wire_of_unpackIpPort hipp).2, length_append]
      exact Nat.le_add_left _ _
  unfold unpackSavedPeer
  dsimp only
  generalize ((unpackIpPort data false).map Prod.snd).getD data = rest at hrest ⊢
  rw [unpackNodes_one (Nat.lt_of_le_of_lt hrest hlt)]
  cases hrelay : unpackIpPort rest true with
  | none => simp [emptyNodeFormat, hrelay]
  | some found =>
    obtain ⟨ipPort, rest'⟩ := found
    dsimp only [Option.bind_some]
    by_cases hkey : rest'.length < cryptoPublicKeySize
    · simp [hkey, hrelay]
    · obtain ⟨-, hwire⟩ := eq_wire_of_unpackIpPort hrelay
      have hlength : rest.length = ipPort.wire.length + rest'.length := by rw [hwire, length_append]
      have hprocessed : (UInt16.ofNat rest.length - UInt16.ofNat (rest'.drop cryptoPublicKeySize).length).toNat =
          ipPort.wire.length + cryptoPublicKeySize := by
        rw [UInt16.toNat_sub, UInt16.toNat_ofNat', UInt16.toNat_ofNat', length_drop]
        omega
      have hdrop : rest.drop (ipPort.wire.length + cryptoPublicKeySize) = rest'.drop cryptoPublicKeySize := by
        rw [← drop_drop, hwire, drop_left]
      simp only [if_neg hkey, Option.map_some, Option.getD_some, Option.isNone_some, Bool.false_eq_true, false_and,
        if_false, hprocessed, hdrop]

theorem unpackIpPort_eq_none {data : Bytes} (h : 19 ≤ data.length) :
    unpackIpPort data true = none ↔ startsAddress data = false := by
  cases data with
  | nil => simp at h
  | cons family rest =>
    rw [length_cons] at h
    have h4 : ¬sizeIp4 + 2 > rest.length := by
      unfold sizeIp4
      omega
    have h16 : ¬sizeIp6 + 2 > rest.length := by
      unfold sizeIp6
      omega
    simp only [unpackIpPort, startsAddress, h4, h16, Bool.not_true, Bool.false_eq_true, if_false, Bool.or_eq_false_iff,
      beq_eq_false_iff_ne]
    grind

theorem unpackIpPort_tcp {a : IPPort} (h : a.isPackable) (htcp : ¬a.isUdp) (rest : Bytes) :
    unpackIpPort (a.wire ++ rest) false = none := by
  rw [IPPort.isUdp_iff] at htcp
  unfold IPPort.wire unpackIpPort IPPort.wireFamily IPPort.isTcpIpv4 IPPort.isTcpIpv6
  obtain hfamily | hfamily | hfamily | hfamily := IPPort.isPackable_iff.mp h
  · exact absurd (.inl hfamily) htcp
  · rw [hfamily]
    rfl
  · exact absurd (.inr hfamily) htcp
  · rw [hfamily]
    rfl

theorem ne_emptyIpPort {a : IPPort} (h : a.isPackable) : a ≠ emptyIpPort := by
  rintro rfl
  exact absurd h (by decide)

theorem received_ne_emptyIpPort {a : IPPort} (h : ipportIsset a) : a.received ≠ emptyIpPort := by
  intro heq
  have hport : a.port = 0 := congrArg IPPort.port heq
  rw [ipportIsset, hport] at h
  cases h

theorem startsAddress_append (key : PublicKey) (rest : Bytes) :
    startsAddress (key.toList ++ rest) = startsAddress key.toList := by
  cases hkey : key.toList with
  | nil => exact absurd (congrArg List.length hkey) (by rw [Vector.length_toList]; decide)
  | cons family bytes => rfl

theorem unpackIpPort_key (key : PublicKey) (rest : Bytes) :
    unpackIpPort (key.toList ++ rest) true = none ↔ startsAddress key.toList = false := by
  rw [unpackIpPort_eq_none, startsAddress_append]
  rw [length_append, Vector.length_toList]
  exact Nat.le_add_right_of_le (by decide)

theorem parts_of_unpackSavedPeer {data rest : Bytes} (hlt : data.length < 2 ^ 16)
    (h : unpackSavedPeer data = some (peer, rest)) :
    peer.ipPort = ((unpackIpPort data false).map Prod.fst).getD emptyIpPort ∧
      peer.tcpRelay.ipPort =
        ((unpackIpPort (((unpackIpPort data false).map Prod.snd).getD data) true).map Prod.fst).getD emptyIpPort := by
  rw [unpackSavedPeer_eq hlt] at h
  grind [emptyNodeFormat]

theorem bytes_append (peer : GCSavedPeerInfo) (rest : Bytes) :
    peer.bytes ++ rest = peer.ipp.getD [] ++ (peer.relay.getD [] ++ (peer.publicKey.toList ++ rest)) := by
  rw [bytes, append_assoc, append_assoc]

theorem unpackIpPort_bytes (hpacks : peer.Packs) (hset : ipportIsset peer.ipPort) (rest : Bytes) :
    unpackIpPort (peer.bytes ++ rest) false =
      some (peer.ipPort.received, peer.relay.getD [] ++ (peer.publicKey.toList ++ rest)) := by
  have hudp := hpacks.udp hset
  rw [bytes_append, ipp, if_pos hset]
  exact unpackIpPort_wire_append (IPPort.isPackable_of_isUdp hudp) (.inl hudp) _

theorem unpackIpPort_relay (hpacks : peer.Packs) (hset : ipportIsset peer.tcpRelay.ipPort) (rest : Bytes) :
    unpackIpPort (peer.relay.getD [] ++ rest) true =
      some (peer.tcpRelay.ipPort.received, peer.tcpRelay.publicKey.toList ++ rest) := by
  rw [GCSavedPeerInfo.relay, if_pos hset, Option.getD_some, NodeFormat.wire, append_assoc]
  exact unpackIpPort_wire_append (hpacks.relay hset) (.inr rfl) _

theorem unpackSavedPeer_bytes (hclear : peer.Clear) (hvalid : savedPeerIsValid peer) {rest : Bytes}
    (hlt : (peer.bytes ++ rest).length < 2 ^ 16) : unpackSavedPeer (peer.bytes ++ rest) = some (peer.restored, rest) := by
  have hkey (key : PublicKey) (rest : Bytes) : ¬(key.toList ++ rest).length < cryptoPublicKeySize ∧
      bytesToVector _ (key.toList ++ rest) = key ∧ (key.toList ++ rest).drop cryptoPublicKeySize = rest :=
    ⟨by simp, bytesToVector_toList_append key rest, drop_left' Vector.length_toList⟩
  obtain ⟨hlen, hvector, hdrop⟩ := hkey peer.publicKey rest
  obtain ⟨hlen', hvector', hdrop'⟩ := hkey peer.tcpRelay.publicKey (peer.publicKey.toList ++ rest)
  rw [savedPeerIsValid, Bool.or_eq_true] at hvalid
  rw [unpackSavedPeer_eq hlt, restored]
  by_cases hipp : ipportIsset peer.ipPort
  · rw [unpackIpPort_bytes hclear.toPacks hipp]
    dsimp only [Option.map_some, Option.getD_some]
    by_cases hrelay : ipportIsset peer.tcpRelay.ipPort
    · rw [unpackIpPort_relay hclear.toPacks hrelay]
      dsimp only
      rw [if_neg hlen', hdrop', if_neg hlen, hvector, hvector', hdrop, if_pos hipp, if_pos hrelay]
      rfl
    · have hnone := (unpackIpPort_key peer.publicKey rest).mpr (Bool.eq_false_iff.mpr (hclear.noRelay hrelay))
      rw [relay, if_neg hrelay, Option.getD_none, nil_append, hnone]
      rw [if_neg (by simp), if_neg hlen, hvector, hdrop, if_pos hipp, if_neg hrelay]
  · have hrelay := hvalid.resolve_left hipp
    have hnone : unpackIpPort (peer.bytes ++ rest) false = none := by
      rw [bytes_append, ipp, if_neg hipp, Option.getD_none, nil_append, relay, if_pos hrelay, Option.getD_some,
        NodeFormat.wire, append_assoc]
      exact unpackIpPort_tcp (hclear.relay hrelay) (hclear.noIpp hipp) _
    rw [hnone]
    dsimp only [Option.map_none, Option.getD_none]
    rw [bytes_append, ipp, if_neg hipp, Option.getD_none, nil_append, unpackIpPort_relay hclear.toPacks hrelay]
    dsimp only
    rw [if_neg hlen', hdrop', if_neg hlen, hvector, hvector', hdrop, if_neg hipp, if_pos hrelay]
    rfl

theorem clear_of_unpackSavedPeer (hpacks : peer.Packs) (hvalid : savedPeerIsValid peer) {rest rest' : Bytes}
    (hlt : (peer.bytes ++ rest).length < 2 ^ 16)
    (h : unpackSavedPeer (peer.bytes ++ rest) = some (peer.restored, rest')) : peer.Clear := by
  obtain ⟨hipp, hrelay⟩ := parts_of_unpackSavedPeer hlt h
  rw [savedPeerIsValid, Bool.or_eq_true] at hvalid
  refine ⟨hpacks, fun hunset hudp => ?_, fun hunset hstarts => ?_⟩
  · have hset := hvalid.resolve_left hunset
    rw [bytes_append, ipp, if_neg hunset, Option.getD_none, nil_append, relay, if_pos hset, Option.getD_some,
      NodeFormat.wire, append_assoc, unpackIpPort_wire_append (hpacks.relay hset) (.inl hudp)] at hipp
    rw [restored, if_neg hunset] at hipp
    exact received_ne_emptyIpPort hset hipp.symm
  · rw [unpackIpPort_bytes hpacks (hvalid.resolve_right hunset), relay] at hrelay
    simp only [Option.map_some, Option.getD_some, Option.getD_none, nil_append, restored, if_neg hunset] at hrelay
    cases hread : unpackIpPort (peer.publicKey.toList ++ rest) true with
    | none => exact absurd hstarts (Bool.eq_false_iff.mp ((unpackIpPort_key _ _).mp hread))
    | some found =>
      rw [hread] at hrelay
      exact ne_emptyIpPort (eq_wire_of_unpackIpPort hread).1 hrelay.symm

/-! ## The loop -/

theorem unpackGcSavedPeers_clear (peers : List GCSavedPeerInfo) (hvalid : ∀ peer ∈ peers, savedPeerIsValid peer)
    (hclear : ∀ peer ∈ peers, peer.Clear) {left : Nat} (hleft : peers.length ≤ left)
    (hlt : (peers.flatMap bytes).length < 2 ^ 16) :
    ∃ result, unpackGcSavedPeers left (peers.flatMap bytes) = .ok result ∧ result.1 = some peers.length ∧
      result.2.1 = peers.map restored := by
  induction peers generalizing left with
  | nil =>
    cases left with
    | zero => exact ⟨_, rfl, rfl, rfl⟩
    | succ left => exact ⟨_, rfl, rfl, rfl⟩
  | cons peer peers ih =>
    obtain _ | left := left
    · cases hleft
    rw [flatMap_cons] at hlt ⊢
    obtain ⟨result, hload, hcount, hpeers⟩ := ih (fun other hmem => hvalid other (mem_cons_of_mem _ hmem))
      (fun other hmem => hclear other (mem_cons_of_mem _ hmem)) (Nat.le_of_succ_le_succ hleft)
      (by rw [length_append] at hlt; omega)
    have hround := unpackSavedPeer_bytes (hclear peer mem_cons_self) (hvalid peer mem_cons_self) hlt
    cases hdata : peer.bytes ++ peers.flatMap bytes with
    | nil =>
      rw [hdata] at hround
      cases hround
    | cons b data =>
      rw [hdata] at hround
      simp only [unpackGcSavedPeers, hround, hload]
      exact ⟨_, rfl, congrArg (Option.map (· + 1)) hcount, congrArg (List.cons _) hpeers⟩

theorem cons_of_unpackGcSavedPeers {left : Nat} {data : Bytes} {result p} {ps : List GCSavedPeerInfo}
    (h : unpackGcSavedPeers left data = .ok result) (hlist : result.2.1 = p :: ps) :
    ∃ data' left' result', unpackSavedPeer data = some (p, data') ∧
      unpackGcSavedPeers left' data' = .ok result' ∧ result'.2.1 = ps := by
  unfold unpackGcSavedPeers at h
  split at h
  · cases h
    cases hlist
  · split at h
    · cases h
    · cases h
      cases hlist
  · split at h
    · cases h
      cases hlist
    · rename_i peer data' hround
      cases hload : unpackGcSavedPeers _ data' with
      | error => rw [hload] at h; cases h
      | ok result' =>
        rw [hload] at h
        cases h
        cases hlist
        exact ⟨_, _, result', hround, hload, rfl⟩

theorem packs_of_unpackSavedPeer {data rest : Bytes} (h : unpackSavedPeer data = some (peer.restored, rest)) :
    peer.Packs := by
  simp only [unpackSavedPeer, Option.ite_none_left_eq_some, Option.some.injEq, Prod.mk.injEq] at h
  obtain ⟨-, -, hpeer, -⟩ := h
  have hread {a : IPPort} (hset : ipportIsset a) {data : Bytes} {tcpEnabled : Bool}
      (heq : ((unpackIpPort data tcpEnabled).map Prod.fst).getD emptyIpPort = a.received) :
      ∃ rest, unpackIpPort data tcpEnabled = some (a.received, rest) := by
    cases hfound : unpackIpPort data tcpEnabled with
    | none =>
      rw [hfound] at heq
      exact absurd heq.symm (received_ne_emptyIpPort hset)
    | some found =>
      rw [hfound] at heq
      exact ⟨found.2, congrArg (fun a => some (a, found.2)) heq⟩
  constructor
  · intro hset
    have heq := congrArg GCSavedPeerInfo.ipPort hpeer
    rw [restored, if_pos hset] at heq
    obtain ⟨rest, hfound⟩ := hread hset heq
    have hudp := isUdp_of_unpackIpPort hfound
    exact hudp
  · intro hset
    have heq := congrArg (NodeFormat.ipPort ∘ GCSavedPeerInfo.tcpRelay) hpeer
    rw [Function.comp_apply, Function.comp_apply, restored, if_pos hset] at heq
    generalize hrelay : (unpackNodes 1 _ _ true).bind _ = relay at heq
    cases relay with
    | none =>
      simp only [Option.map_none, Option.getD_none] at heq
      obtain ⟨rest, hfound⟩ := hread hset heq
      have hpackable := (eq_wire_of_unpackIpPort hfound).1
      exact hpackable
    | some relay =>
      simp only [Option.map_some, Option.getD_some] at heq
      obtain ⟨⟨nodes, processed⟩, hnodes, hhead⟩ := Option.bind_eq_some_iff.mp hrelay
      obtain ⟨node, hnode, rfl⟩ := Option.map_eq_some_iff.mp hhead
      unfold unpackNodes at hnodes
      split at hnodes
      · cases hnodes
      · rename_i hloop
        cases hnodes
        have hpackable := (eq_wire_of_unpackNodesLoop hloop).1 node (mem_of_mem_head? hnode)
        rw [heq] at hpackable
        exact hpackable

theorem packs_of_unpackGcSavedPeers {left : Nat} {data : Bytes} {result}
    (h : unpackGcSavedPeers left data = .ok result) (hmem : peer.restored ∈ result.2.1) : peer.Packs := by
  generalize hlist : result.2.1 = list at hmem
  induction list generalizing left data result with
  | nil => cases hmem
  | cons p ps ih =>
    obtain ⟨data', left', result', hround, hload, hpeers⟩ := cons_of_unpackGcSavedPeers h hlist
    cases hmem with
    | head => exact packs_of_unpackSavedPeer hround
    | tail _ hmem => exact ih hload hpeers hmem

theorem clear_of_unpackGcSavedPeers (peers : List GCSavedPeerInfo) (hvalid : ∀ peer ∈ peers, savedPeerIsValid peer)
    (hpacks : ∀ peer ∈ peers, peer.Packs) {left : Nat} (hlt : (peers.flatMap bytes).length < 2 ^ 16) {result}
    (h : unpackGcSavedPeers left (peers.flatMap bytes) = .ok result) (hrestored : result.2.1 = peers.map restored) :
    ∀ peer ∈ peers, peer.Clear := by
  induction peers generalizing left result with
  | nil => exact fun _ hmem => absurd hmem not_mem_nil
  | cons peer peers ih =>
    rw [flatMap_cons] at hlt h
    obtain ⟨data, left, result, hround, hload, hpeers⟩ := cons_of_unpackGcSavedPeers h hrestored
    have hvalid' := hvalid peer mem_cons_self
    have hclear := clear_of_unpackSavedPeer (hpacks peer mem_cons_self) hvalid' hlt hround
    rw [unpackSavedPeer_bytes hclear hvalid' hlt] at hround
    obtain rfl := (Prod.mk.inj (Option.some.inj hround)).2
    have hrest := ih (fun other hmem => hvalid other (mem_cons_of_mem _ hmem))
      (fun other hmem => hpacks other (mem_cons_of_mem _ hmem)) (by rw [length_append] at hlt; omega) hload hpeers
    exact forall_mem_cons.mpr ⟨hclear, hrest⟩

theorem length_flatMap_bytes_le (peers : List GCSavedPeerInfo) : (peers.flatMap bytes).length ≤ 102 * peers.length := by
  induction peers with
  | nil => exact le_rfl
  | cons peer peers ih =>
    have hipp := length_ipp_le peer
    have hrelay := length_relay_le peer
    rw [flatMap_cons, length_append, bytes, length_append, length_append, Vector.length_toList, length_cons]
    unfold cryptoPublicKeySize
    omega

theorem roundTrips_iff (saved : Vector GCSavedPeerInfo gcMaxSavedPeers) :
    RoundTrips saved ↔ ∀ peer ∈ saved.toList, savedPeerIsValid peer → peer.Clear := by
  let valid := saved.toList.filter savedPeerIsValid
  have hvalid : ∀ peer ∈ valid, savedPeerIsValid peer := fun peer hmem => (mem_filter.mp hmem).2
  have hmem (peer) (hmem : peer ∈ saved.toList) (hpeer : savedPeerIsValid peer) : peer ∈ valid :=
    mem_filter.mpr ⟨hmem, hpeer⟩
  have hlength : saved.toList.length = 100 := Vector.length_toList
  have hle : valid.length ≤ 100 := hlength ▸ length_filter_le _ _
  have hlt : (valid.flatMap bytes).length < 2 ^ 16 := by
    have hbytes := length_flatMap_bytes_le valid
    omega
  have hpack (hpacks : ∀ peer ∈ saved.toList, savedPeerIsValid peer → peer.Packs) :
      packGcSavedPeers saved (gcMaxSavedPeers * gcSavedPeerSize) = some (valid.length, valid.flatMap bytes) := by
    have hloop := packGcSavedPeersLoop_eq (show gcMaxSavedPeers * gcSavedPeerSize < 2 ^ 16 by decide) saved.toList hpacks
      [] 0 (by rw [hlength]; decide)
    rwa [Nat.zero_add] at hloop
  constructor
  · rintro ⟨count, bytes, result, hbytes, hload, -, hpeers⟩
    have hpacks : ∀ peer ∈ saved.toList, savedPeerIsValid peer → peer.Packs := by
      intro peer hpeer hisValid
      exact packs_of_unpackGcSavedPeers hload (hpeers ▸ mem_map_of_mem (hmem peer hpeer hisValid))
    rw [hpack hpacks] at hbytes
    cases hbytes
    exact fun peer hpeer hisValid => clear_of_unpackGcSavedPeers valid hvalid
      (fun other hother => hpacks other (mem_filter.mp hother).1 (hvalid other hother)) hlt hload hpeers peer
      (hmem peer hpeer hisValid)
  · intro hclear
    obtain ⟨result, hload, hcount, hpeers⟩ := unpackGcSavedPeers_clear valid hvalid
      (fun peer hpeer => hclear peer (mem_filter.mp hpeer).1 (hvalid peer hpeer)) hle hlt
    exact ⟨_, _, result, hpack fun peer hpeer hisValid => (hclear peer hpeer hisValid).toPacks, hload, hcount, hpeers⟩

theorem savedPeersCodec (saved : Vector GCSavedPeerInfo gcMaxSavedPeers) (data : Bytes) :
    (RoundTrips saved ↔ ∀ peer ∈ saved.toList, savedPeerIsValid peer → peer.Clear) ∧
    ((∃ result, unpackGcSavedPeers gcMaxSavedPeers data = .ok result) ↔ SavedPeersFit data) :=
  ⟨roundTrips_iff saved, unpackGcSavedPeers_ok _ data⟩

/-- A peer without a relay whose key starts with `TOX_AF_INET`. -/
def addressLikePeer : GCSavedPeerInfo where
  publicKey := Vector.replicate _ toxAfInet
  tcpRelay := emptyNodeFormat
  ipPort := { emptyIpPort with family := toxAfInet, ip := Vector.replicate _ 1, port := 33445 }

theorem not_roundTrips_addressLike :
    ¬((∀ saved : Vector GCSavedPeerInfo gcMaxSavedPeers, RoundTrips saved) ∧
      ∀ data, ∃ result, unpackGcSavedPeers gcMaxSavedPeers data = .ok result) := by
  rintro ⟨roundTrips, -⟩
  have hclear := (roundTrips_iff _).mp (roundTrips (Vector.replicate _ addressLikePeer)) addressLikePeer
    (by rw [Vector.toList_replicate]; exact mem_replicate.mpr ⟨by decide, rfl⟩) (by decide)
  exact hclear.noRelay (by decide) (by decide)

end Toxcore

import Toxcore.ForStd.TransitionSystem
import Toxcore.Native.GroupAnnounce
import Toxcore.Spec.NodeListCodec

/-!
# Announces of groups

The announces that a node stores can all be packed, except those without an address and a relay, and
what is packed is unpacked again, with the unused bytes of the addresses zero.
-/

namespace Toxcore

open List

/-! ## Announces -/

namespace GCAnnounce

/-- The address is that of a UDP node, and there is at most one relay. -/
structure WellFormed (announce : GCAnnounce) : Prop where
  ipPort : ∀ ipPort ∈ announce.ipPort, ipPort.isUdp
  tcpRelays : ∀ node ∈ announce.tcpRelays, node.ipPort.isPackable
  count : announce.tcpRelays.length ≤ 1

def packedAddress (announce : GCAnnounce) : Bytes := (announce.ipPort.map IPPort.wire).getD []

def packedRelays (announce : GCAnnounce) : Bytes :=
  announce.tcpRelays.flatMap fun node => node.ipPort.wire ++ node.publicKey.toList

def packed (announce : GCAnnounce) : Bytes :=
  announce.peerPublicKey.toList ++
    [if announce.ipPort.isSome then 1 else 0, UInt8.ofNat announce.tcpRelays.length] ++
    announce.packedAddress ++ announce.packedRelays

def received (announce : GCAnnounce) : GCAnnounce :=
  { announce with
    tcpRelays := announce.tcpRelays.map fun node => { node with ipPort := node.ipPort.received }
    ipPort := announce.ipPort.map IPPort.received }

variable {announce : GCAnnounce}

theorem length_packedAddress (announce : GCAnnounce) : announce.packedAddress.length =
    (announce.ipPort.map fun a => if a.isShort then 7 else 19).getD 0 := by
  unfold packedAddress
  cases announce.ipPort with
  | none => rfl
  | some a => exact a.length_wire

theorem length_packedAddress_le (announce : GCAnnounce) : announce.packedAddress.length ≤ 19 := by
  rw [length_packedAddress]
  cases announce.ipPort with
  | none => exact Nat.zero_le _
  | some a =>
    show (if a.isShort then 7 else 19) ≤ 19
    split <;> decide

theorem length_packed (announce : GCAnnounce) : announce.packed.length =
    34 + announce.packedAddress.length + announce.packedRelays.length := by
  have hkey : cryptoPublicKeySize = 32 := rfl
  simp only [packed, length_append, Vector.length_toList, length_cons, length_nil]
  omega

theorem WellFormed.relays_cases (h : announce.WellFormed) :
    announce.tcpRelays = [] ∨ ∃ node, announce.tcpRelays = [node] ∧ node.ipPort.isPackable := by
  have hcount := h.count
  match hrelays : announce.tcpRelays with
  | [] => exact .inl rfl
  | [node] => exact .inr ⟨node, rfl, h.tcpRelays node (by simp [hrelays])⟩
  | _ :: _ :: _ => rw [hrelays, length_cons, length_cons] at hcount; omega

theorem WellFormed.length_packedRelays_le (h : announce.WellFormed) :
    announce.packedRelays.length ≤ 51 := by
  unfold packedRelays
  rcases h.relays_cases with hnil | ⟨node, hone, -⟩
  · rw [hnil]
    exact Nat.zero_le _
  · have hkey : cryptoPublicKeySize = 32 := rfl
    have hwire := node.ipPort.length_wire
    rw [hone, flatMap_singleton, length_append, Vector.length_toList]
    split at hwire <;> omega

theorem WellFormed.length_packed_le (h : announce.WellFormed) : announce.packed.length ≤ 104 := by
  have hlen := announce.length_packed
  have haddress := announce.length_packedAddress_le
  have hrelays := h.length_packedRelays_le
  omega

end GCAnnounce

open GCAnnounce

variable {announce : GCAnnounce}

variable {length : Nat}

theorem packNodesLoop_tcpRelays (h : announce.WellFormed) (hlength : 51 ≤ length) :
    packNodesLoop length announce.tcpRelays [] =
      (some announce.packedRelays.length, announce.packedRelays) := by
  unfold packedRelays
  rcases h.relays_cases with hnil | ⟨node, hone, hpackable⟩
  · rw [hnil]
    rfl
  · have hkey : cryptoPublicKeySize = 32 := rfl
    have hwire : node.ipPort.wire.length ≤ 19 := by
      rw [IPPort.length_wire]
      split <;> decide
    rw [hone, flatMap_singleton, packNodesLoop, length_nil, if_neg (by omega),
      packIpPort_of_isPackable hpackable, if_neg (by omega)]
    dsimp only
    rw [if_neg (by omega), packNodesLoop, nil_append]

theorem gcaPackIpPort_eq (h : announce.WellFormed) (hlength : 19 ≤ length) :
    gcaPackIpPort length announce = some announce.packedAddress := by
  unfold gcaPackIpPort packedAddress
  cases hipPort : announce.ipPort with
  | none => rfl
  | some a =>
    have hwire : a.wire.length ≤ 19 := by
      rw [IPPort.length_wire]
      split <;> decide
    dsimp only
    rw [packIpPort_of_isPackable (IPPort.isPackable_of_isUdp (h.ipPort a hipPort)), if_neg (by omega)]
    rfl

theorem gcaUnpackIpPort_packedAddress_append (h : announce.WellFormed) (rest : Bytes) :
    gcaUnpackIpPort announce.ipPort.isSome (announce.packedAddress ++ rest) =
      some (announce.ipPort.map IPPort.received, rest) := by
  unfold gcaUnpackIpPort packedAddress
  cases hipPort : announce.ipPort with
  | none => rfl
  | some a =>
    have hudp := h.ipPort a hipPort
    have hpos : ¬(a.wire ++ rest).length = 0 := by
      rw [length_append, IPPort.length_wire]
      split <;> omega
    rw [if_pos Option.isSome_some]
    show (if (a.wire ++ rest).length = 0 then none else _) = _
    show (unpackIpPort (a.wire ++ rest) false).map _ = _
    rw [unpackIpPort_wire_append (IPPort.isPackable_of_isUdp hudp) (.inl hudp)]
    rfl

variable {rest : Bytes}

theorem unpackNodes_packedRelays_append (h : announce.WellFormed) (hmax : rest.length < 2 ^ 15) :
    unpackNodes (UInt16.ofNat announce.tcpRelays.length) (announce.packedRelays ++ rest)
      (UInt16.ofNat (announce.packedRelays ++ rest).length) true =
      some (announce.received.tcpRelays, UInt16.ofNat announce.packedRelays.length) := by
  have hlen := h.length_packedRelays_le
  have hcount : (UInt16.ofNat announce.tcpRelays.length).toNat = announce.tcpRelays.length :=
    UInt16.toNat_ofNat_of_lt' (Nat.lt_of_le_of_lt h.count (by decide))
  have hlength : (UInt16.ofNat (announce.packedRelays ++ rest).length).toNat =
      (announce.packedRelays ++ rest).length := by
    apply UInt16.toNat_ofNat_of_lt'
    show _ < 2 ^ 16
    rw [length_append]
    omega
  have hloop : unpackNodesLoop true announce.tcpRelays.length (announce.packedRelays ++ rest) =
      some (announce.received.tcpRelays, rest) := by
    unfold packedRelays received
    rcases h.relays_cases with hnil | ⟨node, hone, hpackable⟩
    · rw [hnil]
      rfl
    · rw [hone, flatMap_singleton, append_assoc]
      show unpackNodesLoop true 1 (node.ipPort.wire ++ (node.publicKey.toList ++ rest)) = _
      have hpos : ¬(node.ipPort.wire ++ (node.publicKey.toList ++ rest)).length = 0 := by
        rw [length_append, IPPort.length_wire]
        split <;> omega
      rw [unpackNodesLoop, if_neg hpos, unpackIpPort_wire_append hpackable (.inr rfl)]
      dsimp only
      rw [if_neg (by simp), drop_left' (by simp), bytesToVector_toList_append]
      rfl
  rw [unpackNodes, hcount, hlength, take_length, hloop]
  dsimp only
  rw [← UInt16.ofNat_sub (by rw [length_append]; omega), length_append, Nat.add_sub_cancel]

theorem gcaPackAnnounce_eq (h : announce.WellFormed) (hlength : gcaAnnounceMaxSize ≤ length) (hmax : length < 2 ^ 16) :
    gcaPackAnnounce length announce =
      if gcaIsValidAnnounce announce then some announce.packed else none := by
  have hsize : gcaAnnounceMaxSize = 136 := rfl
  have hkey : cryptoPublicKeySize = 32 := rfl
  have haddress := announce.length_packedAddress_le
  have hinvalid : (announce.ipPort.isNone && announce.tcpRelays.length == 0) =
      !gcaIsValidAnnounce announce := by
    unfold gcaIsValidAnnounce
    cases announce.ipPort <;> cases announce.tcpRelays <;> rfl
  rw [gcaPackAnnounce, if_neg (by omega)]
  dsimp only
  have hheader : (announce.peerPublicKey.toList ++
      [if announce.ipPort.isSome then 1 else 0, UInt8.ofNat announce.tcpRelays.length]).length =
      34 := by
    simp only [length_append, Vector.length_toList, length_cons, length_nil, hkey]
  rw [hinvalid, hheader, gcaPackIpPort_eq h (by omega)]
  cases hvalid : gcaIsValidAnnounce announce with
  | false => rfl
  | true =>
    dsimp only
    have hroom : (UInt16.ofNat (length - 34 - announce.packedAddress.length)).toNat =
        length - 34 - announce.packedAddress.length := UInt16.toNat_ofNat_of_lt' (by
      show _ < 2 ^ 16
      omega)
    rw [packNodes, packNodesLoop_tcpRelays h (by omega)]
    rfl

theorem gcaUnpackAnnounce_packed_append (h : announce.WellFormed) (hmax : rest.length < 2 ^ 15) :
    gcaUnpackAnnounce (announce.packed ++ rest) = some (announce.received, rest) := by
  have hkey : cryptoPublicKeySize = 32 := rfl
  have hcount := h.count
  -- the four parts of the data
  have hdata : announce.packed ++ rest = announce.peerPublicKey.toList ++
      ((if announce.ipPort.isSome then 1 else 0) :: UInt8.ofNat announce.tcpRelays.length ::
        (announce.packedAddress ++ (announce.packedRelays ++ rest))) := by
    simp [packed]
  have hcountNat : (UInt8.ofNat announce.tcpRelays.length).toNat = announce.tcpRelays.length :=
    UInt8.toNat_ofNat_of_lt' (by show _ < 2 ^ 8; omega)
  have hflag : ((if announce.ipPort.isSome then (1 : UInt8) else 0) != 0) =
      announce.ipPort.isSome := by
    cases announce.ipPort <;> rfl
  unfold gcaUnpackAnnounce
  rw [hdata, if_neg (by simp [hkey]; omega)]
  have hget : ∀ (a b : UInt8) (l : Bytes), (announce.peerPublicKey.toList ++ a :: b :: l).getD
      cryptoPublicKeySize 0 = a ∧ (announce.peerPublicKey.toList ++ a :: b :: l).getD
      (cryptoPublicKeySize + 1) 0 = b ∧ (announce.peerPublicKey.toList ++ a :: b :: l).drop
      (cryptoPublicKeySize + 2) = l := by
    intro a b l
    refine ⟨?_, ?_, ?_⟩
    · simp [getD_eq_getElem?_getD]
    · simp [getD_eq_getElem?_getD]
    · rw [drop_append]
      simp
  obtain ⟨hget0, hget1, hdrop⟩ := hget (if announce.ipPort.isSome then 1 else 0)
    (UInt8.ofNat announce.tcpRelays.length)
    (announce.packedAddress ++ (announce.packedRelays ++ rest))
  have hfew : ¬announce.tcpRelays.length > gcaMaxAnnouncedTcpRelays.toNat :=
    Nat.not_lt.mpr h.count
  rw [hget0, hget1, hdrop, hcountNat, hflag, if_neg hfew, gcaUnpackIpPort_packedAddress_append h]
  dsimp only
  rw [unpackNodes_packedRelays_append h hmax]
  dsimp only
  have hsame : announce.received.tcpRelays.length = announce.tcpRelays.length := length_map ..
  have hused : (UInt16.ofNat announce.packedRelays.length).toNat = announce.packedRelays.length :=
    UInt16.toNat_ofNat_of_lt' (Nat.lt_of_le_of_lt h.length_packedRelays_le (by decide))
  rw [if_neg (fun hne => hne hsame), hused, drop_left, bytesToVector_toList_append]
  rfl

/-- `gca_pack_announces_list` into a buffer that is large enough. -/
theorem gcaPackAnnouncesList_eq {announces : List GCAnnounce} (h : ∀ announce ∈ announces, announce.WellFormed)
    (hlength : gcaAnnounceMaxSize * announces.length ≤ length) (hmax : length < 2 ^ 16) :
    gcaPackAnnouncesList length announces =
      if announces.all gcaIsValidAnnounce then some (announces.flatMap packed) else none := by
  have hsize : gcaAnnounceMaxSize = 136 := rfl
  induction announces generalizing length with
  | nil => rfl
  | cons announce announces ih =>
    have hannounce := h announce mem_cons_self
    have hpacked := hannounce.length_packed_le
    rw [length_cons, Nat.mul_succ] at hlength
    rw [gcaPackAnnouncesList, gcaPackAnnounce_eq hannounce (by omega) hmax, all_cons]
    cases gcaIsValidAnnounce announce with
    | false => rfl
    | true =>
      rw [if_pos rfl]
      dsimp only
      rw [ih (fun a ha => h a (mem_cons_of_mem _ ha)) (by omega) (by omega)]
      cases announces.all gcaIsValidAnnounce <;> rfl

/-- `gca_unpack_announces_list` undoes `gca_pack_announces_list`. -/
theorem gcaUnpackAnnouncesList_flatMap {announces : List GCAnnounce} {maxCount : Nat}
    (h : ∀ announce ∈ announces, announce.WellFormed) (hcount : announces.length ≤ maxCount)
    (hmax : (announces.flatMap packed).length < 2 ^ 15) :
    gcaUnpackAnnouncesList maxCount (announces.flatMap packed) =
      some (announces.map received) := by
  induction announces generalizing maxCount with
  | nil => cases maxCount <;> rfl
  | cons announce announces ih =>
    cases maxCount with
    | zero => exact absurd hcount (by simp)
    | succ m =>
      have hlen := announce.length_packed
      rw [flatMap_cons, length_append] at hmax
      rw [flatMap_cons, gcaUnpackAnnouncesList, if_neg (by rw [length_append]; omega),
        gcaUnpackAnnounce_packed_append (h announce mem_cons_self) (by omega)]
      dsimp only
      rw [ih (fun a ha => h a (mem_cons_of_mem _ ha)) (by simpa using hcount) (by omega)]
      rfl

theorem wellFormed_of_gcaUnpackAnnounce {data : Bytes} (h : gcaUnpackAnnounce data = some (announce, rest))
    : announce.WellFormed := by
  unfold gcaUnpackAnnounce at h
  split at h
  · cases h
  · dsimp only at h
    split at h
    · cases h
    · split at h
      · cases h
      · rename_i ipPort rest' hipPort
        split at h
        · cases h
        · rename_i tcpRelays nodesLength hrelays
          split at h
          · cases h
          · rename_i hcount
            cases h
            refine ⟨?_, ?_, ?_⟩
            · intro a ha
              obtain rfl : ipPort = some a := ha
              unfold gcaUnpackIpPort at hipPort
              split_ifs at hipPort
              · obtain ⟨⟨a', r⟩, hunpack, hpair⟩ := Option.map_eq_some_iff.mp hipPort
                obtain rfl : a' = a := Option.some.inj (Prod.mk.inj hpair).1
                exact isUdp_of_unpackIpPort hunpack
              · exact nomatch (Prod.mk.inj (Option.some.inj hipPort)).1
            · unfold unpackNodes at hrelays
              split at hrelays
              · cases hrelays
              · rename_i hloop
                cases hrelays
                exact (eq_wire_of_unpackNodesLoop hloop).1
            · have hone : gcaMaxAnnouncedTcpRelays.toNat = 1 := rfl
              show tcpRelays.length ≤ 1
              omega

/-! ## The list -/

namespace GCAnnouncesList

def WellFormed (list : GCAnnouncesList) : Prop :=
  ∀ announces ∈ list.announces, ∀ peer ∈ announces.peerAnnounces, peer.baseAnnounce.WellFormed

/-- Announces of others and of the node itself arrive, and old ones and those of left groups are removed. -/
inductive Step (list : GCAnnouncesList) : GCAnnouncesList → Prop
  | received (now : UInt64) {data : Bytes} {publicAnnounce : GCPublicAnnounce} :
    gcaUnpackPublicAnnounce data = some publicAnnounce →
    Step list (list.gcaAddAnnounce now publicAnnounce)
  | selfAnnounce (now : UInt64) {publicAnnounce : GCPublicAnnounce} :
    publicAnnounce.baseAnnounce.WellFormed → gcaIsValidAnnounce publicAnnounce.baseAnnounce →
    Step list (list.gcaAddAnnounce now publicAnnounce)
  | doGca (now : UInt64) : Step list (list.doGca now)
  | cleanupGca (chatId : PublicKey) : Step list (list.cleanupGca chatId)

def system : TransitionSystem GCAnnouncesList where
  init list := list = newGcaList
  step := Step

theorem wellFormed_zeroPeerAnnounce : zeroPeerAnnounce.baseAnnounce.WellFormed where
  ipPort _ h := nomatch h
  tcpRelays _ h := nomatch h
  count := Nat.zero_le _

variable {list : GCAnnouncesList}

theorem WellFormed.gcaAddAnnounce (h : list.WellFormed) (now : UInt64) {publicAnnounce : GCPublicAnnounce}
    (hnew : publicAnnounce.baseAnnounce.WellFormed) :
    (list.gcaAddAnnounce now publicAnnounce).WellFormed := by
  -- adding to one group keeps its announces well formed
  have hadd : ∀ announces : GCAnnounces,
      (∀ peer ∈ announces.peerAnnounces, peer.baseAnnounce.WellFormed) →
      ∀ peer ∈ (addTo now publicAnnounce.baseAnnounce announces).peerAnnounces,
        peer.baseAnnounce.WellFormed := by
    intro announces hold peer hpeer
    rcases mem_or_eq_of_mem_set hpeer with hpeer | rfl
    · exact hold peer hpeer
    · exact hnew
  unfold GCAnnouncesList.gcaAddAnnounce
  split
  · intro announces hmem
    rcases mem_iff_getElem?.mp hmem with ⟨i, hi⟩
    rw [getElem?_modify] at hi
    obtain ⟨old, hold, rfl⟩ := Option.map_eq_some_iff.mp hi
    split
    · exact hadd old (h old (mem_of_getElem? hold))
    · exact h old (mem_of_getElem? hold)
  · intro announces hmem
    rcases mem_cons.mp hmem with rfl | hmem
    · apply hadd
      intro peer hpeer
      rw [eq_of_mem_replicate hpeer]
      exact wellFormed_zeroPeerAnnounce
    · exact h announces hmem

theorem wellFormed_of_reachable (h : system.Reachable list) :
    list.WellFormed := by
  refine TransitionSystem.Reachable.invariant ?_ ?_ h
  · rintro list rfl announces hmem
    exact nomatch hmem
  · intro list list' hlist hstep
    cases hstep with
    | received now hunpack =>
      unfold gcaUnpackPublicAnnounce at hunpack
      split at hunpack
      · cases hunpack
      · obtain ⟨⟨announce, rest⟩, hannounce, rfl⟩ := Option.map_eq_some_iff.mp hunpack
        exact hlist.gcaAddAnnounce now (wellFormed_of_gcaUnpackAnnounce hannounce)
    | selfAnnounce now hnew _ => exact hlist.gcaAddAnnounce now hnew
    | doGca now =>
      unfold GCAnnouncesList.doGca
      split
      · exact hlist
      · intro announces hmem
        exact hlist announces (mem_of_mem_filter hmem)
    | cleanupGca chatId =>
      unfold GCAnnouncesList.cleanupGca
      split
      · exact hlist
      · intro announces hmem
        exact hlist announces (mem_of_mem_eraseIdx hmem)

theorem getAnnouncesLoop_spec {maxNodes : Nat} (exceptPublicKey : PublicKey)
    (peers : List GCPeerAnnounce) {added : List GCAnnounce} (hadded : added.length ≤ maxNodes) :
    (getAnnouncesLoop maxNodes exceptPublicKey peers added).length ≤ maxNodes ∧
    ∀ announce ∈ getAnnouncesLoop maxNodes exceptPublicKey peers added,
      announce ∈ added ∨ ∃ peer ∈ peers, peer.baseAnnounce = announce := by
  induction peers generalizing added with
  | nil => exact ⟨hadded, fun _ h => .inl h⟩
  | cons peer peers ih =>
    have hskip : ∀ announce, (announce ∈ added ∨ ∃ p ∈ peers, p.baseAnnounce = announce) →
        announce ∈ added ∨ ∃ p ∈ peer :: peers, p.baseAnnounce = announce := by
      rintro announce (h | ⟨p, hp, rfl⟩)
      · exact .inl h
      · exact .inr ⟨p, mem_cons_of_mem _ hp, rfl⟩
    unfold getAnnouncesLoop
    dsimp only
    split
    · exact ⟨hadded, fun _ h => .inl h⟩
    · split
      · exact ⟨(ih hadded).1, fun a ha => hskip a ((ih hadded).2 a ha)⟩
      · split
        · exact ⟨(ih hadded).1, fun a ha => hskip a ((ih hadded).2 a ha)⟩
        · have hmore : (added ++ [peer.baseAnnounce]).length ≤ maxNodes := by
            rw [length_append, length_singleton]
            omega
          obtain ⟨hlen, hmem⟩ := ih hmore
          refine ⟨hlen, fun a ha => ?_⟩
          rcases hmem a ha with hmem | ⟨p, hp, rfl⟩
          · rcases mem_append.mp hmem with hold | hnew
            · exact .inl hold
            · exact .inr ⟨peer, mem_cons_self, (mem_singleton.mp hnew).symm⟩
          · exact .inr ⟨p, mem_cons_of_mem _ hp, rfl⟩

theorem WellFormed.gcaGetAnnounces (h : list.WellFormed) (maxNodes : Nat) (chatId exceptPublicKey : PublicKey) :
    (list.gcaGetAnnounces maxNodes chatId exceptPublicKey).length ≤ maxNodes ∧
    ∀ announce ∈ list.gcaGetAnnounces maxNodes chatId exceptPublicKey, announce.WellFormed := by
  unfold GCAnnouncesList.gcaGetAnnounces
  split
  · exact ⟨Nat.zero_le _, fun _ h => nomatch h⟩
  · rename_i announces hfind
    have hmem : announces ∈ list.announces := mem_of_find?_eq_some hfind
    have hnone : ([] : List GCAnnounce).length ≤ maxNodes := Nat.zero_le _
    obtain ⟨hlen, hfrom⟩ := getAnnouncesLoop_spec exceptPublicKey
      (announces.peerAnnounces.take announces.index.toNat) hnone
    refine ⟨hlen, fun announce hannounce => ?_⟩
    rcases hfrom announce hannounce with hnil | ⟨peer, hpeer, rfl⟩
    · cases hnil
    · exact h announces hmem peer (mem_of_mem_take hpeer)

end GCAnnouncesList

end Toxcore

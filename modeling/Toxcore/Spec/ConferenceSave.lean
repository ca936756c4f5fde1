import Mathlib.Data.UInt
import Toxcore.Native.GroupSave
import Toxcore.Spec.ConnectionSlots
import Toxcore.Spec.PeerTable
import Toxcore.Spec.SaveLoad

/-!
# Saving and loading conferences

`conferences_save` writes as many bytes as `conferences_size` says unless that number wraps around, and
`load_conferences` restores the conferences unless our number belongs to another peer. The check of the length
of a nick wraps around for a nick that ends at 2^32 or later, which `load_group` then reads behind the data.
-/

namespace Toxcore

open List

/-! ## Numbers -/

theorem lendianBytesToHost16_append (num : UInt16) (rest : Bytes) :
    lendianBytesToHost16 (hostToLendianBytes16 num ++ rest) = num := by
  have hnum : num.toNat < 2 ^ 16 := num.toNat_lt
  unfold lendianBytesToHost16 hostToLendianBytes16
  rw [take_left' (length_toLittleEndian 2 _), ofLittleEndian_toLittleEndian,
    Nat.mod_eq_of_lt (by omega), UInt16.ofNat_toNat]

theorem lendianBytesToHost64_append (num : UInt64) (rest : Bytes) :
    lendianBytesToHost64 (hostToLendianBytes64 num ++ rest) = num := by
  have hnum : num.toNat < 2 ^ 64 := num.toNat_lt
  unfold lendianBytesToHost64 hostToLendianBytes64
  rw [take_left' (length_toLittleEndian 8 _), ofLittleEndian_toLittleEndian,
    Nat.mod_eq_of_lt (by omega), UInt64.ofNat_toNat]

theorem hostToLendianBytes16_lendianBytesToHost16 {data : Bytes} (h : 2 ≤ data.length) :
    hostToLendianBytes16 (lendianBytesToHost16 data) = data.take 2 := by
  have hlength : (data.take 2).length = 2 := length_take_of_le h
  have hlt := ofLittleEndian_lt (data.take 2)
  have hbytes := toLittleEndian_ofLittleEndian (data.take 2)
  rw [hlength] at hlt hbytes
  unfold lendianBytesToHost16 hostToLendianBytes16
  rw [UInt16.toNat_ofNat_of_lt' (by exact hlt)]
  exact hbytes

theorem hostToLendianBytes64_lendianBytesToHost64 {data : Bytes} (h : 8 ≤ data.length) :
    hostToLendianBytes64 (lendianBytesToHost64 data) = data.take 8 := by
  have hlength : (data.take 8).length = 8 := length_take_of_le h
  have hlt := ofLittleEndian_lt (data.take 8)
  have hbytes := toLittleEndian_ofLittleEndian (data.take 8)
  rw [hlength] at hlt hbytes
  unfold lendianBytesToHost64 hostToLendianBytes64
  rw [UInt64.toNat_ofNat_of_lt' (by exact hlt)]
  exact hbytes

theorem hostToLendianBytes32_lendianBytesToHost32 {data : Bytes} (h : 4 ≤ data.length) :
    hostToLendianBytes32 (lendianBytesToHost32 data) = data.take 4 := by
  match data, h with
  | b0 :: b1 :: b2 :: b3 :: rest, _ =>
    have h0 := b0.toNat_lt
    have h1 := b1.toNat_lt
    have h2 := b2.toNat_lt
    have h3 := b3.toNat_lt
    simp only [hostToLendianBytes32, lendianBytesToHost32, getD_cons_zero, getD_cons_succ,
      take_succ_cons, take_zero, List.cons.injEq, and_true]
    refine ⟨?_, ?_, ?_, ?_⟩ <;>
    · apply UInt8.toNat_inj.mp
      simp only [UInt8.toNat_ofNat', UInt32.toNat_ofNat']
      omega

@[simp] theorem length_hostToLendianBytes16 (num : UInt16) : (hostToLendianBytes16 num).length = 2 := rfl

@[simp] theorem length_hostToLendianBytes64 (num : UInt64) : (hostToLendianBytes64 num).length = 8 := rfl

theorem drop_toList_append (pk : PublicKey) (rest : Bytes) : (pk.toList ++ rest).drop 32 = rest :=
  drop_left' (Vector.length_toList)

theorem drop_hostToLendianBytes16_append (num : UInt16) (rest : Bytes) :
    (hostToLendianBytes16 num ++ rest).drop 2 = rest := drop_left' rfl

theorem drop_hostToLendianBytes32_append (num : UInt32) (rest : Bytes) :
    (hostToLendianBytes32 num ++ rest).drop 4 = rest := drop_left' rfl

theorem drop_hostToLendianBytes64_append (num : UInt64) (rest : Bytes) :
    (hostToLendianBytes64 num ++ rest).drop 8 = rest := drop_left' rfl

/-! ## Peers -/

@[simp] theorem length_peerHead (realPk tempPk : PublicKey) (peerNumber : UInt16)
    (lastActive : UInt64) (nickLen : UInt8) :
    (peerHead realPk tempPk peerNumber lastActive nickLen).length = savedPeerSizeConstant := by
  unfold peerHead savedPeerSizeConstant
  simp only [length_append, Vector.length_toList, length_hostToLendianBytes16,
    length_hostToLendianBytes64, length_singleton]
  omega

@[simp] theorem length_savePeer (peer : GroupPeer) :
    (savePeer peer).length = savedPeerSizeConstant + peer.nick.1.length := by
  rw [savePeer, length_append, length_peerHead]

@[simp] theorem toNat_lengthByte (name : Name) : name.lengthByte.toNat = name.1.length := by
  have h := name.2
  unfold Name.lengthByte
  rw [UInt8.toNat_ofNat_of_lt']
  exact Nat.lt_of_le_of_lt h (by decide)

structure SavedPeer where
  realPk : PublicKey
  tempPk : PublicKey
  peerNumber : UInt16
  lastActive : UInt64
  nick : Name

def GroupPeer.saved (peer : GroupPeer) : SavedPeer where
  realPk := peer.realPk
  tempPk := peer.tempPk
  peerNumber := peer.peerNumber
  lastActive := peer.lastActive
  nick := peer.nick

def GroupPeer.loaded (env : GroupEnv) (peer : GroupPeer) : GroupPeer :=
  { emptyGroupPeer with
    realPk := peer.realPk
    tempPk := peer.tempPk
    peerNumber := peer.peerNumber
    lastActive := peer.lastActive
    nick := peer.nick
    isFriend := env.isFriend peer.realPk }

theorem loadPeerHead_peerHead (env : GroupEnv) (realPk tempPk : PublicKey) (peerNumber : UInt16)
    (lastActive : UInt64) (nickLen : UInt8) (rest : Bytes) :
    loadPeerHead env (peerHead realPk tempPk peerNumber lastActive nickLen ++ rest) =
        { emptyGroupPeer with
          realPk, tempPk, peerNumber, lastActive, isFriend := env.isFriend realPk } ∧
      (peerHead realPk tempPk peerNumber lastActive nickLen ++ rest).getD 74 0 = nickLen := by
  let data := peerHead realPk tempPk peerNumber lastActive nickLen ++ rest
  have hdata : data = realPk.toList ++ (tempPk.toList ++ (hostToLendianBytes16 peerNumber ++
      (hostToLendianBytes64 lastActive ++ (nickLen :: rest)))) := by
    simp [data, peerHead]
  have h64 : data.drop 64 = hostToLendianBytes16 peerNumber ++
      (hostToLendianBytes64 lastActive ++ (nickLen :: rest)) := by
    rw [show 64 = 32 + 32 from rfl, ← drop_drop, hdata, drop_toList_append, drop_toList_append]
  have h66 : data.drop 66 = hostToLendianBytes64 lastActive ++ (nickLen :: rest) := by
    rw [show 66 = 64 + 2 from rfl, ← drop_drop, h64, drop_hostToLendianBytes16_append]
  have h74 : data.drop 74 = nickLen :: rest := by
    rw [show 74 = 66 + 8 from rfl, ← drop_drop, h66, drop_hostToLendianBytes64_append]
  constructor
  · change loadPeerHead env data = _
    have hpk : bytesToVector cryptoPublicKeySize data = realPk := by
      rw [hdata, bytesToVector_toList_append]
    unfold loadPeerHead
    rw [hpk, h64, h66, lendianBytesToHost16_append, lendianBytesToHost64_append, hdata,
      drop_toList_append, bytesToVector_toList_append]
  · rw [getD_eq_getElem?_getD, ← head?_drop, h74]
    rfl

theorem peerHead_loadPeerHead (env : GroupEnv) {data : Bytes} (h : savedPeerSizeConstant ≤ data.length) :
    data = peerHead (loadPeerHead env data).realPk (loadPeerHead env data).tempPk
      (loadPeerHead env data).peerNumber (loadPeerHead env data).lastActive (data.getD 74 0) ++
        data.drop savedPeerSizeConstant := by
  have hsize : savedPeerSizeConstant = 75 := rfl
  have h74 : 74 < data.length := by omega
  have hlast : [data.getD 74 0] = (data.drop 74).take 1 := by
    rw [getD_eq_getElem?_getD, getElem?_eq_getElem h74, drop_eq_getElem_cons h74]
    rfl
  unfold peerHead loadPeerHead cryptoPublicKeySize
  rw [toList_bytesToVector (by omega), toList_bytesToVector (by rw [length_drop]; omega),
    hostToLendianBytes16_lendianBytesToHost16 (by rw [length_drop]; omega),
    hostToLendianBytes64_lendianBytesToHost64 (by rw [length_drop]; omega), hlast, hsize]
  have hsplit (n k : Nat) : (data.drop n).take k ++ data.drop (n + k) = data.drop n := by
    rw [← drop_drop, take_append_drop]
  simp only [append_assoc]
  rw [hsplit 74 1, hsplit 66 8, hsplit 64 2, hsplit 32 32, take_append_drop]

/-! ## The loop over the peers -/

def prependPeers (peers : List GroupPeer) (result : Except Fault (Option (List GroupPeer × Bytes))) :
    Except Fault (Option (List GroupPeer × Bytes)) :=
  result.map (Option.map fun found => (peers ++ found.1, found.2))

def firstPeer (env : GroupEnv) (data : Bytes) (h : (data.getD 74 0).toNat ≤ maxNameLength) :
    GroupPeer :=
  { loadPeerHead env data with
    nick := ⟨(data.drop savedPeerSizeConstant).take (data.getD 74 0).toNat, (List.length_take_le _ _).trans h⟩ }

theorem nickCheck_iff {length : UInt32} {offset : Nat} {data : Bytes}
    (h : offset + data.length = length.toNat) (hsize : savedPeerSizeConstant ≤ data.length)
    (nickLen : UInt8) :
    length < UInt32.ofNat (offset + savedPeerSizeConstant) + nickLen.toUInt32 ↔
      offset + savedPeerSizeConstant + nickLen.toNat < 2 ^ 32 ∧
        data.length < savedPeerSizeConstant + nickLen.toNat := by
  have hlength : length.toNat < 2 ^ 32 := length.toNat_lt
  have hnick : nickLen.toNat < 2 ^ 8 := nickLen.toNat_lt
  rw [UInt32.lt_iff_toNat_lt, UInt32.toNat_add, UInt8.toNat_toUInt32, UInt32.toNat_ofNat',
    Nat.mod_eq_of_lt (show offset + savedPeerSizeConstant < 2 ^ 32 by omega)]
  by_cases hwrap : offset + savedPeerSizeConstant + nickLen.toNat < 2 ^ 32
  · rw [Nat.mod_eq_of_lt hwrap]
    omega
  · -- the sum wraps around to less than the length
    omega

theorem loadPeers_succ (env : GroupEnv) {length : UInt32} {offset : Nat} {data : Bytes}
    (h : offset + data.length = length.toNat) (numfrozen : Nat) :
    loadPeers env length (numfrozen + 1) offset data =
      if data.length < savedPeerSizeConstant then .ok none
      else if hnick : (data.getD 74 0).toNat ≤ maxNameLength then
        if 2 ^ 32 ≤ offset + savedPeerSizeConstant + (data.getD 74 0).toNat then
          .error .outOfBounds
        else if data.length < savedPeerSizeConstant + (data.getD 74 0).toNat then .ok none
        else prependPeers [firstPeer env data hnick]
          (loadPeers env length numfrozen (offset + savedPeerSizeConstant + (data.getD 74 0).toNat)
            (data.drop (savedPeerSizeConstant + (data.getD 74 0).toNat)))
      else .ok none := by
  have hlength : length.toNat < 2 ^ 32 := length.toNat_lt
  have hoffset : (UInt32.ofNat offset).toNat = offset := by
    rw [UInt32.toNat_ofNat', Nat.mod_eq_of_lt (by omega)]
  rw [loadPeers]
  by_cases hsize : data.length < savedPeerSizeConstant
  · rw [if_pos (by omega), if_pos hsize]
  rw [if_neg (by omega), if_neg hsize]
  by_cases hnick : (data.getD 74 0).toNat ≤ maxNameLength
  · rw [dif_neg (Nat.not_lt_of_le hnick), dif_pos hnick]
    have hcheck := nickCheck_iff h (Nat.le_of_not_lt hsize) (data.getD 74 0)
    by_cases hwrap : 2 ^ 32 ≤ offset + savedPeerSizeConstant + (data.getD 74 0).toNat
    · rw [if_neg (by rw [hcheck]; omega), if_pos (by rw [length_drop]; omega), if_pos hwrap]
    · rw [if_neg hwrap]
      by_cases hrest : data.length < savedPeerSizeConstant + (data.getD 74 0).toNat
      · rw [if_pos (hcheck.mpr (by omega)), if_pos hrest]
      · rw [if_neg (by rw [hcheck]; omega), if_neg (by rw [length_drop]; omega), if_neg hrest, drop_drop]
        generalize loadPeers env length numfrozen _ _ = result
        cases result with
        | error fault => rfl
        | ok found => cases found <;> rfl
  · rw [dif_pos (Nat.lt_of_not_le hnick), dif_neg hnick]

theorem firstPeer_savePeer (env : GroupEnv) (peer : GroupPeer) (rest : Bytes)
    (h : ((savePeer peer ++ rest).getD 74 0).toNat ≤ maxNameLength) :
    firstPeer env (savePeer peer ++ rest) h = peer.loaded env := by
  have hhead := loadPeerHead_peerHead env peer.realPk peer.tempPk peer.peerNumber peer.lastActive
    peer.nick.lengthByte (peer.nick.1 ++ rest)
  rw [← append_assoc] at hhead
  change loadPeerHead env (savePeer peer ++ rest) = _ ∧ (savePeer peer ++ rest).getD 74 0 = _ at hhead
  have hnick : ((savePeer peer ++ rest).drop savedPeerSizeConstant).take
      ((savePeer peer ++ rest).getD 74 0).toNat = peer.nick.1 := by
    rw [hhead.2, toNat_lengthByte, savePeer, append_assoc, drop_left' (length_peerHead ..), take_left]
  unfold firstPeer GroupPeer.loaded
  simp only [hhead.1, hnick]
  rfl

theorem loadPeers_savePeer (env : GroupEnv) {length : UInt32} {offset : Nat} {peer : GroupPeer}
    {rest : Bytes} (h : offset + (savePeer peer ++ rest).length = length.toNat) (numfrozen : Nat) :
    loadPeers env length (numfrozen + 1) offset (savePeer peer ++ rest) =
      prependPeers [peer.loaded env]
        (loadPeers env length numfrozen (offset + (savePeer peer).length) rest) := by
  have hlength : length.toNat < 2 ^ 32 := length.toNat_lt
  have hhead := (loadPeerHead_peerHead env peer.realPk peer.tempPk peer.peerNumber peer.lastActive
    peer.nick.lengthByte (peer.nick.1 ++ rest)).2
  rw [← append_assoc] at hhead
  change (savePeer peer ++ rest).getD 74 0 = peer.nick.lengthByte at hhead
  have hnick : ((savePeer peer ++ rest).getD 74 0).toNat = peer.nick.1.length := by
    rw [hhead, toNat_lengthByte]
  have hmax : ((savePeer peer ++ rest).getD 74 0).toNat ≤ maxNameLength := by
    rw [hnick]
    exact peer.nick.2
  have hdrop : (savePeer peer ++ rest).drop (savedPeerSizeConstant + peer.nick.1.length) = rest :=
    drop_left' (length_savePeer peer)
  rw [loadPeers_succ env h, dif_pos hmax, firstPeer_savePeer env peer rest hmax, hnick, hdrop]
  rw [length_append, length_savePeer] at h ⊢
  rw [if_neg (by omega), if_neg (by omega), if_neg (by omega), Nat.add_assoc]

theorem loadPeers_savePeers (env : GroupEnv) {length : UInt32} {offset : Nat} {peers : List GroupPeer}
    {rest : Bytes} (h : offset + (peers.flatMap savePeer ++ rest).length = length.toNat) (numfrozen : Nat) :
    loadPeers env length (peers.length + numfrozen) offset (peers.flatMap savePeer ++ rest) =
      prependPeers (peers.map (·.loaded env))
        (loadPeers env length numfrozen (offset + (peers.flatMap savePeer).length) rest) := by
  induction peers generalizing offset with
  | nil =>
    rw [length_nil, Nat.zero_add, flatMap_nil, nil_append]
    generalize loadPeers env length numfrozen offset rest = result
    cases result with
    | error fault => rfl
    | ok found => cases found <;> rfl
  | cons peer peers ih =>
    rw [flatMap_cons, append_assoc] at h ⊢
    rw [length_cons, Nat.add_right_comm, loadPeers_savePeer env h, ih]
    · rw [length_append, ← Nat.add_assoc]
      generalize loadPeers env length numfrozen _ rest = result
      cases result with
      | error fault => rfl
      | ok found => cases found <;> rfl
    · rw [length_append] at h
      omega

def GroupPeer.head (peer : GroupPeer) (nickLen : UInt8) : Bytes :=
  peerHead peer.realPk peer.tempPk peer.peerNumber peer.lastActive nickLen

theorem loadPeers_wraps (env : GroupEnv) {length : UInt32} {offset : Nat} {peer : GroupPeer}
    {nickLen : UInt8} {rest : Bytes} (h : offset + (peer.head nickLen ++ rest).length = length.toNat)
    (hnick : nickLen.toNat ≤ maxNameLength)
    (hwraps : 2 ^ 32 ≤ offset + savedPeerSizeConstant + nickLen.toNat) (numfrozen : Nat) :
    loadPeers env length (numfrozen + 1) offset (peer.head nickLen ++ rest) =
      .error .outOfBounds := by
  have hhead : (peer.head nickLen ++ rest).getD 74 0 = nickLen :=
    (loadPeerHead_peerHead env _ _ _ _ nickLen rest).2
  have hsize : ¬(peer.head nickLen ++ rest).length < savedPeerSizeConstant := by
    rw [length_append, GroupPeer.head, length_peerHead]
    omega
  rw [loadPeers_succ env h, if_neg hsize, dif_pos (by rw [hhead]; exact hnick),
    if_pos (by rw [hhead]; exact hwraps)]

theorem loadPeers_cases (env : GroupEnv) {length : UInt32} {offset : Nat} {data : Bytes}
    (h : offset + data.length = length.toNat) (numfrozen : Nat) :
    loadPeers env length numfrozen offset data = .ok none ∨
    (∃ (peers : List GroupPeer) (rest : Bytes), peers.length = numfrozen ∧ data = peers.flatMap savePeer ++ rest ∧
      loadPeers env length numfrozen offset data = .ok (some (peers.map (·.loaded env), rest))) ∨
    ∃ (peers : List GroupPeer) (peer : GroupPeer) (nickLen : UInt8) (rest : Bytes),
      peers.length < numfrozen ∧ data = peers.flatMap savePeer ++ (peer.head nickLen ++ rest) ∧
      nickLen.toNat ≤ maxNameLength ∧
      2 ^ 32 ≤ offset + (peers.flatMap savePeer).length + savedPeerSizeConstant + nickLen.toNat ∧
      loadPeers env length numfrozen offset data = .error .outOfBounds := by
  induction numfrozen generalizing offset data with
  | zero => exact .inr (.inl ⟨[], data, rfl, rfl, rfl⟩)
  | succ numfrozen ih =>
    rw [loadPeers_succ env h]
    by_cases hsize : data.length < savedPeerSizeConstant
    · exact .inl (if_pos hsize)
    rw [if_neg hsize]
    by_cases hnick : (data.getD 74 0).toNat ≤ maxNameLength
    · rw [dif_pos hnick]
      have hhead := peerHead_loadPeerHead env (Nat.le_of_not_lt hsize)
      by_cases hwraps : 2 ^ 32 ≤ offset + savedPeerSizeConstant + (data.getD 74 0).toNat
      · rw [if_pos hwraps]
        refine .inr (.inr ⟨[], loadPeerHead env data, data.getD 74 0,
          data.drop savedPeerSizeConstant, Nat.succ_pos _, ?_, hnick, ?_, rfl⟩)
        · rw [flatMap_nil, nil_append]
          exact hhead
        · rw [flatMap_nil, length_nil, Nat.add_zero]
          exact hwraps
      rw [if_neg hwraps]
      by_cases hrest : data.length < savedPeerSizeConstant + (data.getD 74 0).toNat
      · exact .inl (if_pos hrest)
      rw [if_neg hrest]
      -- the data begins with a saved peer
      have hfirst : data = savePeer (firstPeer env data hnick) ++
          data.drop (savedPeerSizeConstant + (data.getD 74 0).toNat) := by
        have hbyte : (firstPeer env data hnick).nick.lengthByte = data.getD 74 0 := by
          apply UInt8.toNat_inj.mp
          rw [toNat_lengthByte]
          exact length_take_of_le (by rw [length_drop]; omega)
        rw [savePeer, hbyte, append_assoc, ← drop_drop]
        conv_lhs => rw [hhead]
        congr 1
        exact (take_append_drop _ _).symm
      have hloaded : (firstPeer env data hnick).loaded env = firstPeer env data hnick := rfl
      have hlength : (savePeer (firstPeer env data hnick)).length =
          savedPeerSizeConstant + (data.getD 74 0).toNat := by
        have hdata := congrArg List.length hfirst
        rw [length_append, length_drop] at hdata
        omega
      have hnext : offset + savedPeerSizeConstant + (data.getD 74 0).toNat +
          (data.drop (savedPeerSizeConstant + (data.getD 74 0).toNat)).length = length.toNat := by
        rw [length_drop]
        omega
      rcases ih hnext with heq | ⟨peers, rest, hcount, hdata, heq⟩ |
        ⟨peers, peer, nickLen, rest, hcount, hdata, hmax, hwraps', heq⟩ <;> rw [heq]
      · exact .inl rfl
      · refine .inr (.inl ⟨firstPeer env data hnick :: peers, rest, by rw [length_cons, hcount], ?_, ?_⟩)
        · rw [flatMap_cons, append_assoc, ← hdata]
          exact hfirst
        · rw [map_cons, hloaded]
          rfl
      · refine .inr (.inr ⟨firstPeer env data hnick :: peers, peer, nickLen, rest,
          by rw [length_cons]; omega, ?_, hmax, ?_, rfl⟩)
        · rw [flatMap_cons, append_assoc, ← hdata]
          exact hfirst
        · rw [flatMap_cons, length_append]
          omega
    · exact .inl (dif_neg hnick)

/-! ## Conferences -/

structure SavedConf where
  type : UInt8
  id : PublicKey
  messageNumber : UInt32
  lossyMessageNumber : UInt16
  peerNumber : UInt16
  title : Name

namespace SavedConf

def bytes (conf : SavedConf) (numsaved : UInt32) : Bytes :=
  confHead conf.type conf.id conf.messageNumber conf.lossyMessageNumber conf.peerNumber numsaved
    conf.title.lengthByte ++ conf.title.1

/-- The conference that `load_group` makes of it. -/
def toGroupC (conf : SavedConf) (selfPublicKey : PublicKey) (numsaved : UInt32)
    (frozen : List GroupPeer) : GroupC :=
  { setupConference with
    type := conf.type
    id := conf.id
    messageNumber := conf.messageNumber
    lossyMessageNumber := conf.lossyMessageNumber
    peerNumber := conf.peerNumber
    title := conf.title
    frozen
    maxfrozen := if numsaved > maxFrozenDefault then numsaved else maxFrozenDefault
    status := .connected
    realPk := selfPublicKey }

end SavedConf

@[simp] theorem length_confHead (type : UInt8) (id : PublicKey) (messageNumber : UInt32)
    (lossyMessageNumber peerNumber : UInt16) (numsaved : UInt32) (titleLen : UInt8) :
    (confHead type id messageNumber lossyMessageNumber peerNumber numsaved titleLen).length =
      savedConfSizeConstant := by
  unfold confHead savedConfSizeConstant
  simp only [length_append, Vector.length_toList, length_hostToLendianBytes16,
    length_hostToLendianBytes32, length_singleton]
  omega

@[simp] theorem SavedConf.length_bytes (conf : SavedConf) (numsaved : UInt32) :
    (conf.bytes numsaved).length = savedConfSizeConstant + conf.title.1.length := by
  rw [bytes, length_append, length_confHead]

theorem confHead_fields (type : UInt8) (id : PublicKey) (messageNumber : UInt32)
    (lossyMessageNumber peerNumber : UInt16) (numsaved : UInt32) (titleLen : UInt8) {rest data : Bytes}
    (hdata : data = confHead type id messageNumber lossyMessageNumber peerNumber numsaved titleLen ++ rest) :
    data.getD 0 0 = type ∧ bytesToVector cryptoPublicKeySize (data.drop 1) = id ∧
      lendianBytesToHost32 (data.drop 33) = messageNumber ∧
      lendianBytesToHost16 (data.drop 37) = lossyMessageNumber ∧
      lendianBytesToHost16 (data.drop 39) = peerNumber ∧
      lendianBytesToHost32 (data.drop 41) = numsaved ∧ data.getD 45 0 = titleLen ∧
      data.drop savedConfSizeConstant = rest := by
  have h1 : data.drop 1 = id.toList ++ (hostToLendianBytes32 messageNumber ++
      (hostToLendianBytes16 lossyMessageNumber ++ (hostToLendianBytes16 peerNumber ++
        (hostToLendianBytes32 numsaved ++ (titleLen :: rest))))) := by
    simp [hdata, confHead]
  have h33 : data.drop 33 = hostToLendianBytes32 messageNumber ++
      (hostToLendianBytes16 lossyMessageNumber ++ (hostToLendianBytes16 peerNumber ++
        (hostToLendianBytes32 numsaved ++ (titleLen :: rest)))) := by
    rw [show 33 = 1 + 32 from rfl, ← drop_drop, h1, drop_toList_append]
  have h37 : data.drop 37 = hostToLendianBytes16 lossyMessageNumber ++
      (hostToLendianBytes16 peerNumber ++ (hostToLendianBytes32 numsaved ++ (titleLen :: rest))) := by
    rw [show 37 = 33 + 4 from rfl, ← drop_drop, h33, drop_hostToLendianBytes32_append]
  have h39 : data.drop 39 = hostToLendianBytes16 peerNumber ++
      (hostToLendianBytes32 numsaved ++ (titleLen :: rest)) := by
    rw [show 39 = 37 + 2 from rfl, ← drop_drop, h37, drop_hostToLendianBytes16_append]
  have h41 : data.drop 41 = hostToLendianBytes32 numsaved ++ (titleLen :: rest) := by
    rw [show 41 = 39 + 2 from rfl, ← drop_drop, h39, drop_hostToLendianBytes16_append]
  have h45 : data.drop 45 = titleLen :: rest := by
    rw [show 45 = 41 + 4 from rfl, ← drop_drop, h41, drop_hostToLendianBytes32_append]
  refine ⟨?_, ?_, ?_, ?_, ?_, ?_, ?_, ?_⟩
  · simp [hdata, confHead]
  · rw [h1, bytesToVector_toList_append]
  · rw [h33, lendianBytesToHost32_append]
  · rw [h37, lendianBytesToHost16_append]
  · rw [h39, lendianBytesToHost16_append]
  · rw [h41, lendianBytesToHost32_append]
  · rw [getD_eq_getElem?_getD, ← head?_drop, h45]
    rfl
  · rw [hdata]
    exact drop_left' (length_confHead ..)

theorem confHead_eq {data : Bytes} (h : savedConfSizeConstant ≤ data.length) :
    data = confHead (data.getD 0 0) (bytesToVector cryptoPublicKeySize (data.drop 1))
      (lendianBytesToHost32 (data.drop 33)) (lendianBytesToHost16 (data.drop 37))
      (lendianBytesToHost16 (data.drop 39)) (lendianBytesToHost32 (data.drop 41)) (data.getD 45 0) ++
        data.drop savedConfSizeConstant := by
  have hsize : savedConfSizeConstant = 46 := rfl
  have hbyte (n : Nat) (hn : n < data.length) : [data.getD n 0] = (data.drop n).take 1 := by
    rw [getD_eq_getElem?_getD, getElem?_eq_getElem hn, drop_eq_getElem_cons hn]
    rfl
  have hsplit (n k : Nat) : (data.drop n).take k ++ data.drop (n + k) = data.drop n := by
    rw [← drop_drop, take_append_drop]
  unfold confHead cryptoPublicKeySize
  rw [hbyte 0 (by omega), hbyte 45 (by omega), toList_bytesToVector (by rw [length_drop]; omega),
    hostToLendianBytes32_lendianBytesToHost32 (by rw [length_drop]; omega),
    hostToLendianBytes32_lendianBytesToHost32 (by rw [length_drop]; omega),
    hostToLendianBytes16_lendianBytesToHost16 (by rw [length_drop]; omega),
    hostToLendianBytes16_lendianBytesToHost16 (by rw [length_drop]; omega), hsize]
  simp only [append_assoc]
  rw [hsplit 45 1, hsplit 41 4, hsplit 39 2, hsplit 37 2, hsplit 33 4, hsplit 1 32, hsplit 0 1, drop_zero]

variable (env : GroupEnv) (selfPublicKey : PublicKey)

theorem loadGroup_bytes {conf : SavedConf} {numsaved : UInt32} {rest data : Bytes}
    (hdata : data = conf.bytes numsaved ++ rest) (hlength : data.length < 2 ^ 32) :
    loadGroup env selfPublicKey data =
      (loadPeers env (UInt32.ofNat data.length) numsaved.toNat (conf.bytes numsaved).length
        rest).map (Option.map fun found =>
          (conf.toGroupC selfPublicKey numsaved found.1, found.2)) := by
  have hhead : data = confHead conf.type conf.id conf.messageNumber conf.lossyMessageNumber
      conf.peerNumber numsaved conf.title.lengthByte ++ (conf.title.1 ++ rest) := by
    rw [hdata, SavedConf.bytes, append_assoc]
  obtain ⟨htype, hid, hmessage, hlossy, hpeer, hnum, htitle, hdrop⟩ := confHead_fields _ _ _ _ _ _ _ hhead
  have htitleLen : (data.getD 45 0).toNat = conf.title.1.length := by
    rw [htitle, toNat_lengthByte]
  have hmax := conf.title.2
  have htotal : data.length = savedConfSizeConstant + conf.title.1.length + rest.length := by
    rw [hdata, length_append, SavedConf.length_bytes]
  have hcheck : ¬UInt32.ofNat data.length <
      UInt32.ofNat savedConfSizeConstant + (data.getD 45 0).toUInt32 := by
    rw [UInt32.lt_iff_toNat_lt, UInt32.toNat_add, UInt8.toNat_toUInt32, htitleLen,
      UInt32.toNat_ofNat', UInt32.toNat_ofNat', Nat.mod_eq_of_lt hlength]
    omega
  unfold loadGroup
  rw [dif_neg (by rw [htitleLen]; exact Nat.not_lt_of_le hmax), if_neg hcheck]
  simp only [hdrop, htitleLen, hnum, length_append]
  rw [if_neg (by omega)]
  simp only [take_left, drop_left, SavedConf.length_bytes]
  generalize loadPeers env _ _ _ rest = result
  have hconf (frozen : List GroupPeer) : loadedConference selfPublicKey data conf.title numsaved frozen =
      conf.toGroupC selfPublicKey numsaved frozen := by
    unfold loadedConference SavedConf.toGroupC
    rw [htype, hid, hmessage, hlossy, hpeer]
  cases result with
  | error fault => rfl
  | ok found =>
    cases found with
    | none => rfl
    | some found =>
      change Except.ok (some (loadedConference selfPublicKey data conf.title numsaved found.1, found.2)) = _
      rw [hconf]
      rfl

theorem loadGroup_saved {conf : SavedConf} {peers : List GroupPeer} {rest data : Bytes}
    (hdata : data = conf.bytes (UInt32.ofNat peers.length) ++ (peers.flatMap savePeer ++ rest))
    (hlength : data.length < 2 ^ 32) (hpeers : peers.length < 2 ^ 32) :
    loadGroup env selfPublicKey data = .ok (some (conf.toGroupC selfPublicKey
      (UInt32.ofNat peers.length) (peers.map (·.loaded env)), rest)) := by
  have htotal : (conf.bytes (UInt32.ofNat peers.length)).length +
      (peers.flatMap savePeer ++ rest).length = (UInt32.ofNat data.length).toNat := by
    rw [UInt32.toNat_ofNat', Nat.mod_eq_of_lt hlength, ← length_append, ← hdata]
  have hload := loadPeers_savePeers env htotal 0
  rw [Nat.add_zero] at hload
  rw [loadGroup_bytes env selfPublicKey hdata hlength, UInt32.toNat_ofNat', Nat.mod_eq_of_lt hpeers, hload]
  unfold loadPeers prependPeers
  simp only [Except.map, Option.map_some, append_nil]

theorem loadGroup_wraps {conf : SavedConf} {numsaved : UInt32} {peers : List GroupPeer}
    {peer : GroupPeer} {nickLen : UInt8} {rest data : Bytes}
    (hdata : data = conf.bytes numsaved ++ (peers.flatMap savePeer ++ (peer.head nickLen ++ rest)))
    (hlength : data.length < 2 ^ 32) (hpeers : peers.length < numsaved.toNat)
    (hnick : nickLen.toNat ≤ maxNameLength)
    (hwraps : 2 ^ 32 ≤ (conf.bytes numsaved).length + (peers.flatMap savePeer).length +
      savedPeerSizeConstant + nickLen.toNat) :
    loadGroup env selfPublicKey data = .error .outOfBounds := by
  obtain ⟨k, hk⟩ : ∃ k, numsaved.toNat = peers.length + (k + 1) :=
    ⟨numsaved.toNat - peers.length - 1, by omega⟩
  have htotal : (conf.bytes numsaved).length + (peers.flatMap savePeer ++
      (peer.head nickLen ++ rest)).length = (UInt32.ofNat data.length).toNat := by
    rw [UInt32.toNat_ofNat', Nat.mod_eq_of_lt hlength, ← length_append, ← hdata]
  have hrest : (conf.bytes numsaved).length + (peers.flatMap savePeer).length +
      (peer.head nickLen ++ rest).length = (UInt32.ofNat data.length).toNat := by
    rw [← htotal, Nat.add_assoc, ← length_append]
  rw [loadGroup_bytes env selfPublicKey hdata hlength, hk, loadPeers_savePeers env htotal,
    loadPeers_wraps env hrest hnick hwraps]
  rfl

theorem loadGroup_cases {data : Bytes} (hsize : savedConfSizeConstant ≤ data.length)
    (hlength : data.length < 2 ^ 32) :
    loadGroup env selfPublicKey data = .ok none ∨
    (∃ (conf : SavedConf) (peers : List GroupPeer) (rest : Bytes), peers.length < 2 ^ 32 ∧
      data = conf.bytes (UInt32.ofNat peers.length) ++ (peers.flatMap savePeer ++ rest)) ∨
    (∃ (conf : SavedConf) (numsaved : UInt32) (peers : List GroupPeer) (peer : GroupPeer)
      (nickLen : UInt8) (rest : Bytes), peers.length < numsaved.toNat ∧
      data = conf.bytes numsaved ++ (peers.flatMap savePeer ++ (peer.head nickLen ++ rest)) ∧
      nickLen.toNat ≤ maxNameLength ∧
      2 ^ 32 ≤ (conf.bytes numsaved).length + (peers.flatMap savePeer).length +
        savedPeerSizeConstant + nickLen.toNat) := by
  by_cases htitle : (data.getD 45 0).toNat ≤ maxNameLength
  case neg =>
    refine .inl ?_
    exact dif_pos (Nat.lt_of_not_le htitle)
  have hconst : savedConfSizeConstant = 46 := rfl
  have hbyte : (data.getD 45 0).toNat < 2 ^ 8 := (data.getD 45 0).toNat_lt
  by_cases hshort : data.length < savedConfSizeConstant + (data.getD 45 0).toNat
  · refine .inl ?_
    unfold loadGroup
    rw [dif_neg (Nat.not_lt_of_le htitle), if_pos]
    rw [UInt32.lt_iff_toNat_lt, UInt32.toNat_add, UInt8.toNat_toUInt32, UInt32.toNat_ofNat',
      UInt32.toNat_ofNat', Nat.mod_eq_of_lt hlength]
    omega
  -- the title is complete
  let conf : SavedConf := {
    type := data.getD 0 0
    id := bytesToVector cryptoPublicKeySize (data.drop 1)
    messageNumber := lendianBytesToHost32 (data.drop 33)
    lossyMessageNumber := lendianBytesToHost16 (data.drop 37)
    peerNumber := lendianBytesToHost16 (data.drop 39)
    title := ⟨(data.drop savedConfSizeConstant).take (data.getD 45 0).toNat,
      (length_take_le _ _).trans htitle⟩ }
  let numsaved := lendianBytesToHost32 (data.drop 41)
  have htitleByte : conf.title.lengthByte = data.getD 45 0 := by
    apply UInt8.toNat_inj.mp
    rw [toNat_lengthByte]
    exact length_take_of_le (by rw [length_drop]; omega)
  have hdata : data = conf.bytes numsaved ++ (data.drop savedConfSizeConstant).drop (data.getD 45 0).toNat := by
    rw [SavedConf.bytes, htitleByte, append_assoc]
    conv_lhs => rw [confHead_eq hsize]
    congr 1
    exact (take_append_drop _ _).symm
  have htotal : (conf.bytes numsaved).length +
      ((data.drop savedConfSizeConstant).drop (data.getD 45 0).toNat).length =
      (UInt32.ofNat data.length).toNat := by
    rw [UInt32.toNat_ofNat', Nat.mod_eq_of_lt hlength, ← length_append, ← hdata]
  rcases loadPeers_cases env htotal numsaved.toNat with heq | ⟨peers, rest, hcount, hrest, -⟩ |
    ⟨peers, peer, nickLen, rest, hcount, hrest, hnick, hwraps, -⟩
  · refine .inl ?_
    rw [loadGroup_bytes env selfPublicKey hdata hlength, heq]
    rfl
  · refine .inr (.inl ⟨conf, peers, rest, ?_, ?_⟩)
    · rw [hcount]
      exact numsaved.toNat_lt
    · rw [hcount, UInt32.ofNat_toNat, ← hrest]
      exact hdata
  · refine .inr (.inr ⟨conf, numsaved, peers, peer, nickLen, rest, hcount, ?_, hnick, hwraps⟩)
    rw [← hrest]
    exact hdata

/-! ## Adding ourselves -/

def OwnNumberFree (selfPublicKey : PublicKey) (number : UInt16) (peers : List GroupPeer) : Prop :=
  ∀ peer, peers.find? (·.peerNumber == number) = some peer → peer.realPk = selfPublicKey

theorem ownNumberFree_map_loaded {number : UInt16} {peers : List GroupPeer} :
    OwnNumberFree selfPublicKey number (peers.map (·.loaded env)) ↔
      OwnNumberFree selfPublicKey number peers := by
  have hfind : (peers.map (·.loaded env)).find? (·.peerNumber == number) =
      (peers.find? (·.peerNumber == number)).map (·.loaded env) := by
    rw [find?_map]
    rfl
  unfold OwnNumberFree
  rw [hfind]
  constructor
  · intro h peer hpeer
    exact h (peer.loaded env) (by rw [hpeer, Option.map_some])
  · intro h peer hpeer
    obtain ⟨old, hold, rfl⟩ := Option.map_eq_some_iff.mp hpeer
    exact h old hold

theorem addpeer_loaded (conf : Conference) (hgroup : conf.g.group = []) (realPk tempPk : PublicKey)
    (peerNumber : UInt16) :
    ((conf.addpeer env realPk tempPk peerNumber true).1.isSome ↔
      OwnNumberFree realPk peerNumber conf.g.frozen) ∧
    (conf.addpeer env realPk tempPk peerNumber true).2.g.status = conf.g.status := by
  have hlinks := conf.g.links_notePeerActive env peerNumber
  have hstatus := congrArg (·.1.1) hlinks
  unfold Conference.addpeer
  rcases conf.g.notePeerActive_cases env peerNumber with
    ⟨i, hi, -⟩ | ⟨-, hnone, heq⟩ | ⟨i, peer, g', -, hi, hpeer, heq, hgroup', -⟩
  · rw [GroupC.getPeerIndex, hgroup] at hi
    cases hi
  · rw [heq]
    simp only [if_true]
    constructor
    · refine iff_of_true rfl fun peer hfind => ?_
      have hnot := findIdx?_eq_none_iff.mp hnone peer (mem_of_find?_eq_some hfind)
      rw [find?_some hfind] at hnot
      cases hnot
    · unfold Conference.addNewPeer Conference.deleteAnyPeerWithPk Conference.deleteActivePeerWithPk
      have hin : conf.g.peerInGroup realPk = none := by
        rw [GroupC.peerInGroup, hgroup]
        rfl
      simp only [hin]
      split
      · exact congrArg (·.1.1) (GroupC.links_addToClosest _ _ _)
      · refine (congrArg (·.1.1) (GroupC.links_addToClosest _ _ _)).trans ?_
        exact congrArg (·.1.1) (GroupC.links_deleteFrozen _ _)
  · rw [heq] at hstatus
    rw [if_pos rfl, heq]
    have hget : g'.group[conf.g.group.length]? =
        some { peer with tempPkUpdated := false, lastActive := env.now } := by
      rw [hgroup', getElem?_concat_length]
    have hfind : conf.g.frozen.find? (·.peerNumber == peerNumber) = some peer := by
      obtain ⟨hlt, hp, hbefore⟩ := findIdx?_eq_some_iff_getElem.mp hi
      rw [find?_eq_some_iff_getElem]
      obtain ⟨-, rfl⟩ := List.getElem?_eq_some_iff.mp hpeer
      exact ⟨hp, i, hlt, rfl, fun j hj => by simpa using hbefore j hj⟩
    have hfree : OwnNumberFree realPk peerNumber conf.g.frozen ↔ peer.realPk = realPk := by
      constructor
      · exact fun h => h peer hfind
      · intro h found hfound
        rw [hfind] at hfound
        cases hfound
        exact h
    simp only [hget, hfree]
    unfold Conference.updatePeer
    by_cases hkey : peer.realPk = realPk
    · rw [if_neg (not_not_intro hkey)]
      exact ⟨iff_of_true rfl hkey, hstatus⟩
    · rw [if_pos hkey]
      exact ⟨iff_of_false (by simp) hkey, hstatus⟩

/-! ## The list of conferences -/

namespace GroupChats

def room (gC : GroupChats) : Nat :=
  gC.chats.countP (·.status == .none) + (2 ^ 16 - 1 - gC.chats.length)

variable {gC gC' : GroupChats}

theorem createGroupChat_error {fault : Fault} (hlength : gC.chats.length < 2 ^ 16)
    (h : gC.createGroupChat = .error fault) : fault = .nullPointer ∧ gC.room = 0 := by
  unfold createGroupChat at h
  split at h
  · cases h
  · rename_i hnone
    split at h
    · rename_i hzero
      cases h
      have hmod : (gC.chats.length + 1) % 2 ^ 16 = 0 := by
        have := congrArg UInt16.toNat hzero
        rwa [UInt16.toNat_ofNat'] at this
      have hcount : gC.chats.countP (·.status == .none) = 0 := by
        rw [countP_eq_zero]
        exact fun g hmem => by simpa using findIdx?_eq_none_iff.mp hnone g hmem
      refine ⟨rfl, ?_⟩
      unfold room
      omega
    · cases h

theorem createGroupChat_ok {i : Nat} (hlength : gC.chats.length < 2 ^ 16)
    (h : gC.createGroupChat = .ok (i, gC')) :
    (∃ g, gC'.chats[i]? = some g ∧ g.status = .none) ∧ gC'.room = gC.room ∧
      gC'.chats.length < 2 ^ 16 ∧ gC'.selfPublicKey = gC.selfPublicKey := by
  unfold createGroupChat at h
  split at h
  · rename_i j hj
    cases h
    obtain ⟨hlt, hstatus, -⟩ := findIdx?_eq_some_iff_getElem.mp hj
    exact ⟨⟨_, getElem?_eq_getElem hlt, by simpa using hstatus⟩, rfl, hlength, rfl⟩
  · split at h
    · cases h
    · rename_i hzero
      cases h
      have hne : gC.chats.length + 1 ≠ 2 ^ 16 := by
        intro heq
        rw [heq] at hzero
        exact hzero rfl
      refine ⟨⟨setupConference, by simp, rfl⟩, ?_, ?_, rfl⟩
      · have hcount : [setupConference].countP (·.status == .none) = 1 := rfl
        unfold room
        rw [countP_append, length_append, length_singleton]
        omega
      · rw [length_append, length_singleton]
        omega

theorem room_set {i : Nat} {g : GroupC} (hg : gC.chats[i]? = some g) (hnone : g.status = .none)
    {g' : GroupC} (hstatus : g'.status ≠ .none) (frC : FriendConnections) :
    { gC with chats := gC.chats.set i g', frC }.room + 1 = gC.room := by
  obtain ⟨hi, rfl⟩ := List.getElem?_eq_some_iff.mp hg
  have hold := (getElem_cons_eraseIdx_perm hi).countP_eq (·.status == .none)
  have hnew := (set_perm_cons_eraseIdx hi g').countP_eq (·.status == .none)
  rw [countP_cons, hnone, if_pos (by rfl)] at hold
  rw [countP_cons, if_neg (by simpa using hstatus)] at hnew
  unfold room
  rw [length_set, hnew]
  omega

theorem addSelf_loaded (gC : GroupChats) {i : Nat} {g : GroupC} (hg : gC.chats[i]? = some g)
    (hgroup : g.group = []) (hstatus : g.status = .connected) (hkey : g.realPk = gC.selfPublicKey)
    (peerNumber : UInt16) :
    ((gC.addSelf env i peerNumber).1.isSome ↔ OwnNumberFree gC.selfPublicKey peerNumber g.frozen) ∧
    ∃ g' frC, g'.status = .connected ∧
      (gC.addSelf env i peerNumber).2 = { gC with chats := gC.chats.set i g', frC } := by
  have hget : gC.getGroupC i = some g := by
    unfold getGroupC
    rw [hg, Option.filter_some, hstatus]
    rfl
  obtain ⟨hsome, hstatus'⟩ := addpeer_loaded env { g, frC := gC.frC } hgroup g.realPk gC.dhtPublicKey peerNumber
  unfold addSelf
  rw [hget]
  dsimp only
  generalize Conference.addpeer { g, frC := gC.frC } env g.realPk gC.dhtPublicKey peerNumber true =
    added at hsome hstatus' ⊢
  obtain ⟨index, conf⟩ := added
  rw [hkey] at hsome
  cases index with
  | none => exact ⟨hsome, conf.g, conf.frC, hstatus'.trans hstatus, rfl⟩
  | some index =>
    exact ⟨hsome, conf.g.setnick index gC.name, conf.frC, hstatus'.trans hstatus, rfl⟩

end GroupChats

/-! ## Nicks that wrap around -/

/-- At most `room` conferences can be loaded, and in the next one a nick ends at 2^32 or later. -/
inductive NickWraps (selfPublicKey : PublicKey) : (room : Nat) → Bytes → Prop where
  | nick {room : Nat} {conf : SavedConf} {numsaved : UInt32} {peers : List GroupPeer}
      {peer : GroupPeer} {nickLen : UInt8} {rest : Bytes} :
    peers.length < numsaved.toNat → nickLen.toNat ≤ maxNameLength →
    2 ^ 32 ≤ (conf.bytes numsaved).length + (peers.flatMap savePeer).length +
      savedPeerSizeConstant + nickLen.toNat →
    NickWraps selfPublicKey (room + 1)
      (conf.bytes numsaved ++ (peers.flatMap savePeer ++ (peer.head nickLen ++ rest)))
  | next {room : Nat} {conf : SavedConf} {peers : List GroupPeer} {rest : Bytes} :
    peers.length < 2 ^ 32 → OwnNumberFree selfPublicKey conf.peerNumber peers →
    NickWraps selfPublicKey room rest →
    NickWraps selfPublicKey (room + 1)
      (conf.bytes (UInt32.ofNat peers.length) ++ (peers.flatMap savePeer ++ rest))

theorem NickWraps.loadGroup_cases {pk : PublicKey} {room : Nat} {data : Bytes} (h : NickWraps pk room data)
    (hlength : data.length < 2 ^ 32) :
    savedConfSizeConstant ≤ data.length ∧ ∃ k, room = k + 1 ∧
      (loadGroup env pk data = .error .outOfBounds ∨
        ∃ g rest, loadGroup env pk data = .ok (some (g, rest)) ∧
          OwnNumberFree pk g.peerNumber g.frozen ∧ NickWraps pk k rest) := by
  cases h with
  | nick hpeers hnick hwraps =>
    refine ⟨?_, _, rfl, .inl ?_⟩
    · rw [length_append, SavedConf.length_bytes]
      omega
    · exact loadGroup_wraps env pk rfl hlength hpeers hnick hwraps
  | next hpeers hfree hrest =>
    have hload := loadGroup_saved env pk rfl hlength hpeers
    refine ⟨?_, _, rfl, .inr ⟨_, _, hload, ?_, hrest⟩⟩
    · rw [length_append, SavedConf.length_bytes]
      omega
    · exact (ownNumberFree_map_loaded env pk).mpr hfree

theorem loadConferencesLoop_outOfBounds (fuel : Nat) {gC : GroupChats} {data : Bytes}
    (hfuel : data.length ≤ fuel) (hlength : data.length < 2 ^ 32) (hchats : gC.chats.length < 2 ^ 16) :
    GroupChats.loadConferencesLoop env fuel gC data = .error .outOfBounds ↔
      NickWraps gC.selfPublicKey gC.room data := by
  induction fuel generalizing gC data with
  | zero =>
    refine iff_of_false (by simp [GroupChats.loadConferencesLoop]) fun hwraps => ?_
    have hsize := (hwraps.loadGroup_cases env hlength).1
    have hconst : savedConfSizeConstant = 46 := rfl
    omega
  | succ fuel ih =>
    have hconst : savedConfSizeConstant = 46 := rfl
    rw [GroupChats.loadConferencesLoop]
    by_cases hsize : data.length < savedConfSizeConstant
    · rw [if_pos hsize]
      refine iff_of_false (by simp) fun hwraps => ?_
      exact absurd hsize (Nat.not_lt_of_le (hwraps.loadGroup_cases env hlength).1)
    rw [if_neg hsize]
    cases hcreate : gC.createGroupChat with
    | error fault =>
      obtain ⟨rfl, hroom⟩ := GroupChats.createGroupChat_error hchats hcreate
      refine iff_of_false (by simp) fun hwraps => ?_
      obtain ⟨-, k, hk, -⟩ := hwraps.loadGroup_cases env hlength
      omega
    | ok created =>
      obtain ⟨i, gC1⟩ := created
      obtain ⟨⟨old, hold, hnone⟩, hroom, hchats1, hself⟩ :=
        GroupChats.createGroupChat_ok hchats hcreate
      dsimp only
      rw [hself]
      rcases loadGroup_cases env gC.selfPublicKey (Nat.le_of_not_lt hsize) hlength with
        hload | ⟨conf, peers, rest, hpeers, hdata⟩ |
        ⟨conf, numsaved, peers, peer, nickLen, rest, hpeers, hdata, hnick, hwraps⟩
      · rw [hload]
        refine iff_of_false (by simp) fun hwraps => ?_
        obtain ⟨-, k, -, herror | ⟨g, rest, hsome, -⟩⟩ := hwraps.loadGroup_cases env hlength
        · rw [hload] at herror
          cases herror
        · rw [hload] at hsome
          cases hsome
      · have hload := loadGroup_saved env gC.selfPublicKey hdata hlength hpeers
        have hrest : rest.length + savedConfSizeConstant ≤ data.length := by
          rw [hdata, length_append, SavedConf.length_bytes, length_append]
          omega
        -- the conference as it is when we are added
        generalize hg : conf.toGroupC gC.selfPublicKey (UInt32.ofNat peers.length)
          (peers.map (·.loaded env)) = g at hload
        have hstatus : g.status = .connected := by rw [← hg]; rfl
        have hgroup : g.group = [] := by rw [← hg]; rfl
        have hkey : g.realPk = gC.selfPublicKey := by rw [← hg]; rfl
        rw [hload]
        have hset : { gC1 with chats := gC1.chats.set i g }.chats[i]? = some g := by
          rw [getElem?_set_self]
          exact (List.getElem?_eq_some_iff.mp hold).1
        obtain ⟨hsome, g', frC, hstatus', hadded⟩ := GroupChats.addSelf_loaded env _ hset hgroup
          hstatus (hkey.trans hself.symm) g.peerNumber
        dsimp only at hsome hadded ⊢
        have hwraps : NickWraps gC.selfPublicKey gC.room data ↔
            OwnNumberFree gC.selfPublicKey g.peerNumber g.frozen ∧
              ∃ k, gC.room = k + 1 ∧ NickWraps gC.selfPublicKey k rest := by
          constructor
          · intro hwraps
            obtain ⟨-, k, hk, herror | ⟨g2, rest2, hload2, hfree, hrest2⟩⟩ :=
              hwraps.loadGroup_cases env hlength
            · rw [hload] at herror
              cases herror
            · rw [hload] at hload2
              cases hload2
              exact ⟨hfree, k, hk, hrest2⟩
          · rintro ⟨hfree, k, hk, hrest2⟩
            rw [hk, hdata]
            refine .next hpeers ?_ hrest2
            rw [← hg] at hfree
            exact (ownNumberFree_map_loaded env gC.selfPublicKey).mp hfree
        rw [hwraps, ← hself, ← hsome]
        generalize hresult : { gC1 with chats := gC1.chats.set i g }.addSelf env i g.peerNumber =
          result at hadded
        obtain ⟨index, gC2⟩ := result
        cases index with
        | none => simp
        | some index =>
          have hgC2 : gC2 = { gC1 with chats := gC1.chats.set i g', frC } := by
            refine Eq.trans hadded ?_
            rw [set_set]
          have hself2 : gC2.selfPublicKey = gC1.selfPublicKey := by rw [hgC2]
          have hroom2 : gC2.room + 1 = gC.room := by
            rw [hgC2, ← hroom]
            exact GroupChats.room_set hold hnone (by rw [hstatus']; decide) frC
          have hchats2 : gC2.chats.length < 2 ^ 16 := by
            rw [hgC2, length_set]
            exact hchats1
          have hih := @ih gC2 rest (by omega) (by omega) hchats2
          rw [hih, hself2]
          constructor
          · exact fun h => ⟨rfl, _, hroom2.symm, h⟩
          · rintro ⟨-, k, hk, h⟩
            obtain rfl : k = gC2.room := by omega
            exact h
      · have hload := loadGroup_wraps env gC.selfPublicKey hdata hlength hpeers hnick hwraps
        rw [hload]
        obtain ⟨k, hk⟩ : ∃ k, gC.room = k + 1 := by
          have hvalid : ({ old with status := .valid } : GroupC).status ≠ .none := nofun
          exact ⟨_, hroom.symm.trans (GroupChats.room_set hold hnone hvalid gC1.frC).symm⟩
        rw [hk, hdata]
        exact iff_of_true rfl (.nick hpeers hnick hwraps)

/-! ## Cleaning up -/

namespace GroupChats

/-- After some conferences are wiped: they are not in use, and the last one of the list is. -/
structure Wiped (n k : Nat) (gC : GroupChats) : Prop where
  length : gC.chats.length ≤ n
  none : ∀ i < k, ∀ g, gC.chats[i]? = some g → g.status = .none
  last : 0 < k → ∀ h : gC.chats ≠ [], (gC.chats.getLast h).status ≠ .none

theorem Wiped.wipeGroupChat {n k : Nat} {gC : GroupChats} (h : gC.Wiped n k) :
    (gC.wipeGroupChat k).Wiped n (k + 1) := by
  unfold GroupChats.wipeGroupChat
  by_cases hk : k ≥ gC.chats.length
  · rw [if_pos hk]
    refine ⟨h.length, fun i hi g hg => ?_, fun _ hne => ?_⟩
    · rcases Nat.lt_or_eq_of_le (Nat.le_of_lt_succ hi) with hlt | rfl
      · exact h.none i hlt g hg
      · rw [getElem?_eq_none hk] at hg
        cases hg
    · apply h.last
      have := length_pos_iff.mpr hne
      omega
  · rw [if_neg hk]
    have hprefix := rdropWhile_prefix (fun g : GroupC => g.status == .none) (gC.chats.set k emptyGroupC)
    refine ⟨?_, fun i hi g hg => ?_, fun _ hne => ?_⟩
    · have hle := hprefix.length_le
      rw [length_set] at hle
      exact hle.trans h.length
    · have hset := hprefix.getElem?_eq_some hg
      rw [getElem?_set] at hset
      split at hset
      · split at hset
        · cases hset
          rfl
        · cases hset
      · exact h.none i (by omega) g hset
    · have hlast := rdropWhile_last_not (fun g : GroupC => g.status == .none)
        (gC.chats.set k emptyGroupC) hne
      simpa using hlast

theorem chats_wipeAll (gC : GroupChats) : gC.wipeAll.chats = [] := by
  have hloop (k : Nat) : ((List.range k).foldl wipeGroupChat gC).Wiped gC.chats.length k := by
    induction k with
    | zero =>
      exact ⟨le_rfl, fun i hi => absurd hi (Nat.not_lt_zero i), fun h => absurd h (Nat.lt_irrefl 0)⟩
    | succ k ih =>
      rw [range_succ, foldl_append]
      exact ih.wipeGroupChat
  have hwiped := hloop gC.chats.length
  change gC.wipeAll.Wiped gC.chats.length gC.chats.length at hwiped
  by_contra hne
  have hpos := length_pos_iff.mpr hne
  -- the last conference is wiped, so it would be gone
  apply hwiped.last (Nat.lt_of_lt_of_le hpos hwiped.length) hne
  apply hwiped.none (gC.wipeAll.chats.length - 1)
  · have := hwiped.length
    omega
  · rw [getLast_eq_getElem]
    exact getElem?_eq_getElem _

end GroupChats

/-! ## Loading what was saved -/

def GroupC.savedLength (g : GroupC) : Nat :=
  savedConfSizeConstant + g.title.1.length +
    (g.savedPeers.map fun peer => savedPeerSizeConstant + peer.nick.1.length).sum

/-- What `save_conf` writes before the peers. -/
def GroupC.toSaved (g : GroupC) : SavedConf where
  type := g.type
  id := g.id
  messageNumber := g.messageNumber + saveOffsetMessageNumber
  lossyMessageNumber := g.lossyMessageNumber + saveOffsetLossyMessageNumber
  peerNumber := g.peerNumber
  title := g.title

theorem saveConf_eq (g : GroupC) : g.saveConf = g.toSaved.bytes (UInt32.ofNat g.savedPeers.length) ++
    g.savedPeers.flatMap savePeer := by
  unfold GroupC.saveConf SavedConf.bytes
  rw [append_assoc]
  rfl

theorem length_flatMap_savePeer (peers : List GroupPeer) : (peers.flatMap savePeer).length =
    (peers.map fun peer => savedPeerSizeConstant + peer.nick.1.length).sum := by
  rw [length_flatMap]
  simp only [length_savePeer]

theorem length_saveConf (g : GroupC) : g.saveConf.length = g.savedLength := by
  rw [saveConf_eq, length_append, SavedConf.length_bytes, length_flatMap_savePeer]
  rfl

theorem length_savedPeers_le (g : GroupC) : g.savedPeers.length ≤ g.savedLength := by
  have hsum : g.savedPeers.length ≤
      (g.savedPeers.map fun peer => savedPeerSizeConstant + peer.nick.1.length).sum := by
    generalize g.savedPeers = peers
    induction peers with
    | nil => exact Nat.le_refl 0
    | cons peer peers ih =>
      have hconst : savedPeerSizeConstant = 75 := rfl
      rw [length_cons, map_cons, sum_cons]
      omega
  unfold GroupC.savedLength
  omega

theorem savedConfSize_eq (g : GroupC) : g.savedConfSize = UInt32.ofNat g.savedLength := by
  have hloop (peers : List GroupPeer) (n : Nat) :
      peers.foldl (fun len peer => len + savedPeerSize peer) (UInt32.ofNat n) = UInt32.ofNat
        (n + (peers.map fun peer => savedPeerSizeConstant + peer.nick.1.length).sum) := by
    induction peers generalizing n with
    | nil => rfl
    | cons peer peers ih =>
      rw [foldl_cons, savedPeerSize, ← UInt32.ofNat_add, ih, map_cons, sum_cons, Nat.add_assoc]
  exact hloop g.savedPeers _

theorem conferencesSectionSize_eq (gC : GroupChats) : gC.conferencesSectionSize =
    UInt32.ofNat (gC.savedConferences.map (·.savedLength)).sum := by
  have hloop (confs : List GroupC) (n : Nat) :
      confs.foldl (fun len g => len + g.savedConfSize) (UInt32.ofNat n) =
        UInt32.ofNat (n + (confs.map (·.savedLength)).sum) := by
    induction confs generalizing n with
    | nil => rfl
    | cons g confs ih =>
      rw [foldl_cons, savedConfSize_eq, ← UInt32.ofNat_add, ih, map_cons, sum_cons, Nat.add_assoc]
  have h := hloop gC.savedConferences 0
  rwa [Nat.zero_add] at h

theorem length_flatMap_saveConf (confs : List GroupC) :
    (confs.flatMap (·.saveConf)).length = (confs.map (·.savedLength)).sum := by
  rw [length_flatMap]
  simp only [length_saveConf]

/-- What `load_conferences` has to restore of a conference. -/
structure Restored (g g' : GroupC) : Prop where
  status : g'.status = .connected
  type : g'.type = g.type
  id : g'.id = g.id
  title : g'.title = g.title
  peerNumber : g'.peerNumber = g.peerNumber
  messageNumber : g'.messageNumber = g.messageNumber + 2 ^ 16
  lossyMessageNumber : g'.lossyMessageNumber = g.lossyMessageNumber + 2 ^ 13
  frozen : g'.frozen.map (·.saved) =
    ((g.group ++ g.frozen).filter fun peer => peer.realPk != g.realPk).map (·.saved)

def GroupC.NumberFree (g : GroupC) : Prop := ∀ peer ∈ g.savedPeers, peer.peerNumber ≠ g.peerNumber

theorem numberFree_iff (g : GroupC) :
    g.NumberFree ↔ OwnNumberFree g.realPk g.peerNumber g.savedPeers := by
  constructor
  · intro h peer hfind
    exact absurd (by simpa using find?_some hfind) (h peer (mem_of_find?_eq_some hfind))
  · intro h peer hmem heq
    have hsome : (g.savedPeers.find? (·.peerNumber == g.peerNumber)).isSome :=
      find?_isSome.mpr ⟨peer, hmem, by simpa using heq⟩
    obtain ⟨first, hfirst⟩ := Option.isSome_iff_exists.mp hsome
    have hkey := (mem_filter.mp (mem_of_find?_eq_some hfirst)).2
    rw [h first hfirst, bne_self_eq_false] at hkey
    cases hkey

theorem addSelf_restored (gC : GroupChats) {i : Nat} {g : GroupC} (hg : gC.chats[i]? = some g)
    (hgroup : g.group = []) (hstatus : g.status = .connected)
    (hnumber : ∀ peer ∈ g.frozen, peer.peerNumber ≠ g.peerNumber)
    (hkeys : ∀ peer ∈ g.frozen, peer.realPk ≠ g.realPk) :
    ∃ index g' frC, gC.addSelf env i g.peerNumber = (some index, { gC with chats := gC.chats.set i g', frC }) ∧
      ∃ group, g'.base = { g with group }.base := by
  have hget : gC.getGroupC i = some g := by
    unfold GroupChats.getGroupC
    rw [hg, Option.filter_some, hstatus]
    rfl
  have hnone : g.getFrozenIndex g.peerNumber = none :=
    findIdx?_eq_none_iff.mpr fun peer hmem => by simpa using hnumber peer hmem
  have hfrozen : g.frozenInGroup g.realPk = none :=
    findIdx?_eq_none_iff.mpr fun peer hmem => by simpa using hkeys peer hmem
  have hpeer : g.getPeerIndex g.peerNumber = none := by
    rw [GroupC.getPeerIndex, hgroup]
    rfl
  have hin : g.peerInGroup g.realPk = none := by
    rw [GroupC.peerInGroup, hgroup]
    rfl
  have hactive : g.notePeerActive env g.peerNumber = (none, g) := by
    unfold GroupC.notePeerActive
    rw [hpeer, hnone]
  unfold GroupChats.addSelf
  rw [hget]
  dsimp only
  unfold Conference.addpeer
  rw [if_pos rfl]
  simp only [hactive]
  unfold Conference.addNewPeer Conference.deleteAnyPeerWithPk Conference.deleteActivePeerWithPk
  simp only [hin, hfrozen]
  refine ⟨_, _, _, rfl, ?_⟩
  have hbase := GroupC.base_addToClosest { g with group := g.group ++
    [Conference.newPeer env g.realPk gC.dhtPublicKey g.peerNumber] } g.realPk gC.dhtPublicKey
  unfold GroupC.setnick
  generalize (GroupC.addToClosest _ g.realPk gC.dhtPublicKey).2 = g' at hbase ⊢
  generalize g'.group.modify g.group.length _ = group
  exact ⟨group, congrArg (fun base : GroupC => { base with group }) hbase⟩

def GroupC.reloaded (g : GroupC) (env : GroupEnv) : GroupC :=
  g.toSaved.toGroupC g.realPk (UInt32.ofNat g.savedPeers.length) (g.savedPeers.map (·.loaded env))

theorem restored_of_base {g g' : GroupC} {group : List GroupPeer}
    (h : g'.base = { g.reloaded env with group }.base) : Restored g g' where
  status := (congrArg GroupC.status h :)
  type := (congrArg GroupC.type h :)
  id := (congrArg GroupC.id h :)
  title := (congrArg GroupC.title h :)
  peerNumber := (congrArg GroupC.peerNumber h :)
  messageNumber := (congrArg GroupC.messageNumber h :)
  lossyMessageNumber := (congrArg GroupC.lossyMessageNumber h :)
  frozen := by
    rw [show g'.frozen = g.savedPeers.map (·.loaded env) from (congrArg GroupC.frozen h :), map_map]
    rfl

theorem createGroupChat_append {gC : GroupChats} (hused : ∀ g ∈ gC.chats, g.status = .connected)
    (hlength : gC.chats.length + 1 < 2 ^ 16) :
    gC.createGroupChat =
      .ok (gC.chats.length, { gC with chats := gC.chats ++ [setupConference] }) := by
  have hnone : gC.chats.findIdx? (fun g => g.status == .none) = none :=
    findIdx?_eq_none_iff.mpr fun g hmem => by
      rw [hused g hmem]
      rfl
  unfold GroupChats.createGroupChat
  rw [hnone]
  rw [if_neg]
  intro hzero
  have hmod := congrArg UInt16.toNat hzero
  rw [UInt16.toNat_ofNat', Nat.mod_eq_of_lt hlength] at hmod
  exact absurd hmod (Nat.succ_ne_zero _)

theorem loadConferencesLoop_saveConf (fuel : Nat) {gC : GroupChats} {g : GroupC} {rest : Bytes}
    (hused : ∀ g ∈ gC.chats, g.status = .connected) (hroom : gC.chats.length + 1 < 2 ^ 16)
    (hkey : g.realPk = gC.selfPublicKey) (hlength : (g.saveConf ++ rest).length < 2 ^ 32) :
    (g.NumberFree → ∃ g' frC, Restored g g' ∧
      GroupChats.loadConferencesLoop env (fuel + 1) gC (g.saveConf ++ rest) =
        GroupChats.loadConferencesLoop env fuel { gC with chats := gC.chats ++ [g'], frC } rest) ∧
    (¬g.NumberFree → ∃ gC',
      GroupChats.loadConferencesLoop env (fuel + 1) gC (g.saveConf ++ rest) = .ok (.error, gC')) := by
  have hsize : savedConfSizeConstant ≤ (g.saveConf ++ rest).length := by
    rw [length_append, length_saveConf, GroupC.savedLength]
    omega
  have hpeers : g.savedPeers.length < 2 ^ 32 := by
    have hle := length_savedPeers_le g
    rw [length_append, length_saveConf] at hlength
    omega
  have hload : loadGroup env gC.selfPublicKey (g.saveConf ++ rest) =
      .ok (some (g.reloaded env, rest)) := by
    rw [← hkey]
    apply loadGroup_saved env g.realPk _ hlength hpeers
    rw [saveConf_eq, append_assoc]
  have hset : (gC.chats ++ [setupConference]).set gC.chats.length (g.reloaded env) =
      gC.chats ++ [g.reloaded env] := by
    rw [set_append_right _ _ le_rfl, Nat.sub_self]
    rfl
  have hget : (gC.chats ++ [g.reloaded env])[gC.chats.length]? = some (g.reloaded env) :=
    getElem?_concat_length
  rw [GroupChats.loadConferencesLoop, if_neg (Nat.not_lt_of_le hsize), createGroupChat_append hused hroom]
  dsimp only
  rw [hload]
  dsimp only
  rw [hset]
  constructor
  · intro hfree
    have hnumber : ∀ peer ∈ (g.reloaded env).frozen, peer.peerNumber ≠ g.peerNumber := by
      intro peer hmem
      obtain ⟨old, hold, rfl⟩ := mem_map.mp hmem
      exact hfree old hold
    have hkeys : ∀ peer ∈ (g.reloaded env).frozen, peer.realPk ≠ g.realPk := by
      intro peer hmem
      obtain ⟨old, hold, rfl⟩ := mem_map.mp hmem
      exact bne_iff_ne.mp (mem_filter.mp hold).2
    obtain ⟨index, g', frC, hadd, group, hbase⟩ := addSelf_restored env
      { gC with chats := gC.chats ++ [g.reloaded env] } hget rfl rfl hnumber hkeys
    refine ⟨g', frC, restored_of_base env hbase, ?_⟩
    rw [hadd]
    rw [set_append_right _ _ le_rfl, Nat.sub_self]
    rfl
  · intro htaken
    obtain ⟨hsome, -⟩ := GroupChats.addSelf_loaded env
      { gC with chats := gC.chats ++ [g.reloaded env] } hget rfl rfl hkey g.peerNumber
    have hnot : ¬OwnNumberFree gC.selfPublicKey g.peerNumber (g.reloaded env).frozen := by
      rw [numberFree_iff, hkey] at htaken
      rw [show (g.reloaded env).frozen = g.savedPeers.map (·.loaded env) from rfl, ownNumberFree_map_loaded]
      exact htaken
    rw [← hsome] at hnot
    rw [show (g.reloaded env).peerNumber = g.peerNumber from rfl]
    generalize { gC with chats := gC.chats ++ [g.reloaded env] }.addSelf env gC.chats.length
      g.peerNumber = result at hnot ⊢
    obtain ⟨index, gC'⟩ := result
    cases index with
    | none => exact ⟨gC', rfl⟩
    | some index => exact absurd rfl hnot

theorem loadConferencesLoop_saved {confs : List GroupC} {fuel : Nat} (gC : GroupChats)
    (hused : ∀ g ∈ gC.chats, g.status = .connected) (hroom : gC.chats.length + confs.length < 2 ^ 16)
    (hkey : ∀ g ∈ confs, g.realPk = gC.selfPublicKey) (hlength : (confs.flatMap (·.saveConf)).length < 2 ^ 32)
    (hfuel : (confs.flatMap (·.saveConf)).length ≤ fuel) :
    ((∀ g ∈ confs, g.NumberFree) → ∃ gC' restored,
      GroupChats.loadConferencesLoop env fuel gC (confs.flatMap (·.saveConf)) =
        .ok (.continue, gC') ∧ gC'.chats = gC.chats ++ restored ∧
      List.Forall₂ Restored confs restored) ∧
    ((∃ g ∈ confs, ¬g.NumberFree) → ∃ gC',
      GroupChats.loadConferencesLoop env fuel gC (confs.flatMap (·.saveConf)) = .ok (.error, gC')) := by
  induction confs generalizing fuel gC with
  | nil =>
    refine ⟨fun _ => ⟨gC, [], ?_, by rw [append_nil], .nil⟩, fun ⟨g, hmem, _⟩ => by cases hmem⟩
    cases fuel with
    | zero => rfl
    | succ fuel =>
      rw [GroupChats.loadConferencesLoop, if_pos]
      exact Nat.zero_lt_succ _
  | cons g confs ih =>
    rw [flatMap_cons] at hlength hfuel ⊢
    rw [length_cons] at hroom
    have hconf : savedConfSizeConstant ≤ g.saveConf.length := by
      rw [length_saveConf, GroupC.savedLength]
      omega
    have hconst : savedConfSizeConstant = 46 := rfl
    have hsplit : (g.saveConf ++ confs.flatMap (·.saveConf)).length =
      g.saveConf.length + (confs.flatMap (·.saveConf)).length := length_append
    cases fuel with
    | zero => omega
    | succ fuel =>
      obtain ⟨hfree, htaken⟩ := loadConferencesLoop_saveConf env fuel hused (by omega)
        (hkey g mem_cons_self) hlength
      by_cases hg : g.NumberFree
      · obtain ⟨g', frC, hrestored, hloop⟩ := hfree hg
        have hused' : ∀ g2 ∈ gC.chats ++ [g'], g2.status = .connected := by
          intro g2 hmem
          rcases mem_append.mp hmem with hmem | hmem
          · exact hused g2 hmem
          · obtain rfl := mem_singleton.mp hmem
            exact hrestored.status
        obtain ⟨hall, hsome⟩ := @ih fuel { gC with chats := gC.chats ++ [g'], frC }
          hused' (by dsimp only; rw [length_append, length_singleton]; omega)
          (fun g2 hmem => hkey g2 (mem_cons_of_mem _ hmem)) (by omega) (by omega)
        rw [hloop]
        constructor
        · intro h
          obtain ⟨gC', restored, heq, hchats, hforall⟩ :=
            hall fun g2 hmem => h g2 (mem_cons_of_mem _ hmem)
          exact ⟨gC', g' :: restored, heq, by rw [hchats, append_assoc]; rfl, .cons hrestored hforall⟩
        · rintro ⟨g2, hmem, hg2⟩
          rcases mem_cons.mp hmem with rfl | hmem
          · exact absurd hg hg2
          · exact hsome ⟨g2, hmem, hg2⟩
      · exact ⟨fun h => absurd (h g mem_cons_self) hg, fun _ => htaken hg⟩

/-! ## The round trip -/

namespace GroupChats

/-- `conferences_save` writes `conferences_size` bytes, and loading them restores the
    conferences. -/
structure SavesAndRestores (env : GroupEnv) (gC : GroupChats) : Prop where
  size : gC.conferencesSave.length = gC.conferencesSize.toNat
  loads : ∀ loader : GroupChats, loader.chats = [] → loader.selfPublicKey = gC.selfPublicKey →
    ∃ gC', loader.loadConferences env (gC.conferencesSave.drop sizeHead) = .ok (.continue, gC') ∧
      List.Forall₂ Restored gC.savedConferences gC'.chats

/-- `load_conferences` does not read behind the data, and leaves no conference when it fails. -/
structure LoadsSafely (env : GroupEnv) (gC : GroupChats) (data : Bytes) : Prop where
  bounds : gC.loadConferences env data ≠ .error .outOfBounds
  cleanup : ∀ gC', gC.loadConferences env data = .ok (.error, gC') → gC'.chats = []

variable {gC : GroupChats}

theorem length_conferencesSave (gC : GroupChats) : gC.conferencesSave.length =
    sizeHead + (gC.savedConferences.map (·.savedLength)).sum := by
  rw [conferencesSave, length_append, length_stateWriteSectionHeader, length_flatMap_saveConf]

theorem size_iff (gC : GroupChats) : gC.conferencesSave.length = gC.conferencesSize.toNat ↔
    sizeHead + (gC.savedConferences.map (·.savedLength)).sum < 2 ^ 32 := by
  rw [length_conferencesSave, conferencesSize, conferencesSectionSize_eq, UInt32.toNat_ofNat',
    UInt32.toNat_ofNat', sizeHead]
  omega

theorem savesAndRestores_iff (hlength : gC.chats.length < 2 ^ 16)
    (hkey : ∀ g ∈ gC.chats, g.status = .connected → g.realPk = gC.selfPublicKey) :
    SavesAndRestores env gC ↔ sizeHead + (gC.savedConferences.map (·.savedLength)).sum < 2 ^ 32 ∧
      ∀ g ∈ gC.savedConferences, g.NumberFree := by
  have hsaved : gC.savedConferences.length < 2 ^ 16 :=
    Nat.lt_of_le_of_lt (length_filter_le _ _) hlength
  have hbody : gC.conferencesSave.drop sizeHead = gC.savedConferences.flatMap (·.saveConf) :=
    drop_left' (length_stateWriteSectionHeader ..)
  have hkeys : ∀ g ∈ gC.savedConferences, g.realPk = gC.selfPublicKey := by
    intro g hmem
    obtain ⟨hmem, hstatus⟩ := mem_filter.mp hmem
    exact hkey g hmem (by simpa using hstatus)
  -- loading the conferences into an empty list
  have hload (loader : GroupChats) (hchats : loader.chats = [])
      (hself : loader.selfPublicKey = gC.selfPublicKey)
      (hsize : sizeHead + (gC.savedConferences.map (·.savedLength)).sum < 2 ^ 32) :=
    loadConferencesLoop_saved env loader
      (by rw [hchats]; exact fun g hmem => by cases hmem)
      (by rw [hchats]; simpa using hsaved)
      (by rw [hself]; exact hkeys)
      (by rw [length_flatMap_saveConf]; omega) le_rfl
  constructor
  · intro h
    have hsize := (size_iff gC).mp h.size
    refine ⟨hsize, ?_⟩
    by_contra htaken
    obtain ⟨gC', hok, -⟩ := h.loads { gC with chats := [] } rfl rfl
    obtain ⟨gC'', herror⟩ := (hload { gC with chats := [] } rfl rfl hsize).2 (by simpa using htaken)
    rw [hbody, loadConferences, loadConferencesHelper, herror] at hok
    cases hok
  · rintro ⟨hsize, hfree⟩
    refine ⟨(size_iff gC).mpr hsize, fun loader hchats hself => ?_⟩
    obtain ⟨gC', restored, hok, hall, hforall⟩ := (hload loader hchats hself hsize).1 hfree
    rw [hchats] at hall
    refine ⟨gC', ?_, by rw [hall]; exact hforall⟩
    rw [hbody, loadConferences, loadConferencesHelper, hok]

theorem loadsSafely_iff {data : Bytes} (hlength : data.length < 2 ^ 32) (hchats : gC.chats.length < 2 ^ 16) :
    LoadsSafely env gC data ↔ ¬NickWraps gC.selfPublicKey gC.room data := by
  rw [← loadConferencesLoop_outOfBounds env data.length le_rfl hlength hchats]
  constructor
  · intro h hloop
    apply h.bounds
    rw [loadConferences, loadConferencesHelper, hloop]
  · intro h
    constructor
    · intro herror
      apply h
      unfold loadConferences loadConferencesHelper at herror
      split at herror
      · rename_i fault hfault
        cases herror
        exact hfault
      · cases herror
      · cases herror
    · intro gC' herror
      unfold loadConferences at herror
      split at herror
      · cases herror
      · cases herror
      · cases herror
        exact chats_wipeAll _

end GroupChats

/-- Saving and restoring works exactly if the size does not wrap and no other peer has our number; loading is safe
    exactly if no nick ends at 2^32 or later. -/
theorem conferences_saveLoad_iff (env : GroupEnv) :
    (∀ gC : GroupChats, gC.chats.length < 2 ^ 16 →
      (∀ g ∈ gC.chats, g.status = .connected → g.realPk = gC.selfPublicKey) →
      (gC.SavesAndRestores env ↔
        sizeHead + (gC.savedConferences.map (·.savedLength)).sum < 2 ^ 32 ∧
          ∀ g ∈ gC.savedConferences, g.NumberFree)) ∧
    ∀ (gC : GroupChats) (data : Bytes), gC.chats.length < 2 ^ 16 → data.length < 2 ^ 32 →
      (gC.LoadsSafely env data ↔ ¬NickWraps gC.selfPublicKey gC.room data) :=
  ⟨fun _ hlength hkey => GroupChats.savesAndRestores_iff env hlength hkey,
    fun _ _ hchats hlength => GroupChats.loadsSafely_iff env hlength hchats⟩

instance (g : GroupC) : Decidable g.NumberFree :=
  inferInstanceAs (Decidable (∀ peer ∈ g.savedPeers, peer.peerNumber ≠ g.peerNumber))

/-- A conference with two peers is saved and restored. -/
theorem conferences_saveLoad_twoPeers :
    twoPeers.gC.SavesAndRestores quietEnv ∧ twoPeers.gC.LoadsSafely quietEnv [] := by
  obtain ⟨hsave, hload⟩ := conferences_saveLoad_iff quietEnv
  refine ⟨(hsave twoPeers.gC (by decide +kernel) (by decide +kernel)).mpr
    ⟨by decide +kernel, by decide +kernel⟩, (hload twoPeers.gC [] (by decide +kernel) ?_).mpr ?_⟩
  · decide
  · intro hwraps
    have hsize := (hwraps.loadGroup_cases quietEnv (by decide)).1
    exact absurd hsize (by decide)

/-- The beginning of a save file with one conference, which ends before a nick of 100 bytes. -/
def wrapData : Bytes :=
  emptyGroupC.toSaved.bytes 57266229 ++ ((List.replicate 57266228 emptyGroupPeer).flatMap savePeer ++
    (emptyGroupPeer.head 100 ++ []))

theorem length_emptyPeers (n : Nat) : ((List.replicate n emptyGroupPeer).flatMap savePeer).length = n * 75 := by
  rw [length_flatMap_savePeer, map_replicate, sum_replicate_nat]
  rfl

def renumbered : GroupState := emptyGroupState.run quietEnv
  [.addGroupchat 0 (Vector.replicate _ 7),
    .conference 0 (.addpeer (Vector.replicate _ 1) (Vector.replicate _ 4) 1 true),
    .conference 0 (.addpeer (Vector.replicate _ 2) (Vector.replicate _ 3) 0 true)]

/-- Data just below 2^32 bytes is read behind its end, and a conference with distinct numbers
    is not restored. -/
theorem not_saveLoad_wrapData :
    (wrapData.length < 2 ^ 32 ∧ ¬emptyGroupState.gC.LoadsSafely quietEnv wrapData) ∧
    (∀ g ∈ renumbered.gC.chats, ((g.group ++ g.frozen).map (·.peerNumber)).Nodup) ∧
      ¬renumbered.gC.SavesAndRestores quietEnv := by
  have hbytes : (emptyGroupC.toSaved.bytes 57266229).length = 46 := rfl
  have hhead : (emptyGroupPeer.head 100).length = 75 := rfl
  have hlength : wrapData.length < 2 ^ 32 := by
    unfold wrapData
    rw [length_append, length_append, length_emptyPeers]
    decide
  refine ⟨⟨hlength, ?_⟩, by decide +kernel, ?_⟩
  · rw [GroupChats.loadsSafely_iff quietEnv hlength (by decide), not_not]
    refine .nick ?_ (by decide) ?_
    · rw [length_replicate]
      decide
    · rw [length_emptyPeers]
      decide
  · rw [GroupChats.savesAndRestores_iff quietEnv (by decide +kernel) (by decide +kernel)]
    decide +kernel

end Toxcore

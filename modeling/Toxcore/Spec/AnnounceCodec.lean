import Toxcore.Native.AnnounceReads
import Toxcore.Spec.GroupAnnounceCorrect

/-!
# The codec of announces

Valid announces fit the buffer that `gca_pack_announces_list_size` asks for, and are unpacked again with only the
unused bytes of their addresses changed.  Whatever bytes are unpacked, the reads stay inside them and the writes
inside the arrays.
-/

namespace Toxcore

open List

open GCAnnounce

variable {data : Bytes}

/-! ## Reads -/

theorem readAnnounceIpPort_eq {offset length : Nat} (ipPortIsSet : Bool) (hlength : offset + length = data.length) :
    readAnnounceIpPort data offset length ipPortIsSet =
      some ((gcaUnpackIpPort ipPortIsSet (data.drop offset)).map fun result =>
        (result.1, length - result.2.length)) := by
  have hdrop : (data.drop offset).length = length := by
    rw [length_drop]
    omega
  unfold readAnnounceIpPort gcaUnpackIpPort
  cases ipPortIsSet with
  | false => simp [hdrop]
  | true =>
    simp only [hdrop, Bool.not_true, Bool.false_eq_true, if_false]
    by_cases hzero : length = 0
    · simp only [hzero, if_pos, Option.map_none]
    · rw [if_neg hzero, if_neg hzero, readIpPort_eq false (Nat.pos_of_ne_zero hzero) hlength]
      cases unpackIpPort (data.drop offset) false <;> rfl

theorem suffix_of_gcaUnpackIpPort {ipPortIsSet : Bool} {rest : Bytes} {ipPort : Option IPPort}
    (h : gcaUnpackIpPort ipPortIsSet data = some (ipPort, rest)) : rest <:+ data := by
  unfold gcaUnpackIpPort at h
  split_ifs at h
  · obtain ⟨⟨address, bytes⟩, hunpack, hpair⟩ := Option.map_eq_some_iff.mp h
    cases hpair
    obtain ⟨-, hwire⟩ := eq_wire_of_unpackIpPort hunpack
    exact ⟨address.wire, hwire.symm⟩
  · cases h
    exact suffix_refl data

theorem suffix_of_gcaUnpackAnnounce {announce : GCAnnounce} {rest : Bytes}
    (h : gcaUnpackAnnounce data = some (announce, rest)) : rest <:+ data := by
  unfold gcaUnpackAnnounce at h
  dsimp only at h
  split_ifs at h
  split at h
  · cases h
  · rename_i hipPort
    split at h
    · cases h
    · split_ifs at h
      cases h
      have hrest := (suffix_of_gcaUnpackIpPort hipPort).trans (drop_suffix _ data)
      exact (drop_suffix _ _).trans hrest

section

variable (hmax : data.length < 65536)
include hmax

/-- Reading an announce stays inside the buffer, and reads as much as is unpacked. -/
theorem readAnnounce_eq :
    readAnnounce data data.length =
      some ((gcaUnpackAnnounce data).map fun result => (result.1, data.length - result.2.length)) := by
  unfold readAnnounce gcaUnpackAnnounce
  by_cases hshort : data.length < cryptoPublicKeySize + 2
  · rw [if_pos hshort, if_pos hshort]
    rfl
  · have hread : readBytes data 0 cryptoPublicKeySize = some (data.take cryptoPublicKeySize) :=
      readBytes_of_le (by omega)
    have hflag : data[cryptoPublicKeySize]? = some (data.getD cryptoPublicKeySize 0) := by
      simp [getD_eq_getElem?_getD, getElem?_eq_getElem (by omega : cryptoPublicKeySize < data.length)]
    have hcount : data[cryptoPublicKeySize + 1]? = some (data.getD (cryptoPublicKeySize + 1) 0) := by
      simp [getD_eq_getElem?_getD, getElem?_eq_getElem (by omega : cryptoPublicKeySize + 1 < data.length)]
    rw [if_neg hshort, if_neg hshort, hread, hflag, hcount]
    dsimp only
    rw [readAnnounceIpPort_eq _ (by omega)]
    split_ifs with hmany
    · rfl
    · cases hipPort : gcaUnpackIpPort (data.getD cryptoPublicKeySize 0 != 0) (data.drop (cryptoPublicKeySize + 2)) with
      | none => rfl
      | some result =>
        obtain ⟨ipPort, rest⟩ := result
        have hsuffix := suffix_of_gcaUnpackIpPort hipPort
        have hrest := suffix_iff_eq_drop.mp hsuffix
        have hle := hsuffix.length_le
        rw [length_drop, drop_drop] at hrest
        rw [length_drop] at hle
        have hlength : data.length - (cryptoPublicKeySize + 2 + (data.length - (cryptoPublicKeySize + 2) - rest.length)) =
            rest.length := by omega
        simp only [Option.map_some, hlength, ← hrest]
        rw [readNodes_eq true (by rw [UInt16.toNat_ofNat_of_lt' (Nat.lt_of_le_of_lt (by omega) hmax)])]
        cases hnodes : unpackNodes (UInt16.ofNat (data.getD (cryptoPublicKeySize + 1) 0).toNat) rest
            (UInt16.ofNat rest.length) true with
        | none => rfl
        | some result =>
          dsimp only
          split_ifs
          · rfl
          · have hused := (packNodes_of_unpackNodes
              (Nat.le_of_eq (UInt16.toNat_ofNat_of_lt' (Nat.lt_of_le_of_lt (by omega) hmax))) hnodes).1
            rw [UInt16.le_iff_toNat_le, UInt16.toNat_ofNat_of_lt' (Nat.lt_of_le_of_lt (by omega) hmax)] at hused
            simp only [Option.map_some, bytesToVector_take, length_drop]
            congr 3
            omega

theorem readPublicAnnounce_eq :
    readPublicAnnounce data data.length =
      some (if data.length < cryptoPublicKeySize then none
        else (gcaUnpackAnnounce (data.drop cryptoPublicKeySize)).map fun result =>
          ({ baseAnnounce := result.1, chatPublicKey := bytesToVector _ data }, data.length - result.2.length)) := by
  unfold readPublicAnnounce
  by_cases hshort : data.length < cryptoPublicKeySize
  · rw [if_pos hshort, if_pos hshort]
  · have hdrop : (data.drop cryptoPublicKeySize).length = data.length - cryptoPublicKeySize := length_drop
    rw [if_neg hshort, if_neg hshort, readBytes_of_le (by omega), ← hdrop, readAnnounce_eq (by omega)]
    cases hannounce : gcaUnpackAnnounce (data.drop cryptoPublicKeySize) with
    | none => rfl
    | some result =>
      have hle := (suffix_of_gcaUnpackAnnounce hannounce).length_le
      simp only [Option.map_some, drop_zero, bytesToVector_take]
      congr 3
      omega

theorem readAnnouncesLoop_eq {capacity rest i offset : Nat}
    (hcapacity : i + rest ≤ capacity) (hoffset : offset ≤ data.length) :
    readAnnouncesLoop data data.length capacity rest i offset =
      some (gcaUnpackAnnouncesList rest (data.drop offset)) := by
  induction rest generalizing i offset with
  | zero => rfl
  | succ rest ih =>
    have hdrop : (data.drop offset).length = data.length - offset := length_drop
    rw [readAnnouncesLoop, gcaUnpackAnnouncesList]
    by_cases hend : data.length > offset
    · rw [if_neg (not_not_intro hend), if_neg (by omega), if_neg (by omega), ← hdrop, readAnnounce_eq (by omega)]
      cases hannounce : gcaUnpackAnnounce (data.drop offset) with
      | none => rfl
      | some result =>
        have hsuffix := suffix_of_gcaUnpackAnnounce hannounce
        have hrest := suffix_iff_eq_drop.mp hsuffix
        rw [drop_drop] at hrest
        simp only [Option.map_some]
        rw [ih (by omega) (by omega), ← hrest]
        cases gcaUnpackAnnouncesList rest result.2 <;> rfl
    · rw [if_pos hend, if_pos (by omega)]

end

/-! ## The codec -/

theorem few_of_gcaUnpackAnnouncesList {announces : List GCAnnounce} {maxCount : Nat}
    (h : gcaUnpackAnnouncesList maxCount data = some announces) :
    announces.length ≤ maxCount ∧ ∀ announce ∈ announces, announce.tcpRelays.length ≤ 1 := by
  induction maxCount generalizing data announces with
  | zero =>
    cases h
    simp
  | succ maxCount ih =>
    unfold gcaUnpackAnnouncesList at h
    split_ifs at h
    · cases h
      simp
    · split at h
      · cases h
      · rename_i announce rest hannounce
        split at h
        · cases h
        · rename_i announces' hrest
          cases h
          obtain ⟨hlength, hfew⟩ := ih hrest
          have hone := (wellFormed_of_gcaUnpackAnnounce hannounce).count
          constructor
          · simpa using hlength
          · intro announce' hmem
            rcases mem_cons.mp hmem with rfl | hmem
            · exact hone
            · exact hfew announce' hmem

/-- The announces fit their buffer, and are unpacked again. -/
def AnnouncesRoundTrip (announces : List GCAnnounce) : Prop :=
  let size := (gcaPackAnnouncesListSize (UInt16.ofNat announces.length)).toNat
  ∃ processed, gcaPackAnnouncesList size announces = some processed ∧ processed.length ≤ size ∧
    ∀ maxCount, announces.length ≤ maxCount →
      readAnnouncesList processed processed.length maxCount = some (some (announces.map received))

/-- The announce fits a buffer of this length, and is unpacked again. -/
def GCPublicAnnounce.RoundTrips (publicAnnounce : GCPublicAnnounce) (length : Nat) : Prop :=
  ∃ processed, gcaPackPublicAnnounce length publicAnnounce = some processed ∧ processed.length ≤ length ∧
    readPublicAnnounce processed processed.length =
      some (some ({ publicAnnounce with baseAnnounce := publicAnnounce.baseAnnounce.received }, processed.length))

theorem announcesRoundTrip {announces : List GCAnnounce} (hcount : announces.length ≤ 255)
    (h : ∀ announce ∈ announces, announce.WellFormed ∧ gcaIsValidAnnounce announce) : AnnouncesRoundTrip announces := by
  have hformed := fun announce hmem => (h announce hmem).1
  have hsize : (gcaPackAnnouncesListSize (UInt16.ofNat announces.length)).toNat = 136 * announces.length := by
    have hmax : gcaAnnounceMaxSize = 136 := rfl
    unfold gcaPackAnnouncesListSize
    rw [UInt16.toNat_mul, UInt16.toNat_ofNat', UInt16.toNat_ofNat', hmax]
    omega
  have hlength : (announces.flatMap packed).length ≤ 104 * announces.length := by
    clear h hsize hcount
    induction announces with
    | nil => exact le_rfl
    | cons announce announces ih =>
      have hfirst := (hformed announce mem_cons_self).length_packed_le
      have hrest := ih fun a ha => hformed a (mem_cons_of_mem _ ha)
      rw [flatMap_cons, length_append, length_cons]
      omega
  refine ⟨announces.flatMap packed, ?_, by omega, fun maxCount hroom => ?_⟩
  · rw [gcaPackAnnouncesList_eq hformed (Nat.le_of_eq hsize.symm) (by omega), if_pos]
    exact all_eq_true.mpr fun announce hmem => (h announce hmem).2
  · rw [readAnnouncesList, readAnnouncesLoop_eq (by omega) (by omega) (Nat.zero_le _), drop_zero,
      gcaUnpackAnnouncesList_flatMap hformed hroom (by omega)]

theorem GCPublicAnnounce.roundTrips {publicAnnounce : GCPublicAnnounce} {length : Nat}
    (h : publicAnnounce.baseAnnounce.WellFormed) (hvalid : gcaIsValidAnnounce publicAnnounce.baseAnnounce)
    (hroom : gcaPublicAnnounceMaxSize ≤ length) (hmax : length < 65536) : publicAnnounce.RoundTrips length := by
  have hkey : cryptoPublicKeySize = 32 := rfl
  have hsize : gcaPublicAnnounceMaxSize = 168 := rfl
  have hbase : gcaAnnounceMaxSize = 136 := rfl
  have hpacked := h.length_packed_le
  have hlength : (publicAnnounce.chatPublicKey.toList ++ publicAnnounce.baseAnnounce.packed).length =
      cryptoPublicKeySize + publicAnnounce.baseAnnounce.packed.length := by simp
  refine ⟨publicAnnounce.chatPublicKey.toList ++ publicAnnounce.baseAnnounce.packed, ?_, by omega, ?_⟩
  · rw [gcaPackPublicAnnounce, if_neg (by omega), gcaPackAnnounce_eq h (by omega) (by omega), if_pos hvalid]
    rfl
  · have hunpack := gcaUnpackAnnounce_packed_append h (by decide : ([] : Bytes).length < 2 ^ 15)
    rw [append_nil] at hunpack
    rw [readPublicAnnounce_eq (by omega), if_neg (by omega), drop_left' (by simp), hunpack,
      bytesToVector_toList_append]
    rfl

/-- Valid announces can be unpacked as they were packed, and what is unpacked stays inside the buffer and the arrays. -/
theorem announceCodec :
    (∀ announces : List GCAnnounce, announces.length ≤ 255 →
      (∀ announce ∈ announces, announce.WellFormed ∧ gcaIsValidAnnounce announce) → AnnouncesRoundTrip announces) ∧
    (∀ (publicAnnounce : GCPublicAnnounce) (length : Nat), publicAnnounce.baseAnnounce.WellFormed →
      gcaIsValidAnnounce publicAnnounce.baseAnnounce → gcaPublicAnnounceMaxSize ≤ length → length < 65536 →
      publicAnnounce.RoundTrips length) ∧
    (∀ ipPort : IPPort, ipPort.isPackable → ipEqual ipPort ipPort.received = true ∧
      ipPort.received.port = ipPort.port) ∧
    (∀ (data : Bytes) (maxCount : Nat), data.length < 65536 →
      ∃ result, readAnnouncesList data data.length maxCount = some result ∧
        ∀ announces ∈ result, announces.length ≤ maxCount ∧
          ∀ announce ∈ announces, announce.tcpRelays.length ≤ gcaMaxAnnouncedTcpRelays.toNat) ∧
    (∀ data : Bytes, data.length < 65536 →
      ∃ result, readPublicAnnounce data data.length = some result ∧
        ∀ publicAnnounce ∈ result,
          publicAnnounce.1.baseAnnounce.tcpRelays.length ≤ gcaMaxAnnouncedTcpRelays.toNat) := by
  refine ⟨?_, ?_, ?_, ?_, ?_⟩
  · exact fun announces hcount h => announcesRoundTrip hcount h
  · exact fun publicAnnounce length h hvalid hroom hmax => GCPublicAnnounce.roundTrips h hvalid hroom hmax
  · exact fun ipPort hpackable => ⟨ipEqual_received hpackable, rfl⟩
  · intro data maxCount hmax
    have hread := readAnnouncesLoop_eq hmax (Nat.le_of_eq (Nat.zero_add maxCount)) (Nat.zero_le data.length)
    exact ⟨_, hread, fun announces hresult => few_of_gcaUnpackAnnouncesList hresult⟩
  · intro data hmax
    refine ⟨_, readPublicAnnounce_eq hmax, fun publicAnnounce hresult => ?_⟩
    split_ifs at hresult
    · cases hresult
    · obtain ⟨⟨announce, rest⟩, hannounce, rfl⟩ := Option.map_eq_some_iff.mp hresult
      exact (wellFormed_of_gcaUnpackAnnounce hannounce).count

end Toxcore

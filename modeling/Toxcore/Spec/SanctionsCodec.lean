import Toxcore.Native.SanctionReads
import Toxcore.Spec.NgcModList
import Toxcore.Spec.NodeListCodec

/-!
# The codec of sanctions lists

What `sanctions_list_pack` writes is unpacked again, and `sanctions_list_unpack` stays inside its buffer and its
array for every input.  It takes data without credentials, and its callers use the credentials then too.
-/

namespace Toxcore

open List

/-! ## Packed entries -/

def ModSanction.wire (sanction : ModSanction) : Bytes := sanction.body ++ sanction.signature.toList

@[simp] theorem ModSanction.length_wire (sanction : ModSanction) : sanction.wire.length = modSanctionPackedSize := by
  rw [wire, length_append, length_body, Vector.length_toList]
  rfl

theorem length_flatMap_wire (sanctions : List ModSanction) :
    (sanctions.flatMap ModSanction.wire).length = sanctions.length * modSanctionPackedSize := by
  induction sanctions with
  | nil => simp
  | cons sanction sanctions ih =>
    rw [flatMap_cons, length_append, sanction.length_wire, length_cons, Nat.succ_mul]
    omega

theorem eq_wire_of_packLoop {length : Nat} {sanctions : List ModSanction} {data : Bytes}
    (h : sanctionsListPackLoop length sanctions = some data) :
    data = sanctions.flatMap ModSanction.wire ∧ ∀ sanction ∈ sanctions, sanction.type = saObserver := by
  induction sanctions generalizing length data with
  | nil =>
    cases h
    exact ⟨rfl, fun _ hmem => by simp at hmem⟩
  | cons sanction sanctions ih =>
    rw [sanctionsListPackLoop] at h
    split at h
    · simp at h
    split at h
    · simp at h
    rename_i htype
    split at h
    · simp at h
    split at h
    · simp at h
    split at h
    · simp at h
    rename_i more hmore
    cases h
    obtain ⟨hmore, htypes⟩ := ih hmore
    refine ⟨by rw [hmore, flatMap_cons, ModSanction.wire], fun other hmem => ?_⟩
    cases mem_cons.mp hmem with
    | inl heq =>
      rw [heq]
      exact not_not.mp htype
    | inr hmem => exact htypes other hmem

theorem packLoop_of_room {sanctions : List ModSanction} {room : Nat}
    (htypes : ∀ sanction ∈ sanctions, sanction.type = saObserver)
    (hroom : sanctions.length * modSanctionPackedSize ≤ room) :
    sanctionsListPackLoop room sanctions = some (sanctions.flatMap ModSanction.wire) := by
  have hsize : modSanctionPackedSize = 137 := rfl
  have hpublic : 1 + sigPublicKeySize + timeStampSize + cryptoPublicKeySize = 73 := rfl
  induction sanctions generalizing room with
  | nil => rfl
  | cons sanction sanctions ih =>
    rw [length_cons, Nat.succ_mul] at hroom
    have htype := htypes sanction mem_cons_self
    rw [sanctionsListPackLoop, if_neg (by omega), if_neg (not_not.mpr htype), if_neg (by omega), if_neg (by omega),
      @ih (room - modSanctionPackedSize) (fun other hmem => htypes other (mem_cons_of_mem _ hmem)) (by omega)]
    rfl

theorem modSanctionUnpack_wire_append (sanction : ModSanction) (rest : Bytes) :
    modSanctionUnpack (sanction.wire ++ rest) = sanction := by
  have hbytes : sanction.wire ++ rest = sanction.type :: (sanction.setterPublicSigKey.toList ++
      (netPackU64 sanction.timeSet ++ (sanction.targetPublicEncKey.toList ++
        (sanction.signature.toList ++ rest)))) := by
    simp [ModSanction.wire, ModSanction.body]
  have hsetter : sanction.setterPublicSigKey.toList.length = 32 := Vector.length_toList
  have htime : (netPackU64 sanction.timeSet).length = 8 := length_netPackU64 _
  have htarget : sanction.targetPublicEncKey.toList.length = 32 := Vector.length_toList
  rw [hbytes, modSanctionUnpack]
  rw [drop_succ_cons, drop_zero]
  have hdrop33 : (sanction.type :: (sanction.setterPublicSigKey.toList ++
      (netPackU64 sanction.timeSet ++ (sanction.targetPublicEncKey.toList ++
        (sanction.signature.toList ++ rest))))).drop 33 =
      netPackU64 sanction.timeSet ++ (sanction.targetPublicEncKey.toList ++ (sanction.signature.toList ++ rest)) := by
    rw [drop_succ_cons, drop_left' hsetter]
  have hdrop41 : (sanction.type :: (sanction.setterPublicSigKey.toList ++
      (netPackU64 sanction.timeSet ++ (sanction.targetPublicEncKey.toList ++
        (sanction.signature.toList ++ rest))))).drop 41 =
      sanction.targetPublicEncKey.toList ++ (sanction.signature.toList ++ rest) := by
    rw [show 41 = 33 + 8 from rfl, ← drop_drop, hdrop33, drop_left' htime]
  have hdrop73 : (sanction.type :: (sanction.setterPublicSigKey.toList ++
      (netPackU64 sanction.timeSet ++ (sanction.targetPublicEncKey.toList ++
        (sanction.signature.toList ++ rest))))).drop 73 = sanction.signature.toList ++ rest := by
    rw [show 73 = 41 + 32 from rfl, ← drop_drop, hdrop41, drop_left' htarget]
  rw [hdrop33, hdrop41, hdrop73, bytesToVector_toList_append, bytesToVector_toList_append,
    bytesToVector_toList_append, netUnpackU64_netPackU64_append]
  rfl

theorem getD_wire_append (sanction : ModSanction) (rest : Bytes) :
    (sanction.wire ++ rest).getD 0 0 = sanction.type := rfl

theorem sanctionsListUnpackLoop_wire {sanctions : List ModSanction}
    (htypes : ∀ sanction ∈ sanctions, sanction.type = saObserver) (rest : Bytes) :
    sanctionsListUnpackLoop sanctions.length (sanctions.flatMap ModSanction.wire ++ rest) =
      some (sanctions, rest) := by
  induction sanctions with
  | nil => rfl
  | cons sanction sanctions ih =>
    have htype := htypes sanction mem_cons_self
    have hlength : (sanction.wire ++ (sanctions.flatMap ModSanction.wire ++ rest)).length =
        modSanctionPackedSize + (sanctions.flatMap ModSanction.wire ++ rest).length := by
      rw [length_append, sanction.length_wire]
    have hdrop : (sanction.wire ++ (sanctions.flatMap ModSanction.wire ++ rest)).drop modSanctionPackedSize =
        sanctions.flatMap ModSanction.wire ++ rest := drop_left' sanction.length_wire
    have hsize : modSanctionPackedSize = 137 := rfl
    have hpublic : 1 + sigPublicKeySize + timeStampSize + cryptoPublicKeySize = 73 := rfl
    rw [length_cons, flatMap_cons, append_assoc, sanctionsListUnpackLoop, hlength, hdrop,
      getD_wire_append, modSanctionUnpack_wire_append, ih fun other hmem => htypes other (mem_cons_of_mem _ hmem)]
    rw [if_neg (by omega), if_neg (by omega), if_neg (not_not.mpr htype), if_neg (by omega), if_neg (by omega)]

theorem sanctionsCredsUnpack_pack (creds : ModSanctionCreds) (rest : Bytes) :
    sanctionsCredsUnpack (sanctionsCredsPack creds ++ rest) = creds := by
  have hbytes : sanctionsCredsPack creds ++ rest = netPackU32 creds.version ++ (creds.hash.toList ++
      (netPackU16 creds.checksum ++ (creds.sigPk.toList ++ (creds.sig.toList ++ rest)))) := by
    simp [sanctionsCredsPack]
  have hversion : (netPackU32 creds.version).length = 4 := rfl
  have hhash : creds.hash.toList.length = 32 := Vector.length_toList
  have hchecksum : (netPackU16 creds.checksum).length = 2 := rfl
  have hsigPk : creds.sigPk.toList.length = 32 := Vector.length_toList
  have hdrop4 : (sanctionsCredsPack creds ++ rest).drop 4 = creds.hash.toList ++
      (netPackU16 creds.checksum ++ (creds.sigPk.toList ++ (creds.sig.toList ++ rest))) := by
    rw [hbytes, drop_left' hversion]
  have hdrop36 : (sanctionsCredsPack creds ++ rest).drop 36 =
      netPackU16 creds.checksum ++ (creds.sigPk.toList ++ (creds.sig.toList ++ rest)) := by
    rw [show 36 = 4 + 32 from rfl, ← drop_drop, hdrop4, drop_left' hhash]
  have hdrop38 : (sanctionsCredsPack creds ++ rest).drop 38 = creds.sigPk.toList ++ (creds.sig.toList ++ rest) := by
    rw [show 38 = 36 + 2 from rfl, ← drop_drop, hdrop36, drop_left' hchecksum]
  have hdrop70 : (sanctionsCredsPack creds ++ rest).drop 70 = creds.sig.toList ++ rest := by
    rw [show 70 = 38 + 32 from rfl, ← drop_drop, hdrop38, drop_left' hsigPk]
  rw [sanctionsCredsUnpack, hdrop4, hdrop36, hdrop38, hdrop70, hbytes, netUnpackU32_netPackU32_append,
    netUnpackU16_netPackU16_append, bytesToVector_toList_append, bytesToVector_toList_append,
    bytesToVector_toList_append]

theorem length_sanctionsCredsPack (creds : ModSanctionCreds) :
    (sanctionsCredsPack creds).length = modSanctionsCredsSize := by
  simp only [sanctionsCredsPack, length_append, Vector.length_toList]
  rfl

/-! ## Reading at offsets -/

theorem netUnpackU64_take (data : Bytes) : netUnpackU64 (data.take 8) = netUnpackU64 data := by
  rw [netUnpackU64, netUnpackU64, take_take, Nat.min_self]

theorem netUnpackU32_take (data : Bytes) : netUnpackU32 (data.take 4) = netUnpackU32 data := by
  rw [netUnpackU32, netUnpackU32, take_take, Nat.min_self]

theorem netUnpackU16_take (data : Bytes) : netUnpackU16 (data.take 2) = netUnpackU16 data := by
  rw [netUnpackU16, netUnpackU16, take_take, Nat.min_self]

theorem toNat_offset_add {offset n : UInt16} (length : UInt16) (h : offset.toNat + n.toNat ≤ length.toNat) :
    (offset + n).toNat = offset.toNat + n.toNat := by
  have hlt := length.toNat_lt
  rw [UInt16.toNat_add]
  omega

theorem readSanction_eq {data : Bytes} {length lenProcessed : UInt16} (hlength : data.length = length.toNat) :
    readSanction data length lenProcessed = some (
      if 1 + sigPublicKeySize + timeStampSize > (data.drop lenProcessed.toNat).length then none
      else if (data.drop lenProcessed.toNat).getD 0 0 ≠ saObserver then none
      else if 1 + sigPublicKeySize + timeStampSize + cryptoPublicKeySize > (data.drop lenProcessed.toNat).length then
        none
      else if modSanctionPackedSize > (data.drop lenProcessed.toNat).length then none
      else some (modSanctionUnpack (data.drop lenProcessed.toNat), lenProcessed + 137)) := by
  have hdrop : (data.drop lenProcessed.toNat).length = length.toNat - lenProcessed.toNat := by
    rw [length_drop, hlength]
  have hsize : modSanctionPackedSize = 137 := rfl
  have hkey : sigPublicKeySize = 32 := rfl
  have hstamp : timeStampSize = 8 := rfl
  have hpublic : cryptoPublicKeySize = 32 := rfl
  have hsignature : signatureSize = 64 := rfl
  rw [readSanction]
  by_cases h41 : lenProcessed.toNat + 41 ≤ length.toNat
  · have hone : (1 : UInt16).toNat = 1 := rfl
    have h32 : (32 : UInt16).toNat = 32 := rfl
    have h8 : (8 : UInt16).toNat = 8 := rfl
    have hadd1 : (lenProcessed + 1).toNat = lenProcessed.toNat + 1 :=
      toNat_offset_add length (by omega)
    have hadd33 : (lenProcessed + 1 + 32).toNat = lenProcessed.toNat + 33 := by
      rw [toNat_offset_add length (by omega)]
      omega
    have hadd41 : (lenProcessed + 1 + 32 + 8).toNat = lenProcessed.toNat + 41 := by
      rw [toNat_offset_add length (by omega)]
      omega
    have htype : ((data.drop lenProcessed.toNat).take 1).getD 0 0 = (data.drop lenProcessed.toNat).getD 0 0 := by
      simp [getD_eq_getElem?_getD]
    rw [if_neg (by omega), readBytes_of_le (by omega), hadd1, readBytes_of_le (by omega), hadd33,
      readBytes_of_le (by omega), if_neg (by omega)]
    dsimp only
    rw [htype, hadd41]
    by_cases hobserver : (data.drop lenProcessed.toNat).getD 0 0 = saObserver
    · rw [if_neg (not_not.mpr hobserver), if_neg (not_not.mpr hobserver)]
      by_cases h73 : lenProcessed.toNat + 73 ≤ length.toNat
      · have hadd73 : (lenProcessed + 1 + 32 + 8 + 32).toNat = lenProcessed.toNat + 73 := by
          rw [toNat_offset_add length (by omega)]
          omega
        rw [if_neg (by omega), readBytes_of_le (by omega), if_neg (by omega)]
        dsimp only
        rw [hadd73]
        by_cases h137 : lenProcessed.toNat + 137 ≤ length.toNat
        · have hsum : lenProcessed + 1 + 32 + 8 + 32 + 64 = lenProcessed + 137 := by
            simp only [UInt16.add_assoc]
            rfl
          rw [if_neg (by omega), readBytes_of_le (by omega), if_neg (by omega)]
          dsimp only
          rw [hsum, bytesToVector_take, bytesToVector_take, bytesToVector_take, hstamp, netUnpackU64_take, modSanctionUnpack,
            drop_drop, drop_drop, drop_drop, drop_drop]
        · rw [if_pos (by omega), if_pos (by omega)]
      · rw [if_pos (by omega), if_pos (by omega)]
    · rw [if_pos hobserver, if_pos hobserver]
  · rw [if_pos (by omega), if_pos (by omega)]

theorem of_sanctionsListUnpackLoop {max : Nat} {data rest : Bytes} {sanctions : List ModSanction}
    (h : sanctionsListUnpackLoop max data = some (sanctions, rest)) :
    sanctions.length ≤ max ∧ sanctions.length * modSanctionPackedSize + rest.length = data.length ∧
      data.drop (sanctions.length * modSanctionPackedSize) = rest ∧
      (∀ i < sanctions.length, data.getD (i * modSanctionPackedSize) 0 = saObserver) ∧
      (sanctions.length < max → rest = []) := by
  induction max generalizing data sanctions with
  | zero =>
    cases h
    simp
  | succ max ih =>
    rw [sanctionsListUnpackLoop] at h
    split at h
    · rename_i hend
      obtain ⟨rfl, rfl⟩ := Prod.mk.inj (Option.some.inj h)
      have hnil : data = [] := length_eq_zero_iff.mp hend
      simp [hnil]
    split at h
    · simp at h
    split at h
    · simp at h
    rename_i htype
    split at h
    · simp at h
    split at h
    · simp at h
    split at h
    · simp at h
    rename_i more left hmore
    cases h
    obtain ⟨hmax, hsum, hdrop, htypes, hend⟩ := ih hmore
    rw [length_drop] at hsum
    rw [length_cons]
    refine ⟨by omega, by rw [Nat.succ_mul]; omega, ?_, fun i hi => ?_, fun hlt => hend (by omega)⟩
    · rw [Nat.succ_mul, Nat.add_comm, ← drop_drop, hdrop]
    · cases i with
      | zero =>
        exact not_not.mp htype
      | succ i =>
        have hi := htypes i (by omega)
        rw [getD_eq_getElem?_getD, getElem?_drop] at hi
        rw [Nat.succ_mul, Nat.add_comm]
        exact hi

theorem readSanctionsLoop_eq {data : Bytes} {length maxSanctions : UInt16} (hlength : data.length = length.toNat)
    (rest : Nat) {sanctions : List ModSanction} {lenProcessed : UInt16}
    (hprocessed : lenProcessed.toNat ≤ length.toNat) (hrest : sanctions.length + rest ≤ maxSanctions.toNat) :
    readSanctionsLoop data length maxSanctions rest sanctions lenProcessed =
      some ((sanctionsListUnpackLoop rest (data.drop lenProcessed.toNat)).map fun result =>
        (sanctions ++ result.1, UInt16.ofNat (lenProcessed.toNat + result.1.length * modSanctionPackedSize))) := by
  have hsize : modSanctionPackedSize = 137 := rfl
  have hself : ∀ offset : UInt16, UInt16.ofNat offset.toNat = offset := fun _ => UInt16.ofNat_toNat
  induction rest generalizing sanctions lenProcessed with
  | zero =>
    rw [readSanctionsLoop, sanctionsListUnpackLoop]
    simp [hself]
  | succ rest ih =>
    have hdrop : (data.drop lenProcessed.toNat).length = length.toNat - lenProcessed.toNat := by
      rw [length_drop, hlength]
    rw [readSanctionsLoop, sanctionsListUnpackLoop]
    by_cases hend : lenProcessed < length
    · have hend' := UInt16.lt_iff_toNat_lt.mp hend
      rw [if_neg (not_not.mpr hend), if_neg (not_not.mpr (by omega)), readSanction_eq hlength,
        if_neg (show (data.drop lenProcessed.toNat).length ≠ 0 by omega)]
      split_ifs with h41 htype h73 h137
      · rfl
      · rfl
      · rfl
      · rfl
      · have hnext : (lenProcessed + 137).toNat = lenProcessed.toNat + 137 :=
          toNat_offset_add length (show lenProcessed.toNat + 137 ≤ _ by omega)
        have hmore : (data.drop lenProcessed.toNat).drop modSanctionPackedSize =
            data.drop (lenProcessed + 137).toNat := by
          rw [drop_drop, hnext, hsize]
        dsimp only
        rw [ih (by omega) (by rw [length_append, length_singleton]; omega), hmore]
        cases sanctionsListUnpackLoop rest (data.drop (lenProcessed + 137).toNat) with
        | none => rfl
        | some result =>
          simp only [Option.map_some, length_cons, append_assoc, hnext, hsize]
          congr 4
          omega
    · have hend' := mt UInt16.lt_iff_toNat_lt.mpr hend
      rw [if_pos hend, if_pos (show (data.drop lenProcessed.toNat).length = 0 by omega)]
      simp [hself]

theorem readCreds_eq {data : Bytes} {offset : UInt16} (h : offset.toNat + modSanctionsCredsSize ≤ data.length) :
    readCreds data offset = some (sanctionsCredsUnpack (data.drop offset.toNat), 134) := by
  have hsize : modSanctionsCredsSize = 134 := rfl
  have hhash : cryptoSha256Size = 32 := rfl
  have hkey : sigPublicKeySize = 32 := rfl
  have hsignature : signatureSize = 64 := rfl
  rw [readCreds, readBytes_of_le (by omega), readBytes_of_le (by omega), readBytes_of_le (by omega),
    readBytes_of_le (by omega), readBytes_of_le (by omega)]
  dsimp only
  rw [netUnpackU32_take, netUnpackU16_take, bytesToVector_take, bytesToVector_take, bytesToVector_take,
    sanctionsCredsUnpack, drop_drop, drop_drop, drop_drop, drop_drop]
  rfl

/-- What `sanctions_list_unpack` makes of the entries and the bytes behind them. -/
def unpackedWith : List ModSanction × Bytes → Option (List ModSanction × Option ModSanctionCreds × UInt16)
  | (sanctions, rest) =>
    if rest.length < modSanctionsCredsSize then
      if rest.length ≠ 0 then none
      else some (sanctions, none, UInt16.ofNat (sanctions.length * modSanctionPackedSize))
    else some (sanctions, some (sanctionsCredsUnpack rest),
      UInt16.ofNat (sanctions.length * modSanctionPackedSize + modSanctionsCredsSize))

theorem readSanctionsList_eq {data : Bytes} {length : UInt16} (maxSanctions : UInt16)
    (hlength : data.length = length.toNat) :
    readSanctionsList maxSanctions data length =
      some ((sanctionsListUnpackLoop (min maxSanctions.toNat modMaxNumSanctions) data).bind unpackedWith) := by
  have hloop := @readSanctionsLoop_eq data length maxSanctions hlength
    (min maxSanctions.toNat modMaxNumSanctions) [] 0 (Nat.zero_le _)
    (by rw [length_nil]; omega)
  have hzero : (0 : UInt16).toNat = 0 := rfl
  rw [hzero, drop_zero] at hloop
  rw [readSanctionsList, hloop]
  cases hunpack : sanctionsListUnpackLoop (min maxSanctions.toNat modMaxNumSanctions) data with
  | none => rfl
  | some result =>
    obtain ⟨sanctions, rest⟩ := result
    obtain ⟨-, hsum, hrest, -, -⟩ := of_sanctionsListUnpackLoop hunpack
    have hlt := length.toNat_lt
    have hoffset : (UInt16.ofNat (sanctions.length * modSanctionPackedSize)).toNat =
        sanctions.length * modSanctionPackedSize := by
      rw [UInt16.toNat_ofNat']
      omega
    simp only [Option.map_some, Nat.zero_add, Option.bind_some, unpackedWith]
    by_cases hshort : rest.length < modSanctionsCredsSize
    · rw [if_pos (by rw [hoffset]; omega), if_pos hshort]
      have hne : length ≠ UInt16.ofNat (sanctions.length * modSanctionPackedSize) ↔ rest.length ≠ 0 := by
        rw [Ne, ← UInt16.toNat_inj]
        omega
      simp only [hne]
      split_ifs
      · rfl
      · rfl
    · have hsize : modSanctionsCredsSize = 134 := rfl
      have hgt : ¬length ≤ UInt16.ofNat (sanctions.length * modSanctionPackedSize) := by
        rw [UInt16.le_iff_toNat_le]
        omega
      rw [if_neg (by rw [hoffset]; exact fun h => h.elim hgt (by omega)), if_neg hshort, readCreds_eq (by rw [hoffset]; omega),
        hoffset, hrest]
      simp only [UInt16.ofNat_add]
      rfl

/-! ## The callers -/

def OnlyEntries (n : Nat) (data : Bytes) : Prop :=
  data.length = n * modSanctionPackedSize ∧ ∀ i < n, data.getD (i * modSanctionPackedSize) 0 = saObserver

instance (n : Nat) (data : Bytes) : Decidable (OnlyEntries n data) :=
  inferInstanceAs (Decidable (_ ∧ ∀ i < n, _))

def packedEntries : (n : Nat) → Bytes → List ModSanction
  | 0, _ => []
  | n + 1, data => modSanctionUnpack data :: packedEntries n (data.drop modSanctionPackedSize)

@[simp] theorem length_packedEntries (n : Nat) (data : Bytes) : (packedEntries n data).length = n := by
  induction n generalizing data with
  | zero => rfl
  | succ n ih => simp [packedEntries, ih]

theorem unpackLoop_of_onlyEntries {n : Nat} {data : Bytes} (h : OnlyEntries n data) :
    sanctionsListUnpackLoop n data = some (packedEntries n data, []) := by
  have hsize : modSanctionPackedSize = 137 := rfl
  have hkey : sigPublicKeySize = 32 := rfl
  have hstamp : timeStampSize = 8 := rfl
  have hpublic : cryptoPublicKeySize = 32 := rfl
  obtain ⟨hlength, htypes⟩ := h
  induction n generalizing data with
  | zero =>
    have hnil : data = [] := length_eq_zero_iff.mp (by omega)
    rw [hnil]
    rfl
  | succ n ih =>
    rw [Nat.succ_mul] at hlength
    have hfirst := htypes 0 (by omega)
    rw [Nat.zero_mul] at hfirst
    have hrest := @ih (data.drop modSanctionPackedSize) (by rw [length_drop]; omega) (fun i hi => by
      have hnext := htypes (i + 1) (by omega)
      rw [Nat.succ_mul, Nat.add_comm] at hnext
      rw [getD_eq_getElem?_getD, getElem?_drop]
      exact hnext)
    rw [sanctionsListUnpackLoop, if_neg (by omega), if_neg (by omega), if_neg (not_not.mpr hfirst),
      if_neg (by omega), if_neg (by omega), hrest, packedEntries]

theorem unpackLoop_onlyEntries_iff {n : Nat} {data : Bytes} {sanctions : List ModSanction} :
    (sanctionsListUnpackLoop n data = some (sanctions, []) ∧ sanctions.length = n) ↔
      OnlyEntries n data ∧ sanctions = packedEntries n data := by
  constructor
  · rintro ⟨h, rfl⟩
    obtain ⟨-, hsum, -, htypes, -⟩ := of_sanctionsListUnpackLoop h
    have honly : OnlyEntries sanctions.length data := ⟨hsum.symm, htypes⟩
    rw [unpackLoop_of_onlyEntries honly, Option.some.injEq, Prod.mk.injEq] at h
    exact ⟨honly, h.1.symm⟩
  · rintro ⟨honly, rfl⟩
    exact ⟨unpackLoop_of_onlyEntries honly, length_packedEntries n data⟩

theorem readSanctionsList_unset_iff {data : Bytes} {length maxSanctions : UInt16} {sanctions : List ModSanction}
    (hlength : data.length = length.toNat) (hmax : maxSanctions.toNat ≤ modMaxNumSanctions) :
    (∃ processed, readSanctionsList maxSanctions data length = some (some (sanctions, none, processed)) ∧
      sanctions.length = maxSanctions.toNat) ↔
        OnlyEntries maxSanctions.toNat data ∧ sanctions = packedEntries maxSanctions.toNat data := by
  rw [readSanctionsList_eq maxSanctions hlength, Nat.min_eq_left hmax, ← unpackLoop_onlyEntries_iff]
  constructor
  · rintro ⟨processed, hread, hn⟩
    obtain ⟨⟨entries, rest⟩, hunpack, hwith⟩ := Option.bind_eq_some_iff.mp (Option.some.inj hread)
    rw [unpackedWith] at hwith
    split at hwith
    · split at hwith
      · simp at hwith
      · rename_i hrest
        simp only [Option.some.injEq, Prod.mk.injEq] at hwith
        have hnil : rest = [] := length_eq_zero_iff.mp (not_not.mp hrest)
        exact ⟨by rw [hunpack, hwith.1, hnil], hn⟩
    · simp at hwith
  · rintro ⟨hunpack, hn⟩
    rw [hunpack]
    exact ⟨UInt16.ofNat (sanctions.length * modSanctionPackedSize), rfl, hn⟩

theorem readGcSanctionsList_eq_none_iff (chat : GCChat) (crypto : SignCrypto) (env : ChatEnv) {data : Bytes}
    (hlength : data.length < 2 ^ 16) : chat.readGcSanctionsList crypto env data = none ↔
      2 ≤ data.length ∧ (netUnpackU16 data).toNat ≤ modMaxNumSanctions ∧
        OnlyEntries (netUnpackU16 data).toNat (data.drop 2) ∧
        (packedEntries (netUnpackU16 data).toNat (data.drop 2)).all
          (chat.moderation.sanctionsListValidateEntry crypto) := by
  rw [GCChat.readGcSanctionsList]
  by_cases hshort : data.length < 2
  · rw [if_pos hshort]
    exact ⟨fun h => by simp at h, fun h => absurd h.1 (by omega)⟩
  rw [if_neg hshort]
  by_cases hmax : (netUnpackU16 data).toNat > modMaxNumSanctions
  · rw [if_pos hmax]
    exact ⟨fun h => by simp at h, fun h => absurd h.2.1 (by omega)⟩
  have hrest : (data.drop 2).length = (UInt16.ofNat (data.length - 2)).toNat := by
    rw [length_drop, UInt16.toNat_ofNat']
    omega
  have hunset := fun sanctions => @readSanctionsList_unset_iff _ _ _ sanctions hrest (Nat.not_lt.mp hmax)
  rw [if_neg hmax]
  have hread := readSanctionsList_eq (netUnpackU16 data) hrest
  cases hresult : (sanctionsListUnpackLoop (min (netUnpackU16 data).toNat modMaxNumSanctions) (data.drop 2)).bind
    unpackedWith with
  | none =>
    rw [hresult] at hread
    simp only [hread] at hunset ⊢
    have hnot : ¬OnlyEntries (netUnpackU16 data).toNat (data.drop 2) := fun honly => by
      simpa [honly] using hunset (packedEntries (netUnpackU16 data).toNat (data.drop 2))
    simp [hnot]
  | some result =>
    obtain ⟨sanctions, creds, processed⟩ := result
    rw [hresult] at hread
    simp only [hread] at hunset ⊢
    by_cases hset : sanctions.length = (netUnpackU16 data).toNat ∧ creds = none
    · obtain ⟨hnum, rfl⟩ := hset
      obtain ⟨honly, heq⟩ := (hunset sanctions).mp ⟨processed, by simp, hnum⟩
      rw [if_neg (not_not.mpr hnum), ← heq]
      cases hall : sanctions.all (chat.moderation.sanctionsListValidateEntry crypto) with
      | false => simp
      | true => simp [honly, Nat.not_lt.mp hshort, Nat.not_lt.mp hmax]
    · have hnot : ¬OnlyEntries (netUnpackU16 data).toNat (data.drop 2) := fun honly => by
        obtain ⟨_, heq, hnum⟩ := (hunset (packedEntries _ _)).mpr ⟨honly, rfl⟩
        simp only [Option.some.injEq, Prod.mk.injEq] at heq
        exact hset ⟨by rw [heq.1, hnum], heq.2.1⟩
      simp only [hnot]
      split
      · simp
      · rename_i hnum
        cases creds with
        | none => exact absurd ⟨not_not.mp hnum, rfl⟩ hset
        | some creds =>
          dsimp only
          split_ifs
          all_goals simp

theorem readObserverEntry_eq_none_iff (chat : GCChat) (crypto : SignCrypto) {data : Bytes} (publicKey : PublicKey)
    (addObs : Bool) (hlength : data.length < 2 ^ 16) :
    chat.readObserverEntry crypto data publicKey addObs = none ↔ addObs = true ∧ OnlyEntries 1 data := by
  rw [GCChat.readObserverEntry]
  cases addObs with
  | false =>
    rw [if_neg Bool.false_ne_true]
    by_cases hshort : data.length < modSanctionsCredsSize
    · simp [hshort]
    · have hzero : (0 : UInt16).toNat = 0 := rfl
      rw [readCreds_eq (by rw [hzero]; omega)]
      dsimp only
      split_ifs <;> simp
      split <;> simp
  | true =>
    have hdata : data.length = (UInt16.ofNat data.length).toNat := by
      rw [UInt16.toNat_ofNat']
      omega
    have hread := readSanctionsList_eq 1 hdata
    have hunset : ∀ sanctions, _ ↔ OnlyEntries 1 data ∧ sanctions = packedEntries 1 data := fun sanctions =>
      @readSanctionsList_unset_iff _ _ 1 sanctions hdata (by decide)
    cases hresult : (sanctionsListUnpackLoop (min (1 : UInt16).toNat modMaxNumSanctions) data).bind unpackedWith with
    | none =>
      rw [hresult] at hread
      simp only [hread] at hunset
      have hnot : ¬OnlyEntries 1 data := fun honly => by simpa [honly] using hunset (packedEntries 1 data)
      simp [hread, hnot]
    | some result =>
      obtain ⟨sanctions, creds, processed⟩ := result
      rw [hresult] at hread
      simp only [hread] at hunset
      by_cases honly : OnlyEntries 1 data
      · obtain ⟨_, heq, -⟩ := (hunset (packedEntries 1 data)).mpr ⟨honly, rfl⟩
        simp only [Option.some.injEq, Prod.mk.injEq] at heq
        simp [hread, honly, heq.1, heq.2.1, packedEntries]
      · simp only [hread, honly, if_true]
        match sanctions, creds with
        | [], _ => simp
        | [sanction], none => exact absurd ((hunset [sanction]).mp ⟨processed, rfl, rfl⟩).1 honly
        | [sanction], some creds =>
          dsimp only
          split_ifs <;> simp
          split <;> simp
        | _ :: _ :: _, _ => simp

/-- The two readings of a packet agree, up to what is in credentials that are not set. -/
theorem unpack_cases (stackCreds : ModSanctionCreds) (maxSanctions : UInt16) (data : Bytes) {length : UInt16}
    (hlength : data.length = length.toNat) :
    (readSanctionsList maxSanctions data length = some none ∧ sanctionsListUnpack stackCreds maxSanctions data = none) ∨
      ∃ sanctions creds processed processed',
        readSanctionsList maxSanctions data length = some (some (sanctions, creds, processed)) ∧
          sanctionsListUnpack stackCreds maxSanctions data = some (sanctions, creds.getD stackCreds, processed') := by
  rw [readSanctionsList_eq maxSanctions hlength, sanctionsListUnpack]
  cases sanctionsListUnpackLoop (min maxSanctions.toNat modMaxNumSanctions) data with
  | none => exact .inl ⟨rfl, rfl⟩
  | some result =>
    simp only [Option.bind_some, unpackedWith]
    split_ifs
    · exact .inl ⟨rfl, rfl⟩
    · exact .inr ⟨_, _, _, _, rfl, rfl⟩
    · exact .inr ⟨_, _, _, _, rfl, rfl⟩

theorem readSanctionsList_pack {sanctions : List ModSanction} {creds : ModSanctionCreds} {room : Nat} {data : Bytes}
    (hmax : sanctions.length ≤ modMaxNumSanctions)
    (hpack : sanctionsListPack room sanctions (some creds) = some data) :
    readSanctionsList (UInt16.ofNat sanctions.length) data (UInt16.ofNat data.length) =
      some (some (sanctions, some creds, UInt16.ofNat data.length)) := by
  cases hloop : sanctionsListPackLoop room sanctions with
  | none => simp only [sanctionsListPack, hloop, reduceCtorEq] at hpack
  | some packed =>
    simp only [sanctionsListPack, hloop] at hpack
    split at hpack
    · simp at hpack
    · cases hpack
      obtain ⟨rfl, htypes⟩ := eq_wire_of_packLoop hloop
      have hlength : (sanctions.flatMap ModSanction.wire ++ sanctionsCredsPack creds).length =
          sanctions.length * modSanctionPackedSize + modSanctionsCredsSize := by
        rw [length_append, length_flatMap_wire, length_sanctionsCredsPack]
      have hsize : modSanctionPackedSize = 137 := rfl
      have hcreds : modSanctionsCredsSize = 134 := rfl
      have hnum : modMaxNumSanctions = 30 := rfl
      rw [hsize] at hlength
      have hcount : (UInt16.ofNat sanctions.length).toNat = sanctions.length := by
        rw [UInt16.toNat_ofNat']
        omega
      rw [readSanctionsList_eq _ (by rw [UInt16.toNat_ofNat']; omega), hcount, Nat.min_eq_left hmax,
        sanctionsListUnpackLoop_wire htypes, Option.bind_some, unpackedWith,
        if_neg (by rw [length_sanctionsCredsPack]; omega), hlength]
      have hself := sanctionsCredsUnpack_pack creds []
      rw [append_nil] at hself
      rw [hself]
      rfl

theorem length_readSanctionsList {data : Bytes} {length maxSanctions : UInt16} (hlength : data.length = length.toNat)
    {sanctions : List ModSanction} {creds : Option ModSanctionCreds} {processed : UInt16}
    (h : readSanctionsList maxSanctions data length = some (some (sanctions, creds, processed))) :
    sanctions.length ≤ maxSanctions.toNat := by
  rw [readSanctionsList_eq maxSanctions hlength] at h
  obtain ⟨⟨entries, rest⟩, hunpack, hwith⟩ := Option.bind_eq_some_iff.mp (Option.some.inj h)
  have hmax := (of_sanctionsListUnpackLoop hunpack).1
  have heq : sanctions = entries := by
    rw [unpackedWith] at hwith
    split at hwith
    · split at hwith
      · simp at hwith
      · simp only [Option.some.injEq, Prod.mk.injEq] at hwith
        exact hwith.1.symm
    · simp only [Option.some.injEq, Prod.mk.injEq] at hwith
      exact hwith.1.symm
  rw [heq]
  omega

theorem sanctionsListPack_of_room {sanctions : List ModSanction} {room : Nat} (creds : ModSanctionCreds)
    (htypes : ∀ sanction ∈ sanctions, sanction.type = saObserver)
    (hroom : sanctions.length * modSanctionPackedSize + modSanctionsCredsSize ≤ room) :
    sanctionsListPack room sanctions (some creds) =
      some (sanctions.flatMap ModSanction.wire ++ sanctionsCredsPack creds) := by
  have hloop := packLoop_of_room htypes (show sanctions.length * modSanctionPackedSize ≤ room by omega)
  simp only [sanctionsListPack, hloop]
  rw [length_flatMap_wire, if_neg (by omega)]

theorem readSanctionsList_ne_none (maxSanctions : UInt16) {data : Bytes} {length : UInt16}
    (hlength : data.length = length.toNat) : readSanctionsList maxSanctions data length ≠ none := by
  simp [readSanctionsList_eq maxSanctions hlength]

def CallersUseWhatWasSet : Prop :=
  (∀ (chat : GCChat) (crypto : SignCrypto) (env : ChatEnv) (data : Bytes), data.length < 2 ^ 16 →
    chat.readGcSanctionsList crypto env data ≠ none) ∧
  ∀ (chat : GCChat) (crypto : SignCrypto) (data : Bytes) (publicKey : PublicKey) (addObs : Bool),
    data.length < 2 ^ 16 → chat.readObserverEntry crypto data publicKey addObs ≠ none

/-- Packed lists are unpacked again inside buffer and array, and only set credentials are used exactly if the packet
    is not made of entries alone. -/
theorem sanctionsCodec (chat : GCChat) (crypto : SignCrypto) :
    (∀ (sanctions : List ModSanction) (creds : ModSanctionCreds) (room : Nat),
      sanctions.length ≤ modMaxNumSanctions → (∀ sanction ∈ sanctions, sanction.type = saObserver) →
      sanctions.length * modSanctionPackedSize + modSanctionsCredsSize ≤ room →
      ∃ data, sanctionsListPack room sanctions (some creds) = some data ∧
        readSanctionsList (UInt16.ofNat sanctions.length) data (UInt16.ofNat data.length) =
          some (some (sanctions, some creds, UInt16.ofNat data.length))) ∧
    (∀ (maxSanctions length : UInt16) (data : Bytes), data.length = length.toNat →
      readSanctionsList maxSanctions data length ≠ none ∧
        ∀ sanctions creds processed,
          readSanctionsList maxSanctions data length = some (some (sanctions, creds, processed)) →
          sanctions.length ≤ maxSanctions.toNat) ∧
    (∀ (env : ChatEnv) (data : Bytes), data.length < 2 ^ 16 →
      (chat.readGcSanctionsList crypto env data ≠ none ↔
        ¬(2 ≤ data.length ∧ (netUnpackU16 data).toNat ≤ modMaxNumSanctions ∧
          OnlyEntries (netUnpackU16 data).toNat (data.drop 2) ∧
          (packedEntries (netUnpackU16 data).toNat (data.drop 2)).all
            (chat.moderation.sanctionsListValidateEntry crypto)))) ∧
    ∀ (data : Bytes) (publicKey : PublicKey) (addObs : Bool), data.length < 2 ^ 16 →
      (chat.readObserverEntry crypto data publicKey addObs ≠ none ↔ ¬(addObs = true ∧ OnlyEntries 1 data)) := by
  refine ⟨fun sanctions creds room hmax htypes hroom => ?_, fun maxSanctions length data hlength => ?_,
    fun env data hlength => ?_, fun data publicKey addObs hlength => ?_⟩
  · have hpack := sanctionsListPack_of_room creds htypes hroom
    exact ⟨_, hpack, readSanctionsList_pack hmax hpack⟩
  · exact ⟨readSanctionsList_ne_none maxSanctions hlength, fun _ _ _ h => length_readSanctionsList hlength h⟩
  · exact not_congr (readGcSanctionsList_eq_none_iff chat crypto env hlength)
  · exact not_congr (readObserverEntry_eq_none_iff chat crypto publicKey addObs hlength)

/-- One entry and nothing behind it: the version of unset credentials is compared. -/
theorem not_callersUseWhatWasSet_oneEntry : ¬CallersUseWhatWasSet := by
  intro h
  have hlength : (List.replicate 137 (0 : UInt8)).length = 137 := length_replicate
  have honly : OnlyEntries 1 (List.replicate 137 0) := by
    refine ⟨hlength, fun i hi => ?_⟩
    obtain rfl : i = 0 := by omega
    simp [saObserver]
  refine h.2 GCChat.joiningChat GCChat.twoModsCrypto (List.replicate 137 0) (Vector.replicate _ 2) true (by rw [hlength]; omega) ?_
  exact (readObserverEntry_eq_none_iff GCChat.joiningChat GCChat.twoModsCrypto _ true (by rw [hlength]; omega)).mpr ⟨rfl, honly⟩

end Toxcore

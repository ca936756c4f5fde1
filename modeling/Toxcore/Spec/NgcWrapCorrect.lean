import Toxcore.Native.NgcWrap

/-!
# Group packets are unwrapped to what was wrapped

The padding that `group_packet_wrap` puts in front of the type is removed again because no type is zero, and the
lengths that reach `group_packet_unwrap` leave room for the header behind any padding.
-/

namespace Toxcore

open List

/-! ## Lengths -/

theorem toNat_ofNat_chunk {n : Nat} (h : n ≤ maxGcPacketChunkSize) : (UInt16.ofNat n).toNat = n :=
  UInt16.toNat_ofNat_of_lt' (h.trans_lt (by decide))

theorem groupPacketPaddingLength_lt {n : Nat} (h : n ≤ maxGcPacketChunkSize) :
    (groupPacketPaddingLength (UInt16.ofNat n)).toNat < gcMaxPacketPadding := by
  have hlt : (maxGcPacketChunkSize - n) % gcMaxPacketPadding < gcMaxPacketPadding := Nat.mod_lt _ (by decide)
  have hmod : (maxGcPacketChunkSize - n : Int).tmod gcMaxPacketPadding % 2 ^ 16 =
      ((maxGcPacketChunkSize - n) % gcMaxPacketPadding : Nat) := by
    rw [← Int.ofNat_sub h]
    exact congrArg Nat.cast (Nat.mod_eq_of_lt (hlt.trans (by decide : gcMaxPacketPadding < 2 ^ 16)))
  rw [groupPacketPaddingLength, toNat_ofNat_chunk h, UInt16.ofInt, hmod, Int.toNat_natCast,
    UInt16.toNat_ofNat_of_lt' (hlt.trans (by decide))]
  exact hlt

def wrappedHeaderLen (netPacketType : UInt8) : Nat :=
  if netPacketType = netPacketGcLossless then gcMessageIdBytes + 1 else 1

theorem toNat_gcGetWrappedPacketSize {n : Nat} (h : n ≤ maxGcPacketChunkSize) {netPacketType : UInt8}
    (hnet : netPacketType = netPacketGcLossless ∨ netPacketType = netPacketGcLossy) :
    (gcGetWrappedPacketSize (UInt16.ofNat n) netPacketType).toNat =
      n + (cryptoPublicKeySize + gcMaxPacketPadding + cryptoNonceSize + cryptoMacSize + wrappedHeaderLen netPacketType) := by
  rw [gcGetWrappedPacketSize, UInt16.toNat_add, toNat_ofNat_chunk h]
  unfold maxGcPacketChunkSize at h
  obtain rfl | rfl := hnet
  · exact Nat.mod_eq_of_lt (show n + 89 < 2 ^ 16 by omega)
  · exact Nat.mod_eq_of_lt (show n + 81 < 2 ^ 16 by omega)

theorem payloadSizeAllowed_iff {netPacketType : UInt8} {n : Nat} :
    PayloadSizeAllowed netPacketType n ↔ cryptoNonceSize + cryptoMacSize + wrappedHeaderLen netPacketType ≤ n := by
  rw [PayloadSizeAllowed, Nat.not_lt]
  unfold wrappedHeaderLen
  split
  · exact Iff.rfl
  · exact Iff.rfl

/-! ## Padding -/

def wrappedHeader (withId : Bool) (packetType : UInt8) (messageId : UInt64) : Bytes :=
  packetType :: if withId then netPackU64 messageId else []

theorem length_wrappedHeader (netPacketType packetType : UInt8) (messageId : UInt64) :
    (wrappedHeader (netPacketType = netPacketGcLossless) packetType messageId).length =
      wrappedHeaderLen netPacketType := by
  unfold wrappedHeader wrappedHeaderLen
  split
  · rw [if_pos (of_decide_eq_true ‹_›)]
    rfl
  · rw [if_neg fun h => ‹¬_› (decide_eq_true h)]
    rfl

theorem unwrapPlain_wrappedHeader (withId : Bool) {packetType : UInt8} (htype : packetType ≠ 0) (messageId : UInt64)
    (data : Bytes) (paddingLen : Nat) :
    unwrapPlain withId (List.replicate paddingLen 0 ++ (wrappedHeader withId packetType messageId ++ data)) =
      .unwrapped packetType (if withId then some messageId else none) data := by
  induction paddingLen with
  | zero =>
    cases withId with
    | false => simp [wrappedHeader, unwrapPlain, htype]
    | true =>
      have hlen := length_netPackU64 messageId
      have hdrop : (netPackU64 messageId ++ data).drop gcMessageIdBytes = data := drop_left' hlen
      simp only [wrappedHeader, replicate_zero, nil_append, if_true, cons_append, unwrapPlain, htype,
        if_false, hdrop, netUnpackU64_netPackU64_append, length_append, hlen]
      exact if_neg (Nat.not_lt.mpr (Nat.le_add_right _ _))
  | succ paddingLen ih =>
    have hroom : ¬(List.replicate paddingLen 0 ++ (wrappedHeader withId packetType messageId ++ data)).length <
        if withId then 1 + gcMessageIdBytes else 1 := by
      cases withId with
      | false => simp [wrappedHeader]
      | true =>
        simp only [wrappedHeader, if_true, length_append, length_cons, length_netPackU64, gcMessageIdBytes]
        omega
    rw [replicate_succ, cons_append, unwrapPlain, if_pos rfl, if_neg hroom, ih]

theorem unwrapPlain_safe (withId : Bool) :
    ∀ plain : Bytes, (if withId then 1 + gcMessageIdBytes else 1) ≤ plain.length →
      unwrapPlain withId plain ≠ .outOfBounds ∧
        ∀ packetType messageId data, unwrapPlain withId plain = .unwrapped packetType messageId data →
          data.length ≤ plain.length
  | [], h => by cases withId <;> cases h
  | byte :: plain, h => by
    have ih := unwrapPlain_safe withId plain
    rw [length_cons] at h ⊢
    unfold unwrapPlain
    by_cases hbyte : byte = 0
    · rw [if_pos hbyte]
      by_cases hroom : plain.length < if withId then 1 + gcMessageIdBytes else 1
      · rw [if_pos hroom]
        exact ⟨nofun, nofun⟩
      · rw [if_neg hroom]
        obtain ⟨hne, hle⟩ := ih (Nat.le_of_not_lt hroom)
        exact ⟨hne, fun packetType messageId data heq => (hle packetType messageId data heq).trans (Nat.le_succ _)⟩
    · rw [if_neg hbyte]
      cases withId with
      | false =>
        refine ⟨nofun, fun _ _ _ heq => ?_⟩
        cases heq
        exact Nat.le_succ _
      | true =>
        rw [if_pos rfl] at h
        rw [if_pos rfl, if_neg (by omega)]
        refine ⟨nofun, fun _ _ _ heq => ?_⟩
        cases heq
        rw [length_drop]
        omega

/-! ## Packets -/

variable {cipher : ByteCipher OnionNonce} {sharedKey : SharedKey}

theorem groupPacketUnwrap_of_plain {nonce : OnionNonce} {plain : Bytes} (hplain : plain ≠ []) (withId : Bool) :
    groupPacketUnwrap cipher true sharedKey withId (nonce.toList ++ cipher.afternm sharedKey nonce plain) =
      unwrapPlain withId plain := by
  have hlen : nonce.toList.length = cryptoNonceSize := nonce.length_toList
  have hlong : ¬(nonce.toList ++ cipher.afternm sharedKey nonce plain).length ≤ cryptoNonceSize := by
    rw [length_append, cipher.length_afternm]
    simp only [cryptoMacSize]
    omega
  rw [groupPacketUnwrap, if_neg hlong, bytesToVector_toList_append, drop_left' hlen,
    ByteCipher.decryptDataSymmetric_afternm hplain]
  cases plain with
  | nil => exact absurd rfl hplain
  | cons byte plain => rfl

/-- `group_packet_unwrap` gives back what `group_packet_wrap` was given, and reads nothing past any plaintext. -/
theorem groupPacketUnwrap_groupPacketWrap (cipher : ByteCipher OnionNonce) (sharedKey : SharedKey) :
    (∀ (nonce : OnionNonce) (selfPk : PublicKey) (data : Bytes) (messageId : UInt64)
      (gpPacketType netPacketType : UInt8), data.length ≤ maxGcPacketChunkSize → gpPacketType ≠ 0 →
      netPacketType = netPacketGcLossless ∨ netPacketType = netPacketGcLossy →
      let packetSize := gcGetWrappedPacketSize (UInt16.ofNat data.length) netPacketType
      ∃ packet, groupPacketWrap cipher { plain := true, encrypt := true } nonce selfPk sharedKey packetSize data
          messageId gpPacketType netPacketType = .ok packet ∧
        packet.length ≤ packetSize.toNat ∧ PacketSizeAllowed packet.length ∧
        PayloadSizeAllowed netPacketType (packet.drop (1 + cryptoPublicKeySize)).length ∧
        groupPacketUnwrap cipher true sharedKey (netPacketType = netPacketGcLossless)
            (packet.drop (1 + cryptoPublicKeySize)) =
          .unwrapped gpPacketType (if netPacketType = netPacketGcLossless then some messageId else none) data) ∧
    ∀ (memory : Bool) (netPacketType : UInt8) (packet : Bytes), PayloadSizeAllowed netPacketType packet.length →
      groupPacketUnwrap cipher memory sharedKey (netPacketType = netPacketGcLossless) packet ≠ .outOfBounds ∧
      ∀ packetType messageId data,
        groupPacketUnwrap cipher memory sharedKey (netPacketType = netPacketGcLossless) packet =
          .unwrapped packetType messageId data →
        data.length + (cryptoNonceSize + cryptoMacSize) ≤ packet.length := by
  constructor
  case right =>
    intro memory netPacketType packet h
    unfold groupPacketUnwrap
    split
    · exact ⟨nofun, nofun⟩
    · split
      · exact ⟨nofun, nofun⟩
      · split
        · exact ⟨nofun, nofun⟩
        · exact ⟨nofun, nofun⟩
        · rename_i plain _ hplain
          unfold ByteCipher.decryptDataSymmetric at hplain
          split at hplain
          · cases hplain
          · have hlen := cipher.length_openAfternm _ _ _ _ hplain
            rw [length_drop] at hlen
            have hpayload := payloadSizeAllowed_iff.mp h
            have hroom : (if decide (netPacketType = netPacketGcLossless) then 1 + gcMessageIdBytes else 1) ≤
                plain.length := by
              simp only [wrappedHeaderLen, decide_eq_true_eq, Nat.add_comm 1] at hpayload ⊢
              omega
            obtain ⟨hne, hle⟩ := unwrapPlain_safe _ plain hroom
            refine ⟨hne, fun packetType messageId data heq => ?_⟩
            have hdata := hle packetType messageId data heq
            omega
  intro nonce selfPk data messageId gpPacketType netPacketType hdata htype hnet packetSize
  have hsize := toNat_gcGetWrappedPacketSize hdata hnet
  have hpad := groupPacketPaddingLength_lt hdata
  generalize hpaddingLen : groupPacketPaddingLength (UInt16.ofNat data.length) = paddingLen at hpad
  generalize hplain : List.replicate paddingLen.toNat 0 ++
    (wrappedHeader (netPacketType = netPacketGcLossless) gpPacketType messageId ++ data) = plain
  have hbound : 1 ≤ wrappedHeaderLen netPacketType ∧ wrappedHeaderLen netPacketType ≤ 9 := by
    unfold wrappedHeaderLen
    split <;> decide
  have hlen : plain.length = paddingLen.toNat + (wrappedHeaderLen netPacketType + data.length) := by
    rw [← hplain, length_append, length_append, length_replicate, length_wrappedHeader]
  have hpacket : (selfPk.toList ++ (nonce.toList ++ cipher.afternm sharedKey nonce plain)).length =
      cryptoPublicKeySize + (cryptoNonceSize + (plain.length + cryptoMacSize)) := by
    rw [length_append, length_append, cipher.length_afternm, selfPk.length_toList, nonce.length_toList]
  have hne : plain ≠ [] := ne_nil_of_length_pos (by omega)
  have htail : (netPacketType :: (selfPk.toList ++ (nonce.toList ++ cipher.afternm sharedKey nonce plain))).drop
      (1 + cryptoPublicKeySize) = nonce.toList ++ cipher.afternm sharedKey nonce plain := by
    rw [Nat.add_comm, drop_succ_cons, drop_left' selfPk.length_toList]
  have hkey : cryptoPublicKeySize = 32 := rfl
  have hpadding : gcMaxPacketPadding = 8 := rfl
  have hfits : ¬UInt16.ofNat (data.length + paddingLen.toNat + (cryptoMacSize + 1 + cryptoPublicKeySize +
      cryptoNonceSize + wrappedHeaderLen netPacketType)) > packetSize := by
    rw [gt_iff_lt, UInt16.lt_iff_toNat_lt, Nat.not_lt, hsize, UInt16.toNat_ofNat']
    exact (Nat.mod_le _ _).trans (by omega)
  have hwrap : groupPacketWrap cipher { plain := true, encrypt := true } nonce selfPk sharedKey packetSize data
      messageId gpPacketType netPacketType =
      .ok (netPacketType :: (selfPk.toList ++ (nonce.toList ++ cipher.afternm sharedKey nonce plain))) := by
    have hencrypt : cipher.encryptDataSymmetric sharedKey nonce plain = some (cipher.afternm sharedKey nonce plain) :=
      if_neg (by omega)
    have hheader : List.replicate paddingLen.toNat 0 ++ gpPacketType ::
        ((if netPacketType = netPacketGcLossless then netPackU64 messageId else []) ++ data) = plain := by
      rw [← hplain, wrappedHeader]
      simp only [decide_eq_true_eq, cons_append]
    unfold wrappedHeaderLen at hfits
    simp only [groupPacketWrap, toNat_ofNat_chunk hdata, hpaddingLen, if_neg hfits, if_neg (Nat.not_lt.mpr hdata),
      Bool.not_true, Bool.false_eq_true, if_false, hheader, hencrypt]
  refine ⟨_, hwrap, ?_, ?_, ?_, ?_⟩
  · rw [length_cons, hsize]
    omega
  · rw [length_cons]
    unfold PacketSizeAllowed minUdpPacketSize
    omega
  · rw [htail, payloadSizeAllowed_iff, length_append, cipher.length_afternm, nonce.length_toList]
    omega
  · rw [htail, groupPacketUnwrap_of_plain hne, ← hplain, unwrapPlain_wrappedHeader _ htype]
    simp only [decide_eq_true_eq]

end Toxcore

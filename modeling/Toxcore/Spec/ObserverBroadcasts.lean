import Toxcore.Native.NgcObservers
import Toxcore.Spec.NgcQuiescence
import Toxcore.Spec.SanctionsAtomic
import Toxcore.Spec.SanctionsCodec

/-!
# Broadcasts about observers

A moderator edits its sanctions list and tells the group; a member makes the same edit on its own list and must end
with the list that the credentials were signed for.
-/

namespace Toxcore

open List

/-! ## The same edit on two lists -/

namespace Moderation

variable {crypto : SignCrypto} {own other : Moderation}

structure InStep (own other : Moderation) : Prop where
  moderators : own.SameModerators other
  sanctions : other.sanctions = own.sanctions
  creds : other.sanctionsCreds = own.sanctionsCreds

def SignsAsSelf (crypto : SignCrypto) (own : Moderation) : Prop :=
  ∀ message signature, crypto.signatureCreate message own.selfSecretSigKey = some signature →
    crypto.signatureVerify signature message own.selfPublicSigKey = true

structure Moderates (crypto : SignCrypto) (own : Moderation) : Prop where
  listed : own.modListVerifySigPk own.selfPublicSigKey = true
  signs : own.SignsAsSelf crypto

structure SameOwner (own own' : Moderation) : Prop where
  moderators : own.SameModerators own'
  selfPublic : own'.selfPublicSigKey = own.selfPublicSigKey
  selfSecret : own'.selfSecretSigKey = own.selfSecretSigKey

variable {own' : Moderation}

theorem SameOwner.moderates (h : SameOwner own own') (hown : own.Moderates crypto) :
    own'.Moderates crypto := by
  refine ⟨?_, ?_⟩
  · rw [h.moderators.modListVerifySigPk, h.selfPublic]
    exact hown.listed
  · rw [SignsAsSelf, h.selfPublic, h.selfSecret]
    exact hown.signs

theorem of_sanctionsListMakeCreds (h : own.sanctionsListMakeCreds crypto = (true, own')) :
    ∃ sig, crypto.signatureCreate (sanctionsListMakeHash crypto own.sanctions (own.sanctionsCreds.version + 1)).toList
      own.selfSecretSigKey = some sig ∧
      own' = { own with sanctionsCreds := { own.newCreds crypto with sig } } := by
  rw [sanctionsListMakeCreds] at h
  split at h
  · simp at h
  · rename_i sig hsig
    exact ⟨sig, hsig, (Prod.mk.inj h).2.symm⟩

theorem not_lt_add_one (version : UInt32) :
    ¬(version + 1 < version ∧ ¬(version + 1 = 0 ∧ version = UInt32.ofNat (2 ^ 32 - 1))) := by
  rintro ⟨hlt, hwrap⟩
  have hversion := version.toNat_lt
  have hone : (1 : UInt32).toNat = 1 := rfl
  rw [UInt32.lt_iff_toNat_lt, UInt32.toNat_add] at hlt
  have hmax : version.toNat = 2 ^ 32 - 1 := by omega
  refine hwrap ⟨?_, ?_⟩
  · apply UInt32.toNat_inj.mp
    rw [UInt32.toNat_add, hmax]
    rfl
  · apply UInt32.toNat_inj.mp
    rw [hmax]
    rfl

theorem add_one_ne (version : UInt32) : version + 1 ≠ version := by
  intro heq
  simp at heq

theorem add_two_ne (version : UInt32) : version + 1 + 1 ≠ version := by
  intro heq
  rw [UInt32.add_assoc] at heq
  simp at heq

theorem credsValidate_of_make {sanctions : List ModSanction} (hstep : own.InStep other) (hown : own.Moderates crypto)
    (h : { own with sanctions }.sanctionsListMakeCreds crypto = (true, own')) :
    other.sanctionsCredsValidate crypto sanctions own'.sanctionsCreds = true := by
  obtain ⟨sig, hsig, rfl⟩ := of_sanctionsListMakeCreds h
  have hlisted : other.modListVerifySigPk own.selfPublicSigKey = true := by
    rw [hstep.moderators.modListVerifySigPk]
    exact hown.listed
  have hverify := hown.signs _ sig hsig
  rw [sanctionsCredsValidate]
  simp only [newCreds, ModSanctionCreds.setChecksum, ModSanctionCreds.getChecksum, hlisted, hstep.creds, Bool.not_true,
    Bool.false_eq_true, if_false, ne_eq, not_true_eq_false]
  rw [if_neg fun hold => not_lt_add_one _ hold.2]
  exact hverify

theorem make_result {sanctions : List ModSanction}
    (h : { own with sanctions }.sanctionsListMakeCreds crypto = (true, own')) :
    own'.sanctions = sanctions ∧ own'.sanctionsCreds.version = own.sanctionsCreds.version + 1 ∧
      own.SameOwner own' := by
  obtain ⟨sig, -, rfl⟩ := of_sanctionsListMakeCreds h
  exact ⟨rfl, rfl, ⟨rfl, rfl⟩, rfl, rfl⟩

theorem not_stale (hstep : own.InStep other) (hversion : own'.sanctionsCreds.version = own.sanctionsCreds.version + 1) :
    ¬(own'.sanctionsCreds.version = other.sanctionsCreds.version ∧
      own'.sanctionsCreds.checksum ≤ other.sanctionsCreds.checksum) := by
  rintro ⟨heq, -⟩
  rw [hversion, hstep.creds] at heq
  exact add_one_ne _ heq

variable {publicKey : PublicKey}

theorem of_makeEntry {now : UInt64} (h : own.sanctionsListMakeEntry crypto publicKey now = (true, own')) :
    ∃ sanction, own.madeEntry crypto publicKey now = some sanction ∧
      sanction.targetPublicEncKey = publicKey ∧ own.sanctions.length < modMaxNumSanctions ∧
      own.sanctionsListValidateEntry crypto sanction = true ∧ own.sanctionsListEntryExists sanction = false ∧
      { own with sanctions := own.sanctions ++ [sanction] }.sanctionsListMakeCreds crypto = (true, own') := by
  rw [sanctionsListMakeEntry] at h
  cases hmade : own.madeEntry crypto publicKey now with
  | none =>
    rw [madeEntry] at hmade
    simp [hmade] at h
  | some sanction =>
    have hsign := hmade
    rw [madeEntry] at hsign
    simp only [hsign, sanctionsListAddEntry] at h
    have htarget : sanction.targetPublicEncKey = publicKey := by
      have hbody := (sanctionsListSignEntry_eq_some hsign).2.2.1
      simp only [ModSanction.body, append_assoc] at hbody
      obtain ⟨-, hrest⟩ := append_inj hbody rfl
      obtain ⟨-, hrest⟩ := append_inj hrest (by simp)
      obtain ⟨-, htarget⟩ := append_inj hrest (by rw [length_netPackU64, length_netPackU64])
      exact Vector.toList_inj.mp htarget
    refine ⟨sanction, rfl, htarget, ?_⟩
    by_cases hroom : own.sanctions.length ≥ modMaxNumSanctions
    · simp [hroom] at h
    by_cases hvalid : own.sanctionsListValidateEntry crypto sanction = true
    case neg => simp [hroom, hvalid] at h
    cases hexists : own.sanctionsListEntryExists sanction with
    | true => simp [hroom, hvalid, hexists] at h
    | false =>
      simp only [hroom, hvalid, hexists] at h
      exact ⟨by omega, hvalid, rfl, h⟩

theorem of_removeObserver (h : own.sanctionsListRemoveObserver crypto publicKey none = (true, own')) :
    own.sanctionsListIsObserver publicKey = true ∧
      ∃ index sanctions, own.sanctions.findIdx? (fun sanction =>
          sanction.type == saObserver && publicKey == sanction.targetPublicEncKey) = some index ∧
        (∀ (moderation : Moderation) (creds : Option ModSanctionCreds), moderation.sanctions = own.sanctions →
          moderation.sanctionsListRemoveIndex crypto index creds =
            moderation.sanctionsApplyNew crypto sanctions creds) ∧
        { own with sanctions }.sanctionsListMakeCreds crypto = (true, own') := by
  rw [sanctionsListRemoveObserver] at h
  cases hindex : own.sanctions.findIdx? (fun sanction =>
      sanction.type == saObserver && publicKey == sanction.targetPublicEncKey) with
  | none => simp [hindex] at h
  | some index =>
    simp only [hindex] at h
    obtain ⟨hlt, hobserved, -⟩ := findIdx?_eq_some_iff_getElem.mp hindex
    have hlast : own.sanctions.length - 1 < own.sanctions.length := by omega
    refine ⟨?_, index, (own.sanctions.set index own.sanctions[own.sanctions.length - 1]).take
      (own.sanctions.length - 1), rfl, fun moderation creds heq => ?_, ?_⟩
    · rw [sanctionsListIsObserver, any_eq_true]
      refine ⟨own.sanctions[index], getElem_mem hlt, ?_⟩
      rw [Bool.and_eq_true] at hobserved ⊢
      exact ⟨hobserved.1, by rw [BEq.comm]; exact hobserved.2⟩
    · simp only [sanctionsListRemoveIndex, heq, getElem?_eq_getElem hlt, getElem?_eq_getElem hlast]
    · simp only [sanctionsListRemoveIndex, getElem?_eq_getElem hlt, getElem?_eq_getElem hlast,
        sanctionsApplyNew] at h
      exact h

theorem addEntry_of_makeEntry {now : UInt64} (hstep : own.InStep other) (hown : own.Moderates crypto)
    (h : own.sanctionsListMakeEntry crypto publicKey now = (true, own')) :
    ∃ sanction, own.madeEntry crypto publicKey now = some sanction ∧ sanction.type = saObserver ∧
      other.sanctionsListEntryExists sanction = false ∧
      other.sanctionsListAddEntry crypto sanction (some own'.sanctionsCreds) =
        (true, { other with sanctions := own'.sanctions, sanctionsCreds := own'.sanctionsCreds }) := by
  obtain ⟨sanction, hmade, -, hroom, hvalid, hexists, hmake⟩ := of_makeEntry h
  have hexists' : other.sanctionsListEntryExists sanction = false := by
    rw [sanctionsListEntryExists, sanctionsListIsObserver, hstep.sanctions]
    exact hexists
  refine ⟨sanction, hmade, (of_sanctionsListValidateEntry hvalid).2.1, hexists', ?_⟩
  rw [sanctionsListAddEntry, hstep.sanctions, if_neg (by omega), hstep.moderators.sanctionsListValidateEntry,
    if_neg (by simp [hvalid]), if_neg (by simp [hexists']), sanctionsApplyNew, (make_result hmake).1]
  simp [credsValidate_of_make hstep hown hmake]

theorem removeObserver_of_removeObserver (hstep : own.InStep other) (hown : own.Moderates crypto)
    (h : own.sanctionsListRemoveObserver crypto publicKey none = (true, own')) :
    other.sanctionsListIsObserver publicKey = true ∧
      other.sanctionsListRemoveObserver crypto publicKey (some own'.sanctionsCreds) =
        (true, { other with sanctions := own'.sanctions, sanctionsCreds := own'.sanctionsCreds }) := by
  obtain ⟨hobserver, index, sanctions, hindex, hremove, hmake⟩ := of_removeObserver h
  refine ⟨by rw [sanctionsListIsObserver, hstep.sanctions]; exact hobserver, ?_⟩
  rw [sanctionsListRemoveObserver, hstep.sanctions, hindex]
  dsimp only
  rw [hremove other _ hstep.sanctions, sanctionsApplyNew, (make_result hmake).1]
  simp [credsValidate_of_make hstep hown hmake]

end Moderation

namespace GCChat

variable {crypto : SignCrypto} {chat : GCChat}

/-! ## The packets -/

/-- The key in the header of a `GM_SET_OBSERVER` broadcast. -/
def headerKey (data : Bytes) : PublicKey := bytesToVector _ (data.drop 1)

def observerData (data : Bytes) : Bytes := data.drop (1 + cryptoPublicKeySize + sigPublicKeySize)

variable (targetExtPk : ExtPublicKey) (sanctionData : Bytes) (addObs : Bool)

theorem headerKey_setObserverData : headerKey (setObserverData targetExtPk sanctionData addObs) = targetExtPk.enc := by
  rw [headerKey, setObserverData, drop_succ_cons, drop_zero, bytesToVector_toList_append]

theorem netUnpackBool_setObserverData :
    netUnpackBool (setObserverData targetExtPk sanctionData addObs) = addObs := by
  cases addObs <;> rfl

theorem observerData_setObserverData :
    observerData (setObserverData targetExtPk sanctionData addObs) = sanctionData := by
  have henc : targetExtPk.enc.toList.length = 32 := Vector.length_toList
  have hsig : targetExtPk.sig.toList.length = 32 := Vector.length_toList
  rw [observerData, setObserverData, show 1 + cryptoPublicKeySize + sigPublicKeySize = (32 + 32) + 1 from rfl,
    drop_succ_cons, ← drop_drop, drop_left' henc, drop_left' hsig]

theorem length_setObserverData :
    (setObserverData targetExtPk sanctionData addObs).length = 1 + 32 + 32 + sanctionData.length := by
  have henc : targetExtPk.enc.toList.length = 32 := Vector.length_toList
  have hsig : targetExtPk.sig.toList.length = 32 := Vector.length_toList
  rw [setObserverData, length_cons, length_append, length_append]
  omega

/-! ## Receiving -/

variable {targetExtPk sanctionData addObs}

/-- The sender is a moderator, and the target, if it is a peer, is in the role that is changed. -/
def allowsObserver (chat : GCChat) (peerNumber : Nat) (data : Bytes) : Bool :=
  let target := chat.getPeerNumberOfEncPk (headerKey data) false
  (chat.group[peerNumber]?).any (fun setter => decide (setter.role.value ≤ GroupRole.moderator.value)) &&
    target != some peerNumber &&
    !(target.bind (chat.group[·]?)).any (fun peer => peer.role != (if netUnpackBool data then .user else .observer))

variable {data : Bytes}

theorem handleGcSetObserver_eq (stackCreds : ModSanctionCreds) (peerNumber : Nat)
    (hlength : 1 + cryptoPublicKeySize + sigPublicKeySize < data.length) :
    (chat.handleGcSetObserver crypto stackCreds peerNumber data).2 =
      if chat.allowsObserver peerNumber data then
        match chat.validateUnpackObserverEntry crypto stackCreds (observerData data) (headerKey data)
            (netUnpackBool data) with
        | (.changed, chat) => chat.updateGcPeerRoles
        | _ => chat
      else chat := by
  have hsame := (@validateUnpackObserverEntry_effect crypto chat stackCreds (observerData data) (headerKey data)
    (netUnpackBool data)).2
  rw [handleGcSetObserver, if_neg (by omega)]
  simp only [allowsObserver, ← headerKey.eq_1 data, ← observerData.eq_1 data]
  have hpeer : chat.group[peerNumber]? = none ∨ ∃ setter, chat.group[peerNumber]? = some setter := by
    cases chat.group[peerNumber]? <;> simp
  cases hpeer with
  | inl hnone => simp [hnone]
  | inr hsome =>
    obtain ⟨setter, hsome⟩ := hsome
    simp only [hsome]
    by_cases hsetter : setter.role.value ≤ GroupRole.moderator.value
    · rw [if_neg (by rw [gt_iff_lt, UInt16.not_lt]; exact hsetter)]
      by_cases hself : chat.getPeerNumberOfEncPk (headerKey data) false = some peerNumber
      · simp [hself]
      · rw [if_neg hself]
        by_cases hrole : ((chat.getPeerNumberOfEncPk (headerKey data) false).bind (chat.group[·]?)).any
            (fun peer => peer.role != (if netUnpackBool data then .user else .observer)) = true
        · rw [if_pos hrole, if_neg (by simp [hrole])]
        · rw [if_neg hrole, if_pos (by simpa [hsetter, hself] using hrole)]
          cases hresult : chat.validateUnpackObserverEntry crypto stackCreds (observerData data) (headerKey data)
              (netUnpackBool data) with
          | mk result chat' =>
            rw [hresult] at hsame
            cases result with
            | changed => rfl
            | unchanged => exact hsame (by simp)
            | invalid => exact hsame (by simp)
    · rw [if_pos (by rw [gt_iff_lt]; exact UInt16.not_le.mp hsetter)]
      simp [hsetter]

variable {peerNumber : Nat}

theorem handleGcSetObserver_of_not_allows (stackCreds : ModSanctionCreds)
    (hlength : 1 + cryptoPublicKeySize + sigPublicKeySize < data.length)
    (h : ¬chat.allowsObserver peerNumber data = true) :
    (chat.handleGcSetObserver crypto stackCreds peerNumber data).2 = chat := by
  rw [handleGcSetObserver_eq stackCreds peerNumber hlength, if_neg h]

/-- The data are those of the edit, and another member that validates them makes the same edit. -/
structure Announces (crypto : SignCrypto) (own own' : Moderation) (data : Bytes) : Prop where
  length : 1 + cryptoPublicKeySize + sigPublicKeySize < data.length
  owner : own.SameOwner own'
  version : own'.sanctionsCreds.version = own.sanctionsCreds.version + 1
  validates : own.Moderates crypto → ∀ (chat : GCChat) (stackCreds : ModSanctionCreds), own.InStep chat.moderation →
    chat.validateUnpackObserverEntry crypto stackCreds (observerData data) (headerKey data) (netUnpackBool data) =
      (.changed, { chat with
        moderation := { chat.moderation with
          sanctions := own'.sanctions
          sanctionsCreds := own'.sanctionsCreds } })

variable {own own' : Moderation}

theorem Announces.handle (h : Announces crypto own own' data) (hown : own.Moderates crypto)
    (hstep : own.InStep chat.moderation) (stackCreds : ModSanctionCreds)
    (hallows : chat.allowsObserver peerNumber data = true) :
    own'.InStep (chat.handleGcSetObserver crypto stackCreds peerNumber data).2.moderation := by
  rw [handleGcSetObserver_eq stackCreds peerNumber h.length, if_pos hallows, h.validates hown chat stackCreds hstep]
  obtain ⟨version, hversion⟩ := moderation_updateGcPeerRoles { chat with
    moderation := { chat.moderation with
      sanctions := own'.sanctions
      sanctionsCreds := own'.sanctionsCreds } }
  rw [hversion]
  refine ⟨⟨?_, ?_⟩, rfl, rfl⟩
  · exact hstep.moderators.1.trans h.owner.moderators.1.symm
  · exact hstep.moderators.2.trans h.owner.moderators.2.symm

variable {address : ExtPublicKey} {now : UInt64} {sanction : ModSanction}

theorem announces_add {sanctionData : Bytes} (hmade : own.madeEntry crypto address.enc now = some sanction)
    (h : own.sanctionsListMakeEntry crypto address.enc now = (true, own'))
    (hpack : sanctionsListPack (modSanctionPackedSize + modSanctionsCredsSize) [sanction] (some own'.sanctionsCreds) = some sanctionData)
    :
    Announces crypto own own' (setObserverData address sanctionData true) := by
  obtain ⟨sanction', hmade', -, -, -, -, hmake⟩ := Moderation.of_makeEntry h
  cases hmade.symm.trans hmade'
  have htype : sanction.type = saObserver := (Moderation.sanctionsListSignEntry_eq_some hmade).2.1
  have hwire := @sanctionsListPack_of_room [sanction] (modSanctionPackedSize + modSanctionsCredsSize)
    own'.sanctionsCreds (by simp [htype]) (by rw [length_singleton]; omega)
  obtain rfl : sanctionData = sanction.wire ++ sanctionsCredsPack own'.sanctionsCreds := by
    rw [hwire] at hpack
    simpa using (Option.some.inj hpack).symm
  have hcredsLength := length_sanctionsCredsPack own'.sanctionsCreds
  have hsize : modSanctionsCredsSize = 134 := rfl
  have hkey : cryptoPublicKeySize = 32 := rfl
  have hsigKey : sigPublicKeySize = 32 := rfl
  refine ⟨?_, (Moderation.make_result hmake).2.2, (Moderation.make_result hmake).2.1,
    fun hown chat stackCreds hstep => ?_⟩
  · rw [length_setObserverData, length_append]
    omega
  · obtain ⟨other, hother, -, hexists, hadd⟩ := Moderation.addEntry_of_makeEntry hstep hown h
    cases hmade.symm.trans hother
    have hloop := @sanctionsListUnpackLoop_wire [sanction] (by simp [htype])
      (sanctionsCredsPack own'.sanctionsCreds)
    have hunpacked := sanctionsCredsUnpack_pack own'.sanctionsCreds []
    rw [append_nil] at hunpacked
    have hunpack : sanctionsListUnpack stackCreds 1 (sanction.wire ++ sanctionsCredsPack own'.sanctionsCreds) =
        some ([sanction], own'.sanctionsCreds, []) := by
      rw [sanctionsListUnpack, show min (1 : UInt16).toNat modMaxNumSanctions = [sanction].length from rfl]
      simp only [flatMap_singleton] at hloop
      rw [hloop]
      dsimp only
      rw [if_neg (by omega), hunpacked, drop_of_length_le (by omega)]
    rw [observerData_setObserverData, headerKey_setObserverData, netUnpackBool_setObserverData,
      validateUnpackObserverEntry]
    rw [if_pos rfl, hunpack]
    dsimp only
    rw [if_neg (Moderation.not_stale hstep (Moderation.make_result hmake).2.1), if_neg (by simp [hexists]), hadd]

theorem announces_remove (address : ExtPublicKey)
    (h : own.sanctionsListRemoveObserver crypto address.enc none = (true, own')) :
    Announces crypto own own' (setObserverData address (sanctionsCredsPack own'.sanctionsCreds) false) := by
  obtain ⟨-, index, sanctions, -, -, hmake⟩ := Moderation.of_removeObserver h
  have hcredsLength := length_sanctionsCredsPack own'.sanctionsCreds
  have hsize : modSanctionsCredsSize = 134 := rfl
  have hkey : cryptoPublicKeySize = 32 := rfl
  have hsigKey : sigPublicKeySize = 32 := rfl
  refine ⟨?_, (Moderation.make_result hmake).2.2, (Moderation.make_result hmake).2.1,
    fun hown chat stackCreds hstep => ?_⟩
  · rw [length_setObserverData]
    omega
  · obtain ⟨hobserver, hremove⟩ := Moderation.removeObserver_of_removeObserver hstep hown h
    have hunpacked := sanctionsCredsUnpack_pack own'.sanctionsCreds []
    rw [append_nil] at hunpacked
    rw [observerData_setObserverData, headerKey_setObserverData, netUnpackBool_setObserverData,
      validateUnpackObserverEntry]
    rw [if_neg Bool.false_ne_true, if_neg (by omega), hunpacked,
      if_neg (Moderation.not_stale hstep (Moderation.make_result hmake).2.1), if_neg (by simp [hobserver]), hremove]

/-! ## Announcing -/

variable {env : ChatEnv}

theorem moderation_gcSetTopic (env : ChatEnv) (secretKey : SigSecretKey) (topic : Bytes) :
    (chat.gcSetTopic crypto env secretKey topic).2.moderation = chat.moderation := by
  rw [gcSetTopic]
  split_ifs
  · rfl
  · rfl
  · rfl
  · rfl
  all_goals
    dsimp only
    split
    · rfl
    · rfl

theorem moderation_takeOverTopic (env : ChatEnv) (secretKey : SigSecretKey) (peerNumber : Nat) :
    (chat.takeOverTopic crypto env secretKey peerNumber).2.moderation = chat.moderation := by
  rw [takeOverTopic]
  split
  · exact moderation_gcSetTopic env secretKey _
  · rfl

theorem of_sendGcSetObserver (h : (chat.sendGcSetObserver env address sanctionData addObs).done = true) :
    (chat.sendGcSetObserver env address sanctionData addObs).broadcasts =
        [setObserverData address sanctionData addObs] ∧
      (chat.sendGcSetObserver env address sanctionData addObs).chat.moderation = chat.moderation := by
  rw [sendGcSetObserver, sendGcBroadcastMessage] at h ⊢
  by_cases hsize : (setObserverData address sanctionData addObs).length + gcBroadcastEncHeaderSize > maxGcPacketSize
  · simp [hsize] at h
  · rw [if_neg hsize]
    exact ⟨rfl, rfl⟩

structure SameLists (own own' : Moderation) : Prop where
  sanctions : own'.sanctions = own.sanctions
  creds : own'.sanctionsCreds = own.sanctionsCreds

theorem sameLists_updateGcPeerRoles (chat : GCChat) : SameLists chat.moderation chat.updateGcPeerRoles.moderation := by
  obtain ⟨version, hversion⟩ := moderation_updateGcPeerRoles chat
  rw [hversion]
  exact ⟨rfl, rfl⟩

structure Announced (crypto : SignCrypto) (own : Moderation) (change : ObserverChange) (key : PublicKey)
    (addObs : Bool) (own' : Moderation) (data : Bytes) : Prop where
  announces : Announces crypto own own' data
  broadcasts : change.broadcasts = [data]
  lists : SameLists own' change.chat.moderation
  header : headerKey data = key
  flag : netUnpackBool data = addObs

theorem of_addObserver (h : (chat.addObserver crypto env address now).done = true) :
    ∃ own' data, Announced crypto chat.moderation (chat.addObserver crypto env address now) address.enc true own'
      data := by
  rw [addObserver] at h ⊢
  cases hmade : chat.moderation.madeEntry crypto address.enc now with
  | none => simp [hmade] at h
  | some sanction =>
    cases hmake : chat.moderation.sanctionsListMakeEntry crypto address.enc now with
    | mk done own' =>
      cases done with
      | false => simp [hmade, hmake] at h
      | true =>
        simp only [hmade, hmake] at h ⊢
        cases hpack : sanctionsListPack (modSanctionPackedSize + modSanctionsCredsSize) [sanction]
            (some own'.sanctionsCreds) with
        | none => simp [hpack] at h
        | some sanctionData =>
          simp only [hpack] at h ⊢
          obtain ⟨hbroadcasts, hmoderation⟩ := of_sendGcSetObserver h
          refine ⟨own', _, announces_add hmade hmake hpack, hbroadcasts, ?_, headerKey_setObserverData _ _ _,
            netUnpackBool_setObserverData _ _ _⟩
          rw [hmoderation]
          exact sameLists_updateGcPeerRoles { chat with moderation := own' }

theorem of_removeObserver (h : (chat.removeObserver crypto env address).done = true) :
    ∃ own' data, Announced crypto chat.moderation (chat.removeObserver crypto env address) address.enc false own'
      data := by
  rw [removeObserver] at h ⊢
  cases hremove : chat.moderation.sanctionsListRemoveObserver crypto address.enc none with
  | mk done own' =>
    cases done with
    | false => simp [hremove] at h
    | true =>
      simp only [hremove] at h ⊢
      obtain ⟨hbroadcasts, hmoderation⟩ := of_sendGcSetObserver h
      refine ⟨own', _, announces_remove address hremove, hbroadcasts, ?_, headerKey_setObserverData _ _ _,
        netUnpackBool_setObserverData _ _ _⟩
      rw [hmoderation]
      exact sameLists_updateGcPeerRoles { chat with moderation := own' }

theorem of_pruneGcSanctionsList (h : (chat.pruneGcSanctionsList crypto env).done = true)
    (hne : chat.moderation.sanctions ≠ []) :
    ∃ data, Announces crypto chat.moderation (chat.pruneGcSanctionsList crypto env).chat.moderation data ∧
      (chat.pruneGcSanctionsList crypto env).broadcasts = [data] := by
  have hlength : ¬chat.moderation.sanctions.length = 0 := fun hzero => hne (length_eq_zero_iff.mp hzero)
  rw [pruneGcSanctionsList, if_neg hlength] at h ⊢
  cases hfind : chat.moderation.sanctions.find? fun sanction =>
      (chat.getPeerNumberOfEncPk sanction.targetPublicEncKey true).isNone with
  | none => simp [hfind] at h
  | some sanction =>
    simp only [hfind] at h ⊢
    cases hremove : chat.moderation.sanctionsListRemoveObserver crypto sanction.targetPublicEncKey none with
    | mk done own' =>
      cases done with
      | false => simp [hremove] at h
      | true =>
        simp only [hremove] at h ⊢
        obtain ⟨hbroadcasts, hmoderation⟩ := of_sendGcSetObserver h
        refine ⟨_, ?_, hbroadcasts⟩
        rw [hmoderation]
        exact announces_remove { enc := sanction.targetPublicEncKey, sig := sanction.setterPublicSigKey } hremove

/-- What `mod_gc_set_observer` announces when it succeeds: its edit, and before it the removal that made room. -/
inductive AnnouncedRun (crypto : SignCrypto) (own : Moderation) (change : ObserverChange) (key : PublicKey)
    (addObs : Bool) : Prop
  | one (own' : Moderation) (data : Bytes) (edit : Announced crypto own change key addObs own' data)
  | two (mid own' : Moderation) (pruned data : Bytes) (full : modMaxNumSanctions ≤ own.sanctions.length)
      (prune : Announces crypto own mid pruned) (edit : Announces crypto mid own' data)
      (broadcasts : change.broadcasts = [pruned, data]) (lists : SameLists own' change.chat.moderation)
      (header : headerKey data = key) (flag : netUnpackBool data = true) (adds : addObs = true)

variable {secretKey : SigSecretKey}

theorem of_modGcSetObserver {addObs : Bool}
    (h : (chat.modGcSetObserver crypto env secretKey now peerNumber addObs).done = true) :
    ∃ gconn, chat.getGcConnection peerNumber = some gconn ∧
      AnnouncedRun crypto chat.moderation (chat.modGcSetObserver crypto env secretKey now peerNumber addObs)
        gconn.publicKey.enc addObs := by
  rw [modGcSetObserver] at h ⊢
  cases hgconn : chat.getGcConnection peerNumber with
  | none => simp [hgconn] at h
  | some gconn =>
    refine ⟨gconn, rfl, ?_⟩
    simp only [hgconn] at h ⊢
    by_cases hrole : chat.gcGetSelfRole.value ≥ GroupRole.user.value
    · simp [hrole] at h
    rw [if_neg hrole] at h ⊢
    cases addObs with
    | false =>
      obtain ⟨own', data, hedit⟩ := of_removeObserver h
      exact .one own' data hedit
    | true =>
      rw [if_pos rfl] at h ⊢
      by_cases hroom : (chat.makeRoomForSanction crypto env).done = true
      case neg => simp [hroom] at h
      rw [if_neg (by simp [hroom])] at h ⊢
      have htopic := @moderation_takeOverTopic crypto (chat.makeRoomForSanction crypto env).chat env secretKey peerNumber
      cases htake : (chat.makeRoomForSanction crypto env).chat.takeOverTopic crypto env secretKey peerNumber with
      | mk taken next =>
        rw [htake] at htopic
        cases taken with
        | false => simp [htake] at h
        | true =>
          simp only [htake] at h ⊢
          obtain ⟨own', data, hedit⟩ := of_addObserver h
          rw [makeRoomForSanction] at hroom htopic ⊢
          by_cases hfull : chat.moderation.sanctions.length ≥ modMaxNumSanctions
          · -- the list is full: the removal is announced first
            rw [if_pos hfull] at hroom htopic ⊢
            have hne : chat.moderation.sanctions ≠ [] := by
              intro hnil
              rw [hnil] at hfull
              exact absurd hfull (by decide)
            obtain ⟨pruned, hprune, hpruned⟩ := of_pruneGcSanctionsList hroom hne
            have hmid := hedit.announces
            rw [htopic] at hmid
            refine .two _ own' pruned data hfull hprune hmid ?_ hedit.lists hedit.header hedit.flag rfl
            rw [hpruned, hedit.broadcasts, singleton_append]
          · rw [if_neg hfull] at htopic ⊢
            have hmid := hedit.announces
            rw [htopic] at hmid
            exact .one own' data ⟨hmid, by rw [hedit.broadcasts, nil_append], hedit.lists, hedit.header, hedit.flag⟩

/-! ## Following the moderator -/

def receiveObserver (crypto : SignCrypto) (stackCreds : ModSanctionCreds) (peerNumber : Nat) (chat : GCChat)
    (data : Bytes) : GCChat :=
  (chat.handleGcSetObserver crypto stackCreds peerNumber data).2

theorem receiveObserver_of_full (stackCreds : ModSanctionCreds) (peerNumber : Nat)
    (hfull : modMaxNumSanctions ≤ chat.moderation.sanctions.length)
    (hlength : 1 + cryptoPublicKeySize + sigPublicKeySize < data.length) (hflag : netUnpackBool data = true) :
    receiveObserver crypto stackCreds peerNumber chat data = chat := by
  have hfails : ∀ sanction creds, chat.moderation.sanctionsListAddEntry crypto sanction creds =
      (false, chat.moderation) := by
    intro sanction creds
    rw [Moderation.sanctionsListAddEntry, if_pos hfull]
  have hne : (chat.validateUnpackObserverEntry crypto stackCreds (observerData data) (headerKey data) true).1 ≠
      .changed := by
    rw [validateUnpackObserverEntry]
    simp only [if_true, hfails]
    split
    · split_ifs <;> simp
    · simp
  rw [receiveObserver, handleGcSetObserver_eq stackCreds peerNumber hlength, hflag]
  split_ifs
  · cases hresult : chat.validateUnpackObserverEntry crypto stackCreds (observerData data) (headerKey data) true with
    | mk result chat' =>
      rw [hresult] at hne
      cases result with
      | changed => exact absurd rfl hne
      | unchanged => rfl
      | invalid => rfl
  · rfl

open StepRun in
theorem modGcSetObserver_refines {member : GCChat} {target : Nat} {addObs : Bool}
    (hown : chat.moderation.Moderates crypto) (hstep : chat.moderation.InStep member.moderation)
    (h : (chat.modGcSetObserver crypto env secretKey now target addObs).done = true) (stackCreds : ModSanctionCreds)
    (peerNumber : Nat) :
    SameLists (chat.modGcSetObserver crypto env secretKey now target addObs).chat.moderation
        ((chat.modGcSetObserver crypto env secretKey now target addObs).broadcasts.foldl
          (receiveObserver crypto stackCreds peerNumber) member).moderation ↔
      AllSteps (receiveObserver crypto stackCreds peerNumber)
        (fun member data => member.allowsObserver peerNumber data = true) member
        (chat.modGcSetObserver crypto env secretKey now target addObs).broadcasts := by
  obtain ⟨gconn, -, hrun⟩ := of_modGcSetObserver h
  cases hrun with
  | one own' data hedit =>
    rw [hedit.broadcasts]
    simp only [foldl_cons, foldl_nil, AllSteps, and_true]
    constructor
    · intro hsame
      by_contra hnot
      have hkept : receiveObserver crypto stackCreds peerNumber member data = member :=
        handleGcSetObserver_of_not_allows stackCreds hedit.announces.length hnot
      have hversion := hedit.announces.version
      rw [hkept] at hsame
      rw [← hedit.lists.creds, ← hsame.creds, hstep.creds] at hversion
      exact Moderation.add_one_ne _ hversion.symm
    · intro hallows
      have hin := hedit.announces.handle hown hstep stackCreds hallows
      exact ⟨hin.sanctions.trans hedit.lists.sanctions.symm, hin.creds.trans hedit.lists.creds.symm⟩
  | two mid own' pruned data hfull hprune hedit hbroadcasts hlists hheader hflag hadds =>
    rw [hbroadcasts]
    simp only [foldl_cons, foldl_nil, AllSteps, and_true]
    have hversion : own'.sanctionsCreds.version = member.moderation.sanctionsCreds.version + 1 + 1 := by
      rw [hedit.version, hprune.version, hstep.creds]
    constructor
    · intro hsame
      have hfirst : member.allowsObserver peerNumber pruned = true := by
        by_contra hnot
        -- the entry that was not removed keeps the list full
        have hkept : receiveObserver crypto stackCreds peerNumber member pruned = member :=
          handleGcSetObserver_of_not_allows stackCreds hprune.length hnot
        have hstill : receiveObserver crypto stackCreds peerNumber member data = member :=
          receiveObserver_of_full stackCreds peerNumber (by rw [hstep.sanctions]; exact hfull) hedit.length hflag
        rw [hkept, hstill] at hsame
        rw [← hlists.creds, ← hsame.creds] at hversion
        exact Moderation.add_two_ne _ hversion.symm
      refine ⟨hfirst, ?_⟩
      by_contra hnot
      have hin := hprune.handle hown hstep stackCreds hfirst
      have hkept : receiveObserver crypto stackCreds peerNumber
          (receiveObserver crypto stackCreds peerNumber member pruned) data =
            receiveObserver crypto stackCreds peerNumber member pruned :=
        handleGcSetObserver_of_not_allows stackCreds hedit.length hnot
      rw [hkept] at hsame
      have hmid := hedit.version
      rw [← hin.creds, ← hlists.creds, ← hsame.creds] at hmid
      exact Moderation.add_one_ne _ hmid.symm
    · rintro ⟨hfirst, hsecond⟩
      have hin := hprune.handle hown hstep stackCreds hfirst
      have hlast := hedit.handle (hprune.owner.moderates hown) hin stackCreds hsecond
      exact ⟨hlast.sanctions.trans hlists.sanctions.symm, hlast.creds.trans hlists.creds.symm⟩

theorem broadcasts_of_room {target : Nat} {addObs : Bool}
    (h : (chat.modGcSetObserver crypto env secretKey now target addObs).done = true)
    (hroom : addObs = false ∨ chat.moderation.sanctions.length < modMaxNumSanctions) :
    ∃ gconn data, chat.getGcConnection target = some gconn ∧
      (chat.modGcSetObserver crypto env secretKey now target addObs).broadcasts = [data] ∧
      headerKey data = gconn.publicKey.enc ∧ netUnpackBool data = addObs := by
  obtain ⟨gconn, hgconn, hrun⟩ := of_modGcSetObserver h
  cases hrun with
  | one own' data hedit => exact ⟨gconn, data, hgconn, hedit.broadcasts, hedit.header, hedit.flag⟩
  | two mid own' pruned data hfull hprune hedit hbroadcasts hlists hheader hflag hadds =>
    cases hroom with
    | inl hremoves => simp [hadds] at hremoves
    | inr hlt => omega

/-! ## What a broadcast changes -/

/-- `handle_gc_set_observer` comes to the change. -/
structure AcceptsObserver (crypto : SignCrypto) (stackCreds : ModSanctionCreds) (chat : GCChat) (peerNumber : Nat)
    (data : Bytes) : Prop where
  length : 1 + cryptoPublicKeySize + sigPublicKeySize < data.length
  allows : chat.allowsObserver peerNumber data = true
  changed : (chat.validateUnpackObserverEntry crypto stackCreds (observerData data) (headerKey data)
    (netUnpackBool data)).1 = .changed

def ChangesOnly (own own' : Moderation) (key : PublicKey) : Prop :=
  ∀ other, own'.sanctionsListIsObserver other ≠ own.sanctionsListIsObserver other ↔ other = key

def LeadersFree (chat : GCChat) : Prop :=
  ∀ peer ∈ chat.group, peer.role = .founder ∨ peer.role = .moderator →
    chat.moderation.sanctionsListIsObserver peer.link.gconn.publicKey.enc = false

/-- Who is founder or moderator when roles are updated; unconfirmed peers keep theirs. -/
def leads (chat : GCChat) (peer : GCPeer) : Bool :=
  if peer.link.gconn.confirmed then chat.peerIsFounder peer || chat.peerIsModerator peer
  else peer.role == .founder || peer.role == .moderator

/-- The checked key is that of the added entry, or has one entry in the list. -/
def HeaderAgrees (chat : GCChat) (data : Bytes) : Prop :=
  if netUnpackBool data then (modSanctionUnpack (observerData data)).targetPublicEncKey = headerKey data
  else chat.moderation.sanctions.countP (fun sanction =>
    sanction.type == saObserver && sanction.targetPublicEncKey == headerKey data) = 1

def SparesLeaders (chat : GCChat) (data : Bytes) : Prop :=
  ∀ peer ∈ chat.group, chat.leads peer = true →
    if netUnpackBool data then
      chat.moderation.sanctionsListIsObserver peer.link.gconn.publicKey.enc = false ∧
        peer.link.gconn.publicKey.enc ≠ headerKey data
    else chat.moderation.sanctionsListIsObserver peer.link.gconn.publicKey.enc = true →
      peer.link.gconn.publicKey.enc = headerKey data

theorem isObserver_iff_countP (moderation : Moderation) (key : PublicKey) :
    moderation.sanctionsListIsObserver key = true ↔
      0 < moderation.sanctions.countP fun sanction =>
        sanction.type == saObserver && sanction.targetPublicEncKey == key := by
  rw [Moderation.sanctionsListIsObserver, any_eq_true, countP_pos_iff]

theorem leads_iff_role {moderation : Moderation} (hmods : chat.moderation.SameModerators moderation)
    {P : PublicKey → Prop} :
    (∀ peer ∈ { chat with moderation }.updateGcPeerRoles.group, peer.role = .founder ∨ peer.role = .moderator →
      P peer.link.gconn.publicKey.enc) ↔
    ∀ peer ∈ chat.group, chat.leads peer = true → P peer.link.gconn.publicKey.enc := by
  have hgroup : { chat with moderation }.updateGcPeerRoles.group = chat.group.map fun peer =>
      if peer.link.gconn.confirmed then { peer with role := { chat with moderation }.peerRole peer } else peer := by
    rw [updateGcPeerRoles]
    split
    · rfl
    · rfl
  have hrole : ∀ peer : GCPeer,
      ({ chat with moderation }.peerRole peer = .founder ∨ { chat with moderation }.peerRole peer = .moderator) ↔
        (chat.peerIsFounder peer || chat.peerIsModerator peer) = true := by
    intro peer
    have hmoderator : { chat with moderation }.peerIsModerator peer = chat.peerIsModerator peer := by
      rw [peerIsModerator, hmods.modListVerifySigPk]
      rfl
    have hfounder : { chat with moderation }.peerIsFounder peer = chat.peerIsFounder peer := rfl
    rw [peerRole, hmoderator, hfounder]
    cases chat.peerIsFounder peer with
    | true => simp
    | false =>
      cases chat.peerIsModerator peer with
      | true => simp
      | false => cases { chat with moderation }.peerIsObserver peer <;> simp
  rw [hgroup]
  simp only [mem_map, forall_exists_index, and_imp, forall_apply_eq_imp_iff₂]
  apply forall_congr'
  intro peer
  apply forall_congr'
  intro _
  rw [leads]
  by_cases hconfirmed : peer.link.gconn.confirmed = true
  · simp only [hconfirmed, if_true, hrole]
  · rw [if_neg hconfirmed, if_neg hconfirmed]
    simp only [Bool.or_eq_true, beq_iff_eq]

variable {stackCreds : ModSanctionCreds}

theorem eq_unpack_of_one {creds : ModSanctionCreds} {rest : Bytes}
    (h : sanctionsListUnpack stackCreds 1 data = some ([sanction], creds, rest)) :
    sanction = modSanctionUnpack data := by
  rw [sanctionsListUnpack, show min (1 : UInt16).toNat modMaxNumSanctions = 1 from rfl] at h
  cases hloop : sanctionsListUnpackLoop 1 data with
  | none => simp [hloop] at h
  | some result =>
    obtain ⟨sanctions, rest'⟩ := result
    have hone : sanctions = [sanction] := by
      simp only [hloop] at h
      split_ifs at h
      all_goals simp_all
    rw [sanctionsListUnpackLoop] at hloop
    split_ifs at hloop
    · simp [hone] at hloop
    · simp only [sanctionsListUnpackLoop, Option.some.injEq, Prod.mk.injEq, hone, List.cons.injEq] at hloop
      exact hloop.1.1.symm

variable {publicKey : PublicKey}

theorem of_changed_add (h : (chat.validateUnpackObserverEntry crypto stackCreds data publicKey true).1 = .changed) :
    ∃ moderation, (chat.validateUnpackObserverEntry crypto stackCreds data publicKey true).2 =
        { chat with moderation } ∧
      chat.moderation.SameModerators moderation ∧
      moderation.sanctions = chat.moderation.sanctions ++ [modSanctionUnpack data] ∧
      (modSanctionUnpack data).type = saObserver ∧
      chat.moderation.sanctionsListIsObserver (modSanctionUnpack data).targetPublicEncKey = false := by
  rw [validateUnpackObserverEntry] at h ⊢
  rw [if_pos rfl] at h ⊢
  split at h
  case h_2 => simp at h
  rename_i sanction creds rest hunpack
  obtain rfl := eq_unpack_of_one hunpack
  split at h
  · simp at h
  rename_i hstale
  split at h
  · simp at h
  rename_i hexists
  by_cases hadds : SanctionsCall.succeeds.Adds crypto chat.moderation (modSanctionUnpack data)
  case neg =>
    have hadd := SanctionsCall.addEntry_of_not_adds hadds (some creds)
    rw [SanctionsCall.succeeds_addEntry] at hadd
    simp [hadd] at h
  have hadd := SanctionsCall.addEntry_of_adds hadds (some creds)
  rw [SanctionsCall.succeeds_addEntry] at hadd
  cases SanctionsCall.applyNew_some .succeeds crypto chat.moderation
      (chat.moderation.sanctions ++ [modSanctionUnpack data]) creds with
  | inl hfails =>
    rw [hfails] at hadd
    simp [hadd] at h
  | inr happlied =>
    rw [happlied.1] at hadd
    have htype := (Moderation.of_sanctionsListValidateEntry hadds.2.1).2.1
    refine ⟨{ chat.moderation with
      sanctions := chat.moderation.sanctions ++ [modSanctionUnpack data]
      sanctionsCreds := creds }, by rw [if_neg hstale, if_neg hexists, hadd], ⟨rfl, rfl⟩, rfl, htype, ?_⟩
    rw [Moderation.sanctionsListEntryExists, htype] at hexists
    exact Bool.not_eq_true _ ▸ hexists

theorem of_changed_remove (h : (chat.validateUnpackObserverEntry crypto stackCreds data publicKey false).1 = .changed) :
    ∃ moderation index, (chat.validateUnpackObserverEntry crypto stackCreds data publicKey false).2 =
        { chat with moderation } ∧
      chat.moderation.SameModerators moderation ∧
      SanctionsCall.observedAt chat.moderation publicKey = some index ∧
      moderation.sanctions = SanctionsCall.withoutEntry chat.moderation index := by
  rw [validateUnpackObserverEntry] at h ⊢
  dsimp only at h ⊢
  rw [if_neg Bool.false_ne_true] at h ⊢
  split at h
  · simp at h
  rename_i hlength
  split at h
  · simp at h
  rename_i hstale
  split at h
  · simp at h
  rename_i hobserver
  rw [if_neg hlength, if_neg hstale, if_neg hobserver]
  by_cases hremoves : ∃ index, SanctionsCall.succeeds.Removes chat.moderation publicKey index
  case neg =>
    have hremove := @SanctionsCall.removeObserver_of_not_removes .succeeds crypto chat.moderation publicKey
      (fun index hindex => hremoves ⟨index, hindex⟩) (some (sanctionsCredsUnpack data))
    rw [SanctionsCall.succeeds_removeObserver] at hremove
    simp [hremove] at h
  obtain ⟨index, hremoves⟩ := hremoves
  have hremove := @SanctionsCall.removeObserver_some .succeeds crypto chat.moderation publicKey index hremoves
    (sanctionsCredsUnpack data)
  rw [SanctionsCall.succeeds_removeObserver] at hremove
  cases SanctionsCall.applyNew_some .succeeds crypto chat.moderation
      (SanctionsCall.withoutEntry chat.moderation index) (sanctionsCredsUnpack data) with
  | inl hfails =>
    rw [hfails] at hremove
    simp [hremove] at h
  | inr happlied =>
    rw [happlied.1] at hremove
    exact ⟨{ chat.moderation with
      sanctions := SanctionsCall.withoutEntry chat.moderation index
      sanctionsCreds := sanctionsCredsUnpack data }, index, by rw [hremove], ⟨rfl, rfl⟩, hremoves.1, rfl⟩

theorem isObserver_add (htype : sanction.type = saObserver) (h : own'.sanctions = own.sanctions ++ [sanction])
    (key : PublicKey) :
    own'.sanctionsListIsObserver key = (own.sanctionsListIsObserver key || sanction.targetPublicEncKey == key) := by
  rw [Moderation.sanctionsListIsObserver, Moderation.sanctionsListIsObserver, h, any_append, any_cons,
    any_nil, htype, beq_self_eq_true, Bool.true_and, Bool.or_false]

theorem isObserver_remove {index : Nat} (hindex : SanctionsCall.observedAt own publicKey = some index)
    (h : own'.sanctions = SanctionsCall.withoutEntry own index) (key : PublicKey) :
    own'.sanctionsListIsObserver key =
      if key = publicKey then
        decide (1 < own.sanctions.countP fun sanction =>
          sanction.type == saObserver && sanction.targetPublicEncKey == publicKey)
      else own.sanctionsListIsObserver key := by
  obtain ⟨hlt, hobserved, -⟩ := findIdx?_eq_some_iff_getElem.mp hindex
  rw [Bool.and_eq_true, beq_iff_eq, beq_iff_eq] at hobserved
  obtain ⟨last, hlast, heq⟩ := SanctionsCall.withoutEntry_eq hlt
  have hperm : own.sanctions.Perm (own.sanctions[index] :: own'.sanctions) := by
    rw [h, heq]
    exact (getElem_cons_eraseIdx_perm hlt).symm.trans ((List.take_set_perm_eraseIdx hlt hlast).symm.cons _)
  have hcount : ∀ key, own.sanctions.countP (fun sanction =>
        sanction.type == saObserver && sanction.targetPublicEncKey == key) =
      own'.sanctions.countP (fun sanction =>
        sanction.type == saObserver && sanction.targetPublicEncKey == key) + if publicKey = key then 1 else 0 := by
    intro key
    rw [hperm.countP_eq, countP_cons, hobserved.1, ← hobserved.2]
    simp
  apply Bool.eq_iff_iff.mpr
  rw [isObserver_iff_countP]
  split_ifs with hkey
  · subst hkey
    rw [decide_eq_true_iff, hcount key, if_pos rfl]
    omega
  · rw [isObserver_iff_countP, hcount key, if_neg fun heq => hkey heq.symm, Nat.add_zero]

/-- An accepted broadcast changes the key in its header and sanctions no moderator, exactly if the header names what
    the data are about. -/
theorem handleGcSetObserver_iff (h : AcceptsObserver crypto stackCreds chat peerNumber data) :
    (ChangesOnly chat.moderation (chat.handleGcSetObserver crypto stackCreds peerNumber data).2.moderation
        (headerKey data) ∧
      LeadersFree (chat.handleGcSetObserver crypto stackCreds peerNumber data).2) ↔
      HeaderAgrees chat data ∧ SparesLeaders chat data := by
  have hchanged := h.changed
  have hresult : (chat.handleGcSetObserver crypto stackCreds peerNumber data).2 =
      (chat.validateUnpackObserverEntry crypto stackCreds (observerData data) (headerKey data)
        (netUnpackBool data)).2.updateGcPeerRoles := by
    rw [handleGcSetObserver_eq stackCreds peerNumber h.length, if_pos h.allows]
    cases hentry : chat.validateUnpackObserverEntry crypto stackCreds (observerData data) (headerKey data)
        (netUnpackBool data) with
    | mk result chat' =>
      rw [hentry] at hchanged
      obtain rfl : result = .changed := hchanged
      rfl
  rw [hresult]
  -- the roles change nothing of the sanctions
  have hroles : ∀ moderation : Moderation, chat.moderation.SameModerators moderation →
      (ChangesOnly chat.moderation { chat with moderation }.updateGcPeerRoles.moderation (headerKey data) ↔
        ChangesOnly chat.moderation moderation (headerKey data)) ∧
      (LeadersFree { chat with moderation }.updateGcPeerRoles ↔
        ∀ peer ∈ chat.group, chat.leads peer = true →
          moderation.sanctionsListIsObserver peer.link.gconn.publicKey.enc = false) := by
    intro moderation hmods
    have hobserver : ∀ key, { chat with moderation }.updateGcPeerRoles.moderation.sanctionsListIsObserver key =
        moderation.sanctionsListIsObserver key := by
      intro key
      rw [Moderation.sanctionsListIsObserver, (sameLists_updateGcPeerRoles { chat with moderation }).sanctions]
      rfl
    constructor
    · simp only [ChangesOnly, hobserver]
    · simp only [LeadersFree, hobserver]
      exact @leads_iff_role chat moderation hmods fun key => moderation.sanctionsListIsObserver key = false
  rw [HeaderAgrees, SparesLeaders]
  cases hflag : netUnpackBool data with
  | true =>
    rw [hflag] at hchanged
    obtain ⟨moderation, hvalidate, hmods, hsanctions, htype, hnew⟩ := of_changed_add hchanged
    have hobserver := isObserver_add htype hsanctions
    rw [hvalidate, (hroles moderation hmods).1, (hroles moderation hmods).2]
    simp only [if_true]
    have honly : ChangesOnly chat.moderation moderation (headerKey data) ↔
        (modSanctionUnpack (observerData data)).targetPublicEncKey = headerKey data := by
      have hkey : ∀ other, moderation.sanctionsListIsObserver other ≠ chat.moderation.sanctionsListIsObserver other ↔
          (modSanctionUnpack (observerData data)).targetPublicEncKey = other := by
        intro other
        rw [hobserver]
        by_cases heq : (modSanctionUnpack (observerData data)).targetPublicEncKey = other
        · simp [← heq, hnew]
        · simp [heq]
      simp only [ChangesOnly, hkey]
      exact ⟨fun hall => ((hall _).mp rfl), fun heq other => ⟨fun hother => hother.symm.trans heq, fun hother =>
        heq.trans hother.symm⟩⟩
    rw [honly]
    apply and_congr_right
    intro hagrees
    simp only [hobserver, hagrees, Bool.or_eq_false_iff, beq_eq_false_iff_ne, ne_comm]
  | false =>
    rw [hflag] at hchanged
    obtain ⟨moderation, index, hvalidate, hmods, hindex, hsanctions⟩ := of_changed_remove hchanged
    have hobserver := isObserver_remove hindex hsanctions
    rw [hvalidate, (hroles moderation hmods).1, (hroles moderation hmods).2]
    have hbefore : chat.moderation.sanctionsListIsObserver (headerKey data) = true := by
      obtain ⟨hlt, hobserved, -⟩ := findIdx?_eq_some_iff_getElem.mp hindex
      rw [Moderation.sanctionsListIsObserver, any_eq_true]
      refine ⟨chat.moderation.sanctions[index], getElem_mem hlt, ?_⟩
      rw [Bool.and_eq_true] at hobserved ⊢
      exact ⟨hobserved.1, by rw [BEq.comm]; exact hobserved.2⟩
    have hpos := (isObserver_iff_countP chat.moderation (headerKey data)).mp hbefore
    have honly : ChangesOnly chat.moderation moderation (headerKey data) ↔
        chat.moderation.sanctions.countP (fun sanction =>
          sanction.type == saObserver && sanction.targetPublicEncKey == headerKey data) = 1 := by
      constructor
      · intro hall
        have hself := (hall (headerKey data)).mpr rfl
        rw [hobserver, if_pos rfl, hbefore] at hself
        simp only [ne_eq, decide_eq_true_eq] at hself
        omega
      · intro hone other
        rw [hobserver]
        by_cases heq : other = headerKey data
        · rw [hone, heq, hbefore]
          simp
        · simp [heq]
    rw [honly]
    apply and_congr_right
    intro hone
    apply forall_congr'
    intro peer
    apply forall_congr'
    intro _
    apply forall_congr'
    intro _
    rw [hobserver]
    by_cases heq : peer.link.gconn.publicKey.enc = headerKey data
    · rw [hone]
      simp [heq]
    · simp [heq]

/-! ## Broadcasts about observers -/

/-- A member that allows the change follows the moderator, and an accepted broadcast changes the key in its header. -/
def ObserverBroadcastsRefine (crypto : SignCrypto) : Prop :=
  (∀ (env : ChatEnv) (chat member : GCChat) (secretKey : SigSecretKey) (now : UInt64) (target : Nat) (addObs : Bool)
    (stackCreds : ModSanctionCreds) (peerNumber : Nat) (gconn : GCConnection),
    chat.moderation.Moderates crypto → chat.moderation.InStep member.moderation →
    (chat.modGcSetObserver crypto env secretKey now target addObs).done = true →
    chat.getGcConnection target = some gconn →
    (∀ data, headerKey data = gconn.publicKey.enc → netUnpackBool data = addObs →
      member.allowsObserver peerNumber data = true) →
    SameLists (chat.modGcSetObserver crypto env secretKey now target addObs).chat.moderation
      ((chat.modGcSetObserver crypto env secretKey now target addObs).broadcasts.foldl
        (receiveObserver crypto stackCreds peerNumber) member).moderation) ∧
  ∀ (stackCreds : ModSanctionCreds) (chat : GCChat) (peerNumber : Nat) (data : Bytes),
    AcceptsObserver crypto stackCreds chat peerNumber data →
    ChangesOnly chat.moderation (chat.handleGcSetObserver crypto stackCreds peerNumber data).2.moderation
        (headerKey data) ∧
      LeadersFree (chat.handleGcSetObserver crypto stackCreds peerNumber data).2

open StepRun in
/-- A member follows a moderator exactly if it takes all broadcasts; and an accepted one changes what it names
    exactly if its two keys agree. -/
theorem observerBroadcasts (crypto : SignCrypto) :
    (∀ (env : ChatEnv) (chat member : GCChat) (secretKey : SigSecretKey) (now : UInt64) (target : Nat) (addObs : Bool)
      (stackCreds : ModSanctionCreds) (peerNumber : Nat),
      chat.moderation.Moderates crypto → chat.moderation.InStep member.moderation →
      (chat.modGcSetObserver crypto env secretKey now target addObs).done = true →
      (SameLists (chat.modGcSetObserver crypto env secretKey now target addObs).chat.moderation
          ((chat.modGcSetObserver crypto env secretKey now target addObs).broadcasts.foldl
            (receiveObserver crypto stackCreds peerNumber) member).moderation ↔
        AllSteps (receiveObserver crypto stackCreds peerNumber)
          (fun member data => member.allowsObserver peerNumber data = true) member
          (chat.modGcSetObserver crypto env secretKey now target addObs).broadcasts) ∧
      (addObs = false ∨ chat.moderation.sanctions.length < modMaxNumSanctions →
        ∃ gconn data, chat.getGcConnection target = some gconn ∧
          (chat.modGcSetObserver crypto env secretKey now target addObs).broadcasts = [data] ∧
          headerKey data = gconn.publicKey.enc ∧ netUnpackBool data = addObs)) ∧
    ∀ (stackCreds : ModSanctionCreds) (chat : GCChat) (peerNumber : Nat) (data : Bytes),
      AcceptsObserver crypto stackCreds chat peerNumber data →
      ((ChangesOnly chat.moderation (chat.handleGcSetObserver crypto stackCreds peerNumber data).2.moderation
            (headerKey data) ∧
          LeadersFree (chat.handleGcSetObserver crypto stackCreds peerNumber data).2) ↔
        HeaderAgrees chat data ∧ SparesLeaders chat data) := by
  refine ⟨?_, fun stackCreds chat peerNumber data h => handleGcSetObserver_iff h⟩
  intro env chat member secretKey now target addObs stackCreds peerNumber hown hstep h
  exact ⟨modGcSetObserver_refines hown hstep h stackCreds peerNumber, broadcasts_of_room h⟩

/-- The functions of libsodium for what the founder signs here; it signs nothing else. -/
def observerCrypto : SignCrypto :=
  { founderCrypto with
    signatureCreate message secretKey :=
      if secretKey ≠ founderSigSk then none
      else if message = observerEntry.body then some observerEntry.signature
      else if message = observerListHash.toList then some observerListSig
      else none }

def foundedChat : GCChat :=
  { joiningChat with
    group := [{ zeroGCPeer with role := .founder }, { zeroGCPeer with
      link := { zeroGCPeer.link with gconn := { zeroGCPeer.link.gconn with
        publicKey := { enc := observerEntry.targetPublicEncKey, sig := secondMod } } } }]
    moderation := founderModeration }

def followingChat : GCChat :=
  { joiningChat with
    group := [zeroGCPeer, { zeroGCPeer with
      role := .founder
      link := { zeroGCPeer.link with gconn := { zeroGCPeer.link.gconn with
        publicKey := { enc := Vector.replicate _ 3, sig := founderSigPk } } } }]
    moderation := memberModeration }

def observerBroadcast : Bytes :=
  setObserverData { enc := observerEntry.targetPublicEncKey, sig := secondMod }
    (observerEntry.wire ++ sanctionsCredsPack observerCreds) true

theorem founderModeration_moderates : founderModeration.Moderates observerCrypto := by
  refine ⟨by decide +kernel, fun message signature h => ?_⟩
  have hkey : founderModeration.selfSecretSigKey = founderSigSk := rfl
  have hpublic : founderModeration.selfPublicSigKey = founderSigPk := rfl
  simp only [observerCrypto, ne_eq] at h
  split_ifs at h with hentry hlist
  · rw [← Option.some.inj h, hentry]
    decide +kernel
  · rw [← Option.some.inj h, hlist]
    decide +kernel

/-- The member follows the founder. -/
theorem observerBroadcasts_oneObserver :
    SameLists (foundedChat.modGcSetObserver observerCrypto quietChatEnv founderSigSk observerEntry.timeSet 1 true
        ).chat.moderation
      ((foundedChat.modGcSetObserver observerCrypto quietChatEnv founderSigSk observerEntry.timeSet 1 true
        ).broadcasts.foldl (receiveObserver observerCrypto observerCreds 1) followingChat).moderation := by
  have hstep : foundedChat.moderation.InStep followingChat.moderation := ⟨⟨rfl, rfl⟩, rfl, rfl⟩
  have hbroadcasts : (foundedChat.modGcSetObserver observerCrypto quietChatEnv founderSigSk observerEntry.timeSet 1
      true).broadcasts = [observerBroadcast] := by decide +kernel
  apply (((observerBroadcasts observerCrypto).1 quietChatEnv foundedChat followingChat founderSigSk
    observerEntry.timeSet 1 true observerCreds 1 founderModeration_moderates hstep (by decide +kernel)).1).mpr
  rw [hbroadcasts]
  exact ⟨by decide +kernel, trivial⟩

def moderatedChat : GCChat :=
  { joiningChat with
    group := [zeroGCPeer, { zeroGCPeer with
      role := .moderator
      link := { zeroGCPeer.link with gconn := { zeroGCPeer.link.gconn with
        publicKey := { enc := Vector.replicate _ 7, sig := firstMod }
        confirmed := true } } }]
    moderation := { memberModeration with modList := [firstMod] } }

def forgedBroadcast : Bytes :=
  setObserverData { enc := Vector.replicate _ 9, sig := Vector.replicate _ 9 }
    (observerEntry.wire ++ sanctionsCredsPack observerCreds) true

/-- The forged broadcast is accepted and sanctions a peer that its header does not name. -/
theorem not_observerBroadcastsRefine_forged : ¬∀ crypto, ObserverBroadcastsRefine crypto := by
  intro h
  have haccepts : AcceptsObserver founderCrypto observerCreds moderatedChat 1 forgedBroadcast :=
    ⟨by decide +kernel, by decide +kernel, by decide +kernel⟩
  have hagrees := ((handleGcSetObserver_iff haccepts).mp ((h founderCrypto).2 _ _ _ _ haccepts)).1
  rw [HeaderAgrees] at hagrees
  revert hagrees
  decide +kernel

end GCChat

end Toxcore

import Toxcore.Spec.FounderAtomic
import Toxcore.Spec.NgcSave
import Toxcore.Spec.SanctionsCodec

/-!
# The moderators of a group

`founder_gc_set_moderator` changes the moderator list, the sanctions list and the topic before it signs the hash of the
new list, and takes none of them back.
-/

namespace Toxcore

open List

/-! ## The sanctions list -/

structure GCChat.KeepsSigned (chat chat' : GCChat) : Prop where
  sharedState : chat'.sharedState = chat.sharedState
  sharedStateSig : chat'.sharedStateSig = chat.sharedStateSig
  topicInfo : chat'.topicInfo = chat.topicInfo
  topicSig : chat'.topicSig = chat.topicSig
  modList : chat'.moderation.modList = chat.moderation.modList
  chatPublicKey : chat'.chatPublicKey = chat.chatPublicKey
  selfPublicKey : chat'.selfPublicKey = chat.selfPublicKey
  role : chat'.gcGetSelfRole = chat.gcGetSelfRole

namespace SanctionsCall

variable {call : SanctionsCall} {crypto : SignCrypto} {moderation : Moderation} {publicSigKey : SigPublicKey}

theorem modList_replaceSig (call : SanctionsCall) (crypto : SignCrypto) (moderation : Moderation)
    (publicSigKey : SigPublicKey) :
    (call.sanctionsListReplaceSig crypto moderation publicSigKey).2.modList = moderation.modList := by
  by_cases h : call.SignsAgain crypto moderation publicSigKey
  · rw [replaceSig_of_signsAgain h, sanctionsListMakeCreds]
    split
    · rfl
    · dsimp only
      split <;> rfl
  · rw [replaceSig_of_not_signsAgain h]

theorem sanctions_replaceSig (call : SanctionsCall) (crypto : SignCrypto) (moderation : Moderation)
    (publicSigKey : SigPublicKey) :
    (call.sanctionsListReplaceSig crypto moderation publicSigKey).2.sanctions =
      call.replaced crypto moderation publicSigKey := by
  by_cases h : call.SignsAgain crypto moderation publicSigKey
  · rw [replaceSig_of_signsAgain h]
    exact (makeCreds_of_renews h.2).2.1
  · rw [replaceSig_of_not_signsAgain h]

theorem replaceSig_eq_zero_iff :
    (call.sanctionsListReplaceSig crypto moderation publicSigKey).1 = 0 ↔
      ¬call.SignsAgain crypto moderation publicSigKey := by
  by_cases h : call.SignsAgain crypto moderation publicSigKey
  · rw [replaceSig_of_signsAgain h]
    exact iff_of_false (Nat.pos_iff_ne_zero.mp h.1) (not_not.mpr h)
  · rw [replaceSig_of_not_signsAgain h]
    exact iff_of_true rfl h

theorem types_replaced (call : SanctionsCall) (crypto : SignCrypto) (moderation : Moderation)
    (publicSigKey : SigPublicKey) :
    (call.replaced crypto moderation publicSigKey).map (·.type) = moderation.sanctions.map (·.type) := by
  apply ext_getElem?
  intro index
  simp only [replaced, getElem?_map, getElem?_mapIdx]
  cases moderation.sanctions[index]? with
  | none => rfl
  | some sanction => simp [(of_replaceSig call crypto moderation publicSigKey index sanction).1]

end SanctionsCall

def Observers (sanctions : List ModSanction) : Prop := ∀ sanction ∈ sanctions, sanction.type = saObserver

instance {sanctions : List ModSanction} : Decidable (Observers sanctions) :=
  inferInstanceAs (Decidable (∀ sanction ∈ sanctions, _))

theorem observers_iff_types (sanctions : List ModSanction) :
    Observers sanctions ↔ ∀ type ∈ sanctions.map (·.type), type = saObserver := by
  rw [forall_mem_map]
  rfl

theorem GCChat.makeGcSanctionsListPacket_isSome_iff (chat : GCChat) :
    chat.makeGcSanctionsListPacket.isSome ↔ Observers chat.moderation.sanctions := by
  rw [makeGcSanctionsListPacket]
  constructor
  · intro hpacks
    obtain ⟨data, hdata⟩ := Option.isSome_iff_exists.mp hpacks
    unfold sanctionsListPack at hdata
    split at hdata
    · simp at hdata
    · rename_i hloop _
      exact (eq_wire_of_packLoop hloop).2
    · rename_i hloop _
      exact (eq_wire_of_packLoop hloop).2
  · intro htypes
    rw [sanctionsListPack_of_room _ htypes (by rw [Nat.mul_comm])]
    rfl

namespace UpdateSanctionsCall

variable {call : UpdateSanctionsCall} {crypto : SignCrypto} {env : ChatEnv} {chat : GCChat} {moderation : Moderation}
  {publicSigKey : SigPublicKey}

/-- `update_gc_sanctions_list` does not fail: a list that is signed again can be sent. -/
def Tells (call : UpdateSanctionsCall) (crypto : SignCrypto) (moderation : Moderation) (publicSigKey : SigPublicKey) :
    Prop :=
  call.sanctions.SignsAgain crypto moderation publicSigKey →
    call.broadcast = true ∧ Observers moderation.sanctions

theorem tells_withModList (modList : List SigPublicKey) (sharedStateVersion : UInt32) :
    call.Tells crypto { moderation with modList, sharedStateVersion } publicSigKey ↔
      call.Tells crypto moderation publicSigKey := Iff.rfl

theorem updateGcSanctionsList_cases (call : UpdateSanctionsCall) (crypto : SignCrypto) (env : ChatEnv) (chat : GCChat)
    (publicSigKey : SigPublicKey) :
    ∃ chat', GCChat.KeepsSigned chat chat' ∧
      ((call.Tells crypto chat.moderation publicSigKey ∧
          call.updateGcSanctionsList crypto env chat publicSigKey = (.ok, chat')) ∨
        (¬call.Tells crypto chat.moderation publicSigKey ∧
          ∃ code, call.updateGcSanctionsList crypto env chat publicSigKey = (.failed code, chat'))) := by
  have hmods := SanctionsCall.modList_replaceSig call.sanctions crypto chat.moderation publicSigKey
  have hsanctions := SanctionsCall.sanctions_replaceSig call.sanctions crypto chat.moderation publicSigKey
  have hzero := @SanctionsCall.replaceSig_eq_zero_iff call.sanctions crypto chat.moderation publicSigKey
  rw [updateGcSanctionsList]
  cases hreplace : call.sanctions.sanctionsListReplaceSig crypto chat.moderation publicSigKey with
  | mk numReplaced moderation =>
  rw [hreplace] at hmods hsanctions hzero
  have hobservers : GCChat.makeGcSanctionsListPacket { chat with moderation } = none ↔
      ¬Observers chat.moderation.sanctions := by
    rw [← Option.not_isSome_iff_eq_none, GCChat.makeGcSanctionsListPacket_isSome_iff, hsanctions,
      observers_iff_types, SanctionsCall.types_replaced, ← observers_iff_types]
  have hkeeps : GCChat.KeepsSigned chat { chat with moderation } := ⟨rfl, rfl, rfl, rfl, hmods, rfl, rfl, rfl⟩
  by_cases hagain : call.sanctions.SignsAgain crypto chat.moderation publicSigKey
  case neg =>
    refine ⟨{ chat with moderation }, hkeeps, .inl ⟨fun hyes => absurd hyes hagain, ?_⟩⟩
    simp only [if_pos (hzero.mpr hagain)]
  simp only [if_neg fun heq => hzero.mp heq hagain]
  cases hbroadcast : call.broadcast with
  | false =>
    refine ⟨{ chat with moderation }, hkeeps, .inr ⟨fun htells => ?_, -1, rfl⟩⟩
    simpa [hbroadcast] using (htells hagain).1
  | true =>
    cases hpacket : GCChat.makeGcSanctionsListPacket { chat with moderation } with
    | none =>
      exact ⟨{ chat with moderation }, hkeeps, .inr ⟨fun htells => hobservers.mp hpacket (htells hagain).2, -1, rfl⟩⟩
    | some packet =>
      refine ⟨_, ?_, .inl ⟨fun _ => ⟨hbroadcast, ?_⟩, rfl⟩⟩
      · have hsent := GCChat.gcGetSelfRole_sendGcLosslessPacketAllPeers { chat with moderation } env packet
          gpSanctionsList
        exact ⟨rfl, rfl, rfl, rfl, hmods, rfl, rfl, hsent⟩
      · by_contra hnot
        simp [hobservers.mpr hnot] at hpacket

end UpdateSanctionsCall

/-! ## The topic of a removed moderator -/

def GCChat.TopicVerified (crypto : SignCrypto) (chat : GCChat) : Prop :=
  crypto.signatureVerify chat.topicSig (packGcTopicInfo chat.topicInfo) chat.topicInfo.publicSigKey = true

namespace TopicCall

variable {call : TopicCall} {crypto : SignCrypto} {env : ChatEnv} {chat : GCChat} {secretKey : SigSecretKey}
  {publicSigKey : SigPublicKey}

/-- `update_gc_topic` may not set the topic that the moderator has signed. -/
def Refuses (chat : GCChat) (publicSigKey : SigPublicKey) : Prop :=
  publicSigKey = chat.topicInfo.publicSigKey ∧ ¬Allowed chat chat.topicInfo.topic

/-- `update_gc_topic` does not fail: a topic of the moderator that may be set is packed, signed and sent. -/
def Tells (call : TopicCall) (crypto : SignCrypto) (chat : GCChat) (secretKey : SigSecretKey)
    (publicSigKey : SigPublicKey) : Prop :=
  publicSigKey = chat.topicInfo.publicSigKey → Allowed chat chat.topicInfo.topic →
    call.packed = true ∧ call.Signs crypto chat secretKey chat.topicInfo.topic ∧ call.broadcast = true

theorem updateGcTopic_cases (call : TopicCall) (crypto : SignCrypto) (env : ChatEnv) (chat : GCChat)
    (secretKey : SigSecretKey) (publicSigKey : SigPublicKey) :
    ∃ chat', Keeps chat chat' ∧
      ((Refuses chat publicSigKey ∧
          ∃ code, call.updateGcTopic crypto env chat secretKey publicSigKey = (.refused code, chat')) ∨
        (¬Refuses chat publicSigKey ∧ call.Tells crypto chat secretKey publicSigKey ∧
          call.updateGcTopic crypto env chat secretKey publicSigKey = (.ok, chat') ∧
          (crypto.KeyPair secretKey chat.selfPublicKey.sig → chat.TopicVerified crypto →
            chat'.TopicVerified crypto)) ∨
        (¬Refuses chat publicSigKey ∧ ¬call.Tells crypto chat secretKey publicSigKey ∧
          ∃ code, call.updateGcTopic crypto env chat secretKey publicSigKey = (.failed code, chat'))) := by
  have hrefl : Keeps chat chat := ⟨rfl, rfl, rfl, rfl, rfl, rfl⟩
  rw [updateGcTopic]
  by_cases hsigner : publicSigKey = chat.topicInfo.publicSigKey
  case neg =>
    rw [if_pos hsigner]
    refine ⟨chat, hrefl, .inr (.inl ⟨fun hrefuses => hsigner hrefuses.1, fun heq => absurd heq hsigner, rfl, ?_⟩)⟩
    exact fun _ hverified => hverified
  rw [if_neg (not_not.mpr hsigner)]
  by_cases hallowed : Allowed chat chat.topicInfo.topic
  case neg =>
    obtain ⟨code, hcall⟩ :=
      @gcSetTopic_of_not_allowed call crypto env chat secretKey chat.topicInfo.topic hallowed
    exact ⟨chat, hrefl, .inl ⟨⟨hsigner, hallowed⟩, code, hcall⟩⟩
  have hnot : ¬Refuses chat publicSigKey := fun hrefuses => hrefuses.2 hallowed
  obtain ⟨hpacked, hcall⟩ | ⟨hpacked, hfails, code, hcall⟩ |
      ⟨hpacked, hsigns, hbroadcast, topicSig, chat', hcall, hcreate, htopic, hsig, hkeeps⟩ :=
    gcSetTopic_cases call crypto env secretKey hallowed
  · refine ⟨{ chat with topicInfo := newTopicInfo chat chat.topicInfo.topic }, ⟨rfl, rfl, rfl, rfl, rfl, rfl⟩,
      .inr (.inr ⟨hnot, fun htells => ?_, _, hcall⟩)⟩
    simpa [hpacked] using (htells hsigner hallowed).1
  · exact ⟨_, hrefl, .inr (.inr ⟨hnot, fun htells => hfails (htells hsigner hallowed).2, _, hcall⟩)⟩
  · refine ⟨chat', hkeeps, .inr (.inl ⟨hnot, fun _ _ => ⟨hpacked, hsigns, hbroadcast⟩, hcall, fun hkey _ => ?_⟩)⟩
    rw [GCChat.TopicVerified, hsig, htopic]
    exact hkey.of_trySignatureCreate hcreate

end TopicCall

/-! ## The moderator list -/

namespace ModListCall

variable {call : ModListCall} {crypto : SignCrypto} {moderation : Moderation}

/-- `mod_list_make_hash` has room for the packed list. -/
def Hashes (call : ModListCall) (modList : List SigPublicKey) : Prop := modList = [] ∨ call.array = true

theorem modListMakeHash_of_hashes {modList : List SigPublicKey} (h : call.Hashes modList) :
    call.modListMakeHash crypto modList = some (Toxcore.modListMakeHash crypto modList) := by
  rw [modListMakeHash, Toxcore.modListMakeHash]
  split
  · rfl
  · rename_i hne
    have harray := h.resolve_left fun hnil => hne (by simp [hnil])
    simp [harray]

theorem modListMakeHash_of_not_hashes {modList : List SigPublicKey} (h : ¬call.Hashes modList) :
    call.modListMakeHash crypto modList = none := by
  rw [Hashes, not_or] at h
  rw [modListMakeHash, if_neg fun hlength => h.1 (length_eq_zero_iff.mp hlength), if_pos (by simpa using h.2)]

theorem modListRemoveIndex_eq (call : ModListCall) (moderation : Moderation) {index : Nat}
    (h : index < moderation.modList.length) :
    ∃ modList, modList.Perm (moderation.modList.eraseIdx index) ∧
      call.modListRemoveIndex moderation index =
        (decide (moderation.modList.length = 1) || call.array, { moderation with modList }) := by
  have hlast : moderation.modList[moderation.modList.length - 1]? =
      some (moderation.modList.getD (moderation.modList.length - 1) (Vector.replicate _ 0)) := by
    rw [getD_eq_getElem?_getD, getElem?_eq_getElem (by omega)]
    rfl
  rw [modListRemoveIndex, if_neg (by omega)]
  by_cases hone : moderation.modList.length = 1
  · rw [hone]
    refine ⟨[], ?_, rfl⟩
    rw [length_eq_one_iff] at hone
    obtain ⟨key, hkey⟩ := hone
    rw [hkey] at h ⊢
    obtain rfl : index = 0 := by simpa using h
    simp
  · rw [if_neg (by omega)]
    refine ⟨_, ?_, by simp only [hone, decide_false, Bool.false_or]; rfl⟩
    split
    · rw [length_set]
      exact List.take_set_perm_eraseIdx h hlast
    · rename_i hindex
      obtain rfl : index = moderation.modList.length - 1 := not_not.mp hindex
      have hself : moderation.modList.set (moderation.modList.length - 1)
          (moderation.modList.getD (moderation.modList.length - 1) (Vector.replicate _ 0)) = moderation.modList := by
        apply ext_getElem?
        intro i
        rw [getElem?_set]
        split
        · rename_i hi
          rw [← hi, hlast]
        · rfl
      have hperm := List.take_set_perm_eraseIdx h hlast
      rw [hself] at hperm
      exact hperm

end ModListCall

structure LostMod (chat : GCChat) (modList modList' : List SigPublicKey) : Prop where
  shorter : modList'.length < modList.length
  counts : ∀ key, modList'.count key ≤ modList.count key
  lost : ∃ key, chat.getPeerNumberOfSigPk key = none ∧ modList'.count key < modList.count key

theorem LostMod.trans {chat : GCChat} {modList modList' modList'' : List SigPublicKey}
    (h : LostMod chat modList modList') (h' : LostMod chat modList' modList'') : LostMod chat modList modList'' := by
  obtain ⟨key, hoffline, hlt⟩ := h.lost
  have hle := h'.counts key
  exact ⟨Nat.lt_trans h'.shorter h.shorter, fun other => Nat.le_trans (h'.counts other) (h.counts other), key,
    hoffline, by omega⟩

theorem lostMod_of_perm {chat : GCChat} {modList modList' : List SigPublicKey} {index : Nat}
    (h : index < modList.length) (hoffline : chat.getPeerNumberOfSigPk modList[index] = none)
    (hperm : modList'.Perm (modList.eraseIdx index)) : LostMod chat modList modList' := by
  have hlength : modList'.length = modList.length - 1 := by
    rw [hperm.length_eq, length_eraseIdx_of_lt h]
  have hsub : (modList.eraseIdx index).Sublist modList := eraseIdx_sublist _ _
  refine ⟨by omega, fun key => ?_, modList[index], hoffline, ?_⟩
  · rw [hperm.count_eq]
    exact hsub.count_le key
  · have hcons : (modList[index] :: modList.eraseIdx index).Perm modList := getElem_cons_eraseIdx_perm h
    have hcount := hcons.count_eq modList[index]
    rw [count_cons_self] at hcount
    rw [hperm.count_eq]
    omega

theorem LostMod.append_ne {chat : GCChat} {modList modList' : List SigPublicKey} (h : LostMod chat modList modList')
    {publicSigKey : SigPublicKey} (honline : chat.getPeerNumberOfSigPk publicSigKey ≠ none) :
    modList' ++ [publicSigKey] ≠ modList := by
  obtain ⟨key, hoffline, hlt⟩ := h.lost
  intro heq
  have hne : publicSigKey ≠ key := by
    rintro rfl
    exact honline hoffline
  rw [← heq, count_append, count_singleton, if_neg (by simpa using hne)] at hlt
  omega

namespace PruneModsCall

variable {call : PruneModsCall} {crypto : SignCrypto} {env : ChatEnv} {chat : GCChat}

/-- What the loop of `prune_gc_mod_list` does: nothing where all are online, and otherwise it loses a moderator. -/
structure LoopLoses (chat : GCChat) (moderation : Moderation) (loop : PrunedMods) : Prop where
  only : ∃ modList, loop.moderation = { moderation with modList }
  lost : LostMod chat moderation.modList loop.moderation.modList
  failed : loop.pruned = none → loop.failed = true

theorem pruneLoop_cases (call : PruneModsCall) (chat : GCChat) (rounds i : Nat) (failed : Bool)
    (moderation : Moderation) (hrounds : moderation.modList.length ≤ i + rounds) :
    ((∀ key ∈ moderation.modList.drop i, chat.getPeerNumberOfSigPk key ≠ none) ∧
        call.pruneLoop chat rounds i failed moderation = { moderation, pruned := none, failed }) ∨
      ((∃ key ∈ moderation.modList.drop i, chat.getPeerNumberOfSigPk key = none) ∧
        LoopLoses chat moderation (call.pruneLoop chat rounds i failed moderation)) := by
  induction rounds generalizing i failed moderation with
  | zero =>
    left
    refine ⟨fun key hmem => ?_, rfl⟩
    rw [drop_eq_nil_of_le (by omega)] at hmem
    simp at hmem
  | succ rounds ih =>
    rw [pruneLoop]
    by_cases hi : i < moderation.modList.length
    case neg =>
      left
      rw [getElem?_eq_none (by omega), drop_eq_nil_of_le (by omega)]
      exact ⟨fun _ hmem => by simp at hmem, rfl⟩
    rw [getElem?_eq_getElem hi, drop_eq_getElem_cons hi]
    simp only [mem_cons, forall_eq_or_imp, exists_eq_or_imp]
    cases honline : chat.getPeerNumberOfSigPk moderation.modList[i] with
    | some number =>
      -- the next entry
      simpa using ih (i + 1) failed moderation (by omega)
    | none =>
      right
      obtain ⟨modList, hperm, hremove⟩ := ModListCall.modListRemoveIndex_eq (call.removal i) moderation hi
      have hlost := lostMod_of_perm hi honline hperm
      have hshorter := hlost.shorter
      refine ⟨.inl rfl, ?_⟩
      simp only [hremove]
      cases hdone : decide (moderation.modList.length = 1) || (call.removal i).array with
      | true => exact ⟨⟨modList, rfl⟩, hlost, fun hnone => by simp at hnone⟩
      | false =>
        -- the list is shorter although the removal has failed, and the loop goes on with it
        simp only
        obtain ⟨-, hloop⟩ | ⟨-, hloses⟩ := ih (i + 1) true { moderation with modList } (by simp only; omega)
        · rw [hloop]
          exact ⟨⟨modList, rfl⟩, hlost, fun _ => rfl⟩
        · obtain ⟨modList', hmoderation⟩ := hloses.only
          exact ⟨⟨modList', hmoderation⟩, hlost.trans hloses.lost, hloses.failed⟩

end PruneModsCall

/-! ## Signing the hash of the list -/

namespace SetModeratorCall

open GCChat

variable {call : SetModeratorCall} {crypto : SignCrypto} {env : ChatEnv} {group : GCGroup}

def SignsMods (crypto : SignCrypto) (outcome : Bool) (state : GCSharedState) (modList : List SigPublicKey)
    (secretKey : SigSecretKey) : Prop :=
  SignsState (crypto.withOutcome outcome) { state with modListHash := Toxcore.modListMakeHash crypto modList } secretKey

/-- The last part does not fail: the list is hashed, and the state is signed and sent. -/
def Publishes (call : SetModeratorCall) (crypto : SignCrypto) (state : GCSharedState) (modList : List SigPublicKey)
    (secretKey : SigSecretKey) : Prop :=
  call.hash.Hashes modList ∧ SignsMods crypto call.stateSigned state modList secretKey ∧ call.setMod = true

theorem keepsRest_sendGcBroadcastMessage (chat : GCChat) (env : ChatEnv) (data : Bytes) (bcType : UInt8) :
    chat.KeepsRest (chat.sendGcBroadcastMessage env data bcType).2 := by
  rw [sendGcBroadcastMessage]
  split
  · exact .refl chat
  · exact keepsRest_sendGcLosslessPacketAllPeers chat env _ gpBroadcast

theorem sharedState_sendGcBroadcastMessage (chat : GCChat) (env : ChatEnv) (data : Bytes) (bcType : UInt8) :
    (chat.sendGcBroadcastMessage env data bcType).2.sharedState = chat.sharedState ∧
      (chat.sendGcBroadcastMessage env data bcType).2.sharedStateSig = chat.sharedStateSig := by
  rw [sendGcBroadcastMessage]
  split <;> exact ⟨rfl, rfl⟩

theorem keyPair_withOutcome {secretKey : SigSecretKey} {publicKey : SigPublicKey}
    (h : crypto.KeyPair secretKey publicKey) (outcome : Bool) :
    (crypto.withOutcome outcome).KeyPair secretKey publicKey := fun _ _ hsign => h.of_trySignatureCreate hsign

theorem publishModList_cases (call : SetModeratorCall) (crypto : SignCrypto) (env : ChatEnv) (group : GCGroup)
    (publicSigKey : SigPublicKey) (addMod : Bool) (h : group.chat.selfGcIsFounder = true) :
    ∃ group', group'.chat.moderation.modList = group.chat.moderation.modList ∧
      ((call.Publishes crypto group.chat.sharedState group.chat.moderation.modList group.chatSecretKey.sig ∧
          call.publishModList crypto env group publicSigKey addMod = (.ok, group') ∧
          (crypto.KeyPair group.chatSecretKey.sig group.chat.chatPublicKey.sig →
            group.chat.TopicVerified crypto → group'.chat.Verified crypto)) ∨
        (¬call.Publishes crypto group.chat.sharedState group.chat.moderation.modList group.chatSecretKey.sig ∧
          ∃ code, call.publishModList crypto env group publicSigKey addMod = (.failed code, group'))) := by
  rw [publishModList]
  by_cases hhashes : call.hash.Hashes group.chat.moderation.modList
  case neg =>
    rw [ModListCall.modListMakeHash_of_not_hashes hhashes]
    exact ⟨group, rfl, .inr ⟨fun hpublishes => hhashes hpublishes.1, _, rfl⟩⟩
  rw [ModListCall.modListMakeHash_of_hashes hhashes]
  let hashed : GCChat := { group.chat with
    sharedState := { group.chat.sharedState with
      modListHash := Toxcore.modListMakeHash crypto group.chat.moderation.modList } }
  have hhashed : group.chat.KeepsRest hashed := ⟨rfl, rfl, ⟨_, rfl⟩, rfl, rfl, rfl⟩
  obtain ⟨hsigns, chat', hsign, hkeeps, hstate, hsig⟩ | ⟨hsigns, chat', hsign, hkeeps, hstate, hsig⟩ :=
    @signGcSharedState_cases hashed (crypto.withOutcome call.stateSigned) group.chatSecretKey.sig h
  case inr =>
    simp only [hashed] at hsign
    simp only [hsign]
    refine ⟨_, ?_, .inr ⟨fun hpublishes => hsigns hpublishes.2.1, _, rfl⟩⟩
    exact (hhashed.trans hkeeps).modList
  simp only [hashed] at hsign
  simp only [hsign]
  cases hsetMod : call.setMod with
  | false =>
    refine ⟨_, ?_, .inr ⟨fun hpublishes => ?_, _, rfl⟩⟩
    · exact (hhashed.trans hkeeps).modList
    · simpa [hsetMod] using hpublishes.2.2
  | true =>
    -- both packets leave everything as it is but the peers
    let sent := chat'.broadcastGcSharedState env
    let data : Bytes := (if addMod then 1 else 0) :: publicSigKey.toList
    have hsent : group.chat.KeepsRest sent :=
      (hhashed.trans hkeeps).trans (keepsRest_sendGcLosslessPacketAllPeers chat' _ _ gpSharedState)
    have hstateSent := sharedState_sendGcBroadcastMessage sent env data gmSetMod
    have hall := hsent.trans (keepsRest_sendGcBroadcastMessage sent env data gmSetMod)
    refine ⟨{ group with chat := (sent.sendGcBroadcastMessage env data gmSetMod).2 }, hall.modList,
      .inl ⟨⟨hhashes, hsigns, hsetMod⟩, rfl, fun hkey htopic => ?_⟩⟩
    have hsigned : GCChat.Signed (crypto.withOutcome call.stateSigned) group.chat
        (sent.sendGcBroadcastMessage env data gmSetMod).2 group.chatSecretKey.sig hashed.sharedState := by
      refine ⟨hall, ?_, ?_⟩
      · rw [hstateSent.1]
        exact hstate
      · rw [hstateSent.1, hstateSent.2]
        exact hsig
    obtain ⟨hverified, htopicVerified, hmods⟩ := hsigned.verified (keyPair_withOutcome hkey _) htopic rfl
    exact ⟨hverified, htopicVerified, hmods⟩

end SetModeratorCall

/-! ## Pruning the list -/

theorem TopicCall.tells_congr {call : TopicCall} {crypto : SignCrypto} {chat chat' : GCChat} {secretKey : SigSecretKey}
    {publicSigKey : SigPublicKey} (hlock : chat'.sharedState.topicLock = chat.sharedState.topicLock)
    (hinfo : chat'.topicInfo = chat.topicInfo) (hself : chat'.selfPublicKey = chat.selfPublicKey)
    (hrole : chat'.gcGetSelfRole = chat.gcGetSelfRole) :
    (Refuses chat' publicSigKey ↔ Refuses chat publicSigKey) ∧
      (call.Tells crypto chat' secretKey publicSigKey ↔ call.Tells crypto chat secretKey publicSigKey) := by
  have henabled : chat'.groupTopicLockEnabled = chat.groupTopicLockEnabled := by
    simp [GCChat.groupTopicLockEnabled, hlock]
  constructor
  · simp only [Refuses, Allowed, hinfo, hrole, henabled]
  · simp only [Tells, Allowed, Signs, newTopicInfo, hinfo, hrole, henabled, hself]

namespace PruneModsCall

open GCChat SetModeratorCall

variable {call : PruneModsCall} {crypto : SignCrypto} {env : ChatEnv} {group : GCGroup}

/-- The loop of `prune_gc_mod_list` over the whole list. -/
def prunedMods (call : PruneModsCall) (group : GCGroup) : PrunedMods :=
  call.pruneLoop group.chat group.chat.moderation.modList.length 0 false group.chat.moderation

/-- Nothing fails in `prune_gc_mod_list` once a moderator is pruned. -/
def Prunes (call : PruneModsCall) (crypto : SignCrypto) (group : GCGroup) (publicSigKey : SigPublicKey) : Prop :=
  let modList := (call.prunedMods group).moderation.modList
  call.hash.Hashes modList ∧
    SignsMods crypto call.stateSigned group.chat.sharedState modList group.chatSecretKey.sig ∧
    call.modListBroadcast = true ∧ call.sanctions.Tells crypto group.chat.moderation publicSigKey ∧
    call.topic.Tells crypto group.chat group.selfSecretSigKey publicSigKey

structure Pruned (crypto : SignCrypto) (group group' : GCGroup) (modList : List SigPublicKey) : Prop where
  state : group'.chat.sharedState =
    { group.chat.sharedState with
      modListHash := Toxcore.modListMakeHash crypto modList
      version := nextVersion group.chat.sharedState.version }
  modList : group'.chat.moderation.modList = modList
  role : group'.chat.gcGetSelfRole = group.chat.gcGetSelfRole
  chatPublicKey : group'.chat.chatPublicKey = group.chat.chatPublicKey
  chatSecretKey : group'.chatSecretKey = group.chatSecretKey
  topic : crypto.KeyPair group.selfSecretSigKey group.chat.selfPublicKey.sig → group.chat.TopicVerified crypto →
    group'.chat.TopicVerified crypto

/-- The part of `prune_gc_mod_list` behind the loop. -/
def finish (call : PruneModsCall) (crypto : SignCrypto) (env : ChatEnv) (group : GCGroup) (moderation : Moderation)
    (publicSigKey : SigPublicKey) : SetResult × GCGroup :=
  match call.hash.modListMakeHash crypto moderation.modList with
  | none => (.failed (-1), { group with chat := { group.chat with moderation } })
  | some modListHash =>
    let chat := { group.chat with moderation, sharedState := { group.chat.sharedState with modListHash } }
    match chat.signGcSharedState (crypto.withOutcome call.stateSigned) group.chatSecretKey.sig with
    | (false, chat) => (.failed (-1), { group with chat })
    | (true, chat) =>
      let chat := chat.broadcastGcSharedState env
      if !call.modListBroadcast then (.failed (-1), { group with chat })
      else
        let chat := chat.sendGcLosslessPacketAllPeers env chat.makeGcModListPacket gpModList
        match call.sanctions.updateGcSanctionsList crypto env chat publicSigKey with
        | (.ok, chat) =>
          match call.topic.updateGcTopic crypto env chat group.selfSecretSigKey publicSigKey with
          | (result, chat) => (result, { group with chat })
        | (result, chat) => (result, { group with chat })

theorem finish_cases (call : PruneModsCall) (crypto : SignCrypto) (env : ChatEnv) (key : SigPublicKey)
    {modList : List SigPublicKey}
    (hmoderation : (call.prunedMods group).moderation = { group.chat.moderation with modList })
    (h : group.chat.selfGcIsFounder = true) :
    ∃ group', group'.chat.moderation.modList = (call.prunedMods group).moderation.modList ∧
      ((call.Prunes crypto group key ∧ TopicCall.Refuses group.chat key ∧
          ∃ code, call.finish crypto env group (call.prunedMods group).moderation key = (.refused code, group')) ∨
        (call.Prunes crypto group key ∧ ¬TopicCall.Refuses group.chat key ∧
          call.finish crypto env group (call.prunedMods group).moderation key = (.ok, group') ∧
          Pruned crypto group group' (call.prunedMods group).moderation.modList) ∨
        (¬call.Prunes crypto group key ∧
          ∃ code, call.finish crypto env group (call.prunedMods group).moderation key = (.failed code, group'))) := by
  rw [Prunes]
  simp only [hmoderation]
  rw [finish]
  by_cases hhashes : call.hash.Hashes modList
  case neg =>
    rw [ModListCall.modListMakeHash_of_not_hashes hhashes]
    exact ⟨{ group with chat := { group.chat with moderation := { group.chat.moderation with modList } } }, rfl,
      .inr (.inr ⟨fun hprunes => hhashes hprunes.1, _, rfl⟩)⟩
  rw [ModListCall.modListMakeHash_of_hashes hhashes]
  let hashed : GCChat := { group.chat with
    moderation := { group.chat.moderation with modList }
    sharedState := { group.chat.sharedState with modListHash := Toxcore.modListMakeHash crypto modList } }
  obtain ⟨hsigns, chat', hsign, hkeeps, hstate, hsig⟩ | ⟨hsigns, chat', hsign, hkeeps, hstate, hsig⟩ :=
    @signGcSharedState_cases hashed (crypto.withOutcome call.stateSigned) group.chatSecretKey.sig h
  case inr =>
    simp only [hashed] at hsign
    simp only [hsign]
    exact ⟨{ group with chat := chat' }, hkeeps.modList, .inr (.inr ⟨fun hprunes => hsigns hprunes.2.1, _, rfl⟩)⟩
  simp only [hashed] at hsign
  simp only [hsign]
  cases hbroadcast : call.modListBroadcast with
  | false =>
    refine ⟨{ group with chat := chat'.broadcastGcSharedState env }, hkeeps.modList,
      .inr (.inr ⟨fun hprunes => ?_, _, rfl⟩)⟩
    simp at hprunes
  | true =>
    -- the chat after the shared state and the moderator list have been sent
    let sent := chat'.broadcastGcSharedState env
    let sentMods := sent.sendGcLosslessPacketAllPeers env sent.makeGcModListPacket gpModList
    have hsent : hashed.KeepsRest sentMods :=
      (hkeeps.trans (keepsRest_sendGcLosslessPacketAllPeers chat' _ _ gpSharedState)).trans
        (keepsRest_sendGcLosslessPacketAllPeers sent _ _ gpModList)
    have hsentState : sentMods.sharedState =
        { hashed.sharedState with version := nextVersion hashed.sharedState.version } := hstate
    obtain ⟨version, hsentModeration⟩ := hsent.moderation
    obtain ⟨chat'', hkept, hsanctions⟩ :=
      UpdateSanctionsCall.updateGcSanctionsList_cases call.sanctions crypto env sentMods key
    rw [hsentModeration] at hsanctions
    have hlist : chat''.moderation.modList = modList := hkept.modList.trans hsent.modList
    obtain ⟨htells, hupdate⟩ | ⟨htells, code, hupdate⟩ := hsanctions
    case inr =>
      refine ⟨{ group with chat := chat'' }, hlist, .inr (.inr ⟨fun hprunes => htells hprunes.2.2.2.1, code, ?_⟩)⟩
      simp only [sentMods, sent] at hupdate
      simp only [hupdate]
      rfl
    simp only [sentMods, sent] at hupdate
    simp only [hupdate]
    have hinfo : chat''.topicInfo = group.chat.topicInfo := hkept.topicInfo.trans hsent.topicInfo
    have hself : chat''.selfPublicKey = group.chat.selfPublicKey := hkept.selfPublicKey.trans hsent.selfPublicKey
    have hrole : chat''.gcGetSelfRole = group.chat.gcGetSelfRole := hkept.role.trans hsent.role
    have hlock : chat''.sharedState.topicLock = group.chat.sharedState.topicLock := by
      rw [hkept.sharedState, hsentState]
    obtain ⟨hrefusesIff, htellsIff⟩ := @TopicCall.tells_congr call.topic crypto group.chat chat''
      group.selfSecretSigKey key hlock hinfo hself hrole
    obtain ⟨chatTold, hkeeps', htopic⟩ :=
      TopicCall.updateGcTopic_cases call.topic crypto env chat'' group.selfSecretSigKey key
    rw [hrefusesIff, htellsIff] at htopic
    have hlist' : chatTold.moderation.modList = modList := by
      rw [hkeeps'.moderation]
      exact hlist
    refine ⟨{ group with chat := chatTold }, hlist', ?_⟩
    obtain ⟨hrefuses, code, hcall⟩ | ⟨hrefuses, htellsTopic, hcall, hverified⟩ | ⟨hrefuses, htellsTopic, code, hcall⟩ :=
      htopic
    · left
      refine ⟨⟨hhashes, hsigns, trivial, htells, fun hsigner hallowed => absurd hallowed hrefuses.2⟩, hrefuses, code, ?_⟩
      simp [hcall]
    · refine .inr (.inl ⟨⟨hhashes, hsigns, trivial, htells, htellsTopic⟩, hrefuses, by simp [hcall], ?_⟩)
      refine ⟨?_, hlist', hkeeps'.role.trans hrole, ?_, rfl, fun hkey hold => hverified ?_ ?_⟩
      · rw [hkeeps'.sharedState, hkept.sharedState]
        exact hsentState
      · exact hkeeps'.chatPublicKey.trans (hkept.chatPublicKey.trans hsent.chatPublicKey)
      · rw [hself]
        exact hkey
      · rw [TopicVerified, hinfo, hkept.topicSig.trans hsent.topicSig]
        exact hold
    · exact .inr (.inr ⟨fun hprunes => htellsTopic hprunes.2.2.2.2, code, by simp [hcall]⟩)

theorem pruneGcModList_cases (call : PruneModsCall) (crypto : SignCrypto) (env : ChatEnv)
    (hmods : group.chat.moderation.modList ≠ []) (h : group.chat.selfGcIsFounder = true) :
    ((∀ key ∈ group.chat.moderation.modList, group.chat.getPeerNumberOfSigPk key ≠ none) ∧
      ∃ code, call.pruneGcModList crypto env group = (.refused code, group)) ∨
    ((∃ key ∈ group.chat.moderation.modList, group.chat.getPeerNumberOfSigPk key = none) ∧
      ∃ group', LostMod group.chat group.chat.moderation.modList group'.chat.moderation.modList ∧
        ((∃ key, (call.prunedMods group).pruned = some key ∧ call.Prunes crypto group key ∧
            TopicCall.Refuses group.chat key ∧
            ∃ code, call.pruneGcModList crypto env group = (.refused code, group')) ∨
          (∃ key, (call.prunedMods group).pruned = some key ∧ call.Prunes crypto group key ∧
            ¬TopicCall.Refuses group.chat key ∧
            call.pruneGcModList crypto env group = (.ok, group') ∧
            Pruned crypto group group' (call.prunedMods group).moderation.modList) ∨
          ((∀ key, (call.prunedMods group).pruned = some key → ¬call.Prunes crypto group key) ∧
            ∃ code, call.pruneGcModList crypto env group = (.failed code, group')))) := by
  have hlength : group.chat.moderation.modList.length ≠ 0 := fun hzero => hmods (length_eq_zero_iff.mp hzero)
  have hcases := pruneLoop_cases call group.chat group.chat.moderation.modList.length 0 false group.chat.moderation
    (by omega)
  rw [pruneGcModList, if_neg hlength]
  simp only
  obtain ⟨honline, hloop⟩ | ⟨hoffline, hloses⟩ := hcases
  · left
    refine ⟨honline, -1, ?_⟩
    simp only [hloop]
    rfl
  right
  refine ⟨hoffline, ?_⟩
  rw [← prunedMods.eq_1] at hloses ⊢
  obtain ⟨⟨modList, hmoderation⟩, hlost, hfailed⟩ := hloses
  cases hpruned : (call.prunedMods group).pruned with
  | none =>
    refine ⟨{ group with chat := { group.chat with moderation := (call.prunedMods group).moderation } }, hlost,
      .inr (.inr ⟨fun key hkey => by simp at hkey, -1, ?_⟩)⟩
    simp only [hfailed hpruned, if_true]
  | some key =>
    obtain ⟨group', hlist, hfinish⟩ := finish_cases call crypto env key hmoderation h
    rw [← hlist] at hlost
    obtain ⟨hprunes, hrefuses, code, hresult⟩ | ⟨hprunes, hrefuses, hresult, hgroup⟩ | ⟨hprunes, code, hresult⟩ := hfinish
    · exact ⟨group', hlost, .inl ⟨key, rfl, hprunes, hrefuses, code, hresult⟩⟩
    · exact ⟨group', hlost, .inr (.inl ⟨key, rfl, hprunes, hrefuses, hresult, hgroup⟩)⟩
    · refine ⟨group', hlost, .inr (.inr ⟨fun other hother => ?_, code, hresult⟩)⟩
      cases hother
      exact hprunes

end PruneModsCall

/-! ## Setting a moderator -/

def Setter.Keeps (crypto : SignCrypto) (group : GCGroup) (result : SetResult × GCGroup) : Prop :=
  SetterKeeps crypto group.chat result.2.chat result.1.Failed (result.1 = .ok)

namespace SetModeratorCall

open GCChat

variable {call : SetModeratorCall} {crypto : SignCrypto} {env : ChatEnv} {group : GCGroup} {gconn : GCConnection}

def KeepsAdding (call : SetModeratorCall) (crypto : SignCrypto) (state : GCSharedState) (secretKey : SigSecretKey)
    (modList : List SigPublicKey) (publicSigKey : SigPublicKey) : Prop :=
  modList.length < modMaxNumModerators → call.modList.array = true → call.modList.entry modList.length = true →
    call.Publishes crypto state (modList ++ [publicSigKey]) secretKey

/-- What is asked of adding a moderator to a full list: once a moderator is pruned nothing fails. -/
def KeepsReplacing (call : SetModeratorCall) (crypto : SignCrypto) (group : GCGroup) (publicSigKey : SigPublicKey) :
    Prop :=
  (∃ key ∈ group.chat.moderation.modList, group.chat.getPeerNumberOfSigPk key = none) →
    ∃ key, (call.prune.prunedMods group).pruned = some key ∧ call.prune.Prunes crypto group key ∧
      let modList := (call.prune.prunedMods group).moderation.modList
      (¬TopicCall.Refuses group.chat key → modList.length < modMaxNumModerators →
        call.modList.array = true ∧ call.modList.entry modList.length = true ∧
          call.Publishes crypto
            { group.chat.sharedState with
              modListHash := Toxcore.modListMakeHash crypto modList
              version := nextVersion group.chat.sharedState.version }
            (modList ++ [publicSigKey]) group.chatSecretKey.sig)

/-- What is asked of removing a moderator: the list can be shrunk, and after that nothing fails. -/
def KeepsRemoving (call : SetModeratorCall) (crypto : SignCrypto) (group : GCGroup) (publicSigKey : SigPublicKey) :
    Prop :=
  publicSigKey ∈ group.chat.moderation.modList →
    (group.chat.moderation.modList.length = 1 ∨ call.modList.array = true) ∧
      call.sanctions.Tells crypto group.chat.moderation publicSigKey ∧
      call.topic.Tells crypto group.chat group.selfSecretSigKey publicSigKey ∧
      (¬TopicCall.Refuses group.chat publicSigKey →
        call.Publishes crypto group.chat.sharedState
          (call.modList.modListRemoveEntry group.chat.moderation publicSigKey).2.modList group.chatSecretKey.sig)

def KeepsModerator (call : SetModeratorCall) (crypto : SignCrypto) (group : GCGroup) (publicSigKey : SigPublicKey)
    (addMod : Bool) : Prop :=
  group.chat.selfGcIsFounder = true →
    if addMod = true then
      if group.chat.moderation.modList.length < modMaxNumModerators then
        call.KeepsAdding crypto group.chat.sharedState group.chatSecretKey.sig group.chat.moderation.modList publicSigKey
      else call.KeepsReplacing crypto group publicSigKey
    else call.KeepsRemoving crypto group publicSigKey

/-- The part of `founder_gc_set_moderator` behind making room. -/
def addToList (call : SetModeratorCall) (crypto : SignCrypto) (env : ChatEnv) (group : GCGroup)
    (publicSigKey : SigPublicKey) : SetResult × GCGroup :=
  match call.modList.modListAddEntry group.chat.moderation publicSigKey with
  | (false, moderation) =>
    (if group.chat.moderation.modList.length ≥ modMaxNumModerators then .refused (-1) else .failed (-1),
      { group with chat := { group.chat with moderation } })
  | (true, moderation) =>
    call.publishModList crypto env { group with chat := { group.chat with moderation } } publicSigKey true

theorem addToList_cases (call : SetModeratorCall) (crypto : SignCrypto) (env : ChatEnv) (group : GCGroup)
    (publicSigKey : SigPublicKey) (h : group.chat.selfGcIsFounder = true) :
    (¬group.chat.moderation.modList.length < modMaxNumModerators ∧
      ∃ code, call.addToList crypto env group publicSigKey = (.refused code, group)) ∨
    (group.chat.moderation.modList.length < modMaxNumModerators ∧
      ¬(call.modList.array = true ∧ call.modList.entry group.chat.moderation.modList.length = true) ∧
      ∃ code, call.addToList crypto env group publicSigKey = (.failed code, group)) ∨
    (group.chat.moderation.modList.length < modMaxNumModerators ∧
      (call.modList.array = true ∧ call.modList.entry group.chat.moderation.modList.length = true) ∧
      ∃ group', group'.chat.moderation.modList = group.chat.moderation.modList ++ [publicSigKey] ∧
        ((call.Publishes crypto group.chat.sharedState (group.chat.moderation.modList ++ [publicSigKey])
              group.chatSecretKey.sig ∧
            call.addToList crypto env group publicSigKey = (.ok, group') ∧
            (crypto.KeyPair group.chatSecretKey.sig group.chat.chatPublicKey.sig →
              group.chat.TopicVerified crypto → group'.chat.Verified crypto)) ∨
          (¬call.Publishes crypto group.chat.sharedState (group.chat.moderation.modList ++ [publicSigKey])
              group.chatSecretKey.sig ∧
            ∃ code, call.addToList crypto env group publicSigKey = (.failed code, group')))) := by
  rw [addToList, ModListCall.modListAddEntry]
  by_cases hroom : group.chat.moderation.modList.length < modMaxNumModerators
  case neg =>
    left
    simp only [if_pos (show group.chat.moderation.modList.length ≥ modMaxNumModerators by omega)]
    exact ⟨hroom, _, rfl⟩
  right
  rw [if_neg (by omega)]
  cases harray : call.modList.array with
  | false =>
    left
    simp only [if_neg (show ¬group.chat.moderation.modList.length ≥ modMaxNumModerators by omega)]
    exact ⟨hroom, by simp, _, rfl⟩
  | true =>
    cases hentry : call.modList.entry group.chat.moderation.modList.length with
    | false =>
      left
      simp only [if_neg (show ¬group.chat.moderation.modList.length ≥ modMaxNumModerators by omega)]
      exact ⟨hroom, by simp, _, rfl⟩
    | true =>
      right
      refine ⟨hroom, by simp, ?_⟩
      exact publishModList_cases call crypto env
        { group with chat := { group.chat with
            moderation := { group.chat.moderation with modList := group.chat.moderation.modList ++ [publicSigKey] } } }
        publicSigKey true h

theorem keeps_refused (crypto : SignCrypto) (group group' : GCGroup) (code : Int) :
    Setter.Keeps crypto group (.refused code, group') :=
  ⟨fun hfailed => by simp at hfailed, fun hok => by simp at hok⟩

theorem keeps_ok {group' : GCGroup} (h : group'.chat.Verified crypto) : Setter.Keeps crypto group (.ok, group') :=
  ⟨fun hfailed => by simp at hfailed, fun _ => h⟩

theorem keeps_failed (crypto : SignCrypto) (group : GCGroup) (code : Int) : Setter.Keeps crypto group (.failed code, group) :=
  ⟨fun _ => .refl group.chat, fun hok => by simp at hok⟩

theorem not_keeps_of_modList {group' : GCGroup} {code : Int}
    (h : group'.chat.moderation.modList ≠ group.chat.moderation.modList) :
    ¬Setter.Keeps crypto group (.failed code, group') := fun hkeeps => h (hkeeps.atomic (by simp)).mods

theorem addToList_iff (hfounder : group.chat.selfGcIsFounder = true)
    (hkey : crypto.KeyPair group.chatSecretKey.sig group.chat.chatPublicKey.sig) (h : group.chat.Verified crypto)
    (publicSigKey : SigPublicKey) :
    Setter.Keeps crypto group (call.addToList crypto env group publicSigKey) ↔
      call.KeepsAdding crypto group.chat.sharedState group.chatSecretKey.sig group.chat.moderation.modList
        publicSigKey := by
  obtain ⟨hroom, code, hadd⟩ | ⟨hroom, hfails, code, hadd⟩ | ⟨hroom, hentry, group', hlist, hpublish⟩ :=
    addToList_cases call crypto env group publicSigKey hfounder
  · rw [hadd]
    exact iff_of_true (keeps_refused crypto group group code) fun hyes => absurd hyes hroom
  · rw [hadd]
    exact iff_of_true (keeps_failed crypto group code) fun _ harray hentry => absurd ⟨harray, hentry⟩ hfails
  · obtain ⟨hpublishes, hadd, hverified⟩ | ⟨hpublishes, code, hadd⟩ := hpublish
    · rw [hadd]
      exact iff_of_true (keeps_ok (hverified hkey h.topic)) fun _ _ _ => hpublishes
    · rw [hadd]
      refine iff_of_false (not_keeps_of_modList ?_) fun hkeeps => hpublishes (hkeeps hroom hentry.1 hentry.2)
      intro hsame
      have hlength := congrArg List.length (hlist.symm.trans hsame)
      simp at hlength

theorem replace_iff (hfounder : group.chat.selfGcIsFounder = true)
    (hself : crypto.KeyPair group.selfSecretSigKey group.chat.selfPublicKey.sig)
    (hkey : crypto.KeyPair group.chatSecretKey.sig group.chat.chatPublicKey.sig) (h : group.chat.Verified crypto)
    {publicSigKey : SigPublicKey} (honline : group.chat.getPeerNumberOfSigPk publicSigKey ≠ none)
    (hfull : ¬group.chat.moderation.modList.length < modMaxNumModerators) :
    Setter.Keeps crypto group
        (match call.prune.pruneGcModList crypto env group with
          | (.ok, group) => call.addToList crypto env group publicSigKey
          | (result, group) => (result, group)) ↔
      call.KeepsReplacing crypto group publicSigKey := by
  have hmods : group.chat.moderation.modList ≠ [] := by
    intro hnil
    rw [hnil] at hfull
    exact hfull (by decide)
  obtain ⟨honlines, code, hprune⟩ | ⟨hoffline, group', hlost, hcases⟩ :=
    PruneModsCall.pruneGcModList_cases call.prune crypto env hmods hfounder
  · rw [hprune]
    refine iff_of_true (keeps_refused crypto group group code) fun ⟨key, hmem, hnone⟩ => ?_
    exact absurd hnone (honlines key hmem)
  have hne : group'.chat.moderation.modList ≠ group.chat.moderation.modList := by
    intro hsame
    have hshorter := hlost.shorter
    rw [hsame] at hshorter
    omega
  obtain ⟨key, hpruned, hprunes, hrefuses, code, hprune⟩ | ⟨key, hpruned, hprunes, hrefuses, hprune, hgroup⟩ |
    ⟨hfails, code, hprune⟩ := hcases
  · rw [hprune]
    refine iff_of_true (keeps_refused crypto group group' code) fun _ => ⟨key, hpruned, hprunes, ?_⟩
    exact fun hnot => absurd hrefuses hnot
  · -- one moderator is pruned, and the group is as if it had always been so
    rw [hprune]
    simp only
    have hfounder' : group'.chat.selfGcIsFounder = true := by
      rw [selfGcIsFounder, hgroup.role]
      exact hfounder
    have hadding := addToList_cases call crypto env group' publicSigKey hfounder'
    rw [hgroup.modList, hgroup.state, hgroup.chatSecretKey, hgroup.chatPublicKey] at hadding
    obtain ⟨hroom, code, hadd⟩ | ⟨hroom, hentry, code, hadd⟩ | ⟨hroom, hentry, group'', hlist, hpublish⟩ := hadding
    · rw [hadd]
      refine iff_of_true (keeps_refused crypto group group' code) fun _ => ⟨key, hpruned, hprunes, ?_⟩
      exact fun _ hyes => absurd hyes hroom
    · rw [hadd]
      refine iff_of_false (not_keeps_of_modList hne) fun hkeeps => ?_
      obtain ⟨other, hother, -, hnothing⟩ := hkeeps hoffline
      cases hpruned.symm.trans hother
      obtain ⟨harray, hentry', -⟩ := hnothing hrefuses hroom
      exact hentry ⟨harray, hentry'⟩
    · obtain ⟨hpublishes, hadd, hverified⟩ | ⟨hpublishes, code, hadd⟩ := hpublish
      · rw [hadd]
        refine iff_of_true (keeps_ok (hverified hkey (hgroup.topic hself h.topic))) fun _ => ?_
        exact ⟨key, hpruned, hprunes, fun _ _ => ⟨hentry.1, hentry.2, hpublishes⟩⟩
      · rw [hadd]
        refine iff_of_false (not_keeps_of_modList ?_) fun hkeeps => ?_
        · -- the list is as long as before, but another moderator is in it
          rw [hlist, ← hgroup.modList]
          exact hlost.append_ne honline
        · obtain ⟨other, hother, -, hnothing⟩ := hkeeps hoffline
          cases hpruned.symm.trans hother
          exact hpublishes (hnothing hrefuses hroom).2.2
  · rw [hprune]
    refine iff_of_false (not_keeps_of_modList hne) fun hkeeps => ?_
    obtain ⟨key, hpruned, hprunes, -⟩ := hkeeps hoffline
    exact hfails key hpruned hprunes

def removeFromList (call : SetModeratorCall) (crypto : SignCrypto) (env : ChatEnv) (group : GCGroup)
    (publicSigKey : SigPublicKey) : SetResult × GCGroup :=
  match group.chat.moderation.modList.findIdx? (· == publicSigKey) with
  | none => (.refused (-1), group)
  | some _ =>
    match call.modList.modListRemoveEntry group.chat.moderation publicSigKey with
    | (false, moderation) => (.failed (-1), { group with chat := { group.chat with moderation } })
    | (true, moderation) =>
      match call.sanctions.updateGcSanctionsList crypto env { group.chat with moderation } publicSigKey with
      | (.ok, chat) =>
        match call.topic.updateGcTopic crypto env chat group.selfSecretSigKey publicSigKey with
        | (.ok, chat) => call.publishModList crypto env { group with chat } publicSigKey false
        | (result, chat) => (result, { group with chat })
      | (result, chat) => (result, { group with chat })

theorem remove_iff (hfounder : group.chat.selfGcIsFounder = true)
    (hself : crypto.KeyPair group.selfSecretSigKey group.chat.selfPublicKey.sig)
    (hkey : crypto.KeyPair group.chatSecretKey.sig group.chat.chatPublicKey.sig) (h : group.chat.Verified crypto)
    (publicSigKey : SigPublicKey) :
    Setter.Keeps crypto group (call.removeFromList crypto env group publicSigKey) ↔
      call.KeepsRemoving crypto group publicSigKey := by
  rw [removeFromList, KeepsRemoving, ModListCall.modListRemoveEntry]
  cases hindex : group.chat.moderation.modList.findIdx? (· == publicSigKey) with
  | none =>
    refine iff_of_true (keeps_refused crypto group group _) fun hmem => ?_
    simpa using findIdx?_eq_none_iff.mp hindex publicSigKey hmem
  | some index =>
  obtain ⟨hlt, hfound, -⟩ := findIdx?_eq_some_iff_getElem.mp hindex
  have hmem : publicSigKey ∈ group.chat.moderation.modList := by
    rw [← beq_iff_eq.mp hfound]
    exact getElem_mem hlt
  obtain ⟨modList, hperm, hremove⟩ := ModListCall.modListRemoveIndex_eq call.modList group.chat.moderation hlt
  have hne : ∀ chat' : GCChat, chat'.moderation.modList = modList →
      chat'.moderation.modList ≠ group.chat.moderation.modList := by
    intro chat' hlist hsame
    have hlength := congrArg List.length (hlist.symm.trans hsame)
    rw [hperm.length_eq, length_eraseIdx_of_lt hlt] at hlength
    omega
  simp only [hremove]
  cases hdone : decide (group.chat.moderation.modList.length = 1) || call.modList.array with
  | false =>
    refine iff_of_false (not_keeps_of_modList (hne _ rfl)) fun hkeeps => ?_
    simp only [Bool.or_eq_false_iff, decide_eq_false_iff_not] at hdone
    obtain hone | harray := (hkeeps hmem).1
    · exact hdone.1 hone
    · simp [harray] at hdone
  | true =>
  have hdone : group.chat.moderation.modList.length = 1 ∨ call.modList.array = true := by simpa using hdone
  let removed : GCChat := { group.chat with moderation := { group.chat.moderation with modList } }
  obtain ⟨chat', hkept, hsanctions⟩ :=
    UpdateSanctionsCall.updateGcSanctionsList_cases call.sanctions crypto env removed publicSigKey
  rw [UpdateSanctionsCall.tells_withModList modList group.chat.moderation.sharedStateVersion] at hsanctions
  obtain ⟨htells, hupdate⟩ | ⟨htells, code, hupdate⟩ := hsanctions
  case inr =>
    simp only [removed] at hupdate
    simp only [hupdate]
    exact iff_of_false (not_keeps_of_modList (hne _ hkept.modList)) fun hkeeps => htells (hkeeps hmem).2.1
  simp only [removed] at hupdate
  simp only [hupdate]
  have hlock : chat'.sharedState.topicLock = group.chat.sharedState.topicLock := by
    rw [hkept.sharedState]
  obtain ⟨hrefusesIff, htellsIff⟩ := @TopicCall.tells_congr call.topic crypto group.chat chat'
    group.selfSecretSigKey publicSigKey hlock hkept.topicInfo hkept.selfPublicKey hkept.role
  obtain ⟨chat'', hkeeps', htopic⟩ :=
    TopicCall.updateGcTopic_cases call.topic crypto env chat' group.selfSecretSigKey publicSigKey
  rw [hrefusesIff, htellsIff] at htopic
  have hlist : chat''.moderation.modList = modList := by
    rw [hkeeps'.moderation]
    exact hkept.modList
  obtain ⟨hrefuses, code, hcall⟩ | ⟨hrefuses, htellsTopic, hcall, hverified⟩ | ⟨hrefuses, htellsTopic, code, hcall⟩ :=
    htopic
  · simp only [hcall]
    refine iff_of_true (keeps_refused crypto group _ code) fun _ => ⟨hdone, htells, ?_, fun hnot => absurd hrefuses hnot⟩
    exact fun _ hallowed => absurd hallowed hrefuses.2
  · simp only [hcall]
    have hfounder' : chat''.selfGcIsFounder = true := by
      rw [selfGcIsFounder, hkeeps'.role, hkept.role]
      exact hfounder
    obtain ⟨group', hlist', hpublish⟩ :=
      publishModList_cases call crypto env { group with chat := chat'' } publicSigKey false hfounder'
    simp only [hlist, hkeeps'.sharedState, hkept.sharedState, hkeeps'.chatPublicKey, hkept.chatPublicKey] at hpublish hlist'
    obtain ⟨hpublishes, hadd, hverified'⟩ | ⟨hpublishes, code, hadd⟩ := hpublish
    · rw [hadd]
      refine iff_of_true (keeps_ok (hverified' hkey (hverified ?_ ?_))) fun _ => ⟨hdone, htells, htellsTopic, ?_⟩
      · rw [hkept.selfPublicKey]
        exact hself
      · rw [TopicVerified, hkept.topicSig, hkept.topicInfo]
        exact h.topic
      · exact fun _ => hpublishes
    · rw [hadd]
      refine iff_of_false (not_keeps_of_modList (hne _ hlist')) fun hkeeps => ?_
      exact hpublishes ((hkeeps hmem).2.2.2 hrefuses)
  · simp only [hcall]
    exact iff_of_false (not_keeps_of_modList (hne _ hlist)) fun hkeeps => htellsTopic (hkeeps hmem).2.2.1

theorem online_of_getGcConnection {peerNumber : Nat} (hpeer : group.chat.getGcConnection peerNumber = some gconn) :
    group.chat.getPeerNumberOfSigPk gconn.publicKey.sig ≠ none := by
  rw [getGcConnection, Option.map_eq_some_iff] at hpeer
  obtain ⟨peer, hmem, hconn⟩ := hpeer
  intro hnone
  have hother := findIdx?_eq_none_iff.mp hnone peer (mem_of_getElem? hmem)
  rw [hconn] at hother
  simp at hother

theorem founderGcSetModerator_iff (call : SetModeratorCall) (env : ChatEnv) (addMod : Bool) {peerNumber : Nat}
    (hpeer : group.chat.getGcConnection peerNumber = some gconn)
    (hself : crypto.KeyPair group.selfSecretSigKey group.chat.selfPublicKey.sig)
    (hkey : group.chat.selfGcIsFounder = true → crypto.KeyPair group.chatSecretKey.sig group.chat.chatPublicKey.sig)
    (h : group.chat.Verified crypto) :
    Setter.Keeps crypto group (call.founderGcSetModerator crypto env group gconn addMod) ↔
      call.KeepsModerator crypto group gconn.publicKey.sig addMod := by
  rw [founderGcSetModerator]
  by_cases hfounder : group.chat.selfGcIsFounder = true
  case neg =>
    simp only [hfounder]
    exact iff_of_true (keeps_refused crypto group group _) fun hyes => absurd hyes hfounder
  rw [if_neg (by simp [hfounder])]
  have hcondition : call.KeepsModerator crypto group gconn.publicKey.sig addMod ↔
      if addMod = true then
        if group.chat.moderation.modList.length < modMaxNumModerators then
          call.KeepsAdding crypto group.chat.sharedState group.chatSecretKey.sig group.chat.moderation.modList
            gconn.publicKey.sig
        else call.KeepsReplacing crypto group gconn.publicKey.sig
      else call.KeepsRemoving crypto group gconn.publicKey.sig :=
    ⟨fun hkeeps => hkeeps hfounder, fun hkeeps _ => hkeeps⟩
  rw [hcondition]
  cases addMod with
  | false => exact remove_iff hfounder hself (hkey hfounder) h gconn.publicKey.sig
  | true =>
    simp only [if_true, makeRoomForMod]
    by_cases hroom : group.chat.moderation.modList.length < modMaxNumModerators
    · rw [if_neg (by omega), if_pos hroom]
      exact addToList_iff hfounder (hkey hfounder) h gconn.publicKey.sig
    · rw [if_pos (by omega), if_neg hroom]
      exact replace_iff hfounder hself (hkey hfounder) h (online_of_getGcConnection hpeer) hroom

end SetModeratorCall

/-! ## All setters -/

/-- A number of the source as a result.  What is refused without a change counts as a failure. -/
def SetResult.ofInt (code : Int) : SetResult := if code = 0 then .ok else .failed code

theorem SetResult.failed_ofInt_iff (code : Int) : (SetResult.ofInt code).Failed ↔ code ≠ 0 := by
  rw [ofInt]
  split
  · rename_i hzero
    exact iff_of_false not_failed_ok (not_not.mpr hzero)
  · rename_i hzero
    exact iff_of_true (failed_failed code) hzero

theorem SetResult.ofInt_eq_ok_iff (code : Int) : SetResult.ofInt code = .ok ↔ code = 0 := by
  rw [ofInt]
  split
  · rename_i hzero
    exact iff_of_true rfl hzero
  · rename_i hzero
    exact iff_of_false (by simp) hzero

inductive Setter where
  | setTopic (call : TopicCall) (topic : Bytes)
  | setPassword (copied : Bool) (password : Bytes)
  | setTopicLock (call : TopicCall) (newLockState : UInt8)
  | setVoiceState (newVoiceState : UInt8)
  | setPrivacyState (newPrivacyState : UInt8)
  | setMaxPeers (maxPeers : UInt16)
  | setModerator (call : SetModeratorCall) (peerNumber : Nat) (addMod : Bool)

namespace Setter

open GCGroup SetModeratorCall

variable {crypto : SignCrypto} {group : GCGroup}

def run (crypto : SignCrypto) (env : FounderEnv) (group : GCGroup) : Setter → SetResult × GCGroup
  | .setTopic call topic =>
    let result := call.gcSetTopic crypto env.toChatEnv group.chat group.selfSecretSigKey topic
    (result.1, { group with chat := result.2 })
  | .setPassword copied password => (group.trySetPassword crypto env copied password).map .ofInt id
  | .setTopicLock call newLockState => (group.trySetTopicLock crypto env call newLockState).map .ofInt id
  | .setVoiceState newVoiceState => (group.gcFounderSetVoiceState crypto env newVoiceState).map .ofInt id
  | .setPrivacyState newPrivacyState => (group.gcFounderSetPrivacyState crypto env newPrivacyState).map .ofInt id
  | .setMaxPeers maxPeers => (group.gcFounderSetMaxPeers crypto env maxPeers).map .ofInt id
  | .setModerator call peerNumber addMod =>
    match group.chat.getGcConnection peerNumber with
    | none => (.refused (-1), group)
    | some gconn => call.founderGcSetModerator crypto env.toChatEnv group gconn addMod

def KeepsWhen (crypto : SignCrypto) (group : GCGroup) : Setter → Prop
  | .setTopic call topic => call.KeepsTopic group.chat topic
  | .setPassword copied password => KeepsPassword crypto group copied password
  | .setTopicLock call newLockState => KeepsTopicLock crypto group call newLockState
  | .setVoiceState newVoiceState => KeepsVoice crypto group newVoiceState
  | .setPrivacyState newPrivacyState => KeepsPrivacy crypto group newPrivacyState
  | .setMaxPeers maxPeers => KeepsMaxPeers crypto group maxPeers
  | .setModerator call peerNumber addMod =>
    ∀ gconn, group.chat.getGcConnection peerNumber = some gconn →
      call.KeepsModerator crypto group gconn.publicKey.sig addMod

theorem keeps_map_iff (crypto : SignCrypto) (group : GCGroup) (result : Int × GCGroup) :
    Setter.Keeps crypto group (result.map .ofInt id) ↔
      SetterKeeps crypto group.chat result.2.chat (result.1 ≠ 0) (result.1 = 0) := by
  rw [Setter.Keeps, Prod.map_fst, SetResult.failed_ofInt_iff, SetResult.ofInt_eq_ok_iff]
  rfl

end Setter

/-- What is signed is verified, with the keys that it is signed with; the password lies in its array. -/
structure GCGroup.SignedState (crypto : SignCrypto) (group : GCGroup) : Prop where
  selfKey : crypto.KeyPair group.selfSecretSigKey group.chat.selfPublicKey.sig
  chatKey : group.chat.selfGcIsFounder = true →
    crypto.KeyPair group.chatSecretKey.sig group.chat.chatPublicKey.sig
  verified : group.chat.Verified crypto
  password : group.chat.sharedState.passwordLength.toNat ≤ maxGcPasswordSize

/-- A failed setter leaves what is signed as it was, and after a setter that succeeds it is verified again. -/
def SettersAtomic (crypto : SignCrypto) : Prop :=
  ∀ (env : FounderEnv) (group : GCGroup), group.SignedState crypto → ∀ setter : Setter,
    Setter.Keeps crypto group (setter.run crypto env group)

/-- The setters, for every outcome of signing and allocation. -/
theorem foundersSetters_iff {crypto : SignCrypto} (env : FounderEnv) {group : GCGroup} (h : group.SignedState crypto)
    (setter : Setter) :
    Setter.Keeps crypto group (setter.run crypto env group) ↔ setter.KeepsWhen crypto group := by
  obtain ⟨hself, hkey, hverified, hpassword⟩ := h
  cases setter with
  | setTopic call topic => exact TopicCall.gcSetTopic_iff call env.toChatEnv topic hself hverified
  | setPassword copied password =>
    rw [Setter.run, Setter.keeps_map_iff]
    exact GCGroup.trySetPassword_iff copied password hkey hverified hpassword
  | setTopicLock call newLockState =>
    rw [Setter.run, Setter.keeps_map_iff]
    exact GCGroup.trySetTopicLock_iff call newLockState hself hkey hverified
  | setVoiceState newVoiceState =>
    rw [Setter.run, Setter.keeps_map_iff]
    exact GCGroup.gcFounderSetVoiceState_iff hkey hverified newVoiceState
  | setPrivacyState newPrivacyState =>
    rw [Setter.run, Setter.keeps_map_iff]
    exact GCGroup.gcFounderSetPrivacyState_iff hkey hverified newPrivacyState
  | setMaxPeers maxPeers =>
    rw [Setter.run, Setter.keeps_map_iff]
    exact GCGroup.gcFounderSetMaxPeers_iff hkey hverified maxPeers
  | setModerator call peerNumber addMod =>
    rw [Setter.run, Setter.KeepsWhen]
    cases hpeer : group.chat.getGcConnection peerNumber with
    | none =>
      exact iff_of_true (SetModeratorCall.keeps_refused crypto group group _) fun _ hsome => by simp at hsome
    | some gconn =>
      simp only [Option.some.injEq, forall_eq']
      exact SetModeratorCall.founderGcSetModerator_iff call env.toChatEnv addMod hpeer hself hkey hverified

open GCGroup

def setterCrypto : SignCrypto where
  sha256 _ := zeroDigest
  signatureCreate message secretKey :=
    if secretKey = founderSigSk then
      if message = packGcTopicInfo newTopic then some newTopicSig else none
    else passwordCrypto.signatureCreate message secretKey
  signatureVerify signature message sigPk :=
    passwordCrypto.signatureVerify signature message sigPk ||
      (sigPk == founderSigPk && signature == newTopicSig && message == packGcTopicInfo newTopic)

theorem signedState_newGroup : newGroup.SignedState setterCrypto := by
  have hself : newGroup.selfSecretSigKey = founderSigSk ∧ newGroup.chat.selfPublicKey.sig = founderSigPk := by
    decide +kernel
  have hchat : newGroup.chatSecretKey.sig = chatKeypair.2.sig ∧ newGroup.chat.chatPublicKey.sig = GCChat.chatSigPk := by
    decide +kernel
  refine ⟨fun message signature hsign => ?_, fun _ message signature hsign => ?_, ?_, by decide +kernel⟩
  · simp only [hself.1, setterCrypto, if_true] at hsign
    split_ifs at hsign with htopic
    rw [← Option.some.inj hsign, htopic, hself.2]
    decide +kernel
  · have hother : chatKeypair.2.sig ≠ founderSigSk := by decide +kernel
    simp only [hchat.1, setterCrypto, hother, passwordCrypto, if_true, if_false] at hsign
    split_ifs at hsign with hnew hlong hshort
    · rw [← Option.some.inj hsign, hnew, hchat.2]
      decide +kernel
    · rw [← Option.some.inj hsign, hlong, hchat.2]
      decide +kernel
    · rw [← Option.some.inj hsign, hshort]
      decide +kernel
  · exact ⟨by decide +kernel, by decide +kernel, by decide +kernel⟩

/-- The founder sets the first password. -/
theorem foundersSetters_iff_password :
    Setter.Keeps setterCrypto newGroup
      ((Setter.setPassword true [97, 98, 99, 100]).run setterCrypto founderEnv newGroup) := by
  refine (foundersSetters_iff founderEnv signedState_newGroup _).mpr fun _ _ _ => .inl ?_
  decide +kernel

/-- Without room for the packed topic the call fails, but the topic is the new one. -/
theorem not_settersAtomic_topic : ¬∀ crypto, SettersAtomic crypto := by
  intro h
  have hkept := h setterCrypto founderEnv newGroup signedState_newGroup
    (.setTopic { packed := false, signed := true, broadcast := true } [104])
  have htopic := (hkept.atomic ⟨-3, by decide +kernel⟩).topic
  revert htopic
  decide +kernel

end Toxcore

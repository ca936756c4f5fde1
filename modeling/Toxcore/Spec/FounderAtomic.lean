import Toxcore.Native.FounderCalls
import Toxcore.Spec.SanctionsAtomic

/-!
# The setters of a group

The setters change the shared state, the topic and the moderator list first, and take the change back by hand where
signing, packing or an allocation fails.
-/

namespace Toxcore

open List hiding Vector

/-! ## What is signed -/

theorem packGcSharedState_inj {state state' : GCSharedState} (h : packGcSharedState state = packGcSharedState state') :
    state = state' := by
  simp only [packGcSharedState, append_assoc] at h
  obtain ⟨hversion, h⟩ := append_inj h (by rw [length_netPackU32, length_netPackU32])
  obtain ⟨henc, h⟩ := append_inj h (by simp)
  obtain ⟨hsig, h⟩ := append_inj h (by simp)
  obtain ⟨hmax, h⟩ := append_inj h (by rw [length_netPackU16, length_netPackU16])
  obtain ⟨hnameLen, h⟩ := append_inj h (by rw [length_netPackU16, length_netPackU16])
  obtain ⟨hname, h⟩ := append_inj h (by simp)
  obtain ⟨hprivacy, h⟩ := append_inj h rfl
  obtain ⟨hpasswordLen, h⟩ := append_inj h (by rw [length_netPackU16, length_netPackU16])
  obtain ⟨hpassword, h⟩ := append_inj h (by simp)
  obtain ⟨hhash, h⟩ := append_inj h (by simp)
  obtain ⟨hlock, hvoice⟩ := append_inj h (by rw [length_netPackU32, length_netPackU32])
  have hu32 : ∀ a b : UInt32, netPackU32 a = netPackU32 b → a = b := by
    intro a b hab
    have := netUnpackU32_netPackU32_append a []
    rw [hab, netUnpackU32_netPackU32_append] at this
    exact this.symm
  have hu16 : ∀ a b : UInt16, netPackU16 a = netPackU16 b → a = b := by
    intro a b hab
    have := netUnpackU16_netPackU16_append a []
    rw [hab, netUnpackU16_netPackU16_append] at this
    exact this.symm
  obtain ⟨version, ⟨enc, sig⟩, maxpeers, nameLen, name, privacy, passwordLen, password, hash, lock, voice⟩ := state
  obtain ⟨version', ⟨enc', sig'⟩, maxpeers', nameLen', name', privacy', passwordLen', password', hash', lock',
    voice'⟩ := state'
  simp only [GCSharedState.mk.injEq, ExtPublicKey.mk.injEq]
  exact ⟨hu32 _ _ hversion, ⟨Vector.toList_inj.mp henc, Vector.toList_inj.mp hsig⟩, hu16 _ _ hmax, hu16 _ _ hnameLen,
    Vector.toList_inj.mp hname, singleton_inj.mp hprivacy, hu16 _ _ hpasswordLen, Vector.toList_inj.mp hpassword,
    Vector.toList_inj.mp hhash, hu32 _ _ hlock, singleton_inj.mp hvoice⟩

structure GCChat.Verified (crypto : SignCrypto) (chat : GCChat) : Prop where
  state : crypto.signatureVerify chat.sharedStateSig (packGcSharedState chat.sharedState)
    chat.chatPublicKey.sig = true
  topic : crypto.signatureVerify chat.topicSig (packGcTopicInfo chat.topicInfo) chat.topicInfo.publicSigKey = true
  mods : chat.sharedState.modListHash = Toxcore.modListMakeHash crypto chat.moderation.modList

structure GCChat.SameSigned (chat chat' : GCChat) : Prop where
  state : packGcSharedState chat'.sharedState = packGcSharedState chat.sharedState
  topic : chat'.topicInfo = chat.topicInfo
  stateSig : chat'.sharedStateSig = chat.sharedStateSig
  topicSig : chat'.topicSig = chat.topicSig
  mods : chat'.moderation.modList = chat.moderation.modList

theorem GCChat.SameSigned.refl (chat : GCChat) : chat.SameSigned chat := ⟨rfl, rfl, rfl, rfl, rfl⟩

def SignCrypto.KeyPair (crypto : SignCrypto) (secretKey : SigSecretKey) (publicKey : SigPublicKey) : Prop :=
  ∀ message signature, crypto.signatureCreate message secretKey = some signature →
    crypto.signatureVerify signature message publicKey = true

theorem SignCrypto.KeyPair.of_trySignatureCreate {crypto : SignCrypto} {secretKey : SigSecretKey}
    {publicKey : SigPublicKey} (h : crypto.KeyPair secretKey publicKey) {outcome : Bool} {message : Bytes}
    {signature : Signature} (hsign : crypto.trySignatureCreate outcome message secretKey = some signature) :
    crypto.signatureVerify signature message publicKey = true := by
  rw [trySignatureCreate] at hsign
  split at hsign
  · exact h message signature hsign
  · simp at hsign

structure SetterKeeps (crypto : SignCrypto) (chat chat' : GCChat) (fails ok : Prop) : Prop where
  atomic : fails → chat.SameSigned chat'
  verified : ok → chat'.Verified crypto

theorem SetterKeeps.unchanged {crypto : SignCrypto} {chat : GCChat} (h : chat.Verified crypto) (fails ok : Prop) :
    SetterKeeps crypto chat chat fails ok := ⟨fun _ => .refl chat, fun _ => h⟩

def SetResult.Failed (result : SetResult) : Prop := ∃ code, result = .failed code

@[simp] theorem SetResult.not_failed_ok : ¬SetResult.ok.Failed := fun ⟨_, h⟩ => by simp at h

@[simp] theorem SetResult.not_failed_refused (code : Int) : ¬(SetResult.refused code).Failed :=
  fun ⟨_, h⟩ => by simp at h

@[simp] theorem SetResult.failed_failed (code : Int) : (SetResult.failed code).Failed := ⟨code, rfl⟩

@[simp] theorem GCChat.gcGetSelfRole_sendGcLosslessPacketAllPeers (chat : GCChat) (env : ChatEnv) (data : Bytes)
    (type : UInt8) : (chat.sendGcLosslessPacketAllPeers env data type).gcGetSelfRole = chat.gcGetSelfRole := by
  cases hgroup : chat.group with
  | nil => simp [sendGcLosslessPacketAllPeers, gcGetSelfRole, hgroup]
  | cons self others =>
    -- the packet is not sent to the first peer, which is oneself
    simp [sendGcLosslessPacketAllPeers, gcGetSelfRole]

/-! ## The topic -/

namespace TopicCall

open GCChat

variable {call : TopicCall} {crypto : SignCrypto} {env : ChatEnv} {chat : GCChat} {secretKey : SigSecretKey}
  {topic : Bytes}

/-- `gc_set_topic` comes to the change: the topic fits, the role allows it and the version is not the last one. -/
def Allowed (chat : GCChat) (topic : Bytes) : Prop :=
  topic.length ≤ maxGcTopicSize ∧
    (chat.groupTopicLockEnabled = true → chat.gcGetSelfRole.value ≤ GroupRole.moderator.value) ∧
    chat.gcGetSelfRole.value ≤ GroupRole.user.value ∧ chat.topicInfo.version ≠ UInt32.ofNat (2 ^ 32 - 1)

instance : Decidable (Allowed chat topic) := inferInstanceAs (Decidable (_ ∧ _))

def newTopicInfo (chat : GCChat) (topic : Bytes) : GCTopicInfo :=
  { version := if chat.groupTopicLockEnabled then chat.topicInfo.version + 1 else chat.topicInfo.version
    checksum := dataChecksum topic
    topic
    publicSigKey := chat.selfPublicKey.sig }

def Signs (call : TopicCall) (crypto : SignCrypto) (chat : GCChat) (secretKey : SigSecretKey) (topic : Bytes) : Prop :=
  (crypto.trySignatureCreate call.signed (packGcTopicInfo (newTopicInfo chat topic)) secretKey).isSome

instance : Decidable (call.Signs crypto chat secretKey topic) := inferInstanceAs (Decidable (_ = true))

theorem gcSetTopic_of_not_allowed (h : ¬Allowed chat topic) :
    ∃ code, call.gcSetTopic crypto env chat secretKey topic = (.refused code, chat) := by
  rw [gcSetTopic]
  split
  · exact ⟨_, rfl⟩
  split
  · exact ⟨_, rfl⟩
  rename_i hlock
  split
  · exact ⟨_, rfl⟩
  rename_i hrole
  split
  · exact ⟨_, rfl⟩
  rename_i hversion
  refine absurd ⟨by omega, fun henabled => ?_, UInt16.not_lt.mp hrole, hversion⟩ h
  simpa [henabled] using hlock

theorem gcSetTopic_of_allowed (h : Allowed chat topic) :
    call.gcSetTopic crypto env chat secretKey topic =
      if !call.packed then (.failed (-3), { chat with topicInfo := newTopicInfo chat topic })
      else
        match crypto.trySignatureCreate call.signed (packGcTopicInfo (newTopicInfo chat topic)) secretKey with
        | none => (.failed (-3), chat)
        | some topicSig =>
          if !call.broadcast then (.failed (-4), chat)
          else (.ok, { { chat with topicInfo := newTopicInfo chat topic, topicSig }.broadcastGcTopic env with
            topicPrevChecksum := chat.topicInfo.checksum
            topicTimeSet := env.now }) := by
  obtain ⟨hlength, hlock, hrole, hversion⟩ := h
  rw [gcSetTopic, if_neg (by omega), if_neg ?_, if_neg (UInt16.not_lt.mpr hrole), if_neg hversion]
  · rfl
  · cases henabled : chat.groupTopicLockEnabled with
    | false => simp
    | true => simpa using hlock henabled

/-- What `gc_set_topic` leaves as it is. -/
structure Keeps (chat chat' : GCChat) : Prop where
  sharedState : chat'.sharedState = chat.sharedState
  sharedStateSig : chat'.sharedStateSig = chat.sharedStateSig
  moderation : chat'.moderation = chat.moderation
  chatPublicKey : chat'.chatPublicKey = chat.chatPublicKey
  selfPublicKey : chat'.selfPublicKey = chat.selfPublicKey
  role : chat'.gcGetSelfRole = chat.gcGetSelfRole

theorem gcSetTopic_cases (call : TopicCall) (crypto : SignCrypto) (env : ChatEnv) (secretKey : SigSecretKey)
    (h : Allowed chat topic) :
    (call.packed = false ∧ call.gcSetTopic crypto env chat secretKey topic =
      (.failed (-3), { chat with topicInfo := newTopicInfo chat topic })) ∨
    (call.packed = true ∧ ¬(call.Signs crypto chat secretKey topic ∧ call.broadcast = true) ∧
      ∃ code, call.gcSetTopic crypto env chat secretKey topic = (.failed code, chat)) ∨
    (call.packed = true ∧ call.Signs crypto chat secretKey topic ∧ call.broadcast = true ∧
      ∃ topicSig chat', call.gcSetTopic crypto env chat secretKey topic = (.ok, chat') ∧
        crypto.trySignatureCreate call.signed (packGcTopicInfo (newTopicInfo chat topic)) secretKey = some topicSig ∧
        chat'.topicInfo = newTopicInfo chat topic ∧ chat'.topicSig = topicSig ∧ Keeps chat chat') := by
  rw [gcSetTopic_of_allowed h]
  cases hpacked : call.packed with
  | false => exact .inl ⟨rfl, rfl⟩
  | true =>
    right
    cases hsign : crypto.trySignatureCreate call.signed (packGcTopicInfo (newTopicInfo chat topic)) secretKey with
    | none => exact .inl ⟨rfl, fun hsigns => by simp [Signs, hsign] at hsigns, _, rfl⟩
    | some topicSig =>
      cases hbroadcast : call.broadcast with
      | false => exact .inl ⟨rfl, fun hsigns => by simp at hsigns, _, rfl⟩
      | true =>
        refine .inr ⟨rfl, by simp [Signs, hsign], rfl, topicSig, _, rfl, rfl, rfl, rfl, ?_⟩
        exact ⟨rfl, rfl, rfl, rfl, rfl, gcGetSelfRole_sendGcLosslessPacketAllPeers _ env _ gpTopic⟩

/-- When `gc_set_topic` is atomic: it does not change the topic without room to pack it. -/
def KeepsTopic (call : TopicCall) (chat : GCChat) (topic : Bytes) : Prop :=
  Allowed chat topic → call.packed = false → newTopicInfo chat topic = chat.topicInfo

theorem verified_of_keeps {chat' : GCChat} (h : chat.Verified crypto) (hkeeps : Keeps chat chat')
    (htopic : crypto.signatureVerify chat'.topicSig (packGcTopicInfo chat'.topicInfo) chat'.topicInfo.publicSigKey =
      true) : chat'.Verified crypto := by
  refine ⟨?_, htopic, ?_⟩
  · rw [hkeeps.sharedState, hkeeps.sharedStateSig, hkeeps.chatPublicKey]
    exact h.state
  · rw [hkeeps.sharedState, hkeeps.moderation]
    exact h.mods

theorem gcSetTopic_iff (call : TopicCall) (env : ChatEnv) (topic : Bytes)
    (hkey : crypto.KeyPair secretKey chat.selfPublicKey.sig) (h : chat.Verified crypto) :
    SetterKeeps crypto chat (call.gcSetTopic crypto env chat secretKey topic).2
        (call.gcSetTopic crypto env chat secretKey topic).1.Failed
        ((call.gcSetTopic crypto env chat secretKey topic).1 = .ok) ↔
      call.KeepsTopic chat topic := by
  by_cases hallowed : Allowed chat topic
  case neg =>
    obtain ⟨code, hcall⟩ := @gcSetTopic_of_not_allowed call crypto env chat secretKey topic hallowed
    rw [hcall]
    exact ⟨fun _ hyes => absurd hyes hallowed, fun _ => ⟨fun hfailed => by simp at hfailed, fun hok => by simp at hok⟩⟩
  obtain ⟨hpacked, hcall⟩ | ⟨hpacked, -, code, hcall⟩ | ⟨hpacked, -, -, topicSig, chat', hcall, hsign, htopic, hsig, hkeeps⟩ :=
    gcSetTopic_cases call crypto env secretKey hallowed
  · rw [hcall]
    constructor
    · intro hkept _ _
      exact (hkept.atomic (by simp)).topic
    · intro hkept
      refine ⟨fun _ => ⟨rfl, hkept hallowed hpacked, rfl, rfl, rfl⟩, fun hok => by simp at hok⟩
  · rw [hcall]
    exact ⟨fun _ _ hnot => by simp [hpacked] at hnot, fun _ => ⟨fun _ => .refl chat, fun hok => by simp at hok⟩⟩
  · rw [hcall]
    refine ⟨fun _ _ hnot => by simp [hpacked] at hnot, fun _ => ⟨fun hfailed => by simp at hfailed, fun _ => ?_⟩⟩
    apply verified_of_keeps h hkeeps
    rw [hsig, htopic]
    exact hkey.of_trySignatureCreate hsign

end TopicCall

/-! ## The shared state -/

namespace GCChat

variable {crypto : SignCrypto} {chat : GCChat} {secretKey : SigSecretKey}

/-- The version that `sign_gc_shared_state` signs; the last one is not left. -/
def nextVersion (version : UInt32) : UInt32 :=
  if version ≠ UInt32.ofNat (2 ^ 32 - 1) then version + 1 else version

theorem nextVersion_sub_one (version : UInt32) :
    nextVersion version - 1 = version ↔ version ≠ UInt32.ofNat (2 ^ 32 - 1) := by
  rw [nextVersion]
  split
  · rename_i hversion
    exact iff_of_true (by simp) hversion
  · rename_i hversion
    rw [not_not.mp hversion]
    decide

def SignsState (crypto : SignCrypto) (state : GCSharedState) (secretKey : SigSecretKey) : Prop :=
  (crypto.signatureCreate (packGcSharedState { state with version := nextVersion state.version }) secretKey).isSome

instance {state : GCSharedState} : Decidable (SignsState crypto state secretKey) :=
  inferInstanceAs (Decidable (_ = true))

structure KeepsRest (chat chat' : GCChat) : Prop where
  topicInfo : chat'.topicInfo = chat.topicInfo
  topicSig : chat'.topicSig = chat.topicSig
  /-- Only the copy of the version in the moderation object. -/
  moderation : ∃ sharedStateVersion, chat'.moderation = { chat.moderation with sharedStateVersion }
  chatPublicKey : chat'.chatPublicKey = chat.chatPublicKey
  selfPublicKey : chat'.selfPublicKey = chat.selfPublicKey
  role : chat'.gcGetSelfRole = chat.gcGetSelfRole

theorem KeepsRest.modList {chat' : GCChat} (h : chat.KeepsRest chat') :
    chat'.moderation.modList = chat.moderation.modList := by
  obtain ⟨version, hmoderation⟩ := h.moderation
  rw [hmoderation]

theorem KeepsRest.refl (chat : GCChat) : chat.KeepsRest chat := ⟨rfl, rfl, ⟨_, rfl⟩, rfl, rfl, rfl⟩

theorem KeepsRest.trans {chat' chat'' : GCChat} (h : chat.KeepsRest chat') (h' : chat'.KeepsRest chat'') :
    chat.KeepsRest chat'' := by
  obtain ⟨_, hmoderation⟩ := h.moderation
  obtain ⟨version, hmoderation'⟩ := h'.moderation
  rw [hmoderation] at hmoderation'
  exact ⟨h'.topicInfo.trans h.topicInfo, h'.topicSig.trans h.topicSig, ⟨version, hmoderation'⟩,
    h'.chatPublicKey.trans h.chatPublicKey, h'.selfPublicKey.trans h.selfPublicKey, h'.role.trans h.role⟩

theorem keepsRest_sendGcLosslessPacketAllPeers (chat : GCChat) (env : ChatEnv) (data : Bytes) (type : UInt8) :
    chat.KeepsRest (chat.sendGcLosslessPacketAllPeers env data type) :=
  ⟨rfl, rfl, ⟨_, rfl⟩, rfl, rfl, gcGetSelfRole_sendGcLosslessPacketAllPeers chat env data type⟩

/-- The chat with the version that `sign_gc_shared_state` signs. -/
def withNextVersion (chat : GCChat) : GCChat :=
  if chat.sharedState.version ≠ UInt32.ofNat (2 ^ 32 - 1) then
    chat.setGcSharedStateVersion (chat.sharedState.version + 1)
  else chat

theorem keepsRest_setGcSharedStateVersion (chat : GCChat) (version : UInt32) :
    chat.KeepsRest (chat.setGcSharedStateVersion version) := ⟨rfl, rfl, ⟨version, rfl⟩, rfl, rfl, rfl⟩

theorem keepsRest_withNextVersion (chat : GCChat) : chat.KeepsRest (withNextVersion chat) := by
  rw [withNextVersion]
  split
  · exact keepsRest_setGcSharedStateVersion chat _
  · exact .refl chat

theorem signGcSharedState_of_none (h : chat.selfGcIsFounder = true)
    (hcreate : crypto.signatureCreate (packGcSharedState (withNextVersion chat).sharedState) secretKey = none) :
    chat.signGcSharedState crypto secretKey =
      (false, (withNextVersion chat).setGcSharedStateVersion ((withNextVersion chat).sharedState.version - 1)) := by
  rw [withNextVersion] at hcreate ⊢
  rw [signGcSharedState, if_neg (by simp [h])]
  simp only [hcreate]

theorem signGcSharedState_of_some {signature : Signature} (h : chat.selfGcIsFounder = true)
    (hcreate : crypto.signatureCreate (packGcSharedState (withNextVersion chat).sharedState) secretKey =
      some signature) :
    chat.signGcSharedState crypto secretKey =
      (true, { withNextVersion chat with sharedStateSig := signature }) := by
  rw [withNextVersion] at hcreate ⊢
  rw [signGcSharedState, if_neg (by simp [h])]
  simp only [hcreate]

theorem signGcSharedState_cases (crypto : SignCrypto) (secretKey : SigSecretKey) (h : chat.selfGcIsFounder = true) :
    (SignsState crypto chat.sharedState secretKey ∧
      ∃ chat', chat.signGcSharedState crypto secretKey = (true, chat') ∧ KeepsRest chat chat' ∧
        chat'.sharedState = { chat.sharedState with version := nextVersion chat.sharedState.version } ∧
        crypto.signatureCreate (packGcSharedState chat'.sharedState) secretKey = some chat'.sharedStateSig) ∨
    (¬SignsState crypto chat.sharedState secretKey ∧
      ∃ chat', chat.signGcSharedState crypto secretKey = (false, chat') ∧ KeepsRest chat chat' ∧
        chat'.sharedState = { chat.sharedState with version := nextVersion chat.sharedState.version - 1 } ∧
        chat'.sharedStateSig = chat.sharedStateSig) := by
  have hstate : (withNextVersion chat).sharedState =
      { chat.sharedState with version := nextVersion chat.sharedState.version } := by
    rw [withNextVersion, nextVersion]
    split <;> rfl
  have hsig : (withNextVersion chat).sharedStateSig = chat.sharedStateSig := by
    rw [withNextVersion]
    split <;> rfl
  have hkeeps := keepsRest_withNextVersion chat
  rw [SignsState, ← hstate]
  cases hcreate : crypto.signatureCreate (packGcSharedState (withNextVersion chat).sharedState) secretKey with
  | none =>
    right
    refine ⟨by simp, _, signGcSharedState_of_none h hcreate,
      hkeeps.trans (keepsRest_setGcSharedStateVersion _ _), ?_, hsig⟩
    simp only [setGcSharedStateVersion, hstate]
  | some signature =>
    left
    exact ⟨rfl, _, signGcSharedState_of_some h hcreate, hkeeps.trans ⟨rfl, rfl, ⟨_, rfl⟩, rfl, rfl, rfl⟩, rfl, hcreate⟩

structure Signed (crypto : SignCrypto) (chat chat' : GCChat) (secretKey : SigSecretKey) (state : GCSharedState) :
    Prop where
  keeps : chat.KeepsRest chat'
  state : chat'.sharedState = { state with version := nextVersion state.version }
  sig : crypto.signatureCreate (packGcSharedState chat'.sharedState) secretKey = some chat'.sharedStateSig

structure OnlyState (chat chat' : GCChat) : Prop where
  keeps : chat.KeepsRest chat'
  sig : chat'.sharedStateSig = chat.sharedStateSig

theorem Signed.verified {state : GCSharedState} {chat' : GCChat} (hsigned : Signed crypto chat chat' secretKey state)
    (hkey : crypto.KeyPair secretKey chat.chatPublicKey.sig)
    (htopic : crypto.signatureVerify chat.topicSig (packGcTopicInfo chat.topicInfo) chat.topicInfo.publicSigKey = true)
    (hmods : state.modListHash = Toxcore.modListMakeHash crypto chat.moderation.modList) : chat'.Verified crypto := by
  obtain ⟨hkeeps, hstate, hsig⟩ := hsigned
  refine ⟨?_, ?_, ?_⟩
  · rw [hkeeps.chatPublicKey]
    exact hkey _ _ hsig
  · rw [hkeeps.topicInfo, hkeeps.topicSig]
    exact htopic
  · rw [hstate, hkeeps.modList]
    exact hmods

theorem OnlyState.sameSigned_iff {chat' : GCChat} (h : OnlyState chat chat') :
    chat.SameSigned chat' ↔ chat'.sharedState = chat.sharedState := by
  constructor
  · intro hsame
    exact packGcSharedState_inj hsame.state
  · intro hsame
    exact ⟨congrArg packGcSharedState hsame, h.keeps.topicInfo, h.sig, h.keeps.topicSig, h.keeps.modList⟩

theorem withVersion_eq_iff (state : GCSharedState) (version : UInt32) :
    { state with version } = state ↔ version = state.version := by
  obtain ⟨⟩ := state
  simp

end GCChat

namespace GCGroup

open GCChat

variable {crypto : SignCrypto} {group : GCGroup} {env : FounderEnv}

theorem change_cases (crypto : SignCrypto) (env : FounderEnv) (error : Int) (change undo : GCSharedState → GCSharedState)
    (h : group.chat.selfGcIsFounder = true) :
    (SignsState crypto (change group.chat.sharedState) group.chatSecretKey.sig ∧
      ∃ chat', group.change crypto env error change undo = (0, { group with chat := chat' }) ∧
        GCChat.Signed crypto group.chat chat' group.chatSecretKey.sig (change group.chat.sharedState)) ∨
    (¬SignsState crypto (change group.chat.sharedState) group.chatSecretKey.sig ∧
      ∃ chat', group.change crypto env error change undo = (error, { group with chat := chat' }) ∧
        OnlyState group.chat chat' ∧
        chat'.sharedState = undo { change group.chat.sharedState with
          version := nextVersion (change group.chat.sharedState).version - 1 }) := by
  let changed : GCChat := { group.chat with sharedState := change group.chat.sharedState }
  have hchanged : group.chat.KeepsRest changed := ⟨rfl, rfl, ⟨_, rfl⟩, rfl, rfl, rfl⟩
  rw [GCGroup.change, changeSharedState]
  obtain ⟨hsigns, chat', hsign, hkeeps, hstate, hsig⟩ | ⟨hsigns, chat', hsign, hkeeps, hstate, hsig⟩ :=
    @signGcSharedState_cases changed crypto group.chatSecretKey.sig h
  · left
    refine ⟨hsigns, chat'.broadcastGcSharedState env.toChatEnv, ?_, ?_⟩
    · simp only [changed] at hsign
      simp only [hsign]
    · refine ⟨(hchanged.trans hkeeps).trans ?_, hstate, hsig⟩
      exact keepsRest_sendGcLosslessPacketAllPeers chat' _ _ gpSharedState
  · right
    refine ⟨hsigns, { chat' with sharedState := undo chat'.sharedState }, ?_, ?_, congrArg undo hstate⟩
    · simp only [changed] at hsign
      simp only [hsign]
    · exact ⟨hchanged.trans (hkeeps.trans ⟨rfl, rfl, ⟨_, rfl⟩, rfl, rfl, rfl⟩), hsig⟩

/-- `SetterKeeps` for a result of zero or an error. -/
abbrev KeepsResult (crypto : SignCrypto) (group : GCGroup) (result : Int × GCGroup) : Prop :=
  SetterKeeps crypto group.chat result.2.chat (result.1 ≠ 0) (result.1 = 0)

/-- A setter of the shared state is atomic, but a failed call takes the last version back. -/
theorem change_iff {error : Int} (herror : error ≠ 0) (set : GCSharedState → GCSharedState)
    (hversion : ∀ state, (set state).version = state.version)
    (hmods : ∀ state, (set state).modListHash = state.modListHash)
    {undo : GCSharedState → GCSharedState}
    (hundo : ∀ version, undo { set group.chat.sharedState with version } = { group.chat.sharedState with version })
    (hfounder : group.chat.selfGcIsFounder = true)
    (hkey : crypto.KeyPair group.chatSecretKey.sig group.chat.chatPublicKey.sig) (h : group.chat.Verified crypto) :
    KeepsResult crypto group (group.change crypto env error set undo) ↔
      (SignsState crypto (set group.chat.sharedState) group.chatSecretKey.sig ∨
        group.chat.sharedState.version ≠ UInt32.ofNat (2 ^ 32 - 1)) := by
  obtain ⟨hsigns, chat', hchange, hsigned⟩ | ⟨hsigns, chat', hchange, honly, hstate⟩ :=
    change_cases crypto env error set undo hfounder
  · rw [hchange]
    refine iff_of_true ⟨fun hfailed => absurd rfl hfailed, fun _ => ?_⟩ (.inl hsigns)
    exact hsigned.verified hkey h.topic ((hmods _).trans h.mods)
  · rw [hchange]
    have hsame : group.chat.SameSigned chat' ↔ group.chat.sharedState.version ≠ UInt32.ofNat (2 ^ 32 - 1) := by
      rw [honly.sameSigned_iff, hstate, hundo, withVersion_eq_iff, hversion, nextVersion_sub_one]
    constructor
    · intro hkept
      exact .inr (hsame.mp (hkept.atomic herror))
    · intro hcondition
      exact ⟨fun _ => hsame.mpr (hcondition.resolve_left hsigns), fun hok => absurd hok herror⟩

def SignsOrCounts (crypto : SignCrypto) (group : GCGroup) (state : GCSharedState) : Prop :=
  SignsState crypto state group.chatSecretKey.sig ∨ group.chat.sharedState.version ≠ UInt32.ofNat (2 ^ 32 - 1)

instance {state : GCSharedState} : Decidable (SignsOrCounts crypto group state) := inferInstanceAs (Decidable (_ ∨ _))

def KeepsVoice (crypto : SignCrypto) (group : GCGroup) (newVoiceState : UInt8) : Prop :=
  group.chat.selfGcIsFounder = true → group.chat.groupCanHandlePackets = true →
    newVoiceState ≠ group.chat.sharedState.voiceState →
    SignsOrCounts crypto group { group.chat.sharedState with voiceState := newVoiceState }

def KeepsPrivacy (crypto : SignCrypto) (group : GCGroup) (newPrivacyState : UInt8) : Prop :=
  group.chat.selfGcIsFounder = true → group.chat.groupCanHandlePackets = true →
    newPrivacyState ≠ group.chat.sharedState.privacyState →
    SignsOrCounts crypto group { group.chat.sharedState with privacyState := newPrivacyState }

def KeepsMaxPeers (crypto : SignCrypto) (group : GCGroup) (maxPeers : UInt16) : Prop :=
  group.chat.selfGcIsFounder = true → maxPeers ≠ group.chat.sharedState.maxpeers →
    SignsOrCounts crypto group { group.chat.sharedState with maxpeers := maxPeers }

theorem keepsResult_ite {c : Prop} [Decidable c] {code : Int} {result : Int × GCGroup} {P : Prop}
    (h : group.chat.Verified crypto) (hrest : ¬c → (KeepsResult crypto group result ↔ P)) :
    KeepsResult crypto group (if c then (code, group) else result) ↔ (¬c → P) := by
  split
  case isTrue hc => exact iff_of_true (.unchanged h _ _) fun hnot => absurd hc hnot
  case isFalse hc => exact (hrest hc).trans ⟨fun hp _ => hp, fun hp => hp hc⟩

section

variable (hkey : group.chat.selfGcIsFounder = true → crypto.KeyPair group.chatSecretKey.sig group.chat.chatPublicKey.sig)
  (h : group.chat.Verified crypto)

include hkey h

theorem gcFounderSetVoiceState_iff (newVoiceState : UInt8) :
    KeepsResult crypto group (group.gcFounderSetVoiceState crypto env newVoiceState) ↔
      KeepsVoice crypto group newVoiceState := by
  rw [KeepsVoice]
  refine (keepsResult_ite h fun hfounder => keepsResult_ite h fun _ => keepsResult_ite h fun _ =>
    @change_iff crypto group env (-4) (by decide) (fun state => { state with voiceState := newVoiceState })
      (fun _ => rfl) (fun _ => rfl) (fun state => { state with voiceState := group.chat.sharedState.voiceState })
      (fun _ => rfl) (by simpa using hfounder) (hkey (by simpa using hfounder)) h).trans ?_
  simp [SignsOrCounts]

theorem gcFounderSetPrivacyState_iff (newPrivacyState : UInt8) :
    KeepsResult crypto group (group.gcFounderSetPrivacyState crypto env newPrivacyState) ↔
      KeepsPrivacy crypto group newPrivacyState := by
  rw [KeepsPrivacy]
  refine (keepsResult_ite h fun hfounder => keepsResult_ite h fun _ => keepsResult_ite h fun _ => ?_).trans
    (b := _ → _ → _ → SignsOrCounts crypto group { group.chat.sharedState with privacyState := newPrivacyState }) ?_
  · let set := fun (state : GCSharedState) => { state with privacyState := newPrivacyState }
    let undo := fun (state : GCSharedState) => { state with privacyState := group.chat.sharedState.privacyState }
    have hiff := @change_iff crypto group env (-4) (by decide) set (fun _ => rfl) (fun _ => rfl) undo (fun _ => rfl)
      (by simpa using hfounder) (hkey (by simpa using hfounder)) h
    cases hchange : group.change crypto env (-4) set undo with | mk result group' =>
    rw [hchange] at hiff
    simp only
    refine Iff.trans ?_ hiff
    split
    · rfl
    · rename_i hok
      -- the way of joining is not signed
      refine ⟨fun hkept => ⟨fun hfailed => absurd hfailed hok, fun _ => ?_⟩,
        fun hkept => ⟨fun hfailed => by simp at hfailed, fun _ => ?_⟩⟩
      · obtain ⟨hstate, htopic, hmods⟩ := hkept.verified rfl
        exact ⟨hstate, htopic, hmods⟩
      · obtain ⟨hstate, htopic, hmods⟩ := hkept.verified (not_not.mp hok)
        exact ⟨hstate, htopic, hmods⟩
  · simp

theorem gcFounderSetMaxPeers_iff (maxPeers : UInt16) :
    KeepsResult crypto group (group.gcFounderSetMaxPeers crypto env maxPeers) ↔
      KeepsMaxPeers crypto group maxPeers := by
  rw [KeepsMaxPeers]
  refine (keepsResult_ite h fun hfounder => keepsResult_ite h fun _ =>
    @change_iff crypto group env (-2) (by decide) (fun state => { state with maxpeers := maxPeers })
      (fun _ => rfl) (fun _ => rfl) (fun state => { state with maxpeers := group.chat.sharedState.maxpeers })
      (fun _ => rfl) (by simpa using hfounder) (hkey (by simpa using hfounder)) h).trans ?_
  simp [SignsOrCounts]

end

end GCGroup

/-! ## The password -/

theorem getElem_memcpy {n : Nat} (dest : Vector UInt8 n) (data : Bytes) (i : Nat) (hi : i < n) :
    (memcpy dest data)[i] = data.getD i dest[i] := by
  simp only [memcpy, bytesToVector, Vector.getElem_ofFn, getD_eq_getElem?_getD]
  by_cases hlt : i < data.length
  · rw [getElem?_append_left hlt, getElem?_eq_getElem hlt]
    rfl
  · rw [getElem?_append_right (by omega), getElem?_drop, getElem?_eq_none (by omega : data.length ≤ i)]
    simp [show data.length + (i - data.length) = i by omega, hi]

namespace GCSharedState

def withPassword (state : GCSharedState) (passwd : Bytes) : GCSharedState :=
  if passwd.length = 0 then { state with passwordLength := 0, password := Vector.replicate _ 0 }
  else { state with
    passwordLength := UInt16.ofNat passwd.length
    password := memcpy state.password passwd }

def passwd (state : GCSharedState) : Bytes := state.password.toList.take state.passwordLength.toNat

/-- Setting a new password and then the old one leaves the bytes behind it in the array. -/
def RestoresPassword (state : GCSharedState) (newPasswd : Bytes) : Prop :=
  ∀ i (hi : i < maxGcPasswordSize), state.passwordLength.toNat ≤ i →
    state.password[i] =
      if state.passwordLength = 0 ∨ newPasswd = [] then 0 else newPasswd.getD i state.password[i]

instance {state : GCSharedState} {newPasswd : Bytes} : Decidable (state.RestoresPassword newPasswd) :=
  inferInstanceAs (Decidable (∀ i, ∀ _ : i < maxGcPasswordSize, _ → _))

theorem password_withPassword (state : GCSharedState) (passwd : Bytes) (i : Nat) (hi : i < maxGcPasswordSize) :
    (state.withPassword passwd).password[i] = if passwd = [] then 0 else passwd.getD i state.password[i] := by
  rw [withPassword]
  by_cases hpasswd : passwd = []
  · simp [hpasswd]
  · simp only [length_eq_zero_iff, hpasswd]
    exact getElem_memcpy state.password passwd i hi

theorem length_passwd {state : GCSharedState} (hlength : state.passwordLength.toNat ≤ maxGcPasswordSize) :
    state.passwd.length = state.passwordLength.toNat := by
  simp only [passwd, length_take, Vector.length_toList]
  omega

theorem passwd_eq_nil_iff {state : GCSharedState} (hlength : state.passwordLength.toNat ≤ maxGcPasswordSize) :
    state.passwd = [] ↔ state.passwordLength = 0 := by
  rw [← length_eq_zero_iff, length_passwd hlength, ← UInt16.toNat_inj]
  rfl

theorem withPassword_eq (state : GCSharedState) (passwd : Bytes) :
    state.withPassword passwd =
      { state with
        passwordLength := UInt16.ofNat passwd.length
        password := (state.withPassword passwd).password } := by
  rw [withPassword]
  split
  · rename_i hpasswd
    simp [hpasswd]
  · rfl

theorem getD_passwd (state : GCSharedState) (i : Nat) (hi : i < maxGcPasswordSize) (behind : UInt8) :
    state.passwd.getD i behind = if i < state.passwordLength.toNat then state.password[i] else behind := by
  simp only [passwd, getD_eq_getElem?_getD, getElem?_take]
  split
  · simp [hi]
  · rfl

theorem version_withPassword (state : GCSharedState) (passwd : Bytes) :
    (state.withPassword passwd).version = state.version := by
  rw [withPassword_eq]

theorem modListHash_withPassword (state : GCSharedState) (passwd : Bytes) :
    (state.withPassword passwd).modListHash = state.modListHash := by
  rw [withPassword_eq]

theorem withPassword_passwd_iff {state : GCSharedState} (hlength : state.passwordLength.toNat ≤ maxGcPasswordSize)
    (newPasswd : Bytes) (version : UInt32) :
    ({ state.withPassword newPasswd with version } : GCSharedState).withPassword state.passwd = state ↔
      version = state.version ∧ state.RestoresPassword newPasswd := by
  have hlengths : UInt16.ofNat state.passwd.length = state.passwordLength := by
    rw [length_passwd hlength, UInt16.ofNat_toNat]
  have hfields : ({ state.withPassword newPasswd with version } : GCSharedState).withPassword state.passwd = state ↔
      version = state.version ∧
        (({ state.withPassword newPasswd with version } : GCSharedState).withPassword state.passwd).password =
          state.password := by
    constructor
    · intro hsame
      have hversion := congrArg GCSharedState.version hsame
      rw [version_withPassword] at hversion
      exact ⟨hversion, congrArg GCSharedState.password hsame⟩
    · rintro ⟨rfl, hpassword⟩
      rw [withPassword_eq, hpassword, hlengths, withPassword_eq state newPasswd]
  rw [hfields, Vector.ext_iff]
  refine and_congr_right fun _ => forall_congr' fun i => forall_congr' fun hi => ?_
  rw [password_withPassword _ _ i hi]
  simp only [passwd_eq_nil_iff hlength]
  rw [password_withPassword state newPasswd i hi, getD_passwd state i hi]
  by_cases hnone : state.passwordLength = 0
  · simp [hnone, eq_comm]
  · by_cases hin : i < state.passwordLength.toNat
    · simp [hnone, hin]
    · simp only [hnone, hin, false_or]
      exact ⟨fun heq _ => heq.symm, fun heq => (heq (by omega)).symm⟩

end GCSharedState

theorem GCChat.setGcPasswordLocal_eq (chat : GCChat) {passwd : Bytes} (h : passwd.length ≤ maxGcPasswordSize) :
    chat.setGcPasswordLocal passwd = (true, { chat with sharedState := chat.sharedState.withPassword passwd }) := by
  rw [setGcPasswordLocal, if_neg (by omega), GCSharedState.withPassword]
  split <;> rfl

namespace GCGroup

open GCChat

variable {crypto : SignCrypto} {group : GCGroup} {env : FounderEnv}

def KeepsPassword (crypto : SignCrypto) (group : GCGroup) (copied : Bool) (newPasswd : Bytes) : Prop :=
  group.chat.selfGcIsFounder = true → (0 < group.chat.sharedState.passwordLength → copied = true) →
    newPasswd.length ≤ maxGcPasswordSize →
    SignsState crypto (group.chat.sharedState.withPassword newPasswd) group.chatSecretKey.sig ∨
      (group.chat.sharedState.version ≠ UInt32.ofNat (2 ^ 32 - 1) ∧
        group.chat.sharedState.RestoresPassword newPasswd)

theorem trySetPassword_iff (copied : Bool) (newPasswd : Bytes)
    (hkey : group.chat.selfGcIsFounder = true → crypto.KeyPair group.chatSecretKey.sig group.chat.chatPublicKey.sig)
    (h : group.chat.Verified crypto) (hlength : group.chat.sharedState.passwordLength.toNat ≤ maxGcPasswordSize) :
    KeepsResult crypto group (group.trySetPassword crypto env copied newPasswd) ↔
      KeepsPassword crypto group copied newPasswd := by
  rw [trySetPassword]
  split
  case isTrue hfounder => exact iff_of_true (.unchanged h _ _) fun hyes => by simp [hyes] at hfounder
  case isFalse hfounder =>
    have hfounder : group.chat.selfGcIsFounder = true := by simpa using hfounder
    split
    case isTrue hcopied =>
      exact iff_of_true (.unchanged h _ _) fun _ hyes => by simp [hyes hcopied.1] at hcopied
    case isFalse hcopied =>
      have hcopied : 0 < group.chat.sharedState.passwordLength → copied = true := fun hlong => by
        simpa [hlong] using hcopied
      rw [gcFounderSetPassword, if_neg (by simp [hfounder])]
      by_cases hnew : newPasswd.length ≤ maxGcPasswordSize
      case neg =>
        have hset : group.chat.setGcPasswordLocal newPasswd = (false, group.chat) := if_pos (by omega)
        rw [hset]
        exact iff_of_true (.unchanged h _ _) fun _ _ hyes => absurd hyes hnew
      rw [setGcPasswordLocal_eq _ hnew]
      let changed : GCChat :=
        { group.chat with sharedState := group.chat.sharedState.withPassword newPasswd }
      have hchanged : group.chat.KeepsRest changed := ⟨rfl, rfl, ⟨_, rfl⟩, rfl, rfl, rfl⟩
      obtain ⟨hsigns, chat', hsign, hkeeps, hstate, hsig⟩ | ⟨hsigns, chat', hsign, hkeeps, hstate, hsig⟩ :=
        @signGcSharedState_cases changed crypto group.chatSecretKey.sig hfounder
      · simp only [changed] at hsign
        simp only [hsign]
        refine iff_of_true ⟨fun hfailed => absurd rfl hfailed, fun _ => ?_⟩ fun _ _ _ => .inl hsigns
        have hsigned : GCChat.Signed crypto group.chat (chat'.broadcastGcSharedState env.toChatEnv) group.chatSecretKey.sig
            (group.chat.sharedState.withPassword newPasswd) :=
          ⟨(hchanged.trans hkeeps).trans (keepsRest_sendGcLosslessPacketAllPeers chat' _ _ gpSharedState), hstate, hsig⟩
        refine hsigned.verified (hkey hfounder) h.topic ?_
        rw [GCSharedState.modListHash_withPassword]
        exact h.mods
      · simp only [changed] at hsign
        have hold : group.chat.sharedState.passwd.length ≤ maxGcPasswordSize := by
          rw [GCSharedState.length_passwd hlength]
          exact hlength
        have hundo := setGcPasswordLocal_eq chat' hold
        rw [GCSharedState.passwd] at hundo
        simp only [hsign, hundo]
        have honly : OnlyState group.chat
            { chat' with sharedState := chat'.sharedState.withPassword group.chat.sharedState.passwd } :=
          ⟨hchanged.trans (hkeeps.trans ⟨rfl, rfl, ⟨_, rfl⟩, rfl, rfl, rfl⟩), hsig⟩
        have hsame : group.chat.SameSigned
              { chat' with sharedState := chat'.sharedState.withPassword group.chat.sharedState.passwd } ↔
            group.chat.sharedState.version ≠ UInt32.ofNat (2 ^ 32 - 1) ∧
              group.chat.sharedState.RestoresPassword newPasswd := by
          rw [honly.sameSigned_iff]
          simp only [hstate, changed, GCSharedState.version_withPassword]
          rw [GCSharedState.withPassword_passwd_iff hlength, nextVersion_sub_one]
        constructor
        · intro hkept _ _ _
          exact .inr (hsame.mp (hkept.atomic (by simp)))
        · intro hcondition
          refine ⟨fun _ => hsame.mpr ((hcondition hfounder hcopied hnew).resolve_left hsigns), fun hok => ?_⟩
          simp at hok

end GCGroup

/-! ## The topic lock -/

namespace GCGroup

open GCChat

variable {crypto : SignCrypto} {group : GCGroup} {env : FounderEnv}

def lockedChat (group : GCGroup) : GCChat :=
  { group.chat with sharedState := { group.chat.sharedState with topicLock := gcTopicLockEnabled } }

/-- `gc_founder_set_topic_lock` comes to the change. -/
def ChangesTopicLock (group : GCGroup) (newLockState : UInt8) : Prop :=
  ¬newLockState > tlDisabled ∧ group.chat.selfGcIsFounder = true ∧ group.chat.groupCanHandlePackets = true ∧
    newLockState ≠ (if group.chat.groupTopicLockEnabled then tlEnabled else tlDisabled)

/-- When enabling the topic lock keeps what is signed: once the topic is signed again, the shared state is signed. -/
def KeepsEnabling (crypto : SignCrypto) (group : GCGroup) (call : TopicCall) : Prop :=
  TopicCall.Allowed group.lockedChat group.chat.topicInfo.topic →
    call.packed = true ∧
      (call.Signs crypto group.lockedChat group.selfSecretSigKey group.chat.topicInfo.topic → call.broadcast = true →
        SignsState crypto group.lockedChat.sharedState group.chatSecretKey.sig)

def KeepsTopicLock (crypto : SignCrypto) (group : GCGroup) (call : TopicCall) (newLockState : UInt8) : Prop :=
  group.ChangesTopicLock newLockState →
    if newLockState = tlEnabled then KeepsEnabling crypto group call
    else SignsOrCounts crypto group { group.chat.sharedState with topicLock := group.chat.topicInfo.version }

def enableTopicLock (crypto : SignCrypto) (group : GCGroup) (env : FounderEnv) (call : TopicCall) : Int × GCGroup :=
  let undo := fun (state : GCSharedState) => { state with topicLock := group.chat.sharedState.topicLock }
  match call.gcSetTopic crypto env.toChatEnv group.lockedChat group.selfSecretSigKey group.chat.topicInfo.topic with
  | (.ok, chat) => { group with chat }.change crypto env (-5) id undo
  | (_, chat) => (-6, { group with chat := { chat with sharedState := undo chat.sharedState } })

theorem trySetTopicLock_of_unchanged {call : TopicCall} {newLockState : UInt8}
    (h : ¬group.ChangesTopicLock newLockState) :
    ∃ result, group.trySetTopicLock crypto env call newLockState = (result, group) := by
  rw [trySetTopicLock]
  split
  case isTrue => exact ⟨_, rfl⟩
  case isFalse hstate =>
    split
    case isTrue => exact ⟨_, rfl⟩
    case isFalse hfounder =>
      split
      case isTrue => exact ⟨_, rfl⟩
      case isFalse hconnected =>
        by_cases hnew : newLockState = (if group.chat.groupTopicLockEnabled then tlEnabled else tlDisabled)
        · rw [if_pos hnew]
          exact ⟨_, rfl⟩
        · exact absurd ⟨hstate, by simpa using hfounder, by simpa using hconnected, hnew⟩ h

theorem trySetTopicLock_of_changes {call : TopicCall} {newLockState : UInt8} (h : group.ChangesTopicLock newLockState) :
    group.trySetTopicLock crypto env call newLockState =
      if newLockState = tlEnabled then group.enableTopicLock crypto env call
      else group.change crypto env (-5) (fun state => { state with topicLock := group.chat.topicInfo.version })
        fun state => { state with topicLock := group.chat.sharedState.topicLock } := by
  obtain ⟨hstate, hfounder, hconnected, hnew⟩ := h
  rw [trySetTopicLock, if_neg hstate, if_neg (by simp [hfounder]), if_neg (by simp [hconnected]), if_neg hnew]
  rfl

theorem newTopicInfo_lockedChat_ne (topic : Bytes) : TopicCall.newTopicInfo group.lockedChat topic ≠ group.chat.topicInfo := by
  intro hsame
  have hversion := congrArg GCTopicInfo.version hsame
  have henabled : group.lockedChat.groupTopicLockEnabled = true := by
    simp [groupTopicLockEnabled, lockedChat]
  rw [TopicCall.newTopicInfo, henabled] at hversion
  simp [lockedChat] at hversion

theorem enableTopicLock_iff (call : TopicCall) (hfounder : group.chat.selfGcIsFounder = true)
    (hself : crypto.KeyPair group.selfSecretSigKey group.chat.selfPublicKey.sig)
    (hkey : crypto.KeyPair group.chatSecretKey.sig group.chat.chatPublicKey.sig) (h : group.chat.Verified crypto) :
    KeepsResult crypto group (group.enableTopicLock crypto env call) ↔ KeepsEnabling crypto group call := by
  rw [enableTopicLock, KeepsEnabling]
  by_cases hallowed : TopicCall.Allowed group.lockedChat group.chat.topicInfo.topic
  case neg =>
    obtain ⟨code, hcall⟩ := @TopicCall.gcSetTopic_of_not_allowed call crypto env.toChatEnv group.lockedChat
      group.selfSecretSigKey group.chat.topicInfo.topic hallowed
    rw [hcall]
    exact iff_of_true (.unchanged h _ _) fun hyes => absurd hyes hallowed
  obtain ⟨hpacked, hcall⟩ | ⟨hpacked, hnot, code, hcall⟩ |
      ⟨hpacked, hsigns, hbroadcast, topicSig, chat', hcall, hcreate, htopic, hsig, hkeeps⟩ :=
    TopicCall.gcSetTopic_cases call crypto env.toChatEnv group.selfSecretSigKey hallowed
  · -- the topic has a new version that is not taken back
    rw [hcall]
    refine iff_of_false (fun hkept => ?_) fun hcondition => ?_
    · exact newTopicInfo_lockedChat_ne _ (hkept.atomic (by simp)).topic
    · simp [hpacked] at hcondition
      exact hcondition hallowed
  · rw [hcall]
    refine iff_of_true (.unchanged h _ _) fun _ => ⟨hpacked, fun hsigns hbroadcast => ?_⟩
    exact absurd ⟨hsigns, hbroadcast⟩ hnot
  · rw [hcall]
    have hrole : chat'.selfGcIsFounder = true := by
      rw [selfGcIsFounder, hkeeps.role]
      exact hfounder
    have hlocked : chat'.sharedState = group.lockedChat.sharedState := hkeeps.sharedState
    obtain ⟨hstate, chat'', hchange, hsigned⟩ | ⟨hstate, chat'', hchange, honly, -⟩ :=
      @change_cases { group with chat := chat' } crypto env (-5) id
        (fun state => { state with topicLock := group.chat.sharedState.topicLock }) hrole
    · simp only [hchange]
      rw [id, hlocked] at hstate
      refine iff_of_true ⟨fun hfailed => absurd rfl hfailed, fun _ => ?_⟩ fun _ => ⟨hpacked, fun _ _ => hstate⟩
      refine hsigned.verified ?_ ?_ ?_
      · rw [hkeeps.chatPublicKey]
        exact hkey
      · rw [hsig, htopic]
        exact hself.of_trySignatureCreate hcreate
      · rw [hlocked, hkeeps.moderation]
        exact h.mods
    · simp only [hchange]
      rw [id, hlocked] at hstate
      refine iff_of_false (fun hkept => ?_) fun hcondition => hstate ((hcondition hallowed).2 hsigns hbroadcast)
      -- the topic has been signed again
      apply @newTopicInfo_lockedChat_ne group group.chat.topicInfo.topic
      rw [← htopic, ← (hkept.atomic (by simp)).topic, honly.keeps.topicInfo]

theorem trySetTopicLock_iff (call : TopicCall) (newLockState : UInt8)
    (hself : crypto.KeyPair group.selfSecretSigKey group.chat.selfPublicKey.sig)
    (hkey : group.chat.selfGcIsFounder = true → crypto.KeyPair group.chatSecretKey.sig group.chat.chatPublicKey.sig)
    (h : group.chat.Verified crypto) :
    KeepsResult crypto group (group.trySetTopicLock crypto env call newLockState) ↔
      KeepsTopicLock crypto group call newLockState := by
  by_cases hchanges : group.ChangesTopicLock newLockState
  case neg =>
    obtain ⟨result, hresult⟩ := @trySetTopicLock_of_unchanged crypto group env call newLockState hchanges
    rw [hresult]
    exact iff_of_true (.unchanged h _ _) fun hyes => absurd hyes hchanges
  have hfounder := hchanges.2.1
  rw [trySetTopicLock_of_changes hchanges, KeepsTopicLock]
  by_cases henable : newLockState = tlEnabled
  · simp only [henable]
    rw [henable] at hchanges
    exact (enableTopicLock_iff call hfounder hself (hkey hfounder) h).trans ⟨fun hkeeps _ => hkeeps, fun hkeeps => hkeeps hchanges⟩
  · simp only [henable, if_false]
    have hiff := @change_iff crypto group env (-5) (by decide)
      (fun state => { state with topicLock := group.chat.topicInfo.version }) (fun _ => rfl) (fun _ => rfl)
      (fun state => { state with topicLock := group.chat.sharedState.topicLock }) (fun _ => rfl) hfounder (hkey hfounder) h
    exact hiff.trans ⟨fun hsigns _ => hsigns, fun hsigns => hsigns hchanges⟩

end GCGroup

end Toxcore

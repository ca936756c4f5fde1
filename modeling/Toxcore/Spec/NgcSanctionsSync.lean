import Toxcore.ForStd.Register
import Toxcore.Spec.NgcModList
import Mathlib.Data.Prod.Lex

/-!
# Convergence of the sanctions list

Members receive sanctions lists from several moderators in different orders. A member keeps the list with the
greatest version and checksum: its moderation object is a register (`ForStd/Register`). Of two different lists
with the same version and checksum the first one wins.
-/

namespace Toxcore

open List

abbrev SanctionsItem := List ModSanction × ModSanctionCreds

def sanctionsKey (item : SanctionsItem) : Nat ×ₗ Nat :=
  toLex (item.2.version.toNat, item.2.checksum.toNat)

theorem sanctionsKey_lt_iff (item item' : SanctionsItem) :
    sanctionsKey item < sanctionsKey item' ↔
      item.2.version < item'.2.version ∨
        item.2.version = item'.2.version ∧ item.2.checksum < item'.2.checksum := by
  rw [sanctionsKey, sanctionsKey, Prod.Lex.toLex_lt_toLex, UInt32.lt_iff_toNat_lt,
    ← UInt32.toNat_inj, UInt16.lt_iff_toNat_lt]

/-- What is in a packet that holds as many entries as its header says and credentials. -/
def sanctionsOfPacket (data : Bytes) : Option SanctionsItem :=
  if data.length < 2 then none
  else if (netUnpackU16 data).toNat > modMaxNumSanctions then none
  else
    match sanctionsListUnpackLoop (min (netUnpackU16 data).toNat modMaxNumSanctions)
        (data.drop 2) with
    | none => none
    | some (sanctions, rest) =>
      if rest.length < modSanctionsCredsSize then none
      else if sanctions.length ≠ (netUnpackU16 data).toNat then none
      else some (sanctions, sanctionsCredsUnpack rest)

/-! ## The integrity check -/

namespace Moderation

variable {crypto : SignCrypto} {moderation moderation' : Moderation}

def SameModerators (moderation moderation' : Moderation) : Prop :=
  moderation'.modList = moderation.modList ∧ moderation'.founderPublicSigKey = moderation.founderPublicSigKey

section

variable (h : moderation.SameModerators moderation')
include h

theorem SameModerators.modListVerifySigPk (sigPk : SigPublicKey) :
    moderation'.modListVerifySigPk sigPk = moderation.modListVerifySigPk sigPk := by
  rw [Moderation.modListVerifySigPk, Moderation.modListVerifySigPk, h.1, h.2]

theorem SameModerators.sanctionsListValidateEntry (sanction : ModSanction) :
    moderation'.sanctionsListValidateEntry crypto sanction =
      moderation.sanctionsListValidateEntry crypto sanction := by
  rw [Moderation.sanctionsListValidateEntry, Moderation.sanctionsListValidateEntry, h.modListVerifySigPk]

theorem SameModerators.sanctionsListCheckIntegrity {creds : ModSanctionCreds} {sanctions : List ModSanction}
    (hcheck : moderation.sanctionsListCheckIntegrity crypto creds sanctions)
    (hversion : moderation'.sanctionsCreds.version ≤ creds.version) :
    moderation'.sanctionsListCheckIntegrity crypto creds sanctions := by
  have hentry : moderation'.sanctionsListValidateEntry crypto =
      moderation.sanctionsListValidateEntry crypto :=
    funext fun sanction => h.sanctionsListValidateEntry sanction
  rw [Moderation.sanctionsListCheckIntegrity, sanctionsCredsValidate] at hcheck ⊢
  rw [hentry, h.modListVerifySigPk]
  split at hcheck
  · exact absurd hcheck (by simp)
  rename_i hall
  rw [if_neg hall]
  split at hcheck
  · exact absurd hcheck (by simp)
  rename_i hmod
  rw [if_neg hmod]
  split at hcheck
  · exact absurd hcheck (by simp)
  rename_i hhash
  rw [if_neg hhash]
  split at hcheck
  · exact absurd hcheck (by simp)
  rename_i hchecksum
  rw [if_neg hchecksum]
  split at hcheck
  · exact absurd hcheck (by simp)
  rw [if_neg (fun hold => absurd hold.2.1 (UInt32.not_lt.mpr hversion))]
  exact hcheck

end

end Moderation

namespace GCChat

variable {crypto : SignCrypto} {chat chat' : GCChat}

def sanctionsItem (chat : GCChat) : SanctionsItem :=
  (chat.moderation.sanctions, chat.moderation.sanctionsCreds)

/-! ## The handler -/

theorem moderation_handleGcSanctionsListError (env : ChatEnv) :
    (chat.handleGcSanctionsListError env).2.moderation = chat.moderation := by
  rw [handleGcSanctionsListError]
  split
  · rfl
  split
  · rfl
  split
  · rfl
  · rw [moderation_sendGcRandomSyncRequest]

theorem moderation_updateGcPeerRoles (chat : GCChat) :
    ∃ version, chat.updateGcPeerRoles.moderation = { chat.moderation with sharedStateVersion := version } := by
  rw [updateGcPeerRoles]
  split
  · exact ⟨0, rfl⟩
  · exact ⟨chat.moderation.sharedStateVersion, rfl⟩

theorem handleGcSanctionsList_of_packet (env : ChatEnv) (stackCreds : ModSanctionCreds)
    {data : Bytes} {item : SanctionsItem} (h : sanctionsOfPacket data = some item) :
    chat.handleGcSanctionsList crypto env stackCreds data =
      if !chat.moderation.sanctionsListCheckIntegrity crypto item.2 item.1 then
        chat.handleGcSanctionsListError env
      else if item.2.version < chat.moderation.sanctionsCreds.version then (true, chat)
      else if item.2.version = chat.moderation.sanctionsCreds.version ∧
          item.2.checksum ≤ chat.moderation.sanctionsCreds.checksum then (true, chat)
      else
        (true, { chat with
          moderation := { chat.moderation with sanctions := item.1, sanctionsCreds := item.2 }
          }.updateGcPeerRoles) := by
  rw [sanctionsOfPacket] at h
  split at h
  · exact absurd h (by simp)
  rename_i hlen
  split at h
  · exact absurd h (by simp)
  rename_i hmax
  split at h
  · exact absurd h (by simp)
  rename_i sanctions rest hloop
  split at h
  · exact absurd h (by simp)
  rename_i hrest
  split at h
  · exact absurd h (by simp)
  rename_i hnum
  cases h
  rw [handleGcSanctionsList, if_neg hlen]
  rw [if_neg hmax, sanctionsListUnpack, hloop]
  dsimp only
  rw [if_neg hrest]
  dsimp only
  rw [if_neg hnum]

theorem sanctionsItem_handleGcSanctionsList (env : ChatEnv) (stackCreds : ModSanctionCreds)
    (hmods : chat.moderation.SameModerators chat'.moderation) {data : Bytes} {item : SanctionsItem}
    (hitem : sanctionsOfPacket data = some item)
    (hcheck : chat.moderation.sanctionsListCheckIntegrity crypto item.2 item.1) :
    (chat'.handleGcSanctionsList crypto env stackCreds data).2.sanctionsItem =
        Register.receive sanctionsKey chat'.sanctionsItem item ∧
      chat.moderation.SameModerators (chat'.handleGcSanctionsList crypto env stackCreds data).2.moderation := by
  rw [handleGcSanctionsList_of_packet env stackCreds hitem, Register.receive]
  by_cases hold : item.2.version < chat'.moderation.sanctionsCreds.version
  · -- an older list is not taken, whether it passes the check or not
    have hkey : ¬sanctionsKey chat'.sanctionsItem < sanctionsKey item := by
      rw [sanctionsKey_lt_iff]
      intro hlt
      rcases hlt with hlt | ⟨heq, -⟩
      · exact UInt32.lt_asymm hlt hold
      · rw [← heq] at hold
        exact UInt32.lt_irrefl _ hold
    split
    · rw [sanctionsItem, moderation_handleGcSanctionsListError]
      exact ⟨rfl, hmods⟩
    · exact ⟨rfl, hmods⟩
  · have hpass := hmods.sanctionsListCheckIntegrity hcheck (UInt32.not_lt.mp hold)
    rw [if_neg (by simp [hpass]), if_neg hold]
    by_cases htie : item.2.version = chat'.moderation.sanctionsCreds.version ∧
        item.2.checksum ≤ chat'.moderation.sanctionsCreds.checksum
    · have hkey : ¬sanctionsKey chat'.sanctionsItem < sanctionsKey item := by
        rw [sanctionsKey_lt_iff]
        intro hlt
        rcases hlt with hlt | ⟨-, hlt⟩
        · rw [htie.1] at hlt
          exact UInt32.lt_irrefl _ hlt
        · exact absurd hlt (UInt16.not_lt.mpr htie.2)
      rw [if_neg hkey, if_pos htie]
      exact ⟨rfl, hmods⟩
    · have hkey : sanctionsKey chat'.sanctionsItem < sanctionsKey item := by
        rw [sanctionsKey_lt_iff]
        rcases UInt32.lt_or_eq_of_le (UInt32.not_lt.mp hold) with hlt | heq
        · exact .inl hlt
        · exact .inr ⟨heq, UInt16.not_le.mp fun hle => htie ⟨heq.symm, hle⟩⟩
      rw [if_pos hkey, if_neg htie]
      obtain ⟨version, hversion⟩ := moderation_updateGcPeerRoles { chat' with
        moderation := { chat'.moderation with sanctions := item.1, sanctionsCreds := item.2 } }
      rw [sanctionsItem, hversion]
      exact ⟨rfl, hmods⟩

/-! ## Runs -/

structure SanctionsInput where
  env : ChatEnv
  stackCreds : ModSanctionCreds
  data : Bytes

def handleSanctionsInputs (crypto : SignCrypto) (chat : GCChat) (inputs : List SanctionsInput) :
    GCChat :=
  inputs.foldl (fun chat input =>
    (chat.handleGcSanctionsList crypto input.env input.stackCreds input.data).2) chat

/-- Each packet passes `sanctions_list_check_integrity`. -/
def ValidSanctions (crypto : SignCrypto) (chat : GCChat) (packets : List Bytes) : Prop :=
  ∀ data ∈ packets, ∃ item, sanctionsOfPacket data = some item ∧
    chat.moderation.sanctionsListCheckIntegrity crypto item.2 item.1

/-- A member whose moderators, sanctions list and credentials are those of `chat`, with a shared
    state. -/
structure SameSanctions (chat chat' : GCChat) : Prop where
  moderators : chat.moderation.SameModerators chat'.moderation
  sanctionsItem : chat'.sanctionsItem = chat.sanctionsItem
  sharedState : 0 < chat'.sharedState.version
  sharedStateVersion : chat'.moderation.sharedStateVersion = chat'.sharedState.version

def CoversPackets (packets : List Bytes) (inputs : List SanctionsInput) : Prop :=
  ∀ data, data ∈ inputs.map (·.data) ↔ data ∈ packets

/-- Two members that handle all packets end with the same list, the greatest and first one. -/
def SanctionsConverge (crypto : SignCrypto) (chat : GCChat) (packets : List Bytes) : Prop :=
  ∀ chat₁ chat₂ inputs₁ inputs₂, SameSanctions chat chat₁ → SameSanctions chat chat₂ →
    CoversPackets packets inputs₁ → CoversPackets packets inputs₂ →
    (chat₁.handleSanctionsInputs crypto inputs₁).sanctionsItem =
        (chat₂.handleSanctionsInputs crypto inputs₂).sanctionsItem ∧
      ((chat₁.handleSanctionsInputs crypto inputs₁).sanctionsItem = chat.sanctionsItem ∨
        ∃ data ∈ packets,
          sanctionsOfPacket data = some (chat₁.handleSanctionsInputs crypto inputs₁).sanctionsItem) ∧
      sanctionsKey chat.sanctionsItem ≤
        sanctionsKey (chat₁.handleSanctionsInputs crypto inputs₁).sanctionsItem ∧
      ∀ data ∈ packets, ∀ item, sanctionsOfPacket data = some item →
        sanctionsKey item ≤ sanctionsKey (chat₁.handleSanctionsInputs crypto inputs₁).sanctionsItem

def packetItems (packets : List Bytes) : List SanctionsItem := packets.filterMap sanctionsOfPacket

theorem sanctionsItem_handleSanctionsInputs {packets : List Bytes}
    (hvalid : ValidSanctions crypto chat packets) (hmods : chat.moderation.SameModerators chat'.moderation)
    {inputs : List SanctionsInput} (hinputs : ∀ input ∈ inputs, input.data ∈ packets) :
    (chat'.handleSanctionsInputs crypto inputs).sanctionsItem =
      Register.run sanctionsKey chat'.sanctionsItem (packetItems (inputs.map (·.data))) := by
  induction inputs generalizing chat' with
  | nil => rfl
  | cons input inputs ih =>
    obtain ⟨item, hitem, hcheck⟩ := hvalid input.data (hinputs input mem_cons_self)
    obtain ⟨hstep, hmods'⟩ :=
      sanctionsItem_handleGcSanctionsList input.env input.stackCreds hmods hitem hcheck
    rw [handleSanctionsInputs, foldl_cons, ← handleSanctionsInputs,
      ih hmods' fun input' hmem => hinputs input' (mem_cons_of_mem _ hmem), hstep,
      map_cons, packetItems, packetItems, filterMap_cons_some hitem, Register.run_cons]

theorem CoversPackets.covers {packets : List Bytes} {inputs : List SanctionsInput}
    (h : CoversPackets packets inputs) :
    Register.Covers (packetItems packets) (packetItems (inputs.map (·.data))) := by
  intro item
  rw [packetItems, packetItems, mem_filterMap, mem_filterMap]
  constructor
  · intro hmem
    obtain ⟨data, hdata, hitem⟩ := hmem
    exact ⟨data, (h data).mp hdata, hitem⟩
  · intro hmem
    obtain ⟨data, hdata, hitem⟩ := hmem
    exact ⟨data, (h data).mpr hdata, hitem⟩

theorem CoversPackets.data_mem {packets : List Bytes} {inputs : List SanctionsInput}
    (h : CoversPackets packets inputs) : ∀ input ∈ inputs, input.data ∈ packets :=
  fun input hmem => (h input.data).mp (mem_map_of_mem hmem)

/-! ## Convergence -/

/-- Among the greater packets, those with the greatest key hold the same list. -/
def UniqueGreatest (chat : GCChat) (packets : List Bytes) : Prop :=
  ∀ item ∈ packetItems packets, ∀ item' ∈ packetItems packets,
    sanctionsKey chat.sanctionsItem < sanctionsKey item → sanctionsKey item = sanctionsKey item' →
    (∀ other ∈ packetItems packets, sanctionsKey other ≤ sanctionsKey item) → item = item'

def inputsOf (env : ChatEnv) (packets : List Bytes) : List SanctionsInput :=
  packets.map fun data => { env, stackCreds := sanctionsCredsUnpack [], data }

theorem map_data_inputsOf (env : ChatEnv) (packets : List Bytes) :
    (inputsOf env packets).map (·.data) = packets := by
  rw [inputsOf, map_map]
  exact map_id packets

/-- The members agree, whatever the orders, exactly when the greatest packet is unique. -/
theorem sanctionsConverge_iff (crypto : SignCrypto) (chat : GCChat) (packets : List Bytes)
    (hversion : 0 < chat.sharedState.version)
    (hsame : chat.moderation.sharedStateVersion = chat.sharedState.version)
    (hvalid : ValidSanctions crypto chat packets) :
    SanctionsConverge crypto chat packets ↔ UniqueGreatest chat packets := by
  have hrun : ∀ {chat'} {inputs}, SameSanctions chat chat' → CoversPackets packets inputs →
      (chat'.handleSanctionsInputs crypto inputs).sanctionsItem =
        Register.run sanctionsKey chat.sanctionsItem (packetItems (inputs.map (·.data))) := by
    intro chat' inputs hchat' hinputs
    rw [sanctionsItem_handleSanctionsInputs hvalid hchat'.moderators hinputs.data_mem, hchat'.sanctionsItem]
  constructor
  · intro hconverge item hitem item' hitem' hlt hkey hmax
    -- one member receives the first of the two packets first, the other the second
    have hself : SameSanctions chat chat := ⟨⟨rfl, rfl⟩, rfl, hversion, hsame⟩
    obtain ⟨data, hdata, hof⟩ := mem_filterMap.mp hitem
    obtain ⟨data', hdata', hof'⟩ := mem_filterMap.mp hitem'
    have hfirst : ∀ {data item}, data ∈ packets → sanctionsOfPacket data = some item →
        sanctionsKey chat.sanctionsItem < sanctionsKey item →
        (∀ other ∈ packetItems packets, sanctionsKey other ≤ sanctionsKey item) →
        CoversPackets packets (inputsOf quietChatEnv (data :: packets)) ∧
        (chat.handleSanctionsInputs crypto (inputsOf quietChatEnv (data :: packets))).sanctionsItem = item := by
      intro data item hdata hof hlt hmax
      have hcovers : CoversPackets packets (inputsOf quietChatEnv (data :: packets)) := by
        intro data'
        rw [map_data_inputsOf, mem_cons]
        exact ⟨fun h => h.elim (fun heq => heq ▸ hdata) id, .inr⟩
      refine ⟨hcovers, ?_⟩
      rw [hrun hself hcovers, map_data_inputsOf, packetItems, filterMap_cons_some hof,
        Register.run_cons, Register.receive, if_pos hlt]
      exact Register.run_eq_self hmax
    obtain ⟨hcovers, hresult⟩ := hfirst hdata hof hlt hmax
    obtain ⟨hcovers', hresult'⟩ := hfirst hdata' hof' (hkey ▸ hlt) fun other hother =>
      hkey ▸ hmax other hother
    rw [← hresult, ← hresult']
    exact (hconverge chat chat _ _ hself hself hcovers hcovers').1
  · intro hunique chat1 chat2 inputs1 inputs2 h1 h2 hinputs1 hinputs2
    rw [hrun h1 hinputs1, hrun h2 hinputs2]
    refine ⟨Register.run_eq_run_iff.mpr hunique _ _ hinputs1.covers hinputs2.covers, ?_,
      Register.key_le_key_run_left _ _, ?_⟩
    · rcases Register.run_eq_or_mem sanctionsKey chat.sanctionsItem
        (packetItems (inputs1.map (·.data))) with heq | ⟨hmem, -⟩
      · exact .inl heq
      · right
        obtain ⟨data, hdata, hof⟩ := mem_filterMap.mp ((hinputs1.covers _).mp hmem)
        exact ⟨data, hdata, hof⟩
    · intro data hdata item hof
      exact Register.key_le_key_run _ ((hinputs1.covers item).mpr (mem_filterMap.mpr ⟨data, hdata, hof⟩))

/-! ## Two moderators remove the same observer -/

def firstModSig : Signature :=
  #v[174, 184, 31, 155, 126, 60, 215, 6, 153, 46, 73, 154, 191, 20, 186, 186,
    202, 73, 147, 118, 240, 68, 18, 202, 130, 190, 202, 81, 13, 72, 75, 174,
    216, 239, 52, 252, 222, 185, 212, 142, 243, 56, 139, 82, 98, 144, 101, 29,
    184, 172, 142, 71, 94, 136, 200, 43, 121, 184, 46, 21, 95, 23, 189, 14]

def secondModSig : Signature :=
  #v[248, 169, 202, 9, 111, 125, 65, 166, 148, 252, 61, 40, 205, 240, 56, 110,
    115, 252, 12, 251, 229, 202, 75, 210, 196, 89, 116, 59, 19, 116, 28, 230,
    149, 115, 190, 89, 160, 217, 163, 1, 33, 32, 210, 138, 176, 121, 83, 95,
    51, 185, 228, 98, 10, 152, 185, 111, 101, 221, 238, 149, 126, 50, 207, 7]

def removalCrypto : SignCrypto where
  sha256 _ := zeroDigest
  signatureCreate _ _ := none
  signatureVerify signature message sigPk :=
    message == zeroDigest.toList &&
      (signature == firstModSig && sigPk == firstMod || signature == secondModSig && sigPk == secondMod)

def observerChat : GCChat :=
  { syncedChat with
    moderation := { syncedChat.moderation with
      sanctions := [observerEntry]
      sanctionsCreds := observerCreds } }

def removalCreds (sigPk : SigPublicKey) (sig : Signature) : ModSanctionCreds where
  version := 2
  hash := zeroDigest
  checksum := 0
  sigPk
  sig

def removalPacket (creds : ModSanctionCreds) : Bytes := netPackU16 0 ++ sanctionsCredsPack creds

def firstRemoval : Bytes := removalPacket (removalCreds firstMod firstModSig)

def secondRemoval : Bytes := removalPacket (removalCreds secondMod secondModSig)

/-- Both moderators remove the only observer, and the first packet wins. -/
theorem not_sanctionsConverge :
    0 < observerChat.sharedState.version ∧
    observerChat.moderation.sharedStateVersion = observerChat.sharedState.version ∧
    ValidSanctions removalCrypto observerChat [firstRemoval, secondRemoval] ∧
    ¬SanctionsConverge removalCrypto observerChat [firstRemoval, secondRemoval] := by
  have hversion : 0 < observerChat.sharedState.version := by decide +kernel
  have hsame : observerChat.moderation.sharedStateVersion = observerChat.sharedState.version := by
    decide +kernel
  refine ⟨hversion, hsame, ?_, ?_⟩
  · intro data hdata
    rcases mem_pair.mp hdata with rfl | rfl
    · exact ⟨([], removalCreds firstMod firstModSig), by decide +kernel, by decide +kernel⟩
    · exact ⟨([], removalCreds secondMod secondModSig), by decide +kernel, by decide +kernel⟩
  · intro hconverge
    have hself : SameSanctions observerChat observerChat := ⟨⟨rfl, rfl⟩, rfl, hversion, hsame⟩
    have hagree := (hconverge observerChat observerChat
      (inputsOf quietChatEnv [firstRemoval, secondRemoval])
      (inputsOf quietChatEnv [secondRemoval, firstRemoval]) hself hself
      (by intro data; rw [map_data_inputsOf])
      (by
        intro data
        rw [map_data_inputsOf, mem_pair, mem_pair, or_comm])).1
    exact absurd hagree (by decide +kernel)

/-- With one removal all members agree. -/
theorem sanctionsConverge_iff_oneRemoval :
    0 < observerChat.sharedState.version ∧
    observerChat.moderation.sharedStateVersion = observerChat.sharedState.version ∧
    ValidSanctions removalCrypto observerChat [firstRemoval] ∧
    SanctionsConverge removalCrypto observerChat [firstRemoval] := by
  have hversion : 0 < observerChat.sharedState.version := by decide +kernel
  have hsame : observerChat.moderation.sharedStateVersion = observerChat.sharedState.version := by
    decide +kernel
  have hvalid : ValidSanctions removalCrypto observerChat [firstRemoval] := by
    intro data hdata
    rw [mem_singleton.mp hdata]
    exact ⟨([], removalCreds firstMod firstModSig), by decide +kernel, by decide +kernel⟩
  refine ⟨hversion, hsame, hvalid, ?_⟩
  apply (sanctionsConverge_iff removalCrypto observerChat _ hversion hsame hvalid).mpr
  have hitems : packetItems [firstRemoval] = [([], removalCreds firstMod firstModSig)] := by
    decide +kernel
  intro item hitem item' hitem' _ _ _
  rw [hitems] at hitem hitem'
  rw [mem_singleton.mp hitem, mem_singleton.mp hitem']

end GCChat

end Toxcore

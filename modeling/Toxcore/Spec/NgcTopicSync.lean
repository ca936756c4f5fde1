import Toxcore.Native.NgcSync
import Toxcore.Spec.NgcSanctionsSync

/-!
# Convergence of the topic under the topic lock

`get_sync_flags` ranks topics by version and then by checksum. `handle_gc_topic` compares only the versions, so
that of two topics with the same version the one that is received last is stored.
-/

namespace Toxcore

open List

abbrev TopicItem := GCTopicInfo × Signature

def topicKey (item : TopicItem) : Nat ×ₗ Nat :=
  toLex (item.1.version.toNat, item.1.checksum.toNat)

theorem topicKey_lt_iff (item item' : TopicItem) :
    topicKey item < topicKey item' ↔
      item.1.version < item'.1.version ∨
        item.1.version = item'.1.version ∧ item.1.checksum < item'.1.checksum := by
  rw [topicKey, topicKey, Prod.Lex.toLex_lt_toLex, UInt32.lt_iff_toNat_lt, ← UInt32.toNat_inj,
    UInt16.lt_iff_toNat_lt]

def topicOfPacket (data : Bytes) : Option TopicItem :=
  if data.length < signatureSize + gcMinPackedTopicInfoSize then none
  else (unpackGcTopicInfo (data.drop signatureSize)).map fun info => (info, bytesToVector _ data)

namespace GCChat

variable {crypto : SignCrypto} {chat chat' : GCChat}

def topicItem (chat : GCChat) : TopicItem := (chat.topicInfo, chat.topicSig)

/-! ## The sync flags -/

variable {item : TopicItem}

theorem getSyncFlags_topic (hlock : chat.groupTopicLockEnabled = true) {info : SyncInfo}
    (hversion : info.topicVersion = item.1.version) (hchecksum : info.topicChecksum = item.1.checksum) :
    chat.getSyncFlags info &&& gfTopic = 0 ↔ ¬topicKey chat.topicItem < topicKey item := by
  -- the other flags do not share a bit with this one
  have hbits : ∀ (p q r : Prop) [Decidable p] [Decidable q] [Decidable r],
      ((if p then gfPeers else 0) ||| (if q then gfState else 0) ||| (if r then gfTopic else 0)) &&&
        gfTopic = 0 ↔ ¬r := by
    intro p q r _ _ _
    by_cases hp : p <;> by_cases hq : q <;> by_cases hr : r <;> simp only [hp, hq, hr, if_true,
      if_false, not_true, not_false_iff] <;> decide
  rw [getSyncFlags, if_pos hlock, hbits, topicKey_lt_iff, hversion, hchecksum]
  -- only the equality of the versions is written the other way round
  rw [show chat.topicItem.1 = chat.topicInfo from rfl, eq_comm (b := item.1.version)]

/-! ## The handler -/

/-- A member with the topic lock whose founder and moderators are those of `chat`. -/
structure LockedLike (chat chat' : GCChat) : Prop where
  moderators : chat.moderation.SameModerators chat'.moderation
  locked : chat'.groupTopicLockEnabled = true

structure ValidTopic (crypto : SignCrypto) (chat : GCChat) (data : Bytes) (item : TopicItem) :
    Prop where
  packet : topicOfPacket data = some item
  checksum : item.1.checksum = getGcTopicChecksum item.1
  moderator : chat.moderation.modListVerifySigPk item.1.publicSigKey
  signed : crypto.signatureVerify item.2 (data.drop signatureSize) item.1.publicSigKey

def storeTopic (stored item : TopicItem) : TopicItem :=
  if item.1.version < stored.1.version then stored else item

theorem handleGcTopicValidate_locked (env : ChatEnv) (peer : GCPeer) {info : GCTopicInfo}
    (hchecksum : info.checksum = getGcTopicChecksum info)
    (hmod : chat.moderation.modListVerifySigPk info.publicSigKey) :
    chat.handleGcTopicValidate env peer info true = !decide (info.version < chat.topicInfo.version) := by
  rw [handleGcTopicValidate, if_neg (fun hne => hne hchecksum), if_pos rfl, if_neg (by simp [hmod])]
  by_cases hold : info.version < chat.topicInfo.version <;> simp [hold]

theorem topicItem_handleGcTopic (env : ChatEnv) (peer : GCPeer) (hlike : LockedLike chat chat') {data : Bytes}
    (hvalid : ValidTopic crypto chat data item) :
    (chat'.handleGcTopic crypto env peer data).2.topicItem = storeTopic chat'.topicItem item ∧
      LockedLike chat (chat'.handleGcTopic crypto env peer data).2 := by
  obtain ⟨hpacket, hchecksum, hmod, hsigned⟩ := hvalid
  rw [topicOfPacket] at hpacket
  split at hpacket
  · exact absurd hpacket (by simp)
  rename_i hlen
  obtain ⟨info, hunpack, rfl⟩ := Option.map_eq_some_iff.mp hpacket
  rw [handleGcTopic, if_neg hlen]
  dsimp only at hchecksum hmod hsigned ⊢
  rw [hunpack]
  dsimp only
  rw [if_neg (by simp [hsigned]), hlike.locked,
    handleGcTopicValidate_locked env peer hchecksum (by rw [hlike.moderators.modListVerifySigPk, hmod]),
    Bool.not_not, storeTopic]
  by_cases hold : info.version < chat'.topicInfo.version
  · rw [if_pos (decide_eq_true hold), if_pos (show _ < chat'.topicItem.1.version from hold)]
    exact ⟨rfl, hlike⟩
  · rw [if_neg (by simp [hold]), if_neg (show ¬_ < chat'.topicItem.1.version from hold)]
    exact ⟨rfl, hlike.moderators, hlike.locked⟩

/-! ## Runs -/

structure TopicInput where
  env : ChatEnv
  peer : GCPeer
  data : Bytes

def handleTopicInputs (crypto : SignCrypto) (chat : GCChat) (inputs : List TopicInput) : GCChat :=
  inputs.foldl (fun chat input =>
    (chat.handleGcTopic crypto input.env input.peer input.data).2) chat

theorem handleTopicInputs_concat (inputs : List TopicInput) (input : TopicInput) :
    chat.handleTopicInputs crypto (inputs ++ [input]) =
      ((chat.handleTopicInputs crypto inputs).handleGcTopic crypto input.env input.peer input.data).2 := by
  rw [handleTopicInputs, foldl_append]
  rfl

def ValidTopics (crypto : SignCrypto) (chat : GCChat) (packets : List Bytes) : Prop :=
  ∀ data ∈ packets, ∃ item, ValidTopic crypto chat data item

/-- A member like `chat` with the topic of `chat`. -/
structure SameTopic (chat chat' : GCChat) : Prop where
  like : LockedLike chat chat'
  topicItem : chat'.topicItem = chat.topicItem

structure TopicConverge (crypto : SignCrypto) (chat : GCChat) (packets : List Bytes) : Prop where
  /-- Members that handle all packets store the same topic and signature. -/
  agree : ∀ chat₁ chat₂ inputs₁ inputs₂, SameTopic chat chat₁ → SameTopic chat chat₂ →
    (∀ data, data ∈ inputs₁.map TopicInput.data ↔ data ∈ packets) →
    (∀ data, data ∈ inputs₂.map TopicInput.data ↔ data ∈ packets) →
    (chat₁.handleTopicInputs crypto inputs₁).topicItem = (chat₂.handleTopicInputs crypto inputs₂).topicItem
  /-- A packet that `get_sync_flags` would not ask for does not replace the stored topic. -/
  kept : ∀ chat' inputs input item (info : SyncInfo), SameTopic chat chat' →
    (∀ input' ∈ inputs ++ [input], input'.data ∈ packets) →
    topicOfPacket input.data = some item → info.topicVersion = item.1.version →
    info.topicChecksum = item.1.checksum →
    (chat'.handleTopicInputs crypto inputs).getSyncFlags info &&& gfTopic = 0 →
    (chat'.handleTopicInputs crypto (inputs ++ [input])).topicItem =
      (chat'.handleTopicInputs crypto inputs).topicItem

def topicItems (packets : List Bytes) : List TopicItem := packets.filterMap topicOfPacket

variable {packets : List Bytes}

theorem topicItem_handleTopicInputs (hvalid : ValidTopics crypto chat packets) (hlike : LockedLike chat chat')
    {inputs : List TopicInput} (hinputs : ∀ input ∈ inputs, input.data ∈ packets) :
    (chat'.handleTopicInputs crypto inputs).topicItem =
        (topicItems (inputs.map (·.data))).foldl storeTopic chat'.topicItem ∧
      LockedLike chat (chat'.handleTopicInputs crypto inputs) := by
  induction inputs generalizing chat' with
  | nil => exact ⟨rfl, hlike⟩
  | cons input inputs ih =>
    obtain ⟨item, hitem⟩ := hvalid input.data (hinputs input mem_cons_self)
    obtain ⟨hstep, hlike'⟩ := topicItem_handleGcTopic input.env input.peer hlike hitem
    obtain ⟨hrun, hlike''⟩ := ih hlike' fun input' hmem =>
      hinputs input' (mem_cons_of_mem _ hmem)
    refine ⟨?_, hlike''⟩
    rw [handleTopicInputs, foldl_cons, ← handleTopicInputs, hrun, hstep, map_cons,
      topicItems, topicItems, filterMap_cons_some hitem.packet, foldl_cons]

/-! ## The ranking -/

/-- Only the first topic has its version or a greater checksum, and later versions are distinct. -/
def TopicsRanked (chat : GCChat) (packets : List Bytes) : Prop :=
  (∀ item ∈ topicItems packets, item.1.version = chat.topicInfo.version →
    item = chat.topicItem ∨ chat.topicInfo.checksum < item.1.checksum) ∧
  ∀ item ∈ topicItems packets, ∀ item' ∈ topicItems packets,
    chat.topicInfo.version ≤ item.1.version → item.1.version = item'.1.version → item = item'

def Storable (chat : GCChat) (packets : List Bytes) (item : TopicItem) : Prop :=
  item = chat.topicItem ∨ item ∈ topicItems packets ∧ chat.topicInfo.version ≤ item.1.version

theorem Storable.version_le (h : Storable chat packets item) : chat.topicInfo.version ≤ item.1.version := by
  rcases h with rfl | ⟨-, hle⟩
  · exact UInt32.le_refl _
  · exact hle

theorem TopicsRanked.storeTopic_eq (h : TopicsRanked chat packets) {stored : TopicItem}
    (hstored : Storable chat packets stored) (hitem : item ∈ topicItems packets) :
    storeTopic stored item = Register.receive topicKey stored item ∧
      Storable chat packets (storeTopic stored item) := by
  rw [storeTopic, Register.receive]
  by_cases hold : item.1.version < stored.1.version
  · have hkey : ¬topicKey stored < topicKey item := by
      rw [topicKey_lt_iff]
      intro hlt
      rcases hlt with hlt | ⟨heq, -⟩
      · exact UInt32.lt_asymm hlt hold
      · rw [heq] at hold
        exact UInt32.lt_irrefl _ hold
    rw [if_pos hold, if_neg hkey]
    exact ⟨rfl, hstored⟩
  have hle := UInt32.not_lt.mp hold
  rw [if_neg hold]
  refine ⟨?_, .inr ⟨hitem, UInt32.le_trans hstored.version_le hle⟩⟩
  by_cases hkey : topicKey stored < topicKey item
  · rw [if_pos hkey]
  · -- a packet that is not greater is the stored topic
    rw [if_neg hkey]
    rw [topicKey_lt_iff, not_or] at hkey
    have hversion : stored.1.version = item.1.version :=
      UInt32.le_antisymm hle (UInt32.not_lt.mp hkey.1)
    rcases hstored with rfl | ⟨hmem, hfirst⟩
    · rcases h.1 item hitem hversion.symm with heq | hlt
      · exact heq
      · exact absurd ⟨hversion, hlt⟩ hkey.2
    · exact (h.2 stored hmem item hitem hfirst hversion).symm

theorem TopicsRanked.foldl_storeTopic (h : TopicsRanked chat packets) {items : List TopicItem}
    (hitems : ∀ item ∈ items, item ∈ topicItems packets) {stored : TopicItem} (hstored : Storable chat packets stored) :
    items.foldl storeTopic stored = Register.run topicKey stored items ∧
      Storable chat packets (items.foldl storeTopic stored) := by
  induction items generalizing stored with
  | nil => exact ⟨rfl, hstored⟩
  | cons item items ih =>
    obtain ⟨hstep, hstored'⟩ := h.storeTopic_eq hstored (hitems item mem_cons_self)
    rw [Register.run_cons, ← hstep]
    exact ih (fun item' hmem => hitems item' (mem_cons_of_mem _ hmem)) hstored'

theorem mem_topicItems_of_inputs {inputs : List TopicInput} (hinputs : ∀ input ∈ inputs, input.data ∈ packets) :
    ∀ item ∈ topicItems (inputs.map (·.data)), item ∈ topicItems packets := by
  intro item hitem
  obtain ⟨data, hdata, hof⟩ := mem_filterMap.mp hitem
  obtain ⟨input, hinput, rfl⟩ := mem_map.mp hdata
  exact mem_filterMap.mpr ⟨input.data, hinputs input hinput, hof⟩

theorem TopicsRanked.topicConverge (h : TopicsRanked chat packets) (hvalid : ValidTopics crypto chat packets)
    : TopicConverge crypto chat packets := by
  have hrun : ∀ {chat'} {inputs : List TopicInput}, SameTopic chat chat' →
      (∀ input ∈ inputs, input.data ∈ packets) →
      (chat'.handleTopicInputs crypto inputs).topicItem =
          Register.run topicKey chat.topicItem (topicItems (inputs.map (·.data))) ∧
        Storable chat packets (chat'.handleTopicInputs crypto inputs).topicItem := by
    intro chat' inputs hchat' hinputs
    rw [(topicItem_handleTopicInputs hvalid hchat'.like hinputs).1, hchat'.topicItem]
    exact h.foldl_storeTopic (mem_topicItems_of_inputs hinputs) (.inl rfl)
  constructor
  case agree =>
    intro chat1 chat2 inputs1 inputs2 h1 h2 hinputs1 hinputs2
    have hcovers : ∀ {inputs : List TopicInput},
        (∀ data, data ∈ inputs.map TopicInput.data ↔ data ∈ packets) →
        Register.Covers (topicItems packets) (topicItems (inputs.map (·.data))) := by
      intro inputs hinputs item
      simp only [topicItems, mem_filterMap, hinputs]
    rw [(hrun h1 fun input hmem => (hinputs1 _).mp (mem_map_of_mem hmem)).1,
      (hrun h2 fun input hmem => (hinputs2 _).mp (mem_map_of_mem hmem)).1]
    apply Register.run_eq_run_iff.mpr _ _ _ (hcovers hinputs1) (hcovers hinputs2)
    intro item hitem item' hitem' hlt hkey _
    -- equal keys are equal versions
    have hversion : item.1.version = item'.1.version :=
      UInt32.toNat_inj.mp (congrArg (fun key => (ofLex key).1) hkey)
    refine h.2 item hitem item' hitem' ?_ hversion
    rcases (topicKey_lt_iff _ _).mp hlt with hlt | ⟨heq, -⟩
    · exact UInt32.le_of_lt hlt
    · exact UInt32.le_of_eq heq
  case kept =>
    intro chat' inputs input item info hchat' hinputs hitem hversion hchecksum hflags
    have hbefore : ∀ input' ∈ inputs, input'.data ∈ packets := fun input' hmem =>
      hinputs input' (mem_append_left _ hmem)
    obtain ⟨-, hlike⟩ := topicItem_handleTopicInputs hvalid hchat'.like hbefore
    have hstored := (hrun hchat' hbefore).2
    have hdata := hinputs input (mem_append_right _ (mem_singleton_self _))
    obtain ⟨item', hvalid'⟩ := hvalid input.data hdata
    cases hvalid'.packet.symm.trans hitem
    rw [handleTopicInputs_concat, (topicItem_handleGcTopic input.env input.peer hlike hvalid').1,
      (h.storeTopic_eq hstored (mem_filterMap.mpr ⟨_, hdata, hitem⟩)).1, Register.receive,
      if_neg ((getSyncFlags_topic hlike.locked hversion hchecksum).mp hflags)]

def topicSyncInfo (item : TopicItem) : SyncInfo where
  peersChecksum := 0
  peerCount := 0
  sstateVersion := 0
  scredsVersion := 0
  rolesChecksum := 0
  topicVersion := item.1.version
  topicChecksum := item.1.checksum

theorem TopicConverge.topicsRanked (hvalid : ValidTopics crypto chat packets)
    (hlock : chat.groupTopicLockEnabled = true) (h : TopicConverge crypto chat packets) :
    TopicsRanked chat packets := by
  have hself : SameTopic chat chat := ⟨⟨⟨rfl, rfl⟩, hlock⟩, rfl⟩
  have hinput : ∀ {item}, item ∈ topicItems packets → ∃ input : TopicInput,
      input.data ∈ packets ∧ topicOfPacket input.data = some item := by
    intro item hitem
    obtain ⟨data, hdata, hof⟩ := mem_filterMap.mp hitem
    exact ⟨⟨quietChatEnv, zeroGCPeer, data⟩, hdata, hof⟩
  -- what is stored after some packets, and one more that `get_sync_flags` does not ask for
  have hkept : ∀ inputs : List TopicInput, (∀ input ∈ inputs, input.data ∈ packets) →
      ∀ item ∈ topicItems packets,
      ¬topicKey ((topicItems (inputs.map (·.data))).foldl storeTopic chat.topicItem) < topicKey item →
      storeTopic ((topicItems (inputs.map (·.data))).foldl storeTopic chat.topicItem) item =
        (topicItems (inputs.map (·.data))).foldl storeTopic chat.topicItem := by
    intro inputs hinputs item hitem hkey
    obtain ⟨input, hdata, hof⟩ := hinput hitem
    obtain ⟨item', hvalid'⟩ := hvalid input.data hdata
    obtain rfl : item' = item := Option.some.inj (hvalid'.packet.symm.trans hof)
    obtain ⟨hrun, hlike⟩ := topicItem_handleTopicInputs hvalid hself.like hinputs
    rw [← hrun] at hkey ⊢
    have h' := h.kept chat inputs input item' (topicSyncInfo item') hself
      (by
        intro input' hmem
        rcases mem_append.mp hmem with hmem | hmem
        · exact hinputs input' hmem
        · rw [mem_singleton.mp hmem]
          exact hdata)
      hof rfl rfl ((getSyncFlags_topic hlike.locked rfl rfl).mpr hkey)
    rw [handleTopicInputs_concat, (topicItem_handleGcTopic input.env input.peer hlike hvalid').1] at h'
    exact h'
  constructor
  · intro item hitem hversion
    by_cases hchecksum : chat.topicInfo.checksum < item.1.checksum
    · exact .inr hchecksum
    · left
      have hstore := hkept [] (fun input hmem => absurd hmem not_mem_nil) item hitem (by
        rw [topicKey_lt_iff]
        intro hlt
        rcases hlt with hlt | ⟨-, hlt⟩
        · rw [hversion] at hlt
          exact UInt32.lt_irrefl _ hlt
        · exact hchecksum hlt)
      rw [map_nil, topicItems, filterMap_nil, foldl_nil, storeTopic,
        if_neg (by rw [hversion]; exact UInt32.lt_irrefl _)] at hstore
      exact hstore
  · -- the one with the greater checksum comes first
    have hordered : ∀ item ∈ topicItems packets, ∀ item' ∈ topicItems packets,
        chat.topicInfo.version ≤ item.1.version → item.1.version = item'.1.version →
        item'.1.checksum ≤ item.1.checksum → item' = item := by
      intro item hitem item' hitem' hle hversion hchecksum
      obtain ⟨input, hdata, hof⟩ := hinput hitem
      have hstore := hkept [input]
        (fun input' hmem => by
          rw [mem_singleton.mp hmem]
          exact hdata) item' hitem'
      have hfirst : (topicItems ([input].map TopicInput.data)).foldl storeTopic chat.topicItem =
          item := by
        rw [map_singleton, topicItems, filterMap_cons_some hof, filterMap_nil, foldl_cons, foldl_nil,
          storeTopic, if_neg (show ¬item.1.version < chat.topicItem.1.version from UInt32.not_lt.mpr hle)]
      rw [hfirst] at hstore
      have hstore' := hstore (by
        rw [topicKey_lt_iff]
        intro hlt
        rcases hlt with hlt | ⟨-, hlt⟩
        · rw [hversion] at hlt
          exact UInt32.lt_irrefl _ hlt
        · exact absurd hlt (UInt16.not_lt.mpr hchecksum))
      rw [storeTopic, if_neg (by rw [hversion]; exact UInt32.lt_irrefl _)] at hstore'
      exact hstore'
    intro item hitem item' hitem' hle hversion
    rcases UInt16.le_total item'.1.checksum item.1.checksum with hchecksum | hchecksum
    · exact (hordered item hitem item' hitem' hle hversion hchecksum).symm
    · exact hordered item' hitem' item hitem (hversion ▸ hle) hversion.symm hchecksum

/-- The members store the same topic and follow the ranking exactly when the packets are
    ranked. -/
theorem topicConverge_iff (crypto : SignCrypto) (chat : GCChat) (packets : List Bytes)
    (hlock : chat.groupTopicLockEnabled = true) (hvalid : ValidTopics crypto chat packets) :
    TopicConverge crypto chat packets ↔ TopicsRanked chat packets :=
  ⟨fun h => h.topicsRanked hvalid hlock, fun h => h.topicConverge hvalid⟩

/-! ## Two moderators change the topic -/

/-- The topic `a` of the first moderator, with its Ed25519 signature. -/
def firstTopic : GCTopicInfo where
  version := 1
  checksum := 97
  topic := [97]
  publicSigKey := firstMod

def firstTopicSig : Signature :=
  #v[231, 135, 170, 151, 201, 1, 4, 87, 118, 161, 58, 94, 30, 66, 142, 244,
    178, 25, 203, 169, 50, 66, 2, 146, 221, 214, 29, 92, 75, 230, 68, 225,
    162, 114, 42, 85, 101, 74, 91, 217, 122, 74, 224, 90, 240, 202, 169, 21,
    120, 152, 165, 0, 183, 15, 190, 143, 167, 219, 201, 117, 12, 213, 106, 4]

/-- The topic `b` of the second moderator, with its Ed25519 signature. -/
def secondTopic : GCTopicInfo where
  version := 1
  checksum := 98
  topic := [98]
  publicSigKey := secondMod

def secondTopicSig : Signature :=
  #v[20, 198, 181, 172, 58, 24, 43, 159, 30, 78, 72, 174, 178, 54, 1, 161,
    41, 10, 241, 26, 183, 141, 144, 47, 41, 218, 20, 175, 106, 96, 129, 48,
    60, 98, 90, 131, 3, 140, 218, 228, 16, 252, 194, 13, 200, 174, 194, 46,
    19, 80, 137, 180, 185, 44, 42, 203, 172, 57, 85, 48, 67, 12, 35, 6]

/-- `crypto_sign_verify_detached` for the two topics. -/
def topicCrypto : SignCrypto where
  sha256 _ := zeroDigest
  signatureCreate _ _ := none
  signatureVerify signature message sigPk :=
    signature == firstTopicSig && message == packGcTopicInfo firstTopic && sigPk == firstMod ||
      signature == secondTopicSig && message == packGcTopicInfo secondTopic && sigPk == secondMod

def firstTopicPacket : Bytes := firstTopicSig.toList ++ packGcTopicInfo firstTopic

def secondTopicPacket : Bytes := secondTopicSig.toList ++ packGcTopicInfo secondTopic

theorem validTopic_first : ValidTopic topicCrypto syncedChat firstTopicPacket (firstTopic, firstTopicSig) :=
  ⟨by decide +kernel, by decide +kernel, by decide +kernel, by decide +kernel⟩

theorem validTopic_second : ValidTopic topicCrypto syncedChat secondTopicPacket (secondTopic, secondTopicSig) :=
  ⟨by decide +kernel, by decide +kernel, by decide +kernel, by decide +kernel⟩

/-- The member stores `b` and then `a`, which has the same version and a smaller checksum. -/
theorem not_topicConverge :
    syncedChat.groupTopicLockEnabled = true ∧
    ValidTopics topicCrypto syncedChat [firstTopicPacket, secondTopicPacket] ∧
    ¬TopicConverge topicCrypto syncedChat [firstTopicPacket, secondTopicPacket] := by
  have hlock : syncedChat.groupTopicLockEnabled = true := by decide +kernel
  refine ⟨hlock, ?_, ?_⟩
  · intro data hdata
    rcases mem_pair.mp hdata with rfl | rfl
    · exact ⟨_, validTopic_first⟩
    · exact ⟨_, validTopic_second⟩
  · intro hconverge
    have hself : SameTopic syncedChat syncedChat := ⟨⟨⟨rfl, rfl⟩, hlock⟩, rfl⟩
    have hkept := hconverge.kept syncedChat [⟨quietChatEnv, zeroGCPeer, secondTopicPacket⟩]
      ⟨quietChatEnv, zeroGCPeer, firstTopicPacket⟩ (firstTopic, firstTopicSig)
      (topicSyncInfo (firstTopic, firstTopicSig)) hself (by simp) (by decide +kernel) rfl rfl
      (by decide +kernel)
    exact absurd hkept (by decide +kernel)

/-- With one change of the topic all members agree. -/
theorem topicConverge_iff_oneTopic :
    syncedChat.groupTopicLockEnabled = true ∧
    ValidTopics topicCrypto syncedChat [firstTopicPacket] ∧
    TopicConverge topicCrypto syncedChat [firstTopicPacket] := by
  have hlock : syncedChat.groupTopicLockEnabled = true := by decide +kernel
  have hvalid : ValidTopics topicCrypto syncedChat [firstTopicPacket] := by
    intro data hdata
    rw [mem_singleton.mp hdata]
    exact ⟨_, validTopic_first⟩
  refine ⟨hlock, hvalid, ?_⟩
  apply (topicConverge_iff topicCrypto syncedChat _ hlock hvalid).mpr
  have hitems : topicItems [firstTopicPacket] = [(firstTopic, firstTopicSig)] := by decide +kernel
  constructor
  · intro item hitem hversion
    rw [mem_singleton.mp hitem] at hversion
    exact absurd hversion (by decide +kernel)
  · intro item hitem item' hitem' _ _
    rw [mem_singleton.mp hitem, mem_singleton.mp hitem']

end GCChat

end Toxcore

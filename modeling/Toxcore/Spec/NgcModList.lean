import Toxcore.Native.NgcChat
import Toxcore.Spec.NgcCredentials

/-!
# The moderator list that the founder signed

The founder signs the hash of the moderator list. A member takes a list when the hash of its bytes is the signed
one, and then unpacks as many entries as the header says. With fewer entries than the bytes hold, the member
stores a shorter list.
-/

namespace Toxcore

open List

namespace GCChat

variable {crypto : SignCrypto} {chat : GCChat} {env : ChatEnv} {data : Bytes}

/-! ## Frame -/

theorem moderation_sendOn (peerNumber : Nat) (f : PeerLink → Bool × PeerLink) :
    (chat.sendOn peerNumber f).2.moderation = chat.moderation := by
  rw [sendOn]
  split <;> rfl

theorem moderation_sendGcRandomSyncRequest (syncFlags : UInt16) :
    (chat.sendGcRandomSyncRequest env syncFlags).2.moderation = chat.moderation := by
  rw [sendGcRandomSyncRequest]
  split
  · rfl
  · rw [sendGcSyncRequest]
    split
    · rfl
    · rw [moderation_sendOn]

theorem modList_updateGcPeerRoles :
    chat.updateGcPeerRoles.moderation.modList = chat.moderation.modList := by
  rw [updateGcPeerRoles]
  split <;> rfl

/-! ## What the handler does to the list -/

/-- The hash of the bytes is the signed one, and they hold the entries that the header names. -/
def TakesModList (crypto : SignCrypto) (chat : GCChat) (data : Bytes) : Prop :=
  2 ≤ data.length ∧ (netUnpackU16 data).toNat ≤ modMaxNumModerators ∧
  modListDataHash crypto (data.drop 2) = chat.sharedState.modListHash ∧
  (netUnpackU16 data).toNat * sigPublicKeySize ≤ (data.drop 2).length

theorem modList_of_takes (env : ChatEnv) (hfounder : chat.selfGcIsFounder = false)
    (h : TakesModList crypto chat data) :
    (chat.handleGcModList crypto env data).2.moderation.modList =
      modListEntries (data.drop 2) (netUnpackU16 data).toNat := by
  obtain ⟨hlen, hmax, hhash, hfit⟩ := h
  have hvalid : chat.validateUnpackModList crypto (data.drop 2) (netUnpackU16 data) =
      (.valid, { chat with moderation := { chat.moderation with
        modList := modListEntries (data.drop 2) (netUnpackU16 data).toNat } }) := by
    rw [validateUnpackModList, if_neg (by omega), if_neg (fun hne => hne.2 hhash),
      Moderation.modListUnpack, if_neg (by omega)]
    by_cases hzero : netUnpackU16 data = 0
    · rw [hzero]
      rfl
    · rw [if_neg hzero]
      rfl
  rw [handleGcModList, if_neg (by omega), if_neg (by simp [hfounder]), hvalid, modList_updateGcPeerRoles]

theorem modList_of_not_takes (env : ChatEnv) (hversion : 0 < chat.sharedState.version)
    (h : ¬TakesModList crypto chat data) :
    (chat.handleGcModList crypto env data).2.moderation.modList = chat.moderation.modList := by
  have hversion' : chat.sharedState.version ≠ 0 := by
    intro hzero
    rw [hzero] at hversion
    exact absurd hversion (by decide)
  -- the handler of an invalid packet keeps the moderation object
  have hinvalid : (if chat.sharedState.version = 0 then
        (false, { chat with connectionState := GCConnState.connecting })
      else if chat.group.length ≤ 1 then (true, chat)
      else (true, (chat.sendGcRandomSyncRequest env gfState).2)).2.moderation.modList =
      chat.moderation.modList := by
    rw [if_neg hversion']
    split
    · rfl
    · rw [moderation_sendGcRandomSyncRequest]
  rw [handleGcModList]
  split
  · rfl
  split
  · rfl
  rw [validateUnpackModList]
  by_cases hmax : (netUnpackU16 data).toNat > modMaxNumModerators
  · rw [if_pos hmax]
    exact hinvalid
  rw [if_neg hmax]
  by_cases hhash : modListDataHash crypto (data.drop 2) = chat.sharedState.modListHash
  · rw [if_neg (fun hne => hne.2 hhash), Moderation.modListUnpack,
      if_pos (by
        by_contra hfit
        exact h ⟨by omega, by omega, hhash, by omega⟩)]
    exact hinvalid
  · rw [if_pos ⟨hversion, hhash⟩]

/-! ## Packed lists -/

theorem length_modListPack (modList : List SigPublicKey) :
    (modListPack modList).length = modList.length * sigPublicKeySize :=
  List.length_flatMap_of_length_eq (fun _ => Vector.length_toList) modList

theorem modListEntries_succ (data : Bytes) (n : Nat) :
    modListEntries data (n + 1) =
      bytesToVector _ data :: modListEntries (data.drop sigPublicKeySize) n := by
  simp only [modListEntries, range_succ_eq_map, map_cons, map_map, Nat.zero_mul,
    drop_zero, List.cons.injEq, true_and]
  apply map_congr_left
  intro i _
  rw [Function.comp_apply, drop_drop, Nat.succ_mul, Nat.add_comm]

theorem modListEntries_modListPack (modList : List SigPublicKey) :
    modListEntries (modListPack modList) modList.length = modList := by
  induction modList with
  | nil => rfl
  | cons key modList ih =>
    rw [modListPack, flatMap_cons, ← modListPack, length_cons, modListEntries_succ,
      bytesToVector_toList_append, drop_left' (Vector.length_toList), ih]

theorem length_modListEntries (n : Nat) : (modListEntries data n).length = n := by
  simp [modListEntries]

/-! ## The signed list -/

theorem modListDataHash_modListPack (crypto : SignCrypto) (modList : List SigPublicKey) :
    modListDataHash crypto (modListPack modList) = modListMakeHash crypto modList := by
  rw [modListDataHash, modListMakeHash, length_modListPack, show sigPublicKeySize = 32 from rfl]
  by_cases hzero : modList.length = 0
  · rw [if_neg (by omega), if_pos hzero]
  · rw [if_pos (by omega), if_neg hzero]

def hashedModLists (signed : List SigPublicKey) (data : Bytes) : Set Bytes :=
  { bytes | bytes ≠ [] ∧ (bytes = data.drop 2 ∨ bytes = modListPack signed) }

theorem eq_modListPack {signed : List SigPublicKey}
    (hcollision : crypto.CollisionFree (hashedModLists signed data))
    (h : modListDataHash crypto (data.drop 2) = modListMakeHash crypto signed) :
    data.drop 2 = modListPack signed := by
  rw [← modListDataHash_modListPack, modListDataHash, modListDataHash] at h
  by_cases hdata : data.drop 2 = []
  · by_cases hsigned : modListPack signed = []
    · rw [hdata, hsigned]
    · rw [if_neg (by simp [hdata]), if_pos (length_pos_iff.mpr hsigned)] at h
      exact absurd h.symm (hcollision.2 _ ⟨hsigned, .inr rfl⟩)
  · by_cases hsigned : modListPack signed = []
    · rw [if_pos (length_pos_iff.mpr hdata), if_neg (by simp [hsigned])] at h
      exact absurd h (hcollision.2 _ ⟨hdata, .inl rfl⟩)
    · rw [if_pos (length_pos_iff.mpr hdata), if_pos (length_pos_iff.mpr hsigned)] at h
      exact hcollision.1 ⟨hdata, .inl rfl⟩ ⟨hsigned, .inr rfl⟩ h

/-- When the stored list changes, it is the signed list; and a packet with another hash changes nothing. -/
structure ModListIntact (crypto : SignCrypto) (chat : GCChat) (signed : List SigPublicKey)
    (env : ChatEnv) (data : Bytes) : Prop where
  changed : (chat.handleGcModList crypto env data).2.moderation.modList ≠ chat.moderation.modList →
    modListMakeHash crypto (chat.handleGcModList crypto env data).2.moderation.modList =
      chat.sharedState.modListHash ∧
    (chat.handleGcModList crypto env data).2.moderation.modList = signed
  mismatch : modListDataHash crypto (data.drop 2) ≠ chat.sharedState.modListHash →
    (chat.handleGcModList crypto env data).2.moderation.modList = chat.moderation.modList

/-- A packet that is taken names fewer entries than it holds, and not those that are stored. -/
def TruncatesModList (crypto : SignCrypto) (chat : GCChat) (data : Bytes) : Prop :=
  TakesModList crypto chat data ∧
  (netUnpackU16 data).toNat * sigPublicKeySize < (data.drop 2).length ∧
  modListEntries (data.drop 2) (netUnpackU16 data).toNat ≠ chat.moderation.modList

def chatSigPk : SigPublicKey :=
  #v[234, 74, 108, 99, 226, 156, 82, 10, 190, 245, 80, 123, 19, 46, 197, 249,
    149, 71, 118, 174, 190, 190, 123, 146, 66, 30, 234, 105, 20, 70, 210, 44]

def firstMod : SigPublicKey :=
  #v[19, 152, 246, 44, 109, 26, 69, 124, 81, 186, 106, 75, 95, 61, 189, 47,
    105, 252, 169, 50, 22, 33, 141, 200, 153, 126, 65, 107, 209, 125, 147, 202]

def secondMod : SigPublicKey :=
  #v[253, 23, 36, 56, 90, 160, 199, 91, 100, 251, 120, 205, 96, 47, 161, 217,
    145, 253, 235, 247, 107, 19, 197, 142, 215, 2, 234, 200, 53, 233, 246, 24]

def twoModsHash : Digest :=
  #v[14, 25, 65, 252, 78, 102, 19, 207, 177, 239, 33, 44, 79, 103, 99, 225,
    235, 48, 254, 64, 49, 192, 146, 63, 243, 98, 75, 247, 251, 157, 108, 191]

def twoModsState : GCSharedState where
  version := 1
  founderPublicKey := { enc := Vector.replicate _ 3, sig := founderSigPk }
  maxpeers := 100
  groupNameLen := 5
  groupName := bytesToVector _ [103, 114, 111, 117, 112]
  privacyState := 0
  passwordLength := 0
  password := Vector.replicate _ 0
  modListHash := twoModsHash
  topicLock := 0
  voiceState := 0

def twoModsSig : Signature :=
  #v[90, 15, 204, 0, 246, 62, 93, 225, 210, 14, 187, 202, 232, 240, 30, 65,
    97, 7, 197, 30, 246, 214, 109, 198, 253, 71, 132, 180, 29, 199, 35, 225,
    124, 254, 132, 44, 102, 129, 242, 98, 50, 7, 251, 190, 85, 193, 0, 104,
    164, 186, 248, 176, 17, 49, 160, 130, 28, 87, 191, 228, 210, 107, 49, 3]

def twoModsCrypto : SignCrypto where
  sha256 data := if data = modListPack [firstMod, secondMod] then twoModsHash else zeroDigest
  signatureCreate _ _ := none
  signatureVerify signature message sigPk :=
    signature == twoModsSig && message == packGcSharedState twoModsState && sigPk == chatSigPk

def joiningChat : GCChat where
  group := [zeroGCPeer]
  moderation := newModeration (Vector.replicate _ 1) (Vector.replicate _ 1)
  connectionState := .connecting
  sharedState := { twoModsState with version := 0, modListHash := zeroDigest }
  sharedStateSig := Vector.replicate _ 0
  topicInfo := { version := 0, checksum := 0, topic := [], publicSigKey := Vector.replicate _ 0 }
  topicSig := Vector.replicate _ 0
  topicPrevChecksum := 0
  topicTimeSet := 0
  peersChecksum := 0
  rolesChecksum := 0
  chatPublicKey := { enc := Vector.replicate _ 2, sig := chatSigPk }
  selfPublicKey := { enc := Vector.replicate _ 1, sig := Vector.replicate _ 1 }
  selfSecretKey := Vector.replicate _ 1
  joinType := 0
  timeConnected := 0
  lastPingInterval := 0
  lastSyncRequest := 0
  lastSyncResponsePeerList := 0
  connectionOMetre := 0
  blockHandshakes := false

def quietChatEnv : ChatEnv where
  now := 100
  nonce := 0
  sendOk := true
  random := 0
  keypair := (Vector.replicate _ 1, Vector.replicate _ 1)

def syncedChat : GCChat :=
  ((joiningChat.handleGcSharedState twoModsCrypto quietChatEnv 1
    (twoModsSig.toList ++ packGcSharedState twoModsState)).2.handleGcModList twoModsCrypto
      quietChatEnv (netPackU16 2 ++ modListPack [firstMod, secondMod])).2

def shortPacket : Bytes := netPackU16 1 ++ modListPack [firstMod, secondMod]

end GCChat

end Toxcore

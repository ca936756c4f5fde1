import Toxcore.Native.NgcPack
import Toxcore.Spec.NgcModList

/-!
# Saved groups

What `gc_load_unpack_group` reads from the bytes of `gc_save_pack_group`.  The signature of the
shared state covers all bytes of the arrays for the name and the password, while only the bytes
in use are saved.
-/

namespace Toxcore

open List hiding Vector

open Msgpack

/-! ## Reading values back -/

theorem reads_binPackU08 (value : UInt8) : Reads binUnpackU08 (binPackU08 value) value := by
  have h : Reads (readUint 1) (uint value.toNat) value.toNat :=
    reads_uint (.inl rfl) value.toNat_lt
  refine h.bind_last ?_
  rw [UInt8.ofNat_toNat]
  exact Reads.pure value

theorem reads_binPackU16 (value : UInt16) : Reads binUnpackU16 (binPackU16 value) value := by
  have h : Reads (readUint 2) (uint value.toNat) value.toNat :=
    reads_uint (.inr (.inl rfl)) value.toNat_lt
  refine h.bind_last ?_
  rw [UInt16.ofNat_toNat]
  exact Reads.pure value

theorem reads_binPackU32 (value : UInt32) : Reads binUnpackU32 (binPackU32 value) value := by
  have h : Reads (readUint 4) (uint value.toNat) value.toNat :=
    reads_uint (.inr (.inr rfl)) value.toNat_lt
  refine h.bind_last ?_
  rw [UInt32.ofNat_toNat]
  exact Reads.pure value

variable {n : Nat}

theorem reads_arrayFixed (h : n ≤ 0xf) : Reads (binUnpackArrayFixed n) (array n) () := by
  refine (reads_array h).bind_last ?_
  rw [if_pos rfl]
  exact Reads.pure ()

theorem reads_vector (v : Vector UInt8 n) (h : n ≤ 0xffff) :
    Reads (binUnpackVector n) (bin v.toList) v := by
  refine (reads_bin v.length_toList h).bind_last ?_
  have hv := bytesToVector_toList_append v []
  rw [append_nil] at hv
  rw [hv]
  exact Reads.pure v

def zeroTail {n : Nat} (v : Vector UInt8 n) (length : UInt16) : Vector UInt8 n :=
  memcpy (Vector.replicate n 0) (inUse v length)

variable {v : Vector UInt8 n} {length : UInt16}

theorem length_inUse (h : length.toNat ≤ n) : (inUse v length).length = length.toNat := by
  simp [inUse, h]

theorem reads_part (h : length.toNat ≤ n) :
    Reads (binUnpackPart n length) (bin (inUse v length)) (zeroTail v length) := by
  have hbound : length.toNat ≤ 0xffff := Nat.le_of_lt_succ length.toNat_lt
  rw [binUnpackPart, if_neg (by omega)]
  exact (reads_bin (length_inUse h) hbound).bind_last (Reads.pure _)

theorem reads_extPublicKey (key : ExtPublicKey) :
    Reads binUnpackExtPublicKey (bin key.bytes) key := by
  have hlength : key.bytes.length = 64 := by
    rw [ExtPublicKey.bytes, length_append, Vector.length_toList, Vector.length_toList]
    rfl
  refine (reads_bin hlength (by decide)).bind_last ?_
  have henc : bytesToVector cryptoPublicKeySize key.bytes = key.enc :=
    bytesToVector_toList_append key.enc key.sig.toList
  have hdrop : key.bytes.drop 32 = key.sig.toList :=
    drop_left' key.enc.length_toList
  have hsig := bytesToVector_toList_append key.sig []
  rw [append_nil] at hsig
  rw [henc, hdrop, hsig]
  exact Reads.pure key

theorem reads_extSecretKey (key : ExtSecretKey) :
    Reads binUnpackExtSecretKey (bin key.bytes) key := by
  have hlength : key.bytes.length = 96 := by
    rw [ExtSecretKey.bytes, length_append, Vector.length_toList, Vector.length_toList]
    rfl
  refine (reads_bin hlength (by decide)).bind_last ?_
  have henc : bytesToVector _ key.bytes = key.enc :=
    bytesToVector_toList_append key.enc key.sig.toList
  have hdrop : key.bytes.drop 32 = key.sig.toList :=
    drop_left' key.enc.length_toList
  have hsig := bytesToVector_toList_append key.sig []
  rw [append_nil] at hsig
  rw [henc, hdrop, hsig]
  exact Reads.pure key

/-! ## Reading sections back -/

/-- A chat with the values that `load_unpack_state_values` sets. -/
def withStateValues (chat saved : GCChat) : GCChat :=
  { chat with
    connectionState := if saved.connectionState == .disconnected then .disconnected else .connecting
    joinType := hjPrivate
    sharedState := { chat.sharedState with
      groupNameLen := saved.sharedState.groupNameLen
      privacyState := saved.sharedState.privacyState
      maxpeers := saved.sharedState.maxpeers
      passwordLength := saved.sharedState.passwordLength
      version := saved.sharedState.version
      topicLock := saved.sharedState.topicLock
      voiceState := saved.sharedState.voiceState } }

theorem reads_stateValues (chat saved : GCChat) :
    Reads (loadUnpackStateValues chat) (savePackStateValues saved) (withStateValues chat saved) := by
  rw [savePackStateValues]
  simp only [append_assoc]
  refine (reads_arrayFixed (by decide)).bind ?_
  refine (reads_bool _).bind ?_
  refine (reads_binPackU16 _).bind ?_
  refine (reads_binPackU08 _).bind ?_
  refine (reads_binPackU16 _).bind ?_
  refine (reads_binPackU16 _).bind ?_
  refine (reads_binPackU32 _).bind ?_
  refine (reads_binPackU32 _).bind ?_
  exact (reads_binPackU08 _).bind_last (Reads.pure _)

/-- A chat with the arrays that `load_unpack_state_bin` sets. -/
def withStateBin (chat saved : GCChat) : GCChat :=
  { chat with
    sharedStateSig := saved.sharedStateSig
    sharedState := { chat.sharedState with
      founderPublicKey := saved.sharedState.founderPublicKey
      groupName := zeroTail saved.sharedState.groupName saved.sharedState.groupNameLen
      password := zeroTail saved.sharedState.password saved.sharedState.passwordLength
      modListHash := saved.sharedState.modListHash } }

variable {chat saved : GCChat}

theorem reads_stateBin (hname : chat.sharedState.groupNameLen = saved.sharedState.groupNameLen)
    (hpassword : chat.sharedState.passwordLength = saved.sharedState.passwordLength)
    (hnameLen : saved.sharedState.groupNameLen.toNat ≤ maxGcGroupNameSize)
    (hpasswordLen : saved.sharedState.passwordLength.toNat ≤ maxGcPasswordSize) :
    Reads (loadUnpackStateBin chat) (savePackStateBin saved) (withStateBin chat saved) := by
  rw [savePackStateBin, loadUnpackStateBin, hname, hpassword]
  simp only [append_assoc]
  refine (reads_arrayFixed (by decide)).bind ?_
  refine (reads_vector _ (by decide)).bind ?_
  refine (reads_extPublicKey _).bind ?_
  refine (reads_part hnameLen).bind ?_
  refine (reads_part hpasswordLen).bind ?_
  exact (reads_vector _ (by decide)).bind_last (Reads.pure _)

/-- A chat with the topic that `load_unpack_topic_info` sets. -/
def withTopicInfo (chat saved : GCChat) : GCChat :=
  { chat with topicInfo := saved.topicInfo, topicSig := saved.topicSig }

theorem reads_topicInfo (h : saved.topicInfo.topic.length ≤ maxGcTopicSize) :
    Reads (loadUnpackTopicInfo chat) (savePackTopicInfo saved) (withTopicInfo chat saved) := by
  have hlength : (UInt16.ofNat saved.topicInfo.topic.length).toNat = saved.topicInfo.topic.length := by
    exact Nat.mod_eq_of_lt (Nat.lt_of_le_of_lt h (by decide))
  rw [savePackTopicInfo]
  simp only [append_assoc]
  refine (reads_arrayFixed (by decide)).bind ?_
  refine (reads_binPackU32 _).bind ?_
  refine (reads_binPackU16 _).bind ?_
  refine (reads_binPackU16 _).bind ?_
  rw [hlength, if_neg (Nat.not_lt.mpr h)]
  refine (reads_bin rfl (Nat.le_trans h (by decide))).bind ?_
  refine (reads_vector _ (by decide)).bind ?_
  exact (reads_vector _ (by decide)).bind_last (Reads.pure _)

/-- A chat with the list that `load_unpack_mod_list` sets. -/
def withModList (chat saved : GCChat) : GCChat :=
  { chat with moderation := { chat.moderation with modList := saved.moderation.modList } }

theorem reads_modList (hempty : chat.moderation.modList = [])
    (h : saved.moderation.modList.length ≤ modMaxNumModerators) :
    Reads (loadUnpackModList chat) (savePackModList saved) (withModList chat saved) := by
  have htake : saved.moderation.modList.take modMaxNumModerators = saved.moderation.modList :=
    take_of_length_le h
  rw [savePackModList, htake]
  split
  · -- an empty list is loaded as no list
    rename_i hzero
    have hnil := length_eq_zero_iff.mp hzero
    refine (reads_arrayFixed (by decide)).bind ?_
    refine (reads_binPackU16 0).bind ?_
    rw [withModList, hnil, ← hempty]
    exact reads_nil.bind_last (Reads.pure chat)
  · rename_i hpos
    have hnat : (UInt16.ofNat saved.moderation.modList.length).toNat =
        saved.moderation.modList.length := by
      exact Nat.mod_eq_of_lt (Nat.lt_of_le_of_lt h (by decide))
    have hmin : min (UInt16.ofNat saved.moderation.modList.length) (UInt16.ofNat modMaxNumModerators) =
        UInt16.ofNat saved.moderation.modList.length := by
      refine if_pos ?_
      rw [UInt16.le_iff_toNat_le, hnat]
      exact h
    have hne : UInt16.ofNat saved.moderation.modList.length ≠ 0 := by
      intro heq
      rw [heq] at hnat
      exact hpos hnat.symm
    have hlength := GCChat.length_modListPack saved.moderation.modList
    refine (reads_arrayFixed (by decide)).bind ?_
    refine (reads_binPackU16 _).bind ?_
    rw [if_neg hne]
    dsimp only
    rw [hmin, hnat]
    have hbound : saved.moderation.modList.length * sigPublicKeySize ≤ 0xffff :=
      Nat.le_trans (Nat.mul_le_mul_right _ h) (by decide)
    refine (reads_bin hlength hbound).bind_last ?_
    rw [Moderation.modListUnpack, hnat, hlength, if_neg (Nat.lt_irrefl _), if_neg hne,
      GCChat.modListEntries_modListPack]
    exact Reads.pure _

/-- A group with the keys that `load_unpack_keys` sets. -/
def withKeys (group saved : GCGroup) : GCGroup :=
  { group with
    chat := { group.chat with
      chatPublicKey := saved.chat.chatPublicKey
      selfPublicKey := saved.chat.selfPublicKey
      selfSecretKey := saved.chat.selfSecretKey }
    chatSecretKey := saved.chatSecretKey
    selfSecretSigKey := saved.selfSecretSigKey }

theorem reads_keys (group saved : GCGroup) :
    Reads (loadUnpackKeys group) (savePackKeys saved) (withKeys group saved) := by
  rw [savePackKeys]
  simp only [append_assoc]
  refine (reads_arrayFixed (by decide)).bind ?_
  refine (reads_extPublicKey _).bind ?_
  refine (reads_extSecretKey _).bind ?_
  refine (reads_extPublicKey _).bind ?_
  exact (reads_extSecretKey _).bind_last (Reads.pure _)

theorem ofUInt8_toUInt8 (role : GroupRole) : GroupRole.ofUInt8 role.toUInt8 = role := by
  cases role <;> rfl

def loadedSelf (env : ChatEnv) (chat : GCChat) (self : GCPeer) : GCPeer :=
  { zeroGCPeer with
    nick := zeroTail self.nick self.nickLength
    nickLength := self.nickLength
    role := self.role
    status := self.status
    link :=
      { gconn := { chat.newGconn env none chat.selfPublicKey.enc with
          publicKey := chat.selfPublicKey
          confirmed := true }
        sent := []
        handed := [] } }

variable {self : GCPeer}

theorem reads_selfInfo (env : ChatEnv) (hgroup : chat.group = []) (h : self.nickLength.toNat ≤ maxGcNickSize) :
    Reads (loadUnpackSelfInfo env chat) (savePackSelfInfo self)
      { chat with group := [loadedSelf env chat self] } := by
  have hmin : min self.nickLength (UInt16.ofNat maxGcNickSize) = self.nickLength := by
    refine if_pos ?_
    exact h
  have hadd : chat.peerAdd env none chat.selfPublicKey.enc =
      (.added 0, { chat with
        group := [{ zeroGCPeer with
          role := .user
          peerId := 0
          link := { gconn := chat.newGconn env none chat.selfPublicKey.enc, sent := [], handed := [] } }] }) := by
    simp [GCChat.peerAdd, GCChat.getPeerNumberOfEncPk, GCChat.getNewPeerId,
      GCChat.getPeerNumberOfPeerId, hgroup]
  have hbound : self.nickLength.toNat ≤ 0xffff := Nat.le_of_lt_succ self.nickLength.toNat_lt
  rw [savePackSelfInfo, hmin]
  simp only [append_assoc]
  refine (reads_arrayFixed (by decide)).bind ?_
  refine (reads_binPackU16 _).bind ?_
  refine (reads_binPackU08 _).bind ?_
  refine (reads_binPackU08 _).bind ?_
  rw [hmin]
  refine (reads_bin (length_inUse h) hbound).bind_last ?_
  rw [hadd]
  have hself : loadSelf chat.selfPublicKey (inUse self.nick self.nickLength) self.nickLength
      self.role.toUInt8 self.status
      { zeroGCPeer with
        role := .user
        peerId := 0
        link := { gconn := chat.newGconn env none chat.selfPublicKey.enc, sent := [], handed := [] } } =
      loadedSelf env chat self := by
    rw [loadSelf, ofUInt8_toUInt8]
    rfl
  rw [← hself]
  exact Reads.pure _

theorem reads_savedPeers (group saved : GCGroup) (hempty : group.savedPeers.1 = []) :
    Reads (loadUnpackSavedPeers group) (savePackSavedPeers saved)
      { group with savedPeers := saved.savedPeers } := by
  obtain ⟨⟨peers, hpeers⟩, hsaved⟩ : ∃ peers, peers = saved.savedPeers := ⟨_, rfl⟩
  rw [savePackSavedPeers, ← hsaved]
  split
  · rename_i hzero
    have hnil := length_eq_zero_iff.mp hzero
    refine (reads_arrayFixed (by decide)).bind ?_
    refine (reads_binPackU16 0).bind ?_
    refine reads_nil.bind_last ?_
    have hsame : group.savedPeers = ⟨peers, hpeers⟩ := Subtype.ext (hempty.trans hnil.symm)
    rw [← hsame]
    exact Reads.pure group
  · rename_i hpos
    have hnat : (UInt16.ofNat peers.length).toNat = peers.length := by
      exact Nat.mod_eq_of_lt hpeers
    have hne : UInt16.ofNat peers.length ≠ 0 := by
      intro heq
      rw [heq] at hnat
      exact hpos hnat.symm
    refine (reads_arrayFixed (by decide)).bind ?_
    refine (reads_binPackU16 _).bind ?_
    rw [if_neg hne, hnat]
    refine (reads_bin rfl (Nat.le_of_lt_succ hpeers)).bind_last ?_
    rw [dif_pos hpeers]
    exact Reads.pure _

/-! ## Lengths -/

structure Lengths where
  name : UInt16
  password : UInt16
  topic : Nat
  mods : Nat
  nick : Option UInt16

/-- The lengths do not exceed the sizes of the arrays, and there is a peer for ourselves. -/
structure Lengths.Fit (lengths : Lengths) : Prop where
  name : lengths.name.toNat ≤ maxGcGroupNameSize
  password : lengths.password.toNat ≤ maxGcPasswordSize
  topic : lengths.topic ≤ maxGcTopicSize
  mods : lengths.mods ≤ modMaxNumModerators
  nick : ∃ nick, lengths.nick = some nick ∧ nick.toNat ≤ maxGcNickSize

namespace GCChat

def lengths (chat : GCChat) : Lengths where
  name := chat.sharedState.groupNameLen
  password := chat.sharedState.passwordLength
  topic := chat.topicInfo.topic.length
  mods := chat.moderation.modList.length
  nick := chat.group[0]?.map (·.nickLength)

variable {crypto : SignCrypto} {chat : GCChat}

theorem lengths_modifyLink (chat : GCChat) (peerNumber : Nat) (f : PeerLink → PeerLink) :
    (chat.modifyLink peerNumber f).lengths = chat.lengths := by
  simp only [lengths, modifyLink, getElem?_modify]
  cases chat.group[0]? with
  | none => rfl
  | some peer => by_cases hzero : peerNumber = 0 <;> simp [hzero]

theorem lengths_sendOn (peerNumber : Nat) (f : PeerLink → Bool × PeerLink) :
    (chat.sendOn peerNumber f).2.lengths = chat.lengths := by
  rw [sendOn]
  split
  · rfl
  · exact lengths_modifyLink chat peerNumber _

theorem lengths_sendGcLosslessPacketAllPeers (chat : GCChat) (env : ChatEnv) (data : Bytes) (type : UInt8) :
    (chat.sendGcLosslessPacketAllPeers env data type).lengths = chat.lengths := by
  simp [lengths, sendGcLosslessPacketAllPeers]

theorem lengths_updateGcPeerRoles : chat.updateGcPeerRoles.lengths = chat.lengths := by
  have hnick : ∀ (role : GCPeer → GroupRole) (group : List GCPeer),
      (group.map fun peer => if peer.link.gconn.confirmed then { peer with role := role peer }
        else peer)[0]?.map (·.nickLength) = group[0]?.map (·.nickLength) := by
    intro role group
    rw [getElem?_map, Option.map_map]
    congr 1
    funext peer
    rw [Function.comp_apply]
    split <;> rfl
  rw [updateGcPeerRoles]
  split
  · exact congrArg (Lengths.mk _ _ _ _) (hnick chat.peerRole chat.group)
  · exact congrArg (Lengths.mk _ _ _ _) (hnick chat.peerRole chat.group)

theorem lengths_sendGcRandomSyncRequest (env : ChatEnv) (syncFlags : UInt16) :
    (chat.sendGcRandomSyncRequest env syncFlags).2.lengths = chat.lengths := by
  rw [sendGcRandomSyncRequest]
  split
  · rfl
  rw [sendGcSyncRequest]
  split
  · rfl
  · exact lengths_sendOn _ _

theorem lengths_handleGcSharedStateError (env : ChatEnv) (peerNumber : Nat) :
    (chat.handleGcSharedStateError env peerNumber).2.lengths = chat.lengths := by
  have hmark := lengths_modifyLink chat peerNumber fun link => link.withConn link.gconn.gccMarkForDeletion
  rw [handleGcSharedStateError]
  split
  · exact hmark
  split
  · exact hmark
  · exact (lengths_sendGcRandomSyncRequest env gfState).trans hmark

theorem lengths_signGcSharedState (crypto : SignCrypto) (chat : GCChat) (secretKey : SigSecretKey) :
    (chat.signGcSharedState crypto secretKey).2.lengths = chat.lengths := by
  rw [signGcSharedState]
  split
  · rfl
  dsimp only
  split <;> split <;> rfl

theorem lengths_broadcastGcSharedState (env : ChatEnv) :
    (chat.broadcastGcSharedState env).lengths = chat.lengths :=
  lengths_sendGcLosslessPacketAllPeers chat env _ _

variable {env : ChatEnv} {data : Bytes}

theorem lengths_handleGcSharedState_fit {peerNumber : Nat} (h : chat.lengths.Fit)
    : (chat.handleGcSharedState crypto env peerNumber data).2.lengths.Fit := by
  have herror : (chat.handleGcSharedStateError env peerNumber).2.lengths.Fit := by
    rw [lengths_handleGcSharedStateError]
    exact h
  rw [handleGcSharedState]
  split
  · exact herror
  dsimp only
  split
  · exact herror
  split
  · exact h
  split
  · exact h
  split
  · exact h
  · -- the lengths of the new state were checked
    rename_i state _ hvalid
    have hvalid : validateGcSharedState state = true := by simpa using hvalid
    simp only [validateGcSharedState, Bool.and_eq_true, decide_eq_true_eq] at hvalid
    refine { h with name := hvalid.1.1.2, password := hvalid.1.1.1.1.2, mods := ?_ }
    split
    · exact h.mods
    · exact h.mods

theorem lengths_setGcPasswordLocal_fit (passwd : Bytes) (h : chat.lengths.Fit) :
    (chat.setGcPasswordLocal passwd).2.lengths.Fit := by
  rw [setGcPasswordLocal]
  split
  · exact h
  split
  · exact { h with password := Nat.zero_le _ }
  · rename_i hmax _
    have hpassword : (UInt16.ofNat passwd.length).toNat ≤ maxGcPasswordSize := by
      exact Nat.le_trans (Nat.mod_le _ _) (Nat.le_of_not_gt hmax)
    exact { h with password := hpassword }

theorem lengths_gcSetTopic_fit (crypto : SignCrypto) (env : ChatEnv) (secretKey : SigSecretKey) (topic : Bytes)
    (h : chat.lengths.Fit) : (chat.gcSetTopic crypto env secretKey topic).2.lengths.Fit := by
  rw [gcSetTopic]
  split
  · exact h
  rename_i htopic
  split
  · exact h
  split
  · exact h
  split
  · exact h
  dsimp only
  split
  · exact h
  · generalize hsent : GCChat.broadcastGcTopic _ env = sent
    show sent.lengths.Fit
    rw [← hsent, broadcastGcTopic, lengths_sendGcLosslessPacketAllPeers]
    exact { h with topic := Nat.le_of_not_gt htopic }

abbrev KeepsLengths (change : GCSharedState → GCSharedState) : Prop := ∀ state,
  (change state).groupNameLen = state.groupNameLen ∧ (change state).passwordLength = state.passwordLength

theorem lengths_changeSharedState (crypto : SignCrypto) (chat : GCChat) (env : ChatEnv) (secretKey : SigSecretKey)
    {change undo : GCSharedState → GCSharedState} (hchange : KeepsLengths change) (hundo : KeepsLengths undo) :
    (chat.changeSharedState crypto env secretKey change undo).2.lengths = chat.lengths := by
  have hframe : ∀ (c : GCChat) (f : GCSharedState → GCSharedState), KeepsLengths f →
      { c with sharedState := f c.sharedState }.lengths = c.lengths := by
    intro c f hf
    simp only [lengths, (hf c.sharedState).1, (hf c.sharedState).2]
  have hsign := lengths_signGcSharedState crypto { chat with sharedState := change chat.sharedState } secretKey
  rw [hframe chat change hchange] at hsign
  rw [changeSharedState]
  split
  · rename_i signed heq
    rw [heq] at hsign
    exact (hframe signed undo hundo).trans hsign
  · rename_i signed heq
    rw [heq] at hsign
    exact (lengths_broadcastGcSharedState env).trans hsign

theorem lengths_validateUnpackModList_fit (crypto : SignCrypto) (data : Bytes) (numMods : UInt16)
    (h : chat.lengths.Fit) :
    (chat.validateUnpackModList crypto data numMods).2.lengths.Fit := by
  rw [validateUnpackModList]
  split
  · exact h
  rename_i hmax
  have hunpack : (chat.moderation.modListUnpack data numMods).2.modList.length ≤
      modMaxNumModerators := by
    rw [Moderation.modListUnpack]
    split
    · exact h.mods
    split
    · exact Nat.zero_le _
    · simpa [modListEntries] using Nat.le_of_not_gt hmax
  split
  · exact h
  split
  · rename_i moderation heq
    rw [heq] at hunpack
    exact { h with mods := hunpack }
  · rename_i moderation heq
    rw [heq] at hunpack
    exact { h with mods := hunpack }

theorem lengths_handleGcModList_fit (h : chat.lengths.Fit) :
    (chat.handleGcModList crypto env data).2.lengths.Fit := by
  rw [handleGcModList]
  split
  · exact h
  split
  · exact h
  have hvalidate := lengths_validateUnpackModList_fit crypto (data.drop 2) (netUnpackU16 data) h
  split
  · rename_i unpacked heq
    rw [heq] at hvalidate
    rw [lengths_updateGcPeerRoles]
    exact hvalidate
  · rename_i unpacked heq
    rw [heq] at hvalidate
    exact hvalidate
  · rename_i unpacked heq
    rw [heq] at hvalidate
    split
    · exact hvalidate
    split
    · exact hvalidate
    · rw [lengths_sendGcRandomSyncRequest]
      exact hvalidate

theorem lengths_handleGcTopic_fit {peer : GCPeer} (h : chat.lengths.Fit)
    : (chat.handleGcTopic crypto env peer data).2.lengths.Fit := by
  rw [handleGcTopic]
  split
  · exact h
  dsimp only
  split
  · exact h
  rename_i topicInfo hunpack
  split
  · exact h
  split
  · exact h
  · have htopic : topicInfo.topic.length ≤ maxGcTopicSize := by
      rw [unpackGcTopicInfo] at hunpack
      split at hunpack
      · cases hunpack
      dsimp only at hunpack
      split at hunpack
      · cases hunpack
      · cases hunpack
        exact Nat.le_trans (length_take_le _ _) (Nat.min_le_right _ _)
    exact { h with topic := htopic }

end GCChat

namespace GCGroup

variable {crypto : SignCrypto} {group : GCGroup} {env : FounderEnv}

theorem lengths_change {error : Int} {change undo : GCSharedState → GCSharedState}
    (hchange : GCChat.KeepsLengths change) (hundo : GCChat.KeepsLengths undo) :
    (group.change crypto env error change undo).2.chat.lengths = group.chat.lengths := by
  have hchat := GCChat.lengths_changeSharedState crypto group.chat env.toChatEnv
    group.chatSecretKey.sig hchange hundo
  rw [GCGroup.change]
  split
  · rename_i chat heq
    rw [heq] at hchat
    exact hchat
  · rename_i chat heq
    rw [heq] at hchat
    exact hchat

section

variable (h : group.chat.lengths.Fit)
include h

theorem lengths_change_fit {error : Int} {change undo : GCSharedState → GCSharedState}
    (hchange : GCChat.KeepsLengths change) (hundo : GCChat.KeepsLengths undo) :
    (group.change crypto env error change undo).2.chat.lengths.Fit := by
  rw [lengths_change hchange hundo]
  exact h

theorem lengths_gcFounderSetPassword_fit {password : Bytes} :
    (group.gcFounderSetPassword crypto env password).2.chat.lengths.Fit := by
  have hlocal := GCChat.lengths_setGcPasswordLocal_fit password h
  rw [gcFounderSetPassword]
  split
  · exact h
  split
  · exact h
  rename_i chat heq
  rw [heq] at hlocal
  have hsign := GCChat.lengths_signGcSharedState crypto chat group.chatSecretKey.sig
  split
  · rename_i signed heqs
    rw [heqs] at hsign
    rw [← hsign] at hlocal
    exact GCChat.lengths_setGcPasswordLocal_fit _ hlocal
  · rename_i signed heqs
    rw [heqs] at hsign
    rw [← hsign] at hlocal
    rw [GCChat.lengths_broadcastGcSharedState]
    exact hlocal

theorem lengths_gcFounderSetTopicLock_fit {newLockState : UInt8} :
    (group.gcFounderSetTopicLock crypto env newLockState).2.chat.lengths.Fit := by
  rw [gcFounderSetTopicLock]
  split
  · exact h
  split
  · exact h
  split
  · exact h
  by_cases hsame : newLockState = (if group.chat.groupTopicLockEnabled then tlEnabled else tlDisabled)
  · rw [if_pos hsame]
    exact h
  rw [if_neg hsame]
  dsimp only
  by_cases henable : newLockState = tlEnabled
  · rw [if_pos henable]
    have hlocked : ({ group.chat with
        sharedState := { group.chat.sharedState with topicLock := gcTopicLockEnabled }
        } : GCChat).lengths.Fit := h
    have htopic := GCChat.lengths_gcSetTopic_fit crypto env.toChatEnv group.selfSecretSigKey
      group.chat.topicInfo.topic hlocked
    generalize GCChat.gcSetTopic crypto _ _ _ _ = set at htopic ⊢
    split
    · exact htopic
    · exact lengths_change_fit htopic (fun _ => ⟨rfl, rfl⟩) (fun _ => ⟨rfl, rfl⟩)
  · rw [if_neg henable]
    exact lengths_change_fit h (fun _ => ⟨rfl, rfl⟩) (fun _ => ⟨rfl, rfl⟩)

end

theorem lengths_gcFounderSetVoiceState {newVoiceState : UInt8} :
    (group.gcFounderSetVoiceState crypto env newVoiceState).2.chat.lengths = group.chat.lengths := by
  rw [gcFounderSetVoiceState]
  split
  · rfl
  split
  · rfl
  split
  · rfl
  · exact lengths_change (fun _ => ⟨rfl, rfl⟩) (fun _ => ⟨rfl, rfl⟩)

theorem lengths_gcFounderSetPrivacyState {newPrivacyState : UInt8} :
    (group.gcFounderSetPrivacyState crypto env newPrivacyState).2.chat.lengths =
      group.chat.lengths := by
  rw [gcFounderSetPrivacyState]
  split
  · rfl
  split
  · rfl
  split
  · rfl
  dsimp only
  split
  · exact lengths_change (fun _ => ⟨rfl, rfl⟩) (fun _ => ⟨rfl, rfl⟩)
  · exact lengths_change (fun _ => ⟨rfl, rfl⟩) (fun _ => ⟨rfl, rfl⟩)

theorem lengths_gcFounderSetMaxPeers {maxPeers : UInt16} :
    (group.gcFounderSetMaxPeers crypto env maxPeers).2.chat.lengths = group.chat.lengths := by
  rw [gcFounderSetMaxPeers]
  split
  · rfl
  split
  · rfl
  · exact lengths_change (fun _ => ⟨rfl, rfl⟩) (fun _ => ⟨rfl, rfl⟩)

end GCGroup

/-! ## New groups -/

variable {env : FounderEnv} {nick : Bytes} {group : GCGroup}

theorem lengths_createNewGroup_fit {founder : Bool} {privacyState : UInt8}
    (h : createNewGroup env nick founder privacyState = some group) : group.chat.lengths.Fit := by
  rw [createNewGroup] at h
  split at h
  · cases h
  split at h
  · cases h
  rename_i hnick
  split at h
  · cases h
  split at h
  · cases h
  dsimp only at h
  split at h
  · rename_i chat hadd
    cases h
    have hlen : (UInt16.ofNat nick.length).toNat ≤ maxGcNickSize := by
      exact Nat.le_trans (Nat.mod_le _ _) (Nat.le_of_not_gt hnick)
    rw [GCChat.peerAdd] at hadd
    split at hadd
    · cases hadd
    split at hadd
    · cases hadd
    · cases hadd
      exact ⟨Nat.zero_le _, Nat.zero_le _, Nat.zero_le _, Nat.zero_le _, _, rfl, hlen⟩
  · cases h

variable {crypto : SignCrypto}

theorem lengths_gcGroupAdd_fit {privacyState : UInt8} {groupName : Bytes}
    (h : gcGroupAdd crypto env privacyState groupName nick = some group) :
    group.chat.lengths.Fit := by
  rw [gcGroupAdd] at h
  split at h
  · cases h
  rename_i hmax
  split at h
  · cases h
  split at h
  · cases h
  rename_i created hcreated
  have hfit := lengths_createNewGroup_fit hcreated
  have hname : (UInt16.ofNat groupName.length).toNat ≤ maxGcGroupNameSize := by
    exact Nat.le_trans (Nat.mod_le _ _) (Nat.le_of_not_gt hmax)
  dsimp only at h
  split at h
  · cases h
  rename_i signed hsigned
  -- the name is the only length that the founder sets
  have hsignedFit : signed.chat.lengths.Fit := by
    rw [initGcSharedStateFounder] at hsigned
    have hchat := congrArg (fun p : Bool × GCGroup => p.2.chat.lengths) hsigned
    rw [GCChat.lengths_signGcSharedState] at hchat
    rw [← hchat]
    exact { hfit with name := hname }
  split at h
  · cases h
  rename_i moderation hcreds
  have hmods : moderation.modList.length = signed.chat.moderation.modList.length := by
    rw [Moderation.sanctionsListMakeCreds] at hcreds
    split at hcreds
    · cases hcreds
    · cases hcreds
      rfl
  split at h
  · rename_i chat htopic
    split at h
    · cases h
    · cases h
      rw [GCChat.lengths_updateGcPeerRoles]
      have hbefore : ({ (initGcModeration signed).chat with moderation } : GCChat).lengths.Fit :=
        { hsignedFit with mods := Nat.le_trans (Nat.le_of_eq hmods) hsignedFit.mods }
      have hset := GCChat.lengths_gcSetTopic_fit crypto env.toChatEnv
        (initGcModeration signed).selfSecretSigKey [] hbefore
      rw [htopic] at hset
      exact hset
  · cases h

theorem lengths_gcGroupJoin_fit {chatId : SigPublicKey} {passwd : Bytes}
    (h : gcGroupJoin env chatId nick passwd = some group) :
    group.chat.lengths.Fit := by
  rw [gcGroupJoin] at h
  split at h
  · cases h
  rename_i created hcreated
  have hfit := lengths_createNewGroup_fit hcreated
  split at h
  · cases h
  rename_i chatPublicKey _
  dsimp only at h
  have hjoin : ({ created.chat with chatPublicKey, connectionState := .connecting } : GCChat).lengths.Fit :=
    hfit
  have hlocal := GCChat.lengths_setGcPasswordLocal_fit passwd hjoin
  split at h
  · cases h
  rename_i chat hpassword
  split at h
  · cases h
  · cases h
    rw [GCChat.lengths_updateGcPeerRoles]
    split at hpassword
    · rw [hpassword] at hlocal
      exact hlocal
    · cases hpassword
      exact hjoin

/-! ## Runs of a group -/

/-- What happens to a group: calls of its user, and packets with the parts of its state. -/
inductive GroupEvent where
  | setPassword (password : Bytes)
  | setTopicLock (newLockState : UInt8)
  | setVoiceState (newVoiceState : UInt8)
  | setPrivacyState (newPrivacyState : UInt8)
  | setMaxPeers (maxPeers : UInt16)
  | setTopic (topic : Bytes)
  | sharedState (peerNumber : Nat) (data : Bytes)
  | modList (data : Bytes)
  | topic (peer : GCPeer) (data : Bytes)

def GCGroup.handle (crypto : SignCrypto) (env : FounderEnv) (group : GCGroup) : GroupEvent → GCGroup
  | .setPassword password => (group.gcFounderSetPassword crypto env password).2
  | .setTopicLock newLockState => (group.gcFounderSetTopicLock crypto env newLockState).2
  | .setVoiceState newVoiceState => (group.gcFounderSetVoiceState crypto env newVoiceState).2
  | .setPrivacyState newPrivacyState => (group.gcFounderSetPrivacyState crypto env newPrivacyState).2
  | .setMaxPeers maxPeers => (group.gcFounderSetMaxPeers crypto env maxPeers).2
  | .setTopic topic =>
    { group with
      chat := (group.chat.gcSetTopic crypto env.toChatEnv group.selfSecretSigKey topic).2 }
  | .sharedState peerNumber data =>
    { group with chat := (group.chat.handleGcSharedState crypto env.toChatEnv peerNumber data).2 }
  | .modList data =>
    { group with chat := (group.chat.handleGcModList crypto env.toChatEnv data).2 }
  | .topic peer data =>
    { group with chat := (group.chat.handleGcTopic crypto env.toChatEnv peer data).2 }

def groupRuns (crypto : SignCrypto) : TransitionSystem GCGroup where
  init group :=
    (∃ env privacyState groupName nick, gcGroupAdd crypto env privacyState groupName nick = some group) ∨
    ∃ env chatId nick passwd, gcGroupJoin env chatId nick passwd = some group
  step group group' := ∃ env event, group' = group.handle crypto env event

theorem lengths_handle_fit {event : GroupEvent} (h : group.chat.lengths.Fit) :
    (group.handle crypto env event).chat.lengths.Fit := by
  cases event with
  | setPassword password => exact GCGroup.lengths_gcFounderSetPassword_fit h
  | setTopicLock newLockState => exact GCGroup.lengths_gcFounderSetTopicLock_fit h
  | setVoiceState newVoiceState =>
    rw [GCGroup.handle, GCGroup.lengths_gcFounderSetVoiceState]
    exact h
  | setPrivacyState newPrivacyState =>
    rw [GCGroup.handle, GCGroup.lengths_gcFounderSetPrivacyState]
    exact h
  | setMaxPeers maxPeers =>
    rw [GCGroup.handle, GCGroup.lengths_gcFounderSetMaxPeers]
    exact h
  | setTopic topic => exact GCChat.lengths_gcSetTopic_fit crypto _ _ _ h
  | sharedState peerNumber data => exact GCChat.lengths_handleGcSharedState_fit h
  | modList data => exact GCChat.lengths_handleGcModList_fit h
  | topic peer data => exact GCChat.lengths_handleGcTopic_fit h

theorem lengths_fit_of_reachable (h : (groupRuns crypto).Reachable group) : group.chat.lengths.Fit := by
  refine h.invariant (P := fun group => group.chat.lengths.Fit) ?_ ?_
  · intro group hinit
    obtain ⟨env, privacyState, groupName, nick, hadd⟩ | ⟨env, chatId, nick, passwd, hjoin⟩ := hinit
    · exact lengths_gcGroupAdd_fit hadd
    · exact lengths_gcGroupJoin_fit hjoin
  · intro group group' hfit hstep
    obtain ⟨env, event, rfl⟩ := hstep
    exact lengths_handle_fit hfit

/-! ## Saving and loading -/

def reloadedChat (env : ChatEnv) (group : GCGroup) : GCGroup :=
  let chat := withStateBin (withStateValues (emptyGroup env).chat group.chat) group.chat
  let chat := withModList (withTopicInfo chat group.chat) group.chat
  withKeys { emptyGroup env with chat } group

def reloaded (env : ChatEnv) (group : GCGroup) (self : GCPeer) : GCGroup :=
  let loaded := reloadedChat env group
  { loaded with
    chat := { loaded.chat with group := [loadedSelf env loaded.chat self] }
    savedPeers := group.savedPeers }

theorem nickLength_le_of_fit (hself : chat.group[0]? = some self) (h : chat.lengths.Fit)
    : self.nickLength.toNat ≤ maxGcNickSize := by
  obtain ⟨nick, hsome, hfit⟩ := h.nick
  have hnick : chat.group[0]?.map (·.nickLength) = some nick := hsome
  rw [hself] at hnick
  cases hnick
  exact hfit

theorem reads_gcSavePackGroup (env : ChatEnv) (hself : group.chat.group[0]? = some self) (h : group.chat.lengths.Fit) :
    Reads (gcLoadUnpackGroup env (emptyGroup env)) (gcSavePackGroup group) (reloaded env group self) := by
  have hnick := nickLength_le_of_fit hself h
  rw [gcSavePackGroup, hself]
  simp only [append_assoc]
  refine (reads_arrayFixed (by decide)).bind ?_
  refine (reads_stateValues _ _).bind ?_
  refine Reads.bind (reads_stateBin ?_ ?_ h.name h.password) ?_
  · rfl
  · rfl
  refine (reads_topicInfo h.topic).bind ?_
  refine Reads.bind (reads_modList ?_ h.mods) ?_
  · rfl
  refine (reads_keys _ _).bind ?_
  refine Reads.bind (reads_selfInfo env ?_ hnick) ?_
  · rfl
  exact reads_savedPeers _ _ rfl

@[ext]
structure SavedFields where
  sharedState : GCSharedState
  sharedStateSig : Signature
  topicInfo : GCTopicInfo
  topicSig : Signature
  modList : List SigPublicKey
  chatPublicKey : ExtPublicKey
  chatSecretKey : ExtSecretKey
  selfPublicKey : ExtPublicKey
  selfSecretKey : ExtSecretKey
  nick : Option Bytes
  role : Option GroupRole
  status : Option UInt8

namespace GCGroup

def savedFields (group : GCGroup) : SavedFields where
  sharedState := group.chat.sharedState
  sharedStateSig := group.chat.sharedStateSig
  topicInfo := group.chat.topicInfo
  topicSig := group.chat.topicSig
  modList := group.chat.moderation.modList
  chatPublicKey := group.chat.chatPublicKey
  chatSecretKey := group.chatSecretKey
  selfPublicKey := group.chat.selfPublicKey
  selfSecretKey := { enc := group.chat.selfSecretKey, sig := group.selfSecretSigKey }
  nick := group.chat.group[0]?.map fun self => inUse self.nick self.nickLength
  role := group.chat.group[0]?.map (·.role)
  status := group.chat.group[0]?.map (·.status)

def Signed (crypto : SignCrypto) (group : GCGroup) : Prop :=
  crypto.signatureVerify group.chat.sharedStateSig (packGcSharedState group.chat.sharedState)
    group.chat.chatPublicKey.sig = true

def SurvivesSave (crypto : SignCrypto) (env : ChatEnv) (group : GCGroup) : Prop :=
  ∃ loaded, (gcLoadUnpackGroup env (emptyGroup env)).run (gcSavePackGroup group) = some (loaded, []) ∧
    loaded.Signed crypto ∧ loaded.savedFields = group.savedFields

def ZeroTails (group : GCGroup) : Prop :=
  (∀ b ∈ group.chat.sharedState.groupName.toList.drop group.chat.sharedState.groupNameLen.toNat, b = 0) ∧
  ∀ b ∈ group.chat.sharedState.password.toList.drop group.chat.sharedState.passwordLength.toNat, b = 0

end GCGroup

theorem getElem_zeroTail (h : length.toNat ≤ n) {i : Nat} (hi : i < n)
    : (zeroTail v length)[i] = if i < length.toNat then v[i] else 0 := by
  have hlength := length_inUse (v := v) h
  rw [zeroTail, memcpy, bytesToVector, Vector.getElem_ofFn, getD_eq_getElem?_getD]
  split
  · rename_i hused
    have hi' : i < (inUse v length).length := by rw [hlength]; exact hused
    simp [inUse, hused, hi]
  · rename_i hused
    have hi' : (inUse v length).length ≤ i := by rw [hlength]; exact Nat.le_of_not_lt hused
    rw [getElem?_append_right hi', Vector.toList_replicate, drop_replicate, getElem?_replicate]
    split <;> rfl

theorem zeroTail_eq_iff (h : length.toNat ≤ n) :
    zeroTail v length = v ↔ ∀ b ∈ v.toList.drop length.toNat, b = 0 := by
  constructor
  · intro heq b hb
    obtain ⟨i, hi, rfl⟩ := getElem_of_mem hb
    have hin : length.toNat + i < n := by
      rw [length_drop, Vector.length_toList] at hi
      omega
    have hget := getElem_zeroTail (v := v) h hin
    rw [if_neg (by omega), heq] at hget
    rw [getElem_drop]
    exact hget
  · intro hzero
    ext i hi
    rw [getElem_zeroTail h hi]
    split
    · rfl
    · have hmem : v[i] ∈ v.toList.drop length.toNat := by
        rw [mem_iff_getElem]
        refine ⟨i - length.toNat, ?_, ?_⟩
        · rw [length_drop, Vector.length_toList]
          omega
        · rw [getElem_drop, Vector.getElem_toList]
          congr 1
          omega
      rw [hzero v[i] hmem]

theorem sharedState_reloaded (env : ChatEnv) (group : GCGroup) (self : GCPeer) :
    (reloaded env group self).chat.sharedState =
      { group.chat.sharedState with
        groupName := zeroTail group.chat.sharedState.groupName group.chat.sharedState.groupNameLen
        password :=
          zeroTail group.chat.sharedState.password group.chat.sharedState.passwordLength } := by
  simp only [reloaded, reloadedChat, withKeys, withModList, withTopicInfo, withStateBin, withStateValues]

theorem group_reloaded (env : ChatEnv) (group : GCGroup) (self : GCPeer) :
    (reloaded env group self).chat.group[0]? =
      some (loadedSelf env (reloadedChat env group).chat self) := by
  simp only [reloaded, getElem?_cons_zero]

theorem savedFields_reloaded_eq_iff (env : ChatEnv) (hself : group.chat.group[0]? = some self)
    (h : group.chat.lengths.Fit) :
    (reloaded env group self).savedFields = group.savedFields ↔ group.ZeroTails := by
  have hnick := nickLength_le_of_fit hself h
  have hnickEq : inUse (zeroTail self.nick self.nickLength) self.nickLength =
      inUse self.nick self.nickLength := by
    apply ext_getElem
    · rw [length_inUse hnick, length_inUse hnick]
    · intro i hi hi'
      rw [length_inUse hnick] at hi
      simp only [inUse, getElem_take, Vector.getElem_toList]
      rw [getElem_zeroTail hnick, if_pos hi]
  constructor
  · intro heq
    have hstate := congrArg SavedFields.sharedState heq
    have hname := congrArg GCSharedState.groupName hstate
    have hpassword := congrArg GCSharedState.password hstate
    exact ⟨(zeroTail_eq_iff h.name).mp hname, (zeroTail_eq_iff h.password).mp hpassword⟩
  · intro hzero
    have hname : zeroTail group.chat.sharedState.groupName group.chat.sharedState.groupNameLen =
        group.chat.sharedState.groupName := (zeroTail_eq_iff h.name).mpr hzero.1
    have hpassword : zeroTail group.chat.sharedState.password
        group.chat.sharedState.passwordLength = group.chat.sharedState.password :=
      (zeroTail_eq_iff h.password).mpr hzero.2
    have hstate : (reloaded env group self).chat.sharedState = group.chat.sharedState := by
      rw [sharedState_reloaded, hname, hpassword]
    refine SavedFields.ext hstate rfl ?_ rfl rfl rfl rfl rfl rfl ?_ ?_ ?_
    · simp only [GCGroup.savedFields, reloaded, reloadedChat, withKeys, withModList, withTopicInfo]
    · simp only [GCGroup.savedFields, group_reloaded, hself, Option.map_some, loadedSelf, hnickEq]
    · simp only [GCGroup.savedFields, group_reloaded, hself, Option.map_some, loadedSelf]
    · simp only [GCGroup.savedFields, group_reloaded, hself, Option.map_some, loadedSelf]

namespace GCGroup

variable {crypto : SignCrypto} {group : GCGroup}

/-- A signed group survives a save exactly when the bytes behind the name and behind the password
    are zero. -/
theorem survivesSave_iff (env : ChatEnv) (h : (groupRuns crypto).Reachable group)
    (hsigned : group.Signed crypto) : group.SurvivesSave crypto env ↔ group.ZeroTails := by
  have hfit := lengths_fit_of_reachable h
  obtain ⟨nick, hsome, -⟩ := hfit.nick
  obtain ⟨self, hself, -⟩ := Option.map_eq_some_iff.mp hsome
  have hload := reads_gcSavePackGroup env hself hfit []
  rw [append_nil] at hload
  have hfields := savedFields_reloaded_eq_iff env hself hfit
  constructor
  · intro hsurvives
    obtain ⟨loaded, hloaded, -, heq⟩ := hsurvives
    rw [hload] at hloaded
    cases hloaded
    exact hfields.mp heq
  · intro hzero
    have heq := hfields.mpr hzero
    refine ⟨_, hload, ?_, heq⟩
    -- the same bytes are signed
    have hstate : (reloaded env group self).chat.sharedState = group.chat.sharedState :=
      congrArg SavedFields.sharedState heq
    rw [Signed, hstate]
    exact hsigned

/-! ## A shorter password -/

def founderKeypair : ExtPublicKey × ExtSecretKey :=
  ({ enc := #v[216, 94, 7, 236, 34, 176, 173, 136, 21, 55, 194, 244, 77, 102, 45, 26,
        20, 60, 248, 48, 197, 122, 202, 67, 5, 216, 92, 122, 144, 246, 182, 46]
     sig := founderSigPk },
   { enc := #v[48, 124, 131, 134, 79, 40, 51, 203, 66, 122, 46, 241, 192, 10, 1, 60,
        253, 255, 39, 104, 217, 128, 192, 163, 165, 32, 240, 6, 144, 77, 233, 79]
     sig := founderSigSk })

def chatKeypair : ExtPublicKey × ExtSecretKey :=
  ({ enc := #v[118, 29, 136, 236, 131, 4, 19, 145, 157, 254, 157, 77, 29, 86, 241, 126,
        101, 60, 140, 153, 64, 130, 223, 91, 19, 123, 144, 160, 174, 110, 223, 116]
     sig := GCChat.chatSigPk },
   { enc := #v[40, 173, 57, 254, 253, 127, 163, 226, 0, 169, 198, 38, 238, 245, 153, 230,
        26, 45, 5, 92, 72, 168, 40, 138, 78, 126, 76, 75, 202, 57, 40, 120]
     sig := #v[7, 7, 7, 7, 7, 7, 7, 7, 7, 7, 7, 7, 7, 7, 7, 7,
        7, 7, 7, 7, 7, 7, 7, 7, 7, 7, 7, 7, 7, 7, 7, 7,
        234, 74, 108, 99, 226, 156, 82, 10, 190, 245, 80, 123, 19, 46, 197, 249,
        149, 71, 118, 174, 190, 190, 123, 146, 66, 30, 234, 105, 20, 70, 210, 44] })

/-- The shared state of a new private group with the name `g`. -/
def newState : GCSharedState where
  version := 1
  founderPublicKey := founderKeypair.1
  maxpeers := maxGcPeersDefault
  groupNameLen := 1
  groupName := bytesToVector _ [103]
  privacyState := giPrivate
  passwordLength := 0
  password := Vector.replicate _ 0
  modListHash := zeroDigest
  topicLock := gcTopicLockEnabled
  voiceState := gvAll

def newStateSig : Signature :=
  #v[127, 192, 95, 116, 6, 226, 24, 188, 185, 1, 142, 78, 241, 121, 53, 168,
    205, 160, 143, 103, 15, 88, 225, 49, 34, 207, 41, 225, 149, 251, 69, 157,
    34, 6, 4, 182, 125, 61, 100, 4, 169, 241, 203, 104, 207, 69, 73, 78,
    111, 122, 143, 85, 79, 155, 11, 81, 190, 230, 69, 125, 33, 210, 201, 8]

/-- The shared state with the password `abcd`. -/
def longState : GCSharedState :=
  { newState with version := 2, passwordLength := 4, password := bytesToVector _ [97, 98, 99, 100] }

def longStateSig : Signature :=
  #v[151, 36, 61, 27, 175, 164, 176, 124, 83, 163, 164, 120, 113, 228, 65, 104,
    207, 33, 25, 240, 57, 224, 241, 138, 22, 240, 223, 252, 213, 157, 60, 116,
    90, 142, 27, 203, 27, 16, 110, 15, 90, 5, 56, 115, 108, 85, 108, 86,
    1, 105, 252, 212, 148, 19, 159, 209, 250, 56, 105, 35, 193, 184, 201, 14]

/-- The shared state with the password `xy`, which was set after `abcd`. -/
def shortState : GCSharedState :=
  { newState with version := 3, passwordLength := 2, password := bytesToVector _ [120, 121, 99, 100] }

def shortStateSig : Signature :=
  #v[84, 42, 47, 237, 221, 119, 7, 150, 125, 43, 87, 125, 109, 170, 56, 108,
    20, 70, 254, 2, 62, 185, 62, 31, 80, 130, 27, 16, 61, 155, 77, 89,
    42, 6, 14, 177, 108, 112, 132, 29, 183, 143, 205, 94, 253, 174, 9, 198,
    50, 211, 78, 223, 89, 248, 136, 251, 122, 71, 251, 167, 189, 255, 83, 7]

def newTopic : GCTopicInfo :=
  { version := 1, checksum := 0, topic := [], publicSigKey := founderSigPk }

def newTopicSig : Signature :=
  #v[38, 226, 27, 56, 71, 90, 104, 95, 74, 1, 75, 119, 95, 146, 147, 241,
    157, 16, 247, 147, 129, 75, 236, 35, 199, 102, 144, 22, 239, 71, 60, 12,
    140, 167, 3, 51, 215, 145, 73, 63, 96, 77, 239, 245, 110, 123, 154, 58,
    47, 13, 13, 116, 155, 162, 247, 120, 107, 129, 199, 102, 100, 229, 147, 7]

def passwordCrypto : SignCrypto where
  sha256 _ := zeroDigest
  signatureCreate message secretKey :=
    if secretKey = chatKeypair.2.sig then
      if message = packGcSharedState newState then some newStateSig
      else if message = packGcSharedState longState then some longStateSig
      else if message = packGcSharedState shortState then some shortStateSig
      else none
    else if secretKey = founderSigSk then
      if message = zeroDigest.toList then some emptyListSig
      else if message = packGcTopicInfo newTopic then some newTopicSig
      else none
    else none
  signatureVerify signature message sigPk :=
    sigPk == GCChat.chatSigPk &&
      (signature == newStateSig && message == packGcSharedState newState ||
        signature == longStateSig && message == packGcSharedState longState ||
        signature == shortStateSig && message == packGcSharedState shortState)

def founderEnv : FounderEnv where
  toChatEnv := GCChat.quietChatEnv
  selfKeypair := some founderKeypair
  chatKeypair
  expandChatId _ := none
  initTcp := true
  createConnection := true

theorem isSome_gcGroupAdd :
    (gcGroupAdd passwordCrypto founderEnv giPrivate [103] [110]).isSome = true := by decide +kernel

/-- The group that the founder creates with the nick `n`. -/
def newGroup : GCGroup :=
  (gcGroupAdd passwordCrypto founderEnv giPrivate [103] [110]).get isSome_gcGroupAdd

/-- The group after its password was set to `abcd` and then to `xy`. -/
def shortPasswordGroup : GCGroup :=
  (newGroup.handle passwordCrypto founderEnv (.setPassword [97, 98, 99, 100])).handle
    passwordCrypto founderEnv (.setPassword [120, 121])

theorem reachable_newGroup : (groupRuns passwordCrypto).Reachable newGroup :=
  .init (.inl ⟨founderEnv, giPrivate, [103], [110], (Option.some_get _).symm⟩)

/-- After a shorter password the saved group has a signature that is not valid. -/
theorem not_survivesSave :
    (groupRuns passwordCrypto).Reachable shortPasswordGroup ∧
    shortPasswordGroup.Signed passwordCrypto ∧
    ¬shortPasswordGroup.SurvivesSave passwordCrypto GCChat.quietChatEnv := by
  refine ⟨(reachable_newGroup.step ⟨_, _, rfl⟩).step ⟨_, _, rfl⟩, ?_, ?_⟩
  · rw [Signed]
    decide +kernel
  · intro h
    obtain ⟨loaded, hload, hsigned, -⟩ := h
    have hinvalid :
        ((gcLoadUnpackGroup GCChat.quietChatEnv (emptyGroup GCChat.quietChatEnv)).run
          (gcSavePackGroup shortPasswordGroup)).map (fun result =>
            passwordCrypto.signatureVerify result.1.chat.sharedStateSig
              (packGcSharedState result.1.chat.sharedState) result.1.chat.chatPublicKey.sig) =
          some false := by decide +kernel
    rw [hload, Option.map_some] at hinvalid
    rw [Signed, Option.some.inj hinvalid] at hsigned
    cases hsigned

/-- The new group survives, since all bytes behind its name and its password are zero. -/
theorem survivesSave_iff_newGroup :
    (groupRuns passwordCrypto).Reachable newGroup ∧ newGroup.Signed passwordCrypto ∧
    (newGroup.SurvivesSave passwordCrypto GCChat.quietChatEnv ↔ newGroup.ZeroTails) ∧
    newGroup.ZeroTails := by
  have hsigned : newGroup.Signed passwordCrypto := by
    rw [Signed]
    decide +kernel
  refine ⟨reachable_newGroup, hsigned, survivesSave_iff _ reachable_newGroup hsigned, ?_⟩
  rw [ZeroTails]
  decide +kernel

end GCGroup

end Toxcore

import Toxcore.Native.NgcLoad
import Toxcore.Spec.NgcInvites

/-!
# What the loader of a group accepts

`groupFile` reads the seven sections of a saved group without storing anything.  It says which files `gc_group_load`
loads, and `gcGroupLoad_loadSafe_iff` for which sessions and files the load is safe.
-/

namespace Toxcore

open List

open Msgpack

/-! ## The file -/

structure FileState where
  groupNameLen : UInt16
  privacyState : UInt8
  passwordLength : UInt16
  voiceState : UInt8
deriving DecidableEq

def fileState : Reader FileState := do
  binUnpackArrayFixed 7
  binUnpackArrayFixed 8
  let _ ← readBool
  let groupNameLen ← binUnpackU16
  let privacyState ← binUnpackU08
  let _ ← binUnpackU16
  let passwordLength ← binUnpackU16
  let _ ← binUnpackU32
  let _ ← binUnpackU32
  let voiceState ← binUnpackU08
  return { groupNameLen, privacyState, passwordLength, voiceState }

def fileStateBin (state : FileState) : Reader Unit := do
  binUnpackArrayFixed 5
  let _ ← binUnpackVector signatureSize
  let _ ← binUnpackExtPublicKey
  let _ ← readBinFixed state.groupNameLen.toNat
  let _ ← readBinFixed state.passwordLength.toNat
  let _ ← binUnpackVector cryptoSha256Size

def fileTopic : Reader UInt16 := do
  binUnpackArrayFixed 6
  let _ ← binUnpackU32
  let length ← binUnpackU16
  let _ ← binUnpackU16
  let _ ← readBinFixed length.toNat
  let _ ← binUnpackVector sigPublicKeySize
  let _ ← binUnpackVector signatureSize
  return length

def fileModList (afterNil : Bytes → Bytes) : Reader UInt16 := do
  binUnpackArrayFixed 2
  let numMods ← binUnpackU16
  if numMods = 0 then
    modify afterNil
    return 0
  else
    let numMods := min numMods (UInt16.ofNat modMaxNumModerators)
    let _ ← readBinFixed (numMods.toNat * sigPublicKeySize)
    return numMods

def fileKeys : Reader Unit := do
  binUnpackArrayFixed 4
  let _ ← binUnpackExtPublicKey
  let _ ← binUnpackExtSecretKey
  let _ ← binUnpackExtPublicKey
  let _ ← binUnpackExtSecretKey

def fileSelf : Reader Unit := do
  binUnpackArrayFixed 4
  let nickLength ← binUnpackU16
  let _ ← binUnpackU08
  let _ ← binUnpackU08
  let _ ← readBinFixed (min nickLength (UInt16.ofNat maxGcNickSize)).toNat

def fileSavedPeers (afterNil : Bytes → Bytes) : Reader Bytes := do
  binUnpackArrayFixed 2
  let size ← binUnpackU16
  if size = 0 then
    modify afterNil
    return []
  else readBinFixed size.toNat

structure GroupFile where
  topicLength : UInt16
  numMods : UInt16
  savedPeers : Bytes

def groupFile (afterNil : Bytes → Bytes) (state : FileState) : Reader GroupFile := do
  fileStateBin state
  let topicLength ← fileTopic
  let numMods ← fileModList afterNil
  fileKeys
  fileSelf
  let savedPeers ← fileSavedPeers afterNil
  return { topicLength, numMods, savedPeers }

/-- What is left of packed saved peers after `n` entries. -/
def skipSavedPeers : Nat → Bytes → Option Bytes
  | 0, data => some data
  | n + 1, data => (LoadSlot.unpackSavedPeer data).bind fun (_, data) => skipSavedPeers n data

def SavedPeersFit (data : Bytes) : Prop :=
  ∀ rest, skipSavedPeers gcMaxSavedPeers data = some rest → LoadSlot.startsAddress rest = false

/-! ## Readers in sequence -/

section

variable {α β : Type} {bytes : Bytes}

theorem Reader.bind_eq_some {x : Reader α} {f : α → Reader β} {result : β × Bytes} :
    (x >>= f) bytes = some result ↔ ∃ a rest, x bytes = some (a, rest) ∧ f a rest = some result := by
  show (x bytes).bind (fun p => f p.1 p.2) = some result ↔ _
  simp [Option.bind_eq_some_iff]

theorem LoadM.bind_eq_ok {x : LoadM α} {f : α → LoadM β} {result : β × Bytes} :
    (x >>= f) bytes = .ok result ↔ ∃ a rest, x bytes = .ok (a, rest) ∧ f a rest = .ok result := by
  show Except.bind (x bytes) (fun p => f p.1 p.2) = .ok result ↔ _
  cases x bytes with
  | error stop => simp [Except.bind]
  | ok p => simp [Except.bind, Prod.ext_iff]

theorem LoadM.liftReader_eq_ok {x : Reader α} {result : α × Bytes} :
    (liftM x : LoadM α) bytes = .ok result ↔ x bytes = some result := by
  cases h : x bytes <;> simp [liftM, monadLift, MonadLift.monadLift, h]

theorem LoadM.liftExcept_eq_ok {x : Except LoadStop α} {a : α} {rest : Bytes} :
    (liftM x : LoadM α) bytes = .ok (a, rest) ↔ x = .ok a ∧ rest = bytes := by
  show x.bind (fun a => .ok (a, bytes)) = .ok (a, rest) ↔ _
  cases x <;> simp [Except.bind, eq_comm]

theorem LoadM.pure_eq_ok {a b : α} {rest : Bytes} :
    (pure a : LoadM α) bytes = .ok (b, rest) ↔ b = a ∧ rest = bytes := by
  show Except.ok (a, bytes) = .ok (b, rest) ↔ _
  simp [eq_comm]

theorem LoadM.throw_eq_ok {stop : LoadStop} {result : α × Bytes} :
    (throw stop : LoadM α) bytes = .ok result ↔ False := by
  refine ⟨fun h => ?_, False.elim⟩
  cases h

theorem Reader.pure_eq_some {a b : α} {rest : Bytes} :
    (pure a : Reader α) bytes = some (b, rest) ↔ b = a ∧ rest = bytes := by
  show some (a, bytes) = some (b, rest) ↔ _
  simp [eq_comm]

end

namespace LoadSlot

variable {env : LoadEnv} {slot slot' : LoadSlot} {bytes rest : Bytes}

theorem binUnpackInto_eq_ok {capacity length : Nat} {data : Bytes} :
    binUnpackInto capacity length bytes = .ok (data, rest) ↔
      readBinFixed length bytes = some (data, rest) ∧ length ≤ capacity := by
  rw [binUnpackInto, LoadM.bind_eq_ok]
  by_cases h : length ≤ capacity
  · simp [h, LoadM.liftReader_eq_ok, LoadM.pure_eq_ok]
  · simp [h, LoadM.throw_eq_ok]

def state (slot : LoadSlot) : FileState :=
  let state := slot.group.chat.sharedState
  { groupNameLen := state.groupNameLen
    privacyState := state.privacyState
    passwordLength := state.passwordLength
    voiceState := state.voiceState }

structure View where
  connectionState : GCConnState
  state : FileState
  peers : List GCPeer
  topicLength : Nat
  numMods : UInt16
  modList : List SigPublicKey

def view (slot : LoadSlot) : View where
  connectionState := slot.group.chat.connectionState
  state := slot.state
  peers := slot.group.chat.group
  topicLength := slot.group.chat.topicInfo.topic.length
  numMods := slot.numMods
  modList := slot.group.chat.moderation.modList

theorem loadUnpackStateBin_ok : (∃ slot', loadUnpackStateBin slot bytes = .ok (slot', rest)) ↔
    fileStateBin slot.state bytes = some ((), rest) ∧ slot.state.groupNameLen.toNat ≤ maxGcGroupNameSize ∧
      slot.state.passwordLength.toNat ≤ maxGcPasswordSize := by
  simp only [loadUnpackStateBin, fileStateBin, state, LoadM.bind_eq_ok, LoadM.liftReader_eq_ok, LoadM.pure_eq_ok,
    binUnpackInto_eq_ok, Reader.bind_eq_some, Reader.pure_eq_some]
  grind

theorem view_of_loadUnpackStateBin (h : loadUnpackStateBin slot bytes = .ok (slot', rest)) :
    slot'.view = slot.view := by
  simp only [loadUnpackStateBin, LoadM.bind_eq_ok] at h
  obtain ⟨_, _, -, _, _, -, _, _, -, _, _, -, _, _, -, _, _, -, rfl, -⟩ := h
  rfl

theorem loadUnpackTopicInfo_ok : (∃ slot', loadUnpackTopicInfo slot bytes = .ok (slot', rest)) ↔
    ∃ length, fileTopic bytes = some (length, rest) ∧ length.toNat ≤ maxGcTopicSize := by
  simp only [loadUnpackTopicInfo, fileTopic, LoadM.bind_eq_ok, LoadM.liftReader_eq_ok, LoadM.pure_eq_ok,
    binUnpackInto_eq_ok, Reader.bind_eq_some, Reader.pure_eq_some]
  grind

theorem length_of_readBinFixed {n : Nat} {data : Bytes} (h : readBinFixed n bytes = some (data, rest)) :
    data.length = n := by
  rw [readBinFixed, Reader.bind_eq_some] at h
  obtain ⟨size, bytes, -, h⟩ := h
  by_cases hsize : size ≠ n
  · rw [if_pos hsize] at h
    cases h
  rw [if_neg hsize, Msgpack.bytes] at h
  by_cases hlength : bytes.length < n
  · rw [if_pos hlength] at h
    cases h
  rw [if_neg hlength] at h
  cases h
  simp
  omega

theorem view_of_loadUnpackTopicInfo (h : loadUnpackTopicInfo slot bytes = .ok (slot', rest)) :
    ∃ topicLength ≤ maxGcTopicSize, slot'.view = { slot.view with topicLength } := by
  simp only [loadUnpackTopicInfo, LoadM.bind_eq_ok, binUnpackInto_eq_ok] at h
  obtain ⟨_, _, -, _, _, -, length, _, -, _, _, -, topic, _, ⟨htopic, hlength⟩, _, _, -, _, _, -, rfl, -⟩ := h
  rw [← length_of_readBinFixed htopic] at hlength
  exact ⟨_, hlength, rfl⟩

def AllocatesMods (env : LoadEnv) (numMods : UInt16) : Prop :=
  env.packedModList = true ∧ env.modList.array = true ∧ ∀ i < numMods.toNat, env.modList.entry i = true

theorem modListUnpack_eq {call : ModListCall} {moderation : Moderation} {data : Bytes} {n : UInt16}
    (hlength : data.length = n.toNat * sigPublicKeySize) (hzero : n ≠ 0) :
    call.modListUnpack moderation data n =
      if call.array = true ∧ ∀ i < n.toNat, call.entry i = true then
        (some (n.toNat * sigPublicKeySize),
          { moderation.modListCleanup with modList := modListEntries data n.toNat })
      else (none, moderation.modListCleanup) := by
  rw [ModListCall.modListUnpack, if_neg (by omega), if_neg hzero]
  cases call.array with
  | false => simp
  | true => cases hentries : (List.range n.toNat).all call.entry <;> simp_all

theorem allocated_eq_ok {outcome : Bool} {u : Unit} :
    allocated outcome bytes = .ok (u, rest) ↔ outcome = true ∧ rest = bytes := by
  cases outcome with
  | false => simp [allocated, LoadM.throw_eq_ok]
  | true => simp [allocated, LoadM.pure_eq_ok]

theorem min_numMods_ne_zero {n : UInt16} (hn : n ≠ 0) : min n (UInt16.ofNat modMaxNumModerators) ≠ 0 := by
  show (if n ≤ _ then n else _) ≠ 0
  split
  · exact hn
  · decide

theorem of_loadUnpackModList (h : loadUnpackModList env slot bytes = .ok (slot', rest)) :
    ∃ numMods, fileModList env.afterNil bytes = some (numMods, rest) ∧ (numMods = 0 ∨ AllocatesMods env numMods) ∧
      ∃ modList, numMods.toNat ≤ modList.length ∧ slot'.view = { slot.view with numMods, modList } := by
  simp only [loadUnpackModList, fileModList, LoadM.bind_eq_ok, LoadM.liftReader_eq_ok, Reader.bind_eq_some] at h ⊢
  obtain ⟨u, bytes1, harray, n, bytes2, hn, h⟩ := h
  by_cases hzero : n = 0
  · rw [if_pos hzero] at h
    cases h
    refine ⟨0, ⟨u, bytes1, harray, n, bytes2, hn, ?_⟩, .inl rfl, slot.group.chat.moderation.modList, Nat.zero_le _, ?_⟩
    · rw [if_pos hzero]
      rfl
    · rw [hzero]
      rfl
  simp only [if_neg hzero, LoadM.bind_eq_ok, LoadM.liftReader_eq_ok, allocated_eq_ok] at h
  obtain ⟨-, _, ⟨hmalloc, rfl⟩, data, bytes3, hdata, h⟩ := h
  rw [modListUnpack_eq (length_of_readBinFixed hdata) (min_numMods_ne_zero hzero)] at h
  by_cases hentries : env.modList.array = true ∧
      ∀ i < (min n (UInt16.ofNat modMaxNumModerators)).toNat, env.modList.entry i = true
  · rw [if_pos hentries] at h
    cases h
    refine ⟨_, ⟨u, bytes1, harray, n, _, hn, ?_⟩, .inr ⟨hmalloc, hentries⟩, _, ?_, rfl⟩
    · rw [if_neg hzero, Reader.bind_eq_some]
      exact ⟨data, _, hdata, rfl⟩
    · simp [modListEntries]
  · rw [if_neg hentries] at h
    cases h

theorem loadUnpackModList_of (slot : LoadSlot) {numMods : UInt16} (h : fileModList env.afterNil bytes = some (numMods, rest))
    (halloc : numMods = 0 ∨ AllocatesMods env numMods) :
    ∃ slot', loadUnpackModList env slot bytes = .ok (slot', rest) := by
  simp only [loadUnpackModList, fileModList, LoadM.bind_eq_ok, LoadM.liftReader_eq_ok, Reader.bind_eq_some] at h ⊢
  obtain ⟨u, bytes1, harray, n, bytes2, hn, h⟩ := h
  by_cases hzero : n = 0
  · rw [if_pos hzero] at h
    cases h
    refine ⟨{ slot with numMods := n }, u, bytes1, harray, n, bytes2, hn, ?_⟩
    rw [if_pos hzero]
    rfl
  rw [if_neg hzero, Reader.bind_eq_some] at h
  obtain ⟨data, _, hdata, h⟩ := h
  cases h
  obtain hnone | ⟨hmalloc, hentries⟩ := halloc
  · exact absurd hnone (min_numMods_ne_zero hzero)
  refine ⟨?slot', u, bytes1, harray, n, bytes2, hn, ?found⟩
  case found =>
    simp only [if_neg hzero, LoadM.bind_eq_ok, LoadM.liftReader_eq_ok, allocated_eq_ok]
    refine ⟨(), _, ⟨hmalloc, rfl⟩, data, rest, hdata, ?_⟩
    rw [modListUnpack_eq (length_of_readBinFixed hdata) (min_numMods_ne_zero hzero), if_pos hentries]
    rfl

theorem loadUnpackKeys_ok : (∃ slot', loadUnpackKeys slot bytes = .ok (slot', rest)) ↔
    fileKeys bytes = some ((), rest) := by
  simp only [loadUnpackKeys, Toxcore.loadUnpackKeys, fileKeys, LoadM.bind_eq_ok, LoadM.liftReader_eq_ok, LoadM.pure_eq_ok,
    Reader.bind_eq_some, Reader.pure_eq_some]
  grind

theorem view_of_loadUnpackKeys (h : loadUnpackKeys slot bytes = .ok (slot', rest)) :
    slot'.view = slot.view := by
  simp only [loadUnpackKeys, Toxcore.loadUnpackKeys, LoadM.bind_eq_ok, LoadM.liftReader_eq_ok, LoadM.pure_eq_ok,
    Reader.bind_eq_some, Reader.pure_eq_some] at h
  obtain ⟨group, _, ⟨_, _, -, _, _, -, _, _, -, _, _, -, _, _, -, rfl, -⟩, rfl, -⟩ := h
  rfl

theorem peerAdd_of_nil (env : ChatEnv) {chat : GCChat} (publicKey : PublicKey) (h : chat.group = []) :
    ∃ peer, chat.peerAdd env none publicKey = (.added 0, { chat with group := [peer] }) := by
  simp [GCChat.peerAdd, GCChat.getPeerNumberOfEncPk, GCChat.getNewPeerId, GCChat.getPeerNumberOfPeerId, h]

theorem of_loadUnpackSelfInfo (hpeers : slot.group.chat.group = [])
    (h : loadUnpackSelfInfo env slot bytes = .ok (slot', rest)) :
    fileSelf bytes = some ((), rest) ∧ env.peerAdd = true ∧ ∃ self,
      slot'.view = { slot.view with peers := [self] } ∧
        self.link.gconn.publicKey = slot'.group.chat.selfPublicKey := by
  obtain ⟨peer, hadd⟩ := peerAdd_of_nil env.toChatEnv slot.group.chat.selfPublicKey.enc hpeers
  simp only [loadUnpackSelfInfo, Toxcore.loadUnpackSelfInfo, fileSelf, LoadM.bind_eq_ok, LoadM.liftReader_eq_ok,
    LoadM.pure_eq_ok, allocated_eq_ok, Reader.bind_eq_some, hadd, Reader.pure_eq_some] at h ⊢
  obtain ⟨chat, bytes1, ⟨u, bytes2, harray, n, bytes3, hn, role, bytes4, hrole, status, bytes5, hstatus,
    nick, bytes6, hnick, rfl, rfl⟩, -, _, ⟨hmalloc, rfl⟩, rfl, rfl⟩ := h
  exact ⟨⟨u, bytes2, harray, n, bytes3, hn, role, bytes4, hrole, status, bytes5, hstatus, nick, _, hnick,
    trivial, rfl⟩, hmalloc, _, rfl, rfl⟩

theorem loadUnpackSelfInfo_of (hpeers : slot.group.chat.group = []) (h : fileSelf bytes = some ((), rest))
    (halloc : env.peerAdd = true) : ∃ slot', loadUnpackSelfInfo env slot bytes = .ok (slot', rest) := by
  obtain ⟨peer, hadd⟩ := peerAdd_of_nil env.toChatEnv slot.group.chat.selfPublicKey.enc hpeers
  simp only [loadUnpackSelfInfo, Toxcore.loadUnpackSelfInfo, fileSelf, LoadM.bind_eq_ok, LoadM.liftReader_eq_ok,
    LoadM.pure_eq_ok, allocated_eq_ok, Reader.bind_eq_some, hadd, Reader.pure_eq_some] at h ⊢
  grind

/-! ## Saved peers -/

theorem unpackGcSavedPeers_ok (left : Nat) (data : Bytes) :
    (∃ result, unpackGcSavedPeers left data = .ok result) ↔
      ∀ rest, skipSavedPeers left data = some rest → startsAddress rest = false := by
  induction left generalizing data with
  | zero =>
    cases data with
    | nil => simp [unpackGcSavedPeers, skipSavedPeers, startsAddress]
    | cons b data => cases h : startsAddress (b :: data) <;> simp [unpackGcSavedPeers, skipSavedPeers, h]
  | succ left ih =>
    cases data with
    | nil => simp [unpackGcSavedPeers, skipSavedPeers, unpackSavedPeer, unpackIpPort, unpackNodes, unpackNodesLoop]
    | cons b data =>
      simp only [unpackGcSavedPeers, skipSavedPeers]
      cases unpackSavedPeer (b :: data) with
      | none => simp
      | some p =>
        rw [Option.bind_some, ← ih]
        cases hload : unpackGcSavedPeers left p.2 <;> simp [bind, Except.bind, pure, Except.pure, hload]

theorem of_loadUnpackSavedPeers (h : loadUnpackSavedPeers env slot bytes = .ok (slot', rest)) :
    ∃ data, fileSavedPeers env.afterNil bytes = some (data, rest) ∧ SavedPeersFit data ∧
      (data = [] ∨ env.packedSavedPeers = true) ∧ ∃ savedPeers, slot' = { slot with savedPeers } := by
  simp only [loadUnpackSavedPeers, fileSavedPeers, LoadM.bind_eq_ok, LoadM.liftReader_eq_ok, Reader.bind_eq_some] at h ⊢
  obtain ⟨u, bytes1, harray, n, bytes2, hn, h⟩ := h
  by_cases hzero : n = 0
  · rw [if_pos hzero] at h
    cases h
    refine ⟨[], ⟨u, bytes1, harray, n, bytes2, hn, ?_⟩, ?_, .inl rfl, _, rfl⟩
    · rw [if_pos hzero]
      rfl
    · exact (unpackGcSavedPeers_ok _ []).mp ⟨_, rfl⟩
  simp only [if_neg hzero, LoadM.bind_eq_ok, LoadM.liftReader_eq_ok, LoadM.liftExcept_eq_ok, LoadM.pure_eq_ok,
    allocated_eq_ok] at h
  obtain ⟨-, _, ⟨hmalloc, rfl⟩, data, bytes3, hdata, p, _, ⟨hload, rfl⟩, rfl, rfl⟩ := h
  refine ⟨data, ⟨u, bytes1, harray, n, _, hn, ?_⟩, (unpackGcSavedPeers_ok _ _).mp ⟨p, hload⟩, .inr hmalloc, p.2, rfl⟩
  rw [if_neg hzero]
  exact hdata

theorem loadUnpackSavedPeers_of (slot : LoadSlot) {data : Bytes} (h : fileSavedPeers env.afterNil bytes = some (data, rest))
    (hfit : SavedPeersFit data) (halloc : data = [] ∨ env.packedSavedPeers = true) :
    ∃ slot', loadUnpackSavedPeers env slot bytes = .ok (slot', rest) := by
  simp only [loadUnpackSavedPeers, fileSavedPeers, LoadM.bind_eq_ok, LoadM.liftReader_eq_ok, Reader.bind_eq_some] at h ⊢
  obtain ⟨u, bytes1, harray, n, bytes2, hn, h⟩ := h
  by_cases hzero : n = 0
  · rw [if_pos hzero] at h
    cases h
    refine ⟨slot, u, bytes1, harray, n, bytes2, hn, ?_⟩
    rw [if_pos hzero]
    rfl
  rw [if_neg hzero] at h
  have hmalloc : env.packedSavedPeers = true := by
    refine halloc.resolve_left fun hnil => hzero ?_
    have hlength := length_of_readBinFixed h
    rw [hnil] at hlength
    exact UInt16.toNat_inj.mp hlength.symm
  obtain ⟨p, hload⟩ := (unpackGcSavedPeers_ok _ data).mpr hfit
  refine ⟨{ slot with savedPeers := p.2 }, u, bytes1, harray, n, bytes2, hn, ?_⟩
  simp only [if_neg hzero, LoadM.bind_eq_ok, LoadM.liftReader_eq_ok, LoadM.liftExcept_eq_ok, LoadM.pure_eq_ok,
    allocated_eq_ok]
  exact ⟨(), _, ⟨hmalloc, rfl⟩, data, rest, h, p, rest, ⟨hload, rfl⟩, rfl, rfl⟩

/-! ## All sections -/

structure Fits (env : LoadEnv) (state : FileState) (file : GroupFile) : Prop where
  name : state.groupNameLen.toNat ≤ maxGcGroupNameSize
  password : state.passwordLength.toNat ≤ maxGcPasswordSize
  topic : file.topicLength.toNat ≤ maxGcTopicSize
  mods : file.numMods = 0 ∨ AllocatesMods env file.numMods
  self : env.peerAdd = true
  peers : file.savedPeers = [] ∨ env.packedSavedPeers = true
  savedPeers : SavedPeersFit file.savedPeers

theorem loadSections_cons_eq_none {load : LoadSlot → LoadM LoadSlot} {sections : List (LoadSlot → LoadM LoadSlot)} :
    loadSections (load :: sections) slot bytes = (slot', none) ↔
      ∃ next rest, load slot bytes = .ok (next, rest) ∧ loadSections sections next rest = (slot', none) := by
  rw [loadSections]
  cases load slot bytes with
  | error stop => simp
  | ok p => simp [Prod.ext_iff]

theorem of_laterSections (hpeers : slot.group.chat.group = [])
    (h : loadSections (laterSections env) slot bytes = (slot', none)) :
    (∃ file rest, groupFile env.afterNil slot.state bytes = some (file, rest) ∧ Fits env slot.state file) ∧
      ∃ topicLength numMods modList self, topicLength ≤ maxGcTopicSize ∧ numMods.toNat ≤ modList.length ∧
        self.link.gconn.publicKey = slot'.group.chat.selfPublicKey ∧
        slot'.view = { slot.view with topicLength, numMods, modList, peers := [self] } := by
  simp only [laterSections, loadSections_cons_eq_none] at h
  obtain ⟨s1, r1, h1, s2, r2, h2, s3, r3, h3, s4, r4, h4, s5, r5, h5, s6, r6, h6, hslot⟩ := h
  cases hslot
  obtain ⟨hbin, hname, hpassword⟩ := loadUnpackStateBin_ok.mp ⟨s1, h1⟩
  obtain ⟨length, htopic, hlength⟩ := loadUnpackTopicInfo_ok.mp ⟨s2, h2⟩
  obtain ⟨topicLength, htopicLength, hview2⟩ := view_of_loadUnpackTopicInfo h2
  obtain ⟨numMods, hmods, halloc, modList, hmodList, hview3⟩ := of_loadUnpackModList h3
  have hview4 := view_of_loadUnpackKeys h4
  rw [hview3, hview2, view_of_loadUnpackStateBin h1] at hview4
  obtain ⟨hself, hadd, self, hview5, hkey⟩ := of_loadUnpackSelfInfo ((congrArg View.peers hview4).trans hpeers) h5
  obtain ⟨data, hdata, hfit, hpacked, savedPeers, rfl⟩ := of_loadUnpackSavedPeers h6
  rw [hview4] at hview5
  refine ⟨⟨⟨length, numMods, data⟩, r6, ?_, hname, hpassword, hlength, halloc, hadd, hpacked, hfit⟩,
    topicLength, numMods, modList, self, htopicLength, hmodList, hkey, hview5⟩
  simp only [groupFile, Reader.bind_eq_some, Reader.pure_eq_some]
  exact ⟨(), r1, hbin, length, r2, htopic, numMods, r3, hmods, (), r4, loadUnpackKeys_ok.mp ⟨s4, h4⟩, (), r5, hself,
    data, r6, hdata, rfl, rfl⟩

theorem laterSections_of {file : GroupFile} (hpeers : slot.group.chat.group = [])
    (hfile : groupFile env.afterNil slot.state bytes = some (file, rest)) (h : Fits env slot.state file) :
    ∃ slot', loadSections (laterSections env) slot bytes = (slot', none) := by
  simp only [groupFile, Reader.bind_eq_some] at hfile
  obtain ⟨u, r1, hbin, length, r2, htopic, numMods, r3, hmods, v, r4, hkeys, w, r5, hself, data, r6, hdata, rfl, rfl⟩ :=
    hfile
  obtain ⟨s1, h1⟩ := loadUnpackStateBin_ok.mpr ⟨hbin, h.name, h.password⟩
  obtain ⟨s2, h2⟩ := (@loadUnpackTopicInfo_ok s1 _ _).mpr ⟨length, htopic, h.topic⟩
  obtain ⟨s3, h3⟩ := loadUnpackModList_of s2 hmods h.mods
  obtain ⟨s4, h4⟩ := (@loadUnpackKeys_ok s3 _ _).mpr hkeys
  obtain ⟨topicLength, _, hview2⟩ := view_of_loadUnpackTopicInfo h2
  obtain ⟨_, _, _, modList, _, hview3⟩ := of_loadUnpackModList h3
  have hview4 := view_of_loadUnpackKeys h4
  rw [hview3, hview2, view_of_loadUnpackStateBin h1] at hview4
  obtain ⟨s5, h5⟩ := loadUnpackSelfInfo_of ((congrArg View.peers hview4).trans hpeers) hself h.self
  obtain ⟨s6, h6⟩ := loadUnpackSavedPeers_of s5 hdata h.savedPeers h.peers
  simp only [laterSections, loadSections_cons_eq_none]
  exact ⟨s6, s1, r1, h1, s2, r2, h2, s3, r3, h3, s4, r4, h4, s5, r5, h5, s6, rest, h6, rfl⟩

theorem connectionState_laterSections (env : LoadEnv) (slot : LoadSlot) (bytes : Bytes) :
    (loadSections (laterSections env) slot bytes).1.group.chat.connectionState = slot.group.chat.connectionState := by
  have hrun (sections : List (LoadSlot → LoadM LoadSlot))
      (h : ∀ load ∈ sections, ∀ slot bytes slot' rest, load slot bytes = .ok (slot', rest) →
        slot'.group.chat.connectionState = slot.group.chat.connectionState) :
      (loadSections sections slot bytes).1.group.chat.connectionState = slot.group.chat.connectionState := by
    induction sections generalizing slot bytes with
    | nil => rfl
    | cons load sections ih =>
      rw [loadSections]
      cases hload : load slot bytes with
      | error stop => rfl
      | ok p =>
        exact (ih _ _ fun other hother => h other (mem_cons_of_mem _ hother)).trans
          (h load mem_cons_self slot bytes p.1 p.2 hload)
  apply hrun
  simp only [laterSections, mem_cons, not_mem_nil, or_false]
  rintro load (rfl | rfl | rfl | rfl | rfl | rfl) slot bytes slot' rest h
  · exact congrArg View.connectionState (view_of_loadUnpackStateBin h)
  · obtain ⟨_, _, hview⟩ := view_of_loadUnpackTopicInfo h
    exact congrArg View.connectionState hview
  · obtain ⟨_, _, _, _, _, hview⟩ := of_loadUnpackModList h
    exact congrArg View.connectionState hview
  · exact congrArg View.connectionState (view_of_loadUnpackKeys h)
  · simp only [loadUnpackSelfInfo, Toxcore.loadUnpackSelfInfo, LoadM.bind_eq_ok, LoadM.liftReader_eq_ok,
      LoadM.pure_eq_ok, Reader.bind_eq_some] at h
    obtain ⟨chat, _, ⟨_, _, _, _, _, _, _, _, _, _, _, _, _, _, _, h⟩, _, _, _, rfl, _⟩ := h
    have hadd := GCSlot.connectionState_peerAdd slot.group.chat env.toChatEnv slot.group.chat.selfPublicKey.enc
    generalize slot.group.chat.peerAdd env.toChatEnv none slot.group.chat.selfPublicKey.enc = p at h hadd
    obtain ⟨_ | _ | _ | n, chat'⟩ := p <;> cases h
    exact hadd
  · obtain ⟨_, _, _, _, _, rfl⟩ := of_loadUnpackSavedPeers h
    rfl

/-! ## The first section -/

theorem fileState_eq_some {state : FileState} (h : fileState bytes = some (state, rest)) (slot : LoadSlot) :
    ∃ u bytes1 slot', binUnpackArrayFixed 7 bytes = some (u, bytes1) ∧
      loadUnpackStateValues slot bytes1 = .ok (slot', rest) ∧ slot'.state = state ∧
        slot'.group.chat.group = slot.group.chat.group ∧ slot'.group.chat.connectionState ≠ .none := by
  simp only [Toxcore.fileState, Reader.bind_eq_some] at h
  simp only [loadUnpackStateValues, Toxcore.loadUnpackStateValues, LoadM.bind_eq_ok, LoadM.liftReader_eq_ok,
    LoadM.pure_eq_ok, Reader.bind_eq_some, Reader.pure_eq_some]
  obtain ⟨u, r1, h1, v, r2, h2, off, r3, h3, a, r4, h4, b, r5, h5, c, r6, h6, d, r7, h7, e, r8, h8, f, r9, h9, g,
    r10, h10, rfl, rfl⟩ := h
  refine ⟨u, r1, _, h1, ⟨_, rest, ⟨v, r2, h2, off, r3, h3, a, r4, h4, b, r5, h5, c, r6, h6, d, r7, h7, e, r8, h8, f, r9,
    h9, g, rest, h10, rfl, rfl⟩, rfl, rfl⟩, rfl, rfl, ?_⟩
  cases off <;> exact nofun

theorem gcLoadUnpackGroup_of_none (h : fileState bytes = none) :
    slot.gcLoadUnpackGroup env bytes = (slot, some .failed) := by
  rw [gcLoadUnpackGroup]
  cases harray : binUnpackArrayFixed 7 bytes with
  | none => rfl
  | some p =>
    have hload : loadUnpackStateValues slot p.2 = .error .failed := by
      cases hread : Toxcore.loadUnpackStateValues slot.group.chat p.2 with
      | none =>
        simp [loadUnpackStateValues, bind, StateT.bind, liftM, monadLift, MonadLift.monadLift, hread, Except.bind]
      | some q =>
        -- what the loader reads, `fileState` reads as well
        obtain ⟨chat, rest⟩ := q
        have hsome : ∃ state, fileState bytes = some (state, rest) := by
          simp only [Toxcore.loadUnpackStateValues, Toxcore.fileState, Reader.bind_eq_some,
            Reader.pure_eq_some] at hread ⊢
          grind
        rw [h] at hsome
        exact nomatch hsome
    simp only [loadSections, hload]

theorem gcLoadUnpackGroup_of_some (env : LoadEnv) (slot : LoadSlot) {state : FileState} (h : fileState bytes = some (state, rest)) :
    ∃ next : LoadSlot, next.state = state ∧ next.group.chat.group = slot.group.chat.group ∧
      next.group.chat.connectionState ≠ .none ∧
        slot.gcLoadUnpackGroup env bytes = loadSections (laterSections env) next rest := by
  obtain ⟨u, bytes1, next, harray, hload, hstate, hpeers, hlive⟩ := fileState_eq_some h slot
  refine ⟨next, hstate, hpeers, hlive, ?_⟩
  simp only [gcLoadUnpackGroup, harray, loadSections, hload]

structure Loaded (slot : LoadSlot) : Prop where
  name : slot.state.groupNameLen.toNat ≤ maxGcGroupNameSize
  password : slot.state.passwordLength.toNat ≤ maxGcPasswordSize
  topic : slot.group.chat.topicInfo.topic.length ≤ maxGcTopicSize
  mods : slot.numMods.toNat ≤ slot.group.chat.moderation.modList.length
  savedPeers : slot.savedPeers.1.length ≤ gcMaxSavedPeers
  /-- `GI_PUBLIC` or `GI_PRIVATE` -/
  privacy : slot.state.privacyState.toNat < 2
  /-- `GV_ALL`, `GV_MODS` or `GV_FOUNDER` -/
  voice : slot.state.voiceState.toNat < 3
  self : ∃ self, slot.group.chat.group[0]? = some self ∧ self.link.gconn.publicKey = slot.group.chat.selfPublicKey

end LoadSlot

/-! ## The session -/

def liveGroups (chats : List LoadSlot) : Nat := chats.countP (·.group.chat.connectionState != .none)

/-- No copy is too long, a returned group is as it must be, and `-1` leaves no more live groups. -/
def LoadSafe (chats : List LoadSlot) : GroupLoad → Prop
  | .overrun => False
  | .returned none chats' => liveGroups chats' ≤ liveGroups chats
  | .returned (some groupNumber) chats' => ∃ slot, chats'[groupNumber]? = some slot ∧ slot.Loaded

variable {env : LoadEnv} {chats chats' : List LoadSlot} {groupNumber : Nat}

def NoSlot (env : LoadEnv) (chats : List LoadSlot) : Prop :=
  env.reallocGroupchats = false ∧ ∀ slot ∈ chats, slot.group.chat.connectionState ≠ .none

theorem getNewGroupIndex_eq_none : getNewGroupIndex env chats = none ↔ NoSlot env chats := by
  rw [getNewGroupIndex, NoSlot]
  cases hfind : chats.findIdx? (·.group.chat.connectionState == .none) with
  | some i =>
    obtain ⟨hi, hfree, -⟩ := findIdx?_eq_some_iff_getElem.mp hfind
    simp only [reduceCtorEq, false_iff, not_and]
    exact fun _ hall => hall _ (getElem_mem hi) (by simpa using hfree)
  | none =>
    have hall := findIdx?_eq_none_iff.mp hfind
    cases hrealloc : env.reallocGroupchats with
    | false => simpa using hall
    | true => simp

theorem of_getNewGroupIndex (h : getNewGroupIndex env chats = some (groupNumber, chats')) :
    liveGroups chats' = liveGroups chats ∧ ∃ slot, chats'[groupNumber]? = some slot ∧
      slot.group.chat.connectionState = .none := by
  rw [getNewGroupIndex] at h
  cases hfind : chats.findIdx? (·.group.chat.connectionState == .none) with
  | some i =>
    rw [hfind] at h
    cases h
    obtain ⟨hi, hfree, -⟩ := findIdx?_eq_some_iff_getElem.mp hfind
    exact ⟨rfl, _, getElem?_eq_getElem hi, by simpa using hfree⟩
  | none =>
    simp only [hfind] at h
    split at h
    · cases h
      exact ⟨by simp [liveGroups, emptyLoadSlot, emptyGroup, emptyGcChat], _, getElem?_concat_length, rfl⟩
    · cases h

theorem liveGroups_set {slot slot' : LoadSlot} (h : chats[groupNumber]? = some slot)
    (hfree : slot.group.chat.connectionState = .none) :
    liveGroups (chats.set groupNumber slot') =
      liveGroups chats + if slot'.group.chat.connectionState = .none then 0 else 1 := by
  obtain ⟨hi, rfl⟩ := List.getElem?_eq_some_iff.mp h
  rw [liveGroups, countP_set hi]
  by_cases hlive : slot'.group.chat.connectionState = .none <;> simp [liveGroups, hfree, hlive]

/-- Loading is safe exactly when there is no slot, the state values cannot be read, or the whole file is right. -/
theorem gcGroupLoad_loadSafe_iff (env : LoadEnv) (chats : List LoadSlot) (bytes : Bytes) :
    LoadSafe chats (gcGroupLoad env chats bytes) ↔ NoSlot env chats ∨ fileState bytes = none ∨
      ∃ state rest file rest', fileState bytes = some (state, rest) ∧
        groupFile env.afterNil state rest = some (file, rest') ∧ LoadSlot.Fits env state file ∧
          state.privacyState.toNat < 2 ∧ state.voiceState.toNat < 3 ∧ env.newTcpConnections = true := by
  rw [gcGroupLoad, ← getNewGroupIndex_eq_none]
  cases hindex : getNewGroupIndex env chats with
  | none => simp [LoadSafe]
  | some p =>
    obtain ⟨groupNumber, chats'⟩ := p
    obtain ⟨hlive, slot, hslot, hfree⟩ := of_getNewGroupIndex hindex
    simp only [reduceCtorEq, false_or]
    have hget : chats'.getD groupNumber (emptyLoadSlot env) = slot := by simp [hslot]
    have hlt : groupNumber < chats'.length := (List.getElem?_eq_some_iff.mp hslot).1
    simp only [hget]
    cases hstate : fileState bytes with
    | none =>
      rw [LoadSlot.gcLoadUnpackGroup_of_none hstate]
      simp [LoadSafe, liveGroups_set hslot hfree, hlive, LoadSlot.prepared, hfree]
    | some q =>
      obtain ⟨state, rest⟩ := q
      obtain ⟨next, hnext, hpeers, hconn, hload⟩ :=
        LoadSlot.gcLoadUnpackGroup_of_some env (slot.prepared env) hstate
      have hkeeps := LoadSlot.connectionState_laterSections env next rest
      simp only [hload]
      generalize hlater : LoadSlot.loadSections (LoadSlot.laterSections env) next rest = outcome at hkeeps ⊢
      subst hnext
      obtain ⟨last, result⟩ := outcome
      have hlastLive : last.group.chat.connectionState ≠ .none := fun hnone => hconn (hkeeps.symm.trans hnone)
      obtain _ | stop := result
      · obtain ⟨⟨file, rest', hfile, hfits⟩, topicLength, numMods, modList, self, htopic, hmods, hself, hview⟩ :=
          LoadSlot.of_laterSections hpeers hlater
        have hlast : last.state = next.state := congrArg LoadSlot.View.state hview
        constructor
        · intro hsafe
          cases htcp : env.newTcpConnections with
          | false =>
            -- the slot is live already
            simp only [htcp, Bool.false_eq_true, if_false, LoadSafe, liveGroups_set hslot hfree, hlive] at hsafe
            rw [if_neg (show (initGcModeration last.group).chat.connectionState ≠ .none from hlastLive)] at hsafe
            omega
          | true =>
            simp only [htcp, if_true, LoadSafe, getElem?_set_self hlt] at hsafe
            obtain ⟨_, heq, hloaded⟩ := hsafe
            cases heq
            have hprivacy : last.state.privacyState.toNat < 2 := hloaded.privacy
            have hvoice : last.state.voiceState.toNat < 3 := hloaded.voice
            rw [hlast] at hprivacy hvoice
            exact .inr ⟨_, _, file, rest', rfl, hfile, hfits, hprivacy, hvoice, rfl⟩
        · rintro (hnone | ⟨_, _, -, -, hsome, -, -, hprivacy, hvoice, htcp⟩)
          · cases hnone
          cases hsome
          rw [← hlast] at hprivacy hvoice
          have hname := hfits.name
          have hpassword := hfits.password
          rw [← hlast] at hname hpassword
          simp only [htcp, if_true, LoadSafe, getElem?_set_self hlt]
          refine ⟨_, rfl, hname, hpassword, ?_, ?_, last.savedPeers.2, hprivacy, hvoice, self, ?_, hself.trans rfl⟩
          · exact (congrArg LoadSlot.View.topicLength hview).trans_le htopic
          · exact (congrArg (fun v => v.numMods.toNat) hview).trans_le
              (hmods.trans_eq (congrArg (fun v => v.modList.length) hview).symm)
          · exact congrArg (fun v => v.peers[0]?) hview
      · have hnot : ¬∃ file rest', groupFile env.afterNil next.state rest = some (file, rest') ∧
            LoadSlot.Fits env next.state file := by
          rintro ⟨file, rest', hfile, hfits⟩
          obtain ⟨slot', hslot'⟩ := LoadSlot.laterSections_of hpeers hfile hfits
          rw [hlater] at hslot'
          cases hslot'
        refine iff_of_false ?_ ?_
        · cases stop with
          | overrun => exact id
          | failed =>
            simp only [LoadSafe, liveGroups_set hslot hfree]
            rw [if_neg hlastLive]
            omega
        · rintro (hnone | ⟨_, _, file, rest', hsome, hfile, hfits, -⟩)
          · cases hnone
          cases hsome
          exact hnot ⟨file, rest', hfile, hfits⟩

def calmLoadEnv : LoadEnv where
  now := 0
  nonce := 0
  sendOk := true
  random := 0
  keypair := (Vector.replicate _ 0, Vector.replicate _ 0)
  reallocGroupchats := true
  packedModList := true
  modList := { array := true, entry := fun _ => true }
  peerAdd := true
  packedSavedPeers := true
  newTcpConnections := true
  afterNil := id

def truncatedFile : Bytes := [0x97, 0x98, 0xc3, 0, 0, 0, 0, 0, 0, 0]

/-- The load of the truncated file fails and leaves a live group in the empty session. -/
theorem not_loadSafe_truncated :
    ¬∀ (env : LoadEnv) (chats : List LoadSlot) (bytes : Bytes), LoadSafe chats (gcGroupLoad env chats bytes) := by
  intro h
  have htruncated : liveGroups _ ≤ liveGroups _ := h calmLoadEnv [] truncatedFile
  revert htruncated
  decide

end Toxcore

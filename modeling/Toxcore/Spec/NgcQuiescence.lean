import Toxcore.Spec.NgcFrame
import Toxcore.Spec.NgcSanctionsSync
import Mathlib.Algebra.BigOperators.Group.List.Basic

/-!
# Members with the same state stay quiet

A ping holds two cached checksums, of the confirmed peers and of their roles. The peers are summed up again
whenever one is confirmed or deleted, the roles by `update_gc_peer_roles`, which `peer_delete` does not call:
when a confirmed peer leaves, the checksum still counts it.
-/

namespace Toxcore

open List

namespace GCChat

variable {crypto : SignCrypto} {chat chat' : GCChat}

/-! ## The checksums -/

/-- The role that `update_gc_peer_roles` gives to the owner of a key. -/
def roleOf (chat : GCChat) (key : ExtPublicKey) : GroupRole :=
  if chat.sharedState.founderPublicKey.enc == key.enc then .founder
  else if !(chat.moderation.modListVerifySigPk key.sig ||
      chat.moderation.sanctionsListIsObserver key.enc) then .user
  else if chat.moderation.modListVerifySigPk key.sig then .moderator
  else .observer

theorem peerRole_eq_roleOf (peer : GCPeer) :
    chat.peerRole peer = chat.roleOf peer.link.gconn.publicKey := by
  rw [peerRole, roleOf, peerIsModerator, peerIsFounder]
  split
  · rfl
  · rfl

def peersSum (chat : GCChat) : UInt16 :=
  (chat.confirmedKeys.map fun key => (gcGetPkJenkinsHash key.enc).toUInt16).sum

/-- The sum of the roles of the confirmed peers and of the first bytes of their keys. -/
def rolesSum (chat : GCChat) : UInt16 :=
  (chat.confirmedKeys.map fun key =>
    (chat.roleOf key).value + (key.enc.toList.getD 0 0).toUInt16).sum

theorem confirmedKeys_eq :
    chat.confirmedKeys = (chat.group.filter (·.link.gconn.confirmed)).map (·.link.gconn.publicKey) := by
  rw [confirmedKeys, roster, filter_map, map_map]
  rfl

theorem peersChecksum_setGcPeerlistChecksum :
    chat.setGcPeerlistChecksum.peersChecksum = chat.setGcPeerlistChecksum.peersSum := by
  rw [peersSum, confirmedKeys_eq, map_map]
  rfl

structure SameRoleData (chat chat' : GCChat) : Prop where
  founder : chat'.sharedState.founderPublicKey = chat.sharedState.founderPublicKey
  moderators : chat.moderation.SameModerators chat'.moderation
  sanctions : chat'.moderation.sanctions = chat.moderation.sanctions

theorem SameRoleData.roleOf (h : SameRoleData chat chat') : chat'.roleOf = chat.roleOf := by
  funext key
  rw [GCChat.roleOf, GCChat.roleOf, h.founder, h.moderators.modListVerifySigPk,
    Moderation.sanctionsListIsObserver, Moderation.sanctionsListIsObserver, h.sanctions]

theorem peersSum_of_perm (h : chat'.confirmedKeys.Perm chat.confirmedKeys) :
    chat'.peersSum = chat.peersSum :=
  (h.map _).sum_eq

theorem rolesSum_of_perm (h : chat'.confirmedKeys.Perm chat.confirmedKeys)
    (hdata : SameRoleData chat chat') : chat'.rolesSum = chat.rolesSum := by
  rw [rolesSum, hdata.roleOf]
  exact (h.map _).sum_eq

/-! ## `update_gc_peer_roles` -/

theorem roster_updateGcPeerRoles : chat.updateGcPeerRoles.roster = chat.roster := by
  have hmap : (chat.group.map fun peer =>
      if peer.link.gconn.confirmed then { peer with role := chat.peerRole peer } else peer).map
        (fun peer => (peer.link.gconn.publicKey, peer.link.gconn.confirmed)) =
      chat.roster := by
    rw [map_map]
    apply map_congr_left
    intro peer _
    show (fun (peer : GCPeer) => (peer.link.gconn.publicKey, peer.link.gconn.confirmed))
      (if peer.link.gconn.confirmed then { peer with role := chat.peerRole peer } else peer) = _
    split <;> rfl
  rw [updateGcPeerRoles]
  split
  · exact hmap
  · exact hmap

theorem sameRoleData_updateGcPeerRoles (chat : GCChat) :
    SameRoleData chat chat.updateGcPeerRoles := by
  rw [updateGcPeerRoles]
  split
  · exact ⟨rfl, ⟨rfl, rfl⟩, rfl⟩
  · exact ⟨rfl, ⟨rfl, rfl⟩, rfl⟩

theorem rolesChecksum_updateGcPeerRoles :
    chat.updateGcPeerRoles.rolesChecksum = chat.updateGcPeerRoles.rolesSum := by
  have hkeys : chat.updateGcPeerRoles.confirmedKeys = chat.confirmedKeys := by
    rw [confirmedKeys, roster_updateGcPeerRoles, confirmedKeys]
  rw [rolesSum, hkeys, (sameRoleData_updateGcPeerRoles chat).roleOf, confirmedKeys_eq, map_map]
  have hsum : (chat.group.filter (·.link.gconn.confirmed)).map
        (fun peer => (chat.peerRole peer).value + firstByte peer) =
      (chat.group.filter (·.link.gconn.confirmed)).map
        ((fun key : ExtPublicKey => (chat.roleOf key).value + (key.enc.toList.getD 0 0).toUInt16) ∘
          fun peer => peer.link.gconn.publicKey) := by
    apply map_congr_left
    intro peer _
    rw [peerRole_eq_roleOf]
    rfl
  rw [← hsum, updateGcPeerRoles]
  split <;> rfl

theorem peersChecksum_updateGcPeerRoles :
    chat.updateGcPeerRoles.peersChecksum = chat.peersChecksum := by
  rw [updateGcPeerRoles]
  split <;> rfl

theorem selfPublicKey_updateGcPeerRoles :
    chat.updateGcPeerRoles.selfPublicKey = chat.selfPublicKey := by
  rw [updateGcPeerRoles]
  split <;> rfl

/-! ## Steps of a member -/

inductive GroupStep where
  /-- `peer_add` -/
  | join (env : ChatEnv) (ipPort : Option IPPort) (publicKey : PublicKey)
  /-- A handshake packet sets the signature key of a peer. -/
  | handshake (peerNumber : Nat) (link : PeerLink)
  /-- `handle_gc_peer_info_response` -/
  | peerInfo (peerNumber : Nat) (data : Bytes)
  /-- `peer_delete` -/
  | depart (peerNumber : Nat)
  /-- `handle_gc_shared_state` -/
  | sharedState (env : ChatEnv) (peerNumber : Nat) (data : Bytes)
  /-- `handle_gc_mod_list` -/
  | modList (env : ChatEnv) (data : Bytes)
  /-- `handle_gc_sanctions_list` -/
  | sanctionsList (env : ChatEnv) (stackCreds : ModSanctionCreds) (data : Bytes)
  /-- `handle_gc_set_mod` -/
  | setMod (peerNumber : Nat) (data : Bytes)
  /-- `handle_gc_set_observer` -/
  | setObserver (stackCreds : ModSanctionCreds) (peerNumber : Nat) (data : Bytes)
  | setPeerRole (changed : GCChat)
  /-- Everything else. -/
  | other (changed : GCChat)

def applyStep (crypto : SignCrypto) (chat : GCChat) : GroupStep → GCChat
  | .join env ipPort publicKey => (chat.peerAdd env ipPort publicKey).2
  | .handshake peerNumber link => chat.modifyLink peerNumber fun _ => link
  | .peerInfo peerNumber data => (chat.handleGcPeerInfoResponse peerNumber data).2
  | .depart peerNumber => (chat.peerDelete peerNumber).2
  | .sharedState env peerNumber data => (chat.handleGcSharedState crypto env peerNumber data).2
  | .modList env data => (chat.handleGcModList crypto env data).2
  | .sanctionsList env stackCreds data => (chat.handleGcSanctionsList crypto env stackCreds data).2
  | .setMod peerNumber data => (chat.handleGcSetMod peerNumber data).2
  | .setObserver stackCreds peerNumber data =>
    (chat.handleGcSetObserver crypto stackCreds peerNumber data).2
  | .setPeerRole changed => changed.updateGcPeerRoles
  | .other changed => changed

structure SameGroup (chat chat' : GCChat) : Prop where
  roster : chat'.roster = chat.roster
  selfPublicKey : chat'.selfPublicKey = chat.selfPublicKey
  peersChecksum : chat'.peersChecksum = chat.peersChecksum
  founder : chat'.sharedState.founderPublicKey = chat.sharedState.founderPublicKey
  founderSig : chat'.moderation.founderPublicSigKey = chat.moderation.founderPublicSigKey

/-- When a step is possible.  A member never deletes itself, and a group keeps its founder. -/
def Enabled (crypto : SignCrypto) (chat : GCChat) : GroupStep → Prop
  | .handshake peerNumber link => 0 < peerNumber ∧ ∀ peer, chat.group[peerNumber]? = some peer →
      link.gconn.publicKey.enc = peer.link.gconn.publicKey.enc ∧
      link.gconn.confirmed = peer.link.gconn.confirmed
  | .depart peerNumber => 0 < peerNumber
  | .sharedState env peerNumber data => 0 < chat.sharedState.version →
      (chat.handleGcSharedState crypto env peerNumber data).2.sharedState.founderPublicKey =
        chat.sharedState.founderPublicKey
  | .setPeerRole changed => SameGroup chat changed
  | .other changed => SameGroup chat changed ∧ SameRoleData chat changed ∧
      changed.rolesChecksum = chat.rolesChecksum
  | _ => True

structure Starts (chat : GCChat) : Prop where
  roster : chat.roster = [(chat.selfPublicKey, true)]
  founderSig : chat.moderation.founderPublicSigKey = chat.sharedState.founderPublicKey.sig

inductive Member (crypto : SignCrypto) : GCChat → Prop where
  | start {chat : GCChat} : Starts chat → Member crypto chat
  | step {chat : GCChat} {step : GroupStep} :
    Member crypto chat → Enabled crypto chat step → Member crypto (chat.applyStep crypto step)

def TakesSanctionsList (crypto : SignCrypto) (chat : GCChat) (stackCreds : ModSanctionCreds)
    (data : Bytes) : Prop :=
  2 ≤ data.length ∧ (netUnpackU16 data).toNat ≤ modMaxNumSanctions ∧
  ∃ sanctions creds rest,
    sanctionsListUnpack stackCreds (netUnpackU16 data) (data.drop 2) = some (sanctions, creds, rest) ∧
    sanctions.length = (netUnpackU16 data).toNat ∧
    chat.moderation.sanctionsListCheckIntegrity crypto creds sanctions ∧
    ¬creds.version < chat.moderation.sanctionsCreds.version ∧
    ¬(creds.version = chat.moderation.sanctionsCreds.version ∧
      creds.checksum ≤ chat.moderation.sanctionsCreds.checksum)

def UpdatesRoles (crypto : SignCrypto) (chat : GCChat) : GroupStep → Prop
  | .peerInfo peerNumber data => (chat.handleGcPeerInfoResponse peerNumber data).1 = true
  | .modList _ data => 2 ≤ data.length ∧ chat.selfGcIsFounder = false ∧
      (chat.validateUnpackModList crypto (data.drop 2) (netUnpackU16 data)).1 = .valid
  | .sanctionsList _ stackCreds data => TakesSanctionsList crypto chat stackCreds data
  | .setMod peerNumber data => 1 + sigPublicKeySize ≤ data.length ∧
      (∃ setter, chat.group[peerNumber]? = some setter ∧ setter.role = .founder) ∧
      (chat.validateUnpackGcSetMod data (netUnpackBool data)).1.isSome = true
  | .setObserver stackCreds peerNumber data =>
      1 + cryptoPublicKeySize + sigPublicKeySize < data.length ∧
      (∃ setter, chat.group[peerNumber]? = some setter ∧ ¬setter.role.value > GroupRole.moderator.value) ∧
      chat.getPeerNumberOfEncPk (bytesToVector _ (data.drop 1)) false ≠ some peerNumber ∧
      ((chat.getPeerNumberOfEncPk (bytesToVector _ (data.drop 1)) false).bind
        (chat.group[·]?)).any (fun peer =>
          peer.role != (if netUnpackBool data then .user else .observer)) = false ∧
      (chat.validateUnpackObserverEntry crypto stackCreds
        (data.drop (1 + cryptoPublicKeySize + sigPublicKeySize)) (bytesToVector _ (data.drop 1))
        (netUnpackBool data)).1 = .changed
  | .setPeerRole _ => True
  | _ => False

/-- A confirmed peer leaves or gets another signature key, or the founder changes. -/
def Disturbs (crypto : SignCrypto) (chat : GCChat) : GroupStep → Prop
  | .handshake peerNumber link => ∃ peer, chat.group[peerNumber]? = some peer ∧
      peer.link.gconn.confirmed = true ∧ link.gconn.publicKey ≠ peer.link.gconn.publicKey
  | .depart peerNumber => ∃ peer, chat.group[peerNumber]? = some peer ∧ peer.link.gconn.confirmed = true
  | .sharedState env peerNumber data =>
      (chat.handleGcSharedState crypto env peerNumber data).2.sharedState.founderPublicKey ≠
        chat.sharedState.founderPublicKey
  | _ => False

/-- The members whose steps since the last call of `update_gc_peer_roles` did not disturb the
    roles. -/
inductive Settled (crypto : SignCrypto) : GCChat → Prop where
  | start {chat : GCChat} : Starts chat → Settled crypto chat
  | updated {chat : GCChat} {step : GroupStep} : Member crypto chat → Enabled crypto chat step →
    UpdatesRoles crypto chat step → Settled crypto (chat.applyStep crypto step)
  | quiet {chat : GCChat} {step : GroupStep} : Settled crypto chat → Enabled crypto chat step →
    ¬Disturbs crypto chat step → Settled crypto (chat.applyStep crypto step)

/-! ## What the handlers keep -/

structure Quiet (chat chat' : GCChat) : Prop extends SameGroup chat chat', SameRoleData chat chat' where
  rolesChecksum : chat'.rolesChecksum = chat.rolesChecksum

theorem Quiet.refl (chat : GCChat) : Quiet chat chat :=
  ⟨⟨rfl, rfl, rfl, rfl, rfl⟩, ⟨rfl, rfl⟩, rfl, rfl⟩

theorem quiet_sendOn (chat : GCChat) (peerNumber : Nat) {f : PeerLink → Bool × PeerLink}
    (h : ∀ link, (f link).2.gconn.core = link.gconn.core) :
    Quiet chat (chat.sendOn peerNumber f).2 := by
  have hroster := roster_sendOn chat peerNumber h
  rw [sendOn] at hroster ⊢
  split
  · exact .refl chat
  · rename_i peer hpeer
    rw [hpeer] at hroster
    exact ⟨⟨hroster, rfl, rfl, rfl, rfl⟩, ⟨rfl, rfl⟩, rfl, rfl⟩

theorem quiet_sendGcRandomSyncRequest (chat : GCChat) (env : ChatEnv) (syncFlags : UInt16) :
    Quiet chat (chat.sendGcRandomSyncRequest env syncFlags).2 := by
  rw [sendGcRandomSyncRequest]
  split
  · exact .refl chat
  · rw [sendGcSyncRequest]
    split
    · exact .refl chat
    · rename_i peerNumber _ _
      obtain ⟨⟨hroster, hself, hpeers, hfounder, hsig⟩, hmods, hsanctions, hroles⟩ :=
        quiet_sendOn { chat with lastSyncRequest := env.now } peerNumber
          fun link => PeerLink.core_sendLosslessGroupPacket link env.toNgcEnv _ _
      exact ⟨⟨hroster, hself, hpeers, hfounder, hsig⟩, hmods, hsanctions, hroles⟩

theorem quiet_handleGcSharedStateError (chat : GCChat) (env : ChatEnv) (peerNumber : Nat) :
    Quiet chat (chat.handleGcSharedStateError env peerNumber).2 := by
  -- marking the peer for deletion keeps its key and that it is confirmed
  have hmark : Quiet chat (chat.modifyLink peerNumber fun link =>
      link.withConn link.gconn.gccMarkForDeletion) := by
    refine ⟨⟨roster_modifyLink fun peer _ => ⟨rfl, rfl⟩, rfl, rfl, rfl, rfl⟩, ⟨rfl, rfl⟩, rfl, rfl⟩
  rw [handleGcSharedStateError]
  split
  · exact ⟨⟨hmark.roster, rfl, rfl, rfl, rfl⟩, ⟨rfl, rfl⟩, rfl, rfl⟩
  split
  · exact hmark
  · obtain ⟨⟨hroster, hself, hpeers, hfounder, hsig⟩, hmods, hsanctions, hroles⟩ :=
      quiet_sendGcRandomSyncRequest (chat.modifyLink peerNumber fun link =>
        link.withConn link.gconn.gccMarkForDeletion) env gfState
    exact ⟨⟨hroster.trans hmark.roster, hself, hpeers, hfounder, hsig⟩, hmods, hsanctions, hroles⟩

/-- A handler keeps the roles, or ends with `update_gc_peer_roles`. -/
structure RolesEffect (chat chat' : GCChat) : Prop extends SameGroup chat chat' where
  roles : SameRoleData chat chat' ∧ chat'.rolesChecksum = chat.rolesChecksum ∨
    chat'.rolesChecksum = chat'.rolesSum

theorem Quiet.rolesEffect (h : Quiet chat chat') : RolesEffect chat chat' :=
  ⟨h.toSameGroup, .inl ⟨h.toSameRoleData, h.rolesChecksum⟩⟩

theorem SameGroup.updateGcPeerRoles (h : SameGroup chat chat') :
    SameGroup chat chat'.updateGcPeerRoles := by
  have hdata := sameRoleData_updateGcPeerRoles chat'
  exact ⟨roster_updateGcPeerRoles.trans h.roster,
    selfPublicKey_updateGcPeerRoles.trans h.selfPublicKey,
    peersChecksum_updateGcPeerRoles.trans h.peersChecksum, hdata.founder.trans h.founder,
    hdata.moderators.2.trans h.founderSig⟩

theorem SameGroup.rolesEffect (h : SameGroup chat chat') :
    RolesEffect chat chat'.updateGcPeerRoles :=
  ⟨h.updateGcPeerRoles, .inr rolesChecksum_updateGcPeerRoles⟩

theorem validateUnpackModList_effect (crypto : SignCrypto) (chat : GCChat) (data : Bytes) (numMods : UInt16) :
    SameGroup chat (chat.validateUnpackModList crypto data numMods).2 ∧
      ((chat.validateUnpackModList crypto data numMods).1 ≠ .valid →
        (chat.validateUnpackModList crypto data numMods).2 = chat) := by
  rw [validateUnpackModList]
  split
  · exact ⟨(Quiet.refl chat).toSameGroup, fun _ => rfl⟩
  split
  · exact ⟨(Quiet.refl chat).toSameGroup, fun _ => rfl⟩
  rw [Moderation.modListUnpack]
  split
  · rename_i moderation heq
    split at heq
    · cases heq
      exact ⟨(Quiet.refl chat).toSameGroup, fun _ => rfl⟩
    · split at heq <;> exact absurd heq (by simp)
  · rename_i moderation heq
    refine ⟨?_, fun hne => absurd rfl hne⟩
    split at heq
    · exact absurd heq (by simp)
    · split at heq
      · cases heq
        exact ⟨rfl, rfl, rfl, rfl, rfl⟩
      · cases heq
        exact ⟨rfl, rfl, rfl, rfl, rfl⟩

theorem rolesEffect_handleGcModList (env : ChatEnv) (data : Bytes) :
    RolesEffect chat (chat.handleGcModList crypto env data).2 := by
  obtain ⟨hgroup, hsame⟩ := validateUnpackModList_effect crypto chat (data.drop 2) (netUnpackU16 data)
  rw [handleGcModList]
  split
  · exact (Quiet.refl chat).rolesEffect
  split
  · exact (Quiet.refl chat).rolesEffect
  split
  · rename_i chat' heq
    rw [heq] at hgroup
    exact hgroup.rolesEffect
  · rename_i chat' heq
    rw [heq] at hsame
    obtain rfl := hsame (by simp)
    exact (Quiet.refl _).rolesEffect
  · rename_i chat' heq
    rw [heq] at hsame
    obtain rfl := hsame (by simp)
    split
    · exact ⟨⟨rfl, rfl, rfl, rfl, rfl⟩, .inl ⟨⟨rfl, ⟨rfl, rfl⟩, rfl⟩, rfl⟩⟩
    split
    · exact (Quiet.refl _).rolesEffect
    · exact (quiet_sendGcRandomSyncRequest _ env gfState).rolesEffect

theorem quiet_handleGcSanctionsListError (chat : GCChat) (env : ChatEnv) :
    Quiet chat (chat.handleGcSanctionsListError env).2 := by
  rw [handleGcSanctionsListError]
  split
  · exact .refl chat
  split
  · exact ⟨⟨rfl, rfl, rfl, rfl, rfl⟩, ⟨rfl, rfl⟩, rfl, rfl⟩
  split
  · exact .refl chat
  · exact quiet_sendGcRandomSyncRequest chat env gfState

theorem rolesEffect_handleGcSanctionsList (env : ChatEnv) (stackCreds : ModSanctionCreds)
    (data : Bytes) : RolesEffect chat (chat.handleGcSanctionsList crypto env stackCreds data).2 := by
  have herror := (quiet_handleGcSanctionsListError chat env).rolesEffect
  rw [handleGcSanctionsList]
  split
  · exact (Quiet.refl chat).rolesEffect
  dsimp only
  split
  · exact herror
  split
  · exact herror
  split
  · exact herror
  split
  · exact herror
  split
  · exact (Quiet.refl chat).rolesEffect
  split
  · exact (Quiet.refl chat).rolesEffect
  · apply SameGroup.rolesEffect
    exact ⟨rfl, rfl, rfl, rfl, rfl⟩

theorem modList_change (moderation : Moderation) (modData : SigPublicKey) (addMod : Bool) :
    ((if addMod then moderation.modListAddEntry modData
        else moderation.modListRemoveEntry modData).1 = false →
      (if addMod then moderation.modListAddEntry modData
        else moderation.modListRemoveEntry modData).2 = moderation) ∧
    (if addMod then moderation.modListAddEntry modData
      else moderation.modListRemoveEntry modData).2.founderPublicSigKey =
        moderation.founderPublicSigKey := by
  cases addMod with
  | true =>
    rw [if_pos rfl, Moderation.modListAddEntry]
    split
    · exact ⟨fun _ => rfl, rfl⟩
    · exact ⟨fun h => absurd h (by simp), rfl⟩
  | false =>
    rw [if_neg (by simp), Moderation.modListRemoveEntry]
    split
    · exact ⟨fun _ => rfl, rfl⟩
    rw [Moderation.modListRemoveIndex]
    split
    · exact ⟨fun _ => rfl, rfl⟩
    split
    · exact ⟨fun h => absurd h (by simp), rfl⟩
    · exact ⟨fun h => absurd h (by simp), rfl⟩

theorem rolesEffect_validateUnpackGcSetMod (chat : GCChat) (data : Bytes) (addMod : Bool) :
    RolesEffect chat (chat.validateUnpackGcSetMod data addMod).2 ∧
      ((chat.validateUnpackGcSetMod data addMod).1.isSome = true →
        (chat.validateUnpackGcSetMod data addMod).2.rolesChecksum =
          (chat.validateUnpackGcSetMod data addMod).2.rolesSum) := by
  have hnone : RolesEffect chat chat ∧
      ((none : Option Nat).isSome = true → chat.rolesChecksum = chat.rolesSum) :=
    ⟨(Quiet.refl chat).rolesEffect, fun h => absurd h (by simp)⟩
  rw [validateUnpackGcSetMod]
  split
  · exact hnone
  dsimp only
  split
  · exact hnone
  split
  · exact hnone
  rename_i target _
  by_cases hrole : target.role ≠ (if addMod then .user else .moderator)
  · rw [if_pos hrole]
    exact hnone
  rw [if_neg hrole]
  obtain ⟨hfail, hfounder⟩ := modList_change chat.moderation (bytesToVector _ (data.drop 1)) addMod
  split
  · rename_i moderation heq
    rw [heq] at hfail
    obtain rfl := hfail rfl
    exact hnone
  · rename_i moderation heq
    rw [heq] at hfounder
    exact ⟨SameGroup.rolesEffect ⟨rfl, rfl, rfl, rfl, hfounder⟩, fun _ => rolesChecksum_updateGcPeerRoles⟩

theorem rolesEffect_handleGcSetMod (chat : GCChat) (peerNumber : Nat) (data : Bytes) :
    RolesEffect chat (chat.handleGcSetMod peerNumber data).2 := by
  rw [handleGcSetMod]
  split
  · exact (Quiet.refl chat).rolesEffect
  split
  · exact (Quiet.refl chat).rolesEffect
  split
  · exact (Quiet.refl chat).rolesEffect
  · exact (rolesEffect_validateUnpackGcSetMod chat data _).1

theorem sanctionsApplyNew_eq_false {moderation : Moderation} {sanctions : List ModSanction}
    {creds : ModSanctionCreds} (h : (moderation.sanctionsApplyNew crypto sanctions (some creds)).1 = false) :
    (moderation.sanctionsApplyNew crypto sanctions (some creds)).2 = moderation := by
  rw [Moderation.sanctionsApplyNew] at h ⊢
  split at h
  · rw [if_pos ‹_›]
  · exact absurd h (by simp)

theorem sanctionsListAddEntry_eq_false {moderation : Moderation} {sanction : ModSanction}
    {creds : ModSanctionCreds}
    (h : (moderation.sanctionsListAddEntry crypto sanction (some creds)).1 = false) :
    (moderation.sanctionsListAddEntry crypto sanction (some creds)).2 = moderation := by
  rw [Moderation.sanctionsListAddEntry] at h ⊢
  split
  · rfl
  split
  · rfl
  split
  · rfl
  · rename_i hlen hvalid hexists
    rw [if_neg hlen, if_neg hvalid, if_neg hexists] at h
    exact sanctionsApplyNew_eq_false h

theorem sanctionsListRemoveObserver_eq_false {moderation : Moderation} {publicKey : PublicKey}
    {creds : ModSanctionCreds}
    (h : (moderation.sanctionsListRemoveObserver crypto publicKey (some creds)).1 = false) :
    (moderation.sanctionsListRemoveObserver crypto publicKey (some creds)).2 = moderation := by
  rw [Moderation.sanctionsListRemoveObserver] at h ⊢
  split
  · rfl
  rename_i index hindex
  rw [hindex] at h
  dsimp only at h
  rw [Moderation.sanctionsListRemoveIndex] at h ⊢
  split
  · rename_i moderation' heq
    split at heq
    · have hsame := congrArg Prod.snd heq
      rw [sanctionsApplyNew_eq_false (congrArg Prod.fst heq)] at hsame
      exact hsame.symm
    · exact (congrArg Prod.snd heq).symm
  · rename_i heq
    exact absurd heq (by simp)
  · rename_i heq _
    rw [heq] at h
    exact absurd h (by simp)

theorem validateUnpackObserverEntry_effect (stackCreds : ModSanctionCreds) (data : Bytes)
    (publicKey : PublicKey) (addObs : Bool) :
    SameGroup chat (chat.validateUnpackObserverEntry crypto stackCreds data publicKey addObs).2 ∧
      ((chat.validateUnpackObserverEntry crypto stackCreds data publicKey addObs).1 ≠ .changed →
        (chat.validateUnpackObserverEntry crypto stackCreds data publicKey addObs).2 = chat) := by
  have hsame : ∀ result : ObserverEntry,
      SameGroup chat (result, chat).2 ∧ (result ≠ .changed → (result, chat).2 = chat) := by
    intro result
    exact ⟨(Quiet.refl chat).toSameGroup, fun _ => rfl⟩
  rw [validateUnpackObserverEntry]
  split
  · split
    · rename_i sanction creds rest hunpack
      split
      · exact hsame _
      split
      · exact hsame _
      have hkept := @Kept.sanctionsListAddEntry (fun _ => True) crypto chat.moderation sanction
        (some creds) fun _ => trivial
      have hfail := @sanctionsListAddEntry_eq_false crypto chat.moderation sanction creds
      split
      · rename_i moderation heq
        rw [heq] at hfail
        obtain rfl := hfail rfl
        exact hsame _
      · rename_i moderation heq
        rw [heq] at hkept
        exact ⟨⟨rfl, rfl, rfl, rfl, hkept.founder⟩, fun h => absurd rfl h⟩
    · exact hsame _
  split
  · exact hsame _
  dsimp only
  split
  · exact hsame _
  split
  · exact hsame _
  have hkept := @Kept.sanctionsListRemoveObserver (fun _ => True) crypto chat.moderation publicKey
    (some (sanctionsCredsUnpack data))
  have hfail := @sanctionsListRemoveObserver_eq_false crypto chat.moderation publicKey
    (sanctionsCredsUnpack data)
  split
  · rename_i moderation heq
    rw [heq] at hfail
    obtain rfl := hfail rfl
    exact hsame _
  · rename_i moderation heq
    rw [heq] at hkept
    exact ⟨⟨rfl, rfl, rfl, rfl, hkept.founder⟩, fun h => absurd rfl h⟩

theorem rolesEffect_handleGcSetObserver (stackCreds : ModSanctionCreds) (peerNumber : Nat)
    (data : Bytes) : RolesEffect chat (chat.handleGcSetObserver crypto stackCreds peerNumber data).2 := by
  obtain ⟨hgroup, hsame⟩ := @validateUnpackObserverEntry_effect crypto chat stackCreds
    (data.drop (1 + cryptoPublicKeySize + sigPublicKeySize)) (bytesToVector _ (data.drop 1))
    (netUnpackBool data)
  rw [handleGcSetObserver]
  split
  · exact (Quiet.refl chat).rolesEffect
  split
  · exact (Quiet.refl chat).rolesEffect
  split
  · exact (Quiet.refl chat).rolesEffect
  dsimp only
  split
  · exact (Quiet.refl chat).rolesEffect
  by_cases hrole : ((chat.getPeerNumberOfEncPk (bytesToVector _ (data.drop 1)) false).bind
      (chat.group[·]?)).any (fun peer =>
        peer.role != (if netUnpackBool data then .user else .observer)) = true
  · rw [if_pos hrole]
    exact (Quiet.refl chat).rolesEffect
  rw [if_neg hrole]
  split
  · rename_i chat' heq
    rw [heq] at hsame
    obtain rfl := hsame (by simp)
    exact (Quiet.refl _).rolesEffect
  · rename_i chat' heq
    rw [heq] at hsame
    obtain rfl := hsame (by simp)
    exact (Quiet.refl _).rolesEffect
  · rename_i chat' heq
    rw [heq] at hgroup
    exact hgroup.rolesEffect

/-! ## The other steps -/

theorem peerAdd_effect (chat : GCChat) (env : ChatEnv) (ipPort : Option IPPort) (publicKey : PublicKey) :
    (chat.peerAdd env ipPort publicKey).2 = chat ∨
      ∃ peer : GCPeer, peer.link.gconn.confirmed = false ∧
        (chat.peerAdd env ipPort publicKey).2 = { chat with group := chat.group ++ [peer] } := by
  rw [peerAdd]
  split
  · exact .inl rfl
  split
  · exact .inl rfl
  · exact .inr ⟨_, rfl, rfl⟩

theorem roster_handshake (chat : GCChat) {peerNumber : Nat} {link : PeerLink}
    (h : ∀ peer, chat.group[peerNumber]? = some peer → link.gconn.confirmed = peer.link.gconn.confirmed) :
    (chat.modifyLink peerNumber fun _ => link).roster =
      chat.roster.modify peerNumber fun entry => (link.gconn.publicKey, entry.2) := by
  apply ext_getElem?
  intro i
  simp only [roster, modifyLink, getElem?_map, getElem?_modify]
  cases hpeer : chat.group[i]? with
  | none => simp
  | some peer =>
    by_cases hi : peerNumber = i
    · simp [hi, h peer (hi ▸ hpeer)]
    · simp [hi]

theorem handleGcPeerInfoResponse_effect (chat : GCChat) (peerNumber : Nat) (data : Bytes) :
    chat.handleGcPeerInfoResponse peerNumber data = (false, chat) ∨
      ∃ chat' : GCChat, chat.handleGcPeerInfoResponse peerNumber data =
          (true, chat'.updateGcPeerRoles.setGcPeerlistChecksum) ∧
        chat'.roster = chat.roster.modify peerNumber (fun entry => (entry.1, true)) ∧
        chat'.selfPublicKey = chat.selfPublicKey ∧ chat'.sharedState = chat.sharedState ∧
        chat'.moderation = chat.moderation := by
  rw [handleGcPeerInfoResponse]
  split
  · exact .inl rfl
  split
  · exact .inl rfl
  split
  · exact .inl rfl
  split
  · exact .inl rfl
  dsimp only
  generalize (if chat.chatIsPasswordProtected then data.drop (2 + maxGcPasswordSize) else data) = rest
  split
  · exact .inl rfl
  split
  · exact .inl rfl
  rename_i peerInfo _
  cases hupdate : chat.peerUpdate peerInfo peerNumber with
  | none => exact .inl rfl
  | some chat' =>
    right
    refine ⟨chat'.confirmPeer peerNumber, rfl, ?_⟩
    rw [peerUpdate] at hupdate
    split at hupdate
    · exact absurd hupdate (by simp)
    split at hupdate
    · exact absurd hupdate (by simp)
    cases hupdate
    refine ⟨?_, rfl, rfl, rfl⟩
    apply ext_getElem?
    intro i
    simp only [roster, confirmPeer, modifyLink, getElem?_map, getElem?_modify]
    cases chat.group[i]? with
    | none => simp
    | some peer =>
      by_cases hi : peerNumber = i
      · simp [hi, PeerLink.withConn]
      · simp [hi]

theorem peerDelete_effect (chat : GCChat) {peerNumber : Nat} (hpos : 0 < peerNumber) :
    (chat.peerDelete peerNumber).2 = chat ∨
      ∃ peer group, chat.group[peerNumber]? = some peer ∧
        (chat.peerDelete peerNumber).2 = { chat with group }.setGcPeerlistChecksum ∧
        group.Perm (chat.group.eraseIdx peerNumber) ∧ group.head? = chat.group.head? := by
  rw [peerDelete]
  split
  · rename_i peer last hpeer hlast
    right
    have hlt : peerNumber < chat.group.length := (List.getElem?_eq_some_iff.mp hpeer).1
    refine ⟨peer, _, hpeer, rfl, List.take_set_perm_eraseIdx hlt hlast, ?_⟩
    rw [head?_eq_getElem?, head?_eq_getElem?, getElem?_take_of_lt (by omega), getElem?_set_ne (by omega)]
  · exact .inl rfl

/-- A shared state changes the founder, and its cached key with the first one only. -/
structure SharedStateEffect (chat chat' : GCChat) : Prop where
  roster : chat'.roster = chat.roster
  selfPublicKey : chat'.selfPublicKey = chat.selfPublicKey
  peersChecksum : chat'.peersChecksum = chat.peersChecksum
  rolesChecksum : chat'.rolesChecksum = chat.rolesChecksum
  modList : chat'.moderation.modList = chat.moderation.modList
  sanctions : chat'.moderation.sanctions = chat.moderation.sanctions
  founder : chat'.sharedState.founderPublicKey = chat.sharedState.founderPublicKey ∧
      chat'.moderation.founderPublicSigKey = chat.moderation.founderPublicSigKey ∨
    chat'.moderation.founderPublicSigKey =
      if chat.sharedState.version = 0 then chat'.sharedState.founderPublicKey.sig
      else chat.moderation.founderPublicSigKey

theorem Quiet.sharedStateEffect (h : Quiet chat chat') : SharedStateEffect chat chat' :=
  ⟨h.roster, h.selfPublicKey, h.peersChecksum, h.rolesChecksum, h.moderators.1, h.sanctions,
    .inl ⟨h.founder, h.founderSig⟩⟩

theorem sharedStateEffect_handleGcSharedState (crypto : SignCrypto) (chat : GCChat)
    (env : ChatEnv) (peerNumber : Nat) (data : Bytes) :
    SharedStateEffect chat (chat.handleGcSharedState crypto env peerNumber data).2 := by
  have herror := (quiet_handleGcSharedStateError chat env peerNumber).sharedStateEffect
  have hsame := (Quiet.refl chat).sharedStateEffect
  rw [handleGcSharedState]
  split
  · exact herror
  dsimp only
  split
  · exact herror
  split
  · exact hsame
  split
  · exact hsame
  split
  · exact hsame
  · by_cases hversion : chat.sharedState.version = 0
    · simp only [if_pos hversion]
      refine ⟨rfl, rfl, rfl, rfl, rfl, rfl, .inr ?_⟩
      rw [if_pos hversion]
      rfl
    · simp only [if_neg hversion]
      refine ⟨rfl, rfl, rfl, rfl, rfl, rfl, .inr ?_⟩
      rw [if_neg hversion]
      rfl

/-! ## The invariant -/

/-- A member is the first peer, and its checksum is the sum once another peer was confirmed. -/
structure Caches (chat : GCChat) : Prop where
  self : chat.roster.head? = some (chat.selfPublicKey, true)
  founderSig : chat.moderation.founderPublicSigKey = chat.sharedState.founderPublicKey.sig
  peers : chat.confirmedKeys.length ≤ 1 ∨ chat.peersChecksum = chat.peersSum

def RolesCurrent (chat : GCChat) : Prop :=
  chat.confirmedKeys.length ≤ 1 ∨ chat.rolesChecksum = chat.rolesSum

theorem confirmedKeys_of_roster (h : chat'.roster = chat.roster) :
    chat'.confirmedKeys = chat.confirmedKeys := by
  rw [confirmedKeys, confirmedKeys, h]

theorem Caches.of_sameGroup (h : Caches chat) (hgroup : SameGroup chat chat') : Caches chat' := by
  have hkeys := confirmedKeys_of_roster hgroup.roster
  constructor
  case self => rw [hgroup.roster, hgroup.selfPublicKey, h.self]
  case founderSig => rw [hgroup.founderSig, hgroup.founder, h.founderSig]
  case peers =>
    rw [hkeys, hgroup.peersChecksum, peersSum_of_perm (List.Perm.of_eq hkeys)]
    exact h.peers

theorem RolesCurrent.of_effect (h : RolesCurrent chat) (heffect : RolesEffect chat chat') :
    RolesCurrent chat' := by
  have hkeys := confirmedKeys_of_roster heffect.roster
  rcases heffect.roles with ⟨hdata, hchecksum⟩ | hfresh
  · rw [RolesCurrent, hkeys, hchecksum, rolesSum_of_perm (List.Perm.of_eq hkeys) hdata]
    exact h
  · exact .inr hfresh

theorem rolesEffect_of_handler {step : GroupStep} (henabled : Enabled crypto chat step)
    (hhandler : match step with
      | .modList .. | .sanctionsList .. | .setMod .. | .setObserver .. | .setPeerRole .. | .other .. => True
      | _ => False) : RolesEffect chat (chat.applyStep crypto step) := by
  cases step with
  | modList env data => exact rolesEffect_handleGcModList env data
  | sanctionsList env stackCreds data => exact rolesEffect_handleGcSanctionsList env stackCreds data
  | setMod peerNumber data => exact rolesEffect_handleGcSetMod chat peerNumber data
  | setObserver stackCreds peerNumber data =>
    exact rolesEffect_handleGcSetObserver stackCreds peerNumber data
  | setPeerRole changed => exact henabled.rolesEffect
  | other changed => exact ⟨henabled.1, .inl ⟨henabled.2.1, henabled.2.2⟩⟩
  | join | handshake | peerInfo | depart | sharedState => exact hhandler.elim

theorem confirmedKeys_append (chat : GCChat) {peer : GCPeer} (h : peer.link.gconn.confirmed = false) :
    { chat with group := chat.group ++ [peer] }.confirmedKeys = chat.confirmedKeys := by
  rw [confirmedKeys_eq, confirmedKeys_eq, filter_append, filter_singleton, h]
  simp

theorem confirmedKeys_depart {peerNumber : Nat} {peer : GCPeer} {group : List GCPeer}
    (hpeer : chat.group[peerNumber]? = some peer) (hunconfirmed : peer.link.gconn.confirmed = false)
    (hperm : group.Perm (chat.group.eraseIdx peerNumber)) :
    { chat with group }.setGcPeerlistChecksum.confirmedKeys.Perm chat.confirmedKeys := by
  obtain ⟨hlt, rfl⟩ := List.getElem?_eq_some_iff.mp hpeer
  have hall : chat.group.Perm (chat.group[peerNumber] :: group) :=
    (getElem_cons_eraseIdx_perm hlt).symm.trans (hperm.symm.cons _)
  rw [confirmedKeys_eq, confirmedKeys_eq]
  have hfilter := (hall.filter (·.link.gconn.confirmed)).map (·.link.gconn.publicKey)
  rw [filter_cons_of_neg (by simp [hunconfirmed])] at hfilter
  exact hfilter.symm

theorem head?_roster {group : List GCPeer} (h : group.head? = chat.group.head?) :
    { chat with group }.roster.head? = chat.roster.head? := by
  rw [roster, roster, head?_map, head?_map, h]

theorem Caches.apply (h : Caches chat) {step : GroupStep} (henabled : Enabled crypto chat step) :
    Caches (chat.applyStep crypto step) := by
  cases step with
  | join env ipPort publicKey =>
    rcases peerAdd_effect chat env ipPort publicKey with hsame | ⟨peer, hconfirmed, hadd⟩
    · rw [applyStep, hsame]
      exact h
    · rw [applyStep, hadd]
      have hkeys := confirmedKeys_append chat hconfirmed
      constructor
      case self =>
        have hself := h.self
        rw [roster] at hself ⊢
        rw [map_append, head?_append, hself, Option.some_or]
      case founderSig => exact h.founderSig
      case peers =>
        rw [hkeys, peersSum_of_perm (List.Perm.of_eq hkeys)]
        exact h.peers
  | handshake peerNumber link =>
    obtain ⟨hpos, hlink⟩ := henabled
    have hroster := roster_handshake chat fun peer hpeer => (hlink peer hpeer).2
    -- the encryption keys stay
    have hkeys : (chat.modifyLink peerNumber fun _ => link).confirmedKeys.map (·.enc) =
        chat.confirmedKeys.map (·.enc) := by
      rw [confirmedKeys, hroster, confirmedKeys, map_map, map_map]
      apply List.map_filter_modify
      intro entry hentry
      refine ⟨rfl, fun _ => ?_⟩
      rw [roster, getElem?_map] at hentry
      obtain ⟨peer, hpeer, rfl⟩ := Option.map_eq_some_iff.mp hentry
      exact (hlink peer hpeer).1
    constructor
    case self =>
      rw [applyStep, hroster, head?_eq_getElem?, getElem?_modify, ← head?_eq_getElem?, h.self]
      show some (if peerNumber = 0 then _ else (chat.selfPublicKey, true)) = _
      rw [if_neg (Nat.ne_of_gt hpos)]
      rfl
    case founderSig => exact h.founderSig
    case peers =>
      have hsum : (chat.modifyLink peerNumber fun _ => link).peersSum = chat.peersSum := by
        have hmap : ∀ keys : List ExtPublicKey,
            keys.map (fun key => (gcGetPkJenkinsHash key.enc).toUInt16) =
              (keys.map (·.enc)).map fun enc => (gcGetPkJenkinsHash enc).toUInt16 := by
          intro keys
          rw [map_map]
          rfl
        rw [peersSum, peersSum, hmap, hmap, hkeys]
      rw [applyStep, hsum, ← length_map (·.enc), hkeys, length_map]
      exact h.peers
  | peerInfo peerNumber data =>
    rcases handleGcPeerInfoResponse_effect chat peerNumber data with
      hsame | ⟨chat', haccepted, hroster, hself, hstate, hmoderation⟩
    · rw [applyStep, hsame]
      exact h
    · rw [applyStep, haccepted]
      have hdata := sameRoleData_updateGcPeerRoles chat'
      constructor
      case self =>
        show chat'.updateGcPeerRoles.roster.head? = some (chat'.updateGcPeerRoles.selfPublicKey, true)
        rw [roster_updateGcPeerRoles, selfPublicKey_updateGcPeerRoles, hroster, hself,
          head?_eq_getElem?, getElem?_modify, ← head?_eq_getElem?, h.self]
        split <;> rfl
      case founderSig =>
        show chat'.updateGcPeerRoles.moderation.founderPublicSigKey =
          chat'.updateGcPeerRoles.sharedState.founderPublicKey.sig
        rw [hdata.moderators.2, hdata.founder, hmoderation, hstate, h.founderSig]
      case peers => exact .inr peersChecksum_setGcPeerlistChecksum
  | depart peerNumber =>
    rcases peerDelete_effect chat henabled with hsame | ⟨peer, group, -, hdelete, -, hhead⟩
    · rw [applyStep, hsame]
      exact h
    · rw [applyStep, hdelete]
      constructor
      case self => exact (head?_roster hhead).trans h.self
      case founderSig => exact h.founderSig
      case peers => exact .inr peersChecksum_setGcPeerlistChecksum
  | sharedState env peerNumber data =>
    have heffect := sharedStateEffect_handleGcSharedState crypto chat env peerNumber data
    have hkeys := confirmedKeys_of_roster heffect.roster
    constructor
    case self =>
      rw [applyStep, heffect.roster, heffect.selfPublicKey]
      exact h.self
    case founderSig =>
      rcases heffect.founder with ⟨hfounder, hsig⟩ | hsig
      · rw [applyStep, hsig, hfounder, h.founderSig]
      · rw [applyStep, hsig]
        split
        · rfl
        · rw [henabled (UInt32.pos_iff_ne_zero.mpr ‹_›), h.founderSig]
    case peers =>
      rw [applyStep, hkeys, heffect.peersChecksum, peersSum_of_perm (List.Perm.of_eq hkeys)]
      exact h.peers
  | modList | sanctionsList | setMod | setObserver | setPeerRole | other =>
    exact h.of_sameGroup (rolesEffect_of_handler henabled trivial).toSameGroup

theorem RolesCurrent.apply (hcaches : Caches chat) (h : RolesCurrent chat) {step : GroupStep}
    (henabled : Enabled crypto chat step) (hquiet : ¬Disturbs crypto chat step) :
    RolesCurrent (chat.applyStep crypto step) := by
  -- it is enough that the confirmed peers, the lists and the checksum stay
  have hkept : ∀ {chat' : GCChat}, chat'.confirmedKeys.Perm chat.confirmedKeys →
      SameRoleData chat chat' → chat'.rolesChecksum = chat.rolesChecksum → RolesCurrent chat' := by
    intro chat' hperm hdata hchecksum
    rw [RolesCurrent, hperm.length_eq, hchecksum, rolesSum_of_perm hperm hdata]
    exact h
  cases step with
  | join env ipPort publicKey =>
    rcases peerAdd_effect chat env ipPort publicKey with hsame | ⟨peer, hconfirmed, hadd⟩
    · rw [applyStep, hsame]
      exact h
    · rw [applyStep, hadd]
      exact hkept (List.Perm.of_eq (confirmedKeys_append chat hconfirmed)) ⟨rfl, ⟨rfl, rfl⟩, rfl⟩ rfl
  | handshake peerNumber link =>
    have hroster := roster_handshake chat fun peer hpeer => (henabled.2 peer hpeer).2
    refine hkept (List.Perm.of_eq ?_) ⟨rfl, ⟨rfl, rfl⟩, rfl⟩ rfl
    rw [applyStep, confirmedKeys, hroster]
    apply List.map_filter_modify
    intro entry hentry
    refine ⟨rfl, fun hconfirmed => ?_⟩
    rw [roster, getElem?_map] at hentry
    obtain ⟨peer, hpeer, rfl⟩ := Option.map_eq_some_iff.mp hentry
    by_contra hne
    exact hquiet ⟨peer, hpeer, hconfirmed, hne⟩
  | peerInfo peerNumber data =>
    rcases handleGcPeerInfoResponse_effect chat peerNumber data with hsame | ⟨chat', haccepted, -⟩
    · rw [applyStep, hsame]
      exact h
    · rw [applyStep, haccepted]
      exact .inr rolesChecksum_updateGcPeerRoles
  | depart peerNumber =>
    rcases peerDelete_effect chat henabled with
      hsame | ⟨peer, group, hpeer, hdelete, hperm, -⟩
    · rw [applyStep, hsame]
      exact h
    · have hunconfirmed : peer.link.gconn.confirmed = false := by
        by_contra hconfirmed
        exact hquiet ⟨peer, hpeer, by simpa using hconfirmed⟩
      rw [applyStep, hdelete]
      exact hkept (confirmedKeys_depart hpeer hunconfirmed hperm) ⟨rfl, ⟨rfl, rfl⟩, rfl⟩ rfl
  | sharedState env peerNumber data =>
    have heffect := sharedStateEffect_handleGcSharedState crypto chat env peerNumber data
    have hfounder : (chat.handleGcSharedState crypto env peerNumber data).2.sharedState.founderPublicKey =
        chat.sharedState.founderPublicKey := by
      by_contra hne
      exact hquiet hne
    have hsig : (chat.handleGcSharedState crypto env peerNumber data).2.moderation.founderPublicSigKey =
        chat.moderation.founderPublicSigKey := by
      have hcaches' := (hcaches.apply henabled).founderSig
      rw [applyStep, hfounder, ← hcaches.founderSig] at hcaches'
      exact hcaches'
    exact hkept (List.Perm.of_eq (confirmedKeys_of_roster heffect.roster))
      ⟨hfounder, ⟨heffect.modList, hsig⟩, heffect.sanctions⟩ heffect.rolesChecksum
  | modList | sanctionsList | setMod | setObserver | setPeerRole | other =>
    exact h.of_effect (rolesEffect_of_handler henabled trivial)

theorem rolesCurrent_of_updatesRoles {step : GroupStep} (h : UpdatesRoles crypto chat step) :
    RolesCurrent (chat.applyStep crypto step) := by
  right
  cases step with
  | peerInfo peerNumber data =>
    rcases handleGcPeerInfoResponse_effect chat peerNumber data with hsame | ⟨chat', haccepted, -⟩
    · rw [UpdatesRoles, hsame] at h
      exact absurd h (by simp)
    · rw [applyStep, haccepted]
      exact rolesChecksum_updateGcPeerRoles
  | modList env data =>
    obtain ⟨hlen, hfounder, hvalid⟩ := h
    rw [applyStep, handleGcModList, if_neg (by omega), if_neg (by simp [hfounder])]
    split
    · exact rolesChecksum_updateGcPeerRoles
    · rename_i heq
      rw [heq] at hvalid
      exact absurd hvalid (by simp)
    · rename_i heq
      rw [heq] at hvalid
      exact absurd hvalid (by simp)
  | sanctionsList env stackCreds data =>
    obtain ⟨hlen, hmax, sanctions, creds, rest, hunpack, hnum, hcheck, hold, htie⟩ := h
    rw [applyStep, handleGcSanctionsList, if_neg (by omega)]
    rw [if_neg (by omega), hunpack]
    dsimp only
    rw [if_neg (by omega), if_neg (by simp [hcheck]), if_neg hold, if_neg htie]
    exact rolesChecksum_updateGcPeerRoles
  | setMod peerNumber data =>
    obtain ⟨hlen, ⟨setter, hsetter, hrole⟩, hsome⟩ := h
    rw [applyStep, handleGcSetMod, if_neg (by omega), hsetter]
    dsimp only
    rw [if_neg (fun hne => hne hrole)]
    exact (rolesEffect_validateUnpackGcSetMod chat data _).2 hsome
  | setObserver stackCreds peerNumber data =>
    obtain ⟨hlen, ⟨setter, hsetter, hrole⟩, hself, htarget, hchanged⟩ := h
    rw [applyStep, handleGcSetObserver, if_neg (by omega), hsetter]
    dsimp only
    rw [if_neg hrole, if_neg hself, if_neg (by simp only [htarget]; simp)]
    split
    · rename_i heq
      rw [heq] at hchanged
      exact absurd hchanged (by simp)
    · rename_i heq
      rw [heq] at hchanged
      exact absurd hchanged (by simp)
    · exact rolesChecksum_updateGcPeerRoles
  | setPeerRole changed => exact rolesChecksum_updateGcPeerRoles
  | join | handshake | depart | sharedState | other => exact h.elim

theorem Starts.caches (h : Starts chat) : Caches chat where
  self := by rw [h.roster]; rfl
  founderSig := h.founderSig
  peers := by
    left
    rw [confirmedKeys, h.roster]
    exact Nat.le_refl 1

theorem Member.caches (h : Member crypto chat) : Caches chat := by
  induction h with
  | start hstart => exact hstart.caches
  | step _ henabled ih => exact ih.apply henabled

theorem Settled.caches (h : Settled crypto chat) : Caches chat := by
  induction h with
  | start hstart => exact hstart.caches
  | updated hmember henabled _ => exact hmember.caches.apply henabled
  | quiet _ henabled _ ih => exact ih.apply henabled

theorem Settled.rolesCurrent (h : Settled crypto chat) : RolesCurrent chat := by
  induction h with
  | start hstart =>
    left
    rw [confirmedKeys, hstart.roster]
    exact Nat.le_refl 1
  | updated _ _ hupdates => exact rolesCurrent_of_updatesRoles hupdates
  | quiet hsettled henabled hquiet ih => exact ih.apply hsettled.caches henabled hquiet

/-! ## Quiescence -/

/-- The members know the same confirmed peers, shared state, lists, credentials and topic. -/
structure SameState (a b : GCChat) : Prop where
  peers : b.confirmedKeys.Perm a.confirmedKeys
  sharedState : b.sharedState = a.sharedState
  modList : b.moderation.modList = a.moderation.modList
  sanctions : b.moderation.sanctions = a.moderation.sanctions
  creds : b.moderation.sanctionsCreds = a.moderation.sanctionsCreds
  topicInfo : b.topicInfo = a.topicInfo

def Quiescent (a b : GCChat) : Prop :=
  a.selfPublicKey ≠ b.selfPublicKey → SameState a b → a.getSyncFlags (SyncInfo.unpack b.syncInfo.pack) = 0

theorem Caches.self_mem (h : Caches chat) : chat.selfPublicKey ∈ chat.confirmedKeys := by
  have hmem : (chat.selfPublicKey, true) ∈ chat.roster := mem_of_head? h.self
  exact mem_map.mpr ⟨_, mem_filter.mpr ⟨hmem, rfl⟩, rfl⟩

/-- Two members whose role checksums are settled and that have the same state stay quiet. -/
theorem quiescent_of_settled (crypto : SignCrypto) (a b : GCChat) (ha : Settled crypto a)
    (hb : Settled crypto b) : Quiescent a b := by
  intro hne hstate
  have hrolesData : SameRoleData a b := by
    refine ⟨congrArg _ hstate.sharedState, ⟨hstate.modList, ?_⟩, hstate.sanctions⟩
    rw [hb.caches.founderSig, ha.caches.founderSig, hstate.sharedState]
  -- both members are confirmed peers of both
  have htwo : ∀ {chat : GCChat}, a.selfPublicKey ∈ chat.confirmedKeys →
      b.selfPublicKey ∈ chat.confirmedKeys → ¬chat.confirmedKeys.length ≤ 1 := by
    intro chat hmem hmem' hlen
    match hkeys : chat.confirmedKeys with
    | [] =>
      rw [hkeys] at hmem
      exact absurd hmem not_mem_nil
    | [key] =>
      rw [hkeys] at hmem hmem'
      exact hne ((mem_singleton.mp hmem).trans (mem_singleton.mp hmem').symm)
    | _ :: _ :: _ =>
      rw [hkeys] at hlen
      exact absurd hlen (by simp)
  have hmem := ha.caches.self_mem
  have hmem' := hb.caches.self_mem
  have hlena := htwo hmem (hstate.peers.mem_iff.mp hmem')
  have hlenb := htwo (hstate.peers.mem_iff.mpr hmem) hmem'
  have hpeers : b.peersChecksum = a.peersChecksum := by
    rw [ha.caches.peers.resolve_left hlena, hb.caches.peers.resolve_left hlenb]
    exact peersSum_of_perm hstate.peers
  have hroles : b.advertisedRolesChecksum = a.advertisedRolesChecksum := by
    rw [advertisedRolesChecksum, advertisedRolesChecksum, hstate.creds, Or.resolve_left ha.rolesCurrent hlena,
      Or.resolve_left hb.rolesCurrent hlenb, rolesSum_of_perm hstate.peers hrolesData]
  have hunpack := SyncInfo.unpack_pack_append b.syncInfo []
  rw [append_nil] at hunpack
  rw [hunpack, getSyncFlags]
  simp only [syncInfo, hpeers, hroles, hstate.sharedState, hstate.creds, hstate.topicInfo]
  simp

/-! ## A departure -/

def memberKey (n : UInt8) : ExtPublicKey where
  enc := Vector.replicate _ n
  sig := Vector.replicate _ (n + 100)

def memberStart (n : UInt8) : GCChat :=
  { joiningChat with
    group := [{ zeroGCPeer with
      link := { gconn := { zeroGCConnection with publicKey := memberKey n, confirmed := true }
                sent := []
                handed := [] } }]
    sharedState := twoModsState
    selfPublicKey := memberKey n }

theorem memberStart_starts (n : UInt8) : Starts (memberStart n) := ⟨rfl, rfl⟩

def shakenLink (n : UInt8) : PeerLink where
  gconn := { zeroGCConnection with publicKey := memberKey n, handshaked := true }
  sent := []
  handed := []

def peerInfoData : Bytes := packGcPeer { zeroGCPeer with nickLength := 1 }

def welcome (chat : GCChat) (peerNumber : Nat) (n : UInt8) : GCChat :=
  ((chat.applyStep twoModsCrypto (.join quietChatEnv none (memberKey n).enc)).applyStep
    twoModsCrypto (.handshake peerNumber (shakenLink n))).applyStep twoModsCrypto
      (.peerInfo peerNumber peerInfoData)

def Awaits (chat : GCChat) (peerNumber : Nat) (n : UInt8) : Prop :=
  ((chat.applyStep twoModsCrypto (.join quietChatEnv none (memberKey n).enc)).roster[peerNumber]?.map
    fun entry => (entry.1.enc, entry.2)) = some ((memberKey n).enc, false)

theorem Member.beforeWelcome {peerNumber : Nat} {n : UInt8} (h : Member twoModsCrypto chat)
    (hpos : 0 < peerNumber) (hawaits : Awaits chat peerNumber n) :
    Member twoModsCrypto ((chat.applyStep twoModsCrypto
      (.join quietChatEnv none (memberKey n).enc)).applyStep twoModsCrypto
        (.handshake peerNumber (shakenLink n))) := by
  refine .step (.step h trivial) ⟨hpos, fun peer hpeer => ?_⟩
  rw [Awaits, roster, getElem?_map, hpeer] at hawaits
  have hentry := Option.some.inj hawaits
  exact ⟨(congrArg Prod.fst hentry).symm, (congrArg Prod.snd hentry).symm⟩

theorem Member.welcome {peerNumber : Nat} {n : UInt8} (h : Member twoModsCrypto chat)
    (hpos : 0 < peerNumber) (hawaits : Awaits chat peerNumber n) :
    Member twoModsCrypto (chat.welcome peerNumber n) := by
  exact .step (h.beforeWelcome hpos hawaits) trivial

def Accepts (chat : GCChat) (peerNumber : Nat) (n : UInt8) : Prop :=
  (((chat.applyStep twoModsCrypto (.join quietChatEnv none (memberKey n).enc)).applyStep
    twoModsCrypto (.handshake peerNumber (shakenLink n))).handleGcPeerInfoResponse peerNumber
      peerInfoData).1 = true

theorem Settled.welcome {peerNumber : Nat} {n : UInt8} (h : Member twoModsCrypto chat)
    (hpos : 0 < peerNumber) (hawaits : Awaits chat peerNumber n)
    (haccepts : Accepts chat peerNumber n) : Settled twoModsCrypto (chat.welcome peerNumber n) := by
  exact .updated (h.beforeWelcome hpos hawaits) trivial haccepts

def sawSecond : GCChat := (memberStart 1).welcome 1 2

def sawDeparture : GCChat := (sawSecond.welcome 2 3).applyStep twoModsCrypto (.depart 2)

def sawFirst : GCChat := (memberStart 2).welcome 1 1

theorem memberStart_awaits : Awaits (memberStart 1) 1 2 ∧ Awaits (memberStart 2) 1 1 := by
  unfold Awaits
  decide +kernel

theorem member_sawDeparture : Member twoModsCrypto sawDeparture := by
  have hsecond : Member twoModsCrypto sawSecond :=
    Member.welcome (.start (memberStart_starts 1)) (by decide) memberStart_awaits.1
  have hthird : Member twoModsCrypto (sawSecond.welcome 2 3) := by
    refine Member.welcome hsecond (by decide) ?_
    unfold Awaits
    decide +kernel
  exact .step hthird (show 0 < 2 by decide)

theorem member_sawFirst : Member twoModsCrypto sawFirst :=
  Member.welcome (.start (memberStart_starts 2)) (by decide) memberStart_awaits.2

theorem sameState_sawDeparture : SameState sawDeparture sawFirst :=
  ⟨by decide +kernel, by decide +kernel, by decide +kernel, by decide +kernel, by decide +kernel,
    by decide +kernel⟩

/-- The member that saw the departure asks the other one for its state. -/
theorem not_quiescent :
    Member twoModsCrypto sawDeparture ∧ Member twoModsCrypto sawFirst ∧
    ¬Quiescent sawDeparture sawFirst := by
  refine ⟨member_sawDeparture, member_sawFirst, fun hquiescent => ?_⟩
  exact absurd (hquiescent (by decide +kernel) sameState_sawDeparture) (by decide +kernel)

theorem settled_sawSecond : Settled twoModsCrypto sawSecond := by
  refine Settled.welcome (.start (memberStart_starts 1)) (by decide) memberStart_awaits.1 ?_
  unfold Accepts
  decide +kernel

theorem settled_sawFirst : Settled twoModsCrypto sawFirst := by
  refine Settled.welcome (.start (memberStart_starts 2)) (by decide) memberStart_awaits.2 ?_
  unfold Accepts
  decide +kernel

/-- Without the departure both members stay quiet. -/
theorem quiescent_of_settled_two :
    Settled twoModsCrypto sawSecond ∧ Settled twoModsCrypto sawFirst ∧
    SameState sawSecond sawFirst ∧
    sawSecond.getSyncFlags (SyncInfo.unpack sawFirst.syncInfo.pack) = 0 := by
  have hstate : SameState sawSecond sawFirst :=
    ⟨by decide +kernel, by decide +kernel, by decide +kernel, by decide +kernel, by decide +kernel,
      by decide +kernel⟩
  exact ⟨settled_sawSecond, settled_sawFirst, hstate,
    quiescent_of_settled twoModsCrypto _ _ settled_sawSecond settled_sawFirst (by decide +kernel) hstate⟩

end GCChat

end Toxcore

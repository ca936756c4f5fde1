import Toxcore.Native.NgcInvite
import Toxcore.Spec.NgcModList

/-!
# Invites of friends to a group

A friend that was invited to a group may let one peer join it. The ring `saved_invites` holds the friends whose
invites are not used up. `handle_gc_invite_accepted_packet` adds the peer before it looks at the ring; and a
ring that is used again holds zeros, which stand for friend number `0`.
-/

namespace Toxcore

open List

/-- A session, and for each slot the friends whose invites were not used since. -/
structure InviteWorld where
  session : GCSession
  unused : Nat → List Int

inductive InviteAction where
  /-- A group is created, joined or loaded. -/
  | create (chat : GCChat)
  | delete (groupNumber : Nat)
  | invite (env : InviteEnv) (groupNumber : Nat) (friendNumber : Int)
  /-- `handle_gc_invite_accepted_packet` -/
  | accepted (env : InviteEnv) (friendNumber : Int) (data : Bytes)
  /-- Anything else that happens to a group. -/
  | other (groupNumber : Nat) (chat : GCChat)

namespace GCSession

def groupOf (session : GCSession) (groupNumber : Nat) : Option (List GCPeer) :=
  session.chats[groupNumber]?.map (·.chat.group)

def InUse (session : GCSession) (groupNumber : Nat) : Prop :=
  ∃ slot, session.chats[groupNumber]? = some slot ∧ slot.chat.connectionState ≠ .none

end GCSession

namespace InviteWorld

open Classical in
/-- The world after an action.  An invite of a friend is used when a packet of this friend adds a
    peer. -/
noncomputable def apply (world : InviteWorld) : InviteAction → InviteWorld
  | .create chat =>
    { session := (world.session.newGroup chat).2
      unused := Function.update world.unused (world.session.newGroup chat).1 [] }
  | .delete groupNumber =>
    { session := world.session.groupDelete groupNumber, unused := world.unused }
  | .invite env groupNumber friendNumber =>
    match world.session.chats[groupNumber]? with
    | none => world
    | some slot =>
      let (sent, slot) := slot.gcInviteFriend env friendNumber
      let unused := world.unused groupNumber
      { session := { chats := world.session.chats.set groupNumber slot }
        unused := Function.update world.unused groupNumber (if sent then friendNumber :: unused else unused) }
  | .accepted env friendNumber data =>
    let session := (world.session.handleGcInviteAcceptedPacket env friendNumber data).2
    { session
      unused := fun groupNumber =>
        if session.groupOf groupNumber = world.session.groupOf groupNumber then
          world.unused groupNumber
        else (world.unused groupNumber).erase friendNumber }
  | .other groupNumber chat =>
    { world with
      session :=
        { chats := world.session.chats.modify groupNumber fun slot => { slot with chat } } }

def Enabled (world : InviteWorld) : InviteAction → Prop
  | .create _ => True
  | .delete groupNumber => groupNumber < world.session.chats.length
  | .invite _ groupNumber friendNumber => world.session.InUse groupNumber ∧ 0 ≤ friendNumber
  | .accepted _ friendNumber _ => 0 ≤ friendNumber
  | .other groupNumber chat => world.session.InUse groupNumber ∧ chat.connectionState ≠ .none

def system : TransitionSystem InviteWorld where
  init world := world.session.chats = []
  step world world' := ∃ action, world.Enabled action ∧ world' = world.apply action

def Respected (world : InviteWorld) : InviteAction → Prop
  | .accepted env friendNumber data => ∀ groupNumber, friendNumber ∉ world.unused groupNumber →
      (world.session.handleGcInviteAcceptedPacket env friendNumber data).2.groupOf groupNumber =
        world.session.groupOf groupNumber
  | _ => True

/-- A new group takes an empty ring, and packets that add a peer come from friends in it. -/
def Careful (world : InviteWorld) : InviteAction → Prop
  | .create _ => ∀ groupNumber slot,
      world.session.chats.findIdx? (·.chat.connectionState == .none) = some groupNumber →
      world.session.chats[groupNumber]? = some slot → ∀ friend ∈ slot.savedInvites, friend < 0
  | .accepted env friendNumber data => gcJoinDataLength ≤ data.length →
      ∀ groupNumber slot,
        world.session.gcGetGroupByPublicKey (bytesToVector _ data) = some groupNumber →
        world.session.chats[groupNumber]? = some slot → slot.chat.groupCanHandlePackets →
        friendNumber ∈ slot.savedInvites ∨
          ∀ peerNumber, (slot.chat.peerAdd env.toChatEnv none
            (bytesToVector _ (data.drop sigPublicKeySize))).1 ≠ .added peerNumber
  | _ => True

def carefulSystem : TransitionSystem InviteWorld where
  init world := world.session.chats = []
  step world world' := ∃ action, world.Enabled action ∧ world.Careful action ∧ world' = world.apply action

end InviteWorld

/-! ## The ring -/

def GCSlot.ring (slot : GCSlot) : List Int := slot.savedInvites.filter (0 ≤ ·)

namespace GCSlot

variable {slot : GCSlot} {env : InviteEnv} {friendNumber : Int}

theorem filter_set_subperm (l : List Int) (i : Nat) (friend : Int) :
    ((l.set i friend).filter (0 ≤ ·)).Subperm (friend :: l.filter (0 ≤ ·)) := by
  induction l generalizing i with
  | nil => exact (nil_sublist _).subperm
  | cons a l ih =>
    cases i with
    | zero =>
      rw [set_cons_zero]
      by_cases hfriend : 0 ≤ friend
      · rw [filter_cons_of_pos (by simpa using hfriend)]
        refine (subperm_cons friend).mpr ?_
        by_cases ha : 0 ≤ a
        · rw [filter_cons_of_pos (by simpa using ha)]
          exact (sublist_cons_self a _).subperm
        · rw [filter_cons_of_neg (by simpa using ha)]
      · rw [filter_cons_of_neg (by simpa using hfriend)]
        refine List.Sublist.subperm ?_
        by_cases ha : 0 ≤ a
        · rw [filter_cons_of_pos (by simpa using ha)]
          exact (sublist_cons_self a _).trans (sublist_cons_self friend _)
        · rw [filter_cons_of_neg (by simpa using ha)]
          exact sublist_cons_self friend _
    | succ i =>
      rw [set_cons_succ]
      by_cases ha : 0 ≤ a
      · rw [filter_cons_of_pos (by simpa using ha), filter_cons_of_pos (by simpa using ha)]
        exact ((subperm_cons a).mpr (ih i)).trans (List.Perm.swap friend a _).subperm
      · rw [filter_cons_of_neg (by simpa using ha), filter_cons_of_neg (by simpa using ha)]
        exact ih i

theorem filter_set_neg {l : List Int} {i : Nat} {friend : Int} (hfriend : 0 ≤ friend)
    (h : l.findIdx? (· == friend) = some i) :
    (l.set i (-1)).filter (0 ≤ ·) = (l.filter (0 ≤ ·)).erase friend := by
  induction l generalizing i with
  | nil => exact absurd h (by simp)
  | cons a l ih =>
    rw [findIdx?_cons] at h
    by_cases ha : a = friend
    · rw [if_pos (by simpa using ha)] at h
      cases h
      rw [set_cons_zero, ha, filter_cons_of_neg (by simp),
        filter_cons_of_pos (by simpa using hfriend), erase_cons_head]
    · rw [if_neg (by simpa using ha)] at h
      obtain ⟨j, hj, rfl⟩ := Option.map_eq_some_iff.mp h
      rw [set_cons_succ]
      by_cases hpos : 0 ≤ a
      · rw [filter_cons_of_pos (by simpa using hpos), filter_cons_of_pos (by simpa using hpos),
          erase_cons_tail (by simpa using ha), ih hj]
      · rw [filter_cons_of_neg (by simpa using hpos), filter_cons_of_neg (by simpa using hpos), ih hj]

theorem mem_ring (hfriend : 0 ≤ friendNumber) :
    friendNumber ∈ slot.ring ↔ friendNumber ∈ slot.savedInvites := by
  rw [ring]
  simp [hfriend]

theorem ring_friendWasInvited (hfriend : 0 ≤ friendNumber) :
    (slot.friendWasInvited env friendNumber).2.ring = slot.ring.erase friendNumber := by
  rw [friendWasInvited]
  split
  · rename_i hnone
    rw [erase_of_not_mem]
    intro hmem
    have hfound := findIdx?_eq_none_iff.mp hnone friendNumber ((mem_ring hfriend).mp hmem)
    exact absurd hfound (by simp)
  · exact filter_set_neg hfriend ‹_›

theorem chat_friendWasInvited : (slot.friendWasInvited env friendNumber).2.chat = slot.chat := by
  rw [friendWasInvited]
  split <;> rfl

theorem connectionState_peerAdd (chat : GCChat) (env : ChatEnv) (publicKey : PublicKey) :
    (chat.peerAdd env none publicKey).2.connectionState = chat.connectionState := by
  rw [GCChat.peerAdd]
  split
  · rfl
  split <;> rfl

theorem peerAdd_of_not_added {chat : GCChat} {env : ChatEnv} {publicKey : PublicKey}
    (h : ∀ peerNumber, (chat.peerAdd env none publicKey).1 ≠ .added peerNumber) :
    (chat.peerAdd env none publicKey).2 = chat := by
  rw [GCChat.peerAdd] at h ⊢
  split
  · rfl
  rename_i hnew
  rw [if_neg hnew] at h
  split
  · rfl
  · rename_i peerId hid
    rw [hid] at h
    exact absurd rfl (h _)

theorem acceptInvite_effect (slot : GCSlot) (env : InviteEnv) (hfriend : 0 ≤ friendNumber)
    (publicKey : PublicKey) :
    (slot.acceptInvite env friendNumber publicKey).2.ring = slot.ring.erase friendNumber ∧
    (slot.acceptInvite env friendNumber publicKey).2.chat.connectionState = slot.chat.connectionState ∧
    ((∀ peerNumber, (slot.chat.peerAdd env.toChatEnv none publicKey).1 ≠ .added peerNumber) →
      (slot.acceptInvite env friendNumber publicKey).2.chat = slot.chat) := by
  have hring := @ring_friendWasInvited
    { slot with chat := (slot.chat.peerAdd env.toChatEnv none publicKey).2 } env friendNumber hfriend
  have hchat := @chat_friendWasInvited
    { slot with chat := (slot.chat.peerAdd env.toChatEnv none publicKey).2 } env friendNumber
  have hstate := connectionState_peerAdd slot.chat env.toChatEnv publicKey
  have hnot := @peerAdd_of_not_added slot.chat env.toChatEnv publicKey
  rw [acceptInvite]
  generalize hadd : slot.chat.peerAdd env.toChatEnv none publicKey = result at *
  obtain ⟨added, chat⟩ := result
  dsimp only at hring hchat hstate hnot ⊢
  -- everything after `friend_was_invited` only changes the connection of the new peer
  split
  · rename_i slot' heq
    rw [heq] at hring hchat
    exact ⟨hring, hchat ▸ hstate, fun h => hchat.trans (hnot h)⟩
  · rename_i slot' heq
    rw [heq] at hring hchat
    rw [← hchat] at hstate
    cases added with
    | «exists» => exact ⟨hring, hstate, fun h => hchat.trans (hnot h)⟩
    | failed => exact ⟨hring, hstate, fun h => hchat.trans (hnot h)⟩
    | added peerNumber =>
      have habsurd : ∀ {P : Prop}, (∀ n, GCChat.PeerAdd.added peerNumber ≠ .added n) → P :=
        fun h => absurd rfl (h peerNumber)
      dsimp only
      split
      · exact ⟨hring, hstate, habsurd⟩
      split
      · exact ⟨hring, hstate, habsurd⟩
      split
      · exact ⟨hring, hstate, habsurd⟩
      · exact ⟨hring, hstate, habsurd⟩

end GCSlot

/-! ## Runs -/

namespace InviteWorld

variable {world : InviteWorld}

def Tracked (world : InviteWorld) : Prop :=
  ∀ (groupNumber : Nat) (slot : GCSlot), world.session.chats[groupNumber]? = some slot →
    slot.chat.connectionState ≠ .none → slot.ring.Subperm (world.unused groupNumber)

theorem handleGcInviteAcceptedPacket_effect (session : GCSession) (env : InviteEnv)
    (friendNumber : Int) (data : Bytes) :
    (session.handleGcInviteAcceptedPacket env friendNumber data).2 = session ∨
      ∃ groupNumber slot, gcJoinDataLength ≤ data.length ∧
        session.gcGetGroupByPublicKey (bytesToVector _ data) = some groupNumber ∧
        session.chats[groupNumber]? = some slot ∧ slot.chat.groupCanHandlePackets = true ∧
        (session.handleGcInviteAcceptedPacket env friendNumber data).2 =
          { chats := session.chats.set groupNumber (slot.acceptInvite env friendNumber
            (bytesToVector _ (data.drop sigPublicKeySize))).2 } := by
  rw [GCSession.handleGcInviteAcceptedPacket]
  split
  · exact .inl rfl
  rename_i hlen
  split
  · exact .inl rfl
  rename_i groupNumber hgroup
  split
  · exact .inl rfl
  rename_i slot hslot
  split
  · exact .inl rfl
  rename_i hhandles
  exact .inr ⟨groupNumber, slot, Nat.le_of_not_lt hlen, hgroup, hslot, by simpa using hhandles, rfl⟩

theorem ne_none_of_groupCanHandlePackets {chat : GCChat} (h : chat.groupCanHandlePackets = true) :
    chat.connectionState ≠ .none := by
  intro hnone
  rw [GCChat.groupCanHandlePackets, hnone] at h
  exact absurd h (by decide)

theorem Tracked.respected (h : world.Tracked) {action : InviteAction}
    (henabled : world.Enabled action) (hcareful : world.Careful action) :
    world.Respected action := by
  cases action with
  | create | delete | invite | other => trivial
  | accepted env friendNumber data =>
    intro groupNumber hunused
    rcases handleGcInviteAcceptedPacket_effect world.session env friendNumber data with
      hsame | ⟨number, slot, hlen, hgroup, hslot, hhandles, hsession⟩
    · rw [hsame]
    · rw [hsession, GCSession.groupOf, GCSession.groupOf, getElem?_set]
      split
      · rename_i heq
        subst heq
        rw [if_pos (List.getElem?_eq_some_iff.mp hslot).1, hslot]
        have hring : friendNumber ∉ slot.ring := fun hmem =>
          hunused ((h number slot hslot (ne_none_of_groupCanHandlePackets hhandles)).subset hmem)
        have hnot := (hcareful hlen number slot hgroup hslot hhandles).resolve_left
          (fun hmem => hring ((GCSlot.mem_ring henabled).mpr hmem))
        rw [Option.map_some, Option.map_some, (GCSlot.acceptInvite_effect slot env henabled _).2.2 hnot]
      · rfl

theorem ring_eq_nil {slot : GCSlot} (h : ∀ friend ∈ slot.savedInvites, friend < 0) :
    slot.ring = [] := by
  rw [GCSlot.ring, filter_eq_nil_iff]
  intro friend hmem
  simpa using h friend hmem

theorem newGroup_chats (session : GCSession) (chat : GCChat) (n : Nat) {slot : GCSlot}
    (h : (session.newGroup chat).2.chats[n]? = some slot) :
    n ≠ (session.newGroup chat).1 ∧ session.chats[n]? = some slot ∨
    n = (session.newGroup chat).1 ∧
      ((∃ old, session.chats.findIdx? (·.chat.connectionState == .none) = some n ∧
          session.chats[n]? = some old ∧ slot.savedInvites = old.savedInvites) ∨
        slot.savedInvites = List.replicate maxGcSavedInvites (-1)) := by
  cases hfind : session.chats.findIdx? (·.chat.connectionState == .none) with
  | some number =>
    have hnew : session.newGroup chat = (number,
        { chats := session.chats.modify number fun slot => { slot with chat } }) := by
      rw [GCSession.newGroup, GCSession.getNewGroupIndex, hfind]
    rw [hnew] at h ⊢
    rw [getElem?_modify] at h
    obtain ⟨old, hold, hslot⟩ := Option.map_eq_some_iff.mp h
    by_cases hn : number = n
    · rw [if_pos hn] at hslot
      exact .inr ⟨hn.symm, .inl ⟨old, hn ▸ rfl, hold, hslot ▸ rfl⟩⟩
    · rw [if_neg hn] at hslot
      exact .inl ⟨fun heq => hn heq.symm, hslot ▸ hold⟩
  | none =>
    have hnew : session.newGroup chat = (session.chats.length,
        { chats := (session.chats ++
            [{ emptySlot with savedInvites := List.replicate maxGcSavedInvites (-1) }]).modify
              session.chats.length fun slot => { slot with chat } }) := by
      rw [GCSession.newGroup, GCSession.getNewGroupIndex, hfind]
    rw [hnew] at h ⊢
    rw [getElem?_modify] at h
    obtain ⟨old, hold, hslot⟩ := Option.map_eq_some_iff.mp h
    by_cases hn : session.chats.length = n
    · rw [if_pos hn] at hslot
      rw [← hn, getElem?_concat_length] at hold
      cases hold
      exact .inr ⟨hn.symm, .inr (hslot ▸ rfl)⟩
    · rw [if_neg hn] at hslot
      subst hslot
      left
      refine ⟨fun heq => hn heq.symm, ?_⟩
      rw [getElem?_append_left] at hold
      · exact hold
      · have hlt := (List.getElem?_eq_some_iff.mp hold).1
        rw [length_append, length_singleton] at hlt
        omega

theorem Tracked.apply (h : world.Tracked) {action : InviteAction} (henabled : world.Enabled action)
    (hcareful : world.Careful action) : (world.apply action).Tracked := by
  cases action with
  | create chat =>
    intro n slot hslot hstate
    rw [InviteWorld.apply] at hslot ⊢
    dsimp only at hslot ⊢
    rcases newGroup_chats world.session chat n hslot with ⟨hne, hold⟩ | ⟨heq, hnew⟩
    · rw [Function.update_of_ne hne]
      exact h n slot hold hstate
    · rw [heq, Function.update_self]
      -- the ring of a new group is empty
      have hempty : slot.ring = [] := by
        rcases hnew with ⟨old, hfound, hold, hinvites⟩ | hinvites
        · apply ring_eq_nil
          rw [hinvites]
          exact hcareful n old hfound hold
        · rw [GCSlot.ring, hinvites]
          decide
      rw [hempty]
  | delete groupNumber =>
    intro n slot hslot hstate
    have hkept := ( rdropWhile_prefix _ _).getElem?_eq_some hslot
    rw [getElem?_modify] at hkept
    obtain ⟨old, hold, heq⟩ := Option.map_eq_some_iff.mp hkept
    split at heq
    · rw [← heq] at hstate
      exact absurd rfl hstate
    · subst heq
      exact h n _ hold hstate
  | invite env groupNumber friendNumber =>
    intro n slot hslot hstate
    rw [InviteWorld.apply] at hslot ⊢
    cases hold : world.session.chats[groupNumber]? with
    | none =>
      rw [hold] at hslot
      exact h n slot hslot hstate
    | some old =>
      rw [hold] at hslot
      dsimp only at hslot ⊢
      rw [getElem?_set] at hslot
      by_cases hn : groupNumber = n
      · subst hn
        rw [if_pos rfl, if_pos (List.getElem?_eq_some_iff.mp hold).1] at hslot
        cases hslot
        rw [Function.update_self]
        rw [GCSlot.gcInviteFriend] at hstate ⊢
        split
        · rename_i hinvalid
          rw [if_pos hinvalid] at hstate
          exact h groupNumber old hold hstate
        rename_i hvalid
        rw [if_neg hvalid] at hstate
        split
        · rename_i hfailed
          rw [if_pos hfailed] at hstate
          exact h groupNumber old hold hstate
        · rename_i hsent
          rw [if_neg hsent] at hstate
          exact (GCSlot.filter_set_subperm _ _ _).trans
            ((subperm_cons friendNumber).mpr (h groupNumber old hold hstate))
      · rw [if_neg hn] at hslot
        rw [Function.update_of_ne (fun heq => hn heq.symm)]
        exact h n slot hslot hstate
  | accepted env friendNumber data =>
    intro n slot hslot hstate
    rw [InviteWorld.apply] at hslot ⊢
    dsimp only at hslot ⊢
    rcases handleGcInviteAcceptedPacket_effect world.session env friendNumber data with
      hsame | ⟨number, old, -, -, hold, hhandles, hsession⟩
    · rw [hsame] at hslot ⊢
      rw [if_pos rfl]
      exact h n slot hslot hstate
    · rw [hsession] at hslot ⊢
      rw [getElem?_set] at hslot
      by_cases hn : number = n
      · subst hn
        rw [if_pos rfl, if_pos (List.getElem?_eq_some_iff.mp hold).1] at hslot
        cases hslot
        have hsub := h number old hold (ne_none_of_groupCanHandlePackets hhandles)
        rw [(GCSlot.acceptInvite_effect old env henabled _).1]
        split
        · exact erase_sublist.subperm.trans hsub
        · exact hsub.erase friendNumber
      · rw [if_neg hn] at hslot
        rw [if_pos (by rw [GCSession.groupOf, GCSession.groupOf, getElem?_set_ne hn])]
        exact h n slot hslot hstate
  | other groupNumber chat =>
    intro n slot hslot hstate
    rw [InviteWorld.apply] at hslot ⊢
    rw [getElem?_modify] at hslot
    obtain ⟨old, hold, heq⟩ := Option.map_eq_some_iff.mp hslot
    split at heq
    · rename_i hn
      subst hn heq
      obtain ⟨⟨current, hcurrent, hinUse⟩, -⟩ := henabled
      obtain rfl : current = old := Option.some.inj (hcurrent.symm.trans hold)
      exact h groupNumber current hold hinUse
    · subst heq
      exact h n _ hold hstate

/-- In every run of careful steps, a packet adds a peer only with an unused invite. -/
theorem respected_of_careful (world : InviteWorld) (h : carefulSystem.Reachable world)
    (action : InviteAction) (henabled : world.Enabled action) (hcareful : world.Careful action) :
    world.Respected action := by
  apply Tracked.respected _ henabled hcareful
  refine h.invariant (fun world hinit n slot hslot _ => ?_) fun world world' hworld hstep => ?_
  · rw [hinit] at hslot
    exact absurd hslot (by simp)
  · obtain ⟨action, henabled, hcareful, rfl⟩ := hstep
    exact hworld.apply henabled hcareful

/-! ## A friend that was not invited -/

def noGroups : InviteWorld where
  session := { chats := [] }
  unused _ := []

theorem noGroups_init : noGroups.session.chats = [] := rfl

noncomputable def oneGroup : InviteWorld := noGroups.apply (.create GCChat.joiningChat)

def quietInviteEnv : InviteEnv where
  toChatEnv := GCChat.quietChatEnv
  friendIsValid _ := true
  friendIpPort := none
  relays := []
  addTcpRelayConnection _ := false
  sendFriend := true

def joinData : Bytes := GCChat.chatSigPk.toList ++ List.replicate 32 5

theorem oneGroup_reachable : carefulSystem.Reachable oneGroup := by
  refine .step (.init noGroups_init) ⟨.create GCChat.joiningChat, trivial, ?_, rfl⟩
  intro groupNumber slot hfound
  exact absurd hfound (by simp [noGroups])

/-- Friend `0` was never invited, and a packet of this friend adds a peer to the group. -/
theorem not_respected :
    system.Reachable oneGroup ∧ oneGroup.Enabled (.accepted quietInviteEnv 0 joinData) ∧
    oneGroup.unused 0 = [] ∧ ¬oneGroup.Respected (.accepted quietInviteEnv 0 joinData) := by
  refine ⟨.step (.init noGroups_init) ⟨.create GCChat.joiningChat, trivial, rfl⟩, Int.le_refl 0,
    by decide +kernel, ?_⟩
  intro hrespected
  have hsame := congrArg (Option.map List.length) (hrespected 0 (by decide +kernel))
  exact absurd hsame (by decide +kernel)

/-- Friend `0` was invited. -/
noncomputable def oneInvite : InviteWorld := oneGroup.apply (.invite quietInviteEnv 0 0)

/-- With the invite the packet is allowed to add the peer. -/
theorem respected_of_careful_oneInvite :
    carefulSystem.Reachable oneInvite ∧ oneInvite.Enabled (.accepted quietInviteEnv 0 joinData) ∧
    oneInvite.Careful (.accepted quietInviteEnv 0 joinData) ∧
    oneInvite.unused 0 = [0] ∧ oneInvite.Respected (.accepted quietInviteEnv 0 joinData) := by
  have hreachable : carefulSystem.Reachable oneInvite := by
    refine .step oneGroup_reachable ⟨.invite quietInviteEnv 0 0, ⟨?_, Int.le_refl 0⟩, trivial, rfl⟩
    refine ⟨_, rfl, ?_⟩
    decide +kernel
  have hcareful : oneInvite.Careful (.accepted quietInviteEnv 0 joinData) := by
    intro _ groupNumber slot hgroup hslot _
    have hzero : oneInvite.session.gcGetGroupByPublicKey (bytesToVector _ joinData) = some 0 := by
      decide +kernel
    cases hgroup.symm.trans hzero
    left
    have hring : oneInvite.session.chats[0]?.map GCSlot.savedInvites =
        some (0 :: List.replicate 9 (-1)) := by decide +kernel
    rw [hslot] at hring
    rw [Option.some.inj hring]
    exact mem_cons_self
  exact ⟨hreachable, Int.le_refl 0, hcareful, by decide +kernel,
    respected_of_careful oneInvite hreachable _ (Int.le_refl 0) hcareful⟩

end InviteWorld

end Toxcore

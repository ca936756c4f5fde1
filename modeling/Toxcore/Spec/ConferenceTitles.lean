import Mathlib.Data.UInt
import Toxcore.Native.GroupPackets
import Toxcore.Spec.PeerTable

/-!
# Titles of a conference

A title comes in a message of a peer or in a direct packet.  `settitle` tests a length of 8 bits, while its
callers have one of 16 bits, so that some payloads of more than 256 bytes pass the test.
-/

namespace Toxcore

/-- The payload was taken whole, or the title did not change; one that is too long was not relayed. -/
structure TakenWhole (title title' : Name) (payload : Bytes) (relayed : List Nat) : Prop where
  stored : title' = title ∨ (title'.1 = payload ∧ 1 ≤ payload.length ∧ payload.length ≤ maxNameLength)
  relayed : maxNameLength < payload.length → relayed = []

/-- The payload is too long, but its length has 8 bits that pass the test of `settitle`. -/
def Truncates (payload : Bytes) : Prop :=
  maxNameLength < payload.length ∧ 1 ≤ payload.length % 256 ∧ payload.length % 256 ≤ maxNameLength

instance (payload : Bytes) : Decidable (Truncates payload) :=
  inferInstanceAs (Decidable (_ ∧ _ ∧ _))

/-- The part of the payload that `settitle` takes for the title. -/
def titlePart (payload : Bytes) : Bytes := payload.take (payload.length % 256)

namespace GroupC

variable {g : GroupC} {payload : Bytes}

theorem settitle_fst : (g.settitle payload (UInt8.ofNat payload.length)).1 = true ↔
    1 ≤ payload.length % 256 ∧ payload.length % 256 ≤ maxNameLength := by
  have hlength : (UInt8.ofNat payload.length).toNat = payload.length % 256 := by simp
  have hzero : UInt8.ofNat payload.length ≠ 0 ↔ 1 ≤ payload.length % 256 := by
    rw [Ne, ← UInt8.toNat_inj]
    show _ ≠ 0 ↔ _
    omega
  rw [settitle, ← hzero]
  split
  · rename_i h
    split
    · exact ⟨fun _ => ⟨h.2, h.1⟩, fun _ => rfl⟩
    · exact ⟨fun _ => ⟨h.2, h.1⟩, fun _ => rfl⟩
  · rename_i h
    simp only [Bool.false_eq_true, false_iff]
    exact fun hboth => h ⟨hboth.2, hboth.1⟩

theorem settitle_title (h : (g.settitle payload (UInt8.ofNat payload.length)).1 = true) :
    (g.settitle payload (UInt8.ofNat payload.length)).2.title.1 = titlePart payload := by
  have hlength : (UInt8.ofNat payload.length).toNat = payload.length % 256 := by simp
  rw [settitle] at h ⊢
  split at h
  · rename_i hfits
    rw [dif_pos hfits]
    split
    · rename_i heq
      -- the same title as already set
      exact heq
    · rfl
  · simp at h

theorem settitle_title_of_false (h : (g.settitle payload (UInt8.ofNat payload.length)).1 = false) :
    (g.settitle payload (UInt8.ofNat payload.length)).2 = g := by
  rw [settitle] at h ⊢
  split at h
  · split at h
    · simp at h
    · simp at h
  · rename_i hfits
    rw [dif_neg hfits]

theorem connections_settitle :
    (g.settitle payload (UInt8.ofNat payload.length)).2.connections = g.connections := by
  rw [settitle]
  split
  · split
    · rfl
    · rfl
  · rfl

theorem takenWhole_settitle_iff (h : (g.settitle payload (UInt8.ofNat payload.length)).1 = true)
    (relayed : List Nat) :
    TakenWhole g.title (g.settitle payload (UInt8.ofNat payload.length)).2.title payload relayed ↔
      (Truncates payload → titlePart payload = g.title.1 ∧ relayed = []) := by
  have htitle := settitle_title h
  obtain ⟨hone, hmax⟩ := settitle_fst.mp h
  constructor
  · intro hwhole htruncates
    refine ⟨?_, hwhole.relayed htruncates.1⟩
    cases hwhole.stored with
    | inl hsame => rw [← htitle, hsame]
    | inr hstored =>
      have hlong := htruncates.1
      omega
  · intro hcond
    by_cases hlong : maxNameLength < payload.length
    · obtain ⟨hsame, hrelayed⟩ := hcond ⟨hlong, hone, hmax⟩
      exact ⟨.inl (Subtype.ext (htitle.trans hsame)), fun _ => hrelayed⟩
    · -- the length fits into 8 bits
      have hmod : payload.length % 256 = payload.length := by
        have hsize : maxNameLength = 128 := rfl
        omega
      have hpart : titlePart payload = payload := by rw [titlePart, hmod, List.take_length]
      exact ⟨.inr ⟨htitle.trans hpart, by omega, by omega⟩, fun hlong' => absurd hlong' hlong⟩

section

variable (h : (g.settitle payload (UInt8.ofNat payload.length)).1 = false)
include h

theorem takenWhole_of_settitle_false :
    TakenWhole g.title (g.settitle payload (UInt8.ofNat payload.length)).2.title payload [] := by
  rw [settitle_title_of_false h]
  exact ⟨.inl rfl, fun _ => rfl⟩

theorem not_truncates_of_settitle_false : ¬Truncates payload := by
  intro htruncates
  rw [settitle_fst.mpr htruncates.2] at h
  simp at h

end

theorem title_notePeerActive (g : GroupC) (env : GroupEnv) (peerNumber : UInt16) :
    (g.notePeerActive env peerNumber).2.title = g.title := by
  unfold notePeerActive
  split
  · rfl
  · split
    · rfl
    · split
      · rfl
      · rename_i peer _
        have hbase := base_addToClosest g peer.realPk peer.tempPk
        simp only [thawPeer, deleteFrozen]
        split
        · exact (congrArg GroupC.title hbase :)
        · exact (congrArg GroupC.title hbase :)

end GroupC

namespace Conference

open GroupC

variable (conf : Conference) (env : GroupEnv)

theorem base_endIntroductions (peer : GroupPeer) (connectionIndex : Nat) :
    (conf.endIntroductions env peer connectionIndex).g.base = conf.g.base := by
  have hloop : ∀ (slots : List Nat) (conf : Conference),
      (slots.foldl (endIntroduction env peer.realPk connectionIndex) conf).g.base = conf.g.base := by
    intro slots
    induction slots with
    | nil => exact fun _ => rfl
    | cons i slots ih =>
      intro conf
      refine (ih _).trans ?_
      unfold endIntroduction
      split
      · rfl
      · split_ifs
        · rfl
        · exact conf.base_removeConnectionReason i .introducer
        · rfl
  rw [endIntroductions]
  split
  · exact hloop _ conf
  · rfl

theorem title_admitMessage (connectionIndex : Nat) (peerNumber : UInt16) (message : MessageInfo) :
    (conf.admitMessage env connectionIndex peerNumber message).2.g.title = conf.g.title := by
  have hnote := conf.g.title_notePeerActive env peerNumber
  rw [admitMessage]
  generalize hfound : (if message.messageId = groupMessageFreezePeerId
    then (conf.g.getPeerIndex peerNumber, conf.g) else conf.g.notePeerActive env peerNumber) = found
  have htitle : found.2.title = conf.g.title := by
    rw [← hfound]
    split
    · rfl
    · exact hnote
  obtain ⟨index, g⟩ := found
  dsimp only at htitle ⊢
  split
  · exact htitle
  · split
    · exact htitle
    · rename_i peer _
      have hbase := base_endIntroductions { conf with g } env peer connectionIndex
      have hend := (congrArg GroupC.title hbase :).trans htitle
      split
      · exact hend
      · exact hend

def relayTargets (connectionIndex : Nat) (peer : GroupPeer) : List Nat :=
  conf.g.messageTargets
    (if peer.realPk == conf.connectionKey env connectionIndex then none else some connectionIndex)

theorem handleMessagePacketGroup_title (connectionIndex : Nat) {data : Bytes}
    (hlength : messageHeaderSize ≤ data.length) (hid : data.getD 6 0 = groupMessageTitleId) :
    conf.handleMessagePacketGroup env connectionIndex data =
      match conf.admitMessage env connectionIndex (netUnpackU16 data)
          { messageNumber := netUnpackU32 (data.drop 2), messageId := groupMessageTitleId } with
      | (none, conf') => (conf', [])
      | (some (_, peer), conf') =>
        let payload := data.drop messageHeaderSize
        match conf'.g.settitle payload (UInt8.ofNat payload.length) with
        | (false, _) => (conf', [])
        | (true, g) => ({ conf' with g }, conf'.relayTargets env connectionIndex peer) := by
  rw [handleMessagePacketGroup, if_neg (Nat.not_lt.mpr hlength)]
  dsimp only
  rw [hid]
  generalize conf.admitMessage env connectionIndex (netUnpackU16 data)
    { messageNumber := netUnpackU32 (data.drop 2), messageId := groupMessageTitleId } = admitted
  obtain ⟨found, conf'⟩ := admitted
  cases found with
  | none => rfl
  | some found =>
    obtain ⟨index, peer⟩ := found
    have hswitch : conf'.handleMessage env index (netUnpackU16 data) groupMessageTitleId
        (data.drop messageHeaderSize) =
        match conf'.g.settitle (data.drop messageHeaderSize)
            (UInt8.ofNat (data.drop messageHeaderSize).length) with
        | (false, _) => none
        | (true, g) => some { conf' with g } := rfl
    have hconnections := @connections_settitle conf'.g (data.drop messageHeaderSize)
    dsimp only
    rw [hswitch]
    generalize conf'.g.settitle (data.drop messageHeaderSize)
      (UInt8.ofNat (data.drop messageHeaderSize).length) = result at hconnections ⊢
    obtain ⟨stored, g⟩ := result
    cases stored with
    | false => rfl
    | true =>
      -- the title has no part in the connections
      dsimp only at hconnections ⊢
      rw [relayTargets, messageTargets, messageTargets, hconnections]

/-- The message is admitted, and is not truncated, or neither changes the title nor is relayed. -/
def MessageFits (connectionIndex : Nat) (data : Bytes) : Prop :=
  ∀ index peer conf', conf.admitMessage env connectionIndex (netUnpackU16 data)
      { messageNumber := netUnpackU32 (data.drop 2), messageId := groupMessageTitleId } =
        (some (index, peer), conf') →
    Truncates (data.drop messageHeaderSize) →
      titlePart (data.drop messageHeaderSize) = conf.g.title.1 ∧
        conf'.relayTargets env connectionIndex peer = []

/-- A title in a direct packet is not truncated, or it is not looked at, or it is the title already. -/
def DirectFits (payload : Bytes) : Prop :=
  conf.g.titleFresh = false → Truncates payload → titlePart payload = conf.g.title.1

theorem takenWhole_message_iff (connectionIndex : Nat) {data : Bytes}
    (hlength : messageHeaderSize ≤ data.length) (hid : data.getD 6 0 = groupMessageTitleId) :
    TakenWhole conf.g.title (conf.handleMessagePacketGroup env connectionIndex data).1.g.title
        (data.drop messageHeaderSize) (conf.handleMessagePacketGroup env connectionIndex data).2 ↔
      conf.MessageFits env connectionIndex data := by
  have htitle := conf.title_admitMessage env connectionIndex (netUnpackU16 data)
    { messageNumber := netUnpackU32 (data.drop 2), messageId := groupMessageTitleId }
  rw [conf.handleMessagePacketGroup_title env connectionIndex hlength hid, MessageFits]
  generalize conf.admitMessage env connectionIndex (netUnpackU16 data)
    { messageNumber := netUnpackU32 (data.drop 2), messageId := groupMessageTitleId } = admitted at htitle ⊢
  obtain ⟨found, conf'⟩ := admitted
  cases found with
  | none =>
    -- the message is not from a peer, or it was received before
    constructor
    · exact fun _ index peer conf'' heq => by simp at heq
    · exact fun _ => ⟨.inl htitle, fun _ => rfl⟩
  | some found =>
    obtain ⟨index, peer⟩ := found
    dsimp only
    cases hresult : (conf'.g.settitle (data.drop messageHeaderSize)
        (UInt8.ofNat (data.drop messageHeaderSize).length)).1 with
    | false =>
      have hnot := not_truncates_of_settitle_false hresult
      rw [show conf'.g.settitle (data.drop messageHeaderSize)
        (UInt8.ofNat (data.drop messageHeaderSize).length) = (false, _) from Prod.ext hresult rfl]
      constructor
      · exact fun _ _ _ _ _ htruncates => absurd htruncates hnot
      · exact fun _ => ⟨.inl htitle, fun _ => rfl⟩
    | true =>
      have hiff := takenWhole_settitle_iff hresult (conf'.relayTargets env connectionIndex peer)
      rw [show conf'.g.settitle (data.drop messageHeaderSize)
        (UInt8.ofNat (data.drop messageHeaderSize).length) = (true, _) from Prod.ext hresult rfl]
      rw [htitle] at hiff
      rw [hiff]
      constructor
      · intro hcond index' peer' conf'' heq
        obtain ⟨hfound, rfl⟩ := Prod.mk.inj heq
        cases hfound
        exact hcond
      · exact fun hcond => hcond index peer conf' rfl

theorem takenWhole_direct_iff (selfPublicKey : PublicKey) (send : Bytes → Bool) (connectionIndex : Nat)
    (payload : Bytes) :
    TakenWhole conf.g.title
        (conf.handleDirectPacket env selfPublicKey send connectionIndex (peerTitleId :: payload)).1.g.title
        payload [] ↔ conf.DirectFits payload := by
  have hpacket : (conf.handleDirectPacket env selfPublicKey send connectionIndex
      (peerTitleId :: payload)).1.g.title = if !conf.g.titleFresh
        then (conf.g.settitle payload (UInt8.ofNat payload.length)).2.title else conf.g.title := by
    rw [handleDirectPacket, if_neg (by decide), if_neg (by decide), if_neg (by decide), if_pos rfl]
    split
    · rfl
    · rfl
  rw [hpacket, DirectFits]
  cases hfresh : conf.g.titleFresh with
  | true =>
    constructor
    · exact fun _ heq => by simp at heq
    · exact fun _ => ⟨.inl rfl, fun _ => rfl⟩
  | false =>
    simp only [Bool.not_false, if_true, true_imp_iff]
    cases hresult : (conf.g.settitle payload (UInt8.ofNat payload.length)).1 with
    | false =>
      exact ⟨fun _ htruncates => absurd htruncates (not_truncates_of_settitle_false hresult),
        fun _ => takenWhole_of_settitle_false hresult⟩
    | true =>
      rw [takenWhole_settitle_iff hresult]
      simp

/-- Titles are taken whole or not at all, exactly if no payload is truncated that is used. -/
theorem titlesWhole_iff (connectionIndex : Nat) :
    (∀ data : Bytes, messageHeaderSize ≤ data.length → data.getD 6 0 = groupMessageTitleId →
      (TakenWhole conf.g.title (conf.handleMessagePacketGroup env connectionIndex data).1.g.title
          (data.drop messageHeaderSize) (conf.handleMessagePacketGroup env connectionIndex data).2 ↔
        conf.MessageFits env connectionIndex data)) ∧
    ∀ (selfPublicKey : PublicKey) (send : Bytes → Bool) (payload : Bytes),
      (TakenWhole conf.g.title
          (conf.handleDirectPacket env selfPublicKey send connectionIndex (peerTitleId :: payload)).1.g.title
          payload [] ↔ conf.DirectFits payload) :=
  ⟨fun _ hlength hid => conf.takenWhole_message_iff env connectionIndex hlength hid,
    fun selfPublicKey send payload =>
      conf.takenWhole_direct_iff env selfPublicKey send connectionIndex payload⟩

def twoPeers : Conference where
  g := { emptyGroupC with
    status := .connected
    realPk := Vector.replicate _ 1
    peerNumber := 1
    group := [{ emptyGroupPeer with realPk := Vector.replicate _ 1, peerNumber := 1 },
      { emptyGroupPeer with realPk := Vector.replicate _ 2, peerNumber := 2 }]
    connections := emptyGroupC.connections.set 0
      { type := .online, reasons := Reason.closest.flag, number := 0, groupNumber := 0 } }
  frC := { conns := [{ status := .connected, realPublicKey := Vector.replicate _ 2, lockCount := 0 }] }

def titleMessage (payload : Bytes) : Bytes :=
  netPackU16 2 ++ netPackU32 1 ++ [groupMessageTitleId] ++ payload

/-- A title of three bytes. -/
theorem titlesWhole_iff_short :
    TakenWhole twoPeers.g.title (twoPeers.handleMessagePacketGroup quietEnv 0 (titleMessage [1, 2, 3])).1.g.title
        ((titleMessage [1, 2, 3]).drop messageHeaderSize)
        (twoPeers.handleMessagePacketGroup quietEnv 0 (titleMessage [1, 2, 3])).2 ↔
      twoPeers.MessageFits quietEnv 0 (titleMessage [1, 2, 3]) :=
  (titlesWhole_iff twoPeers quietEnv 0).1 (titleMessage [1, 2, 3]) (by decide) (by decide)

/-- Of 257 bytes the first one becomes the title, and all of them are relayed. -/
theorem not_titlesWhole_long :
    (twoPeers.handleMessagePacketGroup quietEnv 0 (titleMessage (List.replicate 257 1))).1.g.title.1 = [1] ∧
      (twoPeers.handleMessagePacketGroup quietEnv 0 (titleMessage (List.replicate 257 1))).2 = [0] ∧
      ¬TakenWhole twoPeers.g.title
        (twoPeers.handleMessagePacketGroup quietEnv 0 (titleMessage (List.replicate 257 1))).1.g.title
        (List.replicate 257 1)
        (twoPeers.handleMessagePacketGroup quietEnv 0 (titleMessage (List.replicate 257 1))).2 := by
  have hrun : (twoPeers.handleMessagePacketGroup quietEnv 0
        (titleMessage (List.replicate 257 1))).1.g.title.1 = [1] ∧
      (twoPeers.handleMessagePacketGroup quietEnv 0 (titleMessage (List.replicate 257 1))).2 = [0] := by
    decide +kernel
  refine ⟨hrun.1, hrun.2, fun hwhole => ?_⟩
  have hrelayed := hwhole.relayed (by rw [List.length_replicate]; decide)
  rw [hrun.2] at hrelayed
  simp at hrelayed

end Conference

end Toxcore

import Toxcore.Spec.NgcSendWindow

/-!
# Acknowledgements name messages

A receiver acknowledges a message after it has handed it to its handler, and it requests the message it needs
next.  `process_recv_array_entry` reads the id of the message from an entry that it has cleared.  A sender
finds the message for a request by its id, and an empty entry has the id 0.
-/

namespace Toxcore

open List

/-! ## Acknowledgements among packets -/

def ackOf : GCPacket → Option (UInt8 × UInt64)
  | .lossy encrypted =>
    if encrypted.plain.packetType = gpMessageAck then
      some (encrypted.plain.data.getD 0 0, netUnpackU64 (encrypted.plain.data.drop 1))
    else none
  | _ => none

/-- A handler leaves the receiving side of the connection alone, and sends no acknowledgements. -/
structure LosslessHelper.KeepsReceiving (helper : LosslessHelper) : Prop where
  received : ∀ link type data, (helper link type data).2.gconn.receivedMessageId = link.gconn.receivedMessageId
  recvArray : ∀ link type data, (helper link type data).2.gconn.recvArray = link.gconn.recvArray
  lastChunkId : ∀ link type data, (helper link type data).2.gconn.lastChunkId = link.gconn.lastChunkId
  handed : ∀ link type data, (helper link type data).2.handed = link.handed
  sent : ∀ link type data, ∃ packets, (helper link type data).2.sent = link.sent ++ packets ∧
    packets.filterMap ackOf = []

namespace PeerLink

variable {link link' link'' : PeerLink} {env : NgcEnv} {helper : LosslessHelper} {acks acks' : List (UInt8 × UInt64)}

def newAcks (link link' : PeerLink) : List (UInt8 × UInt64) :=
  (link'.sent.drop link.sent.length).filterMap ackOf

def Emits (link link' : PeerLink) (acks : List (UInt8 × UInt64)) : Prop :=
  ∃ packets, link'.sent = link.sent ++ packets ∧ packets.filterMap ackOf = acks

theorem Emits.newAcks (h : Emits link link' acks) : newAcks link link' = acks := by
  obtain ⟨packets, hsent, hacks⟩ := h
  rw [PeerLink.newAcks, hsent, drop_left, hacks]

theorem Emits.of_sent (h : link'.sent = link.sent) : Emits link link' [] := ⟨[], by simp [h], rfl⟩

theorem Emits.trans (h : Emits link link' acks) (h' : Emits link' link'' acks') :
    Emits link link'' (acks ++ acks') := by
  obtain ⟨packets, hsent, hacks⟩ := h
  obtain ⟨packets', hsent', hacks'⟩ := h'
  refine ⟨packets ++ packets', by simp [hsent', hsent], ?_⟩
  rw [filterMap_append, hacks, hacks']

def canSend (link : PeerLink) (env : NgcEnv) : Bool :=
  link.gconn.handshaked && !link.gconn.pendingDelete && env.sendOk

theorem sendLossyGroupPacket_emits (link : PeerLink) (env : NgcEnv) (type : UInt8) (id : UInt64) :
    Emits link (link.sendLossyGroupPacket env (ackData type id) gpMessageAck).2
      (if link.canSend env = true then [(type, id)] else []) := by
  have hdata : ackOf (.lossy (encryptDataSymmetric link.gconn.sessionSharedKey env.nonce
      ({ packetType := gpMessageAck, data := ackData type id } : LossyPlain))) = some (type, id) := by
    have hid := SendSide.netUnpackU64_ackData type id
    simp only [ackOf, encryptDataSymmetric, hid]
    rfl
  have hlength : (ackData type id).length = 9 := rfl
  rw [sendLossyGroupPacket, canSend]
  cases link.gconn.handshaked with
  | false => exact Emits.of_sent rfl
  | true =>
    cases link.gconn.pendingDelete with
    | true => exact Emits.of_sent rfl
    | false =>
      cases env.sendOk with
      | false => exact Emits.of_sent rfl
      | true => exact ⟨_, rfl, by simp [hdata]⟩

theorem gcSendMessageAckRecv_emits (link : PeerLink) (env : NgcEnv) (id : UInt64) :
    Emits link (link.gcSendMessageAckRecv env id).2
      (if link.canSend env = true then [(grAckRecv, id)] else []) := by
  rw [gcSendMessageAckRecv]
  split
  · rename_i hdelete
    rw [if_neg (by simp [canSend, hdelete])]
    exact Emits.of_sent rfl
  · exact link.sendLossyGroupPacket_emits env grAckRecv id

theorem gcSendMessageAckReq_emits (link : PeerLink) (env : NgcEnv) (id : UInt64) :
    (Emits link (link.gcSendMessageAckReq env id).2 [] ∨
      Emits link (link.gcSendMessageAckReq env id).2 [(grAckReq, id)]) ∧
    (link.gcSendMessageAckReq env id).2.handed = link.handed ∧
    (link.gcSendMessageAckReq env id).2.gconn.receivedMessageId = link.gconn.receivedMessageId ∧
    (link.gcSendMessageAckReq env id).2.gconn.recvArray = link.gconn.recvArray := by
  rw [gcSendMessageAckReq]
  split
  · exact ⟨.inl (Emits.of_sent rfl), rfl, rfl, rfl⟩
  · split
    · exact ⟨.inl (Emits.of_sent rfl), rfl, rfl, rfl⟩
    · have hemits := sendLossyGroupPacket_emits
        (link.withConn { link.gconn with lastRequestedPacketTime := env.now }) env grAckReq id
      obtain ⟨hgconn, hhanded⟩ := ReceiveSide.sendLossy_frame
        (link.withConn { link.gconn with lastRequestedPacketTime := env.now }) env (ackData grAckReq id) gpMessageAck
      rw [hgconn, hhanded]
      refine ⟨?_, rfl, rfl, rfl⟩
      split at hemits
      · exact .inr hemits
      · exact .inl hemits

/-- A call of the handler hands the message over and leaves the receiving side alone. -/
structure HandedOver (link link' : PeerLink) (packetType : UInt8) (data : Bytes) : Prop where
  received : link'.gconn.receivedMessageId = link.gconn.receivedMessageId
  recvArray : link'.gconn.recvArray = link.gconn.recvArray
  handed : link'.handed = link.handed ++ [(packetType, data)]
  emits : Emits link link' []

theorem callHelper_handedOver (hhelper : helper.KeepsReceiving) (link : PeerLink) (packetType : UInt8)
    (data : Bytes) : HandedOver link (link.callHelper helper packetType data).2 packetType data where
  received := hhelper.received _ _ _
  recvArray := hhelper.recvArray _ _ _
  handed := hhelper.handed _ _ _
  emits := hhelper.sent _ _ _

/-! ## One step of the receiver -/

def Holds (link : PeerLink) (id : UInt64) : Prop :=
  (link.gconn.recvArray (gccGetArrayIndex id)).isEmpty = false ∧
    (link.gconn.recvArray (gccGetArrayIndex id)).messageId = id

/-- A step deals with a message: it was handled, or stored in sequence as a fragment. -/
def Settles (env : NgcEnv) (plain : LosslessPlain) (link link' : PeerLink) : Prop :=
  link'.handed ≠ link.handed ∨
    (plain.packetType = gpFragment ∧ link'.gconn.receivedMessageId = plain.messageId ∧
      link'.gconn.recvArray (gccGetArrayIndex plain.messageId) =
        GCConnection.createArrayEntry env plain.data gpFragment plain.messageId)

/-- The acknowledgements for one message are right; `success` is whether the handler took it. -/
structure StepRight (env : NgcEnv) (settled : UInt64 → Prop) (link link' : PeerLink) (id : UInt64)
    (success : Prop) : Prop where
  recv : ∀ other, (grAckRecv, other) ∈ newAcks link link' → settled other
  own : link'.handed ≠ link.handed → success → link'.canSend env = true → (grAckRecv, id) ∈ newAcks link link'
  req : ∀ other, (grAckReq, other) ∈ newAcks link link' →
    other = link'.gconn.receivedMessageId + 1 ∧ ¬link'.Holds other

def Counted (settled : UInt64 → Prop) (link : PeerLink) : Prop :=
  ∀ id, id ≤ link.gconn.receivedMessageId → settled id

variable {id : UInt64}

theorem le_add_one_cases {received : UInt64} (h : id ≤ received + 1) : id ≤ received ∨ id = received + 1 := by
  by_cases heq : id = received + 1
  · exact .inr heq
  · left
    have hne := mt UInt64.toNat_inj.mp heq
    have hle := UInt64.le_iff_toNat_le.mp h
    have hone : (1 : UInt64).toNat = 1 := rfl
    rw [UInt64.toNat_add] at hne hle
    rw [UInt64.le_iff_toNat_le]
    omega

theorem le_of_lt_add_one {received : UInt64} (h : id < received + 1) : id ≤ received := by
  obtain hle | heq := le_add_one_cases (UInt64.le_of_lt h)
  · exact hle
  · exact absurd (heq ▸ h) (UInt64.lt_irrefl _)

variable {settled : UInt64 → Prop}

theorem StepRight.quiet (id : UInt64) (success : Prop) (hsent : link'.sent = link.sent)
    (hhanded : link'.handed = link.handed) : StepRight env settled link link' id success := by
  have hacks := (Emits.of_sent hsent).newAcks
  constructor
  case recv => exact fun other hmem => by simp [hacks] at hmem
  case own => exact fun hne => absurd hhanded hne
  case req => exact fun other hmem => by simp [hacks] at hmem

theorem StepRight.of_withConn {gconn : GCConnection} {success : Prop}
    (h : StepRight env settled (link.withConn gconn) link' id success) :
    StepRight env settled link link' id success where
  recv := h.recv
  own := h.own
  req := h.req

theorem grAckRecv_ne_grAckReq : grAckRecv ≠ grAckReq := by decide

theorem StepRight.ackRecv (success : Prop) (hid : settled id)
    (hemits : Emits link link' (if link'.canSend env = true then [(grAckRecv, id)] else [])) :
    StepRight env settled link link' id success := by
  have hacks := hemits.newAcks
  constructor
  case recv =>
    intro other hmem
    rw [hacks] at hmem
    split at hmem
    · simp only [mem_singleton, Prod.mk.injEq, true_and] at hmem
      exact hmem ▸ hid
    · simp at hmem
  case own =>
    intro _ _ hsend
    rw [hacks, if_pos hsend]
    exact mem_singleton.mpr rfl
  case req =>
    intro other hmem
    rw [hacks] at hmem
    split at hmem
    · simp only [mem_singleton, Prod.mk.injEq] at hmem
      exact absurd hmem.1.symm grAckRecv_ne_grAckReq
    · simp at hmem

theorem StepRight.ackReq (id : UInt64) (success : Prop) (hhanded : link'.handed = link.handed)
    (hnext : ¬link'.Holds (link'.gconn.receivedMessageId + 1))
    (hemits : Emits link link' [] ∨ Emits link link' [(grAckReq, link'.gconn.receivedMessageId + 1)]) :
    StepRight env settled link link' id success := by
  cases hemits with
  | inl hemits =>
    have hacks := hemits.newAcks
    constructor
    case recv => exact fun other hmem => by simp [hacks] at hmem
    case own => exact fun hne => absurd hhanded hne
    case req => exact fun other hmem => by simp [hacks] at hmem
  | inr hemits =>
    have hacks := hemits.newAcks
    constructor
    case recv =>
      intro other hmem
      rw [hacks] at hmem
      simp only [mem_singleton, Prod.mk.injEq] at hmem
      exact absurd hmem.1 grAckRecv_ne_grAckReq
    case own => exact fun hne => absurd hhanded hne
    case req =>
      intro other hmem
      rw [hacks] at hmem
      simp only [mem_singleton, Prod.mk.injEq, true_and] at hmem
      subst hmem
      exact ⟨rfl, hnext⟩

theorem StepRight.failed (id : UInt64) {success : Prop} (hfail : ¬success) (hemits : Emits link link' [])
    : StepRight env settled link link' id success := by
  have hacks := hemits.newAcks
  constructor
  case recv => exact fun other hmem => by simp [hacks] at hmem
  case own => exact fun _ hsuccess => absurd hsuccess hfail
  case req => exact fun other hmem => by simp [hacks] at hmem

def settledAfter (env : NgcEnv) (settled : UInt64 → Prop) (plain : LosslessPlain) (link link' : PeerLink) :
    UInt64 → Prop :=
  fun id => settled id ∨ (id = plain.messageId ∧ Settles env plain link link')

section Settled

variable {settled : UInt64 → Prop} {plain : LosslessPlain}

theorem Counted.same (h : Counted settled link)
    (hreceived : link'.gconn.receivedMessageId = link.gconn.receivedMessageId) :
    Counted (settledAfter env settled plain link link') link' := by
  intro id hid
  rw [hreceived] at hid
  exact .inl (h id hid)

theorem Counted.next (h : Counted settled link) (hid : plain.messageId = link.gconn.receivedMessageId + 1)
    (hreceived : link'.gconn.receivedMessageId = link.gconn.receivedMessageId + 1)
    (hsettles : Settles env plain link link') :
    Counted (settledAfter env settled plain link link') link' := by
  intro id hle
  rw [hreceived] at hle
  obtain hle | heq := le_add_one_cases hle
  · exact .inl (h id hle)
  · exact .inr ⟨heq.trans hid.symm, hsettles⟩

theorem handed_ne {message : UInt8 × Bytes} (h : link'.handed = link.handed ++ [message]) :
    link'.handed ≠ link.handed := by
  rw [h]
  simp

/-! ## Fragments -/

theorem reassemblePacket_received {gconn gconn' : GCConnection} {id : UInt64} {payload : Bytes}
    (h : gconn.reassemblePacket id = some (payload, gconn')) :
    gconn'.receivedMessageId = gconn.receivedMessageId := by
  rw [GCConnection.reassemblePacket] at h
  split at h
  · simp at h
  · split at h
    · simp at h
    · cases h
      rfl

inductive FragmentCase (env : NgcEnv) (data : Bytes) (packetType : UInt8) (id : UInt64)
    (link : PeerLink) : FragmentResult → PeerLink → Prop
  | dropped {link' : PeerLink} : link' = link → FragmentCase env data packetType id link .failure link'
  | stored {link' : PeerLink} : link'.sent = link.sent → link'.handed = link.handed →
      link'.gconn.receivedMessageId = link.gconn.receivedMessageId + 1 →
      link'.gconn.recvArray (gccGetArrayIndex id) = GCConnection.createArrayEntry env data packetType id →
      FragmentCase env data packetType id link .unfinished link'
  | refused {link' : PeerLink} : Emits link link' [] →
      link'.gconn.receivedMessageId = link.gconn.receivedMessageId →
      FragmentCase env data packetType id link .failure link'
  | delivered {link' : PeerLink} : Emits link link' [] → link'.handed ≠ link.handed →
      link'.gconn.receivedMessageId = link.gconn.receivedMessageId + 1 →
      FragmentCase env data packetType id link .finished link'

theorem gccHandlePacketFragment_case (hhelper : helper.KeepsReceiving) (link : PeerLink) (env : NgcEnv)
    (data : Bytes) (packetType : UInt8) (id : UInt64) :
    FragmentCase env data packetType id link (link.gccHandlePacketFragment env helper data packetType id).1
      (link.gccHandlePacketFragment env helper data packetType id).2 := by
  rw [gccHandlePacketFragment]
  split
  · cases hstore : link.gconn.storeInRecvArray env data packetType id with
    | mk ok gconn =>
      cases ok with
      | false =>
        rw [ReceiveSide.storeInRecvArray_false hstore]
        exact .dropped rfl
      | true =>
        obtain ⟨-, rfl⟩ := ReceiveSide.storeInRecvArray_true hstore
        exact .stored rfl rfl rfl (Function.update_self ..)
  · cases hreassemble : link.gconn.reassemblePacket id with
    | none => exact .dropped rfl
    | some result =>
      obtain ⟨payload, gconn⟩ := result
      have hreceived := reassemblePacket_received hreassemble
      have hcall := callHelper_handedOver hhelper (link.withConn gconn) (payload.getD 0 0) (payload.drop 1)
      dsimp only
      generalize (link.withConn gconn).callHelper helper (payload.getD 0 0) (payload.drop 1) = result at hcall ⊢
      obtain ⟨ok, link'⟩ := result
      cases ok with
      | false => exact .refused hcall.emits (hcall.received.trans hreceived)
      | true =>
        refine .delivered hcall.emits (handed_ne hcall.handed) ?_
        show link'.gconn.receivedMessageId + 1 = _
        rw [hcall.received]
        exact congrArg (· + 1) hreceived

/-- The step is right and counts what it settles. -/
abbrev RightStep (env : NgcEnv) (settled : UInt64 → Prop) (plain : LosslessPlain) (link : PeerLink)
    (result : Bool × PeerLink) : Prop :=
  StepRight env (settledAfter env settled plain link result.2) link result.2 plain.messageId (result.1 = true) ∧
    Counted (settledAfter env settled plain link result.2) result.2

theorem handleGcPacketFragment_right (hhelper : helper.KeepsReceiving) (h : Counted settled link)
    (htype : plain.packetType = gpFragment)
    (hchunk : link.gconn.lastChunkId = 0 ∨ link.gconn.lastChunkId = link.gconn.receivedMessageId)
    (hnext : plain.messageId ≠ link.gconn.receivedMessageId + 1 →
      ¬link.Holds (link.gconn.receivedMessageId + 1)) :
    RightStep env settled plain link
      (link.handleGcPacketFragment env helper plain.data plain.packetType plain.messageId) := by
  have hrequest : plain.messageId ≠ link.gconn.receivedMessageId + 1 →
      link.handleGcPacketFragment env helper plain.data plain.packetType plain.messageId =
        link.gcSendMessageAckReq env (link.gconn.receivedMessageId + 1) := by
    intro hne
    rw [handleGcPacketFragment]
    by_cases hzero : link.gconn.lastChunkId = 0
    · rw [if_neg fun hboth => hboth.1 hzero, if_pos ⟨hzero, hne⟩]
    · have hlast := hchunk.resolve_left hzero
      rw [if_pos ⟨hzero, by rw [hlast]; exact hne⟩, hlast]
  by_cases hid : plain.messageId = link.gconn.receivedMessageId + 1
  · have hlast : ¬(link.gconn.lastChunkId ≠ 0 ∧ plain.messageId ≠ link.gconn.lastChunkId + 1) := by
      rintro ⟨hzero, hne⟩
      have hlast := hchunk.resolve_left hzero
      exact hne (by rw [hlast]; exact hid)
    rw [handleGcPacketFragment]
    rw [if_neg hlast, if_neg fun hboth => hboth.2 hid]
    have hcase := gccHandlePacketFragment_case hhelper link env plain.data plain.packetType plain.messageId
    generalize link.gccHandlePacketFragment env helper plain.data plain.packetType plain.messageId = result
      at hcase ⊢
    obtain ⟨result, link'⟩ := result
    cases hcase with
    | dropped heq =>
      obtain rfl := heq
      exact ⟨StepRight.quiet _ _ rfl rfl, h.same rfl⟩
    | stored hsent hhanded hreceived hentry =>
      refine ⟨StepRight.quiet _ _ hsent hhanded, h.next hid hreceived (.inr ⟨htype, ?_, ?_⟩)⟩
      · exact hreceived.trans hid.symm
      · rw [← htype]
        exact hentry
    | refused hemits hreceived =>
      exact ⟨StepRight.failed _ (by simp) hemits, h.same hreceived⟩
    | delivered hemits hhanded hreceived =>
      obtain ⟨hgconn, hsame⟩ := ReceiveSide.gcSendMessageAckRecv_frame link' env plain.messageId
      have hack := link'.gcSendMessageAckRecv_emits env plain.messageId
      simp only [if_true]
      generalize (link'.gcSendMessageAckRecv env plain.messageId).2 = link'' at hgconn hsame hack ⊢
      have hsend : (link''.withConn { link''.gconn with lastReceivedPacketTime := env.now }).canSend env =
          link'.canSend env := by
        rw [hgconn]
        rfl
      have hgrown : link''.handed ≠ link.handed := by rw [hsame]; exact hhanded
      constructor
      · refine StepRight.ackRecv _ (.inr ⟨rfl, .inl hgrown⟩) ?_
        rw [hsend]
        exact hemits.trans hack
      · refine h.next hid ?_ (.inl hgrown)
        rw [hgconn]
        exact hreceived
  · rw [hrequest hid]
    obtain ⟨hemits, hhanded, hreceived, harray⟩ :=
      link.gcSendMessageAckReq_emits env (link.gconn.receivedMessageId + 1)
    refine ⟨StepRight.ackReq _ _ hhanded ?_ ?_, h.same hreceived⟩
    · rw [hreceived, Holds, harray]
      exact hnext hid
    · rw [hreceived]
      exact hemits

/-! ## Packets -/

/-- What a packet must not find: an unfinished sequence of fragments that is not at the end; the next message
    already received, when it is requested; or an invite request as the first message. -/
structure PacketInOrder (link : PeerLink) (plain : LosslessPlain) : Prop where
  chunk : plain.packetType = gpFragment → link.gconn.receivedMessageId + 1 ≤ plain.messageId →
    link.gconn.lastChunkId = 0 ∨ link.gconn.lastChunkId = link.gconn.receivedMessageId
  due : link.gconn.receivedMessageId + 1 < plain.messageId → ¬link.Holds (link.gconn.receivedMessageId + 1)
  invite : plain.packetType = gpInviteRequest → plain.messageId = link.gconn.receivedMessageId + 1 →
    link.gconn.handshaked = true

theorem le_of_fragment {gconn gconn' : GCConnection} {data : Bytes} {packetType : UInt8} {id : UInt64}
    {directConn : Bool} (h : gconn.gccHandleReceivedMessage env data packetType id directConn = (.fragment, gconn')) :
    gconn.receivedMessageId + 1 ≤ id := by
  rw [GCConnection.gccHandleReceivedMessage] at h
  cases directConn
  all_goals
    refine UInt64.not_lt.mp fun hlt => ?_
    simp [hlt] at h

theorem handleGcLosslessPacket_opened (hhelper : helper.KeepsReceiving) (h : Counted settled link)
    (directConn : Bool) (horder : link.PacketInOrder plain) {result : Bool × PeerLink}
    (hresult : result =
      match link.gconn.gccHandleReceivedMessage env plain.data plain.packetType plain.messageId directConn with
      | (result, gconn) =>
        let link := link.withConn gconn
        if plain.packetType = gpInviteRequest ∧ !gconn.handshaked then (true, link)
        else
          match result with
          | .failure => (false, link)
          | .duplicate => link.gcSendMessageAckRecv env plain.messageId
          | .stored => link.gcSendMessageAckReq env (gconn.receivedMessageId + 1)
          | .fragment =>
            link.handleGcPacketFragment env helper plain.data plain.packetType plain.messageId
          | .inSequence =>
            match link.callHelper helper plain.packetType plain.data with
            | (false, link) => (false, link)
            | (true, link) => (true, (link.gcSendMessageAckRecv env plain.messageId).2)) :
    RightStep env settled plain link result := by
  obtain ⟨g, hg, hcases⟩ := ReceiveSide.gccHandleReceivedMessage_cases link.gconn env plain.data plain.packetType
    plain.messageId directConn
  have hreceived : g.receivedMessageId = link.gconn.receivedMessageId := by rw [hg]
  have hhandshaked : g.handshaked = link.gconn.handshaked := by rw [hg]
  have hchunkId : g.lastChunkId = link.gconn.lastChunkId := by rw [hg]
  have harray : g.recvArray = link.gconn.recvArray := by rw [hg]
  obtain ⟨hlt, heq⟩ | ⟨htype, heq⟩ | ⟨htype, hgt, heq⟩ | ⟨htype, hgt, g', hstore, heq⟩ | ⟨htype, hid, heq⟩ := hcases
  all_goals
    rw [heq] at hresult
    dsimp only at hresult
  · -- a duplicate
    split at hresult
    · subst hresult
      exact ⟨StepRight.quiet _ _ rfl rfl, h.same hreceived⟩
    · subst hresult
      obtain ⟨hgconn, -⟩ := ReceiveSide.gcSendMessageAckRecv_frame (link.withConn g) env plain.messageId
      have hack := (link.withConn g).gcSendMessageAckRecv_emits env plain.messageId
      refine ⟨StepRight.ackRecv _ (.inl ?_) ?_, h.same ?_⟩
      · rw [hreceived] at hlt
        exact h _ (le_of_lt_add_one hlt)
      · rw [canSend, hgconn]
        exact hack
      · rw [hgconn]
        exact hreceived
  · -- a fragment
    have hinvite : ¬(plain.packetType = gpInviteRequest ∧ (!g.handshaked) = true) := by
      rw [htype]
      exact fun hboth => absurd hboth.1 (by decide)
    rw [if_neg hinvite] at hresult
    subst hresult
    have hge : g.receivedMessageId + 1 ≤ plain.messageId := by
      rw [hreceived]
      exact le_of_fragment heq
    have hcounted : Counted settled (link.withConn g) := fun id hid => h id (hreceived ▸ hid)
    suffices hfragment : StepRight env (settledAfter env settled plain (link.withConn g) _) (link.withConn g) _ _ _ ∧
        Counted (settledAfter env settled plain (link.withConn g) _) _ from
      ⟨hfragment.1.of_withConn, hfragment.2⟩
    refine handleGcPacketFragment_right hhelper hcounted htype ?_ fun hne => ?_
    · show g.lastChunkId = 0 ∨ g.lastChunkId = g.receivedMessageId
      rw [hchunkId, hreceived]
      exact horder.chunk htype (hreceived ▸ hge)
    · show ¬(link.withConn g).Holds (g.receivedMessageId + 1)
      rw [Holds, show (link.withConn g).gconn.recvArray = g.recvArray from rfl, harray, hreceived]
      refine horder.due ?_
      rw [← hreceived]
      exact UInt64.lt_of_le_of_ne hge (Ne.symm hne)
  · -- a message that comes too early and finds its slot taken
    split at hresult
    · subst hresult
      exact ⟨StepRight.quiet _ _ rfl rfl, h.same hreceived⟩
    · subst hresult
      exact ⟨StepRight.quiet _ _ rfl rfl, h.same hreceived⟩
  · -- a message that comes too early
    obtain ⟨-, rfl⟩ := ReceiveSide.storeInRecvArray_true hstore
    split at hresult
    · subst hresult
      exact ⟨StepRight.quiet _ _ rfl rfl, h.same hreceived⟩
    · subst hresult
      have hreq := gcSendMessageAckReq_emits (link.withConn { g with
        recvArray := Function.update g.recvArray (gccGetArrayIndex plain.messageId)
          (GCConnection.createArrayEntry env plain.data plain.packetType plain.messageId) }) env
        (g.receivedMessageId + 1)
      generalize (gcSendMessageAckReq (link.withConn { g with
        recvArray := Function.update g.recvArray (gccGetArrayIndex plain.messageId)
          (GCConnection.createArrayEntry env plain.data plain.packetType plain.messageId) }) env
        (g.receivedMessageId + 1)) = result at hreq ⊢
      obtain ⟨hemits, hhanded, hsame, hrecv⟩ := hreq
      have hsame : result.2.gconn.receivedMessageId = g.receivedMessageId := hsame
      refine ⟨StepRight.ackReq _ _ hhanded ?_ ?_, h.same (hsame.trans hreceived)⟩
      · rw [hsame, Holds, hrecv]
        intro hholds
        have hentry : ∀ i, i ≠ gccGetArrayIndex plain.messageId →
            Function.update g.recvArray (gccGetArrayIndex plain.messageId)
              (GCConnection.createArrayEntry env plain.data plain.packetType plain.messageId) i =
              link.gconn.recvArray i := fun i hi => (Function.update_of_ne hi _ _).trans (congrFun harray i)
        by_cases hslot : gccGetArrayIndex (g.receivedMessageId + 1) = gccGetArrayIndex plain.messageId
        · -- the slot holds the packet itself
          have hid := hholds.2
          rw [hslot] at hid
          have hid : plain.messageId = g.receivedMessageId + 1 := by
            simpa [withConn, GCConnection.createArrayEntry] using hid
          exact absurd (hid ▸ hgt) (UInt64.lt_irrefl _)
        · refine horder.due (hreceived ▸ hgt) ?_
          rw [← hreceived, Holds, ← hentry _ hslot]
          exact hholds
      · rw [hsame]
        exact hemits
  · -- the next message
    have hinvite : ¬(plain.packetType = gpInviteRequest ∧
        (!(g.gccSetRecvMessageId (g.receivedMessageId + 1)).handshaked) = true) := by
      rintro ⟨hinvite, hnot⟩
      have hshaken := horder.invite hinvite (hid.trans (congrArg (· + 1) hreceived))
      have hshaken : (g.gccSetRecvMessageId (g.receivedMessageId + 1)).handshaked = true := hhandshaked.trans hshaken
      rw [hshaken] at hnot
      simp at hnot
    rw [if_neg hinvite] at hresult
    have hcall := callHelper_handedOver hhelper
      (link.withConn (g.gccSetRecvMessageId (g.receivedMessageId + 1))) plain.packetType plain.data
    generalize (link.withConn (g.gccSetRecvMessageId (g.receivedMessageId + 1))).callHelper helper
      plain.packetType plain.data = called at hcall hresult
    obtain ⟨ok, link'⟩ := called
    have hgrown : link'.handed ≠ link.handed := handed_ne hcall.handed
    have hcount : link'.gconn.receivedMessageId = link.gconn.receivedMessageId + 1 :=
      hcall.received.trans (congrArg (· + 1) hreceived)
    have hnext : plain.messageId = link.gconn.receivedMessageId + 1 := hid.trans (congrArg (· + 1) hreceived)
    cases ok with
    | false =>
      subst hresult
      exact ⟨StepRight.failed _ (by simp) hcall.emits, h.next hnext hcount (.inl hgrown)⟩
    | true =>
      subst hresult
      obtain ⟨hgconn, hsame⟩ := ReceiveSide.gcSendMessageAckRecv_frame link' env plain.messageId
      have hack := link'.gcSendMessageAckRecv_emits env plain.messageId
      dsimp only
      generalize (link'.gcSendMessageAckRecv env plain.messageId).2 = link'' at hgconn hsame hack ⊢
      have hgrown' : link''.handed ≠ link.handed := by rw [hsame]; exact hgrown
      refine ⟨StepRight.ackRecv _ (.inr ⟨rfl, .inl hgrown'⟩) ?_, h.next hnext ?_ (.inl hgrown')⟩
      · have hboth : Emits link link'' _ := hcall.emits.trans hack
        rw [canSend, hgconn]
        exact hboth
      · rw [hgconn]
        exact hcount

theorem handleGcLosslessPacket_right (hhelper : helper.KeepsReceiving) (h : Counted settled link)
    (encrypted : Sealed LosslessPlain) (directConn : Bool)
    (horder : ∀ plain, decryptDataSymmetric link.gconn.sessionSharedKey encrypted.nonce encrypted = some plain →
      link.PacketInOrder plain) :
    RightStep env settled encrypted.plain link (link.handleGcLosslessPacket env helper encrypted directConn) := by
  have hquiet : ∀ b, RightStep env settled encrypted.plain link (b, link) :=
    fun b => ⟨StepRight.quiet _ _ rfl rfl, h.same rfl⟩
  rw [handleGcLosslessPacket]
  split
  · exact hquiet true
  · cases hopen : decryptDataSymmetric link.gconn.sessionSharedKey encrypted.nonce encrypted with
    | none => exact hquiet false
    | some plain =>
      have hplain : plain = encrypted.plain := by
        rw [decryptDataSymmetric] at hopen
        split at hopen
        · exact (Option.some.inj hopen).symm
        · simp at hopen
      have horder := horder plain hopen
      rw [← hplain] at hquiet ⊢
      dsimp only
      split
      · exact hquiet false
      · split
        · exact hquiet false
        · exact handleGcLosslessPacket_opened hhelper h directConn horder rfl

end Settled

/-! ## Requests -/

def queuedPacket (link : PeerLink) (env : NgcEnv) (id : UInt64) : GCPacket :=
  .lossless (encryptDataSymmetric link.gconn.sessionSharedKey env.nonce
    { packetType := (link.gconn.sendArray (gccGetArrayIndex id)).packetType
      messageId := id
      data := (link.gconn.sendArray (gccGetArrayIndex id)).data })

def ResendsQueued (link : PeerLink) (env : NgcEnv) (data : Bytes) : Prop :=
  ∀ packet ∈ (link.handleGcMessageAck env data).2.sent.drop link.sent.length,
    (link.gconn.sendArray (gccGetArrayIndex (netUnpackU64 (data.drop 1)))).isEmpty = false ∧
    (link.gconn.sendArray (gccGetArrayIndex (netUnpackU64 (data.drop 1)))).messageId = netUnpackU64 (data.drop 1) ∧
    packet = link.queuedPacket env (netUnpackU64 (data.drop 1))

theorem sent_handleGcMessageAck {data : Bytes} (hlength : 9 ≤ data.length) (htype : data.getD 0 0 = grAckReq)
    (hdata : netUnpackU64 (data.drop 1) = id) :
    (link.handleGcMessageAck env data).2.sent.drop link.sent.length =
      if (link.gconn.sendArray (gccGetArrayIndex id)).messageId = id ∧
        (link.gconn.sendArray (gccGetArrayIndex id)).data.length ≤ maxGcPacketChunkSize ∧ env.sendOk = true then
        [link.queuedPacket env id]
      else [] := by
  rw [handleGcMessageAck, if_neg (Nat.not_lt.mpr hlength), hdata]
  rw [htype, if_neg (show grAckReq ≠ grAckRecv by decide), if_neg (not_not.mpr rfl)]
  by_cases hid : (link.gconn.sendArray (gccGetArrayIndex id)).messageId = id
  · rw [if_neg (not_not.mpr hid), sendEntry, gccEncryptAndSendLosslessPacket, hid]
    by_cases hlong : (link.gconn.sendArray (gccGetArrayIndex id)).data.length ≤ maxGcPacketChunkSize
    · rw [if_neg (Nat.not_lt.mpr hlong)]
      cases env.sendOk with
      | false => simp
      | true => simp [hlong, withConn, queuedPacket]
    · rw [if_pos (Nat.not_le.mp hlong), if_neg (fun h => hlong h.2.1)]
      simp
  · rw [if_pos hid, if_neg fun h => hid h.1]
    simp

theorem resendsQueued_iff (hclean : link.gconn.Clean) {data : Bytes} (hlength : 9 ≤ data.length)
    (htype : data.getD 0 0 = grAckReq) : link.ResendsQueued env data ↔
      ¬(netUnpackU64 (data.drop 1) = 0 ∧ (link.gconn.sendArray 0).isEmpty = true ∧ env.sendOk = true) := by
  rw [ResendsQueued, sent_handleGcMessageAck hlength htype rfl]
  constructor
  · rintro h ⟨hzero, hempty, hsend⟩
    have hentry : link.gconn.sendArray 0 = emptyArrayEntry := hclean 0 hempty
    have hslot : gccGetArrayIndex 0 = 0 := rfl
    rw [hzero, hslot, hentry] at h
    have hqueued := (h _ (by
      rw [if_pos ⟨rfl, Nat.zero_le _, hsend⟩]
      exact mem_singleton.mpr rfl)).1
    rw [isEmpty_emptyArrayEntry] at hqueued
    simp at hqueued
  · intro h packet hmem
    split at hmem
    · rename_i hsent
      obtain ⟨hid, -, hsend⟩ := hsent
      cases hempty : (link.gconn.sendArray (gccGetArrayIndex (netUnpackU64 (data.drop 1)))).isEmpty with
      | true =>
        -- an empty entry has the id 0
        rw [hclean _ hempty] at hid
        have hzero : netUnpackU64 (data.drop 1) = 0 := hid.symm
        rw [hzero] at hempty
        exact absurd ⟨hzero, hempty, hsend⟩ h
      | false => exact ⟨rfl, hid, mem_singleton.mp hmem⟩
    · simp at hmem

end PeerLink

/-! ## Runs of a receiver -/

/-- A connection, and the ids of the messages that were handled or stored in sequence. -/
structure Receiver where
  link : PeerLink
  settled : UInt64 → Prop

/-- A lossless packet, or a call of `gcc_check_recv_array`. -/
inductive ReceiverInput where
  | packet (env : NgcEnv) (helper : LosslessHelper) (encrypted : Sealed LosslessPlain) (directConn : Bool)
  | tick (env : NgcEnv) (helper : LosslessHelper)

namespace Receiver

open PeerLink

variable {r : Receiver}

/-- The entry that a call of `gcc_check_recv_array` looks at. -/
def dueEntry (r : Receiver) : GCMessageArrayEntry :=
  r.link.gconn.recvArray (gccGetArrayIndex (r.link.gconn.receivedMessageId + 1))

def step (r : Receiver) : ReceiverInput → Receiver
  | .packet env helper encrypted directConn =>
    let link := (r.link.handleGcLosslessPacket env helper encrypted directConn).2
    { link, settled := settledAfter env r.settled encrypted.plain r.link link }
  | .tick env helper =>
    let link := r.link.gccCheckRecvArray env helper
    { link, settled := fun id => r.settled id ∨ (id = r.dueEntry.messageId ∧ link.handed ≠ r.link.handed) }

def ValidInput : ReceiverInput → Prop
  | .packet _ helper _ _ => helper.KeepsReceiving
  | .tick _ helper => helper.KeepsReceiving

/-- A receiver that counts the messages up to `received_message_id` as handed over. -/
def new (link : PeerLink) : Receiver := { link, settled := fun id => id ≤ link.gconn.receivedMessageId }

def AcksRight (r : Receiver) : ReceiverInput → Prop
  | .packet env helper encrypted directConn =>
    StepRight env (r.step (.packet env helper encrypted directConn)).settled r.link
      (r.step (.packet env helper encrypted directConn)).link encrypted.plain.messageId
      ((r.link.handleGcLosslessPacket env helper encrypted directConn).1 = true)
  | .tick env helper =>
    StepRight env (r.step (.tick env helper)).settled r.link (r.step (.tick env helper)).link r.dueEntry.messageId
      ((r.link.callHelper helper r.dueEntry.packetType r.dueEntry.data).1 = true)

def InOrder (r : Receiver) : ReceiverInput → Prop
  | .packet _ _ encrypted _ =>
    ∀ plain, decryptDataSymmetric r.link.gconn.sessionSharedKey encrypted.nonce encrypted = some plain →
      r.link.PacketInOrder plain
  | .tick _ _ => r.link.gconn.lastChunkId ≠ 0 ∨ r.dueEntry.isEmpty = true

theorem acksRight_step (h : Counted r.settled r.link) {input : ReceiverInput} (hvalid : ValidInput input)
    (horder : r.InOrder input) :
    r.AcksRight input ∧ Counted (r.step input).settled (r.step input).link := by
  cases input with
  | packet env helper encrypted directConn =>
    exact handleGcLosslessPacket_right hvalid h encrypted directConn horder
  | tick env helper =>
    have hsame : r.link.gccCheckRecvArray env helper = r.link := by
      rw [gccCheckRecvArray]
      cases horder with
      | inl hchunk => rw [if_pos hchunk]
      | inr hempty =>
        split
        · rfl
        · exact if_pos hempty
    refine ⟨StepRight.quiet _ _ (congrArg PeerLink.sent hsame) (congrArg PeerLink.handed hsame), ?_⟩
    intro id hid
    rw [step, hsame] at hid
    exact .inl (h id hid)

/-- If all steps find the receiver in order, all acknowledgements are right, and a request re-sends a queued message
    other than that with the id 0. -/
theorem acks_right (link : PeerLink) :
    (∀ inputs : List ReceiverInput, (∀ input ∈ inputs, ValidInput input) →
      StepRun.AllSteps step InOrder (new link) inputs → StepRun.AllSteps step AcksRight (new link) inputs) ∧
    ∀ (env : NgcEnv) (data : Bytes), link.gconn.Clean → 9 ≤ data.length →
      data.getD 0 0 = grAckReq → (link.ResendsQueued env data ↔
        ¬(netUnpackU64 (data.drop 1) = 0 ∧ (link.gconn.sendArray 0).isEmpty = true ∧ env.sendOk = true)) := by
  constructor
  · intro inputs hvalid horder
    exact StepRun.allSteps_of (fun _ _ h hvalid horder => acksRight_step h hvalid horder) inputs hvalid
      (fun _ hid => hid) horder
  · exact fun env data hclean hlength htype => resendsQueued_iff hclean hlength htype

def takingHelper : LosslessHelper := fun link _ _ => (true, link)

theorem takingHelper_keepsReceiving : takingHelper.KeepsReceiving where
  received := fun _ _ _ => rfl
  recvArray := fun _ _ _ => rfl
  lastChunkId := fun _ _ _ => rfl
  handed := fun _ _ _ => rfl
  sent := fun _ _ _ => ⟨[], (append_nil _).symm, rfl⟩

def twoReceived : PeerLink where
  gconn := { zeroGCConnection with receivedMessageId := 2, handshaked := true }
  sent := []
  handed := []

def messageOf (id : UInt64) : Sealed LosslessPlain :=
  encryptDataSymmetric twoReceived.gconn.sessionSharedKey 0 { packetType := gpBroadcast, messageId := id, data := [0] }

theorem acks_right_next :
    StepRun.AllSteps step AcksRight (new twoReceived) [.packet startEnv takingHelper (messageOf 3) false] ∧
    twoReceived.ResendsQueued startEnv (ackData grAckReq 1) := by
  constructor
  · refine (acks_right twoReceived).1 _ ?_ ⟨fun plain hplain => ?_, trivial⟩
    · intro input hinput
      rw [mem_singleton.mp hinput]
      exact takingHelper_keepsReceiving
    · cases (decryptDataSymmetric_encryptDataSymmetric ..).symm.trans hplain
      constructor
      case chunk => exact fun htype => absurd htype (by decide)
      case due => exact fun hlt => absurd hlt (by decide)
      case invite => exact fun htype => absurd htype (by decide)
  · refine ((acks_right twoReceived).2 startEnv (ackData grAckReq 1) (fun _ _ => rfl) (by decide) rfl).mpr ?_
    exact fun h => absurd h.1 (by decide)

def thirdStored : PeerLink := twoReceived.withConn { twoReceived.gconn with
  recvArray := Function.update emptyMessageArray 3 (GCConnection.createArrayEntry startEnv [0] gpBroadcast 3) }

/-- The third message is acknowledged with the id 0. -/
theorem not_acks_right_stored : ¬∀ (link : PeerLink) (inputs : List ReceiverInput),
    (∀ input ∈ inputs, ValidInput input) → StepRun.AllSteps step AcksRight (new link) inputs := by
  intro h
  have hright := (h thirdStored [.tick startEnv takingHelper] (fun input hinput => by
    rw [mem_singleton.mp hinput]
    exact takingHelper_keepsReceiving)).1
  have hack := hright.own (by decide) rfl (by decide)
  exact absurd hack (by decide)

end Receiver

end Toxcore

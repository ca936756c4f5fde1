import Toxcore.Spec.NgcChannelReceive

/-!
# Safety of the lossless group channel

In a run of careful steps the receiver hands on a prefix of the messages that the sender accepted. A step that
is not careful breaks this: a copy of a message that is left in the receive array is handed on again when the
message ids have come round to its slot.
-/

namespace Toxcore

open List

namespace GroupChannel

variable {s : GroupChannel} {base p : Nat} {done rest : List GroupMessage}

/-! ## Steps of the sender -/

namespace Linked

section

variable (h : s.Linked base done rest p)
include h

theorem base_le :
    base ≤ s.b.gconn.receivedMessageId.toNat + 1 := by
  have := h.receive.received
  omega

theorem received_lt :
    s.b.gconn.receivedMessageId.toNat < base + (s.accepted.flatMap chunksOf).length := by
  have hreceived := h.receive.received
  have hle := h.receive.le
  omega

theorem of_sendSide {a' : PeerLink}
    (hside : SendSide base (s.accepted.flatMap chunksOf) s.b.gconn.receivedMessageId.toNat a') :
    GroupChannel.Linked { s with a := a' } base done rest p :=
  { h with send := hside }

end

variable {env : NgcEnv}

section

variable (h : s.Linked base done rest p)
include h

theorem apply_send {message : GroupMessage}
    (henabled : (ChannelAction.send env message).Enabled s) (hcareful : (ChannelAction.send env message).Careful s) :
    ∃ rest', (s.apply (.send env message)).Linked base done rest' p := by
  obtain ⟨hnow, hsendable⟩ := henabled
  obtain ⟨hbound, hroom⟩ := hcareful
  rw [h.send.next] at hbound
  have hside := h.send.sendLosslessGroupPacket hnow h.base_le h.received_lt hsendable hbound hroom
  simp only [apply]
  by_cases haccepts : s.a.accepts env message
  · have hchunks : (s.accepted ++ [message]).flatMap chunksOf =
        s.accepted.flatMap chunksOf ++ chunksOf message := by simp
    rw [if_pos haccepts] at hside ⊢
    refine ⟨rest ++ [message], ?_⟩
    constructor
    case pos => exact h.pos
    case bound => rw [hchunks, length_append]; omega
    case sendable =>
      intro m hmem
      rcases mem_append.mp hmem with hmem | hmem
      · exact h.sendable m hmem
      · rw [mem_singleton.mp hmem]
        exact hsendable
    case accepted => rw [h.accepted, append_assoc]
    case handed => exact h.handed
    case unfinished =>
      intro hp
      obtain ⟨m, rest', hrest, hlt⟩ := h.unfinished hp
      exact ⟨m, rest' ++ [message], by rw [hrest, cons_append], hlt⟩
    case send => rw [hchunks]; exact hside
    case receive => rw [hchunks]; exact h.receive.append _
  · rw [if_neg haccepts] at hside ⊢
    exact ⟨rest, h.of_sendSide hside⟩

theorem apply_handleLossy {handler : LosslessHelper} {encrypted : Sealed LossyPlain}
    {directConn : Bool} (henabled : (ChannelAction.handleLossy env handler encrypted directConn).Enabled s) :
    (s.apply (.handleLossy env handler encrypted directConn)).Linked base done rest p := by
  obtain ⟨-, htype, hmem⟩ := henabled
  obtain ⟨type, id, hdata, hack⟩ := h.receive.acks encrypted hmem htype
  exact h.of_sendSide (h.send.handleGcLossyPacket htype hdata hack)

/-! ## Steps of the receiver -/

theorem next_chunk {chunk : GroupMessage}
    (hchunk : (s.accepted.flatMap chunksOf)[(done.flatMap chunksOf).length + p]? = some chunk) :
    ∃ message rest', rest = message :: rest' ∧ (chunksOf message)[p]? = some chunk := by
  rw [h.accepted, flatMap_append, getElem?_append_right (Nat.le_add_right _ _),
    Nat.add_sub_cancel_left] at hchunk
  cases rest with
  | nil => simp at hchunk
  | cons message rest' =>
    refine ⟨message, rest', rfl, ?_⟩
    have hlt : p < (chunksOf message).length := by
      by_cases hp : p = 0
      · rw [hp]
        exact chunksOf_ne_nil message
      · obtain ⟨m, rest'', hrest, hlt⟩ := h.unfinished hp
        rw [List.cons.injEq] at hrest
        rw [hrest.1]
        exact hlt
    rwa [flatMap_cons, getElem?_append_left hlt] at hchunk

end

variable {b' : PeerLink}

section

variable (h : s.Linked base done rest p)
include h

theorem of_receiveSide {done' rest' : List GroupMessage} {p' : Nat}
    (haccepted : done ++ rest = done' ++ rest') (hhanded : b'.handed = done')
    (hunfinished : p' ≠ 0 → ∃ message rest'', rest' = message :: rest'' ∧ p' < (chunksOf message).length)
    (hle : s.b.gconn.receivedMessageId.toNat ≤ b'.gconn.receivedMessageId.toNat)
    (hreceive : ReceiveSide base (s.accepted.flatMap chunksOf) ((done'.flatMap chunksOf).length + p') p' b') :
    GroupChannel.Linked { s with b := b' } base done' rest' p' where
  pos := h.pos
  bound := h.bound
  sendable := h.sendable
  accepted := h.accepted.trans haccepted
  handed := hhanded
  unfinished := hunfinished
  send := h.send.mono hle
  receive := hreceive

theorem of_same (hhanded : b'.handed = s.b.handed)
    (hid : b'.gconn.receivedMessageId = s.b.gconn.receivedMessageId)
    (hreceive : ReceiveSide base (s.accepted.flatMap chunksOf) ((done.flatMap chunksOf).length + p) p b') :
    GroupChannel.Linked { s with b := b' } base done rest p :=
  h.of_receiveSide rfl (hhanded.trans h.handed) h.unfinished (by rw [hid]) hreceive

theorem window :
    (s.accepted.flatMap chunksOf).length ≤ (done.flatMap chunksOf).length + p + gccBufferSize := by
  have hwindow := h.send.window
  have hreceived := h.receive.received
  omega

theorem next_lt :
    base + ((done.flatMap chunksOf).length + p) < 2 ^ 64 := by
  have hbound := h.bound
  have hle := h.receive.le
  omega

end

variable {type : UInt8} {data : Bytes}

section

variable (h : s.Linked base done rest p)
include h

theorem next_plain
    (hchunk : (s.accepted.flatMap chunksOf)[(done.flatMap chunksOf).length + p]? = some (type, data))
    (htype : type ≠ gpFragment) :
    p = 0 ∧ chunksOf (type, data) = [(type, data)] ∧ ∃ rest', rest = (type, data) :: rest' := by
  obtain ⟨message, rest', hrest, hmessage⟩ := h.next_chunk hchunk
  by_cases hlong : message.2.length > maxGcPacketChunkSize
  · obtain ⟨parts, -, -, -, hparts⟩ := exists_parts hlong
    rw [hparts, getElem?_map] at hmessage
    obtain ⟨part, -, hpart⟩ := Option.map_eq_some_iff.mp hmessage
    exact absurd (congrArg Prod.fst hpart).symm htype
  · rw [chunksOf_of_le hlong] at hmessage
    have hp : p = 0 := by
      have := (List.getElem?_eq_some_iff.mp hmessage).1
      simpa using this
    subst hp
    cases Option.some.inj hmessage
    exact ⟨rfl, chunksOf_of_le hlong, rest', hrest⟩

theorem next_fragment
    (hchunk : (s.accepted.flatMap chunksOf)[(done.flatMap chunksOf).length + p]? = some (gpFragment, data)) :
    ∃ message rest', rest = message :: rest' ∧ message.2.length > maxGcPacketChunkSize ∧
      (chunksOf message)[p]? = some (gpFragment, data) := by
  obtain ⟨message, rest', hrest, hmessage⟩ := h.next_chunk hchunk
  refine ⟨message, rest', hrest, ?_, hmessage⟩
  by_contra hshort
  rw [chunksOf_of_le hshort] at hmessage
  have hmem : message ∈ s.accepted := by
    rw [h.accepted, hrest]
    exact mem_append_right _ (mem_cons_self ..)
  have heq : message = (gpFragment, data) := by
    have := mem_of_getElem? hmessage
    exact (mem_singleton.mp this).symm
  exact (h.sendable message hmem).type (congrArg Prod.fst heq)

theorem take_plain
    (hchunk : (s.accepted.flatMap chunksOf)[(done.flatMap chunksOf).length + p]? = some (type, data))
    (htype : type ≠ gpFragment) (hhanded : b'.handed = s.b.handed ++ [(type, data)])
    (hreceive : ReceiveSide base (s.accepted.flatMap chunksOf) ((done.flatMap chunksOf).length + p + 1) 0 b') :
    ∃ done' rest', GroupChannel.Linked { s with b := b' } base done' rest' 0 := by
  obtain ⟨rfl, hchunks, rest', rfl⟩ := h.next_plain hchunk htype
  have hreceived := h.receive.received
  have hreceived' := hreceive.received
  refine ⟨done ++ [(type, data)], rest', ?_⟩
  refine h.of_receiveSide (by simp) (by rw [hhanded, h.handed]) (fun hp => absurd rfl hp) (by omega) ?_
  rw [flatMap_append, flatMap_singleton, hchunks, length_append]
  exact hreceive

theorem next_ne_zero : s.b.gconn.receivedMessageId + 1 ≠ 0 := by
  intro hzero
  have hnext := h.receive.toNat_next h.next_lt
  rw [hzero] at hnext
  have hpos := h.pos
  have : (0 : UInt64).toNat = 0 := rfl
  omega

theorem lastChunkId_cases :
    p = 0 ∧ s.b.gconn.lastChunkId = 0 ∨
    p ≠ 0 ∧ s.b.gconn.lastChunkId ≠ 0 ∧
      s.b.gconn.lastChunkId = s.b.gconn.receivedMessageId := by
  have hlast := h.receive.lastChunk
  by_cases hp : p = 0
  · rw [if_pos hp] at hlast
    exact .inl ⟨hp, hlast⟩
  · rw [if_neg hp] at hlast
    refine .inr ⟨hp, ?_, hlast⟩
    intro hzero
    have hreceived := h.receive.received
    have hpos := h.pos
    rw [← hlast, hzero, show (0 : UInt64).toNat = 0 from rfl] at hreceived
    omega

end

variable {id : UInt64}

theorem store_fragment (h : s.Linked base done rest p) (hnow : 0 < env.now)
    (hid : id.toNat = base + ((done.flatMap chunksOf).length + p))
    (hchunk : (s.accepted.flatMap chunksOf)[(done.flatMap chunksOf).length + p]? = some (gpFragment, data))
    (hdata : data ≠ []) {gconn' : GCConnection}
    (hstore : s.b.gconn.storeInRecvArray env data gpFragment id = (true, gconn')) :
    GroupChannel.Linked { s with
      b := s.b.withConn { gconn'.gccSetRecvMessageId (gconn'.receivedMessageId + 1) with
        lastChunkId := id } } base done rest (p + 1) := by
  have hreceive := h.receive.storeFragment hnow h.next_lt hid hchunk hstore
  have hreceived := h.receive.received
  have hreceived' := hreceive.received
  obtain ⟨message, rest', hrest, hlong, hmessage⟩ := h.next_fragment hchunk
  refine h.of_receiveSide rfl h.handed (fun _ => ⟨message, rest', hrest, ?_⟩) (by omega) hreceive
  -- only the last chunk of a message is empty
  obtain ⟨parts, -, -, -, hparts⟩ := exists_parts hlong
  rw [hparts, getElem?_map] at hmessage
  obtain ⟨part, hpart, heq⟩ := Option.map_eq_some_iff.mp hmessage
  have hlen := (List.getElem?_eq_some_iff.mp hpart).1
  rw [hparts, length_map, length_append, length_singleton]
  rw [length_append, length_singleton] at hlen
  by_contra hge
  have hp : p = parts.length := by omega
  rw [hp, getElem?_append_right le_rfl, Nat.sub_self] at hpart
  rw [← Option.some.inj hpart] at heq
  exact hdata (congrArg Prod.snd heq).symm

variable {helper : LosslessHelper}

section

variable (h : s.Linked base done rest p)
include h

theorem reassemble (env : NgcEnv) (hhelper : helper.Succeeds)
    (hid : id.toNat = base + ((done.flatMap chunksOf).length + p))
    (hchunk : (s.accepted.flatMap chunksOf)[(done.flatMap chunksOf).length + p]? = some (gpFragment, [])) :
    (s.b.gccHandlePacketFragment env helper [] gpFragment id = (.failure, s.b)) ∨
    ∃ b' done' rest', s.b.gccHandlePacketFragment env helper [] gpFragment id = (.finished, b') ∧
      b'.gconn.receivedMessageId.toNat = id.toNat ∧
      GroupChannel.Linked { s with b := b' } base done' rest' 0 := by
  rw [PeerLink.gccHandlePacketFragment]
  cases hre : s.b.gconn.reassemblePacket id with
  | none => exact .inl rfl
  | some result =>
    obtain ⟨payload, gconn'⟩ := result
    right
    obtain ⟨message, rest', rfl, hlong, hmessage⟩ := h.next_fragment hchunk
    obtain ⟨parts, -, hne, hflat, hparts⟩ := exists_parts hlong
    -- the empty chunk is the one after all parts
    have hp : p = parts.length := by
      rw [hparts, getElem?_map] at hmessage
      obtain ⟨part, hpart, heq⟩ := Option.map_eq_some_iff.mp hmessage
      have hnil : part = [] := congrArg Prod.snd heq
      have hlen := (List.getElem?_eq_some_iff.mp hpart).1
      rw [length_append, length_singleton] at hlen
      by_contra hlt
      rw [getElem?_append_left (by omega), hnil] at hpart
      exact hne [] (mem_of_getElem? hpart) rfl
    have hmem : message ∈ s.accepted := by
      rw [h.accepted]
      exact mem_append_right _ (mem_cons_self ..)
    have hfew : p < gccBufferSize := by
      have hlen := (h.sendable message hmem).length_chunksOf
      rw [hparts, length_map, length_append] at hlen
      omega
    have hat : ∀ k (hk : k < parts.length), (s.accepted.flatMap chunksOf)[
        (done.flatMap chunksOf).length + p - p + k]? = some (gpFragment, parts[k]) := by
      intro k hk
      have hlt : k < (chunksOf message).length := by
        rw [hparts, length_map, length_append]
        omega
      rw [Nat.add_sub_cancel, h.accepted, flatMap_append, getElem?_append_right (Nat.le_add_right _ _),
        Nat.add_sub_cancel_left, flatMap_cons, getElem?_append_left hlt, hparts, getElem?_map,
        getElem?_append_left hk, getElem?_eq_getElem hk, Option.map_some]
    obtain ⟨hpayload, hgconn⟩ := h.receive.reassemblePacket h.pos (Nat.le_add_left p _) hfew hid hp.symm hat hre
    rw [hflat] at hpayload
    subst hpayload
    obtain ⟨b', hcall, hcalled⟩ :=
      ReceiveSide.callHelper_eq hhelper (s.b.withConn gconn') message.1 message.2
    have hreceive : ReceiveSide base (s.accepted.flatMap chunksOf)
        ((done.flatMap chunksOf).length + p + 1) 0 (b'.withConn
          { b'.gconn.gccSetRecvMessageId (b'.gconn.receivedMessageId + 1) with lastChunkId := 0 }) :=
      h.receive.finish (Nat.le_add_left p _) h.next_lt hchunk
        (hcalled.handshaked.trans (by rw [hgconn]; rfl))
        (congrArg (· + 1) (hcalled.received.trans (by rw [hgconn]; rfl)))
        (hcalled.recvArray.trans (by rw [hgconn]; rfl)) rfl hcalled.sent
    have hreceived := h.receive.received
    have hreceived' : (b'.gconn.receivedMessageId + 1).toNat + 1 =
        base + ((done.flatMap chunksOf).length + p + 1) := hreceive.received
    dsimp only
    rw [show (message.1 :: message.2).getD 0 0 = message.1 from rfl,
      show (message.1 :: message.2).drop 1 = message.2 from rfl, hcall]
    refine ⟨_, done ++ [message], rest', rfl, ?_, ?_⟩
    · show (b'.gconn.receivedMessageId + 1).toNat = id.toNat
      omega
    refine h.of_receiveSide (by simp) ?_ (fun hne => absurd rfl hne) ?_ ?_
    · show b'.handed = _
      rw [hcalled.handed, ← h.handed]
      rfl
    · show _ ≤ (b'.gconn.receivedMessageId + 1).toNat
      omega
    · rw [flatMap_append, flatMap_singleton, length_append, hparts, length_map, length_append,
        length_singleton, Nat.add_zero, ← hp, ← Nat.add_assoc]
      exact hreceive

theorem ackRecv (hid : id.toNat ≤ s.b.gconn.receivedMessageId.toNat) :
    GroupChannel.Linked { s with b := (s.b.gcSendMessageAckRecv env id).2 } base done rest p := by
  have hframe := ReceiveSide.gcSendMessageAckRecv_frame s.b env id
  exact h.of_same hframe.2 (by rw [hframe.1]) (h.receive.gcSendMessageAckRecv hid)

theorem ackReq (hid : id ≠ 0) :
    GroupChannel.Linked { s with b := (s.b.gcSendMessageAckReq env id).2 } base done rest p := by
  have hframe : (s.b.gcSendMessageAckReq env id).2.gconn.receivedMessageId = s.b.gconn.receivedMessageId ∧
      (s.b.gcSendMessageAckReq env id).2.handed = s.b.handed := by
    rw [PeerLink.gcSendMessageAckReq]
    split
    · exact ⟨rfl, rfl⟩
    · split
      · exact ⟨rfl, rfl⟩
      · have hsend := ReceiveSide.sendLossy_frame
          (s.b.withConn { s.b.gconn with lastRequestedPacketTime := env.now }) env
          (PeerLink.ackData grAckReq id) gpMessageAck
        exact ⟨by rw [hsend.1]; rfl, hsend.2⟩
  exact h.of_same hframe.2 hframe.1 (h.receive.gcSendMessageAckReq hid)

theorem noteTime {gconn : GCConnection}
    (hgconn : gconn = { s.b.gconn with
      lastReceivedDirectTime := gconn.lastReceivedDirectTime
      lastReceivedPacketTime := gconn.lastReceivedPacketTime }) :
    GroupChannel.Linked { s with b := s.b.withConn gconn } base done rest p := by
  refine h.of_same rfl (by rw [hgconn]; rfl) (h.receive.congr ?_ ?_ ?_ ?_ fun _ hmem _ => hmem) <;>
    · rw [hgconn]
      rfl

theorem handleGcPacketFragment (hnow : 0 < env.now) (hhelper : helper.Succeeds)
    {k : Nat} (hid : id.toNat = base + k) (hk : (s.accepted.flatMap chunksOf)[k]? = some (gpFragment, data)) :
    ∃ done' rest' p', GroupChannel.Linked
      { s with b := (s.b.handleGcPacketFragment env helper data gpFragment id).2 } base done' rest'
      p' := by
  rw [PeerLink.handleGcPacketFragment]
  split
  · rename_i hwrong
    rcases h.lastChunkId_cases with ⟨-, hzero⟩ | ⟨-, -, hlast⟩
    · exact absurd hzero hwrong.1
    · rw [hlast]
      exact ⟨done, rest, p, h.ackReq h.next_ne_zero⟩
  · rename_i hcont
    split
    · exact ⟨done, rest, p, h.ackReq h.next_ne_zero⟩
    · rename_i hfirst
      -- the fragment is the next chunk
      have hnext : id = s.b.gconn.receivedMessageId + 1 := by
        rcases h.lastChunkId_cases with ⟨-, hzero⟩ | ⟨-, hne, hlast⟩
        · by_contra hne
          exact hfirst ⟨hzero, hne⟩
        · by_contra hne'
          rw [← hlast] at hne'
          exact hcont ⟨hne, hne'⟩
      have hkr : k = (done.flatMap chunksOf).length + p := by
        have := h.receive.toNat_next h.next_lt
        rw [← hnext] at this
        omega
      subst hkr
      by_cases hdata : data = []
      · subst hdata
        rcases h.reassemble env hhelper hid hk with
          hfail | ⟨b', done', rest', hdone, hb', hlinked⟩
        · rw [hfail]
          exact ⟨done, rest, p, h⟩
        · rw [hdone]
          refine ⟨done', rest', 0, ?_⟩
          simp only [if_true]
          exact (hlinked.ackRecv (Nat.le_of_eq hb'.symm)).noteTime rfl
      · rw [PeerLink.gccHandlePacketFragment, if_pos (length_pos_iff.mpr hdata)]
        cases hstore : s.b.gconn.storeInRecvArray env data gpFragment id with
        | mk ok gconn' =>
          cases ok with
          | false =>
            rw [ReceiveSide.storeInRecvArray_false hstore]
            exact ⟨done, rest, p, h⟩
          | true =>
            exact ⟨done, rest, p + 1, (h.store_fragment hnow hid hk hdata hstore).noteTime rfl⟩

theorem inSequence (env : NgcEnv) (hhelper : helper.Succeeds)
    (hid : id.toNat = base + ((done.flatMap chunksOf).length + p)) (htype : type ≠ gpFragment)
    (hchunk : (s.accepted.flatMap chunksOf)[(done.flatMap chunksOf).length + p]? = some (type, data))
    (hempty : (s.b.gconn.recvArray (gccGetArrayIndex id)).isEmpty) :
    ∃ b' done' rest',
      (s.b.withConn (s.b.gconn.gccSetRecvMessageId (s.b.gconn.receivedMessageId + 1))).callHelper
        helper type data = (true, b') ∧
      GroupChannel.Linked { s with b := (b'.gcSendMessageAckRecv env id).2 } base done' rest' 0 := by
  obtain ⟨b', hcall, hcalled⟩ := ReceiveSide.callHelper_eq hhelper
    (s.b.withConn (s.b.gconn.gccSetRecvMessageId (s.b.gconn.receivedMessageId + 1))) type data
  obtain ⟨rfl, -, -⟩ := h.next_plain hchunk htype
  have hslot : gccGetArrayIndex id = (base + ((done.flatMap chunksOf).length + 0)) % gccBufferSize :=
    congrArg (· % gccBufferSize) hid
  rw [hslot] at hempty
  have hreceive := (h.receive.advance (List.getElem?_eq_some_iff.mp hchunk).1 h.next_lt
    hempty).of_called hcalled
  obtain ⟨done', rest', hlinked⟩ := h.take_plain hchunk htype hcalled.handed hreceive
  refine ⟨b', done', rest', hcall, hlinked.ackRecv ?_⟩
  have hreceived := hreceive.received
  show id.toNat ≤ b'.gconn.receivedMessageId.toNat
  omega

theorem apply_handleLossless {encrypted : Sealed LosslessPlain} {directConn : Bool}
    (henabled : (ChannelAction.handleLossless env helper encrypted directConn).Enabled s)
    (hcareful : (ChannelAction.handleLossless env helper encrypted directConn).Careful s) :
    ∃ done' rest' p',
      (s.apply (.handleLossless env helper encrypted directConn)).Linked base done' rest' p' := by
  obtain ⟨hnow, hhelper, hmem⟩ := henabled
  obtain ⟨k, hid, hk⟩ := h.send.sent encrypted hmem
  have hsame : ∃ done' rest' p', s.Linked base done' rest' p' := ⟨done, rest, p, h⟩
  simp only [apply, PeerLink.handleGcLosslessPacket]
  split
  · exact hsame
  split
  · exact hsame
  rename_i packetType messageId data hdecrypt
  have hplain := decryptDataSymmetric_eq_some hdecrypt
  rw [hplain] at hid hk hcareful
  simp only [encryptDataSymmetric, ChannelAction.Careful] at hid hk hcareful
  split
  · exact hsame
  split
  · exact hsame
  -- the time of a direct packet does not matter
  obtain ⟨g, hg, hcases⟩ := ReceiveSide.gccHandleReceivedMessage_cases s.b.gconn env data packetType
    messageId directConn
  have htime : GroupChannel.Linked { s with b := s.b.withConn g } base done rest p := h.noteTime hg
  have hhandshaked : g.handshaked = true := htime.receive.handshaked
  have hnext : (g.receivedMessageId + 1).toNat = base + ((done.flatMap chunksOf).length + p) :=
    htime.receive.toNat_next htime.next_lt
  have hlast : g.receivedMessageId.toNat + 1 = base + ((done.flatMap chunksOf).length + p) :=
    htime.receive.received
  rcases hcases with ⟨hlt, heq⟩ | ⟨hfragment, heq⟩ | ⟨htype, hgt, heq⟩ |
    ⟨htype, hgt, g', hstore, heq⟩ | ⟨htype, hid', heq⟩
  · -- a duplicate is acknowledged again
    rw [UInt64.lt_iff_toNat_lt] at hlt
    simp only [heq, hhandshaked, Bool.not_true, Bool.false_eq_true, and_false]
    exact ⟨done, rest, p, htime.ackRecv (by show _ ≤ g.receivedMessageId.toNat; omega)⟩
  · subst hfragment
    simp only [heq]
    exact htime.handleGcPacketFragment hnow hhelper hid hk
  · -- the slot of an early message is taken
    simp only [heq, hhandshaked, Bool.not_true, Bool.false_eq_true, and_false]
    exact ⟨done, rest, p, htime⟩
  · -- an early message is stored
    rw [UInt64.lt_iff_toNat_lt] at hgt
    have hreceive := htime.receive.storeEarly hid (by omega) htype hk hstore
    have hstored : GroupChannel.Linked { s with b := s.b.withConn g' } base done rest p :=
      htime.of_same rfl (by rw [(ReceiveSide.storeInRecvArray_true hstore).2]; rfl) hreceive
    have hhandshaked' : g'.handshaked = true := hstored.receive.handshaked
    simp only [heq, hhandshaked', Bool.not_true, Bool.false_eq_true, and_false]
    exact ⟨done, rest, p, hstored.ackReq hstored.next_ne_zero⟩
  · -- the next message: no copy of it is in the receive array
    have hnat : messageId.toNat = base + ((done.flatMap chunksOf).length + p) := by
      rw [hid', hnext]
    have hkr : k = (done.flatMap chunksOf).length + p := by omega
    subst hkr
    have hempty : (g.recvArray (gccGetArrayIndex messageId)).isEmpty := by
      rw [hg] at hid' ⊢
      exact hcareful htype hid'
    obtain ⟨b', done', rest', hcall, hlinked⟩ :=
      htime.inSequence env hhelper hnat htype hk hempty
    have hhandshaked' : (g.gccSetRecvMessageId (g.receivedMessageId + 1)).handshaked = true := hhandshaked
    simp only [heq, hhandshaked', Bool.not_true, Bool.false_eq_true, and_false]
    rw [show (s.b.withConn (g.gccSetRecvMessageId (g.receivedMessageId + 1))).callHelper
      helper packetType data = (true, b') from hcall]
    exact ⟨done', rest', 0, hlinked⟩

theorem apply_checkRecvArray (henabled : (ChannelAction.checkRecvArray env helper).Enabled s) :
    ∃ done' rest' p', (s.apply (.checkRecvArray env helper)).Linked base done' rest' p' := by
  simp only [apply, PeerLink.gccCheckRecvArray]
  split
  · exact ⟨done, rest, p, h⟩
  rename_i hlast
  obtain ⟨rfl, -⟩ : p = 0 ∧ s.b.gconn.lastChunkId = 0 := by
    rcases h.lastChunkId_cases with hzero | ⟨-, hne, -⟩
    · exact hzero
    · exact absurd hne hlast
  have hslot : gccGetArrayIndex (s.b.gconn.receivedMessageId + 1) =
      (base + ((done.flatMap chunksOf).length + 0)) % gccBufferSize :=
    congrArg (· % gccBufferSize) (h.receive.toNat_next h.next_lt)
  split
  · exact ⟨done, rest, 0, h⟩
  rename_i hne
  rw [hslot] at hne ⊢
  obtain ⟨hchunk, htype⟩ := h.receive.slot_next h.window hne
  obtain ⟨hreceive, hhanded⟩ := h.receive.processRecvArrayEntry
    (List.getElem?_eq_some_iff.mp hchunk).1 h.next_lt env henabled.2 rfl
  obtain ⟨done', rest', hlinked⟩ := h.take_plain hchunk htype hhanded hreceive
  exact ⟨done', rest', 0, hlinked⟩

end

/-! ## Runs -/

theorem of_initial (h : s.Initial) : s.Linked s.a.gconn.sendMessageId.toNat [] [] 0 := by
  have hcounters := h.counters
  have hempty : ∀ i, (emptyMessageArray i).isEmpty := fun _ => rfl
  constructor
  case pos => omega
  case bound => rw [h.accepted]; simpa using s.a.gconn.sendMessageId.toNat_lt
  case sendable => rw [h.accepted]; simp
  case accepted => rw [h.accepted]; rfl
  case handed => exact h.handed
  case unfinished => simp
  case send =>
    rw [h.accepted]
    constructor
    case next => simp
    case window => simp; omega
    case cleared => rw [h.sendArray]; intro i _; rfl
    case slot => rw [h.sendArray]; intro i hi; exact absurd (hempty i) hi
    case kept => simp
    case sent => rw [h.sent_a]; simp
  case receive =>
    constructor
    case handshaked => exact h.handshaked_b
    case received => simpa using hcounters
    case le => simp
    case lastChunk => rw [h.lastChunkId, if_pos rfl]
    case slot => rw [h.recvArray]; intro i hi; exact absurd (hempty i) hi
    case current => intro k hk hlt; omega
    case acks => rw [h.sent_b]; simp

theorem of_step (h : s.Linked base done rest p) {action : ChannelAction}
    (henabled : action.Enabled s) (hcareful : action.Careful s) :
    ∃ done' rest' p', (s.apply action).Linked base done' rest' p' := by
  cases action with
  | send env message =>
    obtain ⟨rest', h'⟩ := h.apply_send henabled hcareful
    exact ⟨done, rest', p, h'⟩
  | resend env => exact ⟨done, rest, p, h.of_sendSide h.send.gccResendPackets⟩
  | handleLossy env handler encrypted directConn =>
    exact ⟨done, rest, p, h.apply_handleLossy henabled⟩
  | handleLossless env helper encrypted directConn => exact h.apply_handleLossless henabled hcareful
  | checkRecvArray env helper => exact h.apply_checkRecvArray henabled

end Linked

/-- In every run of careful steps, `b` has handled a prefix of what `a` has accepted. -/
theorem handed_prefix (s : GroupChannel) (h : carefulSystem.Reachable s) :
    s.b.handed <+: s.accepted := by
  have hinv : ∃ base done rest p, s.Linked base done rest p := by
    refine h.invariant (P := fun s => ∃ base done rest p, s.Linked base done rest p) ?_ ?_
    · intro s hinit
      exact ⟨_, _, _, _, Linked.of_initial hinit⟩
    · intro s t hs hstep
      obtain ⟨base, done, rest, p, hlinked⟩ := hs
      obtain ⟨action, henabled, hcareful, rfl⟩ := hstep
      obtain ⟨done', rest', p', hlinked'⟩ := hlinked.of_step henabled hcareful
      exact ⟨base, done', rest', p', hlinked'⟩
  obtain ⟨base, done, rest, p, hlinked⟩ := hinv
  rw [hlinked.handed, hlinked.accepted]
  exact prefix_append done rest

/-! ## A quiet channel -/

def quietHelper : LosslessHelper := fun link _ _ => (true, link)

theorem quietHelper_succeeds : quietHelper.Succeeds := by
  constructor <;> intros <;> first | rfl | assumption

def quietEnv : NgcEnv := { now := 1, nonce := 0, sendOk := true }

def quietMessage : GroupMessage := (gpBroadcast, [0])

def quietKey : SharedKey := Vector.replicate _ 1

/-- A handshaked connection over which `1` was received and `1` was sent. -/
def quietConn : GCConnection :=
  { zeroGCConnection with
    sendMessageId := 2
    sendArrayStart := 2
    receivedMessageId := 1
    sessionSharedKey := quietKey
    confirmed := true
    handshaked := true }

def quiet : GroupChannel where
  a := { gconn := quietConn, sent := [], handed := [] }
  b := { gconn := quietConn, sent := [], handed := [] }
  accepted := []

theorem quiet_initial : quiet.Initial := by
  constructor <;> rfl

/-- The packet in which `a` sends `quietMessage` with the id `id`. -/
def losslessOf (key : SharedKey) (id : UInt64) : Sealed LosslessPlain :=
  encryptDataSymmetric key quietEnv.nonce
    { packetType := quietMessage.1, messageId := id, data := quietMessage.2 }

def ackOf (key : SharedKey) (id : UInt64) : Sealed LossyPlain :=
  encryptDataSymmetric key quietEnv.nonce { packetType := gpMessageAck, data := PeerLink.ackData grAckRecv id }

/-- The message with the id `2` is sent and received. -/
def deliveredOnce : GroupChannel :=
  [.send quietEnv quietMessage,
    .handleLossless quietEnv quietHelper (losslessOf quietKey 2) false].foldl apply quiet

/-- A careful run in which a message is delivered. -/
theorem handed_prefix_deliveredOnce :
    carefulSystem.Reachable deliveredOnce ∧ deliveredOnce.b.handed = [quietMessage] ∧
    deliveredOnce.b.handed <+: deliveredOnce.accepted := by
  have h0 : carefulSystem.Reachable quiet := .init quiet_initial
  have h1 := h0.step ⟨.send quietEnv quietMessage, ⟨by decide, by decide, by decide⟩,
    ⟨by decide, fun hlong => absurd hlong (by decide)⟩, rfl⟩
  have h2 := h1.step ⟨.handleLossless quietEnv quietHelper (losslessOf quietKey 2) false,
    ⟨by decide, quietHelper_succeeds, by decide +kernel⟩, fun _ _ => rfl, rfl⟩
  exact ⟨h2, by decide +kernel, handed_prefix _ h2⟩

/-! ## A message that is delivered twice -/

def entryOf (id : UInt64) : GCMessageArrayEntry :=
  GCConnection.createArrayEntry quietEnv quietMessage.2 quietMessage.1 id

/-- The sender after it has sent `quietMessage` as its only message. -/
def afterSend (link : PeerLink) : PeerLink :=
  { link with
    gconn := { link.gconn with
      sendArray := Function.update emptyMessageArray (gccGetArrayIndex link.gconn.sendMessageId)
        (entryOf link.gconn.sendMessageId)
      sendMessageId := link.gconn.sendMessageId + 1 }
    sent := link.sent ++ [.lossless (losslessOf link.gconn.sessionSharedKey link.gconn.sendMessageId)] }

/-- All earlier messages were delivered, but the slot `3` of the receive array was not cleared. -/
structure Stale (s : GroupChannel) (n : Nat) : Prop where
  reachable : system.Reachable s
  handshaked_a : s.a.gconn.handshaked = true
  handshaked_b : s.b.gconn.handshaked = true
  pendingDelete_a : s.a.gconn.pendingDelete = false
  pendingDelete_b : s.b.gconn.pendingDelete = false
  sharedKey : s.a.gconn.sessionSharedKey = s.b.gconn.sessionSharedKey
  next : s.a.gconn.sendMessageId.toNat = n
  start : s.a.gconn.sendArrayStart.toNat = n % gccBufferSize
  sendArray : s.a.gconn.sendArray = emptyMessageArray
  received : s.b.gconn.receivedMessageId.toNat + 1 = n
  lastChunkId : s.b.gconn.lastChunkId = 0
  stale : ¬(s.b.gconn.recvArray 3).isEmpty
  handed : s.b.handed.length = s.accepted.length

namespace Stale

variable {s : GroupChannel} {n : Nat}

theorem send_eq (h : s.Stale n) :
    s.apply (.send quietEnv quietMessage) =
      { s with
        a := afterSend s.a
        accepted := s.accepted ++ [quietMessage] } := by
  have hidx : gccGetArrayIndex s.a.gconn.sendMessageId = n % gccBufferSize := by
    rw [gccGetArrayIndex, h.next]
  have hfull : n % gccBufferSize ≠ (s.a.gconn.sendArrayStart - 1).toNat := by
    have hstart := h.start
    rw [UInt16.toNat_sub, UInt16.toNat_one]
    omega
  have hadd : s.a.gconn.addToSendArray quietEnv quietMessage.2 quietMessage.1 =
      (true, (afterSend s.a).gconn) := by
    rw [GCConnection.addToSendArray, h.sendArray, if_neg (by rw [hidx]; exact hfull),
      if_neg (show ¬(!(emptyMessageArray _).isEmpty) = true from Bool.false_ne_true)]
    rfl
  have hshort : ¬quietMessage.2.length > maxGcPacketChunkSize := by decide
  have hsend : s.a.gccSendLosslessPacket quietEnv quietMessage.2 quietMessage.1 = (.sent, afterSend s.a) := by
    rw [PeerLink.gccSendLosslessPacket, hadd]
    rfl
  have hready : ¬(!s.a.gconn.handshaked || s.a.gconn.pendingDelete) = true := by
    rw [h.handshaked_a, h.pendingDelete_a]
    decide
  rw [apply, PeerLink.sendLosslessGroupPacket, PeerLink.accepts, if_neg hready, if_neg hready,
    if_neg hshort, if_neg hshort, hsend]
  rfl


theorem receive_eq {link : PeerLink} (hhandshaked : link.gconn.handshaked = true)
    (hdelete : link.gconn.pendingDelete = false) :
    (link.handleGcLosslessPacket quietEnv quietHelper
      (losslessOf link.gconn.sessionSharedKey (link.gconn.receivedMessageId + 1)) false).2 =
      { gconn := link.gconn.gccSetRecvMessageId (link.gconn.receivedMessageId + 1)
        sent := link.sent ++ [.lossy (ackOf link.gconn.sessionSharedKey (link.gconn.receivedMessageId + 1))]
        handed := link.handed ++ [quietMessage] } := by
  have hreceived : link.gconn.gccHandleReceivedMessage quietEnv quietMessage.2 quietMessage.1
      (link.gconn.receivedMessageId + 1) false =
      (.inSequence, link.gconn.gccSetRecvMessageId (link.gconn.receivedMessageId + 1)) := by
    rw [GCConnection.gccHandleReceivedMessage]
    simp only [Bool.false_eq_true, if_false]
    rw [if_neg (UInt64.lt_irrefl _), if_neg (by decide), if_neg (UInt64.lt_irrefl _)]
  rw [PeerLink.handleGcLosslessPacket, if_neg (by simp [hdelete]), losslessOf,
    show (encryptDataSymmetric link.gconn.sessionSharedKey quietEnv.nonce (LosslessPlain.mk quietMessage.1 (link.gconn.receivedMessageId + 1) quietMessage.2)).nonce = quietEnv.nonce from rfl,
    decryptDataSymmetric_encryptDataSymmetric]
  dsimp only
  rw [if_neg (by simp [hhandshaked]), if_neg (fun hinvite => absurd hinvite.2.1 (by decide)), hreceived]
  rw [if_neg (fun hinvite => absurd hinvite.1 (by decide))]
  simp only [PeerLink.callHelper, quietHelper, PeerLink.gcSendMessageAckRecv, PeerLink.sendLossyGroupPacket,
    PeerLink.withConn, GCConnection.gccSetRecvMessageId, hdelete, Bool.false_eq_true, if_false]
  rw [if_neg (by simp [hhandshaked])]
  rfl

theorem ack_eq {link : PeerLink} (hhandshaked : link.gconn.handshaked = true)
    (hdelete : link.gconn.pendingDelete = false) {entry : GCMessageArrayEntry}
    (hstart : link.gconn.sendArrayStart.toNat = gccGetArrayIndex entry.messageId)
    (hentry : ¬entry.isEmpty) (hid : link.gconn.sendMessageId = entry.messageId + 1)
    (hbound : entry.messageId.toNat + 1 < 2 ^ 64)
    (harray : link.gconn.sendArray =
      Function.update emptyMessageArray (gccGetArrayIndex entry.messageId) entry) :
    (link.handleGcLossyPacket quietEnv quietHelper
      (ackOf link.gconn.sessionSharedKey entry.messageId) false).2 =
      { link with gconn := { link.gconn with
        sendArray := emptyMessageArray
        sendArrayStart := UInt16.ofNat (gccGetArrayIndex link.gconn.sendMessageId)
        lastReceivedPacketTime := quietEnv.now } } := by
  have hclear : link.gconn.sendArray.clear (gccGetArrayIndex entry.messageId) =
      emptyMessageArray := by
    rw [harray, MessageArray.clear, Function.update_idem]
    exact Function.update_eq_self _ _
  have hslot : link.gconn.sendArray (gccGetArrayIndex entry.messageId) = entry := by
    rw [harray, Function.update_self]
  -- the loop moves over the slot of the message and stops at the next one
  have hmod : (gccGetArrayIndex entry.messageId + 1) % gccBufferSize =
      gccGetArrayIndex link.gconn.sendMessageId := by
    rw [hid, gccGetArrayIndex, gccGetArrayIndex, UInt64.toNat_add, UInt64.toNat_one,
      Nat.mod_eq_of_lt hbound, Nat.mod_add_mod]
  have hne : gccGetArrayIndex entry.messageId ≠ gccGetArrayIndex link.gconn.sendMessageId := by
    rw [← hmod]
    simp only [gccBufferSize]
    omega
  have hadvance : GCConnection.advanceSendArrayStart emptyMessageArray
      (gccGetArrayIndex link.gconn.sendMessageId) gccBufferSize link.gconn.sendArrayStart =
      UInt16.ofNat (gccGetArrayIndex link.gconn.sendMessageId) := by
    have hlt : gccGetArrayIndex link.gconn.sendMessageId < 2 ^ 16 := by
      simp only [gccGetArrayIndex, gccBufferSize]
      omega
    rw [show gccBufferSize = 8190 + 1 + 1 from rfl, GCConnection.advanceSendArrayStart,
      if_pos ⟨rfl, by rw [hstart]; exact hne⟩, GCConnection.advanceSendArrayStart, hstart, hmod, if_neg]
    intro hstop
    exact hstop.2 (UInt16.toNat_ofNat_of_lt' hlt)
  have hack : link.gconn.gccHandleAck entry.messageId =
      (true, { link.gconn with
        sendArray := emptyMessageArray
        sendArrayStart := UInt16.ofNat (gccGetArrayIndex link.gconn.sendMessageId) }) := by
    rw [GCConnection.gccHandleAck]
    dsimp only
    rw [hslot, if_neg hentry, if_neg (fun hne => hne rfl), hclear, if_pos hstart.symm, hadvance]
  have hunpack := SendSide.netUnpackU64_ackData grAckRecv entry.messageId
  rw [PeerLink.handleGcLossyPacket, if_neg (by simp [hhandshaked, hdelete]), ackOf,
    show (encryptDataSymmetric link.gconn.sessionSharedKey quietEnv.nonce (LossyPlain.mk gpMessageAck (PeerLink.ackData grAckRecv entry.messageId))).nonce = quietEnv.nonce from rfl,
    decryptDataSymmetric_encryptDataSymmetric]
  dsimp only
  have hlen : (PeerLink.ackData grAckRecv entry.messageId).length = 9 := rfl
  rw [if_neg (by rw [hlen]; decide), if_pos rfl, PeerLink.handleGcMessageAck,
    if_neg (by rw [hlen]; decide), hunpack]
  rw [if_pos (show (PeerLink.ackData grAckRecv entry.messageId).getD 0 0 = grAckRecv from rfl), hack]
  rfl


theorem round (h : s.Stale n) (hbound : n + 1 < 2 ^ 64) : ∃ t, Stale t (n + 1) := by
  have hnext : s.b.gconn.receivedMessageId + 1 = s.a.gconn.sendMessageId := by
    apply UInt64.toNat_inj.mp
    have hreceived := h.received
    rw [UInt64.toNat_add, UInt64.toNat_one, h.next]
    omega
  have hsend := h.reachable.step ⟨.send quietEnv quietMessage, ⟨by decide, by decide, by decide⟩, rfl⟩
  rw [h.send_eq] at hsend
  have hreceive := hsend.step ⟨.handleLossless quietEnv quietHelper
    (losslessOf s.a.gconn.sessionSharedKey s.a.gconn.sendMessageId) false,
    ⟨by decide, quietHelper_succeeds, mem_append_right _ (mem_singleton_self _)⟩, rfl⟩
  rw [apply, h.sharedKey, ← hnext, receive_eq h.handshaked_b h.pendingDelete_b] at hreceive
  have hack := hreceive.step ⟨.handleLossy quietEnv quietHelper
    (ackOf s.b.gconn.sessionSharedKey (s.b.gconn.receivedMessageId + 1)) false,
    ⟨by decide, rfl, by simp⟩, rfl⟩
  have hindex : gccGetArrayIndex s.a.gconn.sendMessageId = n % gccBufferSize :=
    congrArg (· % gccBufferSize) h.next
  have hid : (s.a.gconn.sendMessageId + 1).toNat = n + 1 := by
    rw [UInt64.toNat_add, UInt64.toNat_one, h.next, Nat.mod_eq_of_lt hbound]
  have hacked : ((afterSend s.a).handleGcLossyPacket quietEnv quietHelper
      (ackOf s.a.gconn.sessionSharedKey s.a.gconn.sendMessageId) false).2 = _ :=
    @ack_eq (afterSend s.a) h.handshaked_a h.pendingDelete_a (entryOf s.a.gconn.sendMessageId)
      (h.start.trans hindex.symm) (show ¬(false = true) by decide) rfl
      (show s.a.gconn.sendMessageId.toNat + 1 < _ by rw [h.next]; exact hbound) rfl
  rw [apply, hnext, ← h.sharedKey, hacked] at hack
  refine ⟨_, hack, h.handshaked_a, h.handshaked_b, h.pendingDelete_a, h.pendingDelete_b,
    h.sharedKey, hid, ?_, rfl, ?_, h.lastChunkId, h.stale, ?_⟩
  · show (UInt16.ofNat (gccGetArrayIndex (s.a.gconn.sendMessageId + 1))).toNat = _
    rw [gccGetArrayIndex, hid, UInt16.toNat_ofNat_of_lt']
    exact Nat.lt_trans (Nat.mod_lt _ (by decide)) (by decide)
  · show s.a.gconn.sendMessageId.toNat + 1 = n + 1
    rw [h.next]
  · simp [h.handed]

theorem rounds (h : s.Stale n) (k : Nat) (hbound : n + k < 2 ^ 64) : ∃ t, Stale t (n + k) := by
  induction k with
  | zero => exact ⟨s, h⟩
  | succ k ih =>
    obtain ⟨t, ht⟩ := ih (by omega)
    exact ht.round (by omega)

end Stale

/-- Two packets are sent, the second is received before and after the first, and both are acknowledged. -/
def overtakingRun : List ChannelAction :=
  [.send quietEnv quietMessage, .send quietEnv quietMessage,
    .handleLossless quietEnv quietHelper (losslessOf quietKey 3) false,
    .handleLossless quietEnv quietHelper (losslessOf quietKey 2) false,
    .handleLossless quietEnv quietHelper (losslessOf quietKey 3) false,
    .handleLossy quietEnv quietHelper (ackOf quietKey 2) false,
    .handleLossy quietEnv quietHelper (ackOf quietKey 3) false]

theorem overtakingRun_stale : Stale (overtakingRun.foldl apply quiet) 4 := by
  constructor
  case reachable =>
    have hsendable : Sendable quietMessage := ⟨by decide, by decide⟩
    have h0 : system.Reachable quiet := .init quiet_initial
    have h1 := h0.step ⟨.send quietEnv quietMessage, ⟨by decide, hsendable⟩, rfl⟩
    have h2 := h1.step ⟨.send quietEnv quietMessage, ⟨by decide, hsendable⟩, rfl⟩
    have h3 := h2.step ⟨.handleLossless quietEnv quietHelper (losslessOf quietKey 3) false,
      ⟨by decide, quietHelper_succeeds, by decide +kernel⟩, rfl⟩
    have h4 := h3.step ⟨.handleLossless quietEnv quietHelper (losslessOf quietKey 2) false,
      ⟨by decide, quietHelper_succeeds, by decide +kernel⟩, rfl⟩
    have h5 := h4.step ⟨.handleLossless quietEnv quietHelper (losslessOf quietKey 3) false,
      ⟨by decide, quietHelper_succeeds, by decide +kernel⟩, rfl⟩
    have h6 := h5.step ⟨.handleLossy quietEnv quietHelper (ackOf quietKey 2) false,
      ⟨by decide, rfl, by decide +kernel⟩, rfl⟩
    exact h6.step ⟨.handleLossy quietEnv quietHelper (ackOf quietKey 3) false,
      ⟨by decide, rfl, by decide +kernel⟩, rfl⟩
  case sendArray =>
    have hupdates : (overtakingRun.foldl apply quiet).a.gconn.sendArray =
        MessageArray.clear (MessageArray.clear (Function.update
          (Function.update emptyMessageArray 2 (entryOf 2)) 3 (entryOf 3)) 2) 3 := by
      rfl
    rw [hupdates]
    funext i
    simp only [MessageArray.clear, Function.update_apply]
    split_ifs <;> rfl
  case stale => decide +kernel
  all_goals decide +kernel

/-- Not every run is safe: after `GCC_BUFFER_SIZE` messages the early copy is handed on again. -/
theorem not_handed_prefix : ¬∀ s, system.Reachable s → s.b.handed <+: s.accepted := by
  intro hsafe
  obtain ⟨s, hs⟩ := overtakingRun_stale.rounds 8191 (by decide)
  have hcheck := hs.reachable.step ⟨.checkRecvArray quietEnv quietHelper,
    ⟨by decide, quietHelper_succeeds⟩, rfl⟩
  have hlen := (hsafe _ hcheck).length_le
  have hindex : gccGetArrayIndex (s.b.gconn.receivedMessageId + 1) = 3 := by
    have hreceived := hs.received
    rw [gccGetArrayIndex, UInt64.toNat_add, UInt64.toNat_one, hreceived]
    rfl
  -- the message in slot `3` has the id `3`, not the id `8195` that is due
  have hhanded : (s.b.gccCheckRecvArray quietEnv quietHelper).handed.length =
      s.b.handed.length + 1 := by
    rw [PeerLink.gccCheckRecvArray, if_neg (not_not.mpr hs.lastChunkId)]
    simp only [hindex]
    rw [if_neg hs.stale]
    show (PeerLink.gcSendMessageAckRecv _ quietEnv _).2.handed.length = _
    rw [(ReceiveSide.gcSendMessageAckRecv_frame _ quietEnv _).2]
    simp [PeerLink.withConn]
  have hlen' : (s.b.gccCheckRecvArray quietEnv quietHelper).handed.length ≤ s.accepted.length :=
    hlen
  have hsame := hs.handed
  omega

end GroupChannel

end Toxcore

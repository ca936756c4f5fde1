import Toxcore.Spec.NgcChannelSend

/-!
# The receiving side of the lossless group channel

The operations of the receiver on `ReceiveSide`: storing an early packet, storing a fragment,
taking the next message, and reassembling the fragments of a message.
-/

namespace Toxcore

open List

/-! ## Fragments add up to the message -/

theorem flatten_restChunks {fuel : Nat} {data : Bytes} (hfuel : data.length ≤ fuel) :
    (PeerLink.restChunks fuel data).flatten = data := by
  induction fuel generalizing data with
  | zero =>
    have hnil : data = [] := eq_nil_of_length_eq_zero (by omega)
    simp [PeerLink.restChunks, hnil]
  | succ fuel ih =>
    rw [PeerLink.restChunks]
    split
    · rename_i hzero
      rw [eq_nil_of_length_eq_zero hzero]
      rfl
    · have hdrop : (data.drop maxGcPacketChunkSize).length ≤ fuel := by
        rw [length_drop]
        simp only [maxGcPacketChunkSize]
        omega
      rw [flatten_cons, ih hdrop, take_append_drop]

theorem ne_nil_of_mem_restChunks {fuel : Nat} {data chunk : Bytes}
    (h : chunk ∈ PeerLink.restChunks fuel data) : chunk ≠ [] := by
  induction fuel generalizing data with
  | zero => simp [PeerLink.restChunks] at h
  | succ fuel ih =>
    rw [PeerLink.restChunks] at h
    split at h
    · simp at h
    · rcases mem_cons.mp h with rfl | hmem
      · intro hnil
        rw [← length_eq_zero_iff, length_take] at hnil
        simp only [maxGcPacketChunkSize] at hnil
        omega
      · exact ih hmem

theorem exists_parts {message : GroupMessage} (hlong : message.2.length > maxGcPacketChunkSize) :
    ∃ parts : List Bytes, parts ≠ [] ∧ (∀ part ∈ parts, part ≠ []) ∧
      parts.flatten = message.1 :: message.2 ∧
      chunksOf message = (parts ++ [[]]).map (gpFragment, ·) := by
  refine ⟨PeerLink.firstChunk message.2 message.1 :: PeerLink.restChunks message.2.length
    (message.2.drop (maxGcPacketChunkSize - 1)), cons_ne_nil _ _, ?_, ?_, ?_⟩
  · intro part hmem
    rcases mem_cons.mp hmem with rfl | hmem
    · exact cons_ne_nil _ _
    · exact ne_nil_of_mem_restChunks hmem
  · rw [flatten_cons, flatten_restChunks (by rw [length_drop]; omega),
      PeerLink.firstChunk, cons_append, take_append_drop]
  · rw [chunksOf_of_gt hlong]
    rfl

theorem chunksOf_ne_nil (message : GroupMessage) : 0 < (chunksOf message).length := by
  rw [chunksOf]
  split <;> simp

namespace ReceiveSide

variable {base r p : Nat} {chunks : List GroupMessage} {link : PeerLink} {env : NgcEnv}

variable {link' : PeerLink}

theorem congr (h : ReceiveSide base chunks r p link) (hhand : link'.gconn.handshaked = link.gconn.handshaked)
    (hid : link'.gconn.receivedMessageId = link.gconn.receivedMessageId)
    (harray : link'.gconn.recvArray = link.gconn.recvArray)
    (hchunk : link'.gconn.lastChunkId = link.gconn.lastChunkId)
    (hsent : ∀ encrypted, .lossy encrypted ∈ link'.sent → encrypted.plain.packetType = gpMessageAck → .lossy encrypted ∈ link.sent)
    :
    ReceiveSide base chunks r p link' where
  handshaked := by rw [hhand]; exact h.handshaked
  received := by rw [hid]; exact h.received
  le := h.le
  lastChunk := by rw [hchunk, hid]; exact h.lastChunk
  slot := by rw [harray]; exact h.slot
  current := by rw [harray]; exact h.current
  acks := by
    intro encrypted hmem htype
    rw [hid]
    exact h.acks encrypted (hsent encrypted hmem htype) htype

theorem append (h : ReceiveSide base chunks r p link) (more : List GroupMessage) :
    ReceiveSide base (chunks ++ more) r p link where
  handshaked := h.handshaked
  received := h.received
  le := by have := h.le; rw [length_append]; omega
  lastChunk := h.lastChunk
  slot := by
    intro i hi
    obtain ⟨k, hid, hslot, hk, hcase⟩ := h.slot i hi
    refine ⟨k, hid, hslot, ?_, hcase⟩
    rw [getElem?_append_left (List.getElem?_eq_some_iff.mp hk).1]
    exact hk
  current := h.current
  acks := h.acks

structure Called (link link' : PeerLink) (message : GroupMessage) : Prop where
  handshaked : link'.gconn.handshaked = link.gconn.handshaked
  received : link'.gconn.receivedMessageId = link.gconn.receivedMessageId
  recvArray : link'.gconn.recvArray = link.gconn.recvArray
  lastChunkId : link'.gconn.lastChunkId = link.gconn.lastChunkId
  handed : link'.handed = link.handed ++ [message]
  sent : ∀ encrypted, .lossy encrypted ∈ link'.sent →
    encrypted.plain.packetType = gpMessageAck → .lossy encrypted ∈ link.sent

theorem callHelper_eq {helper : LosslessHelper} (hhelper : helper.Succeeds) (link : PeerLink)
    (type : UInt8) (data : Bytes) :
    ∃ link', link.callHelper helper type data = (true, link') ∧
      Called link link' (type, data) := by
  refine ⟨(link.callHelper helper type data).2, ?_, ?_⟩
  · exact Prod.ext (hhelper.ok _ _ _) rfl
  · exact ⟨hhelper.handshaked _ _ _, hhelper.received _ _ _, hhelper.recvArray _ _ _,
      hhelper.lastChunkId _ _ _, hhelper.handed _ _ _, hhelper.sent _ _ _⟩

theorem of_called (h : ReceiveSide base chunks r p link) {message : GroupMessage}
    (hcall : Called link link' message) :
    ReceiveSide base chunks r p link' :=
  h.congr hcall.handshaked hcall.received hcall.recvArray hcall.lastChunkId hcall.sent

/-! ## Acknowledgements -/

variable {type : UInt8} {id : UInt64}

section

variable (h : ReceiveSide base chunks r p link)
include h

theorem sendAck
    (hack : type = grAckRecv ∧ id.toNat ≤ link.gconn.receivedMessageId.toNat ∨ type = grAckReq ∧ id ≠ 0) :
    ReceiveSide base chunks r p (link.sendLossyGroupPacket env (PeerLink.ackData type id) gpMessageAck).2 := by
  rw [PeerLink.sendLossyGroupPacket]
  split_ifs
  all_goals try exact h
  refine { h with acks := ?_ }
  intro encrypted hmem htype
  rcases mem_append.mp hmem with hmem | hmem
  · exact h.acks encrypted hmem htype
  · simp only [mem_singleton, GCPacket.lossy.injEq] at hmem
    subst hmem
    exact ⟨type, id, rfl, hack⟩

theorem gcSendMessageAckRecv
    (hid : id.toNat ≤ link.gconn.receivedMessageId.toNat) :
    ReceiveSide base chunks r p (link.gcSendMessageAckRecv env id).2 := by
  rw [PeerLink.gcSendMessageAckRecv]
  split
  · exact h
  · exact h.sendAck (.inl ⟨rfl, hid⟩)

theorem gcSendMessageAckReq (hid : id ≠ 0) :
    ReceiveSide base chunks r p (link.gcSendMessageAckReq env id).2 := by
  rw [PeerLink.gcSendMessageAckReq]
  split
  · exact h
  · split
    · exact h
    · have hnoted : ReceiveSide base chunks r p
          (link.withConn { link.gconn with lastRequestedPacketTime := env.now }) :=
        h.congr rfl rfl rfl rfl fun _ hmem _ => hmem
      exact hnoted.sendAck (.inr ⟨rfl, hid⟩)

end

theorem sendLossy_frame (link : PeerLink) (env : NgcEnv) (data : Bytes) (type : UInt8) :
    (link.sendLossyGroupPacket env data type).2.gconn = link.gconn ∧
    (link.sendLossyGroupPacket env data type).2.handed = link.handed := by
  rw [PeerLink.sendLossyGroupPacket]
  split_ifs <;> exact ⟨rfl, rfl⟩

theorem toNat_next (h : ReceiveSide base chunks r p link) (hbound : base + r < 2 ^ 64) :
    (link.gconn.receivedMessageId + 1).toNat = base + r := by
  rw [UInt64.toNat_add, show (1 : UInt64).toNat = 1 from rfl, h.received]
  exact Nat.mod_eq_of_lt hbound

theorem acks_next (h : ReceiveSide base chunks r p link) (hbound : base + r < 2 ^ 64) :
    ∀ encrypted, .lossy encrypted ∈ link.sent → encrypted.plain.packetType = gpMessageAck →
    ∃ type id, encrypted.plain.data = PeerLink.ackData type id ∧
      (type = grAckRecv ∧ id.toNat ≤ (link.gconn.receivedMessageId + 1).toNat ∨
        type = grAckReq ∧ id ≠ 0) := by
  intro encrypted hmem htype
  obtain ⟨type, id, hdata, hcase⟩ := h.acks encrypted hmem htype
  have hreceived := h.received
  have hnext := h.toNat_next hbound
  refine ⟨type, id, hdata, ?_⟩
  rcases hcase with ⟨hrecv, hle⟩ | hreq
  · exact .inl ⟨hrecv, by omega⟩
  · exact .inr hreq

/-! ## Storing packets -/

variable {gconn' : GCConnection} {data : Bytes}

theorem storeInRecvArray_true {gconn : GCConnection}
    (hstore : gconn.storeInRecvArray env data type id = (true, gconn')) :
    (gconn.recvArray (gccGetArrayIndex id)).isEmpty ∧
    gconn' = { gconn with
      recvArray := Function.update gconn.recvArray (gccGetArrayIndex id)
        (GCConnection.createArrayEntry env data type id) } := by
  simp only [GCConnection.storeInRecvArray] at hstore
  split at hstore
  · cases hstore
  · rename_i hempty
    cases hstore
    exact ⟨by simpa using hempty, rfl⟩

theorem storeInRecvArray_false {gconn : GCConnection}
    (hstore : gconn.storeInRecvArray env data type id = (false, gconn')) :
    gconn' = gconn := by
  simp only [GCConnection.storeInRecvArray] at hstore
  split at hstore
  · cases hstore; rfl
  · cases hstore

theorem gccHandleReceivedMessage_cases (gconn : GCConnection) (env : NgcEnv) (data : Bytes)
    (type : UInt8) (id : UInt64) (directConn : Bool) :
    ∃ g : GCConnection,
      g = { gconn with
        lastReceivedDirectTime := g.lastReceivedDirectTime
        lastReceivedPacketTime := g.lastReceivedPacketTime } ∧
      ((id < g.receivedMessageId + 1 ∧
          gconn.gccHandleReceivedMessage env data type id directConn = (.duplicate, g)) ∨
        (type = gpFragment ∧ gconn.gccHandleReceivedMessage env data type id directConn = (.fragment, g)) ∨
        (type ≠ gpFragment ∧ g.receivedMessageId + 1 < id ∧
          gconn.gccHandleReceivedMessage env data type id directConn = (.failure, g)) ∨
        (type ≠ gpFragment ∧ g.receivedMessageId + 1 < id ∧ ∃ g',
          g.storeInRecvArray env data type id = (true, g') ∧
          gconn.gccHandleReceivedMessage env data type id directConn = (.stored, g')) ∨
        (type ≠ gpFragment ∧ id = g.receivedMessageId + 1 ∧
          gconn.gccHandleReceivedMessage env data type id directConn =
            (.inSequence, g.gccSetRecvMessageId (g.receivedMessageId + 1)))) := by
  refine ⟨if directConn then { gconn with lastReceivedDirectTime := env.now } else gconn, ?_, ?_⟩
  · split <;> rfl
  · simp only [GCConnection.gccHandleReceivedMessage]
    generalize (if directConn then { gconn with lastReceivedDirectTime := env.now } else gconn) = g
    by_cases hlt : id < g.receivedMessageId + 1
    · exact .inl ⟨hlt, by rw [if_pos hlt]⟩
    rw [if_neg hlt]
    by_cases htype : type = gpFragment
    · exact .inr (.inl ⟨htype, by rw [if_pos htype]⟩)
    rw [if_neg htype]
    by_cases hgt : id > g.receivedMessageId + 1
    · rw [if_pos hgt]
      cases hstore : g.storeInRecvArray env data type id with
      | mk ok g' =>
        cases ok with
        | false =>
          rw [storeInRecvArray_false hstore]
          exact .inr (.inr (.inl ⟨htype, hgt, rfl⟩))
        | true => exact .inr (.inr (.inr (.inl ⟨htype, hgt, g', rfl, rfl⟩)))
    · rw [if_neg hgt]
      have heq : id = g.receivedMessageId + 1 :=
        UInt64.le_antisymm (UInt64.not_lt.mp hgt) (UInt64.not_lt.mp hlt)
      exact .inr (.inr (.inr (.inr ⟨htype, heq, rfl⟩)))

theorem storeEarly (h : ReceiveSide base chunks r p link) {k : Nat} (hid : id.toNat = base + k)
    (hr : r ≤ k) (htype : type ≠ gpFragment) (hk : chunks[k]? = some (type, data))
    (hstore : link.gconn.storeInRecvArray env data type id = (true, gconn')) :
    ReceiveSide base chunks r p (link.withConn gconn') := by
  obtain ⟨hempty, rfl⟩ := storeInRecvArray_true hstore
  have hidx : gccGetArrayIndex id = (base + k) % gccBufferSize :=
    congrArg (· % gccBufferSize) hid
  rw [hidx] at hempty
  simp only [hidx]
  refine { h with slot := ?_, current := ?_ }
  · intro i hi
    by_cases heq : i = (base + k) % gccBufferSize
    · subst heq
      simp only [PeerLink.withConn, Function.update_self]
      exact ⟨k, hid, rfl, hk, .inl ⟨hr, htype⟩⟩
    · simp only [PeerLink.withConn, Function.update_of_ne heq] at hi ⊢
      exact h.slot i hi
  · intro j hj hlt
    have hold := h.current j hj hlt
    have hne : (base + j) % gccBufferSize ≠ (base + k) % gccBufferSize := by
      intro hslot
      rw [hslot] at hold
      exact hold.1 hempty
    simpa only [PeerLink.withConn, Function.update_of_ne hne] using hold

theorem storeFragment (h : ReceiveSide base chunks r p link) (hnow : 0 < env.now) (hbound : base + r < 2 ^ 64)
    (hid : id.toNat = base + r) (hr : chunks[r]? = some (gpFragment, data))
    (hstore : link.gconn.storeInRecvArray env data gpFragment id = (true, gconn')) :
    ReceiveSide base chunks (r + 1) (p + 1)
      (link.withConn { gconn'.gccSetRecvMessageId (gconn'.receivedMessageId + 1) with
        lastChunkId := id }) := by
  obtain ⟨hempty, rfl⟩ := storeInRecvArray_true hstore
  have hidx : gccGetArrayIndex id = (base + r) % gccBufferSize :=
    congrArg (· % gccBufferSize) hid
  have hnext := h.toNat_next hbound
  rw [hidx] at hempty
  simp only [hidx]
  constructor
  case handshaked => exact h.handshaked
  case received =>
    show (link.gconn.receivedMessageId + 1).toNat + 1 = _
    omega
  case le => exact (List.getElem?_eq_some_iff.mp hr).1
  case lastChunk =>
    exact UInt64.toNat_inj.mp (hid.trans hnext.symm)
  case slot =>
    intro i hi
    by_cases heq : i = (base + r) % gccBufferSize
    · subst heq
      simp only [PeerLink.withConn, GCConnection.gccSetRecvMessageId, Function.update_self,
        GCConnection.createArrayEntry]
      exact ⟨r, hid, rfl, hr, .inr ⟨by omega, by omega, trivial⟩⟩
    · simp only [PeerLink.withConn, GCConnection.gccSetRecvMessageId, Function.update_of_ne heq] at hi ⊢
      obtain ⟨k, hkid, hslot, hk, hcase⟩ := h.slot i hi
      refine ⟨k, hkid, hslot, hk, ?_⟩
      rcases hcase with ⟨hle, htype⟩ | ⟨hle, hlt, htype⟩
      · left
        -- chunk `r` is a fragment, so a stored message is a later one
        have hne : k ≠ r := by
          intro hkr
          rw [hkr, hr] at hk
          exact htype (congrArg Prod.fst (Option.some.inj hk)).symm
        exact ⟨by omega, htype⟩
      · exact .inr ⟨by omega, by omega, htype⟩
  case current =>
    intro k hk hlt
    by_cases hkr : k = r
    · subst hkr
      simp only [PeerLink.withConn, GCConnection.gccSetRecvMessageId, Function.update_self,
        isEmpty_createArrayEntry hnow]
      exact ⟨by simp, hid⟩
    · have hold := h.current k (by omega) (by omega)
      have hne : (base + k) % gccBufferSize ≠ (base + r) % gccBufferSize := by
        intro hslot
        rw [hslot] at hold
        exact hold.1 hempty
      simpa only [PeerLink.withConn, GCConnection.gccSetRecvMessageId, Function.update_of_ne hne] using hold
  case acks => exact h.acks_next hbound

/-! ## Taking the next message -/

section

variable (h : ReceiveSide base chunks r 0 link)
include h

theorem clear (idx : Nat) :
    ReceiveSide base chunks r 0
      (link.withConn { link.gconn with recvArray := link.gconn.recvArray.clear idx }) := by
  refine { h with slot := ?_, current := ?_ }
  · intro i hi
    by_cases heq : i = idx
    · simp [PeerLink.withConn, MessageArray.clear, heq, isEmpty_emptyArrayEntry] at hi
    · simp only [PeerLink.withConn, MessageArray.clear, Function.update_of_ne heq] at hi ⊢
      exact h.slot i hi
  · intro k hk hlt
    omega

theorem advance (hlt : r < chunks.length) (hbound : base + r < 2 ^ 64)
    (hempty : (link.gconn.recvArray ((base + r) % gccBufferSize)).isEmpty) :
    ReceiveSide base chunks (r + 1) 0
      (link.withConn (link.gconn.gccSetRecvMessageId (link.gconn.receivedMessageId + 1))) := by
  have hnext := h.toNat_next hbound
  constructor
  case handshaked => exact h.handshaked
  case received =>
    show (link.gconn.receivedMessageId + 1).toNat + 1 = _
    omega
  case le => exact hlt
  case lastChunk => exact h.lastChunk
  case slot =>
    intro i hi
    obtain ⟨k, hid, hslot, hk, hcase⟩ := h.slot i hi
    refine ⟨k, hid, hslot, hk, ?_⟩
    rcases hcase with ⟨hle, htype⟩ | ⟨hle, hlt, -⟩
    · left
      have hne : k ≠ r := by
        intro hkr
        rw [hslot, hkr] at hi
        exact hi hempty
      exact ⟨by omega, htype⟩
    · omega
  case current =>
    intro k hk hlt
    omega
  case acks => exact h.acks_next hbound

theorem slot_next (hwindow : chunks.length ≤ r + gccBufferSize)
    (hne : ¬(link.gconn.recvArray ((base + r) % gccBufferSize)).isEmpty) :
    chunks[r]? = some ((link.gconn.recvArray ((base + r) % gccBufferSize)).packetType,
      (link.gconn.recvArray ((base + r) % gccBufferSize)).data) ∧
    (link.gconn.recvArray ((base + r) % gccBufferSize)).packetType ≠ gpFragment := by
  obtain ⟨k, -, hslot, hk, hcase⟩ := h.slot _ hne
  rcases hcase with ⟨hle, htype⟩ | ⟨hle, hlt, -⟩
  · have hlen := (List.getElem?_eq_some_iff.mp hk).1
    have hkr : k = r := by
      simp only [gccBufferSize] at *
      omega
    rw [hkr] at hk
    exact ⟨hk, htype⟩
  · omega

end

theorem gcSendMessageAckRecv_frame (link : PeerLink) (env : NgcEnv) (id : UInt64) :
    (link.gcSendMessageAckRecv env id).2.gconn = link.gconn ∧
    (link.gcSendMessageAckRecv env id).2.handed = link.handed := by
  rw [PeerLink.gcSendMessageAckRecv]
  split
  · exact ⟨rfl, rfl⟩
  · exact sendLossy_frame ..

theorem processRecvArrayEntry (h : ReceiveSide base chunks r 0 link) (hlt : r < chunks.length)
    (hbound : base + r < 2 ^ 64) (env : NgcEnv) {helper : LosslessHelper}
    (hhelper : helper.Succeeds) {idx : Nat} (hidx : idx = (base + r) % gccBufferSize) :
    ReceiveSide base chunks (r + 1) 0 (link.processRecvArrayEntry env helper idx) ∧
    (link.processRecvArrayEntry env helper idx).handed = link.handed ++
      [((link.gconn.recvArray idx).packetType, (link.gconn.recvArray idx).data)] := by
  obtain ⟨link', hcall, hcalled⟩ := callHelper_eq hhelper link
    (link.gconn.recvArray idx).packetType (link.gconn.recvArray idx).data
  have hcleared := (h.of_called hcalled).clear idx
  rw [PeerLink.processRecvArrayEntry, hcall]
  simp only [Bool.not_true]
  generalize hgconn : ({ link'.gconn with recvArray := link'.gconn.recvArray.clear idx } :
    GCConnection) = gconn at hcleared ⊢
  have hslot : gconn.recvArray idx = emptyArrayEntry := by
    rw [← hgconn]
    exact Function.update_self ..
  rw [show ((link'.withConn gconn).gconn.recvArray idx).messageId = 0 by
    rw [show (link'.withConn gconn).gconn = gconn from rfl, hslot]; rfl]
  obtain ⟨hframe, hhanded⟩ := gcSendMessageAckRecv_frame (link'.withConn gconn) env 0
  have hack : ReceiveSide base chunks r 0 ((link'.withConn gconn).gcSendMessageAckRecv env 0).2 :=
    hcleared.gcSendMessageAckRecv (Nat.zero_le _)
  refine ⟨hack.advance hlt hbound ?_, ?_⟩
  · rw [hframe, ← hidx, show (link'.withConn gconn).gconn = gconn from rfl, hslot]
    rfl
  · exact hhanded.trans hcalled.handed

/-! ## Reassembling a message -/

theorem slot_pred {top : Nat} (hpos : 0 < top) :
    (if top % gccBufferSize > 0 then top % gccBufferSize - 1 else gccBufferSize - 1) =
      (top - 1) % gccBufferSize := by
  by_cases hslot : top % gccBufferSize > 0
  · rw [if_pos hslot]
    simp only [gccBufferSize] at *
    omega
  · rw [if_neg hslot]
    simp only [gccBufferSize] at *
    omega

theorem reassembleSearch_stop {array : MessageArray} {endIdx : Nat} (n : Nat) {fuel top len : Nat}
    (hn : n ≤ top)
    (hfragment : ∀ j < n, ¬(array ((top - j) % gccBufferSize)).isEmpty ∧
      (array ((top - j) % gccBufferSize)).packetType = gpFragment)
    (hstop : (array ((top - n) % gccBufferSize)).isEmpty ∨
      (array ((top - n) % gccBufferSize)).packetType ≠ gpFragment) {start length : Nat}
    (hsearch : GCConnection.reassembleSearch array endIdx fuel (top % gccBufferSize) len =
      some (start, length)) :
    start = (top - n) % gccBufferSize := by
  induction n generalizing fuel top len with
  | zero =>
    cases fuel with
    | zero => cases hsearch
    | succ fuel =>
      rw [GCConnection.reassembleSearch] at hsearch
      rw [Nat.sub_zero] at hstop ⊢
      simp only [hstop, if_true, Option.some.injEq, Prod.mk.injEq] at hsearch
      exact hsearch.1.symm
  | succ n ih =>
    cases fuel with
    | zero => cases hsearch
    | succ fuel =>
      have hhere := hfragment 0 (by omega)
      rw [Nat.sub_zero] at hhere
      rw [GCConnection.reassembleSearch] at hsearch
      simp only [hhere.1, hhere.2, slot_pred (show 0 < top by omega), false_or, not_true_eq_false,
        if_false, ne_eq, Bool.false_eq_true] at hsearch
      split at hsearch
      · cases hsearch
      · split at hsearch
        · cases hsearch
        · have hshift : ∀ j, top - 1 - j = top - (j + 1) := fun j => by omega
          rw [← hshift n] at hstop ⊢
          apply ih (by omega) _ hstop hsearch
          intro j hj
          rw [hshift]
          exact hfragment (j + 1) (by omega)

section

variable (h : ReceiveSide base chunks r p link)
include h

theorem current_fragment {k : Nat} (hk : r ≤ k + p) (hlt : k < r) :
    ¬(link.gconn.recvArray ((base + k) % gccBufferSize)).isEmpty ∧
    (link.gconn.recvArray ((base + k) % gccBufferSize)).packetType = gpFragment ∧
    chunks[k]? = some (gpFragment, (link.gconn.recvArray ((base + k) % gccBufferSize)).data) := by
  obtain ⟨hne, hid⟩ := h.current k hk hlt
  obtain ⟨j, hjid, -, hj, hcase⟩ := h.slot _ hne
  have hjk : j = k := by omega
  subst hjk
  rcases hcase with ⟨hle, -⟩ | ⟨-, -, htype⟩
  · omega
  · rw [htype] at hj
    exact ⟨hne, htype, hj⟩

theorem before_current (hpos : 0 < base) (hp : p ≤ r) (hfew : p < gccBufferSize) :
    (link.gconn.recvArray ((base + r - 1 - p) % gccBufferSize)).isEmpty ∨
    (link.gconn.recvArray ((base + r - 1 - p) % gccBufferSize)).packetType ≠ gpFragment := by
  by_cases hempty : (link.gconn.recvArray ((base + r - 1 - p) % gccBufferSize)).isEmpty
  · exact .inl hempty
  · right
    obtain ⟨k, -, hslot, -, hcase⟩ := h.slot _ hempty
    rcases hcase with ⟨-, htype⟩ | ⟨hle, hlt, -⟩
    · exact htype
    · simp only [gccBufferSize] at *
      omega

theorem reassemblePacket (hpos : 0 < base) (hp : p ≤ r) (hfew : p < gccBufferSize) (hid : id.toNat = base + r)
    {parts : List Bytes} (hlen : parts.length = p)
    (hparts : ∀ k (hk : k < parts.length), chunks[r - p + k]? = some (gpFragment, parts[k])) {payload : Bytes}
    (hre : link.gconn.reassemblePacket id = some (payload, gconn')) :
    payload = parts.flatten ∧
    gconn' = { link.gconn with
      recvArray := ((List.range p).map fun k => (base + (r - p) + k) % gccBufferSize).foldl
        MessageArray.clear link.gconn.recvArray } := by
  have hend : gccGetArrayIndex (id - 1) = (base + r - 1) % gccBufferSize := by
    have hpred : (id - 1).toNat = id.toNat - 1 :=
      UInt64.toNat_sub_of_le _ _ (by rw [UInt64.le_iff_toNat_le, hid]; show 1 ≤ _; omega)
    rw [gccGetArrayIndex, hpred, hid]
  rw [GCConnection.reassemblePacket, hend] at hre
  split at hre
  · cases hre
  · rename_i start length hsearch
    have hstart : start = (base + r - 1 - p) % gccBufferSize := by
      apply reassembleSearch_stop p (by omega) _ (h.before_current hpos hp hfew) hsearch
      intro j hj
      have hk := h.current_fragment (k := r - 1 - j) (by omega) (by omega)
      rw [show base + (r - 1 - j) = base + r - 1 - j by omega] at hk
      exact ⟨hk.1, hk.2.1⟩
    have hslots : slotRange ((start + 1) % gccBufferSize)
        (((base + r - 1) % gccBufferSize + 1) % gccBufferSize) =
        (List.range p).map fun k => (base + (r - p) + k) % gccBufferSize := by
      rw [hstart, Nat.mod_add_mod, Nat.mod_add_mod, show base + r - 1 - p + 1 = base + (r - p) by omega,
        show base + r - 1 + 1 = base + (r - p) + p by omega]
      exact slotRange_mod hfew
    rw [hslots] at hre
    split at hre
    · cases hre
    · simp only [Option.some.injEq, Prod.mk.injEq] at hre
      refine ⟨?_, hre.2.symm⟩
      -- slot by slot, the stored data is the part of the message
      rw [← hre.1, flatMap_map, flatMap_def]
      congr 1
      apply ext_getElem
      · rw [length_map, length_range, hlen]
      · intro k hk hk'
        have hfragment := (h.current_fragment (k := r - p + k) (by omega) (by omega)).2.2
        rw [hparts k hk'] at hfragment
        rw [getElem_map, getElem_range, Nat.add_assoc]
        exact (congrArg Prod.snd (Option.some.inj hfragment)).symm

theorem finish (hp : p ≤ r) (hbound : base + r < 2 ^ 64) (hr : chunks[r]? = some (gpFragment, data))
    (hhand : link'.gconn.handshaked = link.gconn.handshaked)
    (hid : link'.gconn.receivedMessageId = link.gconn.receivedMessageId + 1)
    (harray : link'.gconn.recvArray = ((List.range p).map fun k => (base + (r - p) + k) % gccBufferSize).foldl MessageArray.clear link.gconn.recvArray)
    (hchunk : link'.gconn.lastChunkId = 0)
    (hsent : ∀ encrypted, .lossy encrypted ∈ link'.sent → encrypted.plain.packetType = gpMessageAck → .lossy encrypted ∈ link.sent)
    :
    ReceiveSide base chunks (r + 1) 0 link' := by
  have hnext := h.toNat_next hbound
  constructor
  case handshaked => rw [hhand]; exact h.handshaked
  case received => rw [hid]; omega
  case le => exact (List.getElem?_eq_some_iff.mp hr).1
  case lastChunk => rw [hchunk, if_pos rfl]
  case slot =>
    intro i hi
    rw [harray, foldl_clear_apply] at hi ⊢
    split at hi
    · exact absurd isEmpty_emptyArrayEntry hi
    · rename_i hout
      rw [if_neg hout]
      obtain ⟨k, hkid, hslot, hk, hcase⟩ := h.slot i hi
      refine ⟨k, hkid, hslot, hk, .inl ?_⟩
      rcases hcase with ⟨hle, htype⟩ | ⟨hle, hlt, -⟩
      · -- chunk `r` is a fragment, so a stored message is a later one
        have hne : k ≠ r := by
          intro hkr
          rw [hkr, hr] at hk
          exact htype (congrArg Prod.fst (Option.some.inj hk)).symm
        exact ⟨by omega, htype⟩
      · exfalso
        apply hout
        rw [mem_map]
        refine ⟨k - (r - p), mem_range.mpr (by omega), ?_⟩
        rw [hslot]
        congr 1
        omega
  case current =>
    intro k hk hlt
    omega
  case acks =>
    intro encrypted hmem htype
    rw [hid]
    exact h.acks_next hbound encrypted (hsent encrypted hmem htype) htype

end

end ReceiveSide

end Toxcore

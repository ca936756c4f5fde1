import Toxcore.Spec.NgcChannel

/-!
# The sending side of the lossless group channel

Every operation of the sender keeps `SendSide`: adding a chunk to the send array, giving up a
fragmented message, acknowledgements and re-sends.
-/

namespace Toxcore

open List

/-! ## Slots -/

theorem slotRange_mod {x n : Nat} (hn : n < gccBufferSize) :
    slotRange (x % gccBufferSize) ((x + n) % gccBufferSize) =
      (List.range n).map fun k => (x + k) % gccBufferSize := by
  have hcount : ((x + n) % gccBufferSize + gccBufferSize - x % gccBufferSize) % gccBufferSize = n := by
    simp only [gccBufferSize] at *
    omega
  rw [slotRange, hcount]
  apply map_congr_left
  intro k _
  exact Nat.mod_add_mod x gccBufferSize k

theorem foldl_clear_apply (slots : List Nat) (array : MessageArray) (i : Nat) :
    slots.foldl MessageArray.clear array i = if i ∈ slots then emptyArrayEntry else array i := by
  induction slots generalizing array with
  | nil => rfl
  | cons idx slots ih =>
    rw [foldl_cons, ih]
    by_cases hmem : i ∈ slots
    · simp [hmem]
    · by_cases hi : i = idx
      · simp [hi, MessageArray.clear]
      · simp [hi, MessageArray.clear]

theorem isEmpty_emptyArrayEntry : emptyArrayEntry.isEmpty = true := rfl

theorem isEmpty_createArrayEntry {env : NgcEnv} (hnow : 0 < env.now) (data : Bytes)
    (type : UInt8) (id : UInt64) :
    (GCConnection.createArrayEntry env data type id).isEmpty = false := by
  have hne : env.now ≠ 0 := by
    intro h
    rw [h] at hnow
    exact absurd hnow (by decide)
  simp [GCConnection.createArrayEntry, GCMessageArrayEntry.isEmpty, hne]

namespace SendSide

variable {base received : Nat} {chunks : List GroupMessage} {link : PeerLink} {env : NgcEnv}

section

variable (h : SendSide base chunks received link)
include h

theorem mono {received' : Nat}
    (hle : received ≤ received') : SendSide base chunks received' link where
  next := h.next
  window := by have := h.window; omega
  cleared := h.cleared
  slot := h.slot
  kept := fun k hk hlt => h.kept k hk (by omega)
  sent := h.sent

theorem congr {link' : PeerLink}
    (hid : link'.gconn.sendMessageId = link.gconn.sendMessageId)
    (harray : link'.gconn.sendArray = link.gconn.sendArray) (hsent : link'.sent = link.sent) :
    SendSide base chunks received link' where
  next := by rw [hid]; exact h.next
  window := h.window
  cleared := by rw [harray]; exact h.cleared
  slot := by rw [harray]; exact h.slot
  kept := by rw [harray]; exact h.kept
  sent := by rw [hsent]; exact h.sent

/-! ## Adding chunks -/

theorem add (hnow : 0 < env.now) (hbase : base ≤ received + 1)
    (hbound : base + chunks.length + 1 < 2 ^ 64) {data : Bytes} {type : UInt8} {gconn : GCConnection}
    (hadd : link.gconn.addToSendArray env data type = (true, gconn)) :
    SendSide base (chunks ++ [(type, data)]) received (link.withConn gconn) := by
  have hidx : gccGetArrayIndex link.gconn.sendMessageId = (base + chunks.length) % gccBufferSize :=
    congrArg (· % gccBufferSize) h.next
  simp only [GCConnection.addToSendArray, hidx] at hadd
  split at hadd
  · cases hadd
  · split at hadd
    · cases hadd
    · rename_i hempty
      have hempty : (link.gconn.sendArray ((base + chunks.length) % gccBufferSize)).isEmpty := by
        simpa using hempty
      cases hadd
      -- the slot is free only if the chunk before it in the slot was received
      have hwindow : base + chunks.length < received + 1 + gccBufferSize := by
        by_contra hge
        have hkept := (h.kept (chunks.length - gccBufferSize) (by simp only [gccBufferSize] at *; omega)
          (by simp only [gccBufferSize] at *; omega)).1
        have hslot : (base + (chunks.length - gccBufferSize)) % gccBufferSize =
            (base + chunks.length) % gccBufferSize := by
          simp only [gccBufferSize] at *
          omega
        rw [hslot] at hkept
        exact hkept hempty
      constructor
      case next =>
        show (link.gconn.sendMessageId + 1).toNat = _
        rw [UInt64.toNat_add, h.next, length_append]
        exact Nat.mod_eq_of_lt (by simpa [Nat.add_assoc] using hbound)
      case window => simp only [length_append, length_singleton]; omega
      case cleared =>
        intro i hi
        by_cases heq : i = (base + chunks.length) % gccBufferSize
        · simp [PeerLink.withConn, heq, isEmpty_createArrayEntry hnow] at hi
        · simp only [PeerLink.withConn, Function.update_of_ne heq] at hi ⊢
          exact h.cleared i hi
      case slot =>
        intro i hi
        by_cases heq : i = (base + chunks.length) % gccBufferSize
        · refine ⟨chunks.length, ?_, heq, ?_⟩
          · simpa [PeerLink.withConn, heq, GCConnection.createArrayEntry] using h.next
          · simp [PeerLink.withConn, heq, GCConnection.createArrayEntry]
        · simp only [PeerLink.withConn, Function.update_of_ne heq] at hi ⊢
          obtain ⟨k, hid, hslot, hk⟩ := h.slot i hi
          exact ⟨k, hid, hslot, by rw [getElem?_append_left (List.getElem?_eq_some_iff.mp hk).1]; exact hk⟩
      case kept =>
        intro k hk hlt
        rw [length_append, length_singleton] at hk
        by_cases heq : k = chunks.length
        · subst heq
          simp only [PeerLink.withConn, Function.update_self, isEmpty_createArrayEntry hnow]
          exact ⟨by simp, h.next⟩
        · have hold := h.kept k (by omega) hlt
          -- the slot of an older chunk that is kept is not the free one
          have hne : (base + k) % gccBufferSize ≠ (base + chunks.length) % gccBufferSize := by
            intro hslot
            rw [hslot] at hold
            exact hold.1 hempty
          simpa only [PeerLink.withConn, Function.update_of_ne hne] using hold
      case sent =>
        intro encrypted hmem
        obtain ⟨k, hid, hk⟩ := h.sent encrypted hmem
        exact ⟨k, hid, by rw [getElem?_append_left (List.getElem?_eq_some_iff.mp hk).1]; exact hk⟩

end

theorem addToSendArray_false {gconn gconn' : GCConnection} {data : Bytes} {type : UInt8}
    (hadd : gconn.addToSendArray env data type = (false, gconn')) : gconn' = gconn := by
  simp only [GCConnection.addToSendArray] at hadd
  split at hadd
  · cases hadd; rfl
  · split at hadd
    · cases hadd; rfl
    · cases hadd

theorem addChunks (h : SendSide base chunks received link) (hnow : 0 < env.now) (hbase : base ≤ received + 1)
    (data : List Bytes) (hbound : base + chunks.length + data.length < 2 ^ 64) :
    ∃ added, added <+: data ∧
      SendSide base (chunks ++ added.map (gpFragment, ·)) received
        (link.withConn (PeerLink.addChunks env data link.gconn).2) ∧
      ((PeerLink.addChunks env data link.gconn).1 = true → added = data) := by
  induction data generalizing chunks link with
  | nil => exact ⟨[], prefix_rfl, by simpa [PeerLink.addChunks, PeerLink.withConn] using h, fun _ => rfl⟩
  | cons chunk data ih =>
    rw [length_cons] at hbound
    rw [PeerLink.addChunks]
    cases hadd : link.gconn.addToSendArray env chunk gpFragment with
    | mk ok gconn =>
      cases ok with
      | false =>
        refine ⟨[], nil_prefix, ?_, nofun⟩
        rw [addToSendArray_false hadd]
        simpa [PeerLink.withConn] using h
      | true =>
        have hnext := h.add hnow hbase (by omega) hadd
        obtain ⟨added, hprefix, hside, hall⟩ := ih hnext
          (by rw [length_append, length_singleton]; omega)
        refine ⟨chunk :: added, cons_prefix_cons.mpr ⟨rfl, hprefix⟩, ?_, ?_⟩
        · simpa [PeerLink.withConn] using hside
        · intro hok
          rw [hall hok]

/-! ## Sending and giving up -/

theorem sendEntry (h : SendSide base chunks received link) {idx : Nat}
    (hne : ¬(link.gconn.sendArray idx).isEmpty) :
    SendSide base chunks received (link.sendEntry env idx).2 := by
  simp only [PeerLink.sendEntry, PeerLink.gccEncryptAndSendLosslessPacket]
  split
  · exact h
  · split
    · exact h
    · refine { h with sent := ?_ }
      intro encrypted hmem
      rcases mem_append.mp hmem with hmem | hmem
      · exact h.sent encrypted hmem
      · obtain ⟨k, hid, -, hk⟩ := h.slot idx hne
        simp only [mem_singleton, GCPacket.lossless.injEq] at hmem
        subst hmem
        exact ⟨k, hid, hk⟩

theorem sendEntry_gconn (idx : Nat) : (link.sendEntry env idx).2.gconn = link.gconn := by
  simp only [PeerLink.sendEntry, PeerLink.gccEncryptAndSendLosslessPacket]
  split
  · rfl
  · split <;> rfl

theorem sendChunks (h : SendSide base chunks received link) (slots : List Nat) :
    SendSide base chunks received (PeerLink.sendChunks env slots link).2 := by
  induction slots generalizing link with
  | nil => exact h
  | cons idx slots ih =>
    rw [PeerLink.sendChunks]
    split
    · exact h
    · rename_i hne
      exact ih (h.sendEntry hne)

theorem giveUp {extra : List GroupMessage} (h : SendSide base (chunks ++ extra) received link)
    (hsent : ∀ encrypted, .lossless encrypted ∈ link.sent → ∃ k,
      encrypted.plain.messageId.toNat = base + k ∧
      chunks[k]? = some (encrypted.plain.packetType, encrypted.plain.data))
    (hextra : extra.length < gccBufferSize)
    {startId : UInt64} (hstart : startId.toNat = base + chunks.length) :
    SendSide base chunks received
      (link.withConn (link.gconn.clearSendQueueIdRange startId link.gconn.sendMessageId)) := by
  -- the cleared slots are those of the extra chunks
  have hslots : slotRange (gccGetArrayIndex startId) (gccGetArrayIndex link.gconn.sendMessageId) =
      (List.range extra.length).map fun k => (base + chunks.length + k) % gccBufferSize := by
    rw [gccGetArrayIndex, gccGetArrayIndex, hstart, h.next, length_append, ← Nat.add_assoc]
    exact slotRange_mod hextra
  have harray : ∀ i, (link.gconn.clearSendQueueIdRange startId link.gconn.sendMessageId).sendArray i
      = if ∃ k < extra.length, (base + chunks.length + k) % gccBufferSize = i then emptyArrayEntry
        else link.gconn.sendArray i := by
    intro i
    simp [GCConnection.clearSendQueueIdRange, hslots, foldl_clear_apply]
  constructor
  case next => exact hstart
  case window =>
    have := h.window
    rw [length_append] at this
    omega
  case cleared =>
    intro i hi
    simp only [PeerLink.withConn, harray] at hi ⊢
    split
    · rfl
    · rename_i hout
      rw [if_neg hout] at hi
      exact h.cleared i hi
  case slot =>
    intro i hi
    simp only [PeerLink.withConn, harray] at hi ⊢
    split at hi
    · exact absurd isEmpty_emptyArrayEntry hi
    · rename_i hout
      rw [if_neg hout]
      obtain ⟨k, hid, hslot, hk⟩ := h.slot i hi
      have hlt : k < chunks.length := by
        by_contra hge
        have hlen := (List.getElem?_eq_some_iff.mp hk).1
        rw [length_append] at hlen
        refine hout ⟨k - chunks.length, by omega, ?_⟩
        rw [hslot]
        congr 1
        omega
      exact ⟨k, hid, hslot, by rw [getElem?_append_left hlt] at hk; exact hk⟩
  case kept =>
    intro k hk hlt
    have hold := h.kept k (by rw [length_append]; omega) hlt
    -- a chunk that was not given up has a slot of its own
    have hout : ¬∃ j < extra.length, (base + chunks.length + j) % gccBufferSize =
        (base + k) % gccBufferSize := by
      intro ⟨j, hj, hslot⟩
      have hnew := (h.kept (chunks.length + j) (by rw [length_append]; omega) (by omega)).2
      rw [← Nat.add_assoc, hslot] at hnew
      omega
    simp only [PeerLink.withConn, harray, if_neg hout]
    exact hold
  case sent => exact hsent

end SendSide

/-! ## Chunks of a message -/

theorem length_restChunks_le (fuel : Nat) (data : Bytes) :
    (PeerLink.restChunks fuel data).length * maxGcPacketChunkSize ≤
      data.length + maxGcPacketChunkSize := by
  induction fuel generalizing data with
  | zero => simp [PeerLink.restChunks]
  | succ fuel ih =>
    rw [PeerLink.restChunks]
    split
    · simp
    · have hrest := ih (data.drop maxGcPacketChunkSize)
      rw [length_drop] at hrest
      rw [length_cons, Nat.succ_mul]
      -- the last chunk may be shorter, and then nothing is left
      by_cases hlong : maxGcPacketChunkSize ≤ data.length
      · omega
      · have hnil : data.drop maxGcPacketChunkSize = [] := drop_eq_nil_of_le (by omega)
        have hzero : (PeerLink.restChunks fuel (data.drop maxGcPacketChunkSize)).length = 0 := by
          rw [hnil]
          cases fuel <;> simp [PeerLink.restChunks]
        rw [hzero]
        omega

theorem Sendable.length_chunksOf {message : GroupMessage} (h : Sendable message) :
    (chunksOf message).length < gccBufferSize := by
  have hrest := length_restChunks_le message.2.length (message.2.drop (maxGcPacketChunkSize - 1))
  have hlen := h.length
  rw [length_drop] at hrest
  rw [chunksOf]
  split
  · simp only [length_map, length_cons, PeerLink.laterChunks, length_append, length_nil]
    generalize (PeerLink.restChunks _ _).length = n at *
    simp only [maxGcPacketChunkSize, maxGcPacketSize, gccBufferSize] at *
    omega
  · simp [gccBufferSize]

theorem chunksOf_of_gt {message : GroupMessage} (h : message.2.length > maxGcPacketChunkSize) :
    chunksOf message = (gpFragment, PeerLink.firstChunk message.2 message.1) ::
      (PeerLink.laterChunks message.2).map (gpFragment, ·) := by
  rw [chunksOf, if_pos h, map_cons]

theorem chunksOf_of_le {message : GroupMessage} (h : ¬message.2.length > maxGcPacketChunkSize) :
    chunksOf message = [message] := by
  rw [chunksOf, if_neg h]

namespace SendSide

variable {base received : Nat} {chunks : List GroupMessage} {link : PeerLink} {env : NgcEnv}

theorem addChunks_of_room (data : List Bytes) {gconn : GCConnection}
    (hbound : gconn.sendMessageId.toNat + data.length < 2 ^ 64) (hlen : data.length < gccBufferSize)
    (hroom : ChannelAction.Room gconn data.length) :
    (PeerLink.addChunks env data gconn).1 = true := by
  induction data generalizing gconn with
  | nil => rfl
  | cons chunk data ih =>
    rw [length_cons] at hbound hlen hroom
    have hzero := hroom 0 (by omega)
    rw [Nat.add_zero] at hzero
    have hadd : ∃ gconn', gconn.addToSendArray env chunk gpFragment = (true, gconn') ∧
        gconn'.sendMessageId = gconn.sendMessageId + 1 ∧
        gconn'.sendArrayStart = gconn.sendArrayStart ∧
        gconn'.sendArray = Function.update gconn.sendArray
          (gconn.sendMessageId.toNat % gccBufferSize)
          (GCConnection.createArrayEntry env chunk gpFragment gconn.sendMessageId) := by
      refine ⟨{ gconn with
        sendArray := Function.update gconn.sendArray (gconn.sendMessageId.toNat % gccBufferSize)
          (GCConnection.createArrayEntry env chunk gpFragment gconn.sendMessageId)
        sendMessageId := gconn.sendMessageId + 1 }, ?_, rfl, rfl, rfl⟩
      simp [GCConnection.addToSendArray, gccGetArrayIndex, hzero.1, hzero.2]
    obtain ⟨gconn', hadd, hid, hstart, harray⟩ := hadd
    rw [PeerLink.addChunks, hadd]
    have hid' : gconn'.sendMessageId.toNat = gconn.sendMessageId.toNat + 1 := by
      rw [hid]
      exact Nat.mod_eq_of_lt (by simp; omega)
    refine ih (by omega) (by omega) ?_
    intro j hj
    have hnext := hroom (j + 1) (by omega)
    rw [hid', hstart, harray, show gconn.sendMessageId.toNat + 1 + j =
      gconn.sendMessageId.toNat + (j + 1) by omega]
    -- the chunk just added has another slot
    rw [Function.update_of_ne (by simp only [gccBufferSize] at *; omega)]
    exact hnext

theorem gccGetArrayIndex_toUInt16 (id : UInt64) :
    gccGetArrayIndex id.toUInt16.toUInt64 = gccGetArrayIndex id := by
  have hcut : id.toUInt16.toUInt64.toNat = id.toNat % 2 ^ 16 := by simp
  exact Nat.mod_mod_of_dvd _ (by decide)

theorem sendChunks_of_nonempty {slots : List Nat} (hne : ∀ idx ∈ slots, ¬(link.gconn.sendArray idx).isEmpty) :
    (PeerLink.sendChunks env slots link).1 = true := by
  induction slots generalizing link with
  | nil => rfl
  | cons idx slots ih =>
    rw [PeerLink.sendChunks, if_neg (hne idx (mem_cons_self ..))]
    apply ih
    intro idx' hmem
    rw [sendEntry_gconn]
    exact hne idx' (mem_cons_of_mem _ hmem)

theorem sendChunks_added {extra : List GroupMessage} (h : SendSide base (chunks ++ extra) received link)
    (hreceived : received < base + chunks.length) (hextra : extra.length < gccBufferSize) {startId : UInt64}
    (hstart : gccGetArrayIndex startId = (base + chunks.length) % gccBufferSize) :
    (PeerLink.sendChunks env
      (slotRange (gccGetArrayIndex startId) (gccGetArrayIndex link.gconn.sendMessageId)) link).1 =
      true := by
  apply sendChunks_of_nonempty
  intro idx hmem
  rw [hstart, gccGetArrayIndex, h.next, length_append, ← Nat.add_assoc, slotRange_mod hextra, mem_map] at hmem
  obtain ⟨k, hk, rfl⟩ := hmem
  rw [mem_range] at hk
  have hkept := h.kept (chunks.length + k) (by rw [length_append]; omega) (by omega)
  rw [← Nat.add_assoc] at hkept
  exact hkept.1

theorem gccSendLosslessPacketFragments (h : SendSide base chunks received link)
    (hnow : 0 < env.now) (hbase : base ≤ received + 1) (hreceived : received < base + chunks.length)
    {message : GroupMessage} (hsendable : Sendable message)
    (hlong : message.2.length > maxGcPacketChunkSize)
    (hbound : base + chunks.length + (chunksOf message).length < 2 ^ 64)
    (hroom : ChannelAction.Room link.gconn (chunksOf message).length ∨
      link.gconn.sendMessageId.toNat < 2 ^ 16) {ok : Bool} {link' : PeerLink}
    (hsend : link.gccSendLosslessPacketFragments env message.2 message.1 = (ok, link')) :
    SendSide base (if ok then chunks ++ chunksOf message else chunks) received link' := by
  have hfew := hsendable.length_chunksOf
  rw [chunksOf_of_gt hlong] at hbound hroom hfew ⊢
  rw [length_cons, length_map] at hbound hroom hfew
  rw [PeerLink.gccSendLosslessPacketFragments, if_neg (Nat.not_le.mpr hlong)] at hsend
  cases hadd : link.gconn.addToSendArray env (PeerLink.firstChunk message.2 message.1)
      gpFragment with
  | mk added gconn =>
    simp only [hadd] at hsend
    cases added with
    | false =>
      cases hsend
      rw [addToSendArray_false hadd]
      exact h
    | true =>
      have hfirst := h.add hnow hbase (by omega) hadd
      obtain ⟨added, hprefix, hside, hall⟩ := hfirst.addChunks hnow hbase
        (PeerLink.laterChunks message.2)
        (by rw [length_append, length_singleton]; omega)
      rw [append_assoc, singleton_append] at hside
      have hlen := hprefix.length_le
      cases hchunks : PeerLink.addChunks env (PeerLink.laterChunks message.2) gconn with
      | mk added' gconn' =>
        rw [show (link.withConn gconn).gconn = gconn from rfl, hchunks] at hside hall
        simp only [hchunks] at hsend
        cases added' with
        | true =>
          rw [hall rfl] at hside
          have hstart : gccGetArrayIndex link.gconn.sendMessageId.toUInt16.toUInt64 =
              (base + chunks.length) % gccBufferSize := by
            rw [gccGetArrayIndex_toUInt16, gccGetArrayIndex, h.next]
          have hok : ok = true := by
            rw [show ok = _ from (congrArg Prod.fst hsend).symm]
            exact hside.sendChunks_added hreceived
              (by rw [length_cons, length_map]; exact hfew) hstart
          rw [if_pos hok, show link' = _ from (congrArg Prod.snd hsend).symm]
          exact hside.sendChunks _
        | false =>
          -- not all chunks fit, so the ids fit into 16 bits
          have hsmall : link.gconn.sendMessageId.toNat < 2 ^ 16 := by
            apply hroom.resolve_left
            intro hroom
            have hfits : (PeerLink.addChunks env
                (PeerLink.firstChunk message.2 message.1 :: PeerLink.laterChunks message.2)
                link.gconn).1 = true :=
              addChunks_of_room _ (by rw [length_cons, h.next]; omega)
                (by rw [length_cons]; exact hfew) (by rw [length_cons]; exact hroom)
            simp only [PeerLink.addChunks, hadd, hchunks] at hfits
            exact absurd hfits (by decide)
          have hcut : link.gconn.sendMessageId.toUInt16.toUInt64.toNat = base + chunks.length := by
            rw [← h.next]
            simpa using hsmall
          cases hsend
          exact hside.giveUp h.sent (by rw [length_cons, length_map]; omega) hcut

theorem gccSendLosslessPacket (h : SendSide base chunks received link) (hnow : 0 < env.now)
    (hbase : base ≤ received + 1) (hbound : base + chunks.length + 1 < 2 ^ 64) {data : Bytes}
    {type : UInt8} {result : PeerLink.SendLossless} {link' : PeerLink}
    (hsend : link.gccSendLosslessPacket env data type = (result, link')) :
    SendSide base (if result != .notAdded then chunks ++ [(type, data)] else chunks) received
      link' := by
  simp only [PeerLink.gccSendLosslessPacket] at hsend
  cases hadd : link.gconn.addToSendArray env data type with
  | mk added gconn =>
    simp only [hadd] at hsend
    cases added with
    | false =>
      cases hsend
      rw [addToSendArray_false hadd]
      exact h
    | true =>
      have hside := h.add hnow hbase hbound hadd
      simp only [PeerLink.gccEncryptAndSendLosslessPacket] at hsend
      split at hsend
      · cases hsend
        -- too long to be wrapped, but in the array
        rename_i hcase
        split at hcase
        · cases hcase; exact hside
        · split at hcase
          · cases hcase; exact hside
          · cases hcase
      · cases hsend
        rename_i hcase
        split at hcase
        · cases hcase
        · split at hcase
          · cases hcase
          · cases hcase
            refine { hside with sent := ?_ }
            intro encrypted hmem
            rcases mem_append.mp hmem with hmem | hmem
            · exact hside.sent encrypted hmem
            · simp only [mem_singleton, GCPacket.lossless.injEq] at hmem
              subst hmem
              exact ⟨chunks.length, h.next, by simp [encryptDataSymmetric]⟩

section

variable (h : SendSide base chunks received link)
include h

theorem sendLosslessGroupPacket
    (hnow : 0 < env.now) (hbase : base ≤ received + 1) (hreceived : received < base + chunks.length)
    {message : GroupMessage} (hsendable : Sendable message)
    (hbound : base + chunks.length + (chunksOf message).length < 2 ^ 64)
    (hroom : message.2.length > maxGcPacketChunkSize →
      ChannelAction.Room link.gconn (chunksOf message).length ∨
      link.gconn.sendMessageId.toNat < 2 ^ 16) :
    SendSide base (if link.accepts env message then chunks ++ chunksOf message else chunks)
      received (link.sendLosslessGroupPacket env message.2 message.1).2 := by
  rw [PeerLink.accepts, PeerLink.sendLosslessGroupPacket]
  split
  · exact h
  · split
    · rename_i hlong
      exact h.gccSendLosslessPacketFragments hnow hbase hreceived hsendable hlong hbound (hroom hlong) rfl
    · rename_i hshort
      rw [chunksOf_of_le hshort] at hbound ⊢
      cases hsend : link.gccSendLosslessPacket env message.2 message.1 with
      | mk result link' =>
        have hside := h.gccSendLosslessPacket hnow hbase hbound hsend
        cases result <;> exact hside

/-! ## Acknowledgements and re-sends -/

theorem touch {idx : Nat} {entry : GCMessageArrayEntry}
    (hempty : entry.isEmpty = (link.gconn.sendArray idx).isEmpty)
    (hid : entry.messageId = (link.gconn.sendArray idx).messageId)
    (htype : entry.packetType = (link.gconn.sendArray idx).packetType)
    (hdata : entry.data = (link.gconn.sendArray idx).data) :
    SendSide base chunks received (link.withConn { link.gconn with
      sendArray := Function.update link.gconn.sendArray idx entry }) := by
  have hfields : ∀ i, (Function.update link.gconn.sendArray idx entry i).isEmpty =
        (link.gconn.sendArray i).isEmpty ∧
      (Function.update link.gconn.sendArray idx entry i).messageId = (link.gconn.sendArray i).messageId ∧
      (Function.update link.gconn.sendArray idx entry i).packetType = (link.gconn.sendArray i).packetType ∧
      (Function.update link.gconn.sendArray idx entry i).data = (link.gconn.sendArray i).data := by
    intro i
    by_cases hi : i = idx
    · subst hi
      rw [Function.update_self]
      exact ⟨hempty, hid, htype, hdata⟩
    · rw [Function.update_of_ne hi]
      exact ⟨rfl, rfl, rfl, rfl⟩
  constructor
  case next => exact h.next
  case window => exact h.window
  case cleared =>
    intro i
    obtain ⟨h1, h2, -, -⟩ := hfields i
    simp only [PeerLink.withConn, h1, h2]
    exact h.cleared i
  case slot =>
    intro i
    obtain ⟨h1, h2, h3, h4⟩ := hfields i
    simp only [PeerLink.withConn, h1, h2, h3, h4]
    exact h.slot i
  case kept =>
    intro k
    obtain ⟨h1, h2, -, -⟩ := hfields ((base + k) % gccBufferSize)
    simp only [PeerLink.withConn, h1, h2]
    exact h.kept k
  case sent => exact h.sent

theorem gccHandleAck {id : UInt64} (hid : id.toNat ≤ received) :
    SendSide base chunks received (link.withConn (link.gconn.gccHandleAck id).2) := by
  simp only [GCConnection.gccHandleAck]
  split
  · exact h
  · split
    · exact h
    · rename_i hne heq
      have heq : (link.gconn.sendArray (gccGetArrayIndex id)).messageId = id := by
        simpa using heq
      constructor
      case next => exact h.next
      case window => exact h.window
      case cleared =>
        intro i hi
        by_cases hidx : i = gccGetArrayIndex id
        · simp [PeerLink.withConn, MessageArray.clear, hidx, emptyArrayEntry]
        · simp only [PeerLink.withConn, MessageArray.clear, Function.update_of_ne hidx] at hi ⊢
          exact h.cleared i hi
      case slot =>
        intro i hi
        by_cases hidx : i = gccGetArrayIndex id
        · simp [PeerLink.withConn, MessageArray.clear, hidx, isEmpty_emptyArrayEntry] at hi
        · simp only [PeerLink.withConn, MessageArray.clear, Function.update_of_ne hidx] at hi ⊢
          exact h.slot i hi
      case kept =>
        intro k hk hlt
        have hold := h.kept k hk hlt
        -- the entry that is cleared has a smaller message id
        have hidx : (base + k) % gccBufferSize ≠ gccGetArrayIndex id := by
          intro hidx
          rw [hidx, heq] at hold
          omega
        simpa only [PeerLink.withConn, MessageArray.clear, Function.update_of_ne hidx] using hold
      case sent => exact h.sent

end

theorem netUnpackU64_ackData (type : UInt8) (id : UInt64) :
    netUnpackU64 ((PeerLink.ackData type id).drop 1) = id := by
  exact netUnpackU64_netPackU64_append id []

section

variable (h : SendSide base chunks received link)
include h

theorem handleGcMessageAck {type : UInt8} {id : UInt64}
    (hack : type = grAckRecv ∧ id.toNat ≤ received ∨ type = grAckReq ∧ id ≠ 0) :
    SendSide base chunks received (link.handleGcMessageAck env (PeerLink.ackData type id)).2 := by
  have hunpack := netUnpackU64_ackData type id
  have htype : (PeerLink.ackData type id).getD 0 0 = type := rfl
  rw [PeerLink.handleGcMessageAck]
  split
  · exact h
  · simp only [hunpack, htype]
    rcases hack with ⟨rfl, hid⟩ | ⟨rfl, hid⟩
    · exact h.gccHandleAck hid
    · have hreq : grAckReq ≠ grAckRecv := by decide
      rw [if_neg hreq, if_neg (not_not.mpr rfl)]
      split
      · exact h
      · rename_i heq
        have heq : (link.gconn.sendArray (gccGetArrayIndex id)).messageId = id := by
          simpa using heq
        have hne : ¬(link.gconn.sendArray (gccGetArrayIndex id)).isEmpty := by
          intro hempty
          rw [h.cleared _ hempty] at heq
          exact hid heq.symm
        cases hsend : link.sendEntry env (gccGetArrayIndex id) with
        | mk ok link' =>
          have hside : SendSide base chunks received (link.sendEntry env _).2 := h.sendEntry hne
          rw [hsend] at hside
          cases ok
          · exact hside
          · exact hside.touch rfl rfl rfl rfl

theorem resendEntry (idx : Nat) :
    SendSide base chunks received (link.resendEntry env idx) := by
  rw [PeerLink.resendEntry]
  dsimp only
  split
  · exact h
  · split
    · exact h
    · rename_i hne _
      have htouch : SendSide base chunks received (link.withConn { link.gconn with
          sendArray := Function.update link.gconn.sendArray idx
            { link.gconn.sendArray idx with lastSendTry := env.now } }) :=
        h.touch rfl rfl rfl rfl
      split
      · exact htouch.sendEntry (by simpa [PeerLink.withConn, GCMessageArrayEntry.isEmpty] using hne)
      · exact htouch

theorem gccResendPackets :
    SendSide base chunks received (link.gccResendPackets env) := by
  have hloop : ∀ (slots : List Nat) {link : PeerLink}, SendSide base chunks received link →
      SendSide base chunks received (slots.foldl (fun link idx => link.resendEntry env idx) link) := by
    intro slots
    induction slots with
    | nil => exact fun h => h
    | cons idx slots ih => exact fun h => ih (h.resendEntry idx)
  rw [PeerLink.gccResendPackets]
  split
  · exact h
  · split
    · exact h.congr rfl rfl rfl
    · exact hloop _ h

theorem handleGcLossyPacket {handler : LosslessHelper} {encrypted : Sealed LossyPlain} {directConn : Bool}
    {type : UInt8} {id : UInt64} (hpacket : encrypted.plain.packetType = gpMessageAck)
    (hdata : encrypted.plain.data = PeerLink.ackData type id)
    (hack : type = grAckRecv ∧ id.toNat ≤ received ∨ type = grAckReq ∧ id ≠ 0) :
    SendSide base chunks received (link.handleGcLossyPacket env handler encrypted directConn).2 := by
  have hside : SendSide base chunks received (link.handleGcMessageAck env encrypted.plain.data).2 := by
    rw [hdata]
    exact h.handleGcMessageAck hack
  rw [PeerLink.handleGcLossyPacket]
  split
  · exact h
  · split
    · exact h
    · rename_i hdecrypt
      have hplain := decryptDataSymmetric_eq_some hdecrypt
      rw [hplain] at hpacket hside
      simp only [encryptDataSymmetric] at hpacket hside
      split
      · exact h
      · cases hhandle : link.handleGcMessageAck env _ with
        | mk ok link' =>
          rw [hhandle] at hside
          cases ok
          · exact hside
          · exact hside.congr rfl rfl rfl

end

end SendSide

end Toxcore

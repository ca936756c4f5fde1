import Toxcore.Spec.NgcSendWindow

/-!
# Runs of a sender

Sends, acknowledgements and re-sends in any order, from a connection whose next id was just set.
-/

namespace Toxcore

open List

open RingWindow

/-! ## Sending again -/

structure Retried (now : UInt64) (gconn gconn' : GCConnection) : Prop where
  next : gconn'.sendMessageId = gconn.sendMessageId
  start : gconn'.sendArrayStart = gconn.sendArrayStart
  empty : ∀ i, (gconn'.sendArray i).isEmpty = (gconn.sendArray i).isEmpty
  messageId : ∀ i, (gconn'.sendArray i).messageId = (gconn.sendArray i).messageId
  cleared : ∀ i, (gconn.sendArray i).isEmpty = true → gconn'.sendArray i = gconn.sendArray i
  tried : ∀ i, (gconn.sendArray i).lastSendTry = now → (gconn'.sendArray i).lastSendTry = now

namespace Retried

variable {now : UInt64} {gconn gconn' gconn'' : GCConnection}

theorem refl (now : UInt64) (gconn : GCConnection) : Retried now gconn gconn :=
  ⟨rfl, rfl, fun _ => rfl, fun _ => rfl, fun _ _ => rfl, fun _ h => h⟩

theorem trans (h : Retried now gconn gconn') (h' : Retried now gconn' gconn'') :
    Retried now gconn gconn'' where
  next := h'.next.trans h.next
  start := h'.start.trans h.start
  empty := fun i => (h'.empty i).trans (h.empty i)
  messageId := fun i => (h'.messageId i).trans (h.messageId i)
  cleared := fun i hi => (h'.cleared i ((h.empty i).trans hi)).trans (h.cleared i hi)
  tried := fun i hi => h'.tried i (h.tried i hi)

theorem update (gconn : GCConnection) {idx : Nat} (hne : (gconn.sendArray idx).isEmpty = false) :
    Retried now gconn { gconn with
      sendArray := Function.update gconn.sendArray idx { gconn.sendArray idx with lastSendTry := now } } where
  next := rfl
  start := rfl
  empty := fun i => by
    by_cases hi : i = idx
    · subst hi
      simp [GCMessageArrayEntry.isEmpty]
    · simp [Function.update_of_ne hi]
  messageId := fun i => by
    by_cases hi : i = idx
    · subst hi
      simp
    · simp [Function.update_of_ne hi]
  cleared := fun i hi => by
    refine Function.update_of_ne (fun heq => ?_) _ _
    rw [heq, hne] at hi
    simp at hi
  tried := fun i hi => by
    by_cases heq : i = idx
    · subst heq
      simp
    · simp [Function.update_of_ne heq, hi]

theorem sendWindow (h : Retried now gconn gconn') {unacked : List UInt64}
    (hwindow : gconn.SendWindow unacked) : gconn'.SendWindow unacked where
  start_lt := by rw [h.start]; exact hwindow.start_lt
  nodup := hwindow.nodup
  stored := fun id hid => by rw [h.empty, h.messageId]; exact hwindow.stored id hid
  named := fun i hi => by rw [h.messageId]; exact hwindow.named i ((h.empty i).symm.trans hi)
  window := by rw [h.start, h.next]; exact hwindow.window
  front := by rw [h.start, h.next, h.empty]; exact hwindow.front
  clean := fun i hi => by
    have hi := (h.empty i).symm.trans hi
    rw [h.cleared i hi]
    exact hwindow.clean i hi

end Retried

namespace PeerLink

variable {link : PeerLink} {env : NgcEnv}

theorem gconn_sendEntry (link : PeerLink) (env : NgcEnv) (i : Nat) :
    (link.sendEntry env i).2.gconn = link.gconn := SendSide.sendEntry_gconn i

theorem resendEntry_retried (link : PeerLink) (env : NgcEnv) (idx : Nat) :
    Retried env.now link.gconn (link.resendEntry env idx).gconn ∧
      ((link.gconn.sendArray idx).isEmpty = false →
        ((link.resendEntry env idx).gconn.sendArray idx).lastSendTry = env.now) := by
  rw [resendEntry]
  by_cases hempty : (link.gconn.sendArray idx).isEmpty = true
  · rw [if_pos hempty]
    refine ⟨Retried.refl _ _, fun hne => ?_⟩
    rw [hempty] at hne
    simp at hne
  · rw [if_neg hempty]
    by_cases htried : env.now = (link.gconn.sendArray idx).lastSendTry
    · rw [if_pos htried]
      exact ⟨Retried.refl _ _, fun _ => htried.symm⟩
    · rw [if_neg htried]
      have hgconn : ∀ (b : Bool) (link : PeerLink),
          (if b then (link.sendEntry env idx).2 else link).gconn = link.gconn := by
        intro b link
        cases b with
        | true => exact gconn_sendEntry link env idx
        | false => rfl
      rw [hgconn]
      exact ⟨Retried.update link.gconn (by simpa using hempty), fun _ => by simp [withConn]⟩

theorem foldl_resendEntry (slots : List Nat) (link : PeerLink) (env : NgcEnv) :
    Retried env.now link.gconn (slots.foldl (fun link idx => link.resendEntry env idx) link).gconn ∧
      ∀ i ∈ slots, (link.gconn.sendArray i).isEmpty = false →
        ((slots.foldl (fun link idx => link.resendEntry env idx) link).gconn.sendArray i).lastSendTry =
          env.now := by
  induction slots generalizing link with
  | nil => exact ⟨Retried.refl _ _, fun i hi => by simp at hi⟩
  | cons idx slots ih =>
    obtain ⟨hretried, htried⟩ := link.resendEntry_retried env idx
    obtain ⟨hrest, hall⟩ := ih (link.resendEntry env idx)
    refine ⟨hretried.trans hrest, fun i hi hne => ?_⟩
    cases mem_cons.mp hi with
    | inl heq =>
      subst heq
      exact hrest.tried i (htried hne)
    | inr hmem => exact hall i hmem ((hretried.empty i).trans hne)

theorem gccResendPackets_spec {unacked : List UInt64} (h : link.gconn.SendWindow unacked) (env : NgcEnv) :
    (link.gccResendPackets env).gconn.SendWindow unacked ∧
      (link.gccResendPackets env = link.withConn link.gconn.gccMarkForDeletion ∨
        ∀ id ∈ unacked,
          ((link.gccResendPackets env).gconn.sendArray (gccGetArrayIndex id)).lastSendTry = env.now) := by
  rw [gccResendPackets]
  split
  · rename_i hempty
    refine ⟨h, .inr fun id hid => ?_⟩
    rw [h.isEmpty_start (ne_nil_of_mem hid)] at hempty
    simp at hempty
  · split
    · exact ⟨h.congr rfl rfl rfl, .inl rfl⟩
    · obtain ⟨hretried, htried⟩ := foldl_resendEntry
        (slotRange link.gconn.sendArrayStart.toNat (gccGetArrayIndex link.gconn.sendMessageId)) link env
      refine ⟨hretried.sendWindow h, .inr fun id hid => ?_⟩
      exact htried _ ((mem_slotRange h.start_lt).mpr (h.window id hid)) (h.stored id hid).1

end PeerLink

/-! ## The sender -/

/-- A connection, and the ids of the messages that were added to it and not acknowledged. -/
structure Sender where
  link : PeerLink
  unacked : List UInt64

inductive SendCall where
  /-- `gcc_send_lossless_packet` -/
  | send (env : NgcEnv) (alloc : Bool) (data : Bytes) (packetType : UInt8)
  /-- `gcc_send_lossless_packet_fragments` -/
  | sendFragments (env : NgcEnv) (allocs : Nat → Bool) (data : Bytes) (packetType : UInt8)
  | handleAck (messageId : UInt64)
  | resendPackets (env : NgcEnv)

namespace Sender

open GCConnection PeerLink

variable {s : Sender}

def fragmentCount (data : Bytes) (packetType : UInt8) : Nat :=
  (firstChunk data packetType :: laterChunks data).length

def step (s : Sender) : SendCall → Sender
  | .send env alloc data packetType =>
    match s.link.gccSendLosslessPacketAlloc env alloc data packetType with
    | (.notAdded, link) => { s with link }
    | (_, link) => { link, unacked := s.unacked ++ [s.link.gconn.sendMessageId] }
  | .sendFragments env allocs data packetType =>
    match s.link.gccSendLosslessPacketFragmentsAlloc env allocs data packetType with
    | (false, link) => { s with link }
    | (true, link) =>
      { link, unacked := s.unacked ++ idsFrom s.link.gconn.sendMessageId (fragmentCount data packetType) }
  | .handleAck messageId =>
    { link := s.link.withConn (s.link.gconn.gccHandleAck messageId).2
      unacked := s.unacked.filter (· ≠ messageId) }
  | .resendPackets env => { s with link := s.link.gccResendPackets env }

def ValidCall : SendCall → Prop
  | .send env _ _ _ => 0 < env.now
  | .sendFragments env _ data _ => 0 < env.now ∧ data.length < 2 ^ 16
  | .handleAck _ => True
  | .resendPackets _ => True

/-- A connection after `gcc_set_send_message_id`. -/
def new (link : PeerLink) (id : UInt64) : Sender where
  link := link.withConn ({ link.gconn with sendArray := emptyMessageArray }.gccSetSendMessageId id)
  unacked := []

structure Holds (s : Sender) : Prop where
  /-- The entries are the unacknowledged messages, each at the slot of its id. -/
  stored : ∀ id ∈ s.unacked, (s.link.gconn.sendArray (gccGetArrayIndex id)).isEmpty = false ∧
    (s.link.gconn.sendArray (gccGetArrayIndex id)).messageId = id
  named : ∀ i, (s.link.gconn.sendArray i).isEmpty = false →
    (s.link.gconn.sendArray i).messageId ∈ s.unacked ∧ gccGetArrayIndex (s.link.gconn.sendArray i).messageId = i
  /-- They lie between the start and the slot of the next id. -/
  window : ∀ i, (s.link.gconn.sendArray i).isEmpty = false →
    InWindow gccBufferSize s.link.gconn.sendArrayStart.toNat (gccGetArrayIndex s.link.gconn.sendMessageId) i
  /-- A call of `gcc_resend_packets` would try them all, or give the peer up. -/
  visits : ∀ env, s.link.gccResendPackets env = s.link.withConn s.link.gconn.gccMarkForDeletion ∨
    ∀ id ∈ s.unacked,
      ((s.link.gccResendPackets env).gconn.sendArray (gccGetArrayIndex id)).lastSendTry = env.now
  /-- While messages are pending, the array does not look empty. -/
  pending : s.unacked ≠ [] → (s.link.gconn.sendArray s.link.gconn.sendArrayStart.toNat).isEmpty = false
  nodup : s.unacked.Nodup
  outstanding : s.unacked.length ≤ gccBufferSize - 1

def LeavesSlot (s : Sender) : SendCall → Prop
  | .send _ alloc data _ => ¬(s.link.gconn.sendArrayStart = 0 ∧
      gccGetArrayIndex s.link.gconn.sendMessageId + 1 = gccBufferSize ∧ (data ≠ [] → alloc = true))
  | .sendFragments _ allocs data packetType => ¬(s.link.gconn.sendArrayStart = 0 ∧
      gccGetArrayIndex s.link.gconn.sendMessageId + fragmentCount data packetType = gccBufferSize ∧
      maxGcPacketChunkSize < data.length ∧
      ∀ k chunk, (firstChunk data packetType :: laterChunks data)[k]? = some chunk → chunk ≠ [] →
        allocs k = true)
  | .handleAck _ => True
  | .resendPackets _ => True

def Ordered (s : Sender) : Prop := s.link.gconn.SendWindow s.unacked

theorem ordered_new (link : PeerLink) (id : UInt64) : (new link id).Ordered := by
  have hstart : (UInt16.ofNat (gccGetArrayIndex id)).toNat = gccGetArrayIndex id := by
    rw [UInt16.toNat_ofNat', Nat.mod_eq_of_lt (Nat.lt_of_lt_of_le (gccGetArrayIndex_lt id) (by decide))]
  have hnone : ∀ i, ((new link id).link.gconn.sendArray i).isEmpty = true := fun _ => rfl
  constructor
  case start_lt =>
    show (UInt16.ofNat (gccGetArrayIndex id)).toNat < _
    rw [hstart]
    exact gccGetArrayIndex_lt id
  case nodup => exact nodup_nil
  case stored => exact fun _ hid => by simp [new] at hid
  case named =>
    intro i hi
    rw [hnone i] at hi
    simp at hi
  case window => exact fun _ hid => by simp [new] at hid
  case front => exact fun _ => hstart
  case clean => exact fun _ _ => rfl

theorem Ordered.holds (h : s.Ordered) : s.Holds where
  stored := h.stored
  named := h.named
  window := fun _ hi => h.inWindow hi
  visits := fun env => (gccResendPackets_spec h env).2
  pending := h.isEmpty_start
  nodup := h.nodup
  outstanding := Nat.le_sub_one_of_lt h.length_lt

/-! ## Steps -/

theorem gconn_gccEncryptAndSend (link : PeerLink) (env : NgcEnv) (data : Bytes) (messageId : UInt64)
    (packetType : UInt8) :
    (link.gccEncryptAndSendLosslessPacket env data messageId packetType).2.gconn = link.gconn := by
  rw [gccEncryptAndSendLosslessPacket]
  split
  · rfl
  · split
    · rfl
    · rfl

theorem step_send {env : NgcEnv} {alloc : Bool} {data : Bytes} (packetType : UInt8)
    (h : s.link.gconn.HasRoom 0 ∧ (data ≠ [] → alloc = true)) :
    (s.step (.send env alloc data packetType)).link.gconn = s.link.gconn.push env data packetType ∧
      (s.step (.send env alloc data packetType)).unacked = s.unacked ++ [s.link.gconn.sendMessageId] := by
  rw [step, gccSendLosslessPacketAlloc, addToSendArrayAlloc_eq, if_pos h]
  have hsame := gconn_gccEncryptAndSend (s.link.withConn (s.link.gconn.push env data packetType)) env data
    s.link.gconn.sendMessageId packetType
  dsimp only
  generalize (s.link.withConn (s.link.gconn.push env data packetType)).gccEncryptAndSendLosslessPacket env data
    s.link.gconn.sendMessageId packetType = result at hsame ⊢
  obtain ⟨ok, link⟩ := result
  cases ok with
  | true => exact ⟨hsame, rfl⟩
  | false => exact ⟨hsame, rfl⟩

theorem step_send_of_not {env : NgcEnv} {alloc : Bool} {data : Bytes} (packetType : UInt8)
    (h : ¬(s.link.gconn.HasRoom 0 ∧ (data ≠ [] → alloc = true))) :
    s.step (.send env alloc data packetType) = s := by
  rw [step, gccSendLosslessPacketAlloc, addToSendArrayAlloc_eq, if_neg h]
  rfl

theorem step_sendFragments (h : s.Ordered) {env : NgcEnv} (hnow : 0 < env.now) (allocs : Nat → Bool)
    {data : Bytes} (hdata : data.length < 2 ^ 16) (packetType : UInt8) :
    (s.link.gconn.Fits allocs 0 (firstChunk data packetType :: laterChunks data) ∧
      maxGcPacketChunkSize < data.length ∧
      (s.step (.sendFragments env allocs data packetType)).link.gconn =
        append env s.link.gconn (firstChunk data packetType :: laterChunks data) ∧
      (s.step (.sendFragments env allocs data packetType)).unacked =
        s.unacked ++ idsFrom s.link.gconn.sendMessageId (fragmentCount data packetType)) ∨
    (¬(s.link.gconn.Fits allocs 0 (firstChunk data packetType :: laterChunks data) ∧
        maxGcPacketChunkSize < data.length) ∧
      (s.step (.sendFragments env allocs data packetType)).Ordered) := by
  by_cases hlong : maxGcPacketChunkSize < data.length
  · have hspec := @gccSendLosslessPacketFragmentsAlloc_spec s.link env h.clean hnow allocs data packetType
      hlong hdata
    have hstep : s.step (.sendFragments env allocs data packetType) =
        match s.link.gccSendLosslessPacketFragmentsAlloc env allocs data packetType with
        | (false, link) => { s with link }
        | (true, link) =>
          { link
            unacked := s.unacked ++ idsFrom s.link.gconn.sendMessageId (fragmentCount data packetType) } := rfl
    rw [hstep]
    generalize s.link.gccSendLosslessPacketFragmentsAlloc env allocs data packetType = result at hspec ⊢
    obtain ⟨ok, link⟩ := result
    obtain ⟨rfl, hfits, hgconn⟩ | ⟨rfl, hnone, hgconn⟩ | ⟨rfl, -, hnot, harray, hstart, hid⟩ := hspec
    · exact .inl ⟨hfits, hlong, hgconn, rfl⟩
    · refine .inr ⟨fun hfits => hnone ?_, ?_⟩
      · have hfirst := hfits.1 0 _ rfl
        exact ⟨hfirst.1, hfirst.2 (cons_ne_nil _ _)⟩
      · show link.gconn.SendWindow s.unacked
        rw [hgconn]
        exact h
    · refine .inr ⟨fun hfits => hnot hfits.1, ?_⟩
      have hindex : gccGetArrayIndex link.gconn.sendMessageId =
          gccGetArrayIndex s.link.gconn.sendMessageId := by
        rw [hid, index_toUInt16]
      exact h.congr harray hstart hindex
  · refine .inr ⟨fun hfits => hlong hfits.2, ?_⟩
    rw [step, gccSendLosslessPacketFragmentsAlloc, if_pos (Nat.not_lt.mp hlong)]
    exact h

theorem ordered_step (h : s.Ordered) {call : SendCall} (hvalid : ValidCall call) (hleaves : s.LeavesSlot call) :
    (s.step call).Ordered := by
  cases call with
  | send env alloc data packetType =>
    by_cases hroom : s.link.gconn.HasRoom 0 ∧ (data ≠ [] → alloc = true)
    · obtain ⟨hgconn, hunacked⟩ := @step_send s env alloc data packetType hroom
      rw [Ordered, hgconn, hunacked]
      have hfits : s.link.gconn.Fits (fun _ => alloc) 0 [data] := by
        intro k chunk hk
        cases k with
        | zero =>
          cases hk
          exact hroom
        | succ k => simp at hk
      have hlast := h.not_last (Nat.lt_of_le_of_lt (Nat.le_refl 1) (by decide)) hfits fun hzero => hleaves ⟨hzero.1, hzero.2, hroom.2⟩
      exact h.push hvalid data packetType hroom.1 (hlast 0 Nat.zero_lt_one)
    · rw [step_send_of_not packetType hroom]
      exact h
  | sendFragments env allocs data packetType =>
    obtain ⟨hfits, hlong, hgconn, hunacked⟩ | ⟨-, hordered⟩ :=
      step_sendFragments h hvalid.1 allocs hvalid.2 packetType
    · have hlength := length_chunks_lt packetType hvalid.2
      have hlast := h.not_last hlength hfits fun hzero =>
        hleaves ⟨hzero.1, hzero.2, hlong, fun k chunk hk => Nat.zero_add k ▸ (hfits k chunk hk).2⟩
      rw [Ordered, hgconn, hunacked]
      exact SendWindow.append hvalid.1 _ h hlength hfits hlast
    · exact hordered
  | handleAck messageId => exact h.gccHandleAck messageId
  | resendPackets env => exact (gccResendPackets_spec h env).1

theorem not_holds_of_full {s' : Sender} {id : UInt64} (hid : id ∈ s'.unacked)
    (hfull : gccGetArrayIndex s'.link.gconn.sendMessageId = s'.link.gconn.sendArrayStart.toNat) :
    ¬s'.Holds := by
  intro h
  have hwindow := h.window _ (h.stored id hid).1
  rw [hfull] at hwindow
  exact not_inWindow_self _ _ (hfull ▸ gccGetArrayIndex_lt _) hwindow

theorem not_holds_step (h : s.Ordered) {call : SendCall} (hvalid : ValidCall call)
    (hleaves : ¬s.LeavesSlot call) : ¬(s.step call).Holds := by
  cases call with
  | send env alloc data packetType =>
    obtain ⟨hzero, hend, halloc⟩ := not_not.mp hleaves
    have hroom := (h.hasRoom_of_start_zero hzero (by omega) : s.link.gconn.HasRoom 0)
    obtain ⟨hgconn, hunacked⟩ := @step_send s env alloc data packetType ⟨hroom, halloc⟩
    refine @not_holds_of_full _ s.link.gconn.sendMessageId ?_ ?_
    · rw [hunacked]
      exact mem_append_right _ (mem_singleton.mpr rfl)
    · rw [hgconn]
      show gccGetArrayIndex (s.link.gconn.sendMessageId + 1) = s.link.gconn.sendArrayStart.toNat
      rw [gccGetArrayIndex_add_one, next_eq (gccGetArrayIndex_lt _), if_pos hend, hzero]
      rfl
  | sendFragments env allocs data packetType =>
    obtain ⟨hzero, hend, hlong, halloc⟩ := not_not.mp hleaves
    have hfits : s.link.gconn.Fits allocs 0 (firstChunk data packetType :: laterChunks data) := by
      intro k chunk hk
      have hlt := (List.getElem?_eq_some_iff.mp hk).1
      refine ⟨h.hasRoom_of_start_zero hzero ?_, fun hne => ?_⟩
      · rw [fragmentCount] at hend
        omega
      · rw [Nat.zero_add]
        exact halloc k chunk hk hne
    obtain ⟨-, -, hgconn, hunacked⟩ | ⟨hnot, -⟩ := step_sendFragments h hvalid.1 allocs hvalid.2 packetType
    · refine @not_holds_of_full _ s.link.gconn.sendMessageId ?_ ?_
      · rw [hunacked, fragmentCount, length_cons, idsFrom_succ]
        exact mem_append_right _ mem_cons_self
      · rw [hgconn, sendMessageId_append, sendArrayStart_append, index_add, hzero]
        rw [← Nat.mod_add_mod]
        exact (congrArg (· % gccBufferSize) hend).trans (Nat.mod_self _)
    · exact absurd ⟨hfits, hlong⟩ hnot
  | handleAck messageId => exact absurd trivial hleaves
  | resendPackets env => exact absurd trivial hleaves

/-- The send array is in order in all states exactly if no call takes the last slot of a ring from 0. -/
theorem allHold_iff (link : PeerLink) (id : UInt64) (calls : List SendCall)
    (hvalid : ∀ call ∈ calls, ValidCall call) :
    StepRun.AllStates step Holds (new link id) calls ↔ StepRun.AllSteps step LeavesSlot (new link id) calls :=
  StepRun.allStates_iff (fun _ h => Ordered.holds h) (fun _ _ h hvalid => ordered_step h hvalid)
    (fun _ _ h hvalid => not_holds_step h hvalid) calls hvalid (ordered_new link id)

def oneByte : SendCall := .send startEnv true [0] gpBroadcast

theorem validCall_oneByte : ValidCall oneByte := show (0 : UInt64) < 1 by decide

theorem allHold_iff_one : StepRun.AllStates step Holds (new newLink 0) [oneByte, .handleAck 0, oneByte] :=
  (allHold_iff newLink 0 [oneByte, .handleAck 0, oneByte]
    (by
      intro call hcall
      simp only [mem_cons, not_mem_nil, or_false] at hcall
      obtain rfl | rfl | rfl := hcall
      · exact validCall_oneByte
      · trivial
      · exact validCall_oneByte)).mpr
    ⟨fun h => absurd h.2.1 (by decide), trivial, fun h => absurd h.2.1 (by decide), trivial⟩

theorem not_allSteps_fill (k : Nat) (h : s.Ordered) (hzero : s.link.gconn.sendArrayStart = 0)
    (hindex : gccGetArrayIndex s.link.gconn.sendMessageId + (k + 1) = gccBufferSize) :
    ¬StepRun.AllSteps step (fun s call => (s.step call).Holds) s (List.replicate (k + 1) oneByte) := by
  have hvalid := validCall_oneByte
  induction k generalizing s with
  | zero => exact fun hall => not_holds_step h hvalid (fun hnot => hnot ⟨hzero, hindex, fun _ => rfl⟩) hall.1
  | succ k ih =>
    have hroom : s.link.gconn.HasRoom 0 := h.hasRoom_of_start_zero hzero (by omega)
    obtain ⟨hgconn, -⟩ := @step_send s startEnv true [0] gpBroadcast ⟨hroom, fun _ => rfl⟩
    have hordered : (s.step oneByte).Ordered := ordered_step h hvalid fun hfull => by
      omega
    have hnext : gccGetArrayIndex (s.step oneByte).link.gconn.sendMessageId =
        gccGetArrayIndex s.link.gconn.sendMessageId + 1 := by
      rw [oneByte, hgconn]
      show gccGetArrayIndex (s.link.gconn.sendMessageId + 1) = _
      rw [gccGetArrayIndex_add_one, next_eq (gccGetArrayIndex_lt _), if_neg (by omega)]
    have hstart : (s.step oneByte).link.gconn.sendArrayStart = 0 := by
      rw [oneByte, hgconn]
      exact hzero
    exact fun hall => ih hordered hstart (by rw [hnext]; omega) hall.2

/-- `GCC_BUFFER_SIZE` messages fill the send array, which then looks empty. -/
theorem not_allHold_fill :
    ¬∀ (link : PeerLink) (id : UInt64) (calls : List SendCall), (∀ call ∈ calls, ValidCall call) →
      StepRun.AllStates step Holds (new link id) calls := by
  intro h
  have hvalid : ∀ call ∈ List.replicate (8191 + 1) oneByte, ValidCall call := by
    intro call hcall
    rw [eq_of_mem_replicate hcall]
    exact validCall_oneByte
  exact not_allSteps_fill 8191 (ordered_new newLink 0) rfl (by decide) (h newLink 0 _ hvalid).2

end Sender

end Toxcore

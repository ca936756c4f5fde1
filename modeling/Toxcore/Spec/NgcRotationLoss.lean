import Toxcore.Native.NgcRotation
import Toxcore.Spec.NgcChannelReceive

/-!
# Rotation of session keys under loss

Two peers of a group with the same session key, the functions that rotate it, and a network that loses,
duplicates and reorders packets. The peer that answers a request uses the new key at once, and for everything
that it sends again.
-/

namespace Toxcore

open List

/-! ## Messages that are no responses -/

def Harmless (packetType : UInt8) (data : Bytes) : Prop :=
  packetType ≠ gpFragment ∧ (packetType = gpKeyRotation → GCChat.netUnpackBool data = false)

theorem harmless_emptyArrayEntry : Harmless emptyArrayEntry.packetType emptyArrayEntry.data :=
  ⟨by decide, fun h => absurd h (by decide)⟩

def MessageArray.Harmless (array : MessageArray) : Prop :=
  ∀ i, Toxcore.Harmless (array i).packetType (array i).data

namespace MessageArray

variable {array : MessageArray}

theorem Harmless.update (h : array.Harmless) (idx : Nat) {entry : GCMessageArrayEntry}
    (hentry : Toxcore.Harmless entry.packetType entry.data) :
    MessageArray.Harmless (Function.update array idx entry) := by
  intro i
  by_cases hi : i = idx
  · subst hi
    rw [Function.update_self]
    exact hentry
  · rw [Function.update_of_ne hi]
    exact h i

theorem Harmless.clear (h : array.Harmless) (idx : Nat) : (array.clear idx).Harmless :=
  h.update idx harmless_emptyArrayEntry

end MessageArray

namespace PeerLink

structure Clean (link : PeerLink) : Prop where
  sendArray : link.gconn.sendArray.Harmless
  recvArray : link.gconn.recvArray.Harmless
  sent : ∀ encrypted, .lossless encrypted ∈ link.sent → Harmless encrypted.plain.packetType encrypted.plain.data

structure Steady (link link' : PeerLink) : Prop where
  key : link'.gconn.sessionSharedKey = link.gconn.sessionSharedKey
  clean : link.Clean → link'.Clean

variable {link link' : PeerLink} {env : NgcEnv}

theorem Steady.refl (link : PeerLink) : Steady link link := ⟨rfl, id⟩

theorem Steady.trans {link1 link2 link3 : PeerLink} (h : Steady link1 link2)
    (h' : Steady link2 link3) : Steady link1 link3 :=
  ⟨h'.key.trans h.key, fun hclean => h'.clean (h.clean hclean)⟩

theorem Steady.of_frame (hkey : link'.gconn.sessionSharedKey = link.gconn.sessionSharedKey)
    (hsend : link'.gconn.sendArray = link.gconn.sendArray)
    (hrecv : link'.gconn.recvArray = link.gconn.recvArray) (hsent : link'.sent = link.sent) :
    Steady link link' := by
  refine ⟨hkey, fun hclean => ⟨?_, ?_, ?_⟩⟩
  · rw [hsend]
    exact hclean.sendArray
  · rw [hrecv]
    exact hclean.recvArray
  · rw [hsent]
    exact hclean.sent

/-! ## Sending -/

theorem steady_sendLossyGroupPacket (link : PeerLink) (env : NgcEnv) (data : Bytes)
    (packetType : UInt8) : Steady link (link.sendLossyGroupPacket env data packetType).2 := by
  rw [sendLossyGroupPacket]
  split
  · exact .refl link
  split
  · exact .refl link
  split
  · exact .refl link
  split
  · exact .refl link
  · refine ⟨rfl, fun hclean => { hclean with sent := ?_ }⟩
    intro encrypted hmem
    obtain hmem | hmem := mem_append.mp hmem
    · exact hclean.sent encrypted hmem
    · cases mem_singleton.mp hmem

variable {data : Bytes} {packetType : UInt8}

theorem steady_gccEncryptAndSendLosslessPacket (messageId : UInt64) (h : link.Clean → Harmless packetType data) :
    Steady link (link.gccEncryptAndSendLosslessPacket env data messageId packetType).2 := by
  rw [gccEncryptAndSendLosslessPacket]
  split
  · exact .refl link
  split
  · exact .refl link
  · refine ⟨rfl, fun hclean => { hclean with sent := ?_ }⟩
    intro encrypted hmem
    obtain hmem | hmem := mem_append.mp hmem
    · exact hclean.sent encrypted hmem
    · obtain rfl : encrypted = _ := by simpa using hmem
      exact h hclean

theorem steady_sendEntry (link : PeerLink) (env : NgcEnv) (idx : Nat) :
    Steady link (link.sendEntry env idx).2 :=
  steady_gccEncryptAndSendLosslessPacket _ fun hclean => hclean.sendArray idx

theorem steady_gccSendLosslessPacket (h : Harmless packetType data) :
    Steady link (link.gccSendLosslessPacket env data packetType).2 := by
  have hadd : Steady link (link.withConn (link.gconn.addToSendArray env data packetType).2) := by
    rw [GCConnection.addToSendArray]
    split
    · exact .refl link
    split
    · exact .refl link
    · exact ⟨rfl, fun hclean => { hclean with sendArray := hclean.sendArray.update _ h }⟩
  rw [gccSendLosslessPacket]
  split
  · rename_i gconn heq
    rw [heq] at hadd
    exact hadd
  · rename_i gconn heq
    rw [heq] at hadd
    have hsend : Steady (link.withConn gconn) ((link.withConn gconn).gccEncryptAndSendLosslessPacket
        env data link.gconn.sendMessageId packetType).2 :=
      steady_gccEncryptAndSendLosslessPacket _ fun _ => h
    split
    · rename_i link' heq'
      rw [heq'] at hsend
      exact hadd.trans hsend
    · rename_i link' heq'
      rw [heq'] at hsend
      exact hadd.trans hsend

theorem steady_sendLosslessGroupPacket (env : NgcEnv) (h : Harmless packetType data)
    (hshort : data.length ≤ maxGcPacketChunkSize) :
    Steady link (link.sendLosslessGroupPacket env data packetType).2 := by
  have hsend : Steady link (link.gccSendLosslessPacket env data packetType).2 :=
    steady_gccSendLosslessPacket h
  rw [sendLosslessGroupPacket, if_neg (Nat.not_lt.mpr hshort)]
  split
  · exact .refl link
  split
  · rename_i link' heq
    rw [heq] at hsend
    exact hsend
  · rename_i link' _ heq
    rw [heq] at hsend
    exact hsend

/-! ## Acknowledgements and re-sends -/

theorem steady_gcSendMessageAckRecv (link : PeerLink) (env : NgcEnv) (messageId : UInt64) :
    Steady link (link.gcSendMessageAckRecv env messageId).2 := by
  rw [gcSendMessageAckRecv]
  split
  · exact .refl link
  · exact steady_sendLossyGroupPacket link env _ _

theorem steady_gcSendMessageAckReq (link : PeerLink) (env : NgcEnv) (messageId : UInt64) :
    Steady link (link.gcSendMessageAckReq env messageId).2 := by
  rw [gcSendMessageAckReq]
  split
  · exact .refl link
  split
  · exact .refl link
  · have hnoted : Steady link (link.withConn
        { link.gconn with lastRequestedPacketTime := env.now }) := .of_frame rfl rfl rfl rfl
    exact hnoted.trans (steady_sendLossyGroupPacket _ env _ _)

theorem steady_touch (link : PeerLink) (idx : Nat) (time : UInt64) :
    Steady link (link.withConn { link.gconn with
      sendArray := Function.update link.gconn.sendArray idx
        { link.gconn.sendArray idx with lastSendTry := time } }) :=
  ⟨rfl, fun hclean =>
    { hclean with sendArray := hclean.sendArray.update idx (hclean.sendArray idx) }⟩

theorem steady_handleGcMessageAck (link : PeerLink) (env : NgcEnv) (data : Bytes) :
    Steady link (link.handleGcMessageAck env data).2 := by
  rw [handleGcMessageAck]
  split
  · exact .refl link
  dsimp only
  split
  · -- an acknowledged message is cleared
    rw [GCConnection.gccHandleAck]
    split
    · exact .refl link
    split
    · exact .refl link
    · exact ⟨rfl, fun hclean => { hclean with sendArray := hclean.sendArray.clear _ }⟩
  split
  · exact .refl link
  split
  · exact .refl link
  · have hsend := steady_sendEntry link env (gccGetArrayIndex (netUnpackU64 (data.drop 1)))
    split
    · rename_i link' heq
      rw [heq] at hsend
      exact hsend
    · rename_i link' heq
      rw [heq] at hsend
      exact hsend.trans (steady_touch link' _ _)

theorem steady_resendEntry (link : PeerLink) (env : NgcEnv) (idx : Nat) :
    Steady link (link.resendEntry env idx) := by
  rw [resendEntry]
  dsimp only
  split
  · exact .refl link
  split
  · exact .refl link
  split
  · exact (steady_touch link idx env.now).trans (steady_sendEntry _ env idx)
  · exact steady_touch link idx env.now

theorem steady_gccResendPackets (link : PeerLink) (env : NgcEnv) :
    Steady link (link.gccResendPackets env) := by
  have hloop : ∀ (slots : List Nat) (link : PeerLink),
      Steady link (slots.foldl (fun link idx => link.resendEntry env idx) link) := by
    intro slots
    induction slots with
    | nil => exact fun link => .refl link
    | cons idx slots ih => exact fun link => (steady_resendEntry link env idx).trans (ih _)
  rw [gccResendPackets]
  split
  · exact .refl link
  split
  · exact .of_frame rfl rfl rfl rfl
  · exact hloop _ link

/-! ## Key rotation -/

/-- `handle_gc_key_exchange`, and for other packets a result that leaves the connection alone. -/
def rotationHelper (box : CryptoBox) (env : NgcEnv) (keypair : PublicKey × SecretKey)
    (handled : Bool) : LosslessHelper :=
  fun link packetType data =>
    if packetType = gpKeyRotation then link.handleGcKeyExchange env keypair box data
    else (handled, link)

/-- The request passes the limit on its rate, and the response gets into the send array. -/
def answers (link : PeerLink) (env : NgcEnv) (keypair : PublicKey × SecretKey) (data : Bytes) : Bool :=
  decide (1 + cryptoPublicKeySize ≤ data.length) && !GCChat.netUnpackBool data &&
    env.isTimeout link.gconn.lastKeyRotation (gcKeyRotationTimeout / 2) &&
    link.accepts env (gpKeyRotation, keyRotationData true keypair.1)

theorem length_keyRotationData (isResponse : Bool) (publicKey : PublicKey) :
    (keyRotationData isResponse publicKey).length ≤ maxGcPacketChunkSize := by
  rw [keyRotationData, length_cons, Vector.length_toList]
  decide

theorem harmless_request (publicKey : PublicKey) :
    Harmless gpKeyRotation (keyRotationData false publicKey) :=
  ⟨by decide, fun _ => rfl⟩

theorem sendLosslessGroupPacket_of_not_accepts (hshort : data.length ≤ maxGcPacketChunkSize)
    (h : link.accepts env (packetType, data) = false) :
    link.sendLosslessGroupPacket env data packetType = (false, link) := by
  rw [accepts] at h
  rw [sendLosslessGroupPacket, if_neg (Nat.not_lt.mpr hshort)]
  by_cases hready : (!link.gconn.handshaked || link.gconn.pendingDelete) = true
  · rw [if_pos hready]
  · rw [if_neg hready, if_neg (Nat.not_lt.mpr hshort)] at h
    rw [if_neg hready]
    rw [gccSendLosslessPacket] at h ⊢
    cases hadd : link.gconn.addToSendArray env data packetType with
    | mk added gconn =>
      rw [hadd] at h
      cases added with
      | false =>
        obtain rfl := SendSide.addToSendArray_false hadd
        rfl
      | true =>
        dsimp only at h
        split at h
        · cases h
        · cases h

theorem steady_sendPeerKeyRotationRequest (link : PeerLink) (env : NgcEnv) (keypair : PublicKey × SecretKey) :
    Steady link (link.sendPeerKeyRotationRequest env keypair).2 := by
  rw [sendPeerKeyRotationRequest]
  split
  · split
    · exact .of_frame rfl rfl rfl rfl
    · exact .refl link
  · have hnew : Steady link (link.withConn
        { link.gconn with sessionPublicKey := keypair.1, sessionSecretKey := keypair.2 }) :=
      .of_frame rfl rfl rfl rfl
    have hsend := hnew.trans (steady_sendLosslessGroupPacket env
      (harmless_request keypair.1) (length_keyRotationData false keypair.1))
    dsimp only
    split
    · rename_i link' heq
      rw [heq] at hsend
      exact hsend
    · rename_i link' heq
      rw [heq] at hsend
      exact hsend.trans (.of_frame rfl rfl rfl rfl)

theorem steady_pingAndRotate (link : PeerLink) (env : NgcEnv) (keypair : PublicKey × SecretKey)
    (pingData : Bytes) : Steady link (link.pingAndRotate env keypair pingData) := by
  have hping : Steady link (link.sendPing env pingData) := by
    have hsend := steady_sendLossyGroupPacket link env pingData gpPing
    rw [sendPing]
    split
    · exact .refl link
    split
    · rename_i link' heq
      rw [heq] at hsend
      exact hsend
    · rename_i link' heq
      rw [heq] at hsend
      exact hsend.trans (.of_frame rfl rfl rfl rfl)
  have hrotate : ∀ link : PeerLink, Steady link (link.rotateKey env keypair) := by
    intro link
    have hrequest := steady_sendPeerKeyRotationRequest link env keypair
    rw [rotateKey]
    split
    · exact .refl link
    split
    · rename_i link' heq
      rw [heq] at hrequest
      exact hrequest
    · rename_i link' heq
      rw [heq] at hrequest
      exact hrequest.trans (.of_frame rfl rfl rfl rfl)
  rw [pingAndRotate]
  split
  · exact .refl link
  · exact hping.trans (hrotate _)

variable {box : CryptoBox} {keypair : PublicKey × SecretKey} {handled : Bool}

theorem steady_rotationHelper (hharmless : Harmless packetType data)
    (hcareful : packetType = gpKeyRotation → link.answers env keypair data = false) :
    Steady link (rotationHelper box env keypair handled link packetType data).2 := by
  rw [rotationHelper]
  split
  · rename_i htype
    have hrequest := hharmless.2 htype
    have hnot := hcareful htype
    rw [handleGcKeyExchange]
    split
    · exact .refl link
    rename_i hlength
    rw [hrequest]
    rw [if_neg Bool.false_ne_true]
    split
    · exact .refl link
    · rename_i htime
      -- the limit is passed, so the response was not taken into the send array
      have haccepts : link.accepts env (gpKeyRotation, keyRotationData true keypair.1) = false := by
        rw [answers, hrequest] at hnot
        have htimeout : env.isTimeout link.gconn.lastKeyRotation (gcKeyRotationTimeout / 2) = true := by
          simpa using htime
        simpa [Nat.le_of_not_lt hlength, htimeout] using hnot
      rw [sendLosslessGroupPacket_of_not_accepts (length_keyRotationData true keypair.1) haccepts]
      exact .refl link
  · exact .refl link

/-! ## Receiving -/

theorem accepts_short (hshort : data.length ≤ maxGcPacketChunkSize) :
    link.accepts env (packetType, data) =
      ((link.gconn.handshaked && !link.gconn.pendingDelete) &&
        (!decide (gccGetArrayIndex link.gconn.sendMessageId = (link.gconn.sendArrayStart - 1).toNat) &&
          (link.gconn.sendArray (gccGetArrayIndex link.gconn.sendMessageId)).isEmpty)) := by
  rw [accepts, if_neg (Nat.not_lt.mpr hshort), gccSendLosslessPacket, GCConnection.addToSendArray]
  by_cases hready : (!link.gconn.handshaked || link.gconn.pendingDelete) = true
  · cases hh : link.gconn.handshaked <;> cases hp : link.gconn.pendingDelete <;> simp [hh, hp] at hready ⊢
  · rw [if_neg hready]
    have hready' : (link.gconn.handshaked && !link.gconn.pendingDelete) = true := by
      simpa using hready
    rw [hready']
    by_cases hfull : gccGetArrayIndex link.gconn.sendMessageId = (link.gconn.sendArrayStart - 1).toNat
    · simp [hfull]
    · cases hempty : (link.gconn.sendArray (gccGetArrayIndex link.gconn.sendMessageId)).isEmpty with
      | false => simp
      | true =>
        simp only [Bool.not_true, Bool.false_eq_true, if_false, hfull, decide_false, Bool.not_false,
          Bool.true_and]
        split
        · rfl
        · rfl

theorem answers_congr (hhandshaked : link'.gconn.handshaked = link.gconn.handshaked)
    (hpending : link'.gconn.pendingDelete = link.gconn.pendingDelete)
    (hrotation : link'.gconn.lastKeyRotation = link.gconn.lastKeyRotation)
    (hid : link'.gconn.sendMessageId = link.gconn.sendMessageId)
    (hstart : link'.gconn.sendArrayStart = link.gconn.sendArrayStart)
    (harray : link'.gconn.sendArray = link.gconn.sendArray) :
    link'.answers env keypair data = link.answers env keypair data := by
  have hshort := length_keyRotationData true keypair.1
  rw [answers, answers, accepts_short hshort, accepts_short hshort, hhandshaked, hpending, hrotation,
    hid, hstart, harray]

theorem steady_callHelper (box : CryptoBox) (handled : Bool) (hharmless : Harmless packetType data)
    (hcareful : packetType = gpKeyRotation → link.answers env keypair data = false) :
    Steady link (link.callHelper (rotationHelper box env keypair handled) packetType data).2 := by
  have hhanded : Steady link { link with handed := link.handed ++ [(packetType, data)] } :=
    .of_frame rfl rfl rfl rfl
  refine hhanded.trans (steady_rotationHelper hharmless ?_)
  intro htype
  have hsame : answers { link with handed := link.handed ++ [(packetType, data)] } env keypair data =
      link.answers env keypair data := answers_congr rfl rfl rfl rfl rfl rfl
  rw [hsame]
  exact hcareful htype

theorem steady_handleGcLosslessPacket {directConn : Bool} {encrypted : Sealed LosslessPlain}
    (hharmless : Harmless encrypted.plain.packetType encrypted.plain.data)
    (hcareful : encrypted.plain.packetType = gpKeyRotation → encrypted.plain.messageId = link.gconn.receivedMessageId + 1 → encrypted.key = link.gconn.sessionSharedKey → link.answers env keypair encrypted.plain.data = false)
    :
    Steady link (link.handleGcLosslessPacket env (rotationHelper box env keypair handled) encrypted
      directConn).2 := by
  rw [handleGcLosslessPacket]
  split
  · exact .refl link
  split
  · exact .refl link
  rename_i packetType messageId data hdecrypt
  obtain ⟨hkey, hplain⟩ : encrypted.key = link.gconn.sessionSharedKey ∧
      encrypted.plain = ⟨packetType, messageId, data⟩ := by
    rw [decryptDataSymmetric_eq_some hdecrypt]
    exact ⟨rfl, rfl⟩
  rw [hplain] at hharmless hcareful
  split
  · exact .refl link
  split
  · exact .refl link
  obtain ⟨g, hg, hcases⟩ := ReceiveSide.gccHandleReceivedMessage_cases link.gconn env data packetType
    messageId directConn
  -- noting the time of a packet changes no other field
  have hnoted : Steady link (link.withConn g) := by
    rw [hg]
    exact .of_frame rfl rfl rfl rfl
  have hreceived : g.receivedMessageId = link.gconn.receivedMessageId := by rw [hg]
  obtain ⟨-, heq⟩ | ⟨htype, -⟩ | ⟨-, -, heq⟩ | ⟨-, -, g', hstore, heq⟩ | ⟨-, hid, heq⟩ := hcases
  · rw [heq]
    dsimp only
    split
    · exact hnoted
    · exact hnoted.trans (steady_gcSendMessageAckRecv _ env messageId)
  · exact absurd htype hharmless.1
  · rw [heq]
    dsimp only
    split
    · exact hnoted
    · exact hnoted
  · obtain ⟨-, rfl⟩ := ReceiveSide.storeInRecvArray_true hstore
    have hstored : Steady (link.withConn g) (link.withConn { g with
        recvArray := Function.update g.recvArray (gccGetArrayIndex messageId)
          (GCConnection.createArrayEntry env data packetType messageId) }) :=
      ⟨rfl, fun hclean => { hclean with recvArray := hclean.recvArray.update _ hharmless }⟩
    rw [heq]
    dsimp only
    split
    · exact hnoted.trans hstored
    · exact (hnoted.trans hstored).trans (steady_gcSendMessageAckReq _ env _)
  · rw [heq]
    dsimp only
    have hadvanced : Steady link (link.withConn (g.gccSetRecvMessageId (g.receivedMessageId + 1))) :=
      hnoted.trans (.of_frame rfl rfl rfl rfl)
    split
    · exact hadvanced
    · have hnot : packetType = gpKeyRotation →
          (link.withConn (g.gccSetRecvMessageId (g.receivedMessageId + 1))).answers env keypair data =
            false := by
        intro htype
        have hsame : (link.withConn (g.gccSetRecvMessageId (g.receivedMessageId + 1))).answers env
            keypair data = link.answers env keypair data := by
          rw [hg]
          exact answers_congr rfl rfl rfl rfl rfl rfl
        rw [hsame]
        exact hcareful htype (by rw [hid, hreceived]) hkey
      have hcalled := hadvanced.trans (steady_callHelper box handled hharmless hnot)
      split
      · rename_i link' heq'
        rw [heq'] at hcalled
        exact hcalled
      · rename_i link' heq'
        rw [heq'] at hcalled
        exact hcalled.trans (steady_gcSendMessageAckRecv link' env messageId)

theorem steady_gccCheckRecvArray (hclean : link.Clean)
    (hcareful : ∀ entry, entry = link.gconn.recvArray (gccGetArrayIndex (link.gconn.receivedMessageId + 1)) → entry.packetType = gpKeyRotation → link.answers env keypair entry.data = false)
    :
    Steady link (link.gccCheckRecvArray env (rotationHelper box env keypair handled)) := by
  rw [gccCheckRecvArray]
  split
  · exact .refl link
  dsimp only
  split
  · exact .refl link
  · rw [processRecvArrayEntry]
    generalize hidx : gccGetArrayIndex (link.gconn.receivedMessageId + 1) = idx at hcareful
    have hcalled := steady_callHelper box handled (hclean.recvArray idx) (hcareful _ rfl)
    generalize link.callHelper (rotationHelper box env keypair handled)
      (link.gconn.recvArray idx).packetType (link.gconn.recvArray idx).data = result at hcalled ⊢
    obtain ⟨ok, link'⟩ := result
    dsimp only at hcalled ⊢
    have hcleared : Steady link (link'.withConn { link'.gconn with
        recvArray := link'.gconn.recvArray.clear idx }) :=
      hcalled.trans ⟨rfl, fun hclean => { hclean with recvArray := hclean.recvArray.clear idx }⟩
    split
    · exact hcleared.trans (steady_gcSendMessageAckReq _ env _)
    · exact (hcleared.trans (steady_gcSendMessageAckRecv _ env _)).trans (.of_frame rfl rfl rfl rfl)

theorem steady_handleGcLossyPacket (link : PeerLink) (env : NgcEnv) (handled : Bool)
    (encrypted : Sealed LossyPlain) (directConn : Bool) :
    Steady link (link.handleGcLossyPacket env (fun link _ _ => (handled, link)) encrypted directConn).2 := by
  rw [handleGcLossyPacket]
  split
  · exact .refl link
  split
  · exact .refl link
  rename_i packetType data _
  split
  · exact .refl link
  have hack := steady_handleGcMessageAck link env data
  have hhandled : Steady link (if packetType = gpMessageAck then link.handleGcMessageAck env data
      else (handled, link)).2 := by
    split
    · exact hack
    · exact .refl link
  split
  · rename_i link' heq
    rw [heq] at hhandled
    exact hhandled
  · rename_i link' heq
    rw [heq] at hhandled
    exact hhandled.trans (.of_frame rfl rfl rfl rfl)

end PeerLink

/-! ## The pair of peers -/

inductive PairSide where
  | a
  | b
deriving DecidableEq

def PairSide.other : PairSide → PairSide
  | .a => .b
  | .b => .a

abbrev GroupPair := PairSide → PeerLink

inductive PairAction where
  /-- The round of `do_gc_ping_and_key_rotation` for the other peer. -/
  | pingAndRotate (env : NgcEnv) (keypair : PublicKey × SecretKey) (pingData : Bytes)
  /-- `send_lossless_group_packet` -/
  | send (env : NgcEnv) (message : GroupMessage)
  /-- `gcc_resend_packets` -/
  | resend (env : NgcEnv)
  /-- A lossless packet of the other peer is handled. -/
  | handleLossless (env : NgcEnv) (keypair : PublicKey × SecretKey) (handled : Bool)
      (encrypted : Sealed LosslessPlain) (directConn : Bool)
  | checkRecvArray (env : NgcEnv) (keypair : PublicKey × SecretKey) (handled : Bool)
  /-- A lossy packet of the other peer is handled. -/
  | handleLossy (env : NgcEnv) (handled : Bool) (encrypted : Sealed LossyPlain) (directConn : Bool)

namespace PairAction

/-- Packets are handled after they were sent, and other messages fit one packet. -/
def Enabled (s : GroupPair) (side : PairSide) : PairAction → Prop
  | .send _ message =>
    message.1 ≠ gpFragment ∧ message.1 ≠ gpKeyRotation ∧ message.2.length ≤ maxGcPacketChunkSize
  | .handleLossless _ _ _ encrypted _ => .lossless encrypted ∈ (s side.other).sent
  | .handleLossy _ _ encrypted _ => .lossy encrypted ∈ (s side.other).sent
  | _ => True

/-- The condition on the state before a step: the peer does not answer a key rotation request. -/
def Careful (s : GroupPair) (side : PairSide) : PairAction → Prop
  | .handleLossless env keypair _ encrypted _ =>
    encrypted.plain.packetType = gpKeyRotation →
    encrypted.plain.messageId = (s side).gconn.receivedMessageId + 1 →
    encrypted.key = (s side).gconn.sessionSharedKey →
    (s side).answers env keypair encrypted.plain.data = false
  | .checkRecvArray env keypair _ =>
    ∀ entry, entry = (s side).gconn.recvArray (gccGetArrayIndex ((s side).gconn.receivedMessageId + 1)) →
      entry.packetType = gpKeyRotation → (s side).answers env keypair entry.data = false
  | _ => True

end PairAction

def PeerLink.act (box : CryptoBox) (link : PeerLink) : PairAction → PeerLink
  | .pingAndRotate env keypair pingData => link.pingAndRotate env keypair pingData
  | .send env message => (link.sendLosslessGroupPacket env message.2 message.1).2
  | .resend env => link.gccResendPackets env
  | .handleLossless env keypair handled encrypted directConn =>
    (link.handleGcLosslessPacket env (rotationHelper box env keypair handled) encrypted directConn).2
  | .checkRecvArray env keypair handled =>
    link.gccCheckRecvArray env (rotationHelper box env keypair handled)
  | .handleLossy env handled encrypted directConn =>
    (link.handleGcLossyPacket env (fun link _ _ => (handled, link)) encrypted directConn).2

namespace GroupPair

structure Initial (s : GroupPair) : Prop where
  key : (s .a).gconn.sessionSharedKey = (s .b).gconn.sessionSharedKey
  handshaked : ∀ side, (s side).gconn.handshaked
  sendArray : ∀ side, (s side).gconn.sendArray = emptyMessageArray
  recvArray : ∀ side, (s side).gconn.recvArray = emptyMessageArray
  sent : ∀ side, (s side).sent = []

def system (box : CryptoBox) : TransitionSystem GroupPair where
  init := Initial
  step s t := ∃ side, ∃ action : PairAction, action.Enabled s side ∧
    t = Function.update s side ((s side).act box action)

def carefulSystem (box : CryptoBox) : TransitionSystem GroupPair where
  init := Initial
  step s t := ∃ side, ∃ action : PairAction, action.Enabled s side ∧ action.Careful s side ∧
    t = Function.update s side ((s side).act box action)

/-- The keys are equal, or the other peer can decrypt a message that is sent again. -/
def Recoverable (s : GroupPair) : Prop :=
  (s .a).gconn.sessionSharedKey = (s .b).gconn.sessionSharedKey ∨
  ∃ side idx nonce, ¬((s side).gconn.sendArray idx).isEmpty ∧
    let entry := (s side).gconn.sendArray idx
    let packet := encryptDataSymmetric (s side).gconn.sessionSharedKey nonce
      (LosslessPlain.mk entry.packetType entry.messageId entry.data)
    (decryptDataSymmetric (s side.other).gconn.sessionSharedKey nonce packet).isSome

structure InStep (s : GroupPair) : Prop where
  key : (s .a).gconn.sessionSharedKey = (s .b).gconn.sessionSharedKey
  clean : ∀ side, (s side).Clean

variable {s : GroupPair}

theorem InStep.of_initial (h : s.Initial) : InStep s := by
  refine ⟨h.key, fun side => ⟨?_, ?_, ?_⟩⟩
  · rw [h.sendArray side]
    exact fun _ => harmless_emptyArrayEntry
  · rw [h.recvArray side]
    exact fun _ => harmless_emptyArrayEntry
  · rw [h.sent side]
    intro encrypted hmem
    cases hmem

theorem InStep.update (h : InStep s) (side : PairSide) {link : PeerLink} (hsteady : (s side).Steady link)
    : InStep (Function.update s side link) := by
  have hkey : ∀ side', (Function.update s side link side').gconn.sessionSharedKey =
      (s side').gconn.sessionSharedKey := by
    intro side'
    by_cases hside : side' = side
    · subst hside
      rw [Function.update_self]
      exact hsteady.key
    · rw [Function.update_of_ne hside]
  refine ⟨?_, ?_⟩
  · rw [hkey, hkey]
    exact h.key
  · intro side'
    by_cases hside : side' = side
    · subst hside
      rw [Function.update_self]
      exact hsteady.clean (h.clean side')
    · rw [Function.update_of_ne hside]
      exact h.clean side'

theorem steady_act {box : CryptoBox} {side : PairSide} {action : PairAction} (h : InStep s)
    (henabled : action.Enabled s side) (hcareful : action.Careful s side) :
    (s side).Steady ((s side).act box action) := by
  cases action with
  | pingAndRotate env keypair pingData => exact PeerLink.steady_pingAndRotate _ env keypair pingData
  | send env message =>
    obtain ⟨hfragment, hrotation, hshort⟩ := henabled
    exact PeerLink.steady_sendLosslessGroupPacket env ⟨hfragment, fun htype => absurd htype hrotation⟩ hshort
  | resend env => exact PeerLink.steady_gccResendPackets _ env
  | handleLossless env keypair handled encrypted directConn =>
    -- the packet was sent by the other peer, which sends no responses
    exact PeerLink.steady_handleGcLosslessPacket ((h.clean side.other).sent encrypted henabled) hcareful
  | checkRecvArray env keypair handled =>
    exact PeerLink.steady_gccCheckRecvArray (h.clean side) hcareful
  | handleLossy env handled encrypted directConn =>
    exact PeerLink.steady_handleGcLossyPacket _ env handled encrypted directConn

/-- When no key rotation request is answered, the two peers can always reach each other. -/
theorem recoverable_of_careful {box : CryptoBox} {s : GroupPair}
    (h : (carefulSystem box).Reachable s) : Recoverable s := by
  have hstep : InStep s := by
    refine h.invariant (P := InStep) (fun s => InStep.of_initial) ?_
    intro s t hs hst
    obtain ⟨side, action, henabled, hcareful, rfl⟩ := hst
    exact hs.update side (steady_act hs henabled hcareful)
  exact .inl hstep.key

/-! ## A response that is lost -/

theorem Recoverable.key (h : Recoverable s) :
    (s .a).gconn.sessionSharedKey = (s .b).gconn.sessionSharedKey := by
  obtain heq | ⟨side, idx, nonce, -, hsome⟩ := h
  · exact heq
  · obtain ⟨plain, hplain⟩ := Option.isSome_iff_exists.mp hsome
    have hkeys := congrArg Sealed.key (decryptDataSymmetric_eq_some hplain)
    cases side with
    | a => exact hkeys
    | b => exact hkeys.symm

def afterHandshake (selfIsCloser : Bool) : PeerLink where
  gconn :=
    { zeroGCConnection.gccSetSendMessageId 3 with
      receivedMessageId := 2
      sessionSharedKey := Toxcore.key 9
      handshaked := true
      confirmed := true
      selfIsCloser }
  sent := []
  handed := []

/-- Two peers after the handshake; `a` is closer to the group. -/
def freshPair : GroupPair
  | .a => afterHandshake true
  | .b => afterHandshake false

theorem initial_freshPair : freshPair.Initial := by
  constructor
  case key => rfl
  all_goals
    intro side
    cases side <;> rfl

def rotationEnv : NgcEnv := { now := 1000, nonce := 0, sendOk := true }

/-- `a` asks for a new key. -/
def requestAction : PairAction := .pingAndRotate rotationEnv (Toxcore.key 5, Toxcore.key 5) [1]

def requestPacket : Sealed LosslessPlain :=
  encryptDataSymmetric (Toxcore.key 9) 0
    { packetType := gpKeyRotation, messageId := 3
      data := PeerLink.keyRotationData false (Toxcore.key 5) }

/-- `b` answers the request. -/
def answerAction : PairAction :=
  .handleLossless rotationEnv (Toxcore.key 6, Toxcore.key 6) true requestPacket true

def requestedPair : GroupPair :=
  Function.update freshPair .a ((freshPair .a).act xorBox requestAction)

/-- The pair after the answer of `b`, whose packet the network loses. -/
def answeredPair : GroupPair :=
  Function.update requestedPair .b ((requestedPair .b).act xorBox answerAction)

/-- The keys differ, and nothing that is sent again can be decrypted. -/
theorem not_recoverable : (system xorBox).Reachable answeredPair ∧ ¬Recoverable answeredPair := by
  have hrequested : (system xorBox).Reachable requestedPair :=
    (TransitionSystem.Reachable.init initial_freshPair).step ⟨.a, requestAction, trivial, rfl⟩
  have hsent : .lossless requestPacket ∈ (requestedPair .a).sent := by decide +kernel
  refine ⟨hrequested.step ⟨.b, answerAction, hsent, rfl⟩, ?_⟩
  intro h
  have hne : (answeredPair .a).gconn.sessionSharedKey ≠ (answeredPair .b).gconn.sessionSharedKey := by
    decide +kernel
  exact hne h.key

/-- A request that is not answered yet does no harm. -/
theorem recoverable_of_careful_request :
    (carefulSystem xorBox).Reachable requestedPair ∧ Recoverable requestedPair := by
  have hrequested : (carefulSystem xorBox).Reachable requestedPair :=
    (TransitionSystem.Reachable.init initial_freshPair).step ⟨.a, requestAction, trivial, trivial, rfl⟩
  exact ⟨hrequested, recoverable_of_careful hrequested⟩

end GroupPair

end Toxcore

import Toxcore.Spec.TransportSend

/-!
# What the trace of a peer records

`accepted` is the list of the payloads for which `write_cryptpacket` returned a packet
number (`writeCryptpacket_accepted`), and no step takes one of them back
(`accepted_prefix_of_step`).  API calls leave the receiving side alone (`SendSide`).
-/

namespace Toxcore

open List

structure KeyState where
  publicKey : PublicKey
  dhtPublicKey : PublicKey
  peerSessionPublicKey : PublicKey
  sessionSecretKey : SecretKey
  sharedKey : SharedKey
  recvNonce : Nonce
  status : CryptoConnState
deriving DecidableEq

def CryptoConnection.keyState (conn : CryptoConnection) : KeyState :=
  { publicKey := conn.publicKey
    dhtPublicKey := conn.dhtPublicKey
    peerSessionPublicKey := conn.peerSessionPublicKey
    sessionSecretKey := conn.sessionSecretKey
    sharedKey := conn.sharedKey
    recvNonce := conn.recvNonce
    status := conn.status }

structure AddressState where
  publicKey : PublicKey
  ipPortv4 : IPPort
  ipPortv6 : IPPort
deriving DecidableEq

def CryptoConnection.addressState (conn : CryptoConnection) : AddressState :=
  { publicKey := conn.publicKey, ipPortv4 := conn.ipPortv4, ipPortv6 := conn.ipPortv6 }

namespace Peer

variable {x y p : Peer}

/-! ## Sending -/

/-- `x'` differs from `x` on the sending side only, and nothing was received. -/
structure SendSide (x x' : Peer) : Prop where
  accepted : x.accepted <+: x'.accepted
  recvArray : x'.conn.recvArray = x.conn.recvArray
  delivered : x'.delivered = x.delivered
  keyState : x'.conn.keyState = x.conn.keyState
  addressState : x'.conn.addressState = x.conn.addressState

namespace SendSide

@[refl] protected theorem refl (x : Peer) : SendSide x x :=
  ⟨prefix_rfl, rfl, rfl, rfl, rfl⟩

protected theorem trans (h1 : SendSide x y) (h2 : SendSide y p) : SendSide x p :=
  ⟨h1.accepted.trans h2.accepted, h2.recvArray.trans h1.recvArray,
    h2.delivered.trans h1.delivered, h2.keyState.trans h1.keyState,
    h2.addressState.trans h1.addressState⟩

end SendSide

theorem sendDataPacketHelper_sendSide (x : Peer) (bufferStart num : UInt32) (data : Bytes)
    (sendOk : Bool) : SendSide x (x.sendDataPacketHelper bufferStart num data sendOk).2 := by
  have hs := sendDataPacketHelper_sends x bufferStart num data sendOk
  refine ⟨by rw [hs.accepted], hs.recvArray, hs.delivered, ?_, ?_⟩
  all_goals
    unfold sendDataPacketHelper sendDataPacket
    split
    · rfl
    split
    · rfl
    split <;> rfl

theorem setSentTime_sendSide (x : Peer) (n : UInt32) (dt : PacketData) (now : UInt64) :
    SendSide x (x.setSentTime n dt now) :=
  ⟨prefix_rfl, rfl, rfl, rfl, rfl⟩

theorem resetMaxSpeedReached_sendSide (x : Peer) (now : UInt64) (sendOk : UInt32 → Bool) :
    SendSide x (x.resetMaxSpeedReached now sendOk).2 := by
  unfold resetMaxSpeedReached
  split
  · rfl
  split
  · simp only
    split
    · rename_i dt _
      split
      · have hs := sendDataPacketHelper_sendSide x x.conn.recvArray.bufferStart
          (x.conn.sendArray.bufferEnd - 1) dt.data (sendOk (x.conn.sendArray.bufferEnd - 1))
        split
        all_goals
          rename_i p hp
          rw [hp] at hs
          exact ⟨hs.accepted, hs.recvArray, hs.delivered, hs.keyState, hs.addressState⟩
      · exact ⟨prefix_rfl, rfl, rfl, rfl, rfl⟩
    · exact ⟨prefix_rfl, rfl, rfl, rfl, rfl⟩
  · rfl

theorem sendLosslessPacket_sendSide (x : Peer) (data : Bytes) (congestionControl : Bool)
    (now : UInt64) (calloc : Bool) (sendOk : UInt32 → Bool) :
    SendSide x (x.sendLosslessPacket data congestionControl now calloc sendOk).2 := by
  unfold sendLosslessPacket
  split
  · rfl
  split
  · rfl
  have hreset := resetMaxSpeedReached_sendSide x now sendOk
  simp only
  generalize (x.resetMaxSpeedReached now sendOk).2 = p at hreset
  split
  · exact hreset
  split
  · exact hreset
  rename_i n sendArray _
  have happ : SendSide x { p with conn := { p.conn with sendArray }, accepted := p.accepted ++ [data] } :=
    hreset.trans ⟨prefix_append _ _, rfl, rfl, rfl, rfl⟩
  split
  · exact happ
  have hs := happ.trans (sendDataPacketHelper_sendSide _ p.conn.recvArray.bufferStart n data (sendOk n))
  split
  · rename_i q hq
    rw [hq] at hs
    split
    · exact hs.trans (setSentTime_sendSide _ _ _ _)
    · exact hs
  · rename_i q hq
    rw [hq] at hs
    exact ⟨hs.accepted, hs.recvArray, hs.delivered, hs.keyState, hs.addressState⟩

theorem writeCryptpacket_sendSide (x : Peer) (data : Bytes) (congestionControl : Bool)
    (now : UInt64) (calloc : Bool) (sendOk : UInt32 → Bool) :
    SendSide x (x.writeCryptpacket data congestionControl now calloc sendOk).2 := by
  unfold writeCryptpacket
  split
  · rfl
  rename_i id rest
  split
  · rfl
  split
  · rfl
  split
  · rfl
  split
  · rfl
  have hs := sendLosslessPacket_sendSide x (id :: rest) congestionControl now calloc sendOk
  split
  · rename_i p hp
    rw [hp] at hs
    exact hs
  · rename_i n p hp
    rw [hp] at hs
    split
    · exact ⟨hs.accepted, hs.recvArray, hs.delivered, hs.keyState, hs.addressState⟩
    · exact hs

theorem sendRequestedLoop_sendSide (now : UInt64) (sendOk : UInt32 → Bool) (maxNum count : Nat)
    (i : UInt32) (numSent : Nat) (x : Peer) :
    SendSide x (sendRequestedLoop now sendOk maxNum count i numSent x).2 := by
  induction count generalizing i numSent x with
  | zero => rfl
  | succ count ih =>
    rw [sendRequestedLoop]
    simp only
    split
    · rfl
    · exact ih (i + 1) numSent x
    · rename_i dt _
      split
      · exact ih (i + 1) numSent x
      · have hs := sendDataPacketHelper_sendSide x x.conn.recvArray.bufferStart
          (i + x.conn.sendArray.bufferStart) dt.data (sendOk (i + x.conn.sendArray.bufferStart))
        split
        · rename_i p hp
          rw [hp] at hs
          have hset := hs.trans (setSentTime_sendSide p (i + x.conn.sendArray.bufferStart) dt now)
          split
          · exact hset
          · exact hset.trans (ih (i + 1) (numSent + 1) _)
        · rename_i p hp
          rw [hp] at hs
          split
          · exact hs
          · exact hs.trans (ih (i + 1) numSent _)

theorem api_sendSide (x : Peer) (call : ApiCall) : SendSide x (x.api call) := by
  cases call with
  | write data congestionControl now calloc sendOk =>
    exact writeCryptpacket_sendSide x data congestionControl now calloc sendOk
  | lossy data sendOk =>
    simp only [api, sendLossyCryptpacket]
    split
    · rfl
    · split_ifs
      · rfl
      · rfl
      · rfl
      · exact sendDataPacketHelper_sendSide x _ _ _ _
  | maxSpeedReached now sendOk => exact resetMaxSpeedReached_sendSide x now sendOk
  | request sendOk =>
    simp only [api, sendRequestPacket]
    split
    · rfl
    · split
      · rfl
      · exact sendDataPacketHelper_sendSide x _ _ _ _
  | sendRequested maxNum now sendOk =>
    simp only [api, sendRequestedPackets]
    split
    · rfl
    · split
      · rfl
      · exact sendRequestedLoop_sendSide _ _ _ _ _ _ _
  | refill packetsLeft packetsLeftRequested => exact ⟨prefix_rfl, rfl, rfl, rfl, rfl⟩

theorem foldl_api_sendSide (x : Peer) (calls : List ApiCall) :
    SendSide x (calls.foldl Peer.api x) := by
  induction calls generalizing x with
  | nil => rfl
  | cons call calls ih => exact (api_sendSide x call).trans (ih (x.api call))

/-! ## Receiving -/

theorem accepted_prefix_deliverLoop (react : Bytes → List ApiCall) (count : Nat) (x : Peer) :
    x.accepted <+: (deliverLoop (reactingCallback react) count x).2.accepted := by
  induction count generalizing x with
  | zero => exact prefix_rfl
  | succ count ih =>
    rw [deliverLoop]
    split
    · exact prefix_rfl
    · rename_i id dt recvArray _
      simp only
      split
      · exact prefix_rfl
      · have hcall := foldl_api_sendSide
          { x with conn := { x.conn with recvArray }, delivered := x.delivered ++ [dt.data] }
          (react dt.data)
        split
        · exact hcall.accepted
        · exact hcall.accepted.trans (ih _)

theorem accepted_prefix_handleRealData (x : Peer) (num : UInt32) (realData : Bytes) (rttCalcTime : UInt64)
    (udp : Bool) (now : UInt64) (calloc : Bool) (react : Bytes → List ApiCall) :
    x.accepted <+: (x.handleRealData num realData rttCalcTime udp now calloc
      (reactingCallback react)).2.accepted := by
  unfold handleRealData
  simp only
  split
  · split <;> exact prefix_rfl
  split
  · split
    · exact prefix_rfl
    · rename_i recvArray _
      have hloop := accepted_prefix_deliverLoop react recvArray.numPacketsArray.toNat
        { x with conn := { x.conn with recvArray } }
      split
      all_goals
        rename_i p hp
        rw [hp] at hloop
        exact hloop
  split <;> exact prefix_rfl

theorem accepted_prefix_handleDataPacketCore (x : Peer) (packet : DataPacket) (udp : Bool)
    (now : UInt64) (calloc : Bool) (react : Bytes → List ApiCall) :
    x.accepted <+: (x.handleDataPacketCore packet udp now calloc (reactingCallback react)).2.accepted := by
  unfold handleDataPacketCore
  split
  · exact prefix_rfl
  split
  · exact prefix_rfl
  split
  · exact prefix_rfl
  split
  · exact prefix_rfl
  split
  · exact prefix_rfl
  split
  · exact prefix_rfl
  split
  · exact prefix_rfl
  rename_i conn _
  split
  · exact prefix_rfl
  split
  · exact prefix_rfl
  · exact accepted_prefix_handleRealData { x with conn := confirm conn } _ _ _ _ _ _ _

theorem accepted_prefix_receive (x : Peer) (packet : DataPacket) (udp : Bool) (now : UInt64)
    (calloc : Bool) (react : Bytes → List ApiCall) :
    x.accepted <+: (x.receive packet udp now calloc react).accepted := by
  have hcore := accepted_prefix_handleDataPacketCore x packet udp now calloc react
  unfold receive
  split
  · rename_i p hres
    rw [hres] at hcore
    exact hcore
  · rename_i res p _ hres
    rw [hres] at hcore
    exact hcore

/-- No step of a peer takes back an accepted payload. -/
theorem accepted_prefix_of_step {inbox : List DataPacket} (h : Step inbox x y) :
    x.accepted <+: y.accepted := by
  cases h with
  | api call => exact (api_sendSide x call).accepted
  | receive packet udp now calloc react _ =>
    exact accepted_prefix_receive x packet udp now calloc react

/-! ## The handshake part of a connection that receives data -/

theorem deliverLoop_conn (react : Bytes → List ApiCall) (count : Nat) (x : Peer) :
    (deliverLoop (reactingCallback react) count x).2.conn.keyState = x.conn.keyState ∧
      (deliverLoop (reactingCallback react) count x).2.conn.addressState =
        x.conn.addressState := by
  induction count generalizing x with
  | zero => exact ⟨rfl, rfl⟩
  | succ count ih =>
    rw [deliverLoop]
    split
    · exact ⟨rfl, rfl⟩
    · rename_i id dt recvArray _
      simp only
      split
      · exact ⟨rfl, rfl⟩
      · have hcall := foldl_api_sendSide
          { x with conn := { x.conn with recvArray }, delivered := x.delivered ++ [dt.data] }
          (react dt.data)
        split
        · exact ⟨hcall.keyState, hcall.addressState⟩
        · exact ⟨(ih _).1.trans hcall.keyState, (ih _).2.trans hcall.addressState⟩

theorem updateRtt_conn (conn : CryptoConnection) (rttCalcTime now : UInt64) :
    (updateRtt conn rttCalcTime now).keyState = conn.keyState ∧
      (updateRtt conn rttCalcTime now).addressState = conn.addressState := by
  unfold updateRtt
  split <;> exact ⟨rfl, rfl⟩

theorem setRecvBufferEnd_conn (conn : CryptoConnection) (num : UInt32) :
    (setRecvBufferEnd conn num).keyState = conn.keyState ∧
      (setRecvBufferEnd conn num).addressState = conn.addressState := by
  unfold setRecvBufferEnd
  split <;> exact ⟨rfl, rfl⟩

theorem handleRealData_conn (x : Peer) (num : UInt32) (realData : Bytes) (rttCalcTime : UInt64)
    (udp : Bool) (now : UInt64) (calloc : Bool) (react : Bytes → List ApiCall) :
    (x.handleRealData num realData rttCalcTime udp now calloc
        (reactingCallback react)).2.conn.keyState = x.conn.keyState ∧
      (x.handleRealData num realData rttCalcTime udp now calloc
        (reactingCallback react)).2.conn.addressState = x.conn.addressState := by
  unfold handleRealData
  simp only
  split
  · split
    · exact ⟨rfl, rfl⟩
    · exact ⟨(updateRtt_conn _ _ _).1.trans (setRecvBufferEnd_conn _ _).1,
        (updateRtt_conn _ _ _).2.trans (setRecvBufferEnd_conn _ _).2⟩
  split
  · split
    · exact ⟨rfl, rfl⟩
    · rename_i recvArray _
      have hloop := deliverLoop_conn react recvArray.numPacketsArray.toNat
        { x with conn := { x.conn with recvArray } }
      split
      · rename_i p hp
        rw [hp] at hloop
        exact hloop
      · rename_i p hp
        rw [hp] at hloop
        exact ⟨(updateRtt_conn _ _ _).1.trans hloop.1, (updateRtt_conn _ _ _).2.trans hloop.2⟩
  split
  · exact ⟨(updateRtt_conn _ _ _).1.trans (setRecvBufferEnd_conn _ _).1,
      (updateRtt_conn _ _ _).2.trans (setRecvBufferEnd_conn _ _).2⟩
  · exact ⟨rfl, rfl⟩

/-- `recv_nonce` moves by a multiple of `DATA_NUM_THRESHOLD`, and a packet confirms the connection. -/
structure DataFrame (packet : DataPacket) (conn conn' : CryptoConnection) : Prop where
  addressState : conn'.addressState = conn.addressState
  keyState : ∃ (n : Nat) (status : CryptoConnState),
    conn'.keyState = { conn.keyState with
      recvNonce := conn.recvNonce + BitVec.ofNat 192 (n * dataNumThreshold.toNat)
      status } ∧
    (status = conn.status ∨
      conn.status = .notConfirmed ∧ status = .established ∧ packet.encrypted.key = conn.sharedKey)

theorem DataFrame.of_eq {packet : DataPacket} {conn conn' : CryptoConnection}
    (hk : conn'.keyState = conn.keyState) (ha : conn'.addressState = conn.addressState) :
    DataFrame packet conn conn' :=
  ⟨ha, 0, conn.status, by simpa [CryptoConnection.keyState] using hk, .inl rfl⟩

theorem handleDataPacket_conn {conn conn' : CryptoConnection} {packet : DataPacket} {data : Bytes}
    (h : conn.handleDataPacket packet = some (data, conn')) :
    packet.encrypted.key = conn.sharedKey ∧
      ∃ n : Nat, conn'.keyState = { conn.keyState with
          recvNonce := conn.recvNonce + BitVec.ofNat 192 (n * dataNumThreshold.toNat) } ∧
        conn'.addressState = conn.addressState := by
  unfold CryptoConnection.handleDataPacket at h
  split at h
  · cases h
  simp only at h
  split at h
  · cases h
  rename_i data' hdec
  have hkey : packet.encrypted.key = conn.sharedKey := by
    rw [decryptDataSymmetric_eq_some hdec]
    rfl
  refine ⟨hkey, ?_⟩
  split at h
  · cases h
    exact ⟨1, by simp only [CryptoConnection.keyState, incrementNonceNumber, Nat.one_mul],
      by simp only [CryptoConnection.addressState]⟩
  · cases h
    exact ⟨0, by simp [CryptoConnection.keyState], rfl⟩

theorem acknowledge_conn {conn conn' : CryptoConnection} {bufferStart : UInt32}
    {rttCalcTime : UInt64} (h : acknowledge conn bufferStart = some (rttCalcTime, conn')) :
    conn'.keyState = conn.keyState ∧ conn'.addressState = conn.addressState := by
  unfold acknowledge at h
  split at h
  · simp only at h
    split at h
    · cases h
    · cases h
      exact ⟨rfl, rfl⟩
  · cases h
    exact ⟨rfl, rfl⟩

theorem confirm_conn (conn : CryptoConnection) :
    (confirm conn).addressState = conn.addressState ∧ ∃ status,
      (confirm conn).keyState = { conn.keyState with status } ∧
        (status = conn.status ∨ conn.status = .notConfirmed ∧ status = .established) := by
  unfold confirm
  split
  · rename_i h
    exact ⟨rfl, .established, rfl, .inr ⟨h, rfl⟩⟩
  · exact ⟨rfl, conn.status, rfl, .inl rfl⟩

theorem handleDataPacketCore_conn (x : Peer) (packet : DataPacket) (udp : Bool) (now : UInt64)
    (calloc : Bool) (react : Bytes → List ApiCall) :
    DataFrame packet x.conn (x.handleDataPacketCore packet udp now calloc (reactingCallback react)).2.conn := by
  unfold handleDataPacketCore
  split
  · exact .of_eq rfl rfl
  split
  · exact .of_eq rfl rfl
  split
  · exact .of_eq rfl rfl
  rename_i data conn hdec
  obtain ⟨hkey, n, hks, has⟩ := handleDataPacket_conn hdec
  have hfail : DataFrame packet x.conn conn := ⟨has, n, x.conn.status, hks, .inl rfl⟩
  split
  · exact hfail
  split
  · exact hfail
  rename_i num d2 _
  split
  · exact hfail
  split
  · exact hfail
  rename_i rttCalcTime conn' hack
  obtain ⟨hks', has'⟩ := acknowledge_conn hack
  have hks1 := hks'.trans hks
  split
  · exact ⟨has'.trans has, n, x.conn.status, hks1, .inl rfl⟩
  rename_i id rest _
  split
  · exact ⟨has'.trans has, n, x.conn.status, hks1, .inl rfl⟩
  · obtain ⟨hks2, has2⟩ := handleRealData_conn { x with conn := confirm conn' } num (id :: rest)
      rttCalcTime udp now calloc react
    obtain ⟨haddr, status, hks3, hstatus⟩ := confirm_conn conn'
    refine ⟨has2.trans (haddr.trans (has'.trans has)), n, status, ?_, ?_⟩
    · rw [hks2, hks3, hks1]
    · have hold : conn'.status = x.conn.status := congrArg KeyState.status hks1
      rw [hold] at hstatus
      rcases hstatus with h | ⟨h, h'⟩
      · exact .inl h
      · exact .inr ⟨h, h', hkey⟩

end Peer

end Toxcore

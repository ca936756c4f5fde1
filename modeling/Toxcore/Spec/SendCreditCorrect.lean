import Mathlib.Data.UInt
import Toxcore.Native.SendCredit

/-!
# Send credit does not wrap

`write_cryptpacket` takes from `packets_left` and from `packets_left_requested`, and only looks at the first. A
new connection has the second at zero, until `send_crypto_packets` has seen it established.
-/

namespace Toxcore

namespace Peer

def credit (p : Peer) : UInt32 × UInt32 := (p.conn.packetsLeft, p.conn.packetsLeftRequested)

/-! ## What leaves the credit alone -/

theorem credit_sendDataPacketHelper (p : Peer) (bufferStart num : UInt32) (data : Bytes)
    (sendOk : Bool) : (p.sendDataPacketHelper bufferStart num data sendOk).2.credit = p.credit := by
  unfold sendDataPacketHelper sendDataPacket
  split
  · rfl
  · split
    · rfl
    · split <;> rfl

theorem credit_resetMaxSpeedReached (p : Peer) (now : UInt64) (sendOk : UInt32 → Bool) :
    (p.resetMaxSpeedReached now sendOk).2.credit = p.credit := by
  unfold resetMaxSpeedReached
  split
  · rfl
  split
  · simp only
    split
    · rename_i dt _
      split
      · have hsent := credit_sendDataPacketHelper p p.conn.recvArray.bufferStart
          (p.conn.sendArray.bufferEnd - 1) dt.data (sendOk (p.conn.sendArray.bufferEnd - 1))
        split
        all_goals
          rename_i q hq
          rw [hq] at hsent
          exact hsent
      · rfl
    · rfl
  · rfl

theorem credit_sendLosslessPacket (p : Peer) (data : Bytes) (congestionControl : Bool)
    (now : UInt64) (calloc : Bool) (sendOk : UInt32 → Bool) :
    (p.sendLosslessPacket data congestionControl now calloc sendOk).2.credit = p.credit := by
  unfold sendLosslessPacket
  split
  · rfl
  split
  · rfl
  have hreset := credit_resetMaxSpeedReached p now sendOk
  simp only
  generalize (p.resetMaxSpeedReached now sendOk).2 = q at hreset
  split
  · exact hreset
  split
  · exact hreset
  rename_i number sendArray _
  split
  · exact hreset
  have hsent := credit_sendDataPacketHelper
    { q with conn := { q.conn with sendArray }, accepted := q.accepted ++ [data] }
    q.conn.recvArray.bufferStart number data (sendOk number)
  split
  · rename_i r hr
    rw [hr] at hsent
    split
    · exact hsent.trans hreset
    · exact hsent.trans hreset
  · rename_i r hr
    rw [hr] at hsent
    exact hsent.trans hreset

theorem credit_sendRequestPacket (p : Peer) (sendOk : UInt32 → Bool) :
    (p.sendRequestPacket sendOk).2.credit = p.credit := by
  unfold sendRequestPacket
  split
  · rfl
  · split
    · rfl
    · exact credit_sendDataPacketHelper p _ _ _ _

theorem credit_sendRequestedLoop (now : UInt64) (sendOk : UInt32 → Bool) (maxNum count : Nat)
    (i : UInt32) (numSent : Nat) (p : Peer) :
    (sendRequestedLoop now sendOk maxNum count i numSent p).2.credit = p.credit := by
  induction count generalizing i numSent p with
  | zero => rfl
  | succ count ih =>
    rw [sendRequestedLoop]
    simp only
    split
    · rfl
    · exact ih (i + 1) numSent p
    · rename_i dt _
      split
      · exact ih (i + 1) numSent p
      · have hsent := credit_sendDataPacketHelper p p.conn.recvArray.bufferStart
          (i + p.conn.sendArray.bufferStart) dt.data (sendOk (i + p.conn.sendArray.bufferStart))
        split
        · rename_i q hq
          rw [hq] at hsent
          split
          · exact hsent
          · exact (ih (i + 1) (numSent + 1) _).trans hsent
        · rename_i q hq
          rw [hq] at hsent
          split
          · exact hsent
          · exact (ih (i + 1) numSent _).trans hsent

theorem credit_sendRequestedPackets (p : Peer) (maxNum : UInt32) (now : UInt64)
    (sendOk : UInt32 → Bool) : (p.sendRequestedPackets maxNum now sendOk).2.credit = p.credit := by
  unfold sendRequestedPackets
  split
  · rfl
  · split
    · rfl
    · exact credit_sendRequestedLoop now sendOk _ _ _ _ p

/-! ## What is taken from the credit -/

theorem credit_writeCryptpacket (p : Peer) (data : Bytes) (congestionControl : Bool)
    (now : UInt64) (calloc : Bool) (sendOk : UInt32 → Bool) {result : Option UInt32 × Peer}
    (h : p.writeCryptpacket data congestionControl now calloc sendOk = result) :
    if result.1.isSome ∧ congestionControl then
      p.conn.packetsLeft ≠ 0 ∧ result.2.credit = (p.conn.packetsLeft - 1, p.conn.packetsLeftRequested - 1)
    else result.2.credit = p.credit := by
  unfold writeCryptpacket at h
  split at h
  · subst h
    rfl
  rename_i id rest
  split at h
  · subst h
    rfl
  split at h
  · subst h
    rfl
  split at h
  · subst h
    rfl
  split at h
  · subst h
    rfl
  rename_i hleft
  have hcredit := credit_sendLosslessPacket p (id :: rest) congestionControl now calloc sendOk
  split at h
  · rename_i q hq
    rw [hq] at hcredit
    subst h
    exact hcredit
  · rename_i number q hq
    rw [hq] at hcredit
    obtain ⟨hpacketsLeft, hrequested⟩ := Prod.mk.injEq .. ▸ hcredit
    split at h
    · rename_i hcc
      subst h
      have hsome : (some number).isSome ∧ congestionControl := ⟨rfl, hcc⟩
      rw [if_pos hsome]
      constructor
      · intro hzero
        rw [hcc, hzero] at hleft
        exact hleft rfl
      · show (q.conn.packetsLeft - 1, q.conn.packetsLeftRequested - 1) = _
        rw [hpacketsLeft, hrequested]
    · rename_i hcc
      subst h
      rw [if_neg (fun h => hcc h.2)]
      exact hcredit

theorem sendRequestedLoop_le (now : UInt64) (sendOk : UInt32 → Bool) (maxNum count : Nat)
    (i : UInt32) {numSent : Nat} (hsent : numSent < maxNum) (p : Peer) {ret : Nat}
    (h : (sendRequestedLoop now sendOk maxNum count i numSent p).1 = some ret) : ret ≤ maxNum := by
  induction count generalizing i numSent p with
  | zero =>
    cases h
    exact Nat.le_of_lt hsent
  | succ count ih =>
    rw [sendRequestedLoop] at h
    simp only at h
    split at h
    · cases h
    · exact ih (i + 1) hsent p h
    · split at h
      · exact ih (i + 1) hsent p h
      · split at h
        · split at h
          · cases h
            exact hsent
          · rename_i hless
            exact ih (i + 1) (Nat.lt_of_not_le hless) _ h
        · split at h
          · cases h
            exact Nat.le_of_lt hsent
          · exact ih (i + 1) hsent _ h

theorem sendRequestedPackets_le (p : Peer) (maxNum : UInt32) (now : UInt64) (sendOk : UInt32 → Bool)
    {ret : Nat} (h : (p.sendRequestedPackets maxNum now sendOk).1 = some ret) : ret ≤ maxNum.toNat := by
  unfold sendRequestedPackets at h
  split at h
  · cases h
  · rename_i hzero
    split at h
    · cases h
    · have hpos : 0 < maxNum.toNat := Nat.pos_of_ne_zero fun h0 => hzero (UInt32.toNat_inj.mp h0)
      exact sendRequestedLoop_le now sendOk _ _ _ hpos p h

end Peer

namespace CreditPeer

variable (p : CreditPeer)

def Covered : Prop := p.peer.conn.packetsLeft ≤ p.peer.conn.packetsLeftRequested

theorem covered_raiseRequested : p.raiseRequested.Covered := by
  unfold raiseRequested
  split
  · exact UInt32.le_refl _
  · rename_i h
    exact UInt32.not_lt.mp h

theorem covered_topUp (env : CreditEnv) : (p.topUp env).Covered := by
  unfold topUp
  split
  · exact UInt32.le_refl _
  · exact covered_raiseRequested _

theorem covered_beforeRequested (env : CreditEnv) : (p.beforeRequested env).Covered :=
  covered_topUp _ env

theorem credit_sendRequested (env : CreditEnv) : (p.sendRequested env).2.peer.credit = p.peer.credit :=
  Peer.credit_sendRequestedPackets p.peer _ env.now env.sendOk

theorem visited_sendRequested (env : CreditEnv) : (p.sendRequested env).2.visited = p.visited := rfl

theorem sendRequested_le (env : CreditEnv) {ret : Nat} (h : (p.sendRequested env).1 = some ret) :
    ret ≤ p.peer.conn.packetsLeftRequested.toNat :=
  Peer.sendRequestedPackets_le p.peer _ env.now env.sendOk h

variable {p}

theorem Covered.of_credit {q : CreditPeer} (hcovered : p.Covered)
    (h : q.peer.credit = p.peer.credit) : q.Covered := by
  obtain ⟨hleft, hrequested⟩ := Prod.mk.injEq .. ▸ h
  unfold Covered
  rw [hleft, hrequested]
  exact hcovered

theorem Covered.subtractSent (hcovered : p.Covered) {ret : Nat}
    (hret : ret ≤ p.peer.conn.packetsLeftRequested.toNat) : (p.subtractSent ret).Covered := by
  have hlt := p.peer.conn.packetsLeftRequested.toNat_lt
  have hsent : (UInt32.ofNat ret).toNat = ret :=
    UInt32.toNat_ofNat_of_lt' (Nat.lt_of_le_of_lt hret hlt)
  have hle := UInt32.le_iff_toNat_le.mp hcovered
  have hrequested : (p.peer.conn.packetsLeftRequested - UInt32.ofNat ret).toNat =
      p.peer.conn.packetsLeftRequested.toNat - ret := by
    rw [UInt32.toNat_sub_of_le _ _ (UInt32.le_iff_toNat_le.mpr (by rw [hsent]; exact hret)), hsent]
  show (if UInt32.ofNat ret < p.peer.conn.packetsLeft then
    p.peer.conn.packetsLeft - UInt32.ofNat ret else 0) ≤ p.peer.conn.packetsLeftRequested - UInt32.ofNat ret
  rw [UInt32.le_iff_toNat_le, hrequested]
  split
  · rename_i hless
    rw [UInt32.toNat_sub_of_le _ _ (UInt32.le_of_lt hless), hsent]
    exact Nat.sub_le_sub_right hle ret
  · exact Nat.zero_le _

/-! ## Runs -/

/-- Once the connection was seen established, `packets_left` is at most `packets_left_requested`. -/
structure Ordered (p : CreditPeer) : Prop where
  covered : p.visited → p.Covered
  start : p.visited = false →
    p.peer.conn.packetsLeft = cryptoMinQueueLength ∧ p.peer.conn.packetsLeftRequested = 0

theorem ordered_startCredit (peer : Peer) : (startCredit peer).Ordered where
  covered h := nomatch h
  start _ := ⟨rfl, rfl⟩

theorem Ordered.of_credit {q : CreditPeer} (hordered : p.Ordered)
    (hcredit : q.peer.credit = p.peer.credit) (hvisited : q.visited = p.visited) : q.Ordered where
  covered h := (hordered.covered (hvisited ▸ h)).of_credit hcredit
  start h := by
    obtain ⟨hleft, hrequested⟩ := Prod.mk.injEq .. ▸ hcredit
    rw [hleft, hrequested]
    exact hordered.start (hvisited ▸ h)

theorem Ordered.of_covered (hcovered : p.Covered) (hvisited : p.visited = true) : p.Ordered where
  covered _ := hcovered
  start h := by
    rw [hvisited] at h
    cases h

theorem credit_sendRequest (due : Bool) (env : CreditEnv) :
    (p.sendRequest due env).peer.credit = p.peer.credit ∧ (p.sendRequest due env).visited = p.visited := by
  unfold sendRequest
  split
  · exact ⟨Peer.credit_sendRequestPacket p.peer env.sendOk, rfl⟩
  · exact ⟨rfl, rfl⟩

theorem credit_firstRequest (env : CreditEnv) :
    (p.firstRequest env).peer.credit = p.peer.credit ∧ (p.firstRequest env).visited = p.visited := by
  unfold firstRequest
  split
  · exact credit_sendRequest env.requestDue env
  · exact ⟨rfl, rfl⟩

theorem Ordered.sendCryptoPackets (hordered : p.Ordered) (env : CreditEnv) :
    (p.sendCryptoPackets env).Ordered := by
  obtain ⟨hcredit, hvisited⟩ := credit_firstRequest (p := p) env
  have hrequest := hordered.of_credit hcredit hvisited
  unfold CreditPeer.sendCryptoPackets
  split
  · exact hordered
  simp only
  generalize p.firstRequest env = q at hrequest ⊢
  split
  · have hcredit := (q.beforeRequested env).credit_sendRequested env
    have hcovered := (q.covered_beforeRequested env).of_credit hcredit
    have hvisited := (q.beforeRequested env).visited_sendRequested env
    have hle (ret : Nat) (h : ((q.beforeRequested env).sendRequested env).1 = some ret) :=
      (q.beforeRequested env).sendRequested_le env h
    generalize (q.beforeRequested env).sendRequested env = result at *
    obtain ⟨ret, r⟩ := result
    cases ret with
    | none => exact .of_covered hcovered hvisited
    | some ret =>
      obtain ⟨-, hrequested⟩ := Prod.mk.injEq .. ▸ hcredit
      have hret : ret ≤ r.peer.conn.packetsLeftRequested.toNat := by
        rw [hrequested]
        exact hle ret rfl
      exact .of_covered (hcovered.subtractSent hret) hvisited
  · exact hrequest

end CreditPeer

/-- Packets are written, `send_crypto_packets` is called, and other steps leave the credit. -/
inductive CreditOp where
  | write (data : Bytes) (congestionControl : Bool) (now : UInt64) (calloc : Bool) (sendOk : UInt32 → Bool)
  | sendCryptoPackets (env : CreditEnv)
  | other (peer : Peer)

namespace CreditPeer

variable (p : CreditPeer)

def apply : CreditOp → CreditPeer
  | .write data congestionControl now calloc sendOk =>
    (p.write data congestionControl now calloc sendOk).2
  | .sendCryptoPackets env => p.sendCryptoPackets env
  | .other peer =>
    { p with peer }.setCredit p.peer.conn.packetsLeft p.peer.conn.packetsLeftRequested

def Suffices : CreditOp → Prop
  | .write data congestionControl now calloc sendOk =>
    (p.write data congestionControl now calloc sendOk).1.isSome → congestionControl →
      p.Covered ∧
      (p.write data congestionControl now calloc sendOk).2.peer.conn.packetsLeft.toNat + 1 =
        p.peer.conn.packetsLeft.toNat ∧
      (p.write data congestionControl now calloc sendOk).2.peer.conn.packetsLeftRequested.toNat + 1 =
        p.peer.conn.packetsLeftRequested.toNat
  | .sendCryptoPackets env => ∀ ret q,
    ((p.firstRequest env).beforeRequested env).sendRequested env = (some ret, q) →
      ret ≤ ((p.firstRequest env).beforeRequested env).peer.conn.packetsLeftRequested.toNat ∧
      (q.subtractSent ret).peer.conn.packetsLeft.toNat ≤ q.peer.conn.packetsLeft.toNat ∧
      (q.subtractSent ret).peer.conn.packetsLeftRequested.toNat + ret = q.peer.conn.packetsLeftRequested.toNat
  | .other _ => True

def CreditKept : CreditPeer → List CreditOp → Prop
  | _, [] => True
  | p, op :: ops => p.Suffices op ∧ CreditKept (p.apply op) ops

end CreditPeer

def Peer.takes (p : Peer) (data : Bytes) (now : UInt64) (calloc : Bool) (sendOk : UInt32 → Bool) :
    Bool :=
  isLosslessId (data.headD 0) && decide (data.length ≤ maxCryptoDataSize) &&
    p.conn.status == .established && p.conn.packetsLeft != 0 &&
    !(p.resetMaxSpeedReached now sendOk).2.conn.maximumSpeedReached &&
    ((p.resetMaxSpeedReached now sendOk).2.conn.sendArray.addDataEndOfBuffer ⟨0, data⟩ calloc).isSome

namespace CreditPeer

variable (p : CreditPeer)

/-- No packet with congestion control is put before the connection was seen established. -/
def Waits : CreditOp → Prop
  | .write data congestionControl now calloc sendOk =>
    congestionControl → p.visited = false → p.peer.takes data now calloc sendOk = false
  | _ => True

def WaitsAll : CreditPeer → List CreditOp → Prop
  | _, [] => True
  | p, op :: ops => p.Waits op ∧ WaitsAll (p.apply op) ops

end CreditPeer

theorem Peer.isSome_sendLosslessPacket {p : Peer} (hvalid : p.conn.isValid) {data : Bytes}
    (hdata : data ≠ []) (now : UInt64) (calloc : Bool) (sendOk : UInt32 → Bool) :
    (p.sendLosslessPacket data true now calloc sendOk).1.isSome =
      (decide (data.length ≤ maxCryptoDataSize) &&
        !(p.resetMaxSpeedReached now sendOk).2.conn.maximumSpeedReached &&
        ((p.resetMaxSpeedReached now sendOk).2.conn.sendArray.addDataEndOfBuffer ⟨0, data⟩ calloc).isSome) := by
  have hne : data.length ≠ 0 := fun h => hdata (List.length_eq_zero_iff.mp h)
  unfold sendLosslessPacket
  by_cases hle : data.length ≤ maxCryptoDataSize
  · rw [if_neg (by omega), hvalid, decide_eq_true hle]
    simp only [Bool.not_true, Bool.and_true, Bool.false_and]
    generalize (p.resetMaxSpeedReached now sendOk).2 = q
    cases q.conn.maximumSpeedReached with
    | true => rfl
    | false =>
      simp only [Bool.false_eq_true, if_false]
      cases q.conn.sendArray.addDataEndOfBuffer ⟨0, data⟩ calloc with
      | none => rfl
      | some added =>
        simp only
        split
        · split <;> rfl
        · rfl
  · rw [if_pos (by omega), decide_eq_false hle]
    rfl

theorem Peer.isSome_writeCryptpacket (p : Peer) (data : Bytes) (now : UInt64) (calloc : Bool)
    (sendOk : UInt32 → Bool) :
    (p.writeCryptpacket data true now calloc sendOk).1.isSome =
      p.takes data now calloc sendOk := by
  unfold writeCryptpacket takes
  cases data with
  | nil => rfl
  | cons id rest =>
    rw [List.headD_cons]
    dsimp only
    cases isLosslessId id with
    | false => rfl
    | true =>
      by_cases hestablished : p.conn.status = .established
      · have hvalid : p.conn.isValid := by
          rw [CryptoConnection.isValid, hestablished]
          rfl
        have hlossless := isSome_sendLosslessPacket hvalid (List.cons_ne_nil id rest) now calloc sendOk
        rw [hvalid, beq_iff_eq.mpr hestablished]
        by_cases hleft : p.conn.packetsLeft = 0
        · simp [hleft]
        · simp only [Bool.not_true, Bool.false_eq_true, if_false, hestablished, not_true,
            ne_eq, Bool.true_and, beq_eq_false_iff_ne.mpr hleft, bne, Bool.not_false, Bool.and_true]
          rw [← hlossless]
          cases p.sendLosslessPacket (id :: rest) true now calloc sendOk with
          | mk number q => cases number <;> rfl
      · have hstatus : (p.conn.status == .established) = false := beq_eq_false_iff_ne.mpr hestablished
        simp [hestablished]

namespace CreditPeer

variable {p : CreditPeer}

theorem suffices_write_iff {data : Bytes} {congestionControl : Bool} {now : UInt64} {calloc : Bool}
    {sendOk : UInt32 → Bool}
    (htaken : (p.write data congestionControl now calloc sendOk).1.isSome ∧ congestionControl) :
    p.Suffices (.write data congestionControl now calloc sendOk) ↔ p.Covered := by
  constructor
  · intro h
    exact (h htaken.1 htaken.2).1
  · intro hcovered _ _
    have hcredit := Peer.credit_writeCryptpacket p.peer data congestionControl now calloc sendOk rfl
    have htaken : (p.peer.writeCryptpacket data congestionControl now calloc sendOk).1.isSome ∧
      congestionControl := htaken
    rw [if_pos htaken] at hcredit
    obtain ⟨hne, hcredit⟩ := hcredit
    obtain ⟨hleft, hrequested⟩ := Prod.mk.injEq .. ▸ hcredit
    have hpos : 0 < p.peer.conn.packetsLeft.toNat :=
      Nat.pos_of_ne_zero fun h => hne (UInt32.toNat_inj.mp h)
    have hle := UInt32.le_iff_toNat_le.mp hcovered
    have hone : (1 : UInt32).toNat = 1 := rfl
    refine ⟨hcovered, ?_, ?_⟩
    · show (p.peer.writeCryptpacket data congestionControl now calloc sendOk).2.conn.packetsLeft.toNat + 1 = _
      rw [hleft, UInt32.toNat_sub_of_le _ _ (UInt32.le_iff_toNat_le.mpr (by omega)), hone]
      omega
    · show (p.peer.writeCryptpacket data congestionControl now calloc
        sendOk).2.conn.packetsLeftRequested.toNat + 1 = _
      rw [hrequested, UInt32.toNat_sub_of_le _ _ (UInt32.le_iff_toNat_le.mpr (by omega)), hone]
      omega

theorem Ordered.suffices_sendCryptoPackets (p : CreditPeer) (env : CreditEnv) :
    p.Suffices (.sendCryptoPackets env) := by
  intro ret q hsend
  have hle := ((p.firstRequest env).beforeRequested env).sendRequested_le env (congrArg Prod.fst hsend)
  have hcredit := ((p.firstRequest env).beforeRequested env).credit_sendRequested env
  rw [hsend] at hcredit
  obtain ⟨-, hrequested⟩ := Prod.mk.injEq .. ▸ hcredit
  have hle' : ret ≤ q.peer.conn.packetsLeftRequested.toNat := by
    rw [hrequested]
    exact hle
  have hlt := q.peer.conn.packetsLeftRequested.toNat_lt
  have hsent : (UInt32.ofNat ret).toNat = ret :=
    UInt32.toNat_ofNat_of_lt' (Nat.lt_of_le_of_lt hle' hlt)
  refine ⟨hle, ?_, ?_⟩
  · show (if UInt32.ofNat ret < q.peer.conn.packetsLeft then
      q.peer.conn.packetsLeft - UInt32.ofNat ret else 0).toNat ≤ _
    split
    · rename_i hless
      rw [UInt32.toNat_sub_of_le _ _ (UInt32.le_of_lt hless)]
      exact Nat.sub_le _ _
    · exact Nat.zero_le _
  · show (q.peer.conn.packetsLeftRequested - UInt32.ofNat ret).toNat + ret = _
    rw [UInt32.toNat_sub_of_le _ _ (UInt32.le_iff_toNat_le.mpr (by rw [hsent]; exact hle'))]
    omega

theorem Ordered.suffices_iff_waits (hordered : p.Ordered) (op : CreditOp) :
    p.Suffices op ↔ p.Waits op := by
  cases op with
  | other peer => exact Iff.rfl
  | sendCryptoPackets env =>
    exact ⟨fun _ => trivial, fun _ => suffices_sendCryptoPackets p env⟩
  | write data congestionControl now calloc sendOk =>
    cases congestionControl with
    | false => exact ⟨fun _ h => (nomatch h), fun _ _ h => (nomatch h)⟩
    | true =>
      have htakes := Peer.isSome_writeCryptpacket p.peer data now calloc sendOk
      by_cases htaken : (p.write data true now calloc sendOk).1.isSome
      · have htakes : p.peer.takes data now calloc sendOk = true := htakes.symm.trans htaken
        rw [suffices_write_iff ⟨htaken, rfl⟩]
        constructor
        · intro hcovered _ hvisited
          -- a connection that was not visited has no credit for requested packets
          obtain ⟨hleft, hrequested⟩ := hordered.start hvisited
          unfold Covered at hcovered
          rw [hleft, hrequested] at hcovered
          exact absurd hcovered (by decide)
        · intro hwaits
          apply hordered.covered
          by_contra hvisited
          have hfalse := hwaits rfl (Bool.not_eq_true _ ▸ hvisited)
          rw [htakes] at hfalse
          cases hfalse
      · constructor
        · intro _ _ _
          exact htakes.symm.trans (Bool.not_eq_true _ ▸ htaken)
        · intro _ htaken'
          exact absurd htaken' htaken

theorem Ordered.apply (hordered : p.Ordered) {op : CreditOp} (hwaits : p.Waits op) : (p.apply op).Ordered := by
  cases op with
  | other peer => exact hordered.of_credit rfl rfl
  | sendCryptoPackets env => exact hordered.sendCryptoPackets env
  | write data congestionControl now calloc sendOk =>
    have hcredit := Peer.credit_writeCryptpacket p.peer data congestionControl now calloc sendOk rfl
    by_cases htaken : (p.peer.writeCryptpacket data congestionControl now calloc sendOk).1.isSome ∧
        congestionControl
    · obtain ⟨hcovered, hleft, hrequested⟩ :=
        (hordered.suffices_iff_waits _).mpr hwaits htaken.1 htaken.2
      have hvisited : p.visited = true := by
        by_contra hvisited
        obtain ⟨hstart, hzero⟩ := hordered.start (Bool.not_eq_true _ ▸ hvisited)
        unfold Covered at hcovered
        rw [hstart, hzero] at hcovered
        exact absurd hcovered (by decide)
      have hle := UInt32.le_iff_toNat_le.mp hcovered
      refine .of_covered (UInt32.le_iff_toNat_le.mpr ?_) hvisited
      show (p.write data congestionControl now calloc sendOk).2.peer.conn.packetsLeft.toNat ≤
        (p.write data congestionControl now calloc sendOk).2.peer.conn.packetsLeftRequested.toNat
      omega
    · rw [if_neg htaken] at hcredit
      exact hordered.of_credit hcredit rfl

theorem Ordered.creditKept (hordered : p.Ordered) (ops : List CreditOp) :
    p.CreditKept ops ↔ p.WaitsAll ops := by
  induction ops generalizing p with
  | nil => exact Iff.rfl
  | cons op ops ih =>
    constructor
    · intro ⟨hsuffices, hrest⟩
      have hwaits := (hordered.suffices_iff_waits op).mp hsuffices
      exact ⟨hwaits, (ih (hordered.apply hwaits)).mp hrest⟩
    · intro ⟨hwaits, hrest⟩
      exact ⟨(hordered.suffices_iff_waits op).mpr hwaits, (ih (hordered.apply hwaits)).mpr hrest⟩

end CreditPeer

/-- The credit suffices throughout, if and only if no packet is put with congestion control before the connection
    was seen established. -/
theorem creditKept_iff (peer : Peer) (ops : List CreditOp) :
    (startCredit peer).CreditKept ops ↔ (startCredit peer).WaitsAll ops :=
  (CreditPeer.ordered_startCredit peer).creditKept ops

/-- A packet right after the connection was established takes from zero, and this wraps. -/
theorem not_creditKept_early :
    let peer : Peer := ⟨{ emptyCryptoConnection with status := .established }, [], [], []⟩
    let early : CreditOp := .write [16] true 1 true (fun _ => true)
    ¬(startCredit peer).CreditKept [early] ∧
      ((startCredit peer).apply early).peer.conn.packetsLeftRequested = 2 ^ 32 - 1 := by
  intro peer early
  have htakes : (startCredit peer).peer.takes [16] 1 true (fun _ => true) = true := by
    decide +kernel
  have hsome := Peer.isSome_writeCryptpacket (startCredit peer).peer [16] 1 true (fun _ => true)
  rw [htakes] at hsome
  constructor
  · intro hkept
    have hcovered : (startCredit peer).Covered := (hkept.1 hsome rfl).1
    have hzero : (64 : UInt32) ≤ 0 := hcovered
    exact absurd hzero (by decide)
  · have hcredit := Peer.credit_writeCryptpacket (startCredit peer).peer [16] true 1 true (fun _ => true) rfl
    rw [if_pos ⟨hsome, rfl⟩] at hcredit
    exact congrArg Prod.snd hcredit.2

end Toxcore

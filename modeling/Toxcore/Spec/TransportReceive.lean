import Toxcore.Spec.TransportSend

/-!
# The receiving side keeps the transport invariant

`handle_data_packet_core` takes the acknowledgement of a packet, then its request or its payload. Each part
keeps `Linked` (`Linked.receive`), because the sender could account for the contents. The delivery loop is
followed step by step, with the API calls of the data callback.
-/

namespace Toxcore.Peer

open List

open UInt32 (dist dist_def toNat_mem_of_dist_le dist_of_toNat_le dist_of_toNat_lt)

variable {x y : Peer}

/-! ## Reading a packet -/

variable {data : Bytes} {bufferStart : UInt32}

theorem SentContents.bufferStart_le {plain : Bytes} (h : y.SentContents plain)
    (h1 : unpackU32 plain = some (bufferStart, data)) :
    bufferStart.toNat ≤ y.delivered.length := by
  obtain ⟨bs, num, id, rest, rfl, hbs, -⟩ := h.exists_fields
  simp only [dataPacketContents, append_assoc, unpackU32_packU32_append, Option.some.injEq,
    Prod.mk.injEq] at h1
  obtain ⟨rfl, -⟩ := h1
  exact hbs

variable {num : UInt32}

theorem SentContents.fields {plain d1 d2 rest : Bytes} {id : UInt8} (h : y.SentContents plain)
    (h1 : unpackU32 plain = some (bufferStart, d1)) (h2 : unpackU32 d1 = some (num, d2))
    (h3 : d2.dropWhile (· == packetIdPadding) = id :: rest) :
    num.toNat ≤ y.accepted.length ∧ id ≠ packetIdKill ∧
      (isLosslessId id → y.accepted[num.toNat]? = some (id :: rest)) ∧
      (id = packetIdRequest → ∀ j, requestFrees 1 rest j → y.Has (bufferStart + UInt32.ofNat j)) := by
  obtain ⟨bs, n, id', rest', rfl, -, hn, hpad, hkill, hloss, hreq⟩ := h.exists_fields
  simp only [dataPacketContents, append_assoc, unpackU32_packU32_append, Option.some.injEq,
    Prod.mk.injEq] at h1
  obtain ⟨rfl, rfl⟩ := h1
  simp only [unpackU32_packU32_append] at h2
  obtain ⟨rfl, rfl⟩ := h2
  rw [dropWhile_append_of_pos (by intro b hb; simp [eq_of_mem_replicate hb]),
    dropWhile_cons_of_neg (by simpa using hpad)] at h3
  obtain ⟨rfl, rfl⟩ := List.cons.inj h3
  exact ⟨hn, hkill, hloss, hreq⟩

/-! ## Acknowledgements -/

theorem Linked.shrinkSendArray (h : Linked x y) {sendArray : PacketsArray}
    (hwf : Inv x y → sendArray.WellFormed) (hend : Inv x y → sendArray.bufferEnd = x.conn.sendArray.bufferEnd)
    (hstart : Inv x y → sendArray.bufferStart.toNat ≤ y.delivered.length)
    (hdata : Inv x y → ∀ n d, sendArray.lookup n = some d →
      ∃ d0, x.conn.sendArray.lookup n = some d0 ∧ d0.data = d.data)
    (hremoved : Inv x y → ∀ n d, x.conn.sendArray.lookup n = some d → sendArray.lookup n = none → y.Has n) :
    Linked { x with conn := { x.conn with sendArray } } y := by
  intro hx hy
  have hinv := h hx hy
  have ⟨forth, back, wire, wire', _, _⟩ := hinv
  have hwire : WireOk { x with conn := { x.conn with sendArray } } :=
    ⟨fun packet hp => (wire.sent packet hp).mono prefix_rfl le_rfl fun _ hn => hn, wire.lossless⟩
  refine ⟨?_, { back with }, hwire, wire', hx, hy⟩
  refine
    { forth with
      send_wf := hwf hinv
      sendEnd := by simp only [hend hinv]; exact forth.sendEnd
      sendStart_le := hstart hinv
      send_data := ?_
      kept := ?_ }
  · intro n d hn
    obtain ⟨d0, h0, he⟩ := hdata hinv n d hn
    rw [← he]
    exact forth.send_data n d0 h0
  · intro n hn hh
    obtain ⟨d, hd⟩ := Option.isSome_iff_exists.mp (forth.kept n hn hh)
    cases hl : sendArray.lookup n with
    | some _ => rfl
    | none => exact absurd (hremoved hinv n d hd hl) hh

theorem Linked.acknowledge (h : Linked x y) {rttCalcTime : UInt64} {conn : CryptoConnection}
    (hbs : Inv x y → bufferStart.toNat ≤ y.delivered.length)
    (hack : acknowledge x.conn bufferStart = some (rttCalcTime, conn)) :
    Linked { x with conn } y ∧ conn.sendArray.bufferStart = bufferStart := by
  unfold Peer.acknowledge at hack
  split at hack
  · cases hclear : x.conn.sendArray.clearBufferUntil bufferStart with
    | none => simp [hclear] at hack
    | some sendArray =>
    simp only [hclear] at hack
    obtain ⟨-, rfl⟩ := hack
    have hspec := fun hinv : Inv x y =>
      PacketsArray.clearBufferUntil_spec hinv.forth.send_wf hclear
    constructor
    · refine h.shrinkSendArray (fun hi => (hspec hi).2.2.1) (fun hi => (hspec hi).2.2.2.2.1) ?_ ?_ ?_
      · intro hi
        rw [(hspec hi).2.2.2.1]
        exact hbs hi
      · intro hi n d hn
        rw [(hspec hi).2.2.2.2.2.2] at hn
        split at hn
        · cases hn
        · exact ⟨d, hn, rfl⟩
      · -- a dropped packet lies before `buffer_start`, so it was delivered
        intro hi n d hn hnone
        rw [(hspec hi).2.2.2.2.2.2] at hnone
        split at hnone
        · rename_i hlt
          left
          have hle := (hspec hi).2.1
          have hs := hi.forth.sendStart_le
          have he := hi.forth.sendEnd
          have hd := hi.forth.delivered_prefix.length_le
          have hbs' := toNat_mem_of_dist_le (by omega) hle
          have hn' := toNat_mem_of_dist_le hbs'.1 hlt.le
          have hne : n.toNat ≠ bufferStart.toNat := by
            intro heq
            rw [UInt32.toNat_inj.mp heq] at hlt
            exact Nat.lt_irrefl _ hlt
          have hb := hbs hi
          omega
        · rw [hn] at hnone
          exact nomatch hnone
    · exact PacketsArray.bufferStart_of_clearBufferUntil hclear
  · rename_i heq
    obtain ⟨-, rfl⟩ := hack
    exact ⟨h, by simpa using Eq.symm (not_not.mp heq)⟩

/-! ## Requests -/

theorem Linked.handleRequestPacket (h : Linked x y) (rest : Bytes)
    (hfrees : Inv x y → ∀ j, requestFrees 1 rest j → y.Has (x.conn.sendArray.bufferStart + UInt32.ofNat j))
    (latestSendTime rttTime now : UInt64) :
    Linked { x with conn := { x.conn with
      sendArray := (x.conn.sendArray.handleRequestPacket (packetIdRequest :: rest)
        latestSendTime rttTime now).2.1 } } y := by
  have hspec := fun hinv : Inv x y =>
    PacketsArray.handleRequestPacket_spec hinv.forth.send_wf (packetIdRequest :: rest)
      latestSendTime rttTime now
  refine h.shrinkSendArray (fun hi => (hspec hi).wellFormed) (fun hi => (hspec hi).bufferEnd_eq)
    ?_ (fun hi => (hspec hi).data_eq) ?_
  · intro hi
    rw [(hspec hi).bufferStart_eq]
    exact hi.forth.sendStart_le
  · intro hi n d hn hnone
    obtain ⟨rest', he, -, hj⟩ := (hspec hi).removed n d hn hnone
    obtain rfl := (List.cons.inj he).2
    have hpos : x.conn.sendArray.bufferStart + UInt32.ofNat (x.conn.sendArray.offset n) = n :=
      UInt32.add_ofNat_dist _ _
    rw [← hpos]
    exact hfrees hi _ hj

/-! ## The receive array -/

variable {recvArray : PacketsArray}

theorem Linked.growRecvArray (h : Linked x y) (hwf : Inv x y → recvArray.WellFormed)
    (hstart : Inv x y → recvArray.bufferStart = x.conn.recvArray.bufferStart)
    (hend : Inv x y → x.conn.recvArray.bufferEnd.toNat ≤ recvArray.bufferEnd.toNat ∧ recvArray.bufferEnd.toNat ≤ y.accepted.length)
    (hdata : Inv x y → ∀ n d, recvArray.lookup n = some d → y.accepted[n.toNat]? = some d.data)
    (hhas : Inv x y → ∀ n, (x.conn.recvArray.lookup n).isSome → (recvArray.lookup n).isSome) :
    Linked { x with conn := { x.conn with recvArray } } y := by
  intro hx hy
  have hinv := h hx hy
  have ⟨forth, back, wire, wire', _, _⟩ := hinv
  have hhas' : ∀ n, x.Has n → Has { x with conn := { x.conn with recvArray } } n := by
    rintro n (hn | hn)
    · exact .inl hn
    · exact .inr (hhas hinv n hn)
  refine ⟨{ forth with }, ?_, ⟨?_, wire.lossless⟩, wire', hx, hy⟩
  · exact
      { back with
        recv_wf := hwf hinv
        recvStart := by simp only [hstart hinv]; exact back.recvStart
        recvStart_le := Nat.le_trans back.recvStart_le (hend hinv).1
        recvEnd_le := (hend hinv).2
        recv_data := hdata hinv
        kept := fun n hn hh => back.kept n hn fun h' => hh (hhas' n h') }
  · intro packet hp
    exact (wire.sent packet hp).mono prefix_rfl le_rfl hhas'

theorem Linked.setRecvBufferEnd (h : Linked x y) (hnum : Inv x y → num.toNat ≤ y.accepted.length) :
    Linked { x with conn := setRecvBufferEnd x.conn num } y := by
  unfold Peer.setRecvBufferEnd
  split
  · exact h
  rename_i recvArray hset
  have hspec := fun hinv : Inv x y => PacketsArray.setBufferEnd_spec hinv.back.recv_wf hset
  refine h.growRecvArray (fun hi => (hspec hi).2.2.1) (fun hi => (hspec hi).2.2.2.1) ?_ ?_ ?_
  · intro hi
    obtain ⟨hcap, hge, -, -, rfl, -⟩ := hspec hi
    refine ⟨?_, hnum hi⟩
    -- a number before the start would be almost `2 ^ 32` away from it
    have hle := hi.back.recvEnd_le
    have hb := hi.bounded'
    unfold Bounded at hb
    unfold PacketsArray.offset PacketsArray.size at *
    rw [dist_def] at hcap hge
    rw [dist_def] at hge
    omega
  · intro hi n d hn
    rw [(hspec hi).2.2.2.2.2.2] at hn
    exact hi.back.recv_data n d hn
  · intro hi n hn
    rw [(hspec hi).2.2.2.2.2.2]
    exact hn

theorem Linked.store (h : Linked x y) {calloc : Bool} (hdata : Inv x y → y.accepted[num.toNat]? = some data)
    (hadd : x.conn.recvArray.addDataToBuffer num ⟨0, data⟩ calloc = some recvArray) :
    Linked { x with conn := { x.conn with recvArray } } y := by
  have hspec := fun hinv : Inv x y => PacketsArray.addDataToBuffer_spec hinv.back.recv_wf hadd
  refine h.growRecvArray (fun hi => (hspec hi).2.2.1) (fun hi => (hspec hi).2.2.2.1) ?_ ?_ ?_
  · intro hi
    obtain ⟨hcap, -, -, hstart, hsize, -⟩ := hspec hi
    have hs := hi.back.recvStart
    have hse := hi.back.recvStart_le
    have hle := hi.back.recvEnd_le
    have hb := hi.bounded'
    have hlt := (List.getElem?_eq_some_iff.mp (hdata hi)).1
    have := recvArray.bufferEnd.toNat_lt
    unfold Bounded at hb
    unfold PacketsArray.offset at hcap hsize
    unfold PacketsArray.size at hsize
    -- the new number lies at or after the start, so nothing wraps
    have hge : x.conn.recvArray.bufferStart.toNat ≤ num.toNat := by
      by_contra hlt'
      rw [dist_of_toNat_lt (by omega)] at hcap
      omega
    have hse' : x.conn.recvArray.bufferStart.toNat ≤ x.conn.recvArray.bufferEnd.toNat := by omega
    rw [dist_of_toNat_le hge, hstart, dist_of_toNat_le hse', dist_def] at hsize
    omega
  · intro hi n d hn
    rw [(hspec hi).2.2.2.2.2] at hn
    split at hn
    · rename_i hnum
      cases hn
      rw [hnum]
      exact hdata hi
    · exact hi.back.recv_data n d hn
  · intro hi n hn
    rw [(hspec hi).2.2.2.2.2]
    split
    · rfl
    · exact hn

/-! ## Delivery -/

theorem Linked.deliver (h : Linked x y) {id : UInt32} {dt : PacketData}
    (hread : x.conn.recvArray.readDataBegBuffer = some (id, dt, recvArray)) :
    Linked { x with
      conn := { x.conn with recvArray }
      delivered := x.delivered ++ [dt.data] } y := by
  intro hx hy
  have ⟨forth, back, wire, wire', _, _⟩ := h hx hy
  obtain ⟨-, hfirst, hwf, hstart, hend, -, hlook⟩ :=
    PacketsArray.readDataBegBuffer_spec back.recv_wf hread
  have hdata := back.recv_data _ _ hfirst
  rw [back.recvStart] at hdata
  have hs := back.recvStart
  have hlt : x.delivered.length < x.conn.recvArray.bufferEnd.toNat := by
    have hne : x.conn.recvArray.bufferEnd.toNat ≠ x.conn.recvArray.bufferStart.toNat := by
      intro he
      have := PacketsArray.offset_lt_of_lookup hfirst
      rw [PacketsArray.size, UInt32.toNat_inj.mp he, UInt32.dist_self] at this
      exact Nat.not_lt_zero _ this
    have := back.recvStart_le
    omega
  have hstart' : recvArray.bufferStart.toNat = x.delivered.length + 1 := by
    have := x.conn.recvArray.bufferEnd.toNat_lt
    rw [hstart, UInt32.toNat_add, UInt32.toNat_one]
    omega
  have hhas : ∀ n, x.Has n → Has { x with
      conn := { x.conn with recvArray }, delivered := x.delivered ++ [dt.data] } n := by
    intro n hn
    by_cases hn' : n.toNat < x.delivered.length + 1
    · exact .inl (by simpa using hn')
    · right
      rcases hn with hn | hn
      · omega
      · rw [hlook, if_neg]
        · exact hn
        · rintro rfl
          omega
  refine ⟨{ forth with }, ?_, ⟨?_, wire.lossless⟩, wire', hx, hy⟩
  · exact
      { back with
        recv_wf := hwf
        recvStart := by simpa using hstart'
        sendStart_le := by
          have := back.sendStart_le
          simp only [length_append]
          omega
        recvStart_le := by
          simp only [length_append, length_singleton, hend]
          omega
        recvEnd_le := by simp only [hend]; exact back.recvEnd_le
        delivered_prefix := back.delivered_prefix.concat_of_getElem? hdata
        recv_data := by
          intro n d hn
          rw [hlook] at hn
          split at hn
          · cases hn
          · exact back.recv_data n d hn
        kept := fun n hn hh => back.kept n hn fun h' => hh (hhas n h') }
  · intro packet hp
    exact (wire.sent packet hp).mono prefix_rfl (by simp) hhas

theorem Inv.toInt32_ne (h : Inv x y) {id : UInt32} {dt : PacketData}
    (hread : x.conn.recvArray.readDataBegBuffer = some (id, dt, recvArray)) :
    id.toInt32 ≠ -1 := by
  obtain ⟨rfl, hfirst, -⟩ := PacketsArray.readDataBegBuffer_spec h.back.recv_wf hread
  have hlt := (List.getElem?_eq_some_iff.mp (h.back.recv_data _ _ hfirst)).1
  have hb := h.bounded'
  intro hret
  have hid : x.conn.recvArray.bufferStart = 4294967295 := by
    rw [← UInt32.toUInt32_toInt32 x.conn.recvArray.bufferStart, hret]
    rfl
  rw [hid] at hlt
  unfold Bounded at hb
  change 4294967295 < y.accepted.length at hlt
  omega

theorem Linked.deliverLoop (react : Bytes → List ApiCall) (count : Nat) (h : Linked x y) :
    Linked (Peer.deliverLoop (reactingCallback react) count x).2 y := by
  induction count generalizing x with
  | zero => exact h
  | succ count ih =>
    rw [Peer.deliverLoop]
    split
    · exact h
    · rename_i id dt recvArray hread
      simp only
      split
      · rename_i hret
        exact fun hx hy => absurd hret ((h hx hy).toInt32_ne hread)
      · have hcall := (h.deliver hread).foldl_api (react dt.data)
        split
        · exact hcall
        · exact ih hcall

/-! ## Receiving a packet -/

theorem updateRtt_sends (x : Peer) (conn : CryptoConnection) (rttCalcTime now : UInt64) :
    Sends (fun _ => False) { x with conn } { x with conn := updateRtt conn rttCalcTime now } := by
  unfold updateRtt
  split <;> exact ⟨rfl, rfl, rfl, rfl, fun _ => .inl⟩

theorem confirm_sends (x : Peer) (conn : CryptoConnection) :
    Sends (fun _ => False) { x with conn } { x with conn := confirm conn } := by
  unfold confirm
  split <;> exact ⟨rfl, rfl, rfl, rfl, fun _ => .inl⟩

theorem confirm_sendArray (conn : CryptoConnection) : (confirm conn).sendArray = conn.sendArray := by
  unfold confirm
  split <;> rfl

variable {packet : DataPacket}

theorem handleDataPacket_sends {conn : CryptoConnection} (x : Peer)
    (h : x.conn.handleDataPacket packet = some (data, conn)) :
    packet.encrypted.plain = data ∧ Sends (fun _ => False) x { x with conn } := by
  unfold CryptoConnection.handleDataPacket at h
  split at h
  · cases h
  simp only at h
  split at h
  · cases h
  rename_i data' hdec
  have hplain : packet.encrypted.plain = data' := by
    unfold decryptDataSymmetric at hdec
    split at hdec
    · exact Option.some.inj hdec
    · cases hdec
  split at h
  all_goals
    cases h
    exact ⟨hplain, rfl, rfl, rfl, rfl, fun _ => .inl⟩

theorem handleRealData_ne_kill (x : Peer) (num : UInt32) (realData : Bytes) (rttCalcTime : UInt64)
    (udp : Bool) (now : UInt64) (calloc : Bool) (callback : DataCallback) :
    (x.handleRealData num realData rttCalcTime udp now calloc callback).1 ≠ .kill := by
  unfold Peer.handleRealData
  simp only
  split
  · split <;> exact nofun
  split
  · split
    · exact nofun
    · split <;> exact nofun
  split <;> exact nofun

theorem Linked.handleRealData (h : Linked x y) {id : UInt8} {rest : Bytes}
    (hnum : y.WireOk → num.toNat ≤ y.accepted.length)
    (hloss : y.WireOk → isLosslessId id → y.accepted[num.toNat]? = some (id :: rest))
    (hreq : y.WireOk → id = packetIdRequest → ∀ j, requestFrees 1 rest j → y.Has (x.conn.sendArray.bufferStart + UInt32.ofNat j))
    (rttCalcTime : UInt64) (udp : Bool) (now : UInt64) (calloc : Bool) (react : Bytes → List ApiCall) :
    Linked (x.handleRealData num (id :: rest) rttCalcTime udp now calloc (reactingCallback react)).2 y := by
  unfold Peer.handleRealData
  simp only
  split
  · -- a request packet
    rename_i hid
    obtain rfl : id = packetIdRequest := hid
    have hreq' := h.handleRequestPacket rest (fun hi => hreq hi.wire' rfl) rttCalcTime
      (if udp then x.conn.rttTime else defaultTcpPingConnection) now
    split
    · rename_i sendArray _ hres
      rw [hres] at hreq'
      exact hreq'
    · rename_i sendArray rttCalcTime hres
      rw [hres] at hreq'
      exact (hreq'.setRecvBufferEnd fun hi => hnum hi.wire').congr (updateRtt_sends _ _ _ _)
  split
  · -- a lossless packet
    rename_i hlossless
    split
    · exact h
    · rename_i recvArray hadd
      have hloop := (h.store (fun hi => hloss hi.wire' hlossless) hadd).deliverLoop react
        recvArray.numPacketsArray.toNat
      split
      · rename_i p hp
        rw [hp] at hloop
        exact hloop
      · rename_i p hp
        rw [hp] at hloop
        have hcount : Linked { p with
            conn := { p.conn with packetCounter := p.conn.packetCounter + 1 } } y :=
          hloop.congr ⟨rfl, rfl, rfl, rfl, fun _ => .inl⟩
        exact hcount.congr (updateRtt_sends _ _ _ _)
  split
  · exact (h.setRecvBufferEnd fun hi => hnum hi.wire').congr (updateRtt_sends _ _ _ _)
  · exact h

theorem Linked.handleDataPacketCore (h : Linked x y) (hp : packet ∈ y.wire) (udp : Bool) (now : UInt64) (calloc : Bool)
    (react : Bytes → List ApiCall) :
    Linked (x.handleDataPacketCore packet udp now calloc (reactingCallback react)).2 y ∧
      ((x.handleDataPacketCore packet udp now calloc (reactingCallback react)).1 = .kill → ¬y.WireOk) := by
  have hsent : y.WireOk → y.SentContents packet.encrypted.plain := fun hw => hw.sent packet hp
  unfold Peer.handleDataPacketCore
  split
  · exact ⟨h, nofun⟩
  split
  · exact ⟨h, nofun⟩
  split
  · exact ⟨h, nofun⟩
  rename_i data conn hdec
  obtain ⟨hplain, hconn⟩ := handleDataPacket_sends x hdec
  rw [hplain] at hsent
  have hc : Linked { x with conn } y := h.congr hconn
  split
  · exact ⟨hc, nofun⟩
  rename_i bufferStart d1 h1
  split
  · exact ⟨hc, nofun⟩
  rename_i num d2 h2
  split
  · exact ⟨hc, nofun⟩
  split
  · exact ⟨hc, nofun⟩
  rename_i rttCalcTime conn' hack
  obtain ⟨ha, hstart⟩ :=
    Linked.acknowledge (x := { x with conn }) hc (fun hi => (hsent hi.wire').bufferStart_le h1) hack
  split
  · exact ⟨ha, nofun⟩
  rename_i id rest h3
  have hfields := fun hw : y.WireOk => (hsent hw).fields h1 h2 h3
  split
  · rename_i hkill
    exact ⟨ha, fun _ hw => (hfields hw).2.1 hkill⟩
  · have hconf : Linked { x with conn := confirm conn' } y := ha.congr (confirm_sends _ _)
    have hreal := hconf.handleRealData (fun hw => (hfields hw).1) (fun hw => (hfields hw).2.2.1)
      (fun hw hid j hj => by
        simp only [confirm_sendArray, hstart]
        exact (hfields hw).2.2.2 hid j hj) rttCalcTime udp now calloc react
    exact ⟨hreal, fun hk => absurd hk (handleRealData_ne_kill _ _ _ _ _ _ _ _)⟩

/-- Receiving a packet that the other peer sent keeps the invariant. -/
theorem Linked.receive (h : Linked x y) (hp : packet ∈ y.wire) (udp : Bool) (now : UInt64) (calloc : Bool)
    (react : Bytes → List ApiCall) :
    Linked (x.receive packet udp now calloc react) y := by
  obtain ⟨hcore, hkill⟩ := h.handleDataPacketCore hp udp now calloc react
  unfold Peer.receive
  split
  · rename_i p hres
    rw [hres] at hcore hkill
    intro hx hy
    exact absurd (hcore hx hy).wire' (hkill rfl)
  · rename_i res p _ hres
    rw [hres] at hcore
    exact hcore

end Toxcore.Peer

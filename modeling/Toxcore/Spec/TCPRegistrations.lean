import Toxcore.Spec.TCPRouting

/-!
# The registrations of one client

What a relay does to one of its clients: it keeps the keys that the client has registered, whatever
the other clients do, and the packets that it writes to the client agree with them.
-/

namespace Toxcore

open List

namespace TCPServer

variable {server : TCPServer} {x a i : Nat}

/-! ## Harmless steps -/

def registered (server : TCPServer) (x i : Nat) : Option PublicKey := (server.slotOf x i).key?

/-- Such a packet is no routing response, and routed data comes from the client of the slot. -/
def Harmless (registered : Nat → Option PublicKey) (entry : TCPWritten) : Prop :=
  ∀ p rest, entry.data = p :: rest → p ≠ tcpPacketRoutingResponse ∧
    (numReservedPorts ≤ p.toNat → registered (p.toNat - numReservedPorts) = some entry.source)

/-- The relay keeps what the client `x` has registered, and only writes harmless packets to it. -/
structure Spares (x : Nat) (server server' : TCPServer) : Prop where
  key : server'.keyOf x = server.keyOf x
  slots : server'.registered x = server.registered x
  written : ∃ new, server'.written = server.written ++ new ∧
    ∀ entry ∈ new, entry.index = x → Harmless (server.registered x) entry

theorem Spares.refl (x : Nat) (server : TCPServer) : Spares x server server :=
  ⟨rfl, rfl, [], (append_nil _).symm, fun _ hmem => nomatch hmem⟩

theorem Spares.trans {s1 s2 s3 : TCPServer} (h : Spares x s1 s2) (h' : Spares x s2 s3) :
    Spares x s1 s3 := by
  refine ⟨h'.key.trans h.key, h'.slots.trans h.slots, ?_⟩
  obtain ⟨new, hnew, hharmless⟩ := h.written
  obtain ⟨new', hnew', hharmless'⟩ := h'.written
  refine ⟨new ++ new', ?_, ?_⟩
  · rw [hnew', hnew, append_assoc]
  · intro entry hmem hindex
    rcases mem_append.mp hmem with hold | hlater
    · exact hharmless entry hold hindex
    · rw [← h.slots]
      exact hharmless' entry hlater hindex

theorem Spares.of_getElem? {server' : TCPServer}
    (harray : server'.acceptedConnectionArray[x]? = server.acceptedConnectionArray[x]?)
    (hwritten : server'.written = server.written) : Spares x server server' := by
  refine ⟨?_, ?_, [], ?_, fun _ hmem => nomatch hmem⟩
  · rw [keyOf, harray, keyOf]
  · funext i
    rw [registered, slotOf, harray, registered, slotOf]
  · rw [hwritten, append_nil]

theorem Spares.of_table {server' : TCPServer} (hkey : server'.table.key x = server.table.key x)
    (hslots : ∀ i, (server'.table.slot x i).key? = (server.table.slot x i).key?)
    (hwritten : server'.written = server.written) : Spares x server server' := by
  refine ⟨hkey, funext hslots, [], ?_, fun _ hmem => nomatch hmem⟩
  rw [hwritten, append_nil]

theorem written_writePacket (env : TCPServerEnv) (server : TCPServer) (index : Nat) (source : PublicKey)
    (data : Bytes) :
    (server.writePacketTCPSecureConnection env index source data).2.written = server.written ∨
    ∃ publicKey, (server.writePacketTCPSecureConnection env index source data).2.written =
      server.written ++ [⟨index, publicKey, source, data⟩] := by
  unfold writePacketTCPSecureConnection
  split
  · exact .inl rfl
  split
  · exact .inl rfl
  split
  · exact .inr ⟨_, rfl⟩
  · exact .inl rfl

variable {index : Nat} {source : PublicKey}

theorem written_of_not_sent {env : TCPServerEnv} {data : Bytes}
    (h : (server.writePacketTCPSecureConnection env index source data).1 ≠ .sent) :
    (server.writePacketTCPSecureConnection env index source data).2.written = server.written := by
  unfold writePacketTCPSecureConnection at h ⊢
  split
  · rfl
  split
  · rfl
  split
  · rename_i con hcon hlength hsent
    rw [hcon] at h
    dsimp only at h
    rw [if_neg hlength, if_pos hsent] at h
    exact absurd rfl h
  · rfl

theorem spares_writePacket (env : TCPServerEnv) (server : TCPServer) {data : Bytes}
    (h : index = x → ∀ publicKey, Harmless (server.registered x) ⟨index, publicKey, source, data⟩) :
    Spares x server (server.writePacketTCPSecureConnection env index source data).2 := by
  have hwrites := onlyWrites_writePacket env server index source data
  refine ⟨?_, ?_, ?_⟩
  · rw [keyOf, hwrites.array, keyOf]
  · funext i
    rw [registered, slotOf, hwrites.array, registered, slotOf]
  · rcases written_writePacket env server index source data with heq | ⟨publicKey, heq⟩
    · exact ⟨[], by rw [heq, append_nil], fun _ hmem => absurd hmem not_mem_nil⟩
    · refine ⟨_, heq, ?_⟩
      intro entry hmem hindex
      rw [mem_singleton.mp hmem] at hindex ⊢
      exact h hindex publicKey

variable {publicKey : PublicKey}

theorem harmless_of_reserved {registered : Nat → Option PublicKey} {p : UInt8} {rest : Bytes}
    (hlt : p.toNat < numReservedPorts) (hne : p ≠ tcpPacketRoutingResponse) :
    Harmless registered ⟨index, publicKey, source, p :: rest⟩ := by
  intro p' rest' heq
  injection heq with hp
  rw [← hp]
  exact ⟨hne, fun hle => absurd hle (Nat.not_le.mpr hlt)⟩

theorem spares_writeReserved (x : Nat) (env : TCPServerEnv) (server : TCPServer) (index : Nat)
    (source : PublicKey) {p : UInt8} (rest : Bytes) (hlt : p.toNat < numReservedPorts)
    (hne : p ≠ tcpPacketRoutingResponse) :
    Spares x server (server.writePacketTCPSecureConnection env index source (p :: rest)).2 :=
  spares_writePacket env server fun _ _ => harmless_of_reserved hlt hne

theorem spares_modifyConnection_of_ne {f : TCPSecureConnection → TCPSecureConnection} (h : a ≠ x) :
    Spares x server (server.modifyConnection a f) := by
  refine .of_getElem? ?_ rfl
  show (server.acceptedConnectionArray.modify a f)[x]? = _
  rw [getElem?_modify]
  cases server.acceptedConnectionArray[x]? with
  | none => rfl
  | some con => simp [h]

theorem spares_setPing (a x : Nat) (server : TCPServer) {f : TCPSecureConnection → TCPSecureConnection}
    (hf : ∀ con, (f con).status = con.status ∧ (f con).publicKey = con.publicKey ∧
      (f con).connections = con.connections) : Spares x server (server.modifyConnection a f) := by
  by_cases hne : a = x
  · subst hne
    have hget : (server.modifyConnection a f).acceptedConnectionArray[a]? =
        (server.acceptedConnectionArray[a]?).map f := by
      show (server.acceptedConnectionArray.modify a f)[a]? = _
      simp
    refine ⟨?_, ?_, [], (append_nil _).symm, fun _ hmem => nomatch hmem⟩
    · rw [keyOf, hget, keyOf]
      cases server.acceptedConnectionArray[a]? with
      | none => rfl
      | some con => simp [hf con]
    · funext i
      rw [registered, slotOf, hget, registered, slotOf]
      cases server.acceptedConnectionArray[a]? with
      | none => rfl
      | some con => simp [hf con]
  · exact spares_modifyConnection_of_ne hne

/-! ## The other clients -/

theorem written_rmConnectionIndex (env : TCPServerEnv) (server : TCPServer) (a i : Nat) :
    ∃ new, (server.rmConnectionIndex env a i).2.written = server.written ++ new ∧
      ∀ entry ∈ new, ∃ rest, entry.data = tcpPacketDisconnectNotification :: rest := by
  have hnothing : ∃ new, server.written = server.written ++ new ∧
      ∀ entry ∈ new, ∃ rest, entry.data = tcpPacketDisconnectNotification :: rest :=
    ⟨[], (append_nil _).symm, fun _ hmem => nomatch hmem⟩
  rw [rmConnectionIndex]
  split
  · exact hnothing
  split
  · exact hnothing
  rename_i con hcon
  dsimp only
  split
  · exact hnothing
  · exact hnothing
  split
  · exact hnothing
  · rcases written_writePacket env (server.modifySlot (con.connections i).index
      (con.connections i).otherId fun slot => { slot with otherId := 0, index := 0, status := .offline })
      (con.connections i).index con.publicKey
      [tcpPacketDisconnectNotification, UInt8.ofNat ((con.connections i).otherId + numReservedPorts)]
      with heq | ⟨publicKey, heq⟩
    · exact ⟨[], by rw [append_nil]; exact heq, fun _ hmem => nomatch hmem⟩
    · refine ⟨_, heq, ?_⟩
      intro entry hmem
      rw [mem_singleton.mp hmem]
      exact ⟨_, rfl⟩

theorem Consistent.spares_rmConnectionIndex (env : TCPServerEnv) (h : server.Consistent) (hne : a ≠ x)
    (i : Nat) : Spares x server (server.rmConnectionIndex env a i).2 := by
  by_cases hi : i < numClientConnections
  · by_cases ha : a < server.acceptedConnectionArray.length
    · obtain ⟨htable, hsame⟩ := table_rmConnectionIndex env h.symmetric hi ha
      obtain ⟨new, hwritten, hnotify⟩ := written_rmConnectionIndex env server a i
      refine ⟨?_, ?_, new, hwritten, ?_⟩
      · show (server.rmConnectionIndex env a i).2.table.key x = _
        rw [htable]
        exact congrFun (LinkTable.key_release) x
      · funext j
        show ((server.rmConnectionIndex env a i).2.table.slot x j).key? = _
        rw [htable]
        exact h.symmetric.key?_release_of_ne (Ne.symm hne)
      · intro entry hmem _ p rest heq
        obtain ⟨rest', hdata⟩ := hnotify entry hmem
        rw [hdata] at heq
        injection heq with hp
        rw [← hp]
        exact ⟨by decide, fun hle => absurd hle (by decide)⟩
    · rw [TCPServer.rmConnectionIndex, List.getElem?_eq_none_iff.mpr (Nat.not_lt.mp ha), ite_self]
      exact .refl x server
  · rw [TCPServer.rmConnectionIndex, if_pos (Nat.not_lt.mp hi)]
    exact .refl x server

theorem Consistent.spares_rmConnectionIndices (env : TCPServerEnv) (h : server.Consistent) (hne : a ≠ x)
    (n : Nat) : (server.rmConnectionIndices env a n).Consistent ∧
      Spares x server (server.rmConnectionIndices env a n) := by
  induction n with
  | zero => exact ⟨h, .refl x server⟩
  | succ n ih =>
    obtain ⟨hconsistent, hspares⟩ := ih
    exact ⟨hconsistent.rmConnectionIndex env a n,
      hspares.trans (hconsistent.spares_rmConnectionIndex env hne n)⟩

variable {key : PublicKey}

theorem Consistent.count_pos (h : server.Consistent) (hx : server.keyOf x = some key) :
    server.numAcceptedConnections ≠ 0 := by
  rw [h.indexed.count]
  have hmem := mem_of_getElem? (keyOf_eq_some_iff_roster.mp hx)
  intro hzero
  rw [countP_eq_zero] at hzero
  exact hzero _ hmem (by simp)

theorem Consistent.spares_delAccepted (h : server.Consistent) (hslots : ∀ i, server.slotOf a i = .unused)
    (hx : server.keyOf x = some key) (hne : a ≠ x) :
    Spares x server (server.delAccepted a).2 := by
  rcases h.delAccepted_spec hslots with heq | ⟨server', h', harray, hwritten, heq⟩
  · rw [heq]
    exact .refl x server
  · have hspares : Spares x server server' := by
      refine .of_getElem? ?_ hwritten
      rw [harray, getElem?_set_ne hne]
    -- the client is confirmed, so a connection is left
    have hcount := h'.count_pos (hspares.key.trans hx)
    rw [heq, if_neg hcount]
    exact hspares

theorem Consistent.spares_killAccepted (env : TCPServerEnv) (h : server.Consistent) (hx : server.keyOf x = some key)
    (hne : a ≠ x) : Spares x server (server.killAccepted env a).2 := by
  rw [TCPServer.killAccepted]
  split
  · exact .refl x server
  rename_i ha
  have ha := Nat.not_le.mp ha
  obtain ⟨hconsistent, hspares⟩ := h.spares_rmConnectionIndices env hne numClientConnections
  have hslots := slotOf_rmConnectionIndices env h.symmetric ha
  exact hspares.trans (hconsistent.spares_delAccepted hslots (hspares.key.trans hx) hne)

theorem spares_placeAccepted (env : TCPServerEnv) (hx : server.keyOf x = some key) :
    Spares x server (server.placeAccepted env).2 := by
  have halloc : Spares x server (server.allocNewConnections env 4).2 := by
    obtain ⟨con, hcon, -, -⟩ := keyOf_eq_some.mp hx
    rw [allocNewConnections]
    split
    · exact .refl x server
    split
    · exact .refl x server
    · refine .of_getElem? ?_ rfl
      exact getElem?_append_left (List.getElem?_eq_some_iff.mp hcon).1
  rw [placeAccepted]
  split
  · split
    · rename_i server' heq
      rw [heq] at halloc
      exact halloc
    · rename_i server' heq
      rw [heq] at halloc
      exact halloc
  · exact .refl x server

variable {con : TCPSecureConnection}

theorem Consistent.spares_addAccepted (env : TCPServerEnv) (h : server.Consistent) (hx : server.keyOf x = some key)
    (hkey : con.publicKey ≠ key) :
    Spares x server (server.addAccepted env con).2 ∧ (server.addAccepted env con).1 ≠ some x := by
  rw [TCPServer.addAccepted]
  have hold : Spares x server (server.killOld env con.publicKey) ∧
      (server.killOld env con.publicKey).Consistent := by
    rw [killOld]
    split
    · rename_i index hindex
      have hindexKey := h.getTCPConnectionIndex_eq_some.mp hindex
      have hne : index ≠ x := by
        intro heq
        rw [heq, hx] at hindexKey
        exact hkey (Option.some.inj hindexKey).symm
      exact ⟨h.spares_killAccepted env hx hne, h.killAccepted env index⟩
    · exact ⟨.refl x server, h⟩
  obtain ⟨hspares1, h1⟩ := hold
  generalize server.killOld env con.publicKey = server1 at hspares1 h1 ⊢
  obtain ⟨-, hplace⟩ := h1.placeAccepted env
  have hspares2 := spares_placeAccepted env (hspares1.key.trans hx)
  generalize server1.placeAccepted env = placed at hplace hspares2 ⊢
  obtain ⟨place, server2⟩ := placed
  have hspares := hspares1.trans hspares2
  cases place with
  | none => exact ⟨hspares, (Option.some_ne_none _).symm⟩
  | some index =>
    obtain ⟨old, hold, hstatus⟩ := hplace index rfl
    have hne : index ≠ x := by
      intro heq
      obtain ⟨conx, hconx, hconfirmed, -⟩ := keyOf_eq_some.mp (hspares.key.trans hx)
      rw [heq, hconx] at hold
      rw [Option.some.inj hold, hstatus] at hconfirmed
      cases hconfirmed
    dsimp only at hspares ⊢
    split
    · exact ⟨hspares, (Option.some_ne_none _).symm⟩
    split
    · exact ⟨hspares, (Option.some_ne_none _).symm⟩
    · refine ⟨hspares.trans (.of_getElem? ?_ rfl), ?_⟩
      · exact getElem?_set_ne hne
      · intro heq
        exact hne (Option.some.inj heq)

variable {conKey : PublicKey}

theorem Consistent.spares_linkSlot (x : Nat) (env : TCPServerEnv) (h : server.Consistent)
    (hkey : server.keyOf a = some conKey) (hslot : server.slotOf a i = .waiting publicKey) :
    Spares x server (server.linkSlot env a i conKey publicKey) := by
  rcases h.linkSlot_spec env hkey hslot with
    heq | ⟨b, j, server1, hotherKey, hwaiting, hsame, hwritten, htable, heq⟩
  · rw [heq]
    exact .refl x server
  · rw [heq]
    have hspares : Spares x server server1 := by
      refine .of_table ?_ ?_ hwritten
      · rw [htable]
        rfl
      · intro i'
        rw [htable]
        exact LinkTable.Symmetric.key?_join hslot hwaiting x i'
    have hnotify := hspares.trans
      (spares_writeReserved x env server1 a conKey [UInt8.ofNat (i + numReservedPorts)]
        (by decide : tcpPacketConnectionNotification.toNat < _) (by decide))
    exact hnotify.trans (spares_writeReserved x env _ b conKey [UInt8.ofNat (j + numReservedPorts)]
      (by decide : tcpPacketConnectionNotification.toNat < _) (by decide))

theorem Consistent.spares_handleTCPRoutingReq (env : TCPServerEnv) (h : server.Consistent)
    (hkey : server.keyOf a = some conKey) (hne : a ≠ x) (publicKey : PublicKey) :
    Spares x server (server.handleTCPRoutingReq env a publicKey).2 := by
  have hresponse : ∀ rpid, Spares x server (server.sendRoutingResponse env a conKey rpid publicKey).2 :=
    fun rpid => spares_writePacket env server fun heq => absurd heq hne
  have hcases := routingReq_cases env hkey publicKey
  generalize (server.handleTCPRoutingReq env a publicKey).2 = server' at hcases ⊢
  cases hcases with
  | answered rpid hrpid => exact hresponse rpid
  | unanswered rpid hret => exact hresponse rpid
  | taken i hi hslot hfresh hself =>
    obtain ⟨h2, htable⟩ := h.takeSlot env hkey hi hslot hfresh hself _ rfl
    refine ((hresponse _).trans (spares_modifyConnection_of_ne hne)).trans (h2.spares_linkSlot x env ?_ ?_)
    · exact (congrFun (congrArg LinkTable.key htable) a).trans hkey
    · exact (congrFun (congrFun (congrArg LinkTable.slot htable) a) i).trans LinkTable.slot_setSlot_self

theorem Spares.ite {c : Prop} [Decidable c] {r r' : Bool × TCPServer} (h : Spares x server r.2)
    (h' : Spares x server r'.2) : Spares x server (if c then r else r').2 := by
  by_cases hc : c
  · rw [if_pos hc]
    exact h
  · rw [if_neg hc]
    exact h'

theorem Consistent.harmless_data (h : server.Consistent) (hcon : server.acceptedConnectionArray[a]? = some con)
    (hconfirmed : con.status = .confirmed) (hi : i < numClientConnections)
    (honline : (con.connections i).status = .online) (publicKey : PublicKey) (rest : Bytes) :
    Harmless (server.registered (con.connections i).index) ⟨(con.connections i).index, publicKey,
      con.publicKey, UInt8.ofNat ((con.connections i).otherId + numReservedPorts) :: rest⟩ := by
  obtain ⟨-, hback⟩ := h.linked hcon hconfirmed hi honline
  have hj := (lt_of_slotOf (by rw [hback]; exact nofun :
    server.slotOf (con.connections i).index (con.connections i).otherId ≠ .unused)).2
  generalize (con.connections i).otherId = j at hback hj ⊢
  have hp : (UInt8.ofNat (j + numReservedPorts)).toNat = j + numReservedPorts := by
    exact Nat.mod_eq_of_lt (Nat.add_lt_of_lt_sub hj)
  intro p rest' heq
  injection heq with hhead
  rw [← hhead, hp]
  constructor
  · intro hresponse
    rw [hresponse] at hp
    have : (1 : Nat) = j + 16 := hp
    omega
  · intro _
    rw [Nat.add_sub_cancel, registered, hback]
    rfl

theorem Consistent.spares_handleTCPPacket (env : TCPServerEnv) (h : server.Consistent)
    (hkey : server.keyOf a = some conKey) (data : Bytes)
    (hne : a ≠ x ∨ ∃ packetId rest, data = packetId :: rest ∧ packetId ≠ tcpPacketRoutingRequest ∧ packetId ≠ tcpPacketDisconnectNotification)
    :
    Spares x server (server.handleTCPPacket env a data).2 := by
  obtain ⟨con, hcon, hconfirmed, -⟩ := keyOf_eq_some.mp hkey
  have hrefl := Spares.refl x server
  cases data with
  | nil => exact hrefl
  | cons packetId data =>
    rw [TCPServer.handleTCPPacket, hcon]
    dsimp only
    have hother : packetId = tcpPacketRoutingRequest ∨ packetId = tcpPacketDisconnectNotification →
        a ≠ x := by
      intro hpacket
      rcases hne with hne | ⟨packetId', rest, heq, hreq, hdis⟩
      · exact hne
      · injection heq with hhead
        rw [← hhead] at hreq hdis
        rcases hpacket with hpacket | hpacket
        · exact absurd hpacket hreq
        · exact absurd hpacket hdis
    -- the cases of the switch, in its order
    by_cases hreq : packetId = tcpPacketRoutingRequest
    · rw [if_pos hreq]
      exact .ite hrefl (h.spares_handleTCPRoutingReq env hkey (hother (.inl hreq)) _)
    rw [if_neg hreq]
    refine .ite hrefl ?_
    by_cases hdis : packetId = tcpPacketDisconnectNotification
    · rw [if_pos hdis]
      exact .ite hrefl (h.spares_rmConnectionIndex env (hother (.inr hdis)) _)
    rw [if_neg hdis]
    refine .ite (.ite hrefl (spares_writeReserved x env server a con.publicKey data
      (by decide : tcpPacketPong.toNat < _) (by decide))) ?_
    refine .ite (.ite hrefl (.ite ?_ hrefl)) ?_
    · split
      · refine spares_setPing a x server ?_
        exact fun _ => ⟨rfl, rfl, rfl⟩
      · exact hrefl
    refine .ite (.ite hrefl ?_) ?_
    · refine .ite hrefl ?_
      split
      · exact spares_writeReserved x env server _ _ _ (by decide : tcpPacketOobRecv.toNat < _) (by decide)
      · exact hrefl
    refine .ite (.ite hrefl hrefl) ?_
    refine .ite hrefl ?_
    refine .ite (.ite hrefl ?_) ?_
    · split
      · exact hrefl
      · exact hrefl
    refine .ite hrefl ?_
    rw [handleTCPData]
    by_cases hid : packetId.toNat < numReservedPorts
    · rw [if_pos hid]
      exact hrefl
    rw [if_neg hid]
    have hi : packetId.toNat - numReservedPorts < numClientConnections := by
      have := packetId.toNat_lt
      show packetId.toNat - 16 < 256 - 16
      omega
    dsimp only
    split
    · exact hrefl
    · exact hrefl
    · rename_i honline
      refine spares_writePacket env server ?_
      intro hindex publicKey
      rw [← hindex]
      exact h.harmless_data hcon hconfirmed hi honline publicKey data

theorem Consistent.spares_confirmTCPConnection (env : TCPServerEnv) (h : server.Consistent)
    (hx : server.keyOf x = some key) (hslots : ∀ i, (con.connections i).status = .unused) (hkey : con.publicKey ≠ key)
    (data : Bytes) :
    Spares x server (server.confirmTCPConnection env con data).2 := by
  obtain ⟨h1, hindex⟩ := h.addAccepted env hslots
  obtain ⟨hspares1, hne⟩ := h.spares_addAccepted env hx hkey
  rw [TCPServer.confirmTCPConnection]
  generalize server.addAccepted env con = added at h1 hindex hspares1 hne ⊢
  obtain ⟨place, server1⟩ := added
  cases place with
  | none => exact hspares1
  | some index =>
    have hne' : index ≠ x := by
      intro heq
      exact hne (congrArg some heq)
    have hkey1 := hindex index rfl
    have h2 := h1.handleTCPPacket env hkey1 data
    have hspares2 := hspares1.trans (h1.spares_handleTCPPacket env hkey1 data (.inl hne'))
    dsimp only at h2 hspares2 ⊢
    generalize server1.handleTCPPacket env index data = handled at h2 hspares2 ⊢
    obtain ⟨ok, server2⟩ := handled
    cases ok with
    | false => exact hspares2.trans (h2.spares_killAccepted env (hspares2.key.trans hx) hne')
    | true => exact hspares2

theorem Consistent.spares_doTCPConfirmed (env : TCPServerEnv) (h : server.Consistent) (hx : server.keyOf x = some key)
    (hne : a ≠ x) : Spares x server (server.doTCPConfirmed env a) := by
  have hcheck : ∀ {server' : TCPServer} (c : Prop) [Decidable c], server'.Consistent →
      Spares x server server' →
        Spares x server (if c then (server'.killAccepted env a).2 else server') := by
    intro server' c _ h' hspares
    by_cases hc : c
    · rw [if_pos hc]
      exact hspares.trans (h'.spares_killAccepted env (hspares.key.trans hx) hne)
    · rw [if_neg hc]
      exact hspares
  rw [TCPServer.doTCPConfirmed]
  split
  · exact .refl x server
  rename_i con hcon
  split
  · exact .refl x server
  dsimp only
  split
  · have hwrite := h.of_onlyWrites (onlyWrites_writePacket env server a con.publicKey
      (tcpPacketPing :: toLittleEndian 8 (if env.random = 0 then env.random + 1 else env.random).toNat))
    have hspares := spares_writeReserved x env server a con.publicKey
      (toLittleEndian 8 (if env.random = 0 then env.random + 1 else env.random).toNat)
      (by decide : tcpPacketPing.toNat < _) (by decide)
    generalize server.writePacketTCPSecureConnection env a con.publicKey _ = ping at hwrite hspares ⊢
    obtain ⟨ret, server1⟩ := ping
    cases ret with
    | sent =>
      refine hcheck _ (hwrite.modifyConnection ?_ a) (hspares.trans (spares_setPing a x server1 ?_))
      · exact fun _ => ⟨rfl, rfl, rfl⟩
      · exact fun _ => ⟨rfl, rfl, rfl⟩
    | notSent =>
      dsimp only at hwrite hspares ⊢
      split
      · exact hspares.trans (hwrite.spares_killAccepted env (hspares.key.trans hx) hne)
      · exact hcheck _ hwrite hspares
    | failed =>
      dsimp only at hwrite hspares ⊢
      split
      · exact hspares.trans (hwrite.spares_killAccepted env (hspares.key.trans hx) hne)
      · exact hcheck _ hwrite hspares
  · exact hcheck _ h (.refl x server)

/-- Neither a packet of the client `x` nor the end of its connection. -/
def Foreign (server : TCPServer) (x : Nat) (key : PublicKey) : Input → Prop
  | .unconfirmed i _ => (server.unconfirmedConnectionQueue i).publicKey ≠ key
  | .confirmed i => i ≠ x
  | .packet i _ => i ≠ x
  | .kill i => i ≠ x
  | _ => True

instance (server : TCPServer) (x : Nat) (key : PublicKey) : DecidablePred (server.Foreign x key)
  | .unconfirmed _ _ => inferInstanceAs (Decidable (_ ≠ _))
  | .confirmed _ => inferInstanceAs (Decidable (_ ≠ _))
  | .packet _ _ => inferInstanceAs (Decidable (_ ≠ _))
  | .kill _ => inferInstanceAs (Decidable (_ ≠ _))
  | .accept _ => .isTrue trivial
  | .incoming _ _ => .isTrue trivial
  | .killIncoming _ => .isTrue trivial
  | .killUnconfirmed _ => .isTrue trivial
  | .onion _ _ _ => .isTrue trivial
  | .forward _ _ _ => .isTrue trivial

theorem Consistent.spares_apply (env : TCPServerEnv) (h : server.Consistent) (hx : server.keyOf x = some key)
    {input : Input} (hforeign : server.Foreign x key input) :
    Spares x server (server.apply env input) := by
  have hreply : ∀ packetId conId identifier data, packetId.toNat < numReservedPorts →
      packetId ≠ tcpPacketRoutingResponse →
      Spares x server (server.replyTo env packetId conId identifier data) := by
    intro packetId conId identifier data hlt hne
    rw [TCPServer.replyTo]
    split
    · exact .refl x server
    split
    · exact .refl x server
    · exact spares_writeReserved x env server _ _ _ hlt hne
  cases input with
  | accept ready =>
    show Spares x server (server.acceptConnection ready)
    rw [acceptConnection]
    split
    · exact .refl x server
    · exact .of_getElem? rfl rfl
  | incoming i read =>
    show Spares x server (server.doIncoming i read)
    unfold doIncoming
    dsimp only
    split
    · exact .refl x server
    cases read with
    | notReady => exact .refl x server
    | failed => exact .of_getElem? rfl rfl
    | handled publicKey => exact .of_getElem? rfl rfl
  | unconfirmed i read =>
    show Spares x server (server.doUnconfirmed env i read)
    have hwiped := h.apply env (.unconfirmed i .failed)
    unfold doUnconfirmed
    by_cases hstatus : (server.unconfirmedConnectionQueue i).status ≠ .unconfirmed
    · rw [if_pos hstatus]
      exact .refl x server
    rw [if_neg hstatus]
    have hwipedEq : server.apply env (.unconfirmed i .failed) = { server with
        unconfirmedConnectionQueue :=
          Function.update server.unconfirmedConnectionQueue i zeroSecureConnection } := by
      show server.doUnconfirmed env i .failed = _
      unfold doUnconfirmed
      rw [if_neg hstatus]
    rw [hwipedEq] at hwiped
    cases read with
    | nothing => exact .refl x server
    | failed => exact .of_getElem? rfl rfl
    | packet data =>
      have hsame : Spares x server { server with
          unconfirmedConnectionQueue :=
            Function.update server.unconfirmedConnectionQueue i zeroSecureConnection } :=
        .of_getElem? rfl rfl
      exact hsame.trans (hwiped.spares_confirmTCPConnection env hx (h.indexed.unconfirmed i) hforeign data)
  | confirmed i => exact h.spares_doTCPConfirmed env hx hforeign
  | packet i read =>
    show Spares x server (if (server.keyOf i).isSome then _ else _)
    split
    · rename_i hsome
      obtain ⟨key', hkey'⟩ := Option.isSome_iff_exists.mp hsome
      unfold tcpProcessSecurePacket
      cases read with
      | nothing => exact .refl x server
      | failed => exact h.spares_killAccepted env hx hforeign
      | packet data =>
        have hhandled := h.handleTCPPacket env hkey' data
        have hspares := h.spares_handleTCPPacket env hkey' data (.inl hforeign)
        dsimp only
        generalize server.handleTCPPacket env i data = handled at hhandled hspares ⊢
        obtain ⟨ok, server1⟩ := handled
        cases ok with
        | false => exact hspares.trans (hhandled.spares_killAccepted env (hspares.key.trans hx) hforeign)
        | true => exact hspares
    · exact .refl x server
  | killIncoming i => exact .of_getElem? rfl rfl
  | killUnconfirmed i => exact .of_getElem? rfl rfl
  | kill i => exact h.spares_killAccepted env hx hforeign
  | onion conId identifier data => exact hreply _ _ _ _ (by decide) (by decide)
  | forward conId identifier data => exact hreply _ _ _ _ (by decide) (by decide)

/-! ## The client itself -/

def routingResponse (rpid : Nat) (publicKey : PublicKey) : Bytes :=
  tcpPacketRoutingResponse :: UInt8.ofNat rpid :: publicKey.toList

/-- A routing request of the client registers at most its key, and is answered with the slot. -/
structure Registers (x : Nat) (publicKey : PublicKey) (server server' : TCPServer) : Prop where
  key : server'.keyOf x = server.keyOf x
  slots : ∀ i, server'.registered x i = server.registered x i ∨
    server.registered x i = none ∧ server'.registered x i = some publicKey
  written : ∃ new, server'.written = server.written ++ new ∧
    ∀ entry ∈ new, entry.index = x → Harmless (server'.registered x) entry ∨
      ∃ rpid, entry.data = routingResponse rpid publicKey ∧ (rpid = 0 ∨
        ∃ i < numClientConnections, rpid = i + numReservedPorts ∧ server'.registered x i = some publicKey)

theorem Registers.trans_spares {s1 s2 s3 : TCPServer} (h : Registers x publicKey s1 s2) (h' : Spares x s2 s3)
    : Registers x publicKey s1 s3 := by
  refine ⟨h'.key.trans h.key, ?_, ?_⟩
  · rw [h'.slots]
    exact h.slots
  · obtain ⟨new, hnew, hentries⟩ := h.written
    obtain ⟨new', hnew', hharmless⟩ := h'.written
    refine ⟨new ++ new', ?_, ?_⟩
    · rw [hnew', hnew, append_assoc]
    · intro entry hmem hindex
      rw [h'.slots]
      rcases mem_append.mp hmem with hold | hlater
      · exact hentries entry hold hindex
      · exact .inl (hharmless entry hlater hindex)

theorem Consistent.registers_handleTCPRoutingReq (env : TCPServerEnv) (h : server.Consistent)
    (hkey : server.keyOf x = some conKey) (publicKey : PublicKey) :
    Registers x publicKey server (server.handleTCPRoutingReq env x publicKey).2 := by
  have hcases := routingReq_cases env hkey publicKey
  generalize (server.handleTCPRoutingReq env x publicKey).2 = server' at hcases ⊢
  -- the response itself, before anything else happens
  have hresponse : ∀ rpid, OnlyWrites server (server.sendRoutingResponse env x conKey rpid publicKey).2 :=
    fun rpid => onlyWrites_writePacket env server x conKey _
  have hsame : ∀ rpid, (server.sendRoutingResponse env x conKey rpid publicKey).2.keyOf x = server.keyOf x ∧
      (server.sendRoutingResponse env x conKey rpid publicKey).2.registered x = server.registered x := by
    intro rpid
    refine ⟨?_, ?_⟩
    · rw [keyOf, (hresponse rpid).array, keyOf]
    · funext i
      rw [registered, slotOf, (hresponse rpid).array, registered, slotOf]
  have hwritten := fun rpid => written_writePacket env server x conKey (routingResponse rpid publicKey)
  cases hcases with
  | answered rpid hrpid =>
    refine ⟨(hsame rpid).1, fun i => .inl (congrFun (hsame rpid).2 i), ?_⟩
    rw [(hsame rpid).2]
    rcases hwritten rpid with heq | ⟨publicKey', heq⟩
    · exact ⟨[], heq.trans (append_nil _).symm, fun _ hmem => absurd hmem not_mem_nil⟩
    · refine ⟨_, heq, ?_⟩
      intro entry hmem _
      rw [mem_singleton.mp hmem]
      refine .inr ⟨rpid, rfl, ?_⟩
      rcases hrpid with hzero | ⟨i, hi, hrpid, hslot⟩
      · exact .inl hzero
      · exact .inr ⟨i, hi, hrpid, hslot⟩
  | unanswered rpid hret =>
    refine ⟨(hsame rpid).1, fun i => .inl (congrFun (hsame rpid).2 i), [], ?_,
      fun _ hmem => absurd hmem not_mem_nil⟩
    rw [append_nil]
    exact written_of_not_sent hret
  | taken i hi hslot hfresh hself =>
    obtain ⟨h2, htable⟩ := h.takeSlot env hkey hi hslot hfresh hself (i + numReservedPorts) rfl
    have hreg : ∀ j, (((server.sendRoutingResponse env x conKey (i + numReservedPorts)
        publicKey).2.modifySlot x i fun slot => { slot with status := .offline, publicKey }).registered
          x j) = if j = i then some publicKey else server.registered x j := by
      intro j
      show (TCPServer.slotOf _ x j).key? = _
      rw [show TCPServer.slotOf _ x j = _ from congrFun (congrFun (congrArg LinkTable.slot htable) x) j,
        LinkTable.slot_setSlot]
      by_cases hj : j = i
      · rw [if_pos ⟨rfl, hj⟩, if_pos hj]
        rfl
      · rw [if_neg (fun heq => hj heq.2), if_neg hj]
        rfl
    have htaken : Registers x publicKey server ((server.sendRoutingResponse env x conKey
        (i + numReservedPorts) publicKey).2.modifySlot x i fun slot =>
          { slot with status := .offline, publicKey }) := by
      refine ⟨(congrFun (congrArg LinkTable.key htable) x), ?_, ?_⟩
      · intro j
        rw [hreg]
        by_cases hj : j = i
        · rw [if_pos hj, hj]
          refine .inr ⟨?_, rfl⟩
          rw [registered, hslot]
          rfl
        · rw [if_neg hj]
          exact .inl rfl
      · rcases hwritten (i + numReservedPorts) with heq | ⟨publicKey', heq⟩
        · exact ⟨[], heq.trans (append_nil _).symm, fun _ hmem => absurd hmem not_mem_nil⟩
        · refine ⟨_, heq, ?_⟩
          intro entry hmem _
          rw [mem_singleton.mp hmem]
          refine .inr ⟨i + numReservedPorts, rfl, .inr ⟨i, hi, rfl, ?_⟩⟩
          rw [hreg, if_pos rfl]
    refine htaken.trans_spares (h2.spares_linkSlot x env ?_ ?_)
    · exact (congrFun (congrArg LinkTable.key htable) x).trans hkey
    · exact (congrFun (congrFun (congrArg LinkTable.slot htable) x) i).trans LinkTable.slot_setSlot_self

structure Releases (x k : Nat) (server server' : TCPServer) : Prop where
  key : server'.keyOf x = server.keyOf x
  slots : ∀ i, server'.registered x i = if i = k then none else server.registered x i
  written : ∃ new, server'.written = server.written ++ new ∧
    ∀ entry ∈ new, Harmless (server'.registered x) entry

theorem Consistent.releases_rmConnectionIndex (env : TCPServerEnv) (h : server.Consistent)
    (hkey : server.keyOf x = some conKey) {k : Nat} (hk : k < numClientConnections) :
    Releases x k server (server.rmConnectionIndex env x k).2 := by
  obtain ⟨con, hcon, -, -⟩ := keyOf_eq_some.mp hkey
  have ha := (List.getElem?_eq_some_iff.mp hcon).1
  obtain ⟨htable, hsame⟩ := table_rmConnectionIndex env h.symmetric hk ha
  obtain ⟨new, hwritten, hnotify⟩ := written_rmConnectionIndex env server x k
  refine ⟨?_, ?_, new, hwritten, ?_⟩
  · show (server.rmConnectionIndex env x k).2.table.key x = _
    rw [htable]
    exact congrFun LinkTable.key_release x
  · intro i
    show ((server.rmConnectionIndex env x k).2.table.slot x i).key? = _
    rw [htable, h.symmetric.slot_release_self]
    by_cases hi : i = k
    · rw [if_pos hi, if_pos hi]
      rfl
    · rw [if_neg hi, if_neg hi]
      rfl
  · intro entry hmem p rest heq
    obtain ⟨rest', hdata⟩ := hnotify entry hmem
    rw [hdata] at heq
    injection heq with hp
    rw [← hp]
    exact ⟨by decide, fun hle => absurd hle (by decide)⟩

end TCPServer

end Toxcore

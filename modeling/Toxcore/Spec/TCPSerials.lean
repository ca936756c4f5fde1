import Toxcore.Spec.TCPRouting

/-!
# Which client an identifier names

Every connection that the relay accepts has an identifier from a 64-bit counter. Here the connections are
numbered without a bound. As long as fewer than `2 ^ 64` connections were accepted, an identifier names one
connection, and none once that one is gone.
-/

namespace Toxcore

open List

namespace TCPServer

variable {server server' : TCPServer}

def identifierAt (server : TCPServer) (i : Nat) : Option UInt64 :=
  (server.acceptedConnectionArray[i]?).bind fun con =>
    if con.status = .noStatus then none else some con.identifier

theorem identifierAt_eq_some {i : Nat} {x : UInt64} : server.identifierAt i = some x ↔
    ∃ con, server.acceptedConnectionArray[i]? = some con ∧ con.status ≠ .noStatus ∧
      con.identifier = x := by
  rw [identifierAt, Option.bind_eq_some_iff]
  constructor
  · intro ⟨con, hcon, h⟩
    split at h
    · cases h
    · rename_i hstatus
      exact ⟨con, hcon, hstatus, Option.some.inj h⟩
  · intro ⟨con, hcon, hstatus, hx⟩
    exact ⟨con, hcon, by rw [if_neg hstatus, hx]⟩

def Wiped (server : TCPServer) : Prop :=
  ∀ con ∈ server.acceptedConnectionArray, con.status = .noStatus → con.identifier = 0

structure Fades (server server' : TCPServer) : Prop where
  counter : server'.counter = server.counter
  identifierAt : ∀ i x, server'.identifierAt i = some x → server.identifierAt i = some x
  wiped : server.Wiped → server'.Wiped

theorem Fades.refl (server : TCPServer) : Fades server server := ⟨rfl, fun _ _ h => h, fun h => h⟩

theorem Fades.trans {s1 s2 s3 : TCPServer} (h : Fades s1 s2) (h' : Fades s2 s3) : Fades s1 s3 :=
  ⟨h'.counter.trans h.counter, fun i x hx => h.identifierAt i x (h'.identifierAt i x hx),
    fun hw => h'.wiped (h.wiped hw)⟩

theorem Fades.of_array (hcounter : server'.counter = server.counter)
    (harray : server'.acceptedConnectionArray = server.acceptedConnectionArray) :
    Fades server server' := by
  refine ⟨hcounter, fun i x hx => ?_, fun hw => ?_⟩
  · rwa [TCPServer.identifierAt, harray] at hx
  · rwa [Wiped, harray]

theorem Fades.ite {c : Prop} [Decidable c] {r r' : Bool × TCPServer} (h : Fades server r.2)
    (h' : Fades server r'.2) : Fades server (if c then r else r').2 := by
  split
  · exact h
  · exact h'

/-! ## Operations that accept no connection -/

theorem fades_modifyConnection {f : TCPSecureConnection → TCPSecureConnection}
    (hf : ∀ con, ((f con).status = con.status ∧ (f con).identifier = con.identifier) ∨
      f con = zeroSecureConnection) (server : TCPServer) (a : Nat) :
    Fades server (server.modifyConnection a f) := by
  have hget : ∀ b, (server.modifyConnection a f).acceptedConnectionArray[b]? =
      (server.acceptedConnectionArray[b]?).map fun con => if a = b then f con else con :=
    fun b => getElem?_modify f a _ b
  have hentry : ∀ (b : Nat) (con' : TCPSecureConnection), (server.modifyConnection a f).acceptedConnectionArray[b]? = some con' →
      ∃ con : TCPSecureConnection, server.acceptedConnectionArray[b]? = some con ∧
        ((con'.status = con.status ∧ con'.identifier = con.identifier) ∨
          con' = zeroSecureConnection) := by
    intro b con' hcon'
    rw [hget, Option.map_eq_some_iff] at hcon'
    obtain ⟨con, hcon, rfl⟩ := hcon'
    refine ⟨con, hcon, ?_⟩
    split
    · exact hf con
    · exact .inl ⟨rfl, rfl⟩
  refine ⟨rfl, fun b x hx => ?_, fun hw con' hmem hstatus => ?_⟩
  · obtain ⟨con', hcon', hstatus, rfl⟩ := identifierAt_eq_some.mp hx
    obtain ⟨con, hcon, hsame | rfl⟩ := hentry b con' hcon'
    · rw [hsame.1] at hstatus
      exact identifierAt_eq_some.mpr ⟨con, hcon, hstatus, hsame.2.symm⟩
    · exact absurd rfl hstatus
  · obtain ⟨b, hb⟩ := mem_iff_getElem?.mp hmem
    obtain ⟨con, hcon, hsame | rfl⟩ := hentry b con' hb
    · rw [hsame.1] at hstatus
      exact hsame.2.trans (hw con (mem_of_getElem? hcon) hstatus)
    · rfl

theorem fades_modifySlot (server : TCPServer) (a i : Nat) (f : TCPSecureConn → TCPSecureConn) :
    Fades server (server.modifySlot a i f) := by
  refine fades_modifyConnection ?_ server a
  exact fun _ => .inl ⟨rfl, rfl⟩

theorem fades_writePacket (env : TCPServerEnv) (server : TCPServer) (index : Nat) (source : PublicKey)
    (data : Bytes) :
    Fades server (server.writePacketTCPSecureConnection env index source data).2 := by
  obtain ⟨written, writes, heq⟩ := writePacket_state env server index source data
  rw [heq]
  exact .of_array rfl rfl

theorem fades_rmConnectionIndex (env : TCPServerEnv) (server : TCPServer) (a i : Nat) :
    Fades server (server.rmConnectionIndex env a i).2 := by
  refine .ite (.refl server) ?_
  split
  · exact .refl server
  dsimp only
  split
  · exact .refl server
  · exact fades_modifySlot server a i _
  · refine .ite (.refl server) ?_
    exact ((fades_modifySlot server _ _ _).trans (fades_writePacket env _ _ _ _)).trans
      (fades_modifySlot _ a i _)

theorem fades_rmConnectionIndices (env : TCPServerEnv) (server : TCPServer) (a n : Nat) :
    Fades server (server.rmConnectionIndices env a n) := by
  induction n with
  | zero => exact .refl server
  | succ n ih => exact ih.trans (fades_rmConnectionIndex env _ a n)

theorem fades_freeAcceptedConnectionArray (server : TCPServer) :
    Fades server server.freeAcceptedConnectionArray := by
  refine ⟨rfl, fun i x hx => ?_, fun _ con hmem => (nomatch hmem)⟩
  obtain ⟨con, hcon, -⟩ := identifierAt_eq_some.mp hx
  exact nomatch hcon

theorem fades_wipe (server : TCPServer) (a : Nat) :
    Fades server (server.modifyConnection a TCPSecureConnection.wipe) := by
  refine fades_modifyConnection (fun con => ?_) server a
  unfold TCPSecureConnection.wipe
  split
  · exact .inr rfl
  · exact .inl ⟨rfl, rfl⟩

theorem fades_delAccepted (server : TCPServer) (a : Nat) : Fades server (server.delAccepted a).2 := by
  rw [delAccepted]
  split
  · exact .refl server
  refine .ite (.refl server) ?_
  split
  · exact .refl server
  · rename_i acceptedKeyList _
    have hlist : Fades server { server with acceptedKeyList } := .of_array rfl rfl
    have hwiped := hlist.trans (fades_wipe { server with acceptedKeyList } a)
    have hcount : Fades server { ({ server with acceptedKeyList } : TCPServer).modifyConnection a
        TCPSecureConnection.wipe with
        numAcceptedConnections := server.numAcceptedConnections - 1 } :=
      hwiped.trans (.of_array rfl rfl)
    show Fades server (if _ then _ else _)
    split
    · exact hcount.trans (fades_freeAcceptedConnectionArray _)
    · exact hcount

theorem fades_killAccepted (env : TCPServerEnv) (server : TCPServer) (a : Nat) :
    Fades server (server.killAccepted env a).2 := by
  refine .ite (.refl server) ?_
  exact (fades_rmConnectionIndices env server a _).trans (fades_delAccepted _ a)

theorem fades_linkSlot (env : TCPServerEnv) (server : TCPServer) (a i : Nat)
    (conKey publicKey : PublicKey) : Fades server (server.linkSlot env a i conKey publicKey) := by
  rw [linkSlot]
  split
  · exact .refl server
  split
  · exact .refl server
  split
  · exact .refl server
  · exact (((fades_modifySlot server _ _ _).trans (fades_modifySlot _ _ _ _)).trans
      (fades_writePacket env _ _ _ _)).trans (fades_writePacket env _ _ _ _)

theorem fades_handleTCPRoutingReq (env : TCPServerEnv) (server : TCPServer) (a : Nat)
    (publicKey : PublicKey) : Fades server (server.handleTCPRoutingReq env a publicKey).2 := by
  rw [handleTCPRoutingReq]
  split
  · exact .refl server
  rename_i con hcon
  have hrespond : ∀ rpid, Fades server (server.sendRoutingResponse env a con.publicKey rpid publicKey).2 :=
    fun rpid => fades_writePacket env server a con.publicKey _
  dsimp only
  refine .ite (hrespond 0) ?_
  split
  · exact hrespond _
  split
  · exact hrespond 0
  · rename_i index _
    have hslot := hrespond (index + numReservedPorts)
    generalize server.sendRoutingResponse env a con.publicKey (index + numReservedPorts) publicKey =
      response at hslot ⊢
    obtain ⟨ret, server1⟩ := response
    cases ret with
    | notSent => exact hslot
    | failed => exact hslot
    | sent => exact (hslot.trans (fades_modifySlot server1 a index _)).trans (fades_linkSlot env _ _ _ _ _)

theorem fades_handleTCPPacket (env : TCPServerEnv) (server : TCPServer) (a : Nat) (data : Bytes) :
    Fades server (server.handleTCPPacket env a data).2 := by
  have h := Fades.refl server
  have hwrite : ∀ index source data,
      Fades server (server.writePacketTCPSecureConnection env index source data).2 :=
    fades_writePacket env server
  cases data with
  | nil => exact h
  | cons packetId data =>
    rw [handleTCPPacket]
    split
    · exact h
    -- the cases of the switch, in its order
    refine .ite (.ite h (fades_handleTCPRoutingReq env server a _)) ?_
    refine .ite h ?_
    refine .ite (.ite h (fades_rmConnectionIndex env server a _)) ?_
    refine .ite (.ite h (hwrite _ _ _)) ?_
    refine .ite (.ite h (.ite ?_ h)) ?_
    · split
      · refine fades_modifyConnection ?_ server a
        exact fun _ => .inl ⟨rfl, rfl⟩
      · exact h
    refine .ite (.ite h ?_) ?_
    · refine .ite h ?_
      split
      · exact hwrite _ _ _
      · exact h
    refine .ite (.ite h h) ?_
    refine .ite h ?_
    refine .ite (.ite h ?_) ?_
    · split
      · exact h
      · exact h
    refine .ite h ?_
    refine .ite h ?_
    dsimp only
    split
    · exact h
    · exact h
    · exact hwrite _ _ _

theorem fades_tcpProcessSecurePacket (env : TCPServerEnv) (server : TCPServer) (a : Nat)
    (read : TCPRead) : Fades server (server.tcpProcessSecurePacket env a read) := by
  cases read with
  | nothing => exact .refl server
  | failed => exact fades_killAccepted env server a
  | packet data =>
    have h := fades_handleTCPPacket env server a data
    rw [tcpProcessSecurePacket]
    generalize server.handleTCPPacket env a data = handled at h ⊢
    obtain ⟨ok, server1⟩ := handled
    cases ok with
    | false => exact h.trans (fades_killAccepted env server1 a)
    | true => exact h

theorem fades_doTCPConfirmed (env : TCPServerEnv) (server : TCPServer) (a : Nat) :
    Fades server (server.doTCPConfirmed env a) := by
  have hcheck : ∀ {server' : TCPServer} (c : Prop) [Decidable c], Fades server server' →
      Fades server (if c then (server'.killAccepted env a).2 else server') := by
    intro server' c _ h'
    split
    · exact h'.trans (fades_killAccepted env server' a)
    · exact h'
  rw [doTCPConfirmed]
  split
  · exact .refl server
  rename_i con hcon
  split
  · exact .refl server
  dsimp only
  split
  · have hwrite := fades_writePacket env server a con.publicKey
      (tcpPacketPing :: toLittleEndian 8 (if env.random = 0 then env.random + 1 else env.random).toNat)
    generalize server.writePacketTCPSecureConnection env a con.publicKey _ = ping at hwrite ⊢
    obtain ⟨ret, server1⟩ := ping
    cases ret with
    | sent =>
      refine hcheck _ (hwrite.trans (fades_modifyConnection ?_ server1 a))
      exact fun _ => .inl ⟨rfl, rfl⟩
    | notSent =>
      dsimp only at hwrite ⊢
      split
      · exact hwrite.trans (fades_killAccepted env server1 a)
      · exact hcheck _ hwrite
    | failed =>
      dsimp only at hwrite ⊢
      split
      · exact hwrite.trans (fades_killAccepted env server1 a)
      · exact hcheck _ hwrite
  · exact hcheck _ (.refl server)

theorem fades_replyTo (env : TCPServerEnv) (server : TCPServer) (packetId : UInt8) (conId : Nat)
    (identifier : UInt64) (data : Bytes) :
    Fades server (server.replyTo env packetId conId identifier data) := by
  rw [replyTo]
  split
  · exact .refl server
  split
  · exact .refl server
  · exact fades_writePacket env server _ _ _

/-! ## Accepting a connection -/

theorem fades_allocNewConnections (env : TCPServerEnv) (server : TCPServer) (num : Nat) :
    Fades server (server.allocNewConnections env num).2 := by
  refine .ite (.refl server) (.ite (.refl server) ⟨rfl, fun i x hx => ?_, fun hw con hmem hstatus => ?_⟩)
  · obtain ⟨con, hcon, hstatus, rfl⟩ := identifierAt_eq_some.mp hx
    by_cases hi : i < server.acceptedConnectionArray.length
    · rw [getElem?_append_left hi] at hcon
      exact identifierAt_eq_some.mpr ⟨con, hcon, hstatus, rfl⟩
    · rw [getElem?_append_right (Nat.le_of_not_lt hi)] at hcon
      rw [eq_of_mem_replicate (mem_of_getElem? hcon)] at hstatus
      exact absurd rfl hstatus
  · cases mem_append.mp hmem with
    | inl hmem => exact hw con hmem hstatus
    | inr hmem =>
      rw [eq_of_mem_replicate hmem]
      rfl

theorem fades_placeAccepted (env : TCPServerEnv) (server : TCPServer) :
    Fades server (server.placeAccepted env).2 := by
  rw [placeAccepted]
  split
  · have halloc := fades_allocNewConnections env server 4
    generalize server.allocNewConnections env 4 = alloc at halloc ⊢
    obtain ⟨ok, server1⟩ := alloc
    cases ok with
    | false => exact halloc
    | true => exact halloc
  · exact .refl server

theorem fades_killOld (env : TCPServerEnv) (server : TCPServer) (publicKey : PublicKey) :
    Fades server (server.killOld env publicKey) := by
  rw [killOld]
  split
  · exact fades_killAccepted env server _
  · exact .refl server

/-- A connection was accepted in the place `index`. -/
structure Accepts (server : TCPServer) (index : Nat) (server' : TCPServer) : Prop where
  counter : server'.counter = server.counter + 1
  identifierAt_self : ∀ x, server'.identifierAt index = some x → x = server.counter + 1
  identifierAt_of_ne : ∀ i x, i ≠ index → server'.identifierAt i = some x → server.identifierAt i = some x
  wiped : server.Wiped → server'.Wiped

theorem Accepts.trans_fades {index : Nat} {s1 s2 s3 : TCPServer} (h : Accepts s1 index s2)
    (h' : Fades s2 s3) : Accepts s1 index s3 :=
  ⟨h'.counter.trans h.counter, fun x hx => h.identifierAt_self x (h'.identifierAt index x hx),
    fun i x hi hx => h.identifierAt_of_ne i x hi (h'.identifierAt i x hx),
    fun hw => h'.wiped (h.wiped hw)⟩

theorem addAccepted_cases (env : TCPServerEnv) (server : TCPServer) (con : TCPSecureConnection) :
    match (server.addAccepted env con).1 with
    | none => Fades server (server.addAccepted env con).2
    | some index => Accepts server index (server.addAccepted env con).2 := by
  have hplace := (fades_killOld env server con.publicKey).trans
    (fades_placeAccepted env (server.killOld env con.publicKey))
  rw [addAccepted]
  generalize (server.killOld env con.publicKey).placeAccepted env = place at hplace ⊢
  obtain ⟨_ | index, server1⟩ := place
  · exact hplace
  cases hmemory : env.listMemory with
  | false => exact hplace
  | true =>
    simp only [Bool.not_true, Bool.false_eq_true, if_false]
    generalize server1.acceptedKeyList.bsListAdd con.publicKey.toList index = added
    obtain ⟨_ | _, acceptedKeyList⟩ := added
    · exact hplace
    refine ⟨by rw [← hplace.counter], fun x hx => ?_, fun i x hi hx => ?_, fun hw con' hmem hstatus => ?_⟩
    · obtain ⟨con', hcon', hstatus, rfl⟩ := identifierAt_eq_some.mp hx
      rw [getElem?_set_self'] at hcon'
      obtain ⟨_, -, rfl⟩ := Option.map_eq_some_iff.mp hcon'
      rw [← hplace.counter]
      rfl
    · apply hplace.identifierAt i x
      obtain ⟨con', hcon', hstatus, rfl⟩ := identifierAt_eq_some.mp hx
      rw [getElem?_set_ne (Ne.symm hi)] at hcon'
      exact identifierAt_eq_some.mpr ⟨con', hcon', hstatus, rfl⟩
    · cases mem_or_eq_of_mem_set hmem with
      | inl hmem => exact hplace.wiped hw con' hmem hstatus
      | inr hnew =>
        rw [hnew] at hstatus
        cases hstatus

theorem confirmTCPConnection_cases (env : TCPServerEnv) (server : TCPServer)
    (con : TCPSecureConnection) (data : Bytes) :
    match (server.addAccepted env con).1 with
    | none => Fades server (server.confirmTCPConnection env con data).2
    | some index => Accepts server index (server.confirmTCPConnection env con data).2 := by
  have hadd := addAccepted_cases env server con
  rw [confirmTCPConnection]
  generalize server.addAccepted env con = added at hadd ⊢
  obtain ⟨_ | index, server1⟩ := added
  · exact hadd
  dsimp only at hadd ⊢
  have hhandled := hadd.trans_fades (fades_handleTCPPacket env server1 index data)
  generalize server1.handleTCPPacket env index data = handled at hhandled ⊢
  obtain ⟨_ | _, server2⟩ := handled
  · exact hhandled.trans_fades (fades_killAccepted env server2 index)
  · exact hhandled

def acceptedAt (env : TCPServerEnv) (server : TCPServer) : Input → Option Nat
  | .unconfirmed i (.packet _) =>
    let conn := server.unconfirmedConnectionQueue i
    if conn.status ≠ .unconfirmed then none
    else
      (({ server with
        unconfirmedConnectionQueue :=
          Function.update server.unconfirmedConnectionQueue i zeroSecureConnection } :
        TCPServer).addAccepted env conn).1
  | _ => none

theorem apply_cases (env : TCPServerEnv) (server : TCPServer) (input : Input) :
    match server.acceptedAt env input with
    | none => Fades server (server.apply env input)
    | some index => Accepts server index (server.apply env input) := by
  cases input with
  | accept ready =>
    show Fades server (server.acceptConnection ready)
    rw [acceptConnection]
    split
    · exact .refl server
    · exact .of_array rfl rfl
  | incoming i read =>
    show Fades server (server.doIncoming i read)
    unfold doIncoming
    dsimp only
    split
    · exact .refl server
    split
    · exact .refl server
    · exact .of_array rfl rfl
    · exact .of_array rfl rfl
  | unconfirmed i read =>
    rw [TCPServer.apply, doUnconfirmed]
    cases read with
    | nothing =>
      show Fades server (if _ then server else server)
      split
      · exact .refl server
      · exact .refl server
    | failed =>
      show Fades server (if _ then server else _)
      split
      · exact .refl server
      · exact .of_array rfl rfl
    | packet data =>
      by_cases hstatus : (server.unconfirmedConnectionQueue i).status ≠ .unconfirmed
      · simp only [acceptedAt, if_pos hstatus]
        exact .refl server
      · simp only [acceptedAt, if_neg hstatus]
        have hwiped : Fades server { server with
            unconfirmedConnectionQueue :=
              Function.update server.unconfirmedConnectionQueue i zeroSecureConnection } :=
          .of_array rfl rfl
        have hconfirm := confirmTCPConnection_cases env { server with
            unconfirmedConnectionQueue :=
              Function.update server.unconfirmedConnectionQueue i zeroSecureConnection }
          (server.unconfirmedConnectionQueue i) data
        split at hconfirm
        · exact hwiped.trans hconfirm
        · exact ⟨hconfirm.counter, hconfirm.identifierAt_self, hconfirm.identifierAt_of_ne, hconfirm.wiped⟩
  | confirmed i => exact fades_doTCPConfirmed env server i
  | packet i read =>
    show Fades server (if _ then _ else server)
    split
    · exact fades_tcpProcessSecurePacket env server i read
    · exact .refl server
  | killIncoming i => exact .of_array rfl rfl
  | killUnconfirmed i => exact .of_array rfl rfl
  | kill i => exact fades_killAccepted env server i
  | onion conId identifier data => exact fades_replyTo env server _ _ _ _
  | forward conId identifier data => exact fades_replyTo env server _ _ _ _

end TCPServer

/-! ## Numbered connections -/

structure CountedServer where
  server : TCPServer
  /-- How many connections were accepted. -/
  total : Nat
  /-- The number of the last connection that was accepted in a place. -/
  serial : Nat → Nat

namespace CountedServer

def apply (env : TCPServerEnv) (s : CountedServer) (input : TCPServer.Input) : CountedServer :=
  match s.server.acceptedAt env input with
  | none => { s with server := s.server.apply env input }
  | some index =>
    { server := s.server.apply env input
      total := s.total + 1
      serial := Function.update s.serial index (s.total + 1) }

def system : TransitionSystem CountedServer where
  init s := s.server = newTCPServer ∧ s.total = 0
  step s s' := ∃ env input, s' = s.apply env input

/-- The identifiers are the numbers, modulo `2 ^ 64`. -/
structure Counted (s : CountedServer) : Prop where
  counter : s.server.counter = UInt64.ofNat s.total
  wiped : s.server.Wiped
  serial : ∀ i x, s.server.identifierAt i = some x →
    x = UInt64.ofNat (s.serial i) ∧ 1 ≤ s.serial i ∧ s.serial i ≤ s.total

theorem Counted.apply {s : CountedServer} (h : s.Counted) (env : TCPServerEnv)
    (input : TCPServer.Input) : (s.apply env input).Counted := by
  have hcases := s.server.apply_cases env input
  rw [CountedServer.apply]
  split at hcases
  · exact ⟨hcases.counter.trans h.counter, hcases.wiped h.wiped,
      fun i x hx => h.serial i x (hcases.identifierAt i x hx)⟩
  · rename_i index _
    have hnext : s.server.counter + 1 = UInt64.ofNat (s.total + 1) := by
      rw [h.counter, UInt64.ofNat_add]
      rfl
    refine ⟨hcases.counter.trans hnext, hcases.wiped h.wiped, fun i x hx => ?_⟩
    dsimp only at hx ⊢
    by_cases hi : i = index
    · subst hi
      rw [Function.update_self]
      exact ⟨(hcases.identifierAt_self x hx).trans hnext, by omega, le_refl _⟩
    · rw [Function.update_of_ne hi]
      obtain ⟨hx', hpos, hle⟩ := h.serial i x (hcases.identifierAt_of_ne i x hi hx)
      exact ⟨hx', hpos, by omega⟩

theorem counted_of_reachable {s : CountedServer} (h : system.Reachable s) : s.Counted := by
  refine h.invariant (fun s hinit => ?_) (fun s s' hs hstep => ?_)
  · obtain ⟨hserver, htotal⟩ := hinit
    refine ⟨?_, ?_, fun i x hx => ?_⟩
    · rw [hserver, htotal]
      rfl
    · rw [hserver]
      exact fun con hmem => (nomatch hmem)
    · rw [hserver] at hx
      exact nomatch hx
  · obtain ⟨env, input, rfl⟩ := hstep
    exact hs.apply env input

/-- The connection with the number `n` is in the place `i`. -/
def Connected (s : CountedServer) (i n : Nat) : Prop :=
  (s.server.identifierAt i).isSome ∧ s.serial i = n

theorem Counted.identifier_eq_iff {s : CountedServer} (h : s.Counted) (htotal : s.total < 2 ^ 64)
    {i n : Nat} (hpos : 1 ≤ n) (hn : n < 2 ^ 64) {con : TCPSecureConnection}
    (hcon : s.server.acceptedConnectionArray[i]? = some con) :
    con.identifier = UInt64.ofNat n ↔ s.Connected i n := by
  by_cases hstatus : con.status = .noStatus
  · have hzero := h.wiped con (mem_of_getElem? hcon) hstatus
    have hnone : s.server.identifierAt i = none := by
      rw [TCPServer.identifierAt, hcon, Option.bind_some, if_pos hstatus]
    have hne : UInt64.ofNat n ≠ 0 := by
      intro heq
      have htoNat := congrArg UInt64.toNat heq
      rw [UInt64.toNat_ofNat'] at htoNat
      simp only [UInt64.toNat_zero] at htoNat
      omega
    rw [Connected, hnone, hzero]
    exact ⟨fun heq => absurd heq.symm hne, fun hc => nomatch hc.1⟩
  · have hsome : s.server.identifierAt i = some con.identifier :=
      TCPServer.identifierAt_eq_some.mpr ⟨con, hcon, hstatus, rfl⟩
    obtain ⟨hx, -, hle⟩ := h.serial i con.identifier hsome
    rw [Connected, hsome, hx]
    constructor
    · intro heq
      have htoNat := congrArg UInt64.toNat heq
      rw [UInt64.toNat_ofNat', UInt64.toNat_ofNat', Nat.mod_eq_of_lt hn, Nat.mod_eq_of_lt (by omega)] at htoNat
      exact ⟨rfl, htoNat⟩
    · intro hc
      rw [hc.2]

theorem total_apply (env : TCPServerEnv) (s : CountedServer) (input : TCPServer.Input) :
    s.total ≤ (s.apply env input).total := by
  rw [CountedServer.apply]
  split
  · exact le_refl _
  · exact Nat.le_succ _

theorem total_le_of_steps {s s' : CountedServer} (h : Relation.ReflTransGen system.step s s') :
    s.total ≤ s'.total := by
  induction h with
  | refl => exact le_refl _
  | tail _ hstep ih =>
    obtain ⟨env, input, rfl⟩ := hstep
    exact ih.trans (total_apply env _ input)

theorem reachable_of_steps {s s' : CountedServer} (hs : system.Reachable s)
    (h : Relation.ReflTransGen system.step s s') : system.Reachable s' := by
  induction h with
  | refl => exact hs
  | tail _ hstep ih => exact ih.step hstep

/-! ## Two connections with one identifier -/

section wrap

open TCPServer (workingEnv)

def idle (incoming unconfirmed : UInt16) (counter : UInt64) : TCPServer :=
  { newTCPServer with
    incomingConnectionQueueIndex := incoming
    unconfirmedConnectionQueueIndex := unconfirmed
    counter }

def onlyConnection (publicKey : PublicKey) (identifier : UInt64) : TCPSecureConnection :=
  { zeroSecureConnection with
    publicKey
    status := .confirmed
    identifier
    lastPinged := workingEnv.now }

def serving (incoming unconfirmed : UInt16) (counter : UInt64) (publicKey : PublicKey) : TCPServer :=
  { idle incoming unconfirmed counter with
    acceptedConnectionArray := [onlyConnection publicKey counter, zeroSecureConnection,
      zeroSecureConnection, zeroSecureConnection]
    numAcceptedConnections := 1
    acceptedKeyList := ⟨[(publicKey.toList, 0)]⟩ }

variable {a b : UInt16} {c : UInt64} (publicKey : PublicKey)

def greeted (a b : UInt16) (c : UInt64) (publicKey : PublicKey) : TCPServer :=
  { idle (a + 1) (b + 1) c with
    unconfirmedConnectionQueue := Function.update (fun _ => zeroSecureConnection)
      (b.toNat % maxIncomingConnections) { zeroSecureConnection with publicKey, status := .unconfirmed } }

theorem apply_accept_incoming :
    ((idle a b c).apply workingEnv (.accept true)).apply workingEnv
      (.incoming (a.toNat % maxIncomingConnections) (.handled publicKey)) = greeted a b c publicKey := by
  simp [TCPServer.apply, TCPServer.acceptConnection, TCPServer.doIncoming, idle, greeted, newTCPServer,
    zeroSecureConnection, TCPSecureConnection.wipe]

def firstPacket : Bytes := [tcpPacketConnectionNotification, 0]

theorem addAccepted_idle :
    (idle (a + 1) (b + 1) c).addAccepted workingEnv
      { zeroSecureConnection with publicKey, status := .unconfirmed } =
      (some 0, serving (a + 1) (b + 1) (c + 1) publicKey) := rfl

theorem apply_unconfirmed :
    (greeted a b c publicKey).apply workingEnv
      (.unconfirmed (b.toNat % maxIncomingConnections) (.packet firstPacket)) =
      serving (a + 1) (b + 1) (c + 1) publicKey ∧
    (greeted a b c publicKey).acceptedAt workingEnv
      (.unconfirmed (b.toNat % maxIncomingConnections) (.packet firstPacket)) = some 0 := by
  have hconn : (greeted a b c publicKey).unconfirmedConnectionQueue (b.toNat % maxIncomingConnections) =
      { zeroSecureConnection with publicKey, status := .unconfirmed } := by
    simp [greeted]
  have hwiped : ({ greeted a b c publicKey with
      unconfirmedConnectionQueue := Function.update
        (greeted a b c publicKey).unconfirmedConnectionQueue (b.toNat % maxIncomingConnections)
        zeroSecureConnection } : TCPServer) = idle (a + 1) (b + 1) c := by
    simp [greeted, idle, newTCPServer]
  constructor
  · simp only [TCPServer.apply, TCPServer.doUnconfirmed, hconn, hwiped, ne_eq, not_true_eq_false,
      if_false, TCPServer.confirmTCPConnection, addAccepted_idle]
    rfl
  · simp only [TCPServer.acceptedAt, hconn, hwiped, ne_eq, not_true_eq_false, if_false, addAccepted_idle]

theorem apply_kill (a b : UInt16) (c : UInt64) :
    (serving a b c publicKey).apply workingEnv (.kill 0) = idle a b c := by
  have hslots : ∀ n, (serving a b c publicKey).rmConnectionIndices workingEnv 0 n =
      serving a b c publicKey := by
    intro n
    induction n with
    | zero => rfl
    | succ n ih =>
      rw [TCPServer.rmConnectionIndices, ih, TCPServer.rmConnectionIndex]
      split
      · rfl
      · rfl
  have hremove : (⟨[(publicKey.toList, 0)]⟩ : BSList).bsListRemove publicKey.toList 0 =
      (true, BSList.empty) := by
    have hcmp : ∀ data : Bytes, memcmp data data = .eq := by
      intro data
      induction data with
      | nil => rfl
      | cons byte data ih => simp [memcmp, ih]
    simp [BSList.bsListRemove, BSList.find, BSList.n, BSList.findLoop, hcmp, BSList.empty]
  show ((serving a b c publicKey).killAccepted workingEnv 0).2 = idle a b c
  rw [TCPServer.killAccepted, if_neg (show ¬(serving a b c publicKey).acceptedConnectionArray.length ≤ 0
    from Nat.not_succ_le_zero 3), hslots, TCPServer.delAccepted]
  show (if _ then _ else _ : Bool × TCPServer).2 = _
  rw [show (serving a b c publicKey).acceptedKeyList.bsListRemove
    (onlyConnection publicKey c).publicKey.toList 0 = (true, BSList.empty) from hremove]
  rfl

variable {s : CountedServer}

theorem steps_serving (hs : s.server = idle a b c) : ∃ s',
    Relation.ReflTransGen system.step s s' ∧ s'.server = serving (a + 1) (b + 1) (c + 1) publicKey ∧
      s'.total = s.total + 1 ∧ s'.serial 0 = s.total + 1 := by
  obtain ⟨hserving, haccepted⟩ := apply_unconfirmed (a := a) (b := b) (c := c) publicKey
  have hgreeted := apply_accept_incoming (a := a) (b := b) (c := c) publicKey
  let s1 := s.apply workingEnv (.accept true)
  let s2 := s1.apply workingEnv (.incoming (a.toNat % maxIncomingConnections) (.handled publicKey))
  have hs2 : s2.server = greeted a b c publicKey := by
    rw [← hgreeted, ← hs]
    rfl
  let s3 := s2.apply workingEnv (.unconfirmed (b.toNat % maxIncomingConnections) (.packet firstPacket))
  have hs3 : s3 =
      { server := serving (a + 1) (b + 1) (c + 1) publicKey
        total := s.total + 1
        serial := Function.update s.serial 0 (s.total + 1) } := by
    show (match s2.server.acceptedAt workingEnv _ with | none => _ | some _ => _ : CountedServer) = _
    rw [hs2, haccepted, ← hserving]
    rfl
  refine ⟨s3, ?_, by rw [hs3], by rw [hs3], by simp [hs3]⟩
  exact ((Relation.ReflTransGen.single ⟨workingEnv, _, rfl⟩).tail ⟨workingEnv, _, rfl⟩).tail
    ⟨workingEnv, _, rfl⟩

theorem steps_idle (hs : s.server = serving a b c publicKey) : ∃ s',
    Relation.ReflTransGen system.step s s' ∧ s'.server = idle a b c ∧ s'.total = s.total := by
  refine ⟨s.apply workingEnv (.kill 0), .single ⟨workingEnv, _, rfl⟩, ?_, rfl⟩
  rw [← apply_kill publicKey a b c, ← hs]
  rfl

theorem steps_visits (n : Nat) (hs : s.server = idle a b c) : ∃ s' a' b',
    Relation.ReflTransGen system.step s s' ∧ s'.server = idle a' b' (c + UInt64.ofNat n) ∧
      s'.total = s.total + n := by
  induction n with
  | zero => exact ⟨s, a, b, .refl, by simpa using hs, rfl⟩
  | succ n ih =>
    obtain ⟨s1, a1, b1, hsteps1, hserver1, htotal1⟩ := ih
    obtain ⟨s2, hsteps2, hserver2, htotal2, -⟩ := steps_serving (key 2) hserver1
    obtain ⟨s3, hsteps3, hserver3, htotal3⟩ := steps_idle (key 2) hserver2
    refine ⟨s3, a1 + 1, b1 + 1, (hsteps1.trans hsteps2).trans hsteps3, ?_, by omega⟩
    rw [hserver3, UInt64.ofNat_add, ← UInt64.add_assoc]
    rfl

theorem exists_same_identifier : ∃ s s', system.Reachable s ∧
    Relation.ReflTransGen system.step s s' ∧
    s.server.acceptedConnectionArray[0]? = some (onlyConnection (key 1) 1) ∧ s.Connected 0 1 ∧
    s'.server.acceptedConnectionArray[0]? = some (onlyConnection (key 2) 1) ∧ ¬s'.Connected 0 1 := by
  let s0 : CountedServer := { server := newTCPServer, total := 0, serial := fun _ => 0 }
  obtain ⟨s1, hsteps1, hserver1, htotal1, hserial1⟩ :=
    steps_serving (key 1) (show s0.server = idle 0 0 0 from rfl)
  obtain ⟨s2, hsteps2, hserver2, htotal2⟩ := steps_idle (key 1) hserver1
  obtain ⟨s3, a, b, hsteps3, hserver3, htotal3⟩ := steps_visits (2 ^ 64 - 1) hserver2
  obtain ⟨s4, hsteps4, hserver4, -, hserial4⟩ := steps_serving (key 2) hserver3
  have hcounter : (0 + 1 + UInt64.ofNat (2 ^ 64 - 1) + 1 : UInt64) = 1 := by decide
  have hreachable := reachable_of_steps (s := s0) (.init ⟨rfl, rfl⟩) hsteps1
  refine ⟨s1, s4, hreachable, (hsteps2.trans hsteps3).trans hsteps4, by rw [hserver1]; rfl, ?_,
    by rw [hserver4]; rfl, ?_⟩
  · refine ⟨?_, hserial1⟩
    rw [hserver1]
    rfl
  · intro hconnected
    have hserial := hconnected.2
    omega

end wrap

end CountedServer

end Toxcore

import Toxcore.Spec.NetCryptoFrame

/-!
# Steps of a `Net_Crypto`

The inputs that a `Net_Crypto` reacts to, and what one step can do to the handshake part
of a connection (`KeyChange`).  The invariants about keys are derived from `step_keyChange`
and `step_accepted` alone.
-/

namespace Toxcore

open List

namespace KeyState

def decode (k : KeyState) (nC : NewConnection) : KeyState :=
  { k with recvNonce := nC.recvNonce, peerSessionPublicKey := nC.peerSessionPublicKey }

def rekey (k : KeyState) (box : CryptoBox) (nC : NewConnection) : KeyState :=
  { k.decode nC with
    sharedKey := box.encryptPrecompute nC.peerSessionPublicKey k.sessionSecretKey k.sharedKey }

def ofHandshake (box : CryptoBox) (nC : NewConnection) (sessionSecretKey : SecretKey)
    (buffer : SharedKey) : KeyState where
  publicKey := nC.publicKey
  dhtPublicKey := nC.dhtPublicKey
  peerSessionPublicKey := nC.peerSessionPublicKey
  sessionSecretKey := sessionSecretKey
  sharedKey := box.encryptPrecompute nC.peerSessionPublicKey sessionSecretKey buffer
  recvNonce := nC.recvNonce
  status := .notConfirmed

end KeyState

namespace NetCrypto

inductive Input where
  | newConnection (realPublicKey dhtPublicKey : PublicKey)
  | setDirectIpPort (id : Nat) (ipPort : IPPort) (connected : Bool)
  | kill (id : Nat)
  | killTimedout
  | sendTempPacket (id : Nat)
  | api (id : Nat) (call : Peer.ApiCall)
  | udpCookieRequest (packet : CookieRequest)
  | udpPacket (source : IPPort) (packet : Packet)
  | tcpPacket (id : Nat) (packet : Packet)
  | tcpOobPacket (publicKey : PublicKey) (source : IPPort) (packet : Packet)

def step (box : CryptoBox) (env : Env) (c : NetCrypto) : Input → NetCrypto
  | .newConnection realPublicKey dhtPublicKey =>
    (c.newCryptoConnection box env realPublicKey dhtPublicKey).2
  | .setDirectIpPort id ipPort connected => c.setDirectIpPort env id ipPort connected
  | .kill id => c.cryptoKill env id
  | .killTimedout => c.killTimedout env
  | .sendTempPacket id => (c.sendTempPacket env id).2
  | .api id call => c.connectionApi id call
  | .udpCookieRequest packet => c.udpHandleCookieRequest box env packet
  | .udpPacket source packet => c.udpHandlePacket box env source packet
  | .tcpPacket id packet => c.tcpDataCallback box env id packet
  | .tcpOobPacket publicKey source packet => c.tcpOobCallback box env publicKey source packet

/-- A `Net_Crypto` after `new_net_crypto`. -/
structure Fresh (c : NetCrypto) : Prop where
  cryptoConnections : c.cryptoConnections = []
  ipPortList : c.ipPortList = .empty
  trace : c.trace = ⟨[], [], [], [], []⟩

variable {box : CryptoBox} {env : Env} {c c' : NetCrypto} {id : Nat} {conn : CryptoConnection} {k : KeyState}

/-! ## Handshakes that arrive -/

/-- The input hands the handshake to `handle_packet_crypto_hs` for a connection. -/
def DeliversHs (c : NetCrypto) (input : Input) (id : Nat) (packet : Handshake) : Prop :=
  (∃ source, input = .udpPacket source (.cryptoHs packet) ∧ c.cryptoIdIpPort source = some id) ∨
    input = .tcpPacket id (.cryptoHs packet)

/-- The input hands the handshake to `handle_new_connection_handshake`. -/
def DeliversNew (c : NetCrypto) (input : Input) (source : IPPort) (packet : Handshake) : Prop :=
  (input = .udpPacket source (.cryptoHs packet) ∧ c.cryptoIdIpPort source = none) ∨
    ∃ publicKey, input = .tcpOobPacket publicKey source (.cryptoHs packet)

/-- `handle_packet_crypto_hs` decodes a handshake for the connection. -/
def DecodesFor (box : CryptoBox) (env : Env) (c : NetCrypto) (input : Input)
    (conn : CryptoConnection) (nC : NewConnection) : Prop :=
  ∃ id packet, c.DeliversHs input id packet ∧ c.getCryptoConnection id = some conn ∧
    (conn.status = .cookieRequesting ∨ conn.status = .handshakeSent ∨ conn.status = .notConfirmed) ∧
    c.handleCryptoHandshake box env.now emptyIpPort packet (some conn.publicKey) = some nC

/-- `handle_new_connection_handshake` decodes a handshake. -/
def DecodesNew (box : CryptoBox) (env : Env) (c : NetCrypto) (input : Input) (nC : NewConnection) : Prop :=
  ∃ source packet, c.DeliversNew input source packet ∧
    c.handleCryptoHandshake box env.now source packet none = some nC

/-! ## Changes of the handshake part -/

/-- What a step makes of the handshake part, with its trace. `Hs` and `New` are the handshakes decoded in it. -/
inductive KeyChange (box : CryptoBox) (env : Env) (c : NetCrypto) (trace : Trace)
    (Hs : CryptoConnection → NewConnection → Prop) (New : NewConnection → Prop) : KeyState → Prop
  | kept {k : KeyState} (h : k ∈ c.keyStates) : KeyChange box env c trace Hs New k
  | idle {k : KeyState} (h : k.status = .free ∨ k.status = .noConnection) : KeyChange box env c trace Hs New k
  | requesting {k : KeyState} (hs : k.status = .cookieRequesting)
      (hk : box.beforenm k.dhtPublicKey c.dhtSelfSecretKey = some k.sharedKey) :
      KeyChange box env c trace Hs New k
  | handshakeSent {k : KeyState} (h : k ∈ c.keyStates) (hs : k.status = .cookieRequesting) :
      KeyChange box env c trace Hs New { k with status := .handshakeSent }
  /-- `handle_packet_crypto_hs` with the DHT key of the connection. -/
  | confirmable {conn : CryptoConnection} {nC : NewConnection} (h : conn ∈ c.cryptoConnections)
      (hHs : Hs conn nC) (hacc : nC ∈ trace.accepted.map (·.connection))
      (hdht : nC.dhtPublicKey = conn.dhtPublicKey) :
      KeyChange box env c trace Hs New { conn.keyState.rekey box nC with status := .notConfirmed }
  /-- The same, when the answer could not be sent. -/
  | sendFailed {conn : CryptoConnection} {nC : NewConnection} (h : conn ∈ c.cryptoConnections)
      (hHs : Hs conn nC) (hdht : nC.dhtPublicKey = conn.dhtPublicKey)
      (hs : conn.status = .cookieRequesting) (hm : env.malloc = false) :
      KeyChange box env c trace Hs New (conn.keyState.rekey box nC)
  /-- `handle_packet_crypto_hs` with another DHT key. -/
  | otherDht {conn : CryptoConnection} {nC : NewConnection} (h : conn ∈ c.cryptoConnections)
      (hHs : Hs conn nC) (hdht : nC.dhtPublicKey ≠ conn.dhtPublicKey) :
      KeyChange box env c trace Hs New (conn.keyState.decode nC)
  /-- `handle_new_connection_handshake` for an existing connection. -/
  | crossed {conn : CryptoConnection} {nC : NewConnection} (h : conn ∈ c.cryptoConnections)
      (hNew : New nC) (hacc : nC ∈ trace.accepted.map (·.connection))
      (hpk : nC.publicKey = conn.publicKey) (hdht : nC.dhtPublicKey = conn.dhtPublicKey)
      (hs : conn.status = .cookieRequesting ∨ conn.status = .handshakeSent) :
      KeyChange box env c trace Hs New { conn.keyState.rekey box nC with status := .notConfirmed }
  | crossedSendFailed {conn : CryptoConnection} {nC : NewConnection}
      (h : conn ∈ c.cryptoConnections) (hNew : New nC) (hpk : nC.publicKey = conn.publicKey)
      (hdht : nC.dhtPublicKey = conn.dhtPublicKey)
      (hs : conn.status = .cookieRequesting ∨ conn.status = .handshakeSent)
      (hm : env.malloc = false) :
      KeyChange box env c trace Hs New (conn.keyState.rekey box nC)
  | accepted {nC : NewConnection} (hNew : New nC)
      (hacc : nC ∈ trace.accepted.map (·.connection)) (ha : env.accept = true)
      (buffer : SharedKey) :
      KeyChange box env c trace Hs New (KeyState.ofHandshake box nC env.sessionSecretKey buffer)
  | data {k : KeyState} {packet : DataPacket} (h : k ∈ c.keyStates) (hp : packet ∈ trace.received)
      (n : Nat) (status : CryptoConnState)
      (hs : status = k.status ∨ k.status = .notConfirmed ∧ status = .established ∧
        packet.encrypted.key = k.sharedKey) :
      KeyChange box env c trace Hs New
        { k with
          recvNonce := k.recvNonce + BitVec.ofNat 192 (n * dataNumThreshold.toNat)
          status }

/-! ## Killing and creating connections -/

structure Idles (box : CryptoBox) (c c' : NetCrypto) : Prop where
  frame : Frame box c c'
  accepted : c'.trace.accepted = c.trace.accepted
  keyStates : ∀ k ∈ c'.keyStates, k ∈ c.keyStates ∨ k.status = .free ∨ k.status = .noConnection

theorem Quiet.idles (h : Quiet box c c') : Idles box c c' :=
  ⟨h.frame, h.accepted, fun k hk => .inl (by rwa [h.keyStates] at hk)⟩

theorem Idles.trans {c'' : NetCrypto} (h1 : Idles box c c') (h2 : Idles box c' c'') :
    Idles box c c'' := by
  refine ⟨h1.frame.trans h2.frame, h2.accepted.trans h1.accepted, fun k hk => ?_⟩
  rcases h2.keyStates k hk with h | h
  · exact h1.keyStates k h
  · exact .inr h

section

variable (box)

theorem idles_wipeCryptoConnection (c : NetCrypto) (id : Nat) :
    Idles box c (c.wipeCryptoConnection id) := by
  unfold wipeCryptoConnection
  split
  · exact (Quiet.refl box c).idles
  split
  · exact (Quiet.refl box c).idles
  refine ⟨.of_trace rfl rfl rfl rfl rfl rfl rfl rfl, rfl, fun k hk => ?_⟩
  obtain ⟨conn, hconn, rfl⟩ := mem_map.mp hk
  rcases mem_or_eq_of_mem_set (( rdropWhile_prefix _ _).subset hconn) with h | h
  · exact .inl (mem_map_of_mem h)
  · rw [h]
    exact .inr (.inl rfl)

theorem idles_cryptoKill (c : NetCrypto) (env : Env) (id : Nat) :
    Idles box c (c.cryptoKill env id) := by
  unfold cryptoKill
  split
  · exact (Quiet.refl box c).idles
  · have hlist : ∀ list packets,
        Quiet box c (({ c with ipPortList := list } : NetCrypto).addSent packets) :=
      fun _ _ => ⟨.of_trace rfl rfl rfl rfl rfl rfl rfl rfl, rfl, rfl⟩
    exact (hlist _ _).idles.trans (idles_wipeCryptoConnection box _ id)

theorem idles_killTimedoutLoop (env : Env) (count id : Nat) (c : NetCrypto) :
    Idles box c (killTimedoutLoop env count id c) := by
  induction count generalizing id c with
  | zero => exact (Quiet.refl box c).idles
  | succ count ih =>
    rw [killTimedoutLoop]
    split
    · exact ih (id + 1) c
    split
    · exact (idles_cryptoKill box c env id).trans (ih (id + 1) _)
    · exact ih (id + 1) c

theorem idles_createCryptoConnection {c : NetCrypto} {env : Env}
    (h : c.createCryptoConnection env = some (id, c')) :
    Idles box c c' ∧ c'.trace = c.trace ∧
      ∃ conn, c'.cryptoConnections[id]? = some conn ∧ conn.status = .noConnection := by
  unfold createCryptoConnection at h
  split at h
  · split at h
    · cases h
    rename_i conn hconn
    cases h
    refine ⟨⟨frame_setConnection _ _ _, rfl, fun k hk => ?_⟩, rfl, _,
      getElem?_set_self (List.getElem?_eq_some_iff.mp hconn).1, rfl⟩
    rcases mem_keyStates_setConnection hk with h | h
    · exact .inl h
    · rw [h]
      exact .inr (.inr rfl)
  · split at h
    · cases h
    cases h
    refine ⟨⟨.of_trace rfl rfl rfl rfl rfl rfl rfl rfl, rfl, fun k hk => ?_⟩, rfl, _,
      getElem?_concat_length, rfl⟩
    simp only [keyStates, map_append, map_singleton, mem_append, mem_singleton] at hk
    rcases hk with h | h
    · exact .inl h
    · rw [h]
      exact .inr (.inr rfl)

end

theorem keyStates_setConnection (c : NetCrypto) (id : Nat) (conn : CryptoConnection) :
    (c.setConnection id conn).keyStates = c.keyStates.set id conn.keyState :=
  map_set

theorem mem_keyStates_wipeCryptoConnection (h : c.cryptoConnections[id]? = some conn)
    (hs : conn.status ≠ .free) (hk : k ∈ (c.wipeCryptoConnection id).keyStates) :
    k ∈ c.keyStates.set id emptyCryptoConnection.keyState := by
  simp only [wipeCryptoConnection, h, if_neg hs] at hk
  obtain ⟨conn', hconn', rfl⟩ := mem_map.mp hk
  have hmem := mem_map_of_mem (f := CryptoConnection.keyState) (( rdropWhile_prefix _ _).subset hconn')
  rwa [map_set] at hmem

theorem acceptCryptoConnection_spec (box : CryptoBox) (c : NetCrypto) (env : Env) (nC : NewConnection) :
    Frame box c (c.acceptCryptoConnection box env nC).2 ∧
      (c.acceptCryptoConnection box env nC).2.trace.accepted = c.trace.accepted ∧
      ∀ k ∈ (c.acceptCryptoConnection box env nC).2.keyStates, k ∈ c.keyStates ∨
        (k.status = .free ∨ k.status = .noConnection) ∨
        ∃ buffer, k = KeyState.ofHandshake box nC env.sessionSecretKey buffer := by
  have hidle : ∀ {c' : NetCrypto}, Idles box c c' → Frame box c c' ∧
      c'.trace.accepted = c.trace.accepted ∧ ∀ k ∈ c'.keyStates, k ∈ c.keyStates ∨
        (k.status = .free ∨ k.status = .noConnection) ∨
        ∃ buffer, k = KeyState.ofHandshake box nC env.sessionSecretKey buffer := by
    intro c' h
    refine ⟨h.frame, h.accepted, fun k hk => ?_⟩
    rcases h.keyStates k hk with h | h
    · exact .inl h
    · exact .inr (.inl h)
  unfold acceptCryptoConnection
  split
  · exact hidle (Quiet.refl box c).idles
  split
  · exact hidle (Quiet.refl box c).idles
  rename_i id c1 hcreate
  obtain ⟨h1, -, conn, hconn, hstatus⟩ := idles_createCryptoConnection box hcreate
  split
  · exact hidle (h1.trans (idles_wipeCryptoConnection box c1 id))
  rw [hconn]
  simp only
  have hlt := (List.getElem?_eq_some_iff.mp hconn).1
  generalize hconn2 : conn.openSession box env nC = conn2
  have hget2 : (c1.setConnection id conn2).cryptoConnections[id]? = some conn2 :=
    getElem?_set_self hlt
  have hsend := quiet_createSendHandshake box (c1.setConnection id conn2) env id nC.cookie nC.dhtPublicKey
  obtain ⟨conn3, hget3, hk3⟩ := hsend.exists_conn hget2
  have hframe := h1.frame.trans ((frame_setConnection c1 id conn2).trans hsend.frame)
  have hacc := hsend.accepted.trans h1.accepted
  -- whatever is written to the slot, the other connections are those of `c`
  have hother : ∀ k k4 : KeyState, k ∈ c1.keyStates.set id k4 → k ∈ c.keyStates ∨
      (k.status = .free ∨ k.status = .noConnection) ∨ k = k4 := by
    intro k k4 hk
    rcases mem_or_eq_of_mem_set hk with h | h
    · rcases h1.keyStates k h with h | h
      · exact .inl h
      · exact .inr (.inl h)
    · exact .inr (.inr h)
  split
  · rename_i c3 hres
    rw [hres] at hsend hget3 hframe hacc
    have hwipe := idles_wipeCryptoConnection box c3 id
    refine ⟨hframe.trans hwipe.frame, hwipe.accepted.trans hacc, fun k hk => ?_⟩
    have hs3 : conn3.status ≠ .free := by
      rw [show conn3.status = conn2.status from congrArg KeyState.status hk3, ← hconn2]
      exact nofun
    have hk := mem_keyStates_wipeCryptoConnection hget3 hs3 hk
    rw [hsend.keyStates, keyStates_setConnection, set_set] at hk
    rcases hother _ _ hk with h | h | h
    · exact .inl h
    · exact .inr (.inl h)
    · rw [h]
      exact .inr (.inl (.inl rfl))
  · rename_i c3 hres
    rw [hres] at hsend hget3 hframe hacc
    rw [hget3]
    simp only
    have hsrc := quiet_cryptoConnectionAddSource box (c3.setConnection id { conn3 with
      dhtPublicKey := nC.dhtPublicKey
      packetsLeft := cryptoMinQueueLength
      rttTime := defaultPingConnection }) env id nC.source
    refine ⟨hframe.trans ((frame_setConnection c3 id _).trans hsrc.frame),
      hsrc.accepted.trans hacc, fun k hk => ?_⟩
    rw [hsrc.keyStates, keyStates_setConnection, hsend.keyStates, keyStates_setConnection, set_set] at hk
    rcases hother _ _ hk with h | h | h
    · exact .inl h
    · exact .inr (.inl h)
    · refine .inr (.inr ⟨conn.sharedKey, ?_⟩)
      rw [h]
      have : ({ conn3 with
          dhtPublicKey := nC.dhtPublicKey
          packetsLeft := cryptoMinQueueLength
          rttTime := defaultPingConnection } : CryptoConnection).keyState =
        { conn3.keyState with dhtPublicKey := nC.dhtPublicKey } := rfl
      rw [this, hk3, ← hconn2]
      rfl

end NetCrypto

end Toxcore

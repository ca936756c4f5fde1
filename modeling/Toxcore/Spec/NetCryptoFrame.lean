import Toxcore.Native.NetCrypto
import Toxcore.Spec.TransportTrace

/-!
# What the functions of a `Net_Crypto` leave alone

`Frame` holds between the states before and after every function: the own keys stay, and
the trace only grows, by cookies and handshakes that are encrypted under the own keys.
`Quiet` says in addition that the handshake part of every connection stays as it is.
-/

namespace Toxcore.NetCrypto

open List

variable {box : CryptoBox} {env : Env} {c c' c'' : NetCrypto} {id : Nat}
  {conn conn' : CryptoConnection} {k : KeyState}

def keyStates (c : NetCrypto) : List KeyState := c.cryptoConnections.map CryptoConnection.keyState

structure Frame (box : CryptoBox) (c c' : NetCrypto) : Prop where
  dhtSelfSecretKey : c'.dhtSelfSecretKey = c.dhtSelfSecretKey
  selfPublicKey : c'.selfPublicKey = c.selfPublicKey
  selfSecretKey : c'.selfSecretKey = c.selfSecretKey
  secretSymmetricKey : c'.secretSymmetricKey = c.secretSymmetricKey
  cookies_subset : c.trace.cookies ⊆ c'.trace.cookies
  cookies_new : ∀ cookie ∈ c'.trace.cookies, cookie ∈ c.trace.cookies ∨ cookie.key = c.secretSymmetricKey
  handshakes_subset : c.trace.handshakes ⊆ c'.trace.handshakes
  handshakes_new : ∀ h ∈ c'.trace.handshakes, h ∈ c.trace.handshakes ∨
    h.packet.encrypted.key = box.encryptPrecompute h.peerRealPk c.selfSecretKey box.uninitialized
  accepted_subset : c.trace.accepted ⊆ c'.trace.accepted
  received_subset : c.trace.received ⊆ c'.trace.received

namespace Frame

@[refl] protected theorem refl (box : CryptoBox) (c : NetCrypto) : Frame box c c :=
  ⟨rfl, rfl, rfl, rfl, fun _ h => h, fun _ h => .inl h, fun _ h => h, fun _ h => .inl h,
    fun _ h => h, fun _ h => h⟩

protected theorem trans (h1 : Frame box c c') (h2 : Frame box c' c'') : Frame box c c'' where
  dhtSelfSecretKey := h2.dhtSelfSecretKey.trans h1.dhtSelfSecretKey
  selfPublicKey := h2.selfPublicKey.trans h1.selfPublicKey
  selfSecretKey := h2.selfSecretKey.trans h1.selfSecretKey
  secretSymmetricKey := h2.secretSymmetricKey.trans h1.secretSymmetricKey
  cookies_subset := List.Subset.trans h1.cookies_subset h2.cookies_subset
  cookies_new := by
    intro cookie hc
    rcases h2.cookies_new cookie hc with h | h
    · exact h1.cookies_new cookie h
    · exact .inr (h.trans h1.secretSymmetricKey)
  handshakes_subset := List.Subset.trans h1.handshakes_subset h2.handshakes_subset
  handshakes_new := by
    intro hs hc
    rcases h2.handshakes_new hs hc with h | h
    · exact h1.handshakes_new hs h
    · exact .inr (by rw [h, h1.selfSecretKey])
  accepted_subset := List.Subset.trans h1.accepted_subset h2.accepted_subset
  received_subset := List.Subset.trans h1.received_subset h2.received_subset

theorem of_trace (h1 : c'.dhtSelfSecretKey = c.dhtSelfSecretKey) (h2 : c'.selfPublicKey = c.selfPublicKey)
    (h3 : c'.selfSecretKey = c.selfSecretKey) (h4 : c'.secretSymmetricKey = c.secretSymmetricKey)
    (hc : c'.trace.cookies = c.trace.cookies) (hh : c'.trace.handshakes = c.trace.handshakes)
    (ha : c'.trace.accepted = c.trace.accepted) (hr : c'.trace.received = c.trace.received) :
    Frame box c c' :=
  ⟨h1, h2, h3, h4, by rw [hc]; exact fun _ h => h, by rw [hc]; exact fun _ h => .inl h,
    by rw [hh]; exact fun _ h => h, by rw [hh]; exact fun _ h => .inl h,
    by rw [ha]; exact fun _ h => h, by rw [hr]; exact fun _ h => h⟩

end Frame

structure Quiet (box : CryptoBox) (c c' : NetCrypto) : Prop where
  frame : Frame box c c'
  keyStates : c'.keyStates = c.keyStates
  accepted : c'.trace.accepted = c.trace.accepted

namespace Quiet

@[refl] protected theorem refl (box : CryptoBox) (c : NetCrypto) : Quiet box c c :=
  ⟨.refl box c, rfl, rfl⟩

protected theorem trans (h1 : Quiet box c c') (h2 : Quiet box c' c'') : Quiet box c c'' :=
  ⟨h1.frame.trans h2.frame, h2.keyStates.trans h1.keyStates, h2.accepted.trans h1.accepted⟩

theorem exists_conn (h : Quiet box c c') (hc : c.cryptoConnections[id]? = some conn) :
    ∃ conn', c'.cryptoConnections[id]? = some conn' ∧ conn'.keyState = conn.keyState := by
  have hk : (c'.keyStates)[id]? = some conn.keyState := by
    rw [h.keyStates, NetCrypto.keyStates, getElem?_map, hc]
    rfl
  rw [NetCrypto.keyStates, getElem?_map] at hk
  obtain ⟨conn', hc', he⟩ := Option.map_eq_some_iff.mp hk
  exact ⟨conn', hc', he⟩

end Quiet

/-! ## Connections -/

theorem getCryptoConnection_eq_some :
    c.getCryptoConnection id = some conn ↔ c.cryptoConnections[id]? = some conn ∧ conn.isValid := by
  unfold getCryptoConnection
  cases c.cryptoConnections[id]? with
  | none => simp
  | some conn0 =>
    by_cases h : conn0.isValid
    · simp only [h, if_true, Option.some.injEq]
      exact ⟨fun he => ⟨he, he ▸ h⟩, And.left⟩
    · simp only [h, Option.some.injEq]
      exact ⟨nofun, fun he => absurd (he.1 ▸ he.2) h⟩

theorem getcryptconnectionId_spec {publicKey : PublicKey} (h : c.getcryptconnectionId publicKey = some id) :
    ∃ conn, c.cryptoConnections[id]? = some conn ∧ conn.isValid ∧ publicKey = conn.publicKey := by
  obtain ⟨hlt, hp, -⟩ := findIdx?_eq_some_iff_getElem.mp h
  simp only [Bool.and_eq_true, beq_iff_eq] at hp
  exact ⟨_, getElem?_eq_getElem hlt, hp.1, hp.2⟩

theorem frame_setConnection (c : NetCrypto) (id : Nat) (conn : CryptoConnection) :
    Frame box c (c.setConnection id conn) :=
  .of_trace rfl rfl rfl rfl rfl rfl rfl rfl

theorem quiet_setConnection (h : c.cryptoConnections[id]? = some conn)
    (hk : conn'.keyState = conn.keyState) : Quiet box c (c.setConnection id conn') :=
  ⟨frame_setConnection c id conn', List.map_set_of_eq h hk, rfl⟩

theorem mem_keyStates_setConnection (h : k ∈ (c.setConnection id conn).keyStates) :
    k ∈ c.keyStates ∨ k = conn.keyState := by
  unfold keyStates setConnection at h
  rw [map_set] at h
  exact mem_or_eq_of_mem_set h

theorem mem_keyStates_of_getElem? (h : c.cryptoConnections[id]? = some conn) :
    conn.keyState ∈ c.keyStates :=
  mem_map_of_mem (mem_of_getElem? h)

/-! ## Functions that touch no keys -/

section

variable (box)

theorem quiet_addSent (c : NetCrypto) (packets : List Packet) : Quiet box c (c.addSent packets) :=
  ⟨.of_trace rfl rfl rfl rfl rfl rfl rfl rfl, rfl, rfl⟩

theorem quiet_newTempPacket (c : NetCrypto) (env : Env) (id : Nat) (packet : Packet) :
    Quiet box c (c.newTempPacket env id packet).2 := by
  unfold newTempPacket
  split
  · rfl
  rename_i conn hconn
  split
  · rfl
  · exact quiet_setConnection (getCryptoConnection_eq_some.mp hconn).1 rfl

theorem quiet_sendTempPacket (c : NetCrypto) (env : Env) (id : Nat) :
    Quiet box c (c.sendTempPacket env id).2 := by
  unfold sendTempPacket
  split
  · rfl
  rename_i conn hconn
  split
  · rfl
  split
  · rfl
  · exact quiet_setConnection (getCryptoConnection_eq_some.mp hconn).1 rfl

theorem quiet_createSendHandshake (c : NetCrypto) (env : Env) (id : Nat) (cookie : Cookie)
    (dhtPublicKey : PublicKey) :
    Quiet box c (c.createSendHandshake box env id cookie dhtPublicKey).2 := by
  unfold createSendHandshake
  split
  · rfl
  rename_i conn _
  simp only
  split
  · rename_i c1 hnew
    have := quiet_newTempPacket box c env id (.cryptoHs (c.createCryptoHandshake box env
      cookie conn.sentNonce conn.sessionPublicKey conn.publicKey dhtPublicKey).1)
    rw [hnew] at this
    exact this
  · rename_i c1 hnew
    have h1 := quiet_newTempPacket box c env id (.cryptoHs (c.createCryptoHandshake box env
      cookie conn.sentNonce conn.sessionPublicKey conn.publicKey dhtPublicKey).1)
    rw [hnew] at h1
    have h2 := h1.trans (quiet_sendTempPacket box c1 env id)
    refine h2.trans ⟨?_, rfl, rfl⟩
    refine ⟨rfl, rfl, rfl, rfl, subset_append_left _ _, ?_, subset_append_left _ _, ?_,
      fun _ h => h, fun _ h => h⟩
    · intro cookie' hc
      rcases mem_append.mp hc with h | h
      · exact .inl h
      · right
        rw [mem_singleton.mp h, h2.frame.secretSymmetricKey]
        rfl
    · intro hs hc
      rcases mem_append.mp hc with h | h
      · exact .inl h
      · right
        rw [mem_singleton.mp h, h2.frame.selfSecretKey]
        rfl

theorem quiet_setDirectLastrecvTime (c : NetCrypto) (id : Nat) (ipPort : IPPort) (time : UInt64) :
    Quiet box c (c.setDirectLastrecvTime id ipPort time) := by
  unfold setDirectLastrecvTime
  split
  · rfl
  rename_i conn hconn
  split <;> exact quiet_setConnection hconn rfl

theorem quiet_addIpPortConnection (c : NetCrypto) (id : Nat) (ipPort : IPPort) :
    Quiet box c (c.addIpPortConnection id ipPort).2 := by
  have hset : ∀ {conn conn' : CryptoConnection} (list : BSList),
      c.cryptoConnections[id]? = some conn → conn'.keyState = conn.keyState →
      Quiet box c { c.setConnection id conn' with ipPortList := list } := by
    intro conn conn' list h hk
    exact ⟨.of_trace rfl rfl rfl rfl rfl rfl rfl rfl, List.map_set_of_eq h hk, rfl⟩
  unfold addIpPortConnection
  split
  · rfl
  rename_i conn hconn
  have hconn := (getCryptoConnection_eq_some.mp hconn).1
  split
  · split
    · split
      · rfl
      · exact hset _ hconn rfl
    · rfl
  split
  · split
    · split
      · rfl
      · exact hset _ hconn rfl
    · rfl
  · rfl

theorem quiet_cryptoConnectionAddSource (c : NetCrypto) (env : Env) (id : Nat) (source : IPPort) :
    Quiet box c (c.cryptoConnectionAddSource env id source) := by
  unfold cryptoConnectionAddSource
  split
  · rfl
  split
  · have hadd := quiet_addIpPortConnection box c id source
    split
    · rename_i c1 h1
      rw [h1] at hadd
      exact hadd
    · rename_i c1 h1
      rw [h1] at hadd
      exact hadd.trans (quiet_setDirectLastrecvTime box c1 id source env.now)
  · rfl

theorem quiet_setDirectIpPort (c : NetCrypto) (env : Env) (id : Nat) (ipPort : IPPort)
    (connected : Bool) : Quiet box c (c.setDirectIpPort env id ipPort connected) := by
  unfold setDirectIpPort
  split
  · rfl
  · have hadd := quiet_addIpPortConnection box c id ipPort
    split
    · rename_i c1 h1
      rw [h1] at hadd
      exact hadd
    · rename_i c1 h1
      rw [h1] at hadd
      exact hadd.trans (quiet_setDirectLastrecvTime box c1 id ipPort _)

theorem quiet_connectionApi (c : NetCrypto) (id : Nat) (call : Peer.ApiCall) :
    Quiet box c (c.connectionApi id call) := by
  unfold connectionApi
  split
  · rfl
  rename_i conn hconn
  have hconn := (getCryptoConnection_eq_some.mp hconn).1
  have hk := (Peer.api_sendSide ⟨conn, [], [], []⟩ call).keyState
  exact (quiet_setConnection hconn hk).trans (quiet_addSent _ _ _)

theorem quiet_createCookieResponse (c : NetCrypto) (env : Env) (requestPlain : CookieRequestPlain)
    (sharedKey : SharedKey) (dhtPublicKey : PublicKey) :
    Quiet box c (c.createCookieResponse env requestPlain sharedKey dhtPublicKey) := by
  refine ⟨⟨rfl, rfl, rfl, rfl, subset_append_left _ _, ?_, fun _ h => h, fun _ h => .inl h,
    fun _ h => h, fun _ h => h⟩, rfl, rfl⟩
  intro cookie hc
  rcases mem_append.mp hc with h | h
  · exact .inl h
  · right
    rw [mem_singleton.mp h]
    rfl

end

theorem quiet_udpHandleCookieRequest (c : NetCrypto) (env : Env) (packet : CookieRequest) :
    Quiet box c (c.udpHandleCookieRequest box env packet) := by
  unfold udpHandleCookieRequest
  split
  · rfl
  · exact quiet_createCookieResponse _ _ _ _ _ _

theorem quiet_tcpOobHandleCookieRequest (c : NetCrypto) (env : Env) (dhtPublicKey : PublicKey)
    (packet : CookieRequest) :
    Quiet box c (c.tcpOobHandleCookieRequest box env dhtPublicKey packet) := by
  unfold tcpOobHandleCookieRequest
  split
  · rfl
  split
  · rfl
  · exact quiet_createCookieResponse _ _ _ _ _ _

end Toxcore.NetCrypto

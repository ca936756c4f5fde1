import Toxcore.Spec.KeyCoherence

/-!
# Packets that a `Net_Crypto` makes

The cookies inside the packets that a step makes were either made in that step or came
with the packet that arrived, and every handshake that is sent was made by
`create_crypto_handshake`.
-/

namespace Toxcore

open List

def Packet.cookies : Packet → List Cookie
  | .cookieResponse packet => [packet.encrypted.plain.cookie]
  | .cryptoHs packet => [packet.cookie, packet.encrypted.plain.cookie]
  | .cookieRequest _ | .cryptoData _ | .other => []

namespace NetCrypto

variable {box : CryptoBox} {env : Env} {c c' c'' : NetCrypto} {id : Nat}
  {conn : CryptoConnection} {Ck : Cookie → Prop}

/-- From `c` to `c'` packets are made out of own cookies and of cookies in `Ck`. -/
structure Emits (Ck : Cookie → Prop) (c c' : NetCrypto) : Prop where
  cookies_subset : c.trace.cookies ⊆ c'.trace.cookies
  handshakes_subset : c.trace.handshakes ⊆ c'.trace.handshakes
  sent_subset : c.trace.sent ⊆ c'.trace.sent
  cookies : ∀ packet ∈ c'.trace.sent, packet ∈ c.trace.sent ∨
    ∀ cookie ∈ packet.cookies, cookie ∈ c'.trace.cookies ∨ Ck cookie
  handshakes : ∀ packet, .cryptoHs packet ∈ c'.trace.sent → .cryptoHs packet ∈ c.trace.sent ∨
    packet ∈ c'.trace.handshakes.map (·.packet)

namespace Emits

theorem of_trace (h : c'.trace = c.trace) : Emits Ck c c' := by
  constructor <;> rw [h]
  · exact fun _ h => h
  · exact fun _ h => h
  · exact fun _ h => h
  · exact fun _ h => .inl h
  · exact fun _ h => .inl h

@[refl] protected theorem refl (Ck : Cookie → Prop) (c : NetCrypto) : Emits Ck c c := of_trace rfl

protected theorem trans (h1 : Emits Ck c c') (h2 : Emits Ck c' c'') : Emits Ck c c'' where
  cookies_subset := List.Subset.trans h1.cookies_subset h2.cookies_subset
  handshakes_subset := List.Subset.trans h1.handshakes_subset h2.handshakes_subset
  sent_subset := List.Subset.trans h1.sent_subset h2.sent_subset
  cookies := by
    intro packet hp
    rcases h2.cookies packet hp with h | h
    · rcases h1.cookies packet h with h | h
      · exact .inl h
      · exact .inr fun cookie hc => (h cookie hc).imp_left (h2.cookies_subset ·)
    · exact .inr h
  handshakes := by
    intro packet hp
    rcases h2.handshakes packet hp with h | h
    · exact (h1.handshakes packet h).imp_right (map_subset _ h2.handshakes_subset ·)
    · exact .inr h

theorem of_trace_trans (h2 : Emits Ck c' c'') (h : c'.trace = c.trace) : Emits Ck c c'' :=
  (of_trace h).trans h2

end Emits

/-! ## Functions that make no packets -/

theorem trace_newTempPacket (c : NetCrypto) (env : Env) (id : Nat) (packet : Packet) :
    (c.newTempPacket env id packet).2.trace = c.trace := by
  unfold newTempPacket
  split
  · rfl
  split <;> rfl

theorem trace_sendTempPacket (c : NetCrypto) (env : Env) (id : Nat) :
    (c.sendTempPacket env id).2.trace = c.trace := by
  unfold sendTempPacket
  split
  · rfl
  split
  · rfl
  split <;> rfl

theorem trace_wipeCryptoConnection (c : NetCrypto) (id : Nat) :
    (c.wipeCryptoConnection id).trace = c.trace := by
  unfold wipeCryptoConnection
  split
  · rfl
  split <;> rfl

theorem trace_setDirectLastrecvTime (c : NetCrypto) (id : Nat) (ipPort : IPPort) (time : UInt64) :
    (c.setDirectLastrecvTime id ipPort time).trace = c.trace := by
  unfold setDirectLastrecvTime
  split
  · rfl
  split <;> rfl

theorem trace_addIpPortConnection (c : NetCrypto) (id : Nat) (ipPort : IPPort) :
    (c.addIpPortConnection id ipPort).2.trace = c.trace := by
  unfold addIpPortConnection
  split
  · rfl
  -- both families are handled alike
  split <;> split <;> (try split) <;> (try split) <;> rfl

theorem trace_cryptoConnectionAddSource (c : NetCrypto) (env : Env) (id : Nat) (source : IPPort) :
    (c.cryptoConnectionAddSource env id source).trace = c.trace := by
  have hadd := trace_addIpPortConnection c id source
  unfold cryptoConnectionAddSource
  split
  · rfl
  split
  · split
    · rename_i h
      rw [h] at hadd
      exact hadd
    · rename_i h
      rw [h] at hadd
      exact (trace_setDirectLastrecvTime _ _ _ _).trans hadd
  · rfl

theorem trace_setDirectIpPort (c : NetCrypto) (env : Env) (id : Nat) (ipPort : IPPort)
    (connected : Bool) : (c.setDirectIpPort env id ipPort connected).trace = c.trace := by
  have hadd := trace_addIpPortConnection c id ipPort
  unfold setDirectIpPort
  split
  · rfl
  split
  · rename_i h
    rw [h] at hadd
    exact hadd
  · rename_i h
    rw [h] at hadd
    exact (trace_setDirectLastrecvTime _ _ _ _).trans hadd

/-! ## Functions that make packets -/

theorem emits_addSent_cryptoData (c : NetCrypto) (packets : List DataPacket) :
    Emits Ck c (c.addSent (packets.map .cryptoData)) where
  cookies_subset := fun _ h => h
  handshakes_subset := fun _ h => h
  sent_subset := subset_append_left _ _
  cookies := by
    intro packet hp
    rcases mem_append.mp hp with h | h
    · exact .inl h
    · obtain ⟨data, -, rfl⟩ := mem_map.mp h
      exact .inr fun cookie hc => absurd hc not_mem_nil
  handshakes := by
    intro packet hp
    rcases mem_append.mp hp with h | h
    · exact .inl h
    · obtain ⟨data, -, heq⟩ := mem_map.mp h
      exact nomatch heq

theorem emits_addSent_cookieRequest (c : NetCrypto) (request : CookieRequest) :
    Emits Ck c (c.addSent [.cookieRequest request]) where
  cookies_subset := fun _ h => h
  handshakes_subset := fun _ h => h
  sent_subset := subset_append_left _ _
  cookies := by
    intro packet hp
    rcases mem_append.mp hp with h | h
    · exact .inl h
    · rw [mem_singleton.mp h]
      exact .inr fun cookie hc => absurd hc not_mem_nil
  handshakes := by
    intro packet hp
    rcases mem_append.mp hp with h | h
    · exact .inl h
    · exact nomatch mem_singleton.mp h

theorem emits_createCookieResponse (c : NetCrypto) (env : Env) (requestPlain : CookieRequestPlain)
    (sharedKey : SharedKey) (dhtPublicKey : PublicKey) :
    Emits Ck c (c.createCookieResponse env requestPlain sharedKey dhtPublicKey) where
  cookies_subset := subset_append_left _ _
  handshakes_subset := fun _ h => h
  sent_subset := subset_append_left _ _
  cookies := by
    intro packet hp
    rcases mem_append.mp hp with h | h
    · exact .inl h
    · rw [mem_singleton.mp h]
      refine .inr fun cookie hc => .inl ?_
      rw [mem_singleton.mp hc]
      exact mem_append_right _ (mem_singleton_self _)
  handshakes := by
    intro packet hp
    rcases mem_append.mp hp with h | h
    · exact .inl h
    · exact nomatch mem_singleton.mp h

theorem emits_createSendHandshake (box : CryptoBox) (c : NetCrypto) (env : Env) (id : Nat)
    {cookie : Cookie} (dhtPublicKey : PublicKey) (hcookie : Ck cookie) :
    Emits Ck c (c.createSendHandshake box env id cookie dhtPublicKey).2 := by
  unfold createSendHandshake
  split
  · rfl
  rename_i conn _
  simp only
  generalize hhs : c.createCryptoHandshake box env cookie conn.sentNonce conn.sessionPublicKey
    conn.publicKey dhtPublicKey = hs
  have hnew := trace_newTempPacket c env id (.cryptoHs hs.1)
  split
  · rename_i c1 h1
    rw [h1] at hnew
    exact .of_trace hnew
  rename_i c1 h1
  rw [h1] at hnew
  have hsend := (trace_sendTempPacket c1 env id).trans hnew
  generalize (c1.sendTempPacket env id).2 = c2 at hsend ⊢
  refine Emits.of_trace_trans ⟨subset_append_left _ _, subset_append_left _ _,
    subset_append_left _ _, ?_, ?_⟩ hsend
  · intro packet hp
    rcases mem_append.mp hp with h | h
    · exact .inl h
    right
    rw [mem_singleton.mp h, ← hhs]
    intro cookie' hc
    rcases mem_cons.mp hc with h | h
    · rw [h]
      exact .inr hcookie
    · rw [mem_singleton.mp h]
      exact .inl (mem_append_right _ (mem_singleton_self _))
  · intro packet hp
    rcases mem_append.mp hp with h | h
    · exact .inl h
    · right
      rw [Packet.cryptoHs.inj (mem_singleton.mp h)]
      exact mem_map_of_mem (mem_append_right _ (mem_singleton_self _))

theorem emits_udpHandleCookieRequest (c : NetCrypto) (env : Env) (packet : CookieRequest) :
    Emits Ck c (c.udpHandleCookieRequest box env packet) := by
  unfold udpHandleCookieRequest
  split
  · rfl
  · exact emits_createCookieResponse _ _ _ _ _

theorem emits_tcpOobHandleCookieRequest (c : NetCrypto) (env : Env) (dhtPublicKey : PublicKey)
    (packet : CookieRequest) :
    Emits Ck c (c.tcpOobHandleCookieRequest box env dhtPublicKey packet) := by
  unfold tcpOobHandleCookieRequest
  split
  · rfl
  split
  · rfl
  · exact emits_createCookieResponse _ _ _ _ _

theorem emits_connectionApi (c : NetCrypto) (id : Nat) (call : Peer.ApiCall) :
    Emits Ck c (c.connectionApi id call) := by
  unfold connectionApi
  split
  · rfl
  · exact (emits_addSent_cryptoData _ _).of_trace_trans rfl

theorem emits_cryptoKill (c : NetCrypto) (env : Env) (id : Nat) :
    Emits Ck c (c.cryptoKill env id) := by
  unfold cryptoKill
  split
  · rfl
  · exact ((emits_addSent_cryptoData _ _).of_trace_trans rfl).trans
      (.of_trace (trace_wipeCryptoConnection _ id))

theorem emits_killTimedoutLoop (env : Env) (count id : Nat) (c : NetCrypto) :
    Emits Ck c (killTimedoutLoop env count id c) := by
  induction count generalizing id c with
  | zero => rfl
  | succ count ih =>
    rw [killTimedoutLoop]
    split
    · exact ih (id + 1) c
    split
    · exact (emits_cryptoKill c env id).trans (ih (id + 1) _)
    · exact ih (id + 1) c

theorem trace_createCryptoConnection (h : c.createCryptoConnection env = some (id, c')) :
    c'.trace = c.trace :=
  (idles_createCryptoConnection ⟨fun _ _ => none, Vector.replicate _ 0⟩ h).2.1

/-! ## Opening connections -/

theorem emits_newCryptoConnection (c : NetCrypto) (env : Env) (realPublicKey dhtPublicKey : PublicKey) :
    Emits Ck c (c.newCryptoConnection box env realPublicKey dhtPublicKey).2 := by
  unfold newCryptoConnection
  split
  · rfl
  split
  · rfl
  rename_i id c1 hcreate
  have h1 := trace_createCryptoConnection hcreate
  split
  · exact .of_trace ((trace_wipeCryptoConnection c1 id).trans h1)
  split
  · exact .of_trace h1
  rename_i conn _
  split
  · exact .of_trace ((trace_wipeCryptoConnection c1 id).trans h1)
  rename_i request sharedKey _
  generalize conn.requestCookie env realPublicKey dhtPublicKey sharedKey = conn2
  have htemp := (trace_newTempPacket (c1.setConnection id conn2) env id (.cookieRequest request)).trans h1
  simp only
  split
  · rename_i c2 hres
    rw [hres] at htemp
    exact .of_trace ((trace_wipeCryptoConnection c2 id).trans htemp)
  · rename_i c2 hres
    rw [hres] at htemp
    exact (emits_addSent_cookieRequest c2 request).of_trace_trans htemp

theorem emits_acceptCryptoConnection (box : CryptoBox) (c : NetCrypto) (env : Env)
    {nC : NewConnection} (hcookie : Ck nC.cookie) :
    Emits Ck c (c.acceptCryptoConnection box env nC).2 := by
  unfold acceptCryptoConnection
  split
  · rfl
  split
  · rfl
  rename_i id c1 hcreate
  have h1 := trace_createCryptoConnection hcreate
  split
  · exact .of_trace ((trace_wipeCryptoConnection c1 id).trans h1)
  split
  · exact .of_trace h1
  rename_i conn _
  have hsend := emits_createSendHandshake box (c1.setConnection id (conn.openSession box env nC))
    env id nC.dhtPublicKey hcookie
  split
  · rename_i c2 hres
    rw [hres] at hsend
    exact (hsend.of_trace_trans h1).trans (.of_trace (trace_wipeCryptoConnection c2 id))
  · rename_i c2 hres
    rw [hres] at hsend
    have h2 := hsend.of_trace_trans h1
    split
    · exact h2
    · exact h2.trans (.of_trace (trace_cryptoConnectionAddSource _ _ _ _))

/-! ## Packets that arrive -/

theorem cookie_of_handleCryptoHandshake {now : UInt64} {source : IPPort} {packet : Handshake}
    {expected : Option PublicKey} {nC : NewConnection}
    (h : c.handleCryptoHandshake box now source packet expected = some nC) :
    nC.cookie = packet.encrypted.plain.cookie := by
  unfold handleCryptoHandshake at h
  split at h
  · cases h
  split at h
  · cases h
  split at h
  · cases h
  rename_i plain hplain
  split at h
  · cases h
  rw [← Option.some.inj h, decryptDataSymmetric_eq_some hplain]
  rfl

theorem emits_handleNewConnectionHandshake (c : NetCrypto) (env : Env) (source : IPPort)
    {packet : Handshake} (hcookie : Ck packet.encrypted.plain.cookie) :
    Emits Ck c (c.handleNewConnectionHandshake box env source packet).2 := by
  unfold handleNewConnectionHandshake
  split
  · rfl
  rename_i nC hdec
  have hcookie : Ck nC.cookie := cookie_of_handleCryptoHandshake hdec ▸ hcookie
  have h1 : Emits Ck c (c.addAccepted env.now packet nC) :=
    ⟨fun _ h => h, fun _ h => h, fun _ h => h, fun _ h => .inl h, fun _ h => .inl h⟩
  generalize c.addAccepted env.now packet nC = c1 at h1 ⊢
  have hcallback : ∀ c2 : NetCrypto, Emits Ck c c2 → Emits Ck c
      (if env.accept then
        ((c2.acceptCryptoConnection box env nC).1.isSome, (c2.acceptCryptoConnection box env nC).2)
      else (false, c2)).2 := by
    intro c2 h2
    split
    · exact h2.trans (emits_acceptCryptoConnection box c2 env hcookie)
    · exact h2
  simp only
  split
  · exact hcallback c1 h1
  rename_i id _
  split
  · exact h1
  rename_i conn _
  split
  · exact hcallback _ (h1.trans (emits_cryptoKill c1 env id))
  split
  · exact h1
  have hsrc := trace_cryptoConnectionAddSource (c1.setConnection id (conn.rekey box nC)) env id source
  generalize (c1.setConnection id (conn.rekey box nC)).cryptoConnectionAddSource env id source = c2 at hsrc ⊢
  have hsend := emits_createSendHandshake box c2 env id nC.dhtPublicKey hcookie
  have h2 := h1.trans (hsend.of_trace_trans hsrc)
  split
  · rename_i hres
    rw [hres] at h2
    exact h2
  · rename_i hres
    rw [hres] at h2
    split
    · exact h2
    · exact h2.trans (.of_trace rfl)

theorem emits_handlePacketCookieResponse (box : CryptoBox) (c : NetCrypto) (env : Env) (id : Nat)
    {packet : CookieResponse} (hcookie : Ck packet.encrypted.plain.cookie) :
    Emits Ck c (c.handlePacketCookieResponse box env id packet).2 := by
  unfold handlePacketCookieResponse
  split
  · rfl
  rename_i conn _
  split
  · rfl
  split
  · rfl
  rename_i cookie number hopen
  have hcookie : Ck cookie := by
    obtain ⟨plain, hplain, heq⟩ := Option.map_eq_some_iff.mp hopen
    rw [decryptDataSymmetric_eq_some hplain] at hcookie
    exact (Prod.mk.inj heq).1 ▸ hcookie
  split
  · rfl
  have hsend := emits_createSendHandshake box c env id conn.dhtPublicKey hcookie
  split
  · rename_i hres
    rw [hres] at hsend
    exact hsend
  · rename_i hres
    rw [hres] at hsend
    split
    · exact hsend
    · exact hsend.trans (.of_trace rfl)

theorem emits_handlePacketCryptoHs (c : NetCrypto) (env : Env) (id : Nat)
    {packet : Handshake} (hcookie : Ck packet.encrypted.plain.cookie) :
    Emits Ck c (c.handlePacketCryptoHs box env id packet).2 := by
  unfold handlePacketCryptoHs
  split
  · rfl
  rename_i conn _
  split
  · rfl
  split
  · rfl
  rename_i nC hdec
  have hcookie : Ck nC.cookie := cookie_of_handleCryptoHandshake hdec ▸ hcookie
  have h1 : Emits Ck c (c.addAccepted env.now packet nC) :=
    ⟨fun _ h => h, fun _ h => h, fun _ h => h, fun _ h => .inl h, fun _ h => .inl h⟩
  generalize c.addAccepted env.now packet nC = c1 at h1 ⊢
  simp only
  split
  · have hsend := emits_createSendHandshake box (c1.setConnection id (conn.rekey box nC)) env id
      nC.dhtPublicKey hcookie
    split
    · split
      · rename_i hres
        rw [hres] at hsend
        exact h1.trans (hsend.of_trace_trans rfl)
      · rename_i hres
        rw [hres] at hsend
        have h2 := h1.trans (hsend.of_trace_trans rfl)
        split
        · exact h2
        · exact h2.trans (.of_trace rfl)
    · exact h1.trans (.of_trace rfl)
  · exact h1.trans (.of_trace rfl)

theorem emits_handlePacketCryptoData (c : NetCrypto) (env : Env) (id : Nat) (packet : DataPacket)
    (udp : Bool) : Emits Ck c (c.handlePacketCryptoData env id packet udp).2 := by
  unfold handlePacketCryptoData
  split
  · rfl
  rename_i conn _
  split
  · rfl
  simp only
  generalize Peer.handleDataPacketCore ⟨conn, [], [], []⟩ packet udp env.nowMs env.calloc
    (Peer.reactingCallback env.react) = result
  have h1 : Emits Ck c ((c.setConnection id result.2.conn).addSent (result.2.wire.map .cryptoData)) :=
    (emits_addSent_cryptoData _ _).of_trace_trans rfl
  generalize (c.setConnection id result.2.conn).addSent (result.2.wire.map .cryptoData) = c1 at h1 ⊢
  have h2 : Emits Ck c { c1 with trace := { c1.trace with received := c1.trace.received ++ [packet] } } :=
    h1.trans ⟨fun _ h => h, fun _ h => h, fun _ h => h, fun _ h => .inl h, fun _ h => .inl h⟩
  split
  · exact h2
  · exact h2
  · exact h2.trans (emits_cryptoKill _ env id)

theorem emits_handlePacketConnection (c : NetCrypto) (env : Env) (id : Nat) (packet : Packet)
    (udp : Bool) (hcookie : ∀ cookie ∈ packet.cookies, Ck cookie) :
    Emits Ck c (c.handlePacketConnection box env id packet udp).2 := by
  unfold handlePacketConnection
  split
  · exact emits_handlePacketCookieResponse box c env id (hcookie _ (mem_singleton_self _))
  · exact emits_handlePacketCryptoHs c env id (hcookie _ (mem_cons_of_mem _ (mem_singleton_self _)))
  · exact emits_handlePacketCryptoData c env id _ udp
  · rfl

/-! ## Steps -/

def Input.packet? : Input → Option Packet
  | .udpCookieRequest packet => some (.cookieRequest packet)
  | .udpPacket _ packet | .tcpPacket _ packet | .tcpOobPacket _ _ packet => some packet
  | .newConnection .. | .setDirectIpPort .. | .kill _ | .killTimedout | .sendTempPacket _
  | .api .. => none

theorem step_emits (box : CryptoBox) (env : Env) (c : NetCrypto) (input : Input) :
    Emits (fun cookie => ∃ packet, input.packet? = some packet ∧ cookie ∈ packet.cookies) c
      (c.step box env input) := by
  cases input with
  | newConnection realPublicKey dhtPublicKey =>
    exact emits_newCryptoConnection c env realPublicKey dhtPublicKey
  | setDirectIpPort id ipPort connected =>
    exact .of_trace (trace_setDirectIpPort c env id ipPort connected)
  | kill id => exact emits_cryptoKill c env id
  | killTimedout => exact emits_killTimedoutLoop env _ _ c
  | sendTempPacket id => exact .of_trace (trace_sendTempPacket c env id)
  | api id call => exact emits_connectionApi c id call
  | udpCookieRequest packet => exact emits_udpHandleCookieRequest c env packet
  | udpPacket source packet =>
    simp only [step, udpHandlePacket]
    split
    · rfl
    split
    · split
      · refine emits_handleNewConnectionHandshake c env source ⟨_, rfl, ?_⟩
        exact mem_cons_of_mem _ (mem_singleton_self _)
      · rfl
    · rename_i id _
      have hpacket : Emits (fun cookie => ∃ p,
          (Input.udpPacket source packet).packet? = some p ∧ cookie ∈ p.cookies) c
          (c.handlePacketConnection box env id packet true).2 :=
        emits_handlePacketConnection c env id packet true fun cookie hc => ⟨packet, rfl, hc⟩
      split
      · rename_i c1 hres
        rw [hres] at hpacket
        exact hpacket
      · rename_i c1 hres
        rw [hres] at hpacket
        split
        · exact hpacket
        · exact hpacket.trans (.of_trace (trace_setDirectLastrecvTime c1 id source env.now))
  | tcpPacket id packet =>
    simp only [step, tcpDataCallback]
    split
    · rfl
    split
    · exact emits_udpHandleCookieRequest c env _
    · exact emits_handlePacketConnection c env id packet false fun cookie hc => ⟨packet, rfl, hc⟩
  | tcpOobPacket publicKey source packet =>
    simp only [step, tcpOobCallback]
    split
    · exact emits_tcpOobHandleCookieRequest c env publicKey _
    · refine emits_handleNewConnectionHandshake c env source ⟨_, rfl, ?_⟩
      exact mem_cons_of_mem _ (mem_singleton_self _)
    · rfl

end NetCrypto

end Toxcore

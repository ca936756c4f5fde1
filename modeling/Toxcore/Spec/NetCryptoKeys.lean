import Toxcore.Spec.NetCryptoSystem

/-!
# What a step does to the keys of connections

Every function that handles a packet or opens a connection changes the handshake parts of
connections only in the ways listed by `KeyChange`, and accepts only handshakes that
`handle_crypto_handshake` decodes.
-/

namespace Toxcore.NetCrypto

open List

variable {box : CryptoBox} {env : Env} {c c' c1 : NetCrypto} {id : Nat}
  {conn : CryptoConnection} {k : KeyState} {Arr : Handshake → Prop}
  {Hs : CryptoConnection → NewConnection → Prop} {New : NewConnection → Prop}

/-- Connections change as `KeyChange` says; `Arr` stands for the handshakes that arrive. -/
structure Changes (box : CryptoBox) (env : Env) (c c' : NetCrypto) (Arr : Handshake → Prop)
    (Hs : CryptoConnection → NewConnection → Prop) (New : NewConnection → Prop) : Prop where
  frame : Frame box c c'
  keyChange : ∀ k ∈ c'.keyStates, KeyChange box env c c'.trace Hs New k
  accepted : ∀ acc ∈ c'.trace.accepted, acc ∈ c.trace.accepted ∨
    acc.time = env.now ∧ Arr acc.packet ∧ ∃ source expected,
      c.handleCryptoHandshake box env.now source acc.packet expected = some acc.connection

theorem Idles.changes (h : Idles box c c') : Changes box env c c' Arr Hs New := by
  refine ⟨h.frame, fun k hk => ?_, fun acc hacc => .inl (by rwa [h.accepted] at hacc)⟩
  rcases h.keyStates k hk with h | h
  · exact .kept h
  · exact .idle h

theorem Quiet.changes (h : Quiet box c c') : Changes box env c c' Arr Hs New := h.idles.changes

theorem KeyChange.mono {trace trace' : Trace} (h : KeyChange box env c trace Hs New k)
    (ha : trace.accepted ⊆ trace'.accepted) (hr : trace.received ⊆ trace'.received) :
    KeyChange box env c trace' Hs New k := by
  cases h with
  | kept h => exact .kept h
  | idle h => exact .idle h
  | requesting hs hk => exact .requesting hs hk
  | handshakeSent h hs => exact .handshakeSent h hs
  | confirmable h hHs hacc hdht => exact .confirmable h hHs (map_subset _ ha hacc) hdht
  | sendFailed h hHs hdht hs hm => exact .sendFailed h hHs hdht hs hm
  | otherDht h hHs hdht => exact .otherDht h hHs hdht
  | crossed h hNew hacc hpk hdht hs =>
    exact .crossed h hNew (map_subset _ ha hacc) hpk hdht hs
  | crossedSendFailed h hNew hpk hdht hs hm => exact .crossedSendFailed h hNew hpk hdht hs hm
  | accepted hNew hacc ha' buffer => exact .accepted hNew (map_subset _ ha hacc) ha' buffer
  | data h hp n status hs => exact .data h (hr hp) n status hs

theorem Changes.quiet (h : Changes box env c c1 Arr Hs New) (hq : Quiet box c1 c') :
    Changes box env c c' Arr Hs New := by
  refine ⟨h.frame.trans hq.frame, fun k hk => ?_, fun acc hacc => ?_⟩
  · rw [hq.keyStates] at hk
    exact (h.keyChange k hk).mono hq.frame.accepted_subset hq.frame.received_subset
  · rw [hq.accepted] at hacc
    exact h.accepted acc hacc

theorem Changes.idles (h : Changes box env c c1 Arr Hs New) (hi : Idles box c1 c') :
    Changes box env c c' Arr Hs New := by
  refine ⟨h.frame.trans hi.frame, fun k hk => ?_, fun acc hacc => ?_⟩
  · rcases hi.keyStates k hk with hk | hk
    · exact (h.keyChange k hk).mono hi.frame.accepted_subset hi.frame.received_subset
    · exact .idle hk
  · rw [hi.accepted] at hacc
    exact h.accepted acc hacc

theorem changes_of_set (id : Nat) (k1 : KeyState) (hframe : Frame box c c')
    (hk : c'.keyStates = c.keyStates.set id k1) (hacc : c'.trace.accepted = c.trace.accepted)
    (hchange : KeyChange box env c c'.trace Hs New k1) : Changes box env c c' Arr Hs New := by
  refine ⟨hframe, fun k hmem => ?_, fun acc ha => .inl (by rwa [hacc] at ha)⟩
  rw [hk] at hmem
  rcases mem_or_eq_of_mem_set hmem with h | h
  · exact .kept h
  · exact h ▸ hchange

/-! ## `new_crypto_connection` -/

theorem changes_newCryptoConnection (c : NetCrypto) (env : Env) (realPublicKey dhtPublicKey : PublicKey) :
    Changes box env c (c.newCryptoConnection box env realPublicKey dhtPublicKey).2 Arr Hs New := by
  unfold newCryptoConnection
  split
  · exact (Quiet.refl box c).changes
  split
  · exact (Quiet.refl box c).changes
  rename_i id c1 hcreate
  obtain ⟨h1, htrace, conn, hconn, hstatus⟩ := idles_createCryptoConnection box hcreate
  split
  · exact (h1.trans (idles_wipeCryptoConnection box c1 id)).changes
  rw [hconn]
  simp only
  split
  · exact (h1.trans (idles_wipeCryptoConnection box c1 id)).changes
  rename_i cookieRequest sharedKey hreq
  have hshared : box.beforenm dhtPublicKey c.dhtSelfSecretKey = some sharedKey := by
    unfold createCookieRequest dhtGetSharedKeySent at hreq
    rw [h1.frame.dhtSelfSecretKey] at hreq
    split at hreq
    · cases hreq
    · rename_i hkey
      cases hreq
      exact hkey
  generalize hconn2 : conn.requestCookie env realPublicKey dhtPublicKey sharedKey = conn2
  have hcreated : Changes box env c c1 Arr Hs New := h1.changes
  have hset : Changes box env c (c1.setConnection id conn2) Arr Hs New := by
    refine ⟨h1.frame.trans (frame_setConnection c1 id conn2), fun k hk => ?_, fun acc hacc => ?_⟩
    · rcases mem_keyStates_setConnection hk with h | h
      · exact hcreated.keyChange k h
      · rw [h, ← hconn2]
        exact .requesting rfl hshared
    · exact .inl (by rwa [← h1.accepted])
  have htemp := quiet_newTempPacket box (c1.setConnection id conn2) env id (.cookieRequest cookieRequest)
  split
  · rename_i c2 hres
    rw [hres] at htemp
    exact (hset.quiet htemp).idles (idles_wipeCryptoConnection box c2 id)
  · rename_i c2 hres
    rw [hres] at htemp
    exact (hset.quiet htemp).quiet (quiet_addSent box c2 _)

/-! ## Packets for a connection -/

theorem changes_handlePacketCookieResponse (c : NetCrypto) (env : Env) (id : Nat) (packet : CookieResponse) :
    Changes box env c (c.handlePacketCookieResponse box env id packet).2 Arr Hs New := by
  unfold handlePacketCookieResponse
  split
  · exact (Quiet.refl box c).changes
  rename_i conn hconn
  have hget := (getCryptoConnection_eq_some.mp hconn).1
  split
  · exact (Quiet.refl box c).changes
  rename_i hstatus
  split
  · exact (Quiet.refl box c).changes
  rename_i cookie number _
  split
  · exact (Quiet.refl box c).changes
  have hsend := quiet_createSendHandshake box c env id cookie conn.dhtPublicKey
  split
  · rename_i c1 hres
    rw [hres] at hsend
    exact hsend.changes
  · rename_i c1 hres
    rw [hres] at hsend
    obtain ⟨conn1, hget1, hk1⟩ := hsend.exists_conn hget
    rw [hget1]
    refine changes_of_set id { conn.keyState with status := .handshakeSent }
      (hsend.frame.trans (frame_setConnection c1 id _)) ?_ hsend.accepted
      (.handshakeSent (mem_keyStates_of_getElem? hget) (not_not.mp hstatus))
    simp only
    rw [keyStates_setConnection, hsend.keyStates, ← hk1]
    rfl

theorem changes_addAccepted {packet : Handshake} {nC : NewConnection} {source : IPPort}
    {expected : Option PublicKey} (harr : Arr packet)
    (hdec : c.handleCryptoHandshake box env.now source packet expected = some nC) :
    Changes box env c (c.addAccepted env.now packet nC) Arr Hs New := by
  refine ⟨⟨rfl, rfl, rfl, rfl, fun _ h => h, fun _ h => .inl h, fun _ h => h,
    fun _ h => .inl h, subset_append_left _ _, fun _ h => h⟩, fun k hk => .kept hk,
    fun acc hacc => ?_⟩
  rcases mem_append.mp hacc with h | h
  · exact .inl h
  · obtain rfl := mem_singleton.mp h
    exact .inr ⟨rfl, harr, source, expected, hdec⟩

theorem mem_accepted_addAccepted (c : NetCrypto) (time : UInt64) (packet : Handshake) (nC : NewConnection) :
    nC ∈ (c.addAccepted time packet nC).trace.accepted.map (·.connection) := by
  simp [addAccepted]

section

variable (h : Changes box env c c1 Arr Hs New)
include h

theorem Changes.set (id : Nat) (k1 : KeyState)
    (hframe : Frame box c1 c') (hk : c'.keyStates = c1.keyStates.set id k1)
    (hacc : c'.trace.accepted = c1.trace.accepted)
    (hchange : KeyChange box env c c'.trace Hs New k1) : Changes box env c c' Arr Hs New := by
  refine ⟨h.frame.trans hframe, fun k hmem => ?_, fun acc ha => h.accepted acc (by rwa [hacc] at ha)⟩
  rw [hk] at hmem
  rcases mem_or_eq_of_mem_set hmem with hm | hm
  · exact (h.keyChange k hm).mono hframe.accepted_subset hframe.received_subset
  · exact hm ▸ hchange

theorem Changes.setQuiet (conn2 : CryptoConnection)
    (hq : Quiet box (c1.setConnection id conn2) c')
    (hchange : KeyChange box env c c'.trace Hs New conn2.keyState) :
    Changes box env c c' Arr Hs New :=
  h.set id conn2.keyState ((frame_setConnection c1 id conn2).trans hq.frame)
    (hq.keyStates.trans (keyStates_setConnection c1 id conn2)) hq.accepted hchange

theorem Changes.setQuietSet {c3 : NetCrypto}
    (conn2 conn3 : CryptoConnection) (hq : Quiet box (c1.setConnection id conn2) c3)
    (hchange : KeyChange box env c c3.trace Hs New conn3.keyState) :
    Changes box env c (c3.setConnection id conn3) Arr Hs New := by
  refine h.set id conn3.keyState
    ((frame_setConnection c1 id conn2).trans (hq.frame.trans (frame_setConnection c3 id conn3)))
    ?_ hq.accepted hchange
  rw [keyStates_setConnection, hq.keyStates, keyStates_setConnection, set_set]

end

theorem createSendHandshake_fst (box : CryptoBox) (env : Env) (h : c.cryptoConnections[id]? = some conn)
    (hv : conn.isValid) (cookie : Cookie) (dhtPublicKey : PublicKey) :
    (c.createSendHandshake box env id cookie dhtPublicKey).1 = env.malloc := by
  have hget : c.getCryptoConnection id = some conn := getCryptoConnection_eq_some.mpr ⟨h, hv⟩
  simp only [createSendHandshake, hget, newTempPacket]
  cases env.malloc <;> rfl

theorem changes_handlePacketCryptoHs (c : NetCrypto) (env : Env) (id : Nat) (packet : Handshake)
    (harr : Arr packet)
    (hHs : ∀ conn nC, c.getCryptoConnection id = some conn →
      (conn.status = .cookieRequesting ∨ conn.status = .handshakeSent ∨ conn.status = .notConfirmed) →
      c.handleCryptoHandshake box env.now emptyIpPort packet (some conn.publicKey) = some nC →
      Hs conn nC) :
    Changes box env c (c.handlePacketCryptoHs box env id packet).2 Arr Hs New := by
  unfold handlePacketCryptoHs
  split
  · exact (Quiet.refl box c).changes
  rename_i conn hconn
  obtain ⟨hget, hvalid⟩ := getCryptoConnection_eq_some.mp hconn
  have hmem := mem_of_getElem? hget
  split
  · exact (Quiet.refl box c).changes
  split
  · exact (Quiet.refl box c).changes
  rename_i nC hdec
  have hHs' : Hs conn nC := hHs conn nC hconn (by tauto) hdec
  have hacc : Changes box env c (c.addAccepted env.now packet nC) Arr Hs New :=
    changes_addAccepted harr hdec
  have hnC := mem_accepted_addAccepted c env.now packet nC
  have hlt : id < (c.addAccepted env.now packet nC).cryptoConnections.length :=
    (List.getElem?_eq_some_iff.mp hget).1
  generalize c.addAccepted env.now packet nC = c1 at hacc hnC hlt ⊢
  simp only
  split
  · rename_i hdht
    generalize hconn2 : conn.rekey box nC = conn2
    have hk2 : conn2.keyState = conn.keyState.rekey box nC := by rw [← hconn2]; rfl
    have hv2 : conn2.isValid := by rw [← hconn2]; exact hvalid
    split
    · rename_i hreq
      have hget2 : (c1.setConnection id conn2).cryptoConnections[id]? = some conn2 :=
        getElem?_set_self hlt
      have hsend := quiet_createSendHandshake box (c1.setConnection id conn2) env id nC.cookie nC.dhtPublicKey
      have hfst := createSendHandshake_fst box env hget2 hv2 nC.cookie nC.dhtPublicKey
      obtain ⟨conn3, hget3, hk3⟩ := hsend.exists_conn hget2
      split
      · rename_i c3 hres
        rw [hres] at hsend hfst
        refine hacc.setQuiet conn2 hsend ?_
        rw [hk2]
        exact .sendFailed hmem hHs' hdht hreq hfst.symm
      · rename_i c3 hres
        rw [hres] at hsend hget3
        rw [hget3]
        refine hacc.setQuietSet conn2 _ hsend ?_
        change KeyChange box env c c3.trace Hs New { conn3.keyState with status := .notConfirmed }
        rw [hk3, hk2]
        exact .confirmable hmem hHs' (map_subset _ hsend.frame.accepted_subset hnC) hdht
    · refine hacc.setQuietSet conn2 _ (Quiet.refl box _) ?_
      change KeyChange box env c c1.trace Hs New { conn2.keyState with status := .notConfirmed }
      rw [hk2]
      exact .confirmable hmem hHs' hnC hdht
  · rename_i hdht
    exact hacc.set id _ (frame_setConnection _ _ _) (keyStates_setConnection _ _ _) rfl
      (.otherDht hmem hHs' hdht)

theorem changes_handlePacketCryptoData (c : NetCrypto) (env : Env) (id : Nat) (packet : DataPacket)
    (udp : Bool) :
    Changes box env c (c.handlePacketCryptoData env id packet udp).2 Arr Hs New := by
  unfold handlePacketCryptoData
  split
  · exact (Quiet.refl box c).changes
  rename_i conn hconn
  have hget := (getCryptoConnection_eq_some.mp hconn).1
  split
  · exact (Quiet.refl box c).changes
  simp only
  have hdata := Peer.handleDataPacketCore_conn ⟨conn, [], [], []⟩ packet udp env.nowMs env.calloc env.react
  generalize Peer.handleDataPacketCore ⟨conn, [], [], []⟩ packet udp env.nowMs env.calloc
    (Peer.reactingCallback env.react) = result at hdata
  obtain ⟨n, status, hk, hstatus⟩ := hdata.keyState
  generalize hc1 : (((c.setConnection id result.2.conn).addSent
    (result.2.wire.map .cryptoData)) : NetCrypto) = c1
  have hq : Quiet box (c.setConnection id result.2.conn) c1 := hc1 ▸ quiet_addSent box _ _
  have hset : Changes box env c
      { c1 with trace := { c1.trace with received := c1.trace.received ++ [packet] } }
      Arr Hs New := by
    have hframe : Frame box c1
        { c1 with trace := { c1.trace with received := c1.trace.received ++ [packet] } } :=
      ⟨rfl, rfl, rfl, rfl, fun _ h => h, fun _ h => .inl h, fun _ h => h, fun _ h => .inl h,
        fun _ h => h, subset_append_left _ _⟩
    refine changes_of_set id result.2.conn.keyState
      ((frame_setConnection c id _).trans (hq.frame.trans hframe))
      (hq.keyStates.trans (keyStates_setConnection c id _)) hq.accepted ?_
    rw [hk]
    exact .data (mem_keyStates_of_getElem? hget)
      (mem_append_right _ (mem_singleton_self packet)) n status hstatus
  split
  · exact hset
  · exact hset
  · exact hset.idles (idles_cryptoKill box _ env id)

theorem changes_handlePacketConnection (c : NetCrypto) (env : Env) (id : Nat) (packet : Packet)
    (udp : Bool) (harr : ∀ hs, packet = .cryptoHs hs → Arr hs)
    (hHs : ∀ hs conn nC, packet = .cryptoHs hs → c.getCryptoConnection id = some conn →
      (conn.status = .cookieRequesting ∨ conn.status = .handshakeSent ∨ conn.status = .notConfirmed) →
      c.handleCryptoHandshake box env.now emptyIpPort hs (some conn.publicKey) = some nC →
      Hs conn nC) :
    Changes box env c (c.handlePacketConnection box env id packet udp).2 Arr Hs New := by
  unfold handlePacketConnection
  split
  · exact changes_handlePacketCookieResponse c env id _
  · rename_i hs
    exact changes_handlePacketCryptoHs c env id hs (harr hs rfl) fun conn nC => hHs hs conn nC rfl
  · exact changes_handlePacketCryptoData c env id _ udp
  · exact (Quiet.refl box c).changes

/-! ## New connections -/

theorem changes_handleNewConnectionHandshake (c : NetCrypto) (env : Env) (source : IPPort)
    (packet : Handshake) (harr : Arr packet)
    (hNew : ∀ nC, c.handleCryptoHandshake box env.now source packet none = some nC → New nC) :
    Changes box env c (c.handleNewConnectionHandshake box env source packet).2 Arr Hs New := by
  unfold handleNewConnectionHandshake
  split
  · exact (Quiet.refl box c).changes
  rename_i nC hdec
  have hNew' : New nC := hNew nC hdec
  have hacc : Changes box env c (c.addAccepted env.now packet nC) Arr Hs New :=
    changes_addAccepted harr hdec
  have hnC := mem_accepted_addAccepted c env.now packet nC
  have hconns : (c.addAccepted env.now packet nC).cryptoConnections = c.cryptoConnections := rfl
  generalize c.addAccepted env.now packet nC = c1 at hacc hnC hconns ⊢
  -- the callback, after a connection with another DHT key was killed or without one
  have hcallback : ∀ c2 : NetCrypto, Idles box c1 c2 → Changes box env c
      (if env.accept then
        ((c2.acceptCryptoConnection box env nC).1.isSome, (c2.acceptCryptoConnection box env nC).2)
      else (false, c2)).2 Arr Hs New := by
    intro c2 hi
    have h2 := hacc.idles hi
    split
    · rename_i haccept
      obtain ⟨hframe, hsame, hkeys⟩ := acceptCryptoConnection_spec box c2 env nC
      refine ⟨h2.frame.trans hframe, fun k hk => ?_, fun acc ha => ?_⟩
      · rcases hkeys k hk with h | h | ⟨buffer, rfl⟩
        · exact (h2.keyChange k h).mono hframe.accepted_subset hframe.received_subset
        · exact .idle h
        · refine .accepted hNew' ?_ haccept buffer
          rw [hsame, hi.accepted]
          exact hnC
      · rw [hsame] at ha
        exact h2.accepted acc ha
    · exact h2
  simp only
  split
  · exact hcallback c1 (Quiet.refl box c1).idles
  rename_i id hid
  split
  · exact hacc
  rename_i conn hconn
  obtain ⟨hget, hvalid⟩ := getCryptoConnection_eq_some.mp hconn
  have hpk : nC.publicKey = conn.publicKey := by
    obtain ⟨conn', hget', -, hpk⟩ := getcryptconnectionId_spec hid
    rw [hget] at hget'
    exact Option.some.inj hget' ▸ hpk
  have hmem : conn ∈ c.cryptoConnections := hconns ▸ mem_of_getElem? hget
  split
  · exact hcallback _ (idles_cryptoKill box c1 env id)
  rename_i hdht
  split
  · exact hacc
  have hdht := not_not.mp hdht
  have hs : conn.status = .cookieRequesting ∨ conn.status = .handshakeSent := by tauto
  generalize hconn2 : conn.rekey box nC = conn2
  have hk2 : conn2.keyState = conn.keyState.rekey box nC := by rw [← hconn2]; rfl
  have hget2 : (c1.setConnection id conn2).cryptoConnections[id]? = some conn2 :=
    getElem?_set_self (List.getElem?_eq_some_iff.mp hget).1
  have hsrc := quiet_cryptoConnectionAddSource box (c1.setConnection id conn2) env id source
  obtain ⟨conn3, hget3, hk3⟩ := hsrc.exists_conn hget2
  have hv3 : conn3.isValid := by
    have hstat : conn3.status = conn.status := congrArg KeyState.status (hk3.trans hk2)
    unfold CryptoConnection.isValid at hvalid ⊢
    rw [hstat]
    exact hvalid
  have hfst := createSendHandshake_fst box env hget3 hv3 nC.cookie nC.dhtPublicKey
  have hsend := hsrc.trans (quiet_createSendHandshake box _ env id nC.cookie nC.dhtPublicKey)
  obtain ⟨conn4, hget4, hk4⟩ := hsend.exists_conn hget2
  split
  · rename_i c4 hres
    rw [hres] at hsend hfst
    refine hacc.setQuiet conn2 hsend ?_
    rw [hk2]
    exact .crossedSendFailed hmem hNew' hpk hdht hs hfst.symm
  · rename_i c4 hres
    rw [hres] at hsend hget4
    rw [hget4]
    refine hacc.setQuietSet conn2 _ hsend ?_
    change KeyChange box env c c4.trace Hs New { conn4.keyState with status := .notConfirmed }
    rw [hk4, hk2]
    exact .crossed hmem hNew' (map_subset _ hsend.frame.accepted_subset hnC) hpk hdht hs

/-! ## Steps -/

def Arrives (input : Input) (packet : Handshake) : Prop :=
  (∃ source, input = .udpPacket source (.cryptoHs packet)) ∨
    (∃ id, input = .tcpPacket id (.cryptoHs packet)) ∨
    ∃ publicKey source, input = .tcpOobPacket publicKey source (.cryptoHs packet)

theorem step_changes (box : CryptoBox) (env : Env) (c : NetCrypto) (input : Input) :
    Changes box env c (c.step box env input) (Arrives input) (c.DecodesFor box env input)
      (c.DecodesNew box env input) := by
  cases input with
  | newConnection realPublicKey dhtPublicKey =>
    exact changes_newCryptoConnection c env realPublicKey dhtPublicKey
  | setDirectIpPort id ipPort connected =>
    exact (quiet_setDirectIpPort box c env id ipPort connected).changes
  | kill id => exact (idles_cryptoKill box c env id).changes
  | killTimedout => exact (idles_killTimedoutLoop box env _ _ c).changes
  | sendTempPacket id => exact (quiet_sendTempPacket box c env id).changes
  | api id call => exact (quiet_connectionApi box c id call).changes
  | udpCookieRequest packet => exact (quiet_udpHandleCookieRequest c env packet).changes
  | udpPacket source packet =>
    simp only [step, udpHandlePacket]
    split
    · exact (Quiet.refl box c).changes
    split
    · rename_i hid
      split
      · rename_i hs _
        refine changes_handleNewConnectionHandshake c env source hs (.inl ⟨source, rfl⟩) ?_
        exact fun nC hdec => ⟨source, hs, .inl ⟨rfl, hid⟩, hdec⟩
      · exact (Quiet.refl box c).changes
    · rename_i id hid
      have hpacket : Changes box env c (c.handlePacketConnection box env id packet true).2
          (Arrives (.udpPacket source packet)) (c.DecodesFor box env (.udpPacket source packet))
          (c.DecodesNew box env (.udpPacket source packet)) := by
        refine changes_handlePacketConnection c env id packet true ?_ ?_
        · rintro hs rfl
          exact .inl ⟨source, rfl⟩
        · rintro hs conn nC rfl hconn hstatus hdec
          exact ⟨id, hs, .inl ⟨source, rfl, hid⟩, hconn, hstatus, hdec⟩
      split
      · rename_i c1 hres
        rw [hres] at hpacket
        exact hpacket
      · rename_i c1 hres
        rw [hres] at hpacket
        split
        · exact hpacket
        · exact hpacket.quiet (quiet_setDirectLastrecvTime box c1 id source env.now)
  | tcpPacket id packet =>
    simp only [step, tcpDataCallback]
    split
    · exact (Quiet.refl box c).changes
    split
    · exact (quiet_udpHandleCookieRequest c env _).changes
    · refine changes_handlePacketConnection c env id packet false ?_ ?_
      · rintro hs rfl
        exact .inr (.inl ⟨id, rfl⟩)
      · rintro hs conn nC rfl hconn hstatus hdec
        exact ⟨id, hs, .inr rfl, hconn, hstatus, hdec⟩
  | tcpOobPacket publicKey source packet =>
    simp only [step, tcpOobCallback]
    split
    · exact (quiet_tcpOobHandleCookieRequest c env publicKey _).changes
    · rename_i hs
      refine changes_handleNewConnectionHandshake c env source hs (.inr (.inr ⟨publicKey, source, rfl⟩)) ?_
      exact fun nC hdec => ⟨source, hs, .inr ⟨publicKey, rfl⟩, hdec⟩
    · exact (Quiet.refl box c).changes

end Toxcore.NetCrypto

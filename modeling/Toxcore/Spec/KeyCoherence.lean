import Toxcore.Spec.NetCryptoKeys

/-!
# Coherence of connection keys

A connection that is not confirmed or established should hold the session key for the session public key of its
peer, from the handshake that set the base of `recv_nonce`; one that still requests a cookie should hold the DHT
shared key. The source breaks this in three places: `handle_packet_crypto_hs` decodes before it looks at the DHT
key, a session key is computed before the answer is known to be sent, and the result of `encrypt_precompute` is
ignored. `Sound` excludes these.
-/

namespace Toxcore

open List

structure KeyState.Coherent (box : CryptoBox) (dhtSecretKey : SecretKey)
    (accepted : List AcceptedHandshake) (k : KeyState) : Prop where
  session : k.status = .notConfirmed ∨ k.status = .established →
    box.beforenm k.peerSessionPublicKey k.sessionSecretKey = some k.sharedKey ∧
    ∃ acc ∈ accepted, acc.connection.publicKey = k.publicKey ∧
      acc.connection.dhtPublicKey = k.dhtPublicKey ∧
      acc.connection.peerSessionPublicKey = k.peerSessionPublicKey ∧
      ∃ n : Nat, k.recvNonce = acc.connection.recvNonce + BitVec.ofNat 192 (n * dataNumThreshold.toNat)
  request : k.status = .cookieRequesting → box.beforenm k.dhtPublicKey dhtSecretKey = some k.sharedKey

namespace KeyState.Coherent

variable {box : CryptoBox} {dhtSecretKey : SecretKey} {accepted accepted' : List AcceptedHandshake}
  {k : KeyState} {nC : NewConnection}

theorem mono (h : k.Coherent box dhtSecretKey accepted) (hsub : accepted ⊆ accepted') :
    k.Coherent box dhtSecretKey accepted' where
  session hs := by
    obtain ⟨hkey, acc, hacc, hrest⟩ := h.session hs
    exact ⟨hkey, acc, hsub hacc, hrest⟩
  request := h.request

theorem of_idle (h : k.status = .free ∨ k.status = .noConnection) :
    k.Coherent box dhtSecretKey accepted := by
  constructor <;> intro hs <;> rcases h with h | h <;> simp [h] at hs

theorem of_request (hs : k.status = .cookieRequesting)
    (hkey : box.beforenm k.dhtPublicKey dhtSecretKey = some k.sharedKey) :
    k.Coherent box dhtSecretKey accepted where
  session h := by simp [hs] at h
  request _ := hkey

theorem of_handshakeSent (hs : k.status = .handshakeSent) :
    k.Coherent box dhtSecretKey accepted := by
  constructor <;> intro h <;> simp [hs] at h

theorem rekey (hsome : (box.beforenm nC.peerSessionPublicKey k.sessionSecretKey).isSome)
    (hacc : nC ∈ accepted.map (·.connection)) (hpk : nC.publicKey = k.publicKey)
    (hdht : nC.dhtPublicKey = k.dhtPublicKey) :
    KeyState.Coherent box dhtSecretKey accepted
      { k.rekey box nC with status := .notConfirmed } where
  session _ := by
    obtain ⟨key, hkey⟩ := Option.isSome_iff_exists.mp hsome
    obtain ⟨acc, hmem, rfl⟩ := mem_map.mp hacc
    refine ⟨?_, acc, hmem, hpk, hdht, rfl, 0, ?_⟩
    · simp [KeyState.rekey, KeyState.decode, CryptoBox.encryptPrecompute, hkey]
    · simp [KeyState.rekey, KeyState.decode]
  request h := nomatch h

theorem ofHandshake {sessionSecretKey : SecretKey} {buffer : SharedKey}
    (hsome : (box.beforenm nC.peerSessionPublicKey sessionSecretKey).isSome)
    (hacc : nC ∈ accepted.map (·.connection)) :
    KeyState.Coherent box dhtSecretKey accepted
      (KeyState.ofHandshake box nC sessionSecretKey buffer) where
  session _ := by
    obtain ⟨key, hkey⟩ := Option.isSome_iff_exists.mp hsome
    obtain ⟨acc, hmem, rfl⟩ := mem_map.mp hacc
    refine ⟨?_, acc, hmem, rfl, rfl, rfl, 0, ?_⟩
    · simp [KeyState.ofHandshake, CryptoBox.encryptPrecompute, hkey]
    · simp [KeyState.ofHandshake]
  request h := nomatch h

theorem data (h : k.Coherent box dhtSecretKey accepted) (n : Nat) {status : CryptoConnState}
    (hs : status = k.status ∨ k.status = .notConfirmed ∧ status = .established) :
    KeyState.Coherent box dhtSecretKey accepted
      { k with
        recvNonce := k.recvNonce + BitVec.ofNat 192 (n * dataNumThreshold.toNat)
        status } where
  session hstatus := by
    have hold : k.status = .notConfirmed ∨ k.status = .established := by
      rcases hs with hs | hs
      · exact hs ▸ hstatus
      · exact .inl hs.1
    obtain ⟨hkey, acc, hacc, hpk, hdht, hpeer, m, hm⟩ := h.session hold
    refine ⟨hkey, acc, hacc, hpk, hdht, hpeer, m + n, ?_⟩
    rw [hm, BitVec.add_assoc, ← BitVec.ofNat_add, Nat.add_mul]
  request hstatus := by
    rcases hs with hs | hs
    · exact h.request (hs ▸ hstatus)
    · rw [hs.2] at hstatus
      exact nomatch hstatus

end KeyState.Coherent

namespace NetCrypto

variable {box : CryptoBox} {env : Env} {c c' : NetCrypto} {id : Nat} {conn : CryptoConnection} {k : KeyState}

def Coherent (box : CryptoBox) (c : NetCrypto) : Prop :=
  ∀ k ∈ c.keyStates, k.Coherent box c.dhtSelfSecretKey c.trace.accepted

/-- The handshake carries the DHT key, an answer can be allocated, and the session key computed. -/
def SoundHs (box : CryptoBox) (env : Env) (c : NetCrypto) (id : Nat) (packet : Handshake) : Prop :=
  ∀ conn nC, c.getCryptoConnection id = some conn →
    (conn.status = .cookieRequesting ∨ conn.status = .handshakeSent ∨ conn.status = .notConfirmed) →
    c.handleCryptoHandshake box env.now emptyIpPort packet (some conn.publicKey) = some nC →
    nC.dhtPublicKey = conn.dhtPublicKey ∧
      (conn.status = .cookieRequesting → env.malloc = true) ∧
      (box.beforenm nC.peerSessionPublicKey conn.sessionSecretKey).isSome

/-- Conditions on a handshake for `handle_new_connection_handshake`. -/
def SoundNew (box : CryptoBox) (env : Env) (c : NetCrypto) (source : IPPort) (packet : Handshake) :
    Prop :=
  ∀ nC, c.handleCryptoHandshake box env.now source packet none = some nC →
    (∀ conn ∈ c.cryptoConnections, nC.publicKey = conn.publicKey →
      nC.dhtPublicKey = conn.dhtPublicKey →
      (conn.status = .cookieRequesting ∨ conn.status = .handshakeSent) →
      env.malloc = true ∧ (box.beforenm nC.peerSessionPublicKey conn.sessionSecretKey).isSome) ∧
    (env.accept = true → (box.beforenm nC.peerSessionPublicKey env.sessionSecretKey).isSome)

def Sound (box : CryptoBox) (env : Env) (c : NetCrypto) (input : Input) : Prop :=
  (∀ id packet, c.DeliversHs input id packet → SoundHs box env c id packet) ∧
    ∀ source packet, c.DeliversNew input source packet → SoundNew box env c source packet

def system (box : CryptoBox) : TransitionSystem NetCrypto where
  init := Fresh
  step c c' := ∃ env input, c' = c.step box env input

def soundSystem (box : CryptoBox) : TransitionSystem NetCrypto where
  init := Fresh
  step c c' := ∃ env input, Sound box env c input ∧ c' = c.step box env input

/-! ## Decoding a handshake -/

/-- What `handle_crypto_handshake` has checked. -/
structure Decoded (box : CryptoBox) (c : NetCrypto) (now : UInt64) (packet : Handshake)
    (nC : NewConnection) : Prop where
  cookie_key : packet.cookie.key = c.secretSymmetricKey
  cookie_time : packet.cookie.plain.time ≤ now
  cookie_timeout : now ≤ packet.cookie.plain.time + cookieTimeout
  publicKey : packet.cookie.plain.publicKey = nC.publicKey
  dhtPublicKey : packet.cookie.plain.dhtPublicKey = nC.dhtPublicKey
  key : packet.encrypted.key = box.encryptPrecompute nC.publicKey c.selfSecretKey box.uninitialized
  cookieHash : packet.encrypted.plain.cookieHash = cryptoSha512 packet.cookie
  recvNonce : packet.encrypted.plain.nonce = nC.recvNonce
  sessionPk : packet.encrypted.plain.sessionPk = nC.peerSessionPublicKey

theorem handleCryptoHandshake_spec {now : UInt64} {source : IPPort} {packet : Handshake}
    {expected : Option PublicKey} {nC : NewConnection}
    (h : c.handleCryptoHandshake box now source packet expected = some nC) :
    Decoded box c now packet nC ∧ ∀ pk, expected = some pk → pk = nC.publicKey := by
  unfold handleCryptoHandshake at h
  split at h
  · cases h
  rename_i cookiePlain hcookie
  split at h
  · cases h
  rename_i hexp
  split at h
  · cases h
  rename_i plain hplain
  split at h
  · cases h
  rename_i hhash
  cases h
  unfold openCookie at hcookie
  split at hcookie
  · cases hcookie
  rename_i contents hopen
  split at hcookie
  · cases hcookie
  rename_i htime
  obtain rfl := Option.some.inj hcookie
  obtain ⟨hck, hcp⟩ : packet.cookie.key = c.secretSymmetricKey ∧ packet.cookie.plain = contents := by
    rw [decryptDataSymmetric_eq_some hopen]
    exact ⟨rfl, rfl⟩
  obtain ⟨hpk, hpp⟩ : packet.encrypted.key =
      box.encryptPrecompute contents.publicKey c.selfSecretKey box.uninitialized ∧
      packet.encrypted.plain = plain := by
    rw [decryptDataSymmetric_eq_some hplain]
    exact ⟨rfl, rfl⟩
  simp only [not_or, UInt64.not_lt] at htime
  refine ⟨⟨hck, by rw [hcp]; exact htime.2, by rw [hcp]; exact htime.1, by rw [hcp], by rw [hcp],
    hpk, ?_, by rw [hpp], by rw [hpp]⟩, ?_⟩
  · rw [hpp]
    exact (not_not.mp hhash).symm
  · rintro pk rfl
    simpa using hexp

/-! ## One step -/

theorem Coherent.step {input : Input} (h : Coherent box c) (hsound : Sound box env c input) :
    Coherent box (c.step box env input) := by
  obtain ⟨hframe, hchange, -⟩ := step_changes box env c input
  intro k hk
  rw [hframe.dhtSelfSecretKey]
  cases hchange k hk with
  | kept hold => exact (h k hold).mono hframe.accepted_subset
  | idle hidle => exact .of_idle hidle
  | requesting hs hkey => exact .of_request hs hkey
  | handshakeSent hold hs => exact .of_handshakeSent rfl
  | confirmable hmem hHs hacc hdht =>
    obtain ⟨id, packet, hdel, hconn, hstatus, hdec⟩ := hHs
    obtain ⟨-, -, hsome⟩ := hsound.1 id packet hdel _ _ hconn hstatus hdec
    exact .rekey hsome hacc ((handleCryptoHandshake_spec hdec).2 _ rfl).symm hdht
  | sendFailed hmem hHs hdht hs hm =>
    obtain ⟨id, packet, hdel, hconn, hstatus, hdec⟩ := hHs
    obtain ⟨-, hmalloc, -⟩ := hsound.1 id packet hdel _ _ hconn hstatus hdec
    rw [hmalloc hs] at hm
    exact nomatch hm
  | otherDht hmem hHs hdht =>
    obtain ⟨id, packet, hdel, hconn, hstatus, hdec⟩ := hHs
    exact absurd (hsound.1 id packet hdel _ _ hconn hstatus hdec).1 hdht
  | crossed hmem hNew hacc hpk hdht hs =>
    obtain ⟨source, packet, hdel, hdec⟩ := hNew
    obtain ⟨-, hsome⟩ := (hsound.2 source packet hdel _ hdec).1 _ hmem hpk hdht hs
    exact .rekey hsome hacc hpk hdht
  | crossedSendFailed hmem hNew hpk hdht hs hm =>
    obtain ⟨source, packet, hdel, hdec⟩ := hNew
    obtain ⟨hmalloc, -⟩ := (hsound.2 source packet hdel _ hdec).1 _ hmem hpk hdht hs
    rw [hmalloc] at hm
    exact nomatch hm
  | accepted hNew hacc haccept buffer =>
    obtain ⟨source, packet, hdel, hdec⟩ := hNew
    exact .ofHandshake ((hsound.2 source packet hdel _ hdec).2 haccept) hacc
  | data hold hp n status hs =>
    exact ((h _ hold).mono hframe.accepted_subset).data n (hs.imp id fun hs => ⟨hs.1, hs.2.1⟩)

theorem coherent_of_reachable (h : (soundSystem box).Reachable c) : Coherent box c := by
  refine h.invariant (P := Coherent box) ?_ ?_
  · intro c hc k hk
    simp [keyStates, hc.cryptoConnections] at hk
  · rintro c _ hcoh ⟨env, input, hsound, rfl⟩
    exact hcoh.step hsound

/-! ## Rejected handshakes -/

theorem keyStates_handlePacketCryptoHs {packet : Handshake} (hsound : SoundHs box env c id packet)
    (h : c.handlePacketCryptoHs box env id packet = (false, c')) : c'.keyStates = c.keyStates := by
  unfold handlePacketCryptoHs at h
  split at h
  · rw [(Prod.mk.inj h).2]
  rename_i conn hconn
  obtain ⟨hget, hvalid⟩ := getCryptoConnection_eq_some.mp hconn
  split at h
  · rw [(Prod.mk.inj h).2]
  split at h
  · rw [(Prod.mk.inj h).2]
  rename_i nC hdec
  obtain ⟨hdht, hmalloc, -⟩ := hsound conn nC hconn (by tauto) hdec
  simp only [hdht, if_true] at h
  split at h
  · -- the answer can be allocated, so it is sent
    rename_i hreq
    have hlt : id < (c.addAccepted env.now packet nC).cryptoConnections.length :=
      (List.getElem?_eq_some_iff.mp hget).1
    generalize c.addAccepted env.now packet nC = c1 at h hlt
    generalize hconn2 : conn.rekey box nC = conn2 at h
    have hget2 : (c1.setConnection id conn2).cryptoConnections[id]? = some conn2 :=
      getElem?_set_self hlt
    have hv2 : conn2.isValid := by rw [← hconn2]; exact hvalid
    have hfst := createSendHandshake_fst box env hget2 hv2 nC.cookie conn.dhtPublicKey
    obtain ⟨conn3, hget3, -⟩ :=
      (quiet_createSendHandshake box _ env id nC.cookie conn.dhtPublicKey).exists_conn hget2
    split at h
    · rename_i hres
      rw [hres, hmalloc hreq] at hfst
      exact nomatch hfst
    · rename_i hres
      rw [hres] at hget3
      rw [hget3] at h
      exact nomatch h
  · cases h

/-- Valid connections, apart from the one at `i`, keep their keys. -/
def Keeps (i : Option Nat) (c c' : NetCrypto) : Prop :=
  ∀ id conn, i ≠ some id → c.getCryptoConnection id = some conn →
    ∃ conn', c'.getCryptoConnection id = some conn' ∧ conn'.keyState = conn.keyState

theorem Keeps.trans {c'' : NetCrypto} {i : Option Nat} (h1 : Keeps i c c') (h2 : Keeps i c' c'') :
    Keeps i c c'' := by
  intro id conn hi hconn
  obtain ⟨conn', hconn', hk⟩ := h1 id conn hi hconn
  obtain ⟨conn'', hconn'', hk'⟩ := h2 id conn' hi hconn'
  exact ⟨conn'', hconn'', hk'.trans hk⟩

theorem Keeps.of_none (h : Keeps none c c') (i : Option Nat) : Keeps i c c' :=
  fun id conn _ => h id conn nofun

theorem Keeps.to_none (h : Keeps (some id) c c') (hid : c.getCryptoConnection id = none) :
    Keeps none c c' := by
  intro id' conn _ hconn
  refine h id' conn ?_ hconn
  rintro heq
  rw [← Option.some.inj heq, hid] at hconn
  exact nomatch hconn

theorem isValid_of_keyState {conn' : CryptoConnection} (h : conn'.keyState = conn.keyState)
    (hv : conn.isValid) : conn'.isValid := by
  have hs : conn'.status = conn.status := congrArg KeyState.status h
  unfold CryptoConnection.isValid at *
  rwa [hs]

theorem Quiet.keeps (h : Quiet box c c') : Keeps none c c' := by
  intro id conn _ hconn
  obtain ⟨hget, hv⟩ := getCryptoConnection_eq_some.mp hconn
  obtain ⟨conn', hget', hk⟩ := h.exists_conn hget
  exact ⟨conn', getCryptoConnection_eq_some.mpr ⟨hget', isValid_of_keyState hk hv⟩, hk⟩

theorem keeps_setConnection (c : NetCrypto) (id : Nat) (conn : CryptoConnection) :
    Keeps (some id) c (c.setConnection id conn) := by
  intro id' conn' hne hconn
  have hne' : id ≠ id' := fun h => hne (congrArg some h)
  refine ⟨conn', ?_, rfl⟩
  rw [getCryptoConnection_eq_some] at hconn ⊢
  exact ⟨(getElem?_set_ne hne').trans hconn.1, hconn.2⟩

theorem keeps_wipeCryptoConnection (c : NetCrypto) (id : Nat) :
    Keeps (some id) c (c.wipeCryptoConnection id) := by
  intro id' conn' hne hconn
  have hne' : id ≠ id' := fun h => hne (congrArg some h)
  refine ⟨conn', ?_, rfl⟩
  rw [getCryptoConnection_eq_some] at hconn ⊢
  unfold wipeCryptoConnection
  split
  · exact hconn
  split
  · exact hconn
  · refine ⟨List.getElem?_rdropWhile ((getElem?_set_ne hne').trans hconn.1) ?_, hconn.2⟩
    have := hconn.2
    simp only [CryptoConnection.isValid, Bool.and_eq_true] at this
    simpa using this.2

theorem keeps_cryptoKill (c : NetCrypto) (env : Env) (id : Nat) :
    Keeps (some id) c (c.cryptoKill env id) := by
  unfold cryptoKill
  split
  · exact fun id conn _ hconn => ⟨conn, hconn, rfl⟩
  · have hlist : ∀ list packets,
        Keeps (some id) c (({ c with ipPortList := list } : NetCrypto).addSent packets) :=
      fun _ _ id conn _ hconn => ⟨conn, hconn, rfl⟩
    exact (hlist _ _).trans (keeps_wipeCryptoConnection _ id)

theorem keeps_createCryptoConnection (h : c.createCryptoConnection env = some (id, c')) :
    Keeps (some id) c c' ∧ c.getCryptoConnection id = none := by
  unfold createCryptoConnection at h
  split at h
  · rename_i i hfree
    split at h
    · cases h
    rename_i conn hconn
    obtain ⟨rfl, rfl⟩ := Prod.mk.inj (Option.some.inj h)
    refine ⟨keeps_setConnection c i _, ?_⟩
    obtain ⟨hlt, hp, -⟩ := findIdx?_eq_some_iff_getElem.mp hfree
    rw [getElem?_eq_getElem hlt] at hconn
    cases hconn
    simp only [beq_iff_eq] at hp
    simp [getCryptoConnection, getElem?_eq_getElem hlt, CryptoConnection.isValid, hp]
  · split at h
    · cases h
    cases h
    refine ⟨fun id conn _ hconn => ⟨conn, ?_, rfl⟩, ?_⟩
    · rw [getCryptoConnection_eq_some] at hconn ⊢
      exact ⟨(getElem?_append_left (List.getElem?_eq_some_iff.mp hconn.1).1).trans hconn.1, hconn.2⟩
    · simp [getCryptoConnection]

theorem keeps_acceptCryptoConnection (box : CryptoBox) (c : NetCrypto) (env : Env)
    (nC : NewConnection) : Keeps none c (c.acceptCryptoConnection box env nC).2 := by
  unfold acceptCryptoConnection
  split
  · exact fun id conn _ hconn => ⟨conn, hconn, rfl⟩
  split
  · exact fun id conn _ hconn => ⟨conn, hconn, rfl⟩
  rename_i id c1 hcreate
  obtain ⟨h1, hfree⟩ := keeps_createCryptoConnection hcreate
  refine Keeps.to_none ?_ hfree
  split
  · exact h1.trans (keeps_wipeCryptoConnection c1 id)
  split
  · exact h1
  rename_i conn _
  generalize conn.openSession box env nC = conn2
  have hsend := (quiet_createSendHandshake box (c1.setConnection id conn2) env id nC.cookie
    nC.dhtPublicKey).keeps.of_none (some id)
  have h2 := (h1.trans (keeps_setConnection c1 id conn2)).trans hsend
  split
  · rename_i c3 hres
    rw [hres] at h2
    exact h2.trans (keeps_wipeCryptoConnection c3 id)
  · rename_i c3 hres
    rw [hres] at h2
    split
    · exact h2
    · exact (h2.trans (keeps_setConnection c3 id _)).trans
        ((quiet_cryptoConnectionAddSource box _ env id nC.source).keeps.of_none _)

theorem keeps_handleNewConnectionHandshake {packet : Handshake} {source : IPPort}
    (hsound : SoundNew box env c source packet)
    (h : c.handleNewConnectionHandshake box env source packet = (false, c'))
    (hconn : c.getCryptoConnection id = some conn) :
    (∃ conn', c'.getCryptoConnection id = some conn' ∧ conn'.keyState = conn.keyState) ∨
      ∃ nC, c.handleCryptoHandshake box env.now source packet none = some nC ∧
        nC.publicKey = conn.publicKey ∧ nC.dhtPublicKey ≠ conn.dhtPublicKey := by
  have hsame : ∀ {i : Option Nat} {c2 : NetCrypto}, Keeps i c c2 → i ≠ some id →
      ∃ conn', c2.getCryptoConnection id = some conn' ∧ conn'.keyState = conn.keyState :=
    fun hk hi => hk id conn hi hconn
  unfold handleNewConnectionHandshake at h
  split at h
  · rw [← (Prod.mk.inj h).2]
    exact .inl ⟨conn, hconn, rfl⟩
  rename_i nC hdec
  have hacc : Keeps none c (c.addAccepted env.now packet nC) :=
    fun id conn _ hconn => ⟨conn, hconn, rfl⟩
  have hcallback : ∀ {i : Option Nat} {c2 : NetCrypto}, Keeps i c c2 → i ≠ some id →
      (if env.accept then
        ((c2.acceptCryptoConnection box env nC).1.isSome, (c2.acceptCryptoConnection box env nC).2)
      else (false, c2)) = (false, c') →
      ∃ conn', c'.getCryptoConnection id = some conn' ∧ conn'.keyState = conn.keyState := by
    intro i c2 hk hi hres
    split at hres
    · rw [← (Prod.mk.inj hres).2]
      exact hsame (hk.trans ((keeps_acceptCryptoConnection box c2 env nC).of_none i)) hi
    · rw [← (Prod.mk.inj hres).2]
      exact hsame hk hi
  simp only at h
  split at h
  · exact .inl (hcallback hacc nofun h)
  rename_i id0 hid0
  split at h
  · rw [← (Prod.mk.inj h).2]
    exact .inl (hsame hacc nofun)
  rename_i conn0 hconn0
  obtain ⟨hget0, hvalid0⟩ := getCryptoConnection_eq_some.mp hconn0
  have hpk : nC.publicKey = conn0.publicKey := by
    obtain ⟨conn', hget', -, hpk⟩ := getcryptconnectionId_spec hid0
    rw [hget0] at hget'
    exact Option.some.inj hget' ▸ hpk
  split at h
  · rename_i hdht
    by_cases hid : id0 = id
    · -- this is the connection that is killed
      subst hid
      cases hconn0.symm.trans hconn
      exact .inr ⟨nC, hdec, hpk, hdht⟩
    · have hkill := (hacc.of_none (some id0)).trans (keeps_cryptoKill _ env id0)
      exact .inl (hcallback hkill (fun he => hid (Option.some.inj he)) h)
  rename_i hdht
  split at h
  · rw [← (Prod.mk.inj h).2]
    exact .inl (hsame hacc nofun)
  -- the answer can be allocated, so the handshake is not rejected
  obtain ⟨hmalloc, -⟩ := (hsound nC hdec).1 conn0 (mem_of_getElem? hget0) hpk (not_not.mp hdht) (by tauto)
  have hget2 : ((c.addAccepted env.now packet nC).setConnection id0
      (conn0.rekey box nC)).cryptoConnections[id0]? = some (conn0.rekey box nC) :=
    getElem?_set_self (List.getElem?_eq_some_iff.mp hget0).1
  have hsrc := quiet_cryptoConnectionAddSource box ((c.addAccepted env.now packet nC).setConnection
    id0 (conn0.rekey box nC)) env id0 source
  obtain ⟨conn3, hget3, hk3⟩ := hsrc.exists_conn hget2
  have hfst := createSendHandshake_fst box env hget3 (isValid_of_keyState hk3 hvalid0) nC.cookie nC.dhtPublicKey
  obtain ⟨conn4, hget4, -⟩ :=
    (quiet_createSendHandshake box _ env id0 nC.cookie nC.dhtPublicKey).exists_conn hget3
  split at h
  · rename_i hres
    rw [hres, hmalloc] at hfst
    exact nomatch hfst
  · rename_i hres
    rw [hres] at hget4
    rw [hget4] at h
    exact nomatch h

/-! ## Runs -/

/-- In a run whose handshakes all meet `Sound`, the keys of all connections are coherent, and a rejected handshake
    changes nothing, unless the connection is killed. -/
theorem coherent_in_sound_runs (h : (soundSystem box).Reachable c) :
    Coherent box c ∧
    (∀ env id packet c', SoundHs box env c id packet →
      c.handlePacketCryptoHs box env id packet = (false, c') → c'.keyStates = c.keyStates) ∧
    ∀ env source packet c' id conn, SoundNew box env c source packet →
      c.handleNewConnectionHandshake box env source packet = (false, c') →
      c.getCryptoConnection id = some conn →
      (∃ conn', c'.getCryptoConnection id = some conn' ∧ conn'.keyState = conn.keyState) ∨
        ∃ nC, c.handleCryptoHandshake box env.now source packet none = some nC ∧
          nC.publicKey = conn.publicKey ∧ nC.dhtPublicKey ≠ conn.dhtPublicKey :=
  ⟨coherent_of_reachable h, fun _ _ _ _ => keyStates_handlePacketCryptoHs,
    fun _ _ _ _ _ _ => keeps_handleNewConnectionHandshake⟩

/-! A peer connects and then sends a second handshake, for another DHT key. -/

/-- A `Net_Crypto` without connections. -/
def alone : NetCrypto where
  dhtSelfPublicKey := key 1
  dhtSelfSecretKey := key 1
  selfPublicKey := key 2
  selfSecretKey := key 2
  secretSymmetricKey := key 3
  cryptoConnections := []
  ipPortList := .empty
  trace := ⟨[], [], [], [], []⟩

def goodEnv : Env where
  now := 5
  nowMs := 5000
  sentNonce := 0
  cookieNonce := 0
  packetNonce := 0
  number := 0
  sessionPublicKey := key 9
  sessionSecretKey := key 9
  realloc := true
  tcp := true
  malloc := true
  calloc := true
  sendOk _ := true
  accept := true
  react _ := []

/-- A handshake of the peer with the real key `key 4`, with a cookie that `alone` made for
    the DHT key. -/
def handshakeFrom (dhtPublicKey sessionPk : PublicKey) : Handshake :=
  let cookie := alone.createCookie goodEnv (key 4) dhtPublicKey
  { cookie
    encrypted := xorBox.encryptData alone.selfPublicKey (key 4) 0
      { nonce := 0, sessionPk, cookieHash := cryptoSha512 cookie, cookie } }

def peerAddress : IPPort :=
  { emptyIpPort with family := toxAfInet, ip := Vector.replicate _ 1, port := 33445 }

def firstInput : Input := .udpPacket peerAddress (.cryptoHs (handshakeFrom (key 5) (key 7)))

def secondInput : Input := .udpPacket peerAddress (.cryptoHs (handshakeFrom (key 6) (key 8)))

theorem fresh_alone : alone.Fresh := ⟨rfl, rfl, rfl⟩

theorem keyStates_connected :
    (alone.step xorBox goodEnv firstInput).keyStates =
      [{ publicKey := key 4
         dhtPublicKey := key 5
         peerSessionPublicKey := key 7
         sessionSecretKey := key 9
         sharedKey := key 14
         recvNonce := 0
         status := .notConfirmed }] := by
  decide +kernel

theorem sound_firstInput : Sound xorBox goodEnv alone firstInput := by
  constructor
  · rintro id packet (⟨source, -, hid⟩ | heq)
    · -- no address is known yet
      exact nomatch hid
    · cases heq
  · rintro source packet _ nC -
    exact ⟨fun conn hmem => absurd hmem (not_mem_nil), fun _ => rfl⟩

/-- The first handshake alone is a sound run. -/
theorem coherent_in_sound_runs_connected :
    (alone.step xorBox goodEnv firstInput).keyStates.map (·.status) = [.notConfirmed] ∧
      Coherent xorBox (alone.step xorBox goodEnv firstInput) := by
  refine ⟨by rw [keyStates_connected]; rfl, ?_⟩
  exact (coherent_in_sound_runs (.step (.init fresh_alone) ⟨goodEnv, firstInput, sound_firstInput, rfl⟩)).1

theorem keyStates_overwritten :
    ((alone.step xorBox goodEnv firstInput).step xorBox goodEnv secondInput).keyStates =
      [{ publicKey := key 4
         dhtPublicKey := key 5
         peerSessionPublicKey := key 8
         sessionSecretKey := key 9
         sharedKey := key 14
         recvNonce := 0
         status := .notConfirmed }] := by
  decide +kernel

/-- The second handshake overwrites the session public key and leaves the session key. -/
theorem not_coherent_overwritten :
    ¬∀ (box : CryptoBox) (c : NetCrypto), (system box).Reachable c → Coherent box c := by
  intro h
  have hreach : (system xorBox).Reachable
      ((alone.step xorBox goodEnv firstInput).step xorBox goodEnv secondInput) :=
    .step (.step (.init fresh_alone) ⟨goodEnv, firstInput, rfl⟩) ⟨goodEnv, secondInput, rfl⟩
  have hcoh := h xorBox _ hreach
  unfold Coherent at hcoh
  rw [keyStates_overwritten] at hcoh
  have hkey := ((hcoh _ (mem_singleton_self _)).session (.inl rfl)).1
  exact absurd hkey (by decide +kernel)

end NetCrypto

end Toxcore

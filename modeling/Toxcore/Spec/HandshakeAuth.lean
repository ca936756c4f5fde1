import Toxcore.Spec.NetCryptoPackets

/-!
# Authentication of handshakes

Honest parties run `Net_Crypto`s on a network that belongs to an adversary, which may drop, replay and reorder
packets, inject what it has seen or can encrypt, and even take cookies out of encrypted packets.

A connection of `A` that is not confirmed or established, and whose real key `P` is honest, goes back to a
handshake with a cookie that `A` issued for the keys of the connection. The key of `encrypt_data` is the same in
both directions, so the handshake was made by the owner of `P` for `A`, or by `A` itself for `P`: whoever
answers the cookie requests for `P` can reflect it.
-/

namespace Toxcore

open List

def Packet.sealedKey : Packet → Option SharedKey
  | .cookieRequest packet => some packet.encrypted.key
  | .cookieResponse packet => some packet.encrypted.key
  | .cryptoHs packet => some packet.encrypted.key
  | .cryptoData packet => some packet.encrypted.key
  | .other => none

inductive Packet.SameSealed : Packet → Packet → Prop
  | cookieRequest {p q : CookieRequest} (h : p.encrypted = q.encrypted) :
      SameSealed (.cookieRequest p) (.cookieRequest q)
  | cookieResponse {p q : CookieResponse} (h : p.encrypted = q.encrypted) :
      SameSealed (.cookieResponse p) (.cookieResponse q)
  | cryptoHs {p q : Handshake} (h : p.encrypted = q.encrypted) : SameSealed (.cryptoHs p) (.cryptoHs q)
  | cryptoData {p q : DataPacket} (h : p.encrypted = q.encrypted) : SameSealed (.cryptoData p) (.cryptoData q)

/-- The key that `encrypt_data` and `decrypt_data` use. -/
def CryptoBox.dataKey (box : CryptoBox) (publicKey : PublicKey) (secretKey : SecretKey) :
    SharedKey :=
  box.encryptPrecompute publicKey secretKey box.uninitialized

/-- `handle_packet_crypto_hs` decodes only handshakes with the DHT key of the connection. -/
def NetCrypto.SameDht (box : CryptoBox) (env : Env) (c : NetCrypto) (input : NetCrypto.Input) :
    Prop :=
  ∀ conn nC, c.DecodesFor box env input conn nC → nC.dhtPublicKey = conn.dhtPublicKey

def NetCrypto.Made (c : NetCrypto) (peerRealPk : PublicKey) (encrypted : Sealed HandshakePlain) :
    Prop :=
  ∃ h ∈ c.trace.handshakes, h.peerRealPk = peerRealPk ∧ h.packet.encrypted = encrypted

/-- `c` accepted the handshake `acc`, and its cookie was issued by `c` for these keys shortly before. -/
structure KeyState.From (box : CryptoBox) (sameDht : Prop) (c : NetCrypto) (k : KeyState)
    (acc : AcceptedHandshake) : Prop where
  mem : acc ∈ c.trace.accepted
  issued : acc.packet.cookie ∈ c.trace.cookies
  cookieHash : acc.packet.encrypted.plain.cookieHash = cryptoSha512 acc.packet.cookie
  publicKey : acc.packet.cookie.plain.publicKey = k.publicKey
  dhtPublicKey : acc.packet.cookie.plain.dhtPublicKey = k.dhtPublicKey
  time : acc.packet.cookie.plain.time ≤ acc.time
  timeout : acc.time ≤ acc.packet.cookie.plain.time + cookieTimeout
  sharedKey : ∀ key,
    box.beforenm acc.packet.encrypted.plain.sessionPk k.sessionSecretKey = some key →
    k.sharedKey = key
  sessionPk : sameDht → k.peerSessionPublicKey = acc.packet.encrypted.plain.sessionPk
  recvNonce : sameDht → ∃ n : Nat, k.recvNonce =
    acc.packet.encrypted.plain.nonce + BitVec.ofNat 192 (n * dataNumThreshold.toNat)

namespace Network


variable {ι : Type} {box : CryptoBox} {known : SharedKey → Prop} {sameDht : Prop} {s s' : ι → NetCrypto} {i : ι}

structure CanInject (known : SharedKey → Prop) (s : ι → NetCrypto) (packet : Packet) : Prop where
  cookies : ∀ cookie ∈ packet.cookies, known cookie.key ∨ ∃ i, ∃ sent ∈ (s i).trace.sent, cookie ∈ sent.cookies
  isSealed : (∀ key, packet.sealedKey = some key → known key) ∨
    ∃ i, ∃ sent ∈ (s i).trace.sent, packet.SameSealed sent

/-- The adversary has neither the symmetric keys of honest parties nor those between two of them, and these keys
    differ for different parties. -/
structure IdealKeys (box : CryptoBox) (known : SharedKey → Prop) (s : ι → NetCrypto) : Prop where
  symmetric_unknown : ∀ i, ¬known (s i).secretSymmetricKey
  symmetric_injective : ∀ i j, (s i).secretSymmetricKey = (s j).secretSymmetricKey → i = j
  data_unknown : ∀ i j, ¬known (box.dataKey (s j).selfPublicKey (s i).selfSecretKey)
  data_injective : ∀ i j q publicKey,
    box.dataKey publicKey (s q).selfSecretKey = box.dataKey (s j).selfPublicKey (s i).selfSecretKey →
    q = i ∧ publicKey = (s j).selfPublicKey ∨ q = j ∧ publicKey = (s i).selfPublicKey

/-- The runs of the honest parties; with `sameDht` no handshake for another DHT key is decoded. -/
def system [DecidableEq ι] (box : CryptoBox) (known : SharedKey → Prop) (sameDht : Prop) :
    TransitionSystem (ι → NetCrypto) where
  init s := (∀ i, (s i).Fresh) ∧ IdealKeys box known s
  step s s' := ∃ i env input,
    (∀ packet, input.packet? = some packet → CanInject known s packet) ∧
    (sameDht → (s i).SameDht box env input) ∧
    s' = Function.update s i ((s i).step box env input)

/-! ## Cookies -/

def Genuine (s : ι → NetCrypto) (cookie : Cookie) : Prop :=
  ∀ j, cookie.key = (s j).secretSymmetricKey → cookie ∈ (s j).trace.cookies

theorem Genuine.frame {cookie : Cookie} (h : Genuine s cookie)
    (hframe : ∀ j, NetCrypto.Frame box (s j) (s' j)) : Genuine s' cookie := by
  intro j hkey
  rw [(hframe j).secretSymmetricKey] at hkey
  exact (hframe j).cookies_subset (h j hkey)

theorem IdealKeys.frame (h : IdealKeys box known s)
    (hframe : ∀ j, NetCrypto.Frame box (s j) (s' j)) : IdealKeys box known s' := by
  have hsym := fun j => (hframe j).secretSymmetricKey
  have hpub := fun j => (hframe j).selfPublicKey
  have hsec := fun j => (hframe j).selfSecretKey
  constructor
  · simpa only [hsym] using h.symmetric_unknown
  · simpa only [hsym] using h.symmetric_injective
  · simpa only [hpub, hsec] using h.data_unknown
  · simpa only [hpub, hsec] using h.data_injective

/-! ## The invariant -/

structure Authentic (s : ι → NetCrypto) (i : ι) (acc : AcceptedHandshake) : Prop where
  issued : acc.packet.cookie ∈ (s i).trace.cookies
  cookieHash : acc.packet.encrypted.plain.cookieHash = cryptoSha512 acc.packet.cookie
  publicKey : acc.packet.cookie.plain.publicKey = acc.connection.publicKey
  dhtPublicKey : acc.packet.cookie.plain.dhtPublicKey = acc.connection.dhtPublicKey
  time : acc.packet.cookie.plain.time ≤ acc.time
  timeout : acc.time ≤ acc.packet.cookie.plain.time + cookieTimeout
  sessionPk : acc.packet.encrypted.plain.sessionPk = acc.connection.peerSessionPublicKey
  nonce : acc.packet.encrypted.plain.nonce = acc.connection.recvNonce
  made : ∀ j, acc.connection.publicKey = (s j).selfPublicKey →
    (s j).Made (s i).selfPublicKey acc.packet.encrypted ∨ (s i).Made (s j).selfPublicKey acc.packet.encrypted

variable {c : NetCrypto}

theorem Made.frame {c' : NetCrypto} {peerRealPk : PublicKey} {encrypted : Sealed HandshakePlain}
    (h : c.Made peerRealPk encrypted) (hframe : NetCrypto.Frame box c c') :
    c'.Made peerRealPk encrypted := by
  obtain ⟨hs, hmem, hrest⟩ := h
  exact ⟨hs, hframe.handshakes_subset hmem, hrest⟩

theorem Authentic.frame {acc : AcceptedHandshake} (h : Authentic s i acc)
    (hframe : ∀ j, NetCrypto.Frame box (s j) (s' j)) : Authentic s' i acc := by
  refine { h with issued := (hframe i).cookies_subset h.issued, made := fun j hj => ?_ }
  rw [(hframe j).selfPublicKey] at hj ⊢
  rw [(hframe i).selfPublicKey]
  exact (h.made j hj).imp (Made.frame · (hframe j)) (Made.frame · (hframe i))

structure Backed (box : CryptoBox) (sameDht : Prop) (trace : Trace) (k : KeyState) : Prop where
  session : k.status = .notConfirmed ∨ k.status = .established →
    ∃ acc ∈ trace.accepted, acc.connection.publicKey = k.publicKey ∧
      acc.connection.dhtPublicKey = k.dhtPublicKey ∧
      (∀ key, box.beforenm acc.connection.peerSessionPublicKey k.sessionSecretKey = some key →
        k.sharedKey = key) ∧
      (sameDht → k.peerSessionPublicKey = acc.connection.peerSessionPublicKey ∧
        ∃ n : Nat, k.recvNonce = acc.connection.recvNonce + BitVec.ofNat 192 (n * dataNumThreshold.toNat))
  confirmed : k.status = .established → ∃ packet ∈ trace.received, packet.encrypted.key = k.sharedKey

structure Invariant (box : CryptoBox) (known : SharedKey → Prop) (sameDht : Prop)
    (s : ι → NetCrypto) : Prop where
  ideal : IdealKeys box known s
  cookies : ∀ i, ∀ cookie ∈ (s i).trace.cookies, cookie.key = (s i).secretSymmetricKey
  handshakes : ∀ i, ∀ h ∈ (s i).trace.handshakes,
    h.packet.encrypted.key = box.dataKey h.peerRealPk (s i).selfSecretKey
  genuine : ∀ i, ∀ packet ∈ (s i).trace.sent, ∀ cookie ∈ packet.cookies, Genuine s cookie
  made : ∀ i packet, .cryptoHs packet ∈ (s i).trace.sent → packet ∈ (s i).trace.handshakes.map (·.packet)
  accepted : ∀ i, ∀ acc ∈ (s i).trace.accepted, Authentic s i acc
  backed : ∀ i, ∀ k ∈ (s i).keyStates, Backed box sameDht (s i).trace k

/-! ## Connections -/

namespace Backed

variable {trace trace' : Trace} {k : KeyState} {nC : NewConnection}

theorem mono (h : Backed box sameDht trace k) (hacc : trace.accepted ⊆ trace'.accepted)
    (hrec : trace.received ⊆ trace'.received) : Backed box sameDht trace' k where
  session hs := by
    obtain ⟨acc, hmem, hrest⟩ := h.session hs
    exact ⟨acc, hacc hmem, hrest⟩
  confirmed hs := by
    obtain ⟨packet, hmem, hkey⟩ := h.confirmed hs
    exact ⟨packet, hrec hmem, hkey⟩

theorem of_status (h : ¬(k.status = .notConfirmed ∨ k.status = .established)) :
    Backed box sameDht trace k where
  session hs := absurd hs h
  confirmed hs := absurd (.inr hs) h

theorem rekey (hacc : nC ∈ trace.accepted.map (·.connection)) (hpk : nC.publicKey = k.publicKey)
    (hdht : nC.dhtPublicKey = k.dhtPublicKey) :
    Backed box sameDht trace { k.rekey box nC with status := .notConfirmed } where
  session _ := by
    obtain ⟨acc, hmem, rfl⟩ := mem_map.mp hacc
    refine ⟨acc, hmem, hpk, hdht, fun key hkey => ?_, fun _ => ⟨rfl, 0, ?_⟩⟩
    · have hkey : box.beforenm acc.connection.peerSessionPublicKey k.sessionSecretKey = some key :=
        hkey
      simp [KeyState.rekey, CryptoBox.encryptPrecompute, hkey]
    · simp [KeyState.rekey, KeyState.decode]
  confirmed hs := nomatch hs

theorem ofHandshake (sessionSecretKey : SecretKey) (buffer : SharedKey)
    (hacc : nC ∈ trace.accepted.map (·.connection)) :
    Backed box sameDht trace (KeyState.ofHandshake box nC sessionSecretKey buffer) where
  session _ := by
    obtain ⟨acc, hmem, rfl⟩ := mem_map.mp hacc
    refine ⟨acc, hmem, rfl, rfl, fun key hkey => ?_, fun _ => ⟨rfl, 0, ?_⟩⟩
    · have hkey : box.beforenm acc.connection.peerSessionPublicKey sessionSecretKey = some key :=
        hkey
      simp [KeyState.ofHandshake, CryptoBox.encryptPrecompute, hkey]
    · simp [KeyState.ofHandshake]
  confirmed hs := nomatch hs

theorem decode (h : Backed box sameDht trace k) (hother : ¬sameDht) :
    Backed box sameDht trace (k.decode nC) where
  session hs := by
    obtain ⟨acc, hmem, hpk, hdht, hkey, -⟩ := h.session hs
    exact ⟨acc, hmem, hpk, hdht, hkey, fun hsame => absurd hsame hother⟩
  confirmed hs := h.confirmed hs

theorem data (h : Backed box sameDht trace k) {packet : DataPacket} (hp : packet ∈ trace.received)
    (n : Nat) {status : CryptoConnState}
    (hs : status = k.status ∨ k.status = .notConfirmed ∧ status = .established ∧
      packet.encrypted.key = k.sharedKey) :
    Backed box sameDht trace
      { k with
        recvNonce := k.recvNonce + BitVec.ofNat 192 (n * dataNumThreshold.toNat)
        status } where
  session hstatus := by
    have hold : k.status = .notConfirmed ∨ k.status = .established := by
      rcases hs with hs | hs
      · exact hs ▸ hstatus
      · exact .inl hs.1
    obtain ⟨acc, hmem, hpk, hdht, hkey, hstored⟩ := h.session hold
    refine ⟨acc, hmem, hpk, hdht, hkey, fun hsame => ?_⟩
    obtain ⟨hpeer, m, hm⟩ := hstored hsame
    refine ⟨hpeer, m + n, ?_⟩
    rw [hm, BitVec.add_assoc, ← BitVec.ofNat_add, Nat.add_mul]
  confirmed hstatus := by
    rcases hs with hs | ⟨-, -, hkey⟩
    · exact h.confirmed (hs ▸ hstatus)
    · exact ⟨packet, hp, hkey⟩

end Backed

variable {env : Env} {input : NetCrypto.Input}

theorem backed_step (h : ∀ k ∈ c.keyStates, Backed box sameDht c.trace k) (hsame : sameDht → c.SameDht box env input) :
    ∀ k ∈ (c.step box env input).keyStates,
      Backed box sameDht (c.step box env input).trace k := by
  obtain ⟨hframe, hchange, -⟩ := NetCrypto.step_changes box env c input
  have hold : ∀ k ∈ c.keyStates, Backed box sameDht (c.step box env input).trace k :=
    fun k hk => (h k hk).mono hframe.accepted_subset hframe.received_subset
  intro k hk
  cases hchange k hk with
  | kept hmem => exact hold k hmem
  | idle hidle => exact .of_status (by rcases hidle with h | h <;> simp [h])
  | requesting hs _ => exact .of_status (by simp [hs])
  | handshakeSent hmem hs => exact .of_status (by simp)
  | confirmable hmem hHs hacc hdht =>
    obtain ⟨id, packet, hdel, hconn, hstatus, hdec⟩ := hHs
    have hpk := (NetCrypto.handleCryptoHandshake_spec hdec).2 _ rfl
    exact .rekey hacc hpk.symm hdht
  | sendFailed hmem hHs hdht hs hm =>
    exact .of_status (by simp [KeyState.rekey, KeyState.decode, CryptoConnection.keyState, hs])
  | otherDht hmem hHs hdht =>
    -- excluded in runs with `sameDht`
    exact (hold _ (mem_map_of_mem hmem)).decode fun hs => hdht (hsame hs _ _ hHs)
  | crossed hmem hNew hacc hpk hdht hs => exact .rekey hacc hpk hdht
  | crossedSendFailed hmem hNew hpk hdht hs hm =>
    refine .of_status ?_
    rcases hs with hs | hs <;> simp [KeyState.rekey, KeyState.decode, CryptoConnection.keyState, hs]
  | accepted hNew hacc haccept buffer => exact .ofHandshake _ buffer hacc
  | data hmem hp n status hs => exact (hold _ hmem).data hp n hs

/-! ## Injected packets -/

theorem Invariant.genuine_of_canInject {packet : Packet} (h : Invariant box known sameDht s)
    (hinj : CanInject known s packet) : ∀ cookie ∈ packet.cookies, Genuine s cookie := by
  intro cookie hc
  rcases hinj.cookies cookie hc with hknown | ⟨i, sent, hsent, hmem⟩
  · intro j hkey
    exact absurd (hkey ▸ hknown) (h.ideal.symmetric_unknown j)
  · exact h.genuine i sent hsent cookie hmem

theorem Invariant.made_of_canInject {packet : Handshake} {j : ι}
    (h : Invariant box known sameDht s) (hinj : CanInject known s (.cryptoHs packet))
    (hkey : packet.encrypted.key = box.dataKey (s j).selfPublicKey (s i).selfSecretKey) :
    (s j).Made (s i).selfPublicKey packet.encrypted ∨ (s i).Made (s j).selfPublicKey packet.encrypted := by
  rcases hinj.isSealed with hknown | ⟨q, sent, hsent, hsame⟩
  · exact absurd (hkey ▸ hknown _ rfl) (h.ideal.data_unknown i j)
  cases hsame with
  | cryptoHs hencrypted =>
    obtain ⟨hs, hmem, rfl⟩ := mem_map.mp (h.made q _ hsent)
    have hq := h.handshakes q hs hmem
    rw [← hencrypted, hkey] at hq
    rcases h.ideal.data_injective i j q hs.peerRealPk hq.symm with ⟨rfl, hpk⟩ | ⟨rfl, hpk⟩
    · exact .inr ⟨hs, hmem, hpk, hencrypted.symm⟩
    · exact .inl ⟨hs, hmem, hpk, hencrypted.symm⟩

theorem packet?_of_arrives {packet : Handshake} (h : NetCrypto.Arrives input packet)
    : input.packet? = some (.cryptoHs packet) := by
  rcases h with ⟨source, rfl⟩ | ⟨id, rfl⟩ | ⟨publicKey, source, rfl⟩ <;> rfl

theorem Invariant.authentic {source : IPPort} {acc : AcceptedHandshake} {expected : Option PublicKey}
    (h : Invariant box known sameDht s) (hinj : CanInject known s (.cryptoHs acc.packet)) (htime : acc.time = env.now)
    (hdec : (s i).handleCryptoHandshake box env.now source acc.packet expected = some acc.connection)
    : Authentic s i acc := by
  obtain ⟨hd, -⟩ := NetCrypto.handleCryptoHandshake_spec hdec
  refine ⟨?_, hd.cookieHash, hd.publicKey, hd.dhtPublicKey, htime ▸ hd.cookie_time,
    htime ▸ hd.cookie_timeout, hd.sessionPk, hd.recvNonce, fun j hj => ?_⟩
  · exact h.genuine_of_canInject hinj _ mem_cons_self i hd.cookie_key
  · refine h.made_of_canInject hinj ?_
    rw [hd.key, hj]
    rfl

/-! ## Runs -/

variable [DecidableEq ι]

theorem Invariant.of_init (h : (system box known sameDht).init s) :
    Invariant box known sameDht s := by
  obtain ⟨hfresh, hideal⟩ := h
  have htrace := fun i => (hfresh i).trace
  refine ⟨hideal, ?_, ?_, ?_, ?_, ?_, ?_⟩ <;> intro i
  · simp [htrace]
  · simp [htrace]
  · simp [htrace]
  · simp [htrace]
  · simp [htrace]
  · simp [NetCrypto.keyStates, (hfresh i).cryptoConnections]

theorem Invariant.step (h : Invariant box known sameDht s)
    (hinj : ∀ packet, input.packet? = some packet → CanInject known s packet)
    (hsame : sameDht → (s i).SameDht box env input) :
    Invariant box known sameDht (Function.update s i ((s i).step box env input)) := by
  have hchanges := NetCrypto.step_changes box env (s i) input
  have hemits := NetCrypto.step_emits box env (s i) input
  have hbacked := backed_step (h.backed i) hsame
  generalize hc' : (s i).step box env input = c' at hchanges hemits hbacked ⊢
  generalize hs' : Function.update s i c' = s'
  have hi : s' i = c' := by rw [← hs', Function.update_self]
  have hj : ∀ j, j ≠ i → s' j = s j := fun j hne => by rw [← hs', Function.update_of_ne hne]
  have hframe : ∀ j, NetCrypto.Frame box (s j) (s' j) := by
    intro j
    by_cases hne : j = i
    · rw [hne, hi]
      exact hchanges.frame
    · rw [hj j hne]
  have hcookies : ∀ j, ∀ cookie ∈ (s' j).trace.cookies,
      cookie.key = (s' j).secretSymmetricKey := by
    intro j cookie hc
    rw [(hframe j).secretSymmetricKey]
    exact ((hframe j).cookies_new cookie hc).elim (h.cookies j cookie) fun hkey => hkey
  have hideal := h.ideal.frame hframe
  refine ⟨hideal, hcookies, ?_, ?_, ?_, ?_, ?_⟩
  · intro j hs hmem
    rw [(hframe j).selfSecretKey]
    exact ((hframe j).handshakes_new hs hmem).elim (h.handshakes j hs) fun hkey => hkey
  · intro j packet hp cookie hc
    by_cases hne : j = i
    · subst hne
      rw [hi] at hp
      rcases hemits.cookies packet hp with hold | hnew
      · exact (h.genuine j packet hold cookie hc).frame hframe
      rcases hnew cookie hc with hown | ⟨arrived, harr, hmem⟩
      · -- an own cookie: its key is that of no other party
        intro q hq
        have hkey := hcookies j cookie (hi ▸ hown)
        obtain rfl := hideal.symmetric_injective j q (hkey.symm.trans hq)
        exact hi ▸ hown
      · exact (h.genuine_of_canInject (hinj arrived harr) cookie hmem).frame hframe
    · rw [hj j hne] at hp
      exact (h.genuine j packet hp cookie hc).frame hframe
  · intro j packet hp
    by_cases hne : j = i
    · subst hne
      rw [hi] at hp ⊢
      rcases hemits.handshakes packet hp with hold | hnew
      · exact map_subset _ hemits.handshakes_subset (h.made j packet hold)
      · exact hnew
    · rw [hj j hne] at hp ⊢
      exact h.made j packet hp
  · intro j acc hacc
    refine Authentic.frame ?_ hframe
    by_cases hne : j = i
    · subst hne
      rw [hi] at hacc
      rcases hchanges.accepted acc hacc with hold | ⟨htime, harr, source, expected, hdec⟩
      · exact h.accepted j acc hold
      · exact h.authentic (hinj _ (packet?_of_arrives harr)) htime hdec
    · rw [hj j hne] at hacc
      exact h.accepted j acc hacc
  · intro j k hk
    by_cases hne : j = i
    · subst hne
      rw [hi] at hk ⊢
      exact hbacked k hk
    · rw [hj j hne] at hk ⊢
      exact h.backed j k hk

theorem invariant_of_reachable (h : (system box known sameDht).Reachable s) :
    Invariant box known sameDht s := by
  refine h.invariant (fun s => Invariant.of_init) ?_
  rintro s _ hinv ⟨i, env, input, hinj, hsame, rfl⟩
  exact hinv.step hinj hsame

def pairKey (x y : UInt8) : SharedKey := if x ≤ y then (key x).set 0 y else (key y).set 0 x

def pairBox : CryptoBox where
  beforenm publicKey secretKey :=
    if publicKey = key publicKey[0] then some (pairKey publicKey[0] secretKey[0]) else none
  uninitialized := key 0

def adversaryKnows (sharedKey : SharedKey) : Prop := sharedKey = pairKey 6 1

instance : DecidablePred adversaryKnows :=
  fun sharedKey => inferInstanceAs (Decidable (sharedKey = pairKey 6 1))

inductive Party
  | a
  | p
deriving DecidableEq

/-- The party with the real key `key 4`. -/
def peer : NetCrypto :=
  { NetCrypto.alone with
    dhtSelfPublicKey := key 5
    dhtSelfSecretKey := key 5
    selfPublicKey := key 4
    selfSecretKey := key 4
    secretSymmetricKey := key 7 }

/-- The states in which `p` has done nothing. -/
def withPeer (c : NetCrypto) : Party → NetCrypto
  | .a => c
  | .p => peer

theorem update_withPeer (c c' : NetCrypto) :
    Function.update (withPeer c) .a c' = withPeer c' := by
  funext party
  cases party <;> rfl

/-- The adversary asks `a` for a cookie for the real key of `p` and its own DHT key. -/
def requestInput : NetCrypto.Input :=
  .udpCookieRequest
    { dhtPublicKey := key 6
      encrypted := encryptDataSymmetric (pairKey 6 1) 0 { publicKey := key 4, padding := key 0, number := 0 } }

/-- `a` has answered. -/
def requested : NetCrypto := NetCrypto.alone.step pairBox NetCrypto.goodEnv requestInput

/-- `a` connects to `p`. -/
def connecting : NetCrypto := requested.step pairBox NetCrypto.goodEnv (.newConnection (key 4) (key 6))

/-- The cookie that `a` has issued. -/
def ownCookie : Cookie := NetCrypto.alone.createCookie NetCrypto.goodEnv (key 4) (key 6)

/-- The adversary answers the cookie request of `a` with this cookie. -/
def responseInput : NetCrypto.Input :=
  .tcpPacket 0 (.cookieResponse ⟨encryptDataSymmetric (pairKey 6 1) 0 { cookie := ownCookie, number := 0 }⟩)

/-- `a` has sent a handshake. -/
def shaking : NetCrypto := connecting.step pairBox NetCrypto.goodEnv responseInput

/-- The handshake that `a` has sent to `p`. -/
def ownHandshake : Handshake :=
  (NetCrypto.alone.createCryptoHandshake pairBox NetCrypto.goodEnv ownCookie 0 (key 9) (key 4) (key 6)).1

/-- `a` receives its own handshake. -/
def reflected : NetCrypto :=
  shaking.step pairBox NetCrypto.goodEnv (.tcpPacket 0 (.cryptoHs ownHandshake))

theorem pairKey_injective {x y x' y' : UInt8} (h : pairKey x y = pairKey x' y') :
    x = x' ∧ y = y' ∨ y = x' ∧ x = y' := by
  have h0 : (pairKey x y)[0] = (pairKey x' y')[0] := congrArg (·[0]) h
  have h1 : (pairKey x y)[1] = (pairKey x' y')[1] := congrArg (·[1]) h
  by_cases hxy : x ≤ y <;> by_cases hxy' : x' ≤ y' <;>
    simp only [pairKey, hxy, hxy'] at h0 h1
  · exact .inl ⟨h1, h0⟩
  · exact .inr ⟨h0, h1⟩
  · exact .inr ⟨h1, h0⟩
  · exact .inl ⟨h0, h1⟩

theorem dataKey_pairBox (publicKey secretKey : PublicKey) :
    pairBox.dataKey publicKey secretKey =
      if publicKey = key publicKey[0] then pairKey publicKey[0] secretKey[0] else key 0 := by
  change (if publicKey = key publicKey[0] then some (pairKey publicKey[0] secretKey[0])
    else none).getD (key 0) = _
  split <;> rfl

theorem idealKeys_withPeer : IdealKeys pairBox adversaryKnows (withPeer NetCrypto.alone) where
  symmetric_unknown i := by cases i <;> decide +kernel
  symmetric_injective i j := by cases i <;> cases j <;> decide +kernel
  data_unknown i j := by cases i <;> cases j <;> decide +kernel
  data_injective i j q publicKey h := by
    have hpub : ∀ party, (withPeer NetCrypto.alone party).selfPublicKey =
        key (withPeer NetCrypto.alone party).selfSecretKey[0] := by
      intro party
      cases party <;> rfl
    have hpos : ∀ i j : Party, pairKey (withPeer NetCrypto.alone j).selfSecretKey[0]
        (withPeer NetCrypto.alone i).selfSecretKey[0] ≠ key 0 := by
      intro i j
      cases i <;> cases j <;> decide +kernel
    have hinj : ∀ i j : Party, (withPeer NetCrypto.alone i).selfSecretKey[0] =
        (withPeer NetCrypto.alone j).selfSecretKey[0] → i = j := by
      intro i j
      cases i <;> cases j <;> decide +kernel
    have hkey : ∀ b : UInt8, (key b)[0] = b := fun _ => rfl
    rw [dataKey_pairBox, dataKey_pairBox, hpub j, hkey, if_pos rfl] at h
    split at h
    · rename_i hconst
      rw [hconst, hpub j, hpub i]
      rcases pairKey_injective h with ⟨hx, hq⟩ | ⟨hq, hx⟩
      · exact .inl ⟨hinj q i hq, by rw [hx]⟩
      · exact .inr ⟨hinj q j hq, by rw [hx]⟩
    · exact absurd h.symm (hpos i j)

theorem fresh_withPeer (party : Party) : (withPeer NetCrypto.alone party).Fresh := by
  cases party <;> exact ⟨rfl, rfl, rfl⟩

theorem step_withPeer (h : (system pairBox adversaryKnows True).Reachable (withPeer c))
    (hinj : ∀ packet, input.packet? = some packet → CanInject adversaryKnows (withPeer c) packet)
    (hsame : c.SameDht pairBox env input) :
    (system pairBox adversaryKnows True).Reachable (withPeer (c.step pairBox env input)) :=
  .step h ⟨.a, env, input, hinj, fun _ => hsame, (update_withPeer c _).symm⟩

theorem sameDht_of_packet? (h : ∀ packet, input.packet? ≠ some (.cryptoHs packet)) : c.SameDht box env input := by
  rintro conn nC ⟨id, packet, hdel, -⟩
  rcases hdel with ⟨source, rfl, -⟩ | rfl <;> exact absurd rfl (h packet)

theorem reachable_requested : (system pairBox adversaryKnows True).Reachable (withPeer requested) := by
  refine step_withPeer (.init ⟨fresh_withPeer, idealKeys_withPeer⟩) ?_ (sameDht_of_packet? fun _ => nofun)
  rintro packet heq
  cases heq
  exact ⟨fun cookie hc => absurd hc not_mem_nil, .inl fun _ hkey => (Option.some.inj hkey).symm⟩

theorem reachable_shaking : (system pairBox adversaryKnows True).Reachable (withPeer shaking) := by
  have hconnecting : (system pairBox adversaryKnows True).Reachable (withPeer connecting) :=
    step_withPeer reachable_requested (fun _ => nofun) (sameDht_of_packet? fun _ => nofun)
  refine step_withPeer hconnecting ?_ (sameDht_of_packet? fun _ => nofun)
  rintro packet heq
  cases heq
  refine ⟨fun cookie hc => .inr ?_, .inl fun _ hkey => (Option.some.inj hkey).symm⟩
  obtain rfl := mem_singleton.mp hc
  have hsent : ∃ sent ∈ connecting.trace.sent, ownCookie ∈ sent.cookies := by decide +kernel
  exact ⟨.a, hsent⟩

theorem reachable_reflected : (system pairBox adversaryKnows True).Reachable (withPeer reflected) := by
  have hsent : Packet.cryptoHs ownHandshake ∈ shaking.trace.sent := by decide +kernel
  refine step_withPeer reachable_shaking ?_ ?_
  · rintro packet heq
    cases heq
    exact ⟨fun cookie hc => .inr ⟨.a, _, hsent, hc⟩, .inr ⟨.a, _, hsent, .cryptoHs rfl⟩⟩
  · rintro conn nC ⟨id, packet, hdel, hconn, -, hdec⟩
    obtain ⟨rfl, rfl⟩ : id = 0 ∧ packet = ownHandshake := by
      rcases hdel with ⟨source, heq, -⟩ | heq
      · cases heq
      · injection heq with hid hpacket
        exact ⟨hid.symm, (Packet.cryptoHs.inj hpacket).symm⟩
    have hdht : (shaking.getCryptoConnection 0).map (·.dhtPublicKey) = some (key 6) := by
      decide +kernel
    rw [hconn] at hdht
    have hconnDht : conn.dhtPublicKey = key 6 := Option.some.inj hdht
    rw [← (NetCrypto.handleCryptoHandshake_spec hdec).1.dhtPublicKey, hconnDht]
    rfl

theorem exists_reflected : ∃ conn ∈ reflected.cryptoConnections,
    conn.status = .notConfirmed ∧ conn.publicKey = peer.selfPublicKey := by
  decide +kernel

end Network

end Toxcore

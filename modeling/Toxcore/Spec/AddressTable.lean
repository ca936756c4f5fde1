import Mathlib.Logic.Function.Basic
import Toxcore.Spec.BSListCorrect
import Toxcore.Spec.KeyCoherence

/-!
# The address table

`ip_port_list` of a `Net_Crypto` maps the addresses of all valid connections to their ids. A function that
changes an address adds the new one first, and returns early when it is taken. `Consistent` relates the list to
the valid connections; it says nothing about `empty_ip_port`, which several of them share.
-/

namespace Toxcore

open List

/-! ## The bytes of an address -/

def IPPort.IsSet (ipPort : IPPort) : Prop := ipPort.isIpv4 ∨ ipPort.isIpv6

theorem not_isSet_emptyIpPort : ¬emptyIpPort.IsSet := by
  unfold IPPort.IsSet
  decide

theorem IPPort.bytes_injective {a b : IPPort} (h : a.bytes = b.bytes) : a = b := by
  simp only [IPPort.bytes, cons_append, List.cons.injEq, append_assoc] at h
  obtain ⟨hfamily, h⟩ := h
  obtain ⟨hpad1, h⟩ := append_inj h (by simp)
  obtain ⟨hip, h⟩ := append_inj h (by simp)
  simp only [nil_append, List.cons.injEq] at h
  obtain ⟨hhigh, hlow, hpad2⟩ := h
  have hport : a.port = b.port := by
    have ha := a.port.toNat_lt
    have hb := b.port.toNat_lt
    have hhigh := congrArg UInt8.toNat hhigh
    have hlow := congrArg UInt8.toNat hlow
    simp only [UInt8.toNat_ofNat'] at hhigh hlow
    apply UInt16.toNat_inj.mp
    omega
  have hpadding : a.padding = b.padding := by
    apply Vector.toList_inj.mp
    rw [← take_append_drop 7 a.padding.toList, hpad1, hpad2, take_append_drop]
  cases a
  cases b
  simp_all [Vector.toList_inj]

/-! ## Tables -/

def AddressState.Has (a : AddressState) (ipPort : IPPort) : Prop :=
  (a.ipPortv4 = ipPort ∨ a.ipPortv6 = ipPort) ∧ ipPort.IsSet

def AddressState.Families (a : AddressState) : Prop :=
  (a.ipPortv4 = emptyIpPort ∨ a.ipPortv4.isIpv4) ∧ (a.ipPortv6 = emptyIpPort ∨ a.ipPortv6.isIpv6)

/-- The list holds the addresses of the connections `peerAt`, and no two of these have the
    same real key. -/
structure Consistent (list : BSList) (peerAt : Nat → Option AddressState) : Prop where
  sorted : list.Sorted
  families : ∀ id a, peerAt id = some a → a.Families
  entries : ∀ e, e ∈ list.entries ↔ ∃ a ipPort, peerAt e.2 = some a ∧ a.Has ipPort ∧ e.1 = ipPort.bytes
  publicKeys : ∀ id id' a a', peerAt id = some a → peerAt id' = some a' → a.publicKey = a'.publicKey → id = id'

def AddressState.unset (publicKey : PublicKey) : AddressState :=
  { publicKey, ipPortv4 := emptyIpPort, ipPortv6 := emptyIpPort }

theorem AddressState.not_has_unset {publicKey : PublicKey} {ipPort : IPPort} :
    ¬(unset publicKey).Has ipPort := by
  rintro ⟨rfl | rfl, hset⟩
  · exact not_isSet_emptyIpPort hset
  · exact not_isSet_emptyIpPort hset

theorem AddressState.Families.ne {a : AddressState} (h : a.Families) {ipPort : IPPort}
    (hset : ipPort.IsSet) (h4 : a.ipPortv4 = ipPort) (h6 : a.ipPortv6 = ipPort) : False := by
  rcases h.1 with h1 | h1
  · exact not_isSet_emptyIpPort (h1 ▸ h4 ▸ hset)
  rcases h.2 with h2 | h2
  · exact not_isSet_emptyIpPort (h2 ▸ h6 ▸ hset)
  · simp only [IPPort.isIpv4, IPPort.isIpv6, beq_iff_eq, h4, h6] at h1 h2
    rw [h1] at h2
    exact absurd h2 (by decide)

theorem AddressState.has_ipPortv4 {a : AddressState} (h : a.Families) {new : IPPort}
    (hnew : new.IsSet) (ipPort : IPPort) :
    { a with ipPortv4 := new }.Has ipPort ↔ ipPort = new ∨ a.Has ipPort ∧ ipPort ≠ a.ipPortv4 := by
  constructor
  · rintro ⟨rfl | h6, hset⟩
    · exact .inl rfl
    · exact .inr ⟨⟨.inr h6, hset⟩, fun heq => h.ne hset heq.symm h6⟩
  · rintro (rfl | ⟨⟨rfl | h6, hset⟩, hne⟩)
    · exact ⟨.inl rfl, hnew⟩
    · exact absurd rfl hne
    · exact ⟨.inr h6, hset⟩

theorem AddressState.has_ipPortv6 {a : AddressState} (h : a.Families) {new : IPPort}
    (hnew : new.IsSet) (ipPort : IPPort) :
    { a with ipPortv6 := new }.Has ipPort ↔ ipPort = new ∨ a.Has ipPort ∧ ipPort ≠ a.ipPortv6 := by
  constructor
  · rintro ⟨h4 | rfl, hset⟩
    · exact .inr ⟨⟨.inl h4, hset⟩, fun heq => h.ne hset h4 heq.symm⟩
    · exact .inl rfl
  · rintro (rfl | ⟨⟨h4 | rfl, hset⟩, hne⟩)
    · exact ⟨.inr rfl, hnew⟩
    · exact ⟨.inl h4, hset⟩
    · exact absurd rfl hne

namespace Consistent

variable {list list' : BSList} {peerAt : Nat → Option AddressState} {id : Nat} {a a' : AddressState}

theorem empty : Consistent .empty fun _ => none where
  sorted := BSList.sorted_empty
  families _ _ h := nomatch h
  entries _ := ⟨fun h => absurd h not_mem_nil, fun ⟨_, _, h, _⟩ => nomatch h⟩
  publicKeys _ _ _ _ h := nomatch h

section

variable (h : Consistent list peerAt)
include h

theorem wiped (hsorted : list'.Sorted)
    (hlist : ∀ e, e ∈ list'.entries ↔ e ∈ list.entries ∧ e.2 ≠ id) :
    Consistent list' (Function.update peerAt id none) := by
  have hold : ∀ id' a', Function.update peerAt id none id' = some a' → id' ≠ id ∧
      peerAt id' = some a' := by
    intro id' a' h'
    rw [Function.update_apply] at h'
    split at h'
    · exact nomatch h'
    · exact ⟨‹_›, h'⟩
  refine ⟨hsorted, fun id' a' h' => h.families id' a' (hold id' a' h').2, fun e => ?_, ?_⟩
  · rw [hlist, h.entries]
    constructor
    · rintro ⟨⟨a', ipPort, ha', hrest⟩, hne⟩
      exact ⟨a', ipPort, (Function.update_of_ne hne _ _).trans ha', hrest⟩
    · rintro ⟨a', ipPort, ha', hrest⟩
      obtain ⟨hne, ha'⟩ := hold _ _ ha'
      exact ⟨⟨a', ipPort, ha', hrest⟩, hne⟩
  · intro i j ai aj hi hj
    exact h.publicKeys i j ai aj (hold i ai hi).2 (hold j aj hj).2

theorem opened {publicKey : PublicKey} (hid : peerAt id = none)
    (hnew : ∀ id' a', peerAt id' = some a' → a'.publicKey ≠ publicKey) :
    Consistent list (Function.update peerAt id (some (.unset publicKey))) := by
  have hcases : ∀ {id' a'}, Function.update peerAt id (some (.unset publicKey)) id' = some a' →
      id' = id ∧ a' = .unset publicKey ∨ id' ≠ id ∧ peerAt id' = some a' := by
    intro id' a' h'
    rw [Function.update_apply] at h'
    split at h'
    · exact .inl ⟨‹_›, (Option.some.inj h').symm⟩
    · exact .inr ⟨‹_›, h'⟩
  refine ⟨h.sorted, fun id' a' h' => ?_, fun e => ?_, ?_⟩
  · rcases hcases h' with ⟨-, rfl⟩ | ⟨-, h'⟩
    · exact ⟨.inl rfl, .inl rfl⟩
    · exact h.families id' a' h'
  · rw [h.entries]
    constructor
    · rintro ⟨a', ipPort, ha', hrest⟩
      have hne : e.2 ≠ id := by
        rintro heq
        rw [heq, hid] at ha'
        exact nomatch ha'
      exact ⟨a', ipPort, (Function.update_of_ne hne _ _).trans ha', hrest⟩
    · rintro ⟨a', ipPort, ha', hhas, hbytes⟩
      rcases hcases ha' with ⟨-, rfl⟩ | ⟨-, ha'⟩
      · exact absurd hhas AddressState.not_has_unset
      · exact ⟨a', ipPort, ha', hhas, hbytes⟩
  · intro i j ai aj hi hj hpk
    rcases hcases hi with ⟨rfl, rfl⟩ | ⟨-, hi'⟩ <;> rcases hcases hj with ⟨rfl, rfl⟩ | ⟨-, hj'⟩
    · rfl
    · exact absurd hpk.symm (hnew j aj hj')
    · exact absurd hpk (hnew i ai hi')
    · exact h.publicKeys i j ai aj hi' hj' hpk

theorem readdressed (ha : peerAt id = some a) (hpk : a'.publicKey = a.publicKey)
    (hfam : a'.Families) {old new : IPPort} (hne : new ≠ old)
    (hhas : ∀ ipPort, a'.Has ipPort ↔ ipPort = new ∨ a.Has ipPort ∧ ipPort ≠ old) (hsorted : list'.Sorted)
    (hlist : ∀ e, e ∈ list'.entries ↔ (e = (new.bytes, id) ∨ e ∈ list.entries) ∧ e ≠ (old.bytes, id)) :
    Consistent list' (Function.update peerAt id (some a')) := by
  have hcases : ∀ {id' b}, Function.update peerAt id (some a') id' = some b →
      id' = id ∧ b = a' ∨ id' ≠ id ∧ peerAt id' = some b := by
    intro id' b h'
    rw [Function.update_apply] at h'
    split at h'
    · exact .inl ⟨‹_›, (Option.some.inj h').symm⟩
    · exact .inr ⟨‹_›, h'⟩
  refine ⟨hsorted, fun id' b h' => ?_, fun e => ?_, ?_⟩
  · rcases hcases h' with ⟨-, rfl⟩ | ⟨-, h'⟩
    · exact hfam
    · exact h.families id' b h'
  · obtain ⟨bytes, eid⟩ := e
    rw [hlist, h.entries]
    by_cases heid : eid = id
    · subst heid
      -- the entries of the connection itself
      simp only [ha, Function.update_self, Option.some.injEq, Prod.mk.injEq, and_true, ne_eq]
      constructor
      · rintro ⟨rfl | ⟨b, ipPort, rfl, hb, rfl⟩, hold⟩
        · exact ⟨a', new, rfl, (hhas new).mpr (.inl rfl), rfl⟩
        · refine ⟨a', ipPort, rfl, (hhas ipPort).mpr (.inr ⟨hb, ?_⟩), rfl⟩
          rintro rfl
          exact hold rfl
      · rintro ⟨b, ipPort, rfl, hb, rfl⟩
        rcases (hhas ipPort).mp hb with rfl | ⟨hb, hold⟩
        · exact ⟨.inl rfl, fun heq => hne (IPPort.bytes_injective heq)⟩
        · exact ⟨.inr ⟨a, ipPort, rfl, hb, rfl⟩, fun heq => hold (IPPort.bytes_injective heq)⟩
    · simp [heid]
  · intro i j ai aj hi hj hkey
    rcases hcases hi with ⟨rfl, rfl⟩ | ⟨-, hi'⟩ <;> rcases hcases hj with ⟨rfl, rfl⟩ | ⟨-, hj'⟩
    · rfl
    · exact h.publicKeys _ _ a aj ha hj' (hpk.symm.trans hkey)
    · exact h.publicKeys _ _ ai a hi' ha (hkey.trans hpk)
    · exact h.publicKeys i j ai aj hi' hj' hkey

end

end Consistent

namespace NetCrypto

variable {box : CryptoBox} {env : Env} {c c' c'' : NetCrypto} {id : Nat} {conn conn' : CryptoConnection}

def peerAt (c : NetCrypto) (id : Nat) : Option AddressState :=
  (c.getCryptoConnection id).map CryptoConnection.addressState

def Idle (c : NetCrypto) : Prop :=
  ∀ conn ∈ c.cryptoConnections, ¬conn.isValid → conn.ipPortv4 = emptyIpPort ∧ conn.ipPortv6 = emptyIpPort

structure TableInv (c : NetCrypto) : Prop where
  consistent : Consistent c.ipPortList c.peerAt
  idle : c.Idle

/-! ## Functions that leave the table alone -/

structure SameTable (c c' : NetCrypto) : Prop where
  ipPortList : c'.ipPortList = c.ipPortList
  peerAt : c'.peerAt = c.peerAt
  idle : c.Idle → c'.Idle

namespace SameTable

theorem of_eq (hlist : c'.ipPortList = c.ipPortList)
    (hconns : c'.cryptoConnections = c.cryptoConnections) : SameTable c c' := by
  refine ⟨hlist, ?_, fun h conn hmem => h conn (by rwa [hconns] at hmem)⟩
  funext id
  simp only [NetCrypto.peerAt, getCryptoConnection, hconns]

@[refl] protected theorem refl (c : NetCrypto) : SameTable c c := of_eq rfl rfl

protected theorem trans (h1 : SameTable c c') (h2 : SameTable c' c'') : SameTable c c'' :=
  ⟨h2.ipPortList.trans h1.ipPortList, h2.peerAt.trans h1.peerAt, fun h => h2.idle (h1.idle h)⟩

theorem tableInv (h : SameTable c c') (hinv : TableInv c) : TableInv c' :=
  ⟨by rw [h.ipPortList, h.peerAt]; exact hinv.consistent, h.idle hinv.idle⟩

theorem exists_conn (h : SameTable c c') (hconn : c.getCryptoConnection id = some conn) :
    ∃ conn', c'.getCryptoConnection id = some conn' ∧ conn'.addressState = conn.addressState := by
  have hpeer : c'.peerAt id = some conn.addressState := by
    rw [h.peerAt, NetCrypto.peerAt, hconn]
    rfl
  exact Option.map_eq_some_iff.mp hpeer

end SameTable

theorem getCryptoConnection_setConnection_self (h : id < c.cryptoConnections.length) :
    (c.setConnection id conn).getCryptoConnection id = if conn.isValid then some conn else none := by
  simp [getCryptoConnection, setConnection, h]

theorem getCryptoConnection_setConnection_of_ne {id' : Nat} (h : id' ≠ id) :
    (c.setConnection id conn).getCryptoConnection id' = c.getCryptoConnection id' := by
  simp only [getCryptoConnection, setConnection, getElem?_set_ne (Ne.symm h)]

theorem peerAt_setConnection (h : id < c.cryptoConnections.length) (conn : CryptoConnection) :
    (c.setConnection id conn).peerAt =
      Function.update c.peerAt id (if conn.isValid then some conn.addressState else none) := by
  funext id'
  rw [Function.update_apply]
  unfold peerAt
  split
  · rename_i heq
    rw [heq, getCryptoConnection_setConnection_self h]
    split <;> rfl
  · rename_i hne
    rw [getCryptoConnection_setConnection_of_ne hne]

theorem idle_setConnection (h : c.Idle)
    (hconn : ¬conn.isValid → conn.ipPortv4 = emptyIpPort ∧ conn.ipPortv6 = emptyIpPort) :
    (c.setConnection id conn).Idle := by
  intro conn' hmem
  rcases mem_or_eq_of_mem_set hmem with hold | rfl
  · exact h conn' hold
  · exact hconn

theorem sameTable_setConnection (h : c.cryptoConnections[id]? = some conn)
    (ha : conn'.addressState = conn.addressState) (hv : conn'.isValid = conn.isValid) :
    SameTable c (c.setConnection id conn') := by
  refine ⟨rfl, ?_, fun hidle => idle_setConnection hidle fun hinv => ?_⟩
  · rw [peerAt_setConnection (List.getElem?_eq_some_iff.mp h).1, ha, hv]
    refine Function.update_eq_self_iff.mpr ?_
    unfold peerAt getCryptoConnection
    rw [h]
    simp only
    split <;> rfl
  · rw [hv] at hinv
    obtain ⟨h4, h6⟩ := hidle conn (mem_of_getElem? h) hinv
    exact ⟨(congrArg AddressState.ipPortv4 ha).trans h4, (congrArg AddressState.ipPortv6 ha).trans h6⟩

theorem sameTable_setValid (h : c.getCryptoConnection id = some conn)
    (ha : conn'.addressState = conn.addressState) (hv : conn'.isValid) :
    SameTable c (c.setConnection id conn') := by
  obtain ⟨hget, hvalid⟩ := getCryptoConnection_eq_some.mp h
  exact sameTable_setConnection hget ha (by rw [hv, hvalid])

theorem sameTable_addSent (c : NetCrypto) (packets : List Packet) :
    SameTable c (c.addSent packets) :=
  .of_eq rfl rfl

theorem sameTable_newTempPacket (c : NetCrypto) (env : Env) (id : Nat) (packet : Packet) :
    SameTable c (c.newTempPacket env id packet).2 := by
  unfold newTempPacket
  split
  · rfl
  rename_i conn hconn
  split
  · rfl
  · exact sameTable_setConnection (getCryptoConnection_eq_some.mp hconn).1 rfl rfl

theorem sameTable_sendTempPacket (c : NetCrypto) (env : Env) (id : Nat) :
    SameTable c (c.sendTempPacket env id).2 := by
  unfold sendTempPacket
  split
  · rfl
  rename_i conn hconn
  split
  · rfl
  split
  · rfl
  · exact sameTable_setConnection (getCryptoConnection_eq_some.mp hconn).1 rfl rfl

theorem sameTable_createSendHandshake (box : CryptoBox) (c : NetCrypto) (env : Env) (id : Nat)
    (cookie : Cookie) (dhtPublicKey : PublicKey) :
    SameTable c (c.createSendHandshake box env id cookie dhtPublicKey).2 := by
  unfold createSendHandshake
  split
  · rfl
  rename_i conn _
  simp only
  have hnew := sameTable_newTempPacket c env id (.cryptoHs (c.createCryptoHandshake box env cookie
    conn.sentNonce conn.sessionPublicKey conn.publicKey dhtPublicKey).1)
  split
  · rename_i c1 h1
    rw [h1] at hnew
    exact hnew
  · rename_i c1 h1
    rw [h1] at hnew
    exact (hnew.trans (sameTable_sendTempPacket c1 env id)).trans (.of_eq rfl rfl)

theorem sameTable_setDirectLastrecvTime (c : NetCrypto) (id : Nat) (ipPort : IPPort)
    (time : UInt64) : SameTable c (c.setDirectLastrecvTime id ipPort time) := by
  unfold setDirectLastrecvTime
  split
  · rfl
  rename_i conn hconn
  split <;> exact sameTable_setConnection hconn rfl rfl

theorem sameTable_connectionApi (c : NetCrypto) (id : Nat) (call : Peer.ApiCall) :
    SameTable c (c.connectionApi id call) := by
  unfold connectionApi
  split
  · rfl
  rename_i conn hconn
  obtain ⟨hget, hvalid⟩ := getCryptoConnection_eq_some.mp hconn
  have hside := Peer.api_sendSide ⟨conn, [], [], []⟩ call
  have hv := isValid_of_keyState hside.keyState hvalid
  exact (sameTable_setValid hconn hside.addressState hv).trans (sameTable_addSent _ _)

theorem sameTable_udpHandleCookieRequest (c : NetCrypto) (env : Env) (packet : CookieRequest) :
    SameTable c (c.udpHandleCookieRequest box env packet) := by
  unfold udpHandleCookieRequest
  split
  · rfl
  · exact .of_eq rfl rfl

theorem sameTable_tcpOobHandleCookieRequest (c : NetCrypto) (env : Env) (dhtPublicKey : PublicKey)
    (packet : CookieRequest) :
    SameTable c (c.tcpOobHandleCookieRequest box env dhtPublicKey packet) := by
  unfold tcpOobHandleCookieRequest
  split
  · rfl
  split
  · rfl
  · exact .of_eq rfl rfl

/-! ## Wiping and creating connections -/

theorem getCryptoConnection_dropFree {conns : List CryptoConnection} :
    ({ c with cryptoConnections := conns.rdropWhile (·.status == .free) } : NetCrypto).getCryptoConnection id =
    ({ c with cryptoConnections := conns } : NetCrypto).getCryptoConnection id := by
  apply Option.ext
  intro conn
  rw [getCryptoConnection_eq_some, getCryptoConnection_eq_some]
  constructor
  · rintro ⟨hget, hv⟩
    exact ⟨( rdropWhile_prefix _ conns).getElem?_eq_some hget, hv⟩
  · rintro ⟨hget, hv⟩
    refine ⟨List.getElem?_rdropWhile hget ?_, hv⟩
    simp only [CryptoConnection.isValid, Bool.and_eq_true] at hv
    simpa using hv.2

theorem peerAt_wipeCryptoConnection (c : NetCrypto) (id : Nat) :
    (c.wipeCryptoConnection id).peerAt = Function.update c.peerAt id none := by
  have hnone : c.getCryptoConnection id = none → c.peerAt = Function.update c.peerAt id none := by
    intro h
    exact (Function.update_eq_self_iff.mpr (by rw [peerAt, h]; rfl)).symm
  unfold wipeCryptoConnection
  split
  · rename_i h
    exact hnone (by rw [getCryptoConnection, h])
  rename_i conn hconn
  split
  · rename_i hfree
    exact hnone (by simp [getCryptoConnection, hconn, CryptoConnection.isValid, hfree])
  · have hset := peerAt_setConnection (List.getElem?_eq_some_iff.mp hconn).1 emptyCryptoConnection
    refine Eq.trans ?_ hset
    funext id'
    rw [peerAt, getCryptoConnection_dropFree]
    rfl

theorem idle_wipeCryptoConnection (h : c.Idle) : (c.wipeCryptoConnection id).Idle := by
  unfold wipeCryptoConnection
  split
  · exact h
  split
  · exact h
  · intro conn hmem
    exact idle_setConnection h (fun _ => ⟨rfl, rfl⟩) conn (( rdropWhile_prefix _ _).subset hmem)

theorem ipPortList_wipeCryptoConnection (c : NetCrypto) (id : Nat) :
    (c.wipeCryptoConnection id).ipPortList = c.ipPortList := by
  unfold wipeCryptoConnection
  split
  · rfl
  split <;> rfl

theorem TableInv.wipe (h : TableInv c) (hid : ∀ e ∈ c.ipPortList.entries, e.2 ≠ id) :
    TableInv (c.wipeCryptoConnection id) := by
  refine ⟨?_, idle_wipeCryptoConnection h.idle⟩
  rw [peerAt_wipeCryptoConnection, ipPortList_wipeCryptoConnection]
  exact h.consistent.wiped h.consistent.sorted fun e => ⟨fun he => ⟨he, hid e he⟩, And.left⟩

theorem tableInv_cryptoKill (h : TableInv c) (env : Env) (id : Nat) :
    TableInv (c.cryptoKill env id) := by
  unfold cryptoKill
  split
  · exact h
  rename_i conn hconn
  have hpeer : c.peerAt id = some conn.addressState := by rw [peerAt, hconn]; rfl
  obtain ⟨hsorted4, hmem4⟩ :=
    BSList.mem_bsListRemove h.consistent.sorted conn.ipPortv4.bytes id
  obtain ⟨hsorted6, hmem6⟩ := BSList.mem_bsListRemove hsorted4 conn.ipPortv6.bytes id
  simp only
  refine ⟨?_, idle_wipeCryptoConnection h.idle⟩
  rw [peerAt_wipeCryptoConnection, ipPortList_wipeCryptoConnection]
  refine h.consistent.wiped hsorted6 fun e => ?_
  refine (hmem6 e).trans ?_
  rw [hmem4]
  constructor
  · rintro ⟨⟨hmem, h4⟩, h6⟩
    refine ⟨hmem, fun heq => ?_⟩
    -- an entry for this id is one of the two that were removed
    obtain ⟨a, ipPort, ha, ⟨haddr, -⟩, hbytes⟩ := (h.consistent.entries e).mp hmem
    rw [heq, hpeer] at ha
    cases ha
    rcases haddr with rfl | rfl
    · exact h4 (Prod.ext hbytes heq)
    · exact h6 (Prod.ext hbytes heq)
  · rintro ⟨hmem, hne⟩
    exact ⟨⟨hmem, fun heq => hne (congrArg Prod.snd heq)⟩, fun heq => hne (congrArg Prod.snd heq)⟩

theorem peerAt_cryptoKill (c : NetCrypto) (env : Env) (id : Nat) : (c.cryptoKill env id).peerAt id = none := by
  unfold cryptoKill
  split
  · rename_i h
    rw [peerAt, h]
    rfl
  · rw [peerAt_wipeCryptoConnection, Function.update_self]

theorem tableInv_killTimedoutLoop (env : Env) (count id : Nat) (c : NetCrypto) (h : TableInv c) :
    TableInv (killTimedoutLoop env count id c) := by
  induction count generalizing id c with
  | zero => exact h
  | succ count ih =>
    rw [killTimedoutLoop]
    split
    · exact ih (id + 1) c h
    split
    · exact ih (id + 1) _ (tableInv_cryptoKill h env id)
    · exact ih (id + 1) c h

theorem sameTable_createCryptoConnection (hidle : c.Idle) (h : c.createCryptoConnection env = some (id, c')) :
    SameTable c c' ∧ c.peerAt id = none ∧
      ∀ conn, c'.cryptoConnections[id]? = some conn →
        ¬conn.isValid ∧ conn.ipPortv4 = emptyIpPort ∧ conn.ipPortv6 = emptyIpPort := by
  have hid : c.peerAt id = none := by
    rw [peerAt, (keeps_createCryptoConnection h).2]
    rfl
  unfold createCryptoConnection at h
  split at h
  · split at h
    · cases h
    rename_i conn hconn
    cases h
    have hinv : ¬conn.isValid := by
      intro hv
      rw [peerAt, getCryptoConnection_eq_some.mpr ⟨hconn, hv⟩] at hid
      exact nomatch hid
    refine ⟨sameTable_setConnection hconn rfl ?_, hid, ?_⟩
    · rw [Bool.eq_false_of_not_eq_true hinv]
      rfl
    · intro conn' hconn'
      simp only [setConnection, getElem?_set_self (List.getElem?_eq_some_iff.mp hconn).1] at hconn'
      cases hconn'
      exact ⟨nofun, hidle conn (mem_of_getElem? hconn) hinv⟩
  · split at h
    · cases h
    cases h
    refine ⟨⟨rfl, ?_, ?_⟩, hid, ?_⟩
    · funext id'
      unfold peerAt getCryptoConnection
      rcases Nat.lt_trichotomy id' c.cryptoConnections.length with hlt | rfl | hgt
      · simp only [getElem?_append_left hlt]
      · rw [getElem?_append_right le_rfl, Nat.sub_self, getElem?_eq_none le_rfl]
        rfl
      · rw [getElem?_eq_none (Nat.le_of_lt hgt), getElem?_eq_none]
        rw [length_append]
        exact hgt
    · intro hidle conn hmem hv
      rcases mem_append.mp hmem with hmem | hmem
      · exact hidle conn hmem hv
      · rw [mem_singleton.mp hmem]
        exact ⟨rfl, rfl⟩
    · intro conn hconn
      rw [getElem?_concat_length] at hconn
      cases hconn
      exact ⟨nofun, rfl, rfl⟩

/-! ## Addresses -/

theorem tableInv_addIpPortConnection (h : TableInv c) (id : Nat) (ipPort : IPPort) :
    TableInv (c.addIpPortConnection id ipPort).2 := by
  unfold addIpPortConnection
  split
  · exact h
  rename_i conn hconn
  obtain ⟨hget, hvalid⟩ := getCryptoConnection_eq_some.mp hconn
  have hlt := (List.getElem?_eq_some_iff.mp hget).1
  have hpeer : c.peerAt id = some conn.addressState := by rw [peerAt, hconn]; rfl
  have hfam := h.consistent.families id _ hpeer
  -- a new address is none of the addresses of the connection
  have hnew : ∀ {list : BSList}, c.ipPortList.bsListAdd ipPort.bytes id = (true, list) →
      ¬conn.addressState.Has ipPort := by
    intro list hadd hhas
    refine (BSList.mem_bsListAdd h.consistent.sorted hadd).2.1 id ?_
    exact (h.consistent.entries _).mpr ⟨_, ipPort, hpeer, hhas, rfl⟩
  split
  · rename_i hv4
    split
    · split
      · exact h
      · rename_i list hadd
        obtain ⟨hsorted, -, hmem⟩ := BSList.mem_bsListAdd h.consistent.sorted hadd
        obtain ⟨hsorted', hmem'⟩ := BSList.mem_bsListRemove hsorted conn.ipPortv4.bytes id
        have hne : ipPort ≠ conn.ipPortv4 :=
          fun heq => hnew hadd ⟨.inl heq.symm, .inl hv4⟩
        refine ⟨?_, idle_setConnection h.idle fun hinv => absurd hvalid hinv⟩
        have hset := peerAt_setConnection hlt { conn with ipPortv4 := ipPort }
        rw [if_pos (show ({ conn with ipPortv4 := ipPort } : CryptoConnection).isValid from hvalid)] at hset
        change Consistent _ (c.setConnection id _).peerAt
        rw [hset]
        refine h.consistent.readdressed hpeer rfl ⟨.inr hv4, hfam.2⟩ hne ?_ hsorted' fun e => ?_
        · exact AddressState.has_ipPortv4 hfam (.inl hv4)
        · rw [hmem', hmem]
    · exact h
  split
  · rename_i hv6
    split
    · split
      · exact h
      · rename_i list hadd
        obtain ⟨hsorted, -, hmem⟩ := BSList.mem_bsListAdd h.consistent.sorted hadd
        obtain ⟨hsorted', hmem'⟩ := BSList.mem_bsListRemove hsorted conn.ipPortv6.bytes id
        have hne : ipPort ≠ conn.ipPortv6 :=
          fun heq => hnew hadd ⟨.inr heq.symm, .inr hv6⟩
        refine ⟨?_, idle_setConnection h.idle fun hinv => absurd hvalid hinv⟩
        have hset := peerAt_setConnection hlt { conn with ipPortv6 := ipPort }
        rw [if_pos (show ({ conn with ipPortv6 := ipPort } : CryptoConnection).isValid from hvalid)] at hset
        change Consistent _ (c.setConnection id _).peerAt
        rw [hset]
        refine h.consistent.readdressed hpeer rfl ⟨hfam.1, .inr hv6⟩ hne ?_ hsorted' fun e => ?_
        · exact AddressState.has_ipPortv6 hfam (.inr hv6)
        · rw [hmem', hmem]
    · exact h
  · exact h

theorem tableInv_cryptoConnectionAddSource (h : TableInv c) (env : Env) (id : Nat)
    (source : IPPort) : TableInv (c.cryptoConnectionAddSource env id source) := by
  unfold cryptoConnectionAddSource
  split
  · exact h
  split
  · have hadd := tableInv_addIpPortConnection h id source
    split
    · rename_i c1 h1
      rw [h1] at hadd
      exact hadd
    · rename_i c1 h1
      rw [h1] at hadd
      exact (sameTable_setDirectLastrecvTime c1 id source env.now).tableInv hadd
  · exact h

theorem tableInv_setDirectIpPort (h : TableInv c) (env : Env) (id : Nat) (ipPort : IPPort)
    (connected : Bool) : TableInv (c.setDirectIpPort env id ipPort connected) := by
  unfold setDirectIpPort
  split
  · exact h
  have hadd := tableInv_addIpPortConnection h id ipPort
  split
  · rename_i c1 h1
    rw [h1] at hadd
    exact hadd
  · rename_i c1 h1
    rw [h1] at hadd
    exact (sameTable_setDirectLastrecvTime c1 id ipPort _).tableInv hadd

/-! ## Opening connections -/

theorem publicKey_ne_of_getcryptconnectionId {publicKey : PublicKey}
    (h : c.getcryptconnectionId publicKey = none) {a : AddressState} (ha : c.peerAt id = some a) :
    a.publicKey ≠ publicKey := by
  obtain ⟨conn, hconn, rfl⟩ := Option.map_eq_some_iff.mp ha
  obtain ⟨hget, hvalid⟩ := getCryptoConnection_eq_some.mp hconn
  have hp := findIdx?_eq_none_iff.mp h conn (mem_of_getElem? hget)
  rintro rfl
  simp [hvalid, CryptoConnection.addressState] at hp

theorem TableInv.no_entries (h : TableInv c) (hid : c.peerAt id = none) :
    ∀ e ∈ c.ipPortList.entries, e.2 ≠ id := by
  rintro e he rfl
  obtain ⟨a, ipPort, ha, -⟩ := (h.consistent.entries e).mp he
  rw [hid] at ha
  exact nomatch ha

theorem TableInv.opened {publicKey : PublicKey} {c1 : NetCrypto} (h : TableInv c)
    (hcreate : c.createCryptoConnection env = some (id, c1)) (hget : c1.cryptoConnections[id]? = some conn)
    (hnone : c.getcryptconnectionId publicKey = none) (hv : conn'.isValid)
    (ha : conn'.addressState = .unset publicKey) : TableInv (c1.setConnection id conn') := by
  obtain ⟨hsame, hid, -⟩ := sameTable_createCryptoConnection h.idle hcreate
  refine ⟨?_, idle_setConnection (hsame.idle h.idle) fun hinv => absurd hv hinv⟩
  rw [peerAt_setConnection (List.getElem?_eq_some_iff.mp hget).1, if_pos hv, ha, hsame.peerAt]
  change Consistent c1.ipPortList _
  rw [hsame.ipPortList]
  exact h.consistent.opened hid fun id' a' => publicKey_ne_of_getcryptconnectionId hnone

theorem addressState_eq_unset {publicKey : PublicKey}
    (h : conn.ipPortv4 = emptyIpPort ∧ conn.ipPortv6 = emptyIpPort) :
    ({ conn with publicKey } : CryptoConnection).addressState = .unset publicKey := by
  simp only [CryptoConnection.addressState, AddressState.unset, h.1, h.2]

theorem tableInv_acceptCryptoConnection (box : CryptoBox) (h : TableInv c) (env : Env)
    (nC : NewConnection) : TableInv (c.acceptCryptoConnection box env nC).2 := by
  unfold acceptCryptoConnection
  split
  · exact h
  rename_i hnone
  have hnone : c.getcryptconnectionId nC.publicKey = none := by simpa using hnone
  split
  · exact h
  rename_i id c1 hcreate
  obtain ⟨hsame, hid, hslot⟩ := sameTable_createCryptoConnection h.idle hcreate
  have hentries := h.no_entries hid
  split
  · exact (hsame.tableInv h).wipe (by rw [hsame.ipPortList]; exact hentries)
  split
  · exact hsame.tableInv h
  rename_i conn hconn
  have hopen : TableInv (c1.setConnection id (conn.openSession box env nC)) :=
    h.opened hcreate hconn hnone rfl (addressState_eq_unset (hslot conn hconn).2)
  have hsend := sameTable_createSendHandshake box (c1.setConnection id (conn.openSession box env nC))
    env id nC.cookie nC.dhtPublicKey
  split
  · rename_i c2 hres
    rw [hres] at hsend
    refine (hsend.tableInv hopen).wipe ?_
    rw [hsend.ipPortList]
    exact fun e he => hentries e (hsame.ipPortList ▸ he)
  · rename_i c2 hres
    rw [hres] at hsend
    split
    · exact hsend.tableInv hopen
    · rename_i conn2 hconn2
      refine tableInv_cryptoConnectionAddSource ?_ env id nC.source
      refine SameTable.tableInv (hsend.trans ?_) hopen
      exact sameTable_setConnection hconn2 rfl rfl

theorem tableInv_newCryptoConnection (box : CryptoBox) (h : TableInv c) (env : Env)
    (realPublicKey dhtPublicKey : PublicKey) :
    TableInv (c.newCryptoConnection box env realPublicKey dhtPublicKey).2 := by
  unfold newCryptoConnection
  split
  · exact h
  rename_i hnone
  split
  · exact h
  rename_i id c1 hcreate
  obtain ⟨hsame, hid, hslot⟩ := sameTable_createCryptoConnection h.idle hcreate
  have hentries := h.no_entries hid
  have hwipe : TableInv (c1.wipeCryptoConnection id) :=
    (hsame.tableInv h).wipe (by rw [hsame.ipPortList]; exact hentries)
  split
  · exact hwipe
  split
  · exact hsame.tableInv h
  rename_i conn hconn
  split
  · exact hwipe
  rename_i request sharedKey _
  simp only
  have hopen : TableInv (c1.setConnection id (conn.requestCookie env realPublicKey dhtPublicKey sharedKey)) :=
    h.opened hcreate hconn hnone rfl (addressState_eq_unset (hslot conn hconn).2)
  have htemp := sameTable_newTempPacket (c1.setConnection id
    (conn.requestCookie env realPublicKey dhtPublicKey sharedKey)) env id (.cookieRequest request)
  split
  · rename_i c2 hres
    rw [hres] at htemp
    refine (htemp.tableInv hopen).wipe ?_
    rw [htemp.ipPortList]
    exact fun e he => hentries e (hsame.ipPortList ▸ he)
  · rename_i c2 hres
    rw [hres] at htemp
    exact (htemp.trans (sameTable_addSent c2 _)).tableInv hopen

/-! ## Packets that arrive -/

theorem SameTable.setStatus (h : SameTable c c') (hconn : c.getCryptoConnection id = some conn)
    {conn2 : CryptoConnection} (hget : c'.cryptoConnections[id]? = some conn2)
    (status : CryptoConnState) (hstatus : status ≠ .noConnection ∧ status ≠ .free) :
    SameTable c (c'.setConnection id { conn2 with status }) := by
  obtain ⟨conn', hconn', -⟩ := h.exists_conn hconn
  obtain ⟨hget', hvalid⟩ := getCryptoConnection_eq_some.mp hconn'
  cases hget'.symm.trans hget
  refine h.trans (sameTable_setValid hconn' rfl ?_)
  simpa [CryptoConnection.isValid] using hstatus

theorem tableInv_handleNewConnectionHandshake (h : TableInv c) (env : Env) (source : IPPort)
    (packet : Handshake) : TableInv (c.handleNewConnectionHandshake box env source packet).2 := by
  unfold handleNewConnectionHandshake
  split
  · exact h
  rename_i nC _
  have hacc : SameTable c (c.addAccepted env.now packet nC) := .of_eq rfl rfl
  have h1 := hacc.tableInv h
  generalize c.addAccepted env.now packet nC = c1 at h1 ⊢
  have hcallback : ∀ c2 : NetCrypto, TableInv c2 → TableInv
      (if env.accept then
        ((c2.acceptCryptoConnection box env nC).1.isSome, (c2.acceptCryptoConnection box env nC).2)
      else (false, c2)).2 := by
    intro c2 h2
    split
    · exact tableInv_acceptCryptoConnection box h2 env nC
    · exact h2
  simp only
  split
  · exact hcallback c1 h1
  rename_i id _
  split
  · exact h1
  rename_i conn hconn
  have hvalid := (getCryptoConnection_eq_some.mp hconn).2
  split
  · exact hcallback _ (tableInv_cryptoKill h1 env id)
  split
  · exact h1
  have hrekey : SameTable c1 (c1.setConnection id (conn.rekey box nC)) :=
    sameTable_setValid hconn rfl hvalid
  have hsrc := tableInv_cryptoConnectionAddSource (hrekey.tableInv h1) env id source
  -- the connection is still valid after its address was changed
  have hquiet := quiet_cryptoConnectionAddSource box (c1.setConnection id (conn.rekey box nC)) env id source
  obtain ⟨conn2, hget2, hk2⟩ := hquiet.exists_conn (getElem?_set_self
    (List.getElem?_eq_some_iff.mp (getCryptoConnection_eq_some.mp hconn).1).1)
  generalize (c1.setConnection id (conn.rekey box nC)).cryptoConnectionAddSource env id source =
    c2 at hsrc hget2 ⊢
  have hconn2 : c2.getCryptoConnection id = some conn2 :=
    getCryptoConnection_eq_some.mpr ⟨hget2, isValid_of_keyState hk2 hvalid⟩
  have hsend := sameTable_createSendHandshake box c2 env id nC.cookie nC.dhtPublicKey
  split
  · rename_i hres
    rw [hres] at hsend
    exact hsend.tableInv hsrc
  · rename_i hres
    rw [hres] at hsend
    split
    · exact hsend.tableInv hsrc
    · rename_i hget
      exact (hsend.setStatus hconn2 hget .notConfirmed ⟨nofun, nofun⟩).tableInv hsrc

theorem sameTable_handlePacketCookieResponse (c : NetCrypto) (env : Env) (id : Nat)
    (packet : CookieResponse) :
    SameTable c (c.handlePacketCookieResponse box env id packet).2 := by
  unfold handlePacketCookieResponse
  split
  · rfl
  rename_i conn hconn
  split
  · rfl
  split
  · rfl
  rename_i cookie _ _
  split
  · rfl
  have hsend := sameTable_createSendHandshake box c env id cookie conn.dhtPublicKey
  split
  · rename_i hres
    rw [hres] at hsend
    exact hsend
  · rename_i hres
    rw [hres] at hsend
    split
    · exact hsend
    · rename_i hget
      exact hsend.setStatus hconn hget .handshakeSent ⟨nofun, nofun⟩

theorem sameTable_handlePacketCryptoHs (c : NetCrypto) (env : Env) (id : Nat) (packet : Handshake) :
    SameTable c (c.handlePacketCryptoHs box env id packet).2 := by
  unfold handlePacketCryptoHs
  split
  · rfl
  rename_i conn hconn
  split
  · rfl
  split
  · rfl
  rename_i nC _
  have hacc : SameTable c (c.addAccepted env.now packet nC) := .of_eq rfl rfl
  have hconn1 : (c.addAccepted env.now packet nC).getCryptoConnection id = some conn := hconn
  generalize c.addAccepted env.now packet nC = c1 at hacc hconn1 ⊢
  obtain ⟨hget1, hvalid⟩ := getCryptoConnection_eq_some.mp hconn1
  simp only
  split
  · have hrekey : SameTable c (c1.setConnection id (conn.rekey box nC)) :=
      hacc.trans (sameTable_setConnection hget1 rfl rfl)
    split
    · have hsend := hrekey.trans (sameTable_createSendHandshake box
        (c1.setConnection id (conn.rekey box nC)) env id nC.cookie nC.dhtPublicKey)
      split
      · rename_i hres
        rw [hres] at hsend
        exact hsend
      · rename_i hres
        rw [hres] at hsend
        split
        · exact hsend
        · rename_i hget
          exact hsend.setStatus hconn hget .notConfirmed ⟨nofun, nofun⟩
    · refine hrekey.setStatus hconn ?_ .notConfirmed ⟨nofun, nofun⟩
      exact getElem?_set_self (List.getElem?_eq_some_iff.mp hget1).1
  · exact hacc.trans (sameTable_setConnection hget1 rfl rfl)

theorem tableInv_handlePacketCryptoData (h : TableInv c) (env : Env) (id : Nat)
    (packet : DataPacket) (udp : Bool) :
    TableInv (c.handlePacketCryptoData env id packet udp).2 := by
  unfold handlePacketCryptoData
  split
  · exact h
  rename_i conn hconn
  split
  · exact h
  simp only
  have hdata := Peer.handleDataPacketCore_conn ⟨conn, [], [], []⟩ packet udp env.nowMs env.calloc env.react
  generalize Peer.handleDataPacketCore ⟨conn, [], [], []⟩ packet udp env.nowMs env.calloc
    (Peer.reactingCallback env.react) = result at hdata ⊢
  have hv : result.2.conn.isValid := by
    obtain ⟨n, status, hk, hstatus⟩ := hdata.keyState
    have hs : result.2.conn.status = status := congrArg KeyState.status hk
    unfold CryptoConnection.isValid
    rw [hs]
    rcases hstatus with rfl | ⟨-, rfl, -⟩
    · exact (getCryptoConnection_eq_some.mp hconn).2
    · rfl
  have hset := ((sameTable_setValid hconn hdata.addressState hv).trans
    (sameTable_addSent _ (result.2.wire.map .cryptoData))).tableInv h
  generalize (c.setConnection id result.2.conn).addSent (result.2.wire.map .cryptoData) = c1 at hset ⊢
  have hrec : SameTable c1 { c1 with trace := { c1.trace with received := c1.trace.received ++ [packet] } } :=
    .of_eq rfl rfl
  split
  · exact hrec.tableInv hset
  · exact hrec.tableInv hset
  · exact tableInv_cryptoKill (hrec.tableInv hset) env id

theorem tableInv_handlePacketConnection (h : TableInv c) (env : Env) (id : Nat) (packet : Packet)
    (udp : Bool) : TableInv (c.handlePacketConnection box env id packet udp).2 := by
  unfold handlePacketConnection
  split
  · exact (sameTable_handlePacketCookieResponse c env id _).tableInv h
  · exact (sameTable_handlePacketCryptoHs c env id _).tableInv h
  · exact tableInv_handlePacketCryptoData h env id _ udp
  · exact h

/-! ## Runs -/

theorem TableInv.step (box : CryptoBox) (env : Env) (h : TableInv c) (input : Input) :
    TableInv (c.step box env input) := by
  cases input with
  | newConnection realPublicKey dhtPublicKey =>
    exact tableInv_newCryptoConnection box h env realPublicKey dhtPublicKey
  | setDirectIpPort id ipPort connected => exact tableInv_setDirectIpPort h env id ipPort connected
  | kill id => exact tableInv_cryptoKill h env id
  | killTimedout => exact tableInv_killTimedoutLoop env _ _ c h
  | sendTempPacket id => exact (sameTable_sendTempPacket c env id).tableInv h
  | api id call => exact (sameTable_connectionApi c id call).tableInv h
  | udpCookieRequest packet => exact (sameTable_udpHandleCookieRequest c env packet).tableInv h
  | udpPacket source packet =>
    simp only [NetCrypto.step, udpHandlePacket]
    split
    · exact h
    split
    · split
      · exact tableInv_handleNewConnectionHandshake h env source _
      · exact h
    · rename_i id _
      have hpacket : TableInv (c.handlePacketConnection box env id packet true).2 :=
        tableInv_handlePacketConnection h env id packet true
      split
      · rename_i c1 hres
        rw [hres] at hpacket
        exact hpacket
      · rename_i c1 hres
        rw [hres] at hpacket
        split
        · exact hpacket
        · exact (sameTable_setDirectLastrecvTime c1 id source env.now).tableInv hpacket
  | tcpPacket id packet =>
    simp only [NetCrypto.step, tcpDataCallback]
    split
    · exact h
    split
    · exact (sameTable_udpHandleCookieRequest c env _).tableInv h
    · exact tableInv_handlePacketConnection h env id packet false
  | tcpOobPacket publicKey source packet =>
    simp only [NetCrypto.step, tcpOobCallback]
    split
    · exact (sameTable_tcpOobHandleCookieRequest c env publicKey _).tableInv h
    · exact tableInv_handleNewConnectionHandshake h env source _
    · exact h

/-- Runs of a `Net_Crypto`, with calls of its API at any time. -/
def tableSystem (box : CryptoBox) : TransitionSystem NetCrypto where
  init := Fresh
  step c c' := ∃ env, (∃ input, c' = c.step box env input) ∨
    (∃ nC, c' = (c.acceptCryptoConnection box env nC).2) ∨
    ∃ id source, c' = c.cryptoConnectionAddSource env id source

theorem tableInv_of_reachable (h : (tableSystem box).Reachable c) : TableInv c := by
  refine h.invariant (P := TableInv) ?_ ?_
  · intro c hc
    refine ⟨?_, fun conn hmem => ?_⟩
    · rw [hc.ipPortList]
      convert Consistent.empty
      simp [peerAt, getCryptoConnection, hc.cryptoConnections]
    · rw [hc.cryptoConnections] at hmem
      exact absurd hmem not_mem_nil
  · rintro c _ hinv ⟨env, ⟨input, rfl⟩ | ⟨nC, rfl⟩ | ⟨id, source, rfl⟩⟩
    · exact hinv.step box env input
    · exact tableInv_acceptCryptoConnection box hinv env nC
    · exact tableInv_cryptoConnectionAddSource hinv env id source

theorem TableInv.cryptoIdIpPort_eq_some (h : TableInv c) {ipPort : IPPort} :
    c.cryptoIdIpPort ipPort = some id ↔ ∃ a, c.peerAt id = some a ∧ a.Has ipPort := by
  unfold cryptoIdIpPort
  rw [BSList.bsListFind_eq_some_iff h.consistent.sorted, h.consistent.entries]
  constructor
  · rintro ⟨a, ipPort', ha, hhas, hbytes⟩
    obtain rfl := IPPort.bytes_injective hbytes
    exact ⟨a, ha, hhas⟩
  · rintro ⟨a, ha, hhas⟩
    exact ⟨a, ipPort, ha, hhas, rfl⟩

/-- In every run an address is mapped to the connection that has it, and only while it is valid; keys and addresses
    belong to one connection each. -/
theorem addressTable_of_reachable (h : (tableSystem box).Reachable c) :
    (∀ ipPort id, c.cryptoIdIpPort ipPort = some id ↔ ipPort.IsSet ∧
      ∃ conn, c.getCryptoConnection id = some conn ∧
        (conn.ipPortv4.bytes = ipPort.bytes ∨ conn.ipPortv6.bytes = ipPort.bytes)) ∧
    (∀ id id' conn conn', c.getCryptoConnection id = some conn →
      c.getCryptoConnection id' = some conn' →
      (conn.publicKey = conn'.publicKey ∨
        ∃ ipPort, conn.addressState.Has ipPort ∧ conn'.addressState.Has ipPort) → id = id') ∧
    ∀ env id ipPort, (c.cryptoKill env id).cryptoIdIpPort ipPort ≠ some id := by
  have hinv := tableInv_of_reachable h
  refine ⟨fun ipPort id => ?_, fun id id' conn conn' hconn hconn' hsame => ?_, fun env id ipPort hfound => ?_⟩
  · rw [hinv.cryptoIdIpPort_eq_some]
    constructor
    · rintro ⟨a, ha, haddr, hset⟩
      obtain ⟨conn, hconn, rfl⟩ := Option.map_eq_some_iff.mp ha
      exact ⟨hset, conn, hconn, haddr.imp (congrArg IPPort.bytes) (congrArg IPPort.bytes)⟩
    · rintro ⟨hset, conn, hconn, haddr⟩
      refine ⟨conn.addressState, by rw [peerAt, hconn]; rfl, ?_, hset⟩
      exact haddr.imp IPPort.bytes_injective IPPort.bytes_injective
  · have hpeer : c.peerAt id = some conn.addressState := by rw [peerAt, hconn]; rfl
    have hpeer' : c.peerAt id' = some conn'.addressState := by rw [peerAt, hconn']; rfl
    rcases hsame with hpk | ⟨ipPort, hhas, hhas'⟩
    · exact hinv.consistent.publicKeys id id' _ _ hpeer hpeer' hpk
    · -- both ids are the one that the table has for the address
      have hid := hinv.cryptoIdIpPort_eq_some.mpr ⟨_, hpeer, hhas⟩
      have hid' := hinv.cryptoIdIpPort_eq_some.mpr ⟨_, hpeer', hhas'⟩
      exact Option.some.inj (hid.symm.trans hid')
  · obtain ⟨a, ha, -⟩ := (tableInv_cryptoKill hinv env id).cryptoIdIpPort_eq_some.mp hfound
    rw [peerAt_cryptoKill] at ha
    exact nomatch ha

/-- The connection of a peer is found under its address. -/
theorem addressTable_of_reachable_connected :
    peerAddress.IsSet ∧ ∃ conn,
      (alone.step xorBox goodEnv firstInput).getCryptoConnection 0 = some conn ∧
        (conn.ipPortv4.bytes = peerAddress.bytes ∨ conn.ipPortv6.bytes = peerAddress.bytes) := by
  have hreach : (tableSystem xorBox).Reachable (alone.step xorBox goodEnv firstInput) :=
    .step (.init fresh_alone) ⟨goodEnv, .inl ⟨firstInput, rfl⟩⟩
  exact ((addressTable_of_reachable hreach).1 peerAddress 0).mp (by decide +kernel)

/-- A new connection has `empty_ip_port` for both addresses, which the table does not map to
    it. -/
theorem not_addressTable_emptyIpPort :
    ¬∀ (box : CryptoBox) (c : NetCrypto), (tableSystem box).Reachable c →
      ∀ ipPort id, c.cryptoIdIpPort ipPort = some id ↔
        ∃ conn, c.getCryptoConnection id = some conn ∧
          (conn.ipPortv4.bytes = ipPort.bytes ∨ conn.ipPortv6.bytes = ipPort.bytes) := by
  intro h
  have hreach : (tableSystem xorBox).Reachable (alone.step xorBox goodEnv (.newConnection (key 4) (key 5))) :=
    .step (.init fresh_alone) ⟨goodEnv, .inl ⟨_, rfl⟩⟩
  have hempty : ((alone.step xorBox goodEnv (.newConnection (key 4) (key 5))).getCryptoConnection
      0).map (·.ipPortv4) = some emptyIpPort := by
    decide +kernel
  obtain ⟨conn, hconn, haddr⟩ := Option.map_eq_some_iff.mp hempty
  have hfound := (h xorBox _ hreach emptyIpPort 0).mpr ⟨conn, hconn, .inl (congrArg IPPort.bytes haddr)⟩
  exact absurd hfound (by decide +kernel)

end NetCrypto

end Toxcore

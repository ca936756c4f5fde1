import Toxcore.Native.TCPConnection
import Toxcore.ForStd.List

/-!
# Connection ids and connection numbers

A client of a relay keeps its connections in one table and the connection ids of the relay in another. A
connection id in use names its connection, and the connection names the id; every operation keeps the two in
step, except that a connection must not be killed while its routing request is not answered.
-/

namespace Toxcore

open List

namespace TCPConnections

variable {tcpC : TCPConnections} {n m : Nat} {conTo : TCPConnectionTo}

theorem getConnection_eq_some : tcpC.getConnection n = some conTo ↔
    tcpC.connections[n]? = some conTo ∧ conTo.status ≠ .none := by
  unfold getConnection
  simp

theorem getConnection_wipeConnection (n m : Nat) :
    (tcpC.wipeConnection n).getConnection m = if m = n then none else tcpC.getConnection m := by
  -- an entry in use survives when unused entries are dropped at the end
  have hdrop : ∀ conTo, (tcpC.wipeConnection n).getConnection m = some conTo ↔
      (tcpC.connections.set n emptyTcpConnectionTo)[m]? = some conTo ∧ conTo.status ≠ .none := by
    intro conTo
    rw [getConnection_eq_some]
    constructor
    · intro h
      exact ⟨( rdropWhile_prefix _ _).getElem?_eq_some h.1, h.2⟩
    · intro h
      exact ⟨List.getElem?_rdropWhile h.1 (by simpa using h.2), h.2⟩
  refine Option.ext fun conTo => ?_
  rw [hdrop]
  by_cases hm : m = n
  · subst hm
    rw [if_pos rfl, getElem?_set]
    constructor
    · intro h
      simp only [if_true] at h
      split at h
      · obtain ⟨heq, hstatus⟩ := h
        rw [← Option.some.inj heq] at hstatus
        exact absurd rfl hstatus
      · exact nomatch h.1
    · exact nofun
  · rw [if_neg hm, getElem?_set_ne (fun heq => hm heq.symm), getConnection_eq_some]

/-- The numbers of the connection ids and the ids of the connections agree, as far as they are in
    use. -/
structure Numbered (tcpC : TCPConnections) : Prop where
  range : ∀ {k}, (tcpC.client k).status ≠ .unused → k < numClientConnections
  numbers : ∀ {k n}, (tcpC.client k).status ≠ .unused → (tcpC.client k).number = some n →
    ∃ conTo status, tcpC.getConnection n = some conTo ∧ status ≠ TCPConnectionsStatus.none ∧
      conTo.relay = some ⟨status, k⟩ ∧ conTo.publicKey = (tcpC.client k).publicKey
  entries : ∀ {n conTo relay}, tcpC.getConnection n = some conTo → conTo.relay = some relay →
    relay.status ≠ .none → (tcpC.client relay.connectionId).status ≠ .unused ∧
      (tcpC.client relay.connectionId).number = some n ∧
      (tcpC.client relay.connectionId).publicKey = conTo.publicKey
  wiped : ∀ conTo ∈ tcpC.connections, conTo.status = .none → conTo.relay = none

theorem numbered_new : newTcpConnections.Numbered := by
  constructor
  case range => exact fun h => absurd rfl h
  case numbers => exact fun h => absurd rfl h
  case entries =>
    intro n conTo relay h
    cases h
  case wiped =>
    intro conTo hmem
    cases hmem

theorem Numbered.of_getConnection {tcpC' : TCPConnections} (h : tcpC.Numbered)
    (hclient : tcpC'.client = tcpC.client)
    (hget : ∀ m, (tcpC'.getConnection m).map (fun conTo => (conTo.publicKey, conTo.relay)) =
      (tcpC.getConnection m).map fun conTo => (conTo.publicKey, conTo.relay))
    (hwiped : ∀ conTo ∈ tcpC'.connections, conTo.status = .none → conTo.relay = none) :
    tcpC'.Numbered := by
  have hsome : ∀ {m conTo}, tcpC'.getConnection m = some conTo →
      ∃ old, tcpC.getConnection m = some old ∧ old.publicKey = conTo.publicKey ∧
        old.relay = conTo.relay := by
    intro m conTo hconTo
    have heq := hget m
    rw [hconTo] at heq
    obtain ⟨old, hold, hfields⟩ := Option.map_eq_some_iff.mp heq.symm
    injection hfields with hkey hrelay
    exact ⟨old, hold, hkey, hrelay⟩
  have hsome' : ∀ {m old}, tcpC.getConnection m = some old →
      ∃ conTo, tcpC'.getConnection m = some conTo ∧ conTo.publicKey = old.publicKey ∧
        conTo.relay = old.relay := by
    intro m old hold
    have heq := hget m
    rw [hold] at heq
    obtain ⟨conTo, hconTo, hfields⟩ := Option.map_eq_some_iff.mp heq
    injection hfields with hkey hrelay
    exact ⟨conTo, hconTo, hkey, hrelay⟩
  constructor
  case range =>
    rw [hclient]
    exact h.range
  case numbers =>
    intro k n hused hnumber
    rw [hclient] at hused hnumber ⊢
    obtain ⟨old, status, hold, hstatus, hrelay, hkey⟩ := h.numbers hused hnumber
    obtain ⟨conTo, hconTo, hkey', hrelay'⟩ := hsome' hold
    exact ⟨conTo, status, hconTo, hstatus, hrelay'.trans hrelay, hkey'.trans hkey⟩
  case entries =>
    intro n conTo relay hconTo hrelay hstatus
    obtain ⟨old, hold, hkey, hrelay'⟩ := hsome hconTo
    rw [hclient, ← hkey]
    exact h.entries hold (hrelay'.trans hrelay) hstatus
  case wiped => exact hwiped

theorem Numbered.of_unregistered {tcpC' : TCPConnections} {new : Option TCPConnectionTo}
    (h : tcpC.Numbered) (hclient : tcpC'.client = tcpC.client)
    (hget : ∀ m, tcpC'.getConnection m = if m = n then new else tcpC.getConnection m)
    (hold : ∀ conTo relay, tcpC.getConnection n = some conTo → conTo.relay = some relay → relay.status = .none)
    (hnew : ∀ conTo relay, new = some conTo → conTo.relay = some relay → relay.status = .none)
    (hwiped : ∀ conTo ∈ tcpC'.connections, conTo.status = .none → conTo.relay = none) :
    tcpC'.Numbered := by
  constructor
  case range =>
    rw [hclient]
    exact h.range
  case numbers =>
    intro k m hused hnumber
    rw [hclient] at hused hnumber ⊢
    obtain ⟨conTo, status, hconTo, hstatus, hrelay, hkey⟩ := h.numbers hused hnumber
    have hm : m ≠ n := by
      intro heq
      rw [heq] at hconTo
      exact hstatus (hold conTo _ hconTo hrelay)
    rw [hget, if_neg hm]
    exact ⟨conTo, status, hconTo, hstatus, hrelay, hkey⟩
  case entries =>
    intro m conTo relay hconTo hrelay hstatus
    rw [hget] at hconTo
    split at hconTo
    · exact absurd (hnew conTo relay hconTo hrelay) hstatus
    · rw [hclient]
      exact h.entries hconTo hrelay hstatus
  case wiped => exact hwiped

theorem getConnection_eq_none_of_wiped (hget : tcpC.connections[n]? = some conTo)
    (hstatus : conTo.status = .none) : tcpC.getConnection n = none := by
  rw [getConnection, hget]
  simp [hstatus]

theorem Numbered.createConnection (h : tcpC.Numbered) :
    tcpC.createConnection.2.Numbered ∧ ∃ conTo,
      tcpC.createConnection.2.connections[tcpC.createConnection.1]? = some conTo ∧
        conTo.status = .none := by
  rw [TCPConnections.createConnection]
  split
  · rename_i i hfound
    obtain ⟨hi, hnone, -⟩ := findIdx?_eq_some_iff_getElem.mp hfound
    exact ⟨h, _, getElem?_eq_getElem hi, by simpa using hnone⟩
  · have hgrown : ∀ m : Nat, (tcpC.connections ++ [emptyTcpConnectionTo])[m]? =
        if m = tcpC.connections.length then some emptyTcpConnectionTo else tcpC.connections[m]? := by
      intro m
      rcases Nat.lt_trichotomy m tcpC.connections.length with hlt | heq | hgt
      · rw [getElem?_append_left hlt, if_neg (Nat.ne_of_lt hlt)]
      · rw [if_pos heq, heq, getElem?_append_right le_rfl, Nat.sub_self]
        rfl
      · rw [if_neg (Nat.ne_of_gt hgt), List.getElem?_eq_none_iff.mpr (Nat.le_of_lt hgt),
          List.getElem?_eq_none_iff]
        simp
        omega
    refine ⟨?_, emptyTcpConnectionTo, ?_, rfl⟩
    · refine h.of_getConnection rfl ?_ ?_
      · intro m
        show (((tcpC.connections ++ [emptyTcpConnectionTo])[m]?).filter _).map _ = _
        rw [hgrown]
        split
        · rename_i heq
          rw [getConnection, heq, List.getElem?_eq_none_iff.mpr le_rfl]
          rfl
        · rfl
      · intro conTo hmem hstatus
        rcases mem_append.mp hmem with hold | hnew
        · exact h.wiped conTo hold hstatus
        · rw [mem_singleton.mp hnew]
          rfl
    · rw [hgrown, if_pos rfl]

theorem Numbered.wiped_modify (h : tcpC.Numbered) {f : TCPConnectionTo → TCPConnectionTo}
    (hget : tcpC.connections[n]? = some conTo) (hf : (f conTo).status = .none → (f conTo).relay = none) :
    ∀ conTo' ∈ (tcpC.modifyConnection n f).connections, conTo'.status = .none → conTo'.relay = none := by
  intro conTo' hmem hstatus
  change conTo' ∈ tcpC.connections.modify n f at hmem
  rw [modify_eq_set_getElem?, hget] at hmem
  rcases mem_or_eq_of_mem_set hmem with hold | hnew
  · exact h.wiped conTo' hold hstatus
  · rw [hnew] at hstatus ⊢
    exact hf hstatus

theorem getConnection_modify {f : TCPConnectionTo → TCPConnectionTo}
    (hget : tcpC.connections[n]? = some conTo) (hstatus : (f conTo).status ≠ .none) (m : Nat) :
    (tcpC.modifyConnection n f).getConnection m =
      if m = n then some (f conTo) else tcpC.getConnection m := by
  show ((tcpC.connections.modify n f)[m]?).filter _ = _
  rw [getElem?_modify]
  by_cases hm : m = n
  · subst hm
    rw [hget]
    simp [hstatus]
  · have hnm : ¬n = m := fun heq => hm heq.symm
    rw [if_neg hm]
    congr 1
    simp [hnm]

section

variable (h : tcpC.Numbered)
include h

theorem Numbered.newTcpConnectionTo (publicKey : PublicKey) (id : Int) :
    (tcpC.newTcpConnectionTo publicKey id).2.Numbered := by
  rw [TCPConnections.newTcpConnectionTo]
  split
  · exact h
  obtain ⟨h1, conTo, hget, hstatus⟩ := h.createConnection
  generalize tcpC.createConnection = created at h1 hget ⊢
  have hrelay := h1.wiped conTo (mem_of_getElem? hget) hstatus
  refine h1.of_unregistered rfl (getConnection_modify hget nofun) ?_ ?_ (h1.wiped_modify hget fun _ => hrelay)
  · intro conTo' relay hconTo'
    rw [getConnection_eq_none_of_wiped hget hstatus] at hconTo'
    cases hconTo'
  · intro conTo' relay hconTo' hrelay'
    rw [← Option.some.inj hconTo'] at hrelay'
    rw [show conTo.relay = some relay from hrelay'] at hrelay
    cases hrelay

theorem Numbered.setTcpConnectionToStatus (n : Nat) (status : Bool) :
    (tcpC.setTcpConnectionToStatus n status).Numbered := by
  -- the status of a connection in use changes to another one in use
  have hchange : ∀ {conTo : TCPConnectionTo} {tcpC' : TCPConnections} {new : TCPConnectionToStatus},
      tcpC.getConnection n = some conTo → new ≠ .none → tcpC'.connections = tcpC.connections →
      tcpC'.client = tcpC.client →
      (tcpC'.modifyConnection n fun conTo => { conTo with status := new }).Numbered := by
    intro conTo tcpC' new hconTo hnew hconnections hclient
    obtain ⟨hget, -⟩ := getConnection_eq_some.mp hconTo
    have hget' : tcpC'.connections[n]? = some conTo := by
      rw [hconnections]
      exact hget
    have hsame : ∀ m, tcpC'.getConnection m = tcpC.getConnection m := by
      intro m
      rw [getConnection, hconnections, getConnection]
    have h' : tcpC'.Numbered := by
      refine h.of_getConnection hclient ?_ ?_
      · intro m
        rw [hsame]
      · rw [hconnections]
        exact h.wiped
    refine h'.of_getConnection rfl ?_ (h'.wiped_modify hget' fun hnone => absurd hnone hnew)
    intro m
    rw [getConnection_modify hget' hnew]
    split
    · rename_i hm
      rw [hm, hsame, hconTo]
      rfl
    · rfl
  rw [TCPConnections.setTcpConnectionToStatus]
  split
  · exact h
  rename_i conTo hconTo
  split
  · split
    · exact h
    · exact hchange hconTo nofun rfl rfl
  split
  · exact h
  · refine hchange hconTo nofun ?_ ?_
    · split
      · rfl
      · rfl
    · split
      · rfl
      · rfl

theorem Numbered.addTcpNumberRelayConnection (n : Nat) :
    (tcpC.addTcpNumberRelayConnection n).1.Numbered := by
  rw [TCPConnections.addTcpNumberRelayConnection]
  split
  · exact h
  rename_i conTo hconTo
  split
  · exact h
  rename_i hrelay
  obtain ⟨hget, hstatus⟩ := getConnection_eq_some.mp hconTo
  refine h.of_unregistered rfl (getConnection_modify hget hstatus) ?_ ?_
    (h.wiped_modify hget fun hnone => absurd hnone hstatus)
  · intro conTo' relay hconTo' hrelay'
    rw [hconTo] at hconTo'
    rw [Option.some.inj hconTo', hrelay'] at hrelay
    exact absurd rfl hrelay
  · intro conTo' relay hconTo' hrelay'
    rw [← Option.some.inj hconTo'] at hrelay'
    rw [← Option.some.inj hrelay']

theorem Numbered.of_counters {tcpC' : TCPConnections}
    (hconnections : tcpC'.connections = tcpC.connections) (hclient : tcpC'.client = tcpC.client) :
    tcpC'.Numbered := by
  refine h.of_getConnection hclient ?_ ?_
  · intro m
    rw [getConnection, hconnections, getConnection]
  · rw [hconnections]
    exact h.wiped

end

theorem client_modifyClient {f : TCPClientConn → TCPClientConn} (k j : Nat) :
    (tcpC.modifyClient k f).client j = if j = k then f (tcpC.client k) else tcpC.client j := by
  show Function.update tcpC.client k (f (tcpC.client k)) j = _
  by_cases hj : j = k
  · rw [if_pos hj, hj, Function.update_self]
  · rw [if_neg hj, Function.update_of_ne hj]

section

variable (h : tcpC.Numbered)
include h

theorem wiped_wipeConnection (n : Nat) :
    ∀ conTo ∈ (tcpC.wipeConnection n).connections, conTo.status = .none → conTo.relay = none := by
  intro conTo hmem hstatus
  have hmem' := ( rdropWhile_prefix _ _).subset hmem
  rcases mem_or_eq_of_mem_set hmem' with hold | hnew
  · exact h.wiped conTo hold hstatus
  · rw [hnew]
    rfl

theorem Numbered.release {relay : TCPConnTo} (hconTo : tcpC.getConnection n = some conTo)
    (hrelay : conTo.relay = some relay) (hstatus : relay.status ≠ .none) :
    ((tcpC.modifyClient relay.connectionId fun conn =>
      { conn with status := .unused, number := some 0 }).wipeConnection n).Numbered := by
  obtain ⟨hused, hnumber, hkey⟩ := h.entries hconTo hrelay hstatus
  generalize hk : relay.connectionId = k at hused hnumber hkey ⊢
  have hclient : ∀ j, (((tcpC.modifyClient k fun conn =>
      { conn with status := .unused, number := some 0 }).wipeConnection n).client j) =
        if j = k then { tcpC.client k with status := .unused, number := some 0 } else tcpC.client j := by
    intro j
    exact client_modifyClient (f := fun conn => { conn with status := .unused, number := some 0 }) k j
  have hget : ∀ m, ((tcpC.modifyClient k fun conn =>
      { conn with status := .unused, number := some 0 }).wipeConnection n).getConnection m =
        if m = n then none else tcpC.getConnection m :=
    getConnection_wipeConnection n
  constructor
  case range =>
    intro j hj
    rw [hclient] at hj
    split at hj
    · exact absurd rfl hj
    · exact h.range hj
  case numbers =>
    intro j m hj hm
    rw [hclient] at hj hm ⊢
    split at hj
    · exact absurd rfl hj
    rename_i hjk
    rw [if_neg hjk] at hm ⊢
    obtain ⟨conTo', status, hconTo', hstatus', hrelay', hkey'⟩ := h.numbers hj hm
    have hmn : m ≠ n := by
      intro heq
      rw [heq, hconTo] at hconTo'
      rw [← Option.some.inj hconTo', hrelay] at hrelay'
      rw [Option.some.inj hrelay'] at hk
      exact hjk hk
    rw [hget, if_neg hmn]
    exact ⟨conTo', status, hconTo', hstatus', hrelay', hkey'⟩
  case entries =>
    intro m conTo' relay' hconTo' hrelay' hstatus'
    rw [hget] at hconTo'
    split at hconTo'
    · cases hconTo'
    rename_i hmn
    obtain ⟨hused', hnumber', hkey'⟩ := h.entries hconTo' hrelay' hstatus'
    have hjk : relay'.connectionId ≠ k := by
      intro heq
      rw [heq, hnumber] at hnumber'
      exact hmn (Option.some.inj hnumber').symm
    rw [hclient, if_neg hjk]
    exact ⟨hused', hnumber', hkey'⟩
  case wiped => exact wiped_wipeConnection (h := h.of_counters rfl rfl) n

theorem Numbered.killTcpConnectionTo
    (hregistered : ∀ conTo relay, tcpC.getConnection n = some conTo → conTo.relay = some relay →
      relay.status ≠ .none) :
    (tcpC.killTcpConnectionTo n).1.Numbered ∧
    ((tcpC.killTcpConnectionTo n).2 = [] ∧ (tcpC.killTcpConnectionTo n).1.client = tcpC.client ∨
      ∃ conTo k, tcpC.getConnection n = some conTo ∧ (tcpC.client k).status ≠ .unused ∧
        (tcpC.client k).publicKey = conTo.publicKey ∧ conTo.relay.isSome ∧
        (tcpC.killTcpConnectionTo n).2 =
          [[tcpPacketDisconnectNotification, UInt8.ofNat (k + numReservedPorts)]] ∧
        ∀ j, (tcpC.killTcpConnectionTo n).1.client j =
          if j = k then { tcpC.client k with status := .unused, number := some 0 }
          else tcpC.client j) := by
  rw [TCPConnections.killTcpConnectionTo]
  split
  · exact ⟨h, .inl ⟨rfl, rfl⟩⟩
  rename_i conTo hconTo
  split
  · rename_i hrelay
    refine ⟨?_, .inl ⟨rfl, rfl⟩⟩
    refine h.of_unregistered rfl (getConnection_wipeConnection n) ?_ nofun (wiped_wipeConnection h n)
    intro conTo' relay hconTo' hrelay'
    rw [hconTo] at hconTo'
    rw [Option.some.inj hconTo', hrelay'] at hrelay
    cases hrelay
  · rename_i relay hrelay
    have hstatus := hregistered conTo relay hconTo hrelay
    obtain ⟨hused, -, hkey⟩ := h.entries hconTo hrelay hstatus
    have hlt := h.range hused
    rw [sendDisconnectRequest, if_neg (Nat.not_le.mpr hlt)]
    have hreleased := h.release hconTo hrelay hstatus
    refine ⟨?_, .inr ⟨conTo, relay.connectionId, hconTo, hused, hkey, by rw [hrelay]; rfl, rfl, ?_⟩⟩
    · dsimp only
      split
      · exact hreleased.of_counters rfl rfl
      · exact hreleased
    · intro j
      rw [← client_modifyClient (f := fun conn => { conn with status := .unused, number := some 0 })]
      dsimp only
      split
      · rfl
      · rfl

theorem Numbered.registerClient {k : Nat} (hk : k < numClientConnections)
    (hunused : (tcpC.client k).status = .unused) (publicKey : PublicKey) :
    (tcpC.modifyClient k fun _ => { status := .offline, publicKey, number := none }).Numbered := by
  constructor
  case range =>
    intro j hj
    rw [client_modifyClient] at hj
    split at hj
    · rename_i hjk
      rw [hjk]
      exact hk
    · exact h.range hj
  case numbers =>
    intro j m hj hm
    rw [client_modifyClient] at hj hm ⊢
    by_cases hjk : j = k
    · rw [if_pos hjk] at hm
      cases hm
    · rw [if_neg hjk] at hj hm ⊢
      exact h.numbers hj hm
  case entries =>
    intro m conTo relay hconTo hrelay hstatus
    obtain ⟨hused, hnumber, hkey⟩ := h.entries hconTo hrelay hstatus
    have hne : relay.connectionId ≠ k := by
      intro heq
      rw [heq] at hused
      exact hused hunused
    rw [client_modifyClient, if_neg hne]
    exact ⟨hused, hnumber, hkey⟩
  case wiped => exact h.wiped

theorem Numbered.number {k : Nat} {status : TCPConnectionsStatus}
    (hused : (tcpC.client k).status ≠ .unused) (hnumber : (tcpC.client k).number = none)
    (hconTo : tcpC.getConnection n = some conTo) (hkey : conTo.publicKey = (tcpC.client k).publicKey)
    (hold : ∀ relay, conTo.relay = some relay → relay.status = .none) (hstatus : status ≠ .none) :
    ((tcpC.modifyConnection n fun _ => { conTo with relay := some ⟨status, k⟩ }).modifyClient k
      fun conn => { conn with number := some n }).Numbered := by
  obtain ⟨hget, hvalid⟩ := getConnection_eq_some.mp hconTo
  have hget' : ∀ m, ((tcpC.modifyConnection n fun _ =>
      { conTo with relay := some ⟨status, k⟩ }).modifyClient k fun conn =>
        { conn with number := some n }).getConnection m =
      if m = n then some { conTo with relay := some ⟨status, k⟩ } else tcpC.getConnection m :=
    fun m => getConnection_modify (f := fun _ => { conTo with relay := some ⟨status, k⟩ }) hget hvalid m
  have hclient : ∀ j, ((tcpC.modifyConnection n fun _ =>
      { conTo with relay := some ⟨status, k⟩ }).modifyClient k fun conn =>
        { conn with number := some n }).client j =
      if j = k then { tcpC.client k with number := some n } else tcpC.client j :=
    fun j => client_modifyClient (f := fun conn => { conn with number := some n }) k j
  constructor
  case range =>
    intro j hj
    rw [hclient] at hj
    split at hj
    · rename_i hjk
      rw [hjk]
      exact h.range hused
    · exact h.range hj
  case numbers =>
    intro j m hj hm
    rw [hclient] at hj hm ⊢
    by_cases hjk : j = k
    · rw [if_pos hjk] at hm ⊢
      rw [hget', if_pos (Option.some.inj hm).symm, hjk]
      exact ⟨_, status, rfl, hstatus, rfl, hkey⟩
    · rw [if_neg hjk] at hj hm ⊢
      obtain ⟨conTo', status', hconTo', hstatus', hrelay', hkey'⟩ := h.numbers hj hm
      have hmn : m ≠ n := by
        intro heq
        rw [heq, hconTo] at hconTo'
        rw [← Option.some.inj hconTo'] at hrelay'
        exact hstatus' (hold _ hrelay')
      rw [hget', if_neg hmn]
      exact ⟨conTo', status', hconTo', hstatus', hrelay', hkey'⟩
  case entries =>
    intro m conTo' relay hconTo' hrelay' hstatus'
    rw [hget'] at hconTo'
    rw [hclient]
    split at hconTo'
    · rename_i hmn
      rw [← Option.some.inj hconTo'] at hrelay' ⊢
      rw [← Option.some.inj hrelay', if_pos rfl, hmn]
      exact ⟨hused, rfl, hkey.symm⟩
    · obtain ⟨hused', hnumber', hkey'⟩ := h.entries hconTo' hrelay' hstatus'
      have hne : relay.connectionId ≠ k := by
        intro heq
        rw [heq, hnumber] at hnumber'
        cases hnumber'
      rw [if_neg hne]
      exact ⟨hused', hnumber', hkey'⟩
  case wiped =>
    exact h.wiped_modify hget fun hnone => absurd hnone hvalid

theorem Numbered.tcpResponseCallback {k : Nat} {publicKey : PublicKey}
    (hclient : tcpC.client k = { status := .offline, publicKey, number := none })
    (hfree : ∀ n conTo relay, tcpC.getConnection n = some conTo → conTo.publicKey = publicKey →
      conTo.relay = some relay → relay.status = .none) :
    (tcpC.tcpResponseCallback k publicKey).Numbered := by
  have hused : (tcpC.client k).status ≠ .unused := by
    rw [hclient]
    exact nofun
  rw [TCPConnections.tcpResponseCallback]
  split
  · exact h
  rename_i n hfound
  split
  · exact h
  rename_i new hnew
  obtain ⟨conTo, hconTo, hset⟩ := Option.bind_eq_some_iff.mp hnew
  obtain ⟨hlt, hfind, -⟩ := findIdx?_eq_some_iff_getElem.mp hfound
  have hkey : conTo.publicKey = publicKey := by
    have hget := (getConnection_eq_some.mp hconTo).1
    rw [getElem?_eq_getElem hlt] at hget
    cases hget
    exact beq_iff_eq.mp (Bool.and_eq_true_iff.mp hfind).2
  unfold setTcpConnectionStatus at hset
  split at hset
  · cases hset
  split at hset
  · cases hset
  rw [← Option.some.inj hset, setTcpConnectionNumber, if_neg (Nat.not_le.mpr (h.range hused)),
    if_neg (show ¬((tcpC.modifyConnection n _).client k).status = .unused from hused)]
  refine h.number hused ?_ hconTo ?_ ?_ nofun
  · rw [hclient]
  · rw [hclient]
    exact hkey
  · intro relay' hrelay'
    exact hfree n conTo relay' hconTo hkey hrelay'

theorem Numbered.setStatus {k : Nat} {status : TCPConnStatus}
    (hused : (tcpC.client k).status ≠ .unused) (hstatus : status ≠ .unused) :
    (tcpC.modifyClient k fun conn => { conn with status }).Numbered := by
  -- which ids are in use, and their numbers and keys, stay
  have hclient : ∀ j, (((tcpC.modifyClient k fun conn => { conn with status }).client j).status ≠
        .unused ↔ (tcpC.client j).status ≠ .unused) ∧
      ((tcpC.modifyClient k fun conn => { conn with status }).client j).number = (tcpC.client j).number ∧
      ((tcpC.modifyClient k fun conn => { conn with status }).client j).publicKey =
        (tcpC.client j).publicKey := by
    intro j
    rw [client_modifyClient (f := fun conn => { conn with status })]
    by_cases hj : j = k
    · rw [if_pos hj, hj]
      exact ⟨⟨fun _ => hused, fun _ => hstatus⟩, rfl, rfl⟩
    · rw [if_neg hj]
      exact ⟨Iff.rfl, rfl, rfl⟩
  constructor
  case range =>
    intro j hj
    exact h.range ((hclient j).1.mp hj)
  case numbers =>
    intro j m hj hm
    rw [(hclient j).2.1] at hm
    rw [(hclient j).2.2]
    exact h.numbers ((hclient j).1.mp hj) hm
  case entries =>
    intro m conTo relay hconTo hrelay hentry
    rw [(hclient _).1, (hclient _).2.1, (hclient _).2.2]
    exact h.entries hconTo hrelay hentry
  case wiped => exact h.wiped

theorem Numbered.setRelay {k : Nat} {old new : TCPConnectionsStatus}
    (hconTo : tcpC.getConnection n = some conTo) (hrelay : conTo.relay = some ⟨old, k⟩)
    (hold : old ≠ .none) (hnew : new ≠ .none) :
    (tcpC.modifyConnection n fun _ => { conTo with relay := some ⟨new, k⟩ }).Numbered := by
  obtain ⟨hget, hvalid⟩ := getConnection_eq_some.mp hconTo
  have hget' : ∀ m, (tcpC.modifyConnection n fun _ =>
      { conTo with relay := some ⟨new, k⟩ }).getConnection m =
      if m = n then some { conTo with relay := some ⟨new, k⟩ } else tcpC.getConnection m :=
    fun m => getConnection_modify (f := fun _ => { conTo with relay := some ⟨new, k⟩ }) hget hvalid m
  constructor
  case range => exact h.range
  case numbers =>
    intro j m hj hm
    obtain ⟨conTo', status, hconTo', hstatus, hrelay', hkey⟩ := h.numbers hj hm
    rw [hget']
    by_cases hmn : m = n
    · rw [hmn, hconTo] at hconTo'
      rw [← Option.some.inj hconTo'] at hrelay' hkey
      rw [hrelay] at hrelay'
      injection Option.some.inj hrelay' with _ hid
      rw [if_pos hmn, ← hid]
      exact ⟨_, new, rfl, hnew, rfl, hkey.trans (by rw [hid]; rfl)⟩
    · rw [if_neg hmn]
      exact ⟨conTo', status, hconTo', hstatus, hrelay', hkey⟩
  case entries =>
    intro m conTo' relay hconTo' hrelay' hstatus
    rw [hget'] at hconTo'
    split at hconTo'
    · rename_i hmn
      have hentry := h.entries hconTo hrelay hold
      rw [← Option.some.inj hconTo'] at hrelay' ⊢
      rw [← Option.some.inj hrelay', hmn]
      exact hentry
    · exact h.entries hconTo' hrelay' hstatus
  case wiped => exact h.wiped_modify hget fun hnone => absurd hnone hvalid

end

theorem Numbered.tcpStatusCallback (h : tcpC.Numbered) {k : Nat}
    (hused : (tcpC.client k).status ≠ .unused) (status : TCPConnStatus) :
    (tcpC.tcpStatusCallback (tcpC.client k).number k status).Numbered ∧
      (tcpC.tcpStatusCallback (tcpC.client k).number k status).client = tcpC.client := by
  cases hnumber : (tcpC.client k).number with
  | none => exact ⟨h, rfl⟩
  | some n =>
    obtain ⟨conTo, old, hconTo, hold, hrelay, -⟩ := h.numbers hused hnumber
    -- the entry either has the new status already or gets it
    have hset : ∀ (new : TCPConnectionsStatus), new ≠ .none → ∀ conTo',
        (tcpC.getConnection n).bind (fun conTo => setTcpConnectionStatus conTo new k) = some conTo' →
        (tcpC.modifyConnection n fun _ => conTo').Numbered := by
      intro new hnew conTo' heq
      rw [hconTo, Option.bind_some, setTcpConnectionStatus, hrelay] at heq
      dsimp only at heq
      split at heq
      · cases heq
      · cases heq
        exact h.setRelay hconTo hrelay hold hnew
    unfold TCPConnections.tcpStatusCallback
    cases status with
    | unused => exact ⟨h, rfl⟩
    | offline =>
      dsimp only
      split
      · exact ⟨h, rfl⟩
      · rename_i conTo' heq
        exact ⟨(hset .registered nofun conTo' heq).of_counters rfl rfl, rfl⟩
    | online =>
      dsimp only
      split
      · exact ⟨h, rfl⟩
      · rename_i conTo' heq
        exact ⟨(hset .online nofun conTo' heq).of_counters rfl rfl, rfl⟩

theorem Numbered.handleTCPClientNotification (h : tcpC.Numbered) (old new : TCPConnStatus)
    (hold : old ≠ .unused) (hnew : new ≠ .unused) (data : Bytes) :
    (tcpC.handleTCPClientNotification old new data).2.Numbered ∧
    ∀ j, ((tcpC.handleTCPClientNotification old new data).2.client j).status ≠ .unused →
      (tcpC.client j).status ≠ .unused ∧
      ((tcpC.handleTCPClientNotification old new data).2.client j).publicKey = (tcpC.client j).publicKey := by
  unfold TCPConnections.handleTCPClientNotification
  split
  · rename_i id
    split
    · exact ⟨h, fun j hj => ⟨hj, rfl⟩⟩
    split
    · exact ⟨h, fun j hj => ⟨hj, rfl⟩⟩
    rename_i hstatus
    have hstatus := not_not.mp hstatus
    generalize packetConId id = k at hstatus ⊢
    have hused : (tcpC.client k).status ≠ .unused := by
      rw [hstatus]
      exact hold
    have h' := h.setStatus hused hnew
    have hclient : ∀ j, (tcpC.modifyClient k fun conn => { conn with status := new }).client j =
        if j = k then { tcpC.client k with status := new } else tcpC.client j :=
      fun j => client_modifyClient (f := fun conn => { conn with status := new }) k j
    have hself : (tcpC.modifyClient k fun conn => { conn with status := new }).client k =
        { tcpC.client k with status := new } := by
      rw [hclient, if_pos rfl]
    have hcallback := h'.tcpStatusCallback (k := k) (by rw [hself]; exact hnew) new
    rw [hself] at hcallback
    refine ⟨hcallback.1, ?_⟩
    intro j hj
    rw [hcallback.2, hclient] at hj ⊢
    by_cases hjk : j = k
    · rw [hjk, if_pos rfl]
      exact ⟨hused, rfl⟩
    · rw [if_neg hjk] at hj ⊢
      exact ⟨hj, rfl⟩
  · exact ⟨h, fun j hj => ⟨hj, rfl⟩⟩

theorem client_tcpResponseCallback (k : Nat) (publicKey : PublicKey) (j : Nat) :
    ((tcpC.tcpResponseCallback k publicKey).client j).status = (tcpC.client j).status ∧
    ((tcpC.tcpResponseCallback k publicKey).client j).publicKey = (tcpC.client j).publicKey := by
  rw [TCPConnections.tcpResponseCallback]
  split
  · exact ⟨rfl, rfl⟩
  rename_i n _
  split
  · exact ⟨rfl, rfl⟩
  rw [setTcpConnectionNumber]
  split
  · exact ⟨rfl, rfl⟩
  split
  · exact ⟨rfl, rfl⟩
  rw [client_modifyClient (f := fun conn => { conn with number := some n })]
  split
  · rename_i hj
    rw [hj]
    exact ⟨rfl, rfl⟩
  · exact ⟨rfl, rfl⟩

theorem Numbered.handleTCPClientRoutingResponse (h : tcpC.Numbered) (data : Bytes)
    (hfree : ∀ (id : UInt8) (key : Bytes), data = id :: key → key.length = cryptoPublicKeySize →
      numReservedPorts ≤ id.toNat → (tcpC.client (packetConId id)).status = .unused →
      ∀ n conTo relay, tcpC.getConnection n = some conTo →
        conTo.publicKey = bytesToVector cryptoPublicKeySize key → conTo.relay = some relay →
        relay.status = .none) :
    (tcpC.handleTCPClientRoutingResponse data).2.Numbered ∧
    ∀ j, ((tcpC.handleTCPClientRoutingResponse data).2.client j).status ≠ .unused →
      (tcpC.client j).status ≠ .unused ∧
        ((tcpC.handleTCPClientRoutingResponse data).2.client j).publicKey = (tcpC.client j).publicKey ∨
      ∃ id key, data = id :: key ∧ key.length = cryptoPublicKeySize ∧ numReservedPorts ≤ id.toNat ∧
        packetConId id = j ∧
        ((tcpC.handleTCPClientRoutingResponse data).2.client j).publicKey =
          bytesToVector cryptoPublicKeySize key := by
  cases data with
  | nil => exact ⟨h, fun j hj => .inl ⟨hj, rfl⟩⟩
  | cons id key =>
    rw [TCPConnections.handleTCPClientRoutingResponse]
    split
    · exact ⟨h, fun j hj => .inl ⟨hj, rfl⟩⟩
    rename_i hlength
    split
    · exact ⟨h, fun j hj => .inl ⟨hj, rfl⟩⟩
    rename_i hid
    split
    · exact ⟨h, fun j hj => .inl ⟨hj, rfl⟩⟩
    rename_i hstatus
    have hlength := not_not.mp hlength
    have hid := Nat.not_lt.mp hid
    have hunused := not_not.mp hstatus
    have hfree := hfree id key rfl hlength hid hunused
    have hk : packetConId id < numClientConnections := by
      have := id.toNat_lt
      show id.toNat - 16 < 256 - 16
      omega
    refine ⟨(h.registerClient hk hunused _).tcpResponseCallback ?_ hfree, ?_⟩
    · rw [client_modifyClient (f := fun _ => _), if_pos rfl]
    · intro j hj
      rw [(client_tcpResponseCallback _ _ j).1, client_modifyClient (f := fun _ => _)] at hj
      rw [(client_tcpResponseCallback _ _ j).2, client_modifyClient (f := fun _ => _)]
      by_cases hjk : j = packetConId id
      · rw [if_pos hjk]
        exact .inr ⟨id, key, rfl, hlength, hid, hjk.symm, rfl⟩
      · rw [if_neg hjk] at hj ⊢
        exact .inl ⟨hj, rfl⟩

end TCPConnections

end Toxcore

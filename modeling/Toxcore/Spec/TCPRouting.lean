import Toxcore.ForStd.LinkTable
import Toxcore.ForStd.TransitionSystem
import Toxcore.Native.TCPServer
import Toxcore.Spec.BSListCorrect

/-!
# Routing between the clients of a relay

The slots of the clients are a table of mutual links (`LinkTable`).  Each operation of the server
is one of the operations of the table, so the two ends of every link agree in every run, and
routed data goes to the client whose key the sender has registered.
-/

namespace Toxcore

open List

def TCPSecureConn.linkEnd (slot : TCPSecureConn) : LinkEnd Nat Nat PublicKey :=
  match slot.status with
  | .unused => .unused
  | .offline => .waiting slot.publicKey
  | .online => .linked slot.publicKey slot.index slot.otherId

namespace TCPSecureConnection

variable {con : TCPSecureConnection} {f : TCPSecureConn → TCPSecureConn} {i j : Nat}

@[simp] theorem connections_modifySlot_self : (con.modifySlot i f).connections i = f (con.connections i) := by
  simp [modifySlot]

theorem connections_modifySlot_of_ne (h : j ≠ i) : (con.modifySlot i f).connections j = con.connections j := by
  simp [modifySlot, h]

end TCPSecureConnection

namespace TCPServer

def keyOf (server : TCPServer) (a : Nat) : Option PublicKey :=
  (server.acceptedConnectionArray[a]?).bind fun con =>
    if con.status = .confirmed then some con.publicKey else none

def slotOf (server : TCPServer) (a i : Nat) : LinkEnd Nat Nat PublicKey :=
  match server.acceptedConnectionArray[a]? with
  | none => .unused
  | some con => if i < numClientConnections then (con.connections i).linkEnd else .unused

def table (server : TCPServer) : LinkTable Nat Nat PublicKey where
  key := server.keyOf
  slot := server.slotOf

/-! ## Writing to slots -/

variable {server : TCPServer} {a b i j : Nat} {con : TCPSecureConnection}

theorem keyOf_eq_some {key : PublicKey} : server.keyOf a = some key ↔
    ∃ con, server.acceptedConnectionArray[a]? = some con ∧ con.status = .confirmed ∧
      con.publicKey = key := by
  unfold keyOf
  cases server.acceptedConnectionArray[a]? with
  | none => simp
  | some con => simp

section

variable (hcon : server.acceptedConnectionArray[a]? = some con)
include hcon

theorem slotOf_of_some
    (hi : i < numClientConnections) : server.slotOf a i = (con.connections i).linkEnd := by
  rw [slotOf, hcon]
  exact if_pos hi

theorem table_modifySlot {f : TCPSecureConn → TCPSecureConn} (hi : i < numClientConnections) :
    (server.modifySlot a i f).table =
      server.table.setSlot a i (f (con.connections i)).linkEnd := by
  have harray : ∀ b, (server.modifySlot a i f).acceptedConnectionArray[b]? =
      if a = b then some (con.modifySlot i f) else server.acceptedConnectionArray[b]? := by
    intro b
    show (server.acceptedConnectionArray.modify a _)[b]? = _
    by_cases hab : a = b
    · subst hab
      simp [hcon]
    · simp [hab]
  ext b : 2
  · show (server.modifySlot a i f).keyOf b = server.keyOf b
    rw [keyOf, harray, keyOf]
    split
    · rename_i hab
      rw [← hab, hcon]
      rfl
    · rfl
  · funext j
    rw [LinkTable.slot_setSlot]
    show (server.modifySlot a i f).slotOf b j = if b = a ∧ j = i then _ else server.slotOf b j
    rw [slotOf, harray]
    by_cases hab : a = b
    · subst hab
      rw [if_pos rfl]
      show (if j < numClientConnections then ((con.modifySlot i f).connections j).linkEnd else _) = _
      by_cases hji : j = i
      · subst hji
        rw [if_pos hi, if_pos ⟨rfl, rfl⟩, TCPSecureConnection.connections_modifySlot_self]
      · rw [TCPSecureConnection.connections_modifySlot_of_ne hji,
          if_neg (fun h : a = a ∧ j = i => hji h.2), slotOf, hcon]
    · rw [if_neg hab, if_neg (fun h => hab h.1.symm)]
      rfl

end

/-! ## What the slots do not touch -/

def roster (server : TCPServer) : List (TCPStatus × PublicKey) :=
  server.acceptedConnectionArray.map fun con => (con.status, con.publicKey)

structure SameRoster (server server' : TCPServer) : Prop where
  roster : server'.roster = server.roster
  keyList : server'.acceptedKeyList = server.acceptedKeyList
  count : server'.numAcceptedConnections = server.numAcceptedConnections
  incoming : server'.incomingConnectionQueue = server.incomingConnectionQueue
  unconfirmed : server'.unconfirmedConnectionQueue = server.unconfirmedConnectionQueue

theorem SameRoster.refl (server : TCPServer) : SameRoster server server :=
  ⟨rfl, rfl, rfl, rfl, rfl⟩

theorem SameRoster.trans {s1 s2 s3 : TCPServer} (h : SameRoster s1 s2) (h' : SameRoster s2 s3) :
    SameRoster s1 s3 :=
  ⟨h'.roster.trans h.roster, h'.keyList.trans h.keyList, h'.count.trans h.count,
    h'.incoming.trans h.incoming, h'.unconfirmed.trans h.unconfirmed⟩

theorem sameRoster_modifyConnection {f : TCPSecureConnection → TCPSecureConnection}
    (hf : ∀ con, (f con).status = con.status ∧ (f con).publicKey = con.publicKey)
    (server : TCPServer) (a : Nat) : SameRoster server (server.modifyConnection a f) := by
  refine ⟨?_, rfl, rfl, rfl, rfl⟩
  show (server.acceptedConnectionArray.modify a f).map _ = server.acceptedConnectionArray.map _
  refine ext_getElem? fun b => ?_
  rw [getElem?_map, getElem?_map, getElem?_modify]
  cases server.acceptedConnectionArray[b]? with
  | none => rfl
  | some con =>
    by_cases hab : a = b
    · simp [hab, hf con]
    · simp [hab]

theorem sameRoster_modifySlot (server : TCPServer) (a i : Nat) (f : TCPSecureConn → TCPSecureConn) :
    SameRoster server (server.modifySlot a i f) := by
  refine sameRoster_modifyConnection ?_ server a
  exact fun _ => ⟨rfl, rfl⟩

theorem writePacket_state (env : TCPServerEnv) (server : TCPServer) (index : Nat) (source : PublicKey)
    (data : Bytes) :
    ∃ written writes, (server.writePacketTCPSecureConnection env index source data).2 =
      { server with written, writes } := by
  unfold writePacketTCPSecureConnection
  split
  · exact ⟨_, _, rfl⟩
  split
  · exact ⟨_, _, rfl⟩
  split
  · exact ⟨_, _, rfl⟩
  · exact ⟨_, _, rfl⟩

structure OnlyWrites (server server' : TCPServer) : Prop where
  array : server'.acceptedConnectionArray = server.acceptedConnectionArray
  sameRoster : SameRoster server server'

theorem OnlyWrites.table {server' : TCPServer} (h : OnlyWrites server server') :
    server'.table = server.table := by
  ext b : 2
  · show server'.keyOf b = server.keyOf b
    rw [keyOf, h.array, keyOf]
  · funext j
    show server'.slotOf b j = server.slotOf b j
    rw [slotOf, h.array, slotOf]

theorem onlyWrites_writePacket (env : TCPServerEnv) (server : TCPServer) (index : Nat)
    (source : PublicKey) (data : Bytes) :
    OnlyWrites server (server.writePacketTCPSecureConnection env index source data).2 := by
  obtain ⟨written, writes, heq⟩ := writePacket_state env server index source data
  rw [heq]
  exact ⟨rfl, rfl, rfl, rfl, rfl, rfl⟩

/-! ## Releasing slots -/

theorem lt_of_slotOf (h : server.slotOf a i ≠ .unused) :
    a < server.acceptedConnectionArray.length ∧ i < numClientConnections := by
  rw [slotOf] at h
  split at h
  · exact absurd rfl h
  · rename_i con hcon
    split at h
    · rename_i hi
      exact ⟨(List.getElem?_eq_some_iff.mp hcon).1, hi⟩
    · exact absurd rfl h

theorem table_rmConnectionIndex (env : TCPServerEnv) (h : server.table.Symmetric)
    (hi : i < numClientConnections) (ha : a < server.acceptedConnectionArray.length) :
    (server.rmConnectionIndex env a i).2.table = server.table.release a i ∧
    SameRoster server (server.rmConnectionIndex env a i).2 := by
  obtain ⟨con, hcon⟩ : ∃ con, server.acceptedConnectionArray[a]? = some con :=
    ⟨_, getElem?_eq_getElem ha⟩
  have hslot : server.table.slot a i = (con.connections i).linkEnd := slotOf_of_some hcon hi
  rw [rmConnectionIndex, if_neg (Nat.not_le.mpr hi), hcon]
  dsimp only
  cases hstatus : (con.connections i).status with
  | unused =>
    have hunused : server.table.slot a i = .unused := by
      rw [hslot, TCPSecureConn.linkEnd, hstatus]
    exact ⟨(LinkTable.release_of_unused hunused).symm, .refl server⟩
  | offline =>
    have hwaiting : server.table.slot a i = .waiting (con.connections i).publicKey := by
      rw [hslot, TCPSecureConn.linkEnd, hstatus]
    refine ⟨?_, sameRoster_modifySlot server a i _⟩
    rw [table_modifySlot hcon hi, LinkTable.release_of_waiting hwaiting]
    rfl
  | online =>
    have hlinked : server.table.slot a i =
        .linked (con.connections i).publicKey (con.connections i).index (con.connections i).otherId := by
      rw [hslot, TCPSecureConn.linkEnd, hstatus]
    generalize (con.connections i).index = b at hlinked ⊢
    generalize (con.connections i).otherId = j at hlinked ⊢
    obtain ⟨key, hkey, hother, hback⟩ := h.linked hlinked
    have hne := h.ne_of_linked hlinked
    have hb : server.slotOf b j = .linked key a i := hback
    obtain ⟨hlen, hj⟩ := lt_of_slotOf (by rw [hb]; exact nofun)
    obtain ⟨other, hothercon⟩ : ∃ other, server.acceptedConnectionArray[b]? = some other :=
      ⟨_, getElem?_eq_getElem hlen⟩
    rw [if_neg (Nat.not_le.mpr hlen)]
    generalize hserver1 : server.modifySlot b j _ = server1
    have htable1 : server1.table = server.table.setSlot b j (.waiting key) := by
      rw [← hserver1, table_modifySlot hothercon hj]
      congr 1
      rw [slotOf_of_some hothercon hj] at hb
      revert hb
      unfold TCPSecureConn.linkEnd
      cases (other.connections j).status with
      | unused => exact nofun
      | offline => exact nofun
      | online =>
        intro hb
        injection hb with hk
        exact congrArg LinkEnd.waiting hk
    have hroster1 : SameRoster server server1 := by
      rw [← hserver1]
      exact sameRoster_modifySlot server b j _
    generalize hserver2 : (server1.sendDisconnectNotification env b con.publicKey j).2 = server2
    have hwrite : OnlyWrites server1 server2 := by
      rw [← hserver2]
      exact onlyWrites_writePacket env server1 b con.publicKey _
    have hcon2 : server2.acceptedConnectionArray[a]? = some con := by
      rw [hwrite.array, ← hserver1]
      show (server.acceptedConnectionArray.modify b _)[a]? = some con
      rw [getElem?_modify, hcon]
      simp [hne]
    refine ⟨?_, (hroster1.trans hwrite.sameRoster).trans (sameRoster_modifySlot server2 a i _)⟩
    rw [table_modifySlot hcon2 hi, hwrite.table, htable1, LinkTable.release_of_linked hlinked hback]
    rfl

/-! ## Consistent servers -/

structure Indexed (server : TCPServer) : Prop where
  sorted : server.acceptedKeyList.Sorted
  keyList : ∀ e, e ∈ server.acceptedKeyList.entries ↔
    ∃ a key, server.roster[a]? = some (.confirmed, key) ∧ e = (key.toList, a)
  count : server.numAcceptedConnections = server.roster.countP (·.1 = .confirmed)
  statuses : ∀ entry ∈ server.roster, entry.1 = .noStatus ∨ entry.1 = .confirmed
  incoming : ∀ n i, ((server.incomingConnectionQueue n).connections i).status = .unused
  unconfirmed : ∀ n i, ((server.unconfirmedConnectionQueue n).connections i).status = .unused

structure Consistent (server : TCPServer) : Prop where
  symmetric : server.table.Symmetric
  indexed : server.Indexed

theorem Indexed.of_sameRoster {server' : TCPServer} (h : server.Indexed)
    (hsame : SameRoster server server') : server'.Indexed := by
  constructor
  case sorted =>
    rw [hsame.keyList]
    exact h.sorted
  case keyList =>
    rw [hsame.keyList, hsame.roster]
    exact h.keyList
  case count =>
    rw [hsame.count, hsame.roster]
    exact h.count
  case statuses =>
    rw [hsame.roster]
    exact h.statuses
  case incoming =>
    rw [hsame.incoming]
    exact h.incoming
  case unconfirmed =>
    rw [hsame.unconfirmed]
    exact h.unconfirmed

theorem Consistent.of_sameRoster {server' : TCPServer} (h : server.Consistent)
    (hsymmetric : server'.table.Symmetric) (hsame : SameRoster server server') :
    server'.Consistent :=
  ⟨hsymmetric, h.indexed.of_sameRoster hsame⟩

theorem Consistent.of_onlyWrites {server' : TCPServer} (h : server.Consistent)
    (hwrites : OnlyWrites server server') : server'.Consistent := by
  refine h.of_sameRoster ?_ hwrites.sameRoster
  rw [hwrites.table]
  exact h.symmetric

@[simp] theorem length_roster (server : TCPServer) :
    server.roster.length = server.acceptedConnectionArray.length := by
  simp [roster]

theorem keyOf_eq_some_iff_roster {key : PublicKey} :
    server.keyOf a = some key ↔ server.roster[a]? = some (.confirmed, key) := by
  rw [keyOf_eq_some, roster, getElem?_map]
  cases server.acceptedConnectionArray[a]? with
  | none => simp
  | some con => simp

theorem Consistent.slotOf_of_keyOf_none (h : server.Consistent) (hkey : server.keyOf a = none) (i : Nat) :
    server.slotOf a i = .unused := by
  cases hslot : server.slotOf a i with
  | unused => rfl
  | waiting k =>
    obtain ⟨ka, hka, -⟩ := h.symmetric.used (show (server.table.slot a i).key? = some k by
      rw [show server.table.slot a i = .waiting k from hslot]; rfl)
    rw [show server.keyOf a = some ka from hka] at hkey
    cases hkey
  | linked k b j =>
    obtain ⟨ka, hka, -⟩ := h.symmetric.linked (show server.table.slot a i = .linked k b j from hslot)
    rw [show server.keyOf a = some ka from hka] at hkey
    cases hkey

/-! ## Killing a connection -/

theorem rmConnectionIndices_spec (env : TCPServerEnv) (h : server.table.Symmetric)
    (ha : a < server.acceptedConnectionArray.length) (n : Nat) (hn : n ≤ numClientConnections) :
    (server.rmConnectionIndices env a n).table.Symmetric ∧
    SameRoster server (server.rmConnectionIndices env a n) ∧
    ∀ i < n, (server.rmConnectionIndices env a n).table.slot a i = .unused := by
  induction n with
  | zero => exact ⟨h, .refl server, fun i hi => absurd hi (Nat.not_lt_zero i)⟩
  | succ n ih =>
    obtain ⟨hsymmetric, hsame, hunused⟩ := ih (by omega)
    have ha' : a < (server.rmConnectionIndices env a n).acceptedConnectionArray.length := by
      rw [← length_roster, hsame.roster, length_roster]
      exact ha
    obtain ⟨htable, hsame'⟩ := table_rmConnectionIndex env hsymmetric (by omega : n < _) ha'
    rw [rmConnectionIndices, htable]
    refine ⟨hsymmetric.release, hsame.trans hsame', ?_⟩
    intro i hi
    rw [hsymmetric.slot_release_self]
    split
    · rfl
    · exact hunused i (by omega)

theorem Consistent.freeAcceptedConnectionArray (h : server.Consistent)
    (hcount : server.numAcceptedConnections = 0) : server.freeAcceptedConnectionArray.Consistent := by
  have hentries : ∀ e, e ∉ server.acceptedKeyList.entries := by
    intro e hmem
    obtain ⟨b, key, hb, -⟩ := (h.indexed.keyList e).mp hmem
    have hzero := h.indexed.count.symm.trans hcount
    rw [countP_eq_zero] at hzero
    exact hzero _ (mem_of_getElem? hb) (by simp)
  refine ⟨LinkTable.symmetric_of_empty (fun b => rfl) (fun b j => rfl), ?_⟩
  constructor
  case sorted => exact h.indexed.sorted
  case keyList =>
    intro e
    constructor
    · intro hmem
      exact absurd hmem (hentries e)
    · rintro ⟨b, key, hb, -⟩
      cases hb
  case count => exact hcount
  case statuses =>
    intro entry hmem
    cases hmem
  case incoming => exact h.indexed.incoming
  case unconfirmed => exact h.indexed.unconfirmed

theorem table_set {new : TCPSecureConnection} {server' : TCPServer}
    (harray : server'.acceptedConnectionArray = server.acceptedConnectionArray.set a new)
    (ha : a < server.acceptedConnectionArray.length) (hold : ∀ i, server.slotOf a i = .unused)
    (hnew : ∀ i, (new.connections i).status = .unused) :
    server'.table =
      server.table.setKey a (if new.status = .confirmed then some new.publicKey else none) := by
  have hget : ∀ b, server'.acceptedConnectionArray[b]? =
      if a = b then some new else server.acceptedConnectionArray[b]? := by
    intro b
    rw [harray, getElem?_set]
    by_cases hab : a = b
    · simp [ha]
    · simp [hab]
  ext b : 2
  · show server'.keyOf b = _
    by_cases hab : b = a
    · subst hab
      rw [LinkTable.key_setKey_self, keyOf, hget, if_pos rfl]
      rfl
    · rw [LinkTable.key_setKey_of_ne hab, keyOf, hget, if_neg (Ne.symm hab)]
      rfl
  · funext j
    show server'.slotOf b j = server.slotOf b j
    by_cases hab : b = a
    · subst hab
      rw [hold, slotOf, hget, if_pos rfl]
      show (if j < numClientConnections then (new.connections j).linkEnd else _) = _
      rw [TCPSecureConn.linkEnd, hnew]
      exact ite_self _
    · rw [slotOf, hget, if_neg (Ne.symm hab), slotOf]

theorem Consistent.remove {key : PublicKey} {acceptedKeyList : BSList} {server' : TCPServer}
    (h : server.Consistent) (hslots : ∀ i, server.slotOf a i = .unused)
    (hroster : server.roster[a]? = some (.confirmed, key))
    (hremove : server.acceptedKeyList.bsListRemove key.toList a = (true, acceptedKeyList))
    (harray : server'.acceptedConnectionArray = server.acceptedConnectionArray.set a zeroSecureConnection)
    (hlist : server'.acceptedKeyList = acceptedKeyList)
    (hnum : server'.numAcceptedConnections = server.numAcceptedConnections - 1)
    (hincoming : server'.incomingConnectionQueue = server.incomingConnectionQueue)
    (hunconfirmed : server'.unconfirmedConnectionQueue = server.unconfirmedConnectionQueue) :
    server'.Consistent := by
  have hlt := (List.getElem?_eq_some_iff.mp hroster).1
  have ha : a < server.acceptedConnectionArray.length := by
    rw [← length_roster]
    exact hlt
  obtain ⟨hsorted, hentries⟩ := BSList.mem_bsListRemove h.indexed.sorted key.toList a
  rw [hremove] at hsorted hentries
  have hroster' : server'.roster = server.roster.set a (.noStatus, Vector.replicate _ 0) := by
    rw [roster, harray, map_set]
    rfl
  constructor
  · rw [table_set harray ha hslots (fun i => rfl)]
    exact h.symmetric.expel hslots
  constructor
  case sorted =>
    rw [hlist]
    exact hsorted
  case keyList =>
    intro e
    rw [hlist, hentries, h.indexed.keyList, hroster']
    constructor
    · rintro ⟨⟨b, key', hb, rfl⟩, hne⟩
      refine ⟨b, key', ?_, rfl⟩
      have hab : a ≠ b := by
        rintro rfl
        rw [hroster] at hb
        cases hb
        exact hne rfl
      rw [getElem?_set_ne hab]
      exact hb
    · rintro ⟨b, key', hb, rfl⟩
      by_cases hab : a = b
      · subst hab
        rw [getElem?_set_self hlt] at hb
        cases hb
      · rw [getElem?_set_ne hab] at hb
        refine ⟨⟨b, key', hb, rfl⟩, ?_⟩
        intro heq
        exact hab (congrArg Prod.snd heq).symm
  case count =>
    have hget : server.roster[a] = (.confirmed, key) := by
      rw [getElem?_eq_getElem hlt] at hroster
      exact Option.some.inj hroster
    rw [hnum, hroster', h.indexed.count, countP_set hlt, hget]
    simp
  case statuses =>
    rw [hroster']
    intro entry hmem
    rcases mem_or_eq_of_mem_set hmem with hold | rfl
    · exact h.indexed.statuses entry hold
    · exact .inl rfl
  case incoming =>
    rw [hincoming]
    exact h.indexed.incoming
  case unconfirmed =>
    rw [hunconfirmed]
    exact h.indexed.unconfirmed

theorem Consistent.delAccepted_spec (h : server.Consistent) (hslots : ∀ i, server.slotOf a i = .unused) :
    (server.delAccepted a).2 = server ∨
    ∃ server', server'.Consistent ∧
      server'.acceptedConnectionArray = server.acceptedConnectionArray.set a zeroSecureConnection ∧
      server'.written = server.written ∧
      (server.delAccepted a).2 =
        if server'.numAcceptedConnections = 0 then server'.freeAcceptedConnectionArray
        else server' := by
  rw [TCPServer.delAccepted]
  split
  · exact .inl rfl
  rename_i con hcon
  split
  · exact .inl rfl
  rename_i hstatus
  split
  · exact .inl rfl
  rename_i acceptedKeyList hremove
  have hget : server.roster[a]? = some (con.status, con.publicKey) := by
    rw [roster, getElem?_map, hcon]
    rfl
  have hconfirmed : con.status = .confirmed :=
    (h.indexed.statuses _ (mem_of_getElem? hget)).resolve_left hstatus
  rw [hconfirmed] at hget
  have harray : server.acceptedConnectionArray.modify a TCPSecureConnection.wipe =
      server.acceptedConnectionArray.set a zeroSecureConnection := by
    rw [modify_eq_set_getElem?, hcon]
    show server.acceptedConnectionArray.set a con.wipe = _
    rw [TCPSecureConnection.wipe, hconfirmed]
    rfl
  refine .inr ⟨_, ?_, ?_, ?_, rfl⟩
  · exact h.remove hslots hget hremove harray rfl rfl rfl rfl
  · exact harray
  · rfl

theorem Consistent.delAccepted (h : server.Consistent) (hslots : ∀ i, server.slotOf a i = .unused) :
    (server.delAccepted a).2.Consistent := by
  rcases h.delAccepted_spec hslots with heq | ⟨server', h', -, -, heq⟩
  · rw [heq]
    exact h
  · rw [heq]
    split
    · rename_i hzero
      exact h'.freeAcceptedConnectionArray hzero
    · exact h'

theorem slotOf_rmConnectionIndices (env : TCPServerEnv) (h : server.table.Symmetric)
    (ha : a < server.acceptedConnectionArray.length) (i : Nat) :
    (server.rmConnectionIndices env a numClientConnections).slotOf a i = .unused := by
  obtain ⟨-, -, hunused⟩ := rmConnectionIndices_spec env h ha numClientConnections le_rfl
  generalize server.rmConnectionIndices env a numClientConnections = server' at hunused ⊢
  by_cases hi : i < numClientConnections
  · exact hunused i hi
  · by_contra hne
    exact hi (lt_of_slotOf hne).2

theorem Consistent.killAccepted (env : TCPServerEnv) (h : server.Consistent) (a : Nat) :
    (server.killAccepted env a).2.Consistent := by
  rw [TCPServer.killAccepted]
  split
  · exact h
  rename_i ha
  have ha := Nat.not_le.mp ha
  obtain ⟨hsymmetric, hsame, -⟩ :=
    rmConnectionIndices_spec env h.symmetric ha numClientConnections le_rfl
  exact (h.of_sameRoster hsymmetric hsame).delAccepted (slotOf_rmConnectionIndices env h.symmetric ha)

/-! ## A new connection -/

theorem Consistent.allocNewConnections (env : TCPServerEnv) (h : server.Consistent) (num : Nat) :
    (server.allocNewConnections env num).2.Consistent := by
  rw [TCPServer.allocNewConnections]
  split
  · exact h
  split
  · exact h
  generalize hserver' : ({ server with
    acceptedConnectionArray := server.acceptedConnectionArray ++
      List.replicate num zeroSecureConnection } : TCPServer) = server'
  have hroster : server'.roster =
      server.roster ++ List.replicate num (.noStatus, Vector.replicate _ 0) := by
    rw [← hserver']
    show List.map _ (server.acceptedConnectionArray ++ _) = _
    rw [map_append, map_replicate]
    rfl
  have hget : ∀ b : Nat, server'.acceptedConnectionArray[b]? = server.acceptedConnectionArray[b]? ∨
      server.acceptedConnectionArray[b]? = none ∧
        server'.acceptedConnectionArray[b]? = some zeroSecureConnection := by
    intro b
    rw [← hserver']
    rcases Nat.lt_or_ge b server.acceptedConnectionArray.length with hb | hb
    · exact .inl (getElem?_append_left hb)
    · have hnone := List.getElem?_eq_none_iff.mpr hb
      rw [getElem?_append_right hb, hnone, getElem?_replicate]
      split
      · exact .inr ⟨rfl, rfl⟩
      · exact .inl rfl
  have htable : server'.table = server.table := by
    ext b : 2
    · show server'.keyOf b = server.keyOf b
      rcases hget b with heq | ⟨hnone, hzero⟩
      · rw [keyOf, heq, keyOf]
      · rw [keyOf, hzero, keyOf, hnone]
        rfl
    · funext j
      show server'.slotOf b j = server.slotOf b j
      rcases hget b with heq | ⟨hnone, hzero⟩
      · rw [slotOf, heq, slotOf]
      · rw [slotOf, hzero, slotOf, hnone]
        exact ite_self _
  have hconfirmed : ∀ (b : Nat) (key : PublicKey),
      server'.roster[b]? = some (TCPStatus.confirmed, key) ↔
        server.roster[b]? = some (TCPStatus.confirmed, key) := by
    intro b key
    rw [← keyOf_eq_some_iff_roster, ← keyOf_eq_some_iff_roster]
    exact iff_of_eq (congrArg (· = some key) (congrFun (congrArg LinkTable.key htable) b))
  constructor
  · rw [htable]
    exact h.symmetric
  constructor
  case sorted =>
    rw [← hserver']
    exact h.indexed.sorted
  case keyList =>
    intro e
    have hlist : server'.acceptedKeyList = server.acceptedKeyList := by rw [← hserver']
    simp only [hlist, h.indexed.keyList, hconfirmed]
  case count =>
    have hnum : server'.numAcceptedConnections = server.numAcceptedConnections := by rw [← hserver']
    rw [hnum, hroster, h.indexed.count]
    simp [countP_replicate]
  case statuses =>
    rw [hroster]
    intro entry hmem
    rcases mem_append.mp hmem with hold | hnew
    · exact h.indexed.statuses entry hold
    · rw [(mem_replicate.mp hnew).2]
      exact .inl rfl
  case incoming =>
    rw [← hserver']
    exact h.indexed.incoming
  case unconfirmed =>
    rw [← hserver']
    exact h.indexed.unconfirmed

theorem Consistent.placeAccepted (env : TCPServerEnv) (h : server.Consistent) :
    (server.placeAccepted env).2.Consistent ∧
    ∀ index, (server.placeAccepted env).1 = some index →
      ∃ con, (server.placeAccepted env).2.acceptedConnectionArray[index]? = some con ∧
        con.status = .noStatus := by
  have halloc := h.allocNewConnections env 4
  rw [TCPServer.placeAccepted]
  split
  · rename_i hfull
    split
    · rename_i server' heq
      rw [heq] at halloc
      exact ⟨halloc, fun index hindex => nomatch hindex⟩
    · rename_i server' heq
      rw [heq] at halloc
      refine ⟨halloc, ?_⟩
      intro index hindex
      -- the array grew by four entries, and the first of them has the number of the connections
      rw [TCPServer.allocNewConnections] at heq
      split at heq
      · cases heq
      split at heq
      · cases heq
      injection heq with _ hserver'
      rw [← hserver'] at hindex ⊢
      have hnum : index = server.acceptedConnectionArray.length := by
        rw [hfull]
        exact (Option.some.inj hindex).symm
      rw [hnum]
      refine ⟨zeroSecureConnection, ?_, rfl⟩
      rw [getElem?_append_right le_rfl, Nat.sub_self]
      rfl
  · refine ⟨h, ?_⟩
    intro index hindex
    have hany := find?_some hindex
    obtain ⟨con, hcon, hstatus⟩ := (Option.any_eq_true _ _).mp hany
    exact ⟨con, hcon, by simpa using hstatus⟩

theorem Consistent.insert {key : PublicKey} {acceptedKeyList : BSList} {server' : TCPServer}
    (h : server.Consistent) (new : TCPSecureConnection)
    (hcon : server.acceptedConnectionArray[a]? = some con) (hstatus : con.status = .noStatus)
    (hadd : server.acceptedKeyList.bsListAdd key.toList a = (true, acceptedKeyList))
    (hnewStatus : new.status = .confirmed) (hnewKey : new.publicKey = key)
    (hnewSlots : ∀ i, (new.connections i).status = .unused)
    (harray : server'.acceptedConnectionArray = server.acceptedConnectionArray.set a new)
    (hlist : server'.acceptedKeyList = acceptedKeyList)
    (hnum : server'.numAcceptedConnections = server.numAcceptedConnections + 1)
    (hincoming : server'.incomingConnectionQueue = server.incomingConnectionQueue)
    (hunconfirmed : server'.unconfirmedConnectionQueue = server.unconfirmedConnectionQueue) :
    server'.Consistent := by
  have ha := (List.getElem?_eq_some_iff.mp hcon).1
  have hlt : a < server.roster.length := by
    rw [length_roster]
    exact ha
  have hroster : server.roster[a]? = some (.noStatus, con.publicKey) := by
    rw [roster, getElem?_map, hcon, ← hstatus]
    rfl
  have hkeyOf : server.keyOf a = none := by
    rw [keyOf, hcon]
    simp [hstatus]
  obtain ⟨hsorted, hnew, hentries⟩ := BSList.mem_bsListAdd h.indexed.sorted hadd
  have hfresh : ∀ b, server.keyOf b ≠ some key := by
    intro b hb
    exact hnew b ((h.indexed.keyList _).mpr ⟨b, key, keyOf_eq_some_iff_roster.mp hb, rfl⟩)
  have hroster' : server'.roster = server.roster.set a (.confirmed, key) := by
    rw [roster, harray, map_set, hnewStatus, hnewKey]
    rfl
  constructor
  · rw [table_set harray ha (h.slotOf_of_keyOf_none hkeyOf) hnewSlots, if_pos hnewStatus, hnewKey]
    exact h.symmetric.admit hkeyOf hfresh
  constructor
  case sorted =>
    rw [hlist]
    exact hsorted
  case keyList =>
    intro e
    rw [hlist, hentries, h.indexed.keyList, hroster']
    constructor
    · rintro (rfl | ⟨b, key', hb, rfl⟩)
      · exact ⟨a, key, getElem?_set_self hlt, rfl⟩
      · refine ⟨b, key', ?_, rfl⟩
        have hab : a ≠ b := by
          rintro rfl
          rw [hroster] at hb
          cases hb
        rw [getElem?_set_ne hab]
        exact hb
    · rintro ⟨b, key', hb, rfl⟩
      by_cases hab : a = b
      · subst hab
        rw [getElem?_set_self hlt] at hb
        cases hb
        exact .inl rfl
      · rw [getElem?_set_ne hab] at hb
        exact .inr ⟨b, key', hb, rfl⟩
  case count =>
    have hget : server.roster[a] = (.noStatus, con.publicKey) := by
      rw [getElem?_eq_getElem hlt] at hroster
      exact Option.some.inj hroster
    rw [hnum, hroster', h.indexed.count, countP_set hlt, hget]
    simp
  case statuses =>
    rw [hroster']
    intro entry hmem
    rcases mem_or_eq_of_mem_set hmem with hold | rfl
    · exact h.indexed.statuses entry hold
    · exact .inr rfl
  case incoming =>
    rw [hincoming]
    exact h.indexed.incoming
  case unconfirmed =>
    rw [hunconfirmed]
    exact h.indexed.unconfirmed

theorem Consistent.addAccepted (env : TCPServerEnv) (h : server.Consistent)
    (hslots : ∀ i, (con.connections i).status = .unused) :
    (server.addAccepted env con).2.Consistent ∧
    ∀ index, (server.addAccepted env con).1 = some index →
      (server.addAccepted env con).2.keyOf index = some con.publicKey := by
  rw [TCPServer.addAccepted]
  have h1 : (server.killOld env con.publicKey).Consistent := by
    rw [TCPServer.killOld]
    split
    · exact h.killAccepted env _
    · exact h
  obtain ⟨h2, hplace⟩ := h1.placeAccepted env
  generalize (server.killOld env con.publicKey).placeAccepted env = placed at h2 hplace ⊢
  obtain ⟨place, server2⟩ := placed
  cases place with
  | none => exact ⟨h2, fun index hindex => nomatch hindex⟩
  | some index =>
    obtain ⟨old, hold, hstatus⟩ := hplace index rfl
    dsimp only at h2 hold ⊢
    split
    · exact ⟨h2, fun index hindex => nomatch hindex⟩
    split
    · exact ⟨h2, fun index hindex => nomatch hindex⟩
    rename_i acceptedKeyList hadd
    constructor
    · exact h2.insert { con with
        status := .confirmed
        identifier := server2.counter + 1
        lastPinged := env.now
        pingId := 0 } hold hstatus hadd rfl rfl hslots rfl rfl rfl rfl rfl
    · intro index' hindex
      cases hindex
      rw [keyOf_eq_some]
      exact ⟨_, getElem?_set_self (List.getElem?_eq_some_iff.mp hold).1, rfl, rfl⟩

/-! ## Packets -/

theorem Consistent.getTCPConnectionIndex_eq_some (h : server.Consistent) {key : PublicKey} :
    server.getTCPConnectionIndex key = some a ↔ server.keyOf a = some key := by
  rw [getTCPConnectionIndex, BSList.bsListFind_eq_some_iff h.indexed.sorted, h.indexed.keyList,
    keyOf_eq_some_iff_roster]
  constructor
  · rintro ⟨b, key', hb, heq⟩
    injection heq with hkey hab
    rw [hab, Vector.toList_inj.mp hkey]
    exact hb
  · intro hkey
    exact ⟨a, key, hkey, rfl⟩

theorem find?_range_eq_some {n i : Nat} {p : Nat → Bool} (h : (List.range n).find? p = some i) :
    i < n ∧ p i = true :=
  ⟨mem_range.mp (mem_of_find?_eq_some h), find?_some h⟩

theorem slotOf_of_waitingSlot {key : PublicKey} (hcon : server.acceptedConnectionArray[a]? = some con)
    (hwaiting : con.waitingSlot key = some i) :
    i < numClientConnections ∧ server.slotOf a i = .waiting key := by
  obtain ⟨hi, hslot⟩ := find?_range_eq_some hwaiting
  simp only [Bool.and_eq_true, beq_iff_eq] at hslot
  refine ⟨hi, ?_⟩
  rw [slotOf_of_some hcon hi, TCPSecureConn.linkEnd, hslot.1, hslot.2]

theorem publicKey_of_waiting {slot : TCPSecureConn} {key : PublicKey} (h : slot.linkEnd = .waiting key) :
    slot.publicKey = key := by
  unfold TCPSecureConn.linkEnd at h
  split at h
  · cases h
  · injection h
  · cases h

theorem Consistent.linkSlot_spec (env : TCPServerEnv) (h : server.Consistent) {conKey publicKey : PublicKey}
    (hkey : server.keyOf a = some conKey) (hslot : server.slotOf a i = .waiting publicKey) :
    server.linkSlot env a i conKey publicKey = server ∨
    ∃ b j server1, server.keyOf b = some publicKey ∧ server.slotOf b j = .waiting conKey ∧
      SameRoster server server1 ∧ server1.written = server.written ∧
      server1.table = server.table.join a i conKey b j publicKey ∧
      server.linkSlot env a i conKey publicKey =
        ((server1.sendConnectNotification env a conKey i).2.sendConnectNotification env b conKey j).2 := by
  rw [TCPServer.linkSlot]
  split
  · exact .inl rfl
  rename_i b hb
  split
  · exact .inl rfl
  rename_i other hother
  split
  · exact .inl rfl
  rename_i j hj
  obtain ⟨con, hcon, -, hconKey⟩ := keyOf_eq_some.mp hkey
  obtain ⟨hj, hwaiting⟩ := slotOf_of_waitingSlot hother hj
  have hi := (lt_of_slotOf (by rw [hslot]; exact nofun : server.slotOf a i ≠ .unused)).2
  have hotherKey := h.getTCPConnectionIndex_eq_some.mp hb
  have hab : b ≠ a := by
    rintro rfl
    obtain ⟨ka, hka, hne⟩ := h.symmetric.used (show (server.table.slot b i).key? = some publicKey by
      rw [show server.table.slot b i = _ from hslot]; rfl)
    rw [show server.keyOf b = some ka from hka] at hotherKey
    exact hne (Option.some.inj hotherKey)
  refine .inr ⟨b, j, (server.modifySlot a i fun slot =>
      { slot with status := .online, index := b, otherId := j }).modifySlot b j fun slot =>
      { slot with status := .online, index := a, otherId := i },
    hotherKey, hwaiting, ?_, rfl, ?_, rfl⟩
  · exact (sameRoster_modifySlot server a i _).trans (sameRoster_modifySlot _ b j _)
  · have hother1 : ∀ f, (server.modifySlot a i f).acceptedConnectionArray[b]? = some other := by
      intro f
      show (server.acceptedConnectionArray.modify a _)[b]? = some other
      rw [getElem?_modify, hother]
      simp [Ne.symm hab]
    rw [table_modifySlot (hother1 _) hj, table_modifySlot hcon hi]
    rw [slotOf_of_some hother hj] at hwaiting
    rw [slotOf_of_some hcon hi] at hslot
    -- both slots keep their keys
    rw [publicKey_of_waiting hwaiting, publicKey_of_waiting hslot]
    rfl

theorem Consistent.linkSlot (env : TCPServerEnv) (h : server.Consistent) {conKey publicKey : PublicKey}
    (hkey : server.keyOf a = some conKey) (hslot : server.slotOf a i = .waiting publicKey) :
    (server.linkSlot env a i conKey publicKey).Consistent := by
  rcases h.linkSlot_spec env hkey hslot with
    heq | ⟨b, j, server1, hotherKey, hwaiting, hsame, -, htable, heq⟩
  · rw [heq]
    exact h
  · rw [heq]
    have h1 : server1.Consistent := by
      refine h.of_sameRoster ?_ hsame
      rw [htable]
      exact h.symmetric.join hkey hotherKey hslot hwaiting
    exact (h1.of_onlyWrites (onlyWrites_writePacket env _ _ _ _)).of_onlyWrites
      (onlyWrites_writePacket env _ _ _ _)

/-- What `handle_TCP_routing_req` does for a client with a key. -/
inductive RoutingReq (env : TCPServerEnv) (server : TCPServer) (a : Nat) (conKey publicKey : PublicKey) :
    TCPServer → Prop where
  /-- The request is denied, or answered with the slot that the key has already. -/
  | answered (rpid : Nat) (hrpid : rpid = 0 ∨ ∃ i < numClientConnections, rpid = i + numReservedPorts ∧
      (server.slotOf a i).key? = some publicKey) :
    RoutingReq env server a conKey publicKey (server.sendRoutingResponse env a conKey rpid publicKey).2
  /-- The answer could not be sent. -/
  | unanswered (rpid : Nat) (hret : (server.sendRoutingResponse env a conKey rpid publicKey).1 ≠ .sent) :
    RoutingReq env server a conKey publicKey (server.sendRoutingResponse env a conKey rpid publicKey).2
  /-- The key takes a slot. -/
  | taken (i : Nat) (hi : i < numClientConnections) (hslot : server.slotOf a i = .unused)
      (hfresh : ∀ j, (server.slotOf a j).key? ≠ some publicKey) (hself : conKey ≠ publicKey) :
    RoutingReq env server a conKey publicKey
      (((server.sendRoutingResponse env a conKey (i + numReservedPorts) publicKey).2.modifySlot a i
        fun slot => { slot with status := .offline, publicKey }).linkSlot env a i conKey publicKey)

theorem key?_ne_of_registeredSlot_none {publicKey : PublicKey}
    (hcon : server.acceptedConnectionArray[a]? = some con) (hnone : con.registeredSlot publicKey = none)
    (j : Nat) : (server.slotOf a j).key? ≠ some publicKey := by
  intro hj
  have hused : server.slotOf a j ≠ .unused := by
    intro heq
    rw [heq] at hj
    cases hj
  have hlt := (lt_of_slotOf hused).2
  have hnot := find?_eq_none.mp hnone j (mem_range.mpr hlt)
  apply hnot
  rw [slotOf_of_some hcon hlt, TCPSecureConn.linkEnd] at hj
  revert hj
  cases (con.connections j).status with
  | unused => exact nofun
  | offline =>
    intro hj
    rw [show (con.connections j).publicKey = publicKey from Option.some.inj hj, beq_self_eq_true]
    rfl
  | online =>
    intro hj
    rw [show (con.connections j).publicKey = publicKey from Option.some.inj hj, beq_self_eq_true]
    rfl

theorem routingReq_cases (env : TCPServerEnv) {conKey : PublicKey} (hkey : server.keyOf a = some conKey)
    (publicKey : PublicKey) :
    RoutingReq env server a conKey publicKey (server.handleTCPRoutingReq env a publicKey).2 := by
  obtain ⟨con, hcon, -, rfl⟩ := keyOf_eq_some.mp hkey
  rw [TCPServer.handleTCPRoutingReq, hcon]
  dsimp only
  split
  · exact .answered 0 (.inl rfl)
  rename_i hself
  split
  · rename_i i hregistered
    obtain ⟨hi, hslot⟩ := find?_range_eq_some hregistered
    refine .answered _ (.inr ⟨i, hi, rfl, ?_⟩)
    rw [Bool.and_eq_true, bne_iff_ne, beq_iff_eq] at hslot
    rw [slotOf_of_some hcon hi, TCPSecureConn.linkEnd, hslot.2]
    have hused := hslot.1
    cases hstatus : (con.connections i).status with
    | unused => exact absurd hstatus hused
    | offline => rfl
    | online => rfl
  rename_i hregistered
  split
  · exact .answered 0 (.inl rfl)
  rename_i i hfree
  obtain ⟨hi, hunused⟩ := find?_range_eq_some hfree
  have hslot : server.slotOf a i = .unused := by
    rw [slotOf_of_some hcon hi, TCPSecureConn.linkEnd, beq_iff_eq.mp hunused]
  have hunanswered : (server.sendRoutingResponse env a con.publicKey (i + numReservedPorts)
      publicKey).1 ≠ .sent → RoutingReq env server a con.publicKey publicKey
        (server.sendRoutingResponse env a con.publicKey (i + numReservedPorts) publicKey).2 :=
    RoutingReq.unanswered _
  have htaken : RoutingReq env server a con.publicKey publicKey
      (((server.sendRoutingResponse env a con.publicKey (i + numReservedPorts) publicKey).2.modifySlot
        a i fun slot => { slot with status := .offline, publicKey }).linkSlot env a i con.publicKey
          publicKey) :=
    RoutingReq.taken i hi hslot (key?_ne_of_registeredSlot_none hcon hregistered) hself
  generalize server.sendRoutingResponse env a con.publicKey (i + numReservedPorts) publicKey =
    response at hunanswered htaken ⊢
  obtain ⟨ret, server1⟩ := response
  cases ret with
  | notSent => exact hunanswered nofun
  | failed => exact hunanswered nofun
  | sent => exact htaken

theorem Consistent.takeSlot (env : TCPServerEnv) (h : server.Consistent) {conKey publicKey : PublicKey}
    (hkey : server.keyOf a = some conKey) (hi : i < numClientConnections)
    (hslot : server.slotOf a i = .unused) (hfresh : ∀ j, (server.slotOf a j).key? ≠ some publicKey)
    (hself : conKey ≠ publicKey) (rpid : Nat) {server2 : TCPServer}
    (hserver2 : server2 = (server.sendRoutingResponse env a conKey rpid publicKey).2.modifySlot a i
      fun slot => { slot with status := .offline, publicKey }) :
    server2.Consistent ∧ server2.table = server.table.setSlot a i (.waiting publicKey) := by
  have hwrites : OnlyWrites server (server.sendRoutingResponse env a conKey rpid publicKey).2 :=
    onlyWrites_writePacket env server a conKey _
  obtain ⟨con, hcon, -, -⟩ := keyOf_eq_some.mp hkey
  generalize (server.sendRoutingResponse env a conKey rpid publicKey).2 = server1 at hwrites hserver2
  have hcon1 : server1.acceptedConnectionArray[a]? = some con := by
    rw [hwrites.array]
    exact hcon
  have htable : server2.table = server.table.setSlot a i (.waiting publicKey) := by
    rw [hserver2, table_modifySlot hcon1 hi, hwrites.table]
    rfl
  refine ⟨?_, htable⟩
  refine h.of_sameRoster ?_ (hwrites.sameRoster.trans ?_)
  · rw [htable]
    exact h.symmetric.wait hslot hkey hself hfresh
  · rw [hserver2]
    exact sameRoster_modifySlot server1 a i _

theorem Consistent.handleTCPRoutingReq (env : TCPServerEnv) (h : server.Consistent)
    {conKey : PublicKey} (hkey : server.keyOf a = some conKey) (publicKey : PublicKey) :
    (server.handleTCPRoutingReq env a publicKey).2.Consistent := by
  have hcases := routingReq_cases env hkey publicKey
  generalize (server.handleTCPRoutingReq env a publicKey).2 = server' at hcases ⊢
  cases hcases with
  | answered rpid hrpid => exact h.of_onlyWrites (onlyWrites_writePacket env server a conKey _)
  | unanswered rpid hret => exact h.of_onlyWrites (onlyWrites_writePacket env server a conKey _)
  | taken i hi hslot hfresh hself =>
    obtain ⟨h2, htable⟩ := h.takeSlot env hkey hi hslot hfresh hself _ rfl
    refine h2.linkSlot env ?_ ?_
    · exact (congrFun (congrArg LinkTable.key htable) a).trans hkey
    · exact (congrFun (congrFun (congrArg LinkTable.slot htable) a) i).trans LinkTable.slot_setSlot_self

theorem Consistent.modifyConnection {f : TCPSecureConnection → TCPSecureConnection}
    (h : server.Consistent) (hf : ∀ con, (f con).status = con.status ∧
      (f con).publicKey = con.publicKey ∧ (f con).connections = con.connections) (a : Nat) :
    (server.modifyConnection a f).Consistent := by
  have htable : (server.modifyConnection a f).table = server.table := by
    have hget : ∀ b, (server.modifyConnection a f).acceptedConnectionArray[b]? =
        (server.acceptedConnectionArray[b]?).map fun con => if a = b then f con else con :=
      fun b => getElem?_modify f a _ b
    ext b : 2
    · show (server.modifyConnection a f).keyOf b = server.keyOf b
      rw [keyOf, hget, keyOf]
      cases server.acceptedConnectionArray[b]? with
      | none => rfl
      | some con =>
        by_cases hab : a = b
        · simp [hab, hf con]
        · simp [hab]
    · funext j
      show (server.modifyConnection a f).slotOf b j = server.slotOf b j
      rw [slotOf, hget, slotOf]
      cases server.acceptedConnectionArray[b]? with
      | none => rfl
      | some con =>
        by_cases hab : a = b
        · simp [hab, hf con]
        · simp [hab]
  refine h.of_sameRoster ?_ (sameRoster_modifyConnection (fun con => ⟨(hf con).1, (hf con).2.1⟩) server a)
  rw [htable]
  exact h.symmetric

theorem Consistent.ite {c : Prop} [Decidable c] {r r' : Bool × TCPServer} (h : r.2.Consistent)
    (h' : r'.2.Consistent) : (if c then r else r').2.Consistent := by
  by_cases hc : c
  · rw [if_pos hc]
    exact h
  · rw [if_neg hc]
    exact h'

theorem Consistent.rmConnectionIndex (env : TCPServerEnv) (h : server.Consistent) (a i : Nat) :
    (server.rmConnectionIndex env a i).2.Consistent := by
  by_cases hi : i < numClientConnections
  · by_cases ha : a < server.acceptedConnectionArray.length
    · obtain ⟨htable, hsame⟩ := table_rmConnectionIndex env h.symmetric hi ha
      refine h.of_sameRoster ?_ hsame
      rw [htable]
      exact h.symmetric.release
    · rw [TCPServer.rmConnectionIndex, List.getElem?_eq_none_iff.mpr (Nat.not_lt.mp ha)]
      exact .ite h h
  · rw [TCPServer.rmConnectionIndex, if_pos (Nat.not_lt.mp hi)]
    exact h

theorem Consistent.handleTCPPacket (env : TCPServerEnv) (h : server.Consistent)
    {conKey : PublicKey} (hkey : server.keyOf a = some conKey) (data : Bytes) :
    (server.handleTCPPacket env a data).2.Consistent := by
  obtain ⟨con, hcon, -, -⟩ := keyOf_eq_some.mp hkey
  have hwrite : ∀ index source data, (server.writePacketTCPSecureConnection env index source
      data).2.Consistent :=
    fun index source data => h.of_onlyWrites (onlyWrites_writePacket env server index source data)
  cases data with
  | nil => exact h
  | cons packetId data =>
    rw [TCPServer.handleTCPPacket, hcon]
    -- the cases of the switch, in its order
    refine .ite (.ite h (h.handleTCPRoutingReq env hkey _)) ?_
    refine .ite h ?_
    refine .ite (.ite h (h.rmConnectionIndex env a _)) ?_
    refine .ite (.ite h (hwrite _ _ _)) ?_
    refine .ite (.ite h (.ite ?_ h)) ?_
    · split
      · refine h.modifyConnection ?_ a
        exact fun _ => ⟨rfl, rfl, rfl⟩
      · exact h
    refine .ite (.ite h ?_) ?_
    · refine .ite h ?_
      split
      · exact hwrite _ _ _
      · exact h
    refine .ite (.ite h h) ?_
    refine .ite h ?_
    refine .ite (.ite h ?_) ?_
    · split
      · exact h
      · exact h
    refine .ite h ?_
    refine .ite h ?_
    dsimp only
    split
    · exact h
    · exact h
    · exact hwrite _ _ _

/-! ## Runs -/

theorem Consistent.confirmTCPConnection (env : TCPServerEnv) (h : server.Consistent)
    (hslots : ∀ i, (con.connections i).status = .unused) (data : Bytes) :
    (server.confirmTCPConnection env con data).2.Consistent := by
  obtain ⟨h1, hindex⟩ := h.addAccepted env hslots
  rw [TCPServer.confirmTCPConnection]
  generalize server.addAccepted env con = added at h1 hindex ⊢
  obtain ⟨place, server1⟩ := added
  cases place with
  | none => exact h1
  | some index =>
    have h2 := h1.handleTCPPacket env (hindex index rfl) data
    dsimp only at h2 ⊢
    generalize server1.handleTCPPacket env index data = handled at h2 ⊢
    obtain ⟨ok, server2⟩ := handled
    cases ok with
    | false => exact h2.killAccepted env index
    | true => exact h2

theorem Consistent.of_queues {server' : TCPServer} (h : server.Consistent)
    (harray : server'.acceptedConnectionArray = server.acceptedConnectionArray)
    (hlist : server'.acceptedKeyList = server.acceptedKeyList)
    (hnum : server'.numAcceptedConnections = server.numAcceptedConnections)
    (hincoming : ∀ n i, ((server'.incomingConnectionQueue n).connections i).status = .unused)
    (hunconfirmed : ∀ n i, ((server'.unconfirmedConnectionQueue n).connections i).status = .unused) :
    server'.Consistent := by
  have hroster : server'.roster = server.roster := by rw [roster, harray, roster]
  constructor
  · have htable : server'.table = server.table := by
      ext b : 2
      · show server'.keyOf b = server.keyOf b
        rw [keyOf, harray, keyOf]
      · funext j
        show server'.slotOf b j = server.slotOf b j
        rw [slotOf, harray, slotOf]
    rw [htable]
    exact h.symmetric
  constructor
  case sorted =>
    rw [hlist]
    exact h.indexed.sorted
  case keyList =>
    rw [hlist, hroster]
    exact h.indexed.keyList
  case count =>
    rw [hnum, hroster]
    exact h.indexed.count
  case statuses =>
    rw [hroster]
    exact h.indexed.statuses
  case incoming => exact hincoming
  case unconfirmed => exact hunconfirmed

theorem unused_update {queue : Nat → TCPSecureConnection} {new : TCPSecureConnection}
    (hqueue : ∀ n i, ((queue n).connections i).status = .unused)
    (hnew : ∀ i, (new.connections i).status = .unused) (n : Nat) :
    ∀ m i, ((Function.update queue n new m).connections i).status = .unused := by
  intro m i
  by_cases hm : m = n
  · rw [hm, Function.update_self]
    exact hnew i
  · rw [Function.update_of_ne hm]
    exact hqueue m i

inductive Input where
  /-- `accept_connection` -/
  | accept (ready : Bool)
  /-- `do_incoming` -/
  | incoming (i : Nat) (read : HandshakeRead)
  /-- `do_unconfirmed` -/
  | unconfirmed (i : Nat) (read : TCPRead)
  /-- `do_TCP_confirmed` for one connection -/
  | confirmed (i : Nat)
  /-- `tcp_process_secure_packet` for a confirmed connection -/
  | packet (i : Nat) (read : TCPRead)
  /-- The sockets of these connections have failed. -/
  | killIncoming (i : Nat)
  | killUnconfirmed (i : Nat)
  | kill (i : Nat)
  /-- `handle_onion_recv_1` -/
  | onion (conId : Nat) (identifier : UInt64) (data : Bytes)
  /-- `handle_forward_reply_tcp` -/
  | forward (conId : Nat) (identifier : UInt64) (data : Bytes)

def apply (env : TCPServerEnv) (server : TCPServer) : Input → TCPServer
  | .accept ready => server.acceptConnection ready
  | .incoming i read => server.doIncoming i read
  | .unconfirmed i read => server.doUnconfirmed env i read
  | .confirmed i => server.doTCPConfirmed env i
  | .packet i read =>
    -- `do_TCP_confirmed` skips connections that are not confirmed
    if (server.keyOf i).isSome then server.tcpProcessSecurePacket env i read else server
  | .killIncoming i =>
    { server with
      incomingConnectionQueue := Function.update server.incomingConnectionQueue i
        (server.incomingConnectionQueue i).wipe }
  | .killUnconfirmed i =>
    { server with
      unconfirmedConnectionQueue := Function.update server.unconfirmedConnectionQueue i
        (server.unconfirmedConnectionQueue i).wipe }
  | .kill i => (server.killAccepted env i).2
  | .onion conId identifier data => server.handleOnionRecv1 env conId identifier data
  | .forward conId identifier data => server.handleForwardReplyTcp env conId identifier data

theorem unused_wipe {con : TCPSecureConnection} (h : ∀ i, (con.connections i).status = .unused) (i : Nat) :
    (con.wipe.connections i).status = .unused := by
  unfold TCPSecureConnection.wipe
  split
  · rfl
  · exact h i

theorem Consistent.doTCPConfirmed (env : TCPServerEnv) (h : server.Consistent) (i : Nat) :
    (server.doTCPConfirmed env i).Consistent := by
  have hcheck : ∀ {server' : TCPServer} (c : Prop) [Decidable c], server'.Consistent →
      (if c then (server'.killAccepted env i).2 else server').Consistent := by
    intro server' c _ h'
    split
    · exact h'.killAccepted env i
    · exact h'
  rw [TCPServer.doTCPConfirmed]
  split
  · exact h
  rename_i con hcon
  split
  · exact h
  dsimp only
  split
  · have hwrite := h.of_onlyWrites (onlyWrites_writePacket env server i con.publicKey
      (tcpPacketPing :: toLittleEndian 8 (if env.random = 0 then env.random + 1 else env.random).toNat))
    generalize server.writePacketTCPSecureConnection env i con.publicKey _ = ping at hwrite ⊢
    obtain ⟨ret, server1⟩ := ping
    cases ret with
    | sent =>
      refine hcheck _ (hwrite.modifyConnection ?_ i)
      exact fun _ => ⟨rfl, rfl, rfl⟩
    | notSent =>
      dsimp only at hwrite ⊢
      split
      · exact hwrite.killAccepted env i
      · exact hcheck _ hwrite
    | failed =>
      dsimp only at hwrite ⊢
      split
      · exact hwrite.killAccepted env i
      · exact hcheck _ hwrite
  · exact hcheck _ h

theorem Consistent.apply (env : TCPServerEnv) (h : server.Consistent) (input : Input) :
    (server.apply env input).Consistent := by
  have hreply : ∀ packetId conId identifier data,
      (server.replyTo env packetId conId identifier data).Consistent := by
    intro packetId conId identifier data
    rw [TCPServer.replyTo]
    split
    · exact h
    split
    · exact h
    · exact h.of_onlyWrites (onlyWrites_writePacket env server _ _ _)
  have hzero : ∀ i, (zeroSecureConnection.connections i).status = .unused := fun _ => rfl
  cases input with
  | accept ready =>
    show (server.acceptConnection ready).Consistent
    rw [acceptConnection]
    split
    · exact h
    · refine h.of_queues rfl rfl rfl (unused_update h.indexed.incoming ?_ _) h.indexed.unconfirmed
      exact unused_wipe (h.indexed.incoming _)
  | incoming i read =>
    show (server.doIncoming i read).Consistent
    unfold doIncoming
    dsimp only
    split
    · exact h
    cases read with
    | notReady => exact h
    | failed =>
      exact h.of_queues rfl rfl rfl (unused_update h.indexed.incoming hzero i) h.indexed.unconfirmed
    | handled publicKey =>
      refine h.of_queues rfl rfl rfl (unused_update h.indexed.incoming hzero i)
        (unused_update h.indexed.unconfirmed ?_ _)
      exact h.indexed.incoming i
  | unconfirmed i read =>
    show (server.doUnconfirmed env i read).Consistent
    have hwiped : TCPServer.Consistent { server with
        unconfirmedConnectionQueue :=
          Function.update server.unconfirmedConnectionQueue i zeroSecureConnection } :=
      h.of_queues rfl rfl rfl h.indexed.incoming (unused_update h.indexed.unconfirmed hzero i)
    unfold doUnconfirmed
    dsimp only
    split
    · exact h
    cases read with
    | nothing => exact h
    | failed => exact hwiped
    | packet data => exact hwiped.confirmTCPConnection env (h.indexed.unconfirmed i) data
  | confirmed i => exact h.doTCPConfirmed env i
  | packet i read =>
    show (if (server.keyOf i).isSome then _ else _ : TCPServer).Consistent
    split
    · rename_i hsome
      obtain ⟨key, hkey⟩ := Option.isSome_iff_exists.mp hsome
      unfold tcpProcessSecurePacket
      cases read with
      | nothing => exact h
      | failed => exact h.killAccepted env i
      | packet data =>
        have hhandled := h.handleTCPPacket env hkey data
        dsimp only
        generalize server.handleTCPPacket env i data = handled at hhandled ⊢
        obtain ⟨ok, server1⟩ := handled
        cases ok with
        | false => exact hhandled.killAccepted env i
        | true => exact hhandled
    · exact h
  | killIncoming i =>
    exact h.of_queues rfl rfl rfl
      (unused_update h.indexed.incoming (unused_wipe (h.indexed.incoming i)) i) h.indexed.unconfirmed
  | killUnconfirmed i =>
    exact h.of_queues rfl rfl rfl h.indexed.incoming
      (unused_update h.indexed.unconfirmed (unused_wipe (h.indexed.unconfirmed i)) i)
  | kill i => exact h.killAccepted env i
  | onion conId identifier data => exact hreply _ _ _ _
  | forward conId identifier data => exact hreply _ _ _ _

def system : TransitionSystem TCPServer where
  init server := server = newTCPServer
  step server server' := ∃ env input, server' = server.apply env input

theorem consistent_newTCPServer : newTCPServer.Consistent := by
  refine ⟨LinkTable.symmetric_of_empty (fun a => rfl) (fun a i => rfl), ?_⟩
  constructor
  case sorted => exact BSList.sorted_empty
  case keyList =>
    intro e
    constructor
    · intro hmem
      cases hmem
    · rintro ⟨a, key, ha, -⟩
      cases ha
  case count => rfl
  case statuses =>
    intro entry hmem
    cases hmem
  case incoming => exact fun _ _ => rfl
  case unconfirmed => exact fun _ _ => rfl

theorem consistent_of_reachable (h : system.Reachable server) : server.Consistent := by
  refine h.invariant (P := Consistent) ?_ ?_
  · intro s hs
    rw [hs]
    exact consistent_newTCPServer
  · intro s t hs hst
    obtain ⟨env, input, rfl⟩ := hst
    exact hs.apply env input

/-! ## What the clients can rely on -/

/-- Links agree at both ends, the key list is right, and routed data goes to the registered key. -/
structure RoutesSymmetrically (server : TCPServer) : Prop where
  links : ∀ {a i : Nat} {con : TCPSecureConnection},
    server.acceptedConnectionArray[a]? = some con → con.status = .confirmed →
    i < numClientConnections → (con.connections i).status = .online →
    ∃ other, server.acceptedConnectionArray[(con.connections i).index]? = some other ∧
      other.status = .confirmed ∧ other.publicKey = (con.connections i).publicKey ∧
      (con.connections i).otherId < numClientConnections ∧
      other.connections (con.connections i).otherId =
        { publicKey := con.publicKey, index := a, status := .online, otherId := i }
  slots : ∀ {a i j : Nat} {con : TCPSecureConnection},
    server.acceptedConnectionArray[a]? = some con →
    i < numClientConnections → j < numClientConnections →
    (con.connections i).status ≠ .unused → (con.connections j).status ≠ .unused →
    (con.connections i).publicKey = (con.connections j).publicKey → i = j
  keyList : ∀ (data : Bytes) (a : Nat), server.acceptedKeyList.bsListFind data = some a ↔
    ∃ con, server.acceptedConnectionArray[a]? = some con ∧ con.status = .confirmed ∧ con.publicKey.toList = data
  count : server.numAcceptedConnections = server.acceptedConnectionArray.countP (·.status = .confirmed)
  /-- What is sent over a slot is written to nobody, or to the client with its key. -/
  routed : ∀ {a : Nat} {con : TCPSecureConnection} {packetId : UInt8} (env : TCPServerEnv) (data : Bytes),
    server.acceptedConnectionArray[a]? = some con → con.status = .confirmed →
    numReservedPorts ≤ packetId.toNat →
    let slot := con.connections (packetId.toNat - numReservedPorts)
    let written := (server.handleTCPPacket env a (packetId :: data)).2.written
    written = server.written ∨
    slot.status = .online ∧ server.keyOf slot.index = some slot.publicKey ∧
    written = server.written ++
      [{ index := slot.index, publicKey := slot.publicKey, source := con.publicKey
         data := UInt8.ofNat (slot.otherId + numReservedPorts) :: data }]

theorem key?_linkEnd {slot : TCPSecureConn} (h : slot.status ≠ .unused) :
    slot.linkEnd.key? = some slot.publicKey := by
  unfold TCPSecureConn.linkEnd
  cases hstatus : slot.status with
  | unused => exact absurd hstatus h
  | offline => rfl
  | online => rfl

theorem eq_of_linkEnd {slot : TCPSecureConn} {key : PublicKey} (h : slot.linkEnd = .linked key a i) :
    slot = { publicKey := key, index := a, status := .online, otherId := i } := by
  obtain ⟨publicKey, index, status, otherId⟩ := slot
  cases status with
  | unused => cases h
  | offline => cases h
  | online =>
    injection h with hkey hindex hotherId
    rw [show publicKey = key from hkey, show index = a from hindex, show otherId = i from hotherId]

theorem Consistent.linked (h : server.Consistent) (hcon : server.acceptedConnectionArray[a]? = some con)
    (hconfirmed : con.status = .confirmed) (hi : i < numClientConnections)
    (honline : (con.connections i).status = .online) :
    server.keyOf (con.connections i).index = some (con.connections i).publicKey ∧
    server.slotOf (con.connections i).index (con.connections i).otherId = .linked con.publicKey a i := by
  have hslot : server.table.slot a i = .linked (con.connections i).publicKey
      (con.connections i).index (con.connections i).otherId := by
    show server.slotOf a i = _
    rw [slotOf_of_some hcon hi, TCPSecureConn.linkEnd, honline]
  obtain ⟨key, hkey, hother, hback⟩ := h.symmetric.linked hslot
  have hkey' : server.keyOf a = some con.publicKey := keyOf_eq_some.mpr ⟨con, hcon, hconfirmed, rfl⟩
  rw [show server.table.key a = some con.publicKey from hkey'] at hkey
  rw [← Option.some.inj hkey] at hback
  exact ⟨hother, hback⟩

theorem Consistent.routed (h : server.Consistent) {packetId : UInt8} (env : TCPServerEnv) (data : Bytes)
    (hcon : server.acceptedConnectionArray[a]? = some con) (hconfirmed : con.status = .confirmed)
    (hid : numReservedPorts ≤ packetId.toNat) :
    let slot := con.connections (packetId.toNat - numReservedPorts)
    let written := (server.handleTCPPacket env a (packetId :: data)).2.written
    written = server.written ∨
    slot.status = .online ∧ server.keyOf slot.index = some slot.publicKey ∧
    written = server.written ++
      [{ index := slot.index, publicKey := slot.publicKey, source := con.publicKey
         data := UInt8.ofNat (slot.otherId + numReservedPorts) :: data }] := by
  -- the packet is none of the reserved ones
  have hne : ∀ reserved : UInt8, reserved.toNat < numReservedPorts → packetId ≠ reserved := by
    intro reserved hlt heq
    rw [heq] at hid
    exact absurd hid (Nat.not_le.mpr hlt)
  have hhandled : server.handleTCPPacket env a (packetId :: data) =
      server.handleTCPData env con packetId data := by
    rw [TCPServer.handleTCPPacket, hcon]
    dsimp only
    rw [if_neg (hne _ (by decide)), if_neg (hne _ (by decide)), if_neg (hne _ (by decide)),
      if_neg (hne _ (by decide)), if_neg (hne _ (by decide)), if_neg (hne _ (by decide)),
      if_neg (hne _ (by decide)), if_neg (hne _ (by decide)), if_neg (hne _ (by decide)),
      if_neg (hne _ (by decide))]
  have hi : packetId.toNat - numReservedPorts < numClientConnections := by
    have := packetId.toNat_lt
    show packetId.toNat - 16 < 256 - 16
    omega
  rw [hhandled, handleTCPData, if_neg (Nat.not_lt.mpr hid)]
  dsimp only
  generalize hslot : con.connections (packetId.toNat - numReservedPorts) = slot
  cases hstatus : slot.status with
  | unused => exact .inl rfl
  | offline => exact .inl rfl
  | online =>
    obtain ⟨hkey, -⟩ := h.linked hcon hconfirmed hi (by rw [hslot]; exact hstatus)
    rw [hslot] at hkey
    obtain ⟨other, hother, -, hotherKey⟩ := keyOf_eq_some.mp hkey
    rw [writePacketTCPSecureConnection, hother]
    dsimp only
    split
    · exact .inl rfl
    split
    · refine .inr ⟨rfl, hkey, ?_⟩
      rw [hotherKey]
    · exact .inl rfl

/-- In every run links agree at both ends, and routed data goes to the registered key. -/
theorem routesSymmetrically (h : system.Reachable server) : server.RoutesSymmetrically := by
  have hconsistent := consistent_of_reachable h
  constructor
  case links =>
    intro a i con hcon hconfirmed hi honline
    obtain ⟨hkey, hback⟩ := hconsistent.linked hcon hconfirmed hi honline
    obtain ⟨other, hother, hotherConfirmed, hotherKey⟩ := keyOf_eq_some.mp hkey
    have hj := (lt_of_slotOf (by rw [hback]; exact nofun :
      server.slotOf (con.connections i).index (con.connections i).otherId ≠ .unused)).2
    rw [slotOf_of_some hother hj] at hback
    exact ⟨other, hother, hotherConfirmed, hotherKey, hj, eq_of_linkEnd hback⟩
  case slots =>
    intro a i j con hcon hi hj hused hused' hkeys
    have hslot : (server.table.slot a i).key? = some (con.connections i).publicKey := by
      rw [show server.table.slot a i = _ from slotOf_of_some hcon hi]
      exact key?_linkEnd hused
    have hslot' : (server.table.slot a j).key? = some (con.connections i).publicKey := by
      rw [show server.table.slot a j = _ from slotOf_of_some hcon hj, hkeys]
      exact key?_linkEnd hused'
    exact hconsistent.symmetric.distinct hslot hslot'
  case keyList =>
    intro data a
    rw [BSList.bsListFind_eq_some_iff hconsistent.indexed.sorted, hconsistent.indexed.keyList]
    constructor
    · rintro ⟨b, key, hb, heq⟩
      injection heq with hdata hab
      obtain ⟨con, hcon, hconfirmed, hkey⟩ := keyOf_eq_some.mp (keyOf_eq_some_iff_roster.mpr hb)
      rw [hab]
      exact ⟨con, hcon, hconfirmed, by rw [hkey, hdata]⟩
    · rintro ⟨con, hcon, hconfirmed, rfl⟩
      exact ⟨a, con.publicKey, keyOf_eq_some_iff_roster.mp
        (keyOf_eq_some.mpr ⟨con, hcon, hconfirmed, rfl⟩), rfl⟩
  case count =>
    rw [hconsistent.indexed.count, roster, countP_map]
    rfl
  case routed =>
    intro a con packetId env data hcon hconfirmed hid
    exact hconsistent.routed env data hcon hconfirmed hid

def applyAll (env : TCPServerEnv) (server : TCPServer) (inputs : List Input) : TCPServer :=
  inputs.foldl (TCPServer.apply env) server

theorem reachable_applyAll (env : TCPServerEnv) (h : system.Reachable server) (inputs : List Input) :
    system.Reachable (server.applyAll env inputs) := by
  induction inputs generalizing server with
  | nil => exact h
  | cons input inputs ih => exact ih (h.step ⟨env, input, rfl⟩)

def workingEnv : TCPServerEnv where
  now := 1000
  random := 7
  realloc := true
  listMemory := true
  write _ := true
  forwarding := false
  onion := false

def twoClients : TCPServer :=
  newTCPServer.applyAll workingEnv
    [.accept true, .accept true, .incoming 0 (.handled (key 1)), .incoming 1 (.handled (key 2)),
     .unconfirmed 0 (.packet (tcpPacketRoutingRequest :: (key 2).toList)),
     .unconfirmed 1 (.packet (tcpPacketRoutingRequest :: (key 1).toList))]

/-- Two clients that are linked. -/
theorem routesSymmetrically_twoClients :
    ((twoClients.acceptedConnectionArray[0]?).map fun con => con.connections 0) =
      some { publicKey := key 2, index := 3, status := .online, otherId := 0 } ∧
    twoClients.RoutesSymmetrically :=
  ⟨by decide +kernel, routesSymmetrically (reachable_applyAll workingEnv (.init rfl) _)⟩

end TCPServer

end Toxcore

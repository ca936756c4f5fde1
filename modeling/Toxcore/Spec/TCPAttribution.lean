import Toxcore.Spec.TCPNumbers
import Toxcore.Spec.TCPRegistrations

/-!
# Who sent relayed data

A client of a relay, the packets on their way between the two, and everything that the other
clients do.  Data that the relay routes to the client names a connection id, and the client hands
it to the connection that it believes the id to be for.
-/

namespace Toxcore

open List

open TCPConnections (packetConId routingRequest)

def disconnectRequest (conId : Nat) : Bytes :=
  [tcpPacketDisconnectNotification, UInt8.ofNat (conId + numReservedPorts)]

structure RelayedClient where
  server : TCPServer
  client : TCPConnections
  /-- The packets on their way to the relay, the oldest first. -/
  toRelay : List Bytes
  /-- The packets on their way to the client, the oldest first. -/
  fromRelay : List TCPWritten
  /-- The data that the client has handed on, and the key of the client that sent it. -/
  delivered : List (PublicKey × TCPDelivery)

namespace RelayedClient

/-! ## The system -/

/-- What the relay has written to the client `x` since it was in the state `server`. -/
def writtenTo (x : Nat) (server server' : TCPServer) : List TCPWritten :=
  (server'.written.drop server.written.length).filter (·.index = x)

inductive Action where
  | newConnection (publicKey : PublicKey) (id : Int)
  | killConnection (n : Nat)
  | setStatus (n : Nat) (status : Bool)
  | addRelay (n : Nat)
  /-- The client sends data, a ping or anything else that does not concern its connection ids. -/
  | send (packetId : UInt8) (data : Bytes)
  /-- The relay handles the next packet of the client. -/
  | relay (env : TCPServerEnv)
  /-- The relay handles an input that does not come from the client. -/
  | other (env : TCPServerEnv) (input : TCPServer.Input)
  /-- The client handles the next packet of the relay. -/
  | receive

/-- An action for the client `x` at the relay; `none` if it cannot happen or drops the connection. -/
def apply (x : Nat) (key : PublicKey) (s : RelayedClient) : Action → Option RelayedClient
  | .newConnection publicKey id =>
    some { s with client := (s.client.newTcpConnectionTo publicKey id).2 }
  | .killConnection n =>
    some { s with
      client := (s.client.killTcpConnectionTo n).1
      toRelay := s.toRelay ++ (s.client.killTcpConnectionTo n).2 }
  | .setStatus n status =>
    some { s with client := s.client.setTcpConnectionToStatus n status }
  | .addRelay n =>
    some { s with
      client := (s.client.addTcpNumberRelayConnection n).1
      toRelay := s.toRelay ++ (s.client.addTcpNumberRelayConnection n).2 }
  | .send packetId data =>
    if packetId = tcpPacketRoutingRequest ∨ packetId = tcpPacketDisconnectNotification then none
    else some { s with toRelay := s.toRelay ++ [packetId :: data] }
  | .relay env =>
    match s.toRelay with
    | [] => none
    | packet :: rest =>
      let (handled, server) := s.server.handleTCPPacket env x packet
      if handled then
        some { s with
          server
          toRelay := rest
          fromRelay := s.fromRelay ++ writtenTo x s.server server }
      else none
  | .other env input =>
    if s.server.Foreign x key input then
      some { s with
        server := s.server.apply env input
        fromRelay := s.fromRelay ++ writtenTo x s.server (s.server.apply env input) }
    else none
  | .receive =>
    match s.fromRelay with
    | [] => none
    | entry :: rest =>
      let (handled, client, delivery) := s.client.handleTCPClientPacket entry.data
      if handled then
        some { s with
          client
          fromRelay := rest
          delivered := s.delivered ++ delivery.toList.map fun delivery => (entry.source, delivery) }
      else none

structure Init (x : Nat) (key : PublicKey) (s : RelayedClient) : Prop where
  reachable : TCPServer.system.Reachable s.server
  keyOf : s.server.keyOf x = some key
  unregistered : ∀ i, s.server.registered x i = none
  client : s.client = newTcpConnections
  toRelay : s.toRelay = []
  fromRelay : s.fromRelay = []
  delivered : s.delivered = []

/-- The client and its relay, with everybody else, where only some actions are taken. -/
def system (x : Nat) (key : PublicKey) (allowed : RelayedClient → Action → Prop) :
    TransitionSystem RelayedClient where
  init := Init x key
  step s s' := ∃ action, allowed s action ∧ s.apply x key action = some s'

def Attributed (s : RelayedClient) : Prop :=
  ∀ d ∈ s.delivered, d.1 = d.2.publicKey ∧ d.2.status ≠ .unused

/-! ## The two sides in step -/

def response (id : UInt8) (publicKey : PublicKey) : Bytes :=
  tcpPacketRoutingResponse :: id :: publicKey.toList

/-- A packet to the client is in step with what the relay has registered, and with what it has yet
    to handle. -/
structure Fits (registered : Nat → Option PublicKey) (toRelay : List Bytes) (entry : TCPWritten) :
    Prop where
  /-- A response names a connection id that is registered and that the client does not give up. -/
  answer : ∀ {id publicKey}, entry.data = response id publicKey → numReservedPorts ≤ id.toNat →
    registered (packetConId id) = some publicKey ∧ disconnectRequest (packetConId id) ∉ toRelay
  /-- Data comes from the client that is registered. -/
  source : ∀ {p rest}, entry.data = p :: rest → numReservedPorts ≤ p.toNat →
    registered (packetConId p) = some entry.source

/-- The packets on their way, the connection ids of the client and the slots of the relay agree. -/
structure Sound (x : Nat) (key : PublicKey) (s : RelayedClient) : Prop where
  consistent : s.server.Consistent
  keyOf : s.server.keyOf x = some key
  numbered : s.client.Numbered
  /-- What the client sends. -/
  sent : ∀ u ∈ s.toRelay, (∃ publicKey, u = routingRequest publicKey) ∨
    (∃ k < numClientConnections, u = disconnectRequest k) ∨
    ∃ packetId data, u = packetId :: data ∧ packetId ≠ tcpPacketRoutingRequest ∧
      packetId ≠ tcpPacketDisconnectNotification
  /-- A slot that is about to be emptied is in use, -/
  pending : ∀ k < numClientConnections, disconnectRequest k ∈ s.toRelay → s.server.registered x k ≠ none
  /-- is emptied once, and its key is not asked for before. -/
  once : s.toRelay.Pairwise fun u u' => ∀ k < numClientConnections, u' = disconnectRequest k →
    u ≠ disconnectRequest k ∧
    ∀ publicKey, s.server.registered x k = some publicKey → u ≠ routingRequest publicKey
  /-- A connection id in use is registered with its key. -/
  used : ∀ k, (s.client.client k).status ≠ .unused →
    s.server.registered x k = some (s.client.client k).publicKey ∧
    disconnectRequest k ∉ s.toRelay
  answers : ∀ entry ∈ s.fromRelay, ∀ {id publicKey}, entry.data = response id publicKey →
    numReservedPorts ≤ id.toNat →
    s.server.registered x (packetConId id) = some publicKey ∧ disconnectRequest (packetConId id) ∉ s.toRelay
  /-- Data behind a response comes from the client with the key of the response. -/
  ordered : s.fromRelay.Pairwise fun entry entry' => ∀ {id publicKey rest},
    entry.data = response id publicKey → numReservedPorts ≤ id.toNat → entry'.data = id :: rest →
    entry'.source = publicKey
  /-- Data for a connection id in use comes from the client with its key. -/
  sources : ∀ entry ∈ s.fromRelay, ∀ {p rest}, entry.data = p :: rest →
    numReservedPorts ≤ p.toNat → (s.client.client (packetConId p)).status ≠ .unused →
    entry.source = (s.client.client (packetConId p)).publicKey
  attributed : s.Attributed

variable {x : Nat} {key : PublicKey} {s : RelayedClient}

variable {k : Nat}

theorem disconnectRequest_inj {j : Nat} (hk : k < numClientConnections) (hj : j < numClientConnections)
    (h : disconnectRequest k = disconnectRequest j) : k = j := by
  injection h with _ htail
  injection htail with hid
  have heq := congrArg UInt8.toNat hid
  rw [UInt8.toNat_ofNat', UInt8.toNat_ofNat'] at heq
  unfold numClientConnections at hk hj
  omega

theorem routingRequest_ne_disconnectRequest (publicKey : PublicKey) (k : Nat) :
    routingRequest publicKey ≠ disconnectRequest k := by
  intro h
  injection h with hid
  exact absurd hid (by decide)

theorem packetConId_lt (id : UInt8) : packetConId id < numClientConnections := by
  have := id.toNat_lt
  show id.toNat - 16 < 256 - 16
  omega

theorem sound_init (h : Init x key s) : s.Sound x key := by
  have hnothing : ∀ k, (s.client.client k).status = .unused := by
    rw [h.client]
    exact fun _ => rfl
  constructor
  case consistent => exact TCPServer.consistent_of_reachable h.reachable
  case keyOf => exact h.keyOf
  case numbered =>
    rw [h.client]
    exact TCPConnections.numbered_new
  case sent =>
    rw [h.toRelay]
    exact nofun
  case pending =>
    rw [h.toRelay]
    exact nofun
  case once =>
    rw [h.toRelay]
    exact .nil
  case used => exact fun k hk => absurd (hnothing k) hk
  case answers =>
    rw [h.fromRelay]
    exact nofun
  case ordered =>
    rw [h.fromRelay]
    exact .nil
  case sources =>
    rw [h.fromRelay]
    exact nofun
  case attributed =>
    unfold Attributed
    rw [h.delivered]
    exact nofun

/-! ## The relay -/

variable {entry : TCPWritten}

theorem Fits.of_harmless {registered : Nat → Option PublicKey} (h : TCPServer.Harmless registered entry)
    (toRelay : List Bytes) :
    Fits registered toRelay entry := by
  constructor
  · intro id publicKey heq
    exact absurd rfl (h _ _ heq).1
  · intro p rest heq hp
    exact (h _ _ heq).2 hp

variable {toRelay : List Bytes} {publicKey : PublicKey}

theorem Fits.of_response {registered : Nat → Option PublicKey} {rpid : Nat}
    (hdata : entry.data = TCPServer.routingResponse rpid publicKey)
    (hrpid : rpid = 0 ∨ ∃ i < numClientConnections, rpid = i + numReservedPorts ∧ registered i = some publicKey ∧ disconnectRequest i ∉ toRelay)
    :
    Fits registered toRelay entry := by
  constructor
  · intro id publicKey' heq hid
    rw [hdata] at heq
    injection heq with _ htail
    injection htail with hids hkeys
    rw [← hids] at hid ⊢
    rw [← Vector.toList_inj.mp hkeys]
    rcases hrpid with hzero | ⟨i, hi, heq, hregistered⟩
    · rw [hzero] at hid
      exact absurd hid (by decide)
    · have hconId : packetConId (UInt8.ofNat rpid) = i := by
        show (UInt8.ofNat rpid).toNat - numReservedPorts = i
        rw [UInt8.toNat_ofNat']
        unfold numClientConnections at hi
        omega
      rw [hconId]
      exact hregistered
  · intro p rest heq hp
    rw [hdata] at heq
    injection heq with hid
    rw [← hid] at hp
    exact absurd hp (by decide)

variable {server : TCPServer}

theorem Sound.serve (h : s.Sound x key) {new : List TCPWritten} (hconsistent : server.Consistent)
    (hkey : server.keyOf x = some key) (hrest : toRelay.Sublist s.toRelay)
    (hkept : ∀ k, s.server.registered x k ≠ none → (disconnectRequest k ∉ s.toRelay ∨ disconnectRequest k ∈ toRelay) → server.registered x k = s.server.registered x k)
    (hnew : ∀ entry ∈ new, Fits (server.registered x) toRelay entry) :
    Sound x key { s with server, toRelay, fromRelay := s.fromRelay ++ new } := by
  have hsome : ∀ {k publicKey}, s.server.registered x k = some publicKey →
      disconnectRequest k ∉ s.toRelay → server.registered x k = some publicKey := by
    intro k publicKey hregistered hrelease
    rw [hkept k (by rw [hregistered]; exact nofun) (.inl hrelease), hregistered]
  constructor
  case consistent => exact hconsistent
  case keyOf => exact hkey
  case numbered => exact h.numbered
  case sent => exact fun u hu => h.sent u (hrest.subset hu)
  case pending =>
    intro k hk hmem
    have hold := h.pending k hk (hrest.subset hmem)
    rw [hkept k hold (.inr hmem)]
    exact hold
  case once =>
    refine (pairwise_iff_forall_sublist).mpr ?_
    intro u u' hsub k hk heq
    obtain ⟨hne, hrequest⟩ :=
      (pairwise_iff_forall_sublist).mp h.once (hsub.trans hrest) k hk heq
    refine ⟨hne, ?_⟩
    intro publicKey hregistered
    have hmem : disconnectRequest k ∈ toRelay := by
      rw [← heq]
      exact hsub.subset (by simp)
    rw [hkept k (h.pending k hk (hrest.subset hmem)) (.inr hmem)] at hregistered
    exact hrequest publicKey hregistered
  case used =>
    intro k hk
    obtain ⟨hregistered, hrelease⟩ := h.used k hk
    exact ⟨hsome hregistered hrelease, fun hmem => hrelease (hrest.subset hmem)⟩
  case answers =>
    intro entry hmem id publicKey heq hid
    rcases mem_append.mp hmem with hold | hlater
    · obtain ⟨hregistered, hrelease⟩ := h.answers entry hold heq hid
      exact ⟨hsome hregistered hrelease, fun hmem => hrelease (hrest.subset hmem)⟩
    · exact (hnew entry hlater).answer heq hid
  case ordered =>
    -- what is new comes from whoever is registered now
    have hbehind : ∀ {entry' id publicKey rest}, entry' ∈ new → numReservedPorts ≤ id.toNat →
        server.registered x (packetConId id) = some publicKey → entry'.data = id :: rest →
        entry'.source = publicKey := by
      intro entry' id publicKey rest hlater hid hregistered hdata
      have hsource := (hnew entry' hlater).source hdata hid
      rw [hregistered] at hsource
      exact (Option.some.inj hsource).symm
    refine pairwise_append.mpr ⟨h.ordered, ?_, ?_⟩
    · refine pairwise_of_forall_mem_list ?_
      intro entry hmem entry' hmem' id publicKey rest heq hid hdata
      exact hbehind hmem' hid ((hnew entry hmem).answer heq hid).1 hdata
    · intro entry hmem entry' hmem' id publicKey rest heq hid hdata
      obtain ⟨hregistered, hrelease⟩ := h.answers entry hmem heq hid
      exact hbehind hmem' hid (hsome hregistered hrelease) hdata
  case sources =>
    intro entry hmem p rest heq hp hused
    rcases mem_append.mp hmem with hold | hlater
    · exact h.sources entry hold heq hp hused
    · obtain ⟨hregistered, hrelease⟩ := h.used _ hused
      have hsource := (hnew entry hlater).source heq hp
      rw [hsome hregistered hrelease] at hsource
      exact (Option.some.inj hsource).symm
  case attributed => exact h.attributed

theorem mem_writtenTo {server' : TCPServer} {new : List TCPWritten} (hwritten : server'.written = server.written ++ new)
    (hmem : entry ∈ writtenTo x server server') :
    entry ∈ new ∧ entry.index = x := by
  unfold writtenTo at hmem
  rw [hwritten, drop_left] at hmem
  obtain ⟨hnew, hindex⟩ := mem_filter.mp hmem
  exact ⟨hnew, of_decide_eq_true hindex⟩

theorem Sound.serve_spares (h : s.Sound x key) (hconsistent : server.Consistent)
    (hspares : TCPServer.Spares x s.server server) (hrest : toRelay.Sublist s.toRelay) :
    Sound x key { s with
      server, toRelay, fromRelay := s.fromRelay ++ writtenTo x s.server server } := by
  refine h.serve hconsistent (hspares.key.trans h.keyOf) hrest ?_ ?_
  · intro k _ _
    rw [hspares.slots]
  · intro entry hmem
    obtain ⟨new, hwritten, hharmless⟩ := hspares.written
    obtain ⟨hnew, hindex⟩ := mem_writtenTo hwritten hmem
    rw [hspares.slots]
    exact .of_harmless (hharmless entry hnew hindex) toRelay

theorem handleTCPPacket_routingRequest (env : TCPServerEnv) (hkey : server.keyOf x = some key) (publicKey : PublicKey) :
    server.handleTCPPacket env x (routingRequest publicKey) =
      server.handleTCPRoutingReq env x publicKey := by
  obtain ⟨con, hcon, -, -⟩ := TCPServer.keyOf_eq_some.mp hkey
  have hvector : bytesToVector cryptoPublicKeySize publicKey.toList = publicKey := by
    have := bytesToVector_toList_append publicKey []
    rwa [append_nil] at this
  unfold routingRequest TCPServer.handleTCPPacket
  rw [hcon]
  dsimp only
  rw [if_pos rfl, if_neg (by simp), hvector]

theorem handleTCPPacket_disconnectRequest (env : TCPServerEnv) (hkey : server.keyOf x = some key)
    (hk : k < numClientConnections) :
    server.handleTCPPacket env x (disconnectRequest k) = server.rmConnectionIndex env x k := by
  obtain ⟨con, hcon, -, -⟩ := TCPServer.keyOf_eq_some.mp hkey
  have hid : (UInt8.ofNat (k + numReservedPorts) - UInt8.ofNat numReservedPorts).toNat = k := by
    unfold numClientConnections at hk
    rw [UInt8.toNat_sub, UInt8.toNat_ofNat', UInt8.toNat_ofNat']
    omega
  unfold disconnectRequest TCPServer.handleTCPPacket
  rw [hcon]
  dsimp only
  rw [if_neg (by decide), if_neg (by decide), if_pos rfl, if_neg (by simp), headD_cons, hid]

variable {rest : List Bytes}

section

variable (h : s.Sound x key)
include h

theorem Sound.serve_request (env : TCPServerEnv)
    (hnext : s.toRelay = routingRequest publicKey :: rest) :
    Sound x key { s with
      server := (s.server.handleTCPRoutingReq env x publicKey).2
      toRelay := rest
      fromRelay := s.fromRelay ++
        writtenTo x s.server (s.server.handleTCPRoutingReq env x publicKey).2 } := by
  have hregisters := h.consistent.registers_handleTCPRoutingReq env h.keyOf publicKey
  have hconsistent := (h.consistent.handleTCPPacket env h.keyOf (routingRequest publicKey))
  rw [handleTCPPacket_routingRequest env h.keyOf] at hconsistent
  generalize (s.server.handleTCPRoutingReq env x publicKey).2 = server at hregisters hconsistent ⊢
  have hold : ∀ k, s.server.registered x k ≠ none →
      server.registered x k = s.server.registered x k := by
    intro k hk
    rcases hregisters.slots k with heq | ⟨hnone, -⟩
    · exact heq
    · exact absurd hnone hk
  have hrest : rest.Sublist s.toRelay := by
    rw [hnext]
    exact sublist_cons_self _ _
  refine h.serve hconsistent (hregisters.key.trans h.keyOf) hrest (fun k hk _ => hold k hk) ?_
  intro entry hmem
  obtain ⟨new, hwritten, hentries⟩ := hregisters.written
  obtain ⟨hnew, hindex⟩ := mem_writtenTo hwritten hmem
  rcases hentries entry hnew hindex with hharmless | ⟨rpid, hdata, hrpid⟩
  · exact .of_harmless hharmless rest
  · refine .of_response hdata ?_
    rcases hrpid with hzero | ⟨i, hi, heq, hregistered⟩
    · exact .inl hzero
    · refine .inr ⟨i, hi, heq, hregistered, ?_⟩
      -- a slot that is about to be emptied was registered already, with a key that is not asked for
      intro hrelease
      have hpending := h.pending i hi (hrest.subset hrelease)
      rw [hold i hpending] at hregistered
      have hpairs := h.once
      rw [hnext] at hpairs
      obtain ⟨-, hrequest⟩ := (pairwise_cons.mp hpairs).1 _ hrelease i hi rfl
      exact hrequest publicKey hregistered rfl

theorem Sound.serve_release (env : TCPServerEnv) (hk : k < numClientConnections)
    (hnext : s.toRelay = disconnectRequest k :: rest) :
    Sound x key { s with
      server := (s.server.rmConnectionIndex env x k).2
      toRelay := rest
      fromRelay := s.fromRelay ++ writtenTo x s.server (s.server.rmConnectionIndex env x k).2 } := by
  have hreleases := h.consistent.releases_rmConnectionIndex env h.keyOf hk
  have hconsistent := h.consistent.handleTCPPacket env h.keyOf (disconnectRequest k)
  rw [handleTCPPacket_disconnectRequest env h.keyOf hk] at hconsistent
  generalize (s.server.rmConnectionIndex env x k).2 = server at hreleases hconsistent ⊢
  have hrest : rest.Sublist s.toRelay := by
    rw [hnext]
    exact sublist_cons_self _ _
  refine h.serve hconsistent (hreleases.key.trans h.keyOf) hrest ?_ ?_
  · intro j _ hj
    rw [hreleases.slots]
    refine if_neg ?_
    -- the slot is emptied once
    intro heq
    subst heq
    rcases hj with hnot | hagain
    · exact hnot (by rw [hnext]; exact mem_cons_self)
    · have hpairs := h.once
      rw [hnext] at hpairs
      exact ((pairwise_cons.mp hpairs).1 _ hagain j hk rfl).1 rfl
  · intro entry hmem
    obtain ⟨new, hwritten, hharmless⟩ := hreleases.written
    exact .of_harmless (hharmless entry (mem_writtenTo hwritten hmem).1) rest

theorem Sound.relay (env : TCPServerEnv) {packet : Bytes} (hnext : s.toRelay = packet :: rest) :
    Sound x key { s with
      server := (s.server.handleTCPPacket env x packet).2
      toRelay := rest
      fromRelay := s.fromRelay ++
        writtenTo x s.server (s.server.handleTCPPacket env x packet).2 } := by
  have hmem : packet ∈ s.toRelay := by
    rw [hnext]
    exact mem_cons_self
  rcases h.sent packet hmem with ⟨publicKey, rfl⟩ | ⟨k, hk, rfl⟩ | hother
  · rw [handleTCPPacket_routingRequest env h.keyOf]
    exact h.serve_request env hnext
  · rw [handleTCPPacket_disconnectRequest env h.keyOf hk]
    exact h.serve_release env hk hnext
  · refine h.serve_spares (h.consistent.handleTCPPacket env h.keyOf packet)
      (h.consistent.spares_handleTCPPacket env h.keyOf packet (.inr hother)) ?_
    rw [hnext]
    exact sublist_cons_self _ _

/-! ## The client -/

theorem Sound.of_client {client : TCPConnections} (hnumbered : client.Numbered)
    (hclient : ∀ k, (client.client k).status ≠ .unused → (s.client.client k).status ≠ .unused ∧
      (client.client k).publicKey = (s.client.client k).publicKey) :
    Sound x key { s with client } := by
  constructor
  case consistent => exact h.consistent
  case keyOf => exact h.keyOf
  case numbered => exact hnumbered
  case sent => exact h.sent
  case pending => exact h.pending
  case once => exact h.once
  case used =>
    intro k hk
    obtain ⟨hold, hkey⟩ := hclient k hk
    rw [hkey]
    exact h.used k hold
  case answers => exact h.answers
  case ordered => exact h.ordered
  case sources =>
    intro entry hmem p rest heq hp hused
    obtain ⟨hold, hkey⟩ := hclient _ hused
    rw [hkey]
    exact h.sources entry hmem heq hp hold
  case attributed => exact h.attributed

theorem Sound.send {u : Bytes}
    (hu : (∃ publicKey, u = routingRequest publicKey) ∨
      ∃ packetId data, u = packetId :: data ∧ packetId ≠ tcpPacketRoutingRequest ∧
        packetId ≠ tcpPacketDisconnectNotification) :
    Sound x key { s with toRelay := s.toRelay ++ [u] } := by
  have hne : ∀ k, u ≠ disconnectRequest k := by
    intro k
    rcases hu with ⟨publicKey, rfl⟩ | ⟨packetId, data, rfl, -, hrelease⟩
    · exact routingRequest_ne_disconnectRequest publicKey k
    · intro heq
      injection heq with hid
      exact hrelease hid
  have hmem : ∀ {k}, disconnectRequest k ∈ s.toRelay ++ [u] → disconnectRequest k ∈ s.toRelay := by
    intro k hk
    rcases mem_append.mp hk with hold | hnew
    · exact hold
    · exact absurd (mem_singleton.mp hnew).symm (hne k)
  constructor
  case consistent => exact h.consistent
  case keyOf => exact h.keyOf
  case numbered => exact h.numbered
  case sent =>
    intro u' hu'
    rcases mem_append.mp hu' with hold | hnew
    · exact h.sent u' hold
    · rw [mem_singleton.mp hnew]
      rcases hu with hrequest | hother
      · exact .inl hrequest
      · exact .inr (.inr hother)
  case pending => exact fun k hk hrelease => h.pending k hk (hmem hrelease)
  case once =>
    refine pairwise_append.mpr ⟨h.once, pairwise_singleton _ _, ?_⟩
    intro v _ u' hu' k _ heq
    rw [mem_singleton.mp hu'] at heq
    exact absurd heq (hne k)
  case used =>
    intro k hk
    obtain ⟨hregistered, hrelease⟩ := h.used k hk
    exact ⟨hregistered, fun hagain => hrelease (hmem hagain)⟩
  case answers =>
    intro entry hentry id publicKey heq hid
    obtain ⟨hregistered, hrelease⟩ := h.answers entry hentry heq hid
    exact ⟨hregistered, fun hagain => hrelease (hmem hagain)⟩
  case ordered => exact h.ordered
  case sources => exact h.sources
  case attributed => exact h.attributed

end

/-- The routing request of a connection, if there was one, is answered and the answer has arrived. -/
def Settled (s : RelayedClient) (n : Nat) : Prop :=
  ∀ conTo ∈ s.client.getConnection n,
    (∀ relay ∈ conTo.relay, relay.status ≠ .none) ∧
    routingRequest conTo.publicKey ∉ s.toRelay ∧
    ∀ entry ∈ s.fromRelay, ∀ id ∈ entry.data[1]?, entry.data ≠ response id conTo.publicKey

theorem Sound.kill (h : s.Sound x key) {n : Nat} (hsettled : s.Settled n) :
    Sound x key { s with
      client := (s.client.killTcpConnectionTo n).1
      toRelay := s.toRelay ++ (s.client.killTcpConnectionTo n).2 } := by
  obtain ⟨hnumbered, hcases⟩ := h.numbered.killTcpConnectionTo fun conTo relay hconTo =>
    (hsettled conTo hconTo).1 relay
  generalize s.client.killTcpConnectionTo n = killed at hnumbered hcases ⊢
  obtain ⟨client, packets⟩ := killed
  rcases hcases with ⟨hpackets, hclient⟩ | ⟨conTo, k, hconTo, hused, hkey, -, hpackets, hclient⟩
  · rw [hpackets, append_nil]
    refine h.of_client hnumbered ?_
    rw [hclient]
    exact fun k hk => ⟨hk, rfl⟩
  obtain ⟨-, hrequest, hresponse⟩ := hsettled conTo hconTo
  obtain ⟨hregistered, hrelease⟩ := h.used k hused
  have hk := h.numbered.range hused
  rw [hkey] at hregistered
  rw [hpackets]
  -- the other connection ids stay
  have hother : ∀ {j}, (client.client j).status ≠ .unused → j ≠ k ∧ client.client j = s.client.client j := by
    intro j hj
    rw [hclient] at hj ⊢
    by_cases hjk : j = k
    · rw [if_pos hjk] at hj
      exact absurd rfl hj
    · exact ⟨hjk, if_neg hjk⟩
  have hnot : ∀ {j}, j < numClientConnections → j ≠ k → disconnectRequest j ∉ s.toRelay →
      disconnectRequest j ∉ s.toRelay ++ [disconnectRequest k] := by
    intro j hj hjk hold hmem
    rcases mem_append.mp hmem with hmem | hmem
    · exact hold hmem
    · exact hjk (disconnectRequest_inj hj hk (mem_singleton.mp hmem))
  constructor
  case consistent => exact h.consistent
  case keyOf => exact h.keyOf
  case numbered => exact hnumbered
  case sent =>
    intro u hu
    rcases mem_append.mp hu with hold | hnew
    · exact h.sent u hold
    · exact .inr (.inl ⟨k, hk, mem_singleton.mp hnew⟩)
  case pending =>
    intro j hj hmem
    rcases mem_append.mp hmem with hold | hnew
    · exact h.pending j hj hold
    · rw [disconnectRequest_inj hj hk (mem_singleton.mp hnew)]
      rw [hregistered]
      exact nofun
  case once =>
    refine pairwise_append.mpr ⟨h.once, pairwise_singleton _ _, ?_⟩
    intro u hu u' hu' j hj heq
    rw [mem_singleton.mp hu'] at heq
    rw [← disconnectRequest_inj hk hj heq]
    refine ⟨?_, ?_⟩
    · intro hagain
      rw [hagain] at hu
      exact hrelease hu
    · intro publicKey hpublicKey hagain
      rw [show s.server.registered x k = _ from hpublicKey] at hregistered
      rw [hagain, Option.some.inj hregistered] at hu
      exact hrequest hu
  case used =>
    intro j hj
    obtain ⟨hjk, hsame⟩ := hother hj
    rw [hsame] at hj ⊢
    obtain ⟨hregistered', hrelease'⟩ := h.used j hj
    exact ⟨hregistered', hnot (h.numbered.range hj) hjk hrelease'⟩
  case answers =>
    intro entry hentry id publicKey heq hid
    obtain ⟨hregistered', hrelease'⟩ := h.answers entry hentry heq hid
    refine ⟨hregistered', hnot (packetConId_lt id) ?_ hrelease'⟩
    intro hjk
    rw [hjk, hregistered] at hregistered'
    rw [← Option.some.inj hregistered'] at heq
    exact hresponse entry hentry id (by rw [heq]; rfl) heq
  case ordered => exact h.ordered
  case sources =>
    intro entry hmem p rest heq hp hj
    obtain ⟨-, hsame⟩ := hother hj
    rw [hsame] at hj ⊢
    exact h.sources entry hmem heq hp hj
  case attributed => exact h.attributed

theorem Sound.receive (h : s.Sound x key) {rest : List TCPWritten} {client : TCPConnections}
    {delivered : List (PublicKey × TCPDelivery)} (hnext : s.fromRelay = entry :: rest) (hnumbered : client.Numbered)
    (hclient : ∀ k, (client.client k).status ≠ .unused → (s.client.client k).status ≠ .unused ∧ (client.client k).publicKey = (s.client.client k).publicKey ∨ ∃ id, entry.data = response id (client.client k).publicKey ∧ numReservedPorts ≤ id.toNat ∧ packetConId id = k)
    (hdelivered : ∀ d ∈ delivered, d.1 = d.2.publicKey ∧ d.2.status ≠ .unused) :
    Sound x key { s with client, fromRelay := rest, delivered := s.delivered ++ delivered } := by
  have hmem : ∀ {entry'}, entry' ∈ rest → entry' ∈ s.fromRelay := by
    intro entry' hentry'
    rw [hnext]
    exact mem_cons_of_mem _ hentry'
  have hpairs := h.ordered
  rw [hnext] at hpairs
  obtain ⟨hbehind, hordered⟩ := pairwise_cons.mp hpairs
  constructor
  case consistent => exact h.consistent
  case keyOf => exact h.keyOf
  case numbered => exact hnumbered
  case sent => exact h.sent
  case pending => exact h.pending
  case once => exact h.once
  case used =>
    intro k hk
    rcases hclient k hk with ⟨hold, hkey⟩ | ⟨id, hdata, hid, rfl⟩
    · rw [hkey]
      exact h.used k hold
    · exact h.answers entry (by rw [hnext]; exact mem_cons_self) hdata hid
  case answers => exact fun entry' hentry' => h.answers entry' (hmem hentry')
  case ordered => exact hordered
  case sources =>
    intro entry' hentry' p rest' heq hp hused
    rcases hclient _ hused with ⟨hold, hkey⟩ | ⟨id, hdata, hid, hconId⟩
    · rw [hkey]
      exact h.sources entry' (hmem hentry') heq hp hold
    · -- both ids are the same byte
      have hids : p = id := by
        have heq : id.toNat - numReservedPorts = p.toNat - numReservedPorts := hconId
        exact UInt8.toNat_inj.mp (by omega)
      subst hids
      exact hbehind entry' hentry' hdata hid heq
  case attributed =>
    intro d hd
    rcases mem_append.mp hd with hold | hnew
    · exact h.attributed d hold
    · exact hdelivered d hnew

theorem Sound.free_of_response (h : s.Sound x key) {id : UInt8} (hentry : entry ∈ s.fromRelay)
    (hdata : entry.data = response id publicKey) (hid : numReservedPorts ≤ id.toNat)
    (hunused : (s.client.client (packetConId id)).status = .unused) {n : Nat} {conTo : TCPConnectionTo}
    {relay : TCPConnTo} (hconTo : s.client.getConnection n = some conTo) (hkey : conTo.publicKey = publicKey)
    (hrelay : conTo.relay = some relay) :
    relay.status = .none := by
  by_contra hstatus
  obtain ⟨hused, -, hpublicKey⟩ := h.numbered.entries hconTo hrelay hstatus
  -- the relay has registered the key once
  have hother := (h.used _ hused).1
  rw [hpublicKey, hkey] at hother
  have hsame := h.consistent.symmetric.distinct hother (h.answers entry hentry hdata hid).1
  rw [hsame] at hused
  exact hused hunused

/-- Data that arrives for a connection id out of use finds no connection with its number. -/
def Receivable (s : RelayedClient) (entry : TCPWritten) : Prop :=
  ∀ p ∈ entry.data.head?, numReservedPorts ≤ p.toNat →
    (s.client.client (packetConId p)).status = .unused →
    (s.client.client (packetConId p)).number.bind s.client.getConnection = none

theorem Sound.tcpConnDataCallback (h : s.Sound x key) {p : UInt8} {rest : Bytes} {delivery : TCPDelivery}
    (hentry : entry ∈ s.fromRelay) (hreceivable : s.Receivable entry) (hdata : entry.data = p :: rest)
    (hp : numReservedPorts ≤ p.toNat)
    (hdelivery : s.client.tcpConnDataCallback (s.client.client (packetConId p)).number (s.client.client (packetConId p)).status rest = some delivery)
    :
    entry.source = delivery.publicKey ∧ delivery.status ≠ .unused := by
  rw [TCPConnections.tcpConnDataCallback] at hdelivery
  split at hdelivery
  · cases hdelivery
  obtain ⟨conTo, hbind, hdelivery⟩ := Option.map_eq_some_iff.mp hdelivery
  have hused : (s.client.client (packetConId p)).status ≠ .unused := by
    intro hunused
    rw [hreceivable p (by rw [hdata]; rfl) hp hunused] at hbind
    cases hbind
  obtain ⟨n, hnumber, hconTo⟩ := Option.bind_eq_some_iff.mp hbind
  obtain ⟨conTo', status, hconTo', -, -, hkey⟩ := h.numbered.numbers hused hnumber
  rw [hconTo] at hconTo'
  rw [← Option.some.inj hconTo'] at hkey
  rw [← hdelivery]
  exact ⟨(h.sources entry hentry hdata hp hused).trans hkey.symm, hused⟩

theorem Sound.handleTCPClientPacket (h : s.Sound x key) {rest : List TCPWritten} (hnext : s.fromRelay = entry :: rest)
    (hreceivable : s.Receivable entry) :
    Sound x key { s with
      client := (s.client.handleTCPClientPacket entry.data).2.1
      fromRelay := rest
      delivered := s.delivered ++ (s.client.handleTCPClientPacket entry.data).2.2.toList.map
        fun delivery => (entry.source, delivery) } := by
  have hentry : entry ∈ s.fromRelay := by
    rw [hnext]
    exact mem_cons_self
  have hsame : ∀ {delivered : List (PublicKey × TCPDelivery)},
      (∀ d ∈ delivered, d.1 = d.2.publicKey ∧ d.2.status ≠ .unused) →
      Sound x key { s with
        client := s.client, fromRelay := rest, delivered := s.delivered ++ delivered } :=
    fun hdelivered => h.receive hnext h.numbered (fun k hk => .inl ⟨hk, rfl⟩) hdelivered
  have hnothing : Sound x key { s with
      client := s.client, fromRelay := rest, delivered := s.delivered ++ [] } := hsame nofun
  cases hdata : entry.data with
  | nil => exact hnothing
  | cons p data =>
    rw [TCPConnections.handleTCPClientPacket]
    by_cases hempty : data.length = 0
    · rw [if_pos hempty]
      exact hnothing
    rw [if_neg hempty]
    by_cases hresponse : p = tcpPacketRoutingResponse
    · rw [if_pos hresponse]
      rw [hresponse] at hdata
      -- the packet in the form that the relay gives to responses
      have hform : ∀ {id : UInt8} {publicKey : Bytes}, data = id :: publicKey →
          publicKey.length = cryptoPublicKeySize →
          entry.data = response id (bytesToVector cryptoPublicKeySize publicKey) := by
        intro id publicKey heq hlength
        rw [hdata, heq, response, toList_bytesToVector (Nat.le_of_eq hlength.symm),
          take_of_length_le (Nat.le_of_eq hlength)]
      obtain ⟨hnumbered, hclient⟩ := h.numbered.handleTCPClientRoutingResponse data
        (by
          intro id publicKey heq hlength hid hunused n conTo relay hconTo hkey hrelay
          exact h.free_of_response hentry (hform heq hlength) hid hunused hconTo hkey hrelay)
      refine h.receive hnext hnumbered ?_ nofun
      intro k hk
      rcases hclient k hk with hold | ⟨id, publicKey, heq, hlength, hid, hconId, hkey⟩
      · exact .inl hold
      · refine .inr ⟨id, ?_, hid, hconId⟩
        rw [hkey]
        exact hform heq hlength
    rw [if_neg hresponse]
    by_cases hconnected : p = tcpPacketConnectionNotification
    · rw [if_pos hconnected]
      obtain ⟨hnumbered, hclient⟩ := h.numbered.handleTCPClientNotification .offline .online nofun nofun data
      exact h.receive hnext hnumbered (fun k hk => .inl (hclient k hk)) nofun
    rw [if_neg hconnected]
    by_cases hdisconnected : p = tcpPacketDisconnectNotification
    · rw [if_pos hdisconnected]
      obtain ⟨hnumbered, hclient⟩ := h.numbered.handleTCPClientNotification .online .offline nofun nofun data
      exact h.receive hnext hnumbered (fun k hk => .inl (hclient k hk)) nofun
    rw [if_neg hdisconnected]
    by_cases hping : p = tcpPacketPing ∨ p = tcpPacketPong
    · rw [if_pos hping]
      exact hnothing
    rw [if_neg hping]
    by_cases hoob : p = tcpPacketOobRecv
    · rw [if_pos hoob]
      exact hnothing
    rw [if_neg hoob]
    by_cases honion : p = tcpPacketOnionResponse ∨ p = tcpPacketForwarding
    · rw [if_pos honion]
      exact hnothing
    rw [if_neg honion]
    by_cases hreserved : p.toNat < numReservedPorts
    · rw [if_pos hreserved]
      exact hnothing
    rw [if_neg hreserved]
    refine hsame ?_
    intro d hd
    obtain ⟨delivery, hdelivery, rfl⟩ := mem_map.mp hd
    exact h.tcpConnDataCallback hentry hreceivable hdata (Nat.not_lt.mp hreserved)
      (Option.mem_toList.mp hdelivery)

/-! ## Runs -/

theorem client_newTcpConnectionTo (tcpC : TCPConnections) (publicKey : PublicKey) (id : Int) :
    (tcpC.newTcpConnectionTo publicKey id).2.client = tcpC.client := by
  have hcreate : tcpC.createConnection.2.client = tcpC.client := by
    rw [TCPConnections.createConnection]
    split
    · rfl
    · rfl
  rw [TCPConnections.newTcpConnectionTo]
  split
  · rfl
  · exact hcreate

theorem client_setTcpConnectionToStatus (tcpC : TCPConnections) (n : Nat) (status : Bool) :
    (tcpC.setTcpConnectionToStatus n status).client = tcpC.client := by
  rw [TCPConnections.setTcpConnectionToStatus]
  split
  · rfl
  split
  · split
    · rfl
    · rfl
  split
  · rfl
  · split
    · rfl
    · rfl

theorem addTcpNumberRelayConnection_spec (tcpC : TCPConnections) (n : Nat) :
    (tcpC.addTcpNumberRelayConnection n).1.client = tcpC.client ∧
    ((tcpC.addTcpNumberRelayConnection n).2 = [] ∨
      ∃ publicKey, (tcpC.addTcpNumberRelayConnection n).2 = [routingRequest publicKey]) := by
  rw [TCPConnections.addTcpNumberRelayConnection]
  split
  · exact ⟨rfl, .inl rfl⟩
  split
  · exact ⟨rfl, .inl rfl⟩
  · exact ⟨rfl, .inr ⟨_, rfl⟩⟩

/-- The client only kills answered requests, and gets no data for an id out of use. -/
def Careful (s : RelayedClient) : Action → Prop
  | .killConnection n => s.Settled n
  | .receive => ∀ entry ∈ s.fromRelay.head?, s.Receivable entry
  | _ => True

theorem Sound.apply (h : s.Sound x key) {s' : RelayedClient} {action : Action}
    (hcareful : s.Careful action) (hstep : s.apply x key action = some s') : s'.Sound x key := by
  cases action with
  | newConnection publicKey id =>
    cases hstep
    refine h.of_client (h.numbered.newTcpConnectionTo publicKey id) ?_
    rw [client_newTcpConnectionTo]
    exact fun k hk => ⟨hk, rfl⟩
  | killConnection n =>
    cases hstep
    exact h.kill hcareful
  | setStatus n status =>
    cases hstep
    refine h.of_client (h.numbered.setTcpConnectionToStatus n status) ?_
    rw [client_setTcpConnectionToStatus]
    exact fun k hk => ⟨hk, rfl⟩
  | addRelay n =>
    cases hstep
    obtain ⟨hclient, hpackets⟩ := addTcpNumberRelayConnection_spec s.client n
    have hsound := h.of_client (h.numbered.addTcpNumberRelayConnection n) (by
      rw [hclient]
      exact fun k hk => ⟨hk, rfl⟩)
    rcases hpackets with hnone | ⟨publicKey, hrequest⟩
    · rw [hnone, append_nil]
      exact hsound
    · rw [hrequest]
      exact hsound.send (.inl ⟨publicKey, rfl⟩)
  | send packetId data =>
    unfold RelayedClient.apply at hstep
    dsimp only at hstep
    split at hstep
    · cases hstep
    rename_i hother
    rw [not_or] at hother
    cases hstep
    exact h.send (.inr ⟨packetId, data, rfl, hother.1, hother.2⟩)
  | relay env =>
    unfold RelayedClient.apply at hstep
    dsimp only at hstep
    split at hstep
    · cases hstep
    rename_i packet rest hnext
    split at hstep
    · cases hstep
      exact h.relay env hnext
    · cases hstep
  | other env input =>
    unfold RelayedClient.apply at hstep
    dsimp only at hstep
    split at hstep
    · rename_i hforeign
      cases hstep
      exact h.serve_spares (h.consistent.apply env input)
        (h.consistent.spares_apply env h.keyOf hforeign) (List.Sublist.refl _)
    · cases hstep
  | receive =>
    unfold RelayedClient.apply at hstep
    dsimp only at hstep
    split at hstep
    · cases hstep
    rename_i entry rest hnext
    split at hstep
    · cases hstep
      exact h.handleTCPClientPacket hnext (hcareful entry (by rw [hnext]; rfl))
    · cases hstep

/-- In every careful run all data is handed to the connection of the peer that sent it. -/
theorem attributed_of_careful (h : (system x key Careful).Reachable s) : s.Attributed := by
  have hsound : s.Sound x key := by
    refine h.invariant (P := Sound x key) (fun s hs => sound_init hs) ?_
    intro s s' hs hstep
    obtain ⟨action, hcareful, happly⟩ := hstep
    exact hs.apply hcareful happly
  exact hsound.attributed

instance (s : RelayedClient) (n : Nat) : Decidable (s.Settled n) :=
  inferInstanceAs (Decidable (∀ conTo ∈ s.client.getConnection n,
    (∀ relay ∈ conTo.relay, relay.status ≠ .none) ∧
    routingRequest conTo.publicKey ∉ s.toRelay ∧
    ∀ entry ∈ s.fromRelay, ∀ id ∈ entry.data[1]?, entry.data ≠ response id conTo.publicKey))

instance (s : RelayedClient) (entry : TCPWritten) : Decidable (s.Receivable entry) :=
  inferInstanceAs (Decidable (∀ p ∈ entry.data.head?, numReservedPorts ≤ p.toNat →
    (s.client.client (packetConId p)).status = .unused →
    (s.client.client (packetConId p)).number.bind s.client.getConnection = none))

instance (s : RelayedClient) : DecidablePred s.Careful
  | .killConnection n => inferInstanceAs (Decidable (s.Settled n))
  | .receive => inferInstanceAs (Decidable (∀ entry ∈ s.fromRelay.head?, s.Receivable entry))
  | .newConnection _ _ => .isTrue trivial
  | .setStatus _ _ => .isTrue trivial
  | .addRelay _ => .isTrue trivial
  | .send _ _ => .isTrue trivial
  | .relay _ => .isTrue trivial
  | .other _ _ => .isTrue trivial

def run (x : Nat) (key : PublicKey) (allowed : RelayedClient → Action → Prop)
    [∀ s, DecidablePred (allowed s)] (s : RelayedClient) : List Action → Option RelayedClient
  | [] => some s
  | action :: actions =>
    if allowed s action then
      (s.apply x key action).bind fun s => run x key allowed s actions
    else none

theorem reachable_run {allowed : RelayedClient → Action → Prop} [∀ s, DecidablePred (allowed s)]
    {s' : RelayedClient} {actions : List Action} (h : (system x key allowed).Reachable s)
    (hrun : s.run x key allowed actions = some s') : (system x key allowed).Reachable s' := by
  induction actions generalizing s with
  | nil =>
    cases hrun
    exact h
  | cons action actions ih =>
    rw [run] at hrun
    split at hrun
    · rename_i hallowed
      obtain ⟨next, hstep, hrest⟩ := Option.bind_eq_some_iff.mp hrun
      exact ih (h.step ⟨action, hallowed, hstep⟩) hrest
    · cases hrun

def threeClients : RelayedClient where
  server := newTCPServer.applyAll TCPServer.workingEnv
    [.accept true, .accept true, .accept true, .incoming 0 (.handled (Toxcore.key 1)),
     .incoming 1 (.handled (Toxcore.key 2)), .incoming 2 (.handled (Toxcore.key 3)),
     .unconfirmed 0 (.packet (tcpPacketPing :: List.replicate 8 1)),
     .unconfirmed 1 (.packet (tcpPacketPing :: List.replicate 8 1)),
     .unconfirmed 2 (.packet (tcpPacketPing :: List.replicate 8 1))]
  client := newTcpConnections
  toRelay := []
  fromRelay := []
  delivered := []

theorem init_threeClients : Init 0 (Toxcore.key 1) threeClients := by
  have hslots : ∀ i < numClientConnections, threeClients.server.registered 0 i = none := by
    decide +kernel
  constructor
  case reachable => exact TCPServer.reachable_applyAll _ (.init rfl) _
  case keyOf => decide +kernel
  case unregistered =>
    intro i
    by_contra hsome
    have hused : threeClients.server.slotOf 0 i ≠ .unused := by
      intro heq
      rw [TCPServer.registered, heq] at hsome
      exact hsome rfl
    exact hsome (hslots i (TCPServer.lt_of_slotOf hused).2)
  case client => rfl
  case toRelay => rfl
  case fromRelay => rfl
  case delivered => rfl

/-- The client connects to both of the others, and the last one sends data, which is on its way. -/
def dataOnItsWay : List Action :=
  let env := TCPServer.workingEnv
  let request := TCPServer.TCPRead.packet (routingRequest (Toxcore.key 1))
  [.newConnection (Toxcore.key 2) 7, .addRelay 0, .relay env, .receive,
   .newConnection (Toxcore.key 3) 8, .addRelay 1, .relay env, .receive,
   .other env (.packet 3 request), .receive, .other env (.packet 2 request), .receive,
   .other env (.packet 2 (.packet [16, 42]))]

/-- The data is handed to the connection to its sender. -/
theorem attributed_dataOnItsWay : ∃ s, (system 0 (Toxcore.key 1) Careful).Reachable s ∧
    s.delivered = [(Toxcore.key 3,
      { id := 8, publicKey := Toxcore.key 3, status := .online, data := [42] })] ∧ s.Attributed := by
  have hrun : (threeClients.run 0 (Toxcore.key 1) Careful (dataOnItsWay ++ [.receive])).map
      (·.delivered) = some [(Toxcore.key 3,
        { id := 8, publicKey := Toxcore.key 3, status := .online, data := [42] })] := by
    decide +kernel
  obtain ⟨s, hs, hdelivered⟩ := Option.map_eq_some_iff.mp hrun
  have hreachable := reachable_run (.init init_threeClients) hs
  exact ⟨s, hreachable, hdelivered, attributed_of_careful hreachable⟩

/-- The connection to the sender is killed while its data is on the way: another peer's gets it. -/
theorem not_attributed : ¬∀ x key s, (system x key fun _ _ => True).Reachable s → s.Attributed := by
  intro h
  have hrun : (threeClients.run 0 (Toxcore.key 1) (fun _ _ => True)
      (dataOnItsWay ++ [.killConnection 1, .receive])).map (·.delivered) = some [(Toxcore.key 3,
        { id := 7, publicKey := Toxcore.key 2, status := .unused, data := [42] })] := by
    decide +kernel
  obtain ⟨s, hs, hdelivered⟩ := Option.map_eq_some_iff.mp hrun
  have hattributed := h 0 (Toxcore.key 1) s (reachable_run (.init init_threeClients) hs)
  have hfirst := hattributed _ (by rw [hdelivered]; exact mem_singleton.mpr rfl)
  exact absurd hfirst.1 (by decide +kernel)

end RelayedClient

end Toxcore

import Toxcore.Spec.DhtSystem

/-!
# Where the addresses of the DHT come from

An address in a client list was passed to `addto_lists` with the key of its entry, unless an entry is taken
over: `client_or_ip_port_in_list` then clears the address that was just seen and keeps that of the old key.
-/

namespace Toxcore

open List

/-- A DHT with the calls of `addto_lists` so far. -/
structure SeenState where
  dht : DHT
  calls : List (IPPort × PublicKey)

def SeenAt (calls : List (IPPort × PublicKey)) (publicKey : PublicKey) (ipPort : IPPort) : Prop :=
  ∃ call ∈ calls, call.2 = publicKey ∧ ipPort = ipPortNormalize call.1

structure ClientData.Seen (calls : List (IPPort × PublicKey)) (client : ClientData) : Prop where
  assoc4 : client.assoc4.timestamp ≠ 0 → SeenAt calls client.publicKey client.assoc4.ipPort
  assoc6 : client.assoc6.timestamp ≠ 0 → SeenAt calls client.publicKey client.assoc6.ipPort

def SeenState.Provenance (s : SeenState) : Prop :=
  ∀ client ∈ s.dht.clients, client.Seen s.calls

section Entries

variable {calls calls' : List (IPPort × PublicKey)} {client client' : ClientData} {now : UInt64}
  {publicKey : PublicKey} {ipPort : IPPort}

theorem ClientData.Seen.mono (h : client.Seen calls) (hcalls : calls ⊆ calls') :
    client.Seen calls' := by
  constructor
  · intro hused
    obtain ⟨call, hcall, hseen⟩ := h.assoc4 hused
    exact ⟨call, hcalls hcall, hseen⟩
  · intro hused
    obtain ⟨call, hcall, hseen⟩ := h.assoc6 hused
    exact ⟨call, hcalls hcall, hseen⟩

theorem seen_emptyClientData : emptyClientData.Seen calls :=
  ⟨fun h => absurd rfl h, fun h => absurd rfl h⟩

theorem ClientData.Seen.tended (h : client.Seen calls) (htended : Tended client client') :
    client'.Seen calls := by
  constructor
  · intro hused
    rw [htended.publicKey, htended.ipPort4]
    exact h.assoc4 fun hzero => hused (htended.timestamp4 hzero)
  · intro hused
    rw [htended.publicKey, htended.ipPort6]
    exact h.assoc6 fun hzero => hused (htended.timestamp6 hzero)

theorem seenAt_updateAssoc {assoc : IPPTsPng} (hseen : SeenAt calls publicKey ipPort)
    (h : assoc.timestamp ≠ 0 → SeenAt calls publicKey assoc.ipPort)
    (hused : (updateAssoc now ipPort assoc).timestamp ≠ 0) :
    SeenAt calls publicKey (updateAssoc now ipPort assoc).ipPort := by
  unfold updateAssoc at hused ⊢
  split
  · rename_i hlan
    rw [if_pos hlan] at hused
    exact h hused
  · exact hseen

theorem ClientData.Seen.added (h : client.Seen calls) (hseen : SeenAt calls publicKey ipPort)
    (hadded : Added now publicKey ipPort False client client') : client'.Seen calls := by
  cases hadded with
  | kept => exact h
  | takenOver htaken => exact htaken.elim
  | updated hpk =>
    subst hpk
    unfold updateClient
    split_ifs
    · exact ⟨seenAt_updateAssoc hseen h.assoc4, h.assoc6⟩
    · exact ⟨h.assoc4, seenAt_updateAssoc hseen h.assoc6⟩
    · exact h
  | stored htended =>
    refine ClientData.Seen.tended ?_ htended
    -- the other address is cleared
    unfold updateClientWithReset
    split
    · exact ⟨fun _ => hseen, fun hused => absurd rfl hused⟩
    · exact ⟨fun hused => absurd rfl hused, fun _ => hseen⟩

end Entries

namespace SeenState

variable {s : SeenState} {box : CryptoBox} {env : DhtEnv}

def step (box : CryptoBox) (env : DhtEnv) (s : SeenState) (input : DhtInput) : SeenState where
  dht := s.dht.step box env input
  calls := s.calls ++ (s.dht.addtoCall box env input).toList

/-- The input makes `addto_lists` take over an entry. -/
def TakesOver (box : CryptoBox) (env : DhtEnv) (s : SeenState) (input : DhtInput) : Prop :=
  ∃ ipPort publicKey, s.dht.addtoCall box env input = some (ipPort, publicKey) ∧
    s.dht.TakesOver publicKey (ipPortNormalize ipPort)

/-- DHT runs with a ghost list of the calls of `addto_lists`; every input meets `ok`. -/
def seenSystem (box : CryptoBox) (ok : DhtEnv → SeenState → DhtInput → Prop) :
    TransitionSystem SeenState where
  init s := (∃ env rng selfPublicKey selfSecretKey,
    DHT.newDht env rng selfPublicKey selfSecretKey = some s.dht) ∧ s.calls = []
  step s t := ∃ env input, input.IsUdp ∧ ok env s input ∧ t = s.step box env input

theorem Provenance.step {input : DhtInput} (h : s.Provenance)
    (hok : ¬s.TakesOver box env input) : (s.step box env input).Provenance := by
  intro client' hclient'
  have hcalls : s.calls ⊆ s.calls ++ (s.dht.addtoCall box env input).toList :=
    subset_append_left _ _
  rcases DHT.clients_step input hclient' with rfl | ⟨client, hclient, hcase⟩
  · exact seen_emptyClientData
  · replace h := (h client hclient).mono hcalls
    rcases hcase with htended | ⟨ipPort, publicKey, added, hcall, hadded, htended⟩
    · exact h.tended htended
    · refine ClientData.Seen.tended (ClientData.Seen.added h ?_ (hadded.mono ?_)) htended
      · refine ⟨(ipPort, publicKey), mem_append_right _ ?_, rfl, rfl⟩
        rw [hcall]
        exact mem_singleton_self _
      · exact fun htakes => hok ⟨ipPort, publicKey, hcall, htakes⟩

theorem provenance_of_reachable
    (h : (seenSystem box fun env s input => ¬s.TakesOver box env input).Reachable s) :
    s.Provenance := by
  refine TransitionSystem.Reachable.invariant ?_ ?_ h
  · rintro s ⟨⟨env, rng, pk, sk, hnew⟩, -⟩ client hclient
    rw [(DHT.clients_newDht hnew).1 client hclient]
    exact seen_emptyClientData
  · rintro s _ hs ⟨env, input, -, hok, rfl⟩
    exact hs.step hok

/-! ## Taking over -/

def lists (s : SeenState) : List (List ClientData) :=
  s.dht.closeClientlist :: s.dht.friends.map (·.clientList)

end SeenState

/-- After a take-over the entry has the new key and the address just seen, and not the other one. -/
def TakeOverOk (now : UInt64) (list : List ClientData) (publicKey : PublicKey) (ipPort : IPPort) :
    Prop :=
  indexOfClientPk list publicKey = none → ∀ index, indexOfClientIpPort list ipPort = some index →
    ∃ client, (clientOrIpPortInList now list publicKey ipPort).2[index]? = some client ∧
      client.publicKey = publicKey ∧
      if ipPort.isIpv4 then
        client.assoc4.ipPort = ipPort ∧ client.assoc4.timestamp = now ∧ client.assoc6 = emptyIpptspng
      else
        client.assoc6.ipPort = ipPort ∧ client.assoc6.timestamp = now ∧ client.assoc4 = emptyIpptspng

/-- A take-over always clears the address that was just seen. -/
theorem takeOverOk_iff {now : UInt64} {list : List ClientData} {publicKey : PublicKey}
    {ipPort : IPPort} (hudp : ipPort.isUdp) :
    TakeOverOk now list publicKey ipPort ↔ ¬takesOver list publicKey ipPort := by
  constructor
  · rintro hok ⟨hpk, hipPort⟩
    obtain ⟨index, hindex⟩ := Option.isSome_iff_exists.mp hipPort
    obtain ⟨client, hclient, -, hassoc⟩ := hok hpk index hindex
    simp only [clientOrIpPortInList, hpk, hindex, updateAt, getElem?_modify_eq] at hclient
    obtain ⟨old, -, rfl⟩ := Option.map_eq_some_iff.mp hclient
    -- the empty address has no family
    have hempty : emptyIpPort ≠ ipPort := by
      rintro rfl
      exact absurd hudp (by decide)
    cases h4 : ipPort.isIpv4 with
    | true =>
      simp only [takeOver, h4] at hassoc
      exact hempty hassoc.1
    | false =>
      simp only [takeOver, h4] at hassoc
      exact hempty hassoc.1
  · intro htakes hpk index hindex
    exact absurd ⟨hpk, by rw [hindex]; rfl⟩ htakes

namespace SeenState

variable {s : SeenState} {box : CryptoBox}

/-- Without take-overs every address in use was seen with its key; and a take-over is never right. -/
theorem addresses_seen (h : (seenSystem box fun env s input => ¬s.TakesOver box env input).Reachable s) :
    s.Provenance ∧ ∀ now, ∀ list ∈ s.lists, ∀ publicKey ipPort, ipPort.isUdp →
      (TakeOverOk now list publicKey ipPort ↔ ¬takesOver list publicKey ipPort) :=
  ⟨provenance_of_reachable h, fun _ _ _ _ _ hudp => takeOverOk_iff hudp⟩

theorem isSome_fresh : (DHT.fresh? 1000 1).isSome := by decide +kernel

def noNodes : SeenState where
  dht := (DHT.fresh? 1000 1).get isSome_fresh
  calls := []

theorem init_noNodes (ok : DhtEnv → SeenState → DhtInput → Prop) : (seenSystem xorBox ok).init noNodes :=
  ⟨⟨.good 1000, { u64 := UInt64.ofNat, next := 0 }, key 1, key 1, (Option.some_get isSome_fresh).symm⟩, rfl⟩

def bothAddresses : SeenState :=
  (noNodes.step xorBox (.good 1000) (.addto address4 (key 5))).step xorBox (.good 1000)
    (.addto address6 (key 5))

theorem not_takesOver_addto {env : DhtEnv} {ipPort : IPPort} {publicKey : PublicKey}
    (h : ¬s.dht.TakesOver publicKey (ipPortNormalize ipPort)) :
    ¬s.TakesOver box env (.addto ipPort publicKey) := by
  rintro ⟨ipPort', publicKey', hcall, htakes⟩
  cases hcall
  exact h htakes

/-- A run in which a key is seen at two addresses. -/
theorem addresses_seen_bothAddresses :
    (∃ client ∈ bothAddresses.dht.closeClientlist, client.publicKey = key 5 ∧
      client.assoc4.ipPort = address4 ∧ client.assoc6.ipPort = address6) ∧
    bothAddresses.Provenance := by
  have hfirst : ¬noNodes.dht.TakesOver (key 5) (ipPortNormalize address4) := by decide +kernel
  have hsecond : ¬(noNodes.step xorBox (.good 1000) (.addto address4 (key 5))).dht.TakesOver
      (key 5) (ipPortNormalize address6) := by decide +kernel
  have hreach : (seenSystem xorBox fun env s input => ¬s.TakesOver xorBox env input).Reachable
      bothAddresses := by
    refine .step (.step (.init (init_noNodes _))
      ⟨.good 1000, .addto address4 (key 5), ?_, not_takesOver_addto hfirst, rfl⟩)
      ⟨.good 1000, .addto address6 (key 5), ?_, not_takesOver_addto hsecond, rfl⟩
    · exact (by decide : address4.isUdp = true)
    · exact (by decide : address6.isUdp = true)
  exact ⟨by decide +kernel, (addresses_seen hreach).1⟩

def takenOver : SeenState := bothAddresses.step xorBox (.good 1000) (.addto address4 (key 6))

/-- The entry of `06..06` then has the second address, which was seen with `05..05` only. -/
theorem not_provenance_takenOver :
    ¬∀ (box : CryptoBox) (s : SeenState), (seenSystem box fun _ _ _ => True).Reachable s →
      s.Provenance := by
  intro h
  have hreach : (seenSystem xorBox fun _ _ _ => True).Reachable takenOver := by
    refine .step (.step (.step (.init (init_noNodes _))
      ⟨.good 1000, .addto address4 (key 5), ?_, trivial, rfl⟩)
      ⟨.good 1000, .addto address6 (key 5), ?_, trivial, rfl⟩)
      ⟨.good 1000, .addto address4 (key 6), ?_, trivial, rfl⟩
    · exact (by decide : address4.isUdp = true)
    · exact (by decide : address6.isUdp = true)
    · exact (by decide : address4.isUdp = true)
  obtain ⟨client, hclient, hpk, hused, hipPort⟩ : ∃ client ∈ takenOver.dht.closeClientlist,
      client.publicKey = key 6 ∧ client.assoc6.timestamp ≠ 0 ∧
        client.assoc6.ipPort = address6 := by
    decide +kernel
  obtain ⟨call, hcall, hcallPk, hcallIp⟩ :=
    (h xorBox takenOver hreach client (DHT.mem_clients.mpr (.inl hclient))).assoc6 hused
  rw [hpk] at hcallPk
  rw [hipPort] at hcallIp
  -- no call passed this address with this key
  have hnone : ∀ call ∈ takenOver.calls, call.2 = key 6 → address6 ≠ ipPortNormalize call.1 := by
    decide +kernel
  exact hnone call hcall hcallPk hcallIp

end SeenState

end Toxcore

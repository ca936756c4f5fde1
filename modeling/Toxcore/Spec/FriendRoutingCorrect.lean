import Toxcore.Native.FriendRouting
import Toxcore.Spec.CloseNodes

/-!
# Routing through reporting nodes

A packet for a friend should go to the nodes that have reported its address.  `foreach_ip_port` skips an
address of an entry only if nothing was reported *and* the report has not timed out, so that it visits
every address that has timed out or was never reported.
-/

namespace Toxcore

open List

def IPPTsPng.Reporting (now : UInt64) (assoc : IPPTsPng) : Prop := assoc.retIpIsset ∧ ¬assoc.retTimeout now

def FromReport (now : UInt64) (clientList : List ClientData) (ipPort : IPPort) : Prop :=
  ∃ client ∈ clientList, ∃ assoc ∈ client.assocs, assoc.Reporting now ∧ ipPort = assoc.ipPort

def recorded {σ : Type} (callback : IPPort → σ → Bool × σ) (ipPort : IPPort) (s : σ × List IPPort) :
    Bool × (σ × List IPPort) :=
  ((callback ipPort s.1).1, (callback ipPort s.1).2, s.2 ++ [ipPort])

structure RoutesByReports (dht : DHT) (now : UInt64) (friendId : PublicKey) : Prop where
  routeToFriend : ∀ (env : RouteEnv) (num : Nat) (dhtFriend : DHTFriend), env.now = now →
    dht.indexOfFriendPk friendId = some num → dht.friends[num]? = some dhtFriend →
    ∀ ipPort ∈ dht.routeToFriend env friendId, FromReport now dhtFriend.clientList ipPort
  routeoneToFriend : ∀ (env : RouteEnv) (num : Nat) (dhtFriend : DHTFriend), env.now = now →
    dht.indexOfFriendPk friendId = some num → dht.friends[num]? = some dhtFriend →
    ∀ ipPort ∈ dht.routeoneToFriend env friendId, FromReport now dhtFriend.clientList ipPort
  once : ∀ (env : RouteEnv) (sent : List IPPort) (client : ClientData),
    (visitClient env.now (sendPacketToFriend env) sent client).length ≤ sent.length + 1
  isset : ∀ (num : Nat) (dhtFriend : DHTFriend), dht.indexOfFriendPk friendId = some num →
    dht.friends[num]? = some dhtFriend → ∀ (σ : Type) (callback : IPPort → σ → Bool × σ) (s : σ),
      ∀ ipPort ∈ (foreachIpPort now (recorded callback) dhtFriend.clientList (s, [])).2, ¬ipPort.isUnspec

/-! ## The addresses that are visited -/

/-- The test of `foreach_ip_port` does not skip the address. -/
def IPPTsPng.Visited (now : UInt64) (assoc : IPPTsPng) : Prop := assoc.retIpIsset ∨ assoc.retTimeout now

instance (now : UInt64) (assoc : IPPTsPng) : Decidable (assoc.Visited now) :=
  inferInstanceAs (Decidable (_ ∨ _))

section

variable {σ : Type} {now : UInt64} {callback : IPPort → σ → Bool × σ} {P : σ → Prop}

theorem assocLoop_cons (now : UInt64) (callback : IPPort → σ → Bool × σ) (assoc : IPPTsPng)
    (assocs : List IPPTsPng) (s : σ) : assocLoop now callback (assoc :: assocs) s =
      if assoc.Visited now then
        if (callback assoc.ipPort s).1 then assocLoop now callback assocs (callback assoc.ipPort s).2
        else (callback assoc.ipPort s).2
      else assocLoop now callback assocs s := by
  have hskip : (!assoc.retIpIsset && !assoc.retTimeout now) = true ↔ ¬assoc.Visited now := by
    rw [IPPTsPng.Visited, not_or, Bool.and_eq_true, Bool.not_eq_true', Bool.not_eq_true', Bool.not_eq_true,
      Bool.not_eq_true]
  rw [assocLoop]
  by_cases hvisited : assoc.Visited now
  · rw [if_neg fun h => hskip.mp h hvisited, if_pos hvisited]
    dsimp only
    cases (callback assoc.ipPort s).1 <;> rfl
  · rw [if_pos (hskip.mpr hvisited), if_neg hvisited]

theorem assocLoop_preserves {assocs : List IPPTsPng} {s : σ} (hs : P s)
    (hstep : ∀ assoc ∈ assocs, assoc.Visited now → ∀ s, P s → P (callback assoc.ipPort s).2) :
    P (assocLoop now callback assocs s) := by
  induction assocs generalizing s with
  | nil => exact hs
  | cons assoc assocs ih =>
    have hrest : ∀ s, P s → P (assocLoop now callback assocs s) := fun s hs =>
      ih hs fun a ha => hstep a (mem_cons_of_mem _ ha)
    rw [assocLoop_cons]
    split
    · rename_i hvisited
      have hcall := hstep assoc mem_cons_self hvisited s hs
      split
      · exact hrest _ hcall
      · exact hcall
    · exact hrest s hs

theorem foreachIpPort_preserves {clientList : List ClientData} {s : σ} (hs : P s)
    (hstep : ∀ client ∈ clientList, ∀ assoc ∈ client.assocs, assoc.Visited now →
      ∀ s, P s → P (callback assoc.ipPort s).2) :
    P (foreachIpPort now callback clientList s) := by
  induction clientList generalizing s with
  | nil => exact hs
  | cons client clientList ih =>
    exact ih (assocLoop_preserves hs (hstep client mem_cons_self))
      fun c hc => hstep c (mem_cons_of_mem _ hc)

theorem foreachIpPort_map {τ : Type} {callback' : IPPort → τ → Bool × τ} {f : τ → σ}
    (hagain : ∀ ipPort s, (callback' ipPort s).1 = (callback ipPort (f s)).1)
    (hstate : ∀ ipPort s, f (callback' ipPort s).2 = (callback ipPort (f s)).2)
    (clientList : List ClientData) (s : τ) :
    f (foreachIpPort now callback' clientList s) = foreachIpPort now callback clientList (f s) := by
  have hloop : ∀ (assocs : List IPPTsPng) (s : τ),
      f (assocLoop now callback' assocs s) = assocLoop now callback assocs (f s) := by
    intro assocs
    induction assocs with
    | nil => exact fun _ => rfl
    | cons assoc assocs ih =>
      intro s
      rw [assocLoop_cons, assocLoop_cons, hagain, ← hstate]
      split
      · split
        · exact ih _
        · rfl
      · exact ih s
  induction clientList generalizing s with
  | nil => rfl
  | cons client clientList ih =>
    rw [foreachIpPort, foreachIpPort, foldl_cons, foldl_cons, visitClient, visitClient, ← hloop]
    exact ih _

end

theorem assocLoop_getIpPort (now : UInt64) (assocs : List IPPTsPng) (ipList : List IPPort) :
    assocLoop now getIpPort assocs ipList =
      ipList ++ (assocs.filter fun assoc => assoc.Visited now).map (·.ipPort) := by
  induction assocs generalizing ipList with
  | nil => exact (append_nil _).symm
  | cons assoc assocs ih =>
    rw [assocLoop_cons]
    by_cases hvisited : assoc.Visited now
    · have hfilter := filter_cons_of_pos (p := fun assoc => decide (assoc.Visited now)) (a := assoc) (l := assocs)
        (decide_eq_true hvisited)
      rw [if_pos hvisited, hfilter]
      show assocLoop now getIpPort assocs (ipList ++ [assoc.ipPort]) = _
      rw [ih, append_assoc]
      rfl
    · have hfilter := filter_cons_of_neg (p := fun assoc => decide (assoc.Visited now)) (a := assoc) (l := assocs)
        (mt of_decide_eq_true hvisited)
      rw [if_neg hvisited, hfilter]
      exact ih ipList

variable {ipPort : IPPort}

theorem mem_visited {now : UInt64} {clientList : List ClientData} :
    ipPort ∈ foreachIpPort now getIpPort clientList [] ↔
      ∃ client ∈ clientList, ∃ assoc ∈ client.assocs, assoc.Visited now ∧ ipPort = assoc.ipPort := by
  have hfold : ∀ (clientList : List ClientData) (ipList : List IPPort),
      foreachIpPort now getIpPort clientList ipList = ipList ++ clientList.flatMap fun client =>
        (client.assocs.filter fun assoc => assoc.Visited now).map (·.ipPort) := by
    intro clientList
    induction clientList with
    | nil => exact fun ipList => (append_nil _).symm
    | cons client clientList ih =>
      intro ipList
      rw [foreachIpPort, foldl_cons, visitClient, assocLoop_getIpPort, flatMap_cons, ← append_assoc]
      exact ih _
  rw [hfold, nil_append, mem_flatMap]
  constructor
  · intro h
    obtain ⟨client, hclient, hmem⟩ := h
    obtain ⟨assoc, hassoc, rfl⟩ := mem_map.mp hmem
    obtain ⟨hin, hvisited⟩ := mem_filter.mp hassoc
    exact ⟨client, hclient, assoc, hin, of_decide_eq_true hvisited, rfl⟩
  · intro h
    obtain ⟨client, hclient, assoc, hin, hvisited, rfl⟩ := h
    exact ⟨client, hclient, mem_map_of_mem (mem_filter.mpr ⟨hin, decide_eq_true hvisited⟩)⟩

/-! ## Routing -/

theorem length_visitClient_le (env : RouteEnv) (sent : List IPPort) (client : ClientData) :
    (visitClient env.now (sendPacketToFriend env) sent client).length ≤ sent.length + 1 := by
  have hloop : ∀ (assocs : List IPPTsPng) (sent : List IPPort),
      (assocLoop env.now (sendPacketToFriend env) assocs sent).length ≤ sent.length + 1 := by
    intro assocs
    induction assocs with
    | nil => exact fun sent => Nat.le_succ _
    | cons assoc assocs ih =>
      intro sent
      rw [assocLoop_cons, sendPacketToFriend]
      split
      · split
        -- the callback is happy with the first packet that was sent
        · exact Nat.le_of_eq length_append
        · exact ih sent
      · exact ih sent
  exact hloop _ sent

/-- An address with an old report is that of an entry with a new one, and visited addresses are set. -/
def ReportsFresh (dht : DHT) (now : UInt64) (friendId : PublicKey) : Prop :=
  ∀ (num : Nat) (dhtFriend : DHTFriend), dht.indexOfFriendPk friendId = some num →
    dht.friends[num]? = some dhtFriend → ∀ client ∈ dhtFriend.clientList, ∀ assoc ∈ client.assocs,
      (assoc.retTimeout now → FromReport now dhtFriend.clientList assoc.ipPort) ∧
      (assoc.retIpIsset ∨ assoc.retTimeout now → ¬assoc.ipPort.isUnspec)

variable {dht : DHT} {friendId : PublicKey} {num : Nat} {dhtFriend : DHTFriend}

theorem mem_routeToFriend {env : RouteEnv} (hnum : dht.indexOfFriendPk friendId = some num)
    (hfriend : dht.friends[num]? = some dhtFriend) (h : ipPort ∈ dht.routeToFriend env friendId) :
    ∃ client ∈ dhtFriend.clientList, ∃ assoc ∈ client.assocs, assoc.Visited env.now ∧ ipPort = assoc.ipPort := by
  rw [DHT.routeToFriend, hnum] at h
  dsimp only at h
  split at h
  · exact absurd h not_mem_nil
  · split at h
    · exact absurd h not_mem_nil
    · rw [hfriend] at h
      refine foreachIpPort_preserves (P := fun sent => ∀ ipPort ∈ sent, ∃ client ∈ dhtFriend.clientList,
        ∃ assoc ∈ client.assocs, assoc.Visited env.now ∧ ipPort = assoc.ipPort)
        (fun _ hnil => absurd hnil not_mem_nil) ?_ ipPort h
      intro client hclient assoc hassoc hvisited sent hsent ipPort' hmem
      rw [sendPacketToFriend] at hmem
      split at hmem
      · cases mem_append.mp hmem with
        | inl hold => exact hsent ipPort' hold
        | inr hnew => exact ⟨client, hclient, assoc, hassoc, hvisited, mem_singleton.mp hnew⟩
      · exact hsent ipPort' hmem

theorem routeoneToFriend_eq (hnum : dht.indexOfFriendPk friendId = some num)
    (hfriend : dht.friends[num]? = some dhtFriend) (env : RouteEnv) : dht.routeoneToFriend env friendId =
      (((foreachIpPort env.now getIpPort dhtFriend.clientList [])[env.random %
        (foreachIpPort env.now getIpPort dhtFriend.clientList []).length]?).filter (env.sends [])).toList := by
  rw [DHT.routeoneToFriend, hnum]
  dsimp only
  rw [hfriend]
  dsimp only
  generalize foreachIpPort env.now getIpPort dhtFriend.clientList [] = ipList
  split
  · rename_i hshort
    rw [length_eq_zero_iff.mp (Nat.lt_one_iff.mp hshort)]
    rfl
  · cases ipList[env.random % ipList.length]? with
    | none => rfl
    | some ipPort =>
      dsimp only
      split
      · rename_i hsends
        rw [Option.filter_some_pos hsends]
        rfl
      · rename_i hsends
        rw [Option.filter_some_neg (Bool.eq_false_iff.mpr hsends)]
        rfl

theorem ReportsFresh.fromReport {now : UInt64} (h : ReportsFresh dht now friendId)
    (hnum : dht.indexOfFriendPk friendId = some num) (hfriend : dht.friends[num]? = some dhtFriend)
    (hvisited : ∃ client ∈ dhtFriend.clientList, ∃ assoc ∈ client.assocs, assoc.Visited now ∧ ipPort = assoc.ipPort) :
    FromReport now dhtFriend.clientList ipPort := by
  obtain ⟨client, hclient, assoc, hassoc, hvisited, rfl⟩ := hvisited
  by_cases htimeout : assoc.retTimeout now
  · exact (h num dhtFriend hnum hfriend client hclient assoc hassoc).1 htimeout
  · exact ⟨client, hclient, assoc, hassoc, ⟨hvisited.resolve_right htimeout, htimeout⟩, rfl⟩

/-- Packets go to reporting nodes and no callback sees an unset address, exactly if old reports are those of entries
    with new ones, and the visited addresses are set. -/
theorem routesByReports_iff (dht : DHT) (now : UInt64) (friendId : PublicKey) :
    RoutesByReports dht now friendId ↔ ReportsFresh dht now friendId := by
  constructor
  · intro hroutes num dhtFriend hnum hfriend client hclient assoc hassoc
    have hmem : assoc.Visited now → assoc.ipPort ∈ foreachIpPort now getIpPort dhtFriend.clientList [] :=
      fun hvisited => mem_visited.mpr ⟨client, hclient, assoc, hassoc, hvisited, rfl⟩
    have hset : assoc.Visited now → ¬assoc.ipPort.isUnspec := by
      intro hvisited
      -- a callback that is never happy sees every address
      have hlog : (foreachIpPort now (recorded fun _ s => (true, s)) dhtFriend.clientList ((), [])).2 =
          foreachIpPort now getIpPort dhtFriend.clientList [] :=
        foreachIpPort_map (f := Prod.snd) (fun _ _ => rfl) (fun _ _ => rfl) dhtFriend.clientList ((), [])
      refine hroutes.isset num dhtFriend hnum hfriend Unit (fun _ s => (true, s)) () _ ?_
      rw [hlog]
      exact hmem hvisited
    refine ⟨fun htimeout => ?_, hset⟩
    have hvisited : assoc.Visited now := .inr htimeout
    -- the random number may choose this address
    obtain ⟨i, hi, hget⟩ := mem_iff_getElem.mp (hmem hvisited)
    refine hroutes.routeoneToFriend { now, sendPacket := fun _ _ => true, random := i } num dhtFriend rfl hnum
      hfriend assoc.ipPort ?_
    have hsends : RouteEnv.sends { now, sendPacket := fun _ _ => true, random := i } [] assoc.ipPort = true := by
      rw [RouteEnv.sends, Bool.eq_false_iff.mpr (hset hvisited)]
      rfl
    rw [routeoneToFriend_eq hnum hfriend]
    rw [Nat.mod_eq_of_lt hi, getElem?_eq_getElem hi, hget, Option.filter_some_pos hsends]
    exact mem_singleton.mpr rfl
  · intro hfresh
    constructor
    · intro env num dhtFriend hnow hnum hfriend ipPort hmem
      rw [← hnow] at hfresh ⊢
      exact hfresh.fromReport hnum hfriend (mem_routeToFriend hnum hfriend hmem)
    · intro env num dhtFriend hnow hnum hfriend ipPort hmem
      rw [← hnow] at hfresh ⊢
      rw [routeoneToFriend_eq hnum hfriend, Option.mem_toList, Option.filter_eq_some_iff] at hmem
      exact hfresh.fromReport hnum hfriend (mem_visited.mp (mem_of_getElem? hmem.1))
    · exact length_visitClient_le
    · intro num dhtFriend hnum hfriend σ callback s ipPort hmem
      refine foreachIpPort_preserves (P := fun s : σ × List IPPort => ∀ ipPort ∈ s.2, ¬ipPort.isUnspec)
        (fun _ hnil => absurd hnil not_mem_nil) ?_ ipPort hmem
      intro client hclient assoc hassoc hvisited s hs ipPort' hmem'
      cases mem_append.mp hmem' with
      | inl hold => exact hs ipPort' hold
      | inr hnew =>
        rw [mem_singleton.mp hnew]
        exact (hfresh num dhtFriend hnum hfriend client hclient assoc hassoc).2 hvisited

def silentNode : DHT :=
  dhtWith [] [{ emptyDhtFriend (key 2) with
    clientList := clientSeen 9 1000 :: List.replicate (maxFriendClients - 1) emptyClientData }]

/-- The packet goes to the node that has reported nothing. -/
theorem not_routesByReports_silent : ¬∀ (dht : DHT) (now : UInt64) (friendId : PublicKey),
    RoutesByReports dht now friendId := by
  intro hall
  have hroute := (hall silentNode 1000 (key 2)).routeoneToFriend
    { now := 1000, sendPacket := fun _ _ => true, random := 0 } 0 _ rfl rfl rfl (clientSeen 9 1000).assoc4.ipPort
    (by decide +kernel)
  obtain ⟨client, hclient, assoc, hassoc, hreporting, -⟩ := hroute
  have hsilent : ∀ client ∈ clientSeen 9 1000 :: List.replicate (maxFriendClients - 1) emptyClientData,
      ∀ assoc ∈ client.assocs, assoc.retIpIsset = false := by
    decide +kernel
  have hreported := hreporting.1
  rw [hsilent client hclient assoc hassoc] at hreported
  cases hreported

end Toxcore

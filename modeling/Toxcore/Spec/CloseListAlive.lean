import Toxcore.Spec.CloseNodes
import Toxcore.Spec.DhtHousekeeping

/-!
# The reset of the close list

`do_Close` sets back the timestamps of the close list if `do_ping_and_sendnode_requests` counts no
address that is alive.  The count is a byte, and it is zero if the allocation fails.
-/

namespace Toxcore

open List

/-- The address was heard from within `KILL_NODE_TIMEOUT`. -/
def IPPTsPng.isAlive (now : UInt64) (assoc : IPPTsPng) : Bool :=
  !monoTimeIsTimeout now assoc.timestamp killNodeTimeout

def ClientData.liveAddresses (now : UInt64) (client : ClientData) : Nat :=
  (client.assoc6.isAlive now).toNat + (client.assoc4.isAlive now).toNat

def liveAddresses (now : UInt64) (list : List ClientData) : Nat :=
  (list.map (·.liveAddresses now)).sum

def NoneAlive (now : UInt64) (list : List ClientData) : Prop :=
  ∀ client ∈ list, client.assoc4.isAlive now = false ∧ client.assoc6.isAlive now = false

def ClientData.timestamps (client : ClientData) : UInt64 × UInt64 :=
  (client.assoc4.timestamp, client.assoc6.timestamp)

/-- The key of a client and when its addresses were last heard from, without anything else. -/
def ClientData.core (client : ClientData) : ClientData :=
  { emptyClientData with
    publicKey := client.publicKey
    assoc4 := { emptyIpptspng with timestamp := client.assoc4.timestamp }
    assoc6 := { emptyIpptspng with timestamp := client.assoc6.timestamp } }

theorem map_timestamps_of_core {list list' : List ClientData} (h : list'.map (·.core) = list.map (·.core)) :
    list'.map (·.timestamps) = list.map (·.timestamps) := by
  have hmap := congrArg (List.map (·.timestamps)) h
  rw [map_map, map_map] at hmap
  exact hmap

theorem liveAddresses_eq_zero_iff (now : UInt64) (list : List ClientData) :
    liveAddresses now list = 0 ↔ NoneAlive now list := by
  rw [liveAddresses, List.sum_eq_zero_iff_forall_eq_nat, forall_mem_map]
  refine forall₂_congr fun client _ => ?_
  rw [ClientData.liveAddresses, Nat.add_eq_zero_iff, Bool.toNat_eq_zero, Bool.toNat_eq_zero, and_comm]

namespace DHT

variable (dht : DHT) (box : CryptoBox) (env : DhtEnv)

theorem notKill_pingAssoc (publicKey clientPk : PublicKey) (j : Nat) (loop : PingLoop) (assoc : IPPTsPng) :
    (pingAssoc box env publicKey clientPk j loop assoc).1.notKill =
      loop.notKill + UInt8.ofNat (assoc.isAlive env.now).toNat := by
  unfold pingAssoc IPPTsPng.isAlive
  split
  · rename_i halive
    rw [halive]
    rfl
  · rename_i hdead
    rw [Bool.eq_false_of_not_eq_true hdead]
    exact (UInt8.add_zero _).symm

theorem notKill_pingLoop (publicKey : PublicKey) (list : List ClientData) (loop : PingLoop) :
    (pingLoop box env publicKey list loop).1.notKill = loop.notKill + UInt8.ofNat (liveAddresses env.now list) ∧
      (pingLoop box env publicKey list loop).2.map (·.core) = list.map (·.core) := by
  induction list generalizing loop with
  | nil => exact ⟨(UInt8.add_zero _).symm, rfl⟩
  | cons client list ih =>
    have hcount6 := notKill_pingAssoc box env publicKey client.publicKey 0 loop client.assoc6
    obtain ⟨-, -, htime6⟩ := pingAssoc_spec box env publicKey client.publicKey 0 loop client.assoc6
    rw [pingLoop]
    dsimp only
    generalize pingAssoc box env publicKey client.publicKey 0 loop client.assoc6 = r6 at hcount6 htime6
    have hcount4 := notKill_pingAssoc box env publicKey client.publicKey 1 r6.1 client.assoc4
    obtain ⟨-, -, htime4⟩ := pingAssoc_spec box env publicKey client.publicKey 1 r6.1 client.assoc4
    generalize pingAssoc box env publicKey client.publicKey 1 r6.1 client.assoc4 = r4 at hcount4 htime4
    obtain ⟨hcount, hcore⟩ := ih r4.1
    constructor
    · have hsum : liveAddresses env.now (client :: list) =
          (client.assoc6.isAlive env.now).toNat + ((client.assoc4.isAlive env.now).toNat +
            liveAddresses env.now list) := Nat.add_assoc ..
      rw [hcount, hcount4, hcount6, UInt8.add_assoc, UInt8.add_assoc, ← UInt8.ofNat_add,
        ← UInt8.ofNat_add, hsum]
    · rw [map_cons]
      congr 1
      unfold ClientData.core
      rw [htime4, htime6]

theorem notKill_doPingAndSendnodeRequests (lastgetnode : UInt64) (publicKey : PublicKey)
    (list : List ClientData) (bootstrapTimes : UInt32) :
    (dht.doPingAndSendnodeRequests box env lastgetnode publicKey list bootstrapTimes false).notKill =
        (if env.malloc dht.rng.next then UInt8.ofNat (liveAddresses env.now list) else 0) ∧
      (dht.doPingAndSendnodeRequests box env lastgetnode publicKey list bootstrapTimes
        false).list.map (·.timestamps) = list.map (·.timestamps) := by
  unfold doPingAndSendnodeRequests
  cases hmalloc : env.malloc dht.rng.next with
  | false => exact ⟨rfl, rfl⟩
  | true =>
    obtain ⟨hcount, hcore⟩ := notKill_pingLoop box env publicKey list
      { dht, notKill := 0, nodes := [], sort := 0, sortOk := false }
    have htimes := map_timestamps_of_core hcore
    rw [UInt8.zero_add] at hcount
    rw [if_neg (by exact nofun)]
    dsimp only
    generalize pingLoop box env publicKey list _ = r at hcount htimes
    split
    · exact ⟨hcount, htimes⟩
    · exact ⟨hcount, htimes⟩

/-- The `DHT` when `do_Close` has asked the nodes to bootstrap from. -/
def closeStart : DHT :=
  let dht := dht.getnodesAll box env dht.selfPublicKey (dht.toBootstrap.nodes.take dht.toBootstrap.num)
  { dht with toBootstrap := { dht.toBootstrap with num := 0 } }

/-- The call of `do_ping_and_sendnode_requests` in `do_Close`. -/
def closePing : PingResult :=
  let start := dht.closeStart box env
  start.doPingAndSendnodeRequests box env start.closeLastgetnodes start.selfPublicKey
    start.closeClientlist start.closeBootstrapTimes false

theorem closeClientlist_doClose :
    (dht.doClose box env).closeClientlist =
      if (dht.closePing box env).notKill ≠ 0 then (dht.closePing box env).list
      else (dht.closePing box env).list.map (resetBad (env.now - badNodeTimeout)) := by
  by_cases hne : (dht.closePing box env).notKill ≠ 0
  · rw [if_pos hne]
    exact congrArg DHT.closeClientlist (if_pos hne)
  · rw [if_neg hne]
    exact congrArg DHT.closeClientlist (if_neg hne)

theorem closeClientlist_closeStart : (dht.closeStart box env).closeClientlist = dht.closeClientlist :=
  (sameLists_getnodesAll dht box env dht.selfPublicKey _).closeClientlist

theorem notKill_closePing :
    (dht.closePing box env).notKill =
        (if env.malloc (dht.closeStart box env).rng.next then
          UInt8.ofNat (liveAddresses env.now dht.closeClientlist) else 0) ∧
      (dht.closePing box env).list.map (·.timestamps) = dht.closeClientlist.map (·.timestamps) := by
  rw [← dht.closeClientlist_closeStart box env]
  exact (dht.closeStart box env).notKill_doPingAndSendnodeRequests box env _ _ _ _

/-- `do_Close` sets back timestamps only if no address of the close list is alive. -/
structure ResetsOnlyDead : Prop where
  kept : NoneAlive env.now dht.closeClientlist ∨
    (dht.doClose box env).closeClientlist.map (·.timestamps) = dht.closeClientlist.map (·.timestamps)
  count : (dht.closePing box env).notKill = 0 ↔ NoneAlive env.now dht.closeClientlist

end DHT

theorem ofNat_eq_zero_iff (n : Nat) : UInt8.ofNat n = 0 ↔ 256 ∣ n := by
  rw [← UInt8.toNat_inj, Nat.dvd_iff_mod_eq_zero]
  rfl

/-- The close list is set back exactly if nothing in it is alive, if and only if this is so, or there is memory and
    the number alive is not a multiple of 256. -/
theorem resetsOnlyDead_iff (dht : DHT) (box : CryptoBox) (env : DhtEnv) :
    dht.ResetsOnlyDead box env ↔
      liveAddresses env.now dht.closeClientlist = 0 ∨
        env.malloc (dht.closeStart box env).rng.next = true ∧
          ¬256 ∣ liveAddresses env.now dht.closeClientlist := by
  obtain ⟨hcount, htimes⟩ := dht.notKill_closePing box env
  have hnone := liveAddresses_eq_zero_iff env.now dht.closeClientlist
  constructor
  · intro h
    by_contra hcond
    rw [not_or, not_and_or, not_not] at hcond
    refine hcond.1 (hnone.mpr (h.count.mp ?_))
    rw [hcount]
    split
    · rename_i hmalloc
      exact (ofNat_eq_zero_iff _).mpr (hcond.2.resolve_left (not_not_intro hmalloc))
    · rfl
  · rintro (hzero | ⟨hmalloc, hndvd⟩)
    · refine ⟨.inl (hnone.mp hzero), ⟨fun _ => hnone.mp hzero, fun _ => ?_⟩⟩
      rw [hcount, hzero]
      split <;> rfl
    · have hne : (dht.closePing box env).notKill ≠ 0 := by
        rw [hcount, if_pos hmalloc, Ne, ofNat_eq_zero_iff]
        exact hndvd
      refine ⟨.inr ?_, ⟨fun heq => absurd heq hne, fun hdead => ?_⟩⟩
      · rw [dht.closeClientlist_doClose, if_pos hne]
        exact htimes
      · rw [hnone.mpr hdead] at hndvd
        exact absurd (Nat.dvd_zero 256) hndvd

def crowdedDht : DHT :=
  dhtWith ((List.range 256).map fun b => clientSeen (UInt8.ofNat b) 990) []

/-- With 256 live addresses the count is zero, and the close list is set back. -/
theorem not_resetsOnlyDead_crowded :
    liveAddresses 1000 crowdedDht.closeClientlist = 256 ∧
      ¬crowdedDht.ResetsOnlyDead xorBox ⟨1000, fun _ => true, fun _ => true, fun _ => true, true⟩ := by
  have hlive : liveAddresses 1000 crowdedDht.closeClientlist = 256 := by decide +kernel
  refine ⟨hlive, fun h => ?_⟩
  have hcount := (crowdedDht.notKill_closePing xorBox
    ⟨1000, fun _ => true, fun _ => true, fun _ => true, true⟩).1
  rw [hlive] at hcount
  have hnone := (liveAddresses_eq_zero_iff 1000 crowdedDht.closeClientlist).mpr (h.count.mp hcount)
  rw [hlive] at hnone
  exact absurd hnone (by decide)

end Toxcore

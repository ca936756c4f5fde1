import Toxcore.Native.Ping
import Toxcore.Spec.CloseNodes
import Toxcore.Spec.GetNodesExchange

/-!
# Pending pings

The nodes in `to_ping` stand at its start and have different keys as long as `ping_iterate` does not keep a node
behind one that it pings: where it leaves a gap, the loops of `ping_add` and `ping_iterate` end early.
-/

namespace Toxcore

open List

def pendingKeys (toPing : List NodeFormat) : List PublicKey := nodeKeys (toPing.filter (·.ipIsset))

structure PendingShape (toPing : List NodeFormat) : Prop where
  initial : toPing.Pairwise fun a b => b.ipIsset → a.ipIsset
  distinct : (pendingKeys toPing).Nodup

instance (toPing : List NodeFormat) : Decidable (PendingShape toPing) :=
  decidable_of_iff ((toPing.Pairwise fun a b => b.ipIsset → a.ipIsset) ∧ (pendingKeys toPing).Nodup)
    ⟨fun h => ⟨h.1, h.2⟩, fun h => ⟨h.initial, h.distinct⟩⟩

def AddableLast (addable : NodeFormat → Bool) (toPing : List NodeFormat) : Prop :=
  toPing.Pairwise fun a b => b.ipIsset → addable a → addable b

instance (addable : NodeFormat → Bool) (toPing : List NodeFormat) : Decidable (AddableLast addable toPing) :=
  inferInstanceAs (Decidable (toPing.Pairwise _))

/-! ## The loop -/

/-- An iteration resets the nodes that can be added, up to the first one that is not set. -/
def iterated (addable : NodeFormat → Bool) : List NodeFormat → List NodeFormat
  | [] => []
  | node :: toPing =>
    if !node.ipIsset then node :: toPing
    else (if addable node then node.ipReset else node) :: iterated addable toPing

def visitedNodes (toPing : List NodeFormat) : List NodeFormat := toPing.takeWhile (·.ipIsset)

variable {toPing : List NodeFormat}

theorem visitedNodes_eq (h : toPing.Pairwise fun a b => b.ipIsset → a.ipIsset)
    : visitedNodes toPing = toPing.filter (·.ipIsset) := by
  induction toPing with
  | nil => rfl
  | cons node toPing ih =>
    obtain ⟨hfirst, hrest⟩ := pairwise_cons.mp h
    rw [visitedNodes]
    cases hset : node.ipIsset with
    | true =>
      rw [takeWhile_cons_of_pos hset, filter_cons_of_pos hset]
      exact congrArg _ (ih hrest)
    | false =>
      rw [takeWhile_cons_of_neg (by simp [hset]), filter_cons_of_neg (by simp [hset])]
      refine (filter_eq_nil_iff.mpr fun other hother hotherSet => ?_).symm
      rw [hfirst other hother hotherSet] at hset
      cases hset

variable {addable : NodeFormat → Bool}

theorem filter_iterated (h : toPing.Pairwise fun a b => b.ipIsset → a.ipIsset) :
    (iterated addable toPing).filter (·.ipIsset) = (toPing.filter (·.ipIsset)).filter fun node => !addable node := by
  induction toPing with
  | nil => rfl
  | cons node toPing ih =>
    obtain ⟨hfirst, hrest⟩ := pairwise_cons.mp h
    rw [iterated]
    cases hset : node.ipIsset with
    | true =>
      rw [filter_cons_of_pos hset]
      cases hadd : addable node with
      | true =>
        rw [filter_cons_of_neg (by simp [hadd])]
        show List.filter _ (node.ipReset :: iterated addable toPing) = _
        exact ih hrest
      | false =>
        rw [filter_cons_of_pos (by simp [hadd])]
        show List.filter _ (node :: iterated addable toPing) = _
        rw [filter_cons_of_pos hset]
        exact congrArg _ (ih hrest)
    | false =>
      have hnone : (node :: toPing).filter (·.ipIsset) = [] := by
        refine filter_eq_nil_iff.mpr fun other hother hotherSet => ?_
        cases mem_cons.mp hother with
        | inl heq =>
          rw [heq, hset] at hotherSet
          cases hotherSet
        | inr hmem =>
          rw [hfirst other hmem hotherSet] at hset
          cases hset
      show List.filter _ (node :: toPing) = _
      rw [hnone]
      rfl

theorem mem_iterated {node : NodeFormat} (h : node ∈ iterated addable toPing) (hset : node.ipIsset)
    : node ∈ toPing := by
  induction toPing with
  | nil => exact h
  | cons first toPing ih =>
    rw [iterated] at h
    split at h
    · exact h
    · cases mem_cons.mp h with
      | inl heq =>
        split at heq
        · rw [heq] at hset
          cases hset
        · exact heq ▸ mem_cons_self
      | inr hmem => exact mem_cons_of_mem _ (ih hmem)

theorem initial_iterated_iff (h : toPing.Pairwise fun a b => b.ipIsset → a.ipIsset) :
    ((iterated addable toPing).Pairwise fun a b => b.ipIsset → a.ipIsset) ↔ AddableLast addable toPing := by
  induction toPing with
  | nil => exact ⟨fun _ => List.Pairwise.nil, fun _ => List.Pairwise.nil⟩
  | cons node toPing ih =>
    obtain ⟨hfirst, hrest⟩ := pairwise_cons.mp h
    have hkept : ∀ other ∈ toPing, other.ipIsset → addable other = false → other ∈ iterated addable toPing := by
      intro other hother hset hnot
      have hmem : other ∈ (iterated addable toPing).filter (·.ipIsset) := by
        rw [filter_iterated hrest]
        exact mem_filter.mpr ⟨mem_filter.mpr ⟨hother, hset⟩, by rw [hnot]; rfl⟩
      exact (mem_filter.mp hmem).1
    have hleft : ∀ other ∈ iterated addable toPing, other.ipIsset → addable other = false := by
      intro other hother hset
      have hmem : other ∈ (iterated addable toPing).filter (·.ipIsset) := mem_filter.mpr ⟨hother, hset⟩
      rw [filter_iterated hrest] at hmem
      have hnot := (mem_filter.mp hmem).2
      rwa [Bool.not_eq_true'] at hnot
    cases hset : node.ipIsset with
    | false =>
      -- nothing is pending
      have hunset : ∀ other ∈ toPing, ¬other.ipIsset := by
        intro other hother hotherSet
        rw [hfirst other hother hotherSet] at hset
        cases hset
      rw [iterated, if_pos (by rw [hset]; rfl)]
      refine ⟨fun _ => pairwise_cons.mpr ⟨fun other hother hotherSet => ?_, ?_⟩, fun _ => h⟩
      · exact absurd hotherSet (hunset other hother)
      · exact pairwise_iff_forall_sublist.mpr fun hsub hotherSet =>
          absurd hotherSet (hunset _ (hsub.subset (mem_cons_of_mem _ mem_cons_self)))
    | true =>
      rw [iterated, if_neg (by rw [hset]; exact Bool.false_ne_true)]
      constructor
      · intro hpairwise
        obtain ⟨hhead, htail⟩ := pairwise_cons.mp hpairwise
        refine pairwise_cons.mpr ⟨fun other hother hotherSet hadd => ?_, (ih hrest).mp htail⟩
        cases hother' : addable other with
        | true => rfl
        | false =>
          have hinitial := hhead other (hkept other hother hotherSet hother') hotherSet
          rw [if_pos hadd] at hinitial
          cases hinitial
      · intro hlast
        obtain ⟨hhead, htail⟩ := pairwise_cons.mp hlast
        refine pairwise_cons.mpr ⟨fun other hother hotherSet => ?_, (ih hrest).mpr htail⟩
        split
        · rename_i hadd
          have hotherAdd := hhead other (mem_iterated hother hotherSet) hotherSet hadd
          rw [hleft other hother hotherSet] at hotherAdd
          cases hotherAdd
        · exact hset

theorem pendingShape_iterated_iff (addable : NodeFormat → Bool) (h : PendingShape toPing)
    : PendingShape (iterated addable toPing) ↔ AddableLast addable toPing := by
  refine ⟨fun hshape => (initial_iterated_iff h.initial).mp hshape.initial, fun hlast =>
    ⟨(initial_iterated_iff h.initial).mpr hlast, ?_⟩⟩
  rw [pendingKeys, filter_iterated h.initial]
  exact h.distinct.sublist (filter_sublist.map _)

namespace Ping

variable {box : CryptoBox} {env : DhtEnv} {ping : Ping} {dht : DHT} {node : NodeFormat}

theorem nodeAddableToCloseList_eq (dht : DHT) (box : CryptoBox) (env : DhtEnv) (node : NodeFormat) :
    dht.nodeAddableToCloseList box env node = (dht.closeSlot node.publicKey).isSome := by
  rw [DHT.nodeAddableToCloseList, DHT.addToClose]
  cases dht.closeSlot node.publicKey <;> rfl

theorem pingSendRequest_spec (box : CryptoBox) (env : DhtEnv) (ping : Ping) (dht : DHT) (node : NodeFormat) :
    (ping.pingSendRequest box env dht node).1.requests = ping.requests ++ [node] ∧
      (ping.pingSendRequest box env dht node).1.toPing = ping.toPing ∧
      (ping.pingSendRequest box env dht node).1.lastToPing = ping.lastToPing ∧
      ∀ publicKey, (ping.pingSendRequest box env dht node).2.closeSlot publicKey = dht.closeSlot publicKey := by
  rw [pingSendRequest]
  dsimp only
  split
  · exact ⟨rfl, rfl, rfl, fun _ => rfl⟩
  · split
    · exact ⟨rfl, rfl, rfl, fun _ => rfl⟩
    · split
      · exact ⟨rfl, rfl, rfl, fun _ => rfl⟩
      · refine ⟨rfl, rfl, rfl, fun publicKey => ?_⟩
        rw [DHT.sendpacket]
        split <;> rfl

theorem addable_pingSendRequest (box : CryptoBox) (env : DhtEnv) (ping : Ping) (dht : DHT) (node : NodeFormat) :
    (ping.pingSendRequest box env dht node).2.nodeAddableToCloseList box env =
      dht.nodeAddableToCloseList box env := by
  funext other
  rw [nodeAddableToCloseList_eq, nodeAddableToCloseList_eq, (pingSendRequest_spec box env ping dht node).2.2.2]

theorem iterateLoop_spec (box : CryptoBox) (env : DhtEnv) (toPing : List NodeFormat) (ping : Ping) (dht : DHT) :
    (iterateLoop box env toPing ping dht).1 = iterated (dht.nodeAddableToCloseList box env) toPing ∧
      (iterateLoop box env toPing ping dht).2.1 = (visitedNodes toPing).length ∧
      (iterateLoop box env toPing ping dht).2.2.1.requests =
        ping.requests ++ (visitedNodes toPing).filter (dht.nodeAddableToCloseList box env) := by
  induction toPing generalizing ping dht with
  | nil => exact ⟨rfl, rfl, (append_nil _).symm⟩
  | cons node toPing ih =>
    rw [iterateLoop, iterated, visitedNodes]
    by_cases hset : node.ipIsset = true
    · have hvisit : ¬(!node.ipIsset) = true := by rw [hset]; decide
      rw [if_neg hvisit, if_neg hvisit, takeWhile_cons_of_pos hset]
      by_cases hadd : dht.nodeAddableToCloseList box env node = true
      · have hping : ¬(!dht.nodeAddableToCloseList box env node) = true := by rw [hadd]; decide
        obtain ⟨hrest, hvisited, hrequests⟩ := ih (ping.pingSendRequest box env dht node).1
          (ping.pingSendRequest box env dht node).2
        rw [addable_pingSendRequest] at hrest hrequests
        rw [(pingSendRequest_spec box env ping dht node).1, append_assoc] at hrequests
        rw [if_neg hping, if_pos hadd, filter_cons_of_pos hadd]
        exact ⟨congrArg _ hrest, congrArg _ hvisited, hrequests⟩
      · -- the node is kept where it is
        have hskip : (!dht.nodeAddableToCloseList box env node) = true := by
          rw [Bool.not_eq_true', Bool.eq_false_iff]
          exact hadd
        obtain ⟨hrest, hvisited, hrequests⟩ := ih ping dht
        rw [if_pos hskip, if_neg hadd, filter_cons_of_neg hadd]
        exact ⟨congrArg _ hrest, congrArg _ hvisited, hrequests⟩
    · have hend : (!node.ipIsset) = true := by
        rw [Bool.not_eq_true', Bool.eq_false_iff]
        exact hset
      rw [if_pos hend, if_pos hend, takeWhile_cons_of_neg hset]
      exact ⟨rfl, rfl, (append_nil _).symm⟩

/-- `ping_iterate` pings the visited nodes that can be added, and resets them. -/
theorem pingIterate_spec (box : CryptoBox) (dht : DHT) (h : ping.Effective env.now) :
    (ping.pingIterate box env dht).1.toPing = iterated (dht.nodeAddableToCloseList box env) ping.toPing ∧
      (ping.pingIterate box env dht).1.requests =
        ping.requests ++ (visitedNodes ping.toPing).filter (dht.nodeAddableToCloseList box env) := by
  obtain ⟨hrest, -, hrequests⟩ := iterateLoop_spec box env ping.toPing ping dht
  rw [pingIterate, if_neg (not_not.mpr h)]
  dsimp only
  split
  · exact ⟨hrest, hrequests⟩
  · exact ⟨hrest, hrequests⟩

/-! ## Adding a node -/

theorem addIndex_eq_some {publicKey : PublicKey} {i : Nat} (h : ping.addIndex publicKey = some i) :
    ∃ hi : i < ping.toPing.length, ((ping.toPing[i]).ipIsset = false ∨ (ping.toPing[i]).publicKey = publicKey) ∧
      ∀ j (hj : j < i), (ping.toPing[j]).ipIsset ∧ (ping.toPing[j]).publicKey ≠ publicKey := by
  obtain ⟨hi, hfound, hbefore⟩ := findIdx?_eq_some_iff_getElem.mp h
  rw [Bool.or_eq_true, Bool.not_eq_true', beq_iff_eq] at hfound
  refine ⟨hi, hfound, fun j hj => ?_⟩
  have hnot := hbefore j hj
  rw [Bool.or_eq_true, not_or, Bool.not_eq_true', Bool.not_eq_false, beq_iff_eq] at hnot
  exact hnot

theorem pendingShape_set {toPing : List NodeFormat} (h : PendingShape toPing) {i : Nat} (hi : i < toPing.length)
    (hfree : toPing[i].ipIsset = false)
    (hbefore : ∀ j (hj : j < i), (toPing[j]).ipIsset ∧ (toPing[j]).publicKey ≠ node.publicKey)
    (hnode : node.ipIsset) : PendingShape (toPing.set i node) := by
  -- what lies before the entry is set, and nothing behind it is
  have hsplit : toPing = toPing.take i ++ toPing[i] :: toPing.drop (i + 1) := by
    rw [cons_getElem_drop_succ, take_append_drop]
  have htake : ∀ other ∈ toPing.take i, other.ipIsset ∧ other.publicKey ≠ node.publicKey := by
    intro other hother
    obtain ⟨j, hj, rfl⟩ := mem_take_iff_getElem.mp hother
    exact hbefore j (Nat.lt_of_lt_of_le hj (Nat.min_le_left _ _))
  have hdrop : ∀ other ∈ toPing.drop (i + 1), ¬other.ipIsset := by
    intro other hother hset
    have hinitial := h.initial
    rw [hsplit] at hinitial
    have hfirst := (pairwise_cons.mp (pairwise_append.mp hinitial).2.1).1 other hother hset
    rw [hfree] at hfirst
    cases hfirst
  have hafter : (toPing.drop (i + 1)).filter (·.ipIsset) = [] :=
    filter_eq_nil_iff.mpr fun other hother => hdrop other hother
  have hset : toPing.set i node = toPing.take i ++ node :: toPing.drop (i + 1) := by
    rw [set_eq_take_append_cons_drop, if_pos hi]
  constructor
  · rw [hset]
    refine pairwise_append.mpr ⟨?_, pairwise_cons.mpr ⟨fun _ _ _ => hnode, ?_⟩, ?_⟩
    · exact h.initial.sublist (take_sublist i toPing)
    · exact h.initial.sublist (drop_sublist (i + 1) toPing)
    · exact fun other hother _ _ _ => (htake other hother).1
  · have hkeys := h.distinct
    have hold : toPing.filter (·.ipIsset) = (toPing.take i).filter (·.ipIsset) := by
      conv => lhs; rw [hsplit]
      rw [filter_append, filter_cons_of_neg (by simp [hfree]), hafter, append_nil]
    rw [pendingKeys, hold] at hkeys
    rw [pendingKeys, hset, filter_append, filter_cons_of_pos hnode, hafter, nodeKeys, map_append]
    refine nodup_append.mpr ⟨hkeys, nodup_singleton _, fun a ha b hb => ?_⟩
    obtain ⟨other, hother, rfl⟩ := mem_map.mp ha
    rw [mem_singleton.mp hb]
    exact (htake other (mem_filter.mp hother).1).2

theorem pendingShape_addToList {toPing : List NodeFormat} (h : PendingShape toPing)
    (hfull : ∀ other ∈ toPing, other.ipIsset ∧ other.publicKey ≠ node.publicKey) (hnode : node.ipIsset)
    (cmpPk : PublicKey) : PendingShape (addToList toPing node cmpPk).2 := by
  have hset : ∀ other ∈ (addToList toPing node cmpPk).2, other.ipIsset := by
    intro other hother
    cases mem_addToListLoop hother with
    | inl hold => exact (hfull other hold).1
    | inr heq => exact heq ▸ hnode
  have hall : ∀ {nodes : List NodeFormat}, (∀ other ∈ nodes, other.ipIsset) → pendingKeys nodes = nodeKeys nodes := by
    intro nodes hnodes
    rw [pendingKeys, filter_eq_self.mpr hnodes]
  obtain ⟨z, hperm, -⟩ := addToList_spec toPing node cmpPk
  constructor
  · exact pairwise_of_forall_mem_list fun a ha _ _ _ => hset a ha
  · rw [hall hset]
    have hdistinct := h.distinct
    rw [hall fun other hother => (hfull other hother).1] at hdistinct
    refine (nodup_cons.mp (hperm.nodup_iff.mpr (nodup_cons.mpr ⟨fun hmem => ?_, hdistinct⟩))).2
    obtain ⟨other, hother, hkey⟩ := mem_map.mp hmem
    exact (hfull other hother).2 hkey

theorem storeToPing_shape (h : PendingShape ping.toPing) (hnode : node.ipIsset) (dht : DHT) :
    PendingShape (ping.storeToPing dht node).2.toPing := by
  rw [storeToPing]
  cases hindex : ping.addIndex node.publicKey with
  | some i =>
    obtain ⟨hi, hfound, hbefore⟩ := addIndex_eq_some hindex
    dsimp only
    rw [getElem?_eq_getElem hi]
    split
    · -- the key is there already
      exact h
    · rename_i hunset
      exact pendingShape_set h hi (Bool.eq_false_iff.mpr hunset) hbefore hnode
  | none =>
    refine pendingShape_addToList h (fun other hother => ?_) hnode dht.selfPublicKey
    have hnot := findIdx?_eq_none_iff.mp hindex other hother
    rwa [Bool.or_eq_false_iff, Bool.not_eq_false', beq_eq_false_iff_ne] at hnot

theorem pingAdd_shape (h : PendingShape ping.toPing) (dht : DHT) (node : NodeFormat) :
    PendingShape (ping.pingAdd box env dht node).2.1.toPing := by
  rw [pingAdd]
  split
  · exact h
  · rename_i hset
    rw [Bool.not_eq_true', Bool.not_eq_false] at hset
    split
    · exact h
    · split
      · exact h
      · split
        · rw [(pingSendRequest_spec box env ping dht node).2.1]
          exact h
        · exact storeToPing_shape h hset dht

/-! ## Runs -/

/-- A call, with the `DHT` as it is then. -/
inductive PingInput where
  | add (env : DhtEnv) (dht : DHT) (node : NodeFormat)
  | iterate (env : DhtEnv) (dht : DHT)

def step (box : CryptoBox) (ping : Ping) : PingInput → Ping
  | .add env dht node => (ping.pingAdd box env dht node).2.1
  | .iterate env dht => (ping.pingIterate box env dht).1

def AllSteps (box : CryptoBox) (P : Ping → PingInput → Prop) : Ping → List PingInput → Prop
  | _, [] => True
  | ping, input :: inputs => P ping input ∧ AllSteps box P (ping.step box input) inputs

/-- An iteration visits every pending node; those that can still be added are pinged and removed. -/
structure Serves (addable : NodeFormat → Bool) (ping ping' : Ping) : Prop where
  visits : visitedNodes ping.toPing = ping.toPing.filter (·.ipIsset)
  pings : ∀ node ∈ ping.toPing, node.ipIsset → addable node → node ∈ ping'.requests.drop ping.requests.length
  removes : ∀ node ∈ ping.toPing, node.ipIsset → addable node → node.publicKey ∉ pendingKeys ping'.toPing

def GoodStep (box : CryptoBox) (ping : Ping) (input : PingInput) : Prop :=
  PendingShape (ping.step box input).toPing ∧
    match input with
    | .add _ _ _ => True
    | .iterate env dht => ping.Effective env.now →
        Serves (dht.nodeAddableToCloseList box env) ping (ping.step box input)

/-- An iteration that does something finds no node that can be added before one that cannot. -/
def NoGap (box : CryptoBox) (ping : Ping) : PingInput → Prop
  | .add _ _ _ => True
  | .iterate env dht => ping.Effective env.now → AddableLast (dht.nodeAddableToCloseList box env) ping.toPing

theorem serves_pingIterate (h : PendingShape ping.toPing) (heffective : ping.Effective env.now) :
    Serves (dht.nodeAddableToCloseList box env) ping (ping.pingIterate box env dht).1 := by
  obtain ⟨htoPing, hrequests⟩ := pingIterate_spec box dht heffective
  have hvisited := visitedNodes_eq h.initial
  refine ⟨hvisited, fun node hnode hset hadd => ?_, fun node hnode hset hadd hmem => ?_⟩
  · rw [hrequests, drop_left, hvisited]
    exact mem_filter.mpr ⟨mem_filter.mpr ⟨hnode, hset⟩, hadd⟩
  · rw [htoPing, pendingKeys, filter_iterated h.initial] at hmem
    obtain ⟨other, hother, hkey⟩ := mem_map.mp hmem
    obtain ⟨hpending, hnot⟩ := mem_filter.mp hother
    -- the keys are different, so that it is the same node
    have hsame := inj_on_of_nodup_map h.distinct hpending (mem_filter.mpr ⟨hnode, hset⟩) hkey
    rw [hsame, hadd] at hnot
    cases hnot

theorem goodStep_iff (h : PendingShape ping.toPing) (input : PingInput) :
    GoodStep box ping input ↔ NoGap box ping input := by
  cases input with
  | add env dht node => exact ⟨fun _ => trivial, fun _ => ⟨pingAdd_shape h dht node, trivial⟩⟩
  | iterate env dht =>
    by_cases heffective : ping.Effective env.now
    · have htoPing := (pingIterate_spec box dht heffective).1
      have hiff := pendingShape_iterated_iff (dht.nodeAddableToCloseList box env) h
      rw [← htoPing] at hiff
      exact ⟨fun hgood _ => hiff.mp hgood.1, fun hlast =>
        ⟨hiff.mpr (hlast heffective), fun _ => serves_pingIterate h heffective⟩⟩
    · -- an iteration that comes too early does nothing
      have hstep : ping.step box (.iterate env dht) = ping := by
        rw [step, pingIterate, if_pos heffective]
      refine ⟨fun _ heffective' => absurd heffective' heffective, fun _ => ⟨?_, fun heffective' =>
        absurd heffective' heffective⟩⟩
      rw [hstep]
      exact h

theorem pendingShape_pingNew (h : pingNew = some ping) : PendingShape ping.toPing := by
  cases h.symm
  have hunset : ∀ node ∈ List.replicate maxToPing emptyNodeFormat, ¬node.ipIsset := by
    intro node hnode
    rw [eq_of_mem_replicate hnode]
    decide
  constructor
  · exact pairwise_of_forall_mem_list fun _ _ node hnode hset => absurd hset (hunset node hnode)
  · show (nodeKeys ((List.replicate maxToPing emptyNodeFormat).filter (·.ipIsset))).Nodup
    exact nodup_nil

/-- After each call the pending nodes are a prefix with different keys, and an iteration visits all, exactly if it
    finds no node that can be added before one that cannot. -/
theorem allGood_iff (box : CryptoBox) (hnew : pingNew = some ping) (inputs : List PingInput) :
    AllSteps box (GoodStep box) ping inputs ↔ AllSteps box (NoGap box) ping inputs := by
  have hrun : ∀ (inputs : List PingInput) (ping : Ping), PendingShape ping.toPing →
      (AllSteps box (GoodStep box) ping inputs ↔ AllSteps box (NoGap box) ping inputs) := by
    intro inputs
    induction inputs with
    | nil => exact fun _ _ => Iff.rfl
    | cons input inputs ih =>
      intro ping hshape
      constructor
      · intro hall
        exact ⟨(goodStep_iff hshape input).mp hall.1, (ih _ hall.1.1).mp hall.2⟩
      · intro hall
        have hgood := (goodStep_iff hshape input).mpr hall.1
        exact ⟨hgood, (ih _ hgood.1).mpr hall.2⟩
  exact hrun inputs ping (pendingShape_pingNew hnew)

/-! ## A gap -/

def farNode : NodeFormat := { publicKey := key 0x81, ipPort := address4 }

def nearNode : NodeFormat := { publicKey := key 0x41, ipPort := address4 }

/-- A `DHT` without nodes, and one where the second bucket is full. -/
def emptyBuckets : DHT := dhtWith (List.replicate lclientList emptyClientData) []

def fullBucket : DHT :=
  dhtWith (List.replicate lclientNodes emptyClientData ++
    [0x42, 0x43, 0x44, 0x45, 0x46, 0x47, 0x48, 0x49].map (clientSeen · 1000) ++
    List.replicate (lclientList - 2 * lclientNodes) emptyClientData) []

/-- Two nodes are announced, and the bucket of the second one is full when they are to be pinged. -/
def gapInputs : List PingInput :=
  [.add (.good 1000) emptyBuckets farNode, .add (.good 1000) emptyBuckets nearNode,
    .iterate (.good 1002) fullBucket]

def bothPinged : List PingInput :=
  [.add (.good 1000) emptyBuckets farNode, .add (.good 1000) emptyBuckets nearNode,
    .iterate (.good 1002) emptyBuckets]

theorem allGood_iff_bothPinged : ∃ ping, pingNew = some ping ∧
    (AllSteps xorBox (GoodStep xorBox) ping bothPinged ↔ AllSteps xorBox (NoGap xorBox) ping bothPinged) ∧
    AllSteps xorBox (NoGap xorBox) ping bothPinged := by
  have hnew : pingNew = some _ := rfl
  exact ⟨_, hnew, allGood_iff xorBox hnew bothPinged, trivial, trivial, fun _ => by decide +kernel, trivial⟩

/-- The first entry is reset, and the second node stays behind it. -/
theorem not_allGood_gap : ¬∀ (box : CryptoBox) (ping : Ping) (inputs : List PingInput),
    pingNew = some ping → AllSteps box (GoodStep box) ping inputs := by
  intro hall
  have hnew : pingNew = some _ := rfl
  obtain ⟨-, -, ⟨hshape, -⟩, -⟩ := hall xorBox _ gapInputs hnew
  revert hshape
  decide +kernel

end Ping

end Toxcore

import Toxcore.ForStd.StepRun
import Toxcore.Native.OnionPaths
import Mathlib.Tactic.IntervalCases

/-!
# The numbers of paths

A path at index `i` has a number that is `i` modulo the number of paths, and not the mark for any path; so the
number in a sendback or a node leads back to the path while it is there, and to no other. But the addition of
the index wraps around for the last four random numbers, and a number may be drawn twice.
-/

namespace Toxcore

/-! ## Runs -/

/-- A path that was handed out: a path is known by the number of the call that created it. -/
structure SentPath where
  table : PathTable
  id : Nat
  pathNum : UInt32

structure PathRun where
  tables : PathTable → OnionClientPaths
  /-- The path that was created last at an index. -/
  created : PathTable → Fin numberOnionPaths → Option Nat
  count : Nat
  sent : List SentPath

inductive PathOp where
  /-- `random_path` in `client_send_announce_request` -/
  | send (env : PathEnv) (numFriends : UInt16) (num pathNum : UInt32)
  | timeouts (now : UInt64) (numFriends : UInt16) (num pathNum : UInt32)

section runs

variable (box : CryptoBox) (dhtKeys : KeyPair)

/-- The path at this index is handed out. -/
def PathRun.record (run : PathRun) (table : PathTable) (i : Fin numberOnionPaths) : PathRun :=
  match run.created table i with
  | none => run
  | some id => { run with sent := run.sent ++ [{ table, id, pathNum := (run.tables table i).pathNum }] }

def PathRun.create (run : PathRun) (table : PathTable) (i : Fin numberOnionPaths) : PathRun :=
  { run with
    created := Function.update run.created table (Function.update (run.created table) i (some run.count))
    count := run.count + 1 }

def PathRun.randomPath (run : PathRun) (env : PathEnv) (table : PathTable) (pathNum : UInt32) : PathRun :=
  let after :=
    { run with
      tables := Function.update run.tables table (Toxcore.randomPath box dhtKeys env (run.tables table) pathNum).2 }
  match choosePath env (run.tables table) pathNum with
  | none => run
  | some (i, none) => after.record table i
  | some (i, some _) => (after.create table i).record table i

def PathRun.step (run : PathRun) : PathOp → PathRun
  | .send env numFriends num pathNum =>
    if num.toNat > numFriends.toNat then run else run.randomPath box dhtKeys env (pathTable num) pathNum
  | .timeouts now numFriends num pathNum =>
    { run with tables := (setPathTimeouts now numFriends run.tables num pathNum).2 }

/-- The tables of a new client, whose memory for a path is `path`. -/
def newPathRun (path : OnionPath) : PathRun where
  tables _ _ :=
    { path, pathNum := 0, lastPathSuccess := 0, lastPathUsed := 0, pathCreationTime := 0, lastPathUsedTimes := 0 }
  created _ _ := none
  count := 0
  sent := []

/-- A number stands for the path at an index. -/
structure RefersTo (tables : PathTable → OnionClientPaths) (table : PathTable) (pathNum : UInt32)
    (i : Fin numberOnionPaths) : Prop where
  credits : ∀ now (numFriends : UInt16) num, pathTable num = table → num.toNat ≤ numFriends.toNat →
    setPathTimeouts now numFriends tables num pathNum =
      (pathNum, Function.update tables table (creditPath now (tables table) i))
  alive : ∀ now, pathExists now (tables table) pathNum = !pathTimedOut now (tables table) i
  sends : ∀ env, pathTimedOut env.now (tables table) i = false →
    choosePath env (tables table) pathNum = some (i, none)

/-- A number stands for no path. -/
structure RefersToNone (tables : PathTable → OnionClientPaths) (table : PathTable) (pathNum : UInt32) : Prop where
  credits : ∀ now (numFriends : UInt16) num, pathTable num = table →
    setPathTimeouts now numFriends tables num pathNum = (anyPathNum, tables)
  gone : ∀ now, pathExists now (tables table) pathNum = false

/-- What path numbers are for. -/
structure PathRun.Right (run : PathRun) : Prop where
  number : ∀ table i id, run.created table i = some id →
    (run.tables table i).pathNum.toNat % numberOnionPaths = i ∧ (run.tables table i).pathNum ≠ anyPathNum
  refers : ∀ sent ∈ run.sent, ∀ i, run.created sent.table i = some sent.id →
    RefersTo run.tables sent.table sent.pathNum i
  gone : ∀ sent ∈ run.sent, (∀ i, run.created sent.table i ≠ some sent.id) →
    RefersToNone run.tables sent.table sent.pathNum
  none : ∀ table, RefersToNone run.tables table anyPathNum

/-- The number of a new path does not wrap around, and was not handed out before for its table. -/
def PathRun.Careful (run : PathRun) : PathOp → Prop
  | .send env numFriends num pathNum => num.toNat ≤ numFriends.toNat → ∀ i nodes,
      choosePath env (run.tables (pathTable num)) pathNum = some (i, some nodes) →
      (i.val < 3 ∨ env.random < 4294967292) ∧
        ∀ sent ∈ run.sent, sent.table = pathTable num → sent.pathNum ≠ newPathNum env.random i
  | .timeouts _ _ _ _ => True

/-! ## Numbers -/

theorem toNat_newPathNum (random : UInt32) (i : Fin numberOnionPaths) :
    (newPathNum random i).toNat = (random.toNat / 6 * 6 + i.val) % 4294967296 := by
  have hi : i.val < 6 := i.isLt
  have hindex : (UInt32.ofNat i.val).toNat = i.val := UInt32.toNat_ofNat_of_lt' (Nat.lt_trans hi (by decide))
  unfold newPathNum
  rw [UInt32.toNat_add, hindex]
  show ((random.toNat / 6 * 6) % 4294967296 + i.val) % 4294967296 = _
  omega

/-- Exactly when the number of a new path fits its index. -/
theorem newPathNum_right_iff (random : UInt32) (i : Fin numberOnionPaths) :
    ((newPathNum random i).toNat % numberOnionPaths = i ∧ newPathNum random i ≠ anyPathNum) ↔
      i.val < 3 ∨ random < 4294967292 := by
  obtain ⟨i, hi⟩ := i
  have hrandom := random.toNat_lt
  have hmark : anyPathNum.toNat = 4294967295 := rfl
  have hlast : (4294967292 : UInt32).toNat = 4294967292 := rfl
  rw [UInt32.lt_iff_toNat_lt, ne_eq, ← UInt32.toNat_inj, toNat_newPathNum, hmark, hlast]
  simp only [numberOnionPaths] at hi ⊢
  rcases Nat.lt_or_ge random.toNat 4294967292 with hlt | hge
  · rw [Nat.mod_eq_of_lt (by omega : random.toNat / 6 * 6 + i < 4294967296)]
    omega
  · -- the last four numbers, where indices from 3 on wrap around
    have hbase : random.toNat / 6 * 6 = 4294967292 := by omega
    simp only [hbase, Nat.not_lt.mpr hge]
    interval_cases i <;> simp

/-! ## The invariant -/

structure PathRun.Inv (run : PathRun) : Prop where
  empty : ∀ table i, run.created table i = none → (run.tables table i).pathNum = 0
  number : ∀ table i id, run.created table i = some id →
    (run.tables table i).pathNum.toNat % numberOnionPaths = i ∧ (run.tables table i).pathNum ≠ anyPathNum
  bound : ∀ table i id, run.created table i = some id → id < run.count
  unique : ∀ table i j id, run.created table i = some id → run.created table j = some id → i = j
  sent : ∀ sent ∈ run.sent, sent.id < run.count ∧ sent.pathNum ≠ anyPathNum ∧
    run.created sent.table (pathIndex sent.pathNum) ≠ none ∧
    ∀ i, run.created sent.table i = some sent.id ↔
      i = pathIndex sent.pathNum ∧ (run.tables sent.table i).pathNum = sent.pathNum

variable {run : PathRun} {tables : PathTable → OnionClientPaths} {table : PathTable} {i : Fin numberOnionPaths}

theorem pathIndex_eq_of_mod {pathNum : UInt32} (h : pathNum.toNat % numberOnionPaths = i) : pathIndex pathNum = i :=
  Fin.ext h

theorem refersTo_pathIndex {pathNum : UInt32} (hnum : (tables table (pathIndex pathNum)).pathNum = pathNum)
    (hne : pathNum ≠ anyPathNum) : RefersTo tables table pathNum (pathIndex pathNum) where
  credits now numFriends num htable hfriends := by
    subst htable
    simp [setPathTimeouts, hnum, Nat.not_lt.mpr hfriends]
  alive now := by
    unfold pathExists
    cases pathTimedOut now (tables table) (pathIndex pathNum) <;> simp [hnum]
  sends env halive := by
    simp [choosePath, hne, halive]

theorem refersToNone_of_ne {pathNum : UInt32} (hne : (tables table (pathIndex pathNum)).pathNum ≠ pathNum) :
    RefersToNone tables table pathNum where
  credits now numFriends num htable := by
    subst htable
    simp [setPathTimeouts, hne]
  gone now := by
    simp [pathExists, hne]

theorem PathRun.Inv.right (h : run.Inv) : run.Right where
  number := h.number
  refers sent hsent i hi := by
    obtain ⟨-, hne, -, hiff⟩ := h.sent sent hsent
    obtain ⟨rfl, hnum⟩ := (hiff i).mp hi
    exact refersTo_pathIndex hnum hne
  gone sent hsent hgone := by
    obtain ⟨-, -, -, hiff⟩ := h.sent sent hsent
    apply refersToNone_of_ne
    exact fun hnum => hgone _ ((hiff _).mpr ⟨rfl, hnum⟩)
  none table := by
    apply refersToNone_of_ne
    cases hid : run.created table (pathIndex anyPathNum) with
    | none =>
      rw [h.empty _ _ hid]
      decide
    | some id => exact (h.number _ _ id hid).2

/-! ## Steps -/

theorem inv_newPathRun (path : OnionPath) : (newPathRun path).Inv where
  empty _ _ _ := rfl
  number _ _ _ h := nomatch h
  bound _ _ _ h := nomatch h
  unique _ _ _ _ h := nomatch h
  sent _ h := nomatch h

/-- What does not change a number keeps the invariant. -/
theorem PathRun.Inv.withTables (h : run.Inv)
    (hsame : ∀ table i, (tables table i).pathNum = (run.tables table i).pathNum) :
    { run with tables }.Inv where
  empty table i hi := (hsame table i).trans (h.empty table i hi)
  number table i id hi := by
    simp only [hsame]
    exact h.number table i id hi
  bound := h.bound
  unique := h.unique
  sent sent hsent := by
    simp only [hsame]
    exact h.sent sent hsent

theorem PathRun.Inv.record (h : run.Inv) (table : PathTable) (i : Fin numberOnionPaths) :
    (run.record table i).Inv := by
  unfold PathRun.record
  cases hid : run.created table i with
  | none => exact h
  | some id =>
    obtain ⟨hmod, hne⟩ := h.number table i id hid
    have hindex := pathIndex_eq_of_mod hmod
    refine { h with sent := fun sent hsent => ?_ }
    rcases List.mem_append.mp hsent with hold | hnew
    · exact h.sent sent hold
    · obtain rfl := List.mem_singleton.mp hnew
      simp only [hindex]
      refine ⟨h.bound table i id hid, hne, by simp [hid], fun j => ?_⟩
      constructor
      · intro hj
        obtain rfl := h.unique table i j id hid hj
        exact ⟨rfl, rfl⟩
      · rintro ⟨rfl, -⟩
        exact hid

/-- A new path keeps the invariant, where its number fits the index and was not handed out before. -/
theorem PathRun.Inv.create (h : run.Inv)
    (hother : ∀ t j, ¬(t = table ∧ j = i) → (tables t j).pathNum = (run.tables t j).pathNum)
    (hright : (tables table i).pathNum.toNat % numberOnionPaths = i ∧ (tables table i).pathNum ≠ anyPathNum)
    (hfresh : ∀ sent ∈ run.sent, sent.table = table → sent.pathNum ≠ (tables table i).pathNum) :
    ({ run with tables }.create table i).Inv := by
  have hcreated : ∀ t j, (({ run with tables } : PathRun).create table i).created t j =
      if t = table ∧ j = i then some run.count else run.created t j := by
    intro t j
    show Function.update run.created table _ t j = _
    by_cases ht : t = table
    · subst ht
      by_cases hj : j = i <;> simp [hj]
    · simp [ht]
  have hbound := h.bound
  refine ⟨?_, ?_, ?_, ?_, ?_⟩
  · intro t j hj
    rw [hcreated] at hj
    split_ifs at hj with hnew
    exact (hother t j hnew).trans (h.empty t j hj)
  · intro t j id hj
    rw [hcreated] at hj
    split_ifs at hj with hnew
    · obtain ⟨rfl, rfl⟩ := hnew
      exact hright
    · show (tables t j).pathNum.toNat % _ = _ ∧ (tables t j).pathNum ≠ _
      rw [hother t j hnew]
      exact h.number t j id hj
  · intro t j id hj
    show id < run.count + 1
    rw [hcreated] at hj
    split_ifs at hj with hnew
    · simp at hj
      omega
    · have := hbound t j id hj
      omega
  · intro t j k id hj hk
    rw [hcreated] at hj hk
    split_ifs at hj hk with hnew hnew' hnew'
    · exact hnew.2.trans hnew'.2.symm
    · have := hbound t k id hk
      simp at hj
      omega
    · have := hbound t j id hj
      simp at hk
      omega
    · exact h.unique t j k id hj hk
  · intro sent hsent
    obtain ⟨hid, hne, hsome, hiff⟩ := h.sent sent hsent
    refine ⟨Nat.lt_succ_of_lt hid, hne, ?_, fun j => ?_⟩
    · rw [hcreated]
      split_ifs
      · simp
      · exact hsome
    · rw [hcreated]
      show _ ↔ _ ∧ (tables sent.table j).pathNum = _
      by_cases hnew : sent.table = table ∧ j = i
      · obtain ⟨rfl, rfl⟩ := hnew
        have hlt : run.count ≠ sent.id := by omega
        have hold := hfresh sent hsent rfl
        simp [hlt, hold.symm]
      · rw [if_neg hnew, hother _ _ hnew]
        exact hiff j

theorem pathNum_randomPath_old {env : PathEnv} {paths : OnionClientPaths} {pathNum : UInt32}
    (h : choosePath env paths pathNum = some (i, none)) (j : Fin numberOnionPaths) :
    ((randomPath box dhtKeys env paths pathNum).2 j).pathNum = (paths j).pathNum := by
  simp only [randomPath, h]
  by_cases hj : j = i
  · subst hj
    simp [usePath]
  · simp [hj]

theorem pathNum_randomPath_new {env : PathEnv} {paths : OnionClientPaths} {pathNum : UInt32} {nodes : PathNodes}
    (h : choosePath env paths pathNum = some (i, some nodes)) (j : Fin numberOnionPaths) :
    ((randomPath box dhtKeys env paths pathNum).2 j).pathNum =
      if j = i then newPathNum env.random i else (paths j).pathNum := by
  simp only [randomPath, h]
  by_cases hj : j = i
  · subst hj
    simp [usePath, createPath]
  · simp [hj]

theorem pathNum_setPathTimeouts (now : UInt64) (numFriends : UInt16) (tables : PathTable → OnionClientPaths)
    (num pathNum : UInt32) (t : PathTable) (j : Fin numberOnionPaths) :
    ((setPathTimeouts now numFriends tables num pathNum).2 t j).pathNum = (tables t j).pathNum := by
  simp only [setPathTimeouts]
  split
  · rfl
  · split
    · by_cases ht : t = pathTable num
      · subst ht
        by_cases hj : j = pathIndex pathNum
        · subst hj
          simp [creditPath]
        · simp [creditPath, hj]
      · simp [ht]
    · rfl

/-- The numbers after a path was created, at its index and elsewhere. -/
theorem pathNum_update_randomPath {env : PathEnv} {pathNum : UInt32} {nodes : PathNodes}
    (h : choosePath env (run.tables table) pathNum = some (i, some nodes)) (t : PathTable) (j : Fin numberOnionPaths) :
    (Function.update run.tables table (randomPath box dhtKeys env (run.tables table) pathNum).2 t j).pathNum =
      if t = table ∧ j = i then newPathNum env.random i else (run.tables t j).pathNum := by
  by_cases ht : t = table
  · subst ht
    simp [pathNum_randomPath_new box dhtKeys h]
  · simp [ht]

theorem PathRun.Inv.randomPath (h : run.Inv) {env : PathEnv} {pathNum : UInt32}
    (hcareful : ∀ i nodes, choosePath env (run.tables table) pathNum = some (i, some nodes) →
      (i.val < 3 ∨ env.random < 4294967292) ∧
        ∀ sent ∈ run.sent, sent.table = table → sent.pathNum ≠ newPathNum env.random i) :
    (run.randomPath box dhtKeys env table pathNum).Inv := by
  unfold PathRun.randomPath
  cases hchoose : choosePath env (run.tables table) pathNum with
  | none => exact h
  | some choice =>
    obtain ⟨i, _ | nodes⟩ := choice
    · apply Inv.record
      apply h.withTables
      intro t j
      by_cases ht : t = table
      · subst ht
        simp [pathNum_randomPath_old box dhtKeys hchoose]
      · simp [ht]
    · obtain ⟨hfits, hfresh⟩ := hcareful i nodes hchoose
      have hnum := pathNum_update_randomPath box dhtKeys hchoose
      have hnew := hnum table i
      rw [if_pos ⟨rfl, rfl⟩] at hnew
      apply Inv.record
      apply h.create
      · intro t j hother
        rw [hnum, if_neg hother]
      · rw [hnew]
        exact (newPathNum_right_iff _ i).mpr hfits
      · rw [hnew]
        exact hfresh

/-- A new path whose number wraps around or was handed out before breaks what numbers are for. -/
theorem PathRun.Inv.fits_of_right (h : run.Inv) {env : PathEnv} {numFriends : UInt16} {num pathNum : UInt32}
    {nodes : PathNodes} (hfriends : num.toNat ≤ numFriends.toNat)
    (hchoose : choosePath env (run.tables (pathTable num)) pathNum = some (i, some nodes))
    (hright : (run.randomPath box dhtKeys env (pathTable num) pathNum).Right) :
    (i.val < 3 ∨ env.random < 4294967292) ∧
      ∀ sent ∈ run.sent, sent.table = pathTable num → sent.pathNum ≠ newPathNum env.random i := by
  have hnew := pathNum_update_randomPath box dhtKeys hchoose (pathTable num) i
  rw [if_pos ⟨rfl, rfl⟩] at hnew
  have hcreated : ∀ j, Function.update run.created (pathTable num)
      (Function.update (run.created (pathTable num)) i (some run.count)) (pathTable num) j =
      if j = i then some run.count else run.created (pathTable num) j := by
    intro j
    by_cases hj : j = i <;> simp [hj]
  have hself := hcreated i
  rw [if_pos rfl] at hself
  simp only [PathRun.randomPath, hchoose, PathRun.record, PathRun.create, hself] at hright
  have hnumber := hright.number (pathTable num) i run.count hself
  simp only [hnew] at hnumber
  refine ⟨(newPathNum_right_iff _ i).mp hnumber, fun sent hsent htable heq => ?_⟩
  obtain ⟨hid, hne, -, hiff⟩ := h.sent sent hsent
  have hindex : pathIndex sent.pathNum = i := by
    rw [heq]
    exact pathIndex_eq_of_mod hnumber.1
  -- the path of the old number is gone, but the number stands for the new path
  have hgone : ∀ j, Function.update run.created (pathTable num)
      (Function.update (run.created (pathTable num)) i (some run.count)) sent.table j ≠ some sent.id := by
    intro j hj
    rw [htable, hcreated] at hj
    split_ifs at hj with hji
    · exact absurd (Option.some.inj hj) (by omega)
    · rw [← htable] at hj
      exact hji (((hiff j).mp hj).1.trans hindex)
  have hcredits := congrArg Prod.fst
    ((hright.gone sent (List.mem_append_left _ hsent) hgone).credits 0 numFriends num htable.symm)
  rw [← heq, ← hindex] at hnew
  rw [setPathTimeouts, if_neg (Nat.not_lt.mpr hfriends), if_pos hnew] at hcredits
  exact hne hcredits

theorem PathRun.Inv.step (h : run.Inv) (op : PathOp) (hcareful : run.Careful op) :
    (run.step box dhtKeys op).Inv := by
  cases op with
  | timeouts now numFriends num pathNum => exact h.withTables (pathNum_setPathTimeouts now numFriends _ num pathNum)
  | send env numFriends num pathNum =>
    by_cases hfriends : num.toNat > numFriends.toNat
    · simp only [PathRun.step, if_pos hfriends]
      exact h
    · simp only [PathRun.step, if_neg hfriends]
      exact h.randomPath box dhtKeys (hcareful (Nat.not_lt.mp hfriends))

theorem PathRun.Inv.careful_of_right (h : run.Inv) (op : PathOp) (hright : (run.step box dhtKeys op).Right) :
    run.Careful op := by
  cases op with
  | timeouts now numFriends num pathNum => trivial
  | send env numFriends num pathNum =>
    intro hfriends i nodes hchoose
    simp only [PathRun.step, if_neg (Nat.not_lt.mpr hfriends)] at hright
    exact h.fits_of_right box dhtKeys hfriends hchoose hright

/-- Path numbers do what they are for throughout a run, exactly if the numbers of its new paths are right. -/
theorem pathNumbers_right_iff (path : OnionPath) (ops : List PathOp) :
    StepRun.AllStates (PathRun.step box dhtKeys) PathRun.Right (newPathRun path) ops ↔
      StepRun.AllSteps (PathRun.step box dhtKeys) PathRun.Careful (newPathRun path) ops :=
  StepRun.allStates_iff (fun _ h => h.right) (fun _ op h (_ : True) hcareful => h.step box dhtKeys op hcareful)
    (fun _ op h (_ : True) hcareful hright => hcareful (h.careful_of_right box dhtKeys op hright)) ops
    (fun _ _ => trivial)
    (inv_newPathRun path)

end runs

/-- The random number `UINT32_MAX` for the path at index 3. -/
theorem not_pathNumbers_right_wrapped : ∃ (path : OnionPath) (ops : List PathOp),
    ¬StepRun.AllStates (PathRun.step xorBox ⟨key 0, key 0⟩) PathRun.Right (newPathRun path) ops := by
  let node : NodeFormat := { publicKey := key 1, ipPort := emptyIpPort }
  let env : PathEnv :=
    { now := 5000, randomRange := ⟨3, by decide⟩, nodes := some ⟨node, node, node⟩
      keyPair2 := ⟨key 2, key 2⟩, keyPair3 := ⟨key 3, key 3⟩, random := 4294967295 }
  refine ⟨⟨key 0, key 0, key 0, key 0, key 0, key 0, emptyIpPort, key 0, emptyIpPort, key 0, emptyIpPort, key 0⟩,
    [.send env 0 0 anyPathNum], fun h => ?_⟩
  exact (h.2.1.number .self ⟨3, by decide⟩ 0 (by decide)).2 (by decide)

end Toxcore

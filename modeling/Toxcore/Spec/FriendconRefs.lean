import Mathlib.Tactic.Common
import Toxcore.ForStd.List
import Toxcore.Native.FriendConnection

/-!
# Users of the friend connections

A friend connection has as many users as its lock count says, and one more.  With the list of
all users, one entry for each use, `Held` says that the counts are right; then a connection
exists as long as it has a user, and its key does not change.
-/

namespace Toxcore.FriendConnections

open List

variable {frC frC' : FriendConnections} {holders : List Nat}

def refs (frC : FriendConnections) (id : Nat) : Nat :=
  match frC.getConn id with
  | none => 0
  | some friendCon => friendCon.lockCount + 1

/-- `holders` are the users of the friend connections. -/
structure Held (holders : List Nat) (frC : FriendConnections) : Prop where
  /-- A slot that is not in use has no locks. -/
  blank : ∀ friendCon ∈ frC.conns, friendCon.status = .none → friendCon.lockCount = 0
  /-- No two connections have the same key. -/
  keys : ∀ i j pk, frC.getFriendconPublicKeys i = some pk → frC.getFriendconPublicKeys j = some pk → i = j
  refs : ∀ id, frC.refs id = holders.count id

variable {id : Nat} {friendCon : FriendConn}

theorem getConn_eq_some_iff :
    frC.getConn id = some friendCon ↔ frC.conns[id]? = some friendCon ∧ friendCon.status ≠ .none := by
  unfold getConn
  cases frC.conns[id]? with
  | none => simp
  | some c =>
    by_cases hc : c.status = .none
    · simp only [hc]
      constructor
      · simp
      · rintro ⟨heq, hstatus⟩
        cases heq
        exact absurd hc hstatus
    · simp only [hc, if_false, Option.some.injEq]
      exact ⟨fun heq => ⟨heq, heq ▸ hc⟩, And.left⟩

theorem Held.perm {holders' : List Nat} (h : Held holders frC) (hperm : holders.Perm holders') :
    Held holders' frC :=
  ⟨h.blank, h.keys, fun id => (h.refs id).trans (hperm.count_eq id)⟩

theorem Held.getConn_of_mem (h : Held holders frC) (hmem : id ∈ holders) :
    ∃ friendCon, frC.getConn id = some friendCon := by
  have hrefs := h.refs id
  have hpos := count_pos_iff.mpr hmem
  unfold FriendConnections.refs at hrefs
  cases hconn : frC.getConn id with
  | none =>
    rw [hconn] at hrefs
    simp only at hrefs
    omega
  | some friendCon => exact ⟨friendCon, rfl⟩

theorem Held.key_of_mem (h : Held holders frC) (hmem : id ∈ holders) :
    ∃ pk, frC.getFriendconPublicKeys id = some pk := by
  obtain ⟨friendCon, hconn⟩ := h.getConn_of_mem hmem
  exact ⟨friendCon.realPublicKey, by rw [getFriendconPublicKeys, hconn, Option.map_some]⟩

/-! ## The functions -/

variable {old : FriendConn}

theorem getConn_set (hold : frC.getConn id = some old) (hstatus : friendCon.status ≠ .none) (j : Nat) :
    ({ conns := frC.conns.set id friendCon } : FriendConnections).getConn j =
      if j = id then some friendCon else frC.getConn j := by
  obtain ⟨hid, -⟩ := getConn_eq_some_iff.mp hold
  obtain ⟨hlt, -⟩ := List.getElem?_eq_some_iff.mp hid
  unfold getConn
  rw [getElem?_set]
  by_cases hj : j = id
  · subst hj
    rw [if_pos rfl, if_pos hlt, if_pos rfl]
    simp only [if_neg hstatus]
  · rw [if_neg (Ne.symm hj), if_neg hj]

theorem getConn_wipeFriendConn (hold : frC.getConn id = some old) (j : Nat)
    : (frC.wipeFriendConn id).getConn j = if j = id then none else frC.getConn j := by
  obtain ⟨hid, -⟩ := getConn_eq_some_iff.mp hold
  unfold wipeFriendConn
  rw [hold]
  apply Option.ext
  intro c
  -- dropping slots that are not in use changes nothing
  have hdrop : ({ conns := (frC.conns.set id emptyFriendConn).rdropWhile fun friendCon =>
      friendCon.status == .none } : FriendConnections).getConn j = some c ↔
      (frC.conns.set id emptyFriendConn)[j]? = some c ∧ c.status ≠ .none := by
    rw [getConn_eq_some_iff]
    constructor
    · rintro ⟨hj, hstatus⟩
      exact ⟨( rdropWhile_prefix _ _).getElem?_eq_some hj, hstatus⟩
    · rintro ⟨hj, hstatus⟩
      exact ⟨List.getElem?_rdropWhile hj (by simpa using hstatus), hstatus⟩
  rw [hdrop, getElem?_set]
  by_cases hj : j = id
  · subst hj
    rw [if_pos rfl, if_pos (List.getElem?_eq_some_iff.mp hid).1]
    constructor
    · rintro ⟨heq, hstatus⟩
      cases heq
      exact absurd rfl hstatus
    · simp
  · rw [if_neg (Ne.symm hj), if_neg hj, getConn_eq_some_iff]

theorem blank_of_mem_set (h : Held holders frC)
    (hblank : friendCon.status = .none → friendCon.lockCount = 0) :
    ∀ c ∈ frC.conns.set id friendCon, c.status = .none → c.lockCount = 0 := by
  intro c hmem
  rcases mem_or_eq_of_mem_set hmem with hmem | rfl
  · exact h.blank c hmem
  · exact hblank

theorem getFriendconPublicKeys_set (hold : frC.getConn id = some old) (hstatus : friendCon.status ≠ .none)
    (hkey : friendCon.realPublicKey = old.realPublicKey) (j : Nat) :
    ({ conns := frC.conns.set id friendCon } : FriendConnections).getFriendconPublicKeys j =
      frC.getFriendconPublicKeys j := by
  unfold getFriendconPublicKeys
  rw [getConn_set hold hstatus]
  split
  · rename_i hj
    rw [hj, hold, Option.map_some, Option.map_some, hkey]
  · rfl

theorem key_lock (j : Nat) : (frC.friendConnectionLock id).getFriendconPublicKeys j =
    frC.getFriendconPublicKeys j := by
  unfold friendConnectionLock
  split
  · rfl
  · rename_i friendCon hold
    apply getFriendconPublicKeys_set hold
    · exact (getConn_eq_some_iff.mp hold).2
    · rfl

theorem held_lock (h : Held holders frC) (hid : (frC.getConn id).isSome) :
    Held (id :: holders) (frC.friendConnectionLock id) := by
  obtain ⟨old, hold⟩ := Option.isSome_iff_exists.mp hid
  have hstatus := (getConn_eq_some_iff.mp hold).2
  refine ⟨?_, fun i j pk => ?_, fun j => ?_⟩
  · unfold friendConnectionLock
    rw [hold]
    exact blank_of_mem_set h fun hnone => absurd hnone hstatus
  · rw [key_lock, key_lock]
    exact h.keys i j pk
  · unfold refs friendConnectionLock
    rw [hold]
    rw [getConn_set hold (by exact hstatus), count_cons]
    have hrefs := h.refs j
    unfold refs at hrefs
    by_cases hj : j = id
    · subst hj
      rw [hold] at hrefs
      simp only [if_true, beq_self_eq_true] at hrefs ⊢
      omega
    · rw [if_neg hj, hrefs, if_neg (by simpa using Ne.symm hj), Nat.add_zero]

theorem getConn_kill (hold : frC.getConn id = some old) (j : Nat) :
    (frC.killFriendConnection id).getConn j =
      if j = id then
        if 0 < old.lockCount then some { old with lockCount := old.lockCount - 1 } else none
      else frC.getConn j := by
  unfold killFriendConnection
  rw [hold]
  dsimp only
  by_cases hlock : 0 < old.lockCount
  · rw [if_pos hlock, if_pos hlock]
    apply getConn_set hold
    exact (getConn_eq_some_iff.mp hold).2
  · rw [if_neg hlock, if_neg hlock]
    exact getConn_wipeFriendConn hold j

theorem blank_kill (h : Held holders frC) (id : Nat) :
    ∀ c ∈ (frC.killFriendConnection id).conns, c.status = .none → c.lockCount = 0 := by
  unfold killFriendConnection wipeFriendConn
  cases hold : frC.getConn id with
  | none => exact h.blank
  | some old =>
    dsimp only
    split
    · exact blank_of_mem_set h fun hnone => absurd hnone (getConn_eq_some_iff.mp hold).2
    · intro c hmem
      have hmem := ( rdropWhile_prefix _ _).subset hmem
      exact blank_of_mem_set h (fun _ => rfl) c hmem

variable {pk : PublicKey}

theorem key_of_kill {j : Nat} (hkey : (frC.killFriendConnection id).getFriendconPublicKeys j = some pk) :
    frC.getFriendconPublicKeys j = some pk := by
  cases hold : frC.getConn id with
  | none => simpa only [killFriendConnection, hold] using hkey
  | some old =>
    unfold getFriendconPublicKeys at hkey ⊢
    rw [getConn_kill hold] at hkey
    by_cases hj : j = id
    · subst hj
      rw [if_pos rfl] at hkey
      rw [hold]
      split at hkey
      · exact hkey
      · cases hkey
    · rwa [if_neg hj] at hkey

theorem held_kill (h : Held (id :: holders) frC) :
    Held holders (frC.killFriendConnection id) := by
  obtain ⟨old, hold⟩ := h.getConn_of_mem mem_cons_self
  refine ⟨blank_kill h id, fun i j pk hi hj => ?_, fun j => ?_⟩
  · exact h.keys i j pk (key_of_kill hi) (key_of_kill hj)
  · have hrefs := h.refs j
    unfold refs at hrefs ⊢
    rw [getConn_kill hold]
    rw [count_cons] at hrefs
    by_cases hj : j = id
    · subst hj
      rw [hold] at hrefs
      simp only [beq_self_eq_true, if_true] at hrefs ⊢
      split
      · rename_i hnone
        split at hnone
        · cases hnone
        · omega
      · rename_i friendCon hsome
        split at hsome
        · cases hsome
          dsimp only
          omega
        · cases hsome
    · rw [if_neg (by simpa using Ne.symm hj)] at hrefs
      rw [if_neg hj]
      exact hrefs

theorem key_kill {j : Nat} (h : Held (id :: holders) frC) (hmem : j ∈ holders) :
    (frC.killFriendConnection id).getFriendconPublicKeys j = frC.getFriendconPublicKeys j := by
  obtain ⟨pk, hkey⟩ := (held_kill h).key_of_mem hmem
  rw [hkey, key_of_kill hkey]

theorem getfriendConnIdPk_eq_some (h : frC.getfriendConnIdPk pk = some id)
    : frC.getFriendconPublicKeys id = some pk := by
  have hfound := find?_some h
  unfold getFriendconPublicKeys
  cases hconn : frC.getConn id with
  | none =>
    rw [hconn] at hfound
    cases hfound
  | some friendCon =>
    rw [hconn] at hfound
    exact congrArg some (by simpa using hfound)

theorem getfriendConnIdPk_eq_none (h : frC.getfriendConnIdPk pk = none) (id : Nat)
    : frC.getFriendconPublicKeys id ≠ some pk := by
  intro hkey
  obtain ⟨friendCon, hconn, rfl⟩ := Option.map_eq_some_iff.mp hkey
  have hlt := (List.getElem?_eq_some_iff.mp (getConn_eq_some_iff.mp hconn).1).1
  have hnot := find?_eq_none.mp h id (mem_range.mpr hlt)
  rw [hconn] at hnot
  simp at hnot

theorem isSome_of_getfriendConnIdPk (h : frC.getfriendConnIdPk pk = some id) : (frC.getConn id).isSome := by
  have hkey := getfriendConnIdPk_eq_some h
  obtain ⟨friendCon, hconn, -⟩ := Option.map_eq_some_iff.mp hkey
  rw [hconn]
  rfl

section

variable (h : Held holders frC)
include h

theorem createFriendConn_spec :
    ∃ c, frC.createFriendConn.2.conns[frC.createFriendConn.1]? = some c ∧ c.status = .none ∧
      c.lockCount = 0 ∧ (∀ j, frC.createFriendConn.2.getConn j = frC.getConn j) ∧
      ∀ c ∈ frC.createFriendConn.2.conns, c.status = .none → c.lockCount = 0 := by
  unfold createFriendConn
  split
  · rename_i i hi
    obtain ⟨hlt, hstatus, -⟩ := findIdx?_eq_some_iff_getElem.mp hi
    have hstatus : frC.conns[i].status = .none := by simpa using hstatus
    exact ⟨frC.conns[i], getElem?_eq_getElem hlt, hstatus,
      h.blank _ (getElem_mem hlt) hstatus, fun _ => rfl, h.blank⟩
  · refine ⟨emptyFriendConn, by simp, rfl, rfl, fun j => ?_, fun c hmem => ?_⟩
    · apply Option.ext
      intro c
      rw [getConn_eq_some_iff, getConn_eq_some_iff]
      apply and_congr_left
      intro hstatus
      rw [getElem?_append]
      split
      · rfl
      · rename_i hj
        rw [getElem?_eq_none (Nat.le_of_not_lt hj)]
        cases j - frC.conns.length with
        | zero =>
          constructor
          · intro heq
            cases heq
            exact absurd rfl hstatus
          · intro heq
            cases heq
        | succ => simp
    · rcases mem_append.mp hmem with hmem | hmem
      · exact h.blank c hmem
      · obtain rfl := mem_singleton.mp hmem
        exact fun _ => rfl

theorem held_insert (hnone : frC.getConn id = none)
    (hpk : ∀ j, frC.getFriendconPublicKeys j ≠ some pk)
    (hblank : ∀ c ∈ frC'.conns, c.status = .none → c.lockCount = 0)
    (hget : ∀ j, frC'.getConn j = if j = id then some { status := .connecting, realPublicKey := pk, lockCount := 0 } else frC.getConn j)
    :
    Held (id :: holders) frC' ∧ frC'.getFriendconPublicKeys id = some pk ∧
      ∀ j ∈ holders, frC'.getFriendconPublicKeys j = frC.getFriendconPublicKeys j := by
  have hkey (j : Nat) : frC'.getFriendconPublicKeys j =
      if j = id then some pk else frC.getFriendconPublicKeys j := by
    unfold getFriendconPublicKeys
    rw [hget]
    split <;> rfl
  refine ⟨⟨hblank, fun i j pk' hi hj => ?_, fun j => ?_⟩, ?_, fun j hmem => ?_⟩
  · rw [hkey] at hi hj
    split at hi <;> split at hj
    · rename_i hi' hj'
      rw [hi', hj']
    · exact absurd (hj.trans hi.symm) (hpk j)
    · exact absurd (hi.trans hj.symm) (hpk i)
    · exact h.keys i j pk' hi hj
  · have hrefs := h.refs j
    unfold refs at hrefs ⊢
    rw [hget, count_cons]
    by_cases hj : j = id
    · subst hj
      rw [hnone] at hrefs
      simp only [if_true, beq_self_eq_true] at hrefs ⊢
      omega
    · rw [if_neg hj, if_neg (by simpa using Ne.symm hj)]
      exact hrefs
  · rw [hkey, if_pos rfl]
  · obtain ⟨c, hc⟩ := h.getConn_of_mem hmem
    have hj : j ≠ id := by
      rintro rfl
      rw [hnone] at hc
      cases hc
    rw [hkey, if_neg hj]

/-- A user more, of a connection with the given key. -/
theorem held_newFriendConnection {onion : Bool}
    (hnew : frC.newFriendConnection onion pk = (some id, frC')) :
    Held (id :: holders) frC' ∧ frC'.getFriendconPublicKeys id = some pk ∧
      ∀ j ∈ holders, frC'.getFriendconPublicKeys j = frC.getFriendconPublicKeys j := by
  unfold newFriendConnection at hnew
  cases hfind : frC.getfriendConnIdPk pk with
  | some i =>
    rw [hfind] at hnew
    cases hnew
    refine ⟨held_lock h (isSome_of_getfriendConnIdPk hfind), ?_, fun j _ => key_lock j⟩
    rw [key_lock, getfriendConnIdPk_eq_some hfind]
  | none =>
    rw [hfind] at hnew
    obtain ⟨c, hc, hstatus, hlock, hconn, hblank⟩ := createFriendConn_spec h
    generalize frC.createFriendConn = created at hnew hc hconn hblank
    obtain ⟨i, frC1⟩ := created
    cases onion with
    | false => cases hnew
    | true =>
      cases hnew
      have hmodify : frC1.conns.modify id (fun friendCon =>
          { friendCon with status := .connecting, realPublicKey := pk }) =
          frC1.conns.set id { status := .connecting, realPublicKey := pk, lockCount := 0 } := by
        rw [modify_eq_set_getElem?, hc, ← hlock]
        rfl
      have hlt : id < frC1.conns.length := (List.getElem?_eq_some_iff.mp hc).1
      rw [hmodify]
      apply held_insert h
      · rw [← hconn id]
        unfold getConn
        rw [hc]
        simp only [hstatus, if_true]
      · exact getfriendConnIdPk_eq_none hfind
      · intro c' hmem
        rcases mem_or_eq_of_mem_set hmem with hmem | rfl
        · exact hblank c' hmem
        · exact fun _ => rfl
      · intro j
        rw [← hconn j]
        unfold getConn
        rw [getElem?_set]
        by_cases hj : j = id
        · subst hj
          rw [if_pos rfl, if_pos hlt, if_pos rfl]
          rfl
        · rw [if_neg (Ne.symm hj), if_neg hj]

theorem held_newFriendConnection_none {onion : Bool}
    (hnew : frC.newFriendConnection onion pk = (none, frC')) :
    Held holders frC' ∧ ∀ j, frC'.getFriendconPublicKeys j = frC.getFriendconPublicKeys j := by
  unfold newFriendConnection at hnew
  cases hfind : frC.getfriendConnIdPk pk with
  | some i =>
    rw [hfind] at hnew
    cases hnew
  | none =>
    rw [hfind] at hnew
    obtain ⟨-, -, -, -, hconn, hblank⟩ := createFriendConn_spec h
    generalize frC.createFriendConn = created at hnew hconn hblank
    obtain ⟨i, frC1⟩ := created
    cases onion with
    | true => cases hnew
    | false =>
      cases hnew
      have hkey (j : Nat) : frC'.getFriendconPublicKeys j = frC.getFriendconPublicKeys j := by
        unfold getFriendconPublicKeys
        rw [← hconn j]
      refine ⟨⟨hblank, fun a b pk' => ?_, fun j => ?_⟩, hkey⟩
      · rw [hkey, hkey]
        exact h.keys a b pk'
      · unfold refs
        rw [← h.refs j, refs, ← hconn j]

end

end Toxcore.FriendConnections

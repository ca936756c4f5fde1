import Mathlib.Data.List.Perm.Lattice
import Mathlib.Data.List.Nodup
import Toxcore.Spec.DhtSystem

/-!
# Locks of DHT friends

Several modules may add the same DHT friend. Each holds a token, a single bit of `lock_flags`, and has a
callback in the slot of that bit. `Holds` says that the flags and the callbacks are those of a list of locks.
`dht_addfriend` does not hand the token back when the friend exists, and `num_friends` has 16 bits; `LockOk`
excludes both.
-/

namespace Toxcore

open List hiding Vector

structure Lock where
  publicKey : PublicKey
  token : BitVec 32
  callback : DHTFriendCallback
deriving DecidableEq

/-! ## Tokens -/

namespace DHTFriend

theorem getLsbD_lockToken {lockNum n : Nat} (h : lockNum < 32) :
    (lockToken lockNum).getLsbD n = decide (n = lockNum) := by
  unfold lockToken
  by_cases hn : n < 32
  · rw [Bool.eq_iff_iff]
    simp
    omega
  · simp [hn]
    omega

theorem lockToken_injective {m n : Nat} (hm : m < 32) (hn : n < 32)
    (h : lockToken m = lockToken n) : m = n := by
  have hbit := congrArg (BitVec.getLsbD · m) h
  simp only [getLsbD_lockToken hm, getLsbD_lockToken hn] at hbit
  exact of_decide_eq_true hbit.symm

theorem and_lockToken_eq_zero {flags : BitVec 32} {n : Nat} (hn : n < 32) :
    flags &&& lockToken n = 0 ↔ flags.getLsbD n = false := by
  constructor
  · intro h
    have hbit := congrArg (BitVec.getLsbD · n) h
    simpa [getLsbD_lockToken hn] using hbit
  · intro h
    apply BitVec.eq_of_getLsbD_eq
    intro i _
    by_cases hi : i = n <;> simp [getLsbD_lockToken hn, hi, h]

/-- The lock that `dht_friend_lock` takes: the first one that is free. -/
def freeLock (flags : BitVec 32) : Option Nat :=
  (List.range dhtFriendMaxLocks).find? fun lockNum => flags &&& lockToken lockNum == 0

theorem freeLock_spec {flags : BitVec 32} {n : Nat} (h : freeLock flags = some n) :
    n < 32 ∧ flags.getLsbD n = false := by
  have hn : n < 32 := mem_range.mp (mem_of_find?_eq_some h)
  have hfree := find?_some h
  exact ⟨hn, (and_lockToken_eq_zero hn).mp (by simpa using hfree)⟩

theorem lockToken_ne_zero {n : Nat} (hn : n < 32) : lockToken n ≠ 0 := by
  intro h
  have hbit := congrArg (BitVec.getLsbD · n) h
  simp [getLsbD_lockToken hn] at hbit

theorem find_lockToken {n : Nat} (hn : n < 32) :
    ((List.range dhtFriendMaxLocks).find? fun m => lockToken m &&& lockToken n != 0) = some n := by
  have hbit : ∀ m, m < 32 → ((lockToken m &&& lockToken n != 0) = decide (n = m)) := by
    intro m hm
    have h := @and_lockToken_eq_zero (lockToken m) n hn
    rw [getLsbD_lockToken hm] at h
    by_cases hnm : n = m
    · simp only [hnm] at h ⊢
      simpa using h
    · simp only [hnm] at h ⊢
      simpa using h
  rw [find?_eq_some_iff_getElem]
  refine ⟨by rw [hbit n hn]; simp, n, by simpa [dhtFriendMaxLocks] using hn, by simp, ?_⟩
  intro j hj
  rw [getElem_range, hbit j (by omega)]
  simp
  omega

/-! ## One friend -/

/-- The flags and callbacks of a friend are those of the locks, which have different
    tokens. -/
structure Holds (fr : DHTFriend) (locks : List Lock) : Prop where
  flags : ∀ n, n < 32 → (fr.lockFlags.getLsbD n = true ↔ ∃ l ∈ locks, l.token = lockToken n)
  single : ∀ l ∈ locks, ∃ n, n < 32 ∧ l.token = lockToken n
  nodup : (locks.map Lock.token).Nodup
  installed : ∀ n, (hn : n < 32) → ∀ l ∈ locks, l.token = lockToken n → fr.callbacks[n] = l.callback
  cleared : ∀ n, (hn : n < 32) → fr.lockFlags.getLsbD n = false → fr.callbacks[n] = emptyCallback

theorem getElem_setCallback (callbacks : Vector DHTFriendCallback dhtFriendMaxLocks)
    (callback : DHTFriendCallback) (n : Nat) {m : Nat} (hm : m < 32) :
    (callbacks.setIfInBounds n callback)[m] = if n = m then callback else callbacks[m] :=
  Vector.getElem_setIfInBounds hm

/-- The number of set bits in `lock_flags`. -/
def numLocks (fr : DHTFriend) : Nat :=
  ((List.range dhtFriendMaxLocks).filter fr.lockFlags.getLsbD).length

variable {fr : DHTFriend} {locks : List Lock} {l : Lock} {callback : DHTFriendCallback}

theorem Holds.numLocks_eq (h : Holds fr locks) : fr.numLocks = locks.length := by
  unfold numLocks
  have hperm : (((List.range dhtFriendMaxLocks).filter fr.lockFlags.getLsbD).map lockToken).Perm
      (locks.map Lock.token) := by
    rw [perm_ext_iff_of_nodup ?_ h.nodup]
    · intro token
      simp only [mem_map, mem_filter, mem_range]
      constructor
      · rintro ⟨n, ⟨hn, hbit⟩, rfl⟩
        exact (h.flags n hn).mp hbit
      · rintro ⟨l, hl, rfl⟩
        obtain ⟨n, hn, htoken⟩ := h.single l hl
        exact ⟨n, ⟨hn, (h.flags n hn).mpr ⟨l, hl, htoken⟩⟩, htoken.symm⟩
    · refine List.Nodup.map_on ?_ (List.Nodup.filter _ nodup_range)
      intro m hm n hn heq
      rw [mem_filter, mem_range] at hm hn
      exact lockToken_injective hm.1 hn.1 heq
  rw [← length_map lockToken, hperm.length_eq, length_map]

theorem Holds.lockFlags_eq_zero (h : Holds fr locks) : fr.lockFlags = 0 ↔ locks = [] := by
  constructor
  · intro hzero
    rw [eq_nil_iff_forall_not_mem]
    intro l hl
    obtain ⟨n, hn, htoken⟩ := h.single l hl
    have hbit := (h.flags n hn).mpr ⟨l, hl, htoken⟩
    simp [hzero] at hbit
  · rintro rfl
    apply BitVec.eq_of_getLsbD_eq
    intro n hn
    have hbit : fr.lockFlags.getLsbD n = false := by
      rw [← Bool.not_eq_true, h.flags n hn]
      simp
    rw [hbit]
    exact BitVec.getLsbD_zero.symm

theorem holds_emptyDhtFriend (publicKey : PublicKey) : Holds (emptyDhtFriend publicKey) [] where
  flags n _ := by simp [emptyDhtFriend]
  single l hl := absurd hl not_mem_nil
  nodup := nodup_nil
  installed n _ l hl := absurd hl not_mem_nil
  cleared n hn _ := by simp [emptyDhtFriend]

theorem dhtFriendLock_eq (fr : DHTFriend) (callback : DHTFriendCallback) :
    fr.dhtFriendLock callback = match freeLock fr.lockFlags with
      | none => (0, fr)
      | some n => (lockToken n, { fr with
          lockFlags := fr.lockFlags ||| lockToken n
          callbacks := fr.callbacks.setIfInBounds n callback }) :=
  rfl

theorem publicKey_dhtFriendLock (fr : DHTFriend) (callback : DHTFriendCallback) :
    (fr.dhtFriendLock callback).2.publicKey = fr.publicKey := by
  unfold dhtFriendLock
  split <;> rfl

theorem publicKey_dhtFriendUnlock (fr : DHTFriend) (token : BitVec 32) :
    (fr.dhtFriendUnlock token).publicKey = fr.publicKey := by
  unfold dhtFriendUnlock
  split <;> rfl

theorem Holds.lock (h : Holds fr locks) {n : Nat} (hn : freeLock fr.lockFlags = some n)
    (publicKey : PublicKey) (callback : DHTFriendCallback) :
    Holds (fr.dhtFriendLock callback).2 ({ publicKey, token := lockToken n, callback } :: locks) := by
  obtain ⟨hlt, hfree⟩ := freeLock_spec hn
  have hnew : ∀ l ∈ locks, l.token ≠ lockToken n := by
    intro l hl htoken
    rw [(h.flags n hlt).mpr ⟨l, hl, htoken⟩] at hfree
    exact nomatch hfree
  rw [dhtFriendLock_eq, hn]
  constructor
  · intro m hm
    simp only [BitVec.getLsbD_or, getLsbD_lockToken hlt, Bool.or_eq_true, decide_eq_true_eq,
      mem_cons, exists_eq_or_imp]
    rw [h.flags m hm, or_comm]
    refine or_congr ⟨fun heq => by rw [heq], fun heq => ?_⟩ Iff.rfl
    exact (lockToken_injective hlt hm heq).symm
  · intro l hl
    rcases mem_cons.mp hl with rfl | hl
    · exact ⟨n, hlt, rfl⟩
    · exact h.single l hl
  · refine nodup_cons.mpr ⟨fun hmem => ?_, h.nodup⟩
    obtain ⟨l, hl, htoken⟩ := mem_map.mp hmem
    exact hnew l hl htoken
  · intro m hm l hl htoken
    rcases mem_cons.mp hl with rfl | hl
    · obtain rfl := lockToken_injective hlt hm htoken
      simp only [getElem_setCallback _ _ _ hm, if_true]
    · have hne : n ≠ m := by
        rintro rfl
        exact hnew l hl htoken
      simp only [getElem_setCallback _ _ _ hm, if_neg hne]
      exact h.installed m hm l hl htoken
  · intro m hm hbit
    simp only [BitVec.getLsbD_or, getLsbD_lockToken hlt, Bool.or_eq_false_iff, decide_eq_false_iff_not] at hbit
    simp only [getElem_setCallback _ _ _ hm, if_neg (Ne.symm hbit.2)]
    exact h.cleared m hm hbit.1

theorem Holds.unlock (h : Holds fr locks) (hl : l ∈ locks) :
    Holds (fr.dhtFriendUnlock l.token) (locks.erase l) := by
  obtain ⟨n, hn, htoken⟩ := h.single l hl
  -- the other locks have other tokens
  have hlocks : locks.Nodup := h.nodup.of_map
  have hother : ∀ l', l' ∈ locks.erase l ↔ l' ∈ locks ∧ l'.token ≠ lockToken n := by
    intro l'
    rw [hlocks.mem_erase_iff]
    constructor
    · rintro ⟨hne, hl'⟩
      refine ⟨hl', fun heq => hne ?_⟩
      exact inj_on_of_nodup_map h.nodup hl' hl (heq.trans htoken.symm)
    · rintro ⟨hl', hne⟩
      refine ⟨?_, hl'⟩
      rintro rfl
      exact hne htoken
  rw [htoken]
  unfold dhtFriendUnlock
  rw [find_lockToken hn]
  constructor
  · intro m hm
    simp only [BitVec.getLsbD_and, BitVec.getLsbD_not, hm, decide_true, Bool.true_and,
      getLsbD_lockToken hn, Bool.and_eq_true, Bool.not_eq_true', decide_eq_false_iff_not]
    rw [h.flags m hm]
    constructor
    · rintro ⟨⟨l', hl', htoken'⟩, hne⟩
      refine ⟨l', (hother l').mpr ⟨hl', fun heq => hne ?_⟩, htoken'⟩
      exact lockToken_injective hm hn (htoken'.symm.trans heq)
    · rintro ⟨l', hl', htoken'⟩
      obtain ⟨hl', hne⟩ := (hother l').mp hl'
      refine ⟨⟨l', hl', htoken'⟩, ?_⟩
      rintro rfl
      exact hne htoken'
  · exact fun l' hl' => h.single l' ((hother l').mp hl').1
  · exact h.nodup.sublist (List.Sublist.map _ erase_sublist)
  · intro m hm l' hl' htoken'
    obtain ⟨hl', hne⟩ := (hother l').mp hl'
    have hnm : n ≠ m := by
      rintro rfl
      exact hne htoken'
    simp only [getElem_setCallback _ _ _ hm, if_neg hnm]
    exact h.installed m hm l' hl' htoken'
  · intro m hm hbit
    by_cases hnm : n = m
    · simp only [getElem_setCallback _ _ _ hm, if_pos hnm]
    · simp only [getElem_setCallback _ _ _ hm, if_neg hnm]
      simp only [BitVec.getLsbD_and, BitVec.getLsbD_not, hm, decide_true, Bool.true_and,
        getLsbD_lockToken hn, Bool.and_eq_false_iff, Bool.not_eq_false', decide_eq_true_eq] at hbit
      exact h.cleared m hm (hbit.resolve_right (Ne.symm hnm))

theorem Holds.congr {fr' : DHTFriend} (h : Holds fr locks) (hlocked : fr'.locked = fr.locked) :
    Holds fr' locks := by
  have hflags : fr'.lockFlags = fr.lockFlags := congrArg (fun locked => locked.2.1) hlocked
  have hcallbacks : fr'.callbacks = fr.callbacks := congrArg (fun locked => locked.2.2) hlocked
  constructor
  · rw [hflags]
    exact h.flags
  · exact h.single
  · exact h.nodup
  · rw [hcallbacks]
    exact h.installed
  · rw [hflags, hcallbacks]
    exact h.cleared

end DHTFriend

/-! ## The friends list -/

namespace DHT

variable {dht : DHT} {env : DhtEnv} {publicKey : PublicKey} {i : Nat} {fr : DHTFriend}

theorem indexOfFriendPk_eq_some (h : dht.indexOfFriendPk publicKey = some i) :
    ∃ fr, dht.friends[i]? = some fr ∧ fr.publicKey = publicKey := by
  obtain ⟨hi, hpk, -⟩ := findIdx?_eq_some_iff_getElem.mp h
  exact ⟨dht.friends[i], getElem?_eq_getElem hi, eq_of_beq hpk⟩

theorem indexOfFriendPk_eq_none :
    dht.indexOfFriendPk publicKey = none ↔ ∀ fr ∈ dht.friends, fr.publicKey ≠ publicKey := by
  simp [indexOfFriendPk]

theorem friendsList_of_friends (h : dht.friends[i]? = some fr) : dht.friendsList[i]? = some fr := by
  unfold friends at h
  rw [getElem?_take] at h
  split at h
  · exact h
  · cases h

/-- `num_friends` counts entries of the array. -/
def Counted (dht : DHT) : Prop := dht.numFriends.toNat ≤ dht.friendsList.length

theorem Counted.length_friends (h : dht.Counted) : dht.friends.length = dht.numFriends.toNat := by
  unfold friends
  rw [length_take]
  exact Nat.min_eq_left h

theorem dhtAddfriend_old (callback : DHTFriendCallback) (lockToken : BitVec 32)
    (hindex : dht.indexOfFriendPk publicKey = some i) (hfr : dht.friends[i]? = some fr) :
    dht.dhtAddfriend env publicKey callback lockToken =
      match DHTFriend.freeLock fr.lockFlags with
      | none => (false, lockToken, dht)
      | some _ => (true, lockToken,
          { dht with friendsList := dht.friendsList.set i (fr.dhtFriendLock callback).2 }) := by
  unfold dhtAddfriend
  rw [hindex]
  simp only [friendsList_of_friends hfr]
  cases hfree : DHTFriend.freeLock fr.lockFlags with
  | none =>
    have hlock : (fr.dhtFriendLock callback).1 = 0 := by
      rw [DHTFriend.dhtFriendLock_eq, hfree]
    rw [if_pos hlock]
  | some n =>
    have hlock : (fr.dhtFriendLock callback).1 = DHTFriend.lockToken n := by
      rw [DHTFriend.dhtFriendLock_eq, hfree]
    rw [if_neg]
    rw [hlock]
    exact DHTFriend.lockToken_ne_zero (DHTFriend.freeLock_spec hfree).1

theorem freeLock_zero : DHTFriend.freeLock 0 = some 0 := by decide

theorem dhtAddfriend_new (env : DhtEnv) (callback : DHTFriendCallback) (lockToken : BitVec 32)
    (hindex : dht.indexOfFriendPk publicKey = none) :
    (env.realloc = false ∧ dht.dhtAddfriend env publicKey callback lockToken = (false, lockToken, dht)) ∨
    (env.realloc = true ∧
      ∃ fr rng, fr.locked = ((emptyDhtFriend publicKey).dhtFriendLock callback).2.locked ∧
        dht.dhtAddfriend env publicKey callback lockToken =
          (true, DHTFriend.lockToken 0, { dht with
            friendsList := dht.friends ++ [fr], numFriends := dht.numFriends + 1, rng })) := by
  unfold dhtAddfriend
  rw [hindex]
  simp only
  cases env.realloc with
  | false => exact .inl ⟨rfl, rfl⟩
  | true =>
    refine .inr ⟨rfl, ?_⟩
    simp only [DHTFriend.dhtFriendLock_eq, emptyDhtFriend]
    refine ⟨_, _, ?_, rfl⟩
    rfl

theorem take_moveLast {friendsList : List DHTFriend} {n : Nat} (hn : n < friendsList.length) (hi : i ≤ n) :
    ((moveLast friendsList n i).take n).Perm ((friendsList.take (n + 1)).eraseIdx i) ∧
      ((moveLast friendsList n i).take n).take i = friendsList.take i := by
  have hlast : (friendsList.take (n + 1))[n]? = friendsList[n]? := by
    rw [getElem?_take, if_pos (Nat.lt_succ_self n)]
  have hlength : (friendsList.take (n + 1)).length = n + 1 := by
    rw [length_take]
    omega
  have hmoved : (moveLast friendsList n i).take n =
      ((friendsList.take (n + 1)).set i friendsList[n]).take n := by
    unfold moveLast
    rw [getElem?_eq_getElem hn]
    simp only
    rw [take_set, take_take, Nat.min_eq_left (Nat.le_succ n)]
    split
    · exact take_set
    · -- nothing moves into its own place
      rw [set_eq_of_length_le (by rw [length_take]; omega)]
  constructor
  · rw [hmoved]
    have hperm := List.take_set_perm_eraseIdx (l := friendsList.take (n + 1)) (i := i)
      (a := friendsList[n]) (by omega)
    rw [hlength, Nat.add_sub_cancel, hlast] at hperm
    exact hperm (getElem?_eq_getElem hn)
  · rw [hmoved, take_take, Nat.min_eq_left hi, take_set_of_le (Nat.le_refl i),
      take_take, Nat.min_eq_left (by omega)]

theorem dhtDelfriend_cases (env : DhtEnv) (lockToken : BitVec 32) (hcount : dht.Counted)
    (hindex : dht.indexOfFriendPk publicKey = some i) (hfr : dht.friends[i]? = some fr) :
    ((fr.dhtFriendUnlock lockToken).lockFlags ≠ 0 ∧
      (dht.dhtDelfriend env publicKey lockToken).2.Counted ∧
      (dht.dhtDelfriend env publicKey lockToken).2.friends = dht.friends.set i (fr.dhtFriendUnlock lockToken)) ∨
    ((fr.dhtFriendUnlock lockToken).lockFlags = 0 ∧
      (dht.dhtDelfriend env publicKey lockToken).2.Counted ∧
      (dht.dhtDelfriend env publicKey lockToken).2.friends.Perm (dht.friends.eraseIdx i) ∧
      (dht.dhtDelfriend env publicKey lockToken).2.friends.take i = dht.friends.take i) := by
  have hi : i < dht.numFriends.toNat := by
    rw [← hcount.length_friends]
    exact (List.getElem?_eq_some_iff.mp hfr).1
  unfold Counted at hcount
  unfold dhtDelfriend
  simp only [hindex, friendsList_of_friends hfr]
  by_cases hflags : (fr.dhtFriendUnlock lockToken).lockFlags = 0
  · refine .inr ⟨hflags, ?_⟩
    rw [if_neg (by simpa using hflags)]
    have hnum : (dht.numFriends - 1).toNat + 1 = dht.numFriends.toNat := by
      rw [UInt16.toNat_sub_of_le _ _ (by rw [UInt16.le_iff_toNat_le]; simp; omega)]
      simp
      omega
    have hlt : (dht.numFriends - 1).toNat < (dht.friendsList.set i (fr.dhtFriendUnlock lockToken)).length := by
      rw [length_set]
      omega
    obtain ⟨hperm, htake⟩ := take_moveLast hlt (show i ≤ _ by omega)
    -- the removed entry was the unlocked one
    rw [hnum, take_set, eraseIdx_set_eq] at hperm
    rw [take_set_of_le (Nat.le_refl i)] at htake
    have hfirst : dht.friends.take i = dht.friendsList.take i := by
      unfold friends
      rw [take_take, Nat.min_eq_left (by omega)]
    rw [hfirst]
    split
    · rename_i hzero
      -- this was the only friend
      have hzero : (dht.numFriends - 1).toNat = 0 := by rw [hzero]; rfl
      rw [hzero] at hperm htake
      exact ⟨by simp [Counted, hzero], by simpa [friends] using hperm, by simpa [friends] using htake⟩
    · have hlength : (moveLast (dht.friendsList.set i (fr.dhtFriendUnlock lockToken))
          (dht.numFriends - 1).toNat i).length = dht.friendsList.length := by
        unfold moveLast
        split
        · exact length_set
        · split <;> simp
      split
      · refine ⟨?_, hperm, htake⟩
        unfold Counted
        simp only
        omega
      · unfold Counted friends
        simp only
        rw [take_take, Nat.min_self]
        refine ⟨?_, hperm, htake⟩
        rw [length_take]
        omega
  · refine .inl ⟨hflags, ?_⟩
    rw [if_pos hflags]
    constructor
    · unfold Counted
      simpa using hcount
    · exact take_set

end DHT

/-! ## Accounting -/

/-- A DHT with the locks that are held, of the fake friends and of other modules. -/
structure LockState where
  dht : DHT
  fake : List Lock
  outstanding : List Lock

namespace LockState

def locks (s : LockState) : List Lock := s.outstanding ++ s.fake

def locksOf (s : LockState) (publicKey : PublicKey) : List Lock :=
  s.locks.filter fun l => l.publicKey == publicKey

def addfriend (s : LockState) (env : DhtEnv) (publicKey : PublicKey) (callback : DHTFriendCallback)
    (lockToken : BitVec 32) : LockState :=
  match s.dht.dhtAddfriend env publicKey callback lockToken with
  | (false, _, dht) => { s with dht }
  | (true, token, dht) =>
    { s with dht, outstanding := { publicKey, token, callback } :: s.outstanding }

def delfriend (s : LockState) (env : DhtEnv) (l : Lock) : LockState :=
  { s with
    dht := (s.dht.dhtDelfriend env l.publicKey l.token).2
    outstanding := s.outstanding.erase l }

structure Accounted (s : LockState) : Prop where
  /-- `num_friends` counts entries of the array. -/
  counted : s.dht.Counted
  /-- Every key has one entry. -/
  nodup : (s.dht.friends.map (·.publicKey)).Nodup
  /-- The flags and callbacks of a friend are those of the locks for its key. -/
  holds : ∀ fr ∈ s.dht.friends, fr.Holds (s.locksOf fr.publicKey)
  entry : ∀ publicKey, (∃ fr ∈ s.dht.friends, fr.publicKey = publicKey) ↔ s.locksOf publicKey ≠ []
  /-- The fake friends are the first entries. -/
  fake : (s.dht.friends.take dhtFakeFriendNumber).map (·.publicKey) = s.fake.map Lock.publicKey
  numFake : s.fake.length = dhtFakeFriendNumber

variable {s : LockState} {env : DhtEnv} {publicKey : PublicKey} {callback : DHTFriendCallback}
  {lockToken : BitVec 32} {l : Lock}

theorem mem_locksOf : l ∈ s.locksOf publicKey ↔ l ∈ s.locks ∧ l.publicKey = publicKey := by
  simp [locksOf]

/-- For a friend that exists, `*lock_token` is a token already before the call, and no counter overflows. -/
structure LockOk (dht : DHT) (env : DhtEnv) (publicKey : PublicKey) (lockToken : BitVec 32) :
    Prop where
  token : ∀ fr ∈ dht.friends, fr.publicKey = publicKey →
    ∀ n, DHTFriend.freeLock fr.lockFlags = some n → lockToken = DHTFriend.lockToken n
  count : (∀ fr ∈ dht.friends, fr.publicKey ≠ publicKey) → env.realloc = true →
    dht.numFriends.toNat + 1 < 2 ^ 16

theorem Accounted.congr {dht : DHT} (h : s.Accounted) (hnum : dht.numFriends = s.dht.numFriends)
    (hlocked : dht.friendsList.map (·.locked) = s.dht.friendsList.map (·.locked)) :
    Accounted { s with dht } := by
  have hfriends : dht.friends.map (·.locked) = s.dht.friends.map (·.locked) := by
    unfold DHT.friends
    rw [map_take, map_take, hlocked, hnum]
  have hkeys : dht.friends.map (·.publicKey) = s.dht.friends.map (·.publicKey) := by
    have hfst := congrArg (List.map Prod.fst) hfriends
    rwa [map_map, map_map] at hfst
  have hmem : ∀ fr ∈ dht.friends, ∃ fr0 ∈ s.dht.friends, fr0.locked = fr.locked := by
    intro fr hfr
    have : fr.locked ∈ s.dht.friends.map (·.locked) := by
      rw [← hfriends]
      exact mem_map_of_mem hfr
    exact mem_map.mp this
  constructor
  · have hlength := congrArg List.length hlocked
    rw [length_map, length_map] at hlength
    unfold DHT.Counted
    rw [hnum, hlength]
    exact h.counted
  · rw [hkeys]
    exact h.nodup
  · intro fr hfr
    obtain ⟨fr0, hfr0, heq⟩ := hmem fr hfr
    have hpk : fr.publicKey = fr0.publicKey := congrArg Prod.fst heq.symm
    rw [hpk]
    exact (h.holds fr0 hfr0).congr heq.symm
  · intro publicKey
    rw [← mem_map, hkeys, mem_map]
    exact h.entry publicKey
  · rw [map_take, hkeys, ← map_take]
    exact h.fake
  · exact h.numFake

theorem Accounted.replace {s' : LockState} {i : Nat} {fr fr' : DHTFriend} (h : s.Accounted)
    (hfr : s.dht.friends[i]? = some fr) (hpk : fr'.publicKey = fr.publicKey) (hcounted : s'.dht.Counted)
    (hfriends : s'.dht.friends = s.dht.friends.set i fr') (hfake : s'.fake = s.fake)
    (hother : ∀ publicKey, publicKey ≠ fr.publicKey → s'.locksOf publicKey = s.locksOf publicKey)
    (hholds : fr'.Holds (s'.locksOf fr.publicKey)) (hne : s'.locksOf fr.publicKey ≠ []) :
    s'.Accounted := by
  have hkeys : s'.dht.friends.map (·.publicKey) = s.dht.friends.map (·.publicKey) := by
    rw [hfriends]
    exact List.map_set_of_eq hfr hpk
  constructor
  · exact hcounted
  · rw [hkeys]
    exact h.nodup
  · intro fr1 hfr1
    rw [hfriends, List.mem_set_iff_of_nodup_map h.nodup hfr] at hfr1
    rcases hfr1 with rfl | ⟨hfr1, hne1⟩
    · rw [hpk]
      exact hholds
    · rw [hother _ hne1]
      exact h.holds fr1 hfr1
  · intro publicKey
    rw [← mem_map, hkeys, mem_map]
    by_cases heq : publicKey = fr.publicKey
    · subst heq
      exact ⟨fun _ => hne, fun _ => ⟨fr, mem_of_getElem? hfr, rfl⟩⟩
    · rw [hother _ heq]
      exact h.entry publicKey
  · rw [map_take, hkeys, ← map_take, hfake]
    exact h.fake
  · rw [hfake]
    exact h.numFake

theorem Accounted.remove {s' : LockState} {i : Nat} {fr : DHTFriend} (h : s.Accounted)
    (hfr : s.dht.friends[i]? = some fr) (hcounted : s'.dht.Counted)
    (hperm : s'.dht.friends.Perm (s.dht.friends.eraseIdx i))
    (htake : s'.dht.friends.take i = s.dht.friends.take i) (hfake : s'.fake = s.fake)
    (hother : ∀ publicKey, publicKey ≠ fr.publicKey → s'.locksOf publicKey = s.locksOf publicKey)
    (hnil : s'.locksOf fr.publicKey = []) : s'.Accounted := by
  have hmem : ∀ fr', fr' ∈ s'.dht.friends ↔
      fr' ∈ s.dht.friends ∧ fr'.publicKey ≠ fr.publicKey := by
    intro fr'
    rw [hperm.mem_iff]
    exact List.mem_eraseIdx_iff_of_nodup_map h.nodup hfr
  -- the locks of the fake friends are still there
  have hi : dhtFakeFriendNumber ≤ i := by
    by_contra hlt
    have hpk : fr.publicKey ∈ s.fake.map Lock.publicKey := by
      rw [← h.fake]
      refine mem_map_of_mem (mem_of_getElem? (i := i) ?_)
      rw [getElem?_take, if_pos (by omega), hfr]
    obtain ⟨l, hl, hpk⟩ := mem_map.mp hpk
    have hl : l ∈ s'.locksOf fr.publicKey :=
      mem_locksOf.mpr ⟨mem_append_right _ (hfake ▸ hl), hpk⟩
    rw [hnil] at hl
    exact absurd hl not_mem_nil
  constructor
  · exact hcounted
  · rw [(hperm.map _).nodup_iff]
    exact h.nodup.sublist ((eraseIdx_sublist _ i).map _)
  · intro fr' hfr'
    obtain ⟨hfr', hne⟩ := (hmem fr').mp hfr'
    rw [hother _ hne]
    exact h.holds fr' hfr'
  · intro publicKey
    simp only [hmem]
    by_cases heq : publicKey = fr.publicKey
    · subst heq
      rw [hnil]
      simp
    · rw [hother _ heq, ← h.entry publicKey]
      constructor
      · rintro ⟨fr', ⟨hfr', -⟩, hpk⟩
        exact ⟨fr', hfr', hpk⟩
      · rintro ⟨fr', hfr', rfl⟩
        exact ⟨fr', ⟨hfr', heq⟩, rfl⟩
  · have hfirst : s'.dht.friends.take dhtFakeFriendNumber =
        s.dht.friends.take dhtFakeFriendNumber := by
      rw [← Nat.min_eq_left hi, ← take_take, htake, take_take]
    rw [hfirst, hfake]
    exact h.fake
  · rw [hfake]
    exact h.numFake

theorem locksOf_cons (s : LockState) (l : Lock) (dht : DHT) (publicKey : PublicKey) :
    locksOf { s with dht, outstanding := l :: s.outstanding } publicKey =
      if l.publicKey = publicKey then l :: s.locksOf publicKey else s.locksOf publicKey := by
  unfold locksOf locks
  simp only [cons_append, filter_cons, beq_iff_eq]

theorem Accounted.append {s' : LockState} {fr : DHTFriend} (h : s.Accounted)
    (hnew : ∀ fr' ∈ s.dht.friends, fr'.publicKey ≠ fr.publicKey) (hcounted : s'.dht.Counted)
    (hfriends : s'.dht.friends = s.dht.friends ++ [fr]) (hfake : s'.fake = s.fake)
    (hother : ∀ publicKey, publicKey ≠ fr.publicKey → s'.locksOf publicKey = s.locksOf publicKey)
    (hholds : fr.Holds (s'.locksOf fr.publicKey)) (hne : s'.locksOf fr.publicKey ≠ []) :
    s'.Accounted := by
  have hkeys : s'.dht.friends.map (·.publicKey) =
      s.dht.friends.map (·.publicKey) ++ [fr.publicKey] := by
    rw [hfriends, map_append]
    rfl
  have hfirst : dhtFakeFriendNumber ≤ (s.dht.friends.map (·.publicKey)).length := by
    have hlength := congrArg List.length h.fake
    rw [length_map, length_map, h.numFake, length_take] at hlength
    rw [length_map]
    omega
  constructor
  · exact hcounted
  · rw [hkeys, nodup_append]
    refine ⟨h.nodup, nodup_singleton _, ?_⟩
    intro pk hpk pk' hpk'
    obtain ⟨fr', hfr', rfl⟩ := mem_map.mp hpk
    rw [mem_singleton.mp hpk']
    exact hnew fr' hfr'
  · intro fr1 hfr1
    rw [hfriends, mem_append, mem_singleton] at hfr1
    rcases hfr1 with hfr1 | rfl
    · rw [hother _ (hnew fr1 hfr1)]
      exact h.holds fr1 hfr1
    · exact hholds
  · intro publicKey
    rw [← mem_map, hkeys, mem_append, mem_singleton]
    by_cases heq : publicKey = fr.publicKey
    · subst heq
      exact ⟨fun _ => hne, fun _ => .inr rfl⟩
    · rw [hother _ heq, ← h.entry publicKey]
      simp [heq]
  · rw [map_take, hkeys, take_append_of_le_length hfirst, ← map_take, hfake]
    exact h.fake
  · rw [hfake]
    exact h.numFake

theorem Accounted.addfriend (h : s.Accounted) (hok : LockOk s.dht env publicKey lockToken) :
    (s.addfriend env publicKey callback lockToken).Accounted := by
  unfold LockState.addfriend
  cases hindex : s.dht.indexOfFriendPk publicKey with
  | some i =>
    obtain ⟨fr, hfr, hpk⟩ := DHT.indexOfFriendPk_eq_some hindex
    rw [DHT.dhtAddfriend_old callback lockToken hindex hfr]
    cases hfree : DHTFriend.freeLock fr.lockFlags with
    | none => exact h
    | some n =>
      obtain rfl := hok.token fr (mem_of_getElem? hfr) hpk n hfree
      subst hpk
      have hlocksOf := locksOf_cons s { publicKey := fr.publicKey, token := DHTFriend.lockToken n, callback }
        { s.dht with friendsList := s.dht.friendsList.set i (fr.dhtFriendLock callback).2 }
      apply h.replace hfr (DHTFriend.publicKey_dhtFriendLock fr callback)
      · have hcounted := h.counted
        unfold DHT.Counted at hcounted ⊢
        rwa [length_set]
      · exact take_set
      · rfl
      · intro publicKey hne
        rw [hlocksOf, if_neg (Ne.symm hne)]
      · rw [hlocksOf, if_pos rfl]
        exact (h.holds fr (mem_of_getElem? hfr)).lock hfree _ _
      · rw [hlocksOf, if_pos rfl]
        exact cons_ne_nil _ _
  | none =>
    rcases DHT.dhtAddfriend_new env callback lockToken hindex with
      ⟨-, heq⟩ | ⟨hrealloc, fr, rng, hlocked, heq⟩
    · rw [heq]
      exact h
    · rw [heq]
      have hnew := DHT.indexOfFriendPk_eq_none.mp hindex
      have hlength := h.counted.length_friends
      have hnum : (s.dht.numFriends + 1).toNat = s.dht.friends.length + 1 := by
        have hlt := hok.count hnew hrealloc
        rw [hlength]
        exact Nat.mod_eq_of_lt hlt
      -- there were no locks for the key
      have hnone : s.locksOf publicKey = [] := by
        by_contra hne
        obtain ⟨fr, hfr, hpk⟩ := (h.entry publicKey).mpr hne
        exact hnew fr hfr hpk
      have hholds := (DHTFriend.holds_emptyDhtFriend publicKey).lock DHT.freeLock_zero publicKey callback
      replace hholds := hholds.congr hlocked
      rw [← hnone] at hholds
      obtain rfl : fr.publicKey = publicKey :=
        (congrArg Prod.fst hlocked).trans (DHTFriend.publicKey_dhtFriendLock _ callback)
      have hlocksOf := locksOf_cons s
        { publicKey := fr.publicKey, token := DHTFriend.lockToken 0, callback }
        { s.dht with
          friendsList := s.dht.friends ++ [fr], numFriends := s.dht.numFriends + 1, rng }
      apply h.append hnew
      · unfold DHT.Counted
        rw [hnum, length_append, length_singleton]
      · rw [DHT.friends, take_of_length_le]
        rw [hnum, length_append, length_singleton]
      · rfl
      · intro publicKey hne
        rw [hlocksOf, if_neg (Ne.symm hne)]
      · rw [hlocksOf, if_pos rfl]
        exact hholds
      · rw [hlocksOf, if_pos rfl]
        exact cons_ne_nil _ _

theorem locksOf_erase (hl : l ∈ s.outstanding) (dht : DHT) (publicKey : PublicKey) :
    locksOf { s with dht, outstanding := s.outstanding.erase l } publicKey = (s.locksOf publicKey).erase l := by
  unfold locksOf locks
  rw [erase_filter, ← erase_append_left _ hl]

theorem Accounted.delfriend (h : s.Accounted) (hl : l ∈ s.outstanding) : (s.delfriend env l).Accounted := by
  unfold LockState.delfriend
  have hlocks : l ∈ s.locksOf l.publicKey :=
    mem_locksOf.mpr ⟨mem_append_left _ hl, rfl⟩
  have hlocksOf := locksOf_erase hl (s.dht.dhtDelfriend env l.publicKey l.token).2
  have hother : ∀ publicKey, publicKey ≠ l.publicKey → (s.locksOf publicKey).erase l = s.locksOf publicKey := by
    intro publicKey hne
    apply erase_of_not_mem
    intro hmem
    exact hne (mem_locksOf.mp hmem).2.symm
  cases hindex : s.dht.indexOfFriendPk l.publicKey with
  | none =>
    -- a locked key has an entry
    obtain ⟨fr, hfr, hpk⟩ := (h.entry l.publicKey).mpr (ne_nil_of_mem hlocks)
    exact absurd hpk (DHT.indexOfFriendPk_eq_none.mp hindex fr hfr)
  | some i =>
    obtain ⟨fr, hfr, hpk⟩ := DHT.indexOfFriendPk_eq_some hindex
    have hholds := h.holds fr (mem_of_getElem? hfr)
    rw [hpk] at hholds
    replace hholds := hholds.unlock hlocks
    rcases DHT.dhtDelfriend_cases env l.token h.counted hindex hfr with
      ⟨hflags, hcounted, hfriends⟩ | ⟨hflags, hcounted, hperm, htake⟩
    · have hne : (s.locksOf l.publicKey).erase l ≠ [] := by
        rwa [Ne, ← hholds.lockFlags_eq_zero]
      refine h.replace hfr (DHTFriend.publicKey_dhtFriendUnlock fr l.token) hcounted hfriends rfl ?_ ?_ ?_
      · intro publicKey hne
        rw [hpk] at hne
        rw [hlocksOf, hother _ hne]
      · rw [hlocksOf, hpk]
        exact hholds
      · rw [hlocksOf, hpk]
        exact hne
    · have hnil := hholds.lockFlags_eq_zero.mp hflags
      refine h.remove hfr hcounted hperm htake rfl ?_ ?_
      · intro publicKey hne
        rw [hpk] at hne
        rw [hlocksOf, hother _ hne]
      · rw [hlocksOf, hpk]
        exact hnil

end LockState

/-! ## Runs -/

namespace DHT

variable {env : DhtEnv} {dht dht' : DHT} {rng : Rng} {selfPublicKey : PublicKey} {selfSecretKey : SecretKey}

def IsFake (fr : DHTFriend) : Prop :=
  fr.locked = ((emptyDhtFriend fr.publicKey).dhtFriendLock emptyCallback).2.locked

theorem addFakeFriend_cases (h : addFakeFriend env dht = some dht') :
    dht'.numFriends = dht.numFriends ∨
    ∃ fr, IsFake fr ∧ (∀ fr' ∈ dht.friends, fr'.publicKey ≠ fr.publicKey) ∧
      dht'.friendsList = dht.friends ++ [fr] ∧ dht'.numFriends = dht.numFriends + 1 := by
  unfold addFakeFriend at h
  simp only at h
  split at h
  · cases h
  · rename_i heq
    cases h
    cases hindex : DHT.indexOfFriendPk { dht with rng := dht.rng.randomKey.2 }
        dht.rng.randomKey.1 with
    | some i =>
      obtain ⟨fr, hfr, -⟩ := indexOfFriendPk_eq_some hindex
      rw [dhtAddfriend_old _ _ hindex hfr] at heq
      left
      split at heq
      · cases heq
      · obtain ⟨-, -, rfl⟩ := by simpa only [Prod.mk.injEq] using heq
        rfl
    | none =>
      rcases dhtAddfriend_new env emptyCallback 0 hindex with ⟨-, hnew⟩ | ⟨-, fr, rng, hlocked, hnew⟩
      · rw [hnew] at heq
        exact nomatch heq
      · rw [hnew] at heq
        obtain ⟨-, -, rfl⟩ := by simpa only [Prod.mk.injEq] using heq
        have hpk : fr.publicKey = dht.rng.randomKey.1 :=
          (congrArg Prod.fst hlocked).trans (DHTFriend.publicKey_dhtFriendLock _ emptyCallback)
        refine .inr ⟨fr, ?_, ?_, rfl, rfl⟩
        · unfold IsFake
          rw [hpk]
          exact hlocked
        · rw [hpk]
          exact indexOfFriendPk_eq_none.mp hindex

theorem friends_newDht (h : newDht env rng selfPublicKey selfSecretKey = some dht) :
    ∃ fr1 fr2, IsFake fr1 ∧ IsFake fr2 ∧ fr1.publicKey ≠ fr2.publicKey ∧
      dht.friendsList = [fr1, fr2] ∧ dht.numFriends = 2 := by
  unfold newDht at h
  simp only [Option.bind_eq_bind, Option.bind_eq_some_iff] at h
  obtain ⟨dhtPingArray, -, dht1, h1, dht2, h2, h⟩ := h
  split at h
  · cases h
  · rename_i hnum
    cases h
    have hfirst := addFakeFriend_cases h1
    have hempty : (emptyDht env rng selfPublicKey selfSecretKey dhtPingArray).friends = [] := rfl
    have hzero : (emptyDht env rng selfPublicKey selfSecretKey dhtPingArray).numFriends = 0 := rfl
    rw [hzero] at hfirst
    -- both calls have to add a friend
    rcases hfirst with hnum1 | ⟨fr1, hfake1, -, hlist1, hnum1⟩ <;>
      rcases addFakeFriend_cases h2 with hnum2 | ⟨fr2, hfake2, hne, hlist2, hnum2⟩ <;>
      rw [hnum2, hnum1] at hnum
    · exact absurd hnum (by decide)
    · exact absurd hnum (by decide)
    · exact absurd hnum (by decide)
    · have hfriends : dht1.friends = [fr1] := by
        rw [friends, hlist1, hnum1]
        rfl
      rw [hfriends] at hne hlist2
      refine ⟨fr1, fr2, hfake1, hfake2, hne fr1 mem_cons_self, hlist2, ?_⟩
      rw [hnum2, hnum1]
      rfl

end DHT

namespace LockState

open DHTFriend in
def fakeLock (fr : DHTFriend) : Lock where
  publicKey := fr.publicKey
  token := lockToken 0
  callback := emptyCallback

def Fresh (s : LockState) : Prop :=
  (∃ env rng selfPublicKey selfSecretKey, DHT.newDht env rng selfPublicKey selfSecretKey = some s.dht) ∧
  s.fake = s.dht.friends.map fakeLock ∧ s.outstanding = []

variable {s : LockState} {box : CryptoBox} {env : DhtEnv}

theorem Fresh.accounted (h : s.Fresh) : s.Accounted := by
  obtain ⟨⟨env, rng, pk, sk, hnew⟩, hfake, hout⟩ := h
  obtain ⟨fr1, fr2, hfake1, hfake2, hne, hlist, hnum⟩ := DHT.friends_newDht hnew
  have hfriends : s.dht.friends = [fr1, fr2] := by
    rw [DHT.friends, hlist, hnum]
    rfl
  have hlocks : s.locks = [fakeLock fr1, fakeLock fr2] := by
    rw [locks, hout, hfake, hfriends]
    rfl
  have hholds : ∀ {fr}, DHT.IsFake fr → fr.Holds [fakeLock fr] := fun h =>
    ((DHTFriend.holds_emptyDhtFriend _).lock DHT.freeLock_zero _ emptyCallback).congr h
  have hlocksOf : ∀ publicKey, s.locksOf publicKey =
      if publicKey = fr1.publicKey then [fakeLock fr1]
      else if publicKey = fr2.publicKey then [fakeLock fr2] else [] := by
    intro publicKey
    rw [locksOf, hlocks]
    by_cases h1 : publicKey = fr1.publicKey
    · subst h1
      simp [fakeLock, Ne.symm hne]
    · by_cases h2 : publicKey = fr2.publicKey
      · subst h2
        simp [fakeLock, hne, Ne.symm hne]
      · simp [fakeLock, h1, h2, Ne.symm h1, Ne.symm h2]
  constructor
  · unfold DHT.Counted
    rw [hlist, hnum]
    exact Nat.le_refl 2
  · simp [hfriends, hne]
  · intro fr hfr
    rw [hfriends] at hfr
    rcases mem_cons.mp hfr with rfl | hfr
    · rw [hlocksOf, if_pos rfl]
      exact hholds hfake1
    · obtain rfl := mem_singleton.mp hfr
      rw [hlocksOf, if_neg (Ne.symm hne), if_pos rfl]
      exact hholds hfake2
  · intro publicKey
    rw [hfriends, hlocksOf]
    split_ifs with h1 h2
    · exact ⟨fun _ => cons_ne_nil _ _, fun _ => ⟨fr1, by simp, h1.symm⟩⟩
    · exact ⟨fun _ => cons_ne_nil _ _, fun _ => ⟨fr2, by simp, h2.symm⟩⟩
    · refine ⟨?_, fun h => absurd rfl h⟩
      rintro ⟨fr, hfr, rfl⟩
      rcases mem_cons.mp hfr with rfl | hfr
      · exact absurd rfl h1
      · exact absurd (congrArg _ (mem_singleton.mp hfr)) h2
  · rw [hfake, hfriends]
    rfl
  · rw [hfake, hfriends]
    rfl

/-- DHT runs with a ghost list of the locks; calls of `dht_addfriend` meet `ok`. -/
def lockSystem (box : CryptoBox) (ok : DHT → DhtEnv → PublicKey → BitVec 32 → Prop) :
    TransitionSystem LockState where
  init := Fresh
  step s t :=
    (∃ env publicKey callback lockToken, ok s.dht env publicKey lockToken ∧
      t = s.addfriend env publicKey callback lockToken) ∨
    (∃ env, ∃ l ∈ s.outstanding, t = s.delfriend env l) ∨
    ∃ env input, (∀ pk cb token, input ≠ .addfriend pk cb token) ∧
      (∀ pk token, input ≠ .delfriend pk token) ∧
      t = { s with dht := s.dht.step box env input }

theorem accounted_of_reachable (h : (lockSystem box LockOk).Reachable s) : s.Accounted := by
  refine TransitionSystem.Reachable.invariant (fun _ => Fresh.accounted) ?_ h
  rintro s _ hacc (⟨env, pk, cb, token, hok, rfl⟩ | ⟨env, l, hl, rfl⟩ | ⟨env, input, hadd, hdel, rfl⟩)
  · exact hacc.addfriend hok
  · exact hacc.delfriend hl
  · obtain ⟨hnum, hlocked⟩ := DHT.locked_step hadd hdel
    exact hacc.congr hnum hlocked

/-- A successful `dht_addfriend` stores a single-bit token that is not held for the key. -/
def AddOk (s : LockState) (env : DhtEnv) (publicKey : PublicKey) (callback : DHTFriendCallback)
    (lockToken : BitVec 32) : Prop :=
  (s.dht.dhtAddfriend env publicKey callback lockToken).1 = true →
    (∃ n, n < 32 ∧ (s.dht.dhtAddfriend env publicKey callback lockToken).2.1 = DHTFriend.lockToken n) ∧
    ∀ l ∈ s.locksOf publicKey, l.token ≠ (s.dht.dhtAddfriend env publicKey callback lockToken).2.1

/-- `dht_delfriend` clears the callback of the lock, and the entry with the last lock. -/
structure DelOk (s s' : LockState) (l : Lock) : Prop where
  callbacks : ∀ fr ∈ s.dht.friends, fr.publicKey = l.publicKey →
    ∀ fr' ∈ s'.dht.friends, fr'.publicKey = l.publicKey → ∀ n, (hn : n < 32) →
      fr'.callbacks[n] = if l.token = DHTFriend.lockToken n then emptyCallback else fr.callbacks[n]
  removed : (∀ fr' ∈ s'.dht.friends, fr'.publicKey ≠ l.publicKey) ↔ s.locksOf l.publicKey = [l]

theorem Accounted.addOk {publicKey : PublicKey} {callback : DHTFriendCallback}
    {lockToken : BitVec 32} (h : s.Accounted) (hok : LockOk s.dht env publicKey lockToken) :
    AddOk s env publicKey callback lockToken := by
  intro hadded
  have hafter : (s.addfriend env publicKey callback lockToken).Accounted := h.addfriend hok
  -- the new lock is one of those that its friend holds afterwards
  have hlocksOf : (s.addfriend env publicKey callback lockToken).locksOf publicKey =
      { publicKey, token := (s.dht.dhtAddfriend env publicKey callback lockToken).2.1, callback } ::
        s.locksOf publicKey := by
    unfold LockState.addfriend
    rcases heq : s.dht.dhtAddfriend env publicKey callback lockToken with ⟨added, token, dht⟩
    rw [heq] at hadded
    obtain rfl : added = true := hadded
    simp only [locksOf_cons, if_true]
  obtain ⟨fr, hfr, hpk⟩ := (hafter.entry publicKey).mpr (by
    rw [hlocksOf]
    exact cons_ne_nil _ _)
  have hholds := hafter.holds fr hfr
  rw [hpk, hlocksOf] at hholds
  refine ⟨hholds.single _ mem_cons_self, fun l hl htoken => ?_⟩
  have hnodup := hholds.nodup
  rw [map_cons, nodup_cons] at hnodup
  exact hnodup.1 (mem_map.mpr ⟨l, hl, htoken⟩)

theorem Accounted.delOk {l : Lock} (h : s.Accounted) (hl : l ∈ s.outstanding) :
    DelOk s (s.delfriend env l) l := by
  have hafter : (s.delfriend env l).Accounted := h.delfriend hl
  have hlocks : l ∈ s.locksOf l.publicKey :=
    mem_locksOf.mpr ⟨mem_append_left _ hl, rfl⟩
  have herase : (s.delfriend env l).locksOf l.publicKey = (s.locksOf l.publicKey).erase l :=
    locksOf_erase hl _ _
  constructor
  · intro fr hfr hpk fr' hfr' hpk' n hn
    have hbefore := h.holds fr hfr
    have hholds := hafter.holds fr' hfr'
    rw [hpk] at hbefore
    rw [hpk', herase] at hholds
    have hnodup : (s.locksOf l.publicKey).Nodup := hbefore.nodup.of_map
    by_cases hused : ∃ l' ∈ s.locksOf l.publicKey, l'.token = DHTFriend.lockToken n
    · obtain ⟨l', hl', htoken⟩ := hused
      split
      · -- the slot of the deleted lock
        rename_i hn'
        apply hholds.cleared n hn
        rw [← Bool.not_eq_true, hholds.flags n hn]
        rintro ⟨l'', hl'', htoken''⟩
        obtain ⟨hne, hl''⟩ := hnodup.mem_erase_iff.mp hl''
        exact hne (inj_on_of_nodup_map hbefore.nodup hl'' hlocks (htoken''.trans hn'.symm))
      · rename_i hn'
        rw [hbefore.installed n hn l' hl' htoken]
        apply hholds.installed n hn l' _ htoken
        refine hnodup.mem_erase_iff.mpr ⟨?_, hl'⟩
        rintro rfl
        exact hn' htoken
    · rw [if_neg (fun hn' => hused ⟨l, hlocks, hn'⟩)]
      -- an unused slot stays empty
      rw [hbefore.cleared n hn, hholds.cleared n hn]
      · rw [← Bool.not_eq_true, hholds.flags n hn]
        rintro ⟨l', hl', htoken⟩
        exact hused ⟨l', mem_of_mem_erase hl', htoken⟩
      · rw [← Bool.not_eq_true, hbefore.flags n hn]
        exact hused
  · have hentry := hafter.entry l.publicKey
    rw [herase] at hentry
    constructor
    · intro hnone
      have hnil : (s.locksOf l.publicKey).erase l = [] := by
        by_contra hne
        obtain ⟨fr', hfr', hpk'⟩ := hentry.mpr hne
        exact hnone fr' hfr' hpk'
      have hperm := perm_cons_erase hlocks
      rw [hnil] at hperm
      exact perm_singleton.mp hperm
    · intro hlast fr' hfr' hpk'
      apply hentry.mp ⟨fr', hfr', hpk'⟩
      rw [hlast]
      simp

/-- In every run whose calls of `dht_addfriend` meet `LockOk`, the locks are accounted for. -/
theorem locks_accounted (h : (lockSystem box LockOk).Reachable s) :
    s.Accounted ∧
    (∀ fr ∈ s.dht.friends, fr.numLocks = (s.locksOf fr.publicKey).length) ∧
    (∀ env publicKey callback lockToken, LockOk s.dht env publicKey lockToken →
      AddOk s env publicKey callback lockToken) ∧
    ∀ env, ∀ l ∈ s.outstanding, DelOk s (s.delfriend env l) l := by
  have hacc := accounted_of_reachable h
  exact ⟨hacc, fun fr hfr => (hacc.holds fr hfr).numLocks_eq,
    fun env publicKey callback lockToken hok => hacc.addOk hok, fun env l hl => hacc.delOk hl⟩

/-! ### Runs with a friend -/

theorem isSome_fresh : (DHT.fresh? 0 1).isSome := by decide +kernel

def fakeOnly : LockState where
  dht := (DHT.fresh? 0 1).get isSome_fresh
  fake := ((DHT.fresh? 0 1).get isSome_fresh).friends.map fakeLock
  outstanding := []

theorem fresh_fakeOnly : fakeOnly.Fresh :=
  ⟨⟨_, _, _, _, (Option.some_get isSome_fresh).symm⟩, rfl, rfl⟩

/-- The friend `05..05` was added. -/
def oneFriend : LockState := fakeOnly.addfriend (.good 0) (key 5) emptyCallback 0

theorem not_mem_fakeOnly : ∀ fr ∈ fakeOnly.dht.friends, fr.publicKey ≠ key 5 := by
  decide +kernel

theorem lockOk_fakeOnly : LockOk fakeOnly.dht (.good 0) (key 5) 0 := by
  constructor
  · intro fr hfr hpk
    exact absurd hpk (not_mem_fakeOnly fr hfr)
  · intro _ _
    decide +kernel

/-- A run in which one friend is added. -/
theorem locks_accounted_oneFriend : (oneFriend.outstanding.map (·.token)) = [1] ∧ oneFriend.Accounted :=
  ⟨by decide +kernel, (locks_accounted (.step (.init fresh_fakeOnly)
    (.inl ⟨(.good 0), key 5, emptyCallback, 0, lockOk_fakeOnly, rfl⟩) :
      (lockSystem xorBox LockOk).Reachable oneFriend)).1⟩

/-- The second module that adds the friend gets no token. -/
theorem not_addOk_oneFriend :
    ¬∀ (box : CryptoBox) (s : LockState),
      (lockSystem box fun _ _ _ _ => True).Reachable s →
      ∀ env publicKey callback lockToken, AddOk s env publicKey callback lockToken := by
  intro h
  have hreach : (lockSystem xorBox fun _ _ _ _ => True).Reachable oneFriend :=
    .step (.init fresh_fakeOnly) (.inl ⟨(.good 0), key 5, emptyCallback, 0, trivial, rfl⟩)
  have hadded : (oneFriend.dht.dhtAddfriend (.good 0) (key 5) emptyCallback 0).1 = true := by
    decide +kernel
  have htoken : (oneFriend.dht.dhtAddfriend (.good 0) (key 5) emptyCallback 0).2.1 = 0 := by
    decide +kernel
  obtain ⟨⟨n, hn, hbit⟩, -⟩ := h xorBox oneFriend hreach (.good 0) (key 5) emptyCallback 0 hadded
  rw [htoken] at hbit
  exact DHTFriend.lockToken_ne_zero hn hbit.symm

end LockState

end Toxcore

import Mathlib.Data.List.Basic
import Toxcore.Native.SharedKeyCache

/-!
# Correctness of the cache of shared keys

An entry that is not empty holds what `encrypt_precompute` returns for its key, so a lookup returns
what `encrypt_precompute` returns.  A bucket has one entry for a key, and its time is the time of a
lookup of that key.
-/

namespace Toxcore

open List

namespace SharedKeyCache

variable {box : CryptoBox} {cache : SharedKeyCache}

def SlotsCorrect (box : CryptoBox) (secretKey : SecretKey) (bucket : List SharedKeySlot) : Prop :=
  ∀ k ∈ bucket, k.isEmpty = false → box.beforenm k.publicKey secretKey = some k.sharedKey

/-- The cache is for this secret key, its entries are correct, and so is its timeout. -/
structure Correct (box : CryptoBox) (secretKey : SecretKey) (cache : SharedKeyCache) : Prop where
  selfSecretKey : cache.selfSecretKey = secretKey
  timeout : cache.timeout = 0
  slots : ∀ b, SlotsCorrect box secretKey (cache.keys b)

variable {timeout : UInt64} {secretKey : SecretKey}

theorem correct_new (box : CryptoBox) {now : UInt64} {keysPerSlot : UInt8}
    (h : sharedKeyCacheNew now secretKey timeout keysPerSlot = some cache) :
    cache.Correct box secretKey := by
  unfold sharedKeyCacheNew at h
  split at h
  · cases h
  split at h
  · cases h
  cases h
  refine ⟨rfl, rfl, fun b k hk hempty => ?_⟩
  rw [eq_of_mem_replicate hk] at hempty
  exact nomatch hempty

variable {bucket : List SharedKeySlot}

theorem SlotsCorrect.housekeep (h : SlotsCorrect box secretKey bucket) (timeout curTime : UInt64) :
    SlotsCorrect box secretKey (housekeep timeout curTime bucket) := by
  intro k hk hempty
  obtain ⟨k₀, hk₀, rfl⟩ := mem_map.mp hk
  split at hempty
  · rename_i hunused
    rw [if_pos hunused]
    exact h k₀ hk₀ hempty
  rename_i hused
  rw [if_neg hused]
  split at hempty
  · exact nomatch hempty
  · rename_i htime
    rw [if_neg htime]
    exact h k₀ hk₀ hempty

theorem SlotsCorrect.update {b : UInt8} (h : cache.Correct box secretKey) (hbucket : SlotsCorrect box secretKey bucket)
    :
    Correct box secretKey { cache with keys := Function.update cache.keys b bucket } := by
  refine ⟨h.selfSecretKey, h.timeout, fun b' => ?_⟩
  by_cases hb : b' = b
  · subst hb
    simpa using hbucket
  · simpa [hb] using h.slots b'

variable {k : SharedKeySlot}

theorem housekeep_modify {i : Nat} {curTime : UInt64} (hk : bucket[i]? = some k) :
    (housekeep 0 curTime (bucket.modify i fun k => { k with timeLastRequested := curTime }))[i]? =
      some { k with timeLastRequested := curTime } := by
  simp [housekeep, hk]

theorem Correct.lookup (h : cache.Correct box secretKey) (curTime : UInt64) (publicKey : PublicKey) :
    (cache.lookup box curTime publicKey).1 = box.beforenm publicKey secretKey ∧
      (cache.lookup box curTime publicKey).2.Correct box secretKey := by
  have hslots := h.slots publicKey[8]
  rw [SharedKeyCache.lookup]
  cases hfind : findSlot (cache.keys publicKey[8]) publicKey with
  | some i =>
    -- a hit: the entry gets a new time, and the shared key is read after housekeeping
    obtain ⟨hi, hfound, -⟩ := findIdx?_eq_some_iff_getElem.mp hfind
    rw [Bool.and_eq_true, Bool.not_eq_true', beq_iff_eq] at hfound
    have hmem : (cache.keys publicKey[8])[i] ∈ cache.keys publicKey[8] := getElem_mem hi
    have hkey := hslots _ hmem hfound.1
    rw [← hfound.2] at hkey
    refine ⟨?_, SlotsCorrect.update h (SlotsCorrect.housekeep ?_ _ _)⟩
    · dsimp only
      rw [h.timeout, housekeep_modify (getElem?_eq_getElem hi), hkey]
      rfl
    · intro k hk hempty
      obtain ⟨j, hj, rfl⟩ := mem_iff_getElem.mp hk
      rw [getElem_modify] at hempty ⊢
      split at hempty
      · rename_i hij
        subst hij
        simp only [if_true]
        exact hslots _ hmem hfound.1
      · rename_i hij
        simp only [if_neg hij]
        exact hslots _ (getElem_mem _) hempty
  | none =>
    have hhouse := hslots.housekeep cache.timeout curTime
    have hkeys : box.beforenm publicKey cache.selfSecretKey = box.beforenm publicKey secretKey := by
      rw [h.selfSecretKey]
    -- `encrypt_precompute` fails on a weak key, and nothing is stored then
    cases hkey : box.beforenm publicKey cache.selfSecretKey with
    | none => exact ⟨by rw [← hkeys, hkey], SlotsCorrect.update h hhouse⟩
    | some sharedKey =>
      refine ⟨by rw [← hkeys, hkey], SlotsCorrect.update h fun k hk hempty => ?_⟩
      cases mem_or_eq_of_mem_set hk with
      | inl hold => exact hhouse k hold hempty
      | inr hnew =>
        rw [hnew, ← hkeys]
        exact hkey

/-! ## Entries in use -/

def usedKeys (bucket : List SharedKeySlot) : List PublicKey :=
  (bucket.filter fun k => !k.isEmpty).map (·.publicKey)

theorem mem_usedKeys {publicKey : PublicKey} :
    publicKey ∈ usedKeys bucket ↔ ∃ k ∈ bucket, k.isEmpty = false ∧ k.publicKey = publicKey := by
  rw [usedKeys, mem_map]
  constructor
  · intro h
    obtain ⟨k, hk, hkey⟩ := h
    rw [mem_filter, Bool.not_eq_true'] at hk
    exact ⟨k, hk.1, hk.2, hkey⟩
  · intro h
    obtain ⟨k, hk, hused, hkey⟩ := h
    refine ⟨k, mem_filter.mpr ⟨hk, ?_⟩, hkey⟩
    rw [hused]
    rfl

def Keeps (k k' : SharedKeySlot) : Prop :=
  k'.isEmpty = false → k.isEmpty = false ∧ k'.publicKey = k.publicKey

theorem usedKeys_sublist {bucket' : List SharedKeySlot} (h : List.Forall₂ Keeps bucket bucket') :
    (usedKeys bucket').Sublist (usedKeys bucket) := by
  induction h with
  | nil => exact List.Sublist.slnil
  | @cons k k' bucket bucket' hkeeps _ ih =>
    unfold usedKeys at ih ⊢
    cases hused : k'.isEmpty with
    | true =>
      rw [filter_cons_of_neg (by simp [hused])]
      refine ih.trans ?_
      cases hold : k.isEmpty with
      | true => rw [filter_cons_of_neg (by simp [hold])]
      | false =>
        rw [filter_cons_of_pos (by simp [hold])]
        exact sublist_cons_self _ _
    | false =>
      obtain ⟨hold, hkey⟩ := hkeeps hused
      rw [filter_cons_of_pos (by simp [hused]), filter_cons_of_pos (by simp [hold]), map_cons, hkey]
      exact ih.cons_cons _

theorem keeps_housekeep (timeout curTime : UInt64) (bucket : List SharedKeySlot) :
    List.Forall₂ Keeps bucket (housekeep timeout curTime bucket) := by
  rw [SharedKeyCache.housekeep, forall₂_map_right_iff]
  refine forall₂_same.mpr fun k _ hused => ?_
  split at hused
  · rename_i hempty
    rw [if_pos hempty]
    exact ⟨hused, rfl⟩
  · rename_i hnot
    rw [if_neg hnot]
    split at hused
    · cases hused
    · rename_i htime
      rw [if_neg htime]
      exact ⟨hused, rfl⟩

theorem keeps_modify {i : Nat} (hi : i < bucket.length) (hused : bucket[i].isEmpty = false) (curTime : UInt64) :
    List.Forall₂ Keeps bucket (bucket.modify i fun k => { k with timeLastRequested := curTime }) := by
  refine forall₂_iff_get.mpr ⟨(length_modify _ _ _).symm, fun j hj hj' h => ?_⟩
  rw [get_eq_getElem, get_eq_getElem, getElem_modify] at *
  split at h
  · rename_i hij
    subst hij
    rw [if_pos rfl]
    exact ⟨hused, rfl⟩
  · rename_i hij
    rw [if_neg hij]
    exact ⟨h, rfl⟩

theorem usedKeys_set_nodup (h : (usedKeys bucket).Nodup) (hk : k.publicKey ∉ usedKeys bucket) (i : Nat)
    : (usedKeys (bucket.set i k)).Nodup := by
  induction bucket generalizing i with
  | nil => exact h
  | cons k₀ bucket ih =>
    have hrest : (usedKeys bucket).Nodup ∧ k.publicKey ∉ usedKeys bucket := by
      have hsub : (usedKeys bucket).Sublist (usedKeys (k₀ :: bucket)) :=
        ((sublist_cons_self k₀ bucket).filter _).map _
      exact ⟨h.sublist hsub, fun hmem => hk (hsub.subset hmem)⟩
    have hcons : ∀ (k₁ : SharedKeySlot) (bucket₁ : List SharedKeySlot), (usedKeys bucket₁).Nodup →
        (k₁.isEmpty = false → k₁.publicKey ∉ usedKeys bucket₁) → (usedKeys (k₁ :: bucket₁)).Nodup := by
      intro k₁ bucket₁ hnodup hnot
      unfold usedKeys at *
      cases hused : k₁.isEmpty with
      | true => rwa [filter_cons_of_neg (by simp [hused])]
      | false =>
        rw [filter_cons_of_pos (by simp [hused])]
        exact nodup_cons.mpr ⟨hnot hused, hnodup⟩
    cases i with
    | zero => exact hcons k bucket hrest.1 fun _ => hrest.2
    | succ i =>
      -- a key that equals the first one is from the old entries or is the new one
      refine hcons k₀ _ (ih hrest.1 hrest.2 i) fun hused hmem => ?_
      obtain ⟨k₁, hk₁, hused₁, hkey⟩ := mem_usedKeys.mp hmem
      cases mem_or_eq_of_mem_set hk₁ with
      | inl hold =>
        -- the key of the first entry is not in the rest
        have hnot : k₀.publicKey ∉ usedKeys bucket := by
          unfold usedKeys at h
          rw [filter_cons_of_pos (by simp [hused])] at h
          exact (nodup_cons.mp h).1
        exact hnot (hkey ▸ mem_usedKeys.mpr ⟨k₁, hold, hused₁, rfl⟩)
      | inr heq =>
        refine hk (mem_usedKeys.mpr ⟨k₀, mem_cons_self, hused, ?_⟩)
        rw [← hkey, heq]

theorem not_mem_usedKeys_of_findSlot {publicKey : PublicKey} (h : findSlot bucket publicKey = none)
    : publicKey ∉ usedKeys bucket := by
  intro hmem
  obtain ⟨k, hk, hused, hkey⟩ := mem_usedKeys.mp hmem
  have hnot := findIdx?_eq_none_iff.mp h k hk
  rw [hused, hkey] at hnot
  simp at hnot

/-! ## What a lookup does to its bucket -/

/-- The bucket after a lookup: an entry is the one for the key, or one that was there and has not timed
out. -/
structure Touched (timeout curTime : UInt64) (publicKey : PublicKey) (bucket bucket' : List SharedKeySlot) :
    Prop where
  once : (usedKeys bucket).Nodup → (usedKeys bucket').Nodup
  entry : ∀ k ∈ bucket', k.isEmpty = false → (k.publicKey = publicKey ∧ k.timeLastRequested = curTime) ∨
    (k ∈ bucket ∧ ¬k.timeLastRequested + timeout < curTime)

theorem mem_of_mem_housekeep {curTime : UInt64} (hk : k ∈ housekeep timeout curTime bucket) (hused : k.isEmpty = false)
    :
    k ∈ bucket ∧ ¬k.timeLastRequested + timeout < curTime := by
  obtain ⟨k₀, hk₀, rfl⟩ := mem_map.mp hk
  split at hused
  · rename_i hempty
    rw [hempty] at hused
    cases hused
  · rename_i hempty
    rw [if_neg hempty]
    split at hused
    · cases hused
    · rename_i htime
      rw [if_neg htime]
      exact ⟨hk₀, htime⟩

theorem lookup_touched (box : CryptoBox) (cache : SharedKeyCache) (curTime : UInt64) (publicKey : PublicKey) :
    ∃ bucket, (cache.lookup box curTime publicKey).2 =
        { cache with keys := Function.update cache.keys publicKey[8] bucket } ∧
      Touched cache.timeout curTime publicKey (cache.keys publicKey[8]) bucket := by
  rw [SharedKeyCache.lookup]
  cases hfind : findSlot (cache.keys publicKey[8]) publicKey with
  | some i =>
    obtain ⟨hi, hfound, -⟩ := findIdx?_eq_some_iff_getElem.mp hfind
    rw [Bool.and_eq_true, Bool.not_eq_true', beq_iff_eq] at hfound
    refine ⟨_, rfl, ?_, fun k hk hused => ?_⟩
    · intro hnodup
      exact (hnodup.sublist (usedKeys_sublist (keeps_modify hi hfound.1 curTime))).sublist
        (usedKeys_sublist (keeps_housekeep _ _ _))
    · obtain ⟨hmem, htime⟩ := mem_of_mem_housekeep hk hused
      obtain ⟨j, hj, rfl⟩ := mem_iff_getElem.mp hmem
      rw [getElem_modify] at htime ⊢
      split at htime
      · rename_i hij
        subst hij
        rw [if_pos rfl]
        exact .inl ⟨hfound.2.symm, rfl⟩
      · rename_i hij
        rw [if_neg hij]
        exact .inr ⟨getElem_mem _, htime⟩
  | none =>
    -- a miss: the new key is in no entry, so that storing it does not make it a second one
    have hnot := not_mem_usedKeys_of_findSlot hfind
    have hsub := usedKeys_sublist (keeps_housekeep cache.timeout curTime (cache.keys publicKey[8]))
    cases box.beforenm publicKey cache.selfSecretKey with
    | none =>
      exact ⟨_, rfl, fun hnodup => hnodup.sublist hsub, fun k hk hused =>
        .inr (mem_of_mem_housekeep hk hused)⟩
    | some sharedKey =>
      refine ⟨_, rfl, fun hnodup => ?_, fun k hk hused => ?_⟩
      · exact usedKeys_set_nodup (hnodup.sublist hsub) (fun hmem => hnot (hsub.subset hmem)) _
      · cases mem_or_eq_of_mem_set hk with
        | inl hold => exact .inr (mem_of_mem_housekeep hold hused)
        | inr hnew =>
          rw [hnew]
          exact .inl ⟨rfl, rfl⟩

/-! ## Runs -/

def lookups (box : CryptoBox) : SharedKeyCache → List (UInt64 × PublicKey) →
    List (Option SharedKey) × SharedKeyCache
  | cache, [] => ([], cache)
  | cache, (curTime, publicKey) :: calls =>
    let found := cache.lookup box curTime publicKey
    let rest := lookups box found.2 calls
    (found.1 :: rest.1, rest.2)

theorem lookups_cons (call : UInt64 × PublicKey) (calls : List (UInt64 × PublicKey)) :
    cache.lookups box (call :: calls) =
      ((cache.lookup box call.1 call.2).1 :: ((cache.lookup box call.1 call.2).2.lookups box calls).1,
        ((cache.lookup box call.1 call.2).2.lookups box calls).2) := rfl

structure Tracked (calls : List (UInt64 × PublicKey)) (cache : SharedKeyCache) : Prop where
  once : ∀ b, (usedKeys (cache.keys b)).Nodup
  called : ∀ b, ∀ k ∈ cache.keys b, k.isEmpty = false → (k.timeLastRequested, k.publicKey) ∈ calls

theorem Tracked.lookup {calls : List (UInt64 × PublicKey)} (h : Tracked calls cache) (curTime : UInt64)
    (publicKey : PublicKey) :
    Tracked (calls ++ [(curTime, publicKey)]) (cache.lookup box curTime publicKey).2 := by
  obtain ⟨bucket, hcache, htouched⟩ := lookup_touched box cache curTime publicKey
  rw [hcache]
  constructor
  · intro b
    by_cases hb : b = publicKey[8]
    · rw [hb]
      show (usedKeys (Function.update cache.keys publicKey[8] bucket publicKey[8])).Nodup
      rw [Function.update_self]
      exact htouched.once (h.once _)
    · show (usedKeys (Function.update cache.keys publicKey[8] bucket b)).Nodup
      rw [Function.update_of_ne hb]
      exact h.once b
  · intro b k hk hused
    have hold : ∀ b, k ∈ cache.keys b → (k.timeLastRequested, k.publicKey) ∈ calls ++ [(curTime, publicKey)] :=
      fun b hmem => mem_append_left _ (h.called b k hmem hused)
    by_cases hb : b = publicKey[8]
    · rw [hb] at hk
      dsimp only at hk
      rw [Function.update_self] at hk
      cases htouched.entry k hk hused with
      | inl hnew =>
        rw [hnew.1, hnew.2]
        exact mem_append_right _ mem_cons_self
      | inr hkept => exact hold _ hkept.1
    · dsimp only at hk
      rw [Function.update_of_ne hb] at hk
      exact hold b hk

theorem lookups_append (calls₁ calls₂ : List (UInt64 × PublicKey)) :
    cache.lookups box (calls₁ ++ calls₂) =
      ((cache.lookups box calls₁).1 ++ ((cache.lookups box calls₁).2.lookups box calls₂).1,
        ((cache.lookups box calls₁).2.lookups box calls₂).2) := by
  induction calls₁ generalizing cache with
  | nil => rfl
  | cons call calls₁ ih =>
    rw [cons_append, lookups_cons, ih]
    rfl

theorem lookups_spec {before : List (UInt64 × PublicKey)} (h : cache.Correct box secretKey)
    (htracked : Tracked before cache) (calls : List (UInt64 × PublicKey)) :
    (cache.lookups box calls).1 = calls.map (fun call => box.beforenm call.2 secretKey) ∧
      (cache.lookups box calls).2.Correct box secretKey ∧
      Tracked (before ++ calls) (cache.lookups box calls).2 := by
  induction calls generalizing cache before with
  | nil =>
    rw [append_nil]
    exact ⟨rfl, h, htracked⟩
  | cons call calls ih =>
    obtain ⟨hresult, hcorrect⟩ := h.lookup call.1 call.2
    obtain ⟨hresults, hcorrect', htracked'⟩ := ih hcorrect (htracked.lookup call.1 call.2)
    rw [map_cons, ← hresult, ← hresults]
    refine ⟨rfl, hcorrect', ?_⟩
    rwa [append_assoc] at htracked'

theorem tracked_new {now : UInt64} {keysPerSlot : UInt8}
    (h : sharedKeyCacheNew now secretKey timeout keysPerSlot = some cache) : Tracked [] cache := by
  unfold sharedKeyCacheNew at h
  split at h
  · cases h
  · split at h
    · cases h
    · cases h
      have hunused : ∀ k ∈ List.replicate keysPerSlot.toNat SharedKeySlot.empty, k.isEmpty = true := by
        intro k hk
        rw [eq_of_mem_replicate hk]
        rfl
      constructor
      · intro b
        refine nodup_iff_sublist.mpr fun key hsub => ?_
        obtain ⟨k, hk, hused, -⟩ := mem_usedKeys.mp (hsub.subset mem_cons_self)
        rw [hunused k hk] at hused
        cases hused
      · intro b k hk hused
        rw [hunused k hk] at hused
        cases hused

/-- The cache cannot be told from `encrypt_precompute`; a bucket has one entry for a key, not older than the
    timeout. That of the cache is zero, so that older entries are erased. -/
theorem lookups_transparent (box : CryptoBox) {now timeout : UInt64} {secretKey : SecretKey} {keysPerSlot : UInt8}
    (hnew : sharedKeyCacheNew now secretKey timeout keysPerSlot = some cache)
    (calls : List (UInt64 × PublicKey)) :
    (cache.lookups box calls).1 = calls.map (fun call => box.beforenm call.2 secretKey) ∧
    (∀ b, (usedKeys ((cache.lookups box calls).2.keys b)).Nodup) ∧
    ∀ earlier curTime publicKey, calls = earlier ++ [(curTime, publicKey)] →
      ∀ k ∈ (cache.lookups box calls).2.keys publicKey[8], k.isEmpty = false →
        ∃ call ∈ calls, call.2 = k.publicKey ∧ curTime.toNat ≤ call.1.toNat + timeout.toNat := by
  have hcorrect := correct_new box hnew
  obtain ⟨hresults, -, htracked⟩ := lookups_spec hcorrect (tracked_new hnew) calls
  refine ⟨hresults, htracked.once, ?_⟩
  intro earlier curTime publicKey hcalls k hk hused
  refine ⟨_, htracked.called _ k hk hused, rfl, ?_⟩
  -- the last lookup went over the bucket, with the timeout that the cache still has
  obtain ⟨-, hearlier, -⟩ := lookups_spec hcorrect (tracked_new hnew) earlier
  obtain ⟨bucket, hcache, htouched⟩ :=
    lookup_touched box (cache.lookups box earlier).2 curTime publicKey
  have hlast : (cache.lookups box calls).2 = ((cache.lookups box earlier).2.lookup box curTime publicKey).2 := by
    rw [hcalls, lookups_append]
    rfl
  rw [hlast, hcache] at hk
  dsimp only at hk
  rw [Function.update_self] at hk
  cases htouched.entry k hk hused with
  | inl hnow =>
    rw [hnow.2]
    exact Nat.le_add_right _ _
  | inr hkept =>
    have htime := hkept.2
    rw [hearlier.timeout, UInt64.add_zero] at htime
    exact Nat.le_trans (UInt64.le_iff_toNat_le.mp (UInt64.not_lt.mp htime)) (Nat.le_add_right _ _)

def threeLookups : List (UInt64 × PublicKey) := [(5, key 1), (5, key 2), (700, key 1)]

theorem lookups_transparent_three : ∃ cache, sharedKeyCacheNew 5 (key 3) 600 2 = some cache ∧
    (cache.lookups xorBox threeLookups).1 = threeLookups.map (fun call => xorBox.beforenm call.2 (key 3)) ∧
    (∀ b, (usedKeys ((cache.lookups xorBox threeLookups).2.keys b)).Nodup) ∧
    ∀ earlier curTime publicKey, threeLookups = earlier ++ [(curTime, publicKey)] →
      ∀ k ∈ (cache.lookups xorBox threeLookups).2.keys publicKey[8], k.isEmpty = false →
        ∃ call ∈ threeLookups, call.2 = k.publicKey ∧
          curTime.toNat ≤ call.1.toNat + (600 : UInt64).toNat :=
  have hnew : sharedKeyCacheNew 5 (key 3) 600 2 = some _ := rfl
  ⟨_, hnew, lookups_transparent xorBox hnew threeLookups⟩

end SharedKeyCache

end Toxcore

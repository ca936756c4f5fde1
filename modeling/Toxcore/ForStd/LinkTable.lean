import Mathlib.Tactic.Common
import Mathlib.Logic.Function.Basic

/-!
# Tables of mutual links

Parties with a key hold slots, and two slots of different parties can be linked.  Each end of a
link is stored with its own party, so every operation has to keep the two ends in agreement.
-/

inductive LinkEnd (ι σ K : Type) where
  | unused
  /-- The slot waits for the party with this key. -/
  | waiting (key : K)
  | linked (key : K) (party : ι) (slot : σ)

def LinkEnd.key? {ι σ K : Type} : LinkEnd ι σ K → Option K
  | unused => none
  | waiting key => some key
  | linked key _ _ => some key

@[ext]
structure LinkTable (ι σ K : Type) where
  key : ι → Option K
  slot : ι → σ → LinkEnd ι σ K

namespace LinkTable

variable {ι σ K : Type} {t : LinkTable ι σ K} {i j : ι} {p q : σ} {k : K}

/-! ## Symmetric tables -/

structure Symmetric (t : LinkTable ι σ K) : Prop where
  /-- The other end is a party with the key, and links back. -/
  linked : ∀ {i p k j q}, t.slot i p = .linked k j q →
    ∃ ki, t.key i = some ki ∧ t.key j = some k ∧ t.slot j q = .linked ki i p
  /-- Slots belong to parties, and are for other parties. -/
  used : ∀ {i p k}, (t.slot i p).key? = some k → ∃ ki, t.key i = some ki ∧ ki ≠ k
  /-- No party has two slots for one key. -/
  distinct : ∀ {i p q k}, (t.slot i p).key? = some k → (t.slot i q).key? = some k → p = q
  /-- No two parties have one key. -/
  keys : ∀ {i j k}, t.key i = some k → t.key j = some k → i = j

theorem symmetric_of_empty (hkey : ∀ i, t.key i = none) (hslot : ∀ i p, t.slot i p = .unused) :
    t.Symmetric := by
  constructor
  case linked =>
    intro i p k j q h
    rw [hslot] at h
    cases h
  case used =>
    intro i p k h
    rw [hslot] at h
    cases h
  case distinct =>
    intro i p q k h
    rw [hslot] at h
    cases h
  case keys =>
    intro i j k h
    rw [hkey] at h
    cases h

theorem Symmetric.ne_of_linked (h : t.Symmetric) (hlinked : t.slot i p = .linked k j q) : j ≠ i := by
  intro hji
  obtain ⟨ki, hi, hne⟩ := h.used (by rw [hlinked]; rfl)
  obtain ⟨-, -, hj, -⟩ := h.linked hlinked
  rw [hji, hi] at hj
  exact hne (Option.some.inj hj)

def setKey [DecidableEq ι] (t : LinkTable ι σ K) (i : ι) (key : Option K) : LinkTable ι σ K :=
  { t with key := Function.update t.key i key }

@[simp] theorem key_setKey_self [DecidableEq ι] {key : Option K} : (t.setKey i key).key i = key := by
  simp [setKey]

theorem key_setKey_of_ne [DecidableEq ι] {key : Option K} (h : j ≠ i) : (t.setKey i key).key j = t.key j := by
  simp [setKey, h]

theorem Symmetric.of_fewerKeys {t' : LinkTable ι σ K} (h : t.Symmetric) (hkey : t'.key = t.key)
    (hslots : ∀ {i p k}, (t'.slot i p).key? = some k → (t.slot i p).key? = some k)
    (hlinked : ∀ {i p k j q}, t'.slot i p = .linked k j q →
      ∃ ki, t.key i = some ki ∧ t.key j = some k ∧ t'.slot j q = .linked ki i p) : t'.Symmetric := by
  constructor
  case linked =>
    intro i p k j q hlink
    rw [hkey]
    exact hlinked hlink
  case used =>
    intro i p k hused
    rw [hkey]
    exact h.used (hslots hused)
  case distinct =>
    intro i p q k hp hq
    exact h.distinct (hslots hp) (hslots hq)
  case keys =>
    rw [hkey]
    exact h.keys

theorem Symmetric.admit [DecidableEq ι] (h : t.Symmetric) (hi : t.key i = none)
    (hnew : ∀ j, t.key j ≠ some k) : (t.setKey i (some k)).Symmetric := by
  have hold : ∀ {j k'}, t.key j = some k' → (t.setKey i (some k)).key j = some k' := by
    intro j k' hj
    have hne : j ≠ i := by
      intro hji
      rw [hji, hi] at hj
      cases hj
    rw [key_setKey_of_ne hne]
    exact hj
  constructor
  case linked =>
    intro j p k' j' q hlinked
    obtain ⟨kj, hj, hj', hback⟩ := h.linked hlinked
    exact ⟨kj, hold hj, hold hj', hback⟩
  case used =>
    intro j p k' hused
    obtain ⟨kj, hj, hne⟩ := h.used hused
    exact ⟨kj, hold hj, hne⟩
  case distinct => exact h.distinct
  case keys =>
    intro j j' k' hj hj'
    by_cases hji : j = i
    · by_cases hji' : j' = i
      · rw [hji, hji']
      · rw [hji, key_setKey_self] at hj
        rw [key_setKey_of_ne hji', ← Option.some.inj hj] at hj'
        exact absurd hj' (hnew j')
    · rw [key_setKey_of_ne hji] at hj
      by_cases hji' : j' = i
      · rw [hji', key_setKey_self] at hj'
        rw [← Option.some.inj hj'] at hj
        exact absurd hj (hnew j)
      · rw [key_setKey_of_ne hji'] at hj'
        exact h.keys hj hj'

theorem Symmetric.expel [DecidableEq ι] (h : t.Symmetric) (hslots : ∀ p, t.slot i p = .unused) :
    (t.setKey i none).Symmetric := by
  have hkept : ∀ {j k'}, j ≠ i → t.key j = some k' → (t.setKey i none).key j = some k' := by
    intro j k' hne hj
    rw [key_setKey_of_ne hne]
    exact hj
  have hkeyOf : ∀ {j k'}, (t.setKey i none).key j = some k' → t.key j = some k' := by
    intro j k' hj
    by_cases hji : j = i
    · rw [hji, key_setKey_self] at hj
      cases hj
    · rw [key_setKey_of_ne hji] at hj
      exact hj
  have hparty : ∀ j p k', (t.slot j p).key? = some k' → j ≠ i := by
    intro j p k' hused hji
    rw [hji, hslots] at hused
    cases hused
  constructor
  case linked =>
    intro j p k' j' q hlinked
    replace hlinked : t.slot j p = .linked k' j' q := hlinked
    obtain ⟨kj, hj, hj', hback⟩ := h.linked hlinked
    exact ⟨kj, hkept (hparty j p k' (by rw [hlinked]; rfl)) hj,
      hkept (hparty j' q kj (by rw [hback]; rfl)) hj', hback⟩
  case used =>
    intro j p k' hused
    obtain ⟨kj, hj, hne⟩ := h.used hused
    exact ⟨kj, hkept (hparty j p k' hused) hj, hne⟩
  case distinct => exact h.distinct
  case keys =>
    intro j j' k' hj hj'
    exact h.keys (hkeyOf hj) (hkeyOf hj')

/-! ## Slots -/

section Slots

variable [DecidableEq ι] [DecidableEq σ] (t)

def setSlot (i : ι) (p : σ) (value : LinkEnd ι σ K) : LinkTable ι σ K :=
  { t with slot := Function.update t.slot i (Function.update (t.slot i) p value) }

/-- Links a slot of `i` and a slot of `j`. -/
def join (i : ι) (p : σ) (ki : K) (j : ι) (q : σ) (kj : K) : LinkTable ι σ K :=
  (t.setSlot i p (.linked kj j q)).setSlot j q (.linked ki i p)

def release (i : ι) (p : σ) : LinkTable ι σ K :=
  match t.slot i p with
  | .linked _ j q =>
    match (t.slot j q).key? with
    | some k => (t.setSlot j q (.waiting k)).setSlot i p .unused
    | none => t.setSlot i p .unused
  | _ => t.setSlot i p .unused

variable {t} {value : LinkEnd ι σ K}

theorem slot_setSlot : (t.setSlot i p value).slot j q = if j = i ∧ q = p then value else t.slot j q := by
  unfold setSlot
  by_cases hj : j = i
  · subst hj
    by_cases hq : q = p
    · subst hq
      simp
    · simp [hq]
  · simp [hj]

@[simp] theorem slot_setSlot_self : (t.setSlot i p value).slot i p = value := by
  simp [slot_setSlot]

theorem slot_setSlot_of_ne (h : j ≠ i ∨ q ≠ p) : (t.setSlot i p value).slot j q = t.slot j q := by
  rw [slot_setSlot, if_neg]
  intro heq
  rcases h with h | h
  · exact h heq.1
  · exact h heq.2

theorem setSlot_of_eq (h : t.slot i p = value) : t.setSlot i p value = t := by
  unfold setSlot
  rw [← h]
  simp

/-! ## Releasing a slot -/

@[simp] theorem key_release : (t.release i p).key = t.key := by
  unfold release
  split
  · split
    · rfl
    · rfl
  · rfl

theorem release_of_unused (h : t.slot i p = .unused) : t.release i p = t := by
  rw [release, h]
  exact setSlot_of_eq h

theorem release_of_waiting (h : t.slot i p = .waiting k) : t.release i p = t.setSlot i p .unused := by
  rw [release, h]

theorem release_of_linked {k' : K} (h : t.slot i p = .linked k j q) (hback : t.slot j q = .linked k' i p) :
    t.release i p = (t.setSlot j q (.waiting k')).setSlot i p .unused := by
  rw [release, h]
  dsimp only
  rw [hback]
  rfl

namespace Symmetric

theorem wait (h : t.Symmetric) {ki : K} (hslot : t.slot i p = .unused) (hi : t.key i = some ki)
    (hne : ki ≠ k) (hfree : ∀ q, (t.slot i q).key? ≠ some k) :
    (t.setSlot i p (.waiting k)).Symmetric := by
  have hkeys : ∀ {j q k'}, ((t.setSlot i p (.waiting k)).slot j q).key? = some k' →
      (j = i ∧ q = p ∧ k' = k) ∨ ((j ≠ i ∨ q ≠ p) ∧ (t.slot j q).key? = some k') := by
    intro j q k' hkey
    by_cases hjq : j = i ∧ q = p
    · obtain ⟨rfl, rfl⟩ := hjq
      rw [slot_setSlot_self] at hkey
      exact .inl ⟨rfl, rfl, (Option.some.inj hkey).symm⟩
    · have hjq' : j ≠ i ∨ q ≠ p := by
        by_contra hcon
        push Not at hcon
        exact hjq hcon
      rw [slot_setSlot_of_ne hjq'] at hkey
      exact .inr ⟨hjq', hkey⟩
  constructor
  case linked =>
    intro j q k' j' q' hlinked
    rw [slot_setSlot] at hlinked
    split at hlinked
    · cases hlinked
    obtain ⟨kj, hj, hj', hback⟩ := h.linked hlinked
    refine ⟨kj, hj, hj', ?_⟩
    rw [slot_setSlot, if_neg]
    · exact hback
    · rintro ⟨rfl, rfl⟩
      rw [hslot] at hback
      cases hback
  case used =>
    intro j q k' hkey
    rcases hkeys hkey with ⟨rfl, rfl, rfl⟩ | ⟨-, hkey⟩
    · exact ⟨ki, hi, hne⟩
    · exact h.used hkey
  case distinct =>
    intro j q q' k' hq hq'
    rcases hkeys hq with ⟨rfl, rfl, rfl⟩ | ⟨-, hold⟩
    · rcases hkeys hq' with ⟨-, rfl, -⟩ | ⟨-, hold'⟩
      · rfl
      · exact absurd hold' (hfree q')
    · rcases hkeys hq' with ⟨rfl, rfl, rfl⟩ | ⟨-, hold'⟩
      · exact absurd hold (hfree q)
      · exact h.distinct hold hold'
  case keys => exact h.keys

theorem join (h : t.Symmetric) {ki kj : K} (hi : t.key i = some ki) (hj : t.key j = some kj)
    (hp : t.slot i p = .waiting kj) (hq : t.slot j q = .waiting ki) :
    (t.join i p ki j q kj).Symmetric := by
  have hij : j ≠ i := by
    rintro rfl
    obtain ⟨ki', hi', hne⟩ := h.used (p := p) (k := kj) (by rw [hp]; rfl)
    rw [hj] at hi'
    exact hne (Option.some.inj hi').symm
  have hslot : ∀ i' p', (t.join i p ki j q kj).slot i' p' =
      if i' = j ∧ p' = q then .linked ki i p
      else if i' = i ∧ p' = p then .linked kj j q else t.slot i' p' := by
    intro i' p'
    rw [LinkTable.join, slot_setSlot, slot_setSlot]
  refine h.of_fewerKeys rfl ?_ ?_
  · intro i' p' k' hkey
    rw [hslot] at hkey
    split at hkey
    · rename_i heq
      rw [heq.1, heq.2, hq]
      exact hkey
    split at hkey
    · rename_i heq
      rw [heq.1, heq.2, hp]
      exact hkey
    · exact hkey
  · intro i' p' k j' q' hlinked
    rw [hslot] at hlinked
    split at hlinked
    · rename_i heq
      obtain ⟨rfl, rfl⟩ := heq
      cases hlinked
      refine ⟨kj, hj, hi, ?_⟩
      rw [hslot, if_neg (fun heq => hij heq.1.symm), if_pos ⟨rfl, rfl⟩]
    split at hlinked
    · rename_i heq
      obtain ⟨rfl, rfl⟩ := heq
      cases hlinked
      refine ⟨ki, hi, hj, ?_⟩
      rw [hslot, if_pos ⟨rfl, rfl⟩]
    · obtain ⟨ki', hi', hj', hback⟩ := h.linked hlinked
      refine ⟨ki', hi', hj', ?_⟩
      -- a slot that links back is not one of the two that waited
      rw [hslot, if_neg, if_neg, hback]
      · rintro ⟨rfl, rfl⟩
        rw [hp] at hback
        cases hback
      · rintro ⟨rfl, rfl⟩
        rw [hq] at hback
        cases hback

theorem release (h : t.Symmetric) : (t.release i p).Symmetric := by
  -- only the other end of a link needs work besides the slot itself
  have hclear : (∀ k j q, t.slot i p ≠ .linked k j q) → (t.setSlot i p .unused).Symmetric := by
    intro hnot
    refine h.of_fewerKeys rfl ?_ ?_
    · intro i' p' k' hkey
      rw [slot_setSlot] at hkey
      split at hkey
      · cases hkey
      · exact hkey
    · intro i' p' k' j' q' hlinked
      rw [slot_setSlot] at hlinked
      split at hlinked
      · cases hlinked
      obtain ⟨ki, hi, hj, hback⟩ := h.linked hlinked
      refine ⟨ki, hi, hj, ?_⟩
      rw [slot_setSlot, if_neg]
      · exact hback
      · rintro ⟨rfl, rfl⟩
        exact hnot _ _ _ hback
  unfold LinkTable.release
  split
  · rename_i k j q hlinked
    obtain ⟨ki, hi, hj, hback⟩ := h.linked hlinked
    have hkey : (t.slot j q).key? = some ki := by
      rw [hback]
      rfl
    rw [hkey]
    refine h.of_fewerKeys rfl ?_ ?_
    · intro i' p' k' hkey'
      rw [slot_setSlot, slot_setSlot] at hkey'
      split at hkey'
      · cases hkey'
      split at hkey'
      · rename_i heq
        rw [heq.1, heq.2, hkey]
        exact hkey'
      · exact hkey'
    · intro i' p' k' j' q' hlinked'
      rw [slot_setSlot, slot_setSlot] at hlinked'
      split at hlinked'
      · cases hlinked'
      split at hlinked'
      · cases hlinked'
      rename_i hp hq
      obtain ⟨ki', hi', hj', hback'⟩ := h.linked hlinked'
      refine ⟨ki', hi', hj', ?_⟩
      -- a link to one of the two slots comes from the other one
      rw [slot_setSlot, if_neg, slot_setSlot, if_neg, hback']
      · rintro ⟨rfl, rfl⟩
        rw [hback] at hback'
        cases hback'
        exact hp ⟨rfl, rfl⟩
      · rintro ⟨rfl, rfl⟩
        rw [hlinked] at hback'
        cases hback'
        exact hq ⟨rfl, rfl⟩
  · rename_i hnot
    exact hclear hnot

theorem key?_release_of_ne (h : t.Symmetric) {i' : ι} (hne : i' ≠ i) :
    ((t.release i p).slot i' q).key? = (t.slot i' q).key? := by
  unfold LinkTable.release
  split
  · rename_i k j q' hlinked
    obtain ⟨ki, -, -, hback⟩ := h.linked hlinked
    have hkey : (t.slot j q').key? = some ki := by
      rw [hback]
      rfl
    rw [hkey]
    rw [slot_setSlot_of_ne (.inl hne), slot_setSlot]
    split
    · rename_i heq
      rw [heq.1, heq.2, hkey]
      rfl
    · rfl
  · rw [slot_setSlot_of_ne (.inl hne)]

theorem key?_join {ki kj : K} (hp : t.slot i p = .waiting kj) (hq : t.slot j q = .waiting ki)
    (i' : ι) (p' : σ) : ((t.join i p ki j q kj).slot i' p').key? = (t.slot i' p').key? := by
  rw [LinkTable.join, slot_setSlot]
  split
  · rename_i heq
    rw [heq.1, heq.2, hq]
    rfl
  · rw [slot_setSlot]
    split
    · rename_i heq
      rw [heq.1, heq.2, hp]
      rfl
    · rfl

theorem slot_release_self (h : t.Symmetric) :
    (t.release i p).slot i q = if q = p then .unused else t.slot i q := by
  have hclear : (t.setSlot i p .unused).slot i q = if q = p then .unused else t.slot i q := by
    rw [slot_setSlot]
    simp
  unfold LinkTable.release
  split
  · rename_i k j q' hlinked
    have hne := h.ne_of_linked hlinked
    split
    · rw [slot_setSlot, slot_setSlot_of_ne (.inl hne.symm)]
      simp
    · exact hclear
  · exact hclear

end Symmetric

end Slots

end LinkTable

import Mathlib.Data.List.Basic
import Mathlib.Order.Lattice

/-!
# A register with keys

Replicas of a register receive the same items in different orders.  A replica takes over an
item whose key is greater than the key of the item it holds.
-/

namespace Register

variable {α κ : Type*} [LinearOrder κ] (key : α → κ)

/-- What a replica that holds `a` holds after it has received `b`. -/
def receive (a b : α) : α := if key a < key b then b else a

/-- What a replica that holds `a` holds after it has received all items of a list. -/
def run (a : α) (bs : List α) : α := bs.foldl (receive key) a

/-- The items of the list are those of the set, in any order and with any repetitions. -/
def Covers (items bs : List α) : Prop := ∀ b, b ∈ bs ↔ b ∈ items

theorem run_cons (a b : α) (bs : List α) :
    run key a (b :: bs) = run key (receive key a b) bs := rfl

variable {key} {a : α} {items bs bs' : List α}

theorem key_le_key_receive (a b : α) : key a ≤ key (receive key a b) := by
  unfold receive
  split
  · exact le_of_lt ‹_›
  · exact le_refl _

theorem key_le_key_receive_right (a b : α) : key b ≤ key (receive key a b) := by
  unfold receive
  split
  · exact le_refl _
  · exact not_lt.mp ‹_›

theorem key_le_key_run_left (a : α) (bs : List α) : key a ≤ key (run key a bs) := by
  induction bs generalizing a with
  | nil => exact le_refl _
  | cons b bs ih => exact le_trans (key_le_key_receive a b) (ih _)

theorem key_le_key_run (a : α) {b : α} (hb : b ∈ bs) : key b ≤ key (run key a bs) := by
  induction bs generalizing a with
  | nil => exact absurd hb List.not_mem_nil
  | cons c bs ih =>
    rcases List.mem_cons.mp hb with rfl | hb
    · exact le_trans (key_le_key_receive_right a b) (key_le_key_run_left _ bs)
    · exact ih _ hb

theorem run_eq_or_mem (key : α → κ) (a : α) (bs : List α) :
    run key a bs = a ∨ run key a bs ∈ bs ∧ key a < key (run key a bs) := by
  induction bs generalizing a with
  | nil => exact .inl rfl
  | cons b bs ih =>
    rw [run_cons]
    by_cases hlt : key a < key b
    · have hb : receive key a b = b := if_pos hlt
      rw [hb]
      right
      rcases ih b with h | ⟨hmem, hlt'⟩
      · rw [h]
        exact ⟨List.mem_cons_self, hlt⟩
      · exact ⟨List.mem_cons_of_mem b hmem, lt_trans hlt hlt'⟩
    · have ha : receive key a b = a := if_neg hlt
      rw [ha]
      rcases ih a with h | ⟨hmem, hlt'⟩
      · exact .inl h
      · exact .inr ⟨List.mem_cons_of_mem b hmem, hlt'⟩

theorem run_eq_self (h : ∀ b ∈ bs, key b ≤ key a) : run key a bs = a := by
  rcases run_eq_or_mem key a bs with heq | ⟨hmem, hlt⟩
  · exact heq
  · exact absurd hlt (not_lt.mpr (h _ hmem))

theorem key_run_eq (key : α → κ) (a : α) (h : Covers items bs) (h' : Covers items bs') :
    key (run key a bs) = key (run key a bs') := by
  have hle : ∀ {cs cs' : List α}, Covers items cs → Covers items cs' →
      key (run key a cs) ≤ key (run key a cs') := by
    intro cs cs' hcs hcs'
    rcases run_eq_or_mem key a cs with heq | ⟨hmem, -⟩
    · rw [heq]
      exact key_le_key_run_left a cs'
    · exact key_le_key_run a ((hcs' _).mpr ((hcs _).mp hmem))
  exact le_antisymm (hle h h') (hle h' h)

theorem run_eq_run_iff :
    (∀ bs bs', Covers items bs → Covers items bs' → run key a bs = run key a bs') ↔
      ∀ b ∈ items, ∀ b' ∈ items, key a < key b → key b = key b' → (∀ c ∈ items, key c ≤ key b) → b = b' := by
  constructor
  · -- the replica that receives one of the two first keeps it
    intro h b hb b' hb' hlt hkey hmax
    have hrun : ∀ c ∈ items, key a < key c → (∀ d ∈ items, key d ≤ key c) →
        run key a (c :: items) = c := by
      intro c _ hltc hmaxc
      rw [run_cons, receive, if_pos hltc]
      exact run_eq_self hmaxc
    have hcovers : ∀ c ∈ items, Covers items (c :: items) := by
      intro c hc d
      rw [List.mem_cons]
      exact ⟨fun hd => hd.elim (fun heq => heq ▸ hc) id, .inr⟩
    rw [← hrun b hb hlt hmax, ← hrun b' hb' (hkey ▸ hlt) (fun d hd => hkey ▸ hmax d hd)]
    exact h _ _ (hcovers b hb) (hcovers b' hb')
  · intro h bs bs' hbs hbs'
    have hkey := key_run_eq key a hbs hbs'
    rcases run_eq_or_mem key a bs with heq | ⟨hmem, hlt⟩
    · rcases run_eq_or_mem key a bs' with heq' | ⟨-, hlt'⟩
      · rw [heq, heq']
      · rw [heq] at hkey
        exact absurd hlt' (hkey ▸ lt_irrefl _)
    · rcases run_eq_or_mem key a bs' with heq' | ⟨hmem', -⟩
      · rw [heq'] at hkey
        exact absurd hlt (hkey ▸ lt_irrefl _)
      · apply h _ ((hbs _).mp hmem) _ ((hbs' _).mp hmem') hlt hkey
        intro c hc
        exact key_le_key_run a ((hbs c).mpr hc)

end Register

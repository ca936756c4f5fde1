import Mathlib.Tactic.Common

/-!
# Runs step by step

A run is a list of inputs of a step function.  Where every step of a run keeps to a condition, the
states that the run reaches satisfy what one step preserves.
-/

namespace StepRun

variable {σ α : Type} (step : σ → α → σ)

def AllSteps (P : σ → α → Prop) : σ → List α → Prop
  | _, [] => True
  | s, a :: as => P s a ∧ AllSteps P (step s a) as

def AllStates (W : σ → Prop) (s : σ) (as : List α) : Prop :=
  W s ∧ AllSteps step (fun s a => W (step s a)) s as

variable {step} {Inv W : σ → Prop} {P Q : σ → α → Prop} {Valid : α → Prop}

theorem allSteps_iff (hstep : ∀ s a, Inv s → Valid a → Q s a → Inv (step s a))
    (hiff : ∀ s a, Inv s → Valid a → (P s a ↔ Q s a)) (as : List α) (hvalid : ∀ a ∈ as, Valid a) {s : σ}
    (h : Inv s) : AllSteps step P s as ↔ AllSteps step Q s as := by
  induction as generalizing s with
  | nil => exact Iff.rfl
  | cons a as ih =>
    have ha := hvalid a List.mem_cons_self
    have has := fun b hb => hvalid b (List.mem_cons_of_mem a hb)
    have hhead := hiff s a h ha
    constructor
    · intro hall
      have hq := hhead.mp hall.1
      exact ⟨hq, (ih has (hstep s a h ha hq)).mp hall.2⟩
    · intro hall
      exact ⟨hhead.mpr hall.1, (ih has (hstep s a h ha hall.1)).mpr hall.2⟩

theorem allSteps_of (hstep : ∀ s a, Inv s → Valid a → Q s a → P s a ∧ Inv (step s a)) (as : List α)
    (hvalid : ∀ a ∈ as, Valid a) {s : σ} (h : Inv s) (hall : AllSteps step Q s as) : AllSteps step P s as := by
  induction as generalizing s with
  | nil => trivial
  | cons a as ih =>
    obtain ⟨hp, hinv⟩ := hstep s a h (hvalid a List.mem_cons_self) hall.1
    exact ⟨hp, ih (fun b hb => hvalid b (List.mem_cons_of_mem a hb)) hinv hall.2⟩

theorem allStates_iff (hinv : ∀ s, Inv s → W s) (hstep : ∀ s a, Inv s → Valid a → Q s a → Inv (step s a))
    (hbad : ∀ s a, Inv s → Valid a → ¬Q s a → ¬W (step s a)) (as : List α) (hvalid : ∀ a ∈ as, Valid a)
    {s : σ} (h : Inv s) : AllStates step W s as ↔ AllSteps step Q s as := by
  have hiff : ∀ s a, Inv s → Valid a → (W (step s a) ↔ Q s a) := by
    intro s a hs ha
    constructor
    · intro hw
      by_contra hq
      exact hbad s a hs ha hq hw
    · exact fun hq => hinv _ (hstep s a hs ha hq)
  have hsteps := allSteps_iff hstep hiff as hvalid h
  exact ⟨fun hall => hsteps.mp hall.2, fun hall => ⟨hinv s h, hsteps.mpr hall⟩⟩

end StepRun

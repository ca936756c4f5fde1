import Mathlib.Tactic.Common

/-!
# Transition systems

Initial states, a step relation, and the rule that an inductive invariant holds in every
reachable state.
-/

/-- A transition system on the states `σ`. -/
structure TransitionSystem (σ : Type) where
  init : σ → Prop
  step : σ → σ → Prop

namespace TransitionSystem

variable {σ : Type} (T : TransitionSystem σ)

inductive Reachable : σ → Prop where
  | init {s : σ} : T.init s → Reachable s
  | step {s t : σ} : Reachable s → T.step s t → Reachable t

variable {T}

theorem Reachable.invariant {P : σ → Prop} (hinit : ∀ s, T.init s → P s)
    (hstep : ∀ s t, P s → T.step s t → P t) {s : σ} (h : T.Reachable s) : P s := by
  induction h with
  | init hs => exact hinit _ hs
  | step _ hst ih => exact hstep _ _ ih hst

end TransitionSystem

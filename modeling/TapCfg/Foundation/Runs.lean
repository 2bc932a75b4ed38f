/-
  Foundation/Runs.lean --- the states that runs reach.

  A transition system is an initial condition and a step relation.  A property
  of every state of every run is proved once, from the initial states and the
  steps.
-/
import Mathlib.Order.Basic

set_option autoImplicit false

namespace TapCfg.Foundation

variable {S : Type}

/-- The states that runs reach. -/
inductive Runs (init : S → Prop) (step : S → S → Prop) : S → Prop where
  | start {s : S} (h : init s) : Runs init step s
  | next {s s' : S} (h : Runs init step s) (hs : step s s') : Runs init step s'

/-- The steps that meet a condition. -/
def Provided (step cond : S → S → Prop) : S → S → Prop := fun s s' => step s s' ∧ cond s s'

namespace Runs

variable {init : S → Prop} {step : S → S → Prop} {I : S → Prop}

/-- What holds at the start and is kept by every step holds in every state. -/
theorem invariant (h₀ : ∀ s, init s → I s) (hstep : ∀ s s', I s → step s s' → I s') {s : S}
    (h : Runs init step s) : I s := by
  induction h with
  | start h => exact h₀ _ h
  | next _ hs ih => exact hstep _ _ ih hs

/-- What one system does the other does, as seen through `f`. -/
theorem map {T : Type} {init' : T → Prop} {step' : T → T → Prop} (f : S → T)
    (h₀ : ∀ s, init s → init' (f s)) (hstep : ∀ s s', step s s' → step' (f s) (f s')) {s : S}
    (h : Runs init step s) : Runs init' step' (f s) := by
  induction h with
  | start h => exact .start (h₀ _ h)
  | next _ hs ih => exact ih.next (hstep _ _ hs)

/-- A run goes on where another has ended. -/
theorem append {s s' : S} (h : Runs init step s) (h' : Runs (· = s) step s') :
    Runs init step s' := by
  induction h' with
  | start heq => rwa [heq]
  | next _ hs ih => exact ih.next hs

end Runs

end TapCfg.Foundation

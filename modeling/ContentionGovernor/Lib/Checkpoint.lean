import Mathlib.Data.List.Basic
import Mathlib.Data.Option.Basic
import ContentionGovernor.Lib.Runs

/-!
# Checkpoints and recovery

A process steps in memory, saves its state now and then, and loses its memory in a crash.
The steps that survive are those up to the checkpoint a recovery went back to and those made
after it.
-/

namespace Runs

/-- The state in memory and the one that a recovery goes back to. -/
structure Checkpointed (σ : Type*) where
  live : σ
  saved : Option σ := none

inductive Recovery (ℓ : Type*)
  | does (l : ℓ)
  | commits
  | crashes
  | recovers

variable {σ ℓ : Type*} (step : σ → ℓ → Option σ) (init : σ)

/-- The labels of all the steps. -/
def Recovery.label : Recovery ℓ → Option ℓ
  | .does l => some l
  | .commits | .crashes | .recovers => none

variable {step init} {guard : σ → ℓ → Prop} {s : σ} {ls : List ℓ} {c c' : Checkpointed σ}
  {j : Checkpointed (List ℓ)} {r : Recovery ℓ} {rs : List (Recovery ℓ)}

/-- A guarded run from the first state. -/
def Behind (step : σ → ℓ → Option σ) (init : σ) (guard : σ → ℓ → Prop) (ls : List ℓ) (s : σ) :
    Prop := Guarded step guard init ls ∧ exec step init ls = some s

end Runs

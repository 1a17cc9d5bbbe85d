import RadioFlash.Error
/-!
# Actions that may fail

An `Action σ α` changes a state `σ` and then yields an `α` or stops with an `Error`. A failure
keeps every change made before it, which is how the engines behave: a port that was opened stays
open when the next step fails. `focus` runs an action on one part of a larger state.
-/

namespace RadioFlash

/-- A state change that yields a value or stops with an error, keeping the changes made so far. -/
abbrev Action (σ : Type) := ExceptT Error (StateM σ)

namespace Action

variable {σ τ α : Type}

/-- Run an action from a state: the outcome and the final state. -/
def run (m : Action σ α) (s : σ) : Except Error α × σ :=
  (ExceptT.run m).run s

/-- Run an action on the part of the state that `get` picks out, writing it back with `put`. -/
def focus (get : σ → τ) (put : τ → σ → σ) (m : Action τ α) : Action σ α :=
  ExceptT.mk fun s => let p := m.run (get s); pure (p.1, put p.2 s)

/-- Answering a value leaves the state. -/
theorem run_pure (a : α) (s : σ) : (pure a : Action σ α).run s = (.ok a, s) := rfl

/-- Failing leaves the state. -/
theorem run_throw (e : Error) (s : σ) : (throw e : Action σ α).run s = (.error e, s) := rfl

end Action

end RadioFlash

import StorageAdapter.Error

/-! # Actions

An action works on a state and ends in a value or an error. What it has changed before an error
stays changed: nothing is rolled back. -/

namespace StorageAdapter

/-- What may change a state `σ` and ends in a value or an error. -/
abbrev Action (σ α : Type) : Type := EStateM Error σ α

namespace Action

/-- The state after an action, however it ends. -/
def after {σ α : Type} (act : Action σ α) (s : σ) : σ :=
  match act s with
  | .ok _ s => s
  | .error _ s => s

/-- How an action ends, without the state. -/
def outcome {σ α : Type} (act : Action σ α) (s : σ) : Except Error α :=
  match act s with
  | .ok a _ => .ok a
  | .error e _ => .error e

/-- A verdict that no state has a part in. -/
def ofExcept {σ α : Type} : Except Error α → Action σ α
  | .ok a => pure a
  | .error e => throw e

instance {σ : Type} : MonadLift (Except Error) (EStateM Error σ) where
  monadLift := ofExcept

/-- Runs an action on a part of the state. -/
def on {σ τ α : Type} (part : σ → τ) (put : τ → σ → σ) (act : Action τ α) : Action σ α := fun s =>
  match act (part s) with
  | .ok a t => .ok a (put t s)
  | .error e t => .error e (put t s)

/-- Runs an action and yields how it ended instead of failing. -/
def attempt {σ α : Type} (act : Action σ α) : Action σ (Except Error α) := fun s =>
  match act s with
  | .ok a s => .ok (.ok a) s
  | .error e s => .ok (.error e) s

end Action

end StorageAdapter

import SearchOperator.Error

/-!
# Steps

A step is a computation that may change the state of the world and may fail. Everything a pass does
outside itself is a step, for any type of world, so a pass can run against real collaborators, in
memory, or against collaborators that fail as they please.
-/

namespace SearchOperator

/-- A computation on a world of type `σ` that may fail. -/
abbrev Step (σ α : Type) := ExceptT Error (StateM σ) α

namespace Step

variable {σ α : Type}

/-- Change the world without failing. -/
def act (f : StateM σ α) : Step σ α := fun s =>
  let (a, s) := f s
  (.ok a, s)

/-- Run a step; its failure becomes a value. -/
def attempt (step : Step σ α) : Step σ (Except Error α) := fun s =>
  let (result, s) := step s
  (.ok result, s)

/-- A step that only decides. -/
def ofExcept : Except Error α → Step σ α
  | .ok a => pure a
  | .error e => throw e

end Step

/-- When a resource is looked at again. -/
inductive Schedule where
  /-- When it changes. -/
  | onChange
  /-- After a number of seconds, or when it changes. -/
  | after (seconds : Nat)
deriving DecidableEq, Repr

/-- When a resource is looked at again after a pass that failed: retryable errors after a short
delay, all others only when the declared intent changes. -/
def Schedule.afterError (e : Error) : Schedule :=
  if e.isRetryable then .after 5 else .onChange

end SearchOperator

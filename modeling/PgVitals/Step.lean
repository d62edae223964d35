import PgVitals.Fault

/-!
# Steps that may fail

A step changes a state and ends in one of three ways: with a value, with a fault, or by crashing,
which no caller expects and which only the runner of collectors catches. However it ends, the state
holds what the step did until then.
-/

namespace PgVitals

/-- How a step ended. -/
inductive Outcome (α : Type) where
  | done (value : α)
  | failed (fault : Fault)
  /-- By crashing, with a note if the crash left one. -/
  | crashed (note : Option String)
deriving DecidableEq, Repr

namespace Outcome

variable {α β : Type}

def map (f : α → β) : Outcome α → Outcome β
  | done value => done (f value)
  | failed fault => failed fault
  | crashed note => crashed note

def mapFault (f : Fault → Fault) : Outcome α → Outcome α
  | done value => done value
  | failed fault => failed (f fault)
  | crashed note => crashed note

def isDone : Outcome α → Bool
  | done _ => true
  | _ => false

/-- The outcome of a computation without state. -/
def ofExcept : Except Fault α → Outcome α
  | .ok value => done value
  | .error fault => failed fault

end Outcome

/-- A computation over a state that may fail or crash. -/
def Step (σ α : Type) : Type := σ → Outcome α × σ

namespace Step

variable {σ τ α β : Type}

instance : Monad (Step σ) where
  pure value := fun s => (.done value, s)
  bind step next := fun s =>
    match step s with
    | (.done value, s) => next value s
    | (.failed fault, s) => (.failed fault, s)
    | (.crashed note, s) => (.crashed note, s)

theorem bind_pure_id (step : Step σ α) : (step >>= fun value => pure value) = step := by
  funext s
  change (match step s with
    | (.done value, s) => (.done value, s)
    | (.failed fault, s) => (.failed fault, s)
    | (.crashed note, s) => (.crashed note, s)) = step s
  rcases step s with ⟨_ | _ | _, _⟩ <;> rfl

theorem bind_bind (step : Step σ α) (f : α → Step σ β) {γ : Type} (g : β → Step σ γ) :
    (step >>= f) >>= g = step >>= fun value => f value >>= g := by
  funext s
  change (match (match step s with
      | (.done value, s) => f value s
      | (.failed fault, s) => (.failed fault, s)
      | (.crashed note, s) => (.crashed note, s)) with
    | (.done value, s) => g value s
    | (.failed fault, s) => (.failed fault, s)
    | (.crashed note, s) => (.crashed note, s)) = _
  rcases h : step s with ⟨_ | _ | _, _⟩ <;> simp only [bind, h]

instance : LawfulMonad (Step σ) := LawfulMonad.mk' _ bind_pure_id (fun _ _ => rfl)
  (fun step f g => bind_bind step f g)

/-- Ends as an outcome says. -/
def finish (outcome : Outcome α) : Step σ α := fun s => (outcome, s)

def fail (fault : Fault) : Step σ α := finish (.failed fault)

def ofExcept (result : Except Fault α) : Step σ α := finish (.ofExcept result)

def state : Step σ σ := fun s => (.done s, s)

def update (f : σ → σ) : Step σ Unit := fun s => (.done (), f s)

/-- Runs a step to its end, whichever it is, and goes on with its outcome. -/
def attempt (step : Step σ α) : Step σ (Outcome α) := fun s => (.done (step s).1, (step s).2)

def mapFault (f : Fault → Fault) (step : Step σ α) : Step σ α := fun s =>
  ((step s).1.mapFault f, (step s).2)

/-- Runs a step and then, however it ended, another one whose faults do not count. A crash of the
second behind a crash of the first is folded into the first; a process in which a cleanup crashes
while a crash is under way is aborted, and there nothing runs behind it. -/
def ensuring (step : Step σ α) (cleanup : Step σ Unit) : Step σ α := fun s =>
  match step s with
  | (outcome, s) =>
    match cleanup s, outcome with
    | (.crashed _, s), .crashed note => (.crashed note, s)
    | (.crashed note, s), _ => (.crashed note, s)
    | (_, s), outcome => (outcome, s)

/-- Runs a step and then, if it ended with a fault, another one whose faults do not count. -/
def undoing (step : Step σ α) (undo : Step σ Unit) : Step σ α := fun s =>
  match step s with
  | (.failed fault, s) => (ensuring (finish (.failed fault)) undo) s
  | ended => ended

/-- Runs a step whose faults do not count. -/
def quietly (step : Step σ Unit) : Step σ Unit := ensuring (pure ()) step

/-- Runs a step on a part of the state. -/
def on (part : σ → τ) (put : τ → σ → σ) (step : Step τ α) : Step σ α := fun s =>
  ((step (part s)).1, put (step (part s)).2 s)

end Step

end PgVitals

import PgVitals.Cancellation
import PgVitals.Row

/-!
# Connectors

A connector opens sessions from descriptors, runs statements on them and closes them. What a server
does with these calls is left open: it may change its own state and the contexts in any way, fail
and crash. A session can be lent to several users; they take turns under a lock, which stays broken
when a user crashes.
-/

namespace PgVitals

/-- The world around a monitored server. -/
structure Scene (σ : Type) where
  contexts : Contexts
  server : σ
  /-- For every lock of a lent session whether it is broken. -/
  locks : List Bool

namespace Scene

variable {σ ρ α : Type}

/-- The scene around a server at a time, without contexts and locks. -/
def around (server : σ) (now : Nat) : Scene σ := ⟨.startingAt now, server, []⟩

def onContexts (step : Step Contexts α) : Step (Scene σ) α :=
  step.on contexts fun contexts s => { s with contexts := contexts }

def onServer (step : Step σ α) : Step (Scene σ) α :=
  step.on server fun server s => { s with server := server }

/-- A step among the same contexts and locks on a part of the server. -/
def within (part : ρ → σ) (put : σ → ρ → ρ) (step : Step (Scene σ) α) : Step (Scene ρ) α :=
  step.on (fun s => ⟨s.contexts, part s.server, s.locks⟩) fun inner s =>
    ⟨inner.contexts, put inner.server s.server, inner.locks⟩

def check (ctx : ContextId) : Step (Scene σ) Unit := onContexts (Contexts.check ctx)

def cancel (ctx : ContextId) : Step (Scene σ) Unit :=
  onContexts (Step.update fun cs => cs.cancel ctx)

end Scene

/-- The calls that reach a server; `τ` is what stands for an open session. -/
structure Connector (σ τ : Type) where
  connect : ContextId → String → Step (Scene σ) τ
  query : τ → ContextId → String → Step (Scene σ) (List Row)
  close : τ → Step (Scene σ) Unit

/-- A session that is lent, and the lock under which it is used. -/
structure Shared (τ : Type) where
  session : τ
  /-- The place of its lock. -/
  lock : Nat

namespace Shared

variable {σ τ α : Type}

def make (session : τ) : Step (Scene σ) (Shared τ) := fun s =>
  (.done ⟨session, s.locks.length⟩, { s with locks := s.locks ++ [false] })

def isBroken (shared : Shared τ) (s : Scene σ) : Bool := s.locks[shared.lock]?.getD false

/-- Uses the session unless its lock is broken; a crash breaks the lock. -/
def use (shared : Shared τ) (call : τ → Step (Scene σ) α) : Step (Scene σ) (Option α) := fun s =>
  if shared.isBroken s then (.done none, s)
  else
    match call shared.session s with
    | (.crashed note, s) => (.crashed note, { s with locks := s.locks.set shared.lock true })
    | (outcome, s) => (outcome.map some, s)

end Shared

end PgVitals

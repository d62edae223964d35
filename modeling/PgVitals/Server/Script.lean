import PgVitals.Descriptor.Basic
import PgVitals.Server.Connector

/-!
# A server that follows a script

Its answers are looked up by database and statement, where runs of blanks in statements do not
count. It records every descriptor and statement that reached it, and counts the sessions opened
and closed.
-/

namespace PgVitals

/-- What the server does with a statement. -/
inductive Answer where
  | rows (rows : List Row)
  | failure (message : String)
  /-- It runs until its context ends. -/
  | untilCancelled
deriving DecidableEq, Repr

/-- The script and what was recorded. -/
structure Script where
  /-- The answers by database and statement, the newest first. -/
  answers : List ((String × String) × Answer) := []
  refused : List String := []
  /-- The descriptors that reached the server, in order. -/
  descriptors : List String := []
  /-- The statements that reached the server, with their databases, in order. -/
  calls : List (String × String) := []
  opened : Nat := 0
  closed : Nat := 0

namespace Script

/-- The database of a descriptor that names none. -/
def defaultDatabase : String := "postgres"

/-- The database that a descriptor leads to. -/
def databaseOf (descriptor : String) : Except Fault String :=
  (Descriptor.read descriptor).map fun d => d.database?.getD defaultDatabase

def key (database sql : String) : String × String := (database, Text.collapse sql)

def answer (s : Script) (database sql : String) (a : Answer) : Script :=
  { s with answers := (key database sql, a) :: s.answers }

def refuse (s : Script) (database : String) : Script := { s with refused := database :: s.refused }

def answer? (s : Script) (database sql : String) : Option Answer :=
  s.answers.lookup (key database sql)

/-- The databases that a statement has reached, in the order of the first. -/
def queried (s : Script) : List String := (s.calls.map Prod.fst).eraseDups

/-- Opens a session, which is named by its database. -/
def connect (ctx : ContextId) (descriptor : String) : Step (Scene Script) String := do
  Scene.check ctx
  let database ← Step.ofExcept (databaseOf descriptor)
  Scene.onServer (Step.update fun s => { s with descriptors := s.descriptors ++ [descriptor] })
  let scene ← Step.state
  if scene.server.refused.contains database then
    Step.fail (.connectionFailed ("database \"" ++ database ++ "\" does not accept connections"))
  else
    Scene.onServer (Step.update fun s => { s with opened := s.opened + 1 })
    return database

/-- Runs a statement on a database. What happens elsewhere once the statement is recorded happens
before the server answers. -/
def queryAmid (elsewhere : Step (Scene Script) Unit) (database : String) (ctx : ContextId)
    (sql : String) : Step (Scene Script) (List Row) := do
  Scene.check ctx
  Scene.onServer (Step.update fun s => { s with calls := s.calls ++ [(database, sql)] })
  elsewhere
  let scene ← Step.state
  match scene.server.answer? database sql with
  | some (.rows rows) => return rows
  | some (.failure message) => Step.fail (.queryFailed message)
  | some .untilCancelled => Scene.onContexts (Contexts.await ctx)
  | none => Step.fail (.queryFailed ("unexpected query on " ++ database ++ ": " ++ sql))

def query (database : String) (ctx : ContextId) (sql : String) :
    Step (Scene Script) (List Row) :=
  queryAmid (pure ()) database ctx sql

def close (_database : String) : Step (Scene Script) Unit :=
  Scene.onServer (Step.update fun s => { s with closed := s.closed + 1 })

def connector : Connector Script String := ⟨connect, query, close⟩

end Script

end PgVitals

import PgVitals.Server.Script

/-!
# A server with disturbances

The server of a script whose calls can be disturbed: their context ends before, during or after
the call, or the call fails or crashes after it was done. A disturbance holds for an occasion until
another one takes its place.
-/

namespace PgVitals

/-- When a disturbance happens. -/
inductive Occasion where
  | connect (database : String)
  /-- When a statement, without superfluous blanks, runs on a database. -/
  | query (database sql : String)
  | close (database : String)
deriving DecidableEq, Repr

inductive Disturbance where
  | cancelBefore
  | cancelAfter
  /-- Its context is cancelled once the server has recorded it. -/
  | cancelDuring
  /-- It fails after it was done. -/
  | fail (fault : Fault)
  /-- It crashes after it was done. -/
  | crash (note : Option String)
deriving DecidableEq, Repr

/-- A scripted server and its disturbances. -/
structure Rig where
  script : Script := {}
  /-- The disturbances, the newest first. -/
  disturbances : List (Occasion × Disturbance) := []

namespace Rig

variable {α : Type}

def disturb (r : Rig) (occasion : Occasion) (d : Disturbance) : Rig :=
  { r with disturbances := (occasion, d) :: r.disturbances }

def disturbance? (r : Rig) (occasion : Occasion) : Option Disturbance :=
  r.disturbances.lookup occasion

def onScript (call : Step (Scene Script) α) : Step (Scene Rig) α :=
  Scene.within Rig.script (fun script r => { r with script := script }) call

def disturbanceNow (occasion : Occasion) : Step (Scene Rig) (Option Disturbance) := do
  let scene ← Step.state
  return scene.server.disturbance? occasion

/-- Does a call under a context as it is disturbed. -/
def disturbed (ctx : ContextId) (call : Step (Scene Rig) α) :
    Option Disturbance → Step (Scene Rig) α
  | none | some .cancelDuring => call
  | some .cancelBefore => do
    Scene.cancel ctx
    call
  | some .cancelAfter => do
    let outcome ← call.attempt
    Scene.cancel ctx
    Step.finish outcome
  | some (.fail fault) => do
    let _ ← call.attempt
    Step.fail fault
  | some (.crash note) => do
    let _ ← call.attempt
    Step.finish (.crashed note)

def connect (ctx : ContextId) (descriptor : String) : Step (Scene Rig) String := do
  let database ← Step.ofExcept (Script.databaseOf descriptor)
  let disturbance ← disturbanceNow (.connect database)
  disturbed ctx (onScript (Script.connect ctx descriptor)) disturbance

def query (database : String) (ctx : ContextId) (sql : String) :
    Step (Scene Rig) (List Row) := do
  let disturbance ← disturbanceNow (.query database (Text.collapse sql))
  let elsewhere := if disturbance = some .cancelDuring then Scene.cancel ctx else pure ()
  disturbed ctx (onScript (Script.queryAmid elsewhere database ctx sql)) disturbance

/-- Closes a session; no context is there to be cancelled. -/
def close (database : String) : Step (Scene Rig) Unit := do
  let disturbance ← disturbanceNow (.close database)
  let _ ← (onScript (Script.close database)).attempt
  match disturbance with
  | some (.fail fault) => Step.fail fault
  | _ => return ()

def connector : Connector Rig String := ⟨connect, query, close⟩

end Rig

end PgVitals

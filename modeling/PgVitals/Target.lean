import PgVitals.Descriptor.Basic
import PgVitals.Server.Connector
import PgVitals.ServerVersion

/-!
# Monitored servers

A target is a server to collect from: its descriptor, the statement timeout and the connector. To
set it up is to take hold of a session, to send the timeout and to ask for the version. The session
is either opened and then owned by the target, or lent to it; closing the target closes an owned
session only. A sibling is a session to another database of the same server, closed when its user is
done with it.

A target that was never set up is a template: a set-up copy of it is made for every scrape.
-/

namespace PgVitals

/-- A session that a target holds. -/
inductive Hold (τ : Type) where
  | owned (session : τ)
  | lent (shared : Shared τ)

/-- A server to collect from. -/
structure Target (σ τ : Type) where
  connector : Connector σ τ
  descriptor : Descriptor
  /-- The timeout of statements in nanoseconds; zero leaves the server's. -/
  statementTimeout : Nat
  /-- The session held, if the target is set up. -/
  hold : Option (Hold τ)
  version : ServerVersion

/-- A target and the world around it. -/
structure Site (σ τ : Type) where
  target : Target σ τ
  scene : Scene σ

/-- A session to another database of the server. -/
structure Sibling (τ : Type) where
  database : String
  /-- The session, unless it was closed. -/
  session : Option τ

def nanosecondsPerMillisecond : Nat := 1000000

/-- The statement that sets a timeout given in nanoseconds, in whole milliseconds. -/
def timeoutStatement (timeout : Nat) : String :=
  "SET statement_timeout = " ++ toString (timeout / nanosecondsPerMillisecond)

/-- The fault of a timeout that could not be set; the end of the context stays what it is. -/
def timeoutFault (fault : Fault) : Fault :=
  if fault.isCancellation then fault else .timeoutConfigurationFailed fault.message

/-- The statement that asks for the version behind the product's name. -/
def versionStatement : String := "SELECT version()"

/-- The statement that asks for the version alone. -/
def serverVersionStatement : String := "SHOW server_version"

namespace Target

variable {σ τ α : Type}

/-! ## Making targets -/

def unconfigured (connector : Connector σ τ) (descriptor : Descriptor) (statementTimeout : Nat) :
    Target σ τ :=
  ⟨connector, descriptor, statementTimeout, none, .unknown⟩

/-- A target that is not set up, from the text of its descriptor and a timeout in milliseconds. -/
def ofText (connector : Connector σ τ) (descriptor : String) (milliseconds : Nat) :
    Except Fault (Target σ τ) :=
  (Descriptor.read descriptor).map fun d =>
    unconfigured connector d (milliseconds * nanosecondsPerMillisecond)

/-- A copy that is not set up. -/
def template (t : Target σ τ) : Target σ τ :=
  unconfigured t.connector t.descriptor t.statementTimeout

def isConnected (t : Target σ τ) : Bool := t.hold.isSome

def ownsSession (t : Target σ τ) : Bool :=
  match t.hold with
  | some (.owned _) => true
  | _ => false

/-! ## Statements -/

def onScene (step : Step (Scene σ) α) : Step (Site σ τ) α :=
  step.on Site.scene fun scene site => { site with scene := scene }

def this : Step (Site σ τ) (Target σ τ) := do
  let site ← Step.state
  return site.target

/-- Puts a session into the target's hands, in place of any that it held. -/
def take (hold : Option (Hold τ)) : Step (Site σ τ) Unit :=
  Step.update fun site => { site with target := { site.target with hold := hold } }

def query (ctx : ContextId) (sql : String) : Step (Site σ τ) (List Row) := do
  let t ← this
  match t.hold with
  | none => Step.fail (.connectionFailed "instance is not set up")
  | some (.owned session) => onScene (t.connector.query session ctx sql)
  | some (.lent shared) =>
    match ← onScene (shared.use fun session => t.connector.query session ctx sql) with
    -- A shared session answers `none` where its lock was broken by an earlier crash.
    | some rows => return rows
    | none => Step.fail (.connectionFailed "shared session lock poisoned")

/-- Runs a statement and drops the rows. -/
def execute (ctx : ContextId) (sql : String) : Step (Site σ τ) Unit := do
  let _ ← query ctx sql
  return ()

/-- The text in the first column of the first row of an answer; none if there is no row. -/
def singleText (ctx : ContextId) (sql : String) : Step (Site σ τ) (Option String) := do
  let rows ← query ctx sql
  match rows with
  | [] => return none
  | row :: _ => Step.ofExcept (row.text 0)

/-! ## Setting up and closing -/

/-- Asks for the version in both ways, the second only if the first answer cannot be read. -/
def detectVersion (ctx : ContextId) : Step (Site σ τ) ServerVersion := do
  let verbose ← singleText ctx versionStatement
  match verbose.bind ServerVersion.readVerbose? with
  | some version => return version
  | none =>
    let bare ← singleText ctx serverVersionStatement
    match bare.bind ServerVersion.readBare? with
    | some version => return version
    -- The second text goes into the message, or the first one if there was no second.
    | none => Step.fail (.versionUnparseable ((bare.or verbose).getD ""))

/-- Sends the timeout and finds out the version. -/
def configure (ctx : ContextId) : Step (Site σ τ) Unit := do
  let t ← this
  if t.statementTimeout ≠ 0 then
    (execute ctx (timeoutStatement t.statementTimeout)).mapFault timeoutFault
  let version ← detectVersion ctx
  Step.update fun site => { site with target := { site.target with version := version } }

/-- Lets go of the session, and closes it if the target opened it. -/
def close : Step (Site σ τ) Unit := do
  let t ← this
  -- The session is let go of first, so it is gone even if closing it crashes.
  take none
  match t.hold with
  | some (.owned session) => onScene (t.connector.close session)
  | _ => return ()

/-- Opens a session and sets the target up on it; the session is closed again if that fails. -/
def setup (ctx : ContextId) : Step (Site σ τ) Unit := do
  let t ← this
  let session ← onScene (t.connector.connect ctx t.descriptor.text)
  -- Whatever was held before is overwritten here, and nothing closes it.
  take (some (.owned session))
  (configure ctx).undoing close

/-- Sets the target up on a session lent to it, and gives the session back if that fails. -/
def setupShared (ctx : ContextId) (shared : Shared τ) : Step (Site σ τ) Unit := do
  take (some (.lent shared))
  (configure ctx).undoing (take none)

/-- Lets go of a target that is no longer used. -/
def release : Step (Site σ τ) Unit := close.quietly

/-- Sets up a copy of a template. If that does not succeed the copy is released. -/
def openCopy (template : Target σ τ) (ctx : ContextId) : Step (Scene σ) (Target σ τ) := fun scene =>
  match setup ctx ⟨template.template, scene⟩ with
  | (.done (), site) => (.done site.target, site.scene)
  | (.failed fault, site) => (.failed fault, (release site).2.scene)
  | (.crashed note, site) => (.crashed note, (release site).2.scene)

end Target

/-! ## Siblings -/

namespace Sibling

variable {σ τ : Type}

def query (connector : Connector σ τ) (sibling : Sibling τ) (ctx : ContextId) (sql : String) :
    Step (Scene σ) (List Row) :=
  match sibling.session with
  | some session => connector.query session ctx sql
  | none =>
    Step.fail (.connectionFailed ("connection to " ++ sibling.database ++ " already closed"))

def close (connector : Connector σ τ) (sibling : Sibling τ) : Step (Scene σ) Unit :=
  match sibling.session with
  | some session => connector.close session
  | none => return ()

/-- Opens a session to another database of a target's server and sends the timeout. If that does not
succeed the session is closed. -/
def connect (t : Target σ τ) (ctx : ContextId) (database : String) :
    Step (Scene σ) (Sibling τ) := do
  let session ← t.connector.connect ctx (t.descriptor.retarget database).text
  if t.statementTimeout ≠ 0 then
    let sent := t.connector.query session ctx (timeoutStatement t.statementTimeout)
    -- Not yet in anybody's hands: the session has to be closed here.
    match ← (sent.mapFault timeoutFault).attempt with
    | .done _ => return ⟨database, some session⟩
    | .failed fault => (Step.fail fault).ensuring (t.connector.close session)
    | .crashed note => (Step.finish (.crashed note)).ensuring (t.connector.close session)
  else return ⟨database, some session⟩

end Sibling

end PgVitals

import PgVitals.Collector.Basic
import PgVitals.Collector.Selection
import PgVitals.Settings

/-!
# Installed extensions

Each update lists the databases that accept connections, leaves the excluded ones out and selects
those to scan. Every selected database gets a session of its own for the time of the scan; one that
cannot be reached or read is passed over, unless the context has ended. An extension that several
databases have is reported once, for the database scanned last.
-/

namespace PgVitals.Extensions

variable {σ τ : Type}

/-- The name of the collector and the subsystem of its metrics. -/
def subsystem : String := "extension"

/-- One sample for every extension. -/
def info : Metric :=
  ⟨subsystem, "info", "Installed PostgreSQL extensions", ["datname", "extname", "extversion"]⟩

/-- The number of databases that may be scanned. -/
def databasesDiscovered : Metric :=
  ⟨subsystem, "databases_discovered", "Total number of connectable databases found", []⟩

/-- The number of databases selected. -/
def databasesScanned : Metric :=
  ⟨subsystem, "databases_scanned", "Number of databases scanned for extensions this scrape", []⟩

def databaseStatement : String :=
  "SELECT datname FROM pg_catalog.pg_database WHERE datallowconn AND NOT datistemplate"

def extensionStatement : String := "SELECT extname, extversion FROM pg_catalog.pg_extension"

/-- The names that rows list, excluded ones and NULLs left out. -/
def readDatabases (settings : Settings) : List Row → Except Fault (List String)
  | [] => .ok []
  | row :: rest =>
    match row.text 0 with
    | .error fault => .error fault
    | .ok none => readDatabases settings rest
    | .ok (some name) =>
      -- Excluded before the selection, so naming it among those to scan does not help.
      if settings.isExcluded name then readDatabases settings rest
      else (readDatabases settings rest).map (name :: ·)

/-- The names and versions of extensions that rows list; a NULL name is left out, a NULL version is
empty. -/
def readExtensions : List Row → Except Fault (List (String × String))
  | [] => .ok []
  | row :: rest =>
    match row.text 0 with
    | .error fault => .error fault
    | .ok none => readExtensions rest
    | .ok (some name) =>
      match row.text 1 with
      | .error fault => .error fault
      | .ok version => (readExtensions rest).map ((name, version.getD "") :: ·)

/-- The extensions of one database. The session is closed however the scan ends. -/
def scan (ctx : ContextId) (database : String) : Step (Site σ τ) (List (String × String)) := do
  let t ← Target.this
  let sibling ← Target.onScene (Sibling.connect t ctx database)
  let reading : Step (Scene σ) (List (String × String)) := do
    let rows ← sibling.query t.connector ctx extensionStatement
    Step.ofExcept (readExtensions rows)
  Target.onScene (reading.ensuring (sibling.close t.connector))

/-- What is known of the extensions: for each name a database and the version there. -/
abbrev Known := Dictionary (String × String)

/-- What is known after a scan of a database. -/
def note (database : String) (found : List (String × String)) (known : Known) : Known :=
  found.foldl (fun known e => known.insert e.1 (database, e.2)) known

/-- Scans the databases one after the other. -/
def scanAll (ctx : ContextId) : List String → Known → Step (Site σ τ) Known
  | [], known => return known
  | database :: rest, known => do
    match ← (scan ctx database).attempt with
    | .done found => scanAll ctx rest (note database found known)
    | .failed fault => if fault.isCancellation then Step.fail fault else scanAll ctx rest known
    | .crashed note => Step.finish (.crashed note)

def samples (known : Known) : List Sample :=
  known.entries.map fun (name, database, version) => info.gauge 1 [database, name, version]

def update (settings : Settings) (ctx : ContextId) : Task σ τ Unit := do
  let rows ← Task.query ctx databaseStatement
  let eligible ← Task.finish (.ofExcept (readDatabases settings rows))
  Task.emit (databasesDiscovered.gauge eligible.length.toFloat [])
  if eligible.isEmpty then Task.emit (databasesScanned.gauge 0 [])
  else
    let targets ← Task.draw (Selection.select eligible settings.alwaysScanned settings.scanLimit)
    Task.emit (databasesScanned.gauge targets.length.toFloat [])
    let known ← Task.onSite (scanAll ctx targets .empty)
    Task.emitAll (samples known)

def collector (settings : Settings) (draws : Draws) : Collector σ τ := ⟨draws, update settings⟩

end PgVitals.Extensions

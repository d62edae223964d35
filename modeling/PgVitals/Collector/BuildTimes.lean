import PgVitals.Collector.Basic

/-!
# Build times of server binaries

Some servers have functions that tell when one of their binaries was built. Each update asks for
every such function whether the server has it, and reports what it tells. A server that has none has
no data.
-/

namespace PgVitals.BuildTimes

variable {σ τ : Type}

/-- The name of the collector and the subsystem of its metrics. -/
def subsystem : String := "postgres_binaries"

/-- The metric of a binary, named for the function. -/
def metric (binary : String) : Metric :=
  ⟨subsystem, binary ++ "_build_unix_timestamp",
    "Build time of the " ++ binary ++ " binary as a unix timestamp", []⟩

/-- The metrics, one for each function. -/
def metrics : List Metric := ["pg_pscale_utils", "pg_readonly", "pginsights"].map metric

def existsStatement (function : String) : String :=
  "SELECT EXISTS (SELECT 1 FROM pg_catalog.pg_proc WHERE proname = '" ++ function ++ "')"

def callStatement (function : String) : String := "SELECT " ++ function ++ "()"

/-- Whether an answer says that a function exists; not if there is no row or NULL. -/
def readExists : List Row → Except Fault Bool
  | [] => .ok false
  | row :: _ => (row.truth 0).map (·.getD false)

/-- The time that a call of a function answers, if it is not NULL. -/
def readTime (function : String) : List Row → Except Fault (Option Float)
  | [] => .error (.scanFailed (function ++ "() returned no row"))
  | row :: _ => row.number 0

/-- What a function tells, if the server has it. -/
def buildTime (ctx : ContextId) (function : String) : Task σ τ (Option Float) := do
  let rows ← Task.query ctx (existsStatement function)
  let present ← Task.finish (.ofExcept (readExists rows))
  if present then
    let rows ← Task.query ctx (callStatement function)
    Task.finish (.ofExcept (readTime function rows))
  else return none

/-- The samples of all functions that tell something. -/
def gather (ctx : ContextId) : List Metric → Task σ τ (List Sample)
  | [] => return []
  | m :: rest => do
    let time ← buildTime ctx m.name
    let samples ← gather ctx rest
    return (time.map fun t => m.gauge t []).toList ++ samples

def update (ctx : ContextId) : Task σ τ Unit := do
  let samples ← gather ctx metrics
  if samples.isEmpty then Task.fail .noData else Task.emitAll samples

def collector : Collector σ τ := .ofUpdate update

end PgVitals.BuildTimes

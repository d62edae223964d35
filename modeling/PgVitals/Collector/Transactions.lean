import PgVitals.Collector.Basic

/-!
# Long-running transactions

Each update reports for four ages how many transactions are older, and the age of the oldest.
-/

namespace PgVitals.Transactions

variable {σ τ : Type}

/-- The name of the collector and the subsystem of its metrics. -/
def subsystem : String := "long_running_transactions"

def count : Metric :=
  ⟨subsystem, "count", "Number of transactions running longer than threshold", ["threshold"]⟩

def oldest : Metric :=
  ⟨subsystem, "oldest_timestamp_seconds", "The current maximum transaction age in seconds", []⟩

/-- The ages in seconds, in the order of the columns. -/
def thresholds : List String := ["60", "300", "600", "1800"]

def statement : String :=
  "WITH transaction_ages AS (
    SELECT EXTRACT(EPOCH FROM clock_timestamp() - xact_start) AS age_seconds
    FROM pg_catalog.pg_stat_activity
    WHERE state IS DISTINCT FROM 'idle'
      AND query NOT LIKE 'autovacuum:%'
      AND xact_start IS NOT NULL
)
SELECT
    COUNT(*) FILTER (WHERE age_seconds >= 60),
    COUNT(*) FILTER (WHERE age_seconds >= 300),
    COUNT(*) FILTER (WHERE age_seconds >= 600),
    COUNT(*) FILTER (WHERE age_seconds >= 1800),
    MAX(age_seconds)
FROM transaction_ages"

/-- The numbers in columns of a row, zero for NULL. -/
def readNumbers (row : Row) : List Nat → Except Fault (List Float)
  | [] => .ok []
  | column :: rest =>
    match row.number column with
    | .error fault => .error fault
    | .ok value => (readNumbers row rest).map (value.getD 0 :: ·)

def read : List Row → Except Fault (List Sample)
  | [] => .error (.scanFailed "aggregate returned no row")
  | row :: _ => do
    let counts ← readNumbers row (List.range thresholds.length)
    let age ← row.number thresholds.length
    return (thresholds.zip counts).map (fun (threshold, n) => count.gauge n [threshold]) ++
      [oldest.gauge (age.getD 0) []]

def update (ctx : ContextId) : Task σ τ Unit := do
  let rows ← Task.query ctx statement
  let samples ← Task.finish (.ofExcept (read rows))
  Task.emitAll samples

def collector : Collector σ τ := .ofUpdate update

end PgVitals.Transactions

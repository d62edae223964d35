import PgVitals.Collector.Basic

/-!
# Slots of standbys that do not exist

A setting names the slots of standbys that logical replication waits for. Each update reports how
many of them are no physical slots. The setting exists from version 17 on; on older servers there is
nothing to report and nothing is asked.
-/

namespace PgVitals.StandbySlots

variable {σ τ : Type}

/-- The name of the collector and the subsystem of its metrics. -/
def subsystem : String := "synchronized_standby_slots"

/-- The number of slots that do not exist. -/
def invalid : Metric :=
  ⟨subsystem, "invalid",
    "Number of slots listed in synchronized_standby_slots that do not exist as physical " ++
      "replication slots. Non-zero means logical replication is blocked.", []⟩

def statement : String :=
  "SELECT count(*) AS invalid_count
FROM unnest(string_to_array(
  (SELECT setting FROM pg_catalog.pg_settings WHERE name = 'synchronized_standby_slots'),
  ','
)) AS configured(slot_name)
WHERE trim(configured.slot_name) != ''
  AND NOT EXISTS(
    SELECT 1 FROM pg_catalog.pg_replication_slots s
    WHERE s.slot_name = trim(configured.slot_name)
      AND s.slot_type = 'physical'
  )"

/-- The first version with the setting. -/
def settingSince : ServerVersion := ⟨17, 0, 0⟩

/-- The number that an answer gives; zero for no row and for NULL. -/
def read : List Row → Except Fault Int
  | [] => .ok 0
  | row :: _ => (row.integer 0).map (·.getD 0)

def update (ctx : ContextId) : Task σ τ Unit := do
  let t ← Task.target
  if t.version.isBelow settingSince then return ()
  else
    let rows ← Task.query ctx statement
    let n ← Task.finish (.ofExcept (read rows))
    Task.emit (invalid.gauge (Float.ofInt n) [])

def collector : Collector σ τ := .ofUpdate update

end PgVitals.StandbySlots

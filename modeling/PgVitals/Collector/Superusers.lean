import PgVitals.Collector.Basic
import PgVitals.Settings

/-!
# Superusers that nobody expects

Each update reports the superuser roles outside the expected ones and their number. From version 16
on the roles that can become one through grants are followed as well.
-/

namespace PgVitals.Superusers

variable {σ τ : Type}

/-- The name of the collector and the subsystem of its metrics. -/
def subsystem : String := "unexpected_superusers"

def count : Metric :=
  ⟨subsystem, "count", "Number of superuser roles that are not in the expected superuser list", []⟩

/-- One sample for every role. -/
def role : Metric :=
  ⟨subsystem, "role", "Unexpected superuser role (value is always 1)", ["rolname", "access_type"]⟩

/-- The statement that lists superusers. -/
def directStatement : String :=
  "SELECT rolname, 'direct'::pg_catalog.text AS access_type " ++
    "FROM pg_catalog.pg_roles WHERE rolsuper"

/-- The statement that follows grants as well. -/
def grantedStatement : String :=
  "WITH RECURSIVE superuser_chain AS (
    SELECT oid, rolname, 'direct'::pg_catalog.text AS access_type
    FROM pg_catalog.pg_roles WHERE rolsuper
    UNION
    SELECT r.oid, r.rolname, 'indirect'::pg_catalog.text AS access_type
    FROM pg_catalog.pg_roles r
    JOIN pg_catalog.pg_auth_members m ON m.member OPERATOR(pg_catalog.=) r.oid
    JOIN superuser_chain s ON m.roleid OPERATOR(pg_catalog.=) s.oid
    WHERE NOT r.rolsuper
        AND (m.set_option OPERATOR(pg_catalog.=) true OR m.admin_option OPERATOR(pg_catalog.=) true)
)
SELECT rolname, access_type FROM superuser_chain"

/-- The first version on which grants are followed. -/
def grantsSince : ServerVersion := ⟨16, 0, 0⟩

def statement (version : ServerVersion) : String :=
  if version.atLeast grantsSince then grantedStatement else directStatement

/-- The roles that rows list, with how they are superusers; NULLs and expected roles are left
out. -/
def readRoles (expected : List String) : List Row → Except Fault (List (String × String))
  | [] => .ok []
  | row :: rest =>
    match row.text 0 with
    | .error fault => .error fault
    | .ok none => readRoles expected rest
    | .ok (some name) =>
      if expected.contains name then readRoles expected rest
      else
        match row.text 1 with
        | .error fault => .error fault
        | .ok access => (readRoles expected rest).map ((name, access.getD "direct") :: ·)

def update (settings : Settings) (ctx : ContextId) : Task σ τ Unit := do
  let t ← Task.target
  let rows ← Task.query ctx (statement t.version)
  let roles ← Task.finish (.ofExcept (readRoles settings.expectedSuperusers rows))
  Task.emitAll (roles.map fun (name, access) => role.gauge 1 [name, access])
  Task.emit (count.gauge roles.length.toFloat [])

def collector (settings : Settings) : Collector σ τ := .ofUpdate (update settings)

end PgVitals.Superusers

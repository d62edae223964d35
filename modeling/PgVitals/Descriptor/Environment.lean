import PgVitals.Descriptor.KeyValue
import PgVitals.Dictionary

/-!
# The descriptor of an environment

When the host names no descriptor, one is built from the variables that the server's own client
programs read. A value is a text: a variable whose bytes are not well-formed Unicode counts as one
that is not set, so a dictionary of texts is all that an environment tells.
-/

namespace PgVitals

/-- The variables that are set to a text. -/
abbrev Environment := Dictionary String

namespace Environment

/-- The pairs for these variables; the database defaults to the user's name, and a password is given
only when it is not empty. -/
def descriptorPairs (env : Environment) (user : String) : List (String × String) :=
  let password := (env.get? "PGPASSWORD").getD ""
  [("host", (env.get? "PGHOST").getD "localhost"),
   ("port", (env.get? "PGPORT").getD "5432"),
   ("user", user)] ++
  (if password.isEmpty then [] else [("password", password)]) ++
  [("dbname", (env.get? "PGDATABASE").getD user)]

/-- The text of the descriptor that the variables name, or why they name none. -/
def descriptorText (env : Environment) : Except String String :=
  match (env.get? "PGUSER").or (env.get? "USER") with
  | none => .error "neither DATA_SOURCE_NAME, PGUSER nor USER is set"
  | some user =>
    .ok (KeyValue.text ⟨(env.descriptorPairs user).map fun (key, value) =>
      ⟨key, Value.quote value⟩⟩)

end Environment

end PgVitals

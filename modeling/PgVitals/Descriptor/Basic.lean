import PgVitals.Descriptor.KeyValue
import PgVitals.Descriptor.Uri

/-!
# Connection descriptors

A descriptor tells how to reach a server, as a URI or as key=value pairs. It can be read, written,
asked for its database, pointed at another database and shown without its password.
-/

namespace PgVitals

/-- A connection descriptor. -/
inductive Descriptor where
  | uri (u : Uri)
  | keyValue (d : KeyValue)
deriving DecidableEq, Repr

namespace Descriptor

/-- Whether the characters form the scheme of a URI: an ASCII letter, then letters, digits, plus
signs, points and hyphens. -/
def isSchemeName : List Char → Bool
  | [] => false
  | c :: rest =>
    c.isAlpha && rest.all fun c => c.isAlphanum || c == '+' || c == '.' || c == '-'

/-- The scheme before the first `://`, if it is one. Behind an equals sign the characters belong to
a value and are no scheme. -/
def schemeName? (cs : List Char) : Option (List Char) :=
  match Text.cutAtText? [':', '/', '/'] cs with
  | some (scheme, _) => if isSchemeName scheme then some scheme else none
  | none => none

/-- Reads a trimmed text that is not empty. -/
def readTrimmed (cs : List Char) : Except Fault Descriptor :=
  match Text.dropStart? Scheme.postgres.text.toList cs with
  | some rest => .ok (.uri (Uri.read .postgres rest))
  | none =>
    match Text.dropStart? Scheme.postgresql.text.toList cs with
    | some rest => .ok (.uri (Uri.read .postgresql rest))
    | none =>
      -- Another scheme is refused with its name alone: what follows may hold a password.
      match schemeName? cs with
      | some scheme =>
        .error (.invalidDescriptor
          ("unsupported URI scheme " ++ Text.quoted (String.ofList scheme)))
      | none => (KeyValue.read cs).map .keyValue

/-- Reads a descriptor; blanks around it do not count. -/
def read (s : String) : Except Fault Descriptor :=
  match Text.trim s.toList with
  | [] => .error (.invalidDescriptor "empty connection descriptor")
  | cs => readTrimmed cs

def text : Descriptor → String
  | uri u => u.text
  | keyValue d => d.text

def database? : Descriptor → Option String
  | uri u => u.database?
  | keyValue d => d.database?

/-- The descriptor pointed at a database, the rest as it is. -/
def retarget (descriptor : Descriptor) (database : String) : Descriptor :=
  match descriptor with
  | uri u => .uri (u.retarget database)
  | keyValue d => .keyValue (d.retarget database)

/-- The text of a descriptor with its password masked, for logs. -/
def redacted : Descriptor → String
  | uri u => u.redacted
  | keyValue d => d.redacted

/-- The text of a descriptor pointed at a database. -/
def retargetText (s : String) (database : String) : Except Fault String :=
  (read s).map fun descriptor => (descriptor.retarget database).text

end Descriptor

end PgVitals

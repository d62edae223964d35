import PgVitals.Decimal.Reader
import PgVitals.Fault
import PgVitals.Text.Blank

/-!
# Rows of an answer

A server answers a statement with rows of cells in text form; a cell without a value is NULL. The
readers of a cell tell three things apart: a value, NULL, and a fault (no such column, or a text
of another form).
-/

namespace PgVitals

/-- One row: the texts of its cells, `none` for NULL. -/
structure Row where
  cells : List (Option String)
deriving DecidableEq, Repr

namespace Row

def size (r : Row) : Nat := r.cells.length

def isEmpty (r : Row) : Bool := r.cells.isEmpty

def text (r : Row) (column : Nat) : Except Fault (Option String) :=
  match r.cells[column]? with
  | some cell => .ok cell
  | none => .error (.scanFailed s!"column {column} out of range ({r.size} columns)")

/-- Reads a column that is not NULL, or reports what its text is not. -/
def read {α : Type} (r : Row) (column : Nat) (kind : String)
    (reader : String → Except String α) : Except Fault (Option α) :=
  match r.text column with
  | .error fault => .error fault
  | .ok none => .ok none
  | .ok (some s) =>
    match reader s with
    | .ok value => .ok (some value)
    | .error why =>
      .error (.scanFailed (s!"column {column}: " ++ Text.quoted s ++ " is not " ++ kind ++ why))

/-- The number in a column; blanks around it are skipped. -/
def number (r : Row) (column : Nat) : Except Fault (Option Float) :=
  r.read column "a number: " fun s =>
    (Decimal.readFloat (Text.trim s.toList)).mapError Decimal.FloatFault.message

/-- The integer of 64 bits in a column; blanks around it are skipped. -/
def integer (r : Row) (column : Nat) : Except Fault (Option Int) :=
  r.read column "an integer: " fun s =>
    (Decimal.readSigned64 (Text.trim s.toList)).mapError Decimal.IntegerFault.message

/-- The truth value in a column: `t`, `f` or the full words, in lower case and without blanks. -/
def truth (r : Row) (column : Nat) : Except Fault (Option Bool) :=
  r.read column "a boolean" fun s =>
    if s = "t" ∨ s = "true" then .ok true
    else if s = "f" ∨ s = "false" then .ok false
    else .error ""

end Row

end PgVitals

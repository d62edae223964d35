import Std.Data.HashMap
import PgVitals.Decimal.Layout
import PgVitals.Metric.Sample

/-!
# The text exposition of samples

Samples of one name form a family. Families stand in the order in which their names first occur,
each with a line of help, a line for its kind, and one line for each of its samples. Help texts and
label values are escaped so that each keeps to its line and its quotes. The families are collected
in one pass, with an index that tells the place of each name.
-/

namespace PgVitals.Exposition

/-! ## Families -/

/-- The samples of one name; the first of them tells the help text and the kind. -/
structure Family where
  head : Sample
  /-- All samples of the name, in order, the first included. -/
  members : List Sample

/-- Families in the order of their arrival, and for each name the place of its family. -/
structure Shelf where
  families : Array Family := #[]
  places : Std.HashMap String Nat := {}

/-- Adds a sample at the place of its name, or a family for it at the end. -/
def Shelf.add (shelf : Shelf) (s : Sample) : Shelf :=
  match shelf.places[s.name]? with
  | some place =>
    { shelf with families := shelf.families.modify place fun f =>
        { f with members := f.members ++ [s] } }
  | none => ⟨shelf.families.push ⟨s, [s]⟩, shelf.places.insert s.name shelf.families.size⟩

/-- The families of the samples, in the order in which their names first occur. -/
def families (samples : List Sample) : List Family :=
  (samples.foldl Shelf.add {}).families.toList

/-! ## Lines -/

def replace (c : Char) (replacement : List Char) (cs : List Char) : List Char :=
  cs.flatMap fun d => if d = c then replacement else [d]

/-- A help text in its line: backslashes are doubled, then line feeds are replaced. -/
def escapeHelp (s : String) : String :=
  -- Backslashes first, or those of the escapes would be doubled too.
  String.ofList (replace '\n' ['\\', 'n'] (replace '\\' ['\\', '\\'] s.toList))

/-- A label value between its quotes: backslashes are doubled, then quotes and line feeds are
replaced. -/
def escapeLabel (s : String) : String :=
  String.ofList <| replace '\n' ['\\', 'n'] <| replace '"' ['\\', '"'] <|
    replace '\\' ['\\', '\\'] s.toList

/-- The layout of values: all digits, no exponent. -/
def valueLayout : Decimal.Layout where
  positional := fun _ => true
  pointZero := false
  tie := .away

/-- The text of a value; infinities and the absence of a number have words. -/
def valueText (x : Float) : String :=
  if x.isNaN then "NaN"
  else if x.isInf then (if 0.0 < x then "+Inf" else "-Inf")
  else valueLayout.write x

def labelText (label : String × String) : String :=
  label.1 ++ "=\"" ++ escapeLabel label.2 ++ "\""

/-- The labels between braces; nothing if there are none. -/
def labelsText (labels : Dictionary String) : String :=
  if labels.isEmpty then ""
  else "\x7b" ++ String.intercalate "," (labels.entries.map labelText) ++ "\x7d"

def sampleLine (s : Sample) : String :=
  s.name ++ labelsText s.labels ++ " " ++ valueText s.value ++ "\n"

def helpLine (s : Sample) : String := "# HELP " ++ s.name ++ " " ++ escapeHelp s.help ++ "\n"

def kindLine (s : Sample) : String := "# TYPE " ++ s.name ++ " " ++ s.kind.text ++ "\n"

def familyText (f : Family) : String :=
  helpLine f.head ++ kindLine f.head ++ String.join (f.members.map sampleLine)

def text (samples : List Sample) : String := String.join ((families samples).map familyText)

end PgVitals.Exposition

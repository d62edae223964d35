import PgVitals.Decimal.Layout
import PgVitals.Metric.Sample
import PgVitals.Text.Quoted

/-!
# Samples as a JSON document

The document is an object with the samples and the time of the scrape. It is written with one item
a line, two spaces deeper for each level, the keys of an object in ascending order.
-/

namespace PgVitals

inductive JsonValue where
  | null
  | number (digits : String)
  | text (s : String)
  | list (items : List JsonValue)
  | object (fields : List (String × JsonValue))

namespace JsonValue

/-- A character between the quotes of a text. -/
def escapeChar (c : Char) : List Char :=
  if c = '"' then ['\\', '"']
  else if c = '\\' then ['\\', '\\']
  else if c = '\n' then ['\\', 'n']
  else if c = '\r' then ['\\', 'r']
  else if c = '\t' then ['\\', 't']
  else if c = '\x08' then ['\\', 'b']
  else if c = '\x0c' then ['\\', 'f']
  else if c.toNat < 0x20 then
    ['\\', 'u', '0', '0', if c.toNat < 0x10 then '0' else '1'] ++ Text.hexDigits (c.toNat % 16)
  else [c]

def quoted (s : String) : String :=
  String.ofList ('"' :: s.toList.flatMap escapeChar ++ ['"'])

def indent (depth : Nat) : String := String.ofList (List.replicate (2 * depth) ' ')

/-- The items of a list or an object at a depth, one a line, between brackets. -/
def block (opening closing : String) (depth : Nat) (items : List String) : String :=
  if items.isEmpty then opening ++ closing
  else
    opening ++ "\n" ++ String.intercalate ",\n" (items.map (indent (depth + 1) ++ ·)) ++ "\n" ++
      indent depth ++ closing

mutual

/-- The text of a value that starts at a depth. -/
def write (depth : Nat) : JsonValue → String
  | .null => "null"
  | .number digits => digits
  | .text s => quoted s
  | .list items => block "[" "]" depth (writeItems (depth + 1) items)
  | .object fields => block "\x7b" "\x7d" depth (writeFields (depth + 1) fields)

def writeItems (depth : Nat) : List JsonValue → List String
  | [] => []
  | item :: rest => write depth item :: writeItems depth rest

def writeFields (depth : Nat) : List (String × JsonValue) → List String
  | [] => []
  | (key, value) :: rest => (quoted key ++ ": " ++ write depth value) :: writeFields depth rest

end

end JsonValue

namespace Document

/-- The layout of values: positional from the fifth place after the point up to sixteen digits
before it, and with a zero after the point of an integral value. -/
def valueLayout : Decimal.Layout where
  positional := fun lead => -5 ≤ lead && lead ≤ 15
  pointZero := true
  tie := .even

/-- A value; what is no finite number has no form. -/
def value (x : Float) : JsonValue := if x.isFinite then .number (valueLayout.write x) else .null

def sample (s : Sample) : JsonValue :=
  .object [("help", .text s.help), ("kind", .text s.kind.text),
    ("labels", .object (s.labels.entries.map fun (key, value) => (key, .text value))),
    ("name", .text s.name), ("value", value s.value)]

/-- The document of the samples of a scrape and the time of it. -/
def text (samples : List Sample) (time : String) : String :=
  JsonValue.write 0
      (.object [("samples", .list (samples.map sample)), ("timestamp", .text time)]) ++
    "\n"

end Document

end PgVitals

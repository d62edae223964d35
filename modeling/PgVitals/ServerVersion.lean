import PgVitals.Decimal.Reader
import PgVitals.Text.Blank
import PgVitals.Text.Cut
import PgVitals.Text.WordChar

/-!
# Server versions

A version has three numbers. The server names it in two ways: behind its product name
(`PostgreSQL 9.6.2 on …`) or at the start of a text (`13.3 (…)`). Both readers take the longest run
of digits and then up to two further runs, each behind a point; runs that are missing count as
zero. A run must be written in ASCII digits and fit 64 bits.
-/

namespace PgVitals

structure ServerVersion where
  major : Nat
  minor : Nat
  patch : Nat
deriving DecidableEq, Repr

namespace ServerVersion

/-- The version of a server that was not asked for it. -/
def unknown : ServerVersion := ⟨0, 0, 0⟩

/-- Versions are ordered by their first number, then by the second, then by the third. -/
def atLeast (v w : ServerVersion) : Bool :=
  if v.major ≠ w.major then w.major < v.major
  else if v.minor ≠ w.minor then w.minor < v.minor
  else w.patch ≤ v.patch

def isBelow (v w : ServerVersion) : Bool := !v.atLeast w

/-- The three numbers with points between them. -/
def text (v : ServerVersion) : String := s!"{v.major}.{v.minor}.{v.patch}"

def number? (part : List Char) : Option Nat := (Decimal.readUnsigned64 part).toOption

/-- The version of one to three parts. -/
def ofParts? : List (List Char) → Option ServerVersion
  | [a] => do return ⟨← number? a, 0, 0⟩
  | [a, b] => do return ⟨← number? a, ← number? b, 0⟩
  | [a, b, c] => do return ⟨← number? a, ← number? b, ← number? c⟩
  | _ => none

/-- Reads `16`, `16.4` or `9.6.2`. -/
def readTolerant? (s : String) : Option ServerVersion := ofParts? (s.toList.splitOn '.')

/-- Up to `count` runs of digits, each behind a point, from the front of the text. -/
def pointedRuns : Nat → List Char → List (List Char)
  | 0, _ => []
  | count + 1, '.' :: rest =>
    match rest.takeWhile Text.isDigitChar with
    | [] => []
    | run => run :: pointedRuns count (rest.dropWhile Text.isDigitChar)
  | _ + 1, _ => []

/-- Reads the version at the front of the text. -/
def readFront? (cs : List Char) : Option ServerVersion :=
  match cs.takeWhile Text.isDigitChar with
  | [] => none
  | run => ofParts? (run :: pointedRuns 2 (cs.dropWhile Text.isDigitChar))

/-- Reads `13.3 (…)`: the version at the front of the text, blanks at its ends apart. -/
def readBare? (s : String) : Option ServerVersion := readFront? (Text.trim s.toList)

/-- Reads `PostgreSQL 9.6.2 on …`: one word, one space and the version, blanks at the ends of the
text apart. -/
def readVerbose? (s : String) : Option ServerVersion :=
  let cs := Text.trim s.toList
  match cs.takeWhile Text.isWordChar, cs.dropWhile Text.isWordChar with
  | _ :: _, ' ' :: rest => readFront? rest
  | _, _ => none

end ServerVersion

end PgVitals

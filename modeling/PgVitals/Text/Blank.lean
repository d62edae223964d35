import PgVitals.Text.CharSet

/-!
# Blank characters

Blank means the Unicode property White_Space: 25 characters. Trimming takes blanks off both ends
of a text, and `words` splits it at runs of blanks.
-/

namespace PgVitals.Text

def blankRanges : CharSet :=
  [(0x09, 0x0D), (0x20, 0x20), (0x85, 0x85), (0xA0, 0xA0), (0x1680, 0x1680), (0x2000, 0x200A),
   (0x2028, 0x2029), (0x202F, 0x202F), (0x205F, 0x205F), (0x3000, 0x3000)]

def isBlank (c : Char) : Bool := blankRanges.has c

def trimStart (cs : List Char) : List Char := cs.dropWhile isBlank

def trimEnd (cs : List Char) : List Char := (trimStart cs.reverse).reverse

def trim (cs : List Char) : List Char := trimEnd (trimStart cs)

def trimmed (s : String) : String := String.ofList (trim s.toList)

/-- The maximal runs of characters that are not blank, in order. The run being read, which
precedes the rest, is kept in reverse. -/
def runs (current : List Char) : List Char → List (List Char)
  | [] => if current.isEmpty then [] else [current.reverse]
  | c :: rest =>
    if isBlank c then
      if current.isEmpty then runs [] rest else current.reverse :: runs [] rest
    else runs (c :: current) rest

/-- The words of a text: its maximal runs of characters that are not blank. -/
def words (s : String) : List String := (runs [] s.toList).map String.ofList

/-- The text with each run of blanks between words written as one space, and none at its ends. -/
def collapse (s : String) : String := String.intercalate " " (words s)

end PgVitals.Text

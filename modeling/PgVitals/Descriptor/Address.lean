import PgVitals.Decimal.Reader
import PgVitals.Text.Cut

/-!
# Numeric addresses

An address of the fourth version is four numbers below 256 with points between them, without
superfluous zeros. One of the sixth version is eight groups of one to four hexadecimal digits with
colons between them; once, two colons may stand for at least one group of zeros, and the last two
groups may be written as an address of the fourth version.
-/

namespace PgVitals.Address

/-- Whether the characters write a number below 256. -/
def isOctet (cs : List Char) : Bool :=
  !cs.isEmpty && cs.all Decimal.isDigit && Decimal.valueOfDigits cs < 256 &&
    (cs.length = 1 || cs.head? != some '0')

def isVersion4 (cs : List Char) : Bool :=
  let parts := cs.splitOn '.'
  parts.length = 4 && parts.all isOctet

def isGroup (cs : List Char) : Bool :=
  !cs.isEmpty && cs.length ≤ 4 &&
    cs.all fun c => Decimal.isDigit c || 'a' ≤ c.toLower && c.toLower ≤ 'f'

/-- How many groups the parts between colons write; an address of the fourth version may stand last
and counts for two. -/
def groupCount? : List (List Char) → Option Nat
  | [] => some 0
  | [last] => if isGroup last then some 1 else if isVersion4 last then some 2 else none
  | part :: rest => if isGroup part then (groupCount? rest).map (· + 1) else none

/-- How many groups a text of groups writes; none if it is empty. -/
def groups? (cs : List Char) : Option Nat :=
  if cs.isEmpty then some 0 else groupCount? (cs.splitOn ':')

def isVersion6 (cs : List Char) : Bool :=
  match Text.cutAtText? [':', ':'] cs with
  | none => groups? cs == some 8
  | some (front, back) =>
    match groups? front, groups? back with
    | some n, some m => n + m ≤ 7 && !front.contains '.'
    | _, _ => false

def isAddress (cs : List Char) : Bool := isVersion4 cs || isVersion6 cs

end PgVitals.Address

/-!
# Reading numbers

Integers are a run of ASCII digits after an optional sign and must lie in the range asked for.
Floating-point numbers are digits with an optional point and an optional exponent, or the words
`inf`, `infinity` and `nan` in any case, after an optional sign; the value is rounded to nearest.
Neither reader skips blanks.
-/

namespace PgVitals.Decimal

def digit? (c : Char) : Option Nat :=
  if '0' ≤ c && c ≤ '9' then some (c.toNat - '0'.toNat) else none

/-- Why a text is no integer of the range. -/
inductive IntegerFault where
  | empty
  | invalidDigit
  | tooLarge
  | tooSmall
deriving DecidableEq, Repr

def IntegerFault.message : IntegerFault → String
  | .empty => "cannot parse integer from empty string"
  | .invalidDigit => "invalid digit found in string"
  | .tooLarge => "number too large to fit in target type"
  | .tooSmall => "number too small to fit in target type"

/-- Reads digits from left to right after a number already read. The first character that is no
digit, or at which the number passes the limit, decides the fault. -/
def readDigits (limit : Nat) (beyond : IntegerFault) (acc : Nat) :
    List Char → Except IntegerFault Nat
  | [] => .ok acc
  | c :: rest =>
    match digit? c with
    | none => .error .invalidDigit
    | some d =>
      if limit < 10 * acc + d then .error beyond else readDigits limit beyond (10 * acc + d) rest

/-- Reads a natural number of at most `limit`, with an optional plus sign. -/
def readNatural (limit : Nat) : List Char → Except IntegerFault Nat
  | [] => .error .empty
  | ['+'] => .error .invalidDigit
  | '+' :: rest => readDigits limit .tooLarge 0 rest
  | cs => readDigits limit .tooLarge 0 cs

def maxUnsigned64 : Nat := UInt64.size - 1

def readUnsigned64 (cs : List Char) : Except IntegerFault Nat := readNatural maxUnsigned64 cs

def readSigned64 : List Char → Except IntegerFault Int
  | [] => .error .empty
  | ['-'] => .error .invalidDigit
  | '-' :: rest => (readDigits (UInt64.size / 2) .tooSmall 0 rest).map fun n => -(n : Int)
  | cs => (readNatural (UInt64.size / 2 - 1) cs).map Int.ofNat

/-- Why a text is no floating-point number. -/
inductive FloatFault where
  | empty
  | invalid
deriving DecidableEq, Repr

def FloatFault.message : FloatFault → String
  | .empty => "cannot parse float from empty string"
  | .invalid => "invalid float literal"

def valueOfDigits (ds : List Char) : Nat :=
  ds.foldl (fun acc c => 10 * acc + ((digit? c).getD 0)) 0

/-- Whether the character is an ASCII digit. -/
def isDigit (c : Char) : Bool := (digit? c).isSome

/-- Reads an exponent: nothing, or a mark, an optional sign and digits to the end. -/
def readExponent? : List Char → Option Int
  | [] => some 0
  | mark :: rest =>
    if mark = 'e' ∨ mark = 'E' then
      let (negative, ds) := match rest with
        | '-' :: ds => (true, ds)
        | '+' :: ds => (false, ds)
        | ds => (false, ds)
      if ds.isEmpty || !ds.all isDigit then none
      else some (if negative then -(valueOfDigits ds : Int) else valueOfDigits ds)
    else none

/-- The natural number nearest to a quotient; of two equally near ones the even one. -/
def nearestQuotient (a b : Nat) : Nat :=
  let q := a / b
  match compare (2 * (a % b)) b with
  | .lt => q
  | .gt => q + 1
  | .eq => if q % 2 = 0 then q else q + 1

/-- The bits of the value nearest to a positive quotient. The last place of the value is chosen from
the binary logarithms, so that the integer factor has 53 digits, or fewer at the lower end of the
range; a factor that rounds up to a power of two carries into the exponent. -/
def nearestBits (a b : Nat) : Nat :=
  let estimate : Int := (a.log2 : Int) - b.log2 - 52
  let scaled (place : Int) : Nat := nearestQuotient (a <<< (-place).toNat) (b <<< place.toNat)
  let place := max (if scaled estimate < 1 <<< 52 then estimate - 1 else estimate) (-1074)
  let bits := (place + 1074).toNat <<< 52 + scaled place
  min bits (2047 <<< 52)

/-- The value nearest to `n * 10 ^ exponent`. Magnitudes far beyond the largest value and far below
the smallest are decided without computing the power. -/
def nearest (n : Nat) (exponent : Int) : Float :=
  if n = 0 then 0
  else
    let top := exponent + (Nat.toDigits 10 n).length
    if 400 < top then 1.0 / 0.0
    else if top < -400 then 0
    else
      Float.ofBits (UInt64.ofNat
        (nearestBits (n * Nat.pow 10 exponent.toNat) (Nat.pow 10 (-exponent).toNat)))

/-- Reads an unsigned number: digits, an optional point with digits, an optional exponent; at least
one digit stands beside the point. -/
def readMagnitude? (cs : List Char) : Option Float :=
  let whole := cs.takeWhile isDigit
  let (fraction, rest) := match cs.dropWhile isDigit with
    | '.' :: after => (after.takeWhile isDigit, after.dropWhile isDigit)
    | after => ([], after)
  if whole.isEmpty && fraction.isEmpty then none
  else
    (readExponent? rest).map fun exponent =>
      nearest (valueOfDigits (whole ++ fraction)) (exponent - fraction.length)

/-- The character in lower case, for ASCII letters. -/
def lowered (cs : List Char) : List Char := cs.map Char.toLower

/-- Reads a number or one of the words for infinity and for no number. -/
def readUnsignedFloat? (cs : List Char) : Option Float :=
  let word := String.ofList (lowered cs)
  if word = "inf" ∨ word = "infinity" then some (1.0 / 0.0)
  else if word = "nan" then some (0.0 / 0.0)
  else readMagnitude? cs

def readFloat (cs : List Char) : Except FloatFault Float :=
  let value? := match cs with
    | '-' :: rest => (readUnsignedFloat? rest).map fun x => -x
    | '+' :: rest => readUnsignedFloat? rest
    | _ => readUnsignedFloat? cs
  match cs, value? with
  | [], _ => .error .empty
  | _, none => .error .invalid
  | _, some x => .ok x

end PgVitals.Decimal

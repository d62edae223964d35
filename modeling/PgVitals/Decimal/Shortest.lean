/-!
# The shortest decimal that identifies a floating-point value

A finite positive value is `mantissa * 2 ^ exponent`. The reals that round to it form an interval
from halfway to the neighbour below to halfway to the neighbour above; the ends belong to it when
the mantissa is even. `shortest` looks at the decimals of one digit, then of two, and so on, and
takes the first that lies in the interval; of two such it takes the nearer, and when both are
equally near the tie rule decides. All comparisons are exact, by cross-multiplying naturals.
-/

namespace PgVitals.Decimal

/-- A finite value, `mantissa * 2 ^ exponent`. -/
structure Dyadic where
  mantissa : Nat
  exponent : Int
  /-- Whether the neighbour below is only half as far away as the neighbour above. -/
  tightBelow : Bool
deriving DecidableEq, Repr

/-- A decimal, `digits * 10 ^ exponent`. -/
structure Digits where
  digits : Nat
  exponent : Int
deriving DecidableEq, Repr

/-- Which of two equally near decimals is taken. -/
inductive Tie where
  /-- The one whose last digit is even. -/
  | even
  /-- The one farther from zero. -/
  | away
deriving DecidableEq, Repr

/-- The magnitude of the finite value with these bits; the sign bit is not looked at. -/
def Dyadic.ofBits (bits : Nat) : Dyadic :=
  let biased : Nat := bits >>> 52 % 2048
  let fraction : Nat := bits % 1 <<< 52
  if biased = 0 then ⟨fraction, -1074, false⟩
  else ⟨1 <<< 52 + fraction, (biased : Int) - 1075, fraction == 0 && biased != 1⟩

/-- Compares `n * 10 ^ i` with `m * 2 ^ j`. -/
def compareScaled (n : Nat) (i : Int) (m : Nat) (j : Int) : Ordering :=
  compare ((n * Nat.pow 10 i.toNat) <<< (-j).toNat) (m <<< j.toNat * Nat.pow 10 (-i).toNat)

/-- Whether the decimal lies among the reals that round to the value. -/
def Dyadic.identifiedBy (x : Dyadic) (d : Digits) : Bool :=
  let low := if x.tightBelow then 4 * x.mantissa - 1 else 4 * x.mantissa - 2
  let high := 4 * x.mantissa + 2
  let endsIn := x.mantissa % 2 == 0
  let atLow := compareScaled d.digits d.exponent low (x.exponent - 2)
  let atHigh := compareScaled d.digits d.exponent high (x.exponent - 2)
  (atLow == .gt || endsIn && atLow == .eq) && (atHigh == .lt || endsIn && atHigh == .eq)

/-- The least `k` with the value below `10 ^ k`: an estimate from the binary logarithm, corrected
by exact comparison. -/
def Dyadic.magnitude (x : Dyadic) : Int :=
  let estimate := ((x.mantissa.log2 : Int) + x.exponent) * 30103 / 100000
  let candidates := [estimate - 1, estimate, estimate + 1, estimate + 2]
  (candidates.find? fun k => compareScaled 1 k x.mantissa x.exponent == .gt).getD (estimate + 3)

/-- Of the two decimals with the given last place between which the value lies, the one to take, if
any identifies the value. -/
def Dyadic.pick? (tie : Tie) (x : Dyadic) (place : Int) : Option Digits :=
  let numerator := x.mantissa <<< x.exponent.toNat * Nat.pow 10 (-place).toNat
  let denominator := Nat.pow 10 place.toNat <<< (-x.exponent).toNat
  let below := numerator / denominator
  let lower : Digits := ⟨below, place⟩
  let upper : Digits := ⟨below + 1, place⟩
  match x.identifiedBy lower, x.identifiedBy upper with
  | false, false => none
  | true, false => some lower
  | false, true => some upper
  | true, true =>
    match compare (2 * (numerator % denominator)) denominator, tie with
    | .lt, _ => some lower
    | .gt, _ => some upper
    | .eq, .away => some upper
    | .eq, .even => some (if below % 2 = 0 then lower else upper)

/-- The decimal with the trailing zeros of its digits moved into the power of ten, at most as many
as `bound`. -/
def Digits.strip (bound : Nat) (d : Digits) : Digits :=
  match bound with
  | 0 => d
  | bound + 1 =>
    if d.digits ≠ 0 ∧ d.digits % 10 = 0 then strip bound ⟨d.digits / 10, d.exponent + 1⟩ else d

/-- The exact decimal form of the value. -/
def Dyadic.exact (x : Dyadic) : Digits :=
  ⟨x.mantissa <<< x.exponent.toNat * Nat.pow 5 (-x.exponent).toNat, min x.exponent 0⟩

/-- The decimal of the fewest digits that identifies the value. -/
def Dyadic.shortest (tie : Tie) (x : Dyadic) : Digits :=
  if x.mantissa = 0 then ⟨0, 0⟩
  else
    let top := x.magnitude
    let found := (List.range 17).findSome? fun (n : Nat) => x.pick? tie (top - 1 - n)
    (found.getD x.exact).strip 400

end PgVitals.Decimal

import PgVitals.Decimal.Shortest

/-!
# Writing floating-point values

A layout holds the decisions of one output format: which values are written positionally, whether
an integral value keeps a zero after the point, and which way ties go. `Layout.write` writes a
finite value with the fewest digits that identify it.
-/

namespace PgVitals.Decimal

/-- The decisions of an output format for finite values. -/
structure Layout where
  /-- Whether a value whose leading digit has this exponent is written positionally. -/
  positional : Int → Bool
  /-- Whether an integral value written positionally ends in a point and a zero. -/
  pointZero : Bool
  /-- Which of two equally near decimals is taken. -/
  tie : Tie

def decimalDigits (n : Nat) : List Char := Nat.toDigits 10 n

/-- The decimal without an exponent: the point after, inside or before the digits. -/
def Digits.positional (pointZero : Bool) (d : Digits) : List Char :=
  let ds := decimalDigits d.digits
  if 0 ≤ d.exponent then
    ds ++ List.replicate d.exponent.toNat '0' ++ (if pointZero then ['.', '0'] else [])
  else
    let places := (-d.exponent).toNat
    if places < ds.length then
      ds.take (ds.length - places) ++ '.' :: ds.drop (ds.length - places)
    else '0' :: '.' :: (List.replicate (places - ds.length) '0' ++ ds)

/-- The decimal with one digit before the point and a signed exponent. -/
def Digits.scientific (d : Digits) : List Char :=
  let ds := decimalDigits d.digits
  let lead := d.exponent + ds.length - 1
  let sign := if lead < 0 then '-' else '+'
  let fraction := if ds.length = 1 then [] else '.' :: ds.drop 1
  ds.take 1 ++ fraction ++ 'e' :: sign :: decimalDigits lead.natAbs

def Layout.writeDigits (layout : Layout) (d : Digits) : List Char :=
  let lead := d.exponent + (decimalDigits d.digits).length - 1
  if layout.positional lead then d.positional layout.pointZero else d.scientific

/-- Writes a finite value in a layout; a value with the sign bit set has a minus sign in front,
zero included. -/
def Layout.write (layout : Layout) (x : Float) : String :=
  let bits := x.toBits.toNat
  let magnitude := layout.writeDigits ((Dyadic.ofBits bits).shortest layout.tie)
  String.ofList (if 1 <<< 63 ≤ bits then '-' :: magnitude else magnitude)

end PgVitals.Decimal

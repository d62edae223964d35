/-!
# Times in the civil calendar

A time is counted in seconds from the start of 1970, backwards for earlier times, and written in the
calendar of universal time, to the second. The count of days is turned into a date by whole periods
of 400 years, which are all of the same length; inside a period the year starts in March, so that
the leap day is its last.
-/

namespace PgVitals.Timestamp

/-- The days of 400 years. -/
def daysOfEra : Int := 146097

structure Date where
  /-- The year; zero and less for years before the first. -/
  year : Int
  /-- The month, from one. -/
  month : Int
  /-- The day of the month, from one. -/
  day : Int
deriving DecidableEq, Repr

/-- The day so many days after the first of January 1970. -/
def dateOfDays (days : Int) : Date :=
  let fromMarch := days + 719468
  let era := fromMarch / daysOfEra
  let dayOfEra := fromMarch % daysOfEra
  let yearOfEra := (dayOfEra - dayOfEra / 1460 + dayOfEra / 36524 - dayOfEra / 146096) / 365
  let dayOfYear := dayOfEra - (365 * yearOfEra + yearOfEra / 4 - yearOfEra / 100)
  let monthFromMarch := (5 * dayOfYear + 2) / 153
  let month := if monthFromMarch < 10 then monthFromMarch + 3 else monthFromMarch - 9
  { year := yearOfEra + era * 400 + (if month ≤ 2 then 1 else 0)
    month := month
    day := dayOfYear - (153 * monthFromMarch + 2) / 5 + 1 }

/-- The number with zeros in front up to a width. -/
def padded (width : Nat) (n : Int) : String :=
  let digits := Nat.toDigits 10 n.natAbs
  String.ofList (List.replicate (width - digits.length) '0' ++ digits)

/-- The year in four digits; years outside these have a sign. -/
def yearText (year : Int) : String :=
  if year < 0 then "-" ++ padded 4 year
  else if 9999 < year then "+" ++ padded 4 year
  else padded 4 year

/-- The text of a time, to the second. -/
def text (seconds : Int) : String :=
  let date := dateOfDays (seconds / 86400)
  let rest := seconds % 86400
  let clock := padded 2 (rest / 3600) ++ ":" ++ padded 2 (rest % 3600 / 60) ++ ":" ++
    padded 2 (rest % 60)
  yearText date.year ++ "-" ++ padded 2 date.month ++ "-" ++ padded 2 date.day ++ "T" ++ clock ++
    "Z"

end PgVitals.Timestamp

/-! # Timestamps

A moment is counted in seconds from the start of 1970 and shown as a date and a time of day in the
Gregorian calendar, which is taken to hold for all years. A fraction of a second is shown in as few
groups of three digits as tell it exactly.
-/

namespace Forklift

/-- A day of the Gregorian calendar. Year 0 comes before year 1. -/
structure Date where
  year : Int
  month : Nat
  day : Nat
deriving DecidableEq, Repr

namespace Date

/-- The days of 400 years, after which the calendar repeats. -/
def daysPerEra : Int := 146097

/-- The days from the first of March of year 0 to the start of 1970. -/
def epochOffset : Int := 719468

/-- The date of a day, counted from the first day of 1970. Years are reckoned from March, so that a
leap day is the last day of its year. -/
def ofDays (days : Int) : Date :=
  let shifted := days + epochOffset
  let era := shifted / daysPerEra
  let dayOfEra := (shifted % daysPerEra).toNat
  let yearOfEra := (dayOfEra - dayOfEra / 1460 + dayOfEra / 36524 - dayOfEra / 146096) / 365
  let dayOfYear := dayOfEra - (365 * yearOfEra + yearOfEra / 4 - yearOfEra / 100)
  let monthFromMarch := (5 * dayOfYear + 2) / 153
  let day := dayOfYear - (153 * monthFromMarch + 2) / 5 + 1
  let month := if monthFromMarch < 10 then monthFromMarch + 3 else monthFromMarch - 9
  let year := 400 * era + yearOfEra
  { year := if month ≤ 2 then year + 1 else year, month, day }

end Date

/-- A moment: seconds from the start of 1970, and nanoseconds from there. -/
structure Timestamp where
  seconds : Int
  nanoseconds : Nat
deriving DecidableEq, Repr

namespace Timestamp

def secondsPerDay : Int := 86400

/-- A number with zeros in front to a width. -/
def padded (width n : Nat) : String :=
  let digits := Nat.toDigits 10 n
  String.ofList (List.replicate (width - digits.length) '0' ++ digits)

/-- A year in four digits, with a sign if it needs more or lies before year 0. -/
def yearText (year : Int) : String :=
  if year < 0 then "-" ++ padded 4 year.natAbs
  else if 9999 < year then "+" ++ padded 4 year.natAbs
  else padded 4 year.natAbs

/-- A fraction of a second in 0, 3, 6 or 9 digits. -/
def fractionText (nanoseconds : Nat) : String :=
  if nanoseconds = 0 then ""
  else if nanoseconds % 1000000 = 0 then "." ++ padded 3 (nanoseconds / 1000000)
  else if nanoseconds % 1000 = 0 then "." ++ padded 6 (nanoseconds / 1000)
  else "." ++ padded 9 nanoseconds

/-- The moment as date and time of day. In a leap second the seconds go on counting to 60. -/
def text (timestamp : Timestamp) : String :=
  let date := Date.ofDays (timestamp.seconds / secondsPerDay)
  let secondOfDay := (timestamp.seconds % secondsPerDay).toNat
  let hour := secondOfDay / 3600
  let minute := secondOfDay / 60 % 60
  let second := secondOfDay % 60 + timestamp.nanoseconds / 1000000000
  s!"{yearText date.year}-{padded 2 date.month}-{padded 2 date.day}" ++
    s!"T{padded 2 hour}:{padded 2 minute}:{padded 2 second}" ++
    s!"{fractionText (timestamp.nanoseconds % 1000000000)}Z"

end Timestamp

end Forklift

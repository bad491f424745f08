/-!
# Calendar dates

A point in time is a number of milliseconds since the start of 1970, in UTC. This module takes it
apart into a date of the Gregorian calendar, extended to all years, and a time of day.

## Main definitions

* `CivilTime`: a date and a time of day
* `CivilTime.ofMillis`: the date and the time of day of a point in time
* `CivilTime.daysBefore`: the days from the start of 1970 to a date
* `CivilTime.display`, `CivilTime.rfc3339`: the two texts of a point in time

## Design notes

Years are counted from March, so that the leap day is the last day of a year, and four hundred years
are one era of 146097 days.
-/

namespace DocQuery

/-- A date and a time of day. -/
structure CivilTime where
  year : Int
  month : Nat
  day : Nat
  hour : Nat
  minute : Nat
  second : Nat
  milli : Nat
  deriving DecidableEq, Inhabited

namespace CivilTime

/-- The milliseconds of a day. -/
def millisPerDay : Int := 86400000

/-- The date that lies the given number of days after the start of 1970, as year, month and day. -/
def dateOfDays (days : Int) : Int × Nat × Nat :=
  let shifted := days + 719468
  let era := shifted / 146097
  let dayOfEra := (shifted % 146097).toNat
  let yearOfEra := (dayOfEra - dayOfEra / 1460 + dayOfEra / 36524 - dayOfEra / 146096) / 365
  let dayOfYear := dayOfEra - (365 * yearOfEra + yearOfEra / 4 - yearOfEra / 100)
  let monthFromMarch := (5 * dayOfYear + 2) / 153
  let day := dayOfYear - (153 * monthFromMarch + 2) / 5 + 1
  let month := if monthFromMarch < 10 then monthFromMarch + 3 else monthFromMarch - 9
  let year := (yearOfEra : Int) + era * 400 + (if month ≤ 2 then 1 else 0)
  (year, month, day)

/-- The days from the start of 1970 to a date. -/
def daysBefore (year : Int) (month day : Nat) : Int :=
  let fromMarch := if month ≤ 2 then year - 1 else year
  let era := fromMarch / 400
  let yearOfEra := fromMarch % 400
  let monthFromMarch := if month ≤ 2 then month + 9 else month - 3
  let dayOfYear := (153 * monthFromMarch + 2) / 5 + day - 1
  let dayOfEra := yearOfEra * 365 + yearOfEra / 4 - yearOfEra / 100 + dayOfYear
  era * 146097 + dayOfEra - 719468

/-- Whether a year has a leap day. -/
def isLeap (year : Int) : Bool := year % 4 == 0 && (year % 100 != 0 || year % 400 == 0)

/-- The number of days of a month. -/
def daysInMonth (year : Int) (month : Nat) : Nat :=
  if month = 2 then (if isLeap year then 29 else 28)
  else if month = 4 ∨ month = 6 ∨ month = 9 ∨ month = 11 then 30
  else 31

/-- The date and the time of day of a point in time. -/
def ofMillis (millis : Int) : CivilTime :=
  let (year, month, day) := dateOfDays (millis / millisPerDay)
  let rest := (millis % millisPerDay).toNat
  { year, month, day
    hour := rest / 3600000
    minute := rest / 60000 % 60
    second := rest / 1000 % 60
    milli := rest % 1000 }

/-! ## Texts -/

/-- A number with zeros in front, up to the given width. -/
def padded (width n : Nat) : String :=
  let digits := (toString n).toList
  String.ofList (List.replicate (width - digits.length) '0' ++ digits)

/-- Thousandths without the zeros at their end. -/
def thousandths (milli : Nat) : String :=
  let digits := (padded 3 milli).toList
  String.ofList (digits.reverse.dropWhile (· = '0')).reverse

/-- The year in four digits, with a sign in front of a negative one. -/
def yearText (year : Int) : String := (if year < 0 then "-" else "") ++ padded 4 year.natAbs

/-- The date with two digits for month and day. -/
def dateText (t : CivilTime) : String :=
  yearText t.year ++ "-" ++ padded 2 t.month ++ "-" ++ padded 2 t.day

/-- The text in messages: the hour without a leading zero and a fraction of at least one digit.
Outside the years -9999 to 9999 it is the number of milliseconds. -/
def display (millis : Int) : String :=
  let t := ofMillis millis
  if t.year < -9999 ∨ 9999 < t.year then toString millis
  else
    let fraction := if t.milli = 0 then "0" else thousandths t.milli
    t.dateText ++ " " ++ toString t.hour ++ ":" ++ padded 2 t.minute ++ ":" ++ padded 2 t.second ++
      "." ++ fraction ++ " +00:00:00"

/-- The text in keys: RFC 3339 with a fraction only where there is one. Later years are written as
the last instant of 9999, and earlier ones as the number of milliseconds. -/
def rfc3339 (millis : Int) : String :=
  let t := ofMillis millis
  if 9999 < t.year then "9999-12-31T23:59:59.999999999Z"
  else if t.year < 0 then toString millis
  else
    let fraction := if t.milli = 0 then "" else "." ++ thousandths t.milli
    t.dateText ++ "T" ++ padded 2 t.hour ++ ":" ++ padded 2 t.minute ++ ":" ++ padded 2 t.second ++
      fraction ++ "Z"

end CivilTime

end DocQuery

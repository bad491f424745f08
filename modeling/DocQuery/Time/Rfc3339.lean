import DocQuery.Text.Integer
import DocQuery.Time.Calendar

/-!
# Reading points in time

A date and a time of day as RFC 3339 writes them: one byte between date and time, an optional
fraction of any length, and an offset from UTC. A leap second can only end the last day of a month
in UTC, and is read as the last instant before it.

## Main definitions

* `CivilTime.ofRfc3339?`: the milliseconds since the start of 1970 that a text stands for
-/

namespace DocQuery.CivilTime

/-- The number that exactly `count` decimal digits write, and the rest. -/
def readFixed? (count : Nat) (chars : List Char) : Option (Nat × List Char) :=
  let digits := chars.take count
  if digits.length = count ∧ digits.all Char.isDigit then
    some (Integer.digitsValue digits, chars.drop count)
  else none

/-- The rest of a text that starts with the given character. -/
def readMark? (mark : Char) : List Char → Option (List Char)
  | c :: rest => if c = mark then some rest else none
  | [] => none

/-- The nanoseconds of a fraction, of which nine digits count, and the rest. Without a point the
fraction is zero. -/
def readFraction? : List Char → Option (Nat × List Char)
  | '.' :: rest =>
    let (digits, rest) := Integer.takeDigits rest
    if digits.isEmpty then none
    else
      let nine := (digits ++ List.replicate 9 '0').take 9
      some (Integer.digitsValue nine, rest)
  | rest => some (0, rest)

/-- The seconds of an offset from UTC, and the rest. -/
def readOffset? : List Char → Option (Int × List Char)
  | c :: rest =>
    if c = 'Z' ∨ c = 'z' then some (0, rest)
    else if c = '+' ∨ c = '-' then do
      let (hours, rest) ← readFixed? 2 rest
      let rest ← readMark? ':' rest
      let (minutes, rest) ← readFixed? 2 rest
      if 23 < hours ∨ 59 < minutes then none
      let seconds : Int := hours * 3600 + minutes * 60
      return (if c = '-' then -seconds else seconds, rest)
    else none
  | [] => none

/-- Whether a number of nanoseconds since the start of 1970 is the last instant of a month. -/
def endsMonth (nanos : Int) : Bool :=
  let (_, _, day) := dateOfDays ((nanos + 1) / 86400000000000)
  (nanos + 1) % 86400000000000 == 0 && day == 1

/-- The milliseconds since the start of 1970 that a text stands for, cut off towards that point. -/
def ofRfc3339? (text : String) : Option Int := do
  let (year, rest) ← readFixed? 4 text.toList
  let (month, rest) ← readFixed? 2 (← readMark? '-' rest)
  let (day, rest) ← readFixed? 2 (← readMark? '-' rest)
  let rest ← match rest with
    | separator :: rest => if separator.toNat < 128 then some rest else none
    | [] => none
  let (hour, rest) ← readFixed? 2 rest
  let (minute, rest) ← readFixed? 2 (← readMark? ':' rest)
  let (second, rest) ← readFixed? 2 (← readMark? ':' rest)
  let (fraction, rest) ← readFraction? rest
  let (offset, rest) ← readOffset? rest
  if !rest.isEmpty then none
  if month = 0 ∨ 12 < month ∨ day = 0 ∨ daysInMonth year month < day then none
  if 23 < hour ∨ 59 < minute ∨ 60 < second then none
  let isLeapSecond := second = 60
  let whole : Int :=
    daysBefore year month day * 86400 + hour * 3600 + minute * 60 +
      (if isLeapSecond then 59 else second) - offset
  let nanos := whole * 1000000000 + (if isLeapSecond then 999999999 else fraction)
  if isLeapSecond ∧ endsMonth nanos = false then none
  return nanos.tdiv 1000000

end DocQuery.CivilTime

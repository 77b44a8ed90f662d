/-!
# The calendar

Times are counted in nanoseconds since the beginning of 1970 at Greenwich. The Gregorian calendar
gives each day a year, a month and a day of the month; it goes on in the same way before the year in
which it was introduced. A year is thought to begin in March here, so that the odd day of leap years
is its last one.
-/

namespace GoldenCheck

/-- Seconds in a day. -/
def daySeconds : Int := 86400

/-- Nanoseconds in a second. -/
def secondNanos : Int := 1000000000

/-- The number of a day, counted from the first of January 1970. A month that is not in the year is
in one before or after it, and so is a day that is not in the month. -/
def dayNumber (year month day : Int) : Int :=
  let m := month - 3
  let y := year + m / 12
  365 * y + y / 4 - y / 100 + y / 400 + (153 * (m % 12) + 2) / 5 + day - 719469

/-- A time of the calendar at Greenwich. -/
structure CivilTime where
  /-- The year; the one before year 1 is year 0. -/
  year : Int
  /-- The month, from 1 on. -/
  month : Int
  /-- The day of the month, from 1 on. -/
  day : Int
  /-- The hour. -/
  hour : Int := 0
  /-- The minute. -/
  minute : Int := 0
  /-- The second. -/
  second : Int := 0
  deriving DecidableEq, Repr

namespace CivilTime

/-- Seconds since the beginning of 1970. -/
def seconds (t : CivilTime) : Int :=
  daySeconds * dayNumber t.year t.month t.day + 3600 * t.hour + 60 * t.minute + t.second

/-- The time so many seconds after the beginning of 1970. -/
def ofSeconds (s : Int) : CivilTime :=
  let z := s / daySeconds + 719468
  let n := z % 146097
  let y := (n - n / 1460 + n / 36524 - n / 146096) / 365
  let d := n - (365 * y + y / 4 - y / 100)
  let m := (5 * d + 2) / 153
  { year := 400 * (z / 146097) + y + (if 10 ≤ m then 1 else 0)
    month := if 10 ≤ m then m - 9 else m + 3
    day := d - (153 * m + 2) / 5 + 1
    hour := s % daySeconds / 3600
    minute := s % 3600 / 60
    second := s % 60 }

/-- There is such a time: the month is in the year, the day in the month, the hour in the day. -/
def exists? (t : CivilTime) : Bool := ofSeconds t.seconds = t

/-- The day of the week, counted from Sunday. -/
def weekday (t : CivilTime) : Int := (dayNumber t.year t.month t.day + 4) % 7

end CivilTime

/-- A number with at least some digits. -/
def wideNumber (width : Nat) (n : Int) : String :=
  let digits := toString n.natAbs
  (if n < 0 then "-" else "") ++ "".pushn '0' (width - digits.length) ++ digits

/-- A time in nanoseconds since the beginning of 1970, with its date and how far it is from
Greenwich. -/
def timeText (nanos : Int) : String :=
  let t := CivilTime.ofSeconds (nanos / secondNanos)
  let two := wideNumber 2
  wideNumber 4 t.year ++ "-" ++ two t.month ++ "-" ++ two t.day ++ " " ++ two t.hour ++ ":"
    ++ two t.minute ++ ":" ++ two t.second ++ "." ++ wideNumber 9 (nanos % secondNanos)
    ++ " +0000"

end GoldenCheck

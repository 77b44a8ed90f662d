import GoldenCheck.Time.Calendar
import GoldenCheck.Time.DateWord

/-!
# Phrases about times

A phrase like `tomorrow 10 pm`, `2024-02-29 12:30 UTC` or `3 days ago` names a time, which may depend
on what time it is now. It is made of items in any order: a date, a time of day, a day of the week, a
zone, and any number of shifts. Each item takes as many words as it can (`item`). What the items say
is gathered (`Said`); then the date and the time of day are put together, and moved by the shifts
(`Said.time?`).
-/

namespace GoldenCheck

/-- How far a time is moved. -/
structure TimeShift where
  /-- Years. -/
  years : Int := 0
  /-- Months. -/
  months : Int := 0
  /-- Days. -/
  days : Int := 0
  /-- Hours. -/
  hours : Int := 0
  /-- Minutes. -/
  minutes : Int := 0
  /-- Seconds. -/
  seconds : Int := 0
  /-- Nanoseconds. -/
  nanos : Int := 0
  deriving DecidableEq, Repr

namespace TimeShift

/-- The parts of a shift, the longest first. -/
def parts (s : TimeShift) : List Int :=
  [s.years, s.months, s.days, s.hours, s.minutes, s.seconds, s.nanos]

/-- Some of a unit. -/
def of (n : Int) : TimeUnit → TimeShift
  | .year => { years := n }
  | .month => { months := n }
  | .day => { days := n }
  | .hour => { hours := n }
  | .minute => { minutes := n }
  | .second => { seconds := n }

/-- One shift after so many of another. -/
def add (s : TimeShift) (factor : Int) (r : TimeShift) : TimeShift where
  years := s.years + factor * r.years
  months := s.months + factor * r.months
  days := s.days + factor * r.days
  hours := s.hours + factor * r.hours
  minutes := s.minutes + factor * r.minutes
  seconds := s.seconds + factor * r.seconds
  nanos := s.nanos + factor * r.nanos

end TimeShift

/-- What a phrase has said. -/
structure Said where
  /-- The year. -/
  year : WrittenNumber
  /-- The month. -/
  month : Int
  /-- The day of the month. -/
  day : Int
  /-- The hour. -/
  hour : Int
  /-- The minute. -/
  minute : Int
  /-- The second. -/
  second : Int
  /-- Nanoseconds. -/
  nanos : Int
  /-- The hour is after noon, or before it; none if it is counted from midnight. -/
  isAfternoon : Option Bool := none
  /-- The zone, as seconds before Greenwich. -/
  zone : Int := 0
  /-- Which one of the days of the week. -/
  ordinal : Int := 0
  /-- The day of the week. -/
  weekday : Int := 0
  /-- How far the time is moved. -/
  shift : TimeShift := {}
  /-- How many times of day there were. -/
  times : Nat := 0
  /-- How many dates. -/
  dates : Nat := 0
  /-- How many days of the week. -/
  weekdays : Nat := 0
  /-- How many zones. -/
  zones : Nat := 0
  /-- There was a shift. -/
  isShifted : Bool := false
  deriving DecidableEq, Repr

namespace Said

/-! ### Items -/

/-- A time is moved. -/
def move (s : Said) (factor : Int) (r : TimeShift) : Option Said :=
  let shift := s.shift.add factor r
  if shift.parts.all DateWord.fits then some { s with shift, isShifted := true } else none

/-- A time of day. -/
def setTime (s : Said) (hour minute second nanos : Int) (isAfternoon : Option Bool) : Said :=
  { s with hour, minute, second, nanos, isAfternoon }

/-- A date. -/
def setDate (s : Said) (year : WrittenNumber) (month day : Int) : Said :=
  { s with year, month, day, dates := s.dates + 1 }

/-- A date of the year that was spoken of. -/
def setDay (s : Said) (month day : Int) : Said := s.setDate s.year month day

/-- How far a zone is from Greenwich: hours, or hours and minutes, which may be apart. -/
def offset? (n : WrittenNumber) (minutes : Option Int) : Option Int :=
  let total := match minutes with
    | some m => 60 * n.value + (if n.isNegative then -m else m)
    | none =>
      let v := if n.digits ≤ 2 then 100 * n.value else n.value
      v.tdiv 100 * 60 + v.tmod 100
  if -1440 ≤ total ∧ total ≤ 1440 then some (60 * total) else none

/-- A zone is given by a number with a sign, and perhaps minutes after a colon. -/
def offset (n : WrittenNumber) : List DateWord → Option (Int × List DateWord)
  | .mark ':' :: .plain m :: rest => do
    return (← offset? n (some m.value), rest)
  | .mark ':' :: _ => none
  | rest => do return (← offset? n none, rest)

/-- A number without anything that tells what it means: a year after a date and a time, or a date
without marks if it is long, or a time of day. -/
def setNumber (s : Said) (n : WrittenNumber) : Said :=
  if s.dates ≠ 0 ∧ s.year.digits = 0 ∧ !s.isShifted ∧ (s.times ≠ 0 ∨ 2 < n.digits) then
    { s with year := n }
  else if 4 < n.digits then
    s.setDate { value := n.value / 10000, digits := n.digits - 4 } (n.value / 100 % 100) (n.value % 100)
  else
    let (hour, minute) := if n.digits ≤ 2 then (n.value, 0) else (n.value / 100, n.value % 100)
    { s.setTime hour minute 0 0 none with times := s.times + 1 }

/-- A shift, which may be told to lead to the past or to the time to come. -/
def relative (s : Said) (r : TimeShift) : List DateWord → Option (Said × List DateWord)
  | .sense sign :: rest => do return (← s.move sign r, rest)
  | rest => do return (← s.move 1 r, rest)

/-- What follows the hour and more of a time of day: a zone, or nothing. -/
def zoneAfter (s : Said) : List DateWord → Option (Said × List DateWord)
  | .signed n :: rest => do
    let (zone, rest) ← offset n rest
    return ({ s with zone, zones := s.zones + 1, times := s.times + 1 }, rest)
  | rest => some ({ s with times := s.times + 1 }, rest)

/-- What follows the hour and a colon. A half of the day may be told. -/
def minutesAfter (s : Said) (takesHalf : Bool) (hour : Int) :
    List DateWord → Option (Said × List DateWord)
  | .plain m :: rest =>
    let ended (second nanos : Int) (rest : List DateWord) : Option (Said × List DateWord) :=
      match rest with
      | .half h :: more =>
        if takesHalf then
          some ({ s.setTime hour m.value second nanos (some h) with times := s.times + 1 }, more)
        else (s.setTime hour m.value second nanos none).zoneAfter rest
      | _ => (s.setTime hour m.value second nanos none).zoneAfter rest
    match rest with
    | .mark ':' :: .plain n :: rest => ended n.value 0 rest
    | .mark ':' :: .fraction false second nanos :: rest => ended second nanos rest
    | .mark ':' :: _ => none
    | rest => ended 0 0 rest
  | _ => none

/-- The time of day after a date and a letter. -/
def timeAfter (s : Said) : List DateWord → Option (Said × List DateWord)
  | .plain n :: .mark ':' :: rest => s.minutesAfter false n.value rest
  | .plain n :: .signed z :: rest => (s.setTime n.value 0 0 0 none).zoneAfter (.signed z :: rest)
  | _ => none

/-- An item that begins with a number. -/
def numberItem (s : Said) (n : WrittenNumber) : List DateWord → Option (Said × List DateWord)
  | .half h :: rest =>
    some ({ s.setTime n.value 0 0 0 (some h) with times := s.times + 1 }, rest)
  | .mark ':' :: rest => s.minutesAfter true n.value rest
  | .mark '/' :: .plain m :: .mark '/' :: .plain k :: rest =>
    some (if 4 ≤ n.digits then s.setDate n m.value k.value else s.setDate k n.value m.value, rest)
  | .mark '/' :: .plain _ :: .mark '/' :: _ => none
  | .mark '/' :: .plain m :: rest => some (s.setDay n.value m.value, rest)
  | .mark '/' :: _ => none
  | .month m :: .signed y :: rest => some (s.setDate { value := -y.value, digits := y.digits } m n.value, rest)
  | .month m :: .plain y :: rest => some (s.setDate y m n.value, rest)
  | .month m :: rest => some (s.setDay m n.value, rest)
  | .weekday w :: rest =>
    some ({ s with ordinal := n.value, weekday := w, weekdays := s.weekdays + 1 }, rest)
  | .unit u count :: rest => s.relative (.of (n.value * count) u) rest
  | .signed m :: .signed d :: rest =>
    let s := s.setDate n (-m.value) (-d.value)
    match rest with
    | .letterT :: rest => s.timeAfter rest
    | rest => some (s, rest)
  | .signed m :: .unit u count :: rest => do
    return (← (s.setNumber n).move 1 (.of (m.value * count) u), rest)
  | .signed z :: rest => (s.setTime n.value 0 0 0 none).zoneAfter (.signed z :: rest)
  | rest => some (s.setNumber n, rest)

/-- An item that begins with the name of a zone. -/
def zoneItem (s : Said) (base : Int) : List DateWord → Option (Said × List DateWord)
  | .summer :: rest => some ({ s with zone := base + 3600, zones := s.zones + 1 }, rest)
  | .signed n :: .unit u count :: rest => do
    return ({ ← s.move 1 (.of (n.value * count) u) with zone := base, zones := s.zones + 1 }, rest)
  | .signed n :: rest => do
    let (more, rest) ← offset n rest
    return ({ s with zone := base + more, zones := s.zones + 1 }, rest)
  | rest => some ({ s with zone := base, zones := s.zones + 1 }, rest)

/-- The first item of a phrase, and what follows it. -/
def item (s : Said) : List DateWord → Option (Said × List DateWord)
  | .plain n :: rest => s.numberItem n rest
  | .signed n :: .unit u count :: rest => s.relative (.of (n.value * count) u) rest
  | .fraction _ seconds nanos :: .unit .second _ :: rest => s.relative { seconds, nanos } rest
  | .ordinal n :: .weekday w :: rest =>
    some ({ s with ordinal := n, weekday := w, weekdays := s.weekdays + 1 }, rest)
  | .ordinal n :: .unit u count :: rest => s.relative (.of (n * count) u) rest
  | .unit u count :: rest => s.relative (.of count u) rest
  | .shift days :: rest => do return (← s.move 1 { days }, rest)
  | .weekday w :: rest =>
    let s := { s with ordinal := 0, weekday := w, weekdays := s.weekdays + 1 }
    match rest with
    | .mark ',' :: rest => some (s, rest)
    | rest => some (s, rest)
  | .month m :: .signed d :: .signed y :: rest =>
    some (s.setDate { value := -y.value, digits := y.digits } m (-d.value), rest)
  | .month m :: .plain d :: .mark ',' :: .plain y :: rest => some (s.setDate y m d.value, rest)
  | .month _ :: .plain _ :: .mark ',' :: _ => none
  | .month m :: .plain d :: rest => some (s.setDay m d.value, rest)
  | .zone base :: rest => s.zoneItem base rest
  | .summerZone base :: rest =>
    some ({ s with zone := base + 3600, zones := s.zones + 1 }, rest)
  | .letterT :: .signed n :: .unit u count :: rest => do
    let s ← s.move 1 (.of (n.value * count) u)
    return ({ s with zone := -25200, zones := s.zones + 1 }, rest)
  | .letterT :: .signed _ :: _ => none
  | .letterT :: rest => some ({ s with zone := -25200, zones := s.zones + 1 }, rest)
  | _ => none

/-- All the items of a phrase. -/
def items : Nat → Said → List DateWord → Option Said
  | _, s, [] => some s
  | 0, _, _ => none
  | fuel + 1, s, words => do
    let (s, rest) ← s.item words
    items fuel s rest

/-! ### The time -/

/-- Nothing has been said at a time. -/
def start (now : Int) : Said :=
  let t := CivilTime.ofSeconds (now / secondNanos)
  { year := { value := t.year, digits := 0 }, month := t.month, day := t.day, hour := t.hour, minute := t.minute,
    second := t.second, nanos := now % secondNanos }

/-- The hour of the day. -/
def hour? (s : Said) : Option Int :=
  match s.isAfternoon with
  | none => if 0 ≤ s.hour ∧ s.hour < 24 then some s.hour else none
  | some isAfternoon =>
    if 0 < s.hour ∧ s.hour ≤ 12 then some (s.hour % 12 + if isAfternoon then 12 else 0) else none

/-- The year. Of years in two digits those from 69 on are in the century before. -/
def fullYear (s : Said) : Int :=
  if 0 ≤ s.year.value ∧ s.year.digits = 2 then
    s.year.value + if s.year.value < 69 then 2000 else 1900
  else s.year.value.natAbs

/-- Signed words of 32 bits. -/
def fitsHalf (n : Int) : Bool := -2147483648 ≤ n && n ≤ 2147483647

/-- The time that was said, in nanoseconds. -/
def time? (s : Said) : Option Int := do
  if 1 < s.times ∨ 1 < s.dates ∨ 1 < s.weekdays ∨ 1 < s.zones then none
  let hasTime := s.times ≠ 0 ∨ s.isShifted ∧ s.dates = 0 ∧ s.weekdays = 0
  let day : CivilTime := { year := s.fullYear, month := s.month, day := s.day }
  let said ← if hasTime then do
      pure { day with hour := ← s.hour?, minute := s.minute, second := s.second }
    else pure day
  if !fitsHalf (said.year - 1900) ∨ !said.exists? then none
  let nanos := if hasTime then s.nanos else 0
  let moved := if s.weekdays ≠ 0 ∧ s.dates = 0 then
      let before := if 0 < s.ordinal ∧ said.weekday ≠ s.weekday then 1 else 0
      said.day + 7 * (s.ordinal - before) + (s.weekday - said.weekday) % 7
    else said.day
  if !fitsHalf moved then none
  let t := CivilTime.ofSeconds { said with day := moved }.seconds
  let later : CivilTime :=
    { t with year := t.year + s.shift.years, month := t.month + s.shift.months,
             day := t.day + s.shift.days }
  if !([later.year - 1900, later.month - 1, later.day].all fitsHalf) then none
  if !fitsHalf ((CivilTime.ofSeconds later.seconds).year - 1900) then none
  let seconds := later.seconds - s.zone + 3600 * s.shift.hours + 60 * s.shift.minutes
    + s.shift.seconds
  let total := secondNanos * seconds + nanos + s.shift.nanos
  if DateWord.fits (total / secondNanos) then some total else none

end Said

/-- The time that a phrase names, in nanoseconds, as does the time now. A blank phrase is the beginning
of the day. -/
def timeOfPhrase? (now : Int) (text : List Char) : Option Int := do
  let words ← DateWord.words? (text.length + 1) text
  match words with
  | [.mark '@', .plain n] => some (secondNanos * n.value)
  | [.mark '@', .signed n] => some (secondNanos * n.value)
  | [.mark '@', .fraction _ seconds nanos] => some (secondNanos * seconds + nanos)
  | [] => if text.all isSpace then ((Said.start now).setNumber { value := 0, digits := 1 }).time? else
      (Said.start now).time?
  | words => do (← (Said.start now).items words.length words).time?

end GoldenCheck

import GoldenCheck.Decimal.Digit

/-!
# The words of dates

A phrase about a time is made of numbers, of words like `march`, `tuesday`, `pm`, `days` or `ago`,
and of a few marks. A number may have a sign before it and a fraction after it. Small and capital
letters are alike. What is in parentheses is no part of the phrase.
-/

namespace GoldenCheck

/-- The units that times are measured in. -/
inductive TimeUnit where
  /-- Years. -/
  | year
  /-- Months. -/
  | month
  /-- Days. -/
  | day
  /-- Hours. -/
  | hour
  /-- Minutes. -/
  | minute
  /-- Seconds. -/
  | second
  deriving DecidableEq, Repr

/-- A number as it was written. -/
structure WrittenNumber where
  /-- Its value. -/
  value : Int
  /-- How many digits it has. -/
  digits : Nat
  /-- It has a minus sign. -/
  isNegative : Bool := false
  deriving DecidableEq, Repr

/-- A part of a phrase about a time. -/
inductive DateWord where
  /-- A number without a sign. -/
  | plain (n : WrittenNumber)
  /-- A number with a sign. -/
  | signed (n : WrittenNumber)
  /-- A number with a fraction: the greatest integer below it, and a number of nanoseconds. -/
  | fraction ( isSigned : Bool) (seconds nanos : Int)
  /-- Before or after noon. -/
  | half ( isAfternoon : Bool)
  /-- A month. -/
  | month (n : Int)
  /-- A day of the week. -/
  | weekday (n : Int)
  /-- Where a time holds: so many seconds before Greenwich. -/
  | zone (offset : Int)
  /-- A zone in summer. -/
  | summerZone (offset : Int)
  /-- A zone has its summer time. -/
  | summer
  /-- Some of a unit. -/
  | unit (u : TimeUnit) (count : Int)
  /-- Some days from now. -/
  | shift (days : Int)
  /-- A number of order. -/
  | ordinal (n : Int)
  /-- Whether the time before it is in the past, as -1, or to come, as 1. -/
  | sense (sign : Int)
  /-- The letter between a date and a time. -/
  | letterT
  /-- A mark. -/
  | mark (c : Char)
  deriving DecidableEq, Repr

namespace DateWord

/-! ### Words -/

/-- The halves of a day. -/
def halves : List (String × DateWord) :=
  [("AM", half false), ("A.M.", half false), ("PM", half true), ("P.M.", half true)]

/-- The months and the days of the week. Three letters are enough for them. -/
def named : List (String × DateWord) :=
  [("JANUARY", month 1), ("FEBRUARY", month 2), ("MARCH", month 3), ("APRIL", month 4),
    ("MAY", month 5), ("JUNE", month 6), ("JULY", month 7), ("AUGUST", month 8),
    ("SEPTEMBER", month 9), ("SEPT", month 9), ("OCTOBER", month 10), ("NOVEMBER", month 11),
    ("DECEMBER", month 12), ("SUNDAY", weekday 0), ("MONDAY", weekday 1), ("TUESDAY", weekday 2),
    ("TUES", weekday 2), ("WEDNESDAY", weekday 3), ("WEDNES", weekday 3), ("THURSDAY", weekday 4),
    ("THUR", weekday 4), ("THURS", weekday 4), ("FRIDAY", weekday 5), ("SATURDAY", weekday 6)]

/-- Hours in seconds. -/
def hours (n : Int) : Int := 3600 * n

/-- The zones that have names. -/
def zones : List (String × DateWord) :=
  [("GMT", zone 0), ("UT", zone 0), ("UTC", zone 0), ("WET", zone 0), ("WEST", summerZone 0),
    ("BST", summerZone 0), ("ART", zone (hours (-3))), ("BRT", zone (hours (-3))),
    ("BRST", summerZone (hours (-3))), ("NST", zone (hours (-3) - 1800)),
    ("NDT", summerZone (hours (-3) - 1800)), ("AST", zone (hours (-4))),
    ("ADT", summerZone (hours (-4))), ("CLT", zone (hours (-4))),
    ("CLST", summerZone (hours (-4))), ("EST", zone (hours (-5))),
    ("EDT", summerZone (hours (-5))), ("CST", zone (hours (-6))),
    ("CDT", summerZone (hours (-6))), ("MST", zone (hours (-7))),
    ("MDT", summerZone (hours (-7))), ("PST", zone (hours (-8))),
    ("PDT", summerZone (hours (-8))), ("AKST", zone (hours (-9))),
    ("AKDT", summerZone (hours (-9))), ("HST", zone (hours (-10))), ("HAST", zone (hours (-10))),
    ("HADT", summerZone (hours (-10))), ("SST", zone (hours (-12))), ("WAT", zone (hours 1)),
    ("CET", zone (hours 1)), ("CEST", summerZone (hours 1)), ("MET", zone (hours 1)),
    ("MEZ", zone (hours 1)), ("MEST", summerZone (hours 1)), ("MESZ", summerZone (hours 1)),
    ("EET", zone (hours 2)), ("EEST", summerZone (hours 2)), ("CAT", zone (hours 2)),
    ("SAST", zone (hours 2)), ("EAT", zone (hours 3)), ("MSK", zone (hours 3)),
    ("MSD", summerZone (hours 3)), ("IST", zone (hours 5 + 1800)), ("SGT", zone (hours 8)),
    ("KST", zone (hours 9)), ("JST", zone (hours 9)), ("GST", zone (hours 10)),
    ("NZST", zone (hours 12)), ("NZDT", summerZone (hours 12))]

/-- The units. An `S` may follow them. -/
def units : List (String × DateWord) :=
  [("YEAR", unit .year 1), ("MONTH", unit .month 1), ("FORTNIGHT", unit .day 14),
    ("WEEK", unit .day 7), ("DAY", unit .day 1), ("HOUR", unit .hour 1), ("MINUTE", unit .minute 1),
    ("MIN", unit .minute 1), ("SECOND", unit .second 1), ("SEC", unit .second 1)]

/-- Words that count from now. -/
def relations : List (String × DateWord) :=
  [("TOMORROW", shift 1), ("YESTERDAY", shift (-1)), ("TODAY", shift 0), ("NOW", shift 0),
    ("LAST", ordinal (-1)), ("THIS", ordinal 0), ("NEXT", ordinal 1), ("FIRST", ordinal 1),
    ("THIRD", ordinal 3), ("FOURTH", ordinal 4), ("FIFTH", ordinal 5), ("SIXTH", ordinal 6),
    ("SEVENTH", ordinal 7), ("EIGHTH", ordinal 8), ("NINTH", ordinal 9), ("TENTH", ordinal 10),
    ("ELEVENTH", ordinal 11), ("TWELFTH", ordinal 12), ("AGO", sense (-1)), ("HENCE", sense 1)]

/-- The zones of sailors have single letters. No zone is `J`, and `T` may have another meaning. -/
def sailorZone? (c : Char) : Option DateWord :=
  if c = 'T' then some letterT
  else if 'A' ≤ c ∧ c ≤ 'I' then some (zone (hours (c.toNat - 64)))
  else if 'K' ≤ c ∧ c ≤ 'M' then some (zone (hours (c.toNat - 65)))
  else if 'N' ≤ c ∧ c ≤ 'Y' then some (zone (hours (77 - c.toNat)))
  else if c = 'Z' then some (zone 0)
  else none

/-- A month or a day of the week, in three letters, which a period may follow, or in all. -/
def named? (word : List Char) : Option DateWord :=
  let isShort := word.length = 3 || word.length = 4 && word[3]? = some '.'
  (named.find? fun p =>
    if isShort then word.take 3 = p.1.toList.take 3 else String.ofList word = p.1).map (·.2)

/-- What a word in capital letters means. -/
def ofWord? (word : List Char) : Option DateWord :=
  let name := String.ofList word
  let single := if name.endsWith "S" then units.lookup (String.ofList word.dropLast) else none
  let sailor := match word with
    | [c] => sailorZone? c
    | _ => none
  halves.lookup name <|> named? word <|> zones.lookup name
    <|> (if name = "DST" then some summer else none) <|> units.lookup name <|> single
    <|> relations.lookup name <|> sailor
    <|> zones.lookup (String.ofList (word.filter (· ≠ '.')))

/-! ### Numbers -/

/-- Signed words of 64 bits. -/
def fits (n : Int) : Bool := -9223372036854775808 ≤ n && n ≤ 9223372036854775807

/-- The number at the beginning of a text, which begins with a digit, and what follows it. -/
def number? (sign : Option Int) (text : List Char) : Option (DateWord × List Char) := do
  let (front, rest) := text.span Char.isDigit
  let value := sign.getD 1 * numberOf 10 front
  if !fits value then none
  let (ahead, behind) := (rest.drop 1).span Char.isDigit
  if (rest.head? = some '.' ∨ rest.head? = some ',') ∧ ahead ≠ [] then
    let nanos : Int := numberOf 10 ((ahead ++ List.replicate 9 '0').take 9)
    if sign = some (-1) then
      let nanos := nanos + if (ahead.drop 9).any (· ≠ '0') then 1 else 0
      if nanos = 0 then return (fraction true value 0, behind)
      return (fraction true (value - 1) (1000000000 - nanos), behind)
    return (fraction sign.isSome value nanos, behind)
  else
    let n : WrittenNumber := ⟨value, front.length, sign = some (-1)⟩
    return (if sign.isSome then signed n else plain n, rest)

/-! ### Phrases -/

/-- What follows a note in parentheses, of which some are open. A note that does not end is as long
as the text. -/
def afterNote : Nat → List Char → List Char
  | _, [] => []
  | opened, c :: rest =>
    if c = '(' then afterNote (opened + 1) rest
    else if c = ')' then if opened ≤ 1 then rest else afterNote (opened - 1) rest
    else afterNote opened rest

/-- The words of a text, if all of it can be read. -/
def words? : Nat → List Char → Option (List DateWord)
  | 0, _ => some []
  | fuel + 1, text =>
    match text.dropWhile isSpace with
    | [] => some []
    | c :: rest =>
      if c = '-' ∨ c = '+' then
        let text := rest.dropWhile isSpace
        if text.head?.any Char.isDigit then do
          let (n, rest) ← number? (some (if c = '-' then -1 else 1)) text
          return n :: (← words? fuel rest)
        else words? fuel text
      else if c.isDigit then do
        let (n, rest) ← number? none (c :: rest)
        return n :: (← words? fuel rest)
      else if c.isAlpha then do
        let (letters, rest) := (c :: rest).span fun c => c.isAlpha || c = '.'
        return (← ofWord? ((letters.take 19).map Char.toUpper)) :: (← words? fuel rest)
      else if c = '(' then words? fuel (afterNote 0 (c :: rest))
      else return .mark c :: (← words? fuel rest)

end DateWord

end GoldenCheck

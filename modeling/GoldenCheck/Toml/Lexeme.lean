import GoldenCheck.Toml.Value

/-!
# Lexemes of TOML

Readers for the smallest parts of a document: white space, comments, ends of lines, keys, strings,
numbers, dates and times. A `Reader` takes characters from the front of its input and answers with
what it read and the rest, or with nothing when the input does not begin with such a part.

Control characters other than the tab never occur in a document, except for the line feed and the
carriage return before it, which end a line.
-/

namespace GoldenCheck

namespace Toml

/-- Reads an `α` from the front of the input. -/
abbrev Reader (α : Type) := List Char → Option (α × List Char)

/-! ### Lines and white space -/

/-- A blank within a line. -/
def isSpace (c : Char) : Bool := c == ' ' || c == '\t'

/-- A character that a comment may hold. -/
def isPlain (c : Char) : Bool := c == '\t' || (0x20 ≤ c.toNat && c.toNat ≠ 0x7F)

/-- The input after the blanks at its front. -/
def skipSpaces (cs : List Char) : List Char := cs.dropWhile isSpace

/-- The input after a comment, if it begins with one. -/
def skipComment : List Char → List Char
  | '#' :: cs => cs.dropWhile isPlain
  | cs => cs

/-- The input after one line feed, with or without a carriage return before it. -/
def newline? : List Char → Option (List Char)
  | '\n' :: cs => some cs
  | '\r' :: '\n' :: cs => some cs
  | _ => none

/-- The input after the rest of a line that holds nothing more than a comment. -/
def endOfLine? (cs : List Char) : Option (List Char) :=
  match skipComment (skipSpaces cs) with
  | [] => some []
  | rest => newline? rest

/-- The input after blanks, ends of lines and comments, with fuel for its length. -/
def skipGaps : Nat → List Char → List Char
  | 0, cs => cs
  | fuel + 1, cs =>
    let rest := skipComment (skipSpaces cs)
    match newline? rest with
    | some next => skipGaps fuel next
    | none => rest

/-- The input after blanks, ends of lines and comments. -/
def skipGap (cs : List Char) : List Char := skipGaps cs.length cs

/-! ### Digits -/

/-- The number that a list of digits writes. -/
def numeral (base : Nat) (ds : List Char) : Nat :=
  ds.foldl (fun n d => n * base + (if d.isDigit then d.toNat - 48 else d.toLower.toNat - 87)) 0

/-- A digit of base sixteen. -/
def isHexDigit (c : Char) : Bool :=
  c.isDigit || ('a' ≤ c && c ≤ 'f') || ('A' ≤ c && c ≤ 'F')

/-- Exactly so many digits. -/
def digitsExactly (isDigit : Char → Bool) (n : Nat) : Reader (List Char) := fun cs =>
  let ds := cs.take n
  if ds.length = n ∧ ds.all isDigit then some (ds, cs.drop n) else none

/-- Digits with single underscores between them: `after` tells that a digit was just read. -/
def groupedDigits (isDigit : Char → Bool) (after : Bool) (seen : List Char) :
    Reader (List Char)
  | [] => if after then some (seen.reverse, []) else none
  | c :: cs =>
    if isDigit c then groupedDigits isDigit true (c :: seen) cs
    else if !after then none
    else if c = '_' then groupedDigits isDigit false seen cs
    else some (seen.reverse, c :: cs)

/-- One digit or more, with single underscores between them. -/
def grouped (isDigit : Char → Bool) : Reader (List Char) := groupedDigits isDigit false []

/-! ### Strings -/

/-- The character with a code point, unless there is none. -/
def scalar? (n : Nat) : Option Char :=
  if h : n.isValidChar then some (Char.ofNatAux n h) else none

/-- What comes after a backslash in a string with escapes. -/
def readEscape : Reader Char
  | 'b' :: cs => some ('\x08', cs)
  | 't' :: cs => some ('\t', cs)
  | 'n' :: cs => some ('\n', cs)
  | 'f' :: cs => some ('\x0c', cs)
  | 'r' :: cs => some ('\r', cs)
  | '"' :: cs => some ('"', cs)
  | '\\' :: cs => some ('\\', cs)
  | 'u' :: cs => do
    let (ds, rest) ← digitsExactly isHexDigit 4 cs
    return (← scalar? (numeral 16 ds), rest)
  | 'U' :: cs => do
    let (ds, rest) ← digitsExactly isHexDigit 8 cs
    return (← scalar? (numeral 16 ds), rest)
  | _ => none

/-- The rest of a one-line string with escapes, up to its quote. -/
def basicBody : Nat → List Char → Reader (List Char)
  | 0, _, _ => none
  | fuel + 1, seen, cs =>
    match cs with
    | '"' :: rest => some (seen.reverse, rest)
    | '\\' :: rest => do
      let (c, rest) ← readEscape rest
      basicBody fuel (c :: seen) rest
    | c :: rest => if isPlain c then basicBody fuel (c :: seen) rest else none
    | [] => none

/-- The rest of a one-line string without escapes, up to its quote. -/
def literalBody (cs : List Char) : Option (List Char × List Char) :=
  match cs.span fun c => isPlain c && c != '\'' with
  | (body, '\'' :: rest) => some (body, rest)
  | _ => none

/-- The input after the white space that a backslash at the end of a line takes away, which may
reach over several lines. -/
def lineJoint? (cs : List Char) : Option (List Char) :=
  (newline? (skipSpaces cs)).map fun rest =>
    rest.dropWhile fun c => isSpace c || c == '\n' || c == '\r'

/-- A carriage return in `cs` stands before a line feed. -/
def returnsPaired : List Char → Bool
  | '\r' :: '\n' :: cs => returnsPaired cs
  | '\r' :: _ => false
  | _ :: cs => returnsPaired cs
  | [] => true

/-- The rest of a string over several lines, up to its three quotes. One or two more quotes may
stand before them and belong to the string. Every end of a line becomes a line feed. -/
def multilineBody (quote : Char) (escapes : Bool) : Nat → List Char → Reader (List Char)
  | 0, _, _ => none
  | fuel + 1, seen, cs =>
    match newline? cs with
    | some rest => multilineBody quote escapes fuel ('\n' :: seen) rest
    | none =>
      match cs with
      | [] => none
      | c :: rest =>
        if c = quote then
          let run := (cs.takeWhile (· = quote)).length
          if 3 ≤ run then
            let extra := min (run - 3) 2
            some ((List.replicate extra quote ++ seen).reverse, cs.drop (extra + 3))
          else multilineBody quote escapes fuel (c :: seen) rest
        else if c = '\\' ∧ escapes then
          match lineJoint? rest with
          | some next =>
            if returnsPaired (rest.take (rest.length - next.length)) then
              multilineBody quote escapes fuel seen next
            else none
          | none => do
            let (e, next) ← readEscape rest
            multilineBody quote escapes fuel (e :: seen) next
        else if isPlain c then multilineBody quote escapes fuel (c :: seen) rest
        else none

/-- The first line feed of a string over several lines is no part of it. -/
def dropFirstNewline (cs : List Char) : List Char := (newline? cs).getD cs

/-- A string of any of the four forms. -/
def readString : Reader String := fun cs =>
  let read : Option (List Char × List Char) :=
    match cs with
    | '"' :: '"' :: '"' :: rest =>
      multilineBody '"' true (rest.length + 1) [] (dropFirstNewline rest)
    | '"' :: rest => basicBody (rest.length + 1) [] rest
    | '\'' :: '\'' :: '\'' :: rest =>
      multilineBody '\'' false (rest.length + 1) [] (dropFirstNewline rest)
    | '\'' :: rest => literalBody rest
    | _ => none
  read.map fun r => (String.ofList r.1, r.2)

/-! ### Keys -/

/-- A character of a key without quotes. -/
def isBareKey (c : Char) : Bool :=
  ('a' ≤ c && c ≤ 'z') || ('A' ≤ c && c ≤ 'Z') || c.isDigit || c == '-' || c == '_'

/-- One part of a key: a bare word or a string of one line. -/
def simpleKey : Reader String := fun cs =>
  match cs with
  | '"' :: rest => (basicBody (rest.length + 1) [] rest).map fun r => (String.ofList r.1, r.2)
  | '\'' :: rest => (literalBody rest).map fun r => (String.ofList r.1, r.2)
  | _ =>
    match cs.span isBareKey with
    | ([], _) => none
    | (word, rest) => some (String.ofList word, rest)

/-- The parts of a key with dots between them, at most so many. -/
def keyParts : Nat → Reader (List String)
  | 0, _ => none
  | fuel + 1, cs => do
    let (part, rest) ← simpleKey (skipSpaces cs)
    match skipSpaces rest with
    | '.' :: more => do
      let (parts, rest) ← keyParts fuel more
      return (part :: parts, rest)
    | rest => return ([part], rest)

/-- How deep keys may be dotted and values nested. -/
def depthLimit : Nat := 80

/-- A key, with the blanks around it. A key has fewer parts than `depthLimit`. -/
def readKey : Reader (List String) := keyParts (depthLimit - 1)

/-! ### Numbers -/

/-- The integers of 64 bits. -/
def isInt64 (n : Int) : Bool := -9223372036854775808 ≤ n && n ≤ 9223372036854775807

/-- The input after a sign, and whether the sign is a minus. -/
def readSign : List Char → Bool × List Char
  | '-' :: cs => (true, cs)
  | '+' :: cs => (false, cs)
  | cs => (false, cs)

/-- The digits of a decimal integer: no zero stands before other digits. -/
def decimalDigits : Reader (List Char) := fun cs =>
  match cs with
  | '0' :: rest => some (['0'], rest)
  | c :: _ => if c.isDigit then grouped Char.isDigit cs else none
  | [] => none

/-- An integer that fits. -/
def fitting (n : Int) (rest : List Char) : Option (Toml × List Char) :=
  if isInt64 n then some (.integer n, rest) else none

/-- An integer in base ten, sixteen, eight or two. -/
def readInteger : Reader Toml := fun cs =>
  let based (base : Nat) (isDigit : Char → Bool) (rest : List Char) :
      Option (Toml × List Char) := do
    let (ds, rest) ← grouped isDigit rest
    fitting (numeral base ds) rest
  match cs with
  | '0' :: 'x' :: rest => based 16 isHexDigit rest
  | '0' :: 'o' :: rest => based 8 (fun c => '0' ≤ c && c ≤ '7') rest
  | '0' :: 'b' :: rest => based 2 (fun c => c == '0' || c == '1') rest
  | _ => do
    let (negative, rest) := readSign cs
    let (ds, rest) ← decimalDigits rest
    let n : Int := numeral 10 ds
    fitting (if negative then -n else n) rest

/-- The number `m · 10 ^ e`, none when it is too great for the format. Exponents far outside of
the format are decided without the power. -/
def binary64OfDecimal? (m : Nat) (e : Int) : Option Binary64 :=
  let size : Int := (toString m).length
  if m = 0 ∨ e + size < -330 then some ⟨0, Binary64.minExponent⟩
  else if 310 < e + size then none
  else
    let (num, den) := (Decimal.mk m e).ratio
    Binary64.ofRatio? num den

/-- The fraction of a number: a point and digits. -/
def readFraction : Reader (List Char)
  | '.' :: cs => grouped Char.isDigit cs
  | _ => none

/-- The exponent of a number. -/
def readExponent : Reader Int
  | c :: cs =>
    if c = 'e' ∨ c = 'E' then do
      let (negative, rest) := readSign cs
      let (ds, rest) ← grouped Char.isDigit rest
      let n : Int := numeral 10 ds
      return (if negative then -n else n, rest)
    else none
  | [] => none

/-- How a reader fared. -/
inductive Attempt (α : Type) where
  /-- The input does not begin like this. -/
  | other
  /-- It begins like this, and is then malformed. -/
  | malformed
  /-- It was read. -/
  | done (x : α) (rest : List Char)

/-- A floating-point number with a fraction, an exponent or both. An infinity that only rounding
makes is refused when it is positive. -/
def readFloating (cs : List Char) : Attempt Toml :=
  let (negative, rest) := readSign cs
  match rest with
  | 'i' :: 'n' :: 'f' :: rest => .done (.floating (.infinite negative)) rest
  | 'n' :: 'a' :: 'n' :: rest => .done (.floating .notANumber) rest
  | _ =>
    match decimalDigits rest with
    | none => .other
    | some (whole, rest) =>
      let value (places : List Char) (e : Int) (rest : List Char) : Attempt Toml :=
        match binary64OfDecimal? (numeral 10 (whole ++ places)) (e - places.length), negative with
        | some x, _ => .done (.floating (.finite negative x)) rest
        | none, true => .done (.floating (.infinite true)) rest
        | none, false => .malformed
      let withExponent (places : List Char) (rest : List Char) : Attempt Toml :=
        match rest with
        | c :: _ =>
          if c = 'e' ∨ c = 'E' then
            match readExponent rest with
            | some (e, rest) => value places e rest
            | none => .malformed
          else value places 0 rest
        | [] => value places 0 []
      match rest with
      | '.' :: _ =>
        match readFraction rest with
        | some (places, rest) => withExponent places rest
        | none => .malformed
      | c :: _ => if c = 'e' ∨ c = 'E' then withExponent [] rest else .other
      | [] => .other

/-! ### Dates and times -/

/-- Two digits that write a number from `low` to `high`. -/
def twoDigits (low high : Nat) : Reader Nat := fun cs => do
  let (ds, rest) ← digitsExactly Char.isDigit 2 cs
  let n := numeral 10 ds
  if low ≤ n ∧ n ≤ high then some (n, rest) else none

/-- The days of a month. -/
def daysInMonth (year month : Nat) : Nat :=
  let leap := year % 4 = 0 ∧ (year % 100 ≠ 0 ∨ year % 400 = 0)
  if month = 2 then (if leap then 29 else 28)
  else if month = 4 ∨ month = 6 ∨ month = 9 ∨ month = 11 then 30
  else 31

/-- A number with at least so many digits. -/
def padded (width n : Nat) : List Char := Decimal.zeroPadded width n

/-- A date, as it is written in full. -/
def readDate (cs : List Char) : Attempt (List Char) :=
  match digitsExactly Char.isDigit 4 cs with
  | some (ds, '-' :: rest) =>
    let year := numeral 10 ds
    let read : Option (List Char × List Char) := do
      let (month, rest) ← twoDigits 1 12 rest
      let '-' :: rest := rest | none
      let (day, rest) ← twoDigits 1 (daysInMonth year month) rest
      return (padded 4 year ++ '-' :: padded 2 month ++ '-' :: padded 2 day, rest)
    match read with
    | some (written, rest) => .done written rest
    | none => .malformed
  | _ => .other

/-- The fraction of a second, to nine places and without zeros at its end. -/
def secondFraction (cs : List Char) : List Char × List Char :=
  match cs with
  | '.' :: rest =>
    match rest.span Char.isDigit with
    | ([], _) => ([], cs)
    | (ds, rest) =>
      let kept := ((ds.take 9).reverse.dropWhile (· = '0')).reverse
      (if kept = [] then [] else '.' :: kept, rest)
  | _ => ([], cs)

/-- A time of day, as it is written in full. -/
def readTime (cs : List Char) : Attempt (List Char) :=
  match twoDigits 0 23 cs with
  | some (hour, ':' :: rest) =>
    let read : Option (List Char × List Char) := do
      let (minute, rest) ← twoDigits 0 59 rest
      let ':' :: rest := rest | none
      let (second, rest) ← twoDigits 0 60 rest
      let (part, rest) := secondFraction rest
      return (padded 2 hour ++ ':' :: padded 2 minute ++ ':' :: padded 2 second ++ part, rest)
    match read with
    | some (written, rest) => .done written rest
    | none => .malformed
  | _ => .other

/-- The distance from universal time, as it is written in full. -/
def readOffset (cs : List Char) : Attempt (List Char) :=
  match cs with
  | c :: rest =>
    if c = 'Z' ∨ c = 'z' then .done ['Z'] rest
    else if c = '+' ∨ c = '-' then
      let read : Option (List Char × List Char) := do
        let (hour, rest) ← twoDigits 0 23 rest
        let ':' :: rest := rest | none
        let (minute, rest) ← twoDigits 0 59 rest
        let mark := if c = '-' ∧ (hour ≠ 0 ∨ minute ≠ 0) then '-' else '+'
        return (mark :: padded 2 hour ++ ':' :: padded 2 minute, rest)
      match read with
      | some (written, rest) => .done written rest
      | none => .malformed
    else .other
  | [] => .other

/-- A date, a time of day, or a date and a time with or without a distance. -/
def readMoment (cs : List Char) : Attempt (List Char) :=
  match readDate cs with
  | .malformed => .malformed
  | .other => readTime cs
  | .done day rest =>
    match rest with
    | c :: more =>
      if c = 'T' ∨ c = 't' ∨ c = ' ' then
        match readTime more with
        | .malformed => .malformed
        | .other => .done day rest
        | .done clock rest =>
          match readOffset rest with
          | .malformed => .malformed
          | .other => .done (day ++ 'T' :: clock) rest
          | .done zone rest => .done (day ++ 'T' :: clock ++ zone) rest
      else .done day rest
    | [] => .done day []

/-- A value that begins with a digit or a sign. -/
def readNumberOrMoment : Reader Toml := fun cs =>
  match readMoment cs with
  | .malformed => none
  | .done written rest => some (.moment (String.ofList written), rest)
  | .other =>
    match readFloating cs with
    | .malformed => none
    | .done x rest => some (x, rest)
    | .other => readInteger cs

end Toml

end GoldenCheck

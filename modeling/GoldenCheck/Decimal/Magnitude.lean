import GoldenCheck.Decimal.Digit
import GoldenCheck.Decimal.Text

/-!
# Numbers with fractions

Numbers with fractions are read from texts (`Magnitude.read`), and are written with a fixed number
of places, with an exponent, or in the shorter of the two ways (`Magnitude.text`). They are the
numbers of `Binary64`, with a sign, and two that are not finite.
-/

namespace GoldenCheck

/-- A number without its sign. -/
inductive Size where
  /-- A finite one. -/
  | finite (x : Binary64)
  /-- One above all others. -/
  | infinite
  /-- Not a number. -/
  | undefined
  deriving DecidableEq, Repr

/-- A number that may have a fraction. -/
structure Magnitude where
  /-- It has a sign. -/
  isNegative : Bool
  /-- The number without the sign. -/
  size : Size
  deriving DecidableEq, Repr

namespace Magnitude

/-- A whole number. -/
def ofNat (n : Nat) : Magnitude :=
  ⟨false, ((Binary64.ofRatio? n 1).map Size.finite).getD .infinite⟩

/-- The number is finite. -/
def isFinite (m : Magnitude) : Bool :=
  match m.size with
  | .finite _ => true
  | _ => false

/-! ### Reading -/

/-- Digits, a point and more digits: the number of all digits in a base, how many of them come
after the point, and the rest of the text. -/
def readDigits? (base : Nat) (cs : List Char) : Option (Nat × Nat × List Char) :=
  let (whole, rest) := cs.span fun c => digit c < base
  let (fraction, after) := match rest with
    | '.' :: rest => rest.span fun c => digit c < base
    | rest => ([], rest)
  if whole.isEmpty ∧ fraction.isEmpty then none
  else
    some ((whole ++ fraction).foldl (fun n c => n * base + digit c) 0, fraction.length, after)

/-- An exponent after one of some letters, and the rest of the text. -/
def readExponent (letters : List Char) (cs : List Char) : Int × List Char :=
  match cs with
  | c :: rest =>
    if !letters.contains c then (0, cs)
    else
      let (isNegative, body) := match rest with
        | '-' :: body => (true, body)
        | '+' :: body => (false, body)
        | body => (false, body)
      let (ds, after) := body.span Char.isDigit
      if ds.isEmpty then (0, cs)
      else
        let n : Int := (ds.foldl (fun n c => 10 * n + digit c) 0 : Nat)
        (if isNegative then -n else n, after)
  | [] => (0, [])

/-- Beyond this exponent of ten there is no finite number other than zero. -/
def exponentLimit : Int := 1200

/-- The number of some digits with an exponent, and whether it is beyond all finite numbers or
too near to zero. -/
def scale (base : Nat) (digits : Nat) (exponent : Int) : Size × Bool :=
  let magnitude : Int := exponent + (Nat.log2 digits : Int)
  if digits = 0 then (((Binary64.ofRatio? 0 1).map Size.finite).getD .infinite, false)
  else if exponentLimit < exponent ∧ exponentLimit < magnitude then (.infinite, true)
  else if magnitude < -exponentLimit - (Nat.log2 digits : Int) then
    (((Binary64.ofRatio? 0 1).map Size.finite).getD .infinite, true)
  else
    let power := Nat.pow base exponent.natAbs
    let (num, den) := if exponent < 0 then (digits, power) else (digits * power, 1)
    match Binary64.ofRatio? num den with
    | some x => (.finite x, x.mantissa = 0)
    | none => (.infinite, true)

/-- The words that stand for numbers that are not finite. -/
def words : List (String × Size) :=
  [("infinity", .infinite), ("inf", .infinite), ("nan", .undefined)]

/-- Read the beginning of a text as a number; the rest of the text, and whether the number is
beyond all finite numbers or too near to zero. -/
def read (cs : List Char) : Magnitude × List Char × Bool :=
  let body := cs.dropWhile isSpace
  let (isNegative, body) := match body with
    | '-' :: rest => (true, rest)
    | '+' :: rest => (false, rest)
    | rest => (false, rest)
  let word := words.find? fun w => w.1.toList.isPrefixOf (body.map Char.toLower)
  let hex : Option (Nat × Nat × List Char) := match body with
    | '0' :: x :: rest => if x = 'x' ∨ x = 'X' then readDigits? 16 rest else none
    | _ => none
  match word, hex, readDigits? 10 body with
  | some (text, size), _, _ => (⟨isNegative, size⟩, body.drop text.length, false)
  | none, some (digits, places, rest), _ =>
    let (exponent, rest) := readExponent ['p', 'P'] rest
    let (size, isBeyond) := scale 2 digits (exponent - 4 * (places : Int))
    (⟨isNegative, size⟩, rest, isBeyond)
  | none, none, some (digits, places, rest) =>
    let (exponent, rest) := readExponent ['e', 'E'] rest
    let (size, isBeyond) := scale 10 digits (exponent - (places : Int))
    (⟨isNegative, size⟩, rest, isBeyond)
  | none, none, none => (ofNat 0, cs, false)

/-! ### Writing -/

/-- Digits with a point before the last of them, which a whole number has only when it is asked
for. -/
def withPoint (keepsPoint : Bool) (whole fraction : List Char) : List Char :=
  if fraction.isEmpty && !keepsPoint then whole else whole ++ '.' :: fraction

/-- A number with so many significant digits: the digits, and the power of ten of the first. -/
def significant (x : Binary64) (count : Nat) : List Char × Int :=
  let (num, den) := x.ratio
  if num = 0 then (List.replicate count '0', 0)
  else
    let k := Binary64.decimalMagnitude num den - 1
    let (n, d) := Binary64.scaled 10 num den (k - (count : Int) + 1)
    let digits := roundDiv n d
    if digits = Nat.pow 10 count then ((toString (digits / 10)).toList, k + 1)
    else ((toString digits).toList, k)

/-- A number with so many places after the point. -/
def fixed (keepsPoint : Bool) (x : Binary64) (places : Nat) : List Char :=
  let (num, den) := x.ratio
  let (whole, fraction) := Decimal.pointed (roundDiv (num * Nat.pow 10 places) den) places
  withPoint keepsPoint whole fraction

/-- The text of an exponent, of at least two digits. -/
def exponentText (k : Int) : List Char :=
  'e' :: (if k < 0 then '-' else '+') :: Decimal.zeroPadded 2 k.natAbs

/-- A number with so many places after its first digit, and an exponent. -/
def scientific (keepsPoint : Bool) (x : Binary64) (places : Nat) : List Char :=
  let (ds, k) := significant x (places + 1)
  withPoint keepsPoint (ds.take 1) (ds.drop 1) ++ exponentText k

/-- A number with so many significant digits, in the shorter of the two ways. -/
def general (keepsZeros : Bool) (x : Binary64) (count : Nat) : List Char :=
  let count := max 1 count
  let (ds, k) := significant x count
  let trim (cs : List Char) : List Char :=
    if keepsZeros then cs else (cs.reverse.dropWhile (· = '0')).reverse
  if -4 ≤ k ∧ k < (count : Int) then
    let (num, den) := x.ratio
    let places := ((count : Int) - 1 - k).toNat
    let (whole, fraction) := Decimal.pointed (roundDiv (num * Nat.pow 10 places) den) places
    withPoint keepsZeros whole (trim fraction)
  else withPoint keepsZeros (ds.take 1) (trim (ds.drop 1)) ++ exponentText k

/-- How many places are written when nothing is said. -/
def usualPlaces : Nat := 6

/-- The text of a number, without its sign, as a directive with a letter writes it. -/
def text (m : Magnitude) (isAlternate : Bool) (letter : Char) (precision : Option Nat) : List Char :=
  let places := precision.getD usualPlaces
  let cs := match m.size with
    | .infinite => "inf".toList
    | .undefined => "nan".toList
    | .finite x =>
      match letter.toLower with
      | 'f' => fixed isAlternate x places
      | 'e' => scientific isAlternate x places
      | _ => general isAlternate x places
  if letter.isUpper then cs.map Char.toUpper else cs

end Magnitude

end GoldenCheck

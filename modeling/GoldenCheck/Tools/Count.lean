import GoldenCheck.Decimal.Digit
import GoldenCheck.Text.Utf8

/-!
# Numbers of bytes

The operands of some tools are numbers of bytes: a whole number, in base 16 after `0x` or in base 8
after `0`, and perhaps the letter of a unit. A unit is a power of 1024, or of 1000 when a `B`
follows it.
-/

namespace GoldenCheck

namespace Tools

namespace Count

/-- The letters of units, with the powers that they stand for. -/
def units : List (Char × Nat) :=
  [('k', 1), ('K', 1), ('M', 2), ('G', 3), ('T', 4), ('P', 5), ('E', 6), ('Z', 7), ('Y', 8)]

/-- The base of a number, and its digits with what follows them. -/
def base : List Char → Nat × List Char
  | '0' :: x :: c :: rest =>
    if (x = 'x' ∨ x = 'X') ∧ digit c < 16 then (16, c :: rest) else (8, '0' :: x :: c :: rest)
  | '0' :: rest => (8, '0' :: rest)
  | cs => (10, cs)

/-- A number of bytes at the beginning of a text, and what follows it. -/
def read? (text : Bytes) : Option (Int × Bytes) :=
  let cs := (text.map fun b => Char.ofNat b.toNat).dropWhile isSpace
  let (isNegative, cs) := match cs with
    | '-' :: cs => (true, cs)
    | '+' :: cs => (false, cs)
    | cs => (false, cs)
  let (b, body) := base cs
  let (digits, rest) := body.span fun c => digit c < b
  let count := numberOf b digits
  let unit := rest.head?.bind fun c => units.lookup c
  if digits.isEmpty ∧ (unit.isNone ∨ isNegative) then none
  else
    let count := if digits.isEmpty then 1 else count
    let (scale, after) := match unit, rest.drop 1 with
      | none, _ => (1, rest)
      | some power, 'i' :: 'B' :: after => (Nat.pow 1024 power, after)
      | some power, 'B' :: after => (Nat.pow 1000 power, after)
      | some power, 'D' :: after => (Nat.pow 1000 power, after)
      | some power, after => (Nat.pow 1024 power, after)
    let n : Int := (count * scale : Nat)
    some (if isNegative then -n else n, text.drop (text.length - after.length))

end Count

end Tools

end GoldenCheck

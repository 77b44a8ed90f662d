import GoldenCheck.Decimal.Binary64

/-!
# Decimal texts of binary numbers

Two texts of a `Binary64`: with a fixed number of places after the point (`fixedText`, correctly
rounded, a tie going to the even digit), and the shortest (`shortest`). The shortest decimal is
the one with the fewest digits among those that are read back as the same number, and the nearest
of these to it, the higher of two that are equally near. For each number of digits only the two
neighbours of the number on that decimal grid need to be tried. It is written without an exponent.
-/

namespace GoldenCheck

/-- The decimal number `digits · 10 ^ exponent`. -/
structure Decimal where
  /-- All digits, as one number. -/
  digits : Nat
  /-- The power of ten of the last of them. -/
  exponent : Int
  deriving DecidableEq, Repr

namespace Decimal

/-- The decimal as a quotient. -/
def ratio (x : Decimal) : Nat × Nat :=
  if x.exponent < 0 then (x.digits, Nat.pow 10 x.exponent.natAbs)
  else (x.digits * Nat.pow 10 x.exponent.natAbs, 1)

/-- A number with at least `width` digits, zeros in front. -/
def zeroPadded (width n : Nat) : List Char :=
  let ds := (toString n).toList
  List.replicate (width - ds.length) '0' ++ ds

/-- The digits before and after the point when `places` of the digits of `n` come after it. -/
def pointed (n places : Nat) : List Char × List Char :=
  let ds := zeroPadded (places + 1) n
  ds.splitAt (ds.length - places)

/-- The decimal without an exponent and without a trailing zero after the point. -/
def positional (x : Decimal) : List Char × List Char :=
  if x.exponent < 0 then
    let (whole, fraction) := pointed x.digits x.exponent.natAbs
    (whole, (fraction.reverse.dropWhile (· = '0')).reverse)
  else ((toString (x.digits * Nat.pow 10 x.exponent.natAbs)).toList, [])

/-- A decimal text; a whole number has no point. -/
def text (x : Decimal) : String :=
  match x.positional with
  | (whole, []) => String.ofList whole
  | (whole, fraction) => String.ofList (whole ++ '.' :: fraction)

/-- A decimal text; a whole number has one zero after the point. -/
def pointedText (x : Decimal) : String :=
  match x.positional with
  | (whole, []) => String.ofList (whole ++ ['.', '0'])
  | (whole, fraction) => String.ofList (whole ++ '.' :: fraction)

end Decimal

namespace Binary64

/-- The number with `places` digits after the point. -/
def fixedText (x : Binary64) (places : Nat) : String :=
  let (num, den) := x.ratio
  let (whole, fraction) := Decimal.pointed (roundDiv (num * Nat.pow 10 places) den) places
  if places = 0 then String.ofList whole else String.ofList (whole ++ '.' :: fraction)

/-- The power of ten just above a positive quotient. -/
def decimalMagnitude (num den : Nat) : Int :=
  let k : Int := ((toString num).length : Int) - ((toString den).length : Int)
  let (n, d) := scaled 10 num den k
  if d ≤ n then k + 1 else k

/-- The decimal is read back as `x`. -/
def readsBack (x : Binary64) (d : Decimal) : Bool :=
  let (num, den) := d.ratio
  ofRatio? num den == some x

/-- A decimal of `n` digits that is read back as `x`: of the two neighbours of `x` on that grid
the nearer that does, or the higher when they are equally near. -/
def decimalOfSize? (x : Binary64) (n : Nat) : Option Decimal :=
  let (num, den) := x.ratio
  let e := decimalMagnitude num den - n
  let (a, b) := scaled 10 num den e
  let low : Decimal := ⟨a / b, e⟩
  let high : Decimal := ⟨a / b + 1, e⟩
  let nearest := if 2 * (a % b) < b then [low, high] else [high, low]
  nearest.find? x.readsBack

/-- The shortest decimal that is read back as `x`. Seventeen digits always are. -/
def shortest (x : Binary64) : Decimal :=
  if x.mantissa = 0 then ⟨0, 0⟩
  else ((List.range' 1 17).findSome? x.decimalOfSize?).getD ⟨0, 0⟩

end Binary64

end GoldenCheck

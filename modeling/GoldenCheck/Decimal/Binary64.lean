/-!
# Binary floating-point numbers of 64 bits, exactly

A finite non-negative number of the format is `mantissa · 2 ^ exponent` with a mantissa below
`2 ^ 53` and an exponent from `-1074` to `971` (`Binary64`). `Binary64.ofRatio?` is the number
nearest to a quotient of natural numbers, a tie going to the even mantissa; there is none for a
quotient that rounds past the greatest number. All arithmetic is on natural numbers.
-/

namespace GoldenCheck

/-- The quotient rounded to the nearest natural number, a tie going to the even one. -/
def roundDiv (num den : Nat) : Nat :=
  let q := num / den
  let r := num % den
  if 2 * r < den then q
  else if den < 2 * r then q + 1
  else if q % 2 = 0 then q else q + 1

/-- A finite non-negative number of the format. -/
structure Binary64 where
  /-- The significant bits. -/
  mantissa : Nat
  /-- The power of two of the last of them. -/
  exponent : Int
  deriving DecidableEq, Repr

namespace Binary64

/-- The least exponent of the format. -/
def minExponent : Int := -1074

/-- The greatest exponent of the format. -/
def maxExponent : Int := 971

/-- The least number that is no mantissa, `2 ^ 53`. -/
def mantissaLimit : Nat := 9007199254740992

/-- The quotient `num / den` with its denominator multiplied by `b ^ e`. -/
def scaled (b num den : Nat) (e : Int) : Nat × Nat :=
  if e < 0 then (num * b.pow e.natAbs, den) else (num, den * b.pow e.natAbs)

/-- The exponent at which a positive quotient has a mantissa of 53 bits, or the least one. -/
def exponentOf (num den : Nat) : Int :=
  let e : Int := (Nat.log2 num : Int) - (Nat.log2 den : Int) - 53
  let (n, d) := scaled 2 num den e
  max minExponent (if mantissaLimit ≤ n / d then e + 1 else e)

/-- The number nearest to `num / den`, for a positive `den`. -/
def ofRatio? (num den : Nat) : Option Binary64 :=
  if num = 0 then some ⟨0, minExponent⟩
  else
    let e := exponentOf num den
    let (n, d) := scaled 2 num den e
    let m := roundDiv n d
    let x : Binary64 := if m = mantissaLimit then ⟨mantissaLimit / 2, e + 1⟩ else ⟨m, e⟩
    if x.exponent ≤ maxExponent then some x else none

/-- The number as a quotient. -/
def ratio (x : Binary64) : Nat × Nat :=
  if x.exponent < 0 then (x.mantissa, Nat.pow 2 x.exponent.natAbs)
  else (x.mantissa * Nat.pow 2 x.exponent.natAbs, 1)

/-- The number nearest to the sum of two numbers. -/
def add? (x y : Binary64) : Option Binary64 :=
  let (a, b) := x.ratio
  let (c, d) := y.ratio
  ofRatio? (a * d + c * b) (b * d)

end Binary64

end GoldenCheck

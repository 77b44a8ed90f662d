import GoldenCheck.Decimal.Magnitude
import GoldenCheck.Tools.Basic

/-!
# `sleep`

`sleep` waits for a time, the sum of the intervals that it is given. An interval is a number, which
may have a fraction, and perhaps the letter of a unit.
-/

namespace GoldenCheck

namespace Tools

namespace Sleep

/-- How many nanoseconds a unit has. -/
def unit? : List Char → Option Nat
  | [] | ['s'] => some Duration.nanosPerSecond
  | ['m'] => some (60 * Duration.nanosPerSecond)
  | ['h'] => some (3600 * Duration.nanosPerSecond)
  | ['d'] => some (86400 * Duration.nanosPerSecond)
  | _ => none

/-- More nanoseconds than anyone waits for. -/
def forever : Nat := 1000000000000000000000000

/-- The nanoseconds of an interval, rounded up. -/
def interval? (operand : Bytes) : Option Nat := do
  let cs := operand.map fun b => Char.ofNat b.toNat
  let (m, rest, _) := Magnitude.read cs
  if rest.length = cs.length then none
  else
    let unit ← unit? rest
    match m.size with
    | .undefined => none
    | .infinite => if m.isNegative then none else some forever
    | .finite x =>
      let (num, den) := x.ratio
      if m.isNegative ∧ num ≠ 0 then none
      else some (min forever ((num * unit + den - 1) / den))

end Sleep

/-- The tool that waits. -/
def sleep : Tool Unit where
  options := ⟨[], [("help", .nothing, "help"), ("version", .nothing, "version")]⟩
  initial := ()
  option _ _ _ := pure ()
  work _ operands := do
    if operands.isEmpty ∧ (← read).words.isEmpty then misused (bytes "missing operand")
    let times := operands.map Sleep.interval?
    for operand in operands do
      if (Sleep.interval? operand).isNone then
        complain (bytes "invalid time interval " ++ curlyQuoted operand)
    if times.contains none then hint
    call (Task.sleep ((times.filterMap id).foldl (· + ·) 0))
    return 0

end Tools

end GoldenCheck

import GoldenCheck.Duration

/-!
# The clock

A reading of the clock counts seconds in a signed word of 64 bits, and nanoseconds beyond them.
Adding a length of time can lead past the last reading; then there is no sum.
-/

namespace GoldenCheck

/-- A reading of the clock. -/
structure Instant where
  /-- Whole seconds. -/
  seconds : Int
  /-- Nanoseconds beyond them, fewer than `10 ^ 9`. -/
  nanoseconds : Nat
  deriving DecidableEq, Repr

namespace Instant

/-- The greatest number of seconds that a reading can have, `2 ^ 63 - 1`. -/
def lastSecond : Int := 9223372036854775807

/-- The reading a length of time later, if the clock can show it. -/
def add? (i : Instant) (d : Duration) : Option Instant :=
  let nanos := i.nanoseconds + d.nanoseconds
  let seconds := i.seconds + d.seconds + nanos / Duration.nanosPerSecond
  if seconds ≤ lastSecond then some ⟨seconds, nanos % Duration.nanosPerSecond⟩ else none

end Instant

end GoldenCheck

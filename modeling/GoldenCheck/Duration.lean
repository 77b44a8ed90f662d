import GoldenCheck.Decimal.Text

/-!
# Lengths of time

A length of time is a whole number of seconds and a rest in nanoseconds. Texts show it in seconds:
as a binary number of 64 bits, either with two places or as the shortest decimal.
-/

namespace GoldenCheck

/-- A length of time. -/
structure Duration where
  /-- Whole seconds. -/
  seconds : Nat
  /-- Nanoseconds beyond them, fewer than `10 ^ 9`. -/
  nanoseconds : Nat
  deriving DecidableEq, Repr, Inhabited

namespace Duration

/-- No time at all. -/
def zero : Duration := ⟨0, 0⟩

/-- How many nanoseconds make a second. -/
def nanosPerSecond : Nat := 1000000000

/-- How many nanoseconds make a millisecond. -/
def nanosPerMilli : Nat := 1000000

/-- A length of time from any number of seconds and nanoseconds. -/
def ofParts (seconds nanoseconds : Nat) : Duration :=
  ⟨seconds + nanoseconds / nanosPerSecond, nanoseconds % nanosPerSecond⟩

theorem nanoseconds_ofParts_lt (seconds nanoseconds : Nat) :
    (ofParts seconds nanoseconds).nanoseconds < nanosPerSecond :=
  Nat.mod_lt _ (by decide)

/-- A length of time in milliseconds. -/
def ofMillis (ms : Nat) : Duration := ⟨ms / 1000, ms % 1000 * nanosPerMilli⟩

/-- The whole milliseconds of a length of time. -/
def millis (d : Duration) : Nat := d.seconds * 1000 + d.nanoseconds / nanosPerMilli

theorem millis_ofMillis (ms : Nat) : (ofMillis ms).millis = ms := by
  simp only [millis, ofMillis, nanosPerMilli]
  omega

/-- A length of time in seconds: the seconds, the nanoseconds and their sum are each rounded to
the nearest number of the format. -/
def inSeconds (d : Duration) : Binary64 :=
  ((do
    let whole ← Binary64.ofRatio? d.seconds 1
    let rest ← Binary64.ofRatio? d.nanoseconds nanosPerSecond
    whole.add? rest) : Option Binary64).getD ⟨0, Binary64.minExponent⟩

/-- A length of time in seconds with two places. -/
def hundredths (d : Duration) : String := d.inSeconds.fixedText 2

/-- A length of time in seconds, as the shortest decimal. -/
def shortestSeconds (d : Duration) : String := d.inSeconds.shortest.text

end Duration

end GoldenCheck

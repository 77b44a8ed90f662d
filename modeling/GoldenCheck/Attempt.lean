/-!
# Attempts

A step of a case can be done, it can fail for a known cause, or it can break off. A step that
breaks off may leave a message behind.
-/

namespace GoldenCheck

/-- How a step that may fail with an `ε` has ended. -/
inductive Attempt (ε α : Type) where
  /-- It is done. -/
  | done (result : α)
  /-- It failed. -/
  | failed (cause : ε)
  /-- It broke off, perhaps with a message. -/
  | brokenOff (message : Option String)
  deriving DecidableEq, Repr

namespace Attempt

/-- The attempt that a result or a cause of failure makes. -/
def ofExcept : Except ε α → Attempt ε α
  | .ok a => .done a
  | .error e => .failed e

/-- The step is done. -/
def isDone : Attempt ε α → Bool
  | .done _ => true
  | _ => false

/-- The message of a step that broke off without one. -/
def defaultMessage : String := "thread panicked"

end Attempt

end GoldenCheck

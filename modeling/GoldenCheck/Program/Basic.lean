import GoldenCheck.Failure
import GoldenCheck.Process.Signal
import GoldenCheck.TestCase

/-!
# Running other programs

A program is run by handing a `ProcessRequest` to a `Launcher`, which answers how it went
(`ProcessResult`) and may change the world on the way. Nothing in this module says what any
program does.
-/

namespace GoldenCheck

/-- How a program ended. -/
inductive ProcessEnd where
  /-- It exited with a status. -/
  | exited (status : Nat)
  /-- A signal ended it. -/
  | signalled (number : Signal)
  deriving DecidableEq, Repr

namespace ProcessEnd

/-- The program ended well. -/
def isSuccess : ProcessEnd → Bool
  | .exited status => status == 0
  | .signalled _ => false

/-- The exit status, if there is one. -/
def code? : ProcessEnd → Option Int
  | .exited status => some status
  | .signalled _ => none

/-- How a program ended, in words. -/
def message : ProcessEnd → String
  | .exited status => "exit status: " ++ toString status
  | .signalled number =>
    "signal: " ++ toString number
      ++ ((Signal.name? number).map fun name => " (SIG" ++ name ++ ")").getD ""

end ProcessEnd

/-- What becomes of the two outputs of a program. -/
inductive OutputUse where
  /-- The first is dropped, the second is kept. -/
  | complaints
  /-- Both are kept, and read until nobody writes to them any more. -/
  | collected
  /-- Both go where those of the caller go. -/
  | shared
  deriving DecidableEq, Repr

/-- A program that is to be run. -/
structure ProcessRequest where
  /-- The program. -/
  program : String
  /-- Its arguments. -/
  args : List Bytes
  /-- Variables that are set for it. -/
  env : Environment
  /-- How long it may take. -/
  limit : Option Duration
  /-- What becomes of its outputs. -/
  outputs : OutputUse
  deriving DecidableEq, Repr

/-- What a program is started with holds no NUL byte. -/
def ProcessRequest.isPassable (r : ProcessRequest) : Bool :=
  let texts := r.program :: r.env.bindings.flatMap fun b => [b.1, b.2]
  (texts.map Utf8.encode ++ r.args).all fun bs => !bs.contains 0

/-- How it went. -/
inductive ProcessResult where
  /-- The program could not be started. -/
  | notStarted (cause : SystemError)
  /-- It ended, and wrote this to its two outputs. -/
  | ended (how : ProcessEnd) (output errors : Bytes)
  /-- It took longer than it may, and was killed. -/
  | outOfTime
  deriving DecidableEq, Repr

/-- Whoever runs programs in worlds of type `W`. -/
abbrev Launcher (W : Type) := ProcessRequest → W → ProcessResult × W

end GoldenCheck

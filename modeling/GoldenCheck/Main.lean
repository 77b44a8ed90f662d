import GoldenCheck.CommandLine.Execute
import GoldenCheck.Files.Bundle
import GoldenCheck.Program.Launch

/-!
# The program

The command line, carried out on a bundle of files that comes on the standard input. What the run
says goes to the two outputs, and its status is the status of the program. No log is kept.
-/

namespace GoldenCheck

/-- What the program leaves when it ends. -/
structure Answer where
  /-- Its status. -/
  status : Nat
  /-- What it says on the standard output. -/
  output : Bytes
  /-- What it says on the standard error. -/
  errors : Bytes

/-- The answer to arguments that are not carried out: what was asked for, or a complaint. -/
def Answer.ofRefusal (e : ArgumentError) : Answer :=
  let text := Utf8.encode e.message
  if e.exitCode = 0 then ⟨0, text, []⟩ else ⟨e.exitCode, [], text⟩

/-- The answer to a command line on a bundle, begun at a reading of the clock. -/
def Answer.ofInvocation (invocation : Invocation) (bundle : String) (now : Instant) : Answer :=
  match Bundle.ofText bundle >>= fun files => files.unpack .blank with
  | .error e => ⟨ConfigError.exitCode, [], Utf8.encode (e.message ++ "\n")⟩
  | .ok world =>
    let (status, desk) := invocation.execute Program.launch (.ofWorld world now)
    ⟨status, desk.output, desk.errors⟩

/-- All lines of a stream. -/
partial def readText (stream : IO.FS.Stream) (seen : String) : IO String := do
  let line ← stream.getLine
  if line.isEmpty then return seen else readText stream (seen ++ line)

/-- What the clock of the machine shows. -/
def readClock : IO Instant := do
  let nanos ← IO.monoNanosNow
  return ⟨nanos / Duration.nanosPerSecond, nanos % Duration.nanosPerSecond⟩

/-- The answer to arguments; only a command line needs the bundle that the standard input holds. -/
def answer (args : List String) : IO Answer := do
  match Invocation.parse args with
  | .error e => return .ofRefusal e
  | .ok invocation =>
    let bundle ← readText (← IO.getStdin) ""
    return .ofInvocation invocation bundle (← readClock)

end GoldenCheck

/-- The program. -/
def main (args : List String) : IO UInt32 := do
  let answer ← GoldenCheck.answer args
  (← IO.getStdout).write ⟨answer.output.toArray⟩
  (← IO.getStderr).write ⟨answer.errors.toArray⟩
  return UInt32.ofNat answer.status

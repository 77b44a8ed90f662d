import GoldenCheck.Engine

/-!
# Waiting for an engine

An engine that was started is waited for. Without a time limit this takes as long as the engine does. With a
time limit the engine is looked at in rounds, one `pollInterval` apart: a round in which it still runs, and the
clock has come to the deadline, kills it. The deadline is computed before the first round.

Each round says how the engine looks and what the clock shows then (`Round`), and takes the wait one step on
(`Waiting.step`). When the wait is over, it has an answer, and something has become of the engine (`Waited`).
-/

namespace GoldenCheck

/-- One reading of the clock is at another or later. -/
def Instant.reaches (now deadline : Instant) : Bool :=
  deadline.seconds < now.seconds ||
    (deadline.seconds == now.seconds && deadline.nanoseconds ≤ now.nanoseconds)

namespace Engine

/-- How long the wait sleeps between two looks at the engine. -/
def pollInterval : Duration := .ofMillis 25

/-- What a look at the engine shows. -/
inductive Look where
  /-- It has ended. -/
  | ended (how : ProcessEnd)
  /-- It still runs. -/
  | running
  /-- It cannot be told. -/
  | unreadable (cause : SystemError)
  deriving DecidableEq, Repr

/-- One round of the wait. -/
structure Round where
  /-- How the engine looks. -/
  look : Look
  /-- What the clock shows then. -/
  now : Instant
  deriving DecidableEq, Repr

/-- What has become of the engine when the wait is over. -/
inductive Fate where
  /-- It has ended, and was waited for. -/
  | waitedFor
  /-- It was killed. -/
  | killed
  /-- It was left alone, and may still run. -/
  | left
  deriving DecidableEq, Repr

/-- A wait that is over. -/
structure Waited where
  /-- How the engine has ended, if this is known. -/
  answer : Attempt GenerationError ProcessEnd
  /-- What has become of it. -/
  fate : Fate
  deriving DecidableEq, Repr

/-- The sentence for a wait that the system refuses. -/
def waitText (cause : SystemError) : String := "failed waiting for engine: " ++ cause.message

/-- The sentence for a look that the system refuses. -/
def pollText (cause : SystemError) : String := "failed polling engine: " ++ cause.message

/-- How far the wait for an engine has come. -/
inductive Waiting where
  /-- It goes on until the engine ends. -/
  | unlimited
  /-- It goes on until the engine ends or the clock comes to the deadline. -/
  | limited (limit : Duration) (deadline : Instant)
  /-- It is over. -/
  | finished (waited : Waited)
  deriving DecidableEq, Repr

namespace Waiting

/-- The wait for an engine that was started at a reading of the clock. The deadline may lie past what the clock
can show: then the wait breaks off at once. -/
def start (limit : Option Duration) (now : Instant) : Waiting :=
  match limit with
  | none => .unlimited
  | some limit =>
    match now.add? limit with
    | none => .finished ⟨.brokenOff overflowText, .left⟩
    | some deadline => .limited limit deadline

/-- One more round. An engine that has ended is not killed, whatever the clock shows. -/
def step (s : Waiting) (r : Round) : Waiting :=
  match s with
  | .unlimited =>
    match r.look with
    | .ended how => .finished ⟨.done how, .waitedFor⟩
    | .running => .unlimited
    | .unreadable cause => .finished ⟨.failed (.analysisFailure (waitText cause)), .left⟩
  | .limited limit deadline =>
    match r.look with
    | .ended how => .finished ⟨.done how, .waitedFor⟩
    | .running =>
      if r.now.reaches deadline then .finished ⟨.failed (.timeout limit), .killed⟩
      else .limited limit deadline
    | .unreadable cause => .finished ⟨.failed (.analysisFailure (pollText cause)), .killed⟩
  | .finished w => .finished w

/-- The wait after some rounds. -/
def after (s : Waiting) (rounds : List Round) : Waiting := rounds.foldl step s

end Waiting

/-- What the end of the engine says about its report, with what it complained about. -/
def afterWait (engine : EngineSettings) (errors : Bytes) :
    Attempt GenerationError ProcessEnd → Attempt GenerationError Unit
  | .done how =>
    if how.isSuccess then .done ()
    else .failed (.analysisFailure (exitText engine.program how errors))
  | .failed e => .failed e
  | .brokenOff message => .brokenOff message

end Engine

end GoldenCheck

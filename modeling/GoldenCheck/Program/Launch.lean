import GoldenCheck.Process.Schedule
import GoldenCheck.Program.Installed

/-!
# Running programs

`launch` runs a `ProcessRequest` in a world. The program is looked for in the directories of `PATH`
(`find`) and gets a machine of its own to run on (`boot`), where it is the first process and its
caller holds what it will read. What the machine's files are when the program has ended is the new
world; the current directory stays what it was.

The caller looks from time to time whether the program has ended (`lookEvery`). If it has not when
its time is over, it is killed with all that it has started. What the program has left running goes
on only for a moment (`afterwards`).
-/

namespace GoldenCheck

namespace Program

/-! ### Finding the program -/

/-- Where programs are looked for if no variable says where. -/
def usualPath : String := "/usr/local/sbin:/usr/local/bin:/usr/sbin:/usr/bin:/sbin:/bin"

/-- The variable whose name ends at the first `=` of a name with its value. -/
def settingOf (name value : String) : Bytes × Bytes :=
  let (first, rest) := (Utf8.encode name ++ 0x3D :: Utf8.encode value).span (· ≠ 0x3D)
  (first, rest.drop 1)

/-- The variables that a program gets: those of its request, and a `PATH`. -/
def bindingsOf (r : ProcessRequest) : List (Bytes × Bytes) :=
  let own := r.env.bindings.map fun (name, value) => settingOf name value
  if r.env.bindings.any (·.1 = "PATH") then own
  else (Utf8.encode "PATH", Utf8.encode usualPath) :: own

/-- The paths at which a program can be. -/
def places (environment : List (Bytes × Bytes)) (name : Bytes) : List Path :=
  let directories := ((environment.lookup (Utf8.encode "PATH")).getD []).splitOn 0x3A
  directories.map fun directory =>
    ⟨if directory.isEmpty then name else directory ++ Path.slash :: name⟩

/-- Try one path after the other. Where nothing is, the next one may do; where something may not be
used that is remembered. -/
def findAmong (attempt : Path → Except SystemError α) (isBarred : Bool) (last : SystemError) :
    List Path → Except SystemError α
  | [] => .error (if isBarred then .permissionDenied else last)
  | path :: rest =>
    match attempt path with
    | .ok a => .ok a
    | .error .permissionDenied => findAmong attempt true last rest
    | .error e =>
      if e = .notFound ∨ e = .notADirectory then findAmong attempt isBarred e rest else .error e

/-- The program of a request with what it is called with, or why it cannot be started. -/
def find (w : World) (r : ProcessRequest) : Except SystemError (Task ProcessEnd) :=
  let name := Utf8.encode r.program
  let environment := bindingsOf r
  let attempt (path : Path) : Except SystemError (Task ProcessEnd) :=
    (installed chainLimit).ready w path (name :: r.args) environment
  if !r.isPassable then .error .nulInArgument
  else if name.isEmpty then .error .notFound
  else if name.contains Path.slash then attempt ⟨name⟩
  else if World.longestName < name.length then .error .nameTooLong
  else findAmong attempt false .notFound (places environment name)

/-! ### The machine -/

/-- The number of the caller among the processes. -/
def callerNumber : Nat := 0

/-- The number of the first process that it starts. -/
def firstNumber : Nat := 1000

/-- A machine on which a program is about to run, and the streams that its outputs go to. -/
structure Booted where
  /-- The machine. -/
  machine : Machine
  /-- The standard output. -/
  output : Stream
  /-- The standard error. -/
  errors : Stream

/-- The machine for a request. -/
def boot (w : World) (r : ProcessRequest) : Booted :=
  let null : OpenFile := { stream := .device .null, reads := true, writes := true }
  let caller : Process := { parent := callerNumber, descriptors := [], cwd := w.cwd }
  let first : Process :=
    { parent := callerNumber, descriptors := [(0, 1), (1, 2), (2, 3)], cwd := w.cwd }
  let machine : Machine := {
    stored := w.tree, nameless := [], pipes := [], files := [(1, null)]
    processes := [(callerNumber, caller), (firstNumber, first)], current := firstNumber
    leader := if r.limit.isSome then firstNumber else 0, fresh := firstNumber + 1, clock := 0
    start := w.tree.now + Machine.tick }
  let hold (m : Machine) (stream : Stream) (descriptor : Nat) : Machine :=
    let writing : OpenFile := { stream, reads := false, writes := true }
    let reading : OpenFile := { stream, reads := true, writes := false }
    let place := 100 + descriptor
    { m with
      files := (descriptor + 1, writing) :: (place, reading) :: m.files
      processes := Numbered.update m.processes callerNumber fun p =>
        { p with descriptors := (descriptor, place) :: p.descriptors } }
  match r.outputs with
  | .complaints =>
    let m := { machine with
      files := (2, { null with reads := false }) :: machine.files, nameless := [(3, [])] }
    ⟨hold m (.nameless 3) 2, .device .null, .nameless 3⟩
  | .collected | .shared =>
    let m := { machine with pipes := [(2, ⟨[], none⟩), (3, ⟨[], none⟩)] }
    ⟨hold (hold m (.pipe 2) 1) (.pipe 3) 2, .pipe 2, .pipe 3⟩

/-- All that was written to a stream. -/
def written (m : Machine) : Stream → Bytes
  | .pipe k => (m.pipe k).content
  | stream => m.contentOf stream

/-- How the program has ended, if it has. -/
def ending? (m : Machine) : Option ProcessEnd := (m.processes.lookup firstNumber).bind (·.ending)

/-- Some process can write to a stream. -/
def isWritten (m : Machine) : Stream → Bool
  | .pipe k => m.hasWriter k
  | _ => false

/-! ### Waiting for it -/

/-- How many nanoseconds pass between one look at the program and the next. -/
def lookEvery : Nat := 25000000

/-- The time of the first look from some time on. -/
def lookAfter (t : Nat) : Nat := (t + lookEvery - 1) / lookEvery * lookEvery

/-- For so many nanoseconds what is left running goes on. It shares its outputs with the caller, who
needs about as long for what comes next. -/
def afterwards : Nat := 5000000

/-- Run until the caller knows that the program has ended, or until its time is over. -/
def watch (b : Booted) (r : ProcessRequest) (s : Schedule) : Except OutOfTime Unit × Schedule :=
  let hasEnded (m : Machine) : Bool := (ending? m).isSome
  match r.limit with
  | none =>
    let isDone (m : Machine) : Bool :=
      hasEnded m
        && (r.outputs ≠ .collected || !(isWritten m b.output || isWritten m b.errors))
    let (result, s) := s.runUntil isDone none Schedule.turnLimit
    if r.outputs ≠ .shared then (result, s)
    else
      let last := s.machine.clock + afterwards
      (result, (s.runUntil (fun _ => false) (some last) Schedule.turnLimit).2)
  | some limit =>
    let last := lookAfter (limit.seconds * Duration.nanosPerSecond + limit.nanoseconds)
    if last = 0 then (.error ⟨⟩, s)
    else match s.runUntil hasEnded (some last) Schedule.turnLimit with
      | (.error e, s) => (.error e, s)
      | (.ok (), s) =>
        let noticed := lookAfter (max 1 s.machine.clock)
        (.ok (), (s.runUntil (noticed ≤ ·.clock) (some noticed) Schedule.turnLimit).2)

end Program

/-- Run a request. -/
def Program.launch : Launcher World := fun r w =>
  match find w r with
  | .error cause => (.notStarted cause, w)
  | .ok program =>
    let b := boot w r
    let (result, s) := watch b r ⟨b.machine, [(firstNumber, program.activity)]⟩
    let m := s.machine
    let w := { w with tree := m.tree }
    match result, ending? m with
    | .ok (), some how => (.ended how (written m b.output) (written m b.errors), w)
    | _, _ => (.outOfTime, w)

end GoldenCheck

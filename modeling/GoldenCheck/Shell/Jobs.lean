import GoldenCheck.Shell.Session

/-!
# Processes that a shell starts

A shell starts processes for jobs: `startChild` starts one, and `waitForJob` waits until all
processes of a job have ended. A shell that waits is told of the end of any of its processes, and
notes it in the job that the process belongs to (`collect`).
-/

namespace GoldenCheck

namespace Shell

/-- The status that stands for a signal is this much greater than its number. -/
def signalStatus : Nat := 128

/-- The status of a process that has ended. -/
def statusOf : ProcessEnd → Nat
  | .exited status => status
  | .signalled s => signalStatus + s

/-- The status of a job that is done. -/
def Job.status (j : Job) : Nat :=
  match j.processes.getLast?.bind (·.ending) with
  | some how => statusOf how
  | none => 0

/-- The job of a number. -/
def Session.job? (s : Session) (number : Nat) : Option Job := s.jobs.find? (·.number = number)

/-- Change a job. -/
def Session.updateJob (s : Session) (number : Nat) (f : Job → Job) : Session :=
  { s with jobs := s.jobs.map fun j => if j.number = number then f j else j }

/-- Forget a job. -/
def Session.dropJob (s : Session) (number : Nat) : Session :=
  { s with jobs := s.jobs.filter (·.number ≠ number) }

/-- A new job without processes; its number. It can take the number of a job that was waited
for. -/
def addJob : ShellM Nat := do
  let s ← get
  let isFree (n : Nat) : Bool := match s.job? n with
    | some j => j.isDone && j.wasAwaited
    | none => true
  let number := ((List.range' 1 (s.jobs.length + 1)).find? isFree).getD 1
  set { s with jobs := ⟨number, [], false⟩ :: (s.dropJob number).jobs }
  return number

/-- The provisions of a process that is started with signals that it ignores. -/
def Process.inherit (ignored : List Signal) (p : Process) : Process :=
  { p with provisions := ignored.map (·, .ignored) ++ p.provisions.filter (·.2 = .ignored) }

/-- The file that is empty. -/
def emptyPath : Path := .ofText "/dev/null"

/-- Let a descriptor lead to a file that is empty. -/
def readNothing (descriptor : Nat) : Task Unit := Task.change fun m =>
  match m.openPath emptyPath { reads := true, writes := false } with
  | .ok (n, m) => m.install descriptor n
  | .error _ => m

/-- The signals that do not reach processes in the background. -/
def backgroundSignals : List Signal := [Signal.interrupt, Signal.quit]

/-- No text inside the script is being read any more. -/
def Session.outside (s : Session) : Session :=
  { s with readLine := s.scriptLine.getD s.readLine, scriptLine := none }

/-- The state that a child of a shell begins with. -/
def Session.ofChild (s : Session) (inBackground : Bool) : Session :=
  { s.outside with
    isChild := true
    changed := []
    jobs := []
    pending := []
    traps := s.traps.filter (·.2.isEmpty)
    fixedSignals := if inBackground then backgroundSignals ++ s.fixedSignals else s.fixedSignals }

/-- Start a process for a job. A job in the background reads nothing, unless it is told to. -/
def startChild (job : Nat) (inBackground : Bool) (child : Session → Task ProcessEnd) :
    ShellM Unit := do
  let s ← get
  let isFirst := ((s.job? job).map (·.processes.isEmpty)).getD true
  let n ← call (Task.fork do
    Task.change fun m =>
      m.updateSelf (Process.inherit (if inBackground then backgroundSignals else []))
    if inBackground && isFirst then readNothing 0
    child (s.ofChild inBackground))
  modify fun s =>
    let s := s.updateJob job fun j => { j with processes := j.processes ++ [⟨n, none⟩] }
    if inBackground then { s with lastBackground := some n } else s

/-- What is said when a process that the shell waits for was ended by a signal. -/
def signalWords : ProcessEnd → Option String
  | .exited _ => none
  | .signalled s =>
    if s = Signal.interrupt ∨ s = Signal.brokenPipe then none else some (Signal.words s)

/-- Note the end of a process in a job. -/
def JobProcess.noteEnd (number : Nat) (how : ProcessEnd) (p : JobProcess) : JobProcess :=
  if p.number = number then { p with ending := some how } else p

/-- Note the end of one process; whether there was one. -/
def collect (awaited : Option Nat) : ShellM Bool := do
  match ← call (Task.act Machine.reap) with
  | none => return false
  | some (number, how) =>
    let s ← get
    let holds (j : Job) : Bool := !j.isDone && j.processes.any (·.number = number)
    match s.jobs.find? holds with
    | none => return true
    | some j =>
      set (s.updateJob j.number fun j =>
        { j with processes := j.processes.map (JobProcess.noteEnd number how) })
      if awaited = some j.number then
        if let some words := signalWords how then
          let _ ← emit 2 (ofText (words ++ "\n"))
      return true

/-- Note the ends of all processes that have ended. -/
def collectAll : ShellM Unit := go longest
where
  /-- Go on while there are some. -/
  go : Nat → ShellM Unit
    | 0 => return
    | fuel + 1 => do if ← collect none then go fuel

/-- Wait for the ends of processes until something holds of the jobs; whether that came before a
signal that may break it off. -/
def waitUntil (awaited : Option Nat) (endsBySignal : Bool) (holds : Session → Bool) :
    ShellM Bool := go longest
where
  /-- Go on. -/
  go : Nat → ShellM Bool
    | 0 => return true
    | fuel + 1 => do
      if holds (← get) then return true
      if ← collect awaited then go fuel
      else
        if endsBySignal && !(← call (Task.look (·.self.noted))).isEmpty then return false
        if !(← call (Task.look Machine.hasChildren)) then return true
        call (Task.await (if endsBySignal then .orSignal .child else .child))
        go fuel

/-- The job of a number is done. -/
def Session.isJobDone (number : Nat) (s : Session) : Bool := (s.job? number).all Job.isDone

/-- Wait until a job is done, and forget it; its status. -/
def waitForJob (number : Nat) : ShellM Nat := do
  let _ ← waitUntil (some number) false (Session.isJobDone number)
  collectAll
  let s ← get
  set (s.dropJob number)
  return ((s.job? number).map Job.status).getD 0

end Shell

end GoldenCheck

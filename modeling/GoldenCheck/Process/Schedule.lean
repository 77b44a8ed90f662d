import GoldenCheck.Process.Task

/-!
# Processes that take turns

`Schedule.run` runs processes until the first of them has ended. They take turns: a process whose
turn it is acts until it has to wait, or for so long that others get a turn (`turnLength`). A
process that starts another goes on before the new one has its first turn.

Acting takes a little time. When all processes wait, the clock goes on to the first time that one
waits for; when none waits for a time, nothing will ever happen again.
-/

namespace GoldenCheck

/-- There is no time left. -/
structure OutOfTime where
  deriving DecidableEq, Repr

/-- Processes and what they do from now on, in the order of their turns. -/
structure Schedule where
  /-- What the processes share. -/
  machine : Machine
  /-- The processes that have something to do. -/
  queue : Numbered Activity

namespace Schedule

/-- How many actions a turn has. -/
def turnLength : Nat := 5000

/-- How many nanoseconds an action takes. -/
def actionTime : Nat := 1000

/-- How many nanoseconds it takes to start a process. -/
def forkTime : Nat := 300000

/-- What a process waits for has come. -/
def hasCome (m : Machine) : Event → Bool
  | .time t => t ≤ m.clock
  | .input descriptor =>
    match m.openFile? descriptor with
    | some (_, { stream := .pipe k, .. }) => !(m.pipe k).content.isEmpty || !m.hasWriter k
    | _ => true
  | .room descriptor count =>
    match m.openFile? descriptor with
    | some (_, { stream := .pipe k, .. }) =>
      let p := m.pipe k
      match p.room with
      | none => true
      | some room =>
        let free := room - p.content.length
        !m.hasReader k || count ≤ free || (free ≠ 0 && Machine.pieceLimit < count)
    | _ => true
  | .child => m.processes.any (fun (_, p) => p.parent = m.current && p.ending.isSome)
      || !m.hasChildren
  | .orSignal event => hasCome m event || !m.self.noted.isEmpty

/-- The process has something to do now. -/
def canAct (m : Machine) (n : Nat) (a : Activity) : Bool :=
  match m.processes.lookup n with
  | none => false
  | some p =>
    !p.isStopped && match a with
      | .await event _ => hasCome { m with current := n } event
      | _ => true

/-- Let the current process act for some time. What is left for it to do, if anything, and the
processes that it has started. -/
def turn : Nat → Machine → Activity → Numbered Activity →
    Machine × Option Activity × Numbered Activity
  | 0, m, a, started => (m, some a, started)
  | fuel + 1, m, a, started =>
    if !m.isAlive m.current then (m, none, started)
    else match a with
      | .over how => (m.finish m.current how, none, started)
      | .act next =>
        let (m, a) := next { m with clock := m.clock + actionTime }
        turn fuel m a started
      | .await event next =>
        if canAct m m.current a then turn fuel m next started
        else (m, some (.await event next), started)
      | .fork child next =>
        let (n, m) := { m with clock := m.clock + forkTime }.fork
        turn fuel m (next n) (started ++ [(n, child)])

/-- The first time after now that a process waits for. -/
def nextTime? (s : Schedule) : Option Nat :=
  let times := s.queue.filterMap fun (n, a) =>
    match a with
    | .await (.time t) _ => if s.machine.isAlive n then some t else none
    | _ => none
  times.min?

/-- One turn of the first process that has something to do; none when all wait. -/
def step (s : Schedule) : Option Schedule :=
  let (waiting, rest) := s.queue.span fun (n, a) => !canAct s.machine n a
  match rest with
  | [] => none
  | (n, a) :: rest =>
    let (machine, left, started) := turn turnLength { s.machine with current := n } a []
    let mine := match left with
      | some a => [(n, a)]
      | none => []
    some ⟨machine, waiting ++ rest ++ started ++ mine⟩

/-- Only the processes that have not ended. -/
def living (s : Schedule) : Schedule :=
  { s with queue := s.queue.filter fun (n, _) => s.machine.isAlive n }

/-- Run until something holds, or until all processes wait for a time after `last`. -/
def runUntil (holds : Machine → Bool) (last : Option Nat) : Nat → Schedule →
    Except OutOfTime Unit × Schedule
  | 0, s => (.error ⟨⟩, s)
  | fuel + 1, s =>
    let s := s.living
    let isPast (t : Nat) : Bool := last.any (· < t)
    if holds s.machine then (.ok (), s)
    else if isPast s.machine.clock then (.error ⟨⟩, s)
    else match s.step with
      | some s => runUntil holds last fuel s
      | none =>
        match s.nextTime? with
        | none => (.error ⟨⟩, s)
        | some t =>
          if isPast t then (.error ⟨⟩, s)
          else runUntil holds last fuel { s with machine := { s.machine with clock := t } }

/-- How many turns there can be. -/
def turnLimit : Nat := 100000

end Schedule

end GoldenCheck

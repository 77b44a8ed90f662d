import GoldenCheck.Process.Machine

/-!
# What processes do

A process is a tree of what it does next (`Activity`): it acts on the machine at once, waits for
something, or starts another process. A `Task` is a part of that with a result, so that a process is
written as one task after the other.

The second half of the module is what a task can ask of the machine.
-/

namespace GoldenCheck

/-- What a process can wait for. -/
inductive Event where
  /-- The clock shows a time. -/
  | time (t : Nat)
  /-- There is something to read at a descriptor. -/
  | input (descriptor : Nat)
  /-- There is room to write so many bytes at a descriptor. -/
  | room (descriptor count : Nat)
  /-- A child has ended, or there is none. -/
  | child
  /-- Something else, or a signal that is noted. -/
  | orSignal (event : Event)
  deriving DecidableEq, Repr

/-- What a process does from now on. -/
inductive Activity where
  /-- Nothing; it has ended. -/
  | over (how : ProcessEnd)
  /-- It acts on the machine. -/
  | act (next : Machine → Machine × Activity)
  /-- It waits. -/
  | await (event : Event) (next : Activity)
  /-- It starts a process, whose number it is told. -/
  | fork (child : Activity) (next : Nat → Activity)

/-- A part of what a process does, with a result. -/
def Task (α : Type) : Type := (α → Activity) → Activity

namespace Task

instance : Monad Task where
  pure a := fun next => next a
  bind t f := fun next => t fun a => f a next

/-- What a process does that has a task and ends with its result. -/
def activity (t : Task ProcessEnd) : Activity := t .over

/-- End the process. -/
def finish (how : ProcessEnd) : Task α := fun _ => .over how

/-- Go on as something else. -/
def become (other : Activity) : Task α := fun _ => other

/-- Act on the machine. -/
def act (f : Machine → α × Machine) : Task α := fun next => .act fun m =>
  let (a, m) := f m
  (m, next a)

/-- Change the machine. -/
def change (f : Machine → Machine) : Task Unit := act fun m => ((), f m)

/-- Look at the machine. -/
def look (f : Machine → α) : Task α := act fun m => (f m, m)

/-- Try to change the machine. -/
def attempt (f : Machine → Except SystemError (α × Machine)) : Task (Except SystemError α) :=
  act fun m =>
    match f m with
    | .ok (a, m) => (.ok a, m)
    | .error e => (.error e, m)

/-- Try to change the machine, without a result. -/
def tryChange (f : Machine → Except SystemError Machine) : Task (Except SystemError Unit) :=
  attempt fun m => (f m).map fun m => ((), m)

/-- Wait for something. -/
def await (event : Event) : Task Unit := fun next => .await event (next ())

/-- Start a process; its number. -/
def fork (child : Task ProcessEnd) : Task Nat := fun next => .fork child.activity next

/-- How often something is tried again at most. -/
def patience : Nat := 1000000000

/-- Let time pass. -/
def sleep (nanoseconds : Nat) : Task Unit := do
  let now ← look (·.clock)
  await (.time (now + nanoseconds))

/-- Ask until there is an answer. -/
def askUntil (event : α → Event) (ask : α → Machine → Machine.Answer β × Machine) (a : α) :
    Nat → Task (Except SystemError β)
  | 0 => return .error (.other "")
  | fuel + 1 => do
    match ← act (ask a) with
    | .ready b => return .ok b
    | .never e => return .error e
    | .later =>
      await (event a)
      askUntil event ask a fuel

/-- Read at most so many bytes from a descriptor; no bytes at the end. -/
def read (descriptor count : Nat) : Task (Except SystemError Bytes) :=
  askUntil (fun _ => .input descriptor) (fun _ m => m.read descriptor count) () patience

/-- Read up to a byte, as far as there is anything; no bytes at the end. -/
def readThrough (descriptor : Nat) (last : UInt8) : Task (Except SystemError Bytes) :=
  askUntil (fun _ => .input descriptor) (fun _ m => m.readThrough descriptor last) () patience

/-- How much is read at a time. -/
def blockSize : Nat := 65536

/-- Read a descriptor to its end. -/
def readAll (descriptor : Nat) : Task (Except SystemError Bytes) := go [] patience
where
  /-- Go on when blocks were read, the last one first. -/
  go (blocks : List Bytes) : Nat → Task (Except SystemError Bytes)
    | 0 => return .error (.other "")
    | fuel + 1 => do
      match ← read descriptor blockSize with
      | .error e => return .error e
      | .ok [] => return .ok blocks.reverse.flatten
      | .ok block => go (block :: blocks) fuel

/-- Write to a descriptor. A process that writes where nobody reads gets a signal. -/
def write (descriptor : Nat) (bytes : Bytes) : Task (Except SystemError Unit) :=
  if bytes.isEmpty then return .ok () else go bytes patience
where
  /-- Go on with what is left. -/
  go (bytes : Bytes) : Nat → Task (Except SystemError Unit)
    | 0 => return .error (.other "")
    | fuel + 1 => do
      let answer := fun (_ : Unit) (m : Machine) => m.write descriptor bytes
      match ← askUntil (fun _ => .room descriptor bytes.length) answer () patience with
      | .ok [] => return .ok ()
      | .ok rest => go rest fuel
      | .error .brokenPipe =>
        change fun m => m.deliver m.current Signal.brokenPipe
        return .error .brokenPipe
      | .error e => return .error e

/-- Signals that were noted, which are then forgotten. -/
def takeSignals : Task (List Signal) := act fun m =>
  (m.self.noted, if m.self.noted.isEmpty then m else m.updateSelf fun p => { p with noted := [] })

end Task

/-- A program that is called with arguments and with the values of variables. Its first argument is
the name that it is called by. -/
abbrev Program := List Bytes → List (Bytes × Bytes) → Task ProcessEnd

/-- The programs that can be installed, by their names. -/
abbrev Programs := String → Option Program

namespace Programs

/-- The program that a path leads to. -/
def at? (programs : Programs) (w : World) (p : Path) : Except SystemError Program := do
  match ← w.lookup p with
  | (_, .program name) =>
    match programs name with
    | some program => return program
    | none => throw .notExecutable
  | _ => throw .permissionDenied

/-- The first of the descriptors that a process loses when it becomes another program. -/
def firstLost : Nat := 10

/-- The process becomes another program: signals that it noted have their usual meaning again. -/
def prepare (m : Machine) : Machine :=
  let lost := (m.self.descriptors.map (·.1)).filter (firstLost ≤ ·)
  let m := lost.foldl Machine.close m
  m.updateSelf fun p =>
    { p with provisions := p.provisions.filter (·.2 = .ignored), noted := [] }

/-- The length from which on one argument, or the value of one variable, is too long. -/
def textLimit : Nat := 131072

/-- The length beyond which all of them together are too long. -/
def textsLimit : Nat := 2097152

/-- Arguments and variables are too long to be handed to a program. -/
def areTooLong (args : List Bytes) (environment : List (Bytes × Bytes)) : Bool :=
  let lengths := args.map List.length ++ environment.map fun (n, v) => n.length + 1 + v.length
  lengths.any (textLimit ≤ ·) || textsLimit < (lengths.map (· + 9)).foldl (· + ·) 0

/-- The program that a path leads to, if it can be started with some arguments and variables. -/
def ready (programs : Programs) (w : World) (p : Path) (args : List Bytes)
    (environment : List (Bytes × Bytes)) : Except SystemError (Task ProcessEnd) := do
  let program ← programs.at? w p
  if areTooLong args environment then throw .argumentsTooLong
  return program args environment

/-- Become the program that a path leads to; or why that is not possible. -/
def become (programs : Programs) (p : Path) (args : List Bytes)
    (environment : List (Bytes × Bytes)) : Task SystemError := do
  match ← Task.look fun m => programs.ready m.places p args environment with
  | .error e => return e
  | .ok program =>
    Task.change prepare
    Task.become (Task.activity program)

end Programs

end GoldenCheck

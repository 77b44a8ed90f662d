import GoldenCheck.Shell.Builtin.Options
import GoldenCheck.Shell.Jobs

/-!
# Signals and jobs

`trap` says what the shell does when a signal comes, `kill` sends signals, `wait` waits for jobs,
and `jobs` shows them. There is no terminal, so `fg` and `bg` have nothing to do.
-/

namespace GoldenCheck

namespace Shell

/-! ### Names of signals -/

/-- The name of a signal in the shell. The last half of those with numbers count down from the
greatest. -/
def signalName (s : Signal) : String :=
  let greatest := Signal.limit - 1
  if s = 0 then "EXIT"
  else if s = Signal.firstNumbered then "RTMIN"
  else if s = greatest then "RTMAX"
  else if Signal.firstNumbered < s then
    if s ≤ Signal.firstNumbered + 15 then "RTMIN+" ++ toString (s - Signal.firstNumbered)
    else "RTMAX-" ++ toString (greatest - s)
  else if s = 16 then toString s
  else (Signal.name? s).getD (toString s)

/-- A text is a number that a word of the machine can hold. -/
def isNumeral (cs : Chars) : Bool := !cs.isEmpty && cs.all Char.isDigit

/-- The signal of a number. -/
def signalOfNumber? (cs : Chars) : Option Signal :=
  if isNumeral cs then
    let n := cs.foldl (fun n c => 10 * n + digit c) 0
    if n < Signal.limit then some n else none
  else none

/-- The signal of a number or a name, from some signal on. -/
def signal? (least : Signal) (cs : Chars) : Option Signal :=
  if isNumeral cs then signalOfNumber? cs
  else
    let name := String.ofList (cs.map Char.toUpper)
    (List.range' least (Signal.limit - least)).find? fun s => signalName s = name

/-! ### `trap` -/

/-- Make the provision of the shell for a signal. -/
def provide (signal : Signal) (action : Option Chars) : Task Unit := Task.change fun m =>
  m.updateSelf fun p =>
    let others := p.provisions.filter (·.1 ≠ signal)
    let mine := match action with
      | none => []
      | some [] => [(signal, Provision.ignored)]
      | some _ => [(signal, .caught)]
    { p with provisions := mine ++ others }

/-- Do something when a signal comes, or nothing, or what is usual. -/
def setTrap (signal : Signal) (action : Option Chars) : ShellM Unit := do
  let s ← get
  let others := s.traps.filter (·.1 ≠ signal)
  set { s with traps := match action with
    | some action => (signal, action) :: others
    | none => others }
  if signal ≠ 0 ∧ !s.fixedSignals.contains signal then call (provide signal action)

/-- `trap`. -/
def trap : Builtin := fun args => do
  match ← withoutOptions args with
  | [] =>
    let s ← get
    for signal in List.range Signal.limit do
      if let some action := s.traps.lookup signal then
        sayLine (ofText "trap -- " ++ singleQuoted action ++ ofText (" " ++ signalName signal))
    return 0
  | first :: rest =>
    let isReset := rest.isEmpty || (signalOfNumber? first).isSome
    let action := if isReset ∨ first = ['-'] then none else some first
    let names := if isReset then first :: rest else rest
    for name in names do
      match signal? 0 name with
      | some signal => setTrap signal action
      | none =>
        let _ ← emit 2 (ofText "trap: " ++ name ++ ofText ": bad trap\n")
        return 1
    return 0

/-! ### Jobs by name -/

/-- The job that a name stands for. Without a name it is the current one. -/
def findJob (name : Option Chars) (isControlled : Bool) : ShellM Job := do
  let s ← get
  let shown := name.getD (ofText "(null)")
  let check (j : Option Job) (words : Chars) : ShellM Job := do
    match j with
    | none => fail words
    | some j =>
      if isControlled then
        fail (ofText "job " ++ shown ++ ofText " not created under job control")
      return j
  let missing := ofText "No such job: " ++ shown
  match name with
  | none | some ['%'] | some ['%', '+'] | some ['%', '%'] =>
    check s.jobs.head? (ofText "No current job")
  | some ['%', '-'] => check (s.jobs.tail.head?) (ofText "No previous job")
  | some ('%' :: cs) =>
    let byNumber := if isNumeral cs then s.jobs.find? fun j => numeral j.number = cs else none
    let matching := if cs = ['?'] then s.jobs else []
    match byNumber, matching with
    | some j, _ => check (some j) missing
    | none, [j] => check (some j) missing
    | none, _ :: _ :: _ => fail (shown ++ ofText ": ambiguous")
    | none, [] => fail missing
  | some _ => fail missing

/-- A job, as it is shown. -/
def jobLine (s : Session) (j : Job) (showsNumbers : Bool) : Chars :=
  let mark := match s.jobs with
    | a :: b :: _ => if a.number = j.number then '+' else if b.number = j.number then '-' else ' '
    | [a] => if a.number = j.number then '+' else ' '
    | [] => ' '
  let start := ofText ("[" ++ toString j.number ++ "] ") ++ [mark, ' ']
  let numbered (p : JobProcess) : Chars := if showsNumbers then numeral p.number ++ [' '] else []
  let state : Chars :=
    if !j.isDone then ofText "Running"
    else match j.processes.getLast?.bind (·.ending) with
      | some (.exited 0) => ofText "Done"
      | some (.exited status) => ofText ("Done(" ++ toString status ++ ")")
      | some (.signalled signal) => ofText (Signal.words signal)
      | none => []
  let padded (cs : Chars) : Chars := cs ++ List.replicate (max 1 (33 - cs.length)) ' '
  let first := padded (start ++ (j.processes.head?.map numbered).getD [] ++ state)
  let indent := List.replicate start.length ' '
  let others := (j.processes.drop 1).map fun p =>
    if showsNumbers then ofText " |\n" ++ padded (indent ++ numbered p) else ofText " | "
  first ++ others.flatten

/-- Show a job. One that is done is forgotten then. -/
def showJob (options : Parsed) (j : Job) : ShellM Unit := do
  let s ← get
  match options.options.getLast?.map (·.1) with
  | some 'p' => sayLine (numeral ((j.processes.head?.map (·.number)).getD 0))
  | letter =>
    sayLine (jobLine s j (letter = some 'l'))
    if j.isDone then modify (·.dropJob j.number)
    let _ ← flush

/-- `jobs`. -/
def showJobs : Builtin := fun args => do
  let p ← OptionLetters.read { plain := ['l', 'p'] } args
  if p.rest.isEmpty then
    collectAll
    for j in (← get).jobs do showJob p j
  else
    for name in p.rest do showJob p (← findJob (some name) false)
  return 0

/-- `fg` and `bg`. -/
def moveJob : Builtin := fun args => do
  let args ← withoutOptions args
  let _ ← findJob args.head? true
  return 0

/-! ### `wait` -/

/-- The status of a shell that a signal kept from waiting. -/
def interruptedStatus : ShellM Nat := do
  return signalStatus + ((← call (Task.look (·.self.noted))).getLast?).getD 0

/-- Note that jobs were waited for. -/
def noteAwaited (which : Job → Bool) : ShellM Unit := modify fun s =>
  { s with jobs := s.jobs.map fun j => if which j then { j with wasAwaited := true } else j }

/-- Wait for jobs by their names or by the numbers of their last processes; the status so far. -/
def waitForEach (status : Nat) : List Chars → ShellM Nat
  | [] => return status
  | arg :: rest => do
    let job : Option Job ← if arg.head? = some '%' then some <$> findJob (some arg) false
      else do
        let n ← number arg
        pure ((← get).jobs.find? fun j => j.processes.getLast?.any (·.number = n))
    match job with
    | none => waitForEach status rest
    | some j =>
      if !(← waitUntil (some j.number) true (Session.isJobDone j.number)) then interruptedStatus
      else
        noteAwaited (·.number = j.number)
        let status := (((← get).job? j.number).map Job.status).getD status
        waitForEach status rest

/-- `wait`. -/
def wait : Builtin := fun args => do
  let args ← withoutOptions args
  if args.isEmpty then
    let isOver ← waitUntil none true fun s => s.jobs.all Job.isDone
    noteAwaited Job.isDone
    if isOver then return 0 else interruptedStatus
  else waitForEach 127 args

/-! ### `kill` -/

/-- How `kill` is used. -/
def killUsage : String :=
  "Usage: kill [-s sigspec | -signum | -sigspec] [pid | job]... or\nkill -l [exitstatus]"

/-- Show the names of signals, or the name of the one that a status stands for. -/
def tellSignals (args : List Chars) : ShellM Nat := do
  match args with
  | [] =>
    for signal in List.range Signal.limit do
      sayLine (ofText (if signal = 0 then "0" else signalName signal))
    return 0
  | arg :: _ =>
    let n ← number arg
    let signal := if signalStatus < n then n - signalStatus else n
    if signal = 0 ∨ Signal.limit ≤ signal then
      fail (ofText "invalid signal number or exit status: " ++ arg)
    sayLine (ofText (signalName signal))
    return 0

/-- Send a signal to each of some processes and jobs. -/
def sendSignal (signal : Signal) (targets : List Chars) : ShellM Nat :=
  targets.foldlM (fun status target => do
    let n : Int ← match target with
      | '%' :: _ => do
        let j ← findJob (some target) false
        pure (-(((j.processes.head?.map (·.number)).getD 0 : Nat) : Int))
      | '-' :: cs => do pure (-((← number cs) : Int))
      | cs => do pure ((← number cs) : Int)
    match ← call (Task.tryChange (·.kill n signal)) with
    | .ok () => return status
    | .error e =>
      warn (ofText (e.words ++ "\n"))
      return 1) 0

/-- `kill`. -/
def kill : Builtin := fun args => do
  let usage : ShellM Nat := fail (ofText killUsage)
  let short := match args with
    | ('-' :: name) :: _ => signal? 1 name
    | _ => none
  match args, short with
  | [], _ => usage
  | _ :: targets, some signal => if targets.isEmpty then usage else sendSignal signal targets
  | args, none =>
    let p ← OptionLetters.read { plain := ['l'], withArgument := ['s'] } args
    let chosen ← p.options.foldlM (fun (chosen : Option Signal) (letter, name) => do
      if letter ≠ 's' then return chosen
      match signal? 1 name with
      | some signal => return some signal
      | none => fail (ofText "invalid signal number or name: " ++ name)) none
    if p.has 'l' then
      if chosen.isSome ∧ !p.rest.isEmpty then usage else tellSignals p.rest
    else if p.rest.isEmpty then usage
    else sendSignal (chosen.getD Signal.terminate) p.rest

/-- `times`. -/
def times : Builtin := fun _ => do
  for _ in [0, 1] do sayLine (ofText "0m0.000000s 0m0.000000s")
  return 0

/-! ### `ulimit` -/

/-- What processes may use: the letter, the words, and how much. -/
def limits : List (Char × String × String) :=
  [('t', "time(seconds)", "unlimited"), ('f', "file(blocks)", "unlimited"),
   ('d', "data(kbytes)", "unlimited"), ('s', "stack(kbytes)", "8192"),
   ('c', "coredump(blocks)", "0"), ('m', "memory(kbytes)", "unlimited"),
   ('l', "locked memory(kbytes)", "8192"), ('p', "process", "unlimited"),
   ('n', "nofiles", "1024"), ('v', "vmemory(kbytes)", "unlimited"), ('w', "locks", "unlimited"),
   ('r', "rtprio", "0")]

/-- `ulimit`. Limits that are set have no effect. -/
def ulimit : Builtin := fun args => do
  let letters := limits.map (·.1)
  let p ← OptionLetters.read { plain := ['H', 'S', 'a'] ++ letters } args
  let chosen := ((p.options.filter fun o => letters.contains o.1).getLast?.map (·.1)).getD 'f'
  match p.rest with
  | [] =>
    if p.has 'a' then
      for (_, words, amount) in limits do
        let gap := List.replicate (20 - words.length) ' '
        sayLine (ofText words ++ gap ++ ' ' :: ofText amount)
    else sayLine (ofText ((limits.lookup chosen).map (·.2) |>.getD ""))
    return 0
  | arg :: rest =>
    if p.has 'a' ∨ !rest.isEmpty then fail (ofText "too many arguments")
    if arg ≠ ofText "unlimited" ∧ !isNumeral arg then fail (ofText "bad number")
    return 0

end Shell

end GoldenCheck

import GoldenCheck.Process.Task
import GoldenCheck.Shell.Number
import GoldenCheck.Shell.Token

/-!
# A shell at work

The state of a shell between two commands (`Session`), and what can break off the run of commands
(`Stop`). A computation of the shell (`ShellM`) is a part of what its process does; it keeps the
state also when it is broken off.
-/

namespace GoldenCheck

namespace Shell

/-- What breaks off a run of commands. -/
inductive Stop where
  /-- Something is wrong. -/
  | error
  /-- The shell has done its work. -/
  | finished
  /-- The shell was told to end. -/
  | exit
  deriving DecidableEq, Repr

/-- What is left out until a loop, a function or a script ends. -/
inductive Skip where
  /-- The loop ends. -/
  | break
  /-- The loop goes on with its next round. -/
  | continue
  /-- The function ends, with a status that was given. -/
  | return
  /-- The function ends, with the status that there is. -/
  | leave
  deriving DecidableEq, Repr

/-- A variable. -/
structure Variable where
  /-- Its value, if it is set. -/
  value : Option Chars := none
  /-- The programs that are started see it. -/
  isExported : Bool := false
  /-- It cannot be changed. -/
  isReadOnly : Bool := false
  deriving DecidableEq, Repr

/-- What a command brings back at its end. -/
inductive Kept where
  /-- A variable, as it was. -/
  | variable (name : Chars) (old : Option Variable)
  /-- The options, as they were. -/
  | options (old : List Char)
  deriving DecidableEq, Repr

/-- A descriptor, and where the file that it led to is kept, if it led to any. -/
abbrev KeptDescriptor := Nat × Option Nat

/-- A process that the shell has started for a job. -/
structure JobProcess where
  /-- Its number. -/
  number : Nat
  /-- How it ended. -/
  ending : Option ProcessEnd := none
  deriving DecidableEq, Repr

/-- Processes that the shell has started together. -/
structure Job where
  /-- The number of the job. -/
  number : Nat
  /-- Its processes; it ends as the last of them does. -/
  processes : List JobProcess
  /-- It was waited for. -/
  wasAwaited : Bool := false
  deriving DecidableEq, Repr

/-- All processes of a job have ended. -/
def Job.isDone (j : Job) : Bool := j.processes.all (·.ending.isSome)

/-- The state of a shell. -/
structure Session where
  /-- The name it goes by in its complaints. -/
  name : Chars
  /-- The command that complains, if it is one of the shell's own. -/
  command : Option Chars := none
  /-- The line of the command that runs. -/
  line : Nat := 0
  /-- The line up to which a text was read. -/
  readLine : Nat := 1
  /-- The same of the shell's own script, while a text inside it is read. -/
  scriptLine : Option Nat := none
  /-- The variables. -/
  bindings : List (Chars × Variable) := []
  /-- What each command that runs brings back at its end, the innermost first. -/
  locals : List (List Kept) := []
  /-- The descriptors that redirections have changed, for each command that has any, the innermost
  first. -/
  changed : List (List KeptDescriptor) := []
  /-- The functions, with the lines where they begin. -/
  functions : List (Chars × Nat × Node) := []
  /-- The arguments. -/
  args : List Chars := []
  /-- The next argument to look at for options. -/
  optionIndex : Nat := 1
  /-- The next letter in that argument. -/
  optionOffset : Option Nat := none
  /-- The letters of the options that are on. -/
  options : List Char := []
  /-- The status of the last command. -/
  status : Nat := 0
  /-- The status of the last command in a word. -/
  wordStatus : Nat := 0
  /-- The status to end with, when it is not that of the last command. -/
  savedStatus : Option Nat := none
  /-- What is left out. -/
  skip : Option Skip := none
  /-- How many loops end. -/
  skipCount : Nat := 0
  /-- How many loops run. -/
  loops : Nat := 0
  /-- How many functions run, each called by the one before. -/
  depth : Nat := 0
  /-- The number by which the shell knows itself. -/
  ownNumber : Nat := 0
  /-- The last process in the background. -/
  lastBackground : Option Nat := none
  /-- The jobs, the current one first. -/
  jobs : List Job := []
  /-- What is done when a signal comes; at number 0, at the end. -/
  traps : List (Signal × Chars) := []
  /-- Signals that came and were not yet dealt with. -/
  pending : List Signal := []
  /-- Signals that were ignored from the start, whatever is done about them. -/
  fixedSignals : List Signal := []
  /-- The places of programs that were run, and whether each was found since the directory was
  last changed. -/
  places : List (Chars × Chars × Bool) := []
  /-- The current directory, as its path is written. -/
  directory : Option Chars := none
  /-- What a new file does not allow, as bits. -/
  mask : Nat := 18
  /-- What commands have said and is not yet written. -/
  said : List Chars := []
  /-- Where traced commands are shown. -/
  traceDescriptor : Nat := 2
  /-- A traced command is being shown. -/
  isTracing : Bool := false
  /-- The documents of scripts. -/
  documents : List (Nat × Word Node) := []
  /-- The number of the next document. -/
  nextDocument : Nat := 0
  /-- The aliases. -/
  aliases : List (Chars × Chars) := []
  /-- The process is one that the shell has started. -/
  isChild : Bool := false

/-- A computation of a shell. -/
abbrev ShellM := ExceptT Stop (StateT Session Task)

/-- Ask something of the machine. -/
def call (t : Task α) : ShellM α := ExceptT.lift (StateT.lift t)

/-- The longest run of anything in a shell. -/
def longest : Nat := 1000000000

/-! ### Complaints -/

/-- Write to a descriptor; whether that was possible. -/
def emit (descriptor : Nat) (cs : Chars) : ShellM Bool := do
  match ← call (Task.write descriptor (toBytes cs)) with
  | .ok _ => return true
  | .error _ => return false

/-- Say something, which is written when the command ends. -/
def say (cs : Chars) : ShellM Unit := modify fun s => { s with said := cs :: s.said }

/-- Say something in a line of its own. -/
def sayLine (cs : Chars) : ShellM Unit := say (cs ++ ['\n'])

/-- Write what was said; whether that was possible. -/
def flush : ShellM Bool := do
  let s ← get
  if s.said.isEmpty then return true
  set { s with said := [] }
  emit 1 s.said.reverse.flatten

/-- What stands before a complaint. -/
def Session.complaintStart (s : Session) : Chars :=
  s.name ++ ofText (": " ++ toString s.line ++ ": ")
    ++ match s.command with
      | some c => c ++ ofText ": "
      | none => []

/-- Complain, and go on. -/
def warn (words : Chars) : ShellM Unit := do
  let _ ← emit 2 ((← get).complaintStart ++ words ++ ['\n'])

/-- Complain, and break off with a status. -/
def failWith (status : Nat) (words : Chars) : ShellM α := do
  modify fun s => { s with status }
  warn words
  let _ ← flush
  throw .error

/-- Complain, and break off. -/
def fail (words : Chars) : ShellM α := failWith 2 words

/-- Complain about a text that is no number. -/
def failNumber (cs : Chars) : ShellM α := fail (ofText "Illegal number: " ++ cs)

/-! ### Options -/

/-- The options in order: names and letters. Two have no letters that can be given. -/
def optionTable : List (String × Char) :=
  [("errexit", 'e'), ("noglob", 'f'), ("ignoreeof", 'I'), ("interactive", 'i'), ("monitor", 'm'),
   ("noexec", 'n'), ("stdin", 's'), ("xtrace", 'x'), ("verbose", 'v'), ("vi", 'V'),
   ("emacs", 'E'), ("noclobber", 'C'), ("allexport", 'a'), ("notify", 'b'), ("nounset", 'u'),
   ("privileged", 'p'), ("nolog", '\x01'), ("debug", '\x02')]

/-- An option is on. -/
def Session.has (s : Session) (letter : Char) : Bool := s.options.contains letter

/-- Put an option on or off. -/
def Session.setOption (s : Session) (letter : Char) (isOn : Bool) : Session :=
  let others := s.options.filter (· ≠ letter)
  { s with options := if isOn then letter :: others else others }

/-- The letters of the options that are on. -/
def Session.optionLetters (s : Session) : Chars :=
  (optionTable.reverse.map (·.2)).filter fun c => s.has c && ' ' < c

/-! ### Variables -/

/-- The value of a variable. -/
def Session.value? (s : Session) (name : Chars) : Option Chars :=
  (s.bindings.lookup name).bind (·.value)

/-- Let a name stand for a variable. -/
def Session.setVariable (s : Session) (name : Chars) (v : Variable) : Session :=
  { s with bindings := (name, v) :: s.bindings.filter (·.1 ≠ name) }

/-- Forget a variable. -/
def Session.dropVariable (s : Session) (name : Chars) : Session :=
  { s with bindings := s.bindings.filter (·.1 ≠ name) }

/-- The characters that separate fields when nothing else is said. -/
def defaultSeparators : Chars := [' ', '\t', '\n']

/-- The characters that separate fields. -/
def Session.separators (s : Session) : Chars :=
  (s.value? (ofText "IFS")).getD defaultSeparators

/-- The number that an argument has to be, without a sign. -/
def number (cs : Chars) : ShellM Nat :=
  match wholeNumber? (some 10) cs with
  | some n => if 0 ≤ n ∧ n ≤ 2147483647 then return n.toNat else failNumber cs
  | none => failNumber cs

/-- What else happens when a variable is set. -/
def noticeChange (name : Chars) (value : Option Chars) : ShellM Unit := do
  if name = ofText "OPTIND" then
    let n ← number (value.getD [])
    modify fun s => { s with optionIndex := if n = 0 then 1 else n, optionOffset := none }
  else if name = ofText "PATH" then modify fun s => { s with places := [] }

/-- Set a variable, and export it if asked to. -/
def assign (name value : Chars) (exports : Bool) : ShellM Unit := do
  let s ← get
  let old := (s.bindings.lookup name).getD {}
  if old.isReadOnly then fail (name ++ ofText ": is read only")
  noticeChange name (some value)
  let isExported := old.isExported || exports || s.has 'a'
  modify fun s => s.setVariable name { value := some value, isExported }

/-- Forget the value of a variable. -/
def unset (name : Chars) : ShellM Unit := do
  let s ← get
  match s.bindings.lookup name with
  | none => return
  | some old =>
    if old.isReadOnly then fail (name ++ ofText ": is read only")
    if name = ofText "PATH" then noticeChange name none
    modify fun s => s.dropVariable name

/-- The name and the value of a text with `=` in it. -/
def splitAssignment (cs : Chars) : Chars × Option Chars :=
  match cs.span (· ≠ '=') with
  | (name, '=' :: value) => (name, some value)
  | (name, _) => (name, none)

/-- Keep a variable until the command that runs ends, and set it if a value is given. -/
def makeLocal (cs : Chars) (exports : Bool) : ShellM Unit := do
  let s ← get
  let keep (k : Kept) : ShellM Unit := modify fun s => { s with
    locals := match s.locals with
      | top :: rest => (k :: top) :: rest
      | [] => [[k]] }
  if cs = ['-'] then keep (.options s.options)
  else
    let (name, value) := splitAssignment cs
    let old := s.bindings.lookup name
    match value with
    | some value =>
      assign name value exports
      keep (.variable name old)
    | none =>
      if old.isNone ∧ !isName name then fail (name ++ ofText ": bad variable name")
      if old.isNone ∧ exports then
        modify fun s => s.setVariable name { isExported := true }
      keep (.variable name old)

/-- Bring back what was kept. -/
def restore : Kept → ShellM Unit
  | .options old => modify fun s => { s with options := old }
  | .variable name old => do
    match old with
    | some v =>
      if name = ofText "OPTIND" ∨ name = ofText "PATH" then noticeChange name v.value
      modify fun s => s.setVariable name v
    | none => modify fun s => s.dropVariable name

/-- The variables that a program sees. -/
def Session.environment (s : Session) : List (Bytes × Bytes) :=
  s.bindings.filterMap fun (name, v) =>
    if v.isExported then v.value.map fun value => (toBytes name, toBytes value) else none

/-- Where programs are looked for when nothing is said. -/
def defaultPath : Chars :=
  ofText "/usr/local/sbin:/usr/local/bin:/usr/sbin:/usr/bin:/sbin:/bin"

/-- Where programs are looked for. -/
def Session.path (s : Session) : Chars := (s.value? (ofText "PATH")).getD []

/-- The text in single quotes, so that it is read as one word. -/
def singleQuoted (cs : Chars) : Chars := pieces cs longest
where
  /-- Stretches without single quotes are in single quotes, and single quotes in double ones. -/
  pieces (cs : Chars) : Nat → Chars
    | 0 => []
    | fuel + 1 =>
      let (plain, rest) := cs.span (· ≠ '\'')
      let (ticks, rest) := rest.span (· = '\'')
      let first := '\'' :: plain ++ ['\'']
      let second := if ticks.isEmpty then [] else '"' :: ticks ++ ['"']
      first ++ second ++ if rest.isEmpty then [] else pieces rest fuel

end Shell

end GoldenCheck

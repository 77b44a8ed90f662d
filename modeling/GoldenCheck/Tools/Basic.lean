import GoldenCheck.Process.Task
import GoldenCheck.Tools.Options
import GoldenCheck.Tools.Quoting

/-!
# Tools

A tool is a program that looks at its options, does its work on its operands, and says by its status
how that went (`Tool`). While it works (`ToolM`) it collects what it writes and sends it on before it
complains and when it ends. If its output is lost, it says so at its end and fails.
-/

namespace GoldenCheck

namespace Tools

/-- A text as bytes. -/
abbrev bytes := Utf8.encode

/-- How a tool was called. -/
structure ToolCall where
  /-- The name it is called by. -/
  name : Bytes
  /-- Its status when it cannot do its work. -/
  failure : Nat
  /-- The hint on how to call the tool begins like a complaint. -/
  signsHint : Bool
  /-- What it says when its output is lost at its end. -/
  onLoss : String
  /-- What it says when its output was lost before. -/
  onEarlyLoss : Option String
  /-- The arguments. -/
  args : List Bytes := []
  /-- The arguments that are no operands. -/
  words : List Bytes := []
  /-- Its last argument, when the operands stand last. -/
  last : Bytes := []
  /-- The values of variables. -/
  bindings : List (Bytes × Bytes) := []

/-- What a tool writes. -/
structure ToolOutput where
  /-- What was not sent on yet, the last part first. -/
  parts : List Bytes := []
  /-- How many bytes that are. -/
  size : Nat := 0
  /-- Why some of it was lost. -/
  lost : Option SystemError := none

/-- A tool at work. -/
abbrev ToolM := ReaderT ToolCall (StateT ToolOutput Task)

/-- Let the process do something. -/
def call (t : Task α) : ToolM α := fun _ s => do return (← t, s)

/-- The descriptor of the output. -/
def outputDescriptor : Nat := 1

/-- Send on what was written. -/
def flush : ToolM Unit := do
  let s ← get
  match ← call (Task.write outputDescriptor s.parts.reverse.flatten) with
  | .ok () => set { s with parts := [], size := 0 }
  | .error e => set { s with parts := [], size := 0, lost := s.lost <|> some e }

/-- So many bytes are sent on together. -/
def chunkSize : Nat := 4096

/-- Write. What fills whole chunks is sent on. -/
def put (part : Bytes) : ToolM Unit := do
  let s ← get
  let size := s.size + part.length
  if size < chunkSize then set { s with parts := part :: s.parts, size }
  else
    let content := (part :: s.parts).reverse.flatten
    let count := size / chunkSize * chunkSize
    set { s with parts := [content.take count] }
    flush
    modify fun s => { s with parts := [content.drop count], size := size - count }

/-- Write a text. -/
def putText (part : String) : ToolM Unit := put (bytes part)

/-- Say something where complaints go, before what was written is sent on. -/
def warnAhead (content : Bytes) : ToolM Unit := do
  let _ ← call (Task.write 2 content)

/-- Say something where complaints go. -/
def warn (content : Bytes) : ToolM Unit := do
  flush
  warnAhead content

/-- Complain. -/
def complain (words : Bytes) : ToolM Unit := do
  warn ((← read).name ++ bytes ": " ++ words ++ [0x0A])

/-- Complain about something. -/
def complainAbout (about : Bytes) (e : SystemError) : ToolM Unit :=
  complain (about ++ bytes (": " ++ e.words))

/-- End with a status, or as a failure if output was lost. -/
def quit (status : Nat) : ToolM α := do
  let wasLost := (← get).lost.isSome
  flush
  match (← get).lost with
  | none => call (Task.finish (.exited status))
  | some e =>
    let c ← read
    match wasLost, c.onEarlyLoss with
    | true, some words => complain (bytes words)
    | _, _ => complainAbout (bytes c.onLoss) e
    call (Task.finish (.exited c.failure))

/-- Say how to learn about the tool, and end. -/
def hint : ToolM α := do
  let c ← read
  let start := if c.signsHint then c.name ++ bytes ": " else []
  warn (start ++ bytes "Try '" ++ c.name ++ bytes " --help' for more information.\n")
  quit c.failure

/-- Complain, give the hint, and end. -/
def misused (words : Bytes) : ToolM α := do
  complain words
  hint

/-- Complain and end. -/
def stop (words : Bytes) : ToolM α := do
  complain words
  quit (← read).failure

/-- The words that an option takes, with those that mean the same in one line. -/
def wordList [DecidableEq α] (table : List (String × α)) : Bytes :=
  let groups := table.splitBy fun a b => a.2 = b.2
  let line (group : List (String × α)) : Bytes :=
    bytes "\n  - " ++ List.intercalate (bytes ", ") (group.map fun w => curlyQuoted (bytes w.1))
  groups.flatMap line

/-- The meaning of a word that an option takes. It can be cut off as long as it is clear what is
meant. -/
def choose [DecidableEq α] (option : String) (table : List (String × α)) (word : Bytes) :
    ToolM α := do
  let refuse (kind : String) : ToolM α := do
    complain (bytes (kind ++ " argument ") ++ curlyQuoted word ++ bytes " for "
      ++ curlyQuoted (bytes option) ++ bytes "\nValid arguments are:" ++ wordList table)
    hint
  match table.find? fun w => bytes w.1 = word with
  | some (_, a) => return a
  | none =>
    match table.filter fun w => word.isPrefixOf (bytes w.1) with
    | [] => refuse "invalid"
    | (_, a) :: others => if others.all (·.2 = a) then return a else refuse "ambiguous"

/-- Change what there is in the world. -/
def tryChange (f : World → Except SystemError World) : ToolM (Except SystemError Unit) :=
  call (Task.tryChange fun m => (f m.world).map m.changeWorld)

/-- Open a file; its descriptor. -/
def openFile (p : Path) (mode : Machine.OpenMode) : ToolM (Except SystemError Nat) :=
  call (Task.attempt fun m => do
    let (n, m) ← m.openPath p mode
    let descriptor := m.freeDescriptor 0
    return (descriptor, m.install descriptor n))

/-- Open a file to read it; its descriptor. -/
def openToRead (p : Path) : ToolM (Except SystemError Nat) :=
  openFile p { reads := true, writes := false }

/-- Close a file. -/
def close (descriptor : Nat) : ToolM Unit := call (Task.change (·.close descriptor))

/-- Do something for each of some things; the greatest status. -/
def forEach (items : List α) (f : α → ToolM Nat) : ToolM Nat :=
  items.foldlM (fun status item => do return max status (← f item)) 0

/-- A tool. Its options make a value of type `σ`. -/
structure Tool (σ : Type) where
  /-- Its options besides those for help. -/
  options : OptionTable
  /-- Its status when it cannot do its work. -/
  failure : Nat := 1
  /-- The hint on how to call the tool begins like a complaint. -/
  signsHint : Bool := false
  /-- What it says when its output is lost at its end. -/
  onLoss : String := "write error"
  /-- What it says when its output was lost before, if that is something else. -/
  onEarlyLoss : Option String := none
  /-- The three usual descriptors lead somewhere, whoever starts the tool. -/
  fillsUsual : Bool := false
  /-- Advice when the arguments are wrong, before the hint. -/
  advice : ToolM Unit := pure ()
  /-- No options. -/
  initial : σ
  /-- One more option. -/
  option : σ → String → Option Bytes → ToolM σ
  /-- The work on operands. -/
  work : σ → List Bytes → ToolM Nat

namespace Tool

/-- Say in one line what the tool is. -/
def describe : ToolM α := do
  put (bytes "Usage: " ++ (← read).name ++ bytes " [OPTION]... [OPERAND]...\n")
  quit 0

/-- Look at the options one by one, then work. -/
def obey (t : Tool σ) (g : Given) : ToolM Nat := do
  let options ← g.options.foldlM (fun options (key, argument) =>
    if key = "help" ∨ key = "version" then describe
    else t.option options key argument) t.initial
  match g.fault with
  | some words => do
    complain words
    t.advice
    hint
  | none => t.work options g.operands

/-- Let each of the three usual descriptors that leads nowhere lead to a device that is of no use. -/
def fillUsual (m : Machine) : Machine :=
  [0, 1, 2].foldl (fun m descriptor =>
    if (m.openFile? descriptor).isSome then m
    else
      let isInput := descriptor = 0
      let (n, m) := m.addFile { stream := .device .null, reads := !isInput, writes := isInput }
      m.install descriptor n) m

/-- The tool as a program. -/
def program (t : Tool σ) : Program := fun argv environment => do
  let optionsFirst := environment.any (·.1 = bytes "POSIXLY_CORRECT")
  let given := t.options.read optionsFirst (argv.drop 1)
  let c : ToolCall := {
    name := argv.head?.getD [], failure := t.failure, signsHint := t.signsHint, onLoss := t.onLoss
    onEarlyLoss := t.onEarlyLoss
    args := argv.drop 1, words := given.words
    last := (argv.take 1 ++ given.words ++ given.operands).getLast?.getD []
    bindings := environment }
  if t.fillsUsual then Task.change fillUsual
  let work : ToolM ProcessEnd := do
    let status ← t.obey given
    quit status
  return (← work c {}).1

end Tool

end Tools

end GoldenCheck

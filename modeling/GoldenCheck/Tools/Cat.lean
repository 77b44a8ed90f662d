import GoldenCheck.Tools.Basic

/-!
# `cat`

`cat` writes its input, file after file. It can number the lines, leave out repeated blank lines,
and show bytes that cannot be seen; then it reads byte by byte, and what it remembers
(`Cat.Display`) goes on from one file to the next.
-/

namespace GoldenCheck

namespace Tools

namespace Cat

/-- How the content is shown. -/
structure Style where
  /-- Lines are numbered. -/
  numbers : Bool := false
  /-- Only lines that are not blank are numbered. -/
  skipsBlank : Bool := false
  /-- Ends of lines are shown. -/
  ends : Bool := false
  /-- Bytes that cannot be seen are shown. -/
  hidden : Bool := false
  /-- Tabs are shown. -/
  tabs : Bool := false
  /-- Of blank lines one after the other, only the first is shown. -/
  squeezes : Bool := false
  deriving DecidableEq, Repr

/-- The content is shown as it is. -/
def Style.isPlain (s : Style) : Bool :=
  !(s.numbers || s.ends || s.hidden || s.tabs || s.squeezes)

/-- What is remembered of the bytes before. -/
structure Display where
  /-- How many lines were numbered. -/
  count : Nat := 0
  /-- How many line feeds come right before; none inside a line. -/
  feeds : Option Nat := some 0
  /-- A carriage return waits for what follows it. -/
  holdsReturn : Bool := false
  deriving DecidableEq, Repr

/-- The width of a number. -/
def numberWidth : Nat := 6

/-- The number of the next line. -/
def number (d : Display) : Bytes × Display :=
  let text := toString (d.count + 1)
  let padding := String.ofList (List.replicate (numberWidth - text.length) ' ')
  (bytes (padding ++ text ++ "\t"), { d with count := d.count + 1 })

/-- A byte as it is shown: with `^` when it controls something, and with `M-` when it is beyond
ASCII. -/
def showByte (tabs : Bool) (b : UInt8) : Bytes :=
  let caret : UInt8 := 0x5E
  let plain (b : UInt8) : Bytes :=
    if b < 32 then [caret, b + 64] else if b = 127 then [caret, 0x3F] else [b]
  if b = 9 ∧ !tabs then [9]
  else if b < 128 then plain b
  else bytes "M-" ++ plain (b - 128)

/-- One more byte: what is shown for it. -/
def step (s : Style) (d : Display) (b : UInt8) : Bytes × Display :=
  if b = 0x0A then
    let feeds := (d.feeds.map (· + 1)).getD 0
    if s.squeezes ∧ 2 ≤ feeds then ([], { d with feeds := some 2 })
    else
      let (numeral, d) :=
        if 0 < feeds ∧ s.numbers ∧ !s.skipsBlank then number d else ([], d)
      let ending := if s.ends then (if d.holdsReturn then bytes "^M$" else bytes "$") else []
      (numeral ++ ending ++ [b], { d with feeds := some feeds, holdsReturn := false })
  else
    let held : Bytes := if d.holdsReturn then [0x0D] else []
    let (numeral, d) := if d.feeds.isSome ∧ s.numbers then number d else ([], d)
    let d := { d with feeds := none, holdsReturn := false }
    if s.hidden then (held ++ numeral ++ showByte s.tabs b, d)
    else if b = 9 ∧ s.tabs then (held ++ numeral ++ showByte true b, d)
    else if b = 0x0D ∧ s.ends then (held ++ numeral, { d with holdsReturn := true })
    else (held ++ numeral ++ [b], d)

/-- More bytes: what is shown for them. -/
def steps (s : Style) (d : Display) (bs : Bytes) : Bytes × Display :=
  let (parts, d) := bs.foldl (fun (parts, d) b =>
    let (part, d) := step s d b
    (part :: parts, d)) (([] : List Bytes), d)
  (parts.reverse.flatten, d)

/-- The output is lost when it cannot be written. -/
def send (content : Bytes) : ToolM Unit := do
  put content
  flush
  if (← get).lost.isSome then quit 1

/-- Show what there is to read; the status. -/
def copy (s : Style) (name : Bytes) (descriptor : Nat) : Nat → Display → ToolM (Nat × Display)
  | 0, d => return (1, d)
  | fuel + 1, d => do
    match ← call (Task.read descriptor Task.blockSize) with
    | .error e =>
      complainAbout (shellQuoted name) e
      return (1, d)
    | .ok [] => return (0, d)
    | .ok block =>
      let (shown, d) := if s.isPlain then (block, d) else steps s d block
      send shown
      copy s name descriptor fuel d

/-- The content that an open file leads to is where the output goes, and there is some of it still
to be read. -/
def feedsItself (m : Machine) (descriptor : Nat) : Bool :=
  match m.openFile? descriptor, m.openFile? outputDescriptor with
  | some (_, source), some (_, target) =>
    let length := (m.contentOf source.stream).length
    let position := if target.appends then length else target.offset
    let isKept := match source.stream with
      | .file _ | .nameless _ => true
      | _ => false
    isKept && source.stream = target.stream && source.offset < position
  | _, _ => false

/-- Show a file, or what there is to read. -/
def showFile (s : Style) (name : Bytes) (d : Display) : ToolM (Nat × Display) := do
  let isInput := name = bytes "-"
  let opened ← if isInput then
      if ← call (Task.look fun m => (m.openFile? 0).isSome) then pure (.ok 0)
      else pure (.error .badDescriptor)
    else openToRead ⟨name⟩
  match opened with
  | .error e =>
    complainAbout (shellQuoted name) e
    return (1, d)
  | .ok descriptor =>
    let (status, d) ←
      if ← call (Task.look fun m => feedsItself m descriptor) then do
        complain (shellQuoted name ++ bytes ": input file is output file")
        pure (1, d)
      else copy s name descriptor Task.patience d
    if !isInput then close descriptor
    return (status, d)

/-- Show files one after the other. -/
def showFiles (s : Style) : List Bytes → Display → ToolM (Nat × Display)
  | [], d => return (0, d)
  | name :: names, d => do
    let (first, d) ← showFile s name d
    let (rest, d) ← showFiles s names d
    return (max first rest, d)

/-- The options. -/
def options : OptionTable where
  letters := "benstuvAET".toList.map (·, .nothing)
  names := [("number-nonblank", .nothing, "b"), ("number", .nothing, "n"),
    ("squeeze-blank", .nothing, "s"), ("show-nonprinting", .nothing, "v"),
    ("show-ends", .nothing, "E"), ("show-tabs", .nothing, "T"), ("show-all", .nothing, "A"),
    ("help", .nothing, "help"), ("version", .nothing, "version")]

/-- One more option. -/
def Style.option (s : Style) : String → Style
  | "b" => { s with numbers := true, skipsBlank := true }
  | "e" => { s with ends := true, hidden := true }
  | "n" => { s with numbers := true }
  | "s" => { s with squeezes := true }
  | "t" => { s with tabs := true, hidden := true }
  | "v" => { s with hidden := true }
  | "A" => { s with hidden := true, ends := true, tabs := true }
  | "E" => { s with ends := true }
  | "T" => { s with tabs := true }
  | _ => s

end Cat

/-- The tool that writes files one after the other. -/
def cat : Tool Cat.Style where
  options := Cat.options
  initial := {}
  option s key _ := pure (s.option key)
  work s operands := do
    if (← call (Task.look fun m => m.openFile? outputDescriptor)).isNone then
      stop (bytes "standard output: " ++ bytes SystemError.badDescriptor.words)
    let names := if operands.isEmpty then [bytes "-"] else operands
    let (status, d) ← Cat.showFiles s names {}
    if d.holdsReturn then Cat.send [0x0D]
    let isClosed ← call (Task.look fun m => (m.openFile? 0).isNone)
    if names.contains (bytes "-") ∧ isClosed then
      stop (bytes "closing standard input: " ++ bytes SystemError.badDescriptor.words)
    return status

end Tools

end GoldenCheck

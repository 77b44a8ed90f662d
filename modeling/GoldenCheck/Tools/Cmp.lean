import GoldenCheck.Tools.Basic
import GoldenCheck.Tools.Count

/-!
# `cmp`

`cmp` compares two files byte by byte, block after block. It tells where they first differ, or all
places where they do, or only by its status whether they do (`Cmp.Mode`).
-/

namespace GoldenCheck

namespace Tools

namespace Cmp

/-- What is told. -/
inductive Mode where
  /-- The first place where the files differ. -/
  | first
  /-- All places. -/
  | all
  /-- Nothing but the status. -/
  | status
  /-- Only what is told where complaints go, since nobody sees the rest. -/
  | unseen
  deriving DecidableEq, Repr

/-- How files are compared. -/
structure Style where
  /-- Bytes are also shown as characters. -/
  showsBytes : Bool := false
  /-- How many bytes of the two files are skipped. -/
  skips : Nat × Nat := (0, 0)
  /-- How many bytes are compared at most. -/
  limit : Option Nat := none
  /-- What is told. -/
  mode : Option Mode := none
  deriving DecidableEq, Repr

/-- Tell in some way; two ways are too many. -/
def Style.telling (s : Style) (mode : Mode) : ToolM Style := do
  if s.mode.isSome ∧ s.mode ≠ some mode then
    misused (bytes "options -l and -s are incompatible")
  return { s with mode := some mode }

/-- Skip at least so many bytes of the files. -/
def Style.skipping (s : Style) (first second : Nat) : Style :=
  { s with skips := (max s.skips.1 first, max s.skips.2 second) }

/-- How many bytes to skip, and what follows the number. A colon may. -/
def readSkip (mayGoOn : Bool) (text : Bytes) : ToolM (Nat × Bytes) := do
  let refuse : ToolM (Nat × Bytes) :=
    misused (bytes "invalid --ignore-initial value '" ++ text ++ bytes "'")
  match Count.read? text with
  | some (.ofNat n, []) => return (n, [])
  | some (.ofNat n, b :: rest) => if mayGoOn ∧ b = 0x3A then return (n, b :: rest) else refuse
  | _ => refuse

/-- One more option. -/
def Style.option (s : Style) (key : String) (argument : Bytes) : ToolM Style :=
  match key with
  | "b" | "c" => return { s with showsBytes := true }
  | "i" => do
    match ← readSkip true argument with
    | (n, _ :: rest) => do
      let (k, _) ← readSkip false rest
      return s.skipping n k
    | (n, []) =>
      let s := s.skipping n 0
      return s.skipping 0 s.skips.1
  | "l" => s.telling .all
  | "s" => s.telling .status
  | "n" => do
    match Count.read? argument with
    | some (.ofNat n, []) => return { s with limit := some (min n (s.limit.getD n)) }
    | _ => misused (bytes "invalid --bytes value '" ++ argument ++ bytes "'")
  | "v" => Tool.describe
  | _ => return s

/-- The options. -/
def options : OptionTable where
  letters := [('b', .nothing), ('c', .nothing), ('i', .argument), ('l', .nothing),
    ('n', .argument), ('s', .nothing), ('v', .nothing)]
  names := [("print-bytes", .nothing, "b"), ("print-chars", .nothing, "c"),
    ("ignore-initial", .argument, "i"), ("verbose", .nothing, "l"), ("bytes", .argument, "n"),
    ("silent", .nothing, "s"), ("quiet", .nothing, "s"), ("version", .nothing, "v"),
    ("help", .nothing, "help")]

/-! ### The files -/

/-- A file that is compared. -/
structure Side where
  /-- Its name. -/
  name : Bytes
  /-- Its descriptor. -/
  descriptor : Nat
  /-- Where its bytes are. -/
  stream : Stream
  /-- The directory, if it is one. -/
  directory : Option Location := none
  /-- Its position after the bytes that are skipped, if it has positions. -/
  position : Option Nat
  /-- How many bytes come after the position, if that is known. -/
  size : Option Nat

/-- Move the position of an open file. -/
def seek (m : Machine) (descriptor : Nat) (step : Nat) : Machine :=
  match m.openFile? descriptor with
  | some (n, f) =>
    { m with files := Numbered.set m.files n { f with offset := f.offset + step } }
  | none => m

/-- Look at a file that is open, and skip bytes of it. -/
def examine (name : Bytes) (descriptor skip : Nat) : ToolM (Option Side) := call (Task.act fun m =>
  match m.openFile? descriptor with
  | none => (none, m)
  | some (_, f) =>
    let directory := match f.stream, m.places.lookup ⟨name⟩ with
      | .directory, .ok (l, _) => some l
      | _, _ => none
    let side : Side := ⟨name, descriptor, f.stream, directory, none, none⟩
    match f.stream with
    | .pipe _ => (some side, m)
    | .file _ | .nameless _ =>
      let position := f.offset + skip
      let size := (m.contentOf f.stream).length - position
      (some { side with position := some position, size := some size }, seek m descriptor skip)
    | _ => (some { side with position := some (f.offset + skip) }, m))

/-- Open a file. -/
def openSide (s : Style) (name : Bytes) (skip : Nat) : ToolM Side := do
  let opened ← if name = bytes "-" then pure (.ok 0) else openToRead ⟨name⟩
  match opened with
  | .error e =>
    if s.mode = some .status then quit 2
    else stop (name ++ bytes (": " ++ e.words))
  | .ok descriptor =>
    match ← examine name descriptor skip with
    | some side => return side
    | none => stop (name ++ bytes (": " ++ SystemError.badDescriptor.words))

/-- How many bytes are read at a time. -/
def blockSize : Nat := 4096

/-- Why a file cannot be read, if it cannot. -/
def fault? (m : Machine) (descriptor : Nat) : Option SystemError :=
  match m.openFile? descriptor with
  | some (_, f) =>
    if !f.reads then some .badDescriptor
    else if f.stream = .directory then some .isADirectory
    else none
  | none => some .badDescriptor

/-- Read so many bytes, or fewer at the end. -/
def readBlock (side : Side) (count : Nat) : ToolM Bytes := do
  match ← call (Task.look fun m => fault? m side.descriptor) with
  | some e => stop (side.name ++ bytes (": " ++ e.words))
  | none => go count [] (count + 1)
where
  /-- Go on when parts were read, the last one first. -/
  go (count : Nat) (parts : List Bytes) : Nat → ToolM Bytes
    | 0 => return parts.reverse.flatten
    | fuel + 1 => do
      if count = 0 then return parts.reverse.flatten
      match ← call (Task.read side.descriptor count) with
      | .error e => stop (side.name ++ bytes (": " ++ e.words))
      | .ok [] => return parts.reverse.flatten
      | .ok part => go (count - part.length) (part :: parts) fuel

/-- Skip bytes of a file that has no positions. -/
def discard (side : Side) (count : Nat) : ToolM Unit := do
  if side.position.isNone then
    let _ ← readBlock side count

/-! ### What is told -/

/-- A text on the right of so many columns. -/
def padLeft (width : Nat) (text : String) : String :=
  String.ofList (List.replicate (width - text.length) ' ') ++ text

/-- A text on the left of so many columns. -/
def padRight (width : Nat) (text : String) : String :=
  text ++ String.ofList (List.replicate (width - text.length) ' ')

/-- A byte in base 8. -/
def octal (b : UInt8) : String := padLeft 3 (String.ofList (Nat.toDigits 8 b.toNat))

/-- A byte as a character that can be seen. -/
def character (b : UInt8) : String :=
  let n := b.toNat
  let (start, n) := if n < 128 then ("", n) else ("M-", n - 128)
  let shown (n : Nat) : String := String.ofList [Char.ofNat n]
  if n < 32 then start ++ "^" ++ shown (n + 64)
  else if n = 127 then start ++ "^?"
  else start ++ shown n

/-- A comparison at work. -/
structure Place where
  /-- The number of the next byte. -/
  byte : Nat := 1
  /-- The number of its line. -/
  line : Nat := 1
  /-- The byte is the first of its line. -/
  startsLine : Bool := true
  /-- The files differ somewhere before. -/
  hasDiffered : Bool := false

/-- Go on past bytes that are equal. -/
def Place.past (p : Place) (equal : Bytes) : Place :=
  match equal.getLast? with
  | none => p
  | some last =>
    { p with
      byte := p.byte + equal.length, line := p.line + equal.count 0x0A
      startsLine := last = 0x0A }

/-- Bytes that two contents begin with, and the rests. -/
def common : Bytes → Bytes → Bytes → Bytes × Bytes × Bytes
  | equal, a :: as, b :: bs =>
    if a = b then common (a :: equal) as bs else (equal.reverse, a :: as, b :: bs)
  | equal, as, bs => (equal.reverse, as, bs)

/-- Tell the first place where the files differ. -/
def tellFirst (s : Style) (names : Bytes × Bytes) (p : Place) (a b : UInt8) : ToolM Unit :=
  let place := " differ: byte " ++ toString p.byte ++ ", line " ++ toString p.line
  let shown :=
    if s.showsBytes then
      " is " ++ octal a ++ " " ++ character a ++ " " ++ octal b ++ " " ++ character b
    else ""
  put (names.1 ++ bytes " " ++ names.2 ++ bytes (place ++ shown ++ "\n"))

/-- Tell all places in a block where the files differ. -/
def tellAll (s : Style) (width : Nat) (p : Place) (as bs : Bytes) : ToolM Unit :=
  ((as.zip bs).zipIdx p.byte).forM fun ((a, b), k) =>
    if a = b then pure ()
    else
      let place := padLeft width (toString k) ++ " " ++ octal a ++ " "
      if s.showsBytes then
        putText (place ++ padRight 4 (character a) ++ " " ++ octal b ++ " " ++ character b ++ "\n")
      else putText (place ++ octal b ++ "\n")

/-- Tell that one of the files is the beginning of the other. -/
def tellEnd (mode : Mode) (shorter : Bytes) (p : Place) : ToolM Unit :=
  let count := p.byte - 1
  let place :=
    if count = 0 then " which is empty"
    else if mode ≠ .first then " after byte " ++ toString count
    else if p.startsLine then " after byte " ++ toString count ++ ", line " ++ toString (p.line - 1)
    else " after byte " ++ toString count ++ ", in line " ++ toString p.line
  warnAhead (bytes "cmp: EOF on " ++ shorter ++ bytes (place ++ "\n"))

/-- Compare block after block; the status. -/
def blocks (s : Style) (mode : Mode) (width : Nat) (x y : Side) (remaining : Option Nat)
    (p : Place) : Nat → ToolM Nat
  | 0 => return 0
  | fuel + 1 => do
    let count := min blockSize (remaining.getD blockSize)
    let a ← readBlock x count
    let b ← readBlock y count
    let (equal, as, bs) := common [] a b
    let p := p.past equal
    let isShort := a.length ≠ b.length
    let goOn (p : Place) : ToolM Nat := do
      if isShort then
        if !(p.hasDiffered ∧ mode = .unseen) ∧ mode ≠ .status then
          tellEnd mode (if b.length < a.length then y.name else x.name) p
        return 1
      else if p.hasDiffered ∧ mode = .unseen then return 1
      else if a.length = blockSize then
        blocks s mode width x y (remaining.map (· - count)) p fuel
      else return if p.hasDiffered then 1 else 0
    match as, bs, mode with
    | c :: _, d :: _, .first => do
      tellFirst s (x.name, y.name) p c d
      return 1
    | _ :: _, _ :: _, .status => return 1
    | _ :: _, _ :: _, .unseen => goOn { p with hasDiffered := true }
    | _ :: _, _ :: _, .all => do
      tellAll s width p as bs
      goOn { p with hasDiffered := true, byte := p.byte + min as.length bs.length }
    | _, _, _ => goOn p

/-- The files are one, at one position. -/
def isSame (x y : Side) : Bool :=
  x.stream = y.stream && x.directory = y.directory && x.position = y.position

/-- Compare two files that are open; the status. -/
def compareSides (s : Style) (x y : Side) : ToolM Nat := do
  if isSame x y then return 0
  let output ← call (Task.look fun m => m.openFile? outputDescriptor)
  let isUnseen : Bool := match output with
    | some (_, { stream := .device .null, .. }) => true
    | _ => false
  let mode := s.mode.getD .first
  let mode := if mode ≠ .status ∧ isUnseen then Mode.unseen else mode
  if let (.status, some a, some b) := (mode, x.size, y.size) then
    if a ≠ b ∧ s.limit.all (min a b < ·) then return 1
  discard x s.skips.1
  discard y s.skips.2
  let most := [x.size, y.size, s.limit].filterMap id |>.min?
  let width := (toString (most.getD 9223372036854775807)).length
  let status ← blocks s mode width x y s.limit {} Task.patience
  if x.descriptor = y.descriptor then
    stop (y.name ++ bytes (": " ++ SystemError.badDescriptor.words))
  return status

end Cmp

/-- The tool that compares two files byte by byte. -/
def cmp : Tool Cmp.Style where
  options := Cmp.options
  failure := 2
  signsHint := true
  onLoss := "standard output"
  onEarlyLoss := some "write failed"
  fillsUsual := true
  initial := {}
  option s key argument := s.option key (argument.getD [])
  work s operands := do
    match operands with
    | [] => misused (bytes "missing operand after '" ++ (← read).last ++ bytes "'")
    | a :: more =>
      let b := more.head?.getD (bytes "-")
      let s ← ((more.drop 1).zipIdx.take 2).foldlM (fun (s : Cmp.Style) (text, k) => do
        let (n, _) ← Cmp.readSkip false text
        return if k = 0 then s.skipping n 0 else s.skipping 0 n) s
      if let extra :: _ := more.drop 3 then
        misused (bytes "extra operand '" ++ extra ++ bytes "'")
      let isSameName := a = b && s.skips.1 = s.skips.2
      if b = bytes "-" then
        let y ← Cmp.openSide s b s.skips.2
        if isSameName then return 0
        Cmp.compareSides s (← Cmp.openSide s a s.skips.1) y
      else
        let x ← Cmp.openSide s a s.skips.1
        if isSameName then return 0
        Cmp.compareSides s x (← Cmp.openSide s b s.skips.2)

end Tools

end GoldenCheck

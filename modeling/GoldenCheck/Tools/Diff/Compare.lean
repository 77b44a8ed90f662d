import GoldenCheck.Shell.Pattern
import GoldenCheck.Time.Calendar
import GoldenCheck.Tools.Diff.Columns
import GoldenCheck.Tools.Diff.Formats
import GoldenCheck.Tools.Diff.Merged

/-!
# Comparing files and directories

Two files are read and their changes written (`compareContents`). Of two directories the files of
one name are compared (`compareNames`), and directories inside them if that is wanted. A file may be
missing in one of them; then it counts as empty or is told.
-/

namespace GoldenCheck

namespace Tools

namespace Diff

/-! ### Two contents -/

/-- Some byte of a name has to be written in another way. -/
def escapedName? (b : UInt8) : Option Bytes :=
  match ([(7, "a"), (8, "b"), (9, "t"), (10, "n"), (11, "v"), (12, "f"), (13, "r"), (0x22, "\""),
      (0x5C, "\\")] : List (UInt8 × String)).lookup b with
  | some letter => some (bytes ("\\" ++ letter))
  | none =>
    let n := b.toNat
    if b < 32 ∨ 128 ≤ b then
      some [0x5C, UInt8.ofNat (48 + n / 64), UInt8.ofNat (48 + n / 8 % 8), UInt8.ofNat (48 + n % 8)]
    else none

/-- A name above changes: in quotes if it has blanks or bytes that cannot be written there. -/
def shownName (name : Bytes) : Bytes :=
  if name.any fun b => b = 0x20 || (escapedName? b).isSome then
    [0x22] ++ name.flatMap (fun b => (escapedName? b).getD [b]) ++ [0x22]
  else name

/-- The names of two files. -/
structure Names where
  /-- The first file. -/
  first : Bytes
  /-- The second file. -/
  second : Bytes

/-- What is written instead of names, if anything. -/
def Names.labelled (n : Names) (s : Style) : Names :=
  ⟨s.labels.head?.getD n.first, (s.labels[1]?).getD n.second⟩

/-- When two files were changed, in nanoseconds since 1970. -/
structure Times where
  /-- The first file. -/
  first : Int
  /-- The second file. -/
  second : Int

/-- The style with the colors that are used in it. -/
def colored (s : Style) : ToolM Style := do
  let isPlain := (← read).bindings.contains (bytes "TERM", bytes "dumb")
  let paints := match s.coloring with
    | .never => false
    | .terminal => s.isTerminal && !isPlain
    | .always => true
  if !paints then return s
  match ({} : Palette).read s.colors with
  | .ok p => return { s with palette := some p }
  | .error key =>
    if let some key := key then complain (bytes "unrecognized prefix: " ++ key)
    complain (bytes "unparsable value for --palette")
    return s

/-- The lines above the changes of two files. -/
def heading (s : Style) (n : Names) (t : Times) (isInside : Bool) : ToolM Unit := do
  let shown := n.labelled s
  let first := shownName shown.first
  let second := shownName shown.second
  if isInside then
    let words := (← read).words.flatMap fun w => 0x20 :: shellQuoted w
    put (bytes "diff" ++ words ++ [0x20] ++ first ++ [0x20] ++ second ++ [0x0A])
  let line (mark : String) (label : Option Bytes) (name : Bytes) (time : Int) : Bytes :=
    let shown := label.getD (name ++ bytes ("\t" ++ timeText time))
    s.painted .names (bytes (mark ++ " ") ++ shown) ++ [0x0A]
  let lines (before after : String) : Bytes :=
    line before s.labels.head? first t.first ++ line after s.labels[1]? second t.second
  match s.shape with
  | .context => put (lines "***" "---")
  | .unified => put (lines "---" "+++")
  | _ => pure ()

/-- The changes of two files as the format writes them. -/
def script (s : Style) (f : Sides) (changes : List Change) : Bytes :=
  let single := singleHunks s f changes
  let joined := joinedHunks s f changes
  let places := if s.headings.isEmpty then joined.map fun _ => none else headings s f 0 none joined
  let each (write : Option Nat → Hunk → Bytes) : Bytes :=
    (joined.zip places).flatMap fun (h, place) => write place h
  match s.shape with
  | .normal => single.flatMap (normal s f)
  | .context => each (context s f)
  | .unified => each (unified s f)
  | .editor => single.reverse.flatMap (editor s f)
  | .forward => single.flatMap (forward s f)
  | .counted => single.flatMap (counted s f)
  | .columns => columnsText s f single
  | .merged => mergedText s f single

/-- Tell something about both files. -/
def tellBoth (s : Style) (n : Names) (before after : String) : ToolM Unit := do
  let shown := n.labelled s
  let start := if s.countsParts then " " else ""
  put (bytes (start ++ before) ++ shown.first ++ bytes " and " ++ shown.second
    ++ bytes (after ++ "\n"))

/-- Tell that files differ; the status. -/
def tellDifferent (s : Style) (n : Names) (differ : Bool) : ToolM Nat := do
  if !differ then return 0
  tellBoth s n (if s.isBrief then "Files " else "Binary files ") " differ"
  return 1

/-- How much of a file is looked at to tell whether it is a text. -/
def probeLength : Nat := 4096

/-- The lines of a file as they are compared. -/
def preparedLines (s : Style) (content : Bytes) : List Line :=
  let lines := linesOf content
  let lines := if s.dropsReturns then lines.map Line.withoutReturn else lines
  if s.countsLast then lines else lines.map fun l => { l with isWhole := true }

/-- The last line has no line feed. -/
def lacksEnd (content : Bytes) : Bool := content.getLast?.any (· ≠ 0x0A)

/-- Compare two contents and write the changes; the status. -/
def compareContents (s : Style) (n : Names) (t : Times) (isInside : Bool) (a b : Bytes) :
    ToolM Nat := do
  let isBinary := !s.isText && (a.take probeLength ++ b.take probeLength).contains 0
  if s.comparesBytes ∨ isBinary then tellDifferent s n (a ≠ b)
  else
    let first := preparedLines s a
    let second := preparedLines s b
    let f : Sides := ⟨first.toArray, second.toArray⟩
    let found := changes s.rule s.isMinimal (max s.horizon s.around) first second
    let differ := found.any (!isTrivial s f ·)
    let status ← if s.isBrief then tellDifferent s n differ
      else do
        if differ ∨ !s.isSilent then
          if !(script s f found).isEmpty ∨ s.shape = .columns then
            let s ← colored s
            heading s n t isInside
            put (script s f found)
        pure (if differ then 1 else 0)
    if s.countsLast then return status
    let shown := n.labelled s
    let incomplete := [(shown.first, a), (shown.second, b)].filter fun (_, content) =>
      lacksEnd content
    for (name, _) in incomplete do
      complain (name ++ bytes ": No newline at end of file\n")
    return if incomplete.isEmpty then status else 2

/-! ### Files -/

/-- The kinds of files. -/
inductive FileKind where
  /-- A directory. -/
  | directory
  /-- A file. -/
  | regular
  /-- A file without content. -/
  | regularEmpty
  /-- A device. -/
  | device
  /-- A pipe. -/
  | pipe
  deriving DecidableEq, Repr

/-- The kind in words. -/
def FileKind.words : FileKind → String
  | .directory => "directory"
  | .regular => "regular file"
  | .regularEmpty => "regular empty file"
  | .device => "character special file"
  | .pipe => "fifo"

/-- What is known of a file. -/
structure Status where
  /-- What it is. -/
  kind : FileKind
  /-- What it is one with. -/
  identity : Location ⊕ Stream
  /-- When it was changed. -/
  time : Int

/-- What there is in place of a file. -/
inductive Presence where
  /-- It is there. -/
  | there (status : Status)
  /-- It counts as empty. -/
  | empty
  /-- It cannot be looked at. -/
  | failed (cause : SystemError)

/-- When a file was changed. One that counts as empty has the earliest time. -/
def Presence.time : Presence → Int
  | .there status => status.time
  | _ => 0

/-- The status of an open file. -/
def openStatus (m : Machine) (f : OpenFile) : Status :=
  let kind := match f.stream with
    | .device _ => FileKind.device
    | .pipe _ => .pipe
    | .directory => .directory
    | stream => if m.sizeOf stream ≤ f.offset then .regularEmpty else .regular
  let (identity, time) := match f.stream with
    | .file l => (.inl l, m.timeOf l)
    | stream => (.inr stream, m.exactNow)
  ⟨kind, identity, time⟩

/-- The status of a file by its name. -/
def statusOf (m : Machine) (name : Bytes) : Except SystemError Status :=
  let descriptor := if name = bytes "-" then some 0 else Machine.descriptorOf? ⟨name⟩
  match descriptor with
  | some descriptor =>
    match m.openFile? descriptor with
    | some (_, f) =>
      let status := openStatus m f
      .ok (if name = bytes "-" then { status with time := m.exactNow } else status)
    | none => .error (if name = bytes "-" then .badDescriptor else .notFound)
  | none => do
    let (l, e) ← m.world.lookup ⟨name⟩
    let kind := match e with
      | .directory => FileKind.directory
      | .file [] => .regularEmpty
      | .file _ | .program _ => .regular
      | .device _ => .device
    return ⟨kind, .inl l, m.timeOf l⟩

/-- Look at a file. -/
def presence (name : Bytes) : ToolM Presence := do
  match ← call (Task.look fun m => statusOf m name) with
  | .ok status => return .there status
  | .error e => return .failed e

/-- Read a file, or complain. -/
def readFile (name : Bytes) : ToolM (Option Bytes) := do
  let opened ← if name = bytes "-" then pure (.ok 0) else openToRead ⟨name⟩
  match opened with
  | .error e => do
    complainAbout name e
    return none
  | .ok descriptor =>
    let content ← call (Task.readAll descriptor)
    if descriptor ≠ 0 then close descriptor
    match content with
    | .ok content => return some content
    | .error e => do
      complainAbout name e
      return none

/-- The path of a name in a directory. Slashes at the end of the directory become one. -/
def nameIn (directory name : Bytes) : Bytes :=
  let body := directory.reverse.dropWhile (· = Path.slash) |>.reverse
  if body.isEmpty then directory ++ name else body ++ Path.slash :: name

/-- The last segment of a path, with slashes after it. -/
def lastSegment (name : Bytes) : Bytes :=
  let (slashes, rest) := name.reverse.span (· = Path.slash)
  (slashes ++ rest.takeWhile (· ≠ Path.slash)).reverse

/-- Read both files and compare them; the status. -/
def compareFiles (s : Style) (n : Names) (isInside isSame : Bool) (a b : Presence) :
    ToolM Nat := do
  let content (p : Presence) (name : Bytes) : ToolM (Option Bytes) :=
    match p with
    | .empty => return some []
    | _ => readFile name
  let first ← content a n.first
  let second ← if isSame then pure first else content b n.second
  match first, second with
  | some x, some y => compareContents s n ⟨a.time, b.time⟩ isInside x y
  | _, _ => return 2

/-- What names of files are ordered by. -/
def Style.nameKey (s : Style) (name : Bytes) : Bytes := if s.foldsNames then name.map lower else name

/-- The names in a directory that are not left out, in order. -/
def namesIn (s : Style) (name : Bytes) : ToolM (List Bytes) := do
  let isOut (entry : Bytes) : Bool := s.excluded.any fun pattern =>
    Shell.Pattern.fits (Shell.ofBytes (s.nameKey pattern)) (Shell.ofBytes (s.nameKey entry))
  call (Task.look fun m =>
    match m.world.lookup ⟨name⟩ with
    | .ok (l, .directory) =>
      ((m.world.tree.names l).filter fun entry => !isOut entry).mergeSort fun a b =>
        compare (s.nameKey a) (s.nameKey b) != .gt
    | _ => [])

/-- Put the names of two directories side by side, both in order. Where some of them are alike but
for upper and lower case, a name goes with the very same name if there is one. -/
def pairNames (s : Style) : Nat → List Bytes → List Bytes → List (Option Bytes × Option Bytes)
  | 0, _, _ => []
  | fuel + 1, as, bs =>
    match as, bs with
    | [], [] => []
    | a :: as, [] => (some a, none) :: pairNames s fuel as []
    | [], b :: bs => (none, some b) :: pairNames s fuel [] bs
    | a :: as, b :: bs =>
      match compare (s.nameKey a) (s.nameKey b) with
      | .lt => (some a, none) :: pairNames s fuel as (b :: bs)
      | .gt => (none, some b) :: pairNames s fuel (a :: as) bs
      | .eq =>
        if as.contains b then (some b, some b) :: pairNames s fuel (a :: as.erase b) bs
        else if bs.contains a then (some a, some a) :: pairNames s fuel as (b :: bs.erase a)
        else (some a, some b) :: pairNames s fuel as bs

/-- The path of the file of a directory that goes with a name. -/
def counterpart (s : Style) (directory name : Bytes) : ToolM Bytes := do
  if !s.foldsNames then return nameIn directory name
  let alike := (← namesIn s directory).filter fun entry => s.nameKey entry = s.nameKey name
  return nameIn directory (if alike.contains name then name else alike.head?.getD name)

/-- Compare two names, one of which may be missing in a directory; the status. -/
def compareNames (s : Style) (parent : Option Names) :
    Nat → Option Bytes → Option Bytes → ToolM Nat
  | 0, _, _ => return 2
  | fuel + 1, a, b => do
    let only (inFirst : Bool) (name : Bytes) : ToolM Nat := do
      let directory := match parent with
        | some p => if inFirst then p.first else p.second
        | none => []
      let start := if s.countsParts then " " else ""
      put (bytes (start ++ "Only in ") ++ directory ++ bytes ": " ++ name ++ [0x0A])
      return 1
    let counts := match a, b with
      | some _, some _ => true
      | none, some _ => s.addsFiles || s.addsFirst
      | _, _ => s.addsFiles
    let name := (a <|> b).getD []
    if !counts then return ← only a.isSome name
    let n : Names := match parent with
      | some p => ⟨nameIn p.first (a.getD name), nameIn p.second (b.getD name)⟩
      | none => ⟨a.getD name, b.getD name⟩
    let x ← if a.isSome then presence n.first else pure .empty
    let y ← if b.isNone then pure .empty
      else if a.isSome ∧ n.first = n.second then pure x else presence n.second
    let isTop := parent.isNone
    let isMissing (p : Presence) : Bool := match p with
      | .failed e => e = .notFound || e = .badDescriptor
      | _ => false
    let isThere (p : Presence) : Bool := match p with
      | .there _ => true
      | _ => false
    let x' := if s.addsFiles || s.addsFirst then
        (if isTop ∧ isMissing x ∧ isThere y then .empty else x) else x
    let y' := if s.addsFiles ∧ isTop ∧ isMissing y ∧ isThere x then .empty else y
    let mut isBarred := false
    for (p, name) in [(x', n.first), (y', n.second)] do
      if let .failed e := p then
        complainAbout name e
        isBarred := true
    if isBarred then return 2
    let kindOf (p other : Presence) : FileKind := match p, other with
      | .there status, _ | _, .there status => status.kind
      | _, _ => .regular
    let kindX := kindOf x' y'
    let kindY := kindOf y' x'
    if isTop ∧ (kindX = .directory) ≠ (kindY = .directory) then
      let (file, directory) := if kindX = .directory then (n.second, n.first)
        else (n.first, n.second)
      if file = bytes "-" then stop (bytes "cannot compare '-' to a directory")
      let inside ← counterpart s directory (lastSegment file)
      match ← presence inside with
      | .there status =>
        if kindX = .directory then
          settle fuel { n with first := inside } (.there status) y' status.kind kindY
        else settle fuel { n with second := inside } x' (.there status) kindX status.kind
      | .failed e => do
        complainAbout inside e
        return 2
      | .empty => return 2
    else settle fuel n x' y' kindX kindY
where
  /-- Compare what is there. -/
  settle (fuel : Nat) (n : Names) (x y : Presence) (kindX kindY : FileKind) : ToolM Nat := do
    let isSame : Bool := match x, y with
      | .there a, .there b => a.identity = b.identity
      | _, _ => false
    let isRegular (k : FileKind) : Bool := k = .regular || k = .regularEmpty
    let isAbsent (p : Presence) : Bool := match p with
      | .empty => true
      | _ => false
    let areDirectories := kindX = .directory && kindY = .directory
    let descend : ToolM Nat := do
      let inside (p : Presence) (name : Bytes) : ToolM (List Bytes) :=
        if isAbsent p then return [] else namesIn s name
      let skip (names : List Bytes) : List Bytes := match parent, s.firstName with
        | none, some first => names.dropWhile fun name => compare (s.nameKey name) (s.nameKey first) == .lt
        | _, _ => names
      let as := skip (← inside x n.first)
      let bs := skip (← inside y n.second)
      let pairs := pairNames s (as.length + bs.length) as bs
      forEach pairs fun (a, b) => compareNames s (some n) fuel a b
    let status ←
      if isSame ∧ s.isSilent then pure 0
      else if areDirectories then
        if s.shape = .merged then stop (bytes "-D option not supported with directories")
        else if parent.isSome ∧ !s.isDeep then do
          put (bytes "Common subdirectories: " ++ n.first ++ bytes " and " ++ n.second ++ [0x0A])
          pure 0
        else descend
      else if isAbsent x ∧ isAbsent y then pure 0
      else if kindX = .directory ∨ kindY = .directory
          ∨ (parent.isSome ∧ !(isRegular kindX ∧ isRegular kindY)) then
        if isAbsent x ∨ isAbsent y then
          let directory := match parent with
            | some p => if isAbsent x then p.second else p.first
            | none => []
          put (bytes "Only in " ++ directory ++ bytes ": " ++ lastSegment n.first ++ [0x0A])
          pure 1
        else do
          let shown := n.labelled s
          put (bytes "File " ++ shown.first ++ bytes (" is a " ++ kindX.words ++ " while file ")
            ++ shown.second ++ bytes (" is a " ++ kindY.words ++ "\n"))
          pure 1
      else compareFiles s n parent.isSome isSame x y
    if status = 0 then
      if s.tellsIdentical ∧ kindX ≠ .directory then tellBoth s n "Files " " are identical"
    else do
      flush
      if (← get).lost.isSome then quit 2
    return status

/-- How deep directories can lie inside one another. -/
def depthLimit : Nat := 5000

/-- Compare what the operands name; the status. -/
def compareOperands (s : Style) (operands : List Bytes) : ToolM Nat := do
  let pair (a b : Bytes) : ToolM Nat := compareNames s none depthLimit (some a) (some b)
  match s.sourceFile, s.targetFile with
  | some _, some _ => stop (bytes "--from-file and --to-file both specified")
  | some source, none => forEach operands fun b => pair source b
  | none, some target => forEach operands fun a => pair a target
  | none, none =>
    match operands with
    | [a, b] => pair a b
    | _ :: _ :: extra :: _ => misused (bytes "extra operand '" ++ extra ++ bytes "'")
    | _ => misused (bytes "missing operand after '" ++ (← read).last ++ bytes "'")

end Diff

/-- The tool that compares files line by line. -/
def diff : Tool Diff.Style where
  options := Diff.Style.options
  failure := 2
  signsHint := true
  onLoss := "standard output"
  fillsUsual := true
  initial := {}
  option := Diff.Style.option
  work := Diff.compareOperands

end Tools

end GoldenCheck

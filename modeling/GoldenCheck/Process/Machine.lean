import GoldenCheck.Files.World
import GoldenCheck.Program.Basic

/-!
# The machine that processes run on

Processes share files, pipes and a clock (`Machine`). Each has its own current directory, its own
provisions for signals, and its own descriptors: numbers for files that are open. A file that is
open has a position (`OpenFile`), which all descriptors that lead to it share. A file that is
removed while it is open goes on without a name.

What was written to the end of a file lately is kept apart from the rest of it (`Tail`), and what
lies ahead where a file was read last is kept too, so that neither takes longer the longer the file
is. `Machine.tree` is the tree of files with all that was written.

The functions of this module are what one process, the current one, can do at once. Whoever starts
the first process is process 0, and it holds the ends of pipes that it will read.
-/

namespace GoldenCheck

/-- Things that are known by numbers. -/
abbrev Numbered (α : Type) := List (Nat × α)

namespace Numbered

/-- Give a number to a thing, in place of what had it. -/
def set (t : Numbered α) (n : Nat) (a : α) : Numbered α := (n, a) :: t.filter (·.1 ≠ n)

/-- Take the thing of a number away. -/
def erase (t : Numbered α) (n : Nat) : Numbered α := t.filter (·.1 ≠ n)

/-- Change the thing of a number. -/
def update (t : Numbered α) (n : Nat) (f : α → α) : Numbered α :=
  t.map fun e => if e.1 = n then (n, f e.2) else e

end Numbered

/-- Where the bytes of an open file are. -/
inductive Stream where
  /-- A device. -/
  | device (kind : Device)
  /-- The file at a location. -/
  | file (l : Location)
  /-- A file that no location leads to. -/
  | nameless (k : Nat)
  /-- A directory. -/
  | directory
  /-- A pipe. -/
  | pipe (k : Nat)
  deriving DecidableEq, Repr

/-- A file that is open. -/
structure OpenFile where
  /-- Where its bytes are. -/
  stream : Stream
  /-- It can be read. -/
  reads : Bool
  /-- It can be written. -/
  writes : Bool
  /-- What is written goes to the end. -/
  appends : Bool := false
  /-- The position of the next byte. -/
  offset : Nat := 0
  deriving DecidableEq, Repr

/-- Bytes on their way from one process to another. -/
structure Pipe where
  /-- The bytes, the oldest first. -/
  content : Bytes
  /-- How many there can be. -/
  room : Option Nat
  deriving DecidableEq, Repr

/-- What was written to the end of a stream lately. -/
structure Tail where
  /-- How long the stream is with it. -/
  size : Nat
  /-- The blocks that were written, the last one first. -/
  blocks : List Bytes
  /-- When the last one was written. -/
  time : Int
  deriving DecidableEq, Repr

/-- The bytes of a tail. -/
def Tail.content (t : Tail) : Bytes := t.blocks.reverse.flatten

/-- The provision of a process for a signal, if it has made one. -/
inductive Provision where
  /-- The signal does nothing. -/
  | ignored
  /-- The signal is noted. -/
  | caught
  deriving DecidableEq, Repr

/-- A process. -/
structure Process where
  /-- The process that started it. -/
  parent : Nat
  /-- The open files of its descriptors. -/
  descriptors : Numbered Nat
  /-- Its current directory. -/
  cwd : Location
  /-- Its provisions for signals. -/
  provisions : List (Signal × Provision) := []
  /-- Signals that were noted. -/
  noted : List Signal := []
  /-- A signal makes it wait. -/
  isStopped : Bool := false
  /-- How it ended. -/
  ending : Option ProcessEnd := none
  deriving DecidableEq, Repr

/-- All that processes share, and the processes. -/
structure Machine where
  /-- The files that have names, without what was written to their ends lately. -/
  stored : FileTree
  /-- The files that have none, without what was written to their ends lately. -/
  nameless : Numbered Bytes
  /-- What was written lately. -/
  tails : List (Stream × Tail) := []
  /-- Where streams were read last, and what lies ahead there. -/
  ahead : List (Stream × Nat × Bytes) := []
  /-- The pipes. -/
  pipes : Numbered Pipe
  /-- The open files. -/
  files : Numbered OpenFile
  /-- The processes. -/
  processes : Numbered Process
  /-- The current process. -/
  current : Nat
  /-- The process whose group the processes are in; 0 when they are in a group with others. -/
  leader : Nat
  /-- A number that nothing has yet. -/
  fresh : Nat
  /-- Nanoseconds since the start. -/
  clock : Nat
  /-- When the start was, in nanoseconds since 1970. -/
  start : Int := 0
  deriving DecidableEq, Repr

namespace Machine

/-- The times of files are multiples of so many nanoseconds. -/
def tick : Nat := 4000000

/-- The time now. -/
def exactNow (m : Machine) : Int := m.start + (m.clock : Nat)

/-- The time that a file gets which is changed now. -/
def now (m : Machine) : Int := m.start + (m.clock / tick * tick : Nat)

/-- The current process. -/
def self (m : Machine) : Process := (m.processes.lookup m.current).getD ⟨0, [], [], [], [], false, none⟩

/-- Change the current process. -/
def updateSelf (m : Machine) (f : Process → Process) : Machine :=
  { m with processes := Numbered.update m.processes m.current f }

/-- The tree with what was written to the end of a stream. -/
def addTail (t : FileTree) : Stream × Tail → FileTree
  | (.file l, tail) =>
    (t.insert l (.file ((t.content? l).getD [] ++ tail.content))).setTime l tail.time
  | _ => t

/-- The files that have names. -/
def tree (m : Machine) : FileTree := { m.tails.foldl addTail m.stored with now := m.now }

/-- The files as the current process sees them. -/
def world (m : Machine) : World := ⟨m.tree, m.self.cwd⟩

/-- The files as the current process sees them, but for what they hold. -/
def places (m : Machine) : World := ⟨{ m.stored with now := m.now }, m.self.cwd⟩

/-! ### Contents -/

/-- The bytes of a stream that has positions, without what was written to its end lately. -/
def storedContent (m : Machine) : Stream → Bytes
  | .file l => (m.stored.content? l).getD []
  | .nameless k => (m.nameless.lookup k).getD []
  | _ => []

/-- All the bytes of a stream that has positions. -/
def contentOf (m : Machine) (stream : Stream) : Bytes :=
  match m.tails.lookup stream with
  | some tail => m.storedContent stream ++ tail.content
  | none => m.storedContent stream

/-- How many bytes a stream that has positions has. -/
def sizeOf (m : Machine) (stream : Stream) : Nat :=
  match m.tails.lookup stream with
  | some tail => tail.size
  | none => (m.storedContent stream).length

/-- When what lies at a location was changed last. -/
def timeOf (m : Machine) (l : Location) : Int :=
  match m.tails.lookup (.file l) with
  | some tail => tail.time
  | none => m.stored.timeOf l

/-- Forget what was kept apart about a stream. -/
def forget (m : Machine) (stream : Stream) : Machine :=
  { m with
    tails := m.tails.filter (·.1 ≠ stream)
    ahead := m.ahead.filter (·.1 ≠ stream) }

/-- Put all the bytes of a stream that has positions in the place of the old ones. -/
def setContent (m : Machine) (content : Bytes) (stream : Stream) : Machine :=
  let m := m.forget stream
  match stream with
  | .file l => { m with stored := { m.stored with now := m.now }.insert l (.file content) }
  | .nameless k => { m with nameless := Numbered.set m.nameless k content }
  | _ => m

/-- Put what was written to the end of a stream with the rest of it. -/
def join (m : Machine) (stream : Stream) : Machine :=
  match m.tails.lookup stream with
  | none => m
  | some tail =>
    let m' := match stream with
      | .nameless k => { m with nameless := Numbered.set m.nameless k (m.contentOf stream) }
      | _ => { m with stored := addTail m.stored (stream, tail) }
    { m' with tails := m.tails.filter (·.1 ≠ stream) }

/-- Write to the end of a stream of some size. -/
def extend (m : Machine) (stream : Stream) (size : Nat) (bytes : Bytes) : Machine :=
  let blocks := ((m.tails.lookup stream).map (·.blocks)).getD []
  let tail : Tail := ⟨size + bytes.length, bytes :: blocks, m.now⟩
  let m := m.forget stream
  { m with tails := (stream, tail) :: m.tails }

/-! ### Open files -/

/-- The open file of a descriptor, and its number. -/
def openFile? (m : Machine) (descriptor : Nat) : Option (Nat × OpenFile) := do
  let n ← m.self.descriptors.lookup descriptor
  return (n, ← m.files.lookup n)

/-- Some process has a descriptor for an open file. -/
def isHeld (m : Machine) (n : Nat) : Bool :=
  m.processes.any fun p => p.2.descriptors.any (·.2 = n)

/-- Forget an open file that no process has a descriptor for. -/
def release (m : Machine) (n : Nat) : Machine :=
  if m.isHeld n then m
  else match m.files.lookup n with
    | none => m
    | some f =>
      let m := { m with files := Numbered.erase m.files n }
      if m.files.any (·.2.stream = f.stream) then m
      else match f.stream with
        | .pipe k => { m with pipes := Numbered.erase m.pipes k }
        | .nameless k => { m with nameless := Numbered.erase m.nameless k }
        | _ => m

/-- Close a descriptor. -/
def close (m : Machine) (descriptor : Nat) : Machine :=
  match m.self.descriptors.lookup descriptor with
  | none => m
  | some n =>
    (m.updateSelf fun p =>
      { p with descriptors := Numbered.erase p.descriptors descriptor }).release n

/-- Let a descriptor lead to an open file, in place of what it led to. -/
def install (m : Machine) (descriptor n : Nat) : Machine :=
  let m' := m.updateSelf fun p =>
    { p with descriptors := Numbered.set p.descriptors descriptor n }
  match m.self.descriptors.lookup descriptor with
  | some old => if old = n then m' else m'.release old
  | none => m'

/-- A new open file. -/
def addFile (m : Machine) (f : OpenFile) : Nat × Machine :=
  (m.fresh, { m with files := Numbered.set m.files m.fresh f, fresh := m.fresh + 1 })

/-- The least descriptor from `least` on that leads nowhere. -/
def freeDescriptor (m : Machine) (least : Nat) : Nat :=
  let taken := m.self.descriptors.map (·.1)
  ((List.range' least (taken.length + 1)).find? (!taken.contains ·)).getD least

/-- Let another descriptor lead where one leads. -/
def duplicate (m : Machine) (source descriptor : Nat) : Except SystemError Machine :=
  match m.self.descriptors.lookup source with
  | some n => .ok (m.install descriptor n)
  | none => .error .badDescriptor

/-- How much a pipe between processes holds. -/
def pipeRoom : Nat := 65536

/-- A new pipe: the numbers of its end for reading and of its end for writing. -/
def addPipe (m : Machine) (room : Option Nat) : (Nat × Nat) × Machine :=
  let k := m.fresh
  let m := { m with pipes := Numbered.set m.pipes k ⟨[], room⟩, fresh := k + 1 }
  let (reading, m) := m.addFile { stream := .pipe k, reads := true, writes := false }
  let (writing, m) := m.addFile { stream := .pipe k, reads := false, writes := true }
  ((reading, writing), m)

/-- How a file is to be opened. -/
structure OpenMode where
  /-- It will be read. -/
  reads : Bool
  /-- It will be written. -/
  writes : Bool
  /-- It is made if it is missing. -/
  creates : Bool := false
  /-- It must be missing. -/
  isNew : Bool := false
  /-- It is emptied. -/
  truncates : Bool := false
  /-- What is written goes to the end. -/
  appends : Bool := false
  deriving DecidableEq, Repr

/-- The descriptor that a path stands for. -/
def descriptorOf? (p : Path) : Option Nat :=
  match p.components with
  | [.root, .name d, .name n] =>
    if d ≠ Utf8.encode "dev" then none
    else ["stdin", "stdout", "stderr"].idxOf? (Utf8.decodeLossy n)
  | [.root, .name d, .name f, .name n] =>
    if d = Utf8.encode "dev" ∧ f = Utf8.encode "fd" then (Utf8.decodeLossy n).toNat? else none
  | [.root, .name d, .name s, .name f, .name n] =>
    if d = Utf8.encode "proc" ∧ s = Utf8.encode "self" ∧ f = Utf8.encode "fd" then
      (Utf8.decodeLossy n).toNat?
    else none
  | _ => none

/-- Open what is at a location again. -/
def openLocation (m : Machine) (l : Location) (mode : OpenMode) :
    Except SystemError (Nat × Machine) :=
  let opened (stream : Stream) (m : Machine) : Except SystemError (Nat × Machine) :=
    .ok (m.addFile
      { stream, reads := mode.reads, writes := mode.writes, appends := mode.appends })
  match m.stored.get? l with
  | none => .error .notFound
  | some .directory => if mode.writes then .error .isADirectory else opened .directory m
  | some (.device .terminal) => .error .noDevice
  | some (.device kind) => opened (.device kind) m
  | some (.program _) => if mode.writes then .error .permissionDenied else opened (.file l) m
  | some (.file _) =>
    opened (.file l) (if mode.truncates then m.setContent [] (.file l) else m)

/-- Open what an open file leads to once more. -/
def reopen (m : Machine) (f : OpenFile) (mode : OpenMode) : Except SystemError (Nat × Machine) :=
  match f.stream with
  | .file l => m.openLocation l mode
  | .nameless _ =>
    let m := if mode.truncates then m.setContent [] f.stream else m
    .ok (m.addFile { f with
      reads := mode.reads, writes := mode.writes, appends := mode.appends, offset := 0 })
  | _ => .ok (m.addFile { f with reads := mode.reads, writes := mode.writes })

/-- Open a file: the number of the open file. -/
def openPath (m : Machine) (p : Path) (mode : OpenMode) : Except SystemError (Nat × Machine) := do
  match descriptorOf? p with
  | some descriptor =>
    match m.openFile? descriptor with
    | some (_, f) => m.reopen f mode
    | none => throw .notFound
  | none =>
    if mode.creates then
      if mode.isNew ∧ (m.places.lookup p).isOk then throw .alreadyExists
      let (l, w) ← m.places.openToWrite p true
      { m with stored := w.tree }.openLocation l mode
    else
      let (l, _) ← m.places.lookup p
      m.openLocation l mode

/-! ### Reading and writing -/

/-- Some process can write to a pipe. -/
def hasWriter (m : Machine) (k : Nat) : Bool :=
  m.files.any fun f => f.2.stream = .pipe k && f.2.writes

/-- Some process can read from a pipe. -/
def hasReader (m : Machine) (k : Nat) : Bool :=
  m.files.any fun f => f.2.stream = .pipe k && f.2.reads

/-- The content of a pipe. -/
def pipe (m : Machine) (k : Nat) : Pipe := (m.pipes.lookup k).getD ⟨[], none⟩

/-- What a process that asks for something at once is told. -/
inductive Answer (α : Type) where
  /-- Here it is. -/
  | ready (a : α)
  /-- It has to wait. -/
  | later
  /-- It cannot be had. -/
  | never (cause : SystemError)

/-- What lies ahead in a stream from an offset on. -/
def rest (m : Machine) (stream : Stream) (offset : Nat) : Bytes :=
  match m.ahead.lookup stream with
  | some (place, bytes) =>
    if place ≤ offset then bytes.drop (offset - place) else (m.contentOf stream).drop offset
  | none => (m.contentOf stream).drop offset

/-- Read some of the bytes that are there, as a function says; no bytes at the end. -/
def readSome (m : Machine) (descriptor : Nat) (cut : Bytes → Bytes × Bytes) :
    Answer Bytes × Machine :=
  match m.openFile? descriptor with
  | none => (.never .badDescriptor, m)
  | some (n, f) =>
    if !f.reads then (.never .badDescriptor, m)
    else match f.stream with
      | .directory => (.never .isADirectory, m)
      | .device .null => (.ready [], m)
      | .device _ => (.ready (cut (List.replicate pipeRoom 0)).1, m)
      | .pipe k =>
        let p := m.pipe k
        if p.content.isEmpty then
          if m.hasWriter k then (.later, m) else (.ready [], m)
        else
          let (bytes, rest) := cut p.content
          (.ready bytes, { m with pipes := Numbered.set m.pipes k { p with content := rest } })
      | stream =>
        let m := m.join stream
        let (bytes, rest) := cut (m.rest stream f.offset)
        let offset := f.offset + bytes.length
        let others := m.ahead.filter (·.1 ≠ stream)
        (.ready bytes, { m with
          files := Numbered.set m.files n { f with offset }
          ahead := if rest.isEmpty then others else (stream, offset, rest) :: others })

/-- Read at most so many bytes; no bytes at the end. -/
def read (m : Machine) (descriptor count : Nat) : Answer Bytes × Machine :=
  m.readSome descriptor (·.splitAt count)

/-- Read up to a byte, if it is there; no bytes at the end. -/
def readThrough (m : Machine) (descriptor : Nat) (last : UInt8) : Answer Bytes × Machine :=
  m.readSome descriptor fun bytes =>
    match bytes.span (· ≠ last) with
    | (before, b :: after) => (before ++ [b], after)
    | (before, []) => (before, [])

/-- Bytes put into a content at an offset, over what is there. -/
def splice (content : Bytes) (offset : Nat) (bytes : Bytes) : Bytes :=
  let before := content.take offset
  before ++ List.replicate (offset - before.length) 0 ++ bytes
    ++ content.drop (offset + bytes.length)

/-- So many bytes are written to a pipe in one piece or not at all. -/
def pieceLimit : Nat := 4096

/-- Write as many of some bytes as there is room for; those that are left. Nobody may be reading
from a pipe. -/
def write (m : Machine) (descriptor : Nat) (bytes : Bytes) : Answer Bytes × Machine :=
  match m.openFile? descriptor with
  | none => (.never .badDescriptor, m)
  | some (n, f) =>
    if !f.writes then (.never .badDescriptor, m)
    else match f.stream with
      | .directory => (.never .isADirectory, m)
      | .device .null => (.ready [], m)
      | .device _ => (.never .noSpace, m)
      | .pipe k =>
        let p := m.pipe k
        if !m.hasReader k then (.never .brokenPipe, m)
        else
          let put (now : Bytes) : Machine :=
            { m with pipes := Numbered.set m.pipes k { p with content := p.content ++ now } }
          match p.room with
          | none => (.ready [], put bytes)
          | some room =>
            let free := room - p.content.length
            if bytes.length ≤ free then (.ready [], put bytes)
            else if free = 0 ∨ bytes.length ≤ pieceLimit then (.later, m)
            else (.ready (bytes.drop free), put (bytes.take free))
      | stream =>
        let size := m.sizeOf stream
        let offset := if f.appends then size else f.offset
        let m := if offset = size then m.extend stream size bytes
          else m.setContent (splice (m.contentOf stream) offset bytes) stream
        let f := { f with offset := offset + bytes.length }
        (.ready [], { m with files := Numbered.set m.files n f })

/-! ### Files and their names -/

/-- Let the files that are open at locations without a file any more go on without a name. -/
def keepNameless (old : FileTree) (m : Machine) : Machine :=
  m.files.foldl (fun m (_, f) =>
    match f.stream with
    | .file l =>
      if (m.stored.get? l).isSome then m
      else
        let k := m.fresh
        let renamed (g : OpenFile) : OpenFile :=
          if g.stream = f.stream then { g with stream := .nameless k } else g
        { m with
          nameless := Numbered.set m.nameless k ((old.content? l).getD [])
          files := m.files.map fun (n, g) => (n, renamed g)
          fresh := k + 1 }
    | _ => m) m

/-- Change the files as the current process sees them. -/
def changeWorld (m : Machine) (w : World) : Machine :=
  let hasName : Stream → Bool
    | .file _ => true
    | _ => false
  keepNameless m.tree { m with
    stored := w.tree
    tails := m.tails.filter (!hasName ·.1)
    ahead := m.ahead.filter (!hasName ·.1) }

/-! ### Processes -/

/-- A process that has begun and not ended. -/
def isAlive (m : Machine) (n : Nat) : Bool :=
  match m.processes.lookup n with
  | some p => p.ending.isNone
  | none => false

/-- A new process that has all that the current one has. -/
def fork (m : Machine) : Nat × Machine :=
  let child := { m.self with parent := m.current, noted := [] }
  (m.fresh, { m with processes := Numbered.set m.processes m.fresh child, fresh := m.fresh + 1 })

/-- Note a signal for a process. -/
def note (p : Process) (s : Signal) : Process :=
  if p.noted.contains s then p else { p with noted := p.noted ++ [s] }

/-- A process ends. Its parent is told by a signal. -/
def finish (m : Machine) (n : Nat) (how : ProcessEnd) : Machine :=
  match m.processes.lookup n with
  | none => m
  | some p =>
    let ended := { p with ending := some how, descriptors := [] }
    let m := { m with processes := Numbered.set m.processes n ended }
    let m := p.descriptors.foldl (fun m d => m.release d.2) m
    { m with processes := Numbered.update m.processes p.parent fun q =>
        if q.provisions.lookup 17 = some .caught then note q 17 else q }

/-- A process gets a signal. -/
def deliver (m : Machine) (n : Nat) (s : Signal) : Machine :=
  match m.processes.lookup n with
  | none => m
  | some p =>
    if p.ending.isSome then m
    else if s = 18 then
      { m with processes := Numbered.update m.processes n fun p => { p with isStopped := false } }
    else match if s = Signal.kill ∨ s = Signal.stop then none else p.provisions.lookup s with
      | some .ignored => m
      | some .caught => { m with processes := Numbered.update m.processes n fun p => note p s }
      | none =>
        if s.endsProcess then m.finish n (.signalled s)
        else if s.stops then
          { m with processes := Numbered.update m.processes n fun p => { p with isStopped := true } }
        else m

/-- Send a signal to a process, or to all of a group when the number is not positive. No signal is
sent when its number is 0. -/
def kill (m : Machine) (target : Int) (s : Signal) : Except SystemError Machine :=
  let group := (m.processes.map (·.1)).filter (· ≠ 0)
  let send (targets : List Nat) : Except SystemError Machine :=
    .ok (if s = 0 then m else targets.foldl (fun m n => m.deliver n s) m)
  if Signal.limit ≤ s then .error .invalidArgument
  else if 0 < target then
    if target ≠ 0 ∧ (m.processes.lookup target.natAbs).isSome then send [target.natAbs]
    else .error .noProcess
  else if target = 0 then send group
  else if m.leader ≠ 0 ∧ target.natAbs = m.leader then send group
  else .error .noProcess

/-- A child of the current process that has ended, which is then forgotten. -/
def reap (m : Machine) : Option (Nat × ProcessEnd) × Machine :=
  let ended := m.processes.reverse.findSome? fun (n, p) =>
    if p.parent = m.current then p.ending.map fun how => (n, how) else none
  match ended with
  | some (n, how) =>
    (some (n, how), { m with processes := Numbered.erase m.processes n })
  | none => (none, m)

/-- The current process has children. -/
def hasChildren (m : Machine) : Bool := m.processes.any fun (_, p) => p.parent = m.current

end Machine

end GoldenCheck

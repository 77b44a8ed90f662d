import GoldenCheck.Shell.Fields
import GoldenCheck.Shell.Jobs

/-!
# Redirections

Redirections let descriptors of a command lead to other files. Their operands are expanded first
(`Redirection.ready`), then they are made in order (`Redirection.make`). What the descriptors led to
is kept at descriptors that no script can name, and brought back when the command ends
(`Redirection.takeBack`).
-/

namespace GoldenCheck

namespace Shell

/-- The first of the descriptors that no script can name. A program that is started does not have
them. -/
def hiddenDescriptor : Nat := 10

/-- A redirection whose operand was expanded. -/
structure Redirection where
  /-- The descriptor. -/
  descriptor : Nat
  /-- What is done with it. -/
  kind : RedirectKind
  /-- The operand. -/
  operand : Chars
  deriving DecidableEq, Repr

/-- A pipe with both ends at hidden descriptors: the one to read from and the one to write to. -/
def openPipe : ShellM (Nat × Nat) := call (Task.act fun m =>
  let ((reading, writing), m) := m.addPipe (some Machine.pipeRoom)
  let a := m.freeDescriptor hiddenDescriptor
  let m := m.install a reading
  let b := m.freeDescriptor hiddenDescriptor
  ((a, b), m.install b writing))

/-- Close a descriptor. -/
def closeDescriptor (descriptor : Nat) : ShellM Unit := call (Task.change (·.close descriptor))

/-- Let a descriptor lead where a hidden one leads, which is closed. -/
def moveDescriptor (source descriptor : Nat) : ShellM Unit := call (Task.change fun m =>
  match m.duplicate source descriptor with
  | .ok m => m.close source
  | .error _ => m)

namespace Redirection

/-- The text of a descriptor that an operand can name, or of none. -/
def namesDescriptor (operand : Chars) : Bool :=
  operand = ['-'] || (operand.length = 1 && operand.all Char.isDigit)

/-- Expand the operand of a redirection. -/
def ready (substitute : Substitution) (r : Redirect Node) : ShellM Redirection := do
  match r.kind with
  | .document .. => return ⟨r.descriptor, r.kind, []⟩
  | kind =>
    let operand ← singleText substitute .single r.operand
    match kind with
    | .duplicate _ =>
      if !namesDescriptor operand then
        modify fun s => { s with line := s.readLine }
        fail (ofText "Syntax error: Bad fd number")
    | _ => pure ()
    return ⟨r.descriptor, kind, operand⟩

/-- Complain about a file that cannot be opened. -/
def refuse (verb operand : Chars) (missing : String) (e : SystemError) : ShellM α :=
  let words := if e = .notFound ∨ e = .notADirectory then missing else e.words
  fail (verb ++ operand ++ ofText (": " ++ words))

/-- Open a file to be read; the number of the open file. -/
def openToRead (operand : Chars) : ShellM Nat := do
  let mode : Machine.OpenMode := { reads := true, writes := false }
  match ← call (Task.attempt fun m => m.openPath ⟨toBytes operand⟩ mode) with
  | .ok n => return n
  | .error e => refuse (ofText "cannot open ") operand "No such file" e

/-- Open a file to be written; the number of the open file. -/
def openToWrite (operand : Chars) (mode : Machine.OpenMode) : ShellM Nat := do
  match ← call (Task.attempt fun m => m.openPath ⟨toBytes operand⟩ mode) with
  | .ok n => return n
  | .error e => refuse (ofText "cannot create ") operand "Directory nonexistent" e

/-- How a file is opened that is to be emptied. Where files are not to be emptied, it must be
missing. -/
def writeMode (keepsFiles : Bool) : FileState → Machine.OpenMode
  | .absent _ => { reads := false, writes := true, creates := true, isNew := keepsFiles
                   truncates := true }
  | .regular _ | .unreadable _ =>
    { reads := false, writes := true, creates := true, isNew := keepsFiles, truncates := true }
  | _ => { reads := false, writes := true, creates := !keepsFiles, truncates := !keepsFiles }

/-- How much of a document is written at once. A longer one has a process of its own. -/
def documentLimit : Nat := 4096

/-- Open a document; the hidden descriptor that leads to it. -/
def openDocument (substitute : Substitution) (number : Nat) : ShellM Nat := do
  let (reading, writing) ← openPipe
  let w := ((← get).documents.lookup number).getD []
  let text ← singleText substitute .document w
  if text.length ≤ documentLimit then
    let _ ← call (Task.write writing (toBytes text))
  else
    let _ ← call (Task.fork do
      Task.change (·.close reading)
      let _ ← Task.write writing (toBytes text)
      return .exited 0)
  closeDescriptor writing
  return reading

/-- Keep what a descriptor leads to at a hidden one, unless it was kept before. -/
def keepOld (descriptor : Nat) : ShellM Unit := do
  match (← get).changed with
  | [] => return
  | top :: rest =>
    if (top.lookup descriptor).isSome then return
    let place ← call (Task.act fun m =>
      match m.self.descriptors.lookup descriptor with
      | none => (none, m)
      | some n =>
        let place := m.freeDescriptor hiddenDescriptor
        (some place, (m.install place n).close descriptor))
    modify fun s => { s with changed := ((descriptor, place) :: top) :: rest }

/-- Bring back what descriptors led to before the innermost command that changes some. -/
def takeBack : ShellM Unit := do
  let s ← get
  set { s with changed := s.changed.drop 1 }
  for (descriptor, place) in s.changed.head?.getD [] do
    match place with
    | some place => moveDescriptor place descriptor
    | none => closeDescriptor descriptor

/-- Forget what descriptors led to before the innermost command that changes some. -/
def leaveChanged : ShellM Unit := do
  let s ← get
  set { s with changed := s.changed.drop 1 }
  for (_, place) in s.changed.head?.getD [] do
    if let some place := place then closeDescriptor place

/-- Bring back what all descriptors led to. -/
def takeAllBack : ShellM Unit := do
  for _ in (← get).changed do takeBack

/-- Make a redirection, which may be for good. -/
def make (substitute : Substitution) (keeps : Bool) (r : Redirection) : ShellM Unit := do
  let keep : ShellM Unit := if keeps then keepOld r.descriptor else pure ()
  let install (n : Nat) : ShellM Unit := do
    keep
    call (Task.change (·.install r.descriptor n))
  match r.kind with
  | .read => install (← openToRead r.operand)
  | .readWrite =>
    install (← openToWrite r.operand { reads := true, writes := true, creates := true })
  | .write =>
    let state ← call (Task.look (·.places.look ⟨toBytes r.operand⟩))
    install (← openToWrite r.operand (writeMode ((← get).has 'C') state))
  | .clobber => install (← openToWrite r.operand (writeMode false (.absent .notFound)))
  | .append =>
    install (← openToWrite r.operand
      { reads := false, writes := true, creates := true, appends := true })
  | .document number _ =>
    let reading ← openDocument substitute number
    keep
    moveDescriptor reading r.descriptor
  | .duplicate _ =>
    match (wholeNumber? (some 10) r.operand).map Int.toNat with
    | none =>
      keep
      closeDescriptor r.descriptor
    | some source =>
      if source = r.descriptor then return
      keep
      match ← call (Task.tryChange (·.duplicate source r.descriptor)) with
      | .ok () => return
      | .error e => fail (numeral source ++ ofText (": " ++ e.words))

/-- Make redirections in order. -/
def makeAll (substitute : Substitution) (keeps : Bool) (rs : List Redirection) : ShellM Unit := do
  for r in rs do make substitute keeps r

/-- Make redirections that are taken back later; whether all of them could be made. -/
def change (substitute : Substitution) (rs : List Redirection) : ShellM Bool := do
  modify fun s => { s with changed := [] :: s.changed }
  tryCatch (do makeAll substitute true rs; return true) fun stop =>
    match stop with
    | .error => return false
    | stop => throw stop

end Redirection

end Shell

end GoldenCheck

import GoldenCheck.Shell.Arithmetic
import GoldenCheck.Shell.Pattern
import GoldenCheck.Shell.Session

/-!
# Expanding words

A word expands in two steps. First its parts are put in place of each other: parameters, the output
of commands and calculations become characters (`Expansion`). Then the characters are cut into
fields, and a field that is a pattern becomes the paths of files.

A text remembers whether its characters stand only for themselves, and an expansion remembers the
stretches in which it may be cut.
-/

namespace GoldenCheck

namespace Shell

/-- A character of an expanded word. -/
inductive Cell where
  /-- A character; a literal one stands only for itself. -/
  | char (c : Char) (isLiteral : Bool)
  /-- The beginning or the end of a quotation. Where there is one, there is a field. -/
  | mark
  deriving DecidableEq, Repr

/-- The character of a cell. -/
def Cell.char? : Cell → Option Char
  | .char c _ => some c
  | .mark => none

/-- The text of cells. -/
def textOf (cells : List Cell) : Chars := cells.filterMap Cell.char?

/-- The pattern of cells. A backslash stands before each literal character. -/
def patternOf (cells : List Cell) : Chars := go true cells
where
  /-- Go on; no backslash is needed after one that stands there already. -/
  go (needs : Bool) : List Cell → Chars
    | [] => []
    | .mark :: rest => go needs rest
    | .char '\\' false :: rest => '\\' :: go false rest
    | .char c isLiteral :: rest =>
      if isLiteral && needs then '\\' :: c :: go true rest else c :: go true rest

/-- A part of an expanded word. -/
inductive Piece where
  /-- A text; a literal one stands only for itself. -/
  | text (cs : Chars) (isLiteral : Bool)
  /-- The beginning or the end of a quotation. -/
  | mark
  deriving DecidableEq, Repr

/-- A stretch in which an expansion may be cut. -/
structure Region where
  /-- Where it begins. -/
  start : Nat
  /-- Where it ends. -/
  stop : Nat
  /-- It is cut only between arguments. -/
  betweenArguments : Bool
  deriving DecidableEq, Repr

/-- An expanded word. -/
structure Expansion where
  /-- The pieces, the last one first. -/
  pieces : List Piece := []
  /-- How many cells there are in them. -/
  size : Nat := 0
  /-- The stretches in which it may be cut, the last one first. -/
  regions : List Region := []

namespace Expansion

/-- Add a text. -/
def addText (e : Expansion) (cs : Chars) (isLiteral : Bool) : Expansion :=
  { e with pieces := .text cs isLiteral :: e.pieces, size := e.size + cs.length }

/-- Add the beginning or the end of a quotation. -/
def addMark (e : Expansion) : Expansion :=
  { e with pieces := .mark :: e.pieces, size := e.size + 1 }

/-- What was added since there were so many cells may be cut. -/
def addRegion (e : Expansion) (start : Nat) (betweenArguments : Bool) : Expansion :=
  { e with regions := ⟨start, e.size, betweenArguments⟩ :: e.regions }

/-- The text. -/
def text (e : Expansion) : Chars :=
  e.pieces.foldl (fun rest p =>
    match p with
    | .text cs _ => if rest.isEmpty then cs else cs ++ rest
    | .mark => rest) []

/-- The cells. -/
def cells (e : Expansion) : List Cell :=
  e.pieces.foldl (fun rest p =>
    match p with
    | .text cs isLiteral => cs.reverse.foldl (fun rest c => .char c isLiteral :: rest) rest
    | .mark => .mark :: rest) []

/-- The pattern. -/
def pattern (e : Expansion) : Chars := patternOf e.cells

end Expansion

/-- How a word is expanded. -/
structure Manner where
  /-- It is cut into fields, and patterns become paths. -/
  full : Bool := false
  /-- A tilde at the beginning is a directory. -/
  tilde : Bool := false
  /-- A tilde after `=` and after a colon is a directory. -/
  assignmentTilde : Bool := false
  /-- It is inside double quotes. -/
  quoted : Bool := false
  /-- It is the other text of a parameter. -/
  isOperand : Bool := false
  /-- It is only passed over. -/
  discards : Bool := false
  deriving DecidableEq, Repr

/-- Arguments of commands. -/
def Manner.argument : Manner := { full := true, tilde := true }

/-- Assignments. -/
def Manner.assignment : Manner := { assignmentTilde := true }

/-- Single words. -/
def Manner.single : Manner := { tilde := true }

/-- Documents. -/
def Manner.document : Manner := { quoted := true }

/-! ### Parameters -/

/-- The complaint about a parameter that is not set. -/
def failUnset (name : Chars) (message : Option Chars) (colon : Bool) : ShellM α :=
  let words := match message with
    | some message => message
    | none => ofText (if colon then "parameter not set or null" else "parameter not set")
  fail (name ++ ofText ": " ++ words)

/-- The arguments of the shell, with what stands between them. -/
def Session.joinedArguments (s : Session) (name : Chars) (m : Manner) : Chars :=
  let separator : Option Char :=
    if name = ['@'] ∧ m.quoted ∧ m.full then some '\x00'
    else if !m.quoted ∧ m.full then
      if (s.value? (ofText "IFS")).isSome then some '\x00' else some ' '
    else match s.value? (ofText "IFS") with
      | some separators => separators.head?
      | none => some ' '
  match separator with
  | some c => List.intercalate [c] s.args
  | none => s.args.flatten

/-- The value of a parameter, if it is set. -/
def Session.parameter? (s : Session) (name : Chars) (m : Manner) : Option Chars :=
  match name with
  | ['$'] => some (numeral s.ownNumber)
  | ['?'] => some (numeral s.status)
  | ['#'] => some (numeral s.args.length)
  | ['!'] => s.lastBackground.map fun n => numeral n
  | ['-'] => some s.optionLetters
  | ['@'] | ['*'] => some (s.joinedArguments name m)
  | _ =>
    if name.all Char.isDigit then
      let n := (wholeNumber? (some 10) name).getD 0
      if n = 0 then some s.name else s.args[n.toNat - 1]?
    else s.value? name

/-! ### Values without a beginning or an end

The arguments of the shell can be one value, with a boundary between them. A pattern never fits
beyond a boundary, so that mostly the first argument decides. -/

/-- A character is kept with a mark that it stands for itself. In a value that has such marks in its
first argument, places are counted from the end of that argument and of the value. -/
def isProtected (inQuotes : Bool) (c : Char) : Bool :=
  (0x81 ≤ c.toNat && c.toNat ≤ 0x88) || (inQuotes && "!*?[=~:/-]\\".toList.contains c)

/-- The first of the arguments that a value consists of. -/
def firstArgument (value : Chars) : Chars :=
  if value.contains '\x00' then value.takeWhile (· ≠ '\x00') else value

/-- A value without its shortest or longest beginning that fits a pattern. If the longest beginning
is the whole first argument, the other arguments go as well. -/
def trimFront (m : Manner) (longest : Bool) (pattern value : Chars) : Chars :=
  let first := firstArgument value
  match Pattern.beginning? longest pattern first with
  | none => value
  | some n =>
    if !longest || !value.contains '\x00' then value.drop n
    else if m.full && first.any (isProtected m.quoted) then
      value.drop (value.length - (first.length - n))
    else if n = first.length then []
    else value.drop n

/-- A value without its shortest or longest end that fits a pattern. The shortest end is sought in
the last argument first; all that follows it goes. -/
def trimBack (m : Manner) (longest : Bool) (pattern value : Chars) : Chars :=
  let first := firstArgument value
  if longest || !value.contains '\x00' then
    match Pattern.ending? longest pattern first with
    | some n => value.take n
    | none => value
  else if m.full && first.any (isProtected m.quoted) then
    match Pattern.ending? false pattern first with
    | some n => value.take (value.length - (first.length - n))
    | none => value
  else
    let places := (List.range (value.length + 1)).reverse
    match places.find? fun n => Pattern.fits pattern (firstArgument (value.drop n)) with
    | some n => value.take n
    | none => value

/-- The directory that a tilde stands for, before a name. -/
def Session.home? (s : Session) (name : Chars) : Option Chars :=
  if name.isEmpty then s.value? (ofText "HOME")
  else if name = ofText "root" then some (ofText "/root")
  else none

/-- The directory that a tilde at the beginning of parts stands for, and how many parts say so. -/
def Session.tilde? (s : Session) (m : Manner) (parts : Word Node) : Option (Chars × Nat) :=
  match parts with
  | .plain '~' :: rest =>
    let ends : Part Node → Bool
      | .plain c => c = '/' || (c = ':' && m.assignmentTilde)
      | _ => false
    let name := rest.takeWhile fun p => !ends p
    do
      let text ← Word.text? name
      let directory ← s.home? text
      return (directory, name.length + 1)
  | _ => none

/-- The parts are the word for all arguments, each in quotes. -/
def beginsArguments : Word Node → Bool
  | .mark :: .parameter ['@'] .value false [] :: .mark :: _ => true
  | _ => false

/-- How the output of a command is had. -/
abbrev Substitution := Node → ShellM Chars

/-- The value of a calculation. -/
def calculate (text : Chars) : ShellM Int := do
  let s ← get
  let seen : Arithmetic.Variables := {
    value? := s.value?
    isReadOnly := fun name => ((s.bindings.lookup name).map (·.isReadOnly)).getD false }
  let (r, assigned) := Arithmetic.evaluate seen text
  for (name, n) in assigned do
    assign name (numeral n) false
  match r with
  | .ok n => return n
  | .error (.misformed what) =>
    fail (ofText ("arithmetic expression: " ++ what ++ ": \"") ++ text ++ ['"'])
  | .error (.noNumber value) => failNumber value
  | .error (.readOnly name) => fail (name ++ ofText ": is read only")
  | .error .overflow =>
    call (Task.change fun m => m.deliver m.current Signal.arithmetic)
    throw .error

/-- Where in a word the expansion is. -/
structure Place where
  /-- The next part is inside quotes. -/
  inQuotes : Bool := false
  /-- A tilde can stand here. -/
  canTilde : Bool
  /-- There was no `=` yet. -/
  beforeEquals : Bool := true
  /-- The last character may be cut off from its neighbours, and the next one with it. -/
  continues : Bool := false
  /-- So many parts have been dealt with already. -/
  done : Nat := 0

/-- The beginning of a word. -/
def Manner.place (m : Manner) : Place := { canTilde := m.tilde }

namespace Expansion

/-- Add a character that was not quoted. In the other text of a parameter it may be cut. -/
def addPlain (e : Expansion) (m : Manner) (place : Place) (c : Char) : Expansion :=
  let next := e.addText [c] false
  if !m.isOperand || m.quoted || place.inQuotes then next
  else match place.continues, next.regions with
    | true, r :: rest => { next with regions := { r with stop := next.size } :: rest }
    | _, _ => next.addRegion e.size false

end Expansion

/-- Add the value of a parameter, when its other text was not asked for. -/
def finishParameter (name : Chars) (m : Manner) (start : Nat) (e : Expansion) :
    ShellM Expansion := do
  if !m.quoted then return e.addRegion start false
  if name.head? = some '@' ∧ !(← get).args.isEmpty then return e.addRegion start true
  return e

/-- Expand the word for all arguments. -/
def expandArguments (m : Manner) (e : Expansion) : ShellM Expansion := do
  if m.discards then return e
  let joined := (← get).joinedArguments ['@'] m
  finishParameter ['@'] m e.size (e.addText joined m.quoted)

mutual

/-- Expand a parameter, a command or a calculation. -/
def expandPart (substitute : Substitution) (m : Manner) (e : Expansion) :
    Part Node → ShellM Expansion
  | .plain _ | .quoted _ | .mark => return e
  | .output none => return if m.quoted || m.discards then e else e.addRegion e.size false
  | .output (some n) => do
    if m.discards then return e
    let text ← substitute n
    let kept := (text.reverse.dropWhile (· = '\n')).reverse
    let start := e.size
    let e := e.addText kept m.quoted
    return if m.quoted then e else e.addRegion start false
  | .arithmetic text => do
    let inner ← expandParts substitute { discards := m.discards } ⟨false, false, true, false, 0⟩ {}
      text
    if m.discards then return e
    let n ← calculate inner.text
    let start := e.size
    let e := e.addText (numeral n) m.quoted
    return if m.quoted then e else e.addRegion start false
  | .parameter name rule colon operand => do
    let s ← get
    if rule = .bad ∧ !m.discards then fail (ofText "Bad substitution")
    let isOnlyCounted := rule = .length || rule = .alternative
    let value := s.parameter? name (if isOnlyCounted then { m with full := false } else m)
    let isUnset : Bool := match value with
      | none => true
      | some value => colon && value.isEmpty
    let start := e.size
    let valued := if m.discards then e else e.addText (value.getD []) m.quoted
    let other : Manner := { tilde := true, discards := m.discards }
    let operandManner : Manner := { m with tilde := true, isOperand := true }
    match rule with
    | .fallback | .bad =>
      if isUnset ∨ m.discards then
        expandParts substitute operandManner operandManner.place e operand
      else finishParameter name m start valued
    | .alternative =>
      if !isUnset ∨ m.discards then
        expandParts substitute operandManner operandManner.place e operand
      else finishParameter name m start e
    | .assign =>
      if m.discards then return e
      if !isUnset then finishParameter name m start valued
      else
        let text ← expandParts substitute other other.place {} operand
        if !isName name then fail (name ++ ofText ": bad variable name")
        assign name text.text false
        finishParameter name m start
          (e.addText (((← get).parameter? name m).getD []) m.quoted)
    | .demand =>
      if m.discards then return e
      if !isUnset then finishParameter name m start valued
      else
        let text ← expandParts substitute other other.place {} operand
        failUnset name (if operand.isEmpty then none else some text.text) colon
    | rule =>
      if m.discards then return e
      if isUnset ∧ s.has 'u' then failUnset name none false
      let value := value.getD []
      match rule with
      | .length =>
        finishParameter name m start (e.addText (numeral value.length) m.quoted)
      | .trimFront longest =>
        if isUnset then return e
        let pattern ← expandParts substitute other other.place {} operand
        let rest := trimFront m longest pattern.pattern value
        finishParameter name m start (e.addText rest m.quoted)
      | .trimBack longest =>
        if isUnset then return e
        let pattern ← expandParts substitute other other.place {} operand
        let rest := trimBack m longest pattern.pattern value
        finishParameter name m start (e.addText rest m.quoted)
      | _ => if isUnset then return e else finishParameter name m start valued

/-- Expand the parts of a word one after the other. -/
def expandParts (substitute : Substitution) (m : Manner) (place : Place) (e : Expansion) :
    List (Part Node) → ShellM Expansion
  | [] => return e
  | p :: rest => do
    if place.done ≠ 0 then
      return ← expandParts substitute m { place with done := place.done - 1 } e rest
    let s ← get
    let tilde := if place.canTilde then s.tilde? m (p :: rest) else none
    let plainPlace := { place with canTilde := false, continues := false }
    match tilde with
    | some (directory, count) =>
      let e := if m.discards then e else e.addText directory true
      expandParts substitute m { plainPlace with done := count - 1 } e rest
    | none =>
      match p with
      | .plain c =>
        let isEquals := m.assignmentTilde && place.beforeEquals && c = '='
        let isColon := m.assignmentTilde && c = ':'
        let e := if m.discards then e else e.addPlain m place c
        let next := { place with
          canTilde := isEquals || isColon
          beforeEquals := place.beforeEquals && c ≠ '='
          continues := m.isOperand }
        expandParts substitute m next e rest
      | .quoted c =>
        let e := if m.discards then e else e.addText [c] true
        expandParts substitute m plainPlace e rest
      | .mark =>
        if !place.inQuotes && beginsArguments (p :: rest) then
          let e ← expandArguments { m with quoted := true } e
          expandParts substitute m { plainPlace with done := 2 } e rest
        else
          let e := if m.discards then e else e.addMark
          expandParts substitute m { plainPlace with inQuotes := !place.inQuotes } e rest
      | p =>
        let e ← expandPart substitute { m with quoted := m.quoted || place.inQuotes } e p
        expandParts substitute m plainPlace e rest

end

/-- Expand a whole word. -/
def expand (substitute : Substitution) (m : Manner) (w : Word Node) : ShellM Expansion :=
  expandParts substitute m m.place {} w

end Shell

end GoldenCheck

import GoldenCheck.Shell.Token

/-!
# Reading words

A word is read character by character. What a character means depends on the quotes, the braces and
the parentheses around it: a `Layer` says in which quotes the reader is, and how many braces and
parentheses are open since it began. A substitution whose text follows other rules than what is
around it has a layer of its own.

`WordState.read` reads a word, or a document up to its delimiter. How a command in a word is read is
a parameter.
-/

namespace GoldenCheck

namespace Shell

/-- The rules by which characters are read. -/
inductive Quotes where
  /-- There are no quotes. -/
  | none
  /-- There are single quotes. -/
  | single
  /-- There are double quotes. -/
  | double
  /-- There is a calculation. -/
  | calculation
  deriving DecidableEq, Repr

/-- Where a character stands. -/
structure Layer where
  /-- The quotes. -/
  quotes : Quotes
  /-- The layer began inside double quotes. -/
  isDouble : Bool
  /-- Double quotes are open inside a brace of the layer. -/
  innerQuotes : Bool := false
  /-- The open braces. -/
  braces : Nat := 0
  /-- Those of them that are inside double quotes. -/
  doubleBraces : Nat := 0
  /-- The open parentheses of a calculation. -/
  parentheses : Nat := 0
  /-- The layer ends with its last brace. -/
  isBrace : Bool := false
  deriving DecidableEq, Repr

/-- What is being read. -/
inductive Purpose where
  /-- A word of a command. -/
  | word
  /-- A document. -/
  | document (d : Document)
  /-- A text as in double quotes. -/
  | text
  deriving DecidableEq, Repr

/-- The state of reading a word. -/
structure WordState where
  /-- What is left of the script. -/
  reader : Reader
  /-- What is read. -/
  purpose : Purpose
  /-- Where the next character stands. -/
  layer : Layer
  /-- The layers around it. -/
  outer : List Layer := []
  /-- The parts that were read, the last one first. -/
  parts : List (Part Node) := []
  /-- The substitutions that are open: the parts before each, and what its text is for. -/
  frames : List (List (Part Node) × (List (Part Node) → Part Node)) := []
  /-- Something was quoted. -/
  hasQuotes : Bool := false
  /-- A line of a document begins here. -/
  startsLine : Bool := false

/-- A place in a script: the character there, with the reader before and after it. -/
structure Cursor where
  /-- The reader before the character. -/
  before : Reader
  /-- The character, if the script has not ended. -/
  char? : Option Char
  /-- The reader after the character. -/
  after : Reader

namespace Reader

/-- The place of the next character. -/
def cursor (r : Reader) : Cursor :=
  let r := r.joined
  ⟨r, r.input.head?, { r with input := r.input.tail }⟩

end Reader

namespace Cursor

/-- The next place. -/
def next (c : Cursor) : Cursor := c.after.cursor

/-- The character is one of a kind. -/
def has (c : Cursor) (kind : Char → Bool) : Bool := (c.char?.map kind).getD false

/-- The characters of a kind from here on, and the place after them. -/
def scan (kind : Char → Bool) : Nat → Cursor → Chars × Cursor
  | 0, c => ([], c)
  | fuel + 1, c =>
    match c.char? with
    | some ch =>
      if kind ch then
        let (cs, c) := scan kind fuel c.next
        (ch :: cs, c)
      else ([], c)
    | none => ([], c)

end Cursor

/-- A parameter whose name is one character that is no letter. -/
def isSpecial (c : Char) : Bool :=
  c.isDigit || ['!', '#', '$', '*', '-', '?', '@'].contains c

/-- What was read of a parameter: its name, its rule, and whether its text follows. -/
structure ParameterHead where
  /-- The name. -/
  name : Chars
  /-- The rule. -/
  rule : Rule
  /-- The rule has a colon. -/
  colon : Bool
  /-- What is left of the script. -/
  reader : Reader

namespace ParameterHead

/-- No text follows. -/
def isWhole (h : ParameterHead) : Bool := h.rule = .value && !h.colon

/-- The rule after a name in braces. -/
def readRule (name : Chars) (c : Cursor) : ParameterHead :=
  let (colon, c) := if c.char? = some ':' then (true, c.next) else (false, c)
  let trim (rule : Bool → Rule) : ParameterHead :=
    let d := c.next
    if d.char? = c.char? then ⟨name, rule true, false, d.after⟩
    else ⟨name, rule false, false, d.before⟩
  match c.char? with
  | some '\x7d' => ⟨name, .value, colon, c.after⟩
  | some '-' => ⟨name, .fallback, colon, c.after⟩
  | some '+' => ⟨name, .alternative, colon, c.after⟩
  | some '?' => ⟨name, .demand, colon, c.after⟩
  | some '=' => ⟨name, .assign, colon, c.after⟩
  | some '#' => if colon then ⟨name, .bad, colon, c.after⟩ else trim .trimFront
  | some '%' => if colon then ⟨name, .bad, colon, c.after⟩ else trim .trimBack
  | _ => ⟨name, .bad, colon, c.after⟩

/-- The name and the rule of a parameter whose length is asked for. -/
def readLength (name : Chars) (c : Cursor) : ParameterHead :=
  if c.char? = some '\x7d' then ⟨name, .length, false, c.before⟩ else ⟨name, .bad, false, c.before⟩

/-- A name of letters or of digits. -/
def readName (c : Cursor) : Option (Chars × Cursor) :=
  let size := c.before.input.length + 1
  if c.has isNameStart then some (c.scan isNameChar size)
  else if c.has Char.isDigit then some (c.scan Char.isDigit size)
  else none

/-- A parameter in braces. -/
def readBraced (c : Cursor) : ParameterHead :=
  match readName c with
  | some (name, c) => readRule name c
  | none =>
    match c.char? with
    | some '\x7d' | none => ⟨[], .bad, false, c.before⟩
    | some '#' =>
      let d := c.next
      match readName d with
      | some (name, d) => readLength name d
      | none =>
        let e := d.next
        if d.char? = some '\x7d' ∨ e.char? ≠ some '\x7d' then readRule ['#'] d
        else match d.char? with
          | some ch =>
            if isSpecial ch then readLength [ch] e else ⟨[], .bad, false, e.before⟩
          | none => ⟨[], .bad, false, e.before⟩
    | some ch =>
      let d := c.next
      if isSpecial ch then readRule [ch] d else ⟨[], .bad, false, d.before⟩

/-- A parameter without braces. -/
def readBare (c : Cursor) : ParameterHead :=
  if c.has isNameStart then
    let (name, c) := c.scan isNameChar (c.before.input.length + 1)
    ⟨name, .value, false, c.before⟩
  else ⟨c.char?.toList, .value, false, c.after⟩

end ParameterHead

/-- How a command inside a word is read: up to a closing parenthesis, or all that there is. -/
abbrev CommandReader := Bool → Reader → Except SyntaxError (Option Node × Reader)

namespace WordState

/-- Characters are inside quotes, or there are no words at all. -/
def isLiteral (s : WordState) : Bool :=
  s.layer.quotes = .single || s.layer.quotes = .double

/-- Add a part. -/
def add (s : WordState) (p : Part Node) : WordState := { s with parts := p :: s.parts }

/-- Add a character. -/
def put (s : WordState) (c : Char) : WordState :=
  s.add (if s.isLiteral then .quoted c else .plain c)

/-- Add a mark of a quotation; there are none outside of words. -/
def putMark (s : WordState) : WordState := if s.purpose = .word then s.add .mark else s

/-- Begin a substitution. -/
def openFrame (s : WordState) (f : List (Part Node) → Part Node) : WordState :=
  { s with frames := (s.parts, f) :: s.frames, parts := [] }

/-- End a substitution. -/
def closeFrame (s : WordState) : WordState :=
  match s.frames with
  | (before, f) :: frames => { s with frames, parts := f s.parts.reverse :: before }
  | [] => s

/-- Begin a layer. -/
def push (s : WordState) (layer : Layer) : WordState :=
  { s with outer := s.layer :: s.outer, layer }

/-- End a layer. -/
def pop (s : WordState) : WordState :=
  match s.outer with
  | layer :: outer => { s with layer, outer }
  | [] => s

/-- Change the layer. -/
def onLayer (s : WordState) (f : Layer → Layer) : WordState := { s with layer := f s.layer }

/-- A quotation mark has been read that begins or ends double quotes. -/
def toggleDouble (s : WordState) : WordState :=
  (s.onLayer fun l => if l.braces ≠ 0 then { l with innerQuotes := !l.innerQuotes } else l).putMark

/-- What a backslash does to the character after it. -/
def readBackslash (s : WordState) : WordState :=
  match s.reader.input with
  | [] => s.add (.quoted '\\')
  | c :: rest =>
    let line := if c = '\n' then s.reader.line + 1 else s.reader.line
    let inBraces := s.layer.braces ≠ 0
    let isText := s.purpose ≠ .word
    let keeps := s.layer.isDouble && !(['\\', '\x60', '$'].contains c)
      && (c ≠ '"' || (isText && !inBraces)) && (c ≠ '\x7d' || !inBraces)
    let s := if keeps then s.add (.quoted '\\') else s
    { s.add (.quoted c) with reader := { s.reader with input := rest, line }, hasQuotes := true }

/-- What is read after the name of a parameter. -/
def openParameter (s : WordState) (h : ParameterHead) : WordState :=
  let s := { s with reader := h.reader }
  if h.isWhole then s.add (.parameter h.name .value false [])
  else
    let quotes : Quotes := match h.rule with
      | .trimFront _ | .trimBack _ => .none
      | _ => if s.layer.quotes = .calculation then .double else s.layer.quotes
    let s : WordState := s.openFrame (.parameter h.name h.rule h.colon)
    let s : WordState :=
      if quotes = s.layer.quotes ∧ !s.layer.innerQuotes then s
      else s.push { quotes, isDouble := quotes ≠ .none, isBrace := true }
    s.onLayer fun l => { l with
      braces := l.braces + 1, doubleBraces := l.doubleBraces + if l.isDouble then 1 else 0 }

/-- The text between backquotes, with the backslashes taken away that only protect it. -/
def readBackquoted (isDouble : Bool) : Nat → Chars → Reader → Except SyntaxError (Chars × Reader)
  | 0, _, r => r.fail "EOF in backquote substitution"
  | fuel + 1, text, r =>
    let c := r.cursor
    match c.char? with
    | none => c.before.fail "EOF in backquote substitution"
    | some '\x60' => .ok (text.reverse, c.after)
    | some '\\' =>
      match c.after.input with
      | [] => c.after.fail "EOF in backquote substitution"
      | d :: rest =>
        let kept := !(['\\', '\x60', '$'].contains d) && (!isDouble || d ≠ '"')
        let text := if kept then '\\' :: text else text
        readBackquoted isDouble fuel (d :: text) { c.after with input := rest }
    | some '\n' =>
      readBackquoted isDouble fuel ('\n' :: text) { c.after with line := c.after.line + 1 }
    | some d => readBackquoted isDouble fuel (d :: text) c.after

/-- A command between backquotes. It is read from its own text, whose lines count from 1. -/
def addBackquoted (commands : CommandReader) (s : WordState) : Except SyntaxError WordState := do
  let r := s.reader
  let (text, r) ← readBackquoted s.layer.isDouble (r.input.length + 1) [] r
  let (n, inner) ← commands false { r with input := text, line := 1, busy := [] }
  let r := { r with documents := inner.documents, nextDocument := inner.nextDocument }
  return { s.add (.output n) with reader := r }

/-- What follows a dollar sign. -/
def readDollar (commands : CommandReader) (s : WordState) : Except SyntaxError WordState :=
  let c := s.reader.cursor
  let begins (ch : Char) : Bool := ch = '(' || ch = '\x7b' || isNameStart ch || isSpecial ch
  if s.reader.checks.delimiter || !c.has begins then
    .ok { s.put '$' with reader := c.before }
  else match c.char? with
    | some '(' =>
      let d := c.next
      if d.char? = some '(' then
        let s := (s.openFrame .arithmetic).push { quotes := .calculation, isDouble := true }
        .ok { s with reader := d.after }
      else do
        let (n, r) ← commands true d.before
        return { s.add (.output n) with reader := r }
    | some '\x7b' => .ok (s.openParameter (.readBraced c.next))
    | _ => .ok (s.openParameter (.readBare c))

/-- What a closing brace does. -/
def readBrace (s : WordState) : WordState :=
  let l := s.layer
  if l.innerQuotes || l.braces = 0 then s.put '\x7d'
  else
    let s := s.closeFrame
    if l.braces = 1 ∧ l.isBrace then s.pop
    else s.onLayer fun l => { l with
      braces := l.braces - 1, doubleBraces := l.doubleBraces - 1 }

/-- What a quotation mark that may end quotes does. -/
def readEndQuote (s : WordState) (c : Char) : WordState :=
  if s.purpose ≠ .word ∧ s.layer.braces = 0 then s.put c
  else
    let s :=
      if s.layer.doubleBraces = 0 then
        s.onLayer fun l => { l with quotes := .none, isDouble := false }
      else s
    let s := { s with hasQuotes := true }
    if c = '"' then s.toggleDouble else s.putMark

/-- The reader at the next character. -/
def ahead (s : WordState) : Reader :=
  if s.layer.quotes = .single then s.reader else s.reader.joined

/-- The line that begins here ends the document; what comes after it. Tabs that the document does
not keep are left out before. -/
def atDelimiter (s : WordState) (d : Document) : Bool × Reader :=
  let r := s.ahead
  let r := if d.stripsTabs then { r with input := r.input.dropWhile (· = '\t') } else r
  let rest := r.input.drop d.delimiter.length
  if !d.delimiter.isPrefixOf r.input then (false, r)
  else match rest with
    | [] => (true, { r with input := [], line := r.line + 1 })
    | '\n' :: rest => (true, { r with input := rest, line := r.line + 1 })
    | _ => (false, r)

/-- The characters that end a word. -/
def wordEnds : List Char := ['<', '>', '(', ')', ';', '&', '|', ' ', '\t']

/-- Read one character; `none` when it ends what is read. -/
def step (commands : CommandReader) (s : WordState) : Except SyntaxError (Option WordState) :=
  let r := s.ahead
  match r.input with
  | [] => .ok none
  | c :: rest =>
    let after : WordState := { s with reader := { r with input := rest } }
    let l := s.layer
    if c = aliasEnd then
      if l.quotes = .none ∧ l.braces = 0 then .ok none
      else .ok (some { after with reader := after.reader.leaveAlias })
    else if c = '\n' then
      if l.quotes = .none ∧ l.braces = 0 then .ok none
      else
        let reader := { after.reader with line := r.line + 1 }
        .ok (some { after.put c with reader, startsLine := true })
    else if l.quotes = .single then
      .ok (some (if c = '\'' then after.readEndQuote c else after.put c))
    else if c = '\\' then .ok (some after.readBackslash)
    else if c = '\x60' then
      if r.checks.delimiter then .ok (some { after.put c with hasQuotes := true })
      else (after.addBackquoted commands).map some
    else if c = '$' then (after.readDollar commands).map some
    else if c = '\x7d' then .ok (some after.readBrace)
    else if l.quotes = .calculation then
      if c = '(' then
        .ok (some ((after.put c).onLayer fun l => { l with parentheses := l.parentheses + 1 }))
      else if c = ')' then
        if l.parentheses ≠ 0 then
          .ok (some ((after.put c).onLayer fun l => { l with parentheses := l.parentheses - 1 }))
        else
          let d := after.reader.cursor
          if d.char? = some ')' then .ok (some { after.closeFrame.pop with reader := d.after })
          else .ok (some { after.put c with reader := d.before })
      else .ok (some (after.put c))
    else if c = '"' then
      if l.quotes = .double then .ok (some (after.readEndQuote c))
      else
        .ok (some (after.onLayer fun l => { l with quotes := .double, isDouble := true }).toggleDouble)
    else if l.quotes = .double then .ok (some (after.put c))
    else if c = '\'' then
      .ok (some (after.onLayer fun l => { l with quotes := .single }).putMark)
    else if wordEnds.contains c ∧ l.braces = 0 then .ok none
    else .ok (some (after.put c))

/-- Read on until the word or the document ends. -/
def loop (commands : CommandReader) : Nat → WordState → Except SyntaxError WordState
  | 0, s => .ok s
  | fuel + 1, s =>
    let advance (s : WordState) : Except SyntaxError WordState :=
      match s.step commands with
      | .error e => .error e
      | .ok none => .ok { s with reader := s.ahead }
      | .ok (some s) => loop commands fuel s
    match s.purpose, s.startsLine with
    | .document d, true =>
      let (ends, reader) := s.atDelimiter d
      let s := { s with reader, startsLine := false }
      if ends then .ok s else advance s
    | _, _ => advance s

/-- Nothing may be open where a word ends. -/
def finish (s : WordState) : Except SyntaxError WordState :=
  let r := s.reader
  if s.layer.quotes = .calculation then r.fail "Missing '))'"
  else if s.layer.quotes ≠ .none ∧ s.purpose = .word then r.fail "Unterminated quoted string"
  else if s.layer.braces ≠ 0 then r.fail "Missing '\x7d'"
  else .ok s

/-- More than the characters of any script. -/
def limit : Nat := 1000000000

/-- Read a word or a document. -/
def read (commands : CommandReader) (purpose : Purpose) (quotes : Quotes) (r : Reader) :
    Except SyntaxError WordState := do
  let layer : Layer := { quotes, isDouble := quotes = .double }
  let s ← loop commands limit { reader := r, purpose, layer, startsLine := true }
  s.finish

end WordState

end Shell

end GoldenCheck

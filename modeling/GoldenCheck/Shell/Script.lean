import GoldenCheck.Text.Utf8

/-!
# Shell scripts

The parts of a script of the POSIX shell: words, which expand to arguments, and commands, which
are simple or built from others. The shell works on bytes; here each byte is a character of its own
(`Chars`).
-/

namespace GoldenCheck

namespace Shell

/-- A text whose characters stand for bytes. -/
abbrev Chars := List Char

/-- The bytes of a text. -/
def toBytes (cs : Chars) : Bytes := cs.map fun c => UInt8.ofNat c.toNat

/-- The text of some bytes. -/
def ofBytes (bs : Bytes) : Chars := bs.map fun b => Char.ofNat b.toNat

/-- The text of a string, one character for each of its bytes. -/
def ofText (s : String) : Chars := ofBytes (Utf8.encode s)

/-- The string of a text. -/
def toText (cs : Chars) : String := Utf8.decodeLossy (toBytes cs)

/-- A character that a name can begin with. -/
def isNameStart (c : Char) : Bool := c.isAlpha || c == '_'

/-- A character that a name can have. -/
def isNameChar (c : Char) : Bool := c.isAlphanum || c == '_'

/-- A name of a variable. -/
def isName (cs : Chars) : Bool :=
  match cs with
  | [] => false
  | c :: rest => isNameStart c && rest.all isNameChar

/-- What `${name…}` does with the value of a parameter. -/
inductive Rule where
  /-- It has no meaning. -/
  | bad
  /-- Nothing. -/
  | value
  /-- `-`: another text for a parameter that is not set. -/
  | fallback
  /-- `+`: another text for a parameter that is set. -/
  | alternative
  /-- `?`: an error for a parameter that is not set. -/
  | demand
  /-- `=`: a parameter that is not set is set to another text. -/
  | assign
  /-- `#name`: the number of bytes. -/
  | length
  /-- `#` and `##`: without a pattern at the front. -/
  | trimFront (longest : Bool)
  /-- `%` and `%%`: without a pattern at the end. -/
  | trimBack (longest : Bool)
  deriving DecidableEq, Repr

/-- A part of a word, where commands are of type `C`. -/
inductive Part (C : Type) where
  /-- A character that was not quoted. -/
  | plain (c : Char)
  /-- A character that was quoted. -/
  | quoted (c : Char)
  /-- The beginning or the end of a quotation. -/
  | mark
  /-- A parameter; with a colon an empty one counts as one that is not set. -/
  | parameter (name : Chars) (rule : Rule) (colon : Bool) (operand : List (Part C))
  /-- `$((…))`. -/
  | arithmetic (text : List (Part C))
  /-- `$(…)`; there may be nothing in it. -/
  | output (command : Option C)

/-- A word. -/
abbrev Word (C : Type) := List (Part C)

/-- What is done with a descriptor. -/
inductive RedirectKind where
  /-- `<`. -/
  | read
  /-- `<>`. -/
  | readWrite
  /-- `>`. -/
  | write
  /-- `>|`. -/
  | clobber
  /-- `>>`. -/
  | append
  /-- `<&` and `>&`. -/
  | duplicate (forOutput : Bool)
  /-- `<<`, with the number of the document. -/
  | document (number : Nat) (expands : Bool)
  deriving DecidableEq, Repr

/-- A redirection. -/
structure Redirect (C : Type) where
  /-- The descriptor. -/
  descriptor : Nat
  /-- What is done with it. -/
  kind : RedirectKind
  /-- The file, or the other descriptor. -/
  operand : List (Part C)

/-- A command. Those that complain about something know their line. -/
inductive Node where
  /-- A program with its arguments, or assignments alone. -/
  | simple (line : Nat) (assignments words : List (List (Part Node)))
      (redirects : List (Redirect Node))
  /-- Commands of which each reads what the one before it writes. -/
  | pipe (inBackground : Bool) (stages : List Node)
  /-- A command whose status is turned round. -/
  | negate (n : Node)
  /-- `&&`. -/
  | both (a b : Node)
  /-- `||`. -/
  | either (a b : Node)
  /-- Commands one after the other. -/
  | sequence (a b : Node)
  /-- `&`. -/
  | background (line : Nat) (n : Node) (redirects : List (Redirect Node))
  /-- `(…)`. -/
  | subshell (line : Nat) (n : Node) (redirects : List (Redirect Node))
  /-- A command with redirections of its own. -/
  | redirected (line : Nat) (n : Node) (redirects : List (Redirect Node))
  /-- `if`. -/
  | choice (test yes : Node) (no : Option Node)
  /-- `for`. -/
  | forEach (line : Nat) (name : Chars) (words : List (List (Part Node))) (body : Node)
  /-- `while`, or `until`. -/
  | loop (untilTrue : Bool) (test body : Node)
  /-- `case`. -/
  | select (line : Nat) (word : List (Part Node))
      (arms : List (List (List (Part Node)) × Option Node))
  /-- The definition of a function. -/
  | define (line : Nat) (name : Chars) (body : Node)

/-- The word for all arguments, each in quotes. -/
def allArguments : Word Node := [.mark, .parameter ['@'] .value false [], .mark]

/-- The character of a part that is an unquoted one. -/
def Part.plain? : Part C → Option Char
  | .plain c => some c
  | _ => none

/-- The text of a word without any quotes or expansions. -/
def Word.text? (w : Word C) : Option Chars := w.mapM Part.plain?

/-- The word sets a variable: a name comes first, and `=` after it. -/
def isAssignment (w : Word C) : Bool :=
  let name := w.takeWhile fun p => (p.plain?.map isNameChar).getD false
  isName (name.filterMap Part.plain?) && ((w.drop name.length).head?.bind Part.plain?) == some '='

end Shell

end GoldenCheck

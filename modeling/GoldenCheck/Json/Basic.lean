/-!
# JSON texts

The values that the reports of this library consist of (`Json`), and their two written forms:
`compact`, without white space, and `pretty`, with one member or item to a line, two spaces for
each level, and a space after a colon. In a string only the quote, the backslash and the control
characters below U+0020 are escaped.
-/

namespace GoldenCheck

/-- A value: nothing, a natural number, a text, a list or a record with its members in order. -/
inductive Json where
  /-- `null`. -/
  | null
  /-- A number. -/
  | number (n : Nat)
  /-- A text. -/
  | text (s : String)
  /-- A list. -/
  | array (items : List Json)
  /-- A record. -/
  | object (members : List (String × Json))
  deriving Repr

namespace Json

/-- A text, or `null` for none. -/
def ofText? (s : Option String) : Json := (s.map text).getD null

/-- The digit for a number below sixteen. -/
def hexDigit (n : Nat) : Char := (Nat.digitChar n)

/-- A character as it stands in a string. -/
def escaped (c : Char) : List Char :=
  if c = '"' then ['\\', '"']
  else if c = '\\' then ['\\', '\\']
  else if c = '\x08' then ['\\', 'b']
  else if c = '\t' then ['\\', 't']
  else if c = '\n' then ['\\', 'n']
  else if c = '\x0c' then ['\\', 'f']
  else if c = '\r' then ['\\', 'r']
  else if c.toNat < 0x20 then
    ['\\', 'u', '0', '0', hexDigit (c.toNat / 16), hexDigit (c.toNat % 16)]
  else [c]

/-- A text with its quotes. -/
def quoted (s : String) : List Char := '"' :: s.toList.flatMap escaped ++ ['"']

/-- A new line at a level. -/
def lineAt (level : Nat) : List Char := '\n' :: List.replicate (2 * level) ' '

mutual

/-- A value without white space. -/
def compactChars : Json → List Char
  | .null => ['n', 'u', 'l', 'l']
  | .number n => (toString n).toList
  | .text s => quoted s
  | .array items => '[' :: (compactItems items).drop 1 ++ [']']
  | .object members => '\x7b' :: (compactMembers members).drop 1 ++ ['\x7d']

/-- Items, a comma before each. -/
def compactItems : List Json → List Char
  | [] => []
  | x :: rest => ',' :: compactChars x ++ compactItems rest

/-- Members, a comma before each. -/
def compactMembers : List (String × Json) → List Char
  | [] => []
  | (k, x) :: rest => ',' :: quoted k ++ ':' :: compactChars x ++ compactMembers rest

end

mutual

/-- A value with one item or member to a line, the value itself standing at a level. -/
def prettyChars (level : Nat) : Json → List Char
  | .null => ['n', 'u', 'l', 'l']
  | .number n => (toString n).toList
  | .text s => quoted s
  | .array items =>
    if items.isEmpty then ['[', ']']
    else '[' :: (prettyItems (level + 1) items).drop 1 ++ lineAt level ++ [']']
  | .object members =>
    if members.isEmpty then ['\x7b', '\x7d']
    else '\x7b' :: (prettyMembers (level + 1) members).drop 1 ++ lineAt level ++ ['\x7d']

/-- Items, a comma and a new line before each. -/
def prettyItems (level : Nat) : List Json → List Char
  | [] => []
  | x :: rest => ',' :: lineAt level ++ prettyChars level x ++ prettyItems level rest

/-- Members, a comma and a new line before each. -/
def prettyMembers (level : Nat) : List (String × Json) → List Char
  | [] => []
  | (k, x) :: rest =>
    ',' :: lineAt level ++ quoted k ++ ':' :: ' ' :: prettyChars level x
      ++ prettyMembers level rest

end

/-- The form without white space. -/
def compact (j : Json) : String := String.ofList j.compactChars

/-- The form with one item or member to a line. -/
def pretty (j : Json) : String := String.ofList (j.prettyChars 0)

end Json

end GoldenCheck

import GoldenCheck.Text.Utf8

/-!
# Names in messages

Tools put names into their messages so that it is clear where they end. `shellQuoted` writes a name
as a shell would read it, in quotes if that is needed; `curlyQuoted` puts it in curly quotes.
-/

namespace GoldenCheck

namespace Tools

/-- A part of a name. -/
inductive NamePart where
  /-- A character that can be shown, with its bytes. -/
  | shown (c : Char) (bytes : Bytes)
  /-- A byte that cannot. -/
  | hidden (b : UInt8)
  deriving DecidableEq, Repr

/-- The character that bytes begin with, and how many bytes it has. -/
def firstChar? (bs : Bytes) : Option (Char × Nat) :=
  match bs with
  | [] => none
  | b :: _ =>
    if b < 0x80 then some (Char.ofNat b.toNat, 1)
    else [2, 3, 4].findSome? fun n =>
      match (Utf8.decode? (bs.take n)).map String.toList with
      | some [c] => if (bs.take n).length = n then some (c, n) else none
      | _ => none

/-- A character that stands for something to be seen. -/
def isShown (c : Char) : Bool := ' ' ≤ c && c.toNat ≠ 127 && !(128 ≤ c.toNat && c.toNat < 160)

/-- The parts of a name. -/
def nameParts (name : Bytes) : List NamePart := go name (name.length + 1)
where
  /-- Go on. -/
  go (bs : Bytes) : Nat → List NamePart
    | 0 => []
    | fuel + 1 =>
      match bs with
      | [] => []
      | b :: rest =>
        match firstChar? bs with
        | some (c, n) =>
          if isShown c then .shown c (bs.take n) :: go (bs.drop n) fuel
          else (bs.take n).map .hidden ++ go (bs.drop n) fuel
        | none => .hidden b :: go rest fuel

/-- A byte that cannot be shown, after a backslash. -/
def escapedByte (b : UInt8) : Bytes :=
  match ([(7, "a"), (8, "b"), (9, "t"), (10, "n"), (11, "v"), (12, "f"), (13, "r")] :
      List (UInt8 × String)).lookup b with
  | some letter => Utf8.encode ("\\" ++ letter)
  | none =>
    let n := b.toNat
    [0x5C, UInt8.ofNat (48 + n / 64), UInt8.ofNat (48 + n / 8 % 8), UInt8.ofNat (48 + n % 8)]

/-- A name in curly quotes. -/
def curlyQuoted (name : Bytes) : Bytes :=
  let body := (nameParts name).flatMap fun
    | .shown '\\' _ => Utf8.encode "\\\\"
    | .shown _ bytes => bytes
    | .hidden b => escapedByte b
  Utf8.encode "‘" ++ body ++ Utf8.encode "’"

/-- A character that has a meaning for a shell at some place in a word; after a colon a name is
quoted as well. -/
def isSpecial (isFirst isOnly : Bool) (c : Char) : Bool :=
  if c = '{' ∨ c = '}' then isOnly
  else if c = '#' ∨ c = '~' then isFirst
  else " !\"$&()*;<=>?[^\x60|'\\:".toList.contains c

/-- A character that means the same in single and in double quotes. -/
def isSafe (isFirst : Bool) (c : Char) : Bool :=
  c.isAlphanum || " '%+,-./:@]_".toList.contains c || 128 ≤ c.toNat
    || (isFirst && (c = '#' || c = '~'))

/-- A name in the quotes of a shell. A single quote stands between quotations. If there is one, and
the name ends in an escape, the quotation begins as if an escape came before it. -/
def quotedParts (parts : List NamePart) : Bytes :=
  let allSafe := parts.zipIdx.all fun
    | (.shown c _, k) => isSafe (k = 0) c
    | (.hidden _, _) => false
  let hasQuote := parts.any fun
    | .shown c _ => c = '\''
    | .hidden _ => false
  let endsInEscape := parts.getLast?.any fun
    | .shown _ _ => false
    | .hidden _ => true
  if allSafe && hasQuote then
    [0x22] ++ parts.flatMap (fun
      | .shown _ bytes => bytes
      | .hidden _ => []) ++ [0x22]
  else [0x27] ++ go (hasQuote && endsInEscape) parts ++ [0x27]
where
  /-- Go on; bytes that cannot be shown are in quotes of their own. -/
  go (inEscape : Bool) : List NamePart → Bytes
    | [] => []
    | .shown '\'' _ :: rest => Utf8.encode "'\\''" ++ go false rest
    | .shown _ bytes :: rest =>
      (if inEscape then Utf8.encode "''" else []) ++ bytes ++ go false rest
    | .hidden b :: rest =>
      (if inEscape then [] else Utf8.encode "'$'") ++ escapedByte b ++ go true rest

/-- A name as a shell reads it, in quotes. -/
def alwaysQuoted (name : Bytes) : Bytes := quotedParts (nameParts name)

/-- A name as a shell reads it, in quotes if that is needed. -/
def shellQuoted (name : Bytes) : Bytes :=
  let parts := nameParts name
  let isSingle := (parts.drop 1).isEmpty
  let needsQuotes := parts.isEmpty || parts.zipIdx.any fun (p, k) =>
    match p with
    | .shown c _ => isSpecial (k = 0) isSingle c
    | .hidden _ => true
  if needsQuotes then quotedParts parts else name

end Tools

end GoldenCheck

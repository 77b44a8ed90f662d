/-!
# Bytes and UTF-8

Report bodies, paths and program output are byte strings (`Bytes`); texts are `String`s. This
module goes between the two. A byte string is read one byte at a time by a small machine
(`Decoder.step`) that remembers how much of a character it has seen (`Partial`). The machine
cuts the input into `Piece`s: characters, and *broken* stretches. A broken stretch is the
longest run of bytes that begins a well-formed character and is then not continued, or else a
single byte that begins none.

`decodeLossy` puts U+FFFD for each broken stretch, `decode?` refuses a text that has one, and
`encode` writes a text as bytes.
-/

namespace GoldenCheck

/-- The content of a file, of a pipe or of a path. -/
abbrev Bytes := List UInt8

namespace Utf8

/-- The first bytes of a character of several bytes. -/
structure Partial where
  /-- The bits of the code point read so far. -/
  bits : Nat
  /-- How many bytes come after the next one. -/
  more : Nat
  /-- The least byte that may come next. -/
  low : UInt8
  /-- The greatest byte that may come next. -/
  high : UInt8
  deriving DecidableEq, Repr

/-- A piece of a decoded byte string. -/
inductive Piece where
  /-- A well-formed character. -/
  | char (c : Char)
  /-- A stretch of bytes that is no character. -/
  | broken
  deriving DecidableEq, Repr

/-- The machine's state: what is pending, and the pieces so far, newest first. -/
structure Decoder where
  /-- The character that is being read, if one is. -/
  pending : Option Partial
  /-- The pieces already read, newest first. -/
  pieces : List Piece
  deriving DecidableEq, Repr

/-- What a byte that begins a character of several bytes leaves to be read. The bounds on the
next byte exclude overlong forms, surrogates and code points above U+10FFFF. -/
def lead? (b : UInt8) : Option Partial :=
  let n := b.toNat
  if 0xC2 ≤ n ∧ n ≤ 0xDF then some ⟨n - 0xC0, 0, 0x80, 0xBF⟩
  else if n = 0xE0 then some ⟨0, 1, 0xA0, 0xBF⟩
  else if n = 0xED then some ⟨0x0D, 1, 0x80, 0x9F⟩
  else if 0xE1 ≤ n ∧ n ≤ 0xEF then some ⟨n - 0xE0, 1, 0x80, 0xBF⟩
  else if n = 0xF0 then some ⟨0, 2, 0x90, 0xBF⟩
  else if 0xF1 ≤ n ∧ n ≤ 0xF3 then some ⟨n - 0xF0, 2, 0x80, 0xBF⟩
  else if n = 0xF4 then some ⟨4, 2, 0x80, 0x8F⟩
  else none

/-- Read a byte that stands at the start of a character. -/
def Decoder.start (pieces : List Piece) (b : UInt8) : Decoder :=
  if b < 0x80 then ⟨none, .char (Char.ofNat b.toNat) :: pieces⟩
  else match lead? b with
    | some p => ⟨some p, pieces⟩
    | none => ⟨none, .broken :: pieces⟩

/-- Read one byte. A byte that cannot continue the pending character ends a broken stretch and
is then read as the start of the next character. -/
def Decoder.step (d : Decoder) (b : UInt8) : Decoder :=
  match d.pending with
  | none => .start d.pieces b
  | some p =>
    if p.low ≤ b ∧ b ≤ p.high then
      let bits := p.bits * 64 + (b.toNat - 0x80)
      match p.more with
      | 0 => ⟨none, .char (Char.ofNat bits) :: d.pieces⟩
      | more + 1 => ⟨some ⟨bits, more, 0x80, 0xBF⟩, d.pieces⟩
    else .start (.broken :: d.pieces) b

/-- The pieces of a finished input, newest first: a character cut off by the end is broken. -/
def Decoder.finish (d : Decoder) : List Piece :=
  match d.pending with
  | none => d.pieces
  | some _ => .broken :: d.pieces

/-- The pieces of a byte string, in order. -/
def pieces (bs : Bytes) : List Piece :=
  (bs.foldl Decoder.step ⟨none, []⟩).finish.reverse

/-- The character a piece stands for in a text: U+FFFD for a broken stretch. -/
def Piece.shown : Piece → Char
  | .char c => c
  | .broken => '\uFFFD'

/-- The character of a piece that is one. -/
def Piece.char? : Piece → Option Char
  | .char c => some c
  | .broken => none

/-- A byte string as a text, every broken stretch replaced by U+FFFD. -/
def decodeLossy (bs : Bytes) : String :=
  String.ofList ((pieces bs).map Piece.shown)

/-- The text that a byte string encodes, if it encodes one. -/
def decode? (bs : Bytes) : Option String :=
  ((pieces bs).mapM Piece.char?).map String.ofList

/-- A text as bytes. -/
def encode (s : String) : Bytes :=
  s.toList.flatMap String.utf8EncodeChar

theorem encode_append (s t : String) : encode (s ++ t) = encode s ++ encode t := by
  simp [encode]

end Utf8

end GoldenCheck

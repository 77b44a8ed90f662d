import GoldenCheck.Decimal.Digit
import GoldenCheck.Tools.Basic

/-!
# Colors of changes

A `Palette` says which bytes stand before and after a text that is shown in a color
(`Palette.painted`). Its parts can be changed by a text with settings such as `ad=32:de=31`
(`Palette.read`); what is set can be written with escapes (`Palette.value?`).
-/

namespace GoldenCheck

namespace Tools

namespace Diff

/-- When colors are used. -/
inductive Coloring where
  /-- They are not. -/
  | never
  /-- Where the output is a terminal. -/
  | terminal
  /-- They are. -/
  | always
  deriving DecidableEq, Repr

/-- What has a color of its own. -/
inductive Paint where
  /-- The names of files. -/
  | names
  /-- The numbers of lines. -/
  | place
  /-- Lines of the first file. -/
  | old
  /-- Lines of the second file. -/
  | new
  deriving DecidableEq, Repr

/-- The bytes that change colors. -/
structure Palette where
  /-- What stands before a color. -/
  left : Bytes := [0x1B, 0x5B]
  /-- What stands after a color. -/
  right : Bytes := bytes "m"
  /-- No color. -/
  none : Bytes := bytes "0"
  /-- The names of files. -/
  names : Bytes := bytes "1"
  /-- The numbers of lines. -/
  place : Bytes := bytes "36"
  /-- Lines of the first file. -/
  old : Bytes := bytes "31"
  /-- Lines of the second file. -/
  new : Bytes := bytes "32"
  deriving DecidableEq, Repr

namespace Palette

/-- The color of something. -/
def color (p : Palette) : Paint → Bytes
  | .names => p.names
  | .place => p.place
  | .old => p.old
  | .new => p.new

/-- A text in a color. -/
def painted (p : Palette) (paint : Paint) (text : Bytes) : Bytes :=
  p.left ++ p.color paint ++ p.right ++ text ++ p.left ++ p.none ++ p.right

/-! ### Settings -/

/-- The bytes that letters after a backslash stand for. -/
def letters : List (UInt8 × UInt8) :=
  [(0x61, 7), (0x62, 8), (0x65, 27), (0x66, 12), (0x6E, 10), (0x72, 13), (0x74, 9), (0x76, 11),
   (0x3F, 127), (0x5F, 32)]

/-- The digits of a base at the beginning, as a byte, and what follows them. -/
def byteOf (base : Nat) (text : Bytes) : UInt8 × Bytes :=
  let char (b : UInt8) : Char := Char.ofNat b.toNat
  let (digits, rest) := text.span fun b => digit (char b) < base
  (UInt8.ofNat (numberOf base (digits.map char)), rest)

/-- The value at the beginning of a text, up to a colon or else to an equals sign, and what follows
it. -/
def value? (stopsAtEquals : Bool) (text : Bytes) : Option (Bytes × Bytes) := go text.length text
where
  /-- One more byte. -/
  more (b : UInt8) (found : Option (Bytes × Bytes)) : Option (Bytes × Bytes) :=
    found.map fun (bs, rest) => (b :: bs, rest)
  /-- Go on. -/
  go : Nat → Bytes → Option (Bytes × Bytes)
    | _, [] => some ([], [])
    | 0, text => some ([], text)
    | fuel + 1, b :: rest =>
      if b = 0x3A ∨ (b = 0x3D ∧ stopsAtEquals) then some ([], b :: rest)
      else if b = 0x5C then
        match rest with
        | [] => .none
        | c :: after =>
          if 0x30 ≤ c ∧ c ≤ 0x37 then
            let (n, after) := byteOf 8 rest
            more n (go fuel after)
          else if c = 0x78 ∨ c = 0x58 then
            let (n, after) := byteOf 16 after
            more n (go fuel after)
          else more ((letters.lookup c).getD c) (go fuel after)
      else if b = 0x5E then
        match rest with
        | [] => .none
        | c :: after =>
          if 0x40 ≤ c ∧ c ≤ 0x7E then more (c &&& 0x1F) (go fuel after)
          else if c = 0x3F then more 127 (go fuel rest)
          else .none
      else more b (go fuel rest)

/-- Set the part of a key, if there is one. -/
def set? (p : Palette) (key : Bytes) (value : Bytes) : Option Palette :=
  if key = bytes "lc" then some { p with left := value }
  else if key = bytes "rc" then some { p with right := value }
  else if key = bytes "ec" then some p
  else if key = bytes "rs" then some { p with none := value }
  else if key = bytes "hd" then some { p with names := value }
  else if key = bytes "ad" then some { p with new := value }
  else if key = bytes "de" then some { p with old := value }
  else if key = bytes "ln" then some { p with place := value }
  else .none

/-- Change a palette by settings; or the key that is wrong, if it is known. -/
def read (p : Palette) (text : Bytes) : Except (Option Bytes) Palette := go text.length p text
where
  /-- Go on. -/
  go : Nat → Palette → Bytes → Except (Option Bytes) Palette
    | _, p, [] => .ok p
    | 0, p, _ => .ok p
    | fuel + 1, p, 0x3A :: rest => go fuel p rest
    | fuel + 1, p, 0x2A :: rest =>
      match value? true rest with
      | some (_, 0x3D :: after) =>
        match value? false after with
        | some (_, after) => go fuel p after
        | .none => .error .none
      | _ => .error .none
    | fuel + 1, p, a :: b :: 0x3D :: rest =>
      match (value? false rest).bind fun (v, after) => (p.set? [a, b] v).map (·, after) with
      | some (p, after) => go fuel p after
      | .none => .error (some [a, b])
    | _, _, _ => .error .none

end Palette

end Diff

end Tools

end GoldenCheck

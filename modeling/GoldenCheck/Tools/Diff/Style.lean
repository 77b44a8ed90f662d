import GoldenCheck.Tools.Basic
import GoldenCheck.Tools.Diff.Color
import GoldenCheck.Tools.Diff.Lines
import GoldenCheck.Tools.RegexReader

/-!
# How files are compared and changes are written

A `Style` holds what the options of `diff` say: which lines count as equal, which changes do not
matter, and in what format the others are written.
-/

namespace GoldenCheck

namespace Tools

namespace Diff

/-- The formats for changes. -/
inductive Format where
  /-- Line numbers and lines. -/
  | normal
  /-- The lines around a change of both files, one part after the other. -/
  | context
  /-- The lines around a change, once. -/
  | unified
  /-- Commands for a line editor, the last change first. -/
  | editor
  /-- The same, the first change first. -/
  | forward
  /-- Commands that count lines. -/
  | counted
  /-- The files side by side. -/
  | columns
  /-- Both files in one, as formats say. -/
  | merged
  deriving DecidableEq, Repr

/-- What became of a group of lines. -/
inductive Fate where
  /-- Both files have it. -/
  | unchanged
  /-- The first file has it. -/
  | old
  /-- The second file has it. -/
  | new
  /-- The files have different lines. -/
  | changed
  deriving DecidableEq, Repr

/-- Formats given for fates. -/
abbrev FateFormats := List (Fate × Bytes)

/-- What the options say. -/
structure Style where
  /-- The format. -/
  format : Option Format := none
  /-- How many lines around a change are shown. -/
  context : Nat := 0
  /-- That number was given with the format. -/
  fixesContext : Bool := false
  /-- That number, given in digits of its own. -/
  digits : Option Nat := none
  /-- All files are texts. -/
  isText : Bool := false
  /-- Blanks at the end of a line do not count. -/
  dropsLast : Bool := false
  /-- A tab counts as the blanks that it stands for. -/
  expandsTabs : Bool := false
  /-- It counts where there are blanks. -/
  ignoresAmount : Bool := false
  /-- No blanks count. -/
  ignoresBlanks : Bool := false
  /-- Upper and lower case are the same. -/
  ignoresCase : Bool := false
  /-- Carriage returns at ends of lines do not count. -/
  dropsReturns : Bool := false
  /-- Changes of blank lines do not matter. -/
  ignoresBlankLines : Bool := false
  /-- Changes of lines that match do not matter. -/
  ignored : List Regex := []
  /-- Lines that match tell where a change is. -/
  headings : List Regex := []
  /-- The changes shall be as small as possible. -/
  isMinimal : Bool := false
  /-- Only that files differ is told. -/
  isBrief : Bool := false
  /-- That files are identical is told. -/
  tellsIdentical : Bool := false
  /-- A file that is missing counts as empty. -/
  addsFiles : Bool := false
  /-- The first of two files counts as empty if it is missing. -/
  addsFirst : Bool := false
  /-- Directories inside directories are compared. -/
  isDeep : Bool := false
  /-- Tabs are written as blanks. -/
  writesBlanks : Bool := false
  /-- A tab is written before each line. -/
  startsWithTab : Bool := false
  /-- Nothing is written before empty lines. -/
  bareEmpty : Bool := false
  /-- How far apart tab stops are. -/
  tabSize : Option Nat := none
  /-- How wide two columns are. -/
  width : Option Nat := none
  /-- Of lines that both files have only the left column is written. -/
  leftOnly : Bool := false
  /-- Lines that both files have are not written. -/
  hidesCommon : Bool := false
  /-- The lengths of parts are written. -/
  countsParts : Bool := false
  /-- What is written instead of names. -/
  labels : List Bytes := []
  /-- Where directories begin to be compared. -/
  firstName : Option Bytes := none
  /-- A file that is compared with all operands. -/
  sourceFile : Option Bytes := none
  /-- A file that all operands are compared with. -/
  targetFile : Option Bytes := none
  /-- Patterns for names in directories that are left out. -/
  excluded : List Bytes := []
  /-- Upper and lower case are the same in names. -/
  foldsNames : Bool := false
  /-- How many lines that both files begin or end with are looked at. -/
  horizon : Nat := 0
  /-- A function in C is shown for each change. -/
  showsFunctions : Bool := false
  /-- The formats of groups of lines. -/
  groupFormats : FateFormats := []
  /-- The formats of lines. -/
  lineFormats : FateFormats := []
  /-- When colors are used. -/
  coloring : Coloring := .never
  /-- The settings of the palette. -/
  colors : Bytes := []
  /-- The output counts as a terminal. -/
  isTerminal : Bool := false
  /-- The colors that are used. -/
  palette : Option Palette := none
  /-- The option that came before is a digit. -/
  afterDigit : Bool := false

namespace Style

/-- The format that is used. -/
def shape (s : Style) : Format :=
  match s.format with
  | some format => format
  | none => if s.showsFunctions then .context else .normal

/-- How many lines around a change are shown. -/
def around (s : Style) : Nat :=
  let own := if s.format = none ∧ s.showsFunctions ∧ s.digits = none then 3 else s.context
  match s.digits with
  | none => own
  | some n =>
    if (s.shape = .context ∨ s.shape = .unified) ∧ (own < n ∨ (n < own ∧ !s.fixesContext)) then n
    else own

/-- How far apart tab stops are. -/
def tabs (s : Style) : Nat := s.tabSize.getD 8

/-- How wide two columns are. -/
def columns (s : Style) : Nat := s.width.getD 130

/-- Which lines count as equal. -/
def rule (s : Style) : LineRule where
  blanks :=
    if s.ignoresBlanks then .none
    else if s.ignoresAmount then .place
    else if s.dropsLast then .last
    else if s.expandsTabs then .tabs
    else .all
  ignoresCase := s.ignoresCase
  tabSize := s.tabs

/-- The line feed at the end of a file counts. -/
def countsLast (s : Style) : Bool := s.shape ≠ .editor && s.shape ≠ .forward

/-- Some changes may not matter. -/
def ignoresChanges (s : Style) : Bool := s.ignoresBlankLines || !s.ignored.isEmpty

/-- Files need not be cut into lines to tell whether they differ. -/
def comparesBytes (s : Style) : Bool :=
  s.isBrief && !s.ignoresChanges && !s.ignoresCase && !s.dropsReturns && s.rule.blanks = .all

/-- The format of a line. -/
def lineFormat (s : Style) (f : Fate) : Bytes := (s.lineFormats.lookup f).getD (bytes "%l\n")

/-- The format of a group of lines. -/
def groupFormat (s : Style) (f : Fate) : Bytes :=
  let changed := s.groupFormats.lookup .changed
  let old := (s.groupFormats.lookup .old <|> changed).getD (bytes "%<")
  let new := (s.groupFormats.lookup .new <|> changed).getD (bytes "%>")
  match f with
  | .unchanged => (s.groupFormats.lookup .unchanged).getD (bytes "%=")
  | .old => old
  | .new => new
  | .changed => changed.getD (old ++ new)

/-- Nothing is written when there are no changes. -/
def isSilent (s : Style) : Bool :=
  match s.shape with
  | .merged =>
    let group := s.groupFormat .unchanged
    group.isEmpty || (group = bytes "%=" && (s.lineFormat .unchanged).isEmpty)
  | .columns => s.hidesCommon
  | _ => true

/-- A text in a color, if colors are used. -/
def painted (s : Style) (paint : Paint) (text : Bytes) : Bytes :=
  match s.palette with
  | some p => p.painted paint text
  | none => text

/-- A text in a color, if it has one and colors are used. -/
def maybePainted (s : Style) (paint : Option Paint) (text : Bytes) : Bytes :=
  match paint with
  | some paint => s.painted paint text
  | none => text

/-! ### Options -/

/-- Write changes in a format; two formats are too many. -/
def writing (s : Style) (format : Format) : ToolM Style := do
  if s.format.isSome ∧ s.format ≠ some format then
    misused (bytes "conflicting output style options")
  return { s with format := some format }

/-- Show at least so many lines around a change. -/
def showing (s : Style) (count : Nat) : Style := { s with context := max s.context count }

/-- A value that may be given twice only if it stays the same. -/
def agree (option : String) (old : Option Bytes) (value : Bytes) : ToolM (Option Bytes) := do
  if old.any (· ≠ value) then
    misused (bytes ("conflicting " ++ option ++ " option value '") ++ value ++ bytes "'")
  return some value

/-- The number that an argument is, if it is one from 0 on. -/
def number? (argument : Bytes) : Option Nat :=
  let cs := (argument.map fun b => Char.ofNat b.toNat).dropWhile isSpace
  let (isNegative, digits) := match cs with
    | '-' :: rest => (true, rest)
    | '+' :: rest => (false, rest)
    | rest => (false, rest)
  if argument.isEmpty then some 0
  else if digits.isEmpty ∨ !digits.all Char.isDigit then none
  else
    let n := numberOf 10 digits
    if isNegative ∧ n ≠ 0 then none else some n

/-- The number of an option. -/
def numberFor (what : String) (allows : Nat → Bool) (argument : Bytes) : ToolM Nat := do
  match number? argument with
  | some n => if allows n then return n
  | none => pure ()
  misused (bytes ("invalid " ++ what ++ " '") ++ argument ++ bytes "'")

/-- More lines around a change than any file has. -/
def contextLimit : Nat := Nat.pow 2 62

/-- Add a regular expression. -/
def addRegex (known : List Regex) (argument : Bytes) : ToolM (List Regex) := do
  match Regex.read argument with
  | .ok r => return known ++ [r]
  | .error words => stop (argument ++ bytes (": " ++ words))

/-- The formats of groups for `#ifdef`. -/
def ifdefFormats (name : Bytes) : FateFormats :=
  let directive (words : String) : Bytes := bytes ("#" ++ words ++ " ") ++ name ++ bytes "\n"
  let note (words negation : String) : Bytes :=
    bytes ("#" ++ words ++ " /* " ++ negation) ++ name ++ bytes " */\n"
  [(.unchanged, bytes "%="),
   (.old, directive "ifndef" ++ bytes "%<" ++ note "endif" "! "),
   (.new, directive "ifdef" ++ bytes "%>" ++ note "endif" ""),
   (.changed, directive "ifndef" ++ bytes "%<" ++ note "else" "" ++ bytes "%>" ++ note "endif" "")]

/-- Give formats; each only one. -/
def addFormats (option : String) (known new : FateFormats) : ToolM FateFormats :=
  new.foldlM (fun known (fate, format) => do
    let _ ← agree option (known.lookup fate) format
    return (fate, format) :: known) known

/-- Read a file with patterns, one a line. -/
def readPatterns (name : Bytes) : ToolM (List Bytes) := do
  let opened ← if name = bytes "-" then pure (.ok 0) else openToRead ⟨name⟩
  let content ← match opened with
    | .error e => pure (.error e)
    | .ok descriptor => do
      let content ← call (Task.readAll descriptor)
      if descriptor ≠ 0 then close descriptor
      pure content
  match content with
  | .ok content => return (splitLines content).filter (!·.isEmpty)
  | .error e => stop (name ++ bytes (": " ++ e.words))

/-- The options with an argument in words for a fate. -/
def fates : List (String × Fate) :=
  [("unchanged", .unchanged), ("old", .old), ("new", .new), ("changed", .changed)]

/-- An option that gives the format of a group or of a line. -/
def formatOption (s : Style) (key : String) (argument : Bytes) : ToolM Style := do
  match fates.find? fun f => key = f.1 ++ "-group-format" with
  | some (_, fate) => do
    let s ← s.writing .merged
    return { s with groupFormats := ← addFormats ("--" ++ key) s.groupFormats [(fate, argument)] }
  | none =>
    match fates.find? fun f => key = f.1 ++ "-line-format" with
    | some (_, fate) => do
      let s ← s.writing .merged
      return { s with lineFormats := ← addFormats ("--" ++ key) s.lineFormats [(fate, argument)] }
    | none => return s

/-- An option that says how lines are compared or which files. -/
def compareOption (s : Style) (key : String) (argument : Bytes) : ToolM Style :=
  match key with
  | "a" => return { s with isText := true }
  | "b" => return { s with ignoresAmount := true }
  | "B" => return { s with ignoresBlankLines := true }
  | "d" => return { s with isMinimal := true }
  | "E" => return { s with expandsTabs := true }
  | "i" => return { s with ignoresCase := true }
  | "I" => return { s with ignored := ← addRegex s.ignored argument }
  | "N" => return { s with addsFiles := true }
  | "P" => return { s with addsFirst := true }
  | "r" => return { s with isDeep := true }
  | "S" => return { s with firstName := ← agree "-S" s.firstName argument }
  | "w" => return { s with ignoresBlanks := true }
  | "x" => return { s with excluded := s.excluded ++ [argument] }
  | "X" => return { s with excluded := s.excluded ++ (← readPatterns argument) }
  | "Z" => return { s with dropsLast := true }
  | "from-file" => return { s with sourceFile := ← agree "--from-file" s.sourceFile argument }
  | "to-file" => return { s with targetFile := ← agree "--to-file" s.targetFile argument }
  | "horizon-lines" => do
    let n ← numberFor "horizon length" (fun _ => true) argument
    return { s with horizon := max s.horizon (min n contextLimit) }
  | "ignore-file-name-case" => return { s with foldsNames := true }
  | "no-ignore-file-name-case" => return { s with foldsNames := false }
  | "strip-trailing-cr" => return { s with dropsReturns := true }
  | _ => s.formatOption key argument

/-- An option that says how changes are written. -/
def writeOption (s : Style) (key : String) (argument : Option Bytes) : ToolM Style :=
  let value := argument.getD []
  match key with
  | "c" => return (← s.writing .context).showing 3
  | "C" | "U" => do
    let n ← match argument with
      | some argument => numberFor "context length" (fun _ => true) argument
      | none => pure 3
    let s ← s.writing (if key = "C" then .context else .unified)
    return { s.showing (min n contextLimit) with fixesContext := true }
  | "D" => do
    let s ← s.writing .merged
    return { s with groupFormats := ← addFormats "-D" s.groupFormats (ifdefFormats value) }
  | "e" => s.writing .editor
  | "f" => s.writing .forward
  | "F" => return { s with headings := ← addRegex s.headings value }
  | "L" => do
    if 2 ≤ s.labels.length then stop (bytes "too many file label options")
    return { s with labels := s.labels ++ [value] }
  | "n" => s.writing .counted
  | "normal" => s.writing .normal
  | "p" =>
    return { s with showsFunctions := true
                    headings := ← addRegex s.headings (bytes "^[[:alpha:]$_]") }
  | "q" => return { s with isBrief := true }
  | "s" => return { s with tellsIdentical := true }
  | "t" => return { s with writesBlanks := true }
  | "T" => return { s with startsWithTab := true }
  | "u" => return (← s.writing .unified).showing 3
  | "v" => Tool.describe
  | "W" => do
    let n ← numberFor "width" (0 < ·) value
    if s.width.any (· ≠ n) then stop (bytes "conflicting width options")
    return { s with width := some n }
  | "y" => s.writing .columns
  | "sdiff-merge-assist" => return { ← s.writing .columns with countsParts := true }
  | "left-column" => return { s with leftOnly := true }
  | "suppress-common-lines" => return { s with hidesCommon := true }
  | "suppress-blank-empty" => return { s with bareEmpty := true }
  | "line-format" => do
    let s ← s.writing .merged
    let formats := [Fate.unchanged, .old, .new].map (·, value)
    return { s with lineFormats := ← addFormats "--line-format" s.lineFormats formats }
  | "tabsize" => do
    let n ← numberFor "tabsize" (0 < ·) value
    if s.tabSize.any (· ≠ n) then stop (bytes "conflicting tabsize options")
    return { s with tabSize := some n }
  | "color" => do
    let uses : List (Option Bytes × Coloring) :=
      [(none, .terminal), (some (bytes "auto"), .terminal), (some (bytes "always"), .always),
       (some (bytes "never"), .never)]
    match uses.lookup argument with
    | some coloring => return { s with coloring }
    | none => misused (bytes "invalid color '" ++ value ++ bytes "'")
  | "palette" => return { s with colors := value }
  | "-presume-output-tty" => return { s with isTerminal := true }
  | _ => s.compareOption key value

/-- One more option. -/
def option (s : Style) (key : String) (argument : Option Bytes) : ToolM Style :=
  match key.toList with
  | [c] =>
    if c.isDigit then
      let n := if s.afterDigit then 10 * s.digits.getD 0 + digit c else digit c
      return { s with digits := some n, afterDigit := true }
    else { s with afterDigit := false }.writeOption key argument
  | _ => { s with afterDigit := false }.writeOption key argument

/-- The options. -/
def options : OptionTable where
  letters :=
    let plain := "0123456789abBcdeEfhHilnNpPqrstTuvwyZ".toList.map (·, Taking.nothing)
    plain ++ "CDFILSUWxX".toList.map (·, Taking.argument)
  names :=
    [("binary", .nothing, "binary"), ("brief", .nothing, "q"),
     ("changed-group-format", .argument, "changed-group-format"), ("color", .perhaps, "color"),
     ("context", .perhaps, "C"), ("ed", .nothing, "e"), ("exclude", .argument, "x"),
     ("exclude-from", .argument, "X"), ("expand-tabs", .nothing, "t"),
     ("forward-ed", .nothing, "f"), ("from-file", .argument, "from-file"),
     ("help", .nothing, "help"), ("horizon-lines", .argument, "horizon-lines"),
     ("ifdef", .argument, "D"), ("ignore-all-space", .nothing, "w"),
     ("ignore-blank-lines", .nothing, "B"), ("ignore-case", .nothing, "i"),
     ("ignore-file-name-case", .nothing, "ignore-file-name-case"),
     ("ignore-matching-lines", .argument, "I"), ("ignore-space-change", .nothing, "b"),
     ("ignore-tab-expansion", .nothing, "E"), ("ignore-trailing-space", .nothing, "Z"),
     ("inhibit-hunk-merge", .nothing, "inhibit-hunk-merge"), ("initial-tab", .nothing, "T"),
     ("label", .argument, "L"), ("left-column", .nothing, "left-column"),
     ("line-format", .argument, "line-format"), ("minimal", .nothing, "d"),
     ("new-file", .nothing, "N"), ("new-group-format", .argument, "new-group-format"),
     ("new-line-format", .argument, "new-line-format"),
     ("no-dereference", .nothing, "no-dereference"),
     ("no-ignore-file-name-case", .nothing, "no-ignore-file-name-case"),
     ("normal", .nothing, "normal"), ("old-group-format", .argument, "old-group-format"),
     ("old-line-format", .argument, "old-line-format"), ("paginate", .nothing, "l"),
     ("palette", .argument, "palette"), ("rcs", .nothing, "n"), ("recursive", .nothing, "r"),
     ("report-identical-files", .nothing, "s"),
     ("sdiff-merge-assist", .nothing, "sdiff-merge-assist"), ("show-c-function", .nothing, "p"),
     ("show-function-line", .argument, "F"), ("side-by-side", .nothing, "y"),
     ("speed-large-files", .nothing, "H"), ("starting-file", .argument, "S"),
     ("strip-trailing-cr", .nothing, "strip-trailing-cr"),
     ("suppress-blank-empty", .nothing, "suppress-blank-empty"),
     ("suppress-common-lines", .nothing, "suppress-common-lines"),
     ("tabsize", .argument, "tabsize"), ("text", .nothing, "a"), ("to-file", .argument, "to-file"),
     ("unchanged-group-format", .argument, "unchanged-group-format"),
     ("unchanged-line-format", .argument, "unchanged-line-format"),
     ("unidirectional-new-file", .nothing, "P"), ("unified", .perhaps, "U"),
     ("version", .nothing, "v"), ("width", .argument, "W"),
     ("-no-directory", .nothing, "-no-directory"),
     ("-presume-output-tty", .nothing, "-presume-output-tty")]

end Style

end Diff

end Tools

end GoldenCheck

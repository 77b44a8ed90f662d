import GoldenCheck.Outcome
import GoldenCheck.Text.Lines

/-!
# The console report

A run as text for people: a banner, a line for each case as it ends, then what is known about
each failure, and a closing line with the counts. Colours are optional.
-/

namespace GoldenCheck

/-- How the console report looks. -/
structure ConsoleStyle where
  /-- Tell the time and the output path of each case. -/
  verbose : Bool
  /-- Paint with terminal colours. -/
  coloured : Bool
  deriving DecidableEq, Repr

/-- What the console report paints. -/
inductive Ink where
  /-- A heading. -/
  | bold
  /-- Good news. -/
  | green
  /-- Bad news. -/
  | red
  /-- A heading that is good news. -/
  | boldGreen
  /-- A heading that is bad news. -/
  | boldRed
  deriving DecidableEq, Repr

/-- The terminal's code for an ink. -/
def Ink.code : Ink → String
  | .bold => "1"
  | .green => "32"
  | .red => "31"
  | .boldGreen => "1;32"
  | .boldRed => "1;31"

/-- A text in an ink, and the terminal's own colour again after it. -/
def Ink.painted (ink : Ink) (text : String) : String :=
  "\x1b[" ++ ink.code ++ "m" ++ text ++ "\x1b[0m"

/-- The closing line of a run. -/
def summaryLine (passed failed : Nat) (duration : Duration) : String :=
  let parts :=
    (if passed > 0 then [toString passed ++ " passed"] else [])
      ++ (if failed > 0 then [toString failed ++ " failed"] else [])
  let counts := if parts.isEmpty then "no cases ran" else String.intercalate ", " parts
  "====== " ++ counts ++ " in " ++ duration.hundredths ++ "s ======"

namespace ConsoleStyle

/-- A text in an ink, where the style has colours. -/
def paint (style : ConsoleStyle) (ink : Ink) (text : String) : String :=
  if style.coloured then ink.painted text else text

/-- The lines that open a run. -/
def opening (style : ConsoleStyle) (count : Nat) : List String :=
  [style.paint .bold "=================== golden report check ===================",
   "collected " ++ toString count ++ " case(s)", ""]

/-- The line for a case that ended. -/
def caseLine (style : ConsoleStyle) (o : CaseOutcome) : String :=
  let status := style.paint (if o.isPass then .green else .red) o.verdict.word
  let kind := (o.error.map fun e => " [" ++ e.failure.kind ++ "]").getD ""
  let timing := " (" ++ toString o.duration.millis ++ "ms) -> " ++ o.output.display
  o.name ++ " " ++ status ++ kind ++ (if style.verbose then timing else "")

/-- What is known about a failure. -/
def failureLines (o : CaseOutcome) : List String :=
  ["", "___________ " ++ o.name ++ " ___________"]
    ++ (o.error.map fun e => "    " ++ e.message).toList
    ++ ["    generated: " ++ o.output.display, "    reference: " ++ o.reference.display]
    ++ ((o.difference.map linesOf).getD []).map ("    " ++ ·)

/-- The lines that close a run. -/
def closing (style : ConsoleStyle) (s : RunSummary) : List String :=
  let heading := ["", style.paint .boldRed "=================== FAILURES ==================="]
  (if s.failures.isEmpty then [] else heading ++ s.failures.flatMap failureLines)
    ++ ["", style.paint (if s.allPassed then .boldGreen else .boldRed)
        (summaryLine s.passed s.failed s.duration)]

/-- The lines that an event adds to the report. -/
def eventLines (style : ConsoleStyle) : RunEvent → List String
  | .started count => style.opening count
  | .finished outcome => [style.caseLine outcome]
  | .completed summary => style.closing summary

/-- The report of a run, as text. -/
def render (style : ConsoleStyle) (events : List RunEvent) : String :=
  String.join ((events.flatMap style.eventLines).map (· ++ "\n"))

end ConsoleStyle

end GoldenCheck

import GoldenCheck.Comparison
import GoldenCheck.Text.Blank

/-!
# Expectations and verdicts

A case expects its report to be identical to the reference or to be different from it
(`Expectation`). The verdict on a comparison is a pass exactly when the comparison found what was
expected.

An expectation is written as one of the words `identical` and `different`, in ASCII letters of
either case and with any white space around it.
-/

namespace GoldenCheck

/-- What a case expects its comparison to find. -/
inductive Expectation where
  /-- The report equals the reference. -/
  | identical
  /-- The report differs from the reference. -/
  | different
  deriving DecidableEq, Repr

/-- The judgement on a case. -/
inductive Verdict where
  /-- The expectation was met. -/
  | pass
  /-- It was not. -/
  | fail
  deriving DecidableEq, Repr

/-- The word for a verdict. -/
def Verdict.word : Verdict → String
  | .pass => "PASSED"
  | .fail => "FAILED"

/-- A text that names no expectation. -/
structure UnknownExpectation where
  /-- The text as it was given. -/
  text : String
  deriving DecidableEq, Repr

/-- The sentence that reports a text that names no expectation. -/
def UnknownExpectation.message (e : UnknownExpectation) : String :=
  "unknown expected outcome '" ++ e.text ++ "' (expected 'identical' or 'different')"

namespace Expectation

/-- The word for an expectation. -/
def word : Expectation → String
  | .identical => "identical"
  | .different => "different"

/-- The relation that an expectation hopes for. -/
def expectedMatch : Expectation → ContentMatch
  | .identical => .identical
  | .different => .different

/-- The verdict on what a comparison found. -/
def verdict (e : Expectation) (observed : ContentMatch) : Verdict :=
  if observed = e.expectedMatch then .pass else .fail

theorem verdict_eq_pass_iff {e : Expectation} {observed : ContentMatch} :
    e.verdict observed = .pass ↔ observed = e.expectedMatch := by
  unfold verdict
  split <;> simp_all

/-- Read an expectation. -/
def parse (s : String) : Except UnknownExpectation Expectation :=
  let written := (trimBlanks s.toList).map Char.toLower
  if written = Expectation.identical.word.toList then .ok .identical
  else if written = Expectation.different.word.toList then .ok .different
  else .error ⟨s⟩

end Expectation

end GoldenCheck

import GoldenCheck.CaseState
import GoldenCheck.Failure

/-!
# Outcomes

What a run records of each case (`CaseOutcome`), of all cases together (`RunSummary`), and of a
reference that was made anew (`BlessOutcome`). Whoever watches a run sees `RunEvent`s.
-/

namespace GoldenCheck

/-- What became of one case. -/
structure CaseOutcome where
  /-- The name of the case. -/
  name : String
  /-- Its root. -/
  root : Path
  /-- Its reference. -/
  reference : Path
  /-- Where its report goes. -/
  output : Path
  /-- What it expected. -/
  expect : Expectation
  /-- How far it came. -/
  state : CaseState
  /-- What the comparison found, if it ended. -/
  observed : Option ContentMatch
  /-- Why it failed, if it did. -/
  error : Option CaseError
  /-- The lines that differ, where these tell why it failed. -/
  difference : Option String
  /-- How long it took. -/
  duration : Duration
  deriving DecidableEq, Repr

namespace CaseOutcome

/-- A case passes when it came to the state `passed`. -/
def verdict (o : CaseOutcome) : Verdict :=
  if o.state = .passed then .pass else .fail

/-- The verdict is a pass. -/
def isPass (o : CaseOutcome) : Bool := o.verdict == .pass

theorem isPass_iff (o : CaseOutcome) : o.isPass = true ↔ o.state = .passed := by
  unfold isPass verdict
  split <;> simp_all

end CaseOutcome

/-- What became of all cases of a run, in the order of the table. -/
structure RunSummary where
  /-- The outcome of each case. -/
  outcomes : List CaseOutcome
  /-- How long the run took. -/
  duration : Duration
  deriving DecidableEq, Repr

namespace RunSummary

/-- How many cases ran. -/
def total (s : RunSummary) : Nat := s.outcomes.length

/-- How many passed. -/
def passed (s : RunSummary) : Nat := s.outcomes.countP CaseOutcome.isPass

/-- How many did not. -/
def failed (s : RunSummary) : Nat := s.total - s.passed

/-- No case failed. -/
def allPassed (s : RunSummary) : Bool := s.failed == 0

/-- The exit status of a program that made the run: `0` when no case failed, else `1`. -/
def exitCode (s : RunSummary) : Nat := if s.allPassed then 0 else 1

/-- The outcomes of the cases that did not pass. -/
def failures (s : RunSummary) : List CaseOutcome := s.outcomes.filter fun o => !o.isPass

theorem length_failures (s : RunSummary) : s.failures.length = s.failed := by
  have h : s.total = s.passed + s.failures.length := by
    rw [failures, ← List.countP_eq_length_filter]
    simpa [total, passed] using List.length_eq_countP_add_countP CaseOutcome.isPass
  rw [failed, h, Nat.add_sub_cancel_left]

end RunSummary

/-- What became of one reference that was to be made anew. -/
structure BlessOutcome where
  /-- The name of the case. -/
  name : String
  /-- The reference. -/
  reference : Path
  /-- Why it was not made, if it was not. -/
  error : Option CaseError
  /-- How long it took. -/
  duration : Duration
  deriving DecidableEq, Repr

/-- What a run tells whoever watches it. -/
inductive RunEvent where
  /-- The run begins, with so many cases. -/
  | started (count : Nat)
  /-- A case came to its end. -/
  | finished (outcome : CaseOutcome)
  /-- All cases came to their end. -/
  | completed (summary : RunSummary)
  deriving DecidableEq, Repr

end GoldenCheck

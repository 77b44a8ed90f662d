import GoldenCheck.Verification.Progress

/-!
# Verifying cases

`verify` verifies the cases of a run, each isolated from the others: a case that breaks off fails
with the failure `panicked`, and the run goes on. Outcomes are in the order of the cases.

Cases that run side by side are told of when all have ended. Cases share nothing but the world, so
running them one after the other is one of the ways in which their steps may interleave.
-/

namespace GoldenCheck

/-- Verify one case. A case that breaks off has no outcome. -/
def verifyCase (h : Harness W) (o : RunOptions) (c : TestCase) (w : W) :
    Except (Option String) CaseOutcome × W :=
  let (p, w) := Progress.steps h o c Progress.longest .pending w
  (p.outcome, w)

/-- The outcome of a case, also when it broke off. -/
def RunOptions.settle (o : RunOptions) (c : TestCase) :
    Except (Option String) CaseOutcome → CaseOutcome
  | .ok outcome => outcome
  | .error message => o.failed c (.panicked (message.getD Attempt.defaultMessage)) none none

/-- Verify one case; a case that breaks off fails. -/
def verifyIsolated (h : Harness W) (o : RunOptions) (c : TestCase) (w : W) : CaseOutcome × W :=
  let (r, w) := verifyCase h o c w
  (o.settle c r, w)

/-- Verify cases one after the other, and tell of each as it ends. -/
def verifyInTurn (h : Harness W) (o : RunOptions) : List TestCase → W → List CaseOutcome × W
  | [], w => ([], w)
  | c :: cs, w =>
    let (outcome, w) := verifyIsolated h o c w
    let (outcomes, w) := verifyInTurn h o cs (h.tell (.finished outcome) w)
    (outcome :: outcomes, w)

/-- Verify cases, and tell of none. -/
def verifyQuietly (h : Harness W) (o : RunOptions) : List TestCase → W → List CaseOutcome × W
  | [], w => ([], w)
  | c :: cs, w =>
    let (outcome, w) := verifyIsolated h o c w
    let (outcomes, w) := verifyQuietly h o cs w
    (outcome :: outcomes, w)

/-- Verify all cases, and tell of each. -/
def verifyCases (h : Harness W) (o : RunOptions) (cases : List TestCase) (w : W) :
    List CaseOutcome × W :=
  if o.parallel then
    let (outcomes, w) := verifyQuietly h o cases w
    (outcomes, outcomes.foldl (fun w outcome => h.tell (.finished outcome) w) w)
  else verifyInTurn h o cases w

/-- Verify all cases, and tell of the run from its beginning to its end. -/
def verify (h : Harness W) (o : RunOptions) (cases : List TestCase) (w : W) : RunSummary × W :=
  let (outcomes, w) := verifyCases h o cases (h.tell (.started cases.length) w)
  let summary : RunSummary := ⟨outcomes, .zero⟩
  (summary, h.tell (.completed summary) w)

end GoldenCheck

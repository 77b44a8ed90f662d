import GoldenCheck.Harness
import GoldenCheck.Path.Normal

/-!
# Verifying one case

The verification of a case goes by steps, each of which does at most one thing to the world
(`Progress.step`):

    pending → generating → comparing → cleaning → ended
                   ↓           ↓ ↘
                 ended       ended  describing → ended

`Progress.state` is the state of the case at each point. A step that breaks off leaves the case
`brokenOff`, with no outcome of its own. Each step leaves fewer to take (`left_step_le`), so that a
case is at its end after `Progress.longest` steps at most (`isOver_steps_longest`).
-/

namespace GoldenCheck

/-- Where the report of a case goes in a run. -/
def RunOptions.outputOf (o : RunOptions) (c : TestCase) : Path := c.outputPath o.outputDir o.suffix

/-- What a case expects in a run. -/
def RunOptions.expectationOf (o : RunOptions) (c : TestCase) : Expectation := c.expectation o.expect

/-- The outcome of a case that passed. -/
def RunOptions.passed (o : RunOptions) (c : TestCase) (observed : ContentMatch) : CaseOutcome where
  name := c.name
  root := c.root
  reference := c.reference
  output := o.outputOf c
  expect := o.expectationOf c
  state := .passed
  observed := some observed
  error := none
  difference := none
  duration := .zero

/-- The outcome of a case that failed. -/
def RunOptions.failed (o : RunOptions) (c : TestCase) (failure : CaseFailure)
    (observed : Option ContentMatch) (difference : Option String) : CaseOutcome where
  name := c.name
  root := c.root
  reference := c.reference
  output := o.outputOf c
  expect := o.expectationOf c
  state := .failed
  observed
  error := some ⟨c.root, failure⟩
  difference
  duration := .zero

/-- How far the verification of a case has come. -/
inductive Progress where
  /-- Nothing was done yet. -/
  | pending
  /-- The report is to be made. -/
  | generating
  /-- The report is to be compared. -/
  | comparing
  /-- The report differs although it should not; the difference is to be described. -/
  | describing
  /-- The case has passed; its report is to be removed. -/
  | cleaning (observed : ContentMatch)
  /-- The case has its outcome. -/
  | ended (outcome : CaseOutcome)
  /-- A step broke off. -/
  | brokenOff (message : Option String)
  deriving DecidableEq, Repr

namespace Progress

/-- The state of a case. A case of which a step broke off has failed. -/
def state : Progress → CaseState
  | .pending => .pending
  | .generating => .generating
  | .comparing | .describing => .comparing
  | .cleaning _ => .passed
  | .ended o => o.state
  | .brokenOff _ => .failed

/-- Nothing is left to do. -/
def isOver : Progress → Bool
  | .ended _ | .brokenOff _ => true
  | _ => false

/-- How many steps are left at most. -/
def left : Progress → Nat
  | .pending => 4
  | .generating => 3
  | .comparing => 2
  | .describing | .cleaning _ => 1
  | .ended _ | .brokenOff _ => 0

theorem isOver_of_left_eq_zero {p : Progress} (h : p.left = 0) : p.isOver = true := by
  cases p with
  | ended | brokenOff => rfl
  | pending | generating | comparing | describing | cleaning => cases h

/-- The progress after an attempt to make the report. -/
def afterGeneration (o : RunOptions) (c : TestCase) : Attempt GenerationError Unit → Progress
  | .done () => .comparing
  | .failed e => .ended (o.failed c (.generation e) none none)
  | .brokenOff message => .brokenOff message

/-- The progress after an attempt to compare the report. -/
def afterComparison (o : RunOptions) (c : TestCase) :
    Attempt ComparisonError ContentMatch → Progress
  | .done observed =>
    let expect := o.expectationOf c
    match expect.verdict observed with
    | .pass => if o.cleanPassing then .cleaning observed else .ended (o.passed c observed)
    | .fail =>
      if observed = .different then .describing
      else .ended (o.failed c (.policyViolation expect observed) (some observed) none)
  | .failed e => .ended (o.failed c (.comparison e) none none)
  | .brokenOff message => .brokenOff message

/-- The progress after an attempt to describe how the report differs. -/
def afterDescription (o : RunOptions) (c : TestCase) : Attempt Empty (Option String) → Progress
  | .done difference =>
    let failure := .policyViolation (o.expectationOf c) .different
    .ended (o.failed c failure (some .different) difference)
  | .brokenOff message => .brokenOff message

theorem left_afterGeneration_le (o : RunOptions) (c : TestCase) (r : Attempt GenerationError Unit) :
    (afterGeneration o c r).left ≤ 2 := by
  unfold afterGeneration
  split <;> simp [left]

theorem left_afterComparison_le (o : RunOptions) (c : TestCase)
    (r : Attempt ComparisonError ContentMatch) : (afterComparison o c r).left ≤ 1 := by
  cases r with
  | failed | brokenOff => exact Nat.zero_le 1
  | done observed =>
    rw [afterComparison]
    split
    · split <;> simp [left]
    · split <;> simp [left]

theorem left_afterDescription (o : RunOptions) (c : TestCase) (r : Attempt Empty (Option String)) :
    (afterDescription o c r).left = 0 := by
  unfold afterDescription
  split <;> rfl

/-- Take one step. -/
def step (h : Harness W) (o : RunOptions) (c : TestCase) (p : Progress) (w : W) : Progress × W :=
  match p with
  | .pending => (.generating, w)
  | .generating =>
    if (o.outputOf c).sameFile c.reference then
      (.ended (o.failed c (.outputIsReference c.reference) none none), w)
    else
      let (r, w) := h.generate c (o.outputOf c) w
      (afterGeneration o c r, w)
  | .comparing =>
    let (r, w) := h.compare (o.outputOf c) c.reference w
    (afterComparison o c r, w)
  | .describing =>
    let (r, w) := h.describe (o.outputOf c) c.reference w
    (afterDescription o c r, w)
  | .cleaning observed => (.ended (o.passed c observed), h.remove (o.outputOf c) w)
  | .ended outcome => (.ended outcome, w)
  | .brokenOff message => (.brokenOff message, w)

theorem step_of_isOver (h : Harness W) (o : RunOptions) (c : TestCase) {p : Progress} (w : W)
    (done : p.isOver = true) : step h o c p w = (p, w) := by
  cases p with
  | ended | brokenOff => rfl
  | pending | generating | comparing | describing | cleaning => cases done

theorem left_step_le (h : Harness W) (o : RunOptions) (c : TestCase) (p : Progress) (w : W) :
    (step h o c p w).1.left ≤ p.left - 1 := by
  cases p with
  | pending => exact Nat.le_refl 3
  | generating =>
    rw [step]
    split
    · exact Nat.zero_le _
    · exact left_afterGeneration_le ..
  | comparing => exact left_afterComparison_le ..
  | describing => exact Nat.le_of_eq (left_afterDescription ..)
  | cleaning | ended | brokenOff => exact Nat.le_refl 0

/-- Take so many steps. -/
def steps (h : Harness W) (o : RunOptions) (c : TestCase) : Nat → Progress → W → Progress × W
  | 0, p, w => (p, w)
  | n + 1, p, w =>
    let (p, w) := step h o c p w
    steps h o c n p w

theorem steps_add (h : Harness W) (o : RunOptions) (c : TestCase) (m n : Nat) (p : Progress)
    (w : W) :
    steps h o c (m + n) p w =
      let (p, w) := steps h o c m p w
      steps h o c n p w := by
  induction m generalizing p w with
  | zero => simp [steps]
  | succ m ih =>
    rw [Nat.succ_add]
    exact ih ..

theorem left_steps_le (h : Harness W) (o : RunOptions) (c : TestCase) (n : Nat) (p : Progress)
    (w : W) :
    (steps h o c n p w).1.left ≤ p.left - n := by
  induction n generalizing p w with
  | zero => exact Nat.le_refl _
  | succ n ih =>
    have hs := left_step_le h o c p w
    have hn := ih (step h o c p w).1 (step h o c p w).2
    simp only [steps]
    omega

/-- After so many steps every case is at its end. -/
def longest : Nat := 4

theorem isOver_steps_longest (h : Harness W) (o : RunOptions) (c : TestCase) (w : W) :
    (steps h o c longest .pending w).1.isOver = true :=
  isOver_of_left_eq_zero (Nat.le_zero.1 (left_steps_le h o c longest .pending w))

/-- The outcome of a case, or the message that it broke off with. -/
def outcome : Progress → Except (Option String) CaseOutcome
  | .ended o => .ok o
  | .brokenOff message => .error message
  | _ => .error none

end Progress

end GoldenCheck

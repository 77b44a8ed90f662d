import GoldenCheck.Proofs.Config.Validation
import GoldenCheck.Proofs.Run.Interleaving
import Mathlib.Data.List.Chain

/-!
# Outcomes are accounted for

The outcome of a case follows from what the calls for the case have answered (`Answers`). A `Course`
is a case in a run, with the answers so far and the states that the case came to. `Reached` takes the
cases of a run on by steps and words, as `Move` does, and keeps the course of each.

What is known of a course at each point (`Course.IsTrue`) is kept by the steps of the case. At the end
it says which calls were made, that the states are those of the life of a case, and that the outcome
is what the answers amount to (`RunOptions.Accounts`). Nothing is asked of whoever answers: a call may
be done, fail or break off as it likes.
-/

namespace GoldenCheck

open Relation

/-! ### Answers and what they amount to -/

/-- The message of an attempt that broke off, if it did. -/
def Attempt.breakage? {ε α : Type} : Attempt ε α → Option (Option String)
  | .brokenOff message => some message
  | _ => none

/-- What the calls for a case have answered; nothing for a call that was not made. -/
structure Answers where
  /-- The call for the report. -/
  generation : Option (Attempt GenerationError Unit) := none
  /-- The comparison of the report with the reference. -/
  comparison : Option (Attempt ComparisonError ContentMatch) := none
  /-- The description of how they differ. -/
  description : Option (Attempt Empty (Option String)) := none

/-- The message of the call that broke off, if one did. -/
def Answers.breakage? (a : Answers) : Option (Option String) :=
  a.generation.bind Attempt.breakage? <|> a.comparison.bind Attempt.breakage? <|>
    a.description.bind Attempt.breakage?

namespace RunOptions

/-- The trouble of each step of a case, in the order of the steps: the report would go over the
reference, it cannot be made, it cannot be compared, it is not as expected. -/
def troubles (o : RunOptions) (c : TestCase) (a : Answers) : List (Option CaseFailure) :=
  [if (o.outputOf c).sameFile c.reference then some (.outputIsReference c.reference) else none,
    a.generation.bind fun
      | .failed e => some (.generation e)
      | _ => none,
    a.comparison.bind fun
      | .failed e => some (.comparison e)
      | _ => none,
    a.comparison.bind fun
      | .done m =>
        if m = (o.expectationOf c).expectedMatch then none
        else some (.policyViolation (o.expectationOf c) m)
      | _ => none]

/-- Why a case fails, if it does: a call broke off, or else the first trouble. -/
def cause? (o : RunOptions) (c : TestCase) (a : Answers) : Option CaseFailure :=
  match a.breakage? with
  | some message => some (.panicked (message.getD Attempt.defaultMessage))
  | none => (o.troubles c a).findSome? id

/-- The expectation of a case is met: its report has a place of its own, was made, was compared, and
the comparison found what was expected. -/
def Meets (o : RunOptions) (c : TestCase) (a : Answers) : Prop :=
  (o.outputOf c).normal ≠ c.reference.normal ∧ a.generation = some (.done ()) ∧
    ∃ m, a.comparison = some (.done m) ∧ m = (o.expectationOf c).expectedMatch

/-- The calls for a case: each is made when all before it came out well, and a difference is described
only where none was expected. -/
structure Calls (o : RunOptions) (c : TestCase) (a : Answers) : Prop where
  generation : a.generation = none ↔ (o.outputOf c).normal = c.reference.normal
  comparison : a.comparison = none ↔ a.generation ≠ some (.done ())
  description : a.description = none ↔
    ¬ (a.comparison = some (.done .different) ∧ o.expectationOf c = .identical)

/-- The outcome of a case is what the answers of its calls amount to. -/
structure Accounts (o : RunOptions) (c : TestCase) (a : Answers) (outcome : CaseOutcome) : Prop where
  calls : o.Calls c a
  /-- The outcome is about the case. -/
  about : outcome.name = c.name ∧ outcome.root = c.root ∧ outcome.reference = c.reference ∧
    outcome.output = o.outputOf c ∧ outcome.expect = o.expectationOf c
  /-- The case has passed or failed. -/
  terminal : outcome.state = .passed ∨ outcome.state = .failed
  passed_iff_error : outcome.state = .passed ↔ outcome.error = none
  passed_iff_meets : outcome.state = .passed ↔ o.Meets c a
  /-- What was observed, a comparison has found. -/
  found : ∀ m, outcome.observed = some m → a.comparison = some (.done m)
  /-- What a comparison has found was observed, unless a call broke off. -/
  observed : a.breakage? = none → ∀ m, a.comparison = some (.done m) → outcome.observed = some m
  /-- A difference is told only where it is why the case failed. -/
  difference : outcome.difference ≠ none →
    outcome.observed = some .different ∧ o.expectationOf c = .identical
  /-- The error is the first trouble, or that a call broke off. -/
  error : outcome.error = (o.cause? c a).map fun failure => ⟨c.root, failure⟩

variable {o : RunOptions} {c : TestCase} {a : Answers}

/-- Nothing stands against a case when no call broke off and no step had trouble. -/
theorem cause?_eq_none_iff :
    o.cause? c a = none ↔ a.breakage? = none ∧ ∀ trouble ∈ o.troubles c a, trouble = none := by
  unfold cause?
  cases a.breakage? with
  | none => simp [List.findSome?_eq_none_iff]
  | some message => simp

/-- An expectation is met when nothing stands against the case. -/
theorem Calls.meets_iff (h : o.Calls c a) : o.Meets c a ↔ o.cause? c a = none := by
  obtain ⟨generation, comparison, description⟩ := a
  obtain ⟨hgeneration, hcomparison, hdescription⟩ := h
  simp only at hgeneration hcomparison hdescription
  rw [cause?_eq_none_iff]
  constructor
  · rintro ⟨hplace, rfl, m, rfl, rfl⟩
    have hnone : description = none := hdescription.2 fun ⟨hfound, hexpect⟩ => by
      simp [hexpect, Expectation.expectedMatch] at hfound
    simp [Answers.breakage?, Attempt.breakage?, troubles, hnone,
      Path.sameFile_eq_false_iff.2 hplace]
  · rintro ⟨hbreakage, htroubles⟩
    simp only [troubles, List.mem_cons, List.not_mem_nil, or_false, forall_eq_or_imp, forall_eq]
      at htroubles
    obtain ⟨houtput, hmade, hcompared, hpolicy⟩ := htroubles
    have hplace : (o.outputOf c).normal ≠ c.reference.normal := fun heq => by
      simp [Path.sameFile_iff.2 heq] at houtput
    cases generation with
    | none => exact absurd (hgeneration.1 rfl) hplace
    | some made =>
      cases made with
      | brokenOff => simp [Answers.breakage?, Attempt.breakage?] at hbreakage
      | failed => simp at hmade
      | done =>
        refine ⟨hplace, rfl, ?_⟩
        cases comparison with
        | none => exact absurd rfl (hcomparison.1 rfl)
        | some compared =>
          cases compared with
          | brokenOff => simp [Answers.breakage?, Attempt.breakage?] at hbreakage
          | failed => simp at hcompared
          | done m => exact ⟨m, rfl, by simpa using hpolicy⟩

/-- A case that passed is accounted for when nothing stands against it. -/
theorem Calls.accounts_passed (h : o.Calls c a) (hcause : o.cause? c a = none) {m : ContentMatch}
    (hfound : a.comparison = some (.done m)) : o.Accounts c a (o.passed c m) where
  calls := h
  about := ⟨rfl, rfl, rfl, rfl, rfl⟩
  terminal := Or.inl rfl
  passed_iff_error := by simp [passed]
  passed_iff_meets := by simpa [passed] using h.meets_iff.2 hcause
  found := by simp [passed, hfound]
  observed := by simp [passed, hfound]
  difference := by simp [passed]
  error := by simp [passed, hcause]

/-- A case that failed is accounted for when its failure is what stands against it. -/
theorem Calls.accounts_failed (h : o.Calls c a) {failure : CaseFailure}
    {observed : Option ContentMatch} {difference : Option String}
    (hcause : o.cause? c a = some failure)
    (hfound : ∀ m, observed = some m → a.comparison = some (.done m))
    (hobserved : a.breakage? = none → ∀ m, a.comparison = some (.done m) → observed = some m)
    (hdifference : difference ≠ none → observed = some .different ∧ o.expectationOf c = .identical) :
    o.Accounts c a (o.failed c failure observed difference) where
  calls := h
  about := ⟨rfl, rfl, rfl, rfl, rfl⟩
  terminal := Or.inr rfl
  passed_iff_error := by simp [failed]
  passed_iff_meets := by simp [failed, h.meets_iff, hcause]
  found := hfound
  observed := hobserved
  difference := hdifference
  error := by simp [failed, hcause]

end RunOptions

/-! ### Courses -/

/-- The states are those of the life of a case, from its beginning on. -/
def CaseState.IsLife (states : List CaseState) : Prop :=
  states.head? = some .pending ∧ states.IsChain fun s t => s.advance t = .ok t

/-- No state comes after itself. -/
theorem CaseState.canAdvanceTo_self (s : CaseState) : s.canAdvanceTo s = false := by
  cases s <;> rfl

/-- The answers after one more step, which the case takes in the world `w`. -/
def Progress.hear {W : Type} (h : Harness W) (o : RunOptions) (c : TestCase) (p : Progress) (w : W)
    (a : Answers) : Answers :=
  match p with
  | .generating =>
    if (o.outputOf c).sameFile c.reference then a
    else { a with generation := some (h.generate c (o.outputOf c) w).1 }
  | .comparing => { a with comparison := some (h.compare (o.outputOf c) c.reference w).1 }
  | .describing => { a with description := some (h.describe (o.outputOf c) c.reference w).1 }
  | .pending | .cleaning _ | .ended _ | .brokenOff _ => a

/-- A case in a run, with what happened to it so far. -/
structure Course where
  /-- The case. -/
  testCase : TestCase
  /-- How far it has come. -/
  progress : Progress
  /-- What the calls for it have answered. -/
  answers : Answers
  /-- The states that it came to, in their order. -/
  states : List CaseState

namespace Course

/-- The course of a case that is about to begin. -/
def start (c : TestCase) : Course := ⟨c, .pending, {}, [.pending]⟩

/-- The case and how far it has come. -/
def underWay (k : Course) : TestCase × Progress := (k.testCase, k.progress)

variable {W : Type}

/-- The course after one more step, taken in the world `w`. -/
def step (h : Harness W) (o : RunOptions) (k : Course) (w : W) : Course :=
  let next := (k.progress.step h o k.testCase w).1
  { k with
    progress := next
    answers := k.progress.hear h o k.testCase w k.answers
    states := if next.state = k.progress.state then k.states else k.states ++ [next.state] }

end Course

/-- What the steps of cases and words can lead to, with the course of each case. -/
inductive Reached {W : Type} (h : Harness W) (o : RunOptions) (cases : List TestCase) (w : W) :
    List Course → W → Prop where
  /-- The cases are about to begin. -/
  | start : Reached h o cases w (cases.map .start) w
  /-- A case that is not at its end takes a step. -/
  | step {before after : List Course} {k : Course} {v : W} (unfinished : k.progress.isOver = false)
      (reached : Reached h o cases w (before ++ k :: after) v) :
      Reached h o cases w (before ++ k.step h o v :: after) (k.progress.step h o k.testCase v).2
  /-- Something is told. -/
  | tell {courses : List Course} {v : W} (e : RunEvent) (reached : Reached h o cases w courses v) :
      Reached h o cases w courses (h.tell e v)

section

variable {W : Type} {h : Harness W} {o : RunOptions} {cases : List TestCase} {w v : W}
  {courses : List Course}

/-- What holds of every course at its beginning, and is kept by its own steps, holds of all courses
of a run at all times. -/
theorem Reached.invariant {I : Course → Prop} (hstart : ∀ c ∈ cases, I (.start c))
    (hstep : ∀ k w, I k → I (k.step h o w)) (run : Reached h o cases w courses v) :
    ∀ k ∈ courses, I k := by
  induction run with
  | start => simpa using hstart
  | tell e reached ih => exact ih
  | @step before after k v unfinished reached ih =>
    simp only [List.mem_append, List.mem_cons] at ih ⊢
    rintro d (hd | rfl | hd)
    · exact ih d (Or.inl hd)
    · exact hstep k v (ih k (Or.inr (Or.inl rfl)))
    · exact ih d (Or.inr (Or.inr hd))

/-- A run has the cases it began with. -/
theorem Reached.map_testCase (run : Reached h o cases w courses v) :
    courses.map Course.testCase = cases := by
  induction run with
  | start => simp [Course.start, Function.comp_def]
  | tell e reached ih => exact ih
  | step unfinished reached ih => simpa [Course.step] using ih

/-- **Every run has courses**: whatever steps and words lead to is reached with a course for each
case. -/
theorem exists_reached {t : UnderWay × W} (run : ReflTransGen (Move h o) (begun cases, w) t) :
    ∃ courses, Reached h o cases w courses t.2 ∧ courses.map Course.underWay = t.1 := by
  induction run with
  | refl => exact ⟨_, .start, by simp [begun, Course.start, Course.underWay, Function.comp_def]⟩
  | tail run hm ih =>
    obtain ⟨courses, hreached, hcourses⟩ := ih
    cases hm with
    | tell e => exact ⟨courses, .tell e hreached, hcourses⟩
    | step hs =>
      cases hs with
      | @take before after c p v unfinished =>
        obtain ⟨before', rest, rfl, rfl, hrest⟩ := List.map_eq_append_iff.1 hcourses
        obtain ⟨k, after', rfl, hk, rfl⟩ := List.map_eq_cons_iff.1 hrest
        cases hk
        exact ⟨_, .step unfinished hreached, by simp [Course.step, Course.underWay]⟩

end

/-! ### What is true of a course -/

/-- How far a case has come follows from the answers. -/
def Progress.Follows (o : RunOptions) (c : TestCase) (a : Answers) : Progress → Prop
  | .pending | .generating => a = {}
  | .comparing => (o.outputOf c).normal ≠ c.reference.normal ∧ a = { generation := some (.done ()) }
  | .describing => (o.outputOf c).normal ≠ c.reference.normal ∧ o.expectationOf c = .identical ∧
      a = { generation := some (.done ()), comparison := some (.done .different) }
  | .cleaning m => (o.outputOf c).normal ≠ c.reference.normal ∧
      m = (o.expectationOf c).expectedMatch ∧
      a = { generation := some (.done ()), comparison := some (.done m) }
  | .ended outcome => o.Accounts c a outcome
  | .brokenOff message => o.Accounts c a (o.settle c (.error message))

/-- What is true of a course at each point of a run. -/
structure Course.IsTrue (o : RunOptions) (k : Course) : Prop where
  life : CaseState.IsLife k.states
  last : k.states.getLast? = some k.progress.state
  follows : k.progress.Follows o k.testCase k.answers

section

variable {W : Type} {h : Harness W} {o : RunOptions} {c : TestCase} {a : Answers}

theorem advance_afterGeneration (o : RunOptions) (c : TestCase)
    (r : Attempt GenerationError Unit) :
    let next := Progress.afterGeneration o c r
    CaseState.generating.advance next.state = .ok next.state := by
  cases r <;> rfl

theorem advance_afterComparison (o : RunOptions) (c : TestCase)
    (r : Attempt ComparisonError ContentMatch) :
    let next := Progress.afterComparison o c r
    next.state = .comparing ∨ CaseState.comparing.advance next.state = .ok next.state := by
  cases r with
  | failed | brokenOff => exact Or.inr rfl
  | done m =>
    rw [Progress.afterComparison]
    split
    · refine Or.inr ?_
      split <;> rfl
    · split
      · exact Or.inl rfl
      · exact Or.inr rfl

theorem advance_afterDescription (o : RunOptions) (c : TestCase)
    (r : Attempt Empty (Option String)) :
    let next := Progress.afterDescription o c r
    CaseState.comparing.advance next.state = .ok next.state := by
  cases r with
  | failed e => exact e.elim
  | done | brokenOff => rfl

/-- **Every change of state is one of the life of a case.** -/
theorem Progress.advance_step (h : Harness W) (o : RunOptions) (c : TestCase) (p : Progress) (w : W) :
    let next := (p.step h o c w).1
    next.state = p.state ∨ p.state.advance next.state = .ok next.state := by
  cases p with
  | pending => exact Or.inr rfl
  | generating =>
    rw [step]
    split
    · exact Or.inr rfl
    · exact Or.inr (advance_afterGeneration ..)
  | comparing => exact advance_afterComparison ..
  | describing => exact Or.inr (advance_afterDescription ..)
  | cleaning | ended | brokenOff => exact Or.inl rfl

/-- A case whose expectation is met passes. -/
theorem accounts_passed (hplace : (o.outputOf c).normal ≠ c.reference.normal) {m : ContentMatch}
    (hm : m = (o.expectationOf c).expectedMatch) :
    o.Accounts c { generation := some (.done ()), comparison := some (.done m) } (o.passed c m) := by
  have hcalls : o.Calls c { generation := some (.done ()), comparison := some (.done m) } := by
    refine ⟨by simpa using hplace, by simp, iff_of_true rfl ?_⟩
    rintro ⟨hfound, hexpect⟩
    simp [hm, hexpect, Expectation.expectedMatch] at hfound
  exact hcalls.accounts_passed (hcalls.meets_iff.1 ⟨hplace, rfl, m, rfl, hm⟩) rfl

theorem follows_afterGeneration (hplace : (o.outputOf c).normal ≠ c.reference.normal)
    (r : Attempt GenerationError Unit) :
    (Progress.afterGeneration o c r).Follows o c { generation := some r } := by
  have hsame := Path.sameFile_eq_false_iff.2 hplace
  have hcalls : r ≠ .done () → o.Calls c { generation := some r } := fun hr =>
    ⟨by simpa using hplace, by simpa using hr, by simp⟩
  cases r with
  | done => exact ⟨hplace, rfl⟩
  | failed e =>
    exact (hcalls (by simp)).accounts_failed
      (by simp [RunOptions.cause?, RunOptions.troubles, Answers.breakage?, Attempt.breakage?, hsame])
      (by simp) (by simp) (by simp)
  | brokenOff message =>
    exact (hcalls (by simp)).accounts_failed
      (by simp [RunOptions.cause?, Answers.breakage?, Attempt.breakage?])
      (by simp) (by simp) (by simp)

theorem follows_afterComparison (hplace : (o.outputOf c).normal ≠ c.reference.normal)
    (r : Attempt ComparisonError ContentMatch) :
    (Progress.afterComparison o c r).Follows o c
      { generation := some (.done ()), comparison := some r } := by
  have hsame := Path.sameFile_eq_false_iff.2 hplace
  have hcalls : ¬ (r = .done .different ∧ o.expectationOf c = .identical) →
      o.Calls c { generation := some (.done ()), comparison := some r } := fun hr =>
    ⟨by simpa using hplace, by simp, by simpa using hr⟩
  cases r with
  | failed e =>
    exact (hcalls (by simp)).accounts_failed
      (by simp [RunOptions.cause?, RunOptions.troubles, Answers.breakage?, Attempt.breakage?, hsame])
      (by simp) (by simp) (by simp)
  | brokenOff message =>
    exact (hcalls (by simp)).accounts_failed
      (by simp [RunOptions.cause?, Answers.breakage?, Attempt.breakage?])
      (by simp) (by simp) (by simp)
  | done m =>
    rw [Progress.afterComparison]
    split
    · rename_i hpass
      have hm := Expectation.verdict_eq_pass_iff.1 hpass
      split
      · exact ⟨hplace, hm, rfl⟩
      · exact accounts_passed hplace hm
    · rename_i hfail
      have hm : m ≠ (o.expectationOf c).expectedMatch := fun heq => by
        simp [Expectation.verdict, heq] at hfail
      split
      · rename_i hdifferent
        subst hdifferent
        refine ⟨hplace, ?_, rfl⟩
        cases hexpect : o.expectationOf c with
        | identical => rfl
        | different => simp [hexpect, Expectation.expectedMatch] at hm
      · rename_i hdifferent
        exact (hcalls (by simp [hdifferent])).accounts_failed
          (by simp [RunOptions.cause?, RunOptions.troubles, Answers.breakage?, Attempt.breakage?,
            hsame, hm])
          (by simp) (by simp) (by simp)

theorem follows_afterDescription (hplace : (o.outputOf c).normal ≠ c.reference.normal)
    (hexpect : o.expectationOf c = .identical) (r : Attempt Empty (Option String)) :
    (Progress.afterDescription o c r).Follows o c
      { generation := some (.done ()), comparison := some (.done .different),
        description := some r } := by
  have hsame := Path.sameFile_eq_false_iff.2 hplace
  have hcalls : o.Calls c
      { generation := some (.done ()), comparison := some (.done .different),
        description := some r } :=
    ⟨by simpa using hplace, by simp, by simp [hexpect]⟩
  cases r with
  | failed e => exact e.elim
  | done difference =>
    exact hcalls.accounts_failed
      (by simp [RunOptions.cause?, RunOptions.troubles, Answers.breakage?, Attempt.breakage?,
        hsame, hexpect, Expectation.expectedMatch])
      (by simp) (by simp) (by simp [hexpect])
  | brokenOff message =>
    exact hcalls.accounts_failed
      (by simp [RunOptions.cause?, Answers.breakage?, Attempt.breakage?])
      (by simp) (by simp [Answers.breakage?, Attempt.breakage?]) (by simp)

/-- What the answers say is kept up to date by each step. -/
theorem Progress.Follows.step {p : Progress} (hf : p.Follows o c a) (w : W) :
    (p.step h o c w).1.Follows o c (p.hear h o c w a) := by
  cases p with
  | pending => exact hf
  | ended | brokenOff => exact hf
  | generating =>
    obtain rfl : a = {} := hf
    by_cases hsame : (o.outputOf c).sameFile c.reference = true
    · have hcalls : o.Calls c {} := ⟨by simpa using Path.sameFile_iff.1 hsame, by simp, by simp⟩
      simp only [Progress.step, Progress.hear, hsame, if_true]
      exact hcalls.accounts_failed
        (by simp [RunOptions.cause?, RunOptions.troubles, Answers.breakage?, hsame])
        (by simp) (by simp) (by simp)
    · simp only [Progress.step, Progress.hear, if_neg hsame]
      exact follows_afterGeneration (fun heq => hsame (Path.sameFile_iff.2 heq)) _
  | comparing =>
    obtain ⟨hplace, rfl⟩ := hf
    exact follows_afterComparison hplace _
  | describing =>
    obtain ⟨hplace, hexpect, rfl⟩ := hf
    exact follows_afterDescription hplace hexpect _
  | cleaning m =>
    obtain ⟨hplace, hm, rfl⟩ := hf
    exact accounts_passed hplace hm

/-- A step keeps what is true of a course. -/
theorem Course.IsTrue.step {k : Course} (hk : k.IsTrue o) (w : W) : (k.step h o w).IsTrue o := by
  have hfollows := hk.follows.step (h := h) w
  rcases Progress.advance_step h o k.testCase k.progress w with hsame | hadvance
  · refine ⟨?_, ?_, hfollows⟩
    · simpa [Course.step, hsame] using hk.life
    · simpa [Course.step, hsame] using hk.last
  · have hchange : (k.progress.step h o k.testCase w).1.state ≠ k.progress.state := fun heq => by
      rw [heq, CaseState.advance_eq_ok_iff, CaseState.canAdvanceTo_self] at hadvance
      exact absurd hadvance.1 Bool.false_ne_true
    obtain ⟨hhead, hchain⟩ := hk.life
    refine ⟨⟨?_, ?_⟩, ?_, hfollows⟩
    · simp [Course.step, hchange, List.head?_append, hhead]
    · simp [Course.step, hchange, List.isChain_append, hchain, hk.last, hadvance]
    · simp [Course.step, hchange]

/-- What is true of a course at each point of a run. -/
theorem Reached.isTrue {cases : List TestCase} {w v : W} {courses : List Course}
    (run : Reached h o cases w courses v) : ∀ k ∈ courses, k.IsTrue o :=
  run.invariant (fun _ _ => ⟨⟨rfl, by simp [Course.start]⟩, rfl, rfl⟩) fun _ w hk => hk.step w

end

/-! ### The main result -/

section

variable {o : RunOptions} {c : TestCase} {a : Answers} {p : Progress}

/-- A case that is at its end is accounted for. -/
theorem Progress.Follows.accounts (hf : p.Follows o c a) (hp : p.isOver = true) :
    o.Accounts c a (settled o (c, p)) := by
  cases p with
  | ended | brokenOff => exact hf
  | pending | generating | comparing | describing | cleaning => cases hp

/-- The state of a case at its end is that of its outcome. -/
theorem state_settled (hp : p.isOver = true) : (settled o (c, p)).state = p.state := by
  cases p with
  | ended | brokenOff => rfl
  | pending | generating | comparing | describing | cleaning => cases hp

/-- **A run has a course for each case**, and its outcomes are what the answers to these amount to. -/
theorem Verifies.exists_courses {W : Type} {h : Harness W} {cases : List TestCase} {w v : W}
    {summary : RunSummary} (run : Verifies h o cases w summary v) :
    ∃ courses, Reached h o cases w courses v ∧ courses.map Course.testCase = cases ∧
      List.Forall₂ (fun k outcome => o.Accounts k.testCase k.answers outcome) courses
        summary.outcomes := by
  obtain ⟨ended, hover, -, houtcomes, hrun⟩ := run.moves
  obtain ⟨courses, hreached, rfl⟩ : ∃ courses, Reached h o cases w courses v ∧
      courses.map Course.underWay = ended := exists_reached hrun
  refine ⟨courses, hreached, hreached.map_testCase, ?_⟩
  rw [houtcomes, List.map_map, List.forall₂_map_right_iff, List.forall₂_same]
  exact fun k hk => (hreached.isTrue k hk).follows.accounts (hover k.underWay (List.mem_map_of_mem hk))

end

/-- **Outcomes are accounted for**, whoever makes the reports and compares them, and however calls
end. `verify` is one of the runs of its cases. At each point of a run the states that a case came to
are those of the life of a case. And each outcome of a run is what the answers to its case amount to:
it has passed or failed, it has passed exactly when the expectation was met and when there is no
error, what was observed is what a comparison found, a difference is told only where it is why the
case failed, and the error is that a call broke off, or else the first trouble. -/
theorem outcomes_are_accounted_for {W : Type} (h : Harness W) (o : RunOptions)
    (cases : List TestCase) (w : W) :
    Verifies h o cases w (verify h o cases w).1 (verify h o cases w).2 ∧
    (∀ courses v, Reached h o cases w courses v → ∀ k ∈ courses,
      CaseState.IsLife k.states ∧ k.states.getLast? = some k.progress.state ∧
      (k.progress.isOver = true → o.Accounts k.testCase k.answers (settled o k.underWay))) ∧
    ∀ summary v, Verifies h o cases w summary v →
      ∃ courses, Reached h o cases w courses v ∧ courses.map Course.testCase = cases ∧
        List.Forall₂ (fun k outcome => CaseState.IsLife k.states ∧
          k.states.getLast? = some outcome.state ∧ o.Accounts k.testCase k.answers outcome)
          courses summary.outcomes := by
  have hall : ∀ courses v, Reached h o cases w courses v → ∀ k ∈ courses,
      CaseState.IsLife k.states ∧ k.states.getLast? = some k.progress.state ∧
      (k.progress.isOver = true → o.Accounts k.testCase k.answers (settled o k.underWay)) :=
    fun courses v run k hk =>
      have htrue := run.isTrue k hk
      ⟨htrue.life, htrue.last, fun hp => htrue.follows.accounts hp⟩
  refine ⟨verify_verifies cases w, hall, fun summary v run => ?_⟩
  obtain ⟨ended, hover, -, houtcomes, hrun⟩ := run.moves
  obtain ⟨courses, hreached, rfl⟩ : ∃ courses, Reached h o cases w courses v ∧
      courses.map Course.underWay = ended := exists_reached hrun
  refine ⟨courses, hreached, hreached.map_testCase, ?_⟩
  rw [houtcomes, List.map_map, List.forall₂_map_right_iff, List.forall₂_same]
  intro k hk
  have hp : k.progress.isOver = true := hover k.underWay (List.mem_map_of_mem hk)
  obtain ⟨hlife, hlast, haccounts⟩ := hall courses v hreached k hk
  exact ⟨hlife, hlast.trans (congrArg some (state_settled hp).symm), haccounts hp⟩

/-- A harness that finds every report different, and breaks off when it is to say how. -/
def speechless : Harness Unit where
  generate _ _ w := (.done (), w)
  compare _ _ w := (.done .different, w)
  describe _ _ w := (.brokenOff (some "no words"), w)
  remove _ w := w
  tell _ w := w

/-- The first case of the sample table expects a difference and passes, the second one does not, and
is told to have broken off. -/
theorem speechless_run_accounted_for :
    ((verify speechless {} sampleConfig.cases ()).1.outcomes.map fun outcome =>
        (outcome.state, outcome.error.map CaseError.failure)) =
      [(.passed, none), (.failed, some (.panicked "no words"))] ∧
    ∃ courses, courses.map Course.testCase = sampleConfig.cases ∧
      List.Forall₂ (fun k outcome => RunOptions.Accounts {} k.testCase k.answers outcome) courses
        (verify speechless {} sampleConfig.cases ()).1.outcomes := by
  have h := outcomes_are_accounted_for speechless {} sampleConfig.cases ()
  obtain ⟨courses, -, hcases, hall⟩ := h.2.2 _ _ h.1
  exact ⟨by decide, courses, hcases, hall.imp fun _ _ hk => hk.2.2⟩

end GoldenCheck

import GoldenCheck.Proofs.Run.Accounts

/-!
# Opposite expectations

Two runs of the same cases, one of which expects reports to be identical to the references and the other to
be different, where a case says nothing itself. Say that the calls for reports and comparisons answer alike
in both, case by case. Then a case that was compared passes in just one of the runs, and all other trouble is
the same in both (`Complementary`). A case with an expectation of its own does not notice.

The outcome of a case follows from the answers (`RunOptions.Accounts`), so this compares what two lists of
answers amount to. The runs may be runs of different harnesses, from different worlds, and in any order.
-/

namespace GoldenCheck

/-! ### Runs with their courses -/

/-- A run, with the course of each case to its end. -/
structure Recorded {W : Type} (h : Harness W) (o : RunOptions) (cases : List TestCase) (w : W)
    (courses : List Course) (summary : RunSummary) (v : W) : Prop where
  run : Verifies h o cases w summary v
  reached : Reached h o cases w courses v
  complete : ∀ k ∈ courses, k.progress.isOver = true
  outcomes : summary.outcomes = courses.map fun k => settled o k.underWay

section

variable {W : Type} {h : Harness W} {o : RunOptions} {cases : List TestCase} {w v : W} {courses : List Course}
  {summary : RunSummary}

/-- Every run has courses. -/
theorem Verifies.exists_recorded (run : Verifies h o cases w summary v) :
    ∃ courses, Recorded h o cases w courses summary v := by
  obtain ⟨ended, hover, -, houtcomes, hrun⟩ := run.moves
  obtain ⟨courses, hreached, rfl⟩ : ∃ courses, Reached h o cases w courses v ∧
      courses.map Course.underWay = ended := exists_reached hrun
  refine ⟨courses, run, hreached, fun k hk => hover _ (List.mem_map_of_mem hk), ?_⟩
  rw [houtcomes, List.map_map]
  rfl

/-- The outcomes of a run are what the answers amount to. -/
theorem Recorded.accounts (rec : Recorded h o cases w courses summary v) {k : Course} (hk : k ∈ courses) :
    o.Accounts k.testCase k.answers (settled o k.underWay) :=
  (rec.reached.isTrue k hk).follows.accounts (rec.complete k hk)

end

/-! ### Answers under opposite expectations -/

/-- The run, with another expectation for cases that have none. -/
def RunOptions.expecting (o : RunOptions) (e : Expectation) : RunOptions := { o with expect := e }

namespace Answers

/-- The comparison has found something. -/
def isCompared (a : Answers) : Bool :=
  match a.comparison with
  | some (.done _) => true
  | _ => false

theorem isCompared_iff {a : Answers} : a.isCompared = true ↔ ∃ m, a.comparison = some (.done m) := by
  unfold isCompared
  split <;> simp_all

/-- Reports and comparisons came out alike. -/
structure SameResults (a b : Answers) : Prop where
  generation : a.generation = b.generation
  comparison : a.comparison = b.comparison

/-- The description of a difference did not break off. -/
def IsDescribed (a : Answers) : Prop := ∀ message, a.description ≠ some (.brokenOff message)

theorem IsDescribed.breakage?_eq {a : Answers} (h : a.IsDescribed) :
    a.breakage? = (a.generation.bind Attempt.breakage? <|> a.comparison.bind Attempt.breakage?) := by
  have hnone : a.description.bind Attempt.breakage? = none := by
    cases hd : a.description with
    | none => rfl
    | some r =>
      cases r with
      | done | failed => rfl
      | brokenOff message => exact absurd hd (h message)
  simp [breakage?, hnone]

theorem SameResults.breakage?_eq {a b : Answers} (h : SameResults a b) (ha : a.IsDescribed)
    (hb : b.IsDescribed) : a.breakage? = b.breakage? := by
  rw [ha.breakage?_eq, hb.breakage?_eq, h.generation, h.comparison]

end Answers

/-- What becomes of a case in two runs with opposite expectations, by the answers for it. -/
structure Complementary (c : TestCase) (a : Answers) (first second : CaseOutcome) : Prop where
  /-- A case without an expectation passes in one of the runs when it was compared. -/
  one : c.expect = none → a.isCompared = true → first.isPass = !second.isPass
  /-- It fails in both, for the same cause, when it was not. -/
  neither : c.expect = none → a.isCompared = false →
    first.state = .failed ∧ second.state = .failed ∧ ∃ e, first.error = some e ∧ second.error = some e
  /-- A case with an expectation has one verdict and one error. -/
  both : c.expect ≠ none → first.verdict = second.verdict ∧ first.error = second.error

section

variable {o : RunOptions} {c : TestCase} {a b : Answers} {e e' : Expectation} {first second : CaseOutcome}

/-- The expectation of a run does not matter to a case that has one itself. -/
theorem expectationOf_expecting_congr (hc : c.expect ≠ none) :
    (o.expecting e).expectationOf c = (o.expecting e').expectationOf c := by
  obtain ⟨own, hown⟩ := Option.ne_none_iff_exists'.1 hc
  simp [RunOptions.expectationOf, TestCase.expectation, hown]

/-- A case without an expectation has that of the run. -/
theorem expectationOf_expecting (hc : c.expect = none) : (o.expecting e).expectationOf c = e := by
  simp [RunOptions.expectationOf, RunOptions.expecting, TestCase.expectation, hc]

/-- The troubles of a case do not depend on the expectation of a run, unless the case was compared and has
none itself. -/
theorem troubles_expecting_congr (hsame : a.SameResults b)
    (hpolicy : a.isCompared = false ∨ c.expect ≠ none) :
    (o.expecting e).troubles c a = (o.expecting e').troubles c b := by
  simp only [RunOptions.troubles, hsame.generation, hsame.comparison]
  rcases hpolicy with hcompared | hc
  · have hnone : ∀ m, b.comparison ≠ some (.done m) := fun m hm => by
      rw [Answers.isCompared_iff.2 ⟨m, hsame.comparison.trans hm⟩] at hcompared
      cases hcompared
    -- Only the last trouble asks for the expectation, and only of what a comparison has found.
    cases hb : b.comparison with
    | none => rfl
    | some r =>
      cases r with
      | failed | brokenOff => rfl
      | done m => exact absurd hb (hnone m)
  · rw [expectationOf_expecting_congr hc]
    rfl

/-- What stands against a case does not depend on the expectation of a run, unless the case was compared and
has none itself. -/
theorem cause?_expecting_congr (hsame : a.SameResults b) (ha : a.IsDescribed) (hb : b.IsDescribed)
    (hpolicy : a.isCompared = false ∨ c.expect ≠ none) :
    (o.expecting e).cause? c a = (o.expecting e').cause? c b := by
  rw [RunOptions.cause?, RunOptions.cause?, hsame.breakage?_eq ha hb, troubles_expecting_congr hsame hpolicy]

/-- A case that was compared passes when the comparison found what it expects. -/
theorem RunOptions.Accounts.passed_iff_of_compared (h : o.Accounts c a first) {m : ContentMatch}
    (hm : a.comparison = some (.done m)) :
    first.state = .passed ↔ m = (o.expectationOf c).expectedMatch := by
  have hmade : a.generation = some (.done ()) := by
    by_contra hne
    rw [h.calls.comparison.2 hne] at hm
    cases hm
  have hplace : (o.outputOf c).normal ≠ c.reference.normal := fun heq => by
    rw [h.calls.generation.2 heq] at hmade
    cases hmade
  rw [h.passed_iff_meets, RunOptions.Meets]
  simp [hmade, hplace, hm]

/-- A case passes only when it was compared. -/
theorem RunOptions.Accounts.isCompared_of_passed (h : o.Accounts c a first) (hpass : first.state = .passed) :
    a.isCompared = true := by
  obtain ⟨-, -, m, hm, -⟩ := h.passed_iff_meets.1 hpass
  exact Answers.isCompared_iff.2 ⟨m, hm⟩

/-- A case fails when it was not compared, and there is an error. -/
theorem RunOptions.Accounts.failed_of_not_compared (h : o.Accounts c a first)
    (hcompared : a.isCompared = false) :
    first.state = .failed ∧ first.error ≠ none := by
  have hpass : first.state ≠ .passed := fun hpass => by
    rw [h.isCompared_of_passed hpass] at hcompared
    cases hcompared
  exact ⟨h.terminal.resolve_left hpass, fun herror => hpass (h.passed_iff_error.2 herror)⟩

/-- Without trouble that depends on the expectation of the run, two runs have one error. -/
theorem error_expecting_congr (hfirst : (o.expecting e).Accounts c a first)
    (hsecond : (o.expecting e').Accounts c b second) (hsame : a.SameResults b) (ha : a.IsDescribed)
    (hb : b.IsDescribed) (hpolicy : a.isCompared = false ∨ c.expect ≠ none) :
    first.error = second.error := by
  rw [hfirst.error, hsecond.error, cause?_expecting_congr hsame ha hb hpolicy]

/-- What a comparison has found is what just one of the expectations hopes for. -/
theorem expectedMatch_identical_iff_not_different (m : ContentMatch) :
    m = Expectation.identical.expectedMatch ↔ ¬ m = Expectation.different.expectedMatch := by
  cases m <;> decide

/-- **A case in two runs with opposite expectations.** -/
theorem complementary_of_accounts (hfirst : (o.expecting .identical).Accounts c a first)
    (hsecond : (o.expecting .different).Accounts c b second) (hsame : a.SameResults b)
    (ha : a.IsDescribed) (hb : b.IsDescribed) : Complementary c a first second where
  one hc hcompared := by
    obtain ⟨m, hm⟩ := Answers.isCompared_iff.1 hcompared
    have hpass : first.state = .passed ↔ ¬ second.state = .passed := by
      rw [hfirst.passed_iff_of_compared hm, hsecond.passed_iff_of_compared (hsame.comparison ▸ hm),
        expectationOf_expecting hc, expectationOf_expecting hc, expectedMatch_identical_iff_not_different]
    rw [Bool.eq_iff_iff, Bool.not_eq_true', ← Bool.not_eq_true, first.isPass_iff, second.isPass_iff, hpass]
  neither hc hcompared := by
    obtain ⟨hfailed, herror⟩ := hfirst.failed_of_not_compared hcompared
    have hsecondCompared : b.isCompared = false := by
      rw [← hcompared, Answers.isCompared, Answers.isCompared, hsame.comparison]
    have heq := error_expecting_congr hfirst hsecond hsame ha hb (Or.inl hcompared)
    obtain ⟨cause, hcause⟩ := Option.ne_none_iff_exists'.1 herror
    exact ⟨hfailed, (hsecond.failed_of_not_compared hsecondCompared).1, cause, hcause, heq ▸ hcause⟩
  both hc := by
    have heq := error_expecting_congr hfirst hsecond hsame ha hb (Or.inr hc)
    have hpass : first.state = .passed ↔ second.state = .passed := by
      rw [hfirst.passed_iff_error, hsecond.passed_iff_error, heq]
    exact ⟨by simp only [CaseOutcome.verdict, hpass], heq⟩

end

/-! ### Two runs -/

/-- What becomes of the cases in two runs with opposite expectations, by the courses of the first one. -/
structure ComplementaryRuns (courses : List Course) (first second : RunSummary) : Prop where
  /-- Both runs have as many outcomes as cases. -/
  total : first.total = courses.length ∧ second.total = courses.length
  cases : List.Forall₂ (fun k outcomes => Complementary k.testCase k.answers outcomes.1 outcomes.2) courses
    (first.outcomes.zip second.outcomes)
  /-- The passes of both runs, counted over the cases. -/
  passed : first.passed + second.passed =
    courses.countP (fun k => k.testCase.expect.isNone && k.answers.isCompared) +
      2 * (courses.zip first.outcomes).countP fun kx => kx.1.testCase.expect.isSome && kx.2.isPass

/-- How often a case passes in two runs with opposite expectations. -/
theorem Complementary.passes {c : TestCase} {a : Answers} {first second : CaseOutcome}
    (h : Complementary c a first second) :
    first.isPass.toNat + second.isPass.toNat =
      (c.expect.isNone && a.isCompared).toNat + 2 * (c.expect.isSome && first.isPass).toNat := by
  cases hc : c.expect with
  | none =>
    cases hcompared : a.isCompared with
    | true => cases hs : second.isPass <;> simp [h.one hc hcompared, hs]
    | false =>
      obtain ⟨hfirst, hsecond, -⟩ := h.neither hc hcompared
      simp [CaseOutcome.isPass, CaseOutcome.verdict, hfirst, hsecond]
  | some own =>
    have hsame : first.isPass = second.isPass := by
      rw [CaseOutcome.isPass, CaseOutcome.isPass, (h.both (by simp [hc])).1]
    simp [hsame, Nat.two_mul]

/-- The count of what holds, for one more in front. -/
theorem countP_cons_toNat {α : Type} (p : α → Bool) (x : α) (xs : List α) :
    (x :: xs).countP p = (p x).toNat + xs.countP p := by
  cases hx : p x <;> simp [hx, Nat.add_comm]

/-- The passes of two runs, from those of each case. -/
theorem passes_of_complementary {courses : List Course} {first second : List CaseOutcome}
    (hfirst : first.length = courses.length) (hsecond : second.length = courses.length)
    (hcases : List.Forall₂ (fun k outcomes => Complementary k.testCase k.answers outcomes.1 outcomes.2)
      courses (first.zip second)) :
    first.countP CaseOutcome.isPass + second.countP CaseOutcome.isPass =
      courses.countP (fun k => k.testCase.expect.isNone && k.answers.isCompared) +
        2 * (courses.zip first).countP fun kx => kx.1.testCase.expect.isSome && kx.2.isPass := by
  induction courses generalizing first second with
  | nil => simp [List.length_eq_zero_iff.1 hfirst, List.length_eq_zero_iff.1 hsecond]
  | cons k courses ih =>
    obtain ⟨x, first, rfl⟩ := List.exists_cons_of_length_eq_add_one hfirst
    obtain ⟨y, second, rfl⟩ := List.exists_cons_of_length_eq_add_one hsecond
    obtain ⟨hcase : Complementary _ _ x y, hrest⟩ := List.forall₂_cons.1 hcases
    have hone := hcase.passes
    have hih := ih (Nat.succ.inj hfirst) (Nat.succ.inj hsecond) hrest
    simp only [List.zip_cons_cons, countP_cons_toNat]
    omega

/-- Courses of the same cases are about one case at each place. -/
theorem testCase_eq_of_map {courses courses' : List Course}
    (hcases : courses.map Course.testCase = courses'.map Course.testCase) {i : Nat} (hi : i < courses.length)
    (hi' : i < courses'.length) : courses[i].testCase = courses'[i].testCase := by
  have hat := List.getElem_of_eq hcases (by simpa using hi)
  simpa using hat

/-- **The cases of two runs with opposite expectations**, with the same results for each case. -/
theorem complementary_of_recorded {V W : Type} {g : Harness V} {h : Harness W} {o : RunOptions}
    {cases : List TestCase} {v v' : V} {w w' : W} {courses courses' : List Course}
    {first second : RunSummary} (hfirst : Recorded g (o.expecting .identical) cases v courses first v')
    (hsecond : Recorded h (o.expecting .different) cases w courses' second w')
    (hsame : List.Forall₂ (fun k k' => k.answers.SameResults k'.answers) courses courses')
    (hdescribed : ∀ k ∈ courses, k.answers.IsDescribed)
    (hdescribed' : ∀ k ∈ courses', k.answers.IsDescribed) :
    ComplementaryRuns courses first second := by
  have hlength : first.outcomes.length = courses.length := by simp [hfirst.outcomes]
  have hlength' : second.outcomes.length = courses.length := by
    simpa [hsecond.outcomes] using hsame.length_eq.symm
  have hcases : List.Forall₂
      (fun k outcomes => Complementary k.testCase k.answers outcomes.1 outcomes.2) courses
      (first.outcomes.zip second.outcomes) := by
    rw [List.forall₂_iff_get]
    refine ⟨by simp [hlength, hlength'], fun i hi hzip => ?_⟩
    have hi' : i < courses'.length := hsame.length_eq ▸ hi
    have hcase : courses'[i].testCase = courses[i].testCase :=
      testCase_eq_of_map (hsecond.reached.map_testCase.trans hfirst.reached.map_testCase.symm) hi' hi
    have haccounts := hfirst.accounts (List.getElem_mem hi)
    have haccounts' := hsecond.accounts (List.getElem_mem hi')
    rw [hcase] at haccounts'
    simpa [hfirst.outcomes, hsecond.outcomes] using
      complementary_of_accounts haccounts haccounts' (hsame.get hi hi')
        (hdescribed _ (List.getElem_mem hi)) (hdescribed' _ (List.getElem_mem hi'))
  exact ⟨⟨hlength, hlength'⟩, hcases, passes_of_complementary hlength hlength' hcases⟩

/-! ### Results that depend on the case alone -/

/-- The calls for reports and comparisons answer by the case, in all worlds, and no description breaks off. -/
structure Harness.AnswersBy {W : Type} (h : Harness W) (o : RunOptions) (cases : List TestCase)
    (made : TestCase → Attempt GenerationError Unit)
    (found : TestCase → Attempt ComparisonError ContentMatch) : Prop where
  generate : ∀ c ∈ cases, ∀ w, (h.generate c (o.outputOf c) w).1 = made c
  compare : ∀ c ∈ cases, ∀ w, (h.compare (o.outputOf c) c.reference w).1 = found c
  describe : ∀ c ∈ cases, ∀ w message,
    (h.describe (o.outputOf c) c.reference w).1 ≠ .brokenOff message

/-- The results of a case do not depend on what a run expects. -/
theorem Harness.AnswersBy.expecting {W : Type} {h : Harness W} {o : RunOptions} {cases : List TestCase}
    {made : TestCase → Attempt GenerationError Unit}
    {found : TestCase → Attempt ComparisonError ContentMatch}
    (hanswers : h.AnswersBy o cases made found) (e : Expectation) :
    h.AnswersBy (o.expecting e) cases made found :=
  ⟨hanswers.generate, hanswers.compare, hanswers.describe⟩

/-- The answers are the given ones, as far as there are any, and no description broke off. -/
structure Answers.AreOf (made : Attempt GenerationError Unit) (found : Attempt ComparisonError ContentMatch)
    (a : Answers) : Prop where
  generation : ∀ r, a.generation = some r → r = made
  comparison : ∀ r, a.comparison = some r → r = found
  described : a.IsDescribed

section

variable {V W : Type} {g : Harness V} {h : Harness W} {o : RunOptions} {cases : List TestCase}
  {v v' : V} {w w' : W} {courses courses' : List Course} {first second : RunSummary}
  {made : TestCase → Attempt GenerationError Unit}
  {found : TestCase → Attempt ComparisonError ContentMatch}

/-- A step of a case adds the answer that the case has. -/
theorem Progress.areOf_hear (hanswers : h.AnswersBy o cases made found) {c : TestCase} (hc : c ∈ cases)
    {a : Answers} (ha : a.AreOf (made c) (found c)) (p : Progress) (w : W) :
    (p.hear h o c w a).AreOf (made c) (found c) := by
  cases p with
  | pending | cleaning | ended | brokenOff => exact ha
  | generating =>
    rw [Progress.hear]
    split
    · exact ha
    · exact ⟨by simp [hanswers.generate c hc], ha.comparison, ha.described⟩
  | comparing => exact ⟨ha.generation, by simp [Progress.hear, hanswers.compare c hc], ha.described⟩
  | describing =>
    exact ⟨ha.generation, ha.comparison, fun message heq =>
      hanswers.describe c hc w message (Option.some.inj heq)⟩

/-- In a run, the answers for a case are those that the case has. -/
theorem Reached.areOf (hanswers : h.AnswersBy o cases made found) (run : Reached h o cases w courses w') :
    ∀ k ∈ courses, k.answers.AreOf (made k.testCase) (found k.testCase) := by
  have hall : ∀ k ∈ courses,
      k.testCase ∈ cases ∧ k.answers.AreOf (made k.testCase) (found k.testCase) :=
    run.invariant (fun c hc => ⟨hc, ⟨nofun, nofun, nofun⟩⟩)
      fun k w ⟨hc, ha⟩ => ⟨hc, Progress.areOf_hear hanswers hc ha k.progress w⟩
  exact fun k hk => (hall k hk).2

/-- Two answers that come together, and are the given one if they come, are equal. -/
theorem eq_of_none_iff {α : Type} {r : α} {x y : Option α} (hnone : x = none ↔ y = none)
    (hx : ∀ s, x = some s → s = r) (hy : ∀ s, y = some s → s = r) : x = y := by
  cases x with
  | none => exact (hnone.1 rfl).symm
  | some s =>
    cases y with
    | none => cases hnone.2 rfl
    | some t => rw [hx s rfl, hy t rfl]

/-- Two lists of calls for a case have the same results when they have the answers of the case: whether the
first call is made depends on the paths, and whether the second one is made on the first one. -/
theorem RunOptions.Calls.sameResults {o o' : RunOptions} {c : TestCase} {a b : Answers}
    {made : Attempt GenerationError Unit} {found : Attempt ComparisonError ContentMatch} (ha : o.Calls c a)
    (hb : o'.Calls c b) (houtput : o.outputOf c = o'.outputOf c) (hfirst : a.AreOf made found)
    (hsecond : b.AreOf made found) : a.SameResults b := by
  have hgeneration : a.generation = b.generation :=
    eq_of_none_iff (by rw [ha.generation, hb.generation, houtput]) hfirst.generation hsecond.generation
  have hcomparison : a.comparison = b.comparison :=
    eq_of_none_iff (by rw [ha.comparison, hb.comparison, hgeneration]) hfirst.comparison hsecond.comparison
  exact ⟨hgeneration, hcomparison⟩

/-- What holds for equal cases in two runs of the same cases holds for their courses pairwise. -/
theorem forall₂_of_map_testCase {R : Course → Course → Prop}
    (hcases : courses.map Course.testCase = courses'.map Course.testCase)
    (hall : ∀ k ∈ courses, ∀ k' ∈ courses', k.testCase = k'.testCase → R k k') :
    List.Forall₂ R courses courses' := by
  rw [List.forall₂_iff_get]
  exact ⟨by simpa using congrArg List.length hcases, fun i hi hi' =>
    hall _ (List.getElem_mem hi) _ (List.getElem_mem hi') (testCase_eq_of_map hcases hi hi')⟩

/-- Runs of harnesses that answer by the case have the same results, case by case. -/
theorem sameResults_of_answersBy {e e' : Expectation} (hg : g.AnswersBy o cases made found)
    (hh : h.AnswersBy o cases made found) (hfirst : Recorded g (o.expecting e) cases v courses first v')
    (hsecond : Recorded h (o.expecting e') cases w courses' second w') :
    List.Forall₂ (fun k k' => k.answers.SameResults k'.answers) courses courses' := by
  have hcases := hfirst.reached.map_testCase.trans hsecond.reached.map_testCase.symm
  refine forall₂_of_map_testCase hcases fun k hk k' hk' heq => ?_
  have hk₂ := hsecond.reached.areOf (hh.expecting e') k' hk'
  have hcalls₂ := (hsecond.accounts hk').calls
  rw [← heq] at hk₂ hcalls₂
  have hk₁ := hfirst.reached.areOf (hg.expecting e) k hk
  exact (hfirst.accounts hk).calls.sameResults hcalls₂ rfl hk₁ hk₂

end

/-! ### The main result -/

/-- **Opposite expectations are complementary**, over whole runs of the same cases, whoever makes the
reports and compares them, and however their calls end. `verify` makes such runs. Two of them may belong to
different harnesses and worlds, and their cases may have been verified side by side in any order; when
reports and comparisons come out alike in both, case by case, and no description breaks off, then a case
without an expectation passes in just one of them if it was compared, and fails in both for the same cause
if it was not, and a case with an expectation has one verdict and one error. The passes of both are as many
as the cases without an expectation that were compared, and twice the passes of the others. Harnesses that
answer by the case have such runs only. -/
theorem opposite_expectations_are_complementary {V W : Type} (g : Harness V) (h : Harness W) (o : RunOptions)
    (cases : List TestCase) (v : V) (w : W) :
    (Verifies g (o.expecting .identical) cases v (verify g (o.expecting .identical) cases v).1
        (verify g (o.expecting .identical) cases v).2 ∧
      Verifies h (o.expecting .different) cases w (verify h (o.expecting .different) cases w).1
        (verify h (o.expecting .different) cases w).2) ∧
    (∀ courses first v' courses' second w',
      Recorded g (o.expecting .identical) cases v courses first v' →
      Recorded h (o.expecting .different) cases w courses' second w' →
      List.Forall₂ (fun k k' => k.answers.SameResults k'.answers) courses courses' →
      (∀ k ∈ courses, k.answers.IsDescribed) → (∀ k ∈ courses', k.answers.IsDescribed) →
      courses.map Course.testCase = cases ∧ ComplementaryRuns courses first second) ∧
    ∀ made found, g.AnswersBy o cases made found → h.AnswersBy o cases made found →
      ∀ first v' second w', Verifies g (o.expecting .identical) cases v first v' →
        Verifies h (o.expecting .different) cases w second w' →
        ∃ courses, Recorded g (o.expecting .identical) cases v courses first v' ∧
          courses.map Course.testCase = cases ∧ ComplementaryRuns courses first second := by
  refine ⟨⟨verify_verifies cases v, verify_verifies cases w⟩, ?_, ?_⟩
  · intro courses first v' courses' second w' hfirst hsecond hsame hdescribed hdescribed'
    exact ⟨hfirst.reached.map_testCase,
      complementary_of_recorded hfirst hsecond hsame hdescribed hdescribed'⟩
  · intro made found hg hh first v' second w' hrun hrun'
    obtain ⟨courses, hfirst⟩ := hrun.exists_recorded
    obtain ⟨courses', hsecond⟩ := hrun'.exists_recorded
    have hdescribed := hfirst.reached.areOf (hg.expecting .identical)
    have hdescribed' := hsecond.reached.areOf (hh.expecting .different)
    exact ⟨courses, hfirst, hfirst.reached.map_testCase,
      complementary_of_recorded hfirst hsecond (sameResults_of_answersBy hg hh hfirst hsecond)
        (fun k hk => (hdescribed k hk).described) fun k hk => (hdescribed' k hk).described⟩

/-- A harness that finds every report different, and does not say how. -/
def aloof : Harness Unit where
  generate _ _ w := (.done (), w)
  compare _ _ w := (.done .different, w)
  describe _ _ w := (.done none, w)
  remove _ w := w
  tell _ w := w

/-- The first case of the sample table expects a difference and passes in both runs, the second one passes
where the run expects a difference. -/
theorem aloof_runs_complementary :
    (verify aloof (RunOptions.expecting {} .identical) sampleConfig.cases ()).1.passed = 1 ∧
    (verify aloof (RunOptions.expecting {} .different) sampleConfig.cases ()).1.passed = 2 ∧
    ∃ courses, courses.map Course.testCase = sampleConfig.cases ∧
      ComplementaryRuns courses (verify aloof (RunOptions.expecting {} .identical) sampleConfig.cases ()).1
        (verify aloof (RunOptions.expecting {} .different) sampleConfig.cases ()).1 := by
  have h := opposite_expectations_are_complementary aloof aloof {} sampleConfig.cases () ()
  have hanswers : aloof.AnswersBy {} sampleConfig.cases (fun _ => .done ()) (fun _ => .done .different) :=
    ⟨fun _ _ _ => rfl, fun _ _ _ => rfl, fun _ _ _ _ => nofun⟩
  obtain ⟨courses, hrecorded, hcases, hruns⟩ := h.2.2 _ _ hanswers hanswers _ _ _ _ h.1.1 h.1.2
  exact ⟨by decide, by decide, courses, hcases, hruns⟩

end GoldenCheck

import GoldenCheck.Proofs.Run.Isolation
import GoldenCheck.Proofs.Run.References
import Mathlib.Data.List.Pairwise

/-!
# References made anew are met

A generator that does the same `Work` for a case wherever and whenever it is called. What `bless`
reports of a case then depends on the work alone (`Work.blessed`), and since no two cases of an accepted
table share a reference, each reference is left as the work for its case leaves it (`get_bless`). A run
that follows finds such a reference identical to the report, because its reports go where no reference
is. Whatever is done a second time changes nothing.
-/

namespace GoldenCheck

/-! ### What work amounts to -/

namespace Work

/-- How a call ends in which the work is done. -/
def answer : Work → Attempt GenerationError Unit
  | .writes _ => .done ()
  | .fails cause => .failed cause
  | .breaksOff message => .brokenOff message

/-- What lies at a path after the work, when `before` lay there. -/
def leaves (before : Option Bytes) : Work → Option Bytes
  | .writes report => some report
  | .fails _ | .breaksOff _ => before

/-- What is reported of the reference of a case. -/
def blessed (c : TestCase) (work : Work) : BlessOutcome where
  name := c.name
  reference := c.reference
  error := (blessFailure? work.answer).map fun failure => ⟨c.root, failure⟩
  duration := .zero

/-- There is no error when a report is written. -/
theorem blessed_error_eq_none_iff {c : TestCase} {work : Work} :
    (work.blessed c).error = none ↔ ∃ report, work = .writes report := by
  cases work <;> simp [blessed, answer, blessFailure?]

/-- Where there is an error, nothing is changed. -/
theorem leaves_of_blessed_error {c : TestCase} {work : Work} (h : (work.blessed c).error ≠ none)
    (before : Option Bytes) : work.leaves before = before := by
  cases work with
  | writes report => exact absurd rfl h
  | fails | breaksOff => rfl

/-- Work that is done again leaves what it left. -/
theorem leaves_leaves (work : Work) (before : Option Bytes) :
    work.leaves (work.leaves before) = work.leaves before := by
  cases work <;> rfl

end Work

section

variable {work : TestCase → Work} {cases : List TestCase} {c : TestCase} {b : Bench}

/-- The reference of one case made anew. -/
theorem blessCase_working (work : TestCase → Work) (c : TestCase) (b : Bench) :
    (blessCase (.working work) c b).1 = (work c).blessed c ∧
      (blessCase (.working work) c b).2.files =
        b.files.put c.reference ((work c).leaves (b.files.get c.reference)) := by
  cases hwork : work c <;>
    simp [blessCase, Harness.onBench, Generator.ofWork, hwork, Work.blessed, Work.answer, Work.leaves,
      Bench.afterCall]

/-- What is reported does not depend on the files. -/
theorem bless_fst (work : TestCase → Work) (cases : List TestCase) (b : Bench) :
    (bless (.working work) cases b).1 = cases.map fun c => (work c).blessed c := by
  induction cases generalizing b with
  | nil => rfl
  | cons c cases ih =>
    rw [bless, List.map_cons, ← (blessCase_working work c b).1]
    exact congrArg _ (ih _)

/-- **Each reference is left as the work for its case leaves it.** -/
theorem get_bless (hapart : cases.Pairwise fun c d => c.reference.normal ≠ d.reference.normal)
    (hc : c ∈ cases) (b : Bench) : (bless (.working work) cases b).2.files.get c.reference =
      (work c).leaves (b.files.get c.reference) := by
  induction cases generalizing b with
  | nil => cases hc
  | cons d cases ih =>
    obtain ⟨hd, hrest⟩ := List.pairwise_cons.1 hapart
    have hfirst := (blessCase_working work d b).2
    rcases List.mem_cons.1 hc with rfl | hc
    · have hkept : (bless (.working work) (c :: cases) b).2.files.get c.reference =
          (blessCase (.working work) c b).2.files.get c.reference :=
        bless_sameOff cases _ c.reference.normal fun p hp => by
          obtain ⟨e, he, rfl⟩ := List.mem_map.1 hp
          exact hd e he
      rw [hkept, hfirst]
      exact FileMap.get_put_self _ _ _
    · have hother : (blessCase (.working work) d b).2.files.get c.reference =
          b.files.get c.reference := by
        rw [hfirst, FileMap.get_put_of_ne _ _ (hd c hc).symm]
      exact (ih hrest hc (blessCase (.working work) d b).2).trans
        (congrArg (fun before => (work c).leaves before) hother)

/-- Other orders of the cases leave the same files. -/
theorem bless_files_perm (hapart : cases.Pairwise fun c d => c.reference.normal ≠ d.reference.normal)
    {order : List TestCase} (hperm : order.Perm cases) (b : Bench) :
    (bless (.working work) order b).2.files = (bless (.working work) cases b).2.files := by
  have horder : FileMap.SameOff (cases.map TestCase.reference) b.files
      (bless (.working work) order b).2.files := fun q hq =>
    bless_sameOff order b q fun p hp => hq p ((hperm.map _).mem_iff.1 hp)
  refine (bless_sameOff cases b).ext horder fun p hp => ?_
  obtain ⟨c, hc, rfl⟩ := List.mem_map.1 hp
  rw [get_bless hapart hc]
  exact get_bless ((hperm.pairwise_iff Ne.symm).2 hapart) (hperm.mem_iff.2 hc) b

/-- Where each reference is as the work leaves it, making references anew changes nothing. -/
theorem bless_files_eq_self
    (hapart : cases.Pairwise fun c d => c.reference.normal ≠ d.reference.normal)
    (hb : ∀ c ∈ cases, (work c).leaves (b.files.get c.reference) = b.files.get c.reference) :
    (bless (.working work) cases b).2.files = b.files := by
  refine FileMap.SameOff.ext (fun _ _ => rfl) (bless_sameOff cases b) fun p hp => ?_
  obtain ⟨c, hc, rfl⟩ := List.mem_map.1 hp
  exact (get_bless hapart hc b).trans (hb c hc)

end

/-! ### One case on its own -/

section

variable {work : TestCase → Work} {o : RunOptions} {c : TestCase} {b : Bench}

/-- A case whose report is written and is the same as the reference. -/
theorem verifyIsolated_of_writes (hplace : (o.outputOf c).normal ≠ c.reference.normal)
    {report : Bytes} (hwork : work c = .writes report)
    (hreference : b.files.get c.reference = some report) :
    (verifyIsolated (.working work) o c b).1 =
      if o.expectationOf c = .identical then o.passed c .identical
      else o.failed c (.policyViolation (o.expectationOf c) .identical) (some .identical) none := by
  have hguard := Path.sameFile_eq_false_iff.2 hplace
  have hkept : (b.files.put (o.outputOf c) (some report)).get c.reference = some report :=
    (b.files.get_put_of_ne _ hplace.symm).trans hreference
  have hcompare : Comparator.inMemory (b.files.put (o.outputOf c) (some report)).look (o.outputOf c)
      c.reference = .ok .identical := by
    simp [Comparator.inMemory, Comparator.readSide, FileMap.look, hkept, FileState.content,
      ContentMatch.ofBytes, bind, Except.bind, pure, Except.pure]
  have hcompared : Progress.steps (.working work) o c 3 .pending b =
      (Progress.afterComparison o c (.done .identical),
        b.afterCall c (o.outputOf c) (some report)) := by
    simp [Progress.steps, Progress.step, hguard, Harness.onBench, Generator.ofWork, hwork,
      Progress.afterGeneration, Bench.afterCall, Judge.inMemory, hcompare, Attempt.ofExcept]
  rw [verifyIsolated, verifyCase, Progress.longest, Progress.steps_succ hcompared]
  cases hexpect : o.expectationOf c <;> cases hclean : o.cleanPassing <;>
    simp [Progress.afterComparison, Progress.step, Progress.outcome, RunOptions.settle, hexpect,
      hclean, Expectation.verdict, Expectation.expectedMatch]

/-- Nothing is observed of a case whose report is not written. -/
theorem observed_verifyIsolated_of_not_writes (hplace : (o.outputOf c).normal ≠ c.reference.normal)
    (hwork : ∀ report, work c ≠ .writes report) (b : Bench) :
    (verifyIsolated (.working work) o c b).1.observed = none := by
  have hguard := Path.sameFile_eq_false_iff.2 hplace
  have hover : (Progress.afterGeneration o c (work c).answer).isOver = true := by
    cases hk : work c with
    | writes report => exact absurd hk (hwork report)
    | fails | breaksOff => rfl
  have hmade : ∃ x, Progress.steps (.working work) o c 2 .pending b =
      (Progress.afterGeneration o c (work c).answer, x) := by
    cases hk : work c <;>
      simp [Progress.steps, Progress.step, hguard, Harness.onBench, Generator.ofWork, hk, Work.answer]
  obtain ⟨x, hsteps⟩ := hmade
  rw [verifyIsolated_of_steps hsteps hover]
  cases hk : work c with
  | writes report => exact absurd hk (hwork report)
  | fails | breaksOff => rfl

/-- **What a run finds of a case on its own** whose reference is as the work leaves it: the report and
the reference are identical exactly when the report is written. -/
theorem verifyIsolated_of_leaves (hplace : (o.outputOf c).normal ≠ c.reference.normal)
    (hb : (work c).leaves (b.files.get c.reference) = b.files.get c.reference) :
    let outcome := (verifyIsolated (.working work) o c b).1
    (outcome.observed = some .identical ↔ ((work c).blessed c).error = none) ∧
      (((work c).blessed c).error = none →
        (outcome.state = .passed ↔ o.expectationOf c = .identical)) := by
  rw [Work.blessed_error_eq_none_iff]
  by_cases hwrites : ∃ report, work c = .writes report
  · obtain ⟨report, hwork⟩ := hwrites
    rw [hwork, Work.leaves] at hb
    rw [verifyIsolated_of_writes hplace hwork hb.symm]
    split_ifs with hexpect <;> simp [RunOptions.passed, RunOptions.failed, hexpect, hwork]
  · have hobserved := observed_verifyIsolated_of_not_writes hplace (not_exists.1 hwrites) b
    simp [hobserved, hwrites]

end

/-! ### The main result -/

/-- **References made anew are met.** Let the work for a report depend on nothing but its case, and
let a case that fails or breaks off change no file. `bless` reports of the chosen cases of an accepted
table what their work amounts to. The reference of a case that is reported without error holds what was
written for it, every other reference of the table is as it was, and the order of the cases does not
matter. A run of these cases that follows finds exactly the reports of the cases without error identical
to their references, and such a case passes exactly when it expects that. Whether or not a run came in
between, making the references anew once more reports the same and changes no file. -/
theorem blessed_references_are_met (work : TestCase → Work) (w : Bench) :
    ∀ raw config wanted cases, resolve raw = .ok config → config.select wanted = .ok cases →
      let blessed := bless (.working work) cases w
      blessed.1 = cases.map (fun c => (work c).blessed c) ∧
      (∀ c ∈ cases,
        (((work c).blessed c).error = none → ∃ report, work c = .writes report ∧
          blessed.2.files.get c.reference = some report) ∧
        (((work c).blessed c).error ≠ none →
          blessed.2.files.get c.reference = w.files.get c.reference)) ∧
      (∀ c ∈ config.cases, c ∉ cases →
        blessed.2.files.get c.reference = w.files.get c.reference) ∧
      (∀ order, order.Perm cases → (bless (.working work) order w).2.files = blessed.2.files ∧
        (bless (.working work) order w).1 = order.map fun c => (work c).blessed c) ∧
      (∀ o summary v, o.KeepsPlaces config.harness →
        Verifies (.working work) o cases blessed.2 summary v →
        List.Forall₂ (fun c outcome =>
          (outcome.observed = some .identical ↔ ((work c).blessed c).error = none) ∧
          (((work c).blessed c).error = none →
            (outcome.state = .passed ↔ o.expectationOf c = .identical))) cases summary.outcomes ∧
        (bless (.working work) cases v).1 = blessed.1 ∧
        (bless (.working work) cases v).2.files = v.files) ∧
      (bless (.working work) cases blessed.2).1 = blessed.1 ∧
      (bless (.working work) cases blessed.2).2.files = blessed.2.files := by
  intro raw config wanted cases hresolve hselect
  have hseparate := isSeparate_of_resolve hresolve
  have hsub := select_sublist hselect
  have hapart := hseparate.references.sublist hsub
  have hleft : ∀ c ∈ cases, (bless (.working work) cases w).2.files.get c.reference =
      (work c).leaves (w.files.get c.reference) := fun c hc => get_bless hapart hc w
  have hstays : ∀ c ∈ cases,
      (work c).leaves ((bless (.working work) cases w).2.files.get c.reference) =
        (bless (.working work) cases w).2.files.get c.reference := fun c hc => by
    rw [hleft c hc, Work.leaves_leaves]
  refine ⟨bless_fst work cases w, fun c hc => ⟨fun hnone => ?_, fun hsome => ?_⟩, ?_, ?_, ?_, ?_, ?_⟩
  · obtain ⟨report, hwork⟩ := Work.blessed_error_eq_none_iff.1 hnone
    exact ⟨report, hwork, by rw [hleft c hc, hwork, Work.leaves]⟩
  · rw [hleft c hc, Work.leaves_of_blessed_error hsome]
  · intro c hc hunchosen
    refine bless_sameOff cases w _ fun p hp => ?_
    obtain ⟨d, hd, rfl⟩ := List.mem_map.1 hp
    have hsymm : Std.Symm fun c d : TestCase => c.reference.normal ≠ d.reference.normal :=
      ⟨fun _ _ => Ne.symm⟩
    exact hseparate.references.forall hc (hsub.subset hd) fun heq => hunchosen (heq ▸ hd)
  · exact fun order hperm => ⟨bless_files_perm hapart hperm w, bless_fst work order w⟩
  · intro o summary v hkeeps run
    have places := hseparate.placesApart hkeeps hselect
    have hoff : FileMap.SameOff (config.cases.map o.outputOf)
        (bless (.working work) cases w).2.files v.files :=
      run.sameOff.mono (List.map_subset _ hsub.subset)
    refine ⟨?_, by rw [bless_fst, bless_fst], bless_files_eq_self hapart fun c hc => ?_⟩
    · rw [run.outcomes_eq places fun _ _ => rfl, List.forall₂_map_right_iff, List.forall₂_same]
      exact fun c hc => verifyIsolated_of_leaves (places.references c hc c hc) (hstays c hc)
    · rw [hseparate.reference_eq hkeeps hoff (hsub.subset hc)]
      exact hstays c hc
  · rw [bless_fst, bless_fst]
  · exact bless_files_eq_self hapart hstays

/-- The sample table with references made anew: the first one is written, which its case does not
expect, and the second one breaks off. -/
theorem sample_references_met :
    List.Forall₂ (fun c outcome =>
        (outcome.observed = some .identical ↔ ((sampleWork c).blessed c).error = none) ∧
        (((sampleWork c).blessed c).error = none →
          (outcome.state = .passed ↔
            sampleConfig.harness.runOptions.expectationOf c = .identical)))
      sampleConfig.cases
      (verify (.working sampleWork) sampleConfig.harness.runOptions sampleConfig.cases
        (bless (.working sampleWork) sampleConfig.cases sampleBench).2).1.outcomes ∧
    (sampleConfig.cases.map fun c => ((sampleWork c).blessed c).error.isNone) = [true, false] :=
  have h := blessed_references_are_met sampleWork sampleBench sampleTable sampleConfig []
    sampleConfig.cases resolve_sampleTable rfl
  ⟨(h.2.2.2.2.1 _ _ _ ⟨rfl, rfl⟩ (verify_verifies _ _)).1, by decide⟩

end GoldenCheck

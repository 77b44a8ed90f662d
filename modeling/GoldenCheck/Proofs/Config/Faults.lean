import GoldenCheck.Proofs.Config.Validation
import Mathlib.Data.List.Pairwise

/-!
# What a table is refused for

The rules of a case table in their order (`RawConfig.rules`), each with the error that tells of it when it
is broken (`RawConfig.fault?`): those on the engine and the harness, then for each case those on the case
alone and beside the cases before it, and at last for each case that its report goes over no reference.

`resolve` checks places against those of the cases that it has taken so far. A case is looked at only after
all before it were taken, so these are the cases before it in the table, and no two of them have one place
(`resolveCases_eq_error_iff`). Therefore the case that an error names first is the only one it can be about.
-/

namespace GoldenCheck

/-! ### Rules and their errors -/

/-- A rule for a case, alone or beside the cases before it. -/
inductive CaseRule where
  /-- A field is not empty. -/
  | filled (field : CaseField)
  /-- The name is new. -/
  | newName
  /-- The expectation has a meaning. -/
  | expectation
  /-- The report has a place of its own. -/
  | newOutput
  /-- The reference has a place of its own. -/
  | newReference
  deriving DecidableEq, Repr

/-- The rules for a case, in their order. -/
def CaseRule.all : List CaseRule :=
  [.filled .name, .filled .root, .filled .reference, .filled .setup, .newName, .expectation, .newOutput,
    .newReference]

/-- A rule for a table. -/
inductive TableRule where
  /-- The engine has a program. -/
  | program
  /-- The comparator is one that there is. -/
  | comparator
  /-- Some case can run. -/
  | jobs
  /-- The expectation of the harness has a meaning. -/
  | expectation
  /-- There is a case. -/
  | someCase
  /-- A rule for a case that stands after some others. -/
  | ofCase (earlier : List RawCase) (c : RawCase) (rule : CaseRule)
  /-- The report of a case goes over no reference. -/
  | apart (c : RawCase)
  deriving DecidableEq, Repr

/-- A field of a case is empty. -/
def RawCase.lacks (c : RawCase) : CaseField → Bool
  | .name => isBlankText c.name
  | .root => c.root.isEmpty
  | .reference => c.reference.isEmpty
  | .setup => c.setup = some []

/-- The error for a text that names no expectation. -/
def expectationFault? (context : String) (written : Option String) : Option ConfigError :=
  written.bind fun s =>
    match Expectation.parse s with
    | .ok _ => none
    | .error cause => some (.invalidExpectation context cause)

/-- The error for a rule that a case breaks, which stands after some others. -/
def RawHarness.caseFault? (h : RawHarness) (earlier : List RawCase) (c : RawCase) :
    CaseRule → Option ConfigError
  | .filled field => if c.lacks field then some (.emptyField earlier.length field) else none
  | .newName => if ∃ d ∈ earlier, d.name = c.name then some (.duplicateName c.name) else none
  | .expectation => expectationFault? ("case '" ++ c.name ++ "' expect") c.expect
  | .newOutput =>
    (earlier.find? fun d => (h.outputOf d).normalize = (h.outputOf c).normalize).map fun first =>
      .duplicateOutput first.name c.name (h.outputOf c)
  | .newReference =>
    (earlier.find? fun d => d.reference.normalize = c.reference.normalize).map fun first =>
      .duplicateReference first.name c.name c.reference

namespace RawConfig

/-- The rules for a table, in their order. -/
def rules (raw : RawConfig) : List TableRule :=
  [.program, .comparator, .jobs, .expectation, .someCase] ++
    (raw.cases.zipIdx.flatMap fun (c, i) => CaseRule.all.map (.ofCase (raw.cases.take i) c)) ++
    raw.cases.map .apart

/-- The error for a rule that the table breaks. -/
def fault? (raw : RawConfig) : TableRule → Option ConfigError
  | .program => if isBlankText raw.engine.program then some .emptyProgram else none
  | .comparator => raw.harness.comparator.bind fun name =>
    if name = "in-process" ∨ name = "diff-tool" then none else some (.unknownComparator name)
  | .jobs => if raw.harness.jobs = some 0 then some .invalidJobs else none
  | .expectation => expectationFault? "harness.expect" raw.harness.expect
  | .someCase => if raw.cases = [] then some .noCases else none
  | .ofCase earlier c rule => raw.harness.caseFault? earlier c rule
  | .apart c =>
    (raw.cases.find? fun d => d.reference.normalize = (raw.harness.outputOf c).normalize).map fun owner =>
      .outputIsReference c.name owner.name (raw.harness.outputOf c)

end RawConfig

/-! ### Single checks -/

/-- The error of a computation, if it has one. -/
def errorOf? {ε α : Type} : Except ε α → Option ε
  | .error e => some e
  | .ok _ => none

theorem errorOf?_eq_some_iff {ε α : Type} {x : Except ε α} {e : ε} :
    errorOf? x = some e ↔ x = .error e := by
  cases x <;> simp [errorOf?]

theorem errorOf?_eq_none_iff {ε α : Type} {x : Except ε α} : errorOf? x = none ↔ ∃ a, x = .ok a := by
  cases x <;> simp [errorOf?]

theorem errorOf?_bind_eq_or {ε α β : Type} {x : Except ε α} {f : α → Except ε β} {o : Option ε}
    (h : ∀ a, x = .ok a → errorOf? (f a) = o) : errorOf? (x >>= f) = (errorOf? x).or o := by
  cases x with
  | error e => rfl
  | ok a => exact h a rfl

theorem errorOf?_throw_ite {ε α : Type} {c : Prop} [Decidable c] {e : ε} {f : Unit → Except ε α}
    {o : Option ε} (h : ¬ c → errorOf? (f ()) = o) :
    errorOf? (if c then throw e >>= f else f ()) = (if c then some e else none).or o := by
  split_ifs with hc
  · rfl
  · exact h hc

theorem findSome?_cons_eq_or {α β : Type} (f : α → Option β) (a : α) (l : List α) :
    (a :: l).findSome? f = (f a).or (l.findSome? f) := by
  rw [List.findSome?_cons]
  cases f a <;> rfl

variable {raw : RawConfig} {harness : HarnessSettings} {earlier : List RawCase} {c : RawCase}
  {e : ConfigError}

theorem errorOf?_resolveExpectation (context : String) (written : Option String) :
    errorOf? (resolveExpectation context written) = expectationFault? context written := by
  cases written with
  | none => rfl
  | some s =>
    cases hs : Expectation.parse s <;>
      simp [resolveExpectation, expectationFault?, errorOf?, hs, Except.mapError, Functor.map, Except.map]

theorem errorOf?_resolveEngine (raw : RawConfig) :
    errorOf? (resolveEngine raw.engine) = raw.fault? .program := by
  unfold resolveEngine RawConfig.fault?
  split_ifs <;> rfl

theorem errorOf?_resolveComparator (raw : RawConfig) :
    errorOf? (resolveComparator raw.harness) = raw.fault? .comparator := by
  unfold resolveComparator RawConfig.fault?
  cases raw.harness.comparator with
  | none => rfl
  | some name =>
    simp only [Option.bind_some]
    split_ifs <;> simp_all [errorOf?]

theorem errorOf?_resolveHarness (raw : RawConfig) :
    errorOf? (resolveHarness raw.harness) = [.comparator, .jobs, .expectation].findSome? raw.fault? := by
  simp only [findSome?_cons_eq_or, List.findSome?_nil, Option.or_none, ← errorOf?_resolveComparator]
  refine errorOf?_bind_eq_or fun choice _ => errorOf?_throw_ite fun _ => ?_
  refine (errorOf?_bind_eq_or (o := none) fun expect _ => rfl).trans ?_
  rw [errorOf?_resolveExpectation, Option.or_none, RawConfig.fault?]

/-- The first field that is empty is the first rule on fields that is broken. -/
theorem emptyField?_map_eq (raw : RawHarness) (earlier : List RawCase) (c : RawCase) :
    c.emptyField?.map (.emptyField earlier.length) =
      [CaseRule.filled .name, .filled .root, .filled .reference, .filled .setup].findSome?
        (raw.caseFault? earlier c) := by
  simp only [findSome?_cons_eq_or, List.findSome?_nil, Option.or_none, RawHarness.caseFault?, RawCase.lacks,
    RawCase.emptyField?, decide_eq_true_eq]
  split_ifs <;> simp_all

/-! ### One case after the other -/

/-- The first earlier case with a place, in the table and among the cases that were taken. -/
theorem find?_map_read (placeOf : TestCase → Path) (place : RawCase → Path)
    (hplace : ∀ c : RawCase, placeOf c.read = place c) (earlier : List RawCase) (p : Path) :
    ((earlier.map RawCase.read).find? fun e => (placeOf e).sameFile p) =
      (earlier.find? fun d => (place d).normalize = p.normalize).map RawCase.read := by
  rw [List.find?_map]
  refine congrArg _ (congrArg (List.find? · earlier) (funext fun d => ?_))
  rw [Function.comp, hplace, Path.sameFile]
  rfl

/-- A case is refused for the first rule that it breaks. -/
theorem errorOf?_resolveCase (hharness : resolveHarness raw.harness = .ok harness) (earlier : List RawCase)
    (c : RawCase) :
    errorOf? (resolveCase harness (earlier.map RawCase.read) earlier.length c) =
      CaseRule.all.findSome? (raw.harness.caseFault? earlier c) := by
  have hname : ((earlier.map RawCase.read).any fun e => e.name = c.name) = true ↔
      ∃ d ∈ earlier, d.name = c.name := by
    simp only [List.any_eq_true, List.mem_map, exists_exists_and_eq_and, decide_eq_true_eq]
    rfl
  have hempty := emptyField?_map_eq raw.harness earlier c
  unfold resolveCase
  rw [show CaseRule.all = [CaseRule.filled .name, .filled .root, .filled .reference, .filled .setup] ++
    [.newName, .expectation, .newOutput, .newReference] from rfl, List.findSome?_append, ← hempty]
  simp only [findSome?_cons_eq_or, List.findSome?_nil, Option.or_none]
  cases c.emptyField? with
  | some field => rfl
  | none =>
    simp only [Option.map_none, Option.none_or, hname]
    refine errorOf?_throw_ite fun _ => ?_
    rw [show raw.harness.caseFault? earlier c .expectation = errorOf? (resolveExpectation
      ("case '" ++ c.name ++ "' expect") c.expect) from (errorOf?_resolveExpectation _ _).symm]
    refine errorOf?_bind_eq_or fun expect hexpect => ?_
    obtain ⟨-, rfl⟩ := resolveExpectation_eq_ok_iff.1 hexpect
    have houtput := find?_map_read harness.outputOf raw.harness.outputOf (outputOf_read hharness) earlier
      (harness.outputOf c.read)
    have hreference := find?_map_read TestCase.reference RawCase.reference (fun _ => rfl) earlier c.reference
    rw [show c.toCase (readExpectation c.expect) = c.read from rfl,
      show c.read.reference = c.reference from rfl,
      houtput, hreference, outputOf_read hharness]
    unfold RawHarness.caseFault?
    cases earlier.find? fun d => (raw.harness.outputOf d).normalize = (raw.harness.outputOf c).normalize with
    | some first => rfl
    | none => cases earlier.find? fun d => d.reference.normalize = c.reference.normalize <;> rfl

/-- The rules for cases that stand after some others. -/
def rulesAfter (earlier cases : List RawCase) : List TableRule :=
  (cases.zipIdx earlier.length).flatMap fun (c, i) =>
    CaseRule.all.map (.ofCase ((earlier ++ cases).take i) c)

theorem rulesAfter_cons (earlier : List RawCase) (c : RawCase) (cases : List RawCase) :
    rulesAfter earlier (c :: cases) =
      CaseRule.all.map (.ofCase earlier c) ++ rulesAfter (earlier ++ [c]) cases := by
  simp [rulesAfter, List.zipIdx_cons]

/-- Cases are refused for the first rule that one of them breaks, which stands after those that were taken. -/
theorem errorOf?_resolveCases (hharness : resolveHarness raw.harness = .ok harness)
    (earlier cases : List RawCase) :
    errorOf? (resolveCases harness (earlier.map RawCase.read) cases) =
      (rulesAfter earlier cases).findSome? raw.fault? := by
  induction cases generalizing earlier with
  | nil => rfl
  | cons c cases ih =>
    rw [rulesAfter_cons, List.findSome?_append, List.findSome?_map, resolveCases, List.length_map]
    have hcase := errorOf?_resolveCase hharness earlier c
    refine (errorOf?_bind_eq_or fun taken htaken => ?_).trans (congrArg (Option.or · _) hcase)
    obtain ⟨-, rfl, -⟩ := resolveCase_eq_ok_iff.1 htaken
    rw [← ih (earlier ++ [c]), List.map_append]
    rfl

/-- A table whose cases are all taken is refused for the first report that goes over a reference. -/
theorem overwriting?_map_eq (hharness : resolveHarness raw.harness = .ok harness) :
    (overwriting? harness (raw.cases.map RawCase.read)).map (fun (c, owner) =>
        ConfigError.outputIsReference c.name owner.name (harness.outputOf c)) =
      (raw.cases.map TableRule.apart).findSome? raw.fault? := by
  rw [overwriting?, List.findSome?_map, List.findSome?_map, List.map_findSome?]
  refine congrArg (List.findSome? · raw.cases) (funext fun c => ?_)
  have howner := find?_map_read TestCase.reference RawCase.reference (fun _ => rfl) raw.cases
    (raw.harness.outputOf c)
  simp only [Function.comp_apply, outputOf_read hharness, howner, Option.map_map, RawConfig.fault?]
  refine congrArg (Option.map · _) (funext fun owner => ?_)
  simp only [Function.comp_apply, outputOf_read hharness]
  rfl

/-- **A table is refused for the first rule that it breaks.** -/
theorem errorOf?_resolve (raw : RawConfig) : errorOf? (resolve raw) = raw.rules.findSome? raw.fault? := by
  have hrules : raw.rules = .program :: ([.comparator, .jobs, .expectation] ++
      (.someCase :: (rulesAfter [] raw.cases ++ raw.cases.map .apart))) := rfl
  rw [hrules, findSome?_cons_eq_or _ TableRule.program, List.findSome?_append,
    findSome?_cons_eq_or _ TableRule.someCase, List.findSome?_append, ← errorOf?_resolveEngine,
    ← errorOf?_resolveHarness]
  refine errorOf?_bind_eq_or fun engine _ => errorOf?_bind_eq_or fun harness hharness => ?_
  rw [← errorOf?_resolveCases hharness, ← overwriting?_map_eq hharness]
  refine errorOf?_throw_ite fun _ => errorOf?_bind_eq_or fun cases hcases => ?_
  obtain ⟨-, rfl, -⟩ := resolveCases_eq_ok_iff.1 hcases
  rw [List.nil_append]
  cases overwriting? harness (raw.cases.map RawCase.read) <;> rfl

/-! ### Whom an error blames -/

/-- `second` is the first case of a table that has the place of a case before it. That is `first`, and no
other. -/
def FirstToClash (placeOf : RawCase → Path) (cases : List RawCase) (first second : RawCase) : Prop :=
  ∃ earlier later, cases = earlier ++ second :: later ∧
    (earlier.Pairwise fun c d => (placeOf c).normalize ≠ (placeOf d).normalize) ∧
    ∀ d, d = first ↔ d ∈ earlier ∧ (placeOf d).normalize = (placeOf second).normalize

/-- `c` is the first case of a table whose report goes over a reference. That is the one of `owner`, and of
no other. -/
def RawConfig.FirstToOverwrite (raw : RawConfig) (c owner : RawCase) : Prop :=
  ∃ earlier later, raw.cases = earlier ++ c :: later ∧
    (∀ d ∈ earlier, ∀ r ∈ raw.cases, (raw.harness.outputOf d).normalize ≠ r.reference.normalize) ∧
    ∀ r, r = owner ↔ r ∈ raw.cases ∧ r.reference.normalize = (raw.harness.outputOf c).normalize

/-- What an error says of the table that is refused with it. -/
inductive RawConfig.Blames (raw : RawConfig) : ConfigError → Prop where
  /-- The engine has no program. -/
  | program (blank : isBlankText raw.engine.program = true) : raw.Blames .emptyProgram
  /-- The comparator is none that there is. -/
  | comparator {name : String} (written : raw.harness.comparator = some name)
      (unknown : name ≠ "in-process" ∧ name ≠ "diff-tool") : raw.Blames (.unknownComparator name)
  /-- No case can run. -/
  | jobs (none : raw.harness.jobs = some 0) : raw.Blames .invalidJobs
  /-- The expectation of the harness has no meaning. -/
  | harnessExpectation {written : String} {cause : UnknownExpectation}
      (expect : raw.harness.expect = some written) (fails : Expectation.parse written = .error cause) :
      raw.Blames (.invalidExpectation "harness.expect" cause)
  /-- There is no case. -/
  | noCases (empty : raw.cases = []) : raw.Blames .noCases
  /-- A field of the case that so many others stand before is empty. -/
  | emptyField {before after : List RawCase} {c : RawCase} {field : CaseField}
      (place : raw.cases = before ++ c :: after) (lacks : c.lacks field = true) :
      raw.Blames (.emptyField before.length field)
  /-- A case has the name of one before it. -/
  | name {before after : List RawCase} {c d : RawCase} (place : raw.cases = before ++ c :: after)
      (earlier : d ∈ before) (same : d.name = c.name) : raw.Blames (.duplicateName c.name)
  /-- The expectation of a case has no meaning. -/
  | expectation {c : RawCase} {written : String} {cause : UnknownExpectation} (mem : c ∈ raw.cases)
      (expect : c.expect = some written) (fails : Expectation.parse written = .error cause) :
      raw.Blames (.invalidExpectation ("case '" ++ c.name ++ "' expect") cause)
  /-- A report goes where that of a case before it goes, which has another name. -/
  | output {first second : RawCase} (clash : FirstToClash raw.harness.outputOf raw.cases first second)
      (names : first.name ≠ second.name) :
      raw.Blames (.duplicateOutput first.name second.name (raw.harness.outputOf second))
  /-- A reference is that of a case before it, which has another name. -/
  | reference {first second : RawCase} (clash : FirstToClash RawCase.reference raw.cases first second)
      (names : first.name ≠ second.name) :
      raw.Blames (.duplicateReference first.name second.name second.reference)
  /-- A report goes over a reference. -/
  | overwrites {c owner : RawCase} (clash : raw.FirstToOverwrite c owner) :
      raw.Blames (.outputIsReference c.name owner.name (raw.harness.outputOf c))

/-- Where places are pairwise apart, a case is told by its place. -/
theorem eq_iff_of_pairwise_ne {placeOf : RawCase → Path} {cases : List RawCase} {first : RawCase} {p : Path}
    (hpair : cases.Pairwise fun c d => (placeOf c).normalize ≠ (placeOf d).normalize)
    (hfirst : first ∈ cases) (hplace : (placeOf first).normalize = p.normalize) (d : RawCase) :
    d = first ↔ d ∈ cases ∧ (placeOf d).normalize = p.normalize := by
  constructor
  · rintro rfl
    exact ⟨hfirst, hplace⟩
  · rintro ⟨hd, hsame⟩
    by_contra hne
    have : Std.Symm fun c d : RawCase => (placeOf c).normalize ≠ (placeOf d).normalize :=
      ⟨fun _ _ => Ne.symm⟩
    exact hpair.forall hd hfirst hne (hsame.trans hplace.symm)

theorem expectationFault?_eq_some {context : String} {written : Option String}
    (h : expectationFault? context written = some e) : ∃ s cause, written = some s ∧
      Expectation.parse s = .error cause ∧ e = .invalidExpectation context cause := by
  obtain ⟨s, rfl, hs⟩ := Option.bind_eq_some_iff.1 h
  split at hs
  · cases hs
  · rename_i cause hparse
    exact ⟨s, cause, rfl, hparse, (Option.some.inj hs).symm⟩

/-- An error for the engine, the harness or the number of cases tells what is wrong with these. -/
theorem blames_of_setting {rule : TableRule}
    (hrule : rule ∈ [TableRule.program, .comparator, .jobs, .expectation, .someCase])
    (hfault : raw.fault? rule = some e) : raw.Blames e := by
  cases rule with
  | program =>
    obtain ⟨hblank, ⟨⟩⟩ := Option.ite_none_right_eq_some.1 hfault
    exact .program hblank
  | comparator =>
    obtain ⟨name, hname, hunknown⟩ := Option.bind_eq_some_iff.1 hfault
    obtain ⟨hnot, ⟨⟩⟩ := Option.ite_none_left_eq_some.1 hunknown
    exact .comparator hname (not_or.1 hnot)
  | jobs =>
    obtain ⟨hjobs, ⟨⟩⟩ := Option.ite_none_right_eq_some.1 hfault
    exact .jobs hjobs
  | expectation =>
    obtain ⟨s, cause, hs, hparse, rfl⟩ := expectationFault?_eq_some hfault
    exact .harnessExpectation hs hparse
  | someCase =>
    obtain ⟨hnone, ⟨⟩⟩ := Option.ite_none_right_eq_some.1 hfault
    exact .noCases hnone
  | ofCase | apart => simp at hrule

/-- An error for a case tells what is wrong with it, when the places of the cases before it are apart. -/
theorem blames_of_case {after : List RawCase} (hsplit : raw.cases = earlier ++ c :: after)
    (houtputs : earlier.Pairwise fun c d =>
      (raw.harness.outputOf c).normalize ≠ (raw.harness.outputOf d).normalize)
    (hreferences : earlier.Pairwise fun c d => c.reference.normalize ≠ d.reference.normalize)
    (hfault : CaseRule.all.findSome? (raw.harness.caseFault? earlier c) = some e) : raw.Blames e := by
  rw [show CaseRule.all = [.filled .name, .filled .root, .filled .reference, .filled .setup, .newName,
    .expectation] ++ [.newOutput, .newReference] from rfl, List.findSome?_append, Option.or_eq_some_iff]
    at hfault
  rcases hfault with halone | ⟨hnone, hplace⟩
  · obtain ⟨rule, hrule, hbroken⟩ := List.exists_of_findSome?_eq_some halone
    cases rule with
    | filled field =>
      obtain ⟨hlacks, ⟨⟩⟩ := Option.ite_none_right_eq_some.1 hbroken
      exact .emptyField hsplit hlacks
    | newName =>
      obtain ⟨⟨d, hd, hname⟩, ⟨⟩⟩ := Option.ite_none_right_eq_some.1 hbroken
      exact .name hsplit hd hname
    | expectation =>
      obtain ⟨s, cause, hs, hparse, rfl⟩ := expectationFault?_eq_some hbroken
      exact .expectation (by simp [hsplit]) hs hparse
    | newOutput | newReference => simp at hrule
  · -- The name is new, so the case before it has another one.
    have hnew : ∀ d ∈ earlier, d.name ≠ c.name := by
      simpa [RawHarness.caseFault?] using List.findSome?_eq_none_iff.1 hnone .newName (by simp)
    simp only [findSome?_cons_eq_or, List.findSome?_nil, Option.or_none, Option.or_eq_some_iff,
      RawHarness.caseFault?, Option.map_eq_some_iff] at hplace
    rcases hplace with ⟨first, hfind, rfl⟩ | ⟨-, first, hfind, rfl⟩
    · have hmem := List.mem_of_find?_eq_some hfind
      have hsame : (raw.harness.outputOf first).normalize = (raw.harness.outputOf c).normalize := by
        simpa using List.find?_some hfind
      exact .output ⟨earlier, after, hsplit, houtputs, eq_iff_of_pairwise_ne houtputs hmem hsame⟩
        (hnew first hmem)
    · have hmem := List.mem_of_find?_eq_some hfind
      have hsame : first.reference.normalize = c.reference.normalize := by
        simpa using List.find?_some hfind
      exact .reference ⟨earlier, after, hsplit, hreferences, eq_iff_of_pairwise_ne hreferences hmem hsame⟩
        (hnew first hmem)

/-- An error for a report that goes over a reference tells of the first such report, when no two cases share
a reference. -/
theorem blames_of_apart {after : List RawCase} (hsplit : raw.cases = earlier ++ c :: after)
    (hreferences : raw.cases.Pairwise fun c d => c.reference.normalize ≠ d.reference.normalize)
    (hearlier : ∀ d ∈ earlier, raw.fault? (.apart d) = none) (hfault : raw.fault? (.apart c) = some e) :
    raw.Blames e := by
  obtain ⟨owner, hfind, rfl⟩ := Option.map_eq_some_iff.1 hfault
  have hsame : owner.reference.normalize = (raw.harness.outputOf c).normalize := by
    simpa using List.find?_some hfind
  refine .overwrites ⟨earlier, after, hsplit, fun d hd r hr heq => ?_,
    eq_iff_of_pairwise_ne hreferences (List.mem_of_find?_eq_some hfind) hsame⟩
  have hnone := List.find?_eq_none.1 (Option.map_eq_none_iff.1 (hearlier d hd)) r hr
  exact hnone (decide_eq_true heq.symm)

/-- The rule for a case that is broken first stands after cases that were taken. -/
theorem findSome?_rulesAfter_cases (hharness : resolveHarness raw.harness = .ok harness)
    {cases : List RawCase}
    (hfault : (rulesAfter earlier cases).findSome? raw.fault? = some e) :
    ∃ before c after, cases = before ++ c :: after ∧
      (∃ taken, resolveCases harness (earlier.map RawCase.read) before = .ok taken) ∧
      CaseRule.all.findSome? (raw.harness.caseFault? (earlier ++ before) c) = some e := by
  induction cases generalizing earlier with
  | nil => cases hfault
  | cons c cases ih =>
    rw [rulesAfter_cons, List.findSome?_append, List.findSome?_map, Option.or_eq_some_iff] at hfault
    rcases hfault with hhere | ⟨hkept, hlater⟩
    · exact ⟨[], c, cases, rfl, ⟨_, rfl⟩, by rw [List.append_nil]; exact hhere⟩
    · obtain ⟨before, d, after, rfl, ⟨taken, htaken⟩, hbroken⟩ := ih hlater
      refine ⟨c :: before, d, after, rfl, ⟨taken, ?_⟩, by simpa using hbroken⟩
      obtain ⟨read, hread⟩ := errorOf?_eq_none_iff.1 ((errorOf?_resolveCase hharness earlier c).trans hkept)
      obtain ⟨-, rfl, -⟩ := resolveCase_eq_ok_iff.1 hread
      rw [List.map_append] at htaken
      rw [resolveCases, List.length_map, hread]
      exact htaken

/-- The places of cases that were taken are pairwise apart. -/
theorem pairwise_places_of_taken (hharness : resolveHarness raw.harness = .ok harness) {cases : List RawCase}
    {taken : List TestCase} (h : resolveCases harness [] cases = .ok taken) :
    (cases.Pairwise fun c d => (raw.harness.outputOf c).normalize ≠ (raw.harness.outputOf d).normalize) ∧
      cases.Pairwise fun c d => c.reference.normalize ≠ d.reference.normalize := by
  obtain ⟨-, -, hpair, -⟩ := resolveCases_eq_ok_iff.1 h
  have hraw : resolveHarness { raw with cases }.harness = .ok harness := hharness
  exact ((pairwise_fits_read_iff hraw).1 hpair).2

/-- **How a table is refused**: for a rule on the engine, the harness or the number of cases; or for a case,
after all before it were taken; or, after all were taken, for the first report that goes over a reference. -/
theorem resolve_eq_error_cases (h : resolve raw = .error e) :
    (∃ rule ∈ [TableRule.program, .comparator, .jobs, .expectation, .someCase],
      raw.fault? rule = some e) ∨
    (∃ harness before c after,
      resolveHarness raw.harness = .ok harness ∧ raw.cases = before ++ c :: after ∧
      (∃ taken, resolveCases harness [] before = .ok taken) ∧
      CaseRule.all.findSome? (raw.harness.caseFault? before c) = some e) ∨
    ∃ harness before c after, resolveHarness raw.harness = .ok harness ∧
      (∃ taken, resolveCases harness [] raw.cases = .ok taken) ∧ raw.cases = before ++ c :: after ∧
      (∀ d ∈ before, raw.fault? (.apart d) = none) ∧ raw.fault? (.apart c) = some e := by
  have hfault := (errorOf?_resolve raw).symm.trans (errorOf?_eq_some_iff.2 h)
  have hrules : raw.rules = [.program, .comparator, .jobs, .expectation, .someCase] ++
      (rulesAfter [] raw.cases ++ raw.cases.map .apart) := rfl
  rw [hrules, List.findSome?_append, List.findSome?_append, Option.or_eq_some_iff, Option.or_eq_some_iff]
    at hfault
  rcases hfault with hsettings | ⟨hkept, hcases⟩
  · exact Or.inl (List.exists_of_findSome?_eq_some hsettings)
  · obtain ⟨harness, hharness⟩ : ∃ harness, resolveHarness raw.harness = .ok harness := by
      rw [← errorOf?_eq_none_iff, errorOf?_resolveHarness, List.findSome?_eq_none_iff]
      exact fun rule hrule => List.findSome?_eq_none_iff.1 hkept rule (by grind)
    rcases hcases with hcase | ⟨htaken, hover⟩
    · obtain ⟨before, c, after, hsplit, htaken, hbroken⟩ := findSome?_rulesAfter_cases hharness hcase
      exact Or.inr (Or.inl ⟨harness, before, c, after, hharness, hsplit, htaken, hbroken⟩)
    · rw [List.findSome?_map] at hover
      obtain ⟨before, c, after, hsplit, hbroken, hbefore⟩ := List.findSome?_eq_some_iff.1 hover
      refine Or.inr (Or.inr ⟨harness, before, c, after, hharness, ?_, hsplit, hbefore, hbroken⟩)
      exact errorOf?_eq_none_iff.1 ((errorOf?_resolveCases hharness [] raw.cases).trans htaken)

/-- **Validation blames the right case.** A table is accepted when it breaks none of its rules, and
otherwise refused for the first one that it breaks, with the error for that rule. Two cases that the error
names by a shared place have different names, no case before the second one has the place of an earlier case,
and the first one alone has the place before it. A case whose report goes over a reference is the first such
case, and the owner is the only case with that reference. The index of a case with an empty field is the
number of cases before it. -/
theorem refusals_blame_the_first_fault (raw : RawConfig) :
    (raw.IsAccepted ↔ ∀ rule ∈ raw.rules, raw.fault? rule = none) ∧
      (∀ e, resolve raw = .error e ↔ raw.rules.findSome? raw.fault? = some e) ∧
      ∀ e, resolve raw = .error e → raw.Blames e := by
  refine ⟨?_, fun e => ?_, fun e h => ?_⟩
  · rw [← List.findSome?_eq_none_iff, ← errorOf?_resolve, errorOf?_eq_none_iff]
    rfl
  · rw [← errorOf?_eq_some_iff, errorOf?_resolve]
  · rcases resolve_eq_error_cases h with ⟨rule, hrule, hfault⟩ |
      ⟨harness, before, c, after, hharness, hsplit, ⟨taken, htaken⟩, hfault⟩ |
      ⟨harness, before, c, after, hharness, ⟨taken, htaken⟩, hsplit, hbefore, hfault⟩
    · exact blames_of_setting hrule hfault
    · obtain ⟨houtputs, hreferences⟩ := pairwise_places_of_taken hharness htaken
      exact blames_of_case hsplit houtputs hreferences hfault
    · exact blames_of_apart hsplit (pairwise_places_of_taken hharness htaken).2 hbefore hfault

/-- The sample table with two more cases: the report of the first of these has a place already, and the
other one has no name. -/
def crowdedTable : RawConfig :=
  { sampleTable with
    cases := sampleTable.cases ++ [
      { name := "safe", description := "", root := .ofText "tests/./vault", reference := .ofText "safe.md",
        args := [], env := .empty, setup := none, expect := none },
      { name := " ", description := "", root := .ofText "tests/vat", reference := .ofText "vat.md",
        args := [], env := .empty, setup := none, expect := none }] }

set_option maxRecDepth 4000 in
theorem resolve_crowdedTable : resolve crowdedTable =
    .error (.duplicateOutput "vault" "safe" (.ofText "./tests/vault-workflow.md")) := by rfl

/-- The table is refused for the two cases, and these are what the error says. -/
theorem crowdedTable_blames_safe : ∃ first second,
    FirstToClash crowdedTable.harness.outputOf crowdedTable.cases first second ∧
      first.name = "vault" ∧ second.name = "safe" := by
  have hblames := (refusals_blame_the_first_fault crowdedTable).2.2 _ resolve_crowdedTable
  generalize herror : ConfigError.duplicateOutput "vault" "safe" _ = e at hblames
  cases hblames with
  | output clash names =>
    injection herror with hfirst hsecond
    exact ⟨_, _, clash, hfirst.symm, hsecond.symm⟩
  | _ => cases herror

end GoldenCheck

import GoldenCheck.Config.Resolve
import GoldenCheck.Proofs.Except
import GoldenCheck.Proofs.Path.NormalForm
import Mathlib.Data.List.Forall2

/-!
# Which case tables are accepted

The rules of a case table as a predicate (`RawConfig.IsSound`): what each key on its own must be,
that names, reports and references are pairwise apart, and that no report goes where a reference is.
`resolve` checks the cases one after the other, each against those before it, and the reports against
the references at last. `isAccepted_iff` says that this amounts to the rules.

`Config.IsSeparate` is what an accepted table knows about its places. Runs rest on it.
-/

namespace GoldenCheck

/-! ### The rules -/

/-- No text at all, or one that names an expectation. -/
def IsExpectation (written : Option String) : Prop :=
  ∀ s, written = some s → ∃ e, Expectation.parse s = .ok e

/-- A case that breaks no rule on its own. -/
structure RawCase.IsSound (raw : RawCase) : Prop where
  /-- The name is not blank. -/
  name : isBlankText raw.name = false
  /-- There is a root. -/
  root : raw.root.bytes ≠ []
  /-- There is a reference. -/
  reference : raw.reference.bytes ≠ []
  /-- The setup command has a word. -/
  setup : raw.setup ≠ some []
  /-- The expectation has a meaning. -/
  expect : IsExpectation raw.expect

/-- Where the report of a case goes, as the harness is written. -/
def RawHarness.outputOf (raw : RawHarness) (c : RawCase) : Path :=
  (raw.outputDir.getD ⟨[Path.dot]⟩).join
    (Path.derive c.root c.reference (raw.suffix.getD Path.defaultSuffix))

/-- A case table that breaks no rule, save perhaps those that say where reports go. -/
structure RawConfig.IsSoundButForReports (raw : RawConfig) : Prop where
  /-- The engine has a program. -/
  program : isBlankText raw.engine.program = false
  /-- The comparator is one that there is. -/
  comparator : raw.harness.comparator = none ∨ raw.harness.comparator = some "in-process" ∨
    raw.harness.comparator = some "diff-tool"
  /-- Some case can run. -/
  jobs : raw.harness.jobs ≠ some 0
  /-- The expectation of the harness has a meaning. -/
  expect : IsExpectation raw.harness.expect
  /-- There is a case. -/
  someCase : raw.cases ≠ []
  /-- Each case is sound on its own. -/
  cases : ∀ c ∈ raw.cases, c.IsSound
  /-- No two cases share a name. -/
  names : raw.cases.Pairwise fun c d => c.name ≠ d.name
  /-- No two cases share a reference. -/
  references : raw.cases.Pairwise fun c d => c.reference.normalize ≠ d.reference.normalize

/-- A case table that breaks no rule. -/
structure RawConfig.IsSound (raw : RawConfig) : Prop extends raw.IsSoundButForReports where
  /-- No two reports go to one place. -/
  outputs : raw.cases.Pairwise fun c d =>
    (raw.harness.outputOf c).normalize ≠ (raw.harness.outputOf d).normalize
  /-- No report goes where a reference is. -/
  apart : ∀ c ∈ raw.cases, ∀ d ∈ raw.cases,
    (raw.harness.outputOf c).normalize ≠ d.reference.normalize

/-- `c` is the case that `raw` writes down. -/
structure RawCase.ReadsAs (raw : RawCase) (c : TestCase) : Prop where
  name : c.name = raw.name
  description : c.description = raw.description
  root : c.root = raw.root
  reference : c.reference = raw.reference
  args : c.args = raw.args
  env : c.env = raw.env
  setup : c.setup = raw.setup
  /-- An expectation that is left out stays out. -/
  noExpect : raw.expect = none → c.expect = none
  /-- An expectation that is written is the one that its text names. -/
  someExpect : ∀ s, raw.expect = some s → ∃ e, Expectation.parse s = .ok e ∧ c.expect = some e

/-- The table is accepted. -/
def RawConfig.IsAccepted (raw : RawConfig) : Prop := ∃ config, resolve raw = .ok config

/-- The places of an accepted table are apart. -/
structure Config.IsSeparate (config : Config) : Prop where
  /-- No two cases share a name. -/
  names : config.cases.Pairwise fun c d => c.name ≠ d.name
  /-- No two reports go to one place. -/
  outputs : config.cases.Pairwise fun c d =>
    (config.harness.outputOf c).normal ≠ (config.harness.outputOf d).normal
  /-- No two cases share a reference. -/
  references : config.cases.Pairwise fun c d => c.reference.normal ≠ d.reference.normal
  /-- No report goes where a reference is. -/
  apart : ∀ c ∈ config.cases, ∀ d ∈ config.cases,
    (config.harness.outputOf c).normal ≠ d.reference.normal

/-! ### Single keys -/

/-- The expectation that a text names, if there is one and it names any. -/
def readExpectation (written : Option String) : Option Expectation :=
  written.bind fun s => (Expectation.parse s).toOption

theorem resolveExpectation_eq_ok_iff {context : String} {written : Option String}
    {e : Option Expectation} :
    resolveExpectation context written = .ok e ↔
      IsExpectation written ∧ e = readExpectation written := by
  cases written with
  | none => simp [resolveExpectation, IsExpectation, readExpectation, pure, Except.pure, eq_comm]
  | some s =>
    cases hs : Expectation.parse s with
    | error f =>
      simp [resolveExpectation, IsExpectation, hs, Except.mapError, Functor.map, Except.map]
    | ok f =>
      simp [resolveExpectation, IsExpectation, readExpectation, hs, Except.mapError, Functor.map,
        Except.map, Except.toOption, eq_comm]

theorem resolveComparator_isOk_iff {raw : RawHarness} :
    (∃ choice, resolveComparator raw = .ok choice) ↔
      raw.comparator = none ∨ raw.comparator = some "in-process" ∨
        raw.comparator = some "diff-tool" := by
  unfold resolveComparator
  cases raw.comparator with
  | none => simp
  | some name =>
    by_cases h₁ : name = "in-process"
    · simp [h₁]
    · by_cases h₂ : name = "diff-tool"
      · simp [h₂]
      · simp [h₁, h₂]

theorem resolveEngine_isOk_iff {raw : RawEngine} :
    (∃ engine, resolveEngine raw = .ok engine) ↔ isBlankText raw.program = false := by
  unfold resolveEngine
  cases isBlankText raw.program <;> simp

theorem emptyField?_eq_none_iff {raw : RawCase} :
    raw.emptyField? = none ↔ isBlankText raw.name = false ∧ raw.root.bytes ≠ [] ∧
      raw.reference.bytes ≠ [] ∧ raw.setup ≠ some [] := by
  unfold RawCase.emptyField?
  simp only [Path.isEmpty, List.isEmpty_iff]
  split_ifs <;> simp_all

/-- The settings of a harness are those that are written, where any are. -/
theorem resolveHarness_eq_ok_iff {raw : RawHarness} {harness : HarnessSettings} :
    resolveHarness raw = .ok harness ↔
      ∃ choice, resolveComparator raw = .ok choice ∧ raw.jobs ≠ some 0 ∧ IsExpectation raw.expect ∧
        harness = {
          outputDir := raw.outputDir.getD ⟨[Path.dot]⟩
          suffix := raw.suffix.getD Path.defaultSuffix
          expect := (readExpectation raw.expect).getD .identical
          comparator := choice
          parallel := raw.parallel
          jobs := raw.jobs } := by
  unfold resolveHarness
  rw [bind_eq_ok_iff]
  refine exists_congr fun choice => and_congr_right fun _ => ?_
  by_cases hj : raw.jobs = some 0
  · simp [hj, throw_ne_ok, bind_eq_ok_iff]
  · simp only [hj, if_false, bind_eq_ok_iff, resolveExpectation_eq_ok_iff, pure_eq_ok_iff]
    constructor
    · rintro ⟨_, ⟨hexp, rfl⟩, rfl⟩
      exact ⟨hj, hexp, rfl⟩
    · rintro ⟨-, hexp, rfl⟩
      exact ⟨_, ⟨hexp, rfl⟩, rfl⟩

/-! ### One case after the other -/

/-- Two cases that can stand in one table, as far as names, reports and references go. -/
structure HarnessSettings.Fits (h : HarnessSettings) (c d : TestCase) : Prop where
  name : c.name ≠ d.name
  output : (h.outputOf c).normal ≠ (h.outputOf d).normal
  reference : c.reference.normal ≠ d.reference.normal

/-- The case that is written, its expectation read. -/
def RawCase.read (raw : RawCase) : TestCase := raw.toCase (readExpectation raw.expect)

theorem RawCase.IsSound.readsAs {raw : RawCase} (h : raw.IsSound) : raw.ReadsAs raw.read where
  name := rfl
  description := rfl
  root := rfl
  reference := rfl
  args := rfl
  env := rfl
  setup := rfl
  noExpect hnone := by simp [RawCase.read, RawCase.toCase, readExpectation, hnone]
  someExpect s hs := by
    obtain ⟨e, he⟩ := h.expect s hs
    exact ⟨e, he, by simp [RawCase.read, RawCase.toCase, readExpectation, hs, he, Except.toOption]⟩

theorem RawCase.isSound_iff {raw : RawCase} :
    raw.IsSound ↔ raw.emptyField? = none ∧ IsExpectation raw.expect := by
  rw [emptyField?_eq_none_iff]
  constructor
  · intro h
    exact ⟨⟨h.name, h.root, h.reference, h.setup⟩, h.expect⟩
  · rintro ⟨⟨hname, hroot, href, hsetup⟩, hexp⟩
    exact ⟨hname, hroot, href, hsetup, hexp⟩

/-- No earlier case is found at a place when the places of all are others. -/
theorem find?_sameFile_eq_none_iff {earlier : List TestCase} {placeOf : TestCase → Path} {p : Path} :
    (earlier.find? fun e => (placeOf e).sameFile p) = none ↔
      ∀ e ∈ earlier, (placeOf e).normal ≠ p.normal := by
  simp [List.find?_eq_none, ← Path.sameFile_eq_false_iff]

/-- A case is taken when it is sound and fits every case before it. -/
theorem resolveCase_eq_ok_iff {h : HarnessSettings} {earlier : List TestCase} {index : Nat}
    {raw : RawCase} {c : TestCase} :
    resolveCase h earlier index raw = .ok c ↔
      raw.IsSound ∧ c = raw.read ∧ ∀ e ∈ earlier, h.Fits e c := by
  rw [RawCase.isSound_iff]
  unfold resolveCase
  cases hempty : raw.emptyField? with
  | some field => simp [bind_eq_ok_iff, throw_ne_ok]
  | none =>
    by_cases hname : ∃ e ∈ earlier, e.name = raw.name
    · have hany : (earlier.any fun c => c.name = raw.name) = true := by simpa using hname
      obtain ⟨e, he, hsame⟩ := hname
      simp only [hany, if_true, bind_eq_ok_iff, throw_ne_ok, false_and, exists_false, false_iff]
      rintro ⟨-, rfl, hfit⟩
      exact (hfit e he).name hsame
    · have hany : (earlier.any fun c => c.name = raw.name) = false := by simpa using hname
      simp only [hany, Bool.false_eq_true, if_false, bind_eq_ok_iff, resolveExpectation_eq_ok_iff,
        true_and]
      constructor
      · rintro ⟨_, ⟨hexp, rfl⟩, hrest⟩
        split at hrest
        · exact (throw_bind_ne_ok hrest).elim
        · rename_i hout
          split at hrest
          · exact (throw_bind_ne_ok hrest).elim
          · rename_i href
            obtain rfl := pure_eq_ok_iff.1 hrest
            refine ⟨hexp, rfl, fun e he => ⟨fun hsame => hname ⟨e, he, hsame⟩, ?_, ?_⟩⟩
            · exact find?_sameFile_eq_none_iff.1 (Option.eq_none_iff_forall_ne_some.2 hout) e he
            · exact find?_sameFile_eq_none_iff.1 (Option.eq_none_iff_forall_ne_some.2 href) e he
      · rintro ⟨hexp, rfl, hfit⟩
        have houtput := find?_sameFile_eq_none_iff.2 fun e he => (hfit e he).output
        have hreference := find?_sameFile_eq_none_iff.2 fun e he => (hfit e he).reference
        refine ⟨_, ⟨hexp, rfl⟩, ?_⟩
        rw [RawCase.read] at houtput hreference
        rw [houtput, hreference]
        rfl

/-- **The cases are taken one after the other**: each is sound on its own, and fits all before it. -/
theorem resolveCases_eq_ok_iff {h : HarnessSettings} {earlier cases : List TestCase}
    {raws : List RawCase} :
    resolveCases h earlier raws = .ok cases ↔
      (∀ raw ∈ raws, raw.IsSound) ∧ cases = earlier ++ raws.map RawCase.read ∧
        (raws.map RawCase.read).Pairwise h.Fits ∧
        ∀ e ∈ earlier, ∀ raw ∈ raws, h.Fits e raw.read := by
  induction raws generalizing earlier with
  | nil => simp [resolveCases, eq_comm]
  | cons raw raws ih =>
    have hstep : resolveCases h earlier (raw :: raws) = .ok cases ↔
        ∃ c, resolveCase h earlier earlier.length raw = .ok c ∧
          resolveCases h (earlier ++ [c]) raws = .ok cases := by
      cases hc : resolveCase h earlier earlier.length raw <;>
        simp [resolveCases, bind, Except.bind, hc]
    rw [hstep]
    constructor
    · rintro ⟨c, hc, hrest⟩
      obtain ⟨hsound, rfl, hearlier⟩ := resolveCase_eq_ok_iff.1 hc
      obtain ⟨hsounds, rfl, hpair, hfit⟩ := ih.1 hrest
      refine ⟨?_, by simp, ?_, ?_⟩
      · simpa using ⟨hsound, hsounds⟩
      · rw [List.map_cons, List.pairwise_cons]
        refine ⟨fun d hd => ?_, hpair⟩
        obtain ⟨r, hr, rfl⟩ := List.mem_map.1 hd
        exact hfit raw.read (by simp) r hr
      · intro e he r hr
        rcases List.mem_cons.1 hr with rfl | hr
        · exact hearlier e he
        · exact hfit e (by simp [he]) r hr
    · rintro ⟨hsound, rfl, hpair, hfit⟩
      rw [List.map_cons, List.pairwise_cons] at hpair
      refine ⟨raw.read, resolveCase_eq_ok_iff.2 ⟨hsound raw (by simp), rfl, ?_⟩, ih.2 ⟨?_, ?_, ?_, ?_⟩⟩
      · exact fun e he => hfit e he raw (by simp)
      · exact fun r hr => hsound r (by simp [hr])
      · simp
      · exact hpair.2
      · intro e he r hr
        rcases List.mem_append.1 he with he | he
        · exact hfit e he r (by simp [hr])
        · rw [List.mem_singleton.1 he]
          exact hpair.1 r.read (List.mem_map_of_mem hr)

/-- No report goes where a reference is, when none is found that does. -/
theorem overwriting?_eq_none_iff {h : HarnessSettings} {cases : List TestCase} :
    overwriting? h cases = none ↔
      ∀ c ∈ cases, ∀ d ∈ cases, (h.outputOf c).normal ≠ d.reference.normal := by
  simp only [overwriting?, List.findSome?_eq_none_iff, Option.map_eq_none_iff, List.find?_eq_none,
    Path.sameFile_iff]
  exact forall₄_congr fun _ _ _ _ => ne_comm

/-! ### The whole table -/

/-- What an accepted table becomes. -/
theorem resolve_eq_ok_iff {raw : RawConfig} {config : Config} :
    resolve raw = .ok config ↔
      resolveEngine raw.engine = .ok config.engine ∧
      resolveHarness raw.harness = .ok config.harness ∧ raw.cases ≠ [] ∧
      (∀ c ∈ raw.cases, c.IsSound) ∧ config.cases = raw.cases.map RawCase.read ∧
      config.cases.Pairwise config.harness.Fits ∧
      ∀ c ∈ config.cases, ∀ d ∈ config.cases,
        (config.harness.outputOf c).normal ≠ d.reference.normal := by
  obtain ⟨engine, harness, cases⟩ := config
  unfold resolve
  rw [bind_eq_ok_iff]
  constructor
  · rintro ⟨engine', hengine, hrest⟩
    obtain ⟨harness', hharness, hrest⟩ := bind_eq_ok_iff.1 hrest
    split_ifs at hrest with hnone
    · exact (throw_bind_ne_ok hrest).elim
    · obtain ⟨cases', hcases, hrest⟩ := bind_eq_ok_iff.1 hrest
      split at hrest
      · exact (throw_bind_ne_ok hrest).elim
      · rename_i hover
        cases pure_eq_ok_iff.1 hrest
        obtain ⟨hsound, hread, hpair, -⟩ := resolveCases_eq_ok_iff.1 hcases
        rw [List.nil_append] at hread
        refine ⟨hengine, hharness, hnone, hsound, hread, hread ▸ hpair, ?_⟩
        refine overwriting?_eq_none_iff.1 (Option.eq_none_iff_forall_ne_some.2 ?_)
        exact fun found hfound => hover found.1 found.2 hfound
  · rintro ⟨hengine, hharness, hnone, hsound, hread, hpair, hapart⟩
    simp only at hengine hharness hread hpair hapart
    have hcases : resolveCases harness [] raw.cases = .ok cases :=
      resolveCases_eq_ok_iff.2 ⟨hsound, by simpa using hread, hread ▸ hpair, by simp⟩
    refine ⟨engine, hengine, bind_eq_ok_iff.2 ⟨harness, hharness, ?_⟩⟩
    rw [if_neg hnone]
    refine bind_eq_ok_iff.2 ⟨cases, hcases, ?_⟩
    rw [overwriting?_eq_none_iff.2 hapart]
    rfl

/-- The reports of an accepted table go where the table says. -/
theorem outputOf_read {raw : RawHarness} {harness : HarnessSettings}
    (h : resolveHarness raw = .ok harness) (c : RawCase) :
    harness.outputOf c.read = raw.outputOf c := by
  obtain ⟨_, -, -, -, rfl⟩ := resolveHarness_eq_ok_iff.1 h
  rfl

/-- Cases fit each other when their names, reports and references are pairwise apart. -/
theorem pairwise_fits_read_iff {raw : RawConfig} {harness : HarnessSettings}
    (h : resolveHarness raw.harness = .ok harness) :
    (raw.cases.map RawCase.read).Pairwise harness.Fits ↔
      (raw.cases.Pairwise fun c d => c.name ≠ d.name) ∧
      (raw.cases.Pairwise fun c d =>
        (raw.harness.outputOf c).normalize ≠ (raw.harness.outputOf d).normalize) ∧
      raw.cases.Pairwise fun c d => c.reference.normalize ≠ d.reference.normalize := by
  rw [List.pairwise_map, ← List.pairwise_and_iff, ← List.pairwise_and_iff]
  refine iff_of_eq (congrArg₂ _ (funext₂ fun c d => propext ?_) rfl)
  constructor
  · rintro ⟨hname, hout, href⟩
    rw [outputOf_read h, outputOf_read h, ne_eq, Path.normal_eq_iff] at hout
    exact ⟨hname, hout, fun heq => href (Path.normal_eq_iff.2 heq)⟩
  · rintro ⟨hname, hout, href⟩
    refine ⟨hname, ?_, fun heq => href (Path.normal_eq_iff.1 heq)⟩
    rwa [outputOf_read h, outputOf_read h, ne_eq, Path.normal_eq_iff]

/-- **The rules are what is checked**: a table is accepted exactly when it breaks no rule. -/
theorem isAccepted_iff (raw : RawConfig) : raw.IsAccepted ↔ raw.IsSound := by
  constructor
  · rintro ⟨config, h⟩
    obtain ⟨hengine, hharness, hsome, hcases, hread, hpair, hapart⟩ := resolve_eq_ok_iff.1 h
    obtain ⟨_, hchoice, hjobs, hexpect, -⟩ := resolveHarness_eq_ok_iff.1 hharness
    rw [hread] at hpair hapart
    obtain ⟨hnames, houtputs, hreferences⟩ := (pairwise_fits_read_iff hharness).1 hpair
    refine {
      program := resolveEngine_isOk_iff.1 ⟨_, hengine⟩
      comparator := resolveComparator_isOk_iff.1 ⟨_, hchoice⟩
      jobs := hjobs
      expect := hexpect
      someCase := hsome
      cases := hcases
      names := hnames
      outputs := houtputs
      references := hreferences
      apart := fun c hc d hd heq => ?_ }
    refine hapart c.read (List.mem_map_of_mem hc) d.read (List.mem_map_of_mem hd) ?_
    rw [outputOf_read hharness]
    exact Path.normal_eq_iff.2 heq
  · intro h
    obtain ⟨engine, hengine⟩ := resolveEngine_isOk_iff.2 h.program
    obtain ⟨choice, hchoice⟩ := resolveComparator_isOk_iff.2 h.comparator
    have hharness := resolveHarness_eq_ok_iff.2 ⟨choice, hchoice, h.jobs, h.expect, rfl⟩
    refine ⟨⟨engine, _, raw.cases.map RawCase.read⟩, resolve_eq_ok_iff.2
      ⟨hengine, hharness, h.someCase, h.cases, rfl, ?_, ?_⟩⟩
    · exact (pairwise_fits_read_iff hharness).2 ⟨h.names, h.outputs, h.references⟩
    · intro c hc d hd
      obtain ⟨c', hc', rfl⟩ := List.mem_map.1 hc
      obtain ⟨d', hd', rfl⟩ := List.mem_map.1 hd
      rw [outputOf_read hharness, ne_eq, Path.normal_eq_iff]
      exact h.apart c' hc' d' hd'

/-- The cases of an accepted table are those that are written, in their order. -/
theorem readsAs_of_resolve {raw : RawConfig} {config : Config} (h : resolve raw = .ok config) :
    List.Forall₂ RawCase.ReadsAs raw.cases config.cases := by
  obtain ⟨-, -, -, hcases, hread, -, -⟩ := resolve_eq_ok_iff.1 h
  rw [hread, List.forall₂_map_right_iff, List.forall₂_same]
  exact fun c hc => (hcases c hc).readsAs

/-- The places of an accepted table are apart. -/
theorem isSeparate_of_resolve {raw : RawConfig} {config : Config} (h : resolve raw = .ok config) :
    config.IsSeparate := by
  obtain ⟨-, -, -, -, -, hpair, hapart⟩ := resolve_eq_ok_iff.1 h
  exact ⟨hpair.imp fun h => h.name, hpair.imp fun h => h.output, hpair.imp fun h => h.reference,
    hapart⟩

/-- The order of the cases does not matter to the rules. -/
theorem RawConfig.IsSound.perm {raw : RawConfig} (h : raw.IsSound) {cases : List RawCase}
    (hp : raw.cases.Perm cases) : RawConfig.IsSound { raw with cases } where
  program := h.program
  comparator := h.comparator
  jobs := h.jobs
  expect := h.expect
  someCase hnil := h.someCase (List.Perm.eq_nil (hnil ▸ hp))
  cases c hc := h.cases c (hp.mem_iff.2 hc)
  names := (hp.pairwise_iff Ne.symm).1 h.names
  outputs := (hp.pairwise_iff Ne.symm).1 h.outputs
  references := (hp.pairwise_iff Ne.symm).1 h.references
  apart c hc d hd := h.apart c (hp.mem_iff.2 hc) d (hp.mem_iff.2 hd)

/-- A part of a sound table is sound, unless it is empty. -/
theorem RawConfig.IsSound.sublist {raw : RawConfig} (h : raw.IsSound) {cases : List RawCase}
    (hs : cases.Sublist raw.cases) (hne : cases ≠ []) : RawConfig.IsSound { raw with cases } where
  program := h.program
  comparator := h.comparator
  jobs := h.jobs
  expect := h.expect
  someCase := hne
  cases c hc := h.cases c (hs.subset hc)
  names := h.names.sublist hs
  outputs := h.outputs.sublist hs
  references := h.references.sublist hs
  apart c hc d hd := h.apart c (hs.subset hc) d (hs.subset hd)

/-- **Validation is exact.** A table is accepted exactly when it breaks no rule. The cases of an
accepted table are the ones that are written, in their order, with every field as it is written and
the expectation read. The order of the cases does not matter to acceptance, and a part of an
accepted table is accepted unless it is empty. -/
theorem resolve_accepts_exactly_sound_tables (raw : RawConfig) :
    (raw.IsAccepted ↔ raw.IsSound) ∧
    (∀ config, resolve raw = .ok config → List.Forall₂ RawCase.ReadsAs raw.cases config.cases) ∧
    (∀ cases, raw.cases.Perm cases →
      (raw.IsAccepted ↔ RawConfig.IsAccepted { raw with cases })) ∧
    (∀ cases, cases.Sublist raw.cases → cases ≠ [] → raw.IsAccepted →
      RawConfig.IsAccepted { raw with cases }) := by
  refine ⟨isAccepted_iff raw, fun config h => readsAs_of_resolve h, fun cases hp => ?_,
    fun cases hs hne h => ?_⟩
  · rw [isAccepted_iff, isAccepted_iff]
    exact ⟨fun h => h.perm hp, fun h => h.perm hp.symm⟩
  · rw [isAccepted_iff] at h ⊢
    exact h.sublist hs hne

/-- A table of two cases, the first with an expectation of its own. -/
def sampleTable : RawConfig where
  engine := ⟨"analyse", [], none, none⟩
  harness := .unset
  cases := [
    { name := "vault", description := "", root := .ofText "../tests/vault/",
      reference := .ofText "reports/vault.md", args := [], env := .empty, setup := none,
      expect := some " Different " },
    { name := "token", description := "", root := .ofText "tests/token",
      reference := .ofText "./reports/token.md", args := [], env := .empty, setup := some ["make"],
      expect := none }]

/-- What the sample table becomes. -/
def sampleConfig : Config where
  engine := ⟨"analyse", [], "-o", none⟩
  harness := ⟨⟨[Path.dot]⟩, Path.defaultSuffix, .identical, .inProcess, false, none⟩
  cases := [
    { name := "vault", root := .ofText "../tests/vault/", reference := .ofText "reports/vault.md",
      expect := some .different },
    { name := "token", root := .ofText "tests/token", reference := .ofText "./reports/token.md",
      setup := some ["make"] }]

set_option maxRecDepth 4000 in
theorem resolve_sampleTable : resolve sampleTable = .ok sampleConfig := by rfl

/-- The sample table breaks no rule, and is accepted also without its first case. -/
theorem sampleTable_tail_accepted : sampleTable.IsSound ∧
    RawConfig.IsAccepted { sampleTable with cases := sampleTable.cases.tail } :=
  have h := resolve_accepts_exactly_sound_tables sampleTable
  ⟨h.1.1 ⟨_, resolve_sampleTable⟩,
    h.2.2.2 _ (List.tail_sublist _) (by simp [sampleTable]) ⟨_, resolve_sampleTable⟩⟩

end GoldenCheck

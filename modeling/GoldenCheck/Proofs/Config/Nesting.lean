import GoldenCheck.Proofs.Config.Validation
import GoldenCheck.Proofs.Engine.Closed
import GoldenCheck.Proofs.Files.Above
import GoldenCheck.Proofs.Path.Derivation
import Mathlib.Data.List.Pairwise

/-!
# Reports above reports

No two reports of an accepted table go to one place. But nothing checks that none goes above another,
where the other needs a directory. With a suffix that has no slash, the roots decide
(`HarnessSettings.isAbove_outputOf_iff`): a report is above another when the other root lies, among other
names, inside what the report is called.

The reports of a table fit side by side exactly when none is above another (`reports_fit_iff`), and where
one is, it depends on which is made first whether the other can be made. This is what
`reports_fit_side_by_side` puts together. `nested_report_is_taken` is a table that is accepted all the same.
-/

namespace GoldenCheck

open Path

/-! ### Reports of one harness -/

section

variable {h : HarnessSettings} {c d : TestCase} (hsuffix : '/' ∉ h.suffix.toList)
include hsuffix

theorem HarnessSettings.components_outputOf (c : TestCase) :
    (h.outputOf c).normalize.components =
      h.outputDir.steps ++ (derive c.root c.reference h.suffix).components :=
  (staysBelow_derive c.root c.reference hsuffix).components_join_normalize h.outputDir

/-- **A report is above another** when the directories of the other report begin with all its names. -/
theorem HarnessSettings.isAbove_outputOf_iff : (h.outputOf c).IsAbove (h.outputOf d) ↔
    (derive c.root c.reference h.suffix).components <+: d.root.reportDirs := by
  rw [IsAbove, components_outputOf hsuffix, components_outputOf hsuffix, List.prefix_append_right_inj,
    ne_eq, List.append_cancel_left_eq, components_derive_of_slash_notMem d.root d.reference hsuffix,
    List.prefix_concat_iff]
  constructor
  · rintro ⟨heq | hbegins, hne⟩
    · exact absurd heq hne
    · exact hbegins
  · intro hbegins
    refine ⟨Or.inr hbegins, fun heq => ?_⟩
    have hlen := hbegins.length_le
    rw [heq, List.length_append] at hlen
    simp at hlen

/-- A report ends with a name. -/
theorem HarnessSettings.getLast?_steps_outputOf (c : TestCase) :
    (h.outputOf c).steps.getLast? =
      some (.name (ofText (reportName c.root c.reference h.suffix)).bytes) := by
  have hsteps := (staysBelow_derive c.root c.reference hsuffix).steps_join h.outputDir
  rw [HarnessSettings.outputOf, TestCase.outputPath, hsteps,
    components_derive_of_slash_notMem c.root c.reference hsuffix, ← List.append_assoc,
    List.getLast?_concat]

/-- The place of a report is that of the directory for reports, and its names further down. -/
theorem HarnessSettings.placeOf_outputOf (w : World) (c : TestCase) :
    w.placeOf (h.outputOf c) =
      (derive c.root c.reference h.suffix).rootNames ++ w.placeOf h.outputDir :=
  World.placeOf_join w h.outputDir (staysBelow_derive c.root c.reference hsuffix)

theorem HarnessSettings.placeOf_outputOf_ne_nil (w : World) (c : TestCase) :
    w.placeOf (h.outputOf c) ≠ [] := by
  have hbelow := staysBelow_derive c.root c.reference hsuffix
  rw [placeOf_outputOf hsuffix]
  intro hnil
  refine hbelow.ne_nil ?_
  rw [hbelow.components_eq, (List.append_eq_nil_iff.1 hnil).1]
  rfl

/-- A report whose place is above that of another, or at it, is above the other, or is spelled alike. -/
theorem HarnessSettings.isAbove_of_suffix {w : World}
    (hplace : w.placeOf (h.outputOf c) <:+ w.placeOf (h.outputOf d)) :
    (h.outputOf c).IsAbove (h.outputOf d) ∨ (h.outputOf c).normal = (h.outputOf d).normal := by
  rw [placeOf_outputOf hsuffix, placeOf_outputOf hsuffix] at hplace
  obtain ⟨more, hmore⟩ := hplace
  rw [← List.append_assoc, List.append_cancel_right_eq] at hmore
  have hcomponents : (h.outputOf d).normalize.components =
      (h.outputOf c).normalize.components ++ more.reverse.map .name := by
    rw [components_outputOf hsuffix, components_outputOf hsuffix,
      (staysBelow_derive c.root c.reference hsuffix).components_eq,
      (staysBelow_derive d.root d.reference hsuffix).components_eq, ← hmore, List.reverse_append,
      List.map_append, List.append_assoc]
  by_cases hnil : more = []
  · subst hnil
    rw [List.reverse_nil, List.map_nil, List.append_nil] at hcomponents
    exact Or.inr (normal_eq_iff_steps.2 (by rw [steps, steps, hcomponents]))
  · refine Or.inl ⟨⟨_, hcomponents.symm⟩, fun heq => hnil ?_⟩
    rw [← heq] at hcomponents
    simpa using hcomponents

end

/-! ### Reports side by side -/

section

variable {config : Config} {cwd : Location} {c d : TestCase}

/-- Where the report of a case goes, from a current directory. -/
def Config.placeOf (config : Config) (cwd : Location) (c : TestCase) : Location :=
  World.placeOf ⟨.empty, cwd⟩ (config.harness.outputOf c)

/-- What lies at a location, when the report of each case lies at its place and holds what is said. -/
def Config.contentAt (config : Config) (cwd : Location) (content : TestCase → Bytes) (l : Location) :
    Bytes :=
  ((config.cases.find? fun c => config.placeOf cwd c = l).map content).getD []

/-- Whatever the reports hold, there can be files in which each report of the table lies at its place, as
a file, and every entry lies in a directory. -/
def Config.ReportsFit (config : Config) (cwd : Location) : Prop :=
  ∀ content : TestCase → Bytes, ∃ tree : FileTree, World.IsClosed ⟨tree, cwd⟩ ∧
    ∀ c ∈ config.cases, tree.get? (config.placeOf cwd c) = some (.file (content c))

/-- Cases whose reports are spelled alike are one case. -/
theorem Config.IsSeparate.eq_of_output_eq (hsep : config.IsSeparate) (hc : c ∈ config.cases)
    (hd : d ∈ config.cases)
    (hsame : (config.harness.outputOf c).normal = (config.harness.outputOf d).normal) : c = d := by
  have hsymm : Std.Symm fun c d : TestCase =>
      (config.harness.outputOf c).normal ≠ (config.harness.outputOf d).normal := ⟨fun _ _ => Ne.symm⟩
  by_contra hne
  exact hsep.outputs.forall hc hd hne hsame

theorem Config.contentAt_placeOf
    (hone : ∀ d ∈ config.cases, config.placeOf cwd d = config.placeOf cwd c → d = c)
    (hc : c ∈ config.cases) (content : TestCase → Bytes) :
    config.contentAt cwd content (config.placeOf cwd c) = content c := by
  have hsome : (config.cases.find? fun d => config.placeOf cwd d = config.placeOf cwd c).isSome := by
    rw [List.find?_isSome]
    exact ⟨c, hc, by simp⟩
  obtain ⟨d, hfound⟩ := Option.isSome_iff_exists.1 hsome
  have hsame : config.placeOf cwd d = config.placeOf cwd c := by simpa using List.find?_some hfound
  rw [contentAt, hfound, hone d (List.mem_of_find?_eq_some hfound) hsame]
  rfl

/-- **Reports fit side by side** exactly when none is above another. -/
theorem Config.IsSeparate.reportsFit_iff (hsep : config.IsSeparate)
    (hsuffix : '/' ∉ config.harness.suffix.toList) (cwd : Location) :
    config.ReportsFit cwd ↔ ∀ c ∈ config.cases, ∀ d ∈ config.cases,
      ¬ (config.harness.outputOf c).IsAbove (config.harness.outputOf d) := by
  constructor
  · intro hfit c hc d hd habove
    obtain ⟨tree, hclosed, hfiles⟩ := hfit fun _ => []
    obtain ⟨hplace, hne⟩ : config.placeOf cwd c <:+ config.placeOf cwd d ∧
        config.placeOf cwd c ≠ config.placeOf cwd d :=
      World.placeOf_above _ (HarnessSettings.getLast?_steps_outputOf hsuffix c) habove
    have hdir : tree.get? (config.placeOf cwd c) = some .directory :=
      hclosed.directory_of_suffix (by rw [hfiles d hd]; rfl) hplace hne
    rw [hfiles c hc] at hdir
    cases hdir
  · intro hapart content
    have hone : ∀ c ∈ config.cases, ∀ d ∈ config.cases,
        config.placeOf cwd c <:+ config.placeOf cwd d → c = d := by
      intro c hc d hd hplace
      rcases HarnessSettings.isAbove_of_suffix hsuffix hplace with habove | hsame
      · exact absurd habove (hapart c hc d hd)
      · exact hsep.eq_of_output_eq hc hd hsame
    refine ⟨.holding (config.cases.map (config.placeOf cwd)) (config.contentAt cwd content),
      FileTree.isClosed_holding ?_ cwd, fun c hc => ?_⟩
    · intro p hp q hq hpq
      obtain ⟨c, hc, rfl⟩ := List.mem_map.1 hp
      obtain ⟨d, hd, rfl⟩ := List.mem_map.1 hq
      rw [hone c hc d hd hpq]
    · have hne : config.placeOf cwd c ≠ [] := HarnessSettings.placeOf_outputOf_ne_nil hsuffix _ c
      rw [FileTree.get?_holding hne, if_pos (List.mem_map_of_mem hc),
        config.contentAt_placeOf (fun d hd heq => hone d hd c hc (heq ▸ List.suffix_refl _)) hc]

end

/-! ### The main result -/

/-- **Reports fit side by side when none is above another.** Say that the suffix of an accepted table has
no slash. There can be files with all reports of the table in them exactly when no report is above
another. A report is above another when the directories of the other report begin with all its names. And
when the report of a case is made, nothing lay at any place below it, not at that of a reference either,
and at the place of a report above it there was at most a directory: so where one report is above another,
the one that is made first keeps the other from being made. Where it is not, making it changes nothing at
the other report or on the way there, but that directories come to exist. -/
theorem reports_fit_side_by_side {raw : RawConfig} {config : Config} (h : resolve raw = .ok config)
    (hsuffix : '/' ∉ config.harness.suffix.toList) :
    (∀ cwd, config.ReportsFit cwd ↔ ∀ c ∈ config.cases, ∀ d ∈ config.cases,
      ¬ (config.harness.outputOf c).IsAbove (config.harness.outputOf d)) ∧
    (∀ c ∈ config.cases, ∀ d ∈ config.cases,
      ((config.harness.outputOf c).IsAbove (config.harness.outputOf d) ↔
        (derive c.root c.reference config.harness.suffix).components <+: d.root.reportDirs)) ∧
    ∀ launch engine desk, ∀ c ∈ config.cases,
      Engine.Makes launch engine c (config.harness.outputOf c) desk →
      let before := (Engine.afterSetup launch c desk).world
      let after := (Engine.generateCase launch engine c (config.harness.outputOf c) desk).2.world
      (∀ p, (config.harness.outputOf c).IsAbove p → before.tree.get? (before.placeOf p) = none) ∧
      ∀ d ∈ config.cases,
        ((config.harness.outputOf d).IsAbove (config.harness.outputOf c) →
          ∀ e, before.tree.get? (before.placeOf (config.harness.outputOf d)) = some e →
            e = .directory) ∧
        (d ≠ c → ¬ (config.harness.outputOf c).IsAbove (config.harness.outputOf d) →
          ∀ l, l <:+ before.placeOf (config.harness.outputOf d) →
            World.KeptAt (Staging.directoryOf (config.harness.outputOf c)) before after l) := by
  have hsep := isSeparate_of_resolve h
  refine ⟨hsep.reportsFit_iff hsuffix, fun c _ d _ => HarnessSettings.isAbove_outputOf_iff hsuffix, ?_⟩
  intro launch engine desk c hc hmakes before after
  have hlast := HarnessSettings.getLast?_steps_outputOf hsuffix
  refine ⟨fun p habove => ?_, fun d hd => ⟨fun habove e he => ?_, fun hne hapart l hl => ?_⟩⟩
  · obtain ⟨hplace, hne⟩ := World.placeOf_above before (hlast c) habove
    by_contra hsome
    obtain ⟨e, he⟩ := Option.ne_none_iff_exists'.1 hsome
    exact (hmakes.apart he hne.symm).2 hplace
  · obtain ⟨hplace, hne⟩ := World.placeOf_above before (hlast d) habove
    exact (hmakes.apart he hne).1 hplace
  · refine hmakes.kept fun heq => ?_
    rcases HarnessSettings.isAbove_of_suffix hsuffix (heq ▸ hl) with habove | hsame
    · exact hapart habove
    · exact hne (hsep.eq_of_output_eq hc hd hsame).symm

/-- A table of two cases, with the second root inside what the report of the first is called. -/
def nestedTable : RawConfig where
  engine := ⟨"analyse", [], none, none⟩
  harness := { RawHarness.unset with outputDir := some (.ofText "out") }
  cases := [
    { name := "first", description := "", root := .ofText "a", reference := .ofText "golden/first.md",
      args := [], env := .empty, setup := none, expect := none },
    { name := "second", description := "", root := .ofText "a-workflow.md/b",
      reference := .ofText "golden/second.md", args := [], env := .empty, setup := none,
      expect := none }]

def nestedFirst : TestCase where
  name := "first"
  root := .ofText "a"
  reference := .ofText "golden/first.md"

def nestedSecond : TestCase where
  name := "second"
  root := .ofText "a-workflow.md/b"
  reference := .ofText "golden/second.md"

/-- What that table becomes. -/
def nestedConfig : Config where
  engine := ⟨"analyse", [], "-o", none⟩
  harness := ⟨.ofText "out", Path.defaultSuffix, .identical, .inProcess, false, none⟩
  cases := [nestedFirst, nestedSecond]

set_option maxRecDepth 4000 in
theorem resolve_nestedTable : resolve nestedTable = .ok nestedConfig := by rfl

/-- A desk with the first root. -/
def nestedDesk : Desk := .ofWorld ⟨.holding [[Utf8.encode "a"]] fun _ => [], []⟩ ⟨0, 0⟩

set_option maxRecDepth 8000 in
/-- The first report is made on that desk. -/
theorem nestedFirst_makes : Engine.Makes Engine.sampleLaunch nestedConfig.engine nestedFirst
    (nestedConfig.harness.outputOf nestedFirst) nestedDesk where
  closed := FileTree.isClosed_holding (by simp) []
  tidy staging w (hstaged : Engine.staged? nestedDesk.world _ = some (staging, w)) := by
    have hstaging : (Engine.staged? nestedDesk.world
        (nestedConfig.harness.outputOf nestedFirst)).map Prod.fst = some Engine.sampleStaging := by rfl
    rw [hstaged] at hstaging
    cases hstaging
    exact ⟨rfl, fun l hl => FileTree.get?_insert_of_ne _ _ hl,
      Or.inr ⟨[35], FileTree.get?_insert_self _ _ (List.cons_ne_nil _ _)⟩⟩
  clock := by simp [Engine.IsInTime, nestedConfig]
  done := by rfl

/-- The reports of the sample table fit side by side. Those of the other table do not, and where its first
report is made there is nothing at the place of the second. -/
theorem sample_reports_fit : sampleConfig.ReportsFit [] ∧ (∀ cwd, ¬ nestedConfig.ReportsFit cwd) ∧
    nestedDesk.world.tree.get?
      (nestedDesk.world.placeOf (nestedConfig.harness.outputOf nestedSecond)) = none := by
  have hsample := reports_fit_side_by_side resolve_sampleTable (by decide)
  have hnested := reports_fit_side_by_side resolve_nestedTable (by decide)
  have habove : (nestedConfig.harness.outputOf nestedFirst).IsAbove
      (nestedConfig.harness.outputOf nestedSecond) := by decide
  refine ⟨(hsample.1 []).2 (by decide), fun cwd hfit => ?_, ?_⟩
  · exact (hnested.1 cwd).1 hfit nestedFirst (by decide) nestedSecond (by decide) habove
  · exact (hnested.2.2 _ _ _ nestedFirst (by decide) nestedFirst_makes).1 _ habove

/-- The second report would lie inside the first: the table is accepted. -/
theorem nested_report_is_taken : resolve nestedTable = .ok nestedConfig ∧
    nestedConfig.cases.map nestedConfig.harness.outputOf =
      [.ofText "out/a-workflow.md", .ofText "out/a-workflow.md/b-workflow.md"] ∧
    Path.IsAbove (.ofText "out/a-workflow.md") (.ofText "out/a-workflow.md/b-workflow.md") := by
  refine ⟨resolve_nestedTable, by decide, by decide⟩

end GoldenCheck

import GoldenCheck.Proofs.Config.Validation
import GoldenCheck.Proofs.Run.Bench

/-!
# The places of a run

The cases of a run are a part of the table in the order of the table (`select_sublist`). So what an
accepted table knows about its places (`Config.IsSeparate`) is known of the cases of a run as well
(`PlacesApart`), as long as the run keeps to the directory and the suffix of the table.
-/

namespace GoldenCheck

/-- The cases that are chosen stand in the table, in this order. -/
theorem select_sublist {config : Config} {wanted : List String} {cases : List TestCase}
    (h : config.select wanted = .ok cases) : cases.Sublist config.cases := by
  unfold Config.select at h
  split_ifs at h
  · cases h
    exact List.Sublist.refl _
  · split at h
    · cases h
    · cases h
      exact List.filter_sublist

/-- The run puts its reports where the table says. -/
structure RunOptions.KeepsPlaces (o : RunOptions) (h : HarnessSettings) : Prop where
  outputDir : o.outputDir = h.outputDir
  suffix : o.suffix = h.suffix

theorem RunOptions.KeepsPlaces.outputOf {o : RunOptions} {h : HarnessSettings}
    (hk : o.KeepsPlaces h) (c : TestCase) : o.outputOf c = h.outputOf c := by
  rw [RunOptions.outputOf, HarnessSettings.outputOf, hk.outputDir, hk.suffix]

/-- No two reports of a run go to one place, and none goes where a reference is. -/
structure PlacesApart (o : RunOptions) (cases : List TestCase) : Prop where
  outputs : cases.Pairwise fun c d => (o.outputOf c).normal ≠ (o.outputOf d).normal
  references : ∀ c ∈ cases, ∀ d ∈ cases, (o.outputOf c).normal ≠ d.reference.normal

/-- The places of the cases of a run are apart. -/
theorem Config.IsSeparate.placesApart {config : Config} (h : config.IsSeparate) {o : RunOptions}
    (hk : o.KeepsPlaces config.harness) {wanted : List String} {cases : List TestCase}
    (hs : config.select wanted = .ok cases) : PlacesApart o cases where
  outputs := by
    simpa only [hk.outputOf] using h.outputs.sublist (select_sublist hs)
  references c hc d hd := by
    rw [hk.outputOf]
    exact h.apart c ((select_sublist hs).subset hc) d ((select_sublist hs).subset hd)

/-- Where reports go there is no reference, so what happens there happens to none. -/
theorem Config.IsSeparate.reference_eq {config : Config} (h : config.IsSeparate) {o : RunOptions}
    (hk : o.KeepsPlaces config.harness) {m n : FileMap}
    (hoff : FileMap.SameOff (config.cases.map o.outputOf) m n) {c : TestCase}
    (hc : c ∈ config.cases) : n.get c.reference = m.get c.reference := by
  refine hoff _ fun p hp => ?_
  obtain ⟨d, hd, rfl⟩ := List.mem_map.1 hp
  rw [hk.outputOf]
  exact (h.apart d hd c hc).symm

/-- A bench with one reference of the sample table. -/
def sampleBench : Bench where
  files := fun q => if q = (Path.ofText "reports/vault.md").normal then some [35] else none
  calls := []
  told := []

end GoldenCheck

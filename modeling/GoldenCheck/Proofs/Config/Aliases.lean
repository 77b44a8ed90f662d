import GoldenCheck.Proofs.Config.Validation
import GoldenCheck.Proofs.Files.Spelling
import GoldenCheck.Proofs.Path.Derivation

/-!
# Absolute places that meet

A table is checked by the normal forms of its places (`Config.places`). The normal form of an absolute
path keeps each `..` that finds no name, where a walk stays at the top. So two absolute paths that lead
to one place (`Path.SamePlace`) can have two normal forms, and a table can be accepted whose report lands
on a reference. This is the only way: what is told apart is where a path leads, and how often it goes past
the top (`Path.normal_eq_iff_of_isAbsolute`).

`absolute_places_meet_only_past_the_top` says so of accepted tables, and `dotted_reference_is_met` is a
table that is accepted all the same.
-/

namespace GoldenCheck

open Path

/-- The paths lead to one place, when each `..` takes back a name and stays at the top where there is
none. -/
def Path.SamePlace (p q : Path) : Prop := p.rootNames = q.rootNames

instance (p q : Path) : Decidable (p.SamePlace q) := inferInstanceAs (Decidable (_ = _))

/-- What a table names as a file of its own: the reports, and then the references. -/
def Config.places (config : Config) : List Path :=
  config.cases.map config.harness.outputOf ++ config.cases.map TestCase.reference

section

variable {p q : Path}

/-- Absolute paths have two normal forms when they lead to two places, or go past the top unequally
often. -/
theorem Path.normal_ne_iff_of_isAbsolute (hp : p.isAbsolute = true) (hq : q.isAbsolute = true) :
    p.normal ≠ q.normal ↔ (p.SamePlace q → p.excess ≠ q.excess) := by
  rw [ne_eq, normal_eq_iff_of_isAbsolute hp hq, not_and, Path.SamePlace]

/-- What is joined onto an absolute path is absolute. -/
theorem Path.isAbsolute_join (hp : p.isAbsolute = true) (q : Path) : (p.join q).isAbsolute = true := by
  unfold Path.join
  split_ifs with hq
  · exact hq
  all_goals
    obtain ⟨bytes⟩ := p
    cases bytes with
    | nil => simp [Path.isAbsolute] at hp
    | cons b bytes => exact hp

/-- A path that stays below goes past the top as often as what it is joined onto. -/
theorem Path.StaysBelow.excess_join (h : q.StaysBelow) (p : Path) :
    (p.join q).excess = p.excess := by
  have hnone : q.components.count .up = 0 := by
    rw [List.count_eq_zero]
    intro hup
    obtain ⟨n, hn⟩ := h.named _ hup
    cases hn
  rw [Path.excess, h.steps_join, List.count_append, hnone, Nat.add_zero, Path.excess]

end

section

variable {config : Config}

/-- The checks of a table in one: no two of its places have one normal form. -/
theorem Config.IsSeparate.pairwise_places (h : config.IsSeparate) :
    config.places.Pairwise fun p q => p.normal ≠ q.normal := by
  rw [Config.places, List.pairwise_append]
  refine ⟨List.pairwise_map.2 h.outputs, List.pairwise_map.2 h.references, ?_⟩
  intro p hp q hq
  obtain ⟨c, hc, rfl⟩ := List.mem_map.1 hp
  obtain ⟨d, hd, rfl⟩ := List.mem_map.1 hq
  exact h.apart c hc d hd

/-- With an absolute directory for reports and absolute references, all places are absolute. -/
theorem Config.isAbsolute_of_mem_places (hdir : config.harness.outputDir.isAbsolute = true)
    (href : ∀ c ∈ config.cases, c.reference.isAbsolute = true) {p : Path} (hp : p ∈ config.places) :
    p.isAbsolute = true := by
  rcases List.mem_append.1 hp with hp | hp
  · obtain ⟨c, -, rfl⟩ := List.mem_map.1 hp
    exact isAbsolute_join hdir _
  · obtain ⟨c, hc, rfl⟩ := List.mem_map.1 hp
    exact href c hc

/-- What the checks of a table with absolute places amount to. -/
theorem Config.pairwise_places_iff (habs : ∀ p ∈ config.places, p.isAbsolute = true) :
    (config.places.Pairwise fun p q => p.normal ≠ q.normal) ↔
      config.places.Pairwise fun p q => p.SamePlace q → p.excess ≠ q.excess :=
  List.Pairwise.iff_of_mem fun hp hq => normal_ne_iff_of_isAbsolute (habs _ hp) (habs _ hq)

/-- With a suffix that has no slash, all reports go past the top as often as their directory. -/
theorem HarnessSettings.excess_outputOf {h : HarnessSettings} (hsuffix : '/' ∉ h.suffix.toList)
    (c : TestCase) : (h.outputOf c).excess = h.outputDir.excess :=
  (staysBelow_derive c.root c.reference hsuffix).excess_join h.outputDir

end

/-- **Absolute places meet only past the top.** Say that the directory for reports and the references of
an accepted table are absolute. What one of the places of the table leads to, in whatever tree, lies
where the names that are left of the place say. Two places of the table that lead to one place do not go
past the top equally often. So none meet when none goes past the top, and with a suffix that has no slash
no two reports meet, and a report meets a reference only if the reference or the directory for reports
goes past the top. -/
theorem absolute_places_meet_only_past_the_top {raw : RawConfig} {config : Config}
    (h : resolve raw = .ok config) (hdir : config.harness.outputDir.isAbsolute = true)
    (href : ∀ c ∈ config.cases, c.reference.isAbsolute = true) :
    (∀ p ∈ config.places, ∀ (w : World) l e, w.lookup p = .ok (l, e) → l = p.rootNames) ∧
    config.places.Pairwise (fun p q => p.SamePlace q → p.excess ≠ q.excess) ∧
    ((∀ p ∈ config.places, p.excess = 0) → config.places.Pairwise fun p q => ¬ p.SamePlace q) ∧
    ('/' ∉ config.harness.suffix.toList →
      (config.cases.Pairwise fun c d =>
        ¬ (config.harness.outputOf c).SamePlace (config.harness.outputOf d)) ∧
      ∀ c ∈ config.cases, ∀ d ∈ config.cases,
        (config.harness.outputOf c).SamePlace d.reference →
          config.harness.outputDir.excess ≠ d.reference.excess) := by
  have habs : ∀ p ∈ config.places, p.isAbsolute = true := fun p hp =>
    Config.isAbsolute_of_mem_places hdir href hp
  have hpast := (Config.pairwise_places_iff habs).1 (isSeparate_of_resolve h).pairwise_places
  refine ⟨fun p hp w l e => World.eq_rootNames_of_lookup (habs p hp), hpast, fun htop => ?_,
    fun hsuffix => ⟨?_, fun c hc d hd hsame => ?_⟩⟩
  · exact hpast.imp_of_mem fun hp hq hne hsame =>
      hne hsame ((htop _ hp).trans (htop _ hq).symm)
  · refine (List.pairwise_map.1 (List.pairwise_append.1 hpast).1).imp fun hne hsame => hne hsame ?_
    rw [HarnessSettings.excess_outputOf hsuffix, HarnessSettings.excess_outputOf hsuffix]
  · have hne := (List.pairwise_append.1 hpast).2.2 _ (List.mem_map_of_mem hc) _
      (List.mem_map_of_mem hd) hsame
    rwa [HarnessSettings.excess_outputOf hsuffix] at hne

/-- A table of one case, with the reports in `/out` and the reference where it is said. -/
def absoluteTable (reference : Path) : RawConfig where
  engine := ⟨"analyse", [], none, none⟩
  harness := { RawHarness.unset with outputDir := some (.ofText "/out") }
  cases := [
    { name := "vault", description := "", root := .ofText "vault", reference, args := [],
      env := .empty, setup := none, expect := none }]

/-- What that table becomes, when it is accepted. -/
def absoluteConfig (reference : Path) : Config where
  engine := ⟨"analyse", [], "-o", none⟩
  harness := ⟨.ofText "/out", Path.defaultSuffix, .identical, .inProcess, false, none⟩
  cases := [{ name := "vault", root := .ofText "vault", reference }]

/-- With its reference in a directory next to `/out`, the table has no places that meet. -/
theorem sample_places_apart :
    (absoluteConfig (.ofText "/golden/vault.md")).places.Pairwise fun p q => ¬ p.SamePlace q :=
  have hresolve : resolve (absoluteTable (.ofText "/golden/vault.md")) =
      .ok (absoluteConfig (.ofText "/golden/vault.md")) := by rfl
  (absolute_places_meet_only_past_the_top hresolve (by decide) (by decide)).2.2.1 (by decide)

/-- A reference that is written with a `..` at the root is not seen to be where the report goes: the
table is accepted. -/
theorem dotted_reference_is_met :
    resolve (absoluteTable (.ofText "/../out/vault-workflow.md")) =
        .ok (absoluteConfig (.ofText "/../out/vault-workflow.md")) ∧
      (absoluteConfig (.ofText "/../out/vault-workflow.md")).places =
        [.ofText "/out/vault-workflow.md", .ofText "/../out/vault-workflow.md"] ∧
      Path.SamePlace (.ofText "/out/vault-workflow.md") (.ofText "/../out/vault-workflow.md") := by
  refine ⟨by rfl, by decide, by decide⟩

end GoldenCheck

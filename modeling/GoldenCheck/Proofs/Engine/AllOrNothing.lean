import GoldenCheck.Engine
import GoldenCheck.Proofs.Files.Entering
import GoldenCheck.Proofs.Files.Staging

/-!
# A report is made or it is not

A run of an engine either puts at the place of the report exactly what the engine left in its staging
file (`Delivered`), or it leaves there what lay there before (`Untouched`). Neither leaves a staging
file, and neither changes anything else, except that directories on the way to the report come to
exist. What the engine does in its staging file is up to it; that it stays there is asked of it
(`KeepsToStaging`).

There is an exception for paths that go up. Such a path can be in its own way (`World.IsInItsOwnWay`; no other path
is, by `World.not_isInItsOwnWay`): nothing lies at its place, and making the way to its directory makes a directory
there. A run that comes as far as its engine then fails, whatever the engine does, and the directory stays
(`IsPrepared.blocked`, `missing_report_becomes_directory`). Otherwise nothing comes to lie at the place of a report
that is not made; but a directory on the way can bring in sight what lay there all along (`World.IsOutOfSight`).
-/

namespace GoldenCheck

namespace Engine

/-- The staging file of a report, and the world with it, when there can be one. -/
def staged? (w : World) (output : Path) : Option (Location × World) :=
  match w.makeAllDirectories (Staging.directoryOf output) with
  | (.ok (), w) => (Staging.make w output).toOption
  | (.error _, _) => none

/-- The desk when the setup command of a case has finished, if one was run. -/
def afterSetup (launch : Launcher World) (c : TestCase) (d : Desk) : Desk :=
  match checkRoot d.world c.root, c.setup with
  | .ok (), some argv => (setUp launch c argv d).2
  | _, _ => d

/-- The world that the engine leaves, after its run for a staging file. -/
def leaves (launch : Launcher World) (engine : EngineSettings) (root : Path) (args : List String)
    (env : Environment) (staging : Location) (w : World) : World :=
  (launch (request engine root args env staging) w).2

/-- Nothing was changed but a staging file, and that is a file or is gone. -/
structure KeepsToStaging (staging : Location) (w w' : World) : Prop where
  cwd : w'.cwd = w.cwd
  others : ∀ l, l ≠ staging → w'.tree.get? l = w.tree.get? l
  staging : w'.tree.get? staging = none ∨ ∃ content, w'.tree.get? staging = some (.file content)

/-- An engine that gets to run keeps to its staging file. -/
def IsTidy (leave : Location → World → World) (output : Path) (before : World) : Prop :=
  ∀ staging w, staged? before output = some (staging, w) →
    KeepsToStaging staging w (leave staging w)

/-- The end of the time limit is a reading of the clock. -/
def IsInTime (engine : EngineSettings) (now : Instant) : Prop :=
  ∀ limit, engine.timeout = some limit → now.add? limit ≠ none

/-- The place of the report holds exactly what the engine left in its staging file, which is not
empty. The staging file is gone, unless it was at the place of the report itself. All else is as
before, but for directories on the way. -/
def Delivered (leave : Location → World → World) (output : Path) (before after : World) : Prop :=
  ∃ staging w content, staged? before output = some (staging, w) ∧
    (leave staging w).tree.get? staging = some (.file content) ∧ content ≠ [] ∧
    after.look output = .regular content ∧
    after.tree.get? (before.placeOf output) = some (.file content) ∧
    (staging ≠ before.placeOf output → after.tree.get? staging = none) ∧
    after.cwd = before.cwd ∧
    ∀ l, l ≠ before.placeOf output →
      World.KeptAt (Staging.directoryOf output) before after l

/-- Everything is as before, but for directories on the way. -/
structure Untouched (output : Path) (before after : World) : Prop where
  /-- What lies at each location is what lay there, or is a new directory. -/
  grown : World.Grown (Staging.directoryOf output) before after
  /-- The file at the place of the report has the content it had, or there still is none. -/
  content : after.tree.content? (before.placeOf output) = before.tree.content? (before.placeOf output)
  /-- Whatever lay at the place of the report still does, and still nothing does if nothing did, unless the
  path is in its own way. -/
  place : ¬ before.IsInItsOwnWay output →
    after.tree.get? (before.placeOf output) = before.tree.get? (before.placeOf output)
  /-- Whatever the path of the report led to it still leads to. -/
  seen : ∀ found, before.lookup output = .ok found → after.lookup output = .ok found
  /-- Whatever the path of the report leads to lay at its place before, unless the path is in its own way. -/
  lay : ¬ before.IsInItsOwnWay output → ∀ found, after.lookup output = .ok found →
    before.tree.get? (before.placeOf output) = some found.2
  /-- The path of the report leads where it led, or still nowhere, unless it is in its own way or something
  was out of its sight. -/
  found : ¬ before.IsInItsOwnWay output → ¬ before.IsOutOfSight output →
    (after.lookup output).toOption = (before.lookup output).toOption
  /-- So it does when it does not go up, and everything lies in a directory. -/
  straight : before.IsClosed → output.NeverUp →
    (after.lookup output).toOption = (before.lookup output).toOption
  /-- No staging file is left. -/
  unstaged : ∀ staging w, staged? before output = some (staging, w) → after.tree.get? staging = none

/-- A case is ready for the run of its engine: the root is fit, before and after the setup command, which ends
well. -/
structure IsPrepared (launch : Launcher World) (c : TestCase) (d : Desk) : Prop where
  root : checkRoot d.world c.root = .ok ()
  setup : ∀ argv, c.setup = some argv → (setUp launch c argv d).1 = .done ()
  rootStill : checkRoot (afterSetup launch c d).world c.root = .ok ()

/-! ### Steps of a run -/

variable {leave : Location → World → World} {engine : EngineSettings} {root output : Path}
  {args : List String} {env : Environment} {launch : Launcher World} {c : TestCase} {d : Desk}
  {w v : World} {staging : Location}

theorem answer_done_or_failed {now : Instant} (clock : IsInTime engine now)
    (result : ProcessResult) : answer engine now result = .done () ∨
      ∃ e, answer engine now result = .failed e := by
  have hclock : engine.timeout.map now.add? ≠ some none := fun h => by
    obtain ⟨limit, hlimit, hnone⟩ := Option.map_eq_some_iff.1 h
    exact clock limit hlimit hnone
  cases result with
  | notStarted cause => exact Or.inr ⟨_, rfl⟩
  | outOfTime => exact Or.inr ⟨_, if_neg hclock⟩
  | ended how out errors =>
    simp only [answer, if_neg hclock]
    split
    · exact Or.inl rfl
    · exact Or.inr ⟨_, rfl⟩

/-- What a run of the engine and the removal of its staging file do together: nothing. -/
theorem remove_of_keepsToStaging (hmake : Staging.make v output = .ok (staging, w)) {w' : World}
    (hkeeps : KeepsToStaging staging w w') :
    (Staging.remove w' staging).cwd = v.cwd ∧
      ∀ l, (Staging.remove w' staging).tree.get? l = v.tree.get? l := by
  obtain ⟨hne, hfree, rfl⟩ := Staging.make_eq_ok hmake
  have hfile : w'.tree.get? staging ≠ some .directory := by
    rcases hkeeps.staging with h | ⟨content, h⟩ <;> simp [h]
  obtain ⟨hcwd, hgone, hothers⟩ := Staging.remove_eq hne hfile
  refine ⟨hcwd.trans hkeeps.cwd, fun l => ?_⟩
  by_cases hl : l = staging
  · rw [hl, hgone, hfree]
  · rw [hothers l hl, hkeeps.others l hl]
    exact FileTree.get?_insert_of_ne _ _ hl

/-- Where a staging file is made nothing lay, neither before nor after the directories were made. -/
theorem staged?_eq_some {before : World} (h : staged? before output = some (staging, w)) :
    ∃ made, before.makeAllDirectories (Staging.directoryOf output) = (.ok (), made) ∧
      Staging.make made output = .ok (staging, w) ∧ made.tree.get? staging = none ∧
      before.tree.get? staging = none := by
  unfold staged? at h
  split at h
  · rename_i made hmade
    have hmake : Staging.make made output = .ok (staging, w) := by
      cases hm : Staging.make made output with
      | error cause => simp [hm, Except.toOption] at h
      | ok result => simpa [hm, Except.toOption] using h
    obtain ⟨-, hfree, -⟩ := Staging.make_eq_ok hmake
    refine ⟨made, hmade, hmake, hfree, ?_⟩
    rcases (World.makeAllDirectories_grown hmade).entries staging with heq | ⟨hnone, -⟩
    · rw [← heq, hfree]
    · exact hnone
  · cases h

/-- Where nothing but directories came to exist, everything is as before. -/
theorem untouched_of_grown {before after : World}
    (hgrown : World.Grown (Staging.directoryOf output) before after)
    (hunstaged : ∀ staging w, staged? before output = some (staging, w) →
      after.tree.get? staging = none) : Untouched output before after where
  grown := hgrown
  content := (hgrown.entries _).content?_eq
  place := hgrown.get?_placeOf
  seen _ := hgrown.lookup_eq_ok
  lay hway _ := hgrown.get?_of_lookup hway
  found := hgrown.lookup_eq_of_insight
  straight := hgrown.lookup_eq
  unstaged := hunstaged

theorem Untouched.refl (output : Path) (w : World) : Untouched output w w :=
  untouched_of_grown (World.Grown.refl _ w) fun _ _ h => by
    obtain ⟨-, -, -, -, hfree⟩ := staged?_eq_some h
    exact hfree

/-- A staging file is published when something is in it and it can be moved, and is removed
otherwise. -/
theorem publish_cases (engine : EngineSettings) (output : Path)
    (hstaging : w.tree.get? staging = none ∨
      ∃ content, w.tree.get? staging = some (.file content)) :
    (∃ content w', w.tree.get? staging = some (.file content) ∧ content ≠ [] ∧
      w.moveTo staging output = .ok w' ∧ publish engine w staging output = (.done (), w')) ∨
    ∃ e, publish engine w staging output = (.failed e, Staging.remove w staging) := by
  unfold publish
  rcases hstaging with hnone | ⟨content, hfile⟩
  · exact Or.inr ⟨_, if_pos (by simp [Staging.isFilled, hnone])⟩
  · cases content with
    | nil => exact Or.inr ⟨_, if_pos (by simp [Staging.isFilled, hfile])⟩
    | cons b bs =>
      rw [if_neg (by simp [Staging.isFilled, hfile])]
      cases hmove : w.moveTo staging output with
      | error cause => exact Or.inr ⟨_, rfl⟩
      | ok w' => exact Or.inl ⟨b :: bs, w', hfile, List.cons_ne_nil _ _, rfl, rfl⟩

theorem staged?_of_make {before made : World}
    (hmade : before.makeAllDirectories (Staging.directoryOf output) = (.ok (), made))
    (hmake : Staging.make made output = .ok (staging, w)) :
    staged? before output = some (staging, w) := by
  simp [staged?, hmade, hmake, Except.toOption]

/-- What lies where, after the staging file was moved to the path of the report. -/
theorem delivered_of_moveTo {before made w' : World} {content : Bytes}
    (hmade : before.makeAllDirectories (Staging.directoryOf output) = (.ok (), made))
    (hmake : Staging.make made output = .ok (staging, w))
    (hkeeps : KeepsToStaging staging w (leave staging w))
    (hcontent : (leave staging w).tree.get? staging = some (.file content)) (hne : content ≠ [])
    (hmove : (leave staging w).moveTo staging output = .ok w') :
    Delivered leave output before w' := by
  obtain ⟨-, -, hw⟩ := Staging.make_eq_ok hmake
  obtain ⟨hlookup, hcwd, hgone, hothers⟩ := World.moveTo_spec hmove hcontent
  have hgrown := World.makeAllDirectories_grown hmade
  have hcwd₂ : (leave staging w).cwd = before.cwd := by
    rw [hkeeps.cwd, hw]
    exact hgrown.cwd
  rw [World.placeOf_congr hcwd₂] at hlookup hgone hothers
  have hstaged := staged?_of_make hmade hmake
  refine ⟨staging, w, content, hstaged, hcontent, hne, World.look_eq_regular_iff.2 ⟨_, hlookup⟩,
    (World.lookup_eq_ok_iff.1 hlookup).2.2, hgone, hcwd.trans hcwd₂, fun l hl => ?_⟩
  by_cases hls : l = staging
  · -- Nothing lay there before, and nothing does now.
    obtain ⟨-, -, -, -, hfree⟩ := staged?_eq_some hstaged
    subst hls
    exact Or.inl ((hgone hl).trans hfree.symm)
  · refine (hgrown.entries l).congr ?_
    rw [hothers l hl hls, hkeeps.others l hls, hw]
    exact FileTree.get?_insert_of_ne _ _ hls

/-! ### The run -/

/-- How a run comes out: the report is delivered, or the run fails and leaves everything as it was. -/
def ComesOut (leave : Location → World → World) (output : Path) (before : World)
    (result : Attempt GenerationError Unit × Desk) : Prop :=
  (result.1 = .done () ∧ Delivered leave output before result.2.world) ∨
    ((∃ e, result.1 = .failed e) ∧ Untouched output before result.2.world)

/-- The engine runs, and what it left is moved to the path of the report, or its staging file is removed. -/
theorem runStaged_cases (clock : IsInTime engine d.now)
    (hstaging : (leaves launch engine root args env staging d.world).tree.get? staging = none ∨
      ∃ content, (leaves launch engine root args env staging d.world).tree.get? staging =
        some (.file content)) :
    let left := leaves launch engine root args env staging d.world
    let result := runStaged launch engine root output args env staging d
    (∃ content, left.tree.get? staging = some (.file content) ∧ content ≠ [] ∧
      left.moveTo staging output = .ok result.2.world ∧ result.1 = .done ()) ∨
    (∃ e, result.1 = .failed e) ∧ result.2.world = Staging.remove left staging := by
  unfold runStaged
  rcases answer_done_or_failed clock (launch (request engine root args env staging) d.world).1
    with hanswer | ⟨e, hanswer⟩
  · simp only [hanswer]
    rcases publish_cases engine output hstaging
      with ⟨content, w', hcontent, hne, hmove, hpublish⟩ | ⟨e, hpublish⟩
    · rw [leaves] at hpublish
      rw [hpublish]
      exact Or.inl ⟨content, hcontent, hne, hmove, rfl⟩
    · rw [leaves] at hpublish
      rw [hpublish]
      exact Or.inr ⟨⟨e, rfl⟩, rfl⟩
  · simp only [hanswer]
    exact Or.inr ⟨⟨e, rfl⟩, rfl⟩

/-- What the engine left is delivered, or everything is as it was. -/
theorem runStaged_comesOut {before made : World}
    (tidy : IsTidy (leaves launch engine root args env) output before)
    (clock : IsInTime engine d.now)
    (hmade : before.makeAllDirectories (Staging.directoryOf output) = (.ok (), made))
    (hmake : Staging.make made output = .ok (staging, w)) :
    ComesOut (leaves launch engine root args env) output before
      (runStaged launch engine root output args env staging { d with world := w }) := by
  have hkeeps := tidy staging w (staged?_of_make hmade hmake)
  rcases runStaged_cases (d := { d with world := w }) clock hkeeps.staging
    with ⟨content, hcontent, hne, hmove, hdone⟩ | ⟨hfailed, hremoved⟩
  · exact Or.inl ⟨hdone, delivered_of_moveTo hmade hmake hkeeps hcontent hne hmove⟩
  · refine Or.inr ⟨hfailed, ?_⟩
    rw [hremoved]
    obtain ⟨hcwd, hsame⟩ := remove_of_keepsToStaging hmake hkeeps
    refine untouched_of_grown ((World.makeAllDirectories_grown hmade).trans
      ⟨hcwd, fun l => Or.inl (hsame l)⟩) fun staging' w' h => ?_
    obtain ⟨made', hmade', -, hfree, -⟩ := staged?_eq_some h
    obtain rfl : made = made' := (Prod.ext_iff.1 (hmade.symm.trans hmade')).2
    rw [hsame, hfree]

/-- A run of the engine from any desk. -/
theorem run_comesOut (tidy : IsTidy (leaves launch engine root args env) output d.world)
    (clock : IsInTime engine d.now) :
    ComesOut (leaves launch engine root args env) output d.world
      (run launch engine root output args env d) := by
  unfold run
  split
  · rename_i e _
    exact Or.inr ⟨⟨e, rfl⟩, Untouched.refl _ _⟩
  · split
    · rename_i cause made hmade
      have hgrown := World.makeAllDirectories_grown hmade
      refine Or.inr ⟨⟨_, rfl⟩, untouched_of_grown hgrown fun staging w h => ?_⟩
      simp [staged?, hmade] at h
    · rename_i made hmade
      split
      · rename_i cause hmake
        have hgrown := World.makeAllDirectories_grown hmade
        refine Or.inr ⟨⟨_, rfl⟩, untouched_of_grown hgrown fun staging w h => ?_⟩
        simp [staged?, hmade, hmake, Except.toOption] at h
      · rename_i staging w hmake
        exact runStaged_comesOut tidy clock hmade hmake

/-- A setup command ends well or fails, and does not touch the clock. -/
theorem setUp_done_or_failed (launch : Launcher World) (c : TestCase) (argv : List String)
    (d : Desk) : (setUp launch c argv d).2.now = d.now ∧
      ((setUp launch c argv d).1 = .done () ∨ ∃ e, (setUp launch c argv d).1 = .failed e) := by
  cases argv with
  | nil => exact ⟨rfl, Or.inr ⟨_, rfl⟩⟩
  | cons program args =>
    refine ⟨rfl, ?_⟩
    simp only [setUp]
    cases (launch (setupRequest program args c.env) d.world).1 with
    | notStarted | outOfTime => exact Or.inr ⟨_, rfl⟩
    | ended how output errors =>
      simp only [setupAnswer]
      split
      · exact Or.inl rfl
      · exact Or.inr ⟨_, rfl⟩

/-! ### A path in its own way -/

/-- Where a staging file was made, directories lie on the way to it. -/
theorem staged?_directories {before : World} (h : staged? before output = some (staging, w)) :
    w.cwd = before.cwd ∧ w.tree.get? staging = some (.file []) ∧ ∀ q,
      (Staging.directoryOf output).OnTheWay q → q.IsNamed →
        w.tree.get? (before.placeOf q) = some .directory := by
  obtain ⟨made, hmade, hmake, -, -⟩ := staged?_eq_some h
  have hcwd := (World.makeAllDirectories_grown hmade).cwd
  obtain ⟨hne, hfree, rfl⟩ := Staging.make_eq_ok hmake
  refine ⟨hcwd, FileTree.get?_insert_self _ _ hne, fun q hq hnamed => ?_⟩
  obtain ⟨l, hl⟩ := Staging.exists_lookup_of_make hmake
  have hdirectory := World.get?_placeOf_of_onTheWay hq hnamed hl
  rw [World.placeOf_congr hcwd] at hdirectory
  have hother : before.placeOf q ≠ staging := fun heq => by
    rw [heq, hfree] at hdirectory
    cases hdirectory
  exact (FileTree.get?_insert_of_ne _ _ hother).trans hdirectory

/-- **Where a directory lies no report is made**, whatever the engine leaves, and the directory stays. -/
theorem runStaged_blocked (clock : IsInTime engine d.now)
    (hkeeps : KeepsToStaging staging w (leaves launch engine root args env staging w))
    (hfile : w.tree.get? staging = some (.file []))
    (hdirectory : w.tree.get? (w.placeOf output) = some .directory) :
    let result := runStaged launch engine root output args env staging { d with world := w }
    (∃ e, result.1 = .failed e) ∧ result.2.world.tree.get? (w.placeOf output) = some .directory := by
  have hother : w.placeOf output ≠ staging := fun heq => by
    rw [heq, hfile] at hdirectory
    cases hdirectory
  have hleft := (hkeeps.others _ hother).trans hdirectory
  rcases runStaged_cases (d := { d with world := w }) clock hkeeps.staging
    with ⟨content, -, -, hmove, -⟩ | ⟨hfailed, hremoved⟩
  · -- Nothing can be moved to where a directory lies.
    obtain ⟨parent, name, _, htarget, hno, -⟩ := World.moveTo_eq_ok hmove
    rw [← World.place_of_target htarget, World.placeOf_congr hkeeps.cwd] at hno
    exact absurd hleft hno
  · refine ⟨hfailed, ?_⟩
    rw [hremoved]
    have hne : staging ≠ [] := by rintro rfl; cases hfile
    have hfile' : (leaves launch engine root args env staging w).tree.get? staging ≠ some .directory := by
      rcases hkeeps.staging with h | ⟨content, h⟩ <;> simp [h]
    exact ((Staging.remove_eq hne hfile').2.2 _ hother).trans hleft

/-! ### The report of a case -/

/-- When the setup command has ended well, what makes the report of a case is a run. -/
theorem generateCase_eq_run (hroot : checkRoot d.world c.root = .ok ())
    (hsetup : ∀ argv, c.setup = some argv → (setUp launch c argv d).1 = .done ()) :
    generateCase launch engine c output d =
      run launch engine c.root output c.args c.env (afterSetup launch c d) := by
  unfold generateCase afterSetup
  rw [hroot]
  cases hargv : c.setup with
  | none => rfl
  | some argv =>
    have hdone := hsetup argv hargv
    cases hs : setUp launch c argv d with
    | mk r d' =>
      rw [hs] at hdone
      subst hdone
      simp only [hs]

/-- A case is ready for the run of its engine, or it fails before that, and the desk is as the setup command left
it. -/
theorem isPrepared_or_failed (launch : Launcher World) (engine : EngineSettings) (c : TestCase) (output : Path)
    (d : Desk) : IsPrepared launch c d ∨
      (∃ e, (generateCase launch engine c output d).1 = .failed e) ∧
        (generateCase launch engine c output d).2 = afterSetup launch c d := by
  cases hroot : checkRoot d.world c.root with
  | error e =>
    unfold generateCase afterSetup
    rw [hroot]
    exact Or.inr ⟨⟨e, rfl⟩, rfl⟩
  | ok =>
    by_cases hsetup : ∀ argv, c.setup = some argv → (setUp launch c argv d).1 = .done ()
    · cases hstill : checkRoot (afterSetup launch c d).world c.root with
      | ok => exact Or.inl ⟨hroot, hsetup, hstill⟩
      | error e =>
        rw [generateCase_eq_run hroot hsetup, run, hstill]
        exact Or.inr ⟨⟨e, rfl⟩, rfl⟩
    · simp only [not_forall, exists_prop] at hsetup
      obtain ⟨argv, hargv, hundone⟩ := hsetup
      obtain ⟨e, hfailed⟩ := (setUp_done_or_failed launch c argv d).2.resolve_left hundone
      unfold generateCase afterSetup
      rw [hroot, hargv]
      cases hs : setUp launch c argv d with
      | mk r d' =>
        rw [hs] at hfailed
        subst hfailed
        exact Or.inr ⟨⟨e, by simp only [hs]⟩, by simp only [hs]⟩

/-- When the report of a case is made, the case was ready for the run of its engine. -/
theorem isPrepared_of_done (h : (generateCase launch engine c output d).1 = .done ()) : IsPrepared launch c d := by
  rcases isPrepared_or_failed launch engine c output d with hprepared | ⟨⟨e, hfailed⟩, -⟩
  · exact hprepared
  · rw [hfailed] at h
    cases h

/-- The clock shows the same when the setup command has finished. -/
theorem afterSetup_now (launch : Launcher World) (c : TestCase) (d : Desk) :
    (afterSetup launch c d).now = d.now := by
  unfold afterSetup
  split
  · exact (setUp_done_or_failed launch c _ d).1
  · rfl

/-- When the path of its report is in its own way, a case for which a staging file is made fails, and a directory
lies at the place of the report. -/
theorem IsPrepared.blocked (h : IsPrepared launch c d)
    (tidy : IsTidy (leaves launch engine c.root c.args c.env) output (afterSetup launch c d).world)
    (clock : IsInTime engine d.now) (hway : (afterSetup launch c d).world.IsInItsOwnWay output)
    (hstaged : staged? (afterSetup launch c d).world output = some (staging, w)) :
    let result := generateCase launch engine c output d
    (∃ e, result.1 = .failed e) ∧
      result.2.world.tree.get? ((afterSetup launch c d).world.placeOf output) = some .directory := by
  obtain ⟨hnone, q, hq, hnamed, hplace⟩ := hway
  obtain ⟨hcwd, hfile, hdirectories⟩ := staged?_directories hstaged
  have hdirectory := hdirectories q hq hnamed
  rw [hplace, ← World.placeOf_congr hcwd] at hdirectory
  obtain ⟨made, hmade, hmake, -, -⟩ := staged?_eq_some hstaged
  rw [generateCase_eq_run h.root h.setup, run, h.rootStill, ← World.placeOf_congr hcwd]
  simp only [hmade, hmake]
  exact runStaged_blocked (afterSetup_now launch c d ▸ clock) (tidy staging w hstaged) hfile hdirectory

/-! ### The main result -/

/-- **Making a report is all or nothing.** However the setup command and the engine of a case behave,
as long as the engine keeps to its staging file and the end of its time limit can be told: either the
report is made, and the path holds exactly what the engine left, which is not empty; or it fails, and
the path holds what it held when the setup command had finished. No staging file is left, and nothing
else is changed, except that directories on the way to the report come to exist.

One of these directories can be at the place of the report itself, when its path is in its own way. Then the report
is never made; and if it comes to a run of the engine, the directory is there in its stead. And a path that goes up
through a directory that was missing may lead now to what lay at its place all along, which is as it was. -/
theorem generateCase_all_or_nothing (launch : Launcher World) (engine : EngineSettings)
    (c : TestCase) (output : Path) (d : Desk)
    (tidy : IsTidy (leaves launch engine c.root c.args c.env) output (afterSetup launch c d).world)
    (clock : IsInTime engine d.now) :
    let before := (afterSetup launch c d).world
    let result := generateCase launch engine c output d
    ComesOut (leaves launch engine c.root c.args c.env) output before result ∧
      (before.IsInItsOwnWay output → (∃ e, result.1 = .failed e) ∧
        (IsPrepared launch c d → (staged? before output).isSome →
          result.2.world.tree.get? (before.placeOf output) = some .directory)) := by
  intro before result
  have hcomes : ComesOut (leaves launch engine c.root c.args c.env) output before result := by
    rcases isPrepared_or_failed launch engine c output d with hprepared | ⟨hfailed, hdesk⟩
    · have hrun := run_comesOut tidy (afterSetup_now launch c d ▸ clock)
      rwa [← generateCase_eq_run hprepared.root hprepared.setup] at hrun
    · refine Or.inr ⟨hfailed, ?_⟩
      rw [hdesk]
      exact Untouched.refl _ _
  refine ⟨hcomes, fun hway => ⟨?_, fun hprepared hstaged => ?_⟩⟩
  · rcases hcomes with ⟨hdone, staging, w, -, hstaged, -⟩ | ⟨hfailed, -⟩
    · exact ((isPrepared_of_done hdone).blocked tidy clock hway hstaged).1
    · exact hfailed
  · obtain ⟨⟨staging, w⟩, hstaged⟩ := Option.isSome_iff_exists.1 hstaged
    exact (hprepared.blocked tidy clock hway hstaged).2

/-- A case with a time limit, on a desk where the directory for its report is missing. -/
def sampleCase : TestCase where
  name := "vault"
  root := .ofText "vault"
  reference := .ofText "vault.md"

def sampleEngine : EngineSettings := ⟨"analyse", [], "-o", some ⟨5, 0⟩⟩

def sampleDesk : Desk := .ofWorld ⟨{ entries := [([Utf8.encode "vault"], .directory)] }, []⟩ ⟨0, 0⟩

def sampleStaging : Location := [Utf8.encode ".reportgen-000000.md", Utf8.encode "out"]

/-- An engine that writes its report and ends well. -/
def sampleLaunch : Launcher World := fun _ w =>
  (.ended (.exited 0) [] [], { w with tree := w.tree.insert sampleStaging (.file [35]) })

set_option maxRecDepth 8000 in
theorem sampleReport_delivered :
    (generateCase sampleLaunch sampleEngine sampleCase (.ofText "out/vault.md") sampleDesk).1 =
        .done () ∧
      ComesOut (leaves sampleLaunch sampleEngine sampleCase.root sampleCase.args sampleCase.env)
        (.ofText "out/vault.md") (afterSetup sampleLaunch sampleCase sampleDesk).world
        (generateCase sampleLaunch sampleEngine sampleCase (.ofText "out/vault.md") sampleDesk) := by
  refine ⟨by rfl, (generateCase_all_or_nothing _ _ _ _ _ (fun staging w h => ?_) ?_).1⟩
  · have hstaging : (staged? (afterSetup sampleLaunch sampleCase sampleDesk).world
        (.ofText "out/vault.md")).map Prod.fst = some sampleStaging := by rfl
    rw [h] at hstaging
    cases hstaging
    exact ⟨rfl, fun l hl => FileTree.get?_insert_of_ne _ _ hl,
      Or.inr ⟨[35], FileTree.get?_insert_self _ _ (List.cons_ne_nil _ _)⟩⟩
  · intro limit hlimit
    cases hlimit
    decide

/-- A case whose reference has no extension. -/
def bareCase : TestCase where
  name := "vault"
  root := .ofText "vault"
  reference := .ofText "golden/vault"

/-- The path of its report in the directory `vault-workflow/..`: it is in its own way. -/
def windingOutput : Path := .ofText "vault-workflow/../vault-workflow"

/-- An engine that touches nothing and ends with the status `3`. -/
def failingLaunch : Launcher World := fun _ w => (.ended (.exited 3) [] [], w)

set_option maxRecDepth 8000 in
/-- An engine keeps to its staging file and fails, and at the path where nothing was lies a directory. -/
theorem missing_report_becomes_directory :
    bareCase.outputPath (.ofText "vault-workflow/..") "-workflow" = windingOutput ∧
    IsTidy (leaves failingLaunch sampleEngine bareCase.root bareCase.args bareCase.env) windingOutput
      (afterSetup failingLaunch bareCase sampleDesk).world ∧
    IsInTime sampleEngine sampleDesk.now ∧
    (afterSetup failingLaunch bareCase sampleDesk).world.look windingOutput = .absent .notFound ∧
    (∃ e, (generateCase failingLaunch sampleEngine bareCase windingOutput sampleDesk).1 = .failed e) ∧
    (generateCase failingLaunch sampleEngine bareCase windingOutput sampleDesk).2.world.look windingOutput =
      .directory := by
  refine ⟨by decide +kernel, fun staging w h => ?_, fun limit hlimit => ?_, by rfl, ⟨_, rfl⟩, by rfl⟩
  · exact ⟨rfl, fun _ _ => rfl, Or.inr ⟨[], (staged?_directories h).2.1⟩⟩
  · cases hlimit
    decide

end Engine

end GoldenCheck

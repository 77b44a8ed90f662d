import GoldenCheck.Proofs.CommandLine.Arguments
import GoldenCheck.Proofs.Files.Entering
import GoldenCheck.Proofs.Run.Words

/-!
# Where the program is started does not matter

`Invocation.RunsStarting` says what a command line may amount to, together with the programs that are started
on the way: a run of a command line is a run that starts some programs (`Invocation.runs_iff_exists_starts`),
and what these answer is all that it has from programs (`Invocation.RunsStarting.of_agreeOn`).

A case table may be named by a path from somewhere, or by its name alone from its own directory. Either way the
same text is read, and the same directory is the current one then (`loading_name`). From there on all is the same
(`only_the_log_tells_the_starting_place`).

Two things tell the one from the other. The log names the path of the table and the directory that is entered, if
it is kept so closely; what it records later, which is left out here, names neither. And a name that begins with a
dash is taken for an option when it is an argument of its own, while the path that leads to it is not
(`dashed_name_is_no_path`).
-/

namespace GoldenCheck

open Path

variable {start start' : Launcher World} {inv inv' : Invocation} {d d' v : Desk} {starts : List Start}
  {status : Nat} {config : Config} {cases : List TestCase} {directory : Path} {name : Bytes} {l : Location}
  {before before' : Bytes}

/-! ### Runs and what they start -/

/-- The harness of a run that verifies, and notes what it starts. -/
def Config.notingVerifier (config : Config) (start : Launcher World) (json verbose : Bool) :
    Harness (Desk × List Start) :=
  Harness.noting start config.engine config.harness.comparator
    (if json then sayRecord else sayConsole ⟨verbose, true⟩)

/-- The harness of a run that makes references anew, and notes what it starts. -/
def Config.notingBlesser (config : Config) (start : Launcher World) : Harness (Desk × List Start) :=
  Harness.noting start config.engine .inProcess fun _ d => d

/-- What a command line may amount to: the programs it starts, its status, and the desk that it leaves. -/
inductive Invocation.RunsStarting (start : Launcher World) (inv : Invocation) (d : Desk) :
    List Start → Nat → Desk → Prop where
  /-- It is refused, and this is told. -/
  | refused {e : CommandError} (unready : inv.ready? d = .error e) :
      inv.RunsStarting start d [] ConfigError.exitCode (d.complain (e.report ++ "\n"))
  /-- It verifies the chosen cases. -/
  | verified {config : Config} {cases : List TestCase} {w v : Desk} {run : RunSelection}
      {clean json : Bool} {summary : RunSummary} {starts : List Start}
      (ready : inv.ready? d = .ok (config, cases, w)) (asked : inv.command = .verify run clean json)
      (verifies : Verifies (config.notingVerifier start json inv.verbose)
        (config.harness.runOptions.override run clean) cases (w, []) summary (v, starts)) :
      inv.RunsStarting start d starts summary.exitCode v
  /-- It makes the references of the chosen cases anew. -/
  | blessed {config : Config} {cases : List TestCase} {w v : Desk} {run : RunSelection}
      {calls told : List BlessCall} {starts : List Start} (ready : inv.ready? d = .ok (config, cases, w))
      (asked : inv.command = .bless run)
      (blesses : Blesses (config.notingBlesser start) (config.harness.runOptions.override run false) cases
        (w, []) calls told (v, starts)) :
      inv.RunsStarting start d starts (blessAnswer (told.map BlessCall.outcome) v).1
        (blessAnswer (told.map BlessCall.outcome) v).2
  /-- It shows the table. -/
  | listed {config : Config} {cases : List TestCase} {w : Desk} {json : Bool}
      (ready : inv.ready? d = .ok (config, cases, w)) (asked : inv.command = .list json) :
      inv.RunsStarting start d [] (Command.runList config json w).1 (Command.runList config json w).2

/-- **Every run starts some programs**, and starting them makes no difference to what it is. -/
theorem Invocation.runs_iff_exists_starts :
    inv.Runs start d status v ↔ ∃ starts, inv.RunsStarting start d starts status v := by
  constructor
  · intro hruns
    cases hruns with
    | refused hunready => exact ⟨[], .refused hunready⟩
    | listed hready hasked => exact ⟨[], .listed hready hasked⟩
    | @verified config cases w v _ _ _ _ hready hasked hverifies =>
      obtain ⟨-, hfollow⟩ := Harness.plain_follows.verifies _ hverifies trivial
      obtain ⟨⟨_, starts⟩, hnoting, rfl⟩ := hfollow (w, []) rfl
      exact ⟨starts, .verified hready hasked hnoting⟩
    | @blessed config cases w v _ _ _ hready hasked hblesses =>
      obtain ⟨-, hfollow⟩ := Harness.plain_follows.blesses _ hblesses trivial
      obtain ⟨⟨_, starts⟩, hnoting, rfl⟩ := hfollow (w, []) rfl
      exact ⟨starts, .blessed hready hasked hnoting⟩
  · rintro ⟨starts, hruns⟩
    cases hruns with
    | refused hunready => exact .refused hunready
    | listed hready hasked => exact .listed hready hasked
    | @verified config cases w v _ _ _ _ _ hready hasked hverifies =>
      obtain ⟨-, hfollow⟩ := Harness.follows_plain.verifies _ hverifies trivial
      obtain ⟨_, hplain, rfl⟩ := hfollow w rfl
      exact .verified hready hasked hplain
    | @blessed config cases w v _ _ _ _ hready hasked hblesses =>
      obtain ⟨-, hfollow⟩ := Harness.follows_plain.blesses _ hblesses trivial
      obtain ⟨_, hplain, rfl⟩ := hfollow w rfl
      exact .blessed hready hasked hplain

/-- **What is started is all that matters of programs**: when another launcher answers alike to it, the run is
one of that launcher too. -/
theorem Invocation.RunsStarting.of_agreeOn (hruns : inv.RunsStarting start d starts status v)
    (hagree : AgreeOn starts start start') : inv.RunsStarting start' d starts status v := by
  cases hruns with
  | refused hunready => exact .refused hunready
  | listed hready hasked => exact .listed hready hasked
  | verified hready hasked hverifies =>
    obtain ⟨-, hfollow⟩ := Harness.follows_of_agreeOn.verifies _ hverifies hagree
    obtain ⟨_, hother, rfl⟩ := hfollow _ rfl
    exact .verified hready hasked hother
  | blessed hready hasked hblesses =>
    obtain ⟨-, hfollow⟩ := Harness.follows_of_agreeOn.blesses _ hblesses hagree
    obtain ⟨_, hother, rfl⟩ := hfollow _ rfl
    exact .blessed hready hasked hother

/-! ### From somewhere and from the directory of the table -/

/-- A desk on which another directory is the current one. -/
def Desk.goTo (d : Desk) (l : Location) : Desk := { d with world := { d.world with cwd := l } }

/-- The command line that calls the case table by its name alone. -/
def Invocation.byName (inv : Invocation) (name : Bytes) : Invocation := { inv with config := ⟨name⟩ }

/-- Two desks differ in their current directories at most, and in what was said on the standard error up to some
point. -/
structure Desk.SameAfter (before before' : Bytes) (d d' : Desk) : Prop where
  tree : d'.world.tree = d.world.tree
  now : d'.now = d.now
  output : d'.output = d.output
  errors : ∃ rest, d.errors = before ++ rest ∧ d'.errors = before' ++ rest

namespace Desk.SameAfter

theorem symm (h : d.SameAfter before before' d') : d'.SameAfter before' before d := by
  obtain ⟨rest, hbefore, hbefore'⟩ := h.errors
  exact ⟨h.tree.symm, h.now.symm, h.output.symm, rest, hbefore', hbefore⟩

theorem of_differBefore (h : d.DifferBefore before before' d') : d.SameAfter before before' d' := by
  obtain ⟨rest, hbefore, rfl⟩ := h
  exact ⟨rfl, rfl, rfl, rest, hbefore, rfl⟩

/-- The same complaint keeps them so. -/
theorem complain (h : d.SameAfter before before' d') (text : String) :
    (d.complain text).SameAfter before before' (d'.complain text) := by
  obtain ⟨rest, hbefore, hbefore'⟩ := h.errors
  refine ⟨h.tree, h.now, h.output, rest ++ Utf8.encode text, ?_, ?_⟩
  · rw [Desk.complain, hbefore, List.append_assoc]
  · rw [Desk.complain, hbefore', List.append_assoc]

end Desk.SameAfter

/-- **The table is loaded alike**: read from its own directory, by its name alone, it is the same table, and the
same directory is the current one then. What is recorded tells the path, and the directory if it is entered. -/
theorem loading_name {w : World} {path : Path} (hparent : path.parent? = some directory)
    (hdirectory : directory.isEmpty = false) (hname : path.fileName? = some name)
    (hfile : Config.ofFile path (w.read path) = .ok config)
    (hlookup : w.lookup directory = .ok (l, .directory)) :
    loading path w = ⟨[.loaded path config.cases.length, .entered directory],
        .ok (config, { w with cwd := l })⟩ ∧
      loading ⟨name⟩ { w with cwd := l } = ⟨[.loaded ⟨name⟩ config.cases.length],
        .ok (config, { w with cwd := l })⟩ := by
  obtain ⟨raw, ⟨bytes, text, table, hread, htext⟩, hresolve⟩ := Config.ofFile_eq_ok_iff.1 hfile
  have hread' := World.read_fileName hparent hdirectory hname hlookup hread
  have hfile' : Config.ofFile ⟨name⟩ (({ w with cwd := l } : World).read ⟨name⟩) = .ok config :=
    Config.ofFile_eq_ok_iff.2 ⟨raw, ⟨bytes, text, table, hread', htext⟩, hresolve⟩
  refine ⟨loading_of_enter hfile hparent hdirectory (World.enter_eq_ok_iff.2 ⟨l, hlookup, rfl⟩),
    loading_of_no_directory hfile' ?_⟩
  -- A name alone has no directory that could be entered.
  obtain ⟨hisName, hslash⟩ := isName_of_fileName? hname
  intro other hother
  cases (parent?_name hisName hslash).symm.trans hother
  rfl

/-- Two command lines are refused for the same reason, or they are ready for the same, on desks that differ only
in what was said before. -/
def Invocation.ReadyAlike (before before' : Bytes) (inv : Invocation) (d : Desk) (inv' : Invocation) (d' : Desk) :
    Prop :=
  (∃ e, inv.ready? d = .error e ∧ inv'.ready? d' = .error e) ∨
    ∃ config cases w w', inv.ready? d = .ok (config, cases, w) ∧ inv'.ready? d' = .ok (config, cases, w') ∧
      w.DifferBefore before before' w'

theorem Invocation.ReadyAlike.symm (h : inv.ReadyAlike before before' d inv' d') :
    inv'.ReadyAlike before' before d' inv d := by
  rcases h with ⟨e, hrefused, hrefused'⟩ | ⟨config, cases, w, w', hready, hready', hdiffer⟩
  · exact Or.inl ⟨e, hrefused', hrefused⟩
  · exact Or.inr ⟨config, cases, w', w, hready', hready, hdiffer.symm⟩

/-! ### The same from there on -/

/-- What is said of the events of a run that verifies does not depend on what was said before. -/
theorem Config.notingVerifier_follows_self (before before' : Bytes) (config : Config) (start : Launcher World)
    (json verbose : Bool) :
    Harness.Follows (fun _ => True) (Harness.AlikeSoFar before before')
      (config.notingVerifier start json verbose) (config.notingVerifier start json verbose) := by
  refine Harness.noting_follows_self fun e => ?_
  cases json with
  | true => exact Desk.print_isHeedless (recordOf [e])
  | false => exact Desk.complain_isHeedless (ConsoleStyle.render ⟨verbose, true⟩ [e])

/-- Nothing is said of the events of a run that makes references anew. -/
theorem Config.notingBlesser_follows_self (before before' : Bytes) (config : Config) (start : Launcher World) :
    Harness.Follows (fun _ => True) (Harness.AlikeSoFar before before')
      (config.notingBlesser start) (config.notingBlesser start) :=
  Harness.noting_follows_self fun _ => Desk.isHeedless_of_silent fun _ _ => rfl

/-- The closing words about references come after what was said before. -/
theorem blessAnswer_differBefore (h : d.DifferBefore before before' d') (outcomes : List BlessOutcome) :
    (blessAnswer outcomes d).2.DifferBefore before before' (blessAnswer outcomes d').2 :=
  (((Desk.complain_isHeedless _).alike d trivial).2 d' h).2

/-- So does the table, which is shown on the standard output. -/
theorem runList_differBefore (h : d.DifferBefore before before' d') (config : Config) (json : Bool) :
    (Command.runList config json d).2.DifferBefore before before' (Command.runList config json d').2 :=
  (((Desk.print_isHeedless _).alike d trivial).2 d' h).2

/-- Whatever one command line amounts to, so may the other, but for the current directory and what was said
before. -/
def Invocation.CarriesOver (before before' : Bytes) (inv : Invocation) (d : Desk) (inv' : Invocation) (d' : Desk) :
    Prop :=
  ∀ start starts status v, inv.RunsStarting start d starts status v →
    ∃ v', inv'.RunsStarting start d' starts status v' ∧ v.SameAfter before before' v'

/-- Command lines that ask for the same, and are ready for the same, amount to the same. -/
theorem Invocation.ReadyAlike.carriesOver (hready : inv.ReadyAlike before before' d inv' d')
    (hplace : d.SameAfter before before' d') (hcommand : inv'.command = inv.command)
    (hverbose : inv'.verbose = inv.verbose) : inv.CarriesOver before before' d inv' d' := by
  intro start starts status v hruns
  rcases hready with ⟨e, hrefused, hrefused'⟩ | ⟨config, cases, w, w', hok, hok', hdiffer⟩
  · -- Refused, the one stays where it was started, and so does the other.
    cases hruns with
    | refused hunready =>
      cases hrefused.symm.trans hunready
      exact ⟨_, .refused hrefused', hplace.complain _⟩
    | verified hready | blessed hready | listed hready => cases hrefused.symm.trans hready
  · cases hruns with
    | refused hunready => cases hok.symm.trans hunready
    | verified hready hasked hverifies =>
      cases hok.symm.trans hready
      obtain ⟨-, hfollow⟩ :=
        (config.notingVerifier_follows_self before before' start _ inv.verbose).verifies _ hverifies trivial
      obtain ⟨⟨v', _⟩, hverifies', hdiffer', rfl⟩ := hfollow (w', []) ⟨hdiffer, rfl⟩
      rw [← hverbose] at hverifies'
      exact ⟨v', .verified hok' (hcommand.trans hasked) hverifies', .of_differBefore hdiffer'⟩
    | blessed hready hasked hblesses =>
      cases hok.symm.trans hready
      obtain ⟨-, hfollow⟩ := (config.notingBlesser_follows_self before before' start).blesses _ hblesses trivial
      obtain ⟨⟨v', _⟩, hblesses', hdiffer', rfl⟩ := hfollow (w', []) ⟨hdiffer, rfl⟩
      have hruns' := RunsStarting.blessed hok' (hcommand.trans hasked) hblesses'
      exact ⟨_, hruns', .of_differBefore (blessAnswer_differBefore hdiffer' _)⟩
    | @listed _ _ _ json hready hasked =>
      cases hok.symm.trans hready
      have hruns' : inv'.RunsStarting start d' [] _ _ := .listed hok' (hcommand.trans hasked)
      exact ⟨_, hruns', .of_differBefore (runList_differBefore hdiffer config json)⟩

/-- The cases are verified as the noting harness does it. -/
theorem verify_verifier_eq (config : Config) (start : Launcher World) (json verbose : Bool) (o : RunOptions)
    (cases : List TestCase) (d : Desk) :
    verify (config.verifier start json verbose) o cases d =
      ((verify (config.notingVerifier start json verbose) o cases (d, [])).1,
        (verify (config.notingVerifier start json verbose) o cases (d, [])).2.1) := by
  have hfollows : Harness.Follows (fun _ => True) (fun (v : Desk × List Start) (d : Desk) => v.1 = d)
    (config.notingVerifier start json verbose) (config.verifier start json verbose) := Harness.follows_plain
  obtain ⟨hsame, hdesk⟩ := (hfollows.verify o cases (d, []) trivial).2 d rfl
  exact Prod.ext hsame.symm hdesk.symm

/-- References are made anew as the noting harness does it. -/
theorem bless_blesser_eq (config : Config) (start : Launcher World) (cases : List TestCase) (d : Desk) :
    bless (config.blesser start) cases d =
      ((bless (config.notingBlesser start) cases (d, [])).1,
        (bless (config.notingBlesser start) cases (d, [])).2.1) := by
  have hfollows : Harness.Follows (fun _ => True) (fun (v : Desk × List Start) (d : Desk) => v.1 = d)
    (config.notingBlesser start) (config.blesser start) := Harness.follows_plain
  obtain ⟨hsame, hdesk⟩ := (hfollows.bless cases (d, []) trivial).2 d rfl
  exact Prod.ext hsame.symm hdesk.symm

/-- Cases that are verified by the noting harness start what it notes. -/
theorem Invocation.runsStarting_verify {run : RunSelection} {clean json : Bool} {w : Desk}
    (hready : inv.ready? d = .ok (config, cases, w)) (hasked : inv.command = .verify run clean json) :
    let result := verify (config.notingVerifier start json inv.verbose)
      (config.harness.runOptions.override run clean) cases (w, [])
    inv.RunsStarting start d result.2.2 result.1.exitCode result.2.1 :=
  .verified hready hasked (verify_verifies cases (w, []))

/-- References that are made anew by the noting harness start what it notes. -/
theorem Invocation.runsStarting_bless {run : RunSelection} {w : Desk}
    (hready : inv.ready? d = .ok (config, cases, w)) (hasked : inv.command = .bless run) :
    let result := bless (config.notingBlesser start) cases (w, [])
    inv.RunsStarting start d result.2.2 (blessAnswer result.1 result.2.1).1
      (blessAnswer result.1 result.2.1).2 := by
  obtain ⟨told, hblesses, houtcomes⟩ := exists_blesses (config.notingBlesser start)
    (config.harness.runOptions.override run false) cases (w, [])
  simp only [houtcomes]
  exact .blessed hready hasked hblesses

/-- The cases that are carried out start the same, and come to the same, but for what was said before. -/
theorem Invocation.perform_alike (start : Launcher World) {w w' : Desk}
    (hready : inv.ready? d = .ok (config, cases, w)) (hready' : inv'.ready? d' = .ok (config, cases, w'))
    (hcommand : inv'.command = inv.command) (hverbose : inv'.verbose = inv.verbose)
    (hdiffer : w.DifferBefore before before' w') :
    let here := inv.command.perform start config cases inv.verbose w
    let there := inv'.command.perform start config cases inv'.verbose w'
    ∃ starts, inv.RunsStarting start d starts here.1 here.2 ∧
      inv'.RunsStarting start d' starts there.1 there.2 ∧ there.1 = here.1 ∧
      here.2.DifferBefore before before' there.2 := by
  obtain ⟨path, _, _⟩ := inv
  obtain ⟨path', verbose, command⟩ := inv'
  simp only at hcommand hverbose
  subst hcommand hverbose
  cases command with
  | verify run clean json =>
    obtain ⟨hsame, hdiffer', hstarts⟩ :=
      ((config.notingVerifier_follows_self before before' start json verbose).verify
        (config.harness.runOptions.override run clean) cases (w, []) trivial).2 (w', []) ⟨hdiffer, rfl⟩
    simp only [Command.perform, verify_verifier_eq]
    refine ⟨_, runsStarting_verify hready rfl, ?_, by rw [hsame], hdiffer'⟩
    rw [← hstarts]
    exact runsStarting_verify hready' rfl
  | bless run =>
    obtain ⟨hsame, hdiffer', hstarts⟩ :=
      ((config.notingBlesser_follows_self before before' start).bless cases (w, []) trivial).2
        (w', []) ⟨hdiffer, rfl⟩
    simp only [Command.perform, bless_blesser_eq]
    refine ⟨_, runsStarting_bless hready rfl, ?_, by rw [hsame]; rfl, ?_⟩
    · rw [← hstarts]
      exact runsStarting_bless hready' rfl
    · rw [← hsame]
      exact blessAnswer_differBefore hdiffer' _
  | list json =>
    exact ⟨[], .listed hready rfl, .listed hready' rfl, rfl, runList_differBefore hdiffer config json⟩

/-- The run that is carried out is the same too. -/
theorem Invocation.ReadyAlike.execute (hready : inv.ReadyAlike before before' d inv' d')
    (hplace : d.SameAfter before before' d') (hcommand : inv'.command = inv.command)
    (hverbose : inv'.verbose = inv.verbose) (start : Launcher World) :
    ∃ starts, inv.RunsStarting start d starts (inv.execute start d).1 (inv.execute start d).2 ∧
      inv'.RunsStarting start d' starts (inv'.execute start d').1 (inv'.execute start d').2 ∧
      (inv'.execute start d').1 = (inv.execute start d).1 ∧
      (inv.execute start d).2.SameAfter before before' (inv'.execute start d').2 := by
  rcases hready with ⟨e, hrefused, hrefused'⟩ | ⟨config, cases, w, w', hok, hok', hdiffer⟩
  · rw [execute_of_error start hrefused, execute_of_error start hrefused']
    exact ⟨[], .refused hrefused, .refused hrefused', rfl, hplace.complain _⟩
  · obtain ⟨starts, hruns, hruns', hstatus, hdiffer'⟩ :=
      perform_alike start hok hok' hcommand hverbose hdiffer
    rw [execute_of_ok start hok, execute_of_ok start hok']
    exact ⟨starts, hruns, hruns', hstatus, .of_differBefore hdiffer'⟩

/-! ### The main result -/

/-- When the table is loaded, the log has told the path and the directory, or the name; and what is ready is the
same. -/
theorem Invocation.opening_alike (log : Logger) (hparent : inv.config.parent? = some directory)
    (hdirectory : directory.isEmpty = false) (hname : inv.config.fileName? = some name)
    (hfile : Config.ofFile inv.config (d.world.read inv.config) = .ok config)
    (hlookup : d.world.lookup directory = .ok (l, .directory)) :
    let here := d.errors ++ log (.loaded inv.config config.cases.length) ++ log (.entered directory)
    let there := d.errors ++ log (.loaded ⟨name⟩ config.cases.length)
    (inv.opening log d).SameAfter here there ((inv.byName name).opening log (d.goTo l)) ∧
      inv.ReadyAlike here there (inv.opening log d) (inv.byName name)
        ((inv.byName name).opening log (d.goTo l)) := by
  obtain ⟨hhere, hthere⟩ := loading_name hparent hdirectory hname hfile hlookup
  have hopening : inv.opening log d = { d with
      errors := d.errors ++ log (.loaded inv.config config.cases.length) ++ log (.entered directory) } := by
    rw [opening, hhere]
    simp [Desk.log]
  have hopening' : (inv.byName name).opening log (d.goTo l) = { d.goTo l with
      errors := d.errors ++ log (.loaded ⟨name⟩ config.cases.length) } := by
    rw [opening, byName, Desk.goTo, hthere]
    simp [Desk.log]
  simp only [hopening, hopening']
  refine ⟨⟨rfl, rfl, rfl, [], by simp, by simp⟩, ?_⟩
  unfold ReadyAlike ready? byName Desk.goTo loadConfig
  simp only [hhere, hthere, bind, Except.bind]
  cases config.select inv.command.wanted with
  | error e => exact Or.inl ⟨_, rfl, rfl⟩
  | ok cases => exact Or.inr ⟨config, cases, _, _, rfl, rfl, [], by simp, by simp⟩

/-- **Where the program is started does not matter**, but to the log. Let a case table be accepted that is read by
some path, from any directory, and let the path have a directory and a last name. Then the directory can be
entered, and calling the table by its name alone from there amounts to the same as calling it by the path from
where one is: the same programs are started, with the same words, in the same directory and among the same files;
the status is the same, and so are the words on both outputs and the files that are left. This holds of the run
that is carried out, and of all runs that cases side by side may make.

Only what the log has said by then is not the same: it tells the path of the table, and the directory if one was
entered. All that is said after it is the same.

When the table is called by an argument after `--config`, the name may stand in place of the path, if both can be
values there; or neither counts, because a table is named once more after the command. -/
theorem only_the_log_tells_the_starting_place (inv : Invocation) (d : Desk) (directory : Path) (name : Bytes)
    (hparent : inv.config.parent? = some directory) (hdirectory : directory.isEmpty = false)
    (hname : inv.config.fileName? = some name)
    (hloads : ∃ config, Config.ofFile inv.config (d.world.read inv.config) = .ok config) :
    (∃ config l, Config.ofFile inv.config (d.world.read inv.config) = .ok config ∧
      d.world.lookup directory = .ok (l, .directory) ∧
      ∀ log : Logger,
        let here := d.errors ++ log (.loaded inv.config config.cases.length) ++ log (.entered directory)
        let there := d.errors ++ log (.loaded ⟨name⟩ config.cases.length)
        let opened := inv.opening log d
        let opened' := (inv.byName name).opening log (d.goTo l)
        (∀ start,
          let result := inv.executeLogging log start d
          let result' := (inv.byName name).executeLogging log start (d.goTo l)
          ∃ starts, inv.RunsStarting start opened starts result.1 result.2 ∧
            (inv.byName name).RunsStarting start opened' starts result'.1 result'.2 ∧
            result'.1 = result.1 ∧ result.2.SameAfter here there result'.2) ∧
        inv.CarriesOver here there opened (inv.byName name) opened' ∧
        (inv.byName name).CarriesOver there here opened' inv opened) ∧
    ∀ first last text text', IsValue text → IsValue text' → .ofText text' = Path.mk name →
      Invocation.parse (first ++ "--config" :: text :: last) = .ok inv →
      Invocation.parse (first ++ "--config" :: text' :: last) = .ok (inv.byName name) ∨
        ∀ other, IsValue other → Invocation.parse (first ++ "--config" :: other :: last) = .ok inv := by
  constructor
  · obtain ⟨config, hfile⟩ := hloads
    obtain ⟨raw, ⟨bytes, text, table, hread, -⟩, -⟩ := Config.ofFile_eq_ok_iff.1 hfile
    obtain ⟨k, e, hthere⟩ := World.exists_lookup_of_read hread
    obtain ⟨l, hlookup⟩ := World.exists_lookup_parent hparent hdirectory hthere
    refine ⟨config, l, hfile, hlookup, fun log => ?_⟩
    obtain ⟨hplace, hready⟩ := Invocation.opening_alike log hparent hdirectory hname hfile hlookup
    exact ⟨hready.execute hplace rfl rfl, hready.carriesOver hplace rfl rfl,
      hready.symm.carriesOver hplace.symm rfl rfl⟩
  · intro first last text text' htext htext' hother hparse
    refine (Invocation.parse_config htext hparse).imp_left fun hcalls => ?_
    rw [hcalls text' htext', Invocation.withTable, hother, Invocation.byName]

/-- A desk with the table of one case in a directory, seen from above. -/
def tablesDesk : Desk :=
  .ofWorld ⟨{ entries := [
    ([Utf8.encode "reportgen.toml", Utf8.encode "tables"], .file (Utf8.encode shortText)),
    ([Utf8.encode "vault", Utf8.encode "tables"], .directory),
    ([Utf8.encode "tables"], .directory)] }, []⟩ ⟨0, 0⟩

/-- A command line that calls the table by a path with a way down, up and down again. -/
def windingInvocation : Invocation :=
  ⟨.ofText "tables/.././tables//reportgen.toml", false, .verify ⟨[], false, none⟩ false false⟩

/-- Whatever programs do, the table may be called from above or from inside its directory. With the usual log, and
when no more is to be told, nothing tells the one from the other. -/
theorem winding_path_or_name_alone :
    (∃ config, Config.ofFile windingInvocation.config
      (tablesDesk.world.read windingInvocation.config) = .ok config) ∧
    Invocation.parse ["--config", "reportgen.toml", "verify"] =
      .ok (windingInvocation.byName (Utf8.encode "reportgen.toml")) ∧
    ∀ start write,
      let log := Logger.usual false write
      let result := windingInvocation.executeLogging log start tablesDesk
      let result' := (windingInvocation.byName (Utf8.encode "reportgen.toml")).executeLogging log start
        (tablesDesk.goTo [Utf8.encode "tables"])
      result'.1 = result.1 ∧ result'.2.world.tree = result.2.world.tree ∧ result'.2.output = result.2.output ∧
        result'.2.errors = result.2.errors := by
  have hread : tablesDesk.world.read windingInvocation.config = .ok (Utf8.encode shortText) := by
    decide +kernel
  have haccepted : (Config.ofFile windingInvocation.config (.ok (Utf8.encode shortText))).toOption.isSome =
      true := by decide +kernel
  have hloads : ∃ config, Config.ofFile windingInvocation.config
      (tablesDesk.world.read windingInvocation.config) = .ok config := by
    rw [hread]
    cases h : Config.ofFile windingInvocation.config (.ok (Utf8.encode shortText)) with
    | ok config => exact ⟨config, rfl⟩
    | error cause => simp [h, Except.toOption] at haccepted
  have hparent : windingInvocation.config.parent? = some (.ofText "tables/.././tables") := by decide
  obtain ⟨⟨config, l, -, hlookup, hlog⟩, harguments⟩ := only_the_log_tells_the_starting_place
    windingInvocation tablesDesk _ (Utf8.encode "reportgen.toml") hparent (by decide) (by decide) hloads
  have htables : tablesDesk.world.lookup (.ofText "tables/.././tables") =
      .ok ([Utf8.encode "tables"], .directory) := by decide +kernel
  cases hlookup.symm.trans htables
  refine ⟨hloads, ?_, fun start write => ?_⟩
  · refine (harguments [] ["verify"] "tables/.././tables//reportgen.toml" "reportgen.toml" (by decide) (by decide)
      rfl (by decide)).resolve_right fun hsame => ?_
    exact absurd (hsame "reportgen.toml" (by decide)) (by decide)
  · obtain ⟨hruns, -, -⟩ := hlog (.usual false write)
    obtain ⟨starts, -, -, hstatus, hsame⟩ := hruns start
    obtain ⟨rest, hhere, hthere⟩ := hsame.errors
    refine ⟨hstatus, hsame.tree, hsame.output, hthere.trans (Eq.trans ?_ hhere.symm)⟩
    simp only [Logger.usual_of_debug write (show (LogRecord.loaded _ _).level = .debug from rfl),
      Logger.usual_of_debug write (show (LogRecord.entered _).level = .debug from rfl), List.append_nil]

/-- A desk with a table whose name begins with a dash. -/
def dashedDesk : Desk :=
  .ofWorld ⟨{ entries := [([Utf8.encode "-x.toml"], .file (Utf8.encode shortText))] }, []⟩ ⟨0, 0⟩

/-- A command line that shows this table, and is to tell more. -/
def dashedInvocation : Invocation := ⟨.ofText "./-x.toml", true, .list false⟩

/-- A log that writes all of a record. -/
def plainLog : Logger :=
  .usual true fun r => Utf8.encode (r.message ++ String.join (r.fields.map fun f => " " ++ f.1 ++ "=" ++ f.2) ++ "\n")

/-- No programs can be started. -/
def noPrograms : Launcher World := fun _ w => (.notStarted .notFound, w)

/-- A table whose name begins with a dash can be called by a path from the directory where it is, and not by its
name alone as an argument. When the name is attached to the option it can; and then the log tells it from the
path. -/
theorem dashed_name_is_no_path :
    Invocation.parse ["--config", "./-x.toml", "-v", "list"] = .ok dashedInvocation ∧
    (dashedInvocation.execute noPrograms dashedDesk).1 = 0 ∧
    dashedDesk.world.lookup (.ofText ".") = .ok (dashedDesk.world.cwd, .directory) ∧
    Invocation.parse ["--config", "-x.toml", "-v", "list"] = .error .unknownArgument ∧
    ArgumentError.unknownArgument.exitCode = 2 ∧
    Invocation.parse ["--config=-x.toml", "-v", "list"] =
      .ok (dashedInvocation.byName (Utf8.encode "-x.toml")) ∧
    (dashedInvocation.executeLogging plainLog noPrograms dashedDesk).2.errors ≠
      ((dashedInvocation.byName (Utf8.encode "-x.toml")).executeLogging plainLog noPrograms dashedDesk).2.errors := by
  refine ⟨by decide, ?_, ?_, by decide, by decide, by decide, ?_⟩ <;> decide +kernel

end GoldenCheck

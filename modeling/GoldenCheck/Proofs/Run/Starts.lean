import GoldenCheck.Proofs.Engine.AllOrNothing
import GoldenCheck.Proofs.Run.Following

/-!
# What a run starts

A run starts programs: setup commands, engines, and tools that compare (`Start`). `Harness.noting` is the
harness that works at a desk and notes each start, with the world in which it happens. It does what the plain
harness does (`follows_plain`, `plain_follows`), and all that it has from programs are the answers to what it
notes (`follows_of_agreeOn`).
-/

namespace GoldenCheck

/-- A program is started: what is asked of it, and the world in which this happens. -/
structure Start where
  /-- The program, what it is called with, and its variables. -/
  request : ProcessRequest
  /-- The files, and the directory it is started in. -/
  world : World
  deriving DecidableEq, Repr

/-- Two launchers answer alike to some starts. -/
def AgreeOn (starts : List Start) (launch launch' : Launcher World) : Prop :=
  ∀ s ∈ starts, launch' s.request s.world = launch s.request s.world

/-- They answer alike to those before and to those after. -/
theorem agreeOn_append {starts later : List Start} {launch launch' : Launcher World} :
    AgreeOn (starts ++ later) launch launch' ↔
      AgreeOn starts launch launch' ∧ AgreeOn later launch launch' := List.forall_mem_append

theorem agreeOn_cons {s : Start} {later : List Start} {launch launch' : Launcher World} :
    AgreeOn (s :: later) launch launch' ↔
      launch' s.request s.world = launch s.request s.world ∧ AgreeOn later launch launch' :=
  List.forall_mem_cons

/-! ### What is started for a case -/

namespace Engine

variable {launch launch' : Launcher World} {engine : EngineSettings} {root output : Path}
  {args : List String} {env : Environment} {c : TestCase} {d : Desk}

/-- What a run of an engine starts: the engine, when the root is fit and there can be a staging file. -/
def runStarts (engine : EngineSettings) (root output : Path) (args : List String) (env : Environment)
    (w : World) : List Start :=
  match checkRoot w root, staged? w output with
  | .ok (), some (staging, w) => [⟨request engine root args env staging, w⟩]
  | _, _ => []

/-- What a call for the report of a case starts: its setup command, and then the engine. -/
def caseStarts (launch : Launcher World) (engine : EngineSettings) (c : TestCase) (output : Path)
    (d : Desk) : List Start :=
  match checkRoot d.world c.root with
  | .error _ => []
  | .ok () =>
    match c.setup with
    | none => runStarts engine c.root output c.args c.env d.world
    | some [] => []
    | some (program :: args) =>
      ⟨setupRequest program args c.env, d.world⟩ ::
        match setUp launch c (program :: args) d with
        | (.done (), d) => runStarts engine c.root output c.args c.env d.world
        | _ => []

/-- A run of an engine has nothing else from programs. -/
theorem run_congr (h : AgreeOn (runStarts engine root output args env d.world) launch launch') :
    run launch' engine root output args env d = run launch engine root output args env d := by
  unfold runStarts staged? at h
  unfold run
  cases hroot : checkRoot d.world root with
  | error e => rfl
  | ok =>
    rcases hmade : d.world.makeAllDirectories (Staging.directoryOf output) with ⟨cause | _, w⟩
    · rfl
    · cases hmake : Staging.make w output with
      | error cause => simp only [hmake]
      | ok staged =>
        obtain ⟨staging, w'⟩ := staged
        simp only [hroot, hmade, hmake, Except.toOption, AgreeOn, List.forall_mem_singleton] at h
        simp only [hmake, runStaged, h]

/-- **A call for the report of a case has nothing else from programs**, and starts the same. -/
theorem generateCase_congr (h : AgreeOn (caseStarts launch engine c output d) launch launch') :
    generateCase launch' engine c output d = generateCase launch engine c output d ∧
      caseStarts launch' engine c output d = caseStarts launch engine c output d := by
  unfold caseStarts at h ⊢
  unfold generateCase
  cases hroot : checkRoot d.world c.root with
  | error e => exact ⟨rfl, rfl⟩
  | ok =>
    simp only [hroot] at h ⊢
    cases hsetup : c.setup with
    | none =>
      simp only [hsetup] at h
      exact ⟨run_congr h, rfl⟩
    | some argv =>
      cases argv with
      | nil => exact ⟨rfl, rfl⟩
      | cons program args =>
        simp only [hsetup, agreeOn_cons] at h
        obtain ⟨hfirst, hrest⟩ := h
        have hsame : setUp launch' c (program :: args) d = setUp launch c (program :: args) d := by
          simp only [setUp, hfirst]
        simp only [hsame]
        rcases hs : setUp launch c (program :: args) d with ⟨_ | e | message, d'⟩
        · simp only [hs] at hrest
          exact ⟨run_congr hrest, trivial⟩
        · exact ⟨rfl, trivial⟩
        · exact ⟨rfl, trivial⟩

end Engine

/-- What a comparison starts: the tool, when both files are there. -/
def Desk.comparisonStarts (choice : ComparatorChoice) (generated reference : Path) (w : World) :
    List Start :=
  match choice with
  | .inProcess => []
  | .tool program args =>
    if (w.look reference).isFile && (w.look generated).isFile then
      [⟨Comparator.toolRequest program args generated reference, w⟩]
    else []

/-- A comparison has nothing else from programs. -/
theorem Desk.compare_congr {launch launch' : Launcher World} {choice : ComparatorChoice}
    {generated reference : Path} {d : Desk}
    (h : AgreeOn (Desk.comparisonStarts choice generated reference d.world) launch launch') :
    d.compare launch' choice generated reference = d.compare launch choice generated reference := by
  cases choice with
  | inProcess => rfl
  | tool program args =>
    unfold comparisonStarts at h
    unfold compare Comparator.byTool Desk.look
    cases hreference : (d.world.look reference).isFile with
    | false => rfl
    | true =>
      cases hgenerated : (d.world.look generated).isFile with
      | false => rfl
      | true =>
        simp only [hreference, hgenerated, Bool.and_self, if_true, AgreeOn,
          List.forall_mem_singleton] at h
        simp only [Bool.not_true, Bool.false_eq_true, if_false, Desk.launch, h]

/-! ### The harness that notes -/

/-- The harness that works at a desk, and notes what it starts. -/
def Harness.noting (start : Launcher World) (engine : EngineSettings) (choice : ComparatorChoice)
    (say : RunEvent → Desk → Desk) : Harness (Desk × List Start) :=
  let plain := Harness.atDesk start engine choice say
  { generate c output v :=
      let (r, d) := plain.generate c output v.1
      (r, d, v.2 ++ Engine.caseStarts start engine c output v.1)
    compare generated reference v :=
      let (r, d) := plain.compare generated reference v.1
      (r, d, v.2 ++ Desk.comparisonStarts choice generated reference v.1.world)
    describe generated reference v :=
      let (r, d) := plain.describe generated reference v.1
      (r, d, v.2)
    remove p v := (plain.remove p v.1, v.2)
    tell e v := (plain.tell e v.1, v.2) }

namespace Harness

variable {start start' : Launcher World} {engine : EngineSettings} {choice : ComparatorChoice}
  {say : RunEvent → Desk → Desk}

/-- **The plain harness does what the noting one does.** -/
theorem follows_plain : Follows (fun _ => True) (fun v d => v.1 = d)
    (Harness.noting start engine choice say) (Harness.atDesk start engine choice say) where
  generate c p v _ := ⟨trivial, by rintro d rfl; exact ⟨rfl, rfl⟩⟩
  compare p q v _ := ⟨trivial, by rintro d rfl; exact ⟨rfl, rfl⟩⟩
  describe p q v _ := ⟨trivial, by rintro d rfl; exact ⟨rfl, rfl⟩⟩
  remove p v _ := ⟨trivial, by rintro d rfl; exact ⟨rfl, rfl⟩⟩
  tell e v _ := ⟨trivial, by rintro d rfl; exact ⟨rfl, rfl⟩⟩

/-- And the noting harness does what the plain one does. -/
theorem plain_follows : Follows (fun _ => True) (fun d v => v.1 = d)
    (Harness.atDesk start engine choice say) (Harness.noting start engine choice say) where
  generate c p d _ := ⟨trivial, by rintro v rfl; exact ⟨rfl, rfl⟩⟩
  compare p q d _ := ⟨trivial, by rintro v rfl; exact ⟨rfl, rfl⟩⟩
  describe p q d _ := ⟨trivial, by rintro v rfl; exact ⟨rfl, rfl⟩⟩
  remove p d _ := ⟨trivial, by rintro v rfl; exact ⟨rfl, rfl⟩⟩
  tell e d _ := ⟨trivial, by rintro v rfl; exact ⟨rfl, rfl⟩⟩

/-- **What is noted is all that matters**: a launcher that answers alike to what was noted in the end makes
the same run, and the same is noted. -/
theorem follows_of_agreeOn : Follows (fun v => AgreeOn v.2 start start') Eq
    (Harness.noting start engine choice say) (Harness.noting start' engine choice say) where
  generate c p v hend := by
    obtain ⟨hbefore, hnew⟩ := agreeOn_append.1 hend
    obtain ⟨hmade, hstarts⟩ := Engine.generateCase_congr hnew
    refine ⟨hbefore, ?_⟩
    rintro _ rfl
    simp only [noting, atDesk, hmade, hstarts, and_self]
  compare p q v hend := by
    obtain ⟨hbefore, hnew⟩ := agreeOn_append.1 hend
    refine ⟨hbefore, ?_⟩
    rintro _ rfl
    simp only [noting, atDesk, Desk.compare_congr hnew, and_self]
  describe p q v hend := ⟨hend, by rintro _ rfl; exact ⟨rfl, rfl⟩⟩
  remove p v hend := ⟨hend, by rintro _ rfl; exact ⟨rfl, rfl⟩⟩
  tell e v hend := ⟨hend, by rintro _ rfl; exact ⟨rfl, rfl⟩⟩

end Harness

end GoldenCheck

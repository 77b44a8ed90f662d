import GoldenCheck.Proofs.Run.Starts

/-!
# What was said before does not matter

Nothing that is done at a desk depends on what was said there on the standard error. It may say something more,
which is then the same whatever stood before (`Desk.IsHeedless`). So two desks that differ only in what was said
before (`Desk.DifferBefore`) stay so through a run, which starts the same programs (`Harness.noting_follows_self`).
-/

namespace GoldenCheck

variable {α : Type} {before before' : Bytes} {start : Launcher World} {engine : EngineSettings}
  {choice : ComparatorChoice} {say : RunEvent → Desk → Desk}

namespace Desk

/-- Two desks differ in what was said on the standard error up to some point, and in nothing else. -/
def DifferBefore (before before' : Bytes) (d d' : Desk) : Prop :=
  ∃ rest, d.errors = before ++ rest ∧ d' = { d with errors := before' ++ rest }

theorem DifferBefore.symm {d d' : Desk} (h : DifferBefore before before' d d') :
    DifferBefore before' before d' d := by
  obtain ⟨rest, hbefore, rfl⟩ := h
  exact ⟨rest, rfl, by rw [← hbefore]⟩

theorem DifferBefore.world_eq {d d' : Desk} (h : DifferBefore before before' d d') : d'.world = d.world := by
  obtain ⟨rest, -, rfl⟩ := h
  rfl

/-- What is done does not depend on what was said on the standard error, and says the same after it. -/
def IsHeedless (f : Desk → α × Desk) : Prop :=
  ∀ d, ∃ new, ∀ words, f { d with errors := words } = ((f d).1, { (f d).2 with errors := words ++ new })

/-- So it keeps the difference of two desks, and answers alike on them. -/
theorem IsHeedless.alike {f : Desk → α × Desk} (h : IsHeedless f) :
    Alike (fun _ => True) (DifferBefore before before') f f := by
  rintro d -
  refine ⟨trivial, ?_⟩
  rintro _ ⟨rest, hbefore, rfl⟩
  obtain ⟨new, hnew⟩ := h d
  have hhere : (f d).2.errors = d.errors ++ new := congrArg (fun r => r.2.errors) (hnew d.errors)
  have hthere := hnew (before' ++ rest)
  refine ⟨(congrArg Prod.fst hthere).symm, rest ++ new, by rw [hhere, hbefore, List.append_assoc], ?_⟩
  rw [← List.append_assoc]
  exact congrArg Prod.snd hthere

/-- What says nothing on the standard error is heedless when it does not look there. -/
theorem isHeedless_of_silent {f : Desk → α × Desk}
    (h : ∀ d words, f { d with errors := words } = ((f d).1, { (f d).2 with errors := words })) :
    IsHeedless f := fun d => ⟨[], fun words => by rw [h, List.append_nil]⟩

/-! ### What is done at a desk -/

theorem complain_isHeedless (text : String) : IsHeedless fun d => ((), d.complain text) :=
  fun _ => ⟨Utf8.encode text, fun _ => rfl⟩

theorem print_isHeedless (text : String) : IsHeedless fun d => ((), d.print text) :=
  isHeedless_of_silent fun _ _ => rfl

theorem remove_isHeedless (p : Path) : IsHeedless fun d => ((), Desk.remove p d) :=
  isHeedless_of_silent fun d words => by
    unfold Desk.remove
    cases d.world.remove p <;> rfl

theorem describe_isHeedless (generated reference : Path) : IsHeedless fun d =>
    ((.done (Comparator.describe d.look generated reference) : Attempt Empty (Option String)), d) :=
  isHeedless_of_silent fun _ _ => rfl

theorem compare_isHeedless (generated reference : Path) :
    IsHeedless (Desk.compare start choice generated reference) := by
  refine isHeedless_of_silent fun d words => ?_
  cases choice with
  | inProcess => rfl
  | tool program args =>
    unfold Desk.compare Comparator.byTool Desk.look
    cases (d.world.look reference).isFile with
    | false => simp only [Bool.not_false, if_true]
    | true =>
      cases (d.world.look generated).isFile with
      | false => simp only [Bool.not_true, Bool.not_false, Bool.false_eq_true, if_false, if_true]
      | true => simp only [Bool.not_true, Bool.false_eq_true, if_false, Desk.launch]

end Desk

namespace Engine

open Desk

theorem run_isHeedless (start : Launcher World) (engine : EngineSettings) (root output : Path)
    (args : List String) (env : Environment) : IsHeedless (run start engine root output args env) := by
  refine isHeedless_of_silent fun d words => ?_
  unfold run
  cases checkRoot d.world root with
  | error e => rfl
  | ok =>
    rcases d.world.makeAllDirectories (Staging.directoryOf output) with ⟨cause | _, w⟩
    · rfl
    · cases hmake : Staging.make w output with
      | error cause => simp only [hmake]
      | ok staged =>
        simp only [hmake, runStaged]
        cases answer engine d.now (start (request engine root args env staged.1) staged.2).1 <;> rfl

theorem setUp_isHeedless (start : Launcher World) (c : TestCase) (argv : List String) :
    IsHeedless (setUp start c argv) := by
  intro d
  cases argv with
  | nil => exact ⟨[], fun words => by simp only [setUp, List.append_nil]⟩
  | cons program args =>
    exact ⟨(said (start (setupRequest program args c.env) d.world).1).2, fun words => rfl⟩

/-- **A call for the report of a case is heedless.** -/
theorem generateCase_isHeedless (c : TestCase) (output : Path) :
    IsHeedless (generateCase start engine c output) := by
  intro d
  cases hroot : checkRoot d.world c.root with
  | error e => exact ⟨[], fun words => by simp only [generateCase, hroot, List.append_nil]⟩
  | ok =>
    cases hsetup : c.setup with
    | none =>
      obtain ⟨new, hnew⟩ := run_isHeedless start engine c.root output c.args c.env d
      refine ⟨new, fun words => ?_⟩
      simp only [generateCase, hroot, hsetup]
      exact hnew words
    | some argv =>
      obtain ⟨new, hnew⟩ := setUp_isHeedless start c argv d
      rcases hs : setUp start c argv d with ⟨_ | e | message, d'⟩
      · -- What the engine says comes after what the setup command says.
        obtain ⟨later, hlater⟩ := run_isHeedless start engine c.root output c.args c.env d'
        refine ⟨new ++ later, fun words => ?_⟩
        simp only [generateCase, hroot, hsetup, hnew words, hs]
        rw [hlater, List.append_assoc]
      · exact ⟨new, fun words => by simp only [generateCase, hroot, hsetup, hnew words, hs]⟩
      · exact ⟨new, fun words => by simp only [generateCase, hroot, hsetup, hnew words, hs]⟩

/-- The same is started, whatever was said before. -/
theorem caseStarts_eq {d d' : Desk} (h : d.DifferBefore before before' d') (c : TestCase) (output : Path) :
    caseStarts start engine c output d' = caseStarts start engine c output d := by
  obtain ⟨rest, -, rfl⟩ := h
  unfold caseStarts
  rcases hsetup : c.setup with _ | _ | ⟨program, args⟩
  · rfl
  · rfl
  · obtain ⟨new, hnew⟩ := setUp_isHeedless start c (program :: args) d
    rcases hs : setUp start c (program :: args) d with ⟨_ | e | message, w⟩ <;>
      simp only [hnew (before' ++ rest), hs]

end Engine

/-! ### Runs -/

namespace Harness

open Desk

/-- Two desks differ in what was said before, and the same was started. -/
def AlikeSoFar (before before' : Bytes) (v v' : Desk × List Start) : Prop :=
  v.1.DifferBefore before before' v'.1 ∧ v'.2 = v.2

/-- What is heedless stays so when something is noted beside it that does not depend on what was said. -/
theorem alike_noting {f : Desk → α × Desk} (hf : IsHeedless f) (note : Desk → List Start → List Start)
    (hnote : ∀ d d', DifferBefore before before' d d' → note d' = note d) :
    Alike (fun _ => True) (AlikeSoFar before before') (fun v => ((f v.1).1, (f v.1).2, note v.1 v.2))
      fun v => ((f v.1).1, (f v.1).2, note v.1 v.2) := by
  rintro ⟨d, starts⟩ -
  refine ⟨trivial, ?_⟩
  rintro ⟨d', starts'⟩ ⟨hdiffer, hstarts⟩
  obtain ⟨hsame, hdiffer'⟩ := (hf.alike d trivial).2 d' hdiffer
  refine ⟨hsame, hdiffer', ?_⟩
  simp only at hstarts ⊢
  rw [hnote d d' hdiffer, hstarts]

/-- **A run goes the same way whatever was said before**, and starts the same, if what it says to its events is
heedless. -/
theorem noting_follows_self (hsay : ∀ e, IsHeedless fun d => ((), say e d)) :
    Follows (fun _ => True) (AlikeSoFar before before') (Harness.noting start engine choice say)
      (Harness.noting start engine choice say) where
  generate c p :=
    alike_noting (Engine.generateCase_isHeedless c p)
      (fun d starts => starts ++ Engine.caseStarts start engine c p d)
      fun d d' h => by rw [Engine.caseStarts_eq h]
  compare p q :=
    alike_noting (Desk.compare_isHeedless p q)
      (fun d starts => starts ++ Desk.comparisonStarts choice p q d.world)
      fun d d' h => by rw [h.world_eq]
  describe p q := alike_noting (Desk.describe_isHeedless p q) (fun _ starts => starts) fun _ _ _ => rfl
  remove p := alike_noting (Desk.remove_isHeedless p) (fun _ starts => starts) fun _ _ _ => rfl
  tell e := alike_noting (hsay e) (fun _ starts => starts) fun _ _ _ => rfl

end Harness

end GoldenCheck

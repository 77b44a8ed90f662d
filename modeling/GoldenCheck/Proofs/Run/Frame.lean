import GoldenCheck.Proofs.Run.Bench
import GoldenCheck.Proofs.Run.Interleaving

/-!
# What a run leaves alone

Whatever makes the reports, and however a call for one ends: a run changes files only where reports
go, and it calls for no report that would go over the reference of its own case (`Frame`). A step of
a case keeps to this, frames compose, and so whole runs keep to it. The table need not be an accepted
one: each case stops by itself where its report would go over its reference (`Guarded`).
-/

namespace GoldenCheck

open Relation

/-- The report of the case would go over its reference. -/
def RunOptions.Overwrites (o : RunOptions) (c : TestCase) : Prop :=
  (o.outputOf c).normal = c.reference.normal

/-- How a case ends that stops before it goes over its reference. -/
def RunOptions.refused (o : RunOptions) (c : TestCase) : CaseOutcome :=
  o.failed c (.outputIsReference c.reference) none none

/-- What cases do to a bench: files change only where reports go, and the calls that are added are
calls for these reports. Cases that would overwrite their references have no part in it. -/
structure Frame (o : RunOptions) (cases : List TestCase) (b b' : Bench) : Prop where
  files : ∀ q, (∀ c ∈ cases, ¬ o.Overwrites c → q ≠ (o.outputOf c).normal) → b'.files q = b.files q
  calls : ∃ log, b'.calls = b.calls ++ log ∧ ∀ call ∈ log,
    call.testCase ∈ cases ∧ ¬ o.Overwrites call.testCase ∧ call.path = o.outputOf call.testCase

/-- A case that would overwrite its reference stops instead. -/
def Guarded (o : RunOptions) (c : TestCase) (p : Progress) : Prop :=
  o.Overwrites c → p = .pending ∨ p = .generating ∨ p = .ended (o.refused c)

namespace Frame

variable {o : RunOptions} {cases : List TestCase} {b b' b'' : Bench}

theorem refl (b : Bench) : Frame o cases b b where
  files _ _ := rfl
  calls := ⟨[], by simp⟩

/-- Frames compose. -/
theorem trans (h : Frame o cases b b') (h' : Frame o cases b' b'') : Frame o cases b b'' where
  files q hq := (h'.files q hq).trans (h.files q hq)
  calls := by
    obtain ⟨log, hlog, hall⟩ := h.calls
    obtain ⟨log', hlog', hall'⟩ := h'.calls
    refine ⟨log ++ log', by rw [hlog', hlog, List.append_assoc], fun call hcall => ?_⟩
    rcases List.mem_append.1 hcall with hcall | hcall
    · exact hall call hcall
    · exact hall' call hcall

end Frame

section

variable {make : Generator} {judge : Judge} {o : RunOptions} {c : TestCase}

/-! ### Cases that would overwrite their references -/

/-- The guard holds at every step. -/
theorem Guarded.step {p : Progress} (hg : Guarded o c p) (b : Bench) :
    Guarded o c (p.step (.onBench make judge) o c b).1 := by
  intro hover
  rcases hg hover with rfl | rfl | rfl
  · exact Or.inr (Or.inl rfl)
  · refine Or.inr (Or.inr ?_)
    simp only [Progress.step, if_pos (Path.sameFile_iff.2 hover)]
    rfl
  · exact Or.inr (Or.inr rfl)

/-- A guarded step keeps to the frame. -/
theorem Guarded.frame {cases : List TestCase} (hc : c ∈ cases) {p : Progress} (hg : Guarded o c p)
    (b : Bench) : Frame o cases b (p.step (.onBench make judge) o c b).2 := by
  rcases Progress.step_onBench make judge o c p b
    with ⟨-, hne, hb⟩ | ⟨⟨observed, rfl⟩, hb⟩ | hb
  · rw [hb]
    refine ⟨fun q hq => b.files.put_of_ne _ (hq c hc hne), ⟨_, rfl, fun call hcall => ?_⟩⟩
    rw [List.mem_singleton.1 hcall]
    exact ⟨hc, hne, rfl⟩
  · -- A case whose report is removed has made one, so it was not stopped.
    have hne : ¬ o.Overwrites c := fun hover => by simpa using hg hover
    rw [hb]
    exact ⟨fun q hq => b.files.put_of_ne _ (hq c hc hne), ⟨[], by simp⟩⟩
  · rw [hb]
    exact Frame.refl b

/-- Every move keeps the guards and keeps to the frame. -/
theorem Move.frame {s t : UnderWay × Bench} (hm : Move (.onBench make judge) o s t)
    (hg : ∀ e ∈ s.1, Guarded o e.1 e.2) :
    (∀ e ∈ t.1, Guarded o e.1 e.2) ∧ Frame o (s.1.map Prod.fst) s.2 t.2 := by
  cases hm with
  | tell => exact ⟨hg, fun _ _ => rfl, ⟨[], by simp [Harness.onBench]⟩⟩
  | step hs =>
    cases hs with
    | @take before after c p b unfinished =>
      have hc : Guarded o c p := hg (c, p) (by simp)
      refine ⟨fun e he => ?_, hc.frame (by simp) b⟩
      rcases List.mem_append.1 he with he | he
      · exact hg e (by simp [he])
      · rcases List.mem_cons.1 he with rfl | he
        · exact hc.step b
        · exact hg e (by simp [he])

/-- So do moves in a row. -/
theorem moves_frame {s t : UnderWay × Bench}
    (run : ReflTransGen (Move (.onBench make judge) o) s t) (hg : ∀ e ∈ s.1, Guarded o e.1 e.2) :
    (∀ e ∈ t.1, Guarded o e.1 e.2) ∧ Frame o (s.1.map Prod.fst) s.2 t.2 := by
  induction run with
  | refl => exact ⟨hg, Frame.refl _⟩
  | tail run hm ih =>
    obtain ⟨hguards, hframe⟩ := ih
    obtain ⟨hguards', hframe'⟩ := hm.frame hguards
    rw [moves_map_fst run] at hframe'
    exact ⟨hguards', hframe.trans hframe'⟩

/-- **A run keeps to its frame**, and refuses every case that would overwrite its reference. -/
theorem Verifies.frame {cases : List TestCase} {w v : Bench} {summary : RunSummary}
    (run : Verifies (.onBench make judge) o cases w summary v) :
    Frame o cases w v ∧
      List.Forall₂ (fun c outcome => o.Overwrites c → outcome = o.refused c) cases
        summary.outcomes := by
  obtain ⟨ended, hover, hcases, houtcomes, hrun⟩ := run.moves
  have hg : ∀ e ∈ begun cases, Guarded o e.1 e.2 := by
    simp [begun, Guarded]
  obtain ⟨hguards, hframe⟩ := moves_frame hrun hg
  rw [map_fst_begun] at hframe
  refine ⟨hframe, ?_⟩
  rw [← hcases, houtcomes]
  refine forall₂_settled fun e he hoverwrites => ?_
  have hend := hover e he
  rcases hguards e he hoverwrites with hp | hp | hp
  · rw [hp] at hend
    cases hend
  · rw [hp] at hend
    cases hend
  · rw [settled, hp]
    rfl

/-- A run changes files only where its reports go. -/
theorem Verifies.sameOff {cases : List TestCase} {w v : Bench} {summary : RunSummary}
    (run : Verifies (.onBench make judge) o cases w summary v) :
    FileMap.SameOff (cases.map o.outputOf) w.files v.files :=
  fun q hq => run.frame.1.files q fun _ hc _ => hq _ (List.mem_map_of_mem hc)

end

end GoldenCheck

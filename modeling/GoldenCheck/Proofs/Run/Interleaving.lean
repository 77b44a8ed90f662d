import GoldenCheck.Verification.Run
import Mathlib.Data.List.Forall2
import Mathlib.Logic.Relation

/-!
# Runs whose cases interleave

Cases that run side by side take their steps in any order (`Step`). `Verifies` is what a run of a
case table may amount to: cases one after the other, told as they end, or side by side in any order,
told when all have ended. `verify` is one of these runs (`verify_verifies`), and an order that has
begun can always be completed (`exists_completion`).

Both kinds of runs are sequences of steps of cases and of words to whoever watches (`Move`), so that
what a step and a word preserve holds of both (`Verifies.moves`).
-/

namespace GoldenCheck

open Relation

variable {W : Type} {h : Harness W} {o : RunOptions}

/-- Cases, each with how far it has come. -/
abbrev UnderWay := List (TestCase × Progress)

/-- Cases that are about to begin. -/
def begun (cases : List TestCase) : UnderWay := cases.map fun c => (c, .pending)

/-- The outcome of a case that is at its end. -/
def settled (o : RunOptions) (e : TestCase × Progress) : CaseOutcome := o.settle e.1 e.2.outcome

/-- All cases are at their ends. -/
def AllOver (cs : UnderWay) : Prop := ∀ e ∈ cs, e.2.isOver = true

/-- One of the cases takes a step. -/
inductive Step (h : Harness W) (o : RunOptions) : UnderWay × W → UnderWay × W → Prop where
  /-- It is any case that is not at its end. -/
  | take {before after : UnderWay} {c : TestCase} {p : Progress} {w : W} (unfinished : p.isOver = false) :
      Step h o (before ++ (c, p) :: after, w)
        (before ++ (c, (p.step h o c w).1) :: after, (p.step h o c w).2)

/-- A case takes a step, or something is told. -/
inductive Move (h : Harness W) (o : RunOptions) : UnderWay × W → UnderWay × W → Prop where
  /-- A case takes a step. -/
  | step {s t : UnderWay × W} (hs : Step h o s t) : Move h o s t
  /-- Something is told. -/
  | tell {cs : UnderWay} {w : W} (e : RunEvent) : Move h o (cs, w) (cs, h.tell e w)

/-- What a run of a case table may amount to. -/
inductive Verifies (h : Harness W) (o : RunOptions) (cases : List TestCase) (w : W) :
    RunSummary → W → Prop where
  /-- The cases run one after the other. -/
  | inTurn (mode : o.parallel = false) :
      Verifies h o cases w (verify h o cases w).1 (verify h o cases w).2
  /-- The cases run side by side, in any order, until all are at their ends. -/
  | sideBySide {ended : UnderWay} {v : W} (mode : o.parallel = true)
      (run : ReflTransGen (Step h o) (begun cases, h.tell (.started cases.length) w) (ended, v))
      (allOver : AllOver ended) :
      Verifies h o cases w ⟨ended.map (settled o), .zero⟩
        (h.tell (.completed ⟨ended.map (settled o), .zero⟩)
          ((ended.map (settled o)).foldl (fun v outcome => h.tell (.finished outcome) v) v))

/-- Steps of cases are moves. -/
theorem moves_of_steps {s t : UnderWay × W} (run : ReflTransGen (Step h o) s t) :
    ReflTransGen (Move h o) s t :=
  ReflTransGen.mono (fun _ _ => Move.step) _ _ run

/-! ### Steps of one case -/

/-- A case that is at its end stays there. -/
theorem Progress.steps_of_isOver {c : TestCase} {p : Progress} (hp : p.isOver = true) (n : Nat)
    (w : W) : Progress.steps h o c n p w = (p, w) := by
  induction n with
  | zero => rfl
  | succ n ih =>
    rw [Progress.steps, Progress.step_of_isOver h o c w hp]
    exact ih

/-- One more step at the end. -/
theorem Progress.steps_succ {c : TestCase} {p q : Progress} {n : Nat} {w v : W}
    (hs : Progress.steps h o c n p w = (q, v)) :
    Progress.steps h o c (n + 1) p w = Progress.step h o c q v := by
  rw [Progress.steps_add, hs]
  rfl

/-- However a case comes to its end by its own steps, it does so as when it runs alone. -/
theorem verifyIsolated_of_steps {c : TestCase} {p : Progress} {n : Nat} {w v : W}
    (hs : Progress.steps h o c n .pending w = (p, v)) (hp : p.isOver = true) :
    verifyIsolated h o c w = (settled o (c, p), v) := by
  have hlong : Progress.steps h o c Progress.longest .pending w = (p, v) := by
    have hn : Progress.steps h o c (n + Progress.longest) .pending w = (p, v) := by
      rw [Progress.steps_add, hs]
      exact Progress.steps_of_isOver hp _ _
    have hl : Progress.steps h o c (Progress.longest + n) .pending w =
        Progress.steps h o c Progress.longest .pending w := by
      rw [Progress.steps_add]
      exact Progress.steps_of_isOver (Progress.isOver_steps_longest h o c w) _ _
    rw [← hl, Nat.add_comm, hn]
  rw [verifyIsolated, verifyCase, hlong]
  rfl

/-- The case at some place of the table takes steps of its own. -/
theorem steps_take (before after : UnderWay) (c : TestCase) (n : Nat) (p : Progress) (w : W) :
    ReflTransGen (Step h o) (before ++ (c, p) :: after, w)
      (before ++ (c, (Progress.steps h o c n p w).1) :: after, (Progress.steps h o c n p w).2) := by
  induction n generalizing p w with
  | zero => exact .refl
  | succ n ih =>
    cases hp : p.isOver with
    | true =>
      rw [Progress.steps_of_isOver hp]
    | false => exact .head (.take hp) (ih _ _)

/-- The case at some place of the table runs to its end. -/
theorem exists_steps_verifyIsolated (before after : UnderWay) (c : TestCase) (w : W) :
    ∃ p, p.isOver = true ∧ settled o (c, p) = (verifyIsolated h o c w).1 ∧
      ReflTransGen (Step h o) (before ++ (c, .pending) :: after, w)
        (before ++ (c, p) :: after, (verifyIsolated h o c w).2) :=
  ⟨_, Progress.isOver_steps_longest h o c w, rfl,
    steps_take before after c Progress.longest .pending w⟩

/-! ### The runs that `verify` makes -/

/-- Cases that run one after the other are one way in which cases interleave. -/
theorem exists_steps_verifyQuietly (before : UnderWay) (cases : List TestCase) (w : W) :
    ∃ ended, AllOver ended ∧ ended.map (settled o) = (verifyQuietly h o cases w).1 ∧
      ReflTransGen (Step h o) (before ++ begun cases, w)
        (before ++ ended, (verifyQuietly h o cases w).2) := by
  induction cases generalizing before w with
  | nil => exact ⟨[], by simp [AllOver], rfl, .refl⟩
  | cons c cases ih =>
    obtain ⟨p, hp, houtcome, hfirst⟩ :=
      exists_steps_verifyIsolated (h := h) (o := o) before (begun cases) c w
    obtain ⟨ended, hover, houtcomes, hrest⟩ :=
      ih (before ++ [(c, p)]) (verifyIsolated h o c w).2
    refine ⟨(c, p) :: ended, ?_, ?_, ?_⟩
    · exact List.forall_mem_cons.2 ⟨hp, hover⟩
    · rw [List.map_cons, houtcome, houtcomes]
      rfl
    · rw [List.append_assoc, List.append_assoc] at hrest
      exact hfirst.trans hrest

/-- Cases that are told of as they end. -/
theorem exists_moves_verifyInTurn (before : UnderWay) (cases : List TestCase) (w : W) :
    ∃ ended, AllOver ended ∧ ended.map (settled o) = (verifyInTurn h o cases w).1 ∧
      ReflTransGen (Move h o) (before ++ begun cases, w)
        (before ++ ended, (verifyInTurn h o cases w).2) := by
  induction cases generalizing before w with
  | nil => exact ⟨[], by simp [AllOver], rfl, .refl⟩
  | cons c cases ih =>
    obtain ⟨p, hp, houtcome, hfirst⟩ :=
      exists_steps_verifyIsolated (h := h) (o := o) before (begun cases) c w
    obtain ⟨ended, hover, houtcomes, hrest⟩ :=
      ih (before ++ [(c, p)]) (h.tell (.finished (verifyIsolated h o c w).1) (verifyIsolated h o c w).2)
    refine ⟨(c, p) :: ended, ?_, ?_, ?_⟩
    · exact List.forall_mem_cons.2 ⟨hp, hover⟩
    · rw [List.map_cons, houtcome, houtcomes]
      rfl
    · rw [List.append_assoc, List.append_assoc] at hrest
      exact ((moves_of_steps hfirst).tail (.tell _)).trans hrest

/-- **`verify` is one of the runs.** -/
theorem verify_verifies (cases : List TestCase) (w : W) :
    Verifies h o cases w (verify h o cases w).1 (verify h o cases w).2 := by
  cases mode : o.parallel with
  | false => exact .inTurn mode
  | true =>
    obtain ⟨ended, hover, houtcomes, hrun⟩ := exists_steps_verifyQuietly (h := h) (o := o) []
      cases (h.tell (.started cases.length) w)
    have hv := Verifies.sideBySide mode hrun hover
    rw [List.nil_append, houtcomes] at hv
    simpa [verify, verifyCases, mode] using hv

/-- Something is told of each outcome. -/
theorem moves_foldl_tell (cs : UnderWay) (outcomes : List CaseOutcome) (w : W) :
    ReflTransGen (Move h o) (cs, w)
      (cs, outcomes.foldl (fun v outcome => h.tell (.finished outcome) v) w) := by
  induction outcomes generalizing w with
  | nil => exact .refl
  | cons outcome outcomes ih => exact .head (.tell _) (ih _)

/-! ### What all runs have in common -/

/-- A move neither adds nor drops a case. -/
theorem Move.map_fst {s t : UnderWay × W} (hm : Move h o s t) :
    t.1.map Prod.fst = s.1.map Prod.fst := by
  cases hm with
  | tell => rfl
  | step hs =>
    cases hs
    simp

theorem moves_map_fst {s t : UnderWay × W} (hm : ReflTransGen (Move h o) s t) :
    t.1.map Prod.fst = s.1.map Prod.fst := by
  induction hm with
  | refl => rfl
  | tail _ hm ih => rw [hm.map_fst, ih]

theorem map_fst_begun (cases : List TestCase) : (begun cases).map Prod.fst = cases := by
  simp [begun, Function.comp_def]

/-- **Every run is made of steps and words**, from cases that are about to begin to the same cases at
their ends, whose outcomes it returns. -/
theorem Verifies.moves {cases : List TestCase} {w v : W} {summary : RunSummary}
    (run : Verifies h o cases w summary v) :
    ∃ ended, AllOver ended ∧ ended.map Prod.fst = cases ∧
      summary.outcomes = ended.map (settled o) ∧
      ReflTransGen (Move h o) (begun cases, w) (ended, v) := by
  suffices hmoves : ∃ ended, AllOver ended ∧ summary.outcomes = ended.map (settled o) ∧
      ReflTransGen (Move h o) (begun cases, w) (ended, v) by
    obtain ⟨ended, hover, houtcomes, hrun⟩ := hmoves
    exact ⟨ended, hover, (moves_map_fst hrun).trans (map_fst_begun cases), houtcomes, hrun⟩
  cases run with
  | inTurn mode =>
    obtain ⟨ended, hover, houtcomes, hrun⟩ := exists_moves_verifyInTurn (h := h) (o := o) []
      cases (h.tell (.started cases.length) w)
    refine ⟨ended, hover, ?_, ?_⟩
    · simp [verify, verifyCases, mode, houtcomes]
    · have hall := (hrun.head (.tell _)).tail (.tell (.completed (verify h o cases w).1))
      simpa [verify, verifyCases, mode] using hall
  | sideBySide mode hrun hover =>
    refine ⟨_, hover, rfl, ?_⟩
    exact (((moves_of_steps hrun).head (.tell _)).trans (moves_foldl_tell _ _ _)).tail (.tell _)

/-- A run does not measure time. -/
theorem Verifies.duration_eq {cases : List TestCase} {w v : W} {summary : RunSummary}
    (run : Verifies h o cases w summary v) : summary.duration = .zero := by
  cases run <;> rfl

/-- What holds of each case at its end holds of the cases and their outcomes, one by one. -/
theorem forall₂_settled {R : TestCase → CaseOutcome → Prop} {ended : UnderWay}
    (hR : ∀ e ∈ ended, R e.1 (settled o e)) :
    List.Forall₂ R (ended.map Prod.fst) (ended.map (settled o)) := by
  rw [List.forall₂_map_left_iff, List.forall₂_map_right_iff, List.forall₂_same]
  exact hR

/-- **What all moves preserve.** `I` speaks of a case, how far it has come, and the world. It holds of
every case at the end if it held at the start, its own steps keep it, the steps of the other cases
keep it as long as these are `Apart`, and words keep it. -/
theorem moves_invariant (Apart : TestCase → TestCase → Prop) (symm : ∀ {c d}, Apart c d → Apart d c)
    {I : TestCase → Progress → W → Prop} {cs cs' : UnderWay} {w w' : W}
    (run : ReflTransGen (Move h o) (cs, w) (cs', w')) (apart : (cs.map Prod.fst).Pairwise Apart)
    (own : ∀ c ∈ cs.map Prod.fst, ∀ p w, I c p w → I c (p.step h o c w).1 (p.step h o c w).2)
    (other : ∀ c ∈ cs.map Prod.fst, ∀ d ∈ cs.map Prod.fst, Apart c d →
      ∀ (p q : Progress) w, I d q w → I d q (p.step h o c w).2)
    (tell : ∀ d ∈ cs.map Prod.fst, ∀ q w e, I d q w → I d q (h.tell e w))
    (start : ∀ e ∈ cs, I e.1 e.2 w) : ∀ e ∈ cs', I e.1 e.2 w' := by
  suffices hall : ∀ t : UnderWay × W, ReflTransGen (Move h o) (cs, w) t →
      ∀ e ∈ t.1, I e.1 e.2 t.2 from hall _ run
  intro t run
  induction run with
  | refl => exact start
  | @tail t u run hm ih =>
    have hfst := moves_map_fst run
    cases hm with
    | @tell ds v word =>
      intro e he
      exact tell e.1 (hfst ▸ List.mem_map_of_mem he) e.2 v word (ih e he)
    | step hs =>
      cases hs with
      | @take before after c p v unfinished =>
        rw [← hfst] at apart own other
        simp only [List.map_append, List.map_cons, List.pairwise_append, List.pairwise_cons,
          List.mem_cons, List.mem_map, forall_eq_or_imp] at apart
        obtain ⟨-, ⟨hafter, -⟩, hbefore⟩ := apart
        have hc : c ∈ (before ++ (c, p) :: after).map Prod.fst := by simp
        have hothers : ∀ e : TestCase × Progress, e ∈ before ++ (c, p) :: after → Apart c e.1 →
            I e.1 e.2 (p.step h o c v).2 := fun e he hce =>
          other c hc e.1 (List.mem_map_of_mem he) hce p e.2 v (ih e he)
        intro e he
        rcases List.mem_append.1 he with he | he
        · refine hothers e (by simp [he]) (symm ?_)
          exact (hbefore e.1 ⟨e, he, rfl⟩).1
        · rcases List.mem_cons.1 he with rfl | he
          · exact own c hc p v (ih (c, p) (by simp))
          · exact hothers e (by simp [he]) (hafter e.1 ⟨e, he, rfl⟩)

/-- How many steps are left at most. -/
def stepsLeft : UnderWay → Nat
  | [] => 0
  | e :: cs => e.2.left + stepsLeft cs

theorem stepsLeft_append (cs ds : UnderWay) :
    stepsLeft (cs ++ ds) = stepsLeft cs + stepsLeft ds := by
  induction cs with
  | nil => simp [stepsLeft]
  | cons e cs ih => simp [stepsLeft, ih, Nat.add_assoc]

/-- Every step leaves fewer to take. -/
theorem Step.stepsLeft_lt {s t : UnderWay × W} (hs : Step h o s t) :
    stepsLeft t.1 < stepsLeft s.1 := by
  cases hs with
  | @take before after c p w unfinished =>
    have hle := Progress.left_step_le h o c p w
    have hpos : 0 < p.left := by
      refine Nat.pos_of_ne_zero fun hzero => ?_
      rw [Progress.isOver_of_left_eq_zero hzero] at unfinished
      cases unfinished
    simp only [stepsLeft_append, stepsLeft]
    omega

/-- **What has begun can be completed**: wherever the steps have led, there is a way on to where all
cases are at their ends. -/
theorem exists_completion (s : UnderWay × W) :
    ∃ t, ReflTransGen (Step h o) s t ∧ AllOver t.1 := by
  induction hn : stepsLeft s.1 using Nat.strongRecOn generalizing s with
  | _ n ih =>
    by_cases hover : AllOver s.1
    · exact ⟨s, .refl, hover⟩
    · obtain ⟨cs, w⟩ := s
      simp only [AllOver, not_forall, Bool.not_eq_true] at hover
      obtain ⟨⟨c, p⟩, hmem, hp⟩ := hover
      obtain ⟨before, after, rfl⟩ := List.append_of_mem hmem
      have hs : Step h o (before ++ (c, p) :: after, w) _ := .take hp
      obtain ⟨t, hrest, ht⟩ := ih _ (hn ▸ hs.stepsLeft_lt) _ rfl
      exact ⟨t, .head hs hrest, ht⟩

end GoldenCheck

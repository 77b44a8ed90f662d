import GoldenCheck.Proofs.CommandLine.ExitStatus

/-!
# Runs that follow each other

Two harnesses may work in worlds of different kinds and still answer alike, as long as the worlds agree in
what counts (`Harness.Follows`). Then the runs of the one follow those of the other: a case takes the same
steps (`Harness.Follows.step`), cases that run in any order take them in the same order
(`Harness.Follows.verifies`), and references are made anew by the same calls (`Harness.Follows.blesses`).

What counts is a relation `R` between the worlds. It may be known only of worlds that are good in some way
`G`, which what is done does not make good: a run that ends in a good world has been through good ones only.
-/

namespace GoldenCheck

open Relation

variable {V W : Type} {α β : Type} {G : V → Prop} {R : V → W → Prop}

/-- A step in a world answers like a step in another one, as long as it ends in a good world. -/
def Alike (G : V → Prop) (R : V → W → Prop) (f : V → α × V) (g : W → α × W) : Prop :=
  ∀ v, G (f v).2 → G v ∧ ∀ w, R v w → (f v).1 = (g w).1 ∧ R (f v).2 (g w).2

/-- The harness `g` answers as `h` does. -/
structure Harness.Follows (G : V → Prop) (R : V → W → Prop) (h : Harness V) (g : Harness W) : Prop where
  generate (c : TestCase) (p : Path) : Alike G R (h.generate c p) (g.generate c p)
  compare (p q : Path) : Alike G R (h.compare p q) (g.compare p q)
  describe (p q : Path) : Alike G R (h.describe p q) (g.describe p q)
  remove (p : Path) : Alike G R (fun v => ((), h.remove p v)) (fun w => ((), g.remove p w))
  tell (e : RunEvent) : Alike G R (fun v => ((), h.tell e v)) (fun w => ((), g.tell e w))

/-! ### One after the other -/

namespace Alike

theorem pure (a : α) : Alike G R (fun v => (a, v)) (fun w => (a, w)) :=
  fun _ hv => ⟨hv, fun _ hvw => ⟨rfl, hvw⟩⟩

/-- What is done next may go by the answer. -/
theorem bind {f : V → α × V} {g : W → α × W} {f' : α → V → β × V} {g' : α → W → β × W}
    (h : Alike G R f g) (h' : ∀ a, Alike G R (f' a) (g' a)) :
    Alike G R (fun v => f' (f v).1 (f v).2) (fun w => g' (g w).1 (g w).2) := by
  intro v hend
  obtain ⟨hmiddle, hlater⟩ := h' _ _ hend
  obtain ⟨hv, hfirst⟩ := h v hmiddle
  refine ⟨hv, fun w hvw => ?_⟩
  obtain ⟨heq, hrel⟩ := hfirst w hvw
  show (f' (f v).1 (f v).2).1 = (g' (g w).1 (g w).2).1 ∧ R (f' (f v).1 (f v).2).2 (g' (g w).1 (g w).2).2
  rw [← heq]
  exact hlater _ hrel

/-- What is made of the answer does not matter. -/
theorem map {f : V → α × V} {g : W → α × W} (h : Alike G R f g) (k : α → β) :
    Alike G R (fun v => (k (f v).1, (f v).2)) (fun w => (k (g w).1, (g w).2)) :=
  h.bind fun a => .pure (k a)

end Alike

namespace Harness.Follows

variable {h : Harness V} {g : Harness W} (follows : Follows G R h g) (o : RunOptions)
include follows

/-! ### Cases -/

/-- **A case takes the same step.** -/
theorem step (c : TestCase) (p : Progress) : Alike G R (p.step h o c) (p.step g o c) := by
  cases p with
  | pending | ended | brokenOff => exact .pure _
  | generating =>
    unfold Progress.step
    by_cases hsame : (o.outputOf c).sameFile c.reference = true
    · simp only [hsame, if_true]
      exact .pure _
    · simp only [hsame, Bool.false_eq_true, if_false]
      exact (follows.generate c (o.outputOf c)).map _
  | comparing => exact (follows.compare (o.outputOf c) c.reference).map _
  | describing => exact (follows.describe (o.outputOf c) c.reference).map _
  | cleaning observed =>
    exact (follows.remove (o.outputOf c)).map fun _ => Progress.ended (o.passed c observed)

theorem steps (c : TestCase) (n : Nat) (p : Progress) :
    Alike G R (Progress.steps h o c n p) (Progress.steps g o c n p) := by
  induction n generalizing p with
  | zero => exact .pure p
  | succ n ih => exact (follows.step o c p).bind ih

theorem verifyIsolated (c : TestCase) :
    Alike G R (GoldenCheck.verifyIsolated h o c) (GoldenCheck.verifyIsolated g o c) :=
  (follows.steps o c Progress.longest .pending).map fun p => o.settle c p.outcome

/-! ### Runs -/

theorem verifyInTurn (cases : List TestCase) :
    Alike G R (GoldenCheck.verifyInTurn h o cases) (GoldenCheck.verifyInTurn g o cases) := by
  induction cases with
  | nil => exact .pure []
  | cons c cases ih =>
    have hrest : ∀ outcome, Alike G R
        (fun v => (outcome :: (GoldenCheck.verifyInTurn h o cases (h.tell (.finished outcome) v)).1,
          (GoldenCheck.verifyInTurn h o cases (h.tell (.finished outcome) v)).2))
        (fun w => (outcome :: (GoldenCheck.verifyInTurn g o cases (g.tell (.finished outcome) w)).1,
          (GoldenCheck.verifyInTurn g o cases (g.tell (.finished outcome) w)).2)) :=
      fun outcome => (follows.tell (.finished outcome)).bind fun _ => ih.map (outcome :: ·)
    exact (follows.verifyIsolated o c).bind hrest

theorem verifyQuietly (cases : List TestCase) :
    Alike G R (GoldenCheck.verifyQuietly h o cases) (GoldenCheck.verifyQuietly g o cases) := by
  induction cases with
  | nil => exact .pure []
  | cons c cases ih => exact (follows.verifyIsolated o c).bind fun outcome => ih.map (outcome :: ·)

/-- Something is told of each outcome. -/
theorem tellAll (outcomes : List CaseOutcome) :
    Alike G R (fun v => ((), outcomes.foldl (fun v outcome => h.tell (.finished outcome) v) v))
      (fun w => ((), outcomes.foldl (fun w outcome => g.tell (.finished outcome) w) w)) := by
  induction outcomes with
  | nil => exact .pure ()
  | cons outcome outcomes ih => exact (follows.tell (.finished outcome)).bind fun _ => ih

theorem verifyCases (cases : List TestCase) :
    Alike G R (GoldenCheck.verifyCases h o cases) (GoldenCheck.verifyCases g o cases) := by
  unfold GoldenCheck.verifyCases
  cases o.parallel with
  | false => exact follows.verifyInTurn o cases
  | true =>
    exact (follows.verifyQuietly o cases).bind fun outcomes => (follows.tellAll outcomes).map fun _ => outcomes

theorem verify (cases : List TestCase) :
    Alike G R (GoldenCheck.verify h o cases) (GoldenCheck.verify g o cases) := by
  have hlast : ∀ outcomes : List CaseOutcome, Alike G R
      (fun v => ((⟨outcomes, .zero⟩ : RunSummary), h.tell (.completed ⟨outcomes, .zero⟩) v))
      (fun w => ((⟨outcomes, .zero⟩ : RunSummary), g.tell (.completed ⟨outcomes, .zero⟩) w)) :=
    fun outcomes => (follows.tell (.completed ⟨outcomes, .zero⟩)).map
      fun _ => (⟨outcomes, .zero⟩ : RunSummary)
  exact ((follows.tell (.started cases.length)).bind fun _ => follows.verifyCases o cases).bind hlast

/-- A step of one of the cases is one of the same case. -/
theorem take {cs cs' : UnderWay} {v v' : V} (hs : Step h o (cs, v) (cs', v')) (hend : G v') :
    G v ∧ ∀ w, R v w → ∃ w', Step g o (cs, w) (cs', w') ∧ R v' w' := by
  cases hs with
  | @take before after c p _ unfinished =>
    obtain ⟨hv, hstep⟩ := follows.step o c p v hend
    refine ⟨hv, fun w hvw => ⟨(p.step g o c w).2, ?_, (hstep w hvw).2⟩⟩
    rw [(hstep w hvw).1]
    exact .take unfinished

/-- Cases that run side by side take their steps in the same order. -/
theorem takes {cs cs' : UnderWay} {v v' : V} (run : ReflTransGen (Step h o) (cs, v) (cs', v'))
    (hend : G v') :
    G v ∧ ∀ w, R v w → ∃ w', ReflTransGen (Step g o) (cs, w) (cs', w') ∧ R v' w' := by
  suffices hall : ∀ s, ReflTransGen (Step h o) s (cs', v') →
      G s.2 ∧ ∀ w, R s.2 w → ∃ w', ReflTransGen (Step g o) (s.1, w) (cs', w') ∧ R v' w' from hall _ run
  intro s run
  induction run using ReflTransGen.head_induction_on with
  | refl => exact ⟨hend, fun w hvw => ⟨w, .refl, hvw⟩⟩
  | @head s t hs _ ih =>
    obtain ⟨hmiddle, hrest⟩ := ih
    obtain ⟨hv, hfirst⟩ := follows.take o hs hmiddle
    refine ⟨hv, fun w hvw => ?_⟩
    obtain ⟨u, hu, hrel⟩ := hfirst w hvw
    obtain ⟨w', hw', hrel'⟩ := hrest u hrel
    exact ⟨w', .head hu hw', hrel'⟩

/-- **A run that verifies cases is one that the other harness makes as well**, with the same summary. -/
theorem verifies {cases : List TestCase} {v v' : V} {summary : RunSummary}
    (run : Verifies h o cases v summary v') (hend : G v') :
    G v ∧ ∀ w, R v w → ∃ w', Verifies g o cases w summary w' ∧ R v' w' := by
  cases run with
  | inTurn mode =>
    obtain ⟨hv, hverify⟩ := follows.verify o cases v hend
    refine ⟨hv, fun w hvw => ⟨(GoldenCheck.verify g o cases w).2, ?_, (hverify w hvw).2⟩⟩
    rw [(hverify w hvw).1]
    exact .inTurn mode
  | @sideBySide ended last mode run allOver =>
    -- Words before the cases, the cases, and words after them.
    have hclosing := (follows.tellAll (ended.map (settled o))).bind fun _ =>
      follows.tell (.completed ⟨ended.map (settled o), .zero⟩)
    obtain ⟨hlast, hclosing⟩ := hclosing last hend
    obtain ⟨hbegun, htakes⟩ := follows.takes o run hlast
    obtain ⟨hv, hopening⟩ := follows.tell (.started cases.length) v hbegun
    refine ⟨hv, fun w hvw => ?_⟩
    obtain ⟨u, hu, hrel⟩ := htakes _ (hopening w hvw).2
    exact ⟨_, .sideBySide mode hu allOver, (hclosing u hrel).2⟩

/-! ### References made anew -/

theorem bless (cases : List TestCase) : Alike G R (GoldenCheck.bless h cases) (GoldenCheck.bless g cases) := by
  induction cases with
  | nil => exact .pure []
  | cons c cases ih =>
    have hfirst : Alike G R (blessCase h c) (blessCase g c) :=
      (follows.generate c c.reference).map fun r => BlessCall.outcome (c, r)
    exact hfirst.bind fun outcome => ih.map (outcome :: ·)

theorem remakes {calls : List BlessCall} {v v' : V} (run : Remakes h calls v v') (hend : G v') :
    G v ∧ ∀ w, R v w → ∃ w', Remakes g calls w w' ∧ R v' w' := by
  induction run with
  | nil => exact ⟨hend, fun w hvw => ⟨w, .nil, hvw⟩⟩
  | @cons c calls v _ _ ih =>
    obtain ⟨hmiddle, hrest⟩ := ih hend
    obtain ⟨hv, hfirst⟩ := follows.generate c c.reference v hmiddle
    refine ⟨hv, fun w hvw => ?_⟩
    obtain ⟨heq, hrel⟩ := hfirst w hvw
    obtain ⟨w', hw', hrel'⟩ := hrest _ hrel
    exact ⟨w', heq ▸ .cons hw', hrel'⟩

/-- **A run that makes references anew is one that the other harness makes as well**, by the same calls. -/
theorem blesses {cases : List TestCase} {v v' : V} {calls told : List BlessCall}
    (run : Blesses h o cases v calls told v') (hend : G v') :
    G v ∧ ∀ w, R v w → ∃ w', Blesses g o cases w calls told w' ∧ R v' w' := by
  obtain ⟨hv, hremakes⟩ := follows.remakes run.remakes hend
  refine ⟨hv, fun w hvw => ?_⟩
  obtain ⟨w', hw', hrel⟩ := hremakes w hvw
  exact ⟨w', ⟨hw', run.perm, run.order, run.inTurn⟩, hrel⟩

end Harness.Follows

end GoldenCheck

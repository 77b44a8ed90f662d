import GoldenCheck.Bless
import GoldenCheck.Proofs.Path.NormalForm
import GoldenCheck.Verification.Run
import Mathlib.Logic.Function.Basic

/-!
# Runs on a map of files

A `FileMap` holds what lies at each path in normal form. A `Bench` is a world that consists of such a
map, of the calls that were made for reports, and of what the run has told. `Harness.onBench` is the
harness of a bench: its generator answers a call as it likes, but can change nothing except what lies
at the path it was given; its judge looks at everything and changes nothing.

What a step of a case can do to a bench is said once, in `Progress.step_onBench`.
-/

namespace GoldenCheck

/-- What lies at each path. -/
abbrev FileMap := NormalPath → Option Bytes

namespace FileMap

/-- What lies at a path. -/
def get (m : FileMap) (p : Path) : Option Bytes := m p.normal

/-- Let something lie at a path, or nothing. -/
def put (m : FileMap) (p : Path) (content : Option Bytes) : FileMap :=
  Function.update m p.normal content

/-- What can be told about a path. -/
def look (m : FileMap) (p : Path) : FileState :=
  match m.get p with
  | some content => .regular content
  | none => .absent .notFound

@[simp] theorem get_put_self (m : FileMap) (p : Path) (content : Option Bytes) :
    (m.put p content).get p = content := by
  simp [get, put]

theorem get_put_of_ne (m : FileMap) {p q : Path} (content : Option Bytes)
    (h : q.normal ≠ p.normal) : (m.put p content).get q = m.get q :=
  Function.update_of_ne h _ _

theorem put_of_ne (m : FileMap) {p : Path} {q : NormalPath} (content : Option Bytes)
    (h : q ≠ p.normal) : m.put p content q = m q :=
  Function.update_of_ne h _ _

@[simp] theorem put_get (m : FileMap) (p : Path) : m.put p (m.get p) = m :=
  Function.update_eq_self _ _

/-- The same files lie everywhere but at these places. -/
def SameOff (places : List Path) (m n : FileMap) : Prop :=
  ∀ q : NormalPath, (∀ p ∈ places, q ≠ p.normal) → n q = m q

theorem SameOff.mono {places places' : List Path} {m n : FileMap} (h : SameOff places m n)
    (hsub : places ⊆ places') : SameOff places' m n :=
  fun q hq => h q fun p hp => hq p (hsub hp)

/-- What changed only at some places is told by what lies there. -/
theorem SameOff.ext {places : List Path} {m n n' : FileMap} (h : SameOff places m n)
    (h' : SameOff places m n') (hat : ∀ p ∈ places, n'.get p = n.get p) : n' = n := by
  funext q
  by_cases hq : ∃ p ∈ places, q = p.normal
  · obtain ⟨p, hp, rfl⟩ := hq
    exact hat p hp
  · have hoff : ∀ p ∈ places, q ≠ p.normal := fun p hp heq => hq ⟨p, hp, heq⟩
    exact (h' q hoff).trans (h q hoff).symm

theorem look_congr {m n : FileMap} {p : Path} (h : m.get p = n.get p) : m.look p = n.look p := by
  rw [look, look, h]

end FileMap

/-- A call for a report. -/
structure GeneratorCall where
  /-- The case. -/
  testCase : TestCase
  /-- Where the report was to go. -/
  path : Path
  /-- What lay there when the call was over. -/
  left : Option Bytes

/-- A world of files that keeps what happens to it. -/
structure Bench where
  /-- The files. -/
  files : FileMap
  /-- The calls for reports, in their order. -/
  calls : List GeneratorCall
  /-- What was told, in its order. -/
  told : List RunEvent

/-- Whoever makes reports: it sees the bench, and says how its call ends and what lies then at the
path that it was given. -/
abbrev Generator := TestCase → Path → Bench → Attempt GenerationError Unit × Option Bytes

/-- Whoever compares reports with references. -/
structure Judge where
  /-- Compare a report with a reference. -/
  compare : Path → Path → Bench → Attempt ComparisonError ContentMatch
  /-- Describe how they differ. -/
  describe : Path → Path → Bench → Attempt Empty (Option String)

/-- The judge that compares in memory. -/
def Judge.inMemory : Judge where
  compare generated reference b := .ofExcept (Comparator.inMemory b.files.look generated reference)
  describe generated reference b := .done (Comparator.describe b.files.look generated reference)

/-- The bench after a call for a report. -/
def Bench.afterCall (b : Bench) (c : TestCase) (p : Path) (left : Option Bytes) : Bench :=
  { b with files := b.files.put p left, calls := b.calls ++ [⟨c, p, left⟩] }

/-- The harness of a bench. -/
def Harness.onBench (make : Generator) (judge : Judge) : Harness Bench where
  generate c p b := ((make c p b).1, b.afterCall c p (make c p b).2)
  compare generated reference b := (judge.compare generated reference b, b)
  describe generated reference b := (judge.describe generated reference b, b)
  remove p b := { b with files := b.files.put p none }
  tell e b := { b with told := b.told ++ [e] }

section

variable (make : Generator) (judge : Judge) (o : RunOptions) (c : TestCase)

@[simp] theorem told_tell (e : RunEvent) (b : Bench) :
    ((Harness.onBench make judge).tell e b).told = b.told ++ [e] := rfl

/-- **What one step of a case can do to a bench**: it calls for the report, it removes the report, or
it changes nothing at all. -/
theorem Progress.step_onBench (p : Progress) (b : Bench) :
    let next := (p.step (.onBench make judge) o c b).2
    (p = .generating ∧ (o.outputOf c).normal ≠ c.reference.normal ∧
      next = b.afterCall c (o.outputOf c) (make c (o.outputOf c) b).2) ∨
    ((∃ observed, p = .cleaning observed) ∧
      next = { b with files := b.files.put (o.outputOf c) none }) ∨
    next = b := by
  cases p with
  | pending | comparing | describing | ended | brokenOff => exact Or.inr (Or.inr rfl)
  | cleaning observed => exact Or.inr (Or.inl ⟨⟨observed, rfl⟩, rfl⟩)
  | generating =>
    by_cases h : (o.outputOf c).sameFile c.reference = true
    · exact Or.inr (Or.inr (by simp [Progress.step, h]))
    · refine Or.inl ⟨rfl, fun heq => h (Path.sameFile_iff.2 heq), ?_⟩
      simp [Progress.step, h, Harness.onBench]

/-- A step changes at most what lies where the report of the case goes. -/
theorem Progress.step_files_of_ne {o : RunOptions} {c : TestCase} (p : Progress) (b : Bench) {q : NormalPath}
    (h : q ≠ (o.outputOf c).normal) :
    (p.step (.onBench make judge) o c b).2.files q = b.files q := by
  rcases Progress.step_onBench make judge o c p b
    with ⟨-, -, hb⟩ | ⟨-, hb⟩ | hb
  · rw [hb]
    exact b.files.put_of_ne _ h
  · rw [hb]
    exact b.files.put_of_ne _ h
  · rw [hb]

/-- A step tells nothing. -/
theorem Progress.step_told (p : Progress) (b : Bench) :
    (p.step (.onBench make judge) o c b).2.told = b.told := by
  rcases Progress.step_onBench make judge o c p b
    with ⟨-, -, hb⟩ | ⟨-, hb⟩ | hb
  · rw [hb, Bench.afterCall]
  · rw [hb]
  · rw [hb]

end

end GoldenCheck

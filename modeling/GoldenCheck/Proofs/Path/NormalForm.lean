import GoldenCheck.Path.Normal
import GoldenCheck.Proofs.Cuts
import Mathlib.Tactic.SplitIfs

/-!
# The normal form of a path

Writing down steps and reading them back gives the same steps (`Path.components_ofComponents`), as
long as each of them is `..` or a name that stands for itself. The steps of a normal form are of this
kind, and none of them is a name with a `..` after it. So the normal form of a normal form is the
same path (`Path.normalize_normalize`), and a `NormalPath` is what the normal form of some path is.
-/

namespace GoldenCheck

open Path

/-! ### Steps that stand for themselves -/

/-- `..`, or a name that a path can show as one segment. -/
def Component.IsStep : Component → Prop
  | .up => True
  | .name n => n ≠ [] ∧ n ≠ [dot] ∧ n ≠ [dot, dot] ∧ slash ∉ n
  | _ => False

/-- A step is written with at least one byte. -/
theorem Component.IsStep.bytes_ne_nil {c : Component} (h : c.IsStep) : (ofComponent c).bytes ≠ [] := by
  cases c with
  | up => simp [ofComponent]
  | name n => exact h.1
  | root | here => exact h.elim

/-- A step is written without a slash. -/
theorem Component.IsStep.slash_notMem {c : Component} (h : c.IsStep) :
    slash ∉ (ofComponent c).bytes := by
  cases c with
  | up => decide
  | name n => exact h.2.2.2
  | root | here => exact h.elim

/-- What a step is written with reads as that step. -/
theorem Component.IsStep.component?_bytes {c : Component} (h : c.IsStep) :
    component? (ofComponent c).bytes = some c := by
  cases c with
  | up => rfl
  | name n =>
    obtain ⟨h₁, h₂, h₃, -⟩ := h
    simp [ofComponent, component?, h₁, h₂, h₃]
  | root | here => exact h.elim

/-- A segment without a slash stands for a step, if it stands for anything. -/
theorem isStep_of_component? {s : Bytes} {c : Component} (hs : slash ∉ s)
    (h : component? s = some c) : c.IsStep := by
  unfold component? at h
  split_ifs at h with h₁ h₂
  · cases h
    trivial
  · cases h
    simp only [not_or] at h₁
    exact ⟨h₁.1, h₁.2, h₂, hs⟩

namespace Path

/-! ### Segments -/

/-- Cutting at slashes leaves no slash. -/
theorem slash_notMem_splitOn (bs : Bytes) : ∀ s ∈ bs.splitOn slash, slash ∉ s :=
  fun _ => notMem_of_mem_splitOn

/-- What steps are written with after a first stretch: a slash before each of them. -/
def trail (cs : List Component) : Bytes := cs.flatMap fun c => slash :: (ofComponent c).bytes

/-- Cutting a written path at its slashes gives back what was written. -/
theorem splitOn_append_trail {first : Bytes} {cs : List Component} (hf : slash ∉ first)
    (hcs : ∀ c ∈ cs, c.IsStep) :
    (first ++ trail cs).splitOn slash = first :: cs.map fun c => (ofComponent c).bytes := by
  induction cs generalizing first with
  | nil => simpa [trail] using List.splitOn_eq_singleton hf
  | cons c cs ih =>
    have hc := hcs c List.mem_cons_self
    have hrest := ih hc.slash_notMem fun d hd => hcs d (List.mem_cons_of_mem _ hd)
    rw [List.map_cons, ← hrest, ← List.splitOn_append_cons_self_of_not_mem hf]
    simp [trail]

/-- The segments of written steps stand for these steps. -/
theorem filterMap_component?_bytes {cs : List Component} (hcs : ∀ c ∈ cs, c.IsStep) :
    (cs.map fun c => (ofComponent c).bytes).filterMap component? = cs := by
  rw [List.filterMap_map]
  calc cs.filterMap (component? ∘ fun c => (ofComponent c).bytes)
      = cs.filterMap some :=
        List.filterMap_congr fun c hc => (hcs c hc).component?_bytes
    _ = cs := List.filterMap_some

/-! ### Writing steps down -/

/-- A step is no absolute path. -/
theorem isAbsolute_ofComponent {c : Component} (hc : c.IsStep) :
    (ofComponent c).isAbsolute = false := by
  have hmem := hc.slash_notMem
  cases hb : (ofComponent c).bytes with
  | nil => simp [isAbsolute, hb]
  | cons b bs =>
    rw [hb] at hmem
    simpa [isAbsolute, hb] using fun h => hmem (by simp [h])

/-- A step goes behind a slash, unless the path ends with one or is empty. -/
theorem join_ofComponent {p : Path} {c : Component} (hc : c.IsStep) (hp : p.bytes ≠ [])
    (hl : p.bytes.getLast? ≠ some slash) :
    p.join (ofComponent c) = ⟨p.bytes ++ slash :: (ofComponent c).bytes⟩ := by
  have habs := isAbsolute_ofComponent hc
  have hne : p.isEmpty = false := by simpa [isEmpty] using hp
  simp [join, habs, hne, hl]

/-- The last byte of a written step is no slash. -/
theorem getLast?_append_step (bs : Bytes) {c : Component} (hc : c.IsStep) :
    (bs ++ (ofComponent c).bytes).getLast? ≠ some slash := by
  intro h
  rw [List.getLast?_append_of_ne_nil _ hc.bytes_ne_nil] at h
  exact hc.slash_notMem (List.mem_of_getLast? h)

/-- Steps are written one after the other, a slash before each. -/
theorem foldl_join {p : Path} {cs : List Component} (hp : p.bytes ≠ [])
    (hl : p.bytes.getLast? ≠ some slash) (hcs : ∀ c ∈ cs, c.IsStep) :
    cs.foldl (fun p c => p.join (ofComponent c)) p = ⟨p.bytes ++ trail cs⟩ := by
  induction cs generalizing p with
  | nil => simp [trail]
  | cons c cs ih =>
    have hc := hcs c List.mem_cons_self
    have hlast : (p.bytes ++ slash :: (ofComponent c).bytes).getLast? ≠ some slash := by
      simpa using getLast?_append_step (p.bytes ++ [slash]) hc
    rw [List.foldl_cons, join_ofComponent hc hp hl,
      ih (by simp) hlast fun d hd => hcs d (List.mem_cons_of_mem _ hd)]
    simp [trail]

/-- The text of steps from the current directory. -/
theorem ofComponents_cons {c : Component} {cs : List Component} (hc : c.IsStep)
    (hcs : ∀ d ∈ cs, d.IsStep) : ofComponents (c :: cs) = ⟨(ofComponent c).bytes ++ trail cs⟩ := by
  have hfirst : (⟨[]⟩ : Path).join (ofComponent c) = ofComponent c := by
    simp [join, isEmpty]
  rw [ofComponents, List.foldl_cons, hfirst]
  exact foldl_join hc.bytes_ne_nil (by simpa using getLast?_append_step [] hc) hcs

/-- The text of steps from the root. -/
theorem ofComponents_root_cons {c : Component} {cs : List Component} (hc : c.IsStep)
    (hcs : ∀ d ∈ cs, d.IsStep) : ofComponents (.root :: c :: cs) = ⟨trail (c :: cs)⟩ := by
  have hroot : (⟨[]⟩ : Path).join (ofComponent .root) = ⟨[slash]⟩ := rfl
  have hfirst : (⟨[slash]⟩ : Path).join (ofComponent c) = ⟨slash :: (ofComponent c).bytes⟩ := by
    simp [join, isEmpty, isAbsolute_ofComponent hc]
  rw [ofComponents, List.foldl_cons, List.foldl_cons, hroot, hfirst,
    foldl_join (by simp) (by simpa using getLast?_append_step [slash] hc) hcs]
  simp [trail]

/-! ### Reading them back -/

/-- Steps, perhaps from the root. -/
def IsPlain : List Component → Prop
  | .root :: cs => ∀ c ∈ cs, c.IsStep
  | cs => ∀ c ∈ cs, c.IsStep

theorem isPlain_of_isStep {cs : List Component} (h : ∀ c ∈ cs, c.IsStep) : IsPlain cs := by
  cases cs with
  | nil => exact h
  | cons c cs =>
    cases c with
    | root => exact (h .root List.mem_cons_self).elim
    | here | up | name => exact h

/-- **Reading what was written**: plain steps, at least one, read back from the path that is
written for them. -/
theorem components_ofComponents {cs : List Component} (hne : cs ≠ []) (hcs : IsPlain cs) :
    (ofComponents cs).components = cs := by
  cases cs with
  | nil => exact absurd rfl hne
  | cons c cs =>
    by_cases hroot : c = .root
    · subst hroot
      have hcs : ∀ d ∈ cs, d.IsStep := hcs
      cases cs with
      | nil => decide
      | cons d ds =>
        have hd := hcs d List.mem_cons_self
        have hds : ∀ e ∈ ds, e.IsStep := fun e he => hcs e (List.mem_cons_of_mem _ he)
        have hcut := splitOn_append_trail (List.not_mem_nil (a := slash)) hcs
        rw [List.nil_append] at hcut
        have habs : (⟨trail (d :: ds)⟩ : Path).isAbsolute = true := by simp [isAbsolute, trail]
        have hnil : component? [] = none := by simp [component?]
        rw [ofComponents_root_cons hd hds, components, if_pos habs, segments, hcut,
          List.filterMap_cons, hnil, filterMap_component?_bytes hcs]
    · have hall : ∀ d ∈ c :: cs, d.IsStep := by
        cases c with
        | root => exact absurd rfl hroot
        | here | up | name => exact hcs
      have hc := hall c List.mem_cons_self
      have hrest : ∀ d ∈ cs, d.IsStep := fun d hd => hall d (List.mem_cons_of_mem _ hd)
      have habs : (⟨(ofComponent c).bytes ++ trail cs⟩ : Path).isAbsolute = false := by
        have h := isAbsolute_ofComponent hc
        simpa [isAbsolute, List.head?_append_of_ne_nil _ hc.bytes_ne_nil] using h
      have hdot : (ofComponent c).bytes ≠ [dot] := by
        intro h
        have hread := hc.component?_bytes
        simp [component?, h] at hread
      rw [ofComponents_cons hc hrest, components, if_neg (by simp [habs]), segments,
        splitOn_append_trail hc.slash_notMem hrest]
      simp [hdot, hc.component?_bytes, filterMap_component?_bytes hrest]

/-! ### The stack of a normal form -/

/-- Nothing on the stack can be taken away any more: there is no `.`, and no `..` on a name. -/
def IsSettled : List Component → Prop
  | [] => True
  | .here :: _ => False
  | .up :: .name _ :: _ => False
  | _ :: parts => IsSettled parts

theorem IsSettled.tail {c : Component} {parts : List Component} (h : IsSettled (c :: parts)) :
    IsSettled parts := by
  cases c with
  | here => exact h.elim
  | root | name => exact h
  | up =>
    cases parts with
    | nil => trivial
    | cons d parts =>
      cases d with
      | name => exact h.elim
      | here | root | up => exact h

/-- One more component leaves a settled stack settled. -/
theorem IsSettled.pushPart {parts : List Component} (h : IsSettled parts) (c : Component) :
    IsSettled (pushPart parts c) := by
  cases c with
  | here => exact h
  | root | name => simpa [Path.pushPart, IsSettled] using h
  | up =>
    cases parts with
    | nil => trivial
    | cons d parts =>
      cases d with
      | name => exact h.tail
      | here | root | up => exact h

theorem IsSettled.foldl {parts : List Component} (h : IsSettled parts) (cs : List Component) :
    IsSettled (cs.foldl Path.pushPart parts) := by
  induction cs generalizing parts with
  | nil => exact h
  | cons c cs ih => exact ih (h.pushPart c)

/-- A settled stack is built again from its parts. -/
theorem IsSettled.foldl_reverse {parts : List Component} (h : IsSettled parts) :
    parts.reverse.foldl Path.pushPart [] = parts := by
  induction parts with
  | nil => rfl
  | cons c parts ih =>
    rw [List.reverse_cons, List.foldl_append, ih h.tail, List.foldl_cons, List.foldl_nil]
    cases c with
    | here => exact h.elim
    | root | name => rfl
    | up =>
      cases parts with
      | nil => rfl
      | cons d parts =>
        cases d with
        | name => exact h.elim
        | here | root | up => rfl

/-- What is on the stack was there before or is one of the components. -/
theorem mem_foldl_pushPart {parts cs : List Component} {d : Component}
    (h : d ∈ cs.foldl pushPart parts) : d ∈ parts ∨ d ∈ cs := by
  induction cs generalizing parts with
  | nil => exact Or.inl h
  | cons c cs ih =>
    rcases ih h with h | h
    · unfold pushPart at h
      split at h
      · exact Or.inl h
      · exact Or.inl (List.mem_cons_of_mem _ h)
      · rcases List.mem_cons.1 h with rfl | h
        · exact Or.inr List.mem_cons_self
        · exact Or.inl h
    · exact Or.inr (List.mem_cons_of_mem _ h)

/-- The root stays at the bottom of the stack. -/
theorem foldl_pushPart_root (parts cs : List Component) :
    cs.foldl pushPart (parts ++ [.root]) = cs.foldl pushPart parts ++ [.root] := by
  induction cs generalizing parts with
  | nil => rfl
  | cons c cs ih =>
    rw [List.foldl_cons, List.foldl_cons, ← ih]
    congr 1
    cases c with
    | here | root | name => rfl
    | up =>
      cases parts with
      | nil => rfl
      | cons d parts => cases d <;> rfl

/-- The components of a path: steps, with the root or a `.` before them if at all. -/
theorem components_cases (p : Path) : ∃ cs : List Component, (∀ c ∈ cs, c.IsStep) ∧
    (p.components = .root :: cs ∨ p.components = .here :: cs ∨ p.components = cs) := by
  have hseg : ∀ s ∈ p.segments, slash ∉ s := slash_notMem_splitOn p.bytes
  have hmap : ∀ ss : List Bytes, (∀ s ∈ ss, s ∈ p.segments) →
      ∀ c ∈ ss.filterMap component?, c.IsStep := by
    intro ss hss c hc
    obtain ⟨s, hs, hread⟩ := List.mem_filterMap.1 hc
    exact isStep_of_component? (hseg s (hss s hs)) hread
  unfold components
  split_ifs with habs
  · exact ⟨_, hmap p.segments fun _ h => h, Or.inl rfl⟩
  · cases hcut : p.segments with
    | nil => exact ⟨[], by simp, Or.inr (Or.inr rfl)⟩
    | cons first rest =>
      have hrest : ∀ s ∈ rest, s ∈ p.segments := fun s hs => by simp [hcut, hs]
      by_cases hdot : first = [dot]
      · exact ⟨_, hmap rest hrest, Or.inr (Or.inl (by simp [hdot]))⟩
      · refine ⟨(first :: rest).filterMap component?, hmap _ (by simp [hcut]), Or.inr (Or.inr ?_)⟩
        simp only [hdot, if_false]
        cases hread : component? first <;> simp [hread]

/-- The normal form of components is plain. -/
theorem isPlain_normalParts (p : Path) : IsPlain (normalParts p.components) := by
  obtain ⟨cs, hcs, h⟩ := components_cases p
  have hstack : ∀ c ∈ (cs.foldl pushPart []).reverse, c.IsStep := by
    intro c hc
    rcases mem_foldl_pushPart (List.mem_reverse.1 hc) with hc | hc
    · simp at hc
    · exact hcs c hc
  have hplain := isPlain_of_isStep hstack
  rcases h with h | h | h
  · have hroot := foldl_pushPart_root [] cs
    rw [h, normalParts, List.foldl_cons, show pushPart [] .root = [] ++ [.root] from rfl, hroot]
    simpa [IsPlain] using hstack
  · rw [h]
    exact hplain
  · rw [h]
    exact hplain

/-- **The normal form is stable**: the normal form of a normal form is the same path. -/
theorem normalize_normalize (p : Path) : p.normalize.normalize = p.normalize := by
  have hsettled : IsSettled (p.components.foldl pushPart []) :=
    IsSettled.foldl (show IsSettled [] from trivial) _
  have hplain := isPlain_normalParts p
  have hagain : normalParts (normalParts p.components) = normalParts p.components := by
    rw [normalParts, normalParts, hsettled.foldl_reverse]
  cases hparts : normalParts p.components with
  | nil =>
    have hnorm : p.normalize = ⟨[dot]⟩ := by rw [normalize, hparts]
    rw [hnorm]
    rfl
  | cons c cs =>
    have hnorm : p.normalize = ofComponents (c :: cs) := by rw [normalize, hparts]
    rw [hparts] at hplain hagain
    rw [hnorm, normalize, components_ofComponents (by simp) hplain, hagain]

end Path

/-- A path in normal form. -/
structure NormalPath where
  /-- The path. -/
  path : Path
  /-- It is its own normal form. -/
  isNormal : path.normalize = path
  deriving DecidableEq

/-- The normal form of a path. -/
def Path.normal (p : Path) : NormalPath := ⟨p.normalize, p.normalize_normalize⟩

/-- Two paths are spellings of one file when they have one normal form. -/
theorem Path.normal_eq_iff {p q : Path} : p.normal = q.normal ↔ p.normalize = q.normalize := by
  simp [normal]

theorem Path.sameFile_iff {p q : Path} : p.sameFile q = true ↔ p.normal = q.normal := by
  simp [sameFile, normal_eq_iff]

theorem Path.sameFile_eq_false_iff {p q : Path} : p.sameFile q = false ↔ p.normal ≠ q.normal := by
  rw [← Bool.not_eq_true, sameFile_iff]

end GoldenCheck

import GoldenCheck.Proofs.Path.NormalForm

/-!
# The steps of joined paths

The components of two paths that are joined are those of the one and then those of the other
(`Path.components_join`), unless the other is absolute or begins with a `.` that counts. So a path
whose components are all names keeps to the directory that it is joined onto: the normal form of the
two has the steps of the normal form of the directory, and then just these names
(`Path.StaysBelow.components_join_normalize`).
-/

namespace GoldenCheck

open Path

/-- The component is a name. -/
def Component.IsNamed (c : Component) : Prop := ∃ n, c = .name n

namespace Path

/-- A relative path that goes down by names only, at least one. -/
structure StaysBelow (p : Path) : Prop where
  relative : p.isAbsolute = false
  ne_nil : p.components ≠ []
  named : ∀ c ∈ p.components, c.IsNamed

/-- The components of the normal form of a path, none for `.`. -/
def steps (p : Path) : List Component := p.normalize.components.filter (· ≠ .here)

variable {p q : Path}

/-! ### Joining -/

theorem components_of_isAbsolute (h : p.isAbsolute = true) :
    p.components = .root :: p.segments.filterMap component? := by
  rw [components, if_pos h]

/-- A `.` says something only at the very start of a relative path. -/
theorem components_of_relative (h : p.isAbsolute = false) (hdot : p.segments.head? ≠ some [dot]) :
    p.components = p.segments.filterMap component? := by
  rw [components, if_neg (by simp [h])]
  cases hcut : p.segments with
  | nil => rfl
  | cons first rest =>
    rw [hcut] at hdot
    have hfirst : first ≠ [dot] := fun h => hdot (by simp [h])
    cases hread : component? first <;> simp [hfirst, hread]

/-- Bytes after a slash say what they say as segments. -/
theorem components_append_slash {front : Bytes} (hfront : front ≠ []) (back : Bytes) :
    components ⟨front ++ slash :: back⟩ =
      components ⟨front⟩ ++ (back.splitOn slash).filterMap component? := by
  have habs : isAbsolute ⟨front ++ slash :: back⟩ = isAbsolute ⟨front⟩ := by
    simp [isAbsolute, List.head?_append_of_ne_nil _ hfront]
  have hcut : segments ⟨front ++ slash :: back⟩ = segments ⟨front⟩ ++ back.splitOn slash :=
    List.splitOn_append_cons_self front back
  cases hroot : isAbsolute ⟨front⟩ with
  | true =>
    rw [components_of_isAbsolute (habs.trans hroot), components_of_isAbsolute hroot, hcut,
      List.filterMap_append, List.cons_append]
  | false =>
    simp only [components, habs, hroot, hcut, Bool.false_eq_true, if_false]
    cases hfirst : segments ⟨front⟩ with
    | nil => exact absurd hfirst (List.splitOn_ne_nil slash front)
    | cons first rest => simp

theorem components_slash_cons (back : Bytes) :
    components ⟨slash :: back⟩ = .root :: (back.splitOn slash).filterMap component? := by
  have hcut : segments ⟨slash :: back⟩ = [] :: back.splitOn slash :=
    List.splitOn_append_cons_self [] back
  rw [components_of_isAbsolute rfl, hcut]
  rfl

/-- **Joining** puts the components of one path after those of the other. -/
theorem components_join (p : Path) (hq : q.isAbsolute = false)
    (hdot : q.segments.head? ≠ some [dot]) :
    (p.join q).components = p.components ++ q.components := by
  have hread : q.components = (q.bytes.splitOn slash).filterMap component? :=
    components_of_relative hq hdot
  obtain ⟨front⟩ := p
  by_cases hnil : front = []
  · subst hnil
    simp [join, hq, isEmpty, show components ⟨[]⟩ = [] from rfl]
  by_cases hlast : front.getLast? = some slash
  · obtain ⟨front, rfl⟩ := List.getLast?_eq_some_iff.1 hlast
    have hjoin : (⟨front ++ [slash]⟩ : Path).join q = ⟨front ++ slash :: q.bytes⟩ := by
      simp [join, hq]
    rw [hjoin]
    by_cases hroot : front = []
    · subst hroot
      rw [List.nil_append, List.nil_append, components_slash_cons, hread]
      rfl
    · rw [components_append_slash hroot, components_append_slash hroot, hread]
      simp [component?]
  · have hjoin : (⟨front⟩ : Path).join q = ⟨front ++ slash :: q.bytes⟩ := by
      simp [join, hq, isEmpty, hnil, hlast]
    rw [hjoin, components_append_slash hnil, hread]

/-! ### Normal forms -/

/-- The components of the normal form of a path, unless nothing is left of it. -/
theorem components_normalize (h : normalParts p.components ≠ []) :
    p.normalize.components = normalParts p.components := by
  have hplain := isPlain_normalParts p
  cases hparts : normalParts p.components with
  | nil => exact absurd hparts h
  | cons c cs =>
    rw [hparts] at hplain
    rw [normalize, hparts]
    exact components_ofComponents (by simp) hplain

/-- A `.` is in no normal form but as all that is left. -/
theorem here_notMem_normalParts (p : Path) : Component.here ∉ normalParts p.components := by
  intro h
  have hplain := isPlain_normalParts p
  cases hparts : normalParts p.components with
  | nil => simp [hparts] at h
  | cons c cs =>
    rw [hparts] at hplain h
    cases c with
    | root =>
      rcases List.mem_cons.1 h with h | h
      · cases h
      · exact hplain _ h
    | here | up | name => exact hplain _ h

theorem steps_eq (p : Path) : p.steps = normalParts p.components := by
  by_cases h : normalParts p.components = []
  · rw [steps, normalize, h]
    rfl
  · rw [steps, components_normalize h, List.filter_eq_self]
    intro c hc
    simpa using fun hhere : c = .here => here_notMem_normalParts p (hhere ▸ hc)

/-- Paths are spellings of one file when their steps are the same. -/
theorem normal_eq_iff_steps : p.normal = q.normal ↔ p.steps = q.steps := by
  rw [normal_eq_iff]
  constructor
  · intro h
    rw [steps, steps, h]
  · intro h
    rw [steps_eq, steps_eq] at h
    rw [normalize, normalize, h]

/-- Names are all put on the stack. -/
theorem foldl_pushPart_named {cs : List Component} (hcs : ∀ c ∈ cs, c.IsNamed)
    (parts : List Component) : cs.foldl pushPart parts = cs.reverse ++ parts := by
  induction cs generalizing parts with
  | nil => rfl
  | cons c cs ih =>
    obtain ⟨n, rfl⟩ := hcs c List.mem_cons_self
    rw [List.foldl_cons, ih fun d hd => hcs d (List.mem_cons_of_mem _ hd)]
    simp [pushPart]

/-! ### Staying below -/

/-- A path of names is relative, since the root is no name. -/
theorem staysBelow_of_named (hne : p.components ≠ []) (h : ∀ c ∈ p.components, c.IsNamed) :
    p.StaysBelow := by
  refine ⟨?_, hne, h⟩
  rw [← Bool.not_eq_true]
  intro habs
  obtain ⟨n, hn⟩ := h .root (by simp [components_of_isAbsolute habs])
  cases hn

theorem StaysBelow.head?_segments (h : q.StaysBelow) : q.segments.head? ≠ some [dot] := by
  intro hdot
  have hhere : Component.here ∈ q.components := by
    rw [components, if_neg (by simp [h.relative])]
    cases hcut : q.segments with
    | nil => simp [hcut] at hdot
    | cons first rest =>
      obtain rfl : first = [dot] := by simpa [hcut] using hdot
      simp
  obtain ⟨n, hn⟩ := h.named _ hhere
  cases hn

/-- The parts of a normal form grow by just the names of a path that stays below. -/
theorem StaysBelow.normalParts_join (h : q.StaysBelow) (p : Path) :
    normalParts (p.join q).components = normalParts p.components ++ q.components := by
  rw [components_join p h.relative h.head?_segments, normalParts, List.foldl_append,
    foldl_pushPart_named h.named, List.reverse_append, List.reverse_reverse, normalParts]

theorem StaysBelow.steps_join (h : q.StaysBelow) (p : Path) :
    (p.join q).steps = p.steps ++ q.components := by
  rw [steps_eq, steps_eq, h.normalParts_join]

/-- **A path that stays below** cannot leave what it is joined onto: in normal form, the two are the
steps of the one and then the names of the other. -/
theorem StaysBelow.components_join_normalize (h : q.StaysBelow) (p : Path) :
    (p.join q).normalize.components = p.steps ++ q.components := by
  have hparts := h.normalParts_join p
  rw [components_normalize, hparts, steps_eq]
  rw [hparts]
  exact fun hnil => h.ne_nil (List.append_eq_nil_iff.1 hnil).2

end Path

end GoldenCheck

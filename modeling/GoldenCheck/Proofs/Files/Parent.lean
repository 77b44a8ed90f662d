import GoldenCheck.Proofs.Files.Walk
import GoldenCheck.Proofs.Path.NormalForm
import GoldenCheck.Staging
import Mathlib.Logic.Relation

/-!
# Where parents are

The parent of a path is the path without its last name, and without what says nothing around it
(`Path.parent?_cases`). If the path never goes up, its place is right inside the place of its parent
(`placeOf_parent`), and what lies on the way to its directory is above its place
(`placeOf_ne_of_onTheWay`).
-/

namespace GoldenCheck

open Relation

namespace Path

/-- The path never goes up. -/
def NeverUp (p : Path) : Prop := [dot, dot] ∉ p.segments

/-- The last thing that a path says is a name. -/
def IsNamed (p : Path) : Prop :=
  ∃ before name silent, p.segments = before ++ name :: silent ∧ IsName name ∧
    ∀ s ∈ silent, component? s = none

/-- `q` is `p` itself or lies on the way to it. -/
def OnTheWay (p q : Path) : Prop := ReflTransGen (fun a b => a.parent? = some b) p q

variable {p q : Path}

/-- What stands for a component, and does not go up, is a name. -/
theorem isName_of_component? {s : Bytes} (h : (component? s).isSome = true) (hup : s ≠ [dot, dot]) :
    IsName s := by
  have hsaid : ¬ (s = [] ∨ s = [dot]) := fun hs => by
    rw [component?_eq_none_iff.2 hs] at h
    cases h
  rw [not_or] at hsaid
  exact ⟨hsaid.1, hsaid.2, hup⟩

/-- What is dropped says nothing, and the rest begins with something that does. -/
theorem dropSilent_spec (relative : Bool) (segments : List Bytes) :
    ∃ silent, segments = silent ++ dropSilent relative segments ∧
      (∀ s ∈ silent, component? s = none) ∧
      ∀ s before, dropSilent relative segments = s :: before → before ≠ [] →
        (component? s).isSome = true := by
  induction segments with
  | nil => exact ⟨[], rfl, by simp, by simp [dropSilent]⟩
  | cons s rest ih =>
    cases hs : component? s with
    | some c =>
      refine ⟨[], ?_, by simp, fun s' before h _ => ?_⟩
      · cases rest <;> simp [dropSilent, hs]
      · cases rest <;> simp_all [dropSilent]
    | none =>
      cases rest with
      | nil =>
        by_cases hdot : relative = true ∧ s = [dot]
        · exact ⟨[], by simp [dropSilent, hdot], by simp, by simp [dropSilent, hdot]⟩
        · exact ⟨[s], by simp [dropSilent, hs, hdot], by simpa using hs, by simp [dropSilent, hs, hdot]⟩
      | cons t rest =>
        obtain ⟨silent, hsplit, hsilent, hhead⟩ := ih
        have hdrop : dropSilent relative (s :: t :: rest) = dropSilent relative (t :: rest) := by
          simp [dropSilent, hs]
        rw [hdrop]
        exact ⟨s :: silent, by rw [List.cons_append, ← hsplit], by simpa [hs] using hsilent, hhead⟩

theorem significant_spec (p : Path) :
    ∃ silent, p.segments = p.significant.reverse ++ silent ∧ (∀ s ∈ silent, component? s = none) ∧
      ∀ s before, p.significant = s :: before → before ≠ [] → (component? s).isSome = true := by
  obtain ⟨silent, hsplit, hsilent, hhead⟩ := dropSilent_spec (!p.isAbsolute) p.segments.reverse
  refine ⟨silent.reverse, ?_, by simpa using hsilent, hhead⟩
  rw [significant, ← List.reverse_append, ← hsplit, List.reverse_reverse]

/-- Segments that are written down are read back. -/
theorem segments_intercalate {segments : List Bytes} (hslash : ∀ s ∈ segments, slash ∉ s)
    (hne : segments ≠ []) : (⟨List.intercalate [slash] segments⟩ : Path).segments = segments :=
  List.splitOn_intercalate slash hslash hne

/-- **The parent of a path**: nothing, the root that a name is in, or the path up to before its last name. -/
theorem parent?_cases (h : p.parent? = some q) : q = ⟨[]⟩ ∨
    (q = ⟨[slash]⟩ ∧ p.isAbsolute = true ∧ ∃ outer name silent, p.segments = outer ++ name :: silent ∧
      (∀ s ∈ outer ++ silent, component? s = none) ∧ (component? name).isSome = true) ∨
    ∃ inner name silent, p.segments = q.segments ++ inner ++ name :: silent ∧
      (∀ s ∈ inner ++ silent, component? s = none) ∧ (component? name).isSome = true := by
  obtain ⟨silent, hsegments, hsilent, hhead⟩ := p.significant_spec
  unfold parent? at h
  split at h
  · cases h
  · rename_i name before hsignificant
    rw [hsignificant, List.reverse_cons, List.append_assoc] at hsegments
    have hslash : ∀ s ∈ before.reverse, slash ∉ s := fun s hs =>
      slash_notMem_splitOn p.bytes s (by
        change s ∈ p.segments
        rw [hsegments]
        exact List.mem_append_left _ hs)
    simp only at h
    split_ifs at h with hnone hroot
    · exact Or.inl (Option.some.inj h).symm
    all_goals
      obtain ⟨inner, hkept, hinner, -⟩ :=
        significant_spec ⟨List.intercalate [slash] before.reverse⟩
      rw [segments_intercalate hslash (by simpa using hnone)] at hkept
      obtain rfl := (Option.some.inj h).symm
    · rw [hroot.1, List.nil_append] at hkept
      refine Or.inr (Or.inl ⟨rfl, hroot.2, before.reverse, name, silent, by simpa using hsegments, ?_,
        hhead _ _ hsignificant hnone⟩)
      exact List.forall_mem_append.2 ⟨hkept ▸ hinner, hsilent⟩
    · cases htrimmed : (significant ⟨List.intercalate [slash] before.reverse⟩).reverse with
      | nil => exact Or.inl rfl
      | cons t ts =>
        refine Or.inr (Or.inr ⟨inner, name, silent, ?_, List.forall_mem_append.2 ⟨hinner, hsilent⟩,
          hhead _ _ hsignificant hnone⟩)
        rw [htrimmed] at hkept
        rw [segments_intercalate (fun s hs => hslash s ?_) (by simp), hsegments, hkept]
        · simp
        · rw [hkept]
          exact List.mem_append_left _ hs

theorem neverUp_of_parent? (h : p.parent? = some q) (hup : p.NeverUp) : q.NeverUp := by
  rcases parent?_cases h with rfl | ⟨rfl, -⟩ | ⟨inner, name, silent, hsegments, -, -⟩
  · unfold NeverUp
    decide
  · unfold NeverUp
    decide
  · intro hmem
    refine hup ?_
    rw [hsegments, List.append_assoc]
    exact List.mem_append_left _ hmem

/-- A path is absolute when its first segment is empty and another one follows. -/
theorem isAbsolute_iff (p : Path) : p.isAbsolute = true ↔ ∃ s t, p.segments = [] :: s :: t := by
  unfold isAbsolute segments
  cases p.bytes with
  | nil => simp
  | cons b bs =>
    rw [List.splitOn_cons_eq_if_modifyHead]
    cases hcut : bs.splitOn slash with
    | nil => exact absurd hcut (List.splitOn_ne_nil _ _)
    | cons s t =>
      by_cases hb : b = slash <;> simp [hb]

/-- A path that says a name says something. -/
theorem IsNamed.exists_isName (h : p.IsNamed) : ∃ s ∈ p.segments, IsName s := by
  obtain ⟨before, name, silent, hsegments, hname, -⟩ := h
  exact ⟨name, by simp [hsegments], hname⟩

end Path

open Path World

variable {p q output : Path}

/-- The place of a path that does not go up is right inside the place of its parent. -/
theorem placeOf_parent (h : p.parent? = some q) (hup : p.NeverUp) (hq : q.IsNamed) :
    p.IsNamed ∧ ∀ w : World, ∃ name, w.placeOf p = name :: w.placeOf q := by
  obtain ⟨said, hsaid, hsaidName⟩ := hq.exists_isName
  rcases parent?_cases h with rfl | ⟨rfl, -⟩ | ⟨inner, name, silent, hsegments, hsilent, hname⟩
  · exact absurd (by simpa [segments] using hsaid) hsaidName.1
  · have hempty : (⟨[slash]⟩ : Path).segments = [[], []] := by decide
    exact absurd (by simpa [hempty] using hsaid) hsaidName.1
  · have hname' : IsName name :=
      isName_of_component? hname fun hdots => hup (by simp [hsegments, ← hdots])
    refine ⟨⟨q.segments ++ inner, name, silent, hsegments, hname', fun s hs =>
      hsilent s (List.mem_append_right _ hs)⟩, fun w => ⟨name, ?_⟩⟩
    -- Both start at the top, or both at the current directory.
    have hstart : w.start p = w.start q := by
      have habs : p.isAbsolute = true ↔ q.isAbsolute = true := by
        rw [isAbsolute_iff, isAbsolute_iff, hsegments]
        cases hq' : q.segments with
        | nil => simp [hq'] at hsaid
        | cons a as =>
          cases as with
          | nil =>
            have ha : a ≠ [] := by
              rw [hq', List.mem_singleton] at hsaid
              exact hsaid ▸ hsaidName.1
            simp [ha]
          | cons b bs => simp
      rw [start, start, Bool.eq_iff_iff.2 habs]
    rw [placeOf, hsegments, List.foldl_append, List.foldl_append, List.foldl_cons,
      foldl_spelledStep_silent fun s hs => hsilent s (List.mem_append_left _ hs),
      spelledStep_of_isName hname',
      foldl_spelledStep_silent fun s hs => hsilent s (List.mem_append_right _ hs), hstart, placeOf]

/-- What is on the way to a path that does not go up, and says a name, is at its place or above. -/
theorem placeOf_suffix_of_onTheWay (h : p.OnTheWay q) (hup : p.NeverUp) (hq : q.IsNamed) :
    p.IsNamed ∧ ∀ w : World, w.placeOf q <:+ w.placeOf p := by
  induction h using ReflTransGen.head_induction_on with
  | refl => exact ⟨hq, fun w => List.suffix_refl _⟩
  | head hparent _ ih =>
    obtain ⟨hnamed, hplaces⟩ := ih (neverUp_of_parent? hparent hup)
    obtain ⟨hp, hplace⟩ := placeOf_parent hparent hup hnamed
    refine ⟨hp, fun w => ?_⟩
    obtain ⟨name, heq⟩ := hplace w
    rw [heq]
    exact (hplaces w).trans (List.suffix_cons _ _)

/-- **Nothing on the way to the directory of a path is at the place of the path**, if the path does
not go up. -/
theorem placeOf_ne_of_onTheWay (h : (Staging.directoryOf output).OnTheWay q)
    (hup : output.NeverUp) (hq : q.IsNamed) (w : World) : w.placeOf q ≠ w.placeOf output := by
  have hdot : (⟨[dot]⟩ : Path).segments = [[dot]] := by decide
  have hhere : (⟨[dot]⟩ : Path).NeverUp := by
    unfold NeverUp
    decide
  have hnameless : ¬ (⟨[dot]⟩ : Path).IsNamed := fun hnamed => by
    obtain ⟨s, hs, hname⟩ := hnamed.exists_isName
    exact hname.2.1 (by simpa [hdot] using hs)
  unfold Staging.directoryOf at h
  split at h
  · rename_i parent hparent
    split_ifs at h
    · exact absurd (placeOf_suffix_of_onTheWay h hhere hq).1 hnameless
    · obtain ⟨hnamed, hsuffix⟩ :=
        placeOf_suffix_of_onTheWay h (neverUp_of_parent? hparent hup) hq
      obtain ⟨name, heq⟩ := (placeOf_parent hparent hup hnamed).2 w
      intro hsame
      have hle := (hsuffix w).length_le
      rw [hsame, heq, List.length_cons] at hle
      omega
  · exact absurd (placeOf_suffix_of_onTheWay h hhere hq).1 hnameless

end GoldenCheck

import GoldenCheck.Files.World
import GoldenCheck.Proofs.Except
import Mathlib.Data.List.Basic
import Mathlib.Tactic.SplitIfs

/-!
# Where paths lead

A path that is walked leads to the location that its segments spell (`World.placeOf`), so that it
leads to the same location in every state of the files in which the way is there. A walk asks of the
files only that what it passes are directories and that there is something at its end
(`walk_of_walk`).
-/

namespace GoldenCheck

/-- A segment that is a name, neither empty nor `.` nor `..`. -/
def IsName (segment : Bytes) : Prop :=
  segment ≠ [] ∧ segment ≠ [Path.dot] ∧ segment ≠ [Path.dot, Path.dot]

namespace World

/-- Where a segment leads by its spelling. -/
def spelledStep (l : Location) (segment : Bytes) : Location :=
  if segment = [] ∨ segment = [Path.dot] then l
  else if segment = [Path.dot, Path.dot] then l.tail
  else segment :: l

/-- The location that a path spells, whether or not the way to it is there. -/
def placeOf (w : World) (p : Path) : Location := p.segments.foldl spelledStep (w.start p)

variable {w w' : World} {p : Path} {l k : Location}

theorem spelledStep_of_isName {segment : Bytes} (h : IsName segment) (l : Location) :
    spelledStep l segment = segment :: l := by
  simp [spelledStep, h.1, h.2.1, h.2.2]

theorem spelledStep_of_silent {segment : Bytes} (h : Path.component? segment = none)
    (l : Location) : spelledStep l segment = l := by
  simp [spelledStep, Path.component?_eq_none_iff.1 h]

/-- Segments that say nothing lead nowhere. -/
theorem foldl_spelledStep_silent {silent : List Bytes}
    (h : ∀ s ∈ silent, Path.component? s = none) (l : Location) :
    silent.foldl spelledStep l = l := by
  induction silent with
  | nil => rfl
  | cons s silent ih =>
    rw [List.foldl_cons, spelledStep_of_silent (h s (by simp))]
    exact ih fun s hs => h s (by simp [hs])

/-- What a step on the way asks for, and where it leads. -/
theorem step_eq_ok_iff {segment : Bytes} :
    w.step l segment = .ok k ↔ w.tree.get? l = some .directory ∧ k = spelledStep l segment ∧
      (IsName segment → segment.length ≤ longestName ∧ (w.tree.get? k).isSome = true) := by
  unfold step spelledStep IsName
  cases hl : w.tree.get? l with
  | none => simp
  | some e =>
    cases e with
    | file | device | program => simp [Entry.isDirectory]
    | directory =>
      simp only [Entry.isDirectory]
      split_ifs <;> grind

/-- A walk leads where the segments say. -/
theorem walk_eq_spelled {segments : List Bytes} (h : segments.foldlM w.step l = .ok k) :
    k = segments.foldl spelledStep l := by
  induction segments generalizing l with
  | nil => exact (pure_eq_ok_iff.1 h).symm
  | cons segment segments ih =>
    rw [List.foldlM_cons, bind_eq_ok_iff] at h
    obtain ⟨m, hm, hrest⟩ := h
    rw [List.foldl_cons, ← (step_eq_ok_iff.1 hm).2.1]
    exact ih hrest

/-- A walk that goes on starts at a directory. -/
theorem directory_of_walk {segments : List Bytes} (h : segments.foldlM w.step l = .ok k) :
    l = k ∨ w.tree.get? l = some .directory := by
  cases segments with
  | nil => exact Or.inl (pure_eq_ok_iff.1 h)
  | cons segment segments =>
    rw [List.foldlM_cons, bind_eq_ok_iff] at h
    obtain ⟨m, hm, -⟩ := h
    exact Or.inr (step_eq_ok_iff.1 hm).1

/-- **A walk can be repeated** where its directories are still there and something is at its end. -/
theorem walk_of_walk {segments : List Bytes} (h : segments.foldlM w.step l = .ok k)
    (hdirs : ∀ m, w.tree.get? m = some .directory → w'.tree.get? m = some .directory)
    (hend : (w'.tree.get? k).isSome = true) : segments.foldlM w'.step l = .ok k := by
  induction segments generalizing l with
  | nil => exact h
  | cons segment segments ih =>
    rw [List.foldlM_cons, bind_eq_ok_iff] at h ⊢
    obtain ⟨m, hm, hrest⟩ := h
    obtain ⟨hl, hspelled, hname⟩ := step_eq_ok_iff.1 hm
    refine ⟨m, step_eq_ok_iff.2 ⟨hdirs l hl, hspelled, fun hn => ⟨(hname hn).1, ?_⟩⟩, ih hrest⟩
    rcases directory_of_walk hrest with rfl | hdir
    · exact hend
    · rw [hdirs m hdir]
      rfl

/-! ### Looking -/

theorem lookup_eq_ok_iff {e : Entry} :
    w.lookup p = .ok (l, e) ↔ checkPath p = .ok () ∧
      p.segments.foldlM w.step (w.start p) = .ok l ∧ w.tree.get? l = some e := by
  unfold lookup
  rw [bind_eq_ok_iff]
  constructor
  · rintro ⟨⟨⟩, hcheck, h⟩
    obtain ⟨m, hwalk, h⟩ := bind_eq_ok_iff.1 h
    split at h
    · rename_i e' he
      cases pure_eq_ok_iff.1 h
      exact ⟨hcheck, hwalk, he⟩
    · cases h
  · rintro ⟨hcheck, hwalk, he⟩
    refine ⟨(), hcheck, bind_eq_ok_iff.2 ⟨l, hwalk, ?_⟩⟩
    rw [he]
    rfl

theorem look_eq_regular_iff {content : Bytes} :
    w.look p = .regular content ↔ ∃ l, w.lookup p = .ok (l, .file content) := by
  unfold look
  split <;> simp_all

/-- What is looked up lies where the path says. -/
theorem place_of_lookup {e : Entry} (h : w.lookup p = .ok (l, e)) : w.placeOf p = l :=
  (walk_eq_spelled (lookup_eq_ok_iff.1 h).2.1).symm

/-- What is still there is found as before. -/
theorem lookup_of_lookup {e e' : Entry} (h : w.lookup p = .ok (l, e)) (hcwd : w'.cwd = w.cwd)
    (hdirs : ∀ m, w.tree.get? m = some .directory → w'.tree.get? m = some .directory)
    (he' : w'.tree.get? l = some e') : w'.lookup p = .ok (l, e') := by
  obtain ⟨hcheck, hwalk, -⟩ := lookup_eq_ok_iff.1 h
  refine lookup_eq_ok_iff.2 ⟨hcheck, ?_, he'⟩
  rw [start, hcwd]
  exact walk_of_walk hwalk hdirs (by rw [he']; rfl)

/-! ### Where entries can be made -/

/-- What is left when empty segments are dropped from the front. -/
theorem append_of_dropWhile {segments before : List Bytes} {last : Bytes}
    (h : segments.dropWhile (· = []) = last :: before) :
    last ≠ [] ∧ ∃ silent, segments = silent ++ last :: before ∧ (∀ s ∈ silent, s = []) ∧
      (segments.head? ≠ some [] → silent = []) := by
  induction segments with
  | nil => cases h
  | cons segment segments ih =>
    by_cases hs : segment = []
    · rw [List.dropWhile_cons_of_pos (by simpa using hs)] at h
      obtain ⟨hlast, silent, hsegments, hsilent, -⟩ := ih h
      exact ⟨hlast, segment :: silent, by simp [hsegments], by simpa [hs] using hsilent,
        by simp [hs]⟩
    · rw [List.dropWhile_cons_of_neg (by simpa using hs)] at h
      cases h
      exact ⟨hs, [], by simp, by simp, by simp⟩

/-- A path whose last name can be given to an entry, perhaps with slashes behind it. -/
theorem target_eq_child {parent : Location} {name : Bytes} {slashed : Bool}
    (h : w.target p = .ok (.child parent name slashed)) :
    ∃ before silent, p.segments = before ++ name :: silent ∧ (∀ s ∈ silent, s = []) ∧
      (slashed = false → silent = []) ∧ checkPath p = .ok () ∧
      before.foldlM w.step (w.start p) = .ok parent ∧ w.tree.get? parent = some .directory ∧
      IsName name ∧ name.length ≤ longestName := by
  unfold target at h
  obtain ⟨⟨⟩, hcheck, h⟩ := bind_eq_ok_iff.1 h
  simp only at h
  split at h
  · cases pure_eq_ok_iff.1 h
  · rename_i last before hdrop
    obtain ⟨hlast, silent, hsegments, hsilent, hhead⟩ := append_of_dropWhile hdrop
    obtain ⟨l, hwalk, h⟩ := bind_eq_ok_iff.1 h
    split at h
    · exact (throw_ne_ok h).elim
    · rename_i e he
      split_ifs at h with hdir hdots hdot hlong
      · cases pure_eq_ok_iff.1 h
      · cases pure_eq_ok_iff.1 h
      · cases pure_eq_ok_iff.1 h
        rw [not_or] at hdots
        have he' : e = .directory := by
          cases e <;> simp [Entry.isDirectory] at hdir ⊢
        refine ⟨before.reverse, silent.reverse, ?_, by simpa using hsilent, ?_, hcheck, hwalk,
          he' ▸ he, ⟨hlast, hdots.1, hdots.2⟩, Nat.le_of_not_lt hlong⟩
        · rw [← List.reverse_reverse p.segments, hsegments]
          simp
        · intro hslashed
          rw [hhead (by simpa using hslashed), List.reverse_nil]

/-- An entry is made where the path says. -/
theorem place_of_target {parent : Location} {name : Bytes} {slashed : Bool}
    (h : w.target p = .ok (.child parent name slashed)) : w.placeOf p = name :: parent := by
  obtain ⟨before, silent, hsegments, hsilent, -, -, hwalk, -, hname, -⟩ := target_eq_child h
  rw [placeOf, hsegments, List.foldl_append, ← walk_eq_spelled hwalk, List.foldl_cons,
    spelledStep_of_isName hname, foldl_spelledStep_silent fun s hs => by rw [hsilent s hs]; rfl]

/-- What is made where a path says is found by the path, as long as the way is there. -/
theorem lookup_of_target {parent : Location} {name : Bytes} {e : Entry}
    (h : w.target p = .ok (.child parent name false)) (hcwd : w'.cwd = w.cwd)
    (hdirs : ∀ m, w.tree.get? m = some .directory → w'.tree.get? m = some .directory)
    (he : w'.tree.get? (name :: parent) = some e) : w'.lookup p = .ok (name :: parent, e) := by
  obtain ⟨before, silent, hsegments, -, hsilent, hcheck, hwalk, hparent, hname, hlong⟩ :=
    target_eq_child h
  have hway : before.foldlM w'.step (w'.start p) = .ok parent := by
    rw [start, hcwd]
    exact walk_of_walk hwalk hdirs (by rw [hdirs parent hparent]; rfl)
  have hlast : w'.step parent name = .ok (name :: parent) :=
    step_eq_ok_iff.2 ⟨hdirs parent hparent, (spelledStep_of_isName hname parent).symm,
      fun _ => ⟨hlong, by rw [he]; rfl⟩⟩
  refine lookup_eq_ok_iff.2 ⟨hcheck, ?_, he⟩
  rw [hsegments, hsilent rfl, List.foldlM_append, bind_eq_ok_iff]
  refine ⟨parent, hway, ?_⟩
  rw [List.foldlM_cons, bind_eq_ok_iff]
  exact ⟨_, hlast, rfl⟩

end World

end GoldenCheck

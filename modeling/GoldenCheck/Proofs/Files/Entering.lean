import GoldenCheck.Proofs.Cuts
import GoldenCheck.Proofs.Files.Parent
import GoldenCheck.Proofs.Path.Derivation

/-!
# Files seen from the directory they are in

A path leads to the file of its last name in the directory that its parent leads to, however either is written
(`exists_last_of_parent?`): absolute or not, up and down, with a `.` or with slashes that say nothing. So once
this directory is the current one, the last name alone leads to the same file
(`World.lookup_fileName`), and the name has no parent to enter (`parent?_name`).
-/

namespace GoldenCheck

open Path World

variable {p q : Path} {f : Bytes} {w : World} {l k : Location}

/-! ### Parents and last names -/

/-- A path and what it begins with are both absolute, or neither is. -/
theorem isAbsolute_of_segments_eq_append {rest : List Bytes} (hq : q.isEmpty = false) (hrest : rest ≠ [])
    (h : p.segments = q.segments ++ rest) : p.isAbsolute = q.isAbsolute := by
  obtain ⟨s, rest, rfl⟩ := List.exists_cons_of_ne_nil hrest
  rw [Bool.eq_iff_iff, isAbsolute_iff, isAbsolute_iff, h]
  cases hsegments : q.segments with
  | nil => exact absurd hsegments (List.splitOn_ne_nil _ _)
  | cons a as =>
    cases as with
    | cons b bs => simp
    | nil =>
      -- Were the only segment empty, the path would be so too.
      have ha : a ≠ [] := by
        rintro rfl
        have hbytes : [slash].intercalate q.segments = q.bytes := List.intercalate_splitOn slash
        rw [hsegments] at hbytes
        rw [isEmpty, ← hbytes] at hq
        cases hq
      simp [ha]

/-- **The last name of a path is in the directory of its parent**, as both are written. -/
theorem exists_last_of_parent? (h : p.parent? = some q) (hq : q.isEmpty = false) :
    ∃ before name silent, p.segments = before ++ name :: silent ∧ before ≠ [] ∧
      (component? name).isSome = true ∧ (∀ s ∈ silent, component? s = none) ∧
      ∀ w : World, before.foldl spelledStep (w.start p) = w.placeOf q := by
  rcases parent?_cases h with rfl | ⟨rfl, habs, outer, name, silent, hsegments, hsilent, hname⟩ |
    ⟨inner, name, silent, hsegments, hsilent, hname⟩
  · cases hq
  · rw [List.forall_mem_append] at hsilent
    refine ⟨outer, name, silent, hsegments, ?_, hname, hsilent.2, fun w => ?_⟩
    · rintro rfl
      obtain ⟨s, t, hst⟩ := (isAbsolute_iff p).1 habs
      rw [List.nil_append, hst] at hsegments
      cases hsegments
      cases hname
    · rw [foldl_spelledStep_silent hsilent.1, start, if_pos habs]
      rfl
  · rw [List.forall_mem_append] at hsilent
    refine ⟨q.segments ++ inner, name, silent, hsegments, ?_, hname, hsilent.2, fun w => ?_⟩
    · simp [segments, List.splitOn_ne_nil]
    · have habs : p.isAbsolute = q.isAbsolute :=
        isAbsolute_of_segments_eq_append hq (by simp) (hsegments.trans (List.append_assoc ..))
      rw [List.foldl_append, foldl_spelledStep_silent hsilent.1, start, habs, placeOf, start]

/-- The last component is that of the last segment that says anything. -/
theorem getLast?_components {before silent : List Bytes} {name : Bytes}
    (h : p.segments = before ++ name :: silent) (hbefore : before ≠ [])
    (hname : (component? name).isSome = true) (hsilent : ∀ s ∈ silent, component? s = none) :
    p.components.getLast? = component? name := by
  obtain ⟨c, hc⟩ := Option.isSome_iff_exists.1 hname
  have hread : ∀ front : List Bytes, (front ++ name :: silent).filterMap component? =
      front.filterMap component? ++ [c] := by
    intro front
    rw [List.filterMap_append, List.filterMap_cons_some hc, List.filterMap_eq_nil_iff.2 hsilent]
  unfold components
  split_ifs with habs
  · rw [h, hread, ← List.cons_append, List.getLast?_concat, hc]
  · obtain ⟨first, before, rfl⟩ := List.exists_cons_of_ne_nil hbefore
    rw [h, List.cons_append]
    simp only
    rw [hread, ← List.append_assoc, List.getLast?_concat, hc]

/-- The last name of a path. -/
theorem eq_of_fileName? {before silent : List Bytes} {name : Bytes}
    (h : p.segments = before ++ name :: silent) (hbefore : before ≠ [])
    (hname : (component? name).isSome = true) (hsilent : ∀ s ∈ silent, component? s = none)
    (hfile : p.fileName? = some f) : name = f := by
  unfold fileName? at hfile
  rw [getLast?_components h hbefore hname hsilent] at hfile
  unfold component? at hfile
  split_ifs at hfile with hnone hup
  · cases hfile
    rfl

/-! ### Names alone -/

/-- What a path ends with is a name without a slash. -/
theorem isName_of_fileName? (hfile : p.fileName? = some f) : IsName f ∧ slash ∉ f := by
  obtain ⟨hne, hdot, hup, hslash⟩ := isStep_of_fileName? hfile
  exact ⟨⟨hne, hdot, hup⟩, hslash⟩

/-- A name alone is one segment. -/
theorem segments_name (hslash : slash ∉ f) : (⟨f⟩ : Path).segments = [f] := List.splitOn_eq_singleton hslash

/-- A name alone has no parent that could be entered. -/
theorem parent?_name (h : IsName f) (hslash : slash ∉ f) : (⟨f⟩ : Path).parent? = some ⟨[]⟩ := by
  have hsome : (component? f).isSome = true := by simp [component?, h.1, h.2.1, h.2.2]
  have hsignificant : (⟨f⟩ : Path).significant = [f] := by
    rw [significant, segments_name hslash, List.reverse_singleton, dropSilent, hsome]
    rfl
  rw [parent?, hsignificant]
  rfl

/-- A name alone is seen from the current directory. -/
theorem World.start_name (hslash : slash ∉ f) (w : World) : w.start ⟨f⟩ = w.cwd := by
  have habs : (⟨f⟩ : Path).isAbsolute = false := by
    rw [Bool.eq_false_iff, ne_eq, isAbsolute_iff, segments_name hslash]
    simp
  rw [start, if_neg (by simp [habs])]

/-- A name in a path that the system looks at is one that it looks at. -/
theorem checkPath_name (hcheck : checkPath p = .ok ()) (hf : f ∈ p.segments) (hne : f ≠ [])
    (hlong : f.length ≤ longestName) : checkPath ⟨f⟩ = .ok () := by
  have hnul : 0 ∉ f := by
    unfold checkPath at hcheck
    split_ifs at hcheck with h
    exact fun hmem => h (by simpa using mem_of_mem_splitOn hf hmem)
  have hshort : ¬ longestPath < f.length := by
    unfold longestName at hlong
    unfold longestPath
    omega
  unfold checkPath
  simp [hnul, isEmpty, hne, hshort]

/-! ### The directory -/

/-- A path that begins another one is written at the front of it. -/
theorem bytes_prefix_of_segments_eq_append {rest : List Bytes} (h : p.segments = q.segments ++ rest) :
    q.bytes <+: p.bytes := by
  have hbegins : ∀ front : List Bytes,
      [slash].intercalate front <+: [slash].intercalate (front ++ rest) := by
    intro front
    induction front with
    | nil => exact List.nil_prefix
    | cons s front ih =>
      by_cases hmore : front ++ rest = []
      · obtain ⟨rfl, rfl⟩ := List.append_eq_nil_iff.1 hmore
        exact List.prefix_refl _
      · rw [List.cons_append, List.intercalate_cons_of_ne_nil hmore]
        cases front with
        | nil => simp
        | cons t front =>
          rw [List.intercalate_cons_of_ne_nil (List.cons_ne_nil t front)]
          exact (List.prefix_append_right_inj _).2 ih
  have hwritten : ∀ r : Path, [slash].intercalate r.segments = r.bytes :=
    fun r => List.intercalate_splitOn slash
  rw [← hwritten q, ← hwritten p, h]
  exact hbegins q.segments

/-- What begins a path that the system looks at is one that it looks at. -/
theorem checkPath_of_begins (hcheck : checkPath p = .ok ()) (hbegins : q.bytes <+: p.bytes)
    (hq : q.isEmpty = false) : checkPath q = .ok () := by
  have hlength := hbegins.length_le
  unfold checkPath at hcheck ⊢
  split_ifs at hcheck with hnul hempty hlong
  have hnul' : ¬ q.bytes.contains 0 = true := by
    simp only [List.contains_iff_mem] at hnul ⊢
    exact fun hmem => hnul (hbegins.subset hmem)
  rw [if_neg hnul', if_neg (by simp [hq]), if_neg (by omega)]

/-- **The parent of a path that leads somewhere leads to a directory.** -/
theorem World.exists_lookup_parent {e : Entry} (hparent : p.parent? = some q) (hq : q.isEmpty = false)
    (h : w.lookup p = .ok (k, e)) : ∃ l, w.lookup q = .ok (l, .directory) := by
  obtain ⟨hcheck, hwalk, -⟩ := lookup_eq_ok_iff.1 h
  rcases parent?_cases hparent with rfl | ⟨rfl, -⟩ | ⟨inner, name, silent, hsegments, -⟩
  · cases hq
  · exact ⟨[], rfl⟩
  · rw [List.append_assoc] at hsegments
    rw [hsegments, List.foldlM_append, bind_eq_ok_iff] at hwalk
    obtain ⟨l, hwalk, hrest⟩ := hwalk
    have hmore : inner ++ name :: silent ≠ [] := by simp
    have hdir : w.tree.get? l = some .directory := by
      obtain ⟨s, rest, hs⟩ := List.exists_cons_of_ne_nil hmore
      rw [hs, List.foldlM_cons, bind_eq_ok_iff] at hrest
      obtain ⟨m, hstep, -⟩ := hrest
      exact (step_eq_ok_iff.1 hstep).1
    have hstart : w.start p = w.start q := by
      rw [start, start, isAbsolute_of_segments_eq_append hq hmore hsegments]
    refine ⟨l, lookup_eq_ok_iff.2 ⟨?_, hstart ▸ hwalk, hdir⟩⟩
    exact checkPath_of_begins hcheck (bytes_prefix_of_segments_eq_append hsegments) hq

/-- On the way to a directory lie directories. -/
theorem World.get?_placeOf_of_onTheWay (hq : p.OnTheWay q) (hnamed : q.IsNamed)
    (h : w.lookup p = .ok (k, .directory)) : w.tree.get? (w.placeOf q) = some .directory := by
  induction hq using Relation.ReflTransGen.head_induction_on generalizing k with
  | refl => rw [World.place_of_lookup h, (World.lookup_eq_ok_iff.1 h).2.2]
  | @head p parent hparent hrest ih =>
    -- The way has a name to it, so it does not end here.
    have hempty : parent.isEmpty = false := by
      refine Bool.eq_false_iff.2 fun hnil => ?_
      obtain ⟨bytes⟩ := parent
      obtain rfl : bytes = [] := by simpa [Path.isEmpty] using hnil
      rcases hrest.cases_head with rfl | ⟨b, hb, -⟩
      · have hnothing : (⟨[]⟩ : Path).segments = [[]] := by decide
        obtain ⟨s, hs, hname⟩ := hnamed.exists_isName
        exact hname.1 (by simpa [hnothing] using hs)
      · cases hb
    obtain ⟨l, hl⟩ := World.exists_lookup_parent hparent hempty h
    exact ih hl

/-! ### Looking from the directory -/

/-- **The last name alone leads to the same file** once the directory of the path is the current one. -/
theorem World.lookup_fileName {e : Entry} (hparent : p.parent? = some q) (hq : q.isEmpty = false)
    (hfile : p.fileName? = some f) (hdir : w.lookup q = .ok (l, .directory)) (h : w.lookup p = .ok (k, e)) :
    ({ w with cwd := l } : World).lookup ⟨f⟩ = .ok (k, e) := by
  obtain ⟨before, name, silent, hsegments, hbefore, hname, hsilent, hplace⟩ := exists_last_of_parent? hparent hq
  obtain rfl := eq_of_fileName? hsegments hbefore hname hsilent hfile
  obtain ⟨hisName, hslash⟩ := isName_of_fileName? hfile
  have hmem : name ∈ p.segments := by simp [hsegments]
  obtain ⟨hcheck, hwalk, he⟩ := lookup_eq_ok_iff.1 h
  -- The walk passes the directory, takes the name, and stays where the name leads.
  rw [hsegments, List.foldlM_append, bind_eq_ok_iff] at hwalk
  obtain ⟨m, hbeforeWalk, hwalk⟩ := hwalk
  obtain rfl : m = l := by rw [walk_eq_spelled hbeforeWalk, hplace w, place_of_lookup hdir]
  rw [List.foldlM_cons, bind_eq_ok_iff] at hwalk
  obtain ⟨n, hstep, hsilentWalk⟩ := hwalk
  obtain rfl : k = n := by rw [walk_eq_spelled hsilentWalk, foldl_spelledStep_silent hsilent]
  refine lookup_eq_ok_iff.2 ⟨?_, ?_, he⟩
  · exact checkPath_name hcheck hmem hisName.1 ((step_eq_ok_iff.1 hstep).2.2 hisName).1
  · rw [segments_name hslash, start_name hslash, List.foldlM_cons, bind_eq_ok_iff]
    exact ⟨k, hstep, rfl⟩

/-- What can be read is there. -/
theorem World.exists_lookup_of_read {bytes : Bytes} (h : w.read p = .ok bytes) :
    ∃ k e, w.lookup p = .ok (k, e) := by
  unfold read look at h
  cases hlookup : w.lookup p with
  | error cause =>
    rw [hlookup] at h
    cases h
  | ok found => exact ⟨found.1, found.2, rfl⟩

/-- What is read of a file by its path is read of it by its name, from its directory. -/
theorem World.read_fileName {bytes : Bytes} (hparent : p.parent? = some q) (hq : q.isEmpty = false)
    (hfile : p.fileName? = some f) (hdir : w.lookup q = .ok (l, .directory)) (h : w.read p = .ok bytes) :
    ({ w with cwd := l } : World).read ⟨f⟩ = .ok bytes := by
  obtain ⟨k, e, hlookup⟩ := exists_lookup_of_read h
  unfold read look at h ⊢
  rw [lookup_fileName hparent hq hfile hdir hlookup]
  rwa [hlookup] at h

end GoldenCheck

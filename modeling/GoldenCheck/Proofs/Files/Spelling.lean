import GoldenCheck.Proofs.Files.Walk
import GoldenCheck.Proofs.Path.RootNames

/-!
# Spellings of a place

A walk passes the segments of a path, and a normal form is made of its components. Both read `..` alike:
it takes back the name before it, and it does nothing at the top. So a path and its normal form spell
the same location (`World.placeOf_eq_foldl_steps`), and an absolute path spells the names that are left
of it (`World.placeOf_of_isAbsolute`).
-/

namespace GoldenCheck

open Path

namespace World

variable {w : World} {p : Path} {l : Location}

/-- A segment leads where its component leads. -/
theorem spelledStep_of_component? {s : Bytes} {c : Component} (h : component? s = some c)
    (l : Location) : spelledStep l s = pushName l c := by
  unfold component? at h
  split_ifs at h with hsilent hup
  · cases h
    simp [spelledStep, hup, pushName]
  · cases h
    simp [spelledStep, hsilent, hup, pushName]

theorem foldl_spelledStep (segments : List Bytes) (l : Location) :
    segments.foldl spelledStep l = (segments.filterMap component?).foldl pushName l := by
  induction segments generalizing l with
  | nil => rfl
  | cons s segments ih =>
    cases hs : component? s with
    | none => rw [List.foldl_cons, spelledStep_of_silent hs, ih, List.filterMap_cons_none hs]
    | some c =>
      rw [List.foldl_cons, spelledStep_of_component? hs, ih, List.filterMap_cons_some hs,
        List.foldl_cons]

/-- **A path spells what its components spell.** -/
theorem placeOf_eq_foldl_components (w : World) (p : Path) :
    w.placeOf p = p.components.foldl pushName (w.start p) := by
  rw [placeOf, foldl_spelledStep]
  cases h : p.isAbsolute with
  | true => rw [components_of_isAbsolute h, List.foldl_cons, pushName]
  | false =>
    rw [components, if_neg (by simp [h])]
    cases p.segments with
    | nil => rfl
    | cons first rest =>
      by_cases hdot : first = [dot]
      · simp [hdot, component?, pushName]
      · cases hfirst : component? first <;> simp [hdot, hfirst]

/-! ### Normal forms -/

/-- What is put on the stack of a normal form leads where the component leads. -/
theorem foldl_pushName_pushPart (parts : List Component) (c : Component) (l : Location) :
    (pushPart parts c).reverse.foldl pushName l = pushName (parts.reverse.foldl pushName l) c := by
  cases c with
  | here => rfl
  | root | name => simp [pushPart]
  | up =>
    cases parts with
    | nil => rfl
    | cons d parts =>
      cases d with
      | name n => simp [pushPart, pushName]
      | root | here | up => simp [pushPart]

theorem foldl_pushName_foldl_pushPart (parts cs : List Component) (l : Location) :
    (cs.foldl pushPart parts).reverse.foldl pushName l =
      cs.foldl pushName (parts.reverse.foldl pushName l) := by
  induction cs generalizing parts with
  | nil => rfl
  | cons c cs ih => rw [List.foldl_cons, List.foldl_cons, ih, foldl_pushName_pushPart]

/-- **A path and its normal form spell the same location.** -/
theorem placeOf_eq_foldl_steps (w : World) (p : Path) :
    w.placeOf p = p.steps.foldl pushName (w.start p) := by
  rw [steps_eq, normalParts, foldl_pushName_foldl_pushPart]
  exact placeOf_eq_foldl_components w p

/-- **An absolute path spells the names that are left of it**, whatever the current directory is. -/
theorem placeOf_of_isAbsolute (h : p.isAbsolute = true) (w : World) : w.placeOf p = p.rootNames := by
  rw [placeOf_eq_foldl_components, start, if_pos h, rootNames]

/-- What an absolute path leads to lies where the names that are left of it say. -/
theorem eq_rootNames_of_lookup (h : p.isAbsolute = true) {e : Entry}
    (hl : w.lookup p = .ok (l, e)) : l = p.rootNames :=
  (place_of_lookup hl).symm.trans (placeOf_of_isAbsolute h w)

end World

end GoldenCheck

import GoldenCheck.LineDiff
import Mathlib.Data.Finset.Sort

/-!
# The positions at which two texts differ

A position is one of `differingPositions` when the two texts have different lines there, where a text has no
line past its end. The changes that are listed between two texts are those at these positions, in order
(`lineDifferences_eq`). So the first difference is at the least of them, and counts them all
(`firstDifference_of_nonempty`). Without any of them the texts have the same lines, and what differs is only
seen after the last line (`firstDifference_of_empty`).
-/

namespace GoldenCheck

/-- The positions, from 0, at which two texts have different lines. -/
def differingPositions (expected actual : String) : Finset ℕ :=
  {i ∈ Finset.range (max (linesOf expected).length (linesOf actual).length) |
    (linesOf expected)[i]? ≠ (linesOf actual)[i]?}

/-- What two lists of lines have at a position. -/
def changeAt (reference report : List String) (i : ℕ) : LineChange := ⟨i + 1, reference[i]?, report[i]?⟩

/-- The two sides of a change change places. -/
def LineChange.swapped (c : LineChange) : LineChange := ⟨c.line, c.actual, c.expected⟩

/-- The two sides of a difference change places. -/
def LineDifference.swapped (d : LineDifference) : LineDifference :=
  ⟨d.line, d.actual, d.expected, d.differingLines⟩

variable {expected actual : String} {i : ℕ}

/-- Past the end of both texts no position differs. -/
theorem mem_differingPositions : i ∈ differingPositions expected actual ↔
    (linesOf expected)[i]? ≠ (linesOf actual)[i]? := by
  rw [differingPositions, Finset.mem_filter, Finset.mem_range, and_iff_right_iff_imp]
  intro hne
  by_contra hpast
  rw [not_lt, max_le_iff] at hpast
  exact hne (by rw [List.getElem?_eq_none hpast.1, List.getElem?_eq_none hpast.2])

theorem differingPositions_comm (expected actual : String) :
    differingPositions actual expected = differingPositions expected actual := by
  ext i
  rw [mem_differingPositions, mem_differingPositions, ne_comm]

theorem differingPositions_eq_empty_iff :
    differingPositions expected actual = ∅ ↔ linesOf expected = linesOf actual := by
  rw [Finset.eq_empty_iff_forall_notMem]
  simp only [mem_differingPositions, ne_eq, not_not]
  exact ⟨List.ext_getElem?, fun h i => by rw [h]⟩

/-- A position that differs is not past the end of both. -/
theorem ne_none_of_mem (h : i ∈ differingPositions expected actual) :
    (linesOf expected)[i]? ≠ none ∨ (linesOf actual)[i]? ≠ none := by
  by_contra hnone
  rw [not_or, not_not, not_not] at hnone
  exact mem_differingPositions.1 h (hnone.1.trans hnone.2.symm)

/-! ### The list of changes -/

/-- Two lists of lines side by side, position by position. -/
theorem sideBySide_eq (reference report : List String) : sideBySide reference report =
    (List.range (max reference.length report.length)).map (changeAt reference report) := by
  refine List.ext_getElem? fun i => ?_
  rw [sideBySide, List.getElem?_map, List.getElem?_zipIdx, List.getElem?_zipWithAll, List.getElem?_map]
  by_cases hi : i < max reference.length report.length
  · rw [List.getElem?_range hi]
    cases hreference : reference[i]? with
    | some line => cases hreport : report[i]? <;> simp [changeAt, hreference, hreport, add_comm]
    | none =>
      have hi : i < report.length :=
        (lt_max_iff.1 hi).resolve_left (List.getElem?_eq_none_iff.1 hreference).not_gt
      simp [changeAt, hreference, hi, add_comm]
  · rw [not_lt, max_le_iff] at hi
    rw [List.getElem?_eq_none hi.1, List.getElem?_eq_none hi.2, List.getElem?_eq_none (by simpa using hi)]
    rfl

theorem sort_differingPositions (expected actual : String) : (differingPositions expected actual).sort =
    (List.range (max (linesOf expected).length (linesOf actual).length)).filter
      fun i => (linesOf expected)[i]? ≠ (linesOf actual)[i]? := by
  have hnodup := (List.nodup_range (n := max (linesOf expected).length (linesOf actual).length)).filter
    fun i => (linesOf expected)[i]? ≠ (linesOf actual)[i]?
  have hsorted := List.pairwise_le_range (n := max (linesOf expected).length (linesOf actual).length)
  refine Eq.trans ?_ ((List.toFinset_sort (· ≤ ·) hnodup).2 (hsorted.filter _))
  congr 1
  ext i
  simp [differingPositions]

/-- **The changes between two texts** are those at the positions that differ, in order. -/
theorem lineDifferences_eq (expected actual : String) : lineDifferences expected actual =
    (differingPositions expected actual).sort.map (changeAt (linesOf expected) (linesOf actual)) := by
  rw [lineDifferences, sideBySide_eq, List.filter_map, sort_differingPositions]
  rfl

theorem length_lineDifferences (expected actual : String) :
    (lineDifferences expected actual).length = (differingPositions expected actual).card := by
  rw [lineDifferences_eq, List.length_map, Finset.length_sort]

/-! ### The first difference -/

/-- The positions that differ, the least one first. -/
theorem exists_sort_eq_cons (h : (differingPositions expected actual).Nonempty) :
    ∃ rest, (differingPositions expected actual).sort =
      (differingPositions expected actual).min' h :: rest := by
  have hlength : 0 < (differingPositions expected actual).sort.length := by
    rw [Finset.length_sort]
    exact h.card_pos
  rw [Finset.min'_eq_sorted_zero]
  exact ⟨_, (List.cons_getElem_drop_succ (h := hlength)).symm⟩

/-- A difference is told exactly between texts that differ. -/
theorem firstDifference_eq_none_iff : firstDifference expected actual = none ↔ expected = actual := by
  unfold firstDifference
  split_ifs with h
  · simp [h]
  · cases lineDifferences expected actual <;> simp [h]

/-- **The first difference** is at the least position that differs, and counts all of them. -/
theorem firstDifference_of_nonempty (h : (differingPositions expected actual).Nonempty) :
    firstDifference expected actual = some ⟨(differingPositions expected actual).min' h + 1,
      (linesOf expected)[(differingPositions expected actual).min' h]?,
      (linesOf actual)[(differingPositions expected actual).min' h]?,
      (differingPositions expected actual).card⟩ := by
  have hne : expected ≠ actual := by
    rintro rfl
    obtain ⟨i, hi⟩ := h
    exact mem_differingPositions.1 hi rfl
  obtain ⟨rest, hrest⟩ := exists_sort_eq_cons h
  have hcount : (differingPositions expected actual).card = rest.length + 1 := by
    rw [← Finset.length_sort (· ≤ ·), hrest, List.length_cons]
  rw [firstDifference, if_neg hne, lineDifferences_eq, hrest, hcount]
  simp [changeAt]

/-- Texts that have the same lines and are not equal differ after the last line. -/
theorem firstDifference_of_empty (h : differingPositions expected actual = ∅) (hne : expected ≠ actual) :
    firstDifference expected actual = some ⟨(linesOf expected).length + 1, none, none, 1⟩ := by
  rw [firstDifference, if_neg hne, lineDifferences_eq, h, ← differingPositions_eq_empty_iff.1 h,
    Finset.sort_empty, max_self]
  rfl

/-- Between swapped texts the sides are exchanged, and all else is kept. -/
theorem firstDifference_comm (expected actual : String) :
    firstDifference actual expected = (firstDifference expected actual).map LineDifference.swapped := by
  by_cases heq : expected = actual
  · rw [firstDifference_eq_none_iff.2 heq, firstDifference_eq_none_iff.2 heq.symm, Option.map_none]
  by_cases h : differingPositions expected actual = ∅
  · have h' := (differingPositions_comm expected actual).trans h
    rw [firstDifference_of_empty h heq, firstDifference_of_empty h' (Ne.symm heq),
      differingPositions_eq_empty_iff.1 h]
    rfl
  · have h := Finset.nonempty_iff_ne_empty.2 h
    have h' : (differingPositions actual expected).Nonempty := by rwa [differingPositions_comm]
    rw [firstDifference_of_nonempty h, firstDifference_of_nonempty h']
    simp only [differingPositions_comm expected actual, Option.map_some, LineDifference.swapped]

end GoldenCheck

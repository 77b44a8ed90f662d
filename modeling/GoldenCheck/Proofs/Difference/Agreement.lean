import GoldenCheck.Proofs.Difference.Rows

/-!
# The summary and the rendering of a difference

A difference is told twice: in one sentence, by where it begins and how many lines differ, and in rows, by
the lines themselves. Both are about the positions that differ (`TellsDifference`), whatever the texts and
however few changes may be shown (`summary_and_rendering_agree`).
-/

namespace GoldenCheck

/-- What a summary and a rendering tell of the positions at which two texts differ. -/
structure TellsDifference (expected actual : String) (limit : ℕ) (summary : Option LineDifference)
    (rendering : String) : Prop where
  /-- There is a summary exactly of texts that differ. -/
  summary_eq_none_iff : summary = none ↔ expected = actual
  /-- The summary is of the least position, and counts all of them. -/
  summary_of_nonempty : ∀ h : (differingPositions expected actual).Nonempty,
    summary = some ⟨(differingPositions expected actual).min' h + 1,
      (linesOf expected)[(differingPositions expected actual).min' h]?,
      (linesOf actual)[(differingPositions expected actual).min' h]?,
      (differingPositions expected actual).card⟩
  /-- One of the texts has a line there. -/
  line_of_nonempty : ∀ d, summary = some d → (differingPositions expected actual).Nonempty →
    d.expected ≠ none ∨ d.actual ≠ none
  /-- Without positions that differ, the summary is of what comes after the last line. -/
  summary_of_empty : differingPositions expected actual = ∅ → expected ≠ actual →
    linesOf expected = linesOf actual ∧ summary = some ⟨(linesOf expected).length + 1, none, none, 1⟩
  /-- As many changes are shown as there are, or as may be. -/
  changes_length : (shownChanges expected actual limit).length =
    min limit (differingPositions expected actual).card
  /-- Their rows are rendered, and then how many changes are not shown, if there are any. -/
  rendering_eq : rendering = String.join ((shownRows expected actual limit).map DiffRow.text) ++
    omissionNote ((differingPositions expected actual).card - limit)
  /-- So the rows can be read in the rendering. -/
  rows_eq : DiffRow.readAll rendering = shownRows expected actual limit
  /-- Only nothing is rendered as nothing. -/
  rendering_eq_empty_iff : rendering = "" ↔ differingPositions expected actual = ∅
  /-- The first number that is rendered is that of the summary. -/
  first_row : 0 < limit → (differingPositions expected actual).Nonempty →
    ∃ row, (DiffRow.readAll rendering).head? = some row ∧ summary.map LineDifference.line = some row.line

theorem tellsDifference (expected actual : String) (limit : ℕ) : TellsDifference expected actual limit
    (firstDifference expected actual) (renderDiff expected actual limit) where
  summary_eq_none_iff := firstDifference_eq_none_iff
  summary_of_nonempty := firstDifference_of_nonempty
  line_of_nonempty d hd h := by
    rw [firstDifference_of_nonempty h, Option.some.injEq] at hd
    subst hd
    exact ne_none_of_mem (Finset.min'_mem _ h)
  summary_of_empty h hne := ⟨differingPositions_eq_empty_iff.1 h, firstDifference_of_empty h hne⟩
  changes_length := length_shownChanges expected actual limit
  rendering_eq := renderDiff_eq expected actual limit
  rows_eq := DiffRow.readAll_renderDiff expected actual limit
  rendering_eq_empty_iff := renderDiff_eq_empty_iff
  first_row hlimit h := by
    obtain ⟨row, hrow, hline⟩ := exists_head?_shownRows h hlimit
    refine ⟨row, by rw [DiffRow.readAll_renderDiff, hrow], ?_⟩
    rw [firstDifference_of_nonempty h, hline, Option.map_some]

/-- **The summary and the rendering of a difference agree**, and both are kept between swapped texts, with
their sides exchanged. -/
theorem summary_and_rendering_agree (expected actual : String) (limit : ℕ) :
    TellsDifference expected actual limit (firstDifference expected actual)
        (renderDiff expected actual limit) ∧
      firstDifference actual expected = (firstDifference expected actual).map LineDifference.swapped ∧
      differingPositions actual expected = differingPositions expected actual ∧
      shownChanges actual expected limit =
        (shownChanges expected actual limit).map LineChange.swapped :=
  ⟨tellsDifference expected actual limit, firstDifference_comm expected actual,
    differingPositions_comm expected actual, shownChanges_comm expected actual limit⟩

/-- A changed line and one line more, of which one change is shown; and a last line feed that is missing. -/
theorem told_of_changes_and_of_endings :
    (0 < 1 ∧ (differingPositions "a\nb\n" "a\nc\nd\n").Nonempty ∧
      (∃ row, (DiffRow.readAll (renderDiff "a\nb\n" "a\nc\nd\n" 1)).head? = some row ∧
        (firstDifference "a\nb\n" "a\nc\nd\n").map LineDifference.line = some row.line)) ∧
      differingPositions "a\n" "a" = ∅ ∧ "a\n" ≠ "a" ∧
        firstDifference "a\n" "a" = some ⟨2, none, none, 1⟩ := by
  have hmany : (differingPositions "a\nb\n" "a\nc\nd\n").Nonempty := by decide +kernel
  have hnone : differingPositions "a\n" "a" = ∅ := by decide +kernel
  exact ⟨⟨Nat.one_pos, hmany, (summary_and_rendering_agree _ _ 1).1.first_row Nat.one_pos hmany⟩, hnone,
    by decide, ((summary_and_rendering_agree "a\n" "a" 1).1.summary_of_empty hnone (by decide)).2⟩

end GoldenCheck

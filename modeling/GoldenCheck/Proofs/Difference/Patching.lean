import GoldenCheck.Proofs.Difference.Rows
import Mathlib.Data.List.MinMax

/-!
# A report patched together from a rendered difference

A rendered difference that shows every change tells the report, given the reference: where a row shows a
line of the report the report has that line, where only a row of the reference stands it has none, and
everywhere else it has the line of the reference (`patchedLine`). So the lines of the report are put together
from those of the reference and the rows (`patchedLines`), and renderings are equal exactly when the reports
have the same lines (`untruncated_rendering_tells_report`).
-/

namespace GoldenCheck

/-- The line that the report has at a position, by the reference and the rows of a difference. -/
def patchedLine (reference : List String) (rows : List DiffRow) (i : ℕ) : Option String :=
  match rows.find? fun r => r.line = i + 1 ∧ r.side = .report with
  | some r => some r.body
  | none => if ∃ r ∈ rows, r.line = i + 1 then none else reference[i]?

/-- How far the reference or a row reaches. -/
def reach (reference : List String) (rows : List DiffRow) : ℕ :=
  (reference.length :: rows.map DiffRow.line).foldr max 0

/-- The lines of the report, by the reference and the rows of a difference. -/
def patchedLines (reference : List String) (rows : List DiffRow) : List String :=
  (List.range (reach reference rows)).filterMap (patchedLine reference rows)

variable {expected actual first second : String} {limit : ℕ}

/-- A row is shown for each line that a text has at a position that differs, when all changes are shown. -/
theorem mem_shownRows_of_card_le (h : (differingPositions expected actual).card ≤ limit) {r : DiffRow} :
    r ∈ shownRows expected actual limit ↔ ∃ i ∈ differingPositions expected actual, r.line = i + 1 ∧
      (changeAt (linesOf expected) (linesOf actual) i).lineOf r.side = some r.body := by
  rw [mem_shownRows, take_sort_of_card_le h]
  simp only [Finset.mem_sort]

/-- **Each position is patched** to the line of the report. -/
theorem patchedLine_shownRows (h : (differingPositions expected actual).card ≤ limit) (i : ℕ) :
    patchedLine (linesOf expected) (shownRows expected actual limit) i = (linesOf actual)[i]? := by
  unfold patchedLine
  split
  case h_1 r hr =>
    -- A row of the report.
    have hr' := List.find?_some hr
    rw [decide_eq_true_eq] at hr'
    obtain ⟨hline, hside⟩ := hr'
    obtain ⟨j, -, hj, hbody⟩ := (mem_shownRows_of_card_le h).1 (List.mem_of_find?_eq_some hr)
    obtain rfl : j = i := by omega
    rw [hside] at hbody
    exact hbody.symm
  case h_2 hnone =>
    split_ifs with hrow
    · -- Only a row of the reference.
      obtain ⟨r, hr, hline⟩ := hrow
      obtain ⟨j, hj, hj', -⟩ := (mem_shownRows_of_card_le h).1 hr
      obtain rfl : j = i := by omega
      cases hactual : (linesOf actual)[j]? with
      | none => rfl
      | some line =>
        have hmem : ⟨.report, j + 1, line⟩ ∈ shownRows expected actual limit :=
          (mem_shownRows_of_card_le h).2 ⟨j, hj, rfl, hactual⟩
        simpa using List.find?_eq_none.1 hnone _ hmem
    · -- No row, so the position does not differ.
      by_contra hne
      rcases ne_none_of_mem (mem_differingPositions.2 hne) with hline | hline <;>
        obtain ⟨line, hline⟩ := Option.ne_none_iff_exists'.1 hline
      · exact hrow ⟨⟨.reference, i + 1, line⟩,
          (mem_shownRows_of_card_le h).2 ⟨i, mem_differingPositions.2 hne, rfl, hline⟩, rfl⟩
      · exact hrow ⟨⟨.report, i + 1, line⟩,
          (mem_shownRows_of_card_le h).2 ⟨i, mem_differingPositions.2 hne, rfl, hline⟩, rfl⟩

/-- A list is read off position by position, up to its end and past it. -/
theorem filterMap_getElem?_range {α : Type} {xs : List α} {n : ℕ} (h : xs.length ≤ n) :
    (List.range n).filterMap (xs[·]?) = xs := by
  induction xs generalizing n with
  | nil => simp
  | cons x xs ih =>
    obtain ⟨n, rfl⟩ := Nat.exists_eq_add_of_lt (Nat.zero_lt_of_lt h)
    rw [List.length_cons, Nat.add_le_add_iff_right] at h
    rw [List.range_succ_eq_map, List.filterMap_cons_some (List.getElem?_cons_zero), List.filterMap_map]
    exact congrArg (x :: ·) (ih h)

theorem length_le_reach (reference : List String) (rows : List DiffRow) :
    reference.length ≤ reach reference rows := List.le_max_of_le List.mem_cons_self le_rfl

theorem line_le_reach {r : DiffRow} {rows : List DiffRow} (h : r ∈ rows) (reference : List String) :
    r.line ≤ reach reference rows :=
  List.le_max_of_le (List.mem_cons_of_mem _ (List.mem_map_of_mem h)) le_rfl

/-- The report does not reach further: a line of it there would be past the reference, and have a row. -/
theorem length_le_reach_shownRows (h : (differingPositions expected actual).card ≤ limit) :
    (linesOf actual).length ≤ reach (linesOf expected) (shownRows expected actual limit) := by
  generalize hpast : reach (linesOf expected) (shownRows expected actual limit) = past
  by_contra hlt
  rw [not_le] at hlt
  have hreference : (linesOf expected)[past]? = none :=
    List.getElem?_eq_none (hpast ▸ length_le_reach _ _)
  have hmem : past ∈ differingPositions expected actual := by
    rw [mem_differingPositions, hreference, List.getElem?_eq_getElem hlt]
    simp
  have hrow : ⟨.report, past + 1, (linesOf actual)[past]⟩ ∈ shownRows expected actual limit :=
    (mem_shownRows_of_card_le h).2 ⟨past, hmem, rfl, List.getElem?_eq_getElem hlt⟩
  have hreach := line_le_reach hrow (linesOf expected)
  rw [hpast] at hreach
  exact Nat.not_succ_le_self past hreach

/-- **The report is patched together.** -/
theorem patchedLines_shownRows (h : (differingPositions expected actual).card ≤ limit) :
    patchedLines (linesOf expected) (shownRows expected actual limit) = linesOf actual := by
  rw [patchedLines, funext (patchedLine_shownRows h)]
  exact filterMap_getElem?_range (length_le_reach_shownRows h)

/-- What is rendered depends on the lines only. -/
theorem renderDiff_congr (h : linesOf first = linesOf second) :
    renderDiff expected first limit = renderDiff expected second limit := by
  have hchanges : lineDifferences expected first = lineDifferences expected second := by
    rw [lineDifferences, lineDifferences, h]
  rw [renderDiff, renderDiff, hchanges]

/-- The lines of the report, by the reference and a rendered difference. -/
def reportLines (reference : List String) (rendering : String) : List String :=
  patchedLines reference (DiffRow.readAll rendering)

/-- **A rendering that shows every change tells the report.** -/
theorem untruncated_rendering_tells_report (hfirst : (differingPositions expected first).card ≤ limit)
    (hsecond : (differingPositions expected second).card ≤ limit) :
    (renderDiff expected first limit = renderDiff expected second limit ↔
        linesOf first = linesOf second) ∧
      reportLines (linesOf expected) (renderDiff expected first limit) = linesOf first := by
  have hread : ∀ {report : String}, (differingPositions expected report).card ≤ limit →
      reportLines (linesOf expected) (renderDiff expected report limit) = linesOf report := by
    intro report hreport
    rw [reportLines, DiffRow.readAll_renderDiff, patchedLines_shownRows hreport]
  refine ⟨⟨fun h => ?_, renderDiff_congr⟩, hread hfirst⟩
  rw [← hread hfirst, ← hread hsecond, h]

/-- A line that looks like a row, and an end that is missing, with room for two changes. -/
theorem changed_and_shortened_reports_are_told :
    (differingPositions "a\nb\n" "a\n-   2 | b\nc\n").card ≤ 2 ∧
      (differingPositions "a\nb\n" "a\n").card ≤ 2 ∧
      renderDiff "a\nb\n" "a\n-   2 | b\nc\n" 2 ≠ renderDiff "a\nb\n" "a\n" 2 ∧
      reportLines (linesOf "a\nb\n") (renderDiff "a\nb\n" "a\n-   2 | b\nc\n" 2) =
        ["a", "-   2 | b", "c"] := by
  have hchanged : (differingPositions "a\nb\n" "a\n-   2 | b\nc\n").card ≤ 2 := by decide +kernel
  have hshortened : (differingPositions "a\nb\n" "a\n").card ≤ 2 := by decide +kernel
  obtain ⟨hiff, hlines⟩ := untruncated_rendering_tells_report hchanged hshortened
  exact ⟨hchanged, hshortened, hiff.not.2 (by decide +kernel), hlines.trans (by decide +kernel)⟩

end GoldenCheck

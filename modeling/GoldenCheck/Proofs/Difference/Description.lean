import GoldenCheck.Comparator
import GoldenCheck.Proofs.Difference.Rows

/-!
# What a description tells of the bytes

Reports are compared by their bytes, and a difference is described by the texts that are read from them. So a
description tells whether the texts differ, and it is the sentence on line endings exactly when the texts have
the same lines (`description_tells_what_is_read`). For bytes that are texts, or of which one side is read
without U+FFFD, this is also what the bytes are like. Broken bytes are all read as U+FFFD, so two reports that
differ in them only are described as if they did not (`broken_bytes_are_described_as_alike`).
-/

namespace GoldenCheck

open Utf8

/-! ### Which bytes are known from what is read -/

/-- The bytes are known from what is read of them: both are texts, or one side is read without U+FFFD. -/
def ReadExactly (expected actual : Bytes) : Prop :=
  (IsText expected ∧ IsText actual) ∨ '\uFFFD' ∉ (decodeLossy expected).toList ∨
    '\uFFFD' ∉ (decodeLossy actual).toList

instance (expected actual : Bytes) : Decidable (ReadExactly expected actual) :=
  inferInstanceAs (Decidable ((_ ∧ _) ∨ _ ∨ _))

variable {expected actual : Bytes}

/-- Bytes that are read alike are the same. -/
theorem ReadExactly.eq_of_decodeLossy_eq (h : ReadExactly expected actual)
    (hread : decodeLossy expected = decodeLossy actual) : expected = actual := by
  rcases h with ⟨hexpected, hactual⟩ | h | h
  · exact hexpected.eq_of_decodeLossy_eq hactual hread
  · exact (isText_of_notMem h).eq_of_decodeLossy_eq (isText_of_notMem (hread ▸ h)) hread
  · exact (isText_of_notMem (hread ▸ h)).eq_of_decodeLossy_eq (isText_of_notMem h) hread

/-- Lines that are read as lines of a text without U+FFFD are texts. -/
theorem isText_of_mem_byteLines_of_map_eq (h : '\uFFFD' ∉ (decodeLossy expected).toList)
    (hread : (byteLines actual).map decodeLossy = (byteLines expected).map decodeLossy) {l : Bytes}
    (hl : l ∈ byteLines actual) : IsText l := by
  have hline : decodeLossy l ∈ linesOf (decodeLossy expected) := by
    rw [linesOf_decodeLossy, ← hread]
    exact List.mem_map_of_mem hl
  exact isText_of_notMem fun hmem => h (toList_subset_of_mem_linesOf hline hmem)

/-- Lines that are read alike are the same. -/
theorem ReadExactly.byteLines_eq (h : ReadExactly expected actual)
    (hread : (byteLines expected).map decodeLossy = (byteLines actual).map decodeLossy) :
    byteLines expected = byteLines actual := by
  have htexts : (∀ l ∈ byteLines expected, IsText l) ∧ ∀ l ∈ byteLines actual, IsText l := by
    rcases h with ⟨hexpected, hactual⟩ | h | h
    · exact ⟨fun l => isText_of_mem_byteLines hexpected, fun l => isText_of_mem_byteLines hactual⟩
    · exact ⟨fun l => isText_of_mem_byteLines_of_map_eq h rfl,
        fun l => isText_of_mem_byteLines_of_map_eq h hread.symm⟩
    · exact ⟨fun l => isText_of_mem_byteLines_of_map_eq h hread,
        fun l => isText_of_mem_byteLines_of_map_eq h rfl⟩
  rw [← map_encode_decodeLossy htexts.1, ← map_encode_decodeLossy htexts.2, hread]

/-! ### Which description is given -/

namespace Comparator

theorem describeTexts_eq_none_iff {expected actual : String} :
    describeTexts expected actual = none ↔ expected = actual := by
  rw [describeTexts, Option.map_eq_none_iff, firstDifference_eq_none_iff]

/-- A description with rows is not the sentence on line endings. -/
theorem sentence_append_ne_endingsOnly (d : LineDifference) (rows : String) :
    d.sentence ++ "\n" ++ rows ≠ endingsOnly := by
  intro h
  have hhead := congrArg (fun s => s.toList.head?) h
  change (("first difference at line " ++ toString d.line ++ " (" ++ toString d.differingLines ++
    " differing line(s))") ++ "\n" ++ rows).toList.head? = endingsOnly.toList.head? at hhead
  simp [endingsOnly] at hhead

/-- **The sentence on line endings** is given of texts that differ and have the same lines. -/
theorem describeTexts_eq_endingsOnly_iff {expected actual : String} :
    describeTexts expected actual = some endingsOnly ↔
      expected ≠ actual ∧ linesOf expected = linesOf actual := by
  have hlines : renderDiff expected actual shownChanges = "" ↔ linesOf expected = linesOf actual :=
    renderDiff_eq_empty_iff.trans differingPositions_eq_empty_iff
  rw [← hlines, ne_eq, ← firstDifference_eq_none_iff]
  cases hfirst : firstDifference expected actual with
  | none => simp [describeTexts, hfirst]
  | some d =>
    by_cases hrows : renderDiff expected actual shownChanges = ""
    · simp [describeTexts, hfirst, hrows]
    · simp [describeTexts, hfirst, hrows, sentence_append_ne_endingsOnly]

variable {look : Path → FileState} {generated reference : Path}

theorem describe_of_content (hreference : (look reference).content = .ok expected)
    (hgenerated : (look generated).content = .ok actual) :
    describe look generated reference = describeTexts (decodeLossy expected) (decodeLossy actual) := by
  rw [describe, hreference, hgenerated]

/-- **A description tells what is read** of two files: whether the texts differ, and whether they do so only
in line endings. Where the bytes are known from what is read, it tells whether the bytes differ, and their
lines. -/
theorem description_tells_what_is_read (hreference : (look reference).content = .ok expected)
    (hgenerated : (look generated).content = .ok actual) :
    (describe look generated reference = none ↔ decodeLossy expected = decodeLossy actual) ∧
      (describe look generated reference = some endingsOnly ↔ decodeLossy expected ≠ decodeLossy actual ∧
        (byteLines expected).map decodeLossy = (byteLines actual).map decodeLossy) ∧
      (ReadExactly expected actual →
        (describe look generated reference = none ↔ ContentMatch.ofBytes expected actual = .identical) ∧
          (describe look generated reference = some endingsOnly →
            byteLines expected = byteLines actual)) := by
  have hnone : describe look generated reference = none ↔ decodeLossy expected = decodeLossy actual := by
    rw [describe_of_content hreference hgenerated, describeTexts_eq_none_iff]
  have hendings : describe look generated reference = some endingsOnly ↔
      decodeLossy expected ≠ decodeLossy actual ∧
        (byteLines expected).map decodeLossy = (byteLines actual).map decodeLossy := by
    rw [describe_of_content hreference hgenerated, describeTexts_eq_endingsOnly_iff, linesOf_decodeLossy,
      linesOf_decodeLossy]
  refine ⟨hnone, hendings, fun hexactly => ⟨?_, fun h => hexactly.byteLines_eq (hendings.1 h).2⟩⟩
  rw [hnone, ContentMatch.ofBytes_eq_identical_iff]
  exact ⟨hexactly.eq_of_decodeLossy_eq, congrArg decodeLossy⟩

/-- A report, its reference, and nothing else. -/
def reportAndReference (report reference : Bytes) (p : Path) : FileState :=
  if p = .ofText "report.md" then .regular report
  else if p = .ofText "reference.md" then .regular reference
  else .absent .notFound

/-- A line that is not ASCII, with two line ends. -/
theorem line_ends_are_described :
    ReadExactly [0xC3, 0xA4, 0x0D, 0x0A] [0xC3, 0xA4, 0x0A] ∧
      describe (reportAndReference [0xC3, 0xA4, 0x0A] [0xC3, 0xA4, 0x0D, 0x0A]) (.ofText "report.md")
        (.ofText "reference.md") = some endingsOnly ∧
      byteLines [0xC3, 0xA4, 0x0D, 0x0A] = byteLines [0xC3, 0xA4, 0x0A] := by
  have hexactly : ReadExactly [0xC3, 0xA4, 0x0D, 0x0A] [0xC3, 0xA4, 0x0A] := by decide +kernel
  obtain ⟨-, hendings, hknown⟩ := description_tells_what_is_read
    (show (reportAndReference [0xC3, 0xA4, 0x0A] [0xC3, 0xA4, 0x0D, 0x0A]
      (.ofText "reference.md")).content = .ok [0xC3, 0xA4, 0x0D, 0x0A] by decide +kernel)
    (show (reportAndReference [0xC3, 0xA4, 0x0A] [0xC3, 0xA4, 0x0D, 0x0A]
      (.ofText "report.md")).content = .ok [0xC3, 0xA4, 0x0A] by decide +kernel)
  have hdescribed := hendings.2 (by decide +kernel)
  exact ⟨hexactly, hdescribed, (hknown hexactly).2 hdescribed⟩

/-- Reports that differ in broken bytes only are described as if they did not differ, or not in a line. -/
theorem broken_bytes_are_described_as_alike :
    (ContentMatch.ofBytes [0xFF] [0xFE] = .different ∧
      describe (reportAndReference [0xFE] [0xFF]) (.ofText "report.md") (.ofText "reference.md") = none) ∧
    (byteLines [0xFF, 0x0A] ≠ byteLines [0xFE] ∧
      describe (reportAndReference [0xFE] [0xFF, 0x0A]) (.ofText "report.md") (.ofText "reference.md") =
        some endingsOnly) := by
  decide +kernel

end Comparator

end GoldenCheck

import GoldenCheck.Comparator
import GoldenCheck.Proofs.Difference.Description

/-!
# Line ends are no line differences

A text can be written down as bodies of lines with an end for each of them (`written`): a line feed, or a
carriage return and a line feed, and the last line may go without if there is something in it (`EndsLines`).
The lines of the text are these bodies, whatever the ends are (`linesOf_written`). So two texts with the same
bodies have the same lines, and a difference between them is told as one of line ends only
(`line_ends_are_no_line_differences`).

A body has no line feed in it, and no carriage return at its end, which would be read as part of the line end.
-/

namespace GoldenCheck

/-- How a line ends. -/
inductive LineEnd where
  /-- With a line feed. -/
  | feed
  /-- With a carriage return and a line feed. -/
  | returnFeed
  /-- With the text. -/
  | missing
  deriving DecidableEq, Repr

/-- What stands at the end of a line. -/
def LineEnd.text : LineEnd → String
  | .feed => "\n"
  | .returnFeed => "\r\n"
  | .missing => ""

/-- The text can be the body of a line, whatever end follows. -/
def IsLineBody (body : String) : Prop := '\n' ∉ body.toList ∧ body.toList.getLast? ≠ some '\r'

instance (body : String) : Decidable (IsLineBody body) := inferInstanceAs (Decidable (_ ∧ _))

/-- An end for each line. Only the last line may end with the text, and only if there is something in it. -/
inductive EndsLines : List String → List LineEnd → Prop where
  /-- There are no lines. -/
  | nil : EndsLines [] []
  /-- The last line ends with the text. -/
  | last {body : String} (filled : body ≠ "") : EndsLines [body] [.missing]
  /-- A line ends, and others may follow. -/
  | cons {body : String} {bodies : List String} {e : LineEnd} {ends : List LineEnd} (ended : e ≠ .missing)
      (rest : EndsLines bodies ends) : EndsLines (body :: bodies) (e :: ends)

/-- The text of lines with their ends. -/
def written (bodies : List String) (ends : List LineEnd) : String :=
  String.join (List.zipWith (fun body e => body ++ e.text) bodies ends)

variable {body rest : String} {bodies : List String} {e : LineEnd} {ends ends' : List LineEnd}

@[simp] theorem written_nil : written [] [] = "" := rfl

@[simp] theorem written_cons : written (body :: bodies) (e :: ends) = body ++ e.text ++ written bodies ends := by
  simp [written]

/-! ### The lines of what is written -/

/-- Before a line feed stands a line of its own. -/
theorem lineBodies_append_feed {front back : List Char} (h : '\n' ∉ front) :
    lineBodies (front ++ '\n' :: back) = lineBody front :: lineBodies back := by
  have hne : back.splitOn '\n' ≠ [] := List.splitOn_ne_nil _ _
  simp only [lineBodies, List.splitOn_append_cons_self_of_not_mem h, List.dropLast_cons_of_ne_nil hne,
    List.getLast?_cons_of_ne_nil hne, List.map_cons, List.cons_append]

/-- What ends with the text is one line, if there is something in it. -/
theorem lineBodies_of_notMem {cs : List Char} (h : '\n' ∉ cs) (hne : cs ≠ []) : lineBodies cs = [cs] := by
  simp [lineBodies, List.splitOn_eq_singleton h, hne]

theorem lineBody_append_return (cs : List Char) : lineBody (cs ++ ['\r']) = cs := by
  simp [lineBody]

/-- **A line that ends** is the first line of the text. -/
theorem linesOf_append (h : IsLineBody body) (he : e ≠ .missing) :
    linesOf (body ++ e.text ++ rest) = body :: linesOf rest := by
  cases e with
  | missing => exact absurd rfl he
  | feed =>
    have hcut : (body ++ LineEnd.feed.text ++ rest).toList = body.toList ++ '\n' :: rest.toList := by
      simp [LineEnd.text]
    have hbody : lineBody body.toList = body.toList := if_neg h.2
    rw [linesOf, hcut, lineBodies_append_feed h.1, hbody, List.map_cons, String.ofList_toList, linesOf]
  | returnFeed =>
    have hcut : (body ++ LineEnd.returnFeed.text ++ rest).toList =
        (body.toList ++ ['\r']) ++ '\n' :: rest.toList := by
      simp [LineEnd.text]
    have hfeed : '\n' ∉ body.toList ++ ['\r'] := by simp [h.1]
    rw [linesOf, hcut, lineBodies_append_feed hfeed, lineBody_append_return, List.map_cons,
      String.ofList_toList, linesOf]

/-- **The lines of a text are the bodies it is written with**, whatever their ends are. -/
theorem linesOf_written (hbodies : ∀ body ∈ bodies, IsLineBody body) (h : EndsLines bodies ends) :
    linesOf (written bodies ends) = bodies := by
  induction h with
  | nil => rfl
  | last filled =>
    have hfeed := (hbodies _ (List.mem_singleton_self _)).1
    have hne : ∀ body : String, body ≠ "" → body.toList ≠ [] := by simp
    simp [LineEnd.text, linesOf, lineBodies_of_notMem hfeed (hne _ filled)]
  | cons ended rest ih =>
    rw [List.forall_mem_cons] at hbodies
    rw [written_cons, linesOf_append hbodies.1 ended, ih hbodies.2]

theorem LineEnd.text_eq_empty_iff : e.text = "" ↔ e = .missing := by
  cases e <;> decide

/-- Where lines end, it can be told how. -/
theorem LineEnd.text_append_inj {e e' : LineEnd} {rest rest' : String} (he : e ≠ .missing)
    (he' : e' ≠ .missing) (h : e.text ++ rest = e'.text ++ rest') : e = e' ∧ rest = rest' := by
  rw [← String.toList_inj] at h
  cases e <;> cases e' <;> simp_all [LineEnd.text, String.toList_inj]

/-- The ends of lines can be told from the text. -/
theorem written_eq_written_iff (h : EndsLines bodies ends) (h' : EndsLines bodies ends') :
    written bodies ends = written bodies ends' ↔ ends = ends' := by
  refine ⟨fun heq => ?_, congrArg _⟩
  induction h generalizing ends' with
  | nil =>
    cases h'
    rfl
  | @last body =>
    cases h' with
    | last => rfl
    | @cons _ _ e _ ended rest =>
      cases rest
      have hnone : e.text = "" := by simpa [LineEnd.text] using heq.symm
      exact absurd (LineEnd.text_eq_empty_iff.1 hnone) ended
  | @cons body bodies e ends ended rest ih =>
    cases h' with
    | last =>
      cases rest
      have hnone : e.text = "" := by simpa [LineEnd.text] using heq
      exact absurd (LineEnd.text_eq_empty_iff.1 hnone) ended
    | cons ended' rest' =>
      rw [written_cons, written_cons, String.append_assoc, String.append_assoc, String.append_right_inj] at heq
      obtain ⟨rfl, hrest⟩ := LineEnd.text_append_inj ended ended' heq
      rw [ih rest' hrest]

/-! ### How a difference of line ends is told -/

/-- **Line ends are no line differences.** Two texts with the same bodies of lines, each with any ends, are
equal exactly when the ends are. Then there is no difference; else the difference is told as one after the
last line, at which neither text has a line. No line is rendered in either case, however many may be shown,
and files with these texts are described as equal or as different in line ends only. -/
theorem line_ends_are_no_line_differences (hbodies : ∀ body ∈ bodies, IsLineBody body)
    (h : EndsLines bodies ends) (h' : EndsLines bodies ends') :
    (written bodies ends = written bodies ends' ↔ ends = ends') ∧
      firstDifference (written bodies ends) (written bodies ends') =
        (if ends = ends' then none else some ⟨bodies.length + 1, none, none, 1⟩) ∧
      (∀ limit, renderDiff (written bodies ends) (written bodies ends') limit = "") ∧
      ∀ (look : Path → FileState) (generated reference : Path),
        (look reference).content = .ok (Utf8.encode (written bodies ends)) →
        (look generated).content = .ok (Utf8.encode (written bodies ends')) →
        Comparator.describe look generated reference =
          if ends = ends' then none else some Comparator.endingsOnly := by
  have hlines := linesOf_written hbodies h
  have hlines' := linesOf_written hbodies h'
  have hequal := written_eq_written_iff h h'
  have hnone : differingPositions (written bodies ends) (written bodies ends') = ∅ := by
    rw [differingPositions_eq_empty_iff, hlines, hlines']
  refine ⟨hequal, ?_, fun limit => renderDiff_eq_empty_iff.2 hnone,
    fun look generated reference hreference hgenerated => ?_⟩
  · split_ifs with heq
    · exact firstDifference_eq_none_iff.2 (hequal.2 heq)
    · rw [firstDifference_of_empty hnone (hequal.not.2 heq), hlines]
  · rw [Comparator.describe_of_content hreference hgenerated, Utf8.decodeLossy_encode,
      Utf8.decodeLossy_encode]
    split_ifs with heq
    · exact Comparator.describeTexts_eq_none_iff.2 (hequal.2 heq)
    · exact Comparator.describeTexts_eq_endingsOnly_iff.2 ⟨hequal.not.2 heq, hlines.trans hlines'.symm⟩

/-- A line with a carriage return inside, an empty one, and a last one: with line feeds throughout, and with
carriage returns, no end, and the other way round. -/
theorem carriage_returns_are_told_as_line_ends :
    ((∀ body ∈ ["a\rb", "", "c"], IsLineBody body) ∧
      EndsLines ["a\rb", "", "c"] [.feed, .feed, .feed] ∧
      EndsLines ["a\rb", "", "c"] [.returnFeed, .feed, .missing]) ∧
    firstDifference "a\rb\n\nc\n" "a\rb\r\n\nc" = some ⟨4, none, none, 1⟩ ∧
    renderDiff "a\rb\n\nc\n" "a\rb\r\n\nc" 12 = "" ∧
    Comparator.describe (Comparator.reportAndReference (Utf8.encode "a\rb\r\n\nc")
      (Utf8.encode "a\rb\n\nc\n")) (.ofText "report.md") (.ofText "reference.md") =
        some Comparator.endingsOnly := by
  have hbodies : ∀ body ∈ ["a\rb", "", "c"], IsLineBody body := by decide
  have hfeeds : EndsLines ["a\rb", "", "c"] [.feed, .feed, .feed] :=
    .cons nofun (.cons nofun (.cons nofun .nil))
  have hmixed : EndsLines ["a\rb", "", "c"] [.returnFeed, .feed, .missing] :=
    .cons nofun (.cons nofun (.last (by decide)))
  have h := line_ends_are_no_line_differences hbodies hfeeds hmixed
  refine ⟨⟨hbodies, hfeeds, hmixed⟩, h.2.1, h.2.2.1 12, h.2.2.2 _ _ _ ?_ ?_⟩
  · decide +kernel
  · decide +kernel

end GoldenCheck

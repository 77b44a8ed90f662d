import GoldenCheck.Proofs.Engine.AllOrNothing
import GoldenCheck.Proofs.Path.Format
import GoldenCheck.Verification.Progress

/-!
# The format that an engine is asked for

An engine is told to write to a staging file, and picks its format by the extension of that. The staging
file has the format of the path it stands in for (`Staging.format?_of_make`). When a case is verified this
is the derived path of its report, and when it is blessed it is the reference.
`verify_and_bless_ask_for_one_format_iff` says when the two ask for one format: always, if the reference has
an extension, and otherwise only if nothing else in the name of the report has a dot.
`dotted_root_asks_for_another_format` is a case for which they do not.
-/

namespace GoldenCheck

open Path Utf8

/-- What stands after the last slash of a path is its last name. -/
theorem Path.fileName?_append_slash (front : Bytes) {n : Bytes} (h : (Component.name n).IsStep) :
    Path.fileName? ⟨front ++ slash :: n⟩ = some n := by
  have hread : (n.splitOn slash).filterMap component? = [.name n] := by
    have hone : component? n = some (.name n) := h.component?_bytes
    rw [List.splitOn_eq_singleton h.2.2.2, List.filterMap_cons, hone, List.filterMap_nil]
  unfold Path.fileName?
  by_cases hfront : front = []
  · rw [hfront, List.nil_append, components_slash_cons, hread]
    rfl
  · rw [components_append_slash hfront, hread, List.getLast?_concat]

namespace Staging

variable {w w' : World} {output : Path} {staging : Location} {n : Nat}

theorem isDigit_of_mem_sixDigits {c : Char} (h : c ∈ (sixDigits n).toList) : c.isDigit = true := by
  rw [sixDigits, String.toList_append, String.toList_ofList, List.mem_append] at h
  rcases h with h | h
  · rw [List.eq_of_mem_replicate h]
    rfl
  · rw [Nat.toString_eq_ofList_toDigits, String.toList_ofList] at h
    exact Nat.isDigit_of_mem_toDigits (by decide) (by decide) h

/-- The name of a staging file begins with a dot, and has no other of its own. -/
theorem dot_notMem_tail_nameStart (n : Nat) : '.' ∉ (nameStart ++ sixDigits n).toList.tail := by
  have hstart : nameStart.toList = '.' :: nameStart.toList.tail := by decide
  rw [String.toList_append, hstart, List.cons_append, List.tail_cons, List.mem_append, not_or]
  refine ⟨by decide, fun h => ?_⟩
  have hdigit := isDigit_of_mem_sixDigits h
  revert hdigit
  decide

theorem encode_nameEnd (output : Path) : encode (nameEnd output) = output.reportMark := by
  unfold nameEnd reportMark
  cases output.extension? with
  | none => rfl
  | some ext =>
    have hdot : encode "." = [dot] := by decide
    rw [encode_append, hdot]
    rfl

theorem nameOf_eq (output : Path) (n : Nat) :
    nameOf output n = encode (nameStart ++ sixDigits n) ++ output.reportMark := by
  rw [nameOf, encode_append, encode_nameEnd]

/-- The name of a staging file is one name. -/
theorem isStep_nameOf (output : Path) (n : Nat) : (Component.name (nameOf output n)).IsStep := by
  have hstart : encode nameStart = dot :: 0x72 :: (encode nameStart).drop 2 := by decide
  have hname : ∃ rest, nameOf output n = dot :: 0x72 :: rest := by
    rw [nameOf_eq, encode_append, hstart]
    exact ⟨_, rfl⟩
  obtain ⟨rest, hrest⟩ := hname
  refine ⟨by simp [hrest], by simp [hrest], ?_, ?_⟩
  · simp [hrest, dot]
  · rw [nameOf_eq, List.mem_append, not_or]
    refine ⟨fun h => ?_, slash_notMem_reportMark output⟩
    have hmem := mem_toList_of_mem_encode (by decide) h
    rw [String.toList_append, List.mem_append] at hmem
    rcases hmem with hmem | hmem
    · revert hmem
      decide
    · have hdigit := isDigit_of_mem_sixDigits hmem
      revert hdigit
      decide

/-- A staging file is called by its number. -/
theorem exists_nameOf (h : make w output = .ok (staging, w')) :
    ∃ directory n, staging = nameOf output n :: directory := by
  unfold make at h
  obtain ⟨⟨directory, entry⟩, -, h⟩ := bind_eq_ok_iff.1 h
  simp only at h
  split_ifs at h
  · exact (throw_bind_ne_ok h).elim
  · split at h
    · exact (throw_ne_ok h).elim
    · rename_i name hname
      split_ifs at h
      · exact (throw_bind_ne_ok h).elim
      · cases pure_eq_ok_iff.1 h
        obtain ⟨n, -, rfl⟩ := List.mem_map.1 (List.mem_of_find?_eq_some hname)
        exact ⟨directory, n, rfl⟩

/-- **A staging file has the format of the output.** -/
theorem format?_of_make (h : make w output = .ok (staging, w')) :
    (pathOf staging).format? = output.format? := by
  obtain ⟨directory, n, rfl⟩ := exists_nameOf h
  have hpath : pathOf (nameOf output n :: directory) =
      ⟨directory.reverse.flatMap (slash :: ·) ++ slash :: nameOf output n⟩ := by
    simp [pathOf]
  rw [hpath, format?_of_fileName? (fileName?_append_slash _ (isStep_nameOf output n)), nameOf_eq]
  by_cases hformat : output.format? = none
  · rw [hformat, format_append_mark_eq_none_iff hformat]
    exact dot_notMem_tail_nameStart n
  · refine format_append_mark ?_ hformat
    rw [encode_append]
    exact List.append_ne_nil_of_left_ne_nil (by decide) _

end Staging

namespace Engine

/-- The format that a request asks for: the last argument is the path to write to. -/
def askedFormat? (r : ProcessRequest) : Option String :=
  r.args.getLast?.bind fun bytes => Path.format? ⟨bytes⟩

/-- **An engine is asked for the format of the output**, whatever else it is told. -/
theorem askedFormat?_request {w made : World} {output : Path} {staging : Location}
    (h : staged? w output = some (staging, made)) (engine : EngineSettings) (root : Path)
    (args : List String) (env : Environment) :
    askedFormat? (request engine root args env staging) = output.format? := by
  obtain ⟨v, -, hmake, -, -⟩ := staged?_eq_some h
  have hlast : (request engine root args env staging).args.getLast? =
      some (Staging.pathOf staging).bytes := by
    rw [request, List.getLast?_append_of_ne_nil _ (List.cons_ne_nil _ _)]
    rfl
  rw [askedFormat?, hlast, Option.bind_some]
  exact Staging.format?_of_make hmake

end Engine

/-- The report of a case goes to a path of the format of its reference when the reference has a format, or
when no dot follows the first character of the stem and the suffix. -/
theorem RunOptions.format?_outputOf_eq_iff {o : RunOptions} (hsuffix : '/' ∉ o.suffix.toList)
    (c : TestCase) : (o.outputOf c).format? = c.reference.format? ↔
      c.reference.format? ≠ none ∨ '.' ∉ (reportStem c.root c.reference ++ o.suffix).toList.tail := by
  rw [← format?_derive_eq_iff c.root c.reference hsuffix, outputOf, TestCase.outputPath,
    (staysBelow_derive c.root c.reference hsuffix).format?_join]

/-- **When verifying and blessing ask for one format.** Say that the suffix has no slash, and take any
case. The path of its report has the extension of its reference exactly when the reference has one, or
when no dot follows the first character of the stem and the suffix. In whatever worlds the case is verified
and blessed, the two runs of the engine are asked for one format in just these cases. -/
theorem verify_and_bless_ask_for_one_format_iff (engine : EngineSettings) (o : RunOptions) (c : TestCase)
    (hsuffix : '/' ∉ o.suffix.toList) :
    ((o.outputOf c).format? = c.reference.format? ↔
      c.reference.format? ≠ none ∨ '.' ∉ (reportStem c.root c.reference ++ o.suffix).toList.tail) ∧
    ∀ (w v made blessed : World) (staging fresh : Location),
      Engine.staged? w (o.outputOf c) = some (staging, made) →
      Engine.staged? v c.reference = some (fresh, blessed) →
      (Engine.askedFormat? (Engine.request engine c.root c.args c.env staging) =
          Engine.askedFormat? (Engine.request engine c.root c.args c.env fresh) ↔
        c.reference.format? ≠ none ∨
          '.' ∉ (reportStem c.root c.reference ++ o.suffix).toList.tail) := by
  refine ⟨o.format?_outputOf_eq_iff hsuffix c, fun w v made blessed staging fresh hverify hbless => ?_⟩
  rw [Engine.askedFormat?_request hverify, Engine.askedFormat?_request hbless,
    o.format?_outputOf_eq_iff hsuffix]

/-- A case whose root has a dot in its name, with a reference. -/
def dottedCase (reference : Path) : TestCase where
  name := "token"
  root := .ofText "token.v2"
  reference

/-- A world with the directory of the references. -/
def goldenWorld : World := ⟨{ entries := [([Utf8.encode "golden"], .directory)] }, []⟩

/-- The format that the sample engine is asked for when it makes a report of a case at a path, if a
staging file can be made. -/
def formatAt (c : TestCase) (output : Path) : Option (Option String) :=
  (Engine.staged? goldenWorld output).map fun staged =>
    Engine.askedFormat? (Engine.request Engine.sampleEngine c.root c.args c.env staged.1)

set_option maxRecDepth 8000 in
/-- With an extension of the reference, the case is verified and blessed in one format. -/
theorem dotted_root_keeps_format : ∃ format,
    formatAt (dottedCase (.ofText "golden/token.md"))
        (RunOptions.outputOf {} (dottedCase (.ofText "golden/token.md"))) = some format ∧
      formatAt (dottedCase (.ofText "golden/token.md")) (.ofText "golden/token.md") = some format := by
  obtain ⟨⟨staging, made⟩, hverify⟩ := Option.isSome_iff_exists.1
    (show (Engine.staged? goldenWorld
      (RunOptions.outputOf {} (dottedCase (.ofText "golden/token.md")))).isSome = true by rfl)
  obtain ⟨⟨fresh, blessed⟩, hbless⟩ := Option.isSome_iff_exists.1
    (show (Engine.staged? goldenWorld (.ofText "golden/token.md")).isSome = true by rfl)
  have hone := ((verify_and_bless_ask_for_one_format_iff Engine.sampleEngine {}
    (dottedCase (.ofText "golden/token.md")) (by decide)).2 _ _ _ _ _ _ hverify hbless).2
      (Or.inl (by decide))
  refine ⟨_, by rw [formatAt, hverify, Option.map_some], ?_⟩
  rw [formatAt, hbless, Option.map_some, hone]

set_option maxRecDepth 8000 in
/-- Without one, the case is verified in a format that it is not blessed in. -/
theorem dotted_root_asks_for_another_format :
    '/' ∉ defaultSuffix.toList ∧
      (Path.ofText "golden/token").fileName? = some (encode "token") ∧
      RunOptions.outputOf {} (dottedCase (.ofText "golden/token")) = .ofText "./token.v2-workflow" ∧
      formatAt (dottedCase (.ofText "golden/token")) (.ofText "./token.v2-workflow") =
        some (some "v2-workflow") ∧
      formatAt (dottedCase (.ofText "golden/token")) (.ofText "golden/token") = some none := by
  refine ⟨by decide, by decide, by decide, by rfl, by rfl⟩

end GoldenCheck

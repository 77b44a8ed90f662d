import GoldenCheck.Config.Resolve
import GoldenCheck.Proofs.Path.Joining
import GoldenCheck.Proofs.Text.Lossy
import Mathlib.Data.List.TakeDrop

/-!
# Where derived paths lead

The path that is derived for a root is the names of the root but for the last, and then one text:
the stem, the suffix and the extension of the reference (`Path.derive_eq`). The names lead down. The
text is a name of its own when the suffix has no slash (`Path.isStep_reportName`), however odd the
stem: it is `.` when the reference is called `..a`, but then the extension follows. So the report
stays below the directory for reports (`derived_reports_stay_below`).

A suffix may have a slash, though. Then it is the text alone that says where the report goes
(`Path.staysBelow_derive_iff`), and it can lead out of the directory (`slashed_suffix_leads_out`).
-/

namespace GoldenCheck

open Path

namespace Path

open Utf8

/-- The text that the last name of a derived path begins with. -/
def reportStem (root reference : Path) : String :=
  match root.rootNames with
  | last :: _ => decodeLossy last
  | [] => (reference.stem?.map decodeLossy).getD fallbackStem

/-- What follows the names of a root but the last in a derived path. -/
def reportName (root reference : Path) (suffix : String) : String :=
  derivedName (reportStem root reference) reference suffix

/-- The directories of a derived path. -/
def reportDirs (root : Path) : List Component := root.rootNames.tail.reverse.map .name

/-- What a derived path ends with after the suffix: a dot and the extension of the reference. -/
def reportMark (reference : Path) : Bytes :=
  match reference.extension? with
  | some ext => dot :: rewritten ext
  | none => []

variable {p root reference : Path} {suffix : String} {n : Bytes}

/-- **A derived path** is the names of the root but for the last, and then a text. -/
theorem derive_eq (root reference : Path) (suffix : String) :
    derive root reference suffix =
      (ofComponents root.reportDirs).join (ofText (reportName root reference suffix)) := by
  unfold derive reportName reportStem reportDirs
  cases root.rootNames with
  | nil => simp [ofComponents, join, isEmpty]
  | cons last before => rfl

/-- The text is the stem, the suffix and the extension. -/
theorem encode_reportName (root reference : Path) (suffix : String) :
    encode (reportName root reference suffix) =
      encode (reportStem root reference) ++ encode suffix ++ reference.reportMark := by
  unfold reportName derivedName reportMark
  cases reference.extension? with
  | none => rw [encode_append, List.append_nil]
  | some ext =>
    have hdot : encode "." = [dot] := by decide
    simp only [encode_append, hdot, rewritten, List.append_assoc, List.singleton_append]

/-! ### Names -/

/-- The names that are left of a root are names of it. -/
theorem mem_foldl_pushName {names : List Bytes} {cs : List Component}
    (h : n ∈ cs.foldl pushName names) : n ∈ names ∨ .name n ∈ cs := by
  induction cs generalizing names with
  | nil => exact Or.inl h
  | cons c cs ih =>
    rcases ih h with h | h
    · cases c with
      | name m =>
        rcases List.mem_cons.1 h with rfl | h
        · exact Or.inr List.mem_cons_self
        · exact Or.inl h
      | up => exact Or.inl (List.mem_of_mem_tail h)
      | here | root => exact Or.inl h
    · exact Or.inr (List.mem_cons_of_mem _ h)

/-- A name among the components of a path is one segment. -/
theorem isStep_of_name_mem (h : .name n ∈ p.components) : (Component.name n).IsStep := by
  obtain ⟨cs, hcs, heq | heq | heq⟩ := components_cases p <;> rw [heq] at h
  · exact hcs _ (by simpa using h)
  · exact hcs _ (by simpa using h)
  · exact hcs _ h

theorem isStep_of_mem_rootNames (h : n ∈ root.rootNames) : (Component.name n).IsStep := by
  rcases mem_foldl_pushName h with h | h
  · simp at h
  · exact isStep_of_name_mem h

theorem isStep_of_fileName? (h : p.fileName? = some n) : (Component.name n).IsStep := by
  unfold fileName? at h
  split at h
  · rename_i m hlast
    obtain rfl := Option.some.inj h
    exact isStep_of_name_mem (List.mem_of_getLast? hlast)
  · cases h

theorem isStep_of_mem_reportDirs : ∀ c ∈ root.reportDirs, c.IsStep := by
  intro c hc
  obtain ⟨n, hn, rfl⟩ := List.mem_map.1 hc
  exact isStep_of_mem_rootNames (List.mem_of_mem_tail (List.mem_reverse.1 hn))

/-- A name is its stem, or its stem and then a dot and its extension. -/
theorem splitName_cases (n : Bytes) : splitName n = (n, none) ∨
    ∃ before after, splitName n = (before, some after) ∧ before ≠ [] ∧
      n = before ++ dot :: after := by
  have hcut : n.reverse.takeWhile (· ≠ dot) ++ n.reverse.dropWhile (· ≠ dot) = n.reverse :=
    List.takeWhile_append_dropWhile
  have hhead := List.head?_dropWhile_not (· ≠ dot) n.reverse
  rw [splitName, List.span_eq_takeWhile_dropWhile]
  cases hdrop : n.reverse.dropWhile (· ≠ dot) with
  | nil => exact Or.inl rfl
  | cons d before =>
    cases before with
    | nil => exact Or.inl rfl
    | cons b before =>
      rw [hdrop] at hcut hhead
      obtain rfl : d = dot := by simpa using hhead
      refine Or.inr ⟨_, _, rfl, by simp, ?_⟩
      simpa using (congrArg List.reverse hcut).symm

/-- **The stem of a report** is read from bytes of one name: a whole name, or the stem of a reference
that has an extension as well. -/
theorem reportStem_cases (root reference : Path) : ∃ kept,
    encode (reportStem root reference) = rewritten kept ∧ kept ≠ [] ∧ slash ∉ kept ∧
      ((Component.name kept).IsStep ∨ root.rootNames = [] ∧ ∃ after,
        reference.extension? = some after ∧ (Component.name (kept ++ dot :: after)).IsStep) := by
  have hname : ∀ kept, (Component.name kept).IsStep → kept ≠ [] ∧ slash ∉ kept :=
    fun kept h => ⟨h.1, h.2.2.2⟩
  unfold reportStem
  cases hnames : root.rootNames with
  | cons last before =>
    have hlast : (Component.name last).IsStep :=
      isStep_of_mem_rootNames (hnames ▸ List.mem_cons_self)
    exact ⟨last, rfl, (hname last hlast).1, (hname last hlast).2, Or.inl hlast⟩
  | nil =>
    cases hfile : reference.fileName? with
    | none =>
      have hstep : (Component.name (encode fallbackStem)).IsStep := by
        simp only [Component.IsStep]
        decide
      refine ⟨encode fallbackStem, ?_, (hname _ hstep).1, (hname _ hstep).2, Or.inl hstep⟩
      simp only [stem?, hfile]
      decide
    | some n =>
      have hn := isStep_of_fileName? hfile
      rcases splitName_cases n with hcut | ⟨before, after, hcut, hbefore, rfl⟩
      · refine ⟨n, ?_, (hname n hn).1, (hname n hn).2, Or.inl hn⟩
        simp [stem?, hfile, hcut, rewritten]
      · refine ⟨before, ?_, hbefore, ?_, Or.inr ⟨rfl, after, ?_, hn⟩⟩
        · simp [stem?, hfile, hcut, rewritten]
        · exact fun h => hn.2.2.2 (List.mem_append_left _ h)
        · simp [extension?, hfile, hcut]

/-! ### What follows the directories -/

/-- The first segment of bytes that begin without a slash begins with these bytes. -/
theorem splitOn_append {front : Bytes} (hfront : slash ∉ front) (back : Bytes) :
    ∃ first rest, back.splitOn slash = first :: rest ∧
      (front ++ back).splitOn slash = (front ++ first) :: rest := by
  induction front with
  | nil =>
    cases hback : back.splitOn slash with
    | nil => exact absurd hback (List.splitOn_ne_nil slash back)
    | cons first rest => exact ⟨first, rest, rfl, hback⟩
  | cons b front ih =>
    rw [List.mem_cons, not_or] at hfront
    obtain ⟨first, rest, hback, hcut⟩ := ih hfront.2
    refine ⟨first, rest, hback, ?_⟩
    rw [List.cons_append, List.splitOn_cons_eq_if_modifyHead, if_neg (by simpa using Ne.symm hfront.1),
      hcut]
    rfl

theorem slash_notMem_rewritten {bs : Bytes} (h : slash ∉ bs) : slash ∉ rewritten bs :=
  fun hmem => h (mem_of_mem_rewritten (by decide) hmem)

/-- What is written as dots was read from dots. -/
theorem eq_of_rewritten_eq_dots {bs dots : Bytes} (h : rewritten bs = dots)
    (hdots : ∀ b ∈ dots, b = dot) : bs = dots := by
  rw [← h]
  refine (rewritten_eq fun b hb => ?_).symm
  rw [h] at hb
  rw [hdots b hb]
  decide

/-- The text after the directories, cut after its stem. -/
theorem reportName_cases (root reference : Path) (suffix : String) : ∃ kept,
    (ofText (reportName root reference suffix)).bytes =
      rewritten kept ++ (encode suffix ++ reference.reportMark) ∧ kept ≠ [] ∧ slash ∉ kept ∧
      ((Component.name kept).IsStep ∨ root.rootNames = [] ∧ ∃ after,
        reference.extension? = some after ∧ (Component.name (kept ++ dot :: after)).IsStep) := by
  obtain ⟨kept, hstem, hkept⟩ := reportStem_cases root reference
  refine ⟨kept, ?_, hkept⟩
  rw [← hstem, ← List.append_assoc]
  exact encode_reportName root reference suffix

/-- The text after the directories is relative. -/
theorem isAbsolute_reportName (root reference : Path) (suffix : String) :
    (ofText (reportName root reference suffix)).isAbsolute = false := by
  obtain ⟨kept, hbytes, hne, hslash, -⟩ := reportName_cases root reference suffix
  have hfirst : (rewritten kept).head? ≠ some slash := fun h =>
    slash_notMem_rewritten hslash (List.mem_of_head? h)
  rw [isAbsolute, hbytes, List.head?_append_of_ne_nil _ (rewritten_ne_nil hne)]
  simpa using hfirst

/-- The text does not begin with a `.` when there are directories before it. -/
theorem head?_segments_reportName (hdirs : root.reportDirs ≠ []) (reference : Path)
    (suffix : String) :
    (ofText (reportName root reference suffix)).segments.head? ≠ some [dot] := by
  obtain ⟨kept, hbytes, hne, hslash, hkept⟩ := reportName_cases root reference suffix
  have hstep : (Component.name kept).IsStep := by
    rcases hkept with h | ⟨hnil, -⟩
    · exact h
    · exact absurd (by rw [reportDirs, hnil]; rfl) hdirs
  obtain ⟨first, rest, -, hcut⟩ := splitOn_append (slash_notMem_rewritten hslash)
    (encode suffix ++ reference.reportMark)
  rw [segments, hbytes, hcut, List.head?_cons]
  intro h
  rcases List.append_eq_singleton_iff.1 (Option.some.inj h) with ⟨hnil, -⟩ | ⟨hdot, -⟩
  · exact rewritten_ne_nil hne hnil
  · exact hstep.2.1 (eq_of_rewritten_eq_dots hdot (by simp))

/-- **The components of a derived path** are its directories and then those of its last text. -/
theorem components_derive (root reference : Path) (suffix : String) :
    (derive root reference suffix).components =
      root.reportDirs ++ (ofText (reportName root reference suffix)).components := by
  rw [derive_eq]
  by_cases hdirs : root.reportDirs = []
  · rw [hdirs]
    simp [ofComponents, join, isEmpty]
  · have hplain : IsPlain root.reportDirs := isPlain_of_isStep isStep_of_mem_reportDirs
    rw [components_join _ (isAbsolute_reportName root reference suffix)
      (head?_segments_reportName hdirs reference suffix), components_ofComponents hdirs hplain]

theorem components_reportName_ne_nil (root reference : Path) (suffix : String) :
    (ofText (reportName root reference suffix)).components ≠ [] := by
  have hrel := isAbsolute_reportName root reference suffix
  obtain ⟨kept, hbytes, hne, hslash, -⟩ := reportName_cases root reference suffix
  obtain ⟨first, rest, -, hcut⟩ := splitOn_append (slash_notMem_rewritten hslash)
    (encode suffix ++ reference.reportMark)
  have hfirst : rewritten kept ++ first ≠ [] :=
    List.append_ne_nil_of_left_ne_nil (rewritten_ne_nil hne) first
  rw [components, if_neg (by simp [hrel]), segments, hbytes, hcut]
  by_cases hdot : rewritten kept ++ first = [dot]
  · simp [hdot]
  · have hread : component? (rewritten kept ++ first) ≠ none := fun hnone =>
      not_or.2 ⟨hfirst, hdot⟩ (component?_eq_none_iff.1 hnone)
    obtain ⟨c, hc⟩ := Option.ne_none_iff_exists'.1 hread
    simp [hdot, hc]

theorem components_derive_ne_nil (root reference : Path) (suffix : String) :
    (derive root reference suffix).components ≠ [] := by
  rw [components_derive]
  exact List.append_ne_nil_of_right_ne_nil _ (components_reportName_ne_nil root reference suffix)

/-- **A derived path is relative**, whatever the suffix. -/
theorem isAbsolute_derive (root reference : Path) (suffix : String) :
    (derive root reference suffix).isAbsolute = false := by
  by_cases hdirs : root.reportDirs = []
  · have hname : derive root reference suffix = ofText (reportName root reference suffix) := by
      rw [derive_eq, hdirs]
      simp [ofComponents, join, isEmpty]
    rw [hname]
    exact isAbsolute_reportName root reference suffix
  · obtain ⟨c, cs, hcs⟩ := List.exists_cons_of_ne_nil hdirs
    rw [← Bool.not_eq_true]
    intro habs
    have hroot := (components_of_isAbsolute habs).symm.trans (components_derive root reference suffix)
    rw [hcs, List.cons_append] at hroot
    have hstep : c.IsStep := isStep_of_mem_reportDirs c (by rw [hcs]; exact List.mem_cons_self)
    rw [← (List.cons.inj hroot).1] at hstep
    exact hstep

theorem isNamed_of_mem_reportDirs : ∀ c ∈ root.reportDirs, c.IsNamed := by
  intro c hc
  obtain ⟨n, -, rfl⟩ := List.mem_map.1 hc
  exact ⟨n, rfl⟩

/-- **Only the last text can lead a report out** of the directory for reports. -/
theorem staysBelow_derive_iff : (derive root reference suffix).StaysBelow ↔
    (ofText (reportName root reference suffix)).StaysBelow := by
  have hcomponents := components_derive root reference suffix
  have hne := components_reportName_ne_nil root reference suffix
  constructor
  · intro h
    refine staysBelow_of_named hne fun c hc => h.named c ?_
    rw [hcomponents]
    exact List.mem_append_right _ hc
  · intro h
    refine staysBelow_of_named (components_derive_ne_nil root reference suffix) fun c hc => ?_
    rw [hcomponents] at hc
    rcases List.mem_append.1 hc with hc | hc
    · exact isNamed_of_mem_reportDirs c hc
    · exact h.named c hc

/-! ### Suffixes without a slash -/

/-- An extension has no slash. -/
theorem slash_notMem_of_extension? {ext : Bytes} (h : p.extension? = some ext) : slash ∉ ext := by
  obtain ⟨n, hfile, hcut⟩ := Option.bind_eq_some_iff.1 h
  rcases splitName_cases n with hnone | ⟨before, after, hsome, -, hn⟩
  · simp [hnone] at hcut
  · obtain rfl : after = ext := by simpa [hsome] using hcut
    have hstep := (isStep_of_fileName? hfile).2.2.2
    rw [hn] at hstep
    exact fun hmem => hstep (by simp [hmem])

theorem slash_notMem_reportMark (reference : Path) : slash ∉ reference.reportMark := by
  unfold reportMark
  cases hext : reference.extension? with
  | none => simp
  | some ext =>
    rw [List.mem_cons, not_or]
    exact ⟨by decide, slash_notMem_rewritten (slash_notMem_of_extension? hext)⟩

/-- What ends a derived path has a slash only if the suffix has one. -/
theorem slash_notMem_mark (hsuffix : '/' ∉ suffix.toList) (reference : Path) :
    slash ∉ encode suffix ++ reference.reportMark := by
  rw [List.mem_append, not_or]
  exact ⟨fun h => hsuffix (mem_toList_of_mem_encode (by decide) h), slash_notMem_reportMark reference⟩

/-- The text after the directories is neither `.` nor `..`: the stem can be `.`, but then there is an
extension. -/
theorem reportName_ne_dots {dots : Bytes} (hdots : ∀ b ∈ dots, b = dot) (hlen : dots.length ≤ 2) :
    (ofText (reportName root reference suffix)).bytes ≠ dots := by
  obtain ⟨kept, hbytes, hne, -, hkept⟩ := reportName_cases root reference suffix
  rw [hbytes]
  rintro rfl
  have hkeep : kept = rewritten kept :=
    eq_of_rewritten_eq_dots rfl fun b hb => hdots b (List.mem_append_left _ hb)
  rw [← hkeep] at hdots hlen
  have hdot : kept = List.replicate kept.length dot :=
    List.eq_replicate_of_mem fun b hb => hdots b (List.mem_append_left _ hb)
  have hpos : 0 < kept.length := List.length_pos_iff.2 hne
  rw [List.length_append, List.length_append] at hlen
  have hcases : kept.length = 1 ∨ kept.length = 2 := by omega
  rcases hkept with hstep | ⟨-, after, hext, hstep⟩
  · rcases hcases with h | h <;> rw [h] at hdot
    · exact hstep.2.1 hdot
    · exact hstep.2.2.1 hdot
  · have hmark : reference.reportMark = dot :: rewritten after := by rw [reportMark, hext]
    rw [hmark, List.length_cons] at hlen
    have hafter : after = [] := by
      by_contra h
      have := List.length_pos_iff.2 (rewritten_ne_nil h)
      omega
    have hone : kept.length = 1 := by omega
    rw [hone] at hdot
    rw [hdot, hafter] at hstep
    exact hstep.2.2.1 rfl

/-- **With a suffix that has no slash**, what follows the directories is one name. -/
theorem isStep_reportName (root reference : Path) (hsuffix : '/' ∉ suffix.toList) :
    (Component.name (ofText (reportName root reference suffix)).bytes).IsStep := by
  obtain ⟨kept, hbytes, hne, hslash, -⟩ := reportName_cases root reference suffix
  refine ⟨?_, reportName_ne_dots (by simp) (by simp), reportName_ne_dots (by simp) (by simp), ?_⟩
  · rw [hbytes]
    exact List.append_ne_nil_of_left_ne_nil (rewritten_ne_nil hne) _
  · rw [hbytes, List.mem_append, not_or]
    exact ⟨slash_notMem_rewritten hslash, slash_notMem_mark hsuffix reference⟩

/-- What is one name is read as one name. -/
theorem components_of_isStep (h : (Component.name p.bytes).IsStep) :
    p.components = [.name p.bytes] := by
  have hplain : IsPlain [.name p.bytes] := isPlain_of_isStep (by simpa using h)
  have hread := components_ofComponents (by simp) hplain
  have hwritten : ofComponents [.name p.bytes] = p := by simp [ofComponents, join, isEmpty, ofComponent]
  rwa [hwritten] at hread

/-- With a suffix that has no slash, a derived path is names. -/
theorem components_derive_of_slash_notMem (root reference : Path) (hsuffix : '/' ∉ suffix.toList) :
    (derive root reference suffix).components =
      root.reportDirs ++ [.name (ofText (reportName root reference suffix)).bytes] := by
  rw [components_derive, components_of_isStep (isStep_reportName root reference hsuffix)]

theorem staysBelow_derive (root reference : Path) (hsuffix : '/' ∉ suffix.toList) :
    (derive root reference suffix).StaysBelow := by
  have hread := components_of_isStep (isStep_reportName root reference hsuffix)
  refine staysBelow_derive_iff.2 (staysBelow_of_named (by simp [hread]) fun c hc => ?_)
  rw [hread] at hc
  exact ⟨_, List.mem_singleton.1 hc⟩

end Path

/-- **Reports cannot leave the directory for reports**, as long as the suffix has no slash. Whatever
bytes the root and the reference are, the derived path is relative and says something. It goes down by
names only if the suffix has no slash, and otherwise exactly when its last text does. Below any
directory, the normal form of the two has then the steps of the directory and just these names. -/
theorem derived_reports_stay_below (root reference : Path) (suffix : String) :
    (derive root reference suffix).isAbsolute = false ∧
    (derive root reference suffix).components ≠ [] ∧
    ('/' ∉ suffix.toList → (derive root reference suffix).StaysBelow) ∧
    ((derive root reference suffix).StaysBelow ↔
      (ofText (reportName root reference suffix)).StaysBelow) ∧
    ((derive root reference suffix).StaysBelow → ∀ outputDir : Path,
      (outputDir.join (derive root reference suffix)).normalize.components =
        outputDir.steps ++ (derive root reference suffix).components) :=
  ⟨isAbsolute_derive root reference suffix, components_derive_ne_nil root reference suffix,
    staysBelow_derive root reference, staysBelow_derive_iff,
    StaysBelow.components_join_normalize⟩

/-- A root without names, and a reference whose stem is a dot. -/
theorem dotted_stem_stays_below :
    derive (ofText "..") (ofText "..a") "" = ofText "..a" ∧
      ((ofText "out").join (derive (ofText "..") (ofText "..a") "")).normalize.components =
        [.name (ofText "out").bytes, .name (ofText "..a").bytes] := by
  obtain ⟨-, -, hbelow, -, hjoin⟩ := derived_reports_stay_below (ofText "..") (ofText "..a") ""
  exact ⟨by decide, hjoin (hbelow (by decide)) (ofText "out")⟩

/-- A table with a suffix that has slashes. -/
def slashedTable : RawConfig where
  engine := ⟨"analyse", [], none, none⟩
  harness := { RawHarness.unset with
    outputDir := some (.ofText "out"), suffix := some "/../../report" }
  cases := [
    { name := "vault", description := "", root := .ofText "vault",
      reference := .ofText "golden/vault.md", args := [], env := .empty, setup := none,
      expect := none }]

/-- The table is accepted, but its report goes past the directory for reports. -/
theorem slashed_suffix_leads_out :
    (resolve slashedTable).map (fun config => config.cases.map config.harness.outputOf) =
        .ok [(ofText "out").join (derive (ofText "vault") (ofText "golden/vault.md") "/../../report")] ∧
      ¬ (derive (ofText "vault") (ofText "golden/vault.md") "/../../report").StaysBelow ∧
      ((ofText "out").join
        (derive (ofText "vault") (ofText "golden/vault.md") "/../../report")).normalize =
        ofText "report.md" := by
  refine ⟨by rfl, fun h => ?_, by decide⟩
  obtain ⟨n, hn⟩ := h.named .up (by decide)
  cases hn

end GoldenCheck

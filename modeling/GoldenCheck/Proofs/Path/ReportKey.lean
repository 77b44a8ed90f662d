import GoldenCheck.Proofs.Path.Format
import GoldenCheck.Proofs.Path.RootNames

/-!
# When two reports go to one path

Of a root, the path of a report takes the names of its normal form, the last one as a text; a root without
names takes the stem of the reference instead. This is the key of the report (`Path.reportKey`). The names of
the normal form are those that are left when the root is walked (`Path.names_normalize`), so a root and its
normal form have one report (`Path.derive_normalize`). With a suffix that has no slash, and two references
that both have an extension or both have none, two reports go to one path exactly when their keys and the
extensions are the same (`Path.derive_eq_derive_iff`), and they do so below any directory
(`Path.normal_join_derive_eq_iff`).
-/

namespace GoldenCheck

open Utf8

/-- The name that a component is, if it is one. -/
def Component.name? : Component → Option Bytes
  | .name n => some n
  | _ => none

namespace Path

/-- What the path of a report takes from a root and a reference, but for the extension. -/
structure ReportKey where
  /-- The directories. -/
  dirs : List Bytes
  /-- The text that the last name begins with. -/
  stem : String
  deriving DecidableEq, Repr

/-- The names of the normal form of a root, the last one as a text; without names, the stem of the
reference, or `report` if it has none. -/
def reportKey (root reference : Path) : ReportKey :=
  match (root.normalize.components.filterMap Component.name?).reverse with
  | last :: before => ⟨before.reverse, decodeLossy last⟩
  | [] => ⟨[], (reference.stem?.map decodeLossy).getD fallbackStem⟩

/-- Two reports take the same from their roots and references: the key, and the extension. -/
def SameReport (root reference root' reference' : Path) : Prop :=
  reportKey root reference = reportKey root' reference' ∧ reference.format? = reference'.format?

instance (root reference root' reference' : Path) :
    Decidable (SameReport root reference root' reference') :=
  inferInstanceAs (Decidable (_ ∧ _))

variable {root reference root' reference' : Path} {suffix : String}

/-! ### Names of normal forms -/

theorem filterMap_name?_of_unnamed {cs : List Component} (h : ∀ c ∈ cs, ¬ c.IsNamed) :
    cs.filterMap Component.name? = [] := by
  refine List.filterMap_eq_nil_iff.2 fun c hc => ?_
  cases c with
  | name n => exact absurd ⟨n, rfl⟩ (h _ hc)
  | root | here | up => rfl

/-- **The names of a normal form** are those that are left when the path is walked. -/
theorem names_normalize (root : Path) :
    root.normalize.components.filterMap Component.name? = root.rootNames.reverse := by
  have hsteps : root.steps.filterMap Component.name? =
      root.normalize.components.filterMap Component.name? := by
    rw [steps, List.filterMap_filter]
    refine List.filterMap_congr fun c _ => ?_
    cases c <;> rfl
  obtain ⟨ground, hsplit, hground⟩ := steps_eq_append_rootNames root
  rw [← hsteps, hsplit, List.filterMap_append, filterMap_name?_of_unnamed hground, List.nil_append,
    List.filterMap_map]
  exact List.filterMap_some

theorem rootNames_normalize (root : Path) : root.normalize.rootNames = root.rootNames := by
  have h := names_normalize root.normalize
  rw [normalize_normalize, names_normalize] at h
  exact (List.reverse_injective h).symm

/-- **A root and its normal form** have one report. -/
theorem derive_normalize (root reference : Path) (suffix : String) :
    derive root.normalize reference suffix = derive root reference suffix := by
  rw [derive, derive, rootNames_normalize]

/-- The key of a report is read off its directories and its stem. -/
theorem reportKey_eq (root reference : Path) :
    reportKey root reference = ⟨root.rootNames.tail.reverse, reportStem root reference⟩ := by
  rw [reportKey, reportStem, names_normalize, List.reverse_reverse]
  cases root.rootNames <;> rfl

theorem reportKey_eq_iff : reportKey root reference = reportKey root' reference' ↔
    root.reportDirs = root'.reportDirs ∧ reportStem root reference = reportStem root' reference' := by
  have hinj : Function.Injective Component.name := fun _ _ => Component.name.inj
  rw [reportKey_eq, reportKey_eq, ReportKey.mk.injEq, reportDirs, reportDirs,
    (List.map_injective_iff.2 hinj).eq_iff]

/-! ### The last name -/

/-- Where bytes are cut at a dot, with no dot after it, is told by the bytes. -/
theorem append_dot_inj {front front' back back' : Bytes} (hback : dot ∉ back) (hback' : dot ∉ back')
    (hne : front ≠ []) (hne' : front' ≠ []) (h : front ++ dot :: back = front' ++ dot :: back') :
    front = front' ∧ back = back' := by
  have hcut := congrArg splitName h
  rw [splitName_append_dot hne hback, splitName_append_dot hne' hback'] at hcut
  simpa using hcut

/-- The extension of a reference is told by what is written for it. -/
theorem reportMark_eq_iff : reference.reportMark = reference'.reportMark ↔
    reference.format? = reference'.format? := by
  unfold reportMark format?
  cases reference.extension? <;> cases reference'.extension? <;> simp [rewritten_eq_rewritten_iff]

/-- A front and what is written for an extension after it are told by the bytes, when it is known whether
there is an extension. -/
theorem append_reportMark_inj {front front' : Bytes} (hne : front ≠ []) (hne' : front' ≠ [])
    (hboth : reference.format? = none ↔ reference'.format? = none)
    (h : front ++ reference.reportMark = front' ++ reference'.reportMark) :
    front = front' ∧ reference.reportMark = reference'.reportMark := by
  rw [format?_eq_none_iff, format?_eq_none_iff] at hboth
  unfold reportMark at h ⊢
  cases hext : reference.extension? with
  | none =>
    rw [hext, hboth.1 hext, List.append_nil, List.append_nil] at h
    exact ⟨h, by rw [hboth.1 hext]⟩
  | some ext =>
    cases hext' : reference'.extension? with
    | none => exact absurd (hboth.2 hext') (by simp [hext])
    | some ext' =>
      rw [hext, hext'] at h
      obtain ⟨hfront, hback⟩ := append_dot_inj (dot_notMem_rewritten (dot_notMem_of_extension? hext))
        (dot_notMem_rewritten (dot_notMem_of_extension? hext')) hne hne' h
      exact ⟨hfront, by simp only [hback]⟩

/-- **The last name of a report** tells its stem and its extension apart, when it is known whether there
is an extension. -/
theorem reportName_eq_iff (hboth : reference.format? = none ↔ reference'.format? = none) :
    reportName root reference suffix = reportName root' reference' suffix ↔
      reportStem root reference = reportStem root' reference' ∧
        reference.format? = reference'.format? := by
  have hfront : ∀ r p : Path, encode (reportStem r p) ++ encode suffix ≠ [] := fun r p =>
    List.append_ne_nil_of_left_ne_nil (encode_reportStem_ne_nil r p) _
  rw [← encode_injective.eq_iff, encode_reportName, encode_reportName, ← reportMark_eq_iff]
  constructor
  · intro h
    obtain ⟨hstems, hmark⟩ := append_reportMark_inj (hfront _ _) (hfront _ _) hboth h
    exact ⟨encode_injective (List.append_cancel_right hstems), hmark⟩
  · rintro ⟨hstem, hmark⟩
    rw [hstem, hmark]

/-! ### Derived paths -/

/-- Two reports have the same components exactly when they take the same from their roots and
references. -/
theorem components_derive_eq_iff (hsuffix : '/' ∉ suffix.toList)
    (hboth : reference.format? = none ↔ reference'.format? = none) :
    (derive root reference suffix).components = (derive root' reference' suffix).components ↔
      SameReport root reference root' reference' := by
  rw [components_derive_of_slash_notMem root reference hsuffix,
    components_derive_of_slash_notMem root' reference' hsuffix, SameReport, reportKey_eq_iff, and_assoc,
    ← reportName_eq_iff hboth]
  constructor
  · intro h
    obtain ⟨hdirs, hlast⟩ := List.append_inj' h rfl
    exact ⟨hdirs, encode_injective (Component.name.inj (List.singleton_inj.1 hlast))⟩
  · rintro ⟨hdirs, hname⟩
    rw [hdirs, hname]

/-- **Two reports go to one path** exactly when they take the same from their roots and references. -/
theorem derive_eq_derive_iff (hsuffix : '/' ∉ suffix.toList)
    (hboth : reference.format? = none ↔ reference'.format? = none) :
    derive root reference suffix = derive root' reference' suffix ↔
      SameReport root reference root' reference' := by
  refine ⟨fun h => (components_derive_eq_iff hsuffix hboth).1 (congrArg _ h), fun h => ?_⟩
  obtain ⟨hdirs, hstem⟩ := reportKey_eq_iff.1 h.1
  rw [derive_eq, derive_eq, hdirs, (reportName_eq_iff hboth).2 ⟨hstem, h.2⟩]

/-- Two reports that stay below one directory meet there exactly when they meet at all. -/
theorem normalize_join_derive_eq_iff (hsuffix : '/' ∉ suffix.toList)
    (hboth : reference.format? = none ↔ reference'.format? = none) (outputDir : Path) :
    (outputDir.join (derive root reference suffix)).normalize =
        (outputDir.join (derive root' reference' suffix)).normalize ↔
      SameReport root reference root' reference' := by
  have hjoin : ∀ r p : Path, (outputDir.join (derive r p suffix)).normalize.components =
      outputDir.steps ++ (derive r p suffix).components := fun r p =>
    (staysBelow_derive r p hsuffix).components_join_normalize outputDir
  constructor
  · intro h
    have hcomponents := congrArg components h
    rw [hjoin, hjoin, List.append_cancel_left_eq] at hcomponents
    exact (components_derive_eq_iff hsuffix hboth).1 hcomponents
  · intro h
    rw [(derive_eq_derive_iff hsuffix hboth).2 h]

end Path

end GoldenCheck

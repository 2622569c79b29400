/-
# What guards hide

A guarded text, seen through the preprocessor, holds the lines of the fragments that the build can
see and no others, in the order of the fragments. A fragment is seen unless the build is older than
the release that it needs, or the fragment is deprecated and the build leaves such fragments out.
The guards stand around runs of neighbours: each longest run that shares a version and a deprecation
has its conditions opened once and closed once.

Both are shown for one run first (`yields_guardedRun`, `directives_guardedRun`), and runs are put
together line by line.

Key definitions: `Fragment.IsVisible`, `MaximalRuns`, `runDirectives`.
Key theorems: `filledLines_intercalate`, `yields_guardedRun`, `directives_guardedRun`,
`maximalRuns_splitBy`, `preprocess_guarded`.
-/
import Mathlib.Data.List.SplitBy
import BindingGen.Guard
import BindingGen.Proofs.Guard.Preprocessor

namespace BindingGen

open Text

/-! ### Visible fragments -/

/-- A fragment is visible in a build that has the release it needs, unless it is deprecated and the
build leaves deprecated declarations out. A version that names no release needs none. -/
def Fragment.IsVisible (build : Build) (f : Fragment) : Prop :=
  (∀ r, Version.Names f.since r → r ≤ build.version) ∧
    (f.deprecated = true → build.deprecatedSet = false)

/-- Whether a build has the release that a version names. -/
def Build.reaches (build : Build) (since : String) : Bool :=
  (Version.release? since).all fun r => r ≤ build.version

/-- Whether a build holds deprecated declarations, as far as they are asked for. -/
def Build.admits (build : Build) (deprecated : Bool) : Bool := !deprecated || !build.deprecatedSet

theorem Build.reaches_iff {build : Build} {since : String} :
    build.reaches since = true ↔ ∀ r, Version.Names since r → r ≤ build.version := by
  simp [Build.reaches, Option.all_eq_true, Version.release?_eq_some_iff]

theorem Fragment.isVisible_iff {build : Build} {f : Fragment} :
    f.IsVisible build ↔ (build.reaches f.since && build.admits f.deprecated) = true := by
  rw [Fragment.IsVisible, Bool.and_eq_true_iff, Build.reaches_iff, Build.admits]
  cases f.deprecated <;> simp

instance (build : Build) (f : Fragment) : Decidable (f.IsVisible build) :=
  decidable_of_iff _ Fragment.isVisible_iff.symm

/-! ### Texts between line feeds -/

theorem filledLines_append_break (a b : String) :
    filledLines (a ++ "\n" ++ b) = filledLines a ++ filledLines b := by
  rw [filledLines, linesOf_append_break, List.filter_append]
  rfl

theorem filledLines_append_breaks {separator : String} (hseparator : IsBreaks separator)
    (a b : String) : filledLines (a ++ separator ++ b) = filledLines a ++ filledLines b := by
  obtain ⟨n, hlines⟩ := linesOf_append_breaks hseparator a b
  have hempty : (List.replicate n ([] : List Char)).filter (· ≠ []) = [] := by
    rw [List.filter_eq_nil_iff]
    intro line hline
    simp [List.eq_of_mem_replicate hline]
  rw [filledLines, hlines, List.filter_append, List.filter_append, hempty, List.nil_append]
  rfl

/-- Texts between line feeds keep their lines. -/
theorem filledLines_intercalate {separator : String} (hseparator : IsBreaks separator)
    (texts : List String) :
    filledLines (separator.intercalate texts) = texts.flatMap filledLines := by
  induction texts with
  | nil => rfl
  | cons text rest ih =>
    cases rest with
    | nil => rw [String.intercalate_singleton, List.flatMap_singleton]
    | cons next rest =>
      rw [String.intercalate_cons_cons, filledLines_append_breaks hseparator, ih]
      rfl

theorem directives_eq (text : String) :
    directives text = ((filledLines text).filter isDirective).map Directive.ofLine? := by
  have hfilter : (linesOf text).filter isDirective = (filledLines text).filter isDirective := by
    rw [filledLines, List.filter_filter]
    refine List.filter_congr fun line _ => ?_
    cases hline : isDirective line with
    | false => rfl
    | true => simpa using ne_nil_of_isDirective hline
  rw [directives, hfilter]

/-! ### Blocks -/

/-- The text is a block that depends on the condition and holds another text. -/
def IsBlock (condition : Condition) (body text : String) : Prop :=
  ∃ opening, Directive.ofLine? opening = some (.opening condition) ∧
    filledLines text = opening :: (filledLines body ++ ["#endif".toList])

theorem isBlock_of_opening {opening : String} {condition : Condition}
    (hbreak : '\n' ∉ opening.toList)
    (hread : Directive.ofLine? opening.toList = some (.opening condition)) (body : String) :
    IsBlock condition body (opening ++ "\n" ++ body ++ "\n" ++ "#endif") := by
  refine ⟨opening.toList, hread, ?_⟩
  have hopening : filledLines opening = [opening.toList] := by
    rw [filledLines, linesOf_of_not_mem hbreak, List.filter_cons_of_pos]
    · rfl
    · simpa using ne_nil_of_isDirective (isDirective_of_ofLine? hread)
  have hclosing : filledLines "#endif" = ["#endif".toList] := by decide
  rw [filledLines_append_break, filledLines_append_break, hopening, hclosing]
  rfl

section Guards

variable {settings : Settings} {build : Build} {condition : Condition} {body text : String}

theorem IsBlock.yields (h : IsBlock condition body text) {active : Bool}
    (hholds : condition.holds? settings build = some active) {kept : List (List Char)}
    (hbody : Yields settings build (filledLines body) kept) :
    Yields settings build (filledLines text) (if active then kept else []) := by
  obtain ⟨opening, hopening, hlines⟩ := h
  rw [hlines]
  exact Yields.block hopening hholds Directive.ofLine?_endif hbody

theorem IsBlock.directives_eq (h : IsBlock condition body text) :
    directives text = some (.opening condition) :: (directives body ++ [some .closing]) := by
  obtain ⟨opening, hopening, hlines⟩ := h
  have hclosing : isDirective "#endif".toList = true := by decide
  rw [BindingGen.directives_eq, BindingGen.directives_eq, hlines,
    List.filter_cons_of_pos (isDirective_of_ofLine? hopening), List.filter_append,
    List.filter_cons_of_pos hclosing, List.filter_nil, List.map_cons, List.map_append, hopening]
  rfl

theorem isBlock_versionGuard (hname : isMacroName settings.versionMacro.toList = true)
    {since : String} {r : Release} (hr : Version.release? since = some r) (body : String) :
    IsBlock (.atLeast settings.versionMacro.toList r) body (versionGuard settings since body) := by
  obtain ⟨⟨major, minor, micro⟩, hparts, rfl⟩ := Option.map_eq_some_iff.mp hr
  obtain ⟨hmajor, hminor, hmicro, -⟩ := Version.parts?_eq_some hparts
  let opening :=
    "#if " ++ settings.versionMacro ++ "(" ++ major ++ "," ++ minor ++ "," ++ micro ++ ")"
  have htext : versionGuard settings since body = opening ++ "\n" ++ body ++ "\n" ++ "#endif" := by
    have hend : ")\n" = ")" ++ "\n" := rfl
    have hclose : "\n#endif" = "\n" ++ "#endif" := rfl
    simp only [versionGuard, hparts, opening, hend, hclose, String.append_assoc]
  have hline : opening.toList = "#if ".toList ++ (settings.versionMacro.toList ++
      '(' :: ((major.toList ++ ',' :: (minor.toList ++ ',' :: micro.toList)) ++ [')'])) := by
    simp [opening]
  have hbreak : '\n' ∉ opening.toList := by
    have hdigit : isDigit '\n' = false := by decide
    have hbreakfree := not_mem_of_isMacroName hname (c := '\n') (by decide)
    rw [hline]
    simp [hbreakfree, not_mem_of_isNumeral hmajor hdigit, not_mem_of_isNumeral hminor hdigit,
      not_mem_of_isNumeral hmicro hdigit]
  rw [htext]
  refine isBlock_of_opening hbreak ?_ body
  rw [hline]
  exact Directive.ofLine?_version hname hmajor hminor hmicro

theorem isBlock_deprecationGuard (hname : isMacroName settings.deprecatedMacro.toList = true)
    (body : String) :
    IsBlock (.unset settings.deprecatedMacro.toList) body
      (deprecationGuard settings true body) := by
  have htext : deprecationGuard settings true body =
      "#ifndef " ++ settings.deprecatedMacro ++ "\n" ++ body ++ "\n" ++ "#endif" := by
    have hclose : "\n#endif" = "\n" ++ "#endif" := rfl
    simp only [deprecationGuard, if_true, hclose, String.append_assoc]
  have hline : ("#ifndef " ++ settings.deprecatedMacro).toList =
      "#ifndef ".toList ++ settings.deprecatedMacro.toList := String.toList_append
  have hbreak : '\n' ∉ ("#ifndef " ++ settings.deprecatedMacro).toList := by
    have hbreakfree := not_mem_of_isMacroName hname (c := '\n') (by decide)
    rw [hline]
    simp [hbreakfree]
  rw [htext]
  refine isBlock_of_opening hbreak ?_ body
  rw [hline]
  exact Directive.ofLine?_unset hname

end Guards

/-! ### Runs of neighbours -/

/-- What the guards of a fragment depend on, the outer one first. -/
def Fragment.conditions (settings : Settings) (f : Fragment) : List Condition :=
  (Version.release? f.since).toList.map (.atLeast settings.versionMacro.toList) ++
    if f.deprecated then [.unset settings.deprecatedMacro.toList] else []

/-- The directives around a run of fragments that share their guards: each condition is opened once
and closed once. -/
def runDirectives (settings : Settings) : List Fragment → List Directive
  | [] => []
  | first :: _ =>
    (first.conditions settings).map .opening ++ (first.conditions settings).map fun _ => .closing

/-- The text of a fragment has no directive of its own. -/
def Fragment.IsPlain (f : Fragment) : Prop := ∀ line ∈ linesOf f.text, isDirective line = false

theorem Fragment.sameGuard_iff {f g : Fragment} :
    f.sameGuard g = true ↔ f.since = g.since ∧ f.deprecated = g.deprecated := by
  simp [Fragment.sameGuard]

section Runs

variable {settings : Settings} {build : Build} {separator : String} {run : List Fragment}
  (hversion : isMacroName settings.versionMacro.toList = true)
  (hdeprecated : isMacroName settings.deprecatedMacro.toList = true)
  (hseparator : IsBreaks separator)

include hversion in
theorem yields_versionGuard {since body : String} {kept : List (List Char)}
    (hbody : Yields settings build (filledLines body) kept) :
    Yields settings build (filledLines (versionGuard settings since body))
      (if build.reaches since then kept else []) := by
  cases hr : Version.release? since with
  | none =>
    have hnone : Version.parts? since = none := Option.map_eq_none_iff.mp hr
    simpa [versionGuard, hnone, Build.reaches, hr] using hbody
  | some r =>
    have hreaches : build.reaches since = decide (r ≤ build.version) := by
      simp [Build.reaches, hr]
    rw [hreaches]
    exact (isBlock_versionGuard hversion hr body).yields (by simp [Condition.holds?]) hbody

include hdeprecated in
theorem yields_deprecationGuard {deprecated : Bool} {body : String} {kept : List (List Char)}
    (hbody : Yields settings build (filledLines body) kept) :
    Yields settings build (filledLines (deprecationGuard settings deprecated body))
      (if build.admits deprecated then kept else []) := by
  cases deprecated with
  | false => simpa [deprecationGuard, Build.admits] using hbody
  | true =>
    have hblock : Yields settings build (filledLines (deprecationGuard settings true body))
        (if !build.deprecatedSet then kept else []) :=
      (isBlock_deprecationGuard hdeprecated body).yields (by simp [Condition.holds?]) hbody
    simpa [Build.admits] using hblock

include hversion hdeprecated in
/-- Both guards of a fragment let a text through where the fragment is visible. -/
theorem yields_guards (f : Fragment) {body : String} {kept : List (List Char)}
    (hbody : Yields settings build (filledLines body) kept) :
    Yields settings build
      (filledLines (versionGuard settings f.since (deprecationGuard settings f.deprecated body)))
      (if f.IsVisible build then kept else []) := by
  have hinner : Yields settings build (filledLines (deprecationGuard settings f.deprecated body))
      (if build.admits f.deprecated then kept else []) := yields_deprecationGuard hdeprecated hbody
  have houter : Yields settings build
      (filledLines (versionGuard settings f.since (deprecationGuard settings f.deprecated body)))
      (if build.reaches f.since then if build.admits f.deprecated then kept else [] else []) :=
    yields_versionGuard hversion hinner
  have hkept : (if f.IsVisible build then kept else []) =
      if build.reaches f.since then if build.admits f.deprecated then kept else [] else [] := by
    simp only [Fragment.isVisible_iff]
    cases build.reaches f.since <;> simp
  rw [hkept]
  exact houter

theorem Fragment.IsPlain.not_isDirective {f : Fragment} (h : f.IsPlain) :
    ∀ line ∈ filledLines f.text, isDirective line = false :=
  fun line hline => h line (List.mem_filter.mp hline).1

/-- The fragments share their guards. -/
def IsUniform (run : List Fragment) : Prop :=
  ∀ f ∈ run, ∀ g ∈ run, f.since = g.since ∧ f.deprecated = g.deprecated

theorem filledLines_run (hseparator : IsBreaks separator) (run : List Fragment) :
    filledLines (separator.intercalate (run.map (·.text))) = run.flatMap (filledLines ·.text) := by
  rw [filledLines_intercalate hseparator, List.flatMap_map]

theorem not_isDirective_of_mem_run (hplain : ∀ f ∈ run, f.IsPlain) :
    ∀ line ∈ run.flatMap (filledLines ·.text), isDirective line = false := by
  intro line hline
  obtain ⟨f, hf, hline⟩ := List.mem_flatMap.mp hline
  exact (hplain f hf).not_isDirective line hline

include hversion hdeprecated hseparator in
/-- A run keeps the lines of its visible fragments: its guards hide all of them or none. -/
theorem yields_guardedRun (hplain : ∀ f ∈ run, f.IsPlain) (huniform : IsUniform run) :
    Yields settings build (filledLines (guardedRun settings separator run))
      ((run.filter (·.IsVisible build)).flatMap (filledLines ·.text)) := by
  cases run with
  | nil => exact Yields.nil
  | cons first rest =>
    have hbody : Yields settings build
        (filledLines (separator.intercalate ((first :: rest).map (·.text))))
        ((first :: rest).flatMap (filledLines ·.text)) := by
      rw [filledLines_run hseparator]
      exact Yields.lines (not_isDirective_of_mem_run hplain)
    have hguards := yields_guards hversion hdeprecated first hbody
    have hvisible : ∀ f ∈ first :: rest, f.IsVisible build ↔ first.IsVisible build := by
      intro f hf
      obtain ⟨hsince, hdep⟩ := huniform f hf first List.mem_cons_self
      rw [Fragment.IsVisible, Fragment.IsVisible, hsince, hdep]
    by_cases hfirst : first.IsVisible build
    · have hall : (first :: rest).filter (·.IsVisible build) = first :: rest := by
        rw [List.filter_eq_self]
        exact fun f hf => by simpa using (hvisible f hf).mpr hfirst
      rw [if_pos hfirst] at hguards
      rw [hall]
      exact hguards
    · have hnone : (first :: rest).filter (·.IsVisible build) = [] := by
        rw [List.filter_eq_nil_iff]
        exact fun f hf => by simpa using fun h => hfirst ((hvisible f hf).mp h)
      rw [if_neg hfirst] at hguards
      rw [hnone]
      exact hguards

include hversion hdeprecated in
theorem directives_guards (f : Fragment) {body : String} (hbody : directives body = []) :
    directives (versionGuard settings f.since (deprecationGuard settings f.deprecated body)) =
      (runDirectives settings [f]).map some := by
  have hinner : directives (deprecationGuard settings f.deprecated body) =
      if f.deprecated then [some (.opening (.unset settings.deprecatedMacro.toList)), some .closing]
      else [] := by
    cases f.deprecated with
    | false => exact hbody
    | true => rw [(isBlock_deprecationGuard hdeprecated body).directives_eq, hbody]; rfl
  cases hr : Version.release? f.since with
  | none =>
    have hnone : Version.parts? f.since = none := Option.map_eq_none_iff.mp hr
    rw [versionGuard, hnone]
    dsimp only
    rw [hinner, runDirectives, Fragment.conditions, hr]
    cases f.deprecated <;> rfl
  | some r =>
    rw [(isBlock_versionGuard hversion hr _).directives_eq, hinner, runDirectives,
      Fragment.conditions, hr]
    cases f.deprecated <;> rfl

include hversion hdeprecated hseparator in
theorem directives_guardedRun (hplain : ∀ f ∈ run, f.IsPlain) :
    directives (guardedRun settings separator run) = (runDirectives settings run).map some := by
  cases run with
  | nil => rfl
  | cons first rest =>
    have hbody : directives (separator.intercalate ((first :: rest).map (·.text))) = [] := by
      rw [directives_eq, filledLines_run hseparator, List.map_eq_nil_iff, List.filter_eq_nil_iff]
      exact fun line hline => by simpa using not_isDirective_of_mem_run hplain line hline
    exact directives_guards hversion hdeprecated first hbody

end Runs

/-! ### Guarded texts -/

/-- The runs are the longest runs of neighbours that share their guards. -/
structure MaximalRuns (fragments : List Fragment) (runs : List (List Fragment)) : Prop where
  flatten : runs.flatten = fragments
  ne_nil : ∀ run ∈ runs, run ≠ []
  uniform : ∀ run ∈ runs, IsUniform run
  maximal : runs.IsChain fun run next =>
    ∀ f ∈ run, ∀ g ∈ next, ¬(f.since = g.since ∧ f.deprecated = g.deprecated)

theorem isUniform_of_isChain {run : List Fragment}
    (h : run.IsChain fun f g => f.sameGuard g = true) : IsUniform run := by
  have hkeys : (run.map fun f => (f.since, f.deprecated)).IsChain (· = ·) :=
    List.isChain_map_of_isChain _
      (fun f g hfg => Prod.ext_iff.mpr (Fragment.sameGuard_iff.mp hfg)) h
  rw [List.isChain_eq_iff_eq_replicate] at hkeys
  cases run with
  | nil => exact fun f hf => by cases hf
  | cons first rest =>
    have hfirst : ∀ f ∈ first :: rest, (f.since, f.deprecated) = (first.since, first.deprecated) :=
      fun f hf => List.eq_of_mem_replicate (hkeys _ rfl ▸ List.mem_map_of_mem hf)
    intro f hf g hg
    exact Prod.ext_iff.mp ((hfirst f hf).trans (hfirst g hg).symm)

/-- Guards are shared by the longest runs of neighbours. -/
theorem maximalRuns_splitBy (fragments : List Fragment) :
    MaximalRuns fragments (fragments.splitBy Fragment.sameGuard) := by
  have huniform : ∀ run ∈ fragments.splitBy Fragment.sameGuard, IsUniform run :=
    fun run hrun => isUniform_of_isChain (List.isChain_of_mem_splitBy hrun)
  refine ⟨List.flatten_splitBy _ _, fun run hrun => List.ne_nil_of_mem_splitBy hrun, huniform, ?_⟩
  refine (List.isChain_getLast_head_splitBy _ fragments).imp_of_mem_imp ?_
  rintro run next hrun hnext ⟨hlast, hhead, hdiffer⟩ f hf g hg hfg
  -- the last of one run and the first of the next have the guards of any others
  obtain ⟨hsince, hdep⟩ := huniform run hrun _ (List.getLast_mem hlast) f hf
  obtain ⟨hsince', hdep'⟩ := huniform next hnext g hg _ (List.head_mem hhead)
  have hsame : (run.getLast hlast).sameGuard (next.head hhead) = true :=
    Fragment.sameGuard_iff.mpr
      ⟨hsince.trans (hfg.1.trans hsince'), hdep.trans (hfg.2.trans hdep')⟩
  rw [hsame] at hdiffer
  cases hdiffer

section Guarded

variable {settings : Settings} {build : Build} {separator : String} {runs : List (List Fragment)}
  (hversion : isMacroName settings.versionMacro.toList = true)
  (hdeprecated : isMacroName settings.deprecatedMacro.toList = true)
  (hseparator : IsBreaks separator)
include hversion hdeprecated hseparator

theorem yields_guardedRuns (hplain : ∀ f ∈ runs.flatten, f.IsPlain)
    (huniform : ∀ run ∈ runs, IsUniform run) :
    Yields settings build (runs.flatMap fun run => filledLines (guardedRun settings separator run))
      ((runs.flatten.filter (·.IsVisible build)).flatMap (filledLines ·.text)) := by
  induction runs with
  | nil => exact Yields.nil
  | cons run rest ih =>
    rw [List.flatten_cons] at hplain ⊢
    have hrun : Yields settings build (filledLines (guardedRun settings separator run))
        ((run.filter (·.IsVisible build)).flatMap (filledLines ·.text)) :=
      yields_guardedRun hversion hdeprecated hseparator
        (fun f hf => hplain f (List.mem_append_left _ hf)) (huniform run List.mem_cons_self)
    have hrest := ih (fun f hf => hplain f (List.mem_append_right _ hf))
      fun other hother => huniform other (List.mem_cons_of_mem _ hother)
    rw [List.flatMap_cons, List.filter_append, List.flatMap_append]
    exact hrun.append hrest

theorem directives_guardedRuns (hplain : ∀ f ∈ runs.flatten, f.IsPlain) :
    (runs.flatMap fun run => directives (guardedRun settings separator run)) =
      (runs.flatMap (runDirectives settings)).map some := by
  rw [List.map_flatMap]
  refine List.flatMap_congr fun run hrun => ?_
  exact directives_guardedRun hversion hdeprecated hseparator
    fun f hf => hplain f (List.mem_flatten_of_mem hrun hf)

end Guarded

/-- **Guards hide what a build cannot see.** Preprocessing a guarded text succeeds, which it does
only if every block is closed, and leaves the lines of the visible fragments in order, empty lines
aside. The directives of the text open and close the conditions of each longest run of neighbours
that share their guards once. -/
theorem preprocess_guarded {settings : Settings} {separator : String} {fragments : List Fragment}
    (hversion : isMacroName settings.versionMacro.toList = true)
    (hdeprecated : isMacroName settings.deprecatedMacro.toList = true)
    (hseparator : IsBreaks separator) (hplain : ∀ f ∈ fragments, f.IsPlain) :
    (∀ build, ∃ lines,
      preprocess settings build (guarded settings separator fragments) = some lines ∧
      lines.filter (· ≠ []) =
        (fragments.filter (·.IsVisible build)).flatMap (filledLines ·.text)) ∧
    ∃ runs, MaximalRuns fragments runs ∧
      directives (guarded settings separator fragments) =
        (runs.flatMap (runDirectives settings)).map some := by
  have hruns := maximalRuns_splitBy fragments
  have hlines : filledLines (guarded settings separator fragments) =
      (fragments.splitBy Fragment.sameGuard).flatMap
        fun run => filledLines (guardedRun settings separator run) := by
    rw [guarded, filledLines_intercalate hseparator, List.flatMap_map]
  rw [← hruns.flatten] at hplain
  refine ⟨fun build => ?_, _, hruns, ?_⟩
  · have hyields : Yields settings build (filledLines (guarded settings separator fragments))
        (((fragments.splitBy Fragment.sameGuard).flatten.filter (·.IsVisible build)).flatMap
          (filledLines ·.text)) :=
      hlines ▸ yields_guardedRuns hversion hdeprecated hseparator hplain hruns.uniform
    rw [hruns.flatten] at hyields
    exact hyields.preprocess_eq
  · rw [directives_eq, hlines, ← directives_guardedRuns hversion hdeprecated hseparator hplain,
      List.filter_flatMap, List.map_flatMap]
    simp only [directives_eq]

/-- Two functions of one release, then a deprecated one of a later release. -/
def agedFunctions : List Fragment :=
  [{ text := "show = 1", since := "2.4" }, { text := "hide = 2\n  + 3", since := "2.4" },
    { text := "wave = 4", since := "2.10.3", deprecated := true },
    { text := "nod = 5", since := "2" }]

/-- A build between the two releases sees the older functions, and the one whose version names no
release. -/
theorem preprocess_agedFunctions :
    isMacroName "GTK_CHECK_VERSION".toList = true ∧ isMacroName "DISABLE_DEPRECATED".toList = true ∧
    IsBreaks "\n\n" ∧ (∀ f ∈ agedFunctions, f.IsPlain) ∧
    (∃ lines, preprocess {} ⟨⟨2, 10, 0⟩, false⟩ (guarded {} "\n\n" agedFunctions) = some lines ∧
      lines.filter (· ≠ []) =
        ["show = 1".toList, "hide = 2".toList, "  + 3".toList, "nod = 5".toList]) ∧
    ∃ runs, MaximalRuns agedFunctions runs ∧
      directives (guarded {} "\n\n" agedFunctions) =
        (runs.flatMap (runDirectives {})).map some := by
  have hversion : isMacroName (({} : Settings).versionMacro).toList = true := by decide
  have hdeprecated : isMacroName (({} : Settings).deprecatedMacro).toList = true := by decide
  have hseparator : IsBreaks "\n\n" := by decide
  have hplain : ∀ f ∈ agedFunctions, f.IsPlain := by
    show ∀ f ∈ agedFunctions, ∀ line ∈ linesOf f.text, isDirective line = false
    decide
  obtain ⟨hlines, hruns⟩ := preprocess_guarded hversion hdeprecated hseparator hplain
  obtain ⟨lines, hpreprocess, hfilter⟩ := hlines ⟨⟨2, 10, 0⟩, false⟩
  refine ⟨hversion, hdeprecated, hseparator, hplain, ⟨lines, hpreprocess, hfilter.trans ?_⟩, hruns⟩
  decide +kernel

end BindingGen

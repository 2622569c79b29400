/-
# The preprocessor

What a compiler sees of a guarded text. A line that begins with `#` is a directive: it opens a block
that depends on the version built against or on a macro, or it closes the block opened last. The
other lines are kept where all blocks around them are active. Preprocessing fails on a directive
that it cannot read, on a macro that it does not know and on a block that is not closed.

A segment of lines does the same wherever it stands: `Yields` says what it keeps inside active
blocks, and that it keeps nothing inside others. Segments are put together by `Yields.append` and
`Yields.block`.

Key definitions: `Condition`, `Directive`, `Directive.ofLine?`, `Build`, `preprocess`, `Yields`.
Key theorems: `Directive.ofLine?_version`, `Yields.append`, `Yields.block`, `Yields.preprocess_eq`.
-/
import BindingGen.Proofs.Text.Line
import BindingGen.Proofs.Version.Release
import BindingGen.Settings
import BindingGen.Text.Blank

namespace BindingGen

open Text

/-! ### Directives -/

/-- What a block depends on: that the version built against is a release or a later one, or that a
macro is not set. -/
inductive Condition where
  | atLeast (name : List Char) (release : Release)
  | unset (name : List Char)
  deriving DecidableEq

/-- A line for the preprocessor. -/
inductive Directive where
  | opening (condition : Condition)
  | closing
  deriving DecidableEq

/-- Whether a line is for the preprocessor. -/
def isDirective (line : List Char) : Bool := line.head? = some '#'

/-- Whether a character can stand in the name of a macro. Identifiers are made of such
characters. -/
def isNameChar (c : Char) : Bool := !isBlank c && c != '(' && c != ')'

/-- Whether a text can be the name of a macro. -/
def isMacroName (name : List Char) : Bool := !name.isEmpty && name.all isNameChar

/-- The release whose three numbers stand between commas. -/
def releaseOfArguments? (arguments : List Char) : Option Release :=
  match arguments.splitOn ',' with
  | [major, minor, micro] =>
    if isNumeral major && isNumeral minor && isNumeral micro then
      some ⟨numeralValue major, numeralValue minor, numeralValue micro⟩
    else none
  | _ => none

/-- The condition that a macro with the numbers of a release spells. -/
def Condition.ofCall? (call : List Char) : Option Condition :=
  let name := call.takeWhile isNameChar
  match call.dropWhile isNameChar with
  | '(' :: arguments =>
    if isMacroName name && arguments.getLast? = some ')' then
      (releaseOfArguments? arguments.dropLast).map (.atLeast name)
    else none
  | _ => none

/-- The directive on a line. -/
def Directive.ofLine? : List Char → Option Directive
  | ['#', 'e', 'n', 'd', 'i', 'f'] => some .closing
  | '#' :: 'i' :: 'f' :: 'n' :: 'd' :: 'e' :: 'f' :: ' ' :: name =>
    if isMacroName name then some (.opening (.unset name)) else none
  | '#' :: 'i' :: 'f' :: ' ' :: call => (Condition.ofCall? call).map .opening
  | _ => none

/-- The directives of a text, in order; one that cannot be read is `none`. -/
def directives (text : String) : List (Option Directive) :=
  ((linesOf text).filter isDirective).map Directive.ofLine?

theorem not_mem_of_isMacroName {name : List Char} (h : isMacroName name = true) {c : Char}
    (hc : isNameChar c = false) : c ∉ name := by
  intro hmem
  rw [List.all_eq_true.mp (Bool.and_eq_true_iff.mp h).2 c hmem] at hc
  cases hc

theorem releaseOfArguments?_eq {major minor micro : List Char} (hmajor : isNumeral major = true)
    (hminor : isNumeral minor = true) (hmicro : isNumeral micro = true) :
    releaseOfArguments? (major ++ ',' :: (minor ++ ',' :: micro)) =
      some ⟨numeralValue major, numeralValue minor, numeralValue micro⟩ := by
  have hcomma : isDigit ',' = false := by decide
  have hsplit : (major ++ ',' :: (minor ++ ',' :: micro)).splitOn ',' = [major, minor, micro] := by
    rw [List.splitOn_append_cons_self_of_not_mem (not_mem_of_isNumeral hmajor hcomma),
      List.splitOn_append_cons_self_of_not_mem (not_mem_of_isNumeral hminor hcomma),
      List.splitOn_eq_singleton (not_mem_of_isNumeral hmicro hcomma)]
  simp [releaseOfArguments?, hsplit, hmajor, hminor, hmicro]

/-- A macro with the numbers of a release spells a condition. -/
theorem Condition.ofCall?_eq {name major minor micro : List Char}
    (hname : isMacroName name = true) (hmajor : isNumeral major = true)
    (hminor : isNumeral minor = true) (hmicro : isNumeral micro = true) :
    Condition.ofCall? (name ++ '(' :: ((major ++ ',' :: (minor ++ ',' :: micro)) ++ [')'])) =
      some (.atLeast name ⟨numeralValue major, numeralValue minor, numeralValue micro⟩) := by
  have hchars : ∀ c ∈ name, isNameChar c = true :=
    List.all_eq_true.mp (Bool.and_eq_true_iff.mp hname).2
  have hstop : ¬isNameChar '(' = true := by decide
  unfold Condition.ofCall?
  rw [List.takeWhile_append_of_pos hchars, List.takeWhile_cons_of_neg hstop,
    List.dropWhile_append_of_pos hchars, List.dropWhile_cons_of_neg hstop, List.append_nil]
  simp only [List.getLast?_concat, List.dropLast_concat,
    releaseOfArguments?_eq hmajor hminor hmicro, hname]
  rfl

/-- The line that opens a block for a release and later ones. -/
theorem Directive.ofLine?_version {name major minor micro : List Char}
    (hname : isMacroName name = true) (hmajor : isNumeral major = true)
    (hminor : isNumeral minor = true) (hmicro : isNumeral micro = true) :
    Directive.ofLine? ("#if ".toList ++
        (name ++ '(' :: ((major ++ ',' :: (minor ++ ',' :: micro)) ++ [')']))) =
      some (.opening (.atLeast name
        ⟨numeralValue major, numeralValue minor, numeralValue micro⟩)) := by
  show (Condition.ofCall? (name ++ '(' :: ((major ++ ',' :: (minor ++ ',' :: micro)) ++ [')']))).map
    Directive.opening = _
  rw [Condition.ofCall?_eq hname hmajor hminor hmicro]
  rfl

theorem Directive.ofLine?_unset {name : List Char} (hname : isMacroName name = true) :
    Directive.ofLine? ("#ifndef ".toList ++ name) = some (.opening (.unset name)) := by
  show (if isMacroName name then some (Directive.opening (.unset name)) else none) = _
  rw [if_pos hname]

theorem Directive.ofLine?_endif : Directive.ofLine? "#endif".toList = some .closing := rfl

/-! ### Preprocessing -/

/-- What a module is built with: the version of the library, and whether the macro that leaves
deprecated declarations out is set. -/
structure Build where
  version : Release
  deprecatedSet : Bool

section Preprocess

variable (settings : Settings) (build : Build)

/-- Whether a condition holds, if it is about the macro that the settings name for it. -/
def Condition.holds? : Condition → Option Bool
  | .atLeast name release =>
    if name = settings.versionMacro.toList then some (decide (release ≤ build.version)) else none
  | .unset name =>
    if name = settings.deprecatedMacro.toList then some (!build.deprecatedSet) else none

/-- The lines that are kept. `around` tells of each block around the lines, the innermost first,
whether it is active. -/
def preprocessLines (around : List Bool) : List (List Char) → Option (List (List Char))
  | [] => if around.isEmpty then some [] else none
  | line :: rest =>
    if isDirective line then
      match Directive.ofLine? line, around with
      | some (.opening condition), _ => do
        preprocessLines ((← condition.holds? settings build) :: around) rest
      | some .closing, _ :: outer => preprocessLines outer rest
      | _, _ => none
    else do
      let kept ← preprocessLines around rest
      return if around.all id then line :: kept else kept

/-- The lines of a text that the preprocessor keeps, if all blocks are closed. -/
def preprocess (text : String) : Option (List (List Char)) :=
  preprocessLines settings build [] (linesOf text)

/-! ### Segments -/

/-- The segment keeps the lines `kept` inside active blocks and none inside others, and closes the
blocks that it opens. -/
def Yields (segment kept : List (List Char)) : Prop :=
  ∀ around rest, preprocessLines settings build around (segment ++ rest) =
    (preprocessLines settings build around rest).map ((if around.all id then kept else []) ++ ·)

end Preprocess

section Segments

variable {settings : Settings} {build : Build} {segment other kept kept' : List (List Char)}
  {line : List Char} {condition : Condition} {active : Bool}

theorem isDirective_of_ofLine? {directive : Directive}
    (h : Directive.ofLine? line = some directive) : isDirective line = true := by
  unfold Directive.ofLine? at h
  split at h <;> first | rfl | cases h

theorem preprocessLines_line (h : isDirective line = false) (around : List Bool)
    (rest : List (List Char)) :
    preprocessLines settings build around (line :: rest) =
      (preprocessLines settings build around rest).map
        ((if around.all id then [line] else []) ++ ·) := by
  cases hrest : preprocessLines settings build around rest with
  | none => simp [preprocessLines, h, hrest]
  | some kept => cases hall : around.all id <;> simp_all [preprocessLines]

theorem preprocessLines_opening (hline : Directive.ofLine? line = some (.opening condition))
    (hholds : condition.holds? settings build = some active) (around : List Bool)
    (rest : List (List Char)) :
    preprocessLines settings build around (line :: rest) =
      preprocessLines settings build (active :: around) rest := by
  simp [preprocessLines, isDirective_of_ofLine? hline, hline, hholds]

theorem preprocessLines_closing (hline : Directive.ofLine? line = some .closing)
    (around : List Bool) (rest : List (List Char)) :
    preprocessLines settings build (active :: around) (line :: rest) =
      preprocessLines settings build around rest := by
  simp [preprocessLines, isDirective_of_ofLine? hline, hline]

theorem Yields.nil : Yields settings build [] [] := by
  intro around rest
  simp

theorem Yields.append (h : Yields settings build segment kept)
    (h' : Yields settings build other kept') :
    Yields settings build (segment ++ other) (kept ++ kept') := by
  intro around rest
  rw [List.append_assoc, h, h', Option.map_map]
  cases around.all id <;> simp [Function.comp_def]

theorem Yields.lines (h : ∀ line ∈ segment, isDirective line = false) :
    Yields settings build segment segment := by
  induction segment with
  | nil => exact Yields.nil
  | cons line rest ih =>
    have hline : Yields settings build [line] [line] :=
      preprocessLines_line (h line List.mem_cons_self)
    exact hline.append (ih fun other hother => h other (List.mem_cons_of_mem _ hother))

/-- A block keeps what it holds if its condition does. -/
theorem Yields.block {closing : List Char}
    (hopening : Directive.ofLine? line = some (.opening condition))
    (hholds : condition.holds? settings build = some active)
    (hclosing : Directive.ofLine? closing = some .closing)
    (h : Yields settings build segment kept) :
    Yields settings build (line :: (segment ++ [closing])) (if active then kept else []) := by
  intro around rest
  rw [List.cons_append, List.append_assoc, List.singleton_append,
    preprocessLines_opening hopening hholds, h, preprocessLines_closing hclosing]
  cases active <;> simp

theorem ne_nil_of_isDirective (h : isDirective line = true) : line ≠ [] := by
  rintro rfl
  cases h

/-- Empty lines do not matter to the lines that are not empty. -/
theorem preprocessLines_filter (around : List Bool) (lines : List (List Char)) :
    preprocessLines settings build around (lines.filter (· ≠ [])) =
      (preprocessLines settings build around lines).map (·.filter (· ≠ [])) := by
  fun_induction preprocessLines settings build around lines with
  | case1 around h => simp [preprocessLines, h]
  | case2 around h => simp [preprocessLines, h]
  | case3 around line rest hline condition hread ih =>
    rw [List.filter_cons_of_pos (by simpa using ne_nil_of_isDirective hline)]
    cases hholds : condition.holds? settings build with
    | none => simp [preprocessLines, hline, hread, hholds]
    | some active => exact (preprocessLines_opening hread hholds around _).trans (ih active)
  | case4 line rest hline active outer hread ih =>
    rw [List.filter_cons_of_pos (by simpa using ne_nil_of_isDirective hline)]
    exact (preprocessLines_closing hread outer _).trans ih
  | case5 around line rest hline hopening hclosing =>
    rw [List.filter_cons_of_pos (by simpa using ne_nil_of_isDirective hline)]
    simp only [preprocessLines, hline, if_true]
    rfl
  | case6 around line rest hline ih =>
    have hplain : isDirective line = false := by simpa using hline
    by_cases hempty : line = []
    · subst hempty
      rw [List.filter_cons_of_neg (by simp), ih]
      cases preprocessLines settings build around rest with
      | none => rfl
      | some kept => cases hall : around.all id <;> simp
    · rw [List.filter_cons_of_pos (by simpa using hempty), preprocessLines_line hplain, ih]
      cases preprocessLines settings build around rest with
      | none => rfl
      | some kept => cases hall : around.all id <;> simp [hempty]

/-- What a whole text keeps, empty lines aside. -/
theorem Yields.preprocess_eq {text : String} (h : Yields settings build (filledLines text) kept) :
    ∃ lines, preprocess settings build text = some lines ∧ lines.filter (· ≠ []) = kept := by
  have hnil := h [] []
  rw [List.append_nil, filledLines, preprocessLines_filter] at hnil
  simpa [preprocess, preprocessLines] using hnil

end Segments

end BindingGen

/-
# Comments stay comments

The text of a comment is handed to a compiler together with the code around it, so each of its
lines has to be a line of a comment. Words are wrapped after their line feeds became spaces and a
program is cut into lines, so that neither can break a line; a title is taken as it is. Where every
title is on one line, the text is nothing or whole lines of a comment, the first with the mark of
documentation, the last bare, and none with a blank at its end. A title with a line feed inside
puts the rest of itself in front of the compiler.

Key definitions: `IsCommentBlock`, `IsComment`, `IsOneLine`, `Para.TitleIsOneLine`.
Key theorems: `not_mem_break_of_mem_wrapWords`, `DocContext.isOneLine_of_mem_paragraphLines`,
`isCommentBlock_commentLines`, `DocContext.isComment_comment`.
-/
import BindingGen.Proofs.Haddock.Written
import BindingGen.Proofs.Text.Line
import BindingGen.Proofs.Text.Trimming

namespace BindingGen

open Text

/-! ### The form of a comment -/

/-- The lines of a comment of documentation. -/
structure IsCommentBlock (lines : List (List Char)) : Prop where
  opens : ∃ line ∈ lines.head?, "-- |".toList <+: line
  goesOn : ∀ line ∈ lines.tail, "--".toList <+: line
  closes : lines.getLast? = some "--".toList
  trimmed : ∀ line ∈ lines, EndsVisible line

/-- The text is nothing, or the lines of a comment, each ended by a line feed. -/
def IsComment (text : String) : Prop :=
  text = "" ∨ ∃ lines, linesOf text = lines ++ [[]] ∧ IsCommentBlock lines

/-- A text that is one line once the blanks at its end are taken off. -/
def IsOneLine (text : String) : Prop := '\n' ∉ stripRight text.toList

instance (text : String) : Decidable (IsOneLine text) :=
  inferInstanceAs (Decidable ('\n' ∉ stripRight text.toList))

/-- The title of a paragraph is on one line, if the paragraph is a title. -/
def Para.TitleIsOneLine : Para → Prop
  | .title heading => IsOneLine heading
  | _ => True

instance : (p : Para) → Decidable p.TitleIsOneLine
  | .title heading => inferInstanceAs (Decidable (IsOneLine heading))
  | .text _ | .program _ | .definition _ _ | .item _ | .unknown _ => .isTrue trivial

/-! ### Lines of paragraphs -/

theorem isOneLine_of_not_mem {line : String} (h : '\n' ∉ line.toList) : IsOneLine line :=
  fun hmem => h (stripRight_subset _ hmem)

/-- Words are wrapped to lines without a line feed, whatever the words are. -/
theorem not_mem_break_of_mem_wrapWords {words lines : List String} {width column : Int}
    (h : wrapWords words width column = .ok lines) {line : String} (hline : line ∈ lines) :
    '\n' ∉ line.toList := by
  unfold wrapWords at h
  split_ifs at h with hwords
  · cases h
    rw [List.mem_singleton.mp hline]
    decide
  · split at h
    · cases h
    · rename_i first rest hwrap
      cases h
      have hfree : ∀ cs ∈ first :: rest, '\n' ∉ cs := fun cs hcs =>
        not_mem_break_of_mem_wrapLines (hwrap ▸ hcs)
      obtain ⟨cs, hcs, rfl⟩ := List.mem_map.mp hline
      rw [String.toList_ofList]
      rcases List.mem_cons.mp hcs with rfl | hcs
      · unfold fromColumn
        split_ifs
        · exact fun hbreak => hfree first List.mem_cons_self (List.drop_subset _ _ hbreak)
        · exact hfree first List.mem_cons_self
      · exact hfree cs (List.mem_cons_of_mem _ hcs)

/-- Escaping adds backslashes only, and only where there is a special character. -/
theorem mem_escape {text : String} {c : Char} (h : c ∈ (escape text).toList) :
    c ∈ text.toList ∨ c = '\\' ∧ ∃ a ∈ text.toList, isSpecial a = true := by
  rw [escape, String.toList_ofList, List.mem_flatMap] at h
  obtain ⟨a, ha, hca⟩ := h
  split_ifs at hca with hspecial
  · rcases List.mem_cons.mp hca with rfl | hca
    · exact Or.inr ⟨rfl, a, ha, hspecial⟩
    · exact Or.inl (List.mem_singleton.mp hca ▸ ha)
  · exact Or.inl (List.mem_singleton.mp hca ▸ ha)

theorem escape_append (a b : String) : escape (a ++ b) = escape a ++ escape b := by
  simp [escape]

theorem not_isBlank_of_isSpecial {c : Char} (h : isSpecial c = true) : isBlank c = false := by
  have hvisible : ("/@<`\"\\".toList.all fun d => !isBlank d) = true := by decide
  simpa using List.all_eq_true.mp hvisible c (by simpa [isSpecial] using h)

theorem isBlank_of_mem_escape {text : String} (h : ∀ c ∈ text.toList, isBlank c = true) :
    ∀ c ∈ (escape text).toList, isBlank c = true := by
  intro c hc
  rcases mem_escape hc with hc | ⟨-, a, ha, hspecial⟩
  · exact h c hc
  · exact absurd (h a ha) (by simp [not_isBlank_of_isSpecial hspecial])

theorem isOneLine_escape {title : String} (h : IsOneLine title) : IsOneLine (escape title) := by
  obtain ⟨core, blanks, rfl, hcore, hblanks⟩ : ∃ core blanks, title = core ++ blanks ∧
      core.toList = stripRight title.toList ∧ ∀ c ∈ blanks.toList, isBlank c = true := by
    refine ⟨String.ofList (stripRight title.toList),
      String.ofList (takeEndWhile isBlank title.toList), ?_, String.toList_ofList, fun c hc => ?_⟩
    · rw [← String.ofList_append, stripRight, dropEndWhile_append_takeEndWhile,
        String.ofList_toList]
    · rw [String.toList_ofList] at hc
      exact List.mem_rtakeWhile_imp hc
  intro hbreak
  rw [escape_append, String.toList_append] at hbreak
  rcases mem_stripRight_append hbreak with hbreak | hbreak
  · rcases mem_escape hbreak with hmem | ⟨hslash, -⟩
    · exact h (hcore ▸ hmem)
    · exact absurd hslash (by decide)
  · rw [stripRight_eq_nil_iff.mpr (isBlank_of_mem_escape hblanks)] at hbreak
    cases hbreak

/-- The lines of a paragraph have no line feed, unless it is a title that has one. -/
theorem DocContext.isOneLine_of_mem_paragraphLines {ctx : DocContext} {p : Para}
    (hp : p.TitleIsOneLine) {lines : List String} (h : ctx.paragraphLines p = .ok lines)
    {line : String} (hline : line ∈ lines) : IsOneLine line := by
  cases p with
  | text spans =>
    obtain ⟨words, -, hwrap⟩ := bind_eq_ok_iff.mp h
    exact isOneLine_of_not_mem (not_mem_break_of_mem_wrapWords hwrap hline)
  | program text =>
    cases h
    obtain ⟨cs, hcs, rfl⟩ := List.mem_map.mp hline
    refine isOneLine_of_not_mem fun hbreak => ?_
    rw [String.toList_append, List.mem_append] at hbreak
    rcases hbreak with hbreak | hbreak
    · exact absurd hbreak (by decide)
    · rw [String.toList_ofList] at hbreak
      exact absurd (not_isLineBreak_of_mem_splitLines hcs _ hbreak) (by decide)
  | title title =>
    cases h
    rw [List.mem_singleton.mp hline]
    intro hbreak
    rw [String.toList_append] at hbreak
    rcases mem_stripRight_append hbreak with hbreak | hbreak
    · exact absurd hbreak (by decide)
    · exact isOneLine_escape hp hbreak
  | definition term spans =>
    obtain ⟨term, -, h⟩ := bind_eq_ok_iff.mp h
    obtain ⟨words, -, hwrap⟩ := bind_eq_ok_iff.mp h
    exact isOneLine_of_not_mem (not_mem_break_of_mem_wrapWords hwrap hline)
  | item spans =>
    obtain ⟨words, -, hwrap⟩ := bind_eq_ok_iff.mp h
    exact isOneLine_of_not_mem (not_mem_break_of_mem_wrapWords hwrap hline)
  | unknown kind => cases h

/-! ### Lines of comments -/

theorem mem_intercalate_singleton {α : Type} {a separator : α} {blocks : List (List α)}
    (h : a ∈ [separator].intercalate blocks) : a = separator ∨ ∃ block ∈ blocks, a ∈ block := by
  induction blocks with
  | nil => cases h
  | cons block rest ih =>
    cases rest with
    | nil => exact Or.inr ⟨block, List.mem_cons_self, by simpa using h⟩
    | cons next rest =>
      rw [List.intercalate_cons_cons, List.mem_append, List.mem_append, List.mem_singleton] at h
      rcases h with (h | h) | h
      · exact Or.inr ⟨block, List.mem_cons_self, h⟩
      · exact Or.inl h
      · refine (ih h).imp_right ?_
        rintro ⟨other, hother, ha⟩
        exact ⟨other, List.mem_cons_of_mem _ hother, ha⟩

theorem mem_commentContent {blocks : List (List String)} {line : String}
    (h : line ∈ commentContent blocks) : line = "" ∨ ∃ block ∈ blocks, line ∈ block := by
  refine (mem_intercalate_singleton h).imp_right ?_
  rintro ⟨block, hblock, hline⟩
  exact ⟨block, List.mem_of_mem_filter hblock, hline⟩

theorem isOneLine_of_mem_commentContent {blocks : List (List String)}
    (h : ∀ block ∈ blocks, ∀ line ∈ block, IsOneLine line) :
    ∀ line ∈ commentContent blocks, IsOneLine line := by
  intro line hline
  rcases mem_commentContent hline with rfl | ⟨block, hblock, hline⟩
  · exact isOneLine_of_not_mem (by decide)
  · exact h block hblock line hline

theorem endsVisible_trimLine (line : String) : EndsVisible (trimLine line).toList := by
  rw [trimLine, String.toList_ofList]
  exact endsVisible_stripRight _

/-- A mark at the start of a line is not trimmed away. -/
theorem prefix_trimLine {mark line : String} (hmark : EndsVisible mark.toList)
    (h : mark.toList <+: line.toList) : mark.toList <+: (trimLine line).toList := by
  obtain ⟨rest, hrest⟩ := h
  rw [trimLine, String.toList_ofList, ← hrest]
  exact prefix_stripRight_append hmark rest

theorem not_mem_break_trimLine {mark line : String} (hmark : '\n' ∉ mark.toList)
    (hline : IsOneLine line) : '\n' ∉ (trimLine (mark ++ line)).toList := by
  rw [trimLine, String.toList_ofList, String.toList_append]
  exact fun hbreak => (mem_stripRight_append hbreak).elim hmark hline

theorem not_mem_break_of_mem_commentLines {content : List String}
    (h : ∀ line ∈ content, IsOneLine line) : ∀ line ∈ commentLines content, '\n' ∉ line.toList := by
  cases content with
  | nil => exact fun line hline => by cases hline
  | cons first rest =>
    rw [List.forall_mem_cons] at h
    rw [commentLines, List.cons_append, List.forall_mem_cons, List.forall_mem_append,
      List.forall_mem_map, List.forall_mem_singleton]
    exact ⟨not_mem_break_trimLine (by decide) h.1,
      fun line hline => not_mem_break_trimLine (by decide) (h.2 line hline), by decide⟩

theorem isCommentBlock_commentLines {content : List String} (hne : content ≠ []) :
    IsCommentBlock ((commentLines content).map (·.toList)) := by
  obtain ⟨first, rest, rfl⟩ := List.exists_cons_of_ne_nil hne
  have hmarked (line : String) : "--".toList <+: (trimLine ("-- " ++ line)).toList :=
    prefix_trimLine (by decide) ⟨' ' :: line.toList, by simp⟩
  refine ⟨⟨_, rfl, prefix_trimLine (by decide) ⟨' ' :: first.toList, by simp⟩⟩, ?_, ?_, ?_⟩
  · simp only [commentLines, List.cons_append, List.map_cons, List.tail_cons, List.forall_mem_map,
      List.forall_mem_append, List.forall_mem_singleton]
    exact ⟨fun line _ => hmarked line, List.prefix_rfl⟩
  · rw [commentLines, List.map_append, List.map_singleton, List.getLast?_concat]
  · simp only [commentLines, List.forall_mem_map, List.forall_mem_append, List.forall_mem_cons]
    exact ⟨⟨endsVisible_trimLine _, fun line _ => endsVisible_trimLine _⟩, by decide⟩

theorem mark_of_mem_commentLines {content : List String} {line : String}
    (h : line ∈ commentLines content) : "--".toList <+: line.toList := by
  have hne : content ≠ [] := by
    rintro rfl
    cases h
  have hblock := isCommentBlock_commentLines hne
  obtain ⟨first, hfirst, hopens⟩ := hblock.opens
  have hline : line.toList ∈ (commentLines content).map (·.toList) := List.mem_map_of_mem h
  rw [← List.cons_head?_tail hfirst, List.mem_cons] at hline
  rcases hline with hline | hline
  · rw [hline]
    exact List.IsPrefix.trans ⟨" |".toList, rfl⟩ hopens
  · exact hblock.goesOn _ hline

theorem isComment_commentLines {content : List String} (h : ∀ line ∈ content, IsOneLine line) :
    IsComment (String.join ((commentLines content).map (· ++ "\n"))) := by
  rcases eq_or_ne content [] with rfl | hne
  · exact Or.inl rfl
  · refine Or.inr ⟨_, ?_, isCommentBlock_commentLines hne⟩
    exact linesOf_join (not_mem_break_of_mem_commentLines h)

/-- **Documentation stays in its comment.** Where each title is on one line, known paragraphs are
always written, and the text is nothing or the lines of a comment: the first has the mark of
documentation, every other one starts as a comment, the last is bare, and none ends in a blank. -/
theorem DocContext.isComment_comment (ctx : DocContext) {paragraphs : List Para}
    (hknown : ∀ p ∈ paragraphs, p.isKnown = true) (htitle : ∀ p ∈ paragraphs, p.TitleIsOneLine) :
    ∃ text, ctx.comment paragraphs = .ok text ∧ IsComment text := by
  obtain ⟨blocks, hblocks⟩ : ∃ blocks, paragraphs.mapM ctx.paragraphLines = .ok blocks :=
    exists_ok_of_never (FailsOnly.mapM fun p hp => ctx.failsOnly_paragraphLines (hknown p hp))
  have honeLine : ∀ block ∈ blocks, ∀ line ∈ block, IsOneLine line := by
    intro block hblock line hline
    obtain ⟨p, hp, hlines⟩ := exists_of_mem_mapM hblocks hblock
    exact isOneLine_of_mem_paragraphLines (htitle p hp) hlines hline
  exact ⟨_, bind_eq_ok_iff.mpr ⟨blocks, hblocks, rfl⟩,
    isComment_commentLines (isOneLine_of_mem_commentContent honeLine)⟩

/-- Paragraphs of every kind, with a line feed in each of their texts. -/
def brokenParagraphs : List Para :=
  [.title "Usage \n", .text [.text "Press\nit, then call ", .functionRef "gtk_main\n"],
    .program "main = do\r\n  initGUI\n\n", .definition [.text "mode\n"] [.literal "NULL\nmain"],
    .item [.arg "hello\nworld", .text "\n--"]]

/-- Line feeds in texts, programs and terms, and one at the end of a title, break no comment. -/
theorem isComment_brokenParagraphs :
    (∀ p ∈ brokenParagraphs, p.isKnown = true) ∧ (∀ p ∈ brokenParagraphs, p.TitleIsOneLine) ∧
    ∃ text, DocContext.comment ⟨[], {}, true⟩ brokenParagraphs = .ok text ∧ IsComment text := by
  have hknown : ∀ p ∈ brokenParagraphs, p.isKnown = true := by decide
  have htitle : ∀ p ∈ brokenParagraphs, p.TitleIsOneLine := by decide
  exact ⟨hknown, htitle, DocContext.isComment_comment _ hknown htitle⟩

/-- A line feed inside a title puts the rest of the title in front of the compiler, so that known
paragraphs alone do not make a comment. -/
theorem not_isComment_brokenTitle :
    ¬∀ (ctx : DocContext) (paragraphs : List Para),
      (∀ fix ∈ ctx.settings.wordFixes, ∀ c ∈ (fix.1 ++ fix.2).toList, isBlank c = false) →
      (∀ p ∈ paragraphs, p.isKnown = true) →
      ∃ text, ctx.comment paragraphs = .ok text ∧ IsComment text := by
  intro h
  obtain ⟨text, htext, hcomment⟩ :=
    h ⟨[], {}, true⟩ [.title "Usage\nmain = undefined"] (by decide) (by decide)
  have hleak : DocContext.comment ⟨[], {}, true⟩ [.title "Usage\nmain = undefined"] =
      .ok "-- | * Usage\nmain = undefined\n--\n" := by decide +kernel
  obtain rfl := Except.ok.inj (htext.symm.trans hleak)
  rcases hcomment with hempty | ⟨lines, hlines, hblock⟩
  · exact absurd hempty (by decide)
  · have hread : linesOf "-- | * Usage\nmain = undefined\n--\n" =
        ["-- | * Usage".toList, "main = undefined".toList, "--".toList] ++ [[]] := by decide +kernel
    obtain rfl := List.append_cancel_right (hlines.symm.trans hread)
    exact absurd (hblock.goesOn "main = undefined".toList (by simp)) (by decide)

end BindingGen

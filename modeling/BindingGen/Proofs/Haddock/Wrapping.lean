/-
# Documentation is wrapped without loss

The words of documentation are written on lines, in order and with one space between two of them.
No line is longer than its room unless it is a single word, and none could have taken the first word
of the next line as well. The first line stands behind the mark of a comment and has less room than
the others; at a width without room for a word, each word is on a line of its own.

Key definitions: `lineBound`, `FillsGreedily`, `lineText`.
Key theorems: `intercalate_lineText`, `strip_intercalate`, `fillsGreedily_of_fill`,
`wrapWords_fillsGreedily`, `DocContext.wrapSpans_fillsGreedily`.
-/
import BindingGen.Proofs.Haddock.Words
import BindingGen.Proofs.Text.Greedy
import BindingGen.Proofs.Text.Trimming
import BindingGen.Proofs.Text.Words

namespace BindingGen

open Text

/-- The length that a line may have at a width; the first line starts in a later column. -/
def lineBound (width : Int) (i : Nat) : Int :=
  if i = 0 then max width 1 - commentColumn else max width 1

/-- The lines hold the words and nothing else. A line starts and ends with a word, is within its
bound unless it is a single word, and has no room for the first word of the next line. -/
structure FillsGreedily (bound : Nat → Int) (words lines : List String) : Prop where
  lossless : " ".intercalate lines = " ".intercalate words
  trimmed : ∀ line ∈ lines, line ≠ "" ∧ strip line.toList = line.toList
  fits : ∀ i line, lines[i]? = some line → line.length ≤ bound i ∨ line ∈ words
  full : ∀ i line next, lines[i]? = some line → lines[i + 1]? = some next →
    ∃ word rest, Text.words next.toList = word :: rest ∧ bound i < line.length + 1 + word.length

/-! ### Room -/

/-- The room of a line, which is never less than none. -/
def lineRoom (width : Int) (i : Nat) : Nat :=
  if i = 0 then max width.toNat 1 - commentColumn else max width.toNat 1

theorem lineBound_le_lineRoom (width : Int) (i : Nat) : lineBound width i ≤ lineRoom width i := by
  unfold lineBound lineRoom
  split_ifs <;> omega

/-- What fits into the room of a line is within its bound, unless it is nothing. -/
theorem le_lineBound {n i : Nat} {width : Int} (hpos : 0 < n) (h : n ≤ lineRoom width i) :
    n ≤ lineBound width i := by
  unfold lineRoom at h
  unfold lineBound
  split_ifs at h ⊢ <;> omega

/-! ### Lines of words -/

/-- The text of a line. -/
def lineText (line : List (List Char)) : String := String.ofList ([' '].intercalate line)

theorem toList_lineText (line : List (List Char)) :
    (lineText line).toList = [' '].intercalate line := String.toList_ofList

theorem lineText_eq (line : List (List Char)) :
    lineText line = " ".intercalate (line.map String.ofList) := by
  rw [← String.toList_inj, toList_lineText, String.toList_intercalate, List.map_map]
  simp [Function.comp_def]

/-- Lines that are joined by spaces are the joined words. -/
theorem intercalate_lineText {lines : List (List (List Char))} (h : ∀ line ∈ lines, line ≠ []) :
    " ".intercalate (lines.map lineText) = " ".intercalate (lines.flatten.map String.ofList) := by
  induction lines with
  | nil => rfl
  | cons line lines ih =>
    rw [List.forall_mem_cons] at h
    rcases eq_or_ne lines [] with rfl | hne
    · simp [lineText_eq]
    · have hrest : lines.flatten ≠ [] := by
        obtain ⟨next, rest, rfl⟩ := List.exists_cons_of_ne_nil hne
        simp [h.2 next List.mem_cons_self]
      rw [List.map_cons, String.intercalate_cons_of_ne_nil (by simpa using hne), ih h.2,
        List.flatten_cons, List.map_append, lineText_eq,
        String.intercalate_append_of_ne_nil (by simpa using h.1) (by simpa using hrest)]

section Line

variable {line : List (List Char)}

theorem intercalate_words_ne_nil (hne : line ≠ []) (h : ∀ w ∈ line, IsWord w) :
    [' '].intercalate line ≠ [] := by
  obtain ⟨first, rest, rfl⟩ := List.exists_cons_of_ne_nil hne
  rw [← flatten_spaced, spaced, List.flatten_cons]
  exact List.append_ne_nil_of_left_ne_nil (h first List.mem_cons_self).1 _

theorem strip_intercalate (h : ∀ w ∈ line, IsWord w) :
    strip ([' '].intercalate line) = [' '].intercalate line := by
  have hstart : ([' '].intercalate line).dropWhile isBlank = [' '].intercalate line := by
    cases line with
    | nil => rfl
    | cons first rest =>
      obtain ⟨hne, hfree⟩ := h first List.mem_cons_self
      obtain ⟨c, first, rfl⟩ := List.exists_cons_of_ne_nil hne
      have hc : isBlank c = false := hfree c List.mem_cons_self
      rw [← flatten_spaced, spaced, List.flatten_cons, List.cons_append, List.dropWhile_cons,
        if_neg (by simp [hc])]
  have hend : EndsVisible ([' '].intercalate line) := by
    rcases List.eq_nil_or_concat line with rfl | ⟨init, last, rfl⟩
    · exact fun c hc => by cases hc
    · obtain ⟨front, hfront⟩ := exists_spaced_concat init last
      obtain ⟨hne, hfree⟩ := h last (by simp)
      rw [← flatten_spaced, hfront, List.flatten_append, List.flatten_singleton]
      intro c hc
      rw [List.getLast?_append_of_ne_nil _ hne] at hc
      exact hfree c (List.mem_of_mem_getLast? hc)
  rw [strip, hstart, stripRight_eq_self_iff.mpr hend]

theorem words_intercalate_words (h : ∀ w ∈ line, IsWord w) :
    Text.words ([' '].intercalate line) = line := by
  rw [words_intercalate (by decide)]
  induction line with
  | nil => rfl
  | cons word line ih =>
    obtain ⟨hword, hline⟩ := List.forall_mem_cons.mp h
    rw [List.flatMap_cons, words_eq_singleton hword, ih hline, List.singleton_append]

end Line

/-- Lines that are filled with words have the words and are within their bounds. -/
theorem fillsGreedily_of_fill {width : Int} {words : List String}
    {lines : List (List (List Char))} (hwords : ∀ w ∈ words, IsWord w.toList)
    (h : Fill (max width.toNat 1) (max width.toNat 1 - commentColumn) (words.map (·.toList))
      lines) :
    FillsGreedily (lineBound width) words (lines.map lineText) := by
  have hline : ∀ line ∈ lines, line ≠ [] ∧ ∀ w ∈ line, IsWord w := by
    refine fun line hline => ⟨h.ne_nil_of_mem line hline, fun w hw => ?_⟩
    have hmem : w ∈ words.map (·.toList) := h.flatten_eq ▸ List.mem_flatten_of_mem hline hw
    obtain ⟨word, hword, rfl⟩ := List.mem_map.mp hmem
    exact hwords word hword
  refine ⟨?_, fun text htext => ?_, fun i text htext => ?_, fun i text next htext hnext => ?_⟩
  · have hsame : (words.map (·.toList)).map String.ofList = words := by
      simp [Function.comp_def]
    rw [intercalate_lineText h.ne_nil_of_mem, h.flatten_eq, hsame]
  · obtain ⟨line, hmem, rfl⟩ := List.mem_map.mp htext
    obtain ⟨hne, hfree⟩ := hline line hmem
    rw [toList_lineText]
    refine ⟨fun hempty => intercalate_words_ne_nil hne hfree ?_, strip_intercalate hfree⟩
    rw [← toList_lineText, hempty]
    rfl
  · rw [List.getElem?_map, Option.map_eq_some_iff] at htext
    obtain ⟨line, hmem, rfl⟩ := htext
    obtain ⟨hne, hfree⟩ := hline line (List.mem_of_getElem? hmem)
    rcases h.fits hmem with hfits | ⟨word, hword, rfl⟩
    · left
      rw [lineText, String.length_ofList]
      exact le_lineBound (List.length_pos_of_ne_nil (intercalate_words_ne_nil hne hfree)) hfits
    · right
      obtain ⟨w, hw, rfl⟩ := List.mem_map.mp hword
      rwa [lineText, List.intercalate_singleton, String.ofList_toList]
  · rw [List.getElem?_map, Option.map_eq_some_iff] at htext hnext
    obtain ⟨line, hmem, rfl⟩ := htext
    obtain ⟨nextLine, hnextMem, rfl⟩ := hnext
    obtain ⟨word, rest, rfl, hfull⟩ := h.full hmem hnextMem
    have hroom : lineRoom width i < ([' '].intercalate line).length + 1 + word.length := hfull
    have hbound := lineBound_le_lineRoom width i
    refine ⟨word, rest, ?_, ?_⟩
    · rw [toList_lineText, words_intercalate_words (hline _ (List.mem_of_getElem? hnextMem)).2]
    · rw [lineText, String.length_ofList]
      omega

/-- Words are written on lines without loss, within the bounds and greedily. -/
theorem wrapWords_fillsGreedily {words : List String} (hne : words ≠ [])
    (hwords : ∀ w ∈ words, IsWord w.toList) (width : Int) :
    ∃ lines, wrapWords words width commentColumn = .ok lines ∧
      FillsGreedily (lineBound width) words lines := by
  have hlists : ∀ w ∈ words.map (·.toList), IsWord w := by simpa using hwords
  obtain ⟨lines, hfill, hwrap⟩ := exists_fill_of_wrapLines width.toNat commentColumn hlists
  refine ⟨lines.map lineText, ?_, fillsGreedily_of_fill hwords hfill⟩
  obtain ⟨first, rest, rfl⟩ : ∃ first rest, lines = first :: rest := by
    refine List.exists_cons_of_ne_nil ?_
    rintro rfl
    exact hne (by simpa using hfill.flatten_eq.symm)
  have htext : (" ".intercalate words).toList = [' '].intercalate (words.map (·.toList)) :=
    String.toList_intercalate
  rw [wrapWords, if_neg (by simpa using hne), htext, Int.toNat_natCast, hwrap, List.map_cons]
  dsimp only
  rw [fromColumn, if_neg (by decide), ← List.map_cons, List.map_map]
  rfl

namespace DocContext

/-- **Documentation is wrapped without loss.** Where no word of a function's name is spelled with a
blank, the words of known spans fill one empty line if there are none. Otherwise they are written on
lines in order and with one space between two of them; each line starts and ends with a word, is
within its bound or a single word, and has no room for the first word of the next one. -/
theorem wrapSpans_fillsGreedily (ctx : DocContext) (hfixes : ctx.settings.FixesAreBlankFree)
    {spans : List Span} (hknown : ∀ s ∈ spans, s.isKnown = true) (width : Int) :
    ∃ ws, ctx.words spans = .ok ws ∧
      (ws = [] → ctx.wrapSpans spans width = .ok [""]) ∧
      (ws ≠ [] → ∃ lines, ctx.wrapSpans spans width = .ok lines ∧
        FillsGreedily (lineBound width) ws lines) := by
  obtain ⟨ws, hws⟩ := exists_ok_of_never (ctx.failsOnly_words hknown)
  refine ⟨ws, hws, ?_, fun hne => ?_⟩
  · rintro rfl
    exact bind_eq_ok_iff.mpr ⟨[], hws, rfl⟩
  · obtain ⟨lines, hlines, hfills⟩ :=
      wrapWords_fillsGreedily hne (ctx.isWord_of_mem_words hfixes hws) width
    exact ⟨lines, bind_eq_ok_iff.mpr ⟨ws, hws, hlines⟩, hfills⟩

end DocContext

/-- What is said of a button, with a tab, a line feed and a reference that is longer than a line. -/
def buttonSpans : List Span :=
  [.text "Opens a\t", .typeRef "GtkFileChooser", .text " at the URI, see\n gtk_file_chooser_uri()."]

/-- The words of the button on lines of twelve columns; the reference has a line of its own. -/
theorem wrapSpans_fillsGreedily_button :
    DocContext.wrapSpans ⟨[], .curated, false⟩ buttonSpans 12 =
        .ok ["Opens a", "@GtkFileChooser@", "at the URI,", "see", "'fileChooserURI'."] ∧
      FillsGreedily (lineBound 12)
        ["Opens", "a", "@GtkFileChooser@", "at", "the", "URI,", "see", "'fileChooserURI'."]
        ["Opens a", "@GtkFileChooser@", "at the URI,", "see", "'fileChooserURI'."] := by
  have hfixes : Settings.curated.FixesAreBlankFree := by decide +kernel
  have hknown : ∀ s ∈ buttonSpans, s.isKnown = true := by decide
  obtain ⟨ws, hws, -, hfills⟩ :=
    DocContext.wrapSpans_fillsGreedily ⟨[], .curated, false⟩ hfixes hknown 12
  have hwords : DocContext.words ⟨[], .curated, false⟩ buttonSpans =
      .ok ["Opens", "a", "@GtkFileChooser@", "at", "the", "URI,", "see", "'fileChooserURI'."] := by
    decide +kernel
  have hlines : DocContext.wrapSpans ⟨[], .curated, false⟩ buttonSpans 12 =
      .ok ["Opens a", "@GtkFileChooser@", "at the URI,", "see", "'fileChooserURI'."] := by
    decide +kernel
  obtain rfl := Except.ok.inj (hws.symm.trans hwords)
  obtain ⟨lines, hwrap, hfill⟩ := hfills (by simp)
  obtain rfl := Except.ok.inj (hwrap.symm.trans hlines)
  exact ⟨hlines, hfill⟩

end BindingGen

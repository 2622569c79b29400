/-
# Words and the lines they fill

A word of a text is not empty and has no blank character in it. A text that has a character that is
not blank fills a line at every width: neither the expansion of tabs nor the dropping of blank
chunks takes that character away. The lines that a text fills have no line feed in them.

Key theorems: `mem_words`, `mem_flattenSpace`, `wrapLines_ne_nil`, `not_mem_break_of_mem_wrapLines`.
-/
import Mathlib.Data.List.SplitBy
import BindingGen.Text.Wrap

namespace BindingGen.Text

/-! ### Words -/

/-- No part of a text has a character that the text is split at. The part that is being read when
`text` starts is `read`, its last character first. -/
theorem not_of_mem_splitOnPPrepend {p : Char → Bool} {part : List Char} :
    ∀ (text read : List Char), (∀ c ∈ read, p c = false) → part ∈ List.splitOnPPrepend p text read →
      ∀ c ∈ part, p c = false
  | [], read, hread, hpart => by
    rw [List.splitOnPPrepend_nil, List.mem_singleton] at hpart
    simpa [hpart] using hread
  | a :: text, read, hread, hpart => by
    cases ha : p a with
    | true =>
      rw [List.splitOnPPrepend_cons_pos ha, List.mem_cons] at hpart
      rcases hpart with rfl | hpart
      · simpa using hread
      · exact not_of_mem_splitOnPPrepend text [] (by simp) hpart
    | false =>
      rw [List.splitOnPPrepend_cons_neg ha] at hpart
      exact not_of_mem_splitOnPPrepend text (a :: read) (by simpa [ha] using hread) hpart

theorem mem_words {text word : List Char} (h : word ∈ words text) :
    word ≠ [] ∧ ∀ c ∈ word, isBlank c = false := by
  obtain ⟨hpart, hne⟩ := List.mem_filter.mp h
  exact ⟨by simpa using hne, not_of_mem_splitOnPPrepend text [] (by simp) hpart⟩

/-! ### Lines -/

theorem isBlank_of_isAsciiBlank {c : Char} (h : isAsciiBlank c = true) : isBlank c = true := by
  simp only [isAsciiBlank, Bool.or_eq_true, Bool.and_eq_true, decide_eq_true_eq] at h
  rcases h with ⟨h1, h2⟩ | rfl
  · simp only [isBlank, inRanges, blankRanges, List.any_cons, Bool.or_eq_true, Bool.and_eq_true,
      decide_eq_true_eq]
    exact Or.inl ⟨h1, h2⟩
  · decide

theorem mem_expandTabs {c : Char} (hc : c ≠ '\t') {text : List Char} (h : c ∈ text) (column : Nat) :
    c ∈ expandTabs column text := by
  induction text generalizing column with
  | nil => cases h
  | cons a text ih =>
    rw [expandTabs]
    rcases List.mem_cons.mp h with rfl | h
    · rw [if_neg hc]
      split_ifs <;> exact List.mem_cons_self
    · split_ifs
      · exact List.mem_append_right _ (ih h _)
      · exact List.mem_cons_of_mem _ (ih h _)
      · exact List.mem_cons_of_mem _ (ih h _)

/-- A text on one line has every character of the text that is not blank. -/
theorem mem_flattenSpace {c : Char} (hc : isBlank c = false) {text : List Char} (h : c ∈ text) :
    c ∈ flattenSpace text := by
  have hascii : isAsciiBlank c = false := by
    by_contra hne
    rw [isBlank_of_isAsciiBlank (by simpa using hne)] at hc
    cases hc
  have htab : c ≠ '\t' := by
    rintro rfl
    exact absurd hc (by decide)
  refine List.mem_map.mpr ⟨c, mem_expandTabs htab h 0, ?_⟩
  rw [hascii, if_neg Bool.false_ne_true]

theorem mem_dropBlankFirst {chunk : List Char} (hchunk : allBlank chunk = false)
    {todo : List (List Char)} (h : chunk ∈ todo) : chunk ∈ dropBlankFirst todo := by
  cases todo with
  | nil => cases h
  | cons first rest =>
    rw [dropBlankFirst]
    split_ifs with hfirst
    · rcases List.mem_cons.mp h with rfl | h
      · rw [hchunk] at hfirst
        cases hfirst
      · exact h
    · exact h

/-- Chunks that are not blank are not dropped at the start of a line. -/
theorem mem_lineStart {chunk : List Char} (hchunk : allBlank chunk = false) (begun : Bool)
    {todo : List (List Char)} (h : chunk ∈ todo) : chunk ∈ lineStart begun todo := by
  cases begun with
  | false => exact h
  | true => exact mem_dropBlankFirst hchunk h

/-- Chunks that are not blank are not dropped at the end of a line. -/
theorem mem_dropBlankLast {chunk : List Char} (hchunk : allBlank chunk = false)
    {line : List (List Char)} (h : chunk ∈ line) : chunk ∈ dropBlankLast line :=
  List.mem_reverse.mpr (mem_dropBlankFirst hchunk (List.mem_reverse.mpr h))

theorem fillLines_ne_nil (width room : Nat) (begun : Bool) (todo : List (List Char))
    {chunk : List Char} (hchunk : allBlank chunk = false) (h : chunk ∈ todo) :
    fillLines width room begun todo ≠ [] := by
  fun_induction fillLines width room begun todo with
  | case1 => cases h
  | case2 room begun first rest more line hempty ih =>
    -- the line is empty, so the chunk is not on it
    refine ih (mem_lineStart hchunk begun ?_)
    have hnot : chunk ∉ first :: rest.take more := fun hmem => by
      have hline : chunk ∈ line := mem_dropBlankLast hchunk hmem
      rw [List.isEmpty_iff.mp hempty] at hline
      cases hline
    rcases List.mem_cons.mp h with rfl | h
    · exact absurd List.mem_cons_self hnot
    · rw [← List.take_append_drop more rest] at h
      exact (List.mem_append.mp h).resolve_left fun ht => hnot (List.mem_cons_of_mem _ ht)
  | case3 => exact List.cons_ne_nil _ _

theorem wrapLines_ne_nil (width indent : Nat) {text : List Char} (h : allBlank text = false) :
    wrapLines width indent text ≠ [] := by
  obtain ⟨c, hmem, hc⟩ := List.all_eq_false.mp h
  rw [Bool.not_eq_true] at hc
  have hflat : c ∈ (chunks (flattenSpace text)).flatten := by
    rw [chunks, List.flatten_splitBy]
    exact mem_flattenSpace hc hmem
  obtain ⟨chunk, hchunk, hcchunk⟩ := List.mem_flatten.mp hflat
  refine fillLines_ne_nil _ _ _ _ ?_ hchunk
  exact List.all_eq_false.mpr ⟨c, hcchunk, by simp [hc]⟩

/-! ### What a line holds -/

theorem dropBlankFirst_subset (todo : List (List Char)) : dropBlankFirst todo ⊆ todo := by
  cases todo with
  | nil => exact List.Subset.refl _
  | cons first rest =>
    rw [dropBlankFirst]
    split_ifs
    · exact List.subset_cons_self _ _
    · exact List.Subset.refl _

theorem lineStart_subset (begun : Bool) (todo : List (List Char)) :
    lineStart begun todo ⊆ todo := by
  cases begun with
  | false => exact List.Subset.refl _
  | true => exact dropBlankFirst_subset todo

theorem dropBlankLast_subset (line : List (List Char)) : dropBlankLast line ⊆ line := fun _ h =>
  List.mem_reverse.mp (dropBlankFirst_subset _ (List.mem_reverse.mp h))

theorem lineStart_drop_subset (begun : Bool) (n : Nat) (first : List Char)
    (rest : List (List Char)) : lineStart begun (rest.drop n) ⊆ first :: rest := fun _ h =>
  List.mem_cons_of_mem _ (List.drop_subset _ _ (lineStart_subset _ _ h))

/-- A line holds characters of the chunks that it is filled with. -/
theorem exists_chunk_of_mem_fillLines {width room : Nat} {begun : Bool} {todo : List (List Char)}
    {line : List Char} (h : line ∈ fillLines width room begun todo) {c : Char} (hc : c ∈ line) :
    ∃ chunk ∈ todo, c ∈ chunk := by
  fun_induction fillLines width room begun todo with
  | case1 => cases h
  | case2 room begun first rest more filled hempty ih =>
    obtain ⟨chunk, hchunk, hcchunk⟩ := ih h
    exact ⟨chunk, lineStart_drop_subset _ _ _ _ hchunk, hcchunk⟩
  | case3 room begun first rest more filled hempty ih =>
    rcases List.mem_cons.mp h with rfl | h
    · obtain ⟨chunk, hchunk, hcchunk⟩ := List.mem_flatten.mp hc
      refine ⟨chunk, ?_, hcchunk⟩
      exact List.cons_subset_cons _ (List.take_subset _ _) (dropBlankLast_subset _ hchunk)
    · obtain ⟨chunk, hchunk, hcchunk⟩ := ih h
      exact ⟨chunk, lineStart_drop_subset _ _ _ _ hchunk, hcchunk⟩

theorem not_mem_break_flattenSpace (text : List Char) : '\n' ∉ flattenSpace text := by
  intro h
  obtain ⟨c, -, hc⟩ := List.mem_map.mp h
  split_ifs at hc with hblank
  · exact absurd hc (by decide)
  · subst hc
    exact hblank (by decide)

/-- A line that a text fills has no line feed in it, whatever the text has. -/
theorem not_mem_break_of_mem_wrapLines {width indent : Nat} {text line : List Char}
    (h : line ∈ wrapLines width indent text) : '\n' ∉ line := by
  intro hbreak
  obtain ⟨chunk, hchunk, hc⟩ := exists_chunk_of_mem_fillLines h hbreak
  have hflat : '\n' ∈ (chunks (flattenSpace text)).flatten := List.mem_flatten_of_mem hchunk hc
  rw [chunks, List.flatten_splitBy] at hflat
  exact not_mem_break_flattenSpace text hflat

end BindingGen.Text

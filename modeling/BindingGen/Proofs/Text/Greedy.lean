/-
# Lines take as many words as fit

Words with one space between them are cut into lines from left to right. A line takes its words one
by one while they fit, and its first word even if that does not; the spaces at which the lines are
cut are dropped. So the words of the lines are the words of the text, in order, a line is longer
than its room only if it is a single word, and the first word of a line did not fit on the line
before it.

Key definitions: `spread`, `spaced`, `Fill`.
Key theorems: `exists_fitting`, `fillLines_spaced_cons`, `exists_fill`, `chunks_intercalate`,
`exists_fill_of_wrapLines`.
-/
import BindingGen.Proofs.Text.BlankFree
import BindingGen.Proofs.Text.Filling

namespace BindingGen.Text

/-! ### Words and the spaces between them -/

/-- The words, each behind a space. -/
def spread (words : List (List Char)) : List (List Char) := words.flatMap fun word => [[' '], word]

/-- The words with a space between them. -/
def spaced : List (List Char) → List (List Char)
  | [] => []
  | word :: words => word :: spread words

theorem spread_cons (word : List Char) (words : List (List Char)) :
    spread (word :: words) = [' '] :: word :: spread words := rfl

theorem length_spread_cons (word : List Char) (words : List (List Char)) :
    (spread (word :: words)).flatten.length = word.length + 1 + (spread words).flatten.length := by
  rw [spread_cons, List.flatten_cons, List.flatten_cons, List.length_append, List.length_append]
  simp only [List.length_singleton]
  omega

theorem flatten_spaced (words : List (List Char)) :
    (spaced words).flatten = [' '].intercalate words := by
  cases words with
  | nil => rfl
  | cons word words =>
    rw [spaced, List.flatten_cons]
    induction words generalizing word with
    | nil => simp [spread]
    | cons next words ih =>
      rw [List.intercalate_cons_cons, ← ih next, spread_cons, List.flatten_cons, List.flatten_cons,
        List.append_assoc]

theorem mem_spaced {chunk : List Char} {words : List (List Char)} (h : chunk ∈ spaced words) :
    chunk = [' '] ∨ chunk ∈ words := by
  cases words with
  | nil => cases h
  | cons word words =>
    rcases List.mem_cons.mp h with rfl | h
    · exact Or.inr List.mem_cons_self
    · obtain ⟨next, hnext, hchunk⟩ := List.mem_flatMap.mp h
      rcases List.mem_pair.mp hchunk with rfl | rfl
      · exact Or.inl rfl
      · exact Or.inr (List.mem_cons_of_mem _ hnext)

theorem exists_spaced_concat (init : List (List Char)) (last : List Char) :
    ∃ front, spaced (init.concat last) = front ++ [last] := by
  cases init with
  | nil => exact ⟨[], rfl⟩
  | cons first init => exact ⟨first :: spread init ++ [[' ']], by simp [spaced, spread]⟩

theorem length_intercalate_cons (word : List Char) (words : List (List Char)) :
    ([' '].intercalate (word :: words)).length = word.length + (spread words).flatten.length := by
  rw [← flatten_spaced, spaced, List.flatten_cons, List.length_append]

theorem take_spread (k : Nat) (words : List (List Char)) :
    (spread words).take (2 * k) = spread (words.take k) := by
  induction words generalizing k with
  | nil => simp [spread]
  | cons word words ih =>
    cases k with
    | zero => rfl
    | succ k =>
      rw [spread_cons, Nat.mul_succ, List.take_succ_cons, List.take_succ_cons, ih,
        List.take_succ_cons, spread_cons]

theorem drop_spread (k : Nat) (words : List (List Char)) :
    (spread words).drop (2 * k) = spread (words.drop k) := by
  induction words generalizing k with
  | nil => simp [spread]
  | cons word words ih =>
    cases k with
    | zero => rfl
    | succ k =>
      rw [spread_cons, Nat.mul_succ, List.drop_succ_cons, List.drop_succ_cons, ih,
        List.drop_succ_cons]

/-! ### A line -/

/-- Of words behind spaces, the first `k` fit and the next one does not, although the space in front
of it may. -/
theorem exists_fitting (room : Nat) (words : List (List Char)) :
    ∃ k, (fitting room (spread words) = 2 * k ∨
        fitting room (spread words) = 2 * k + 1 ∧ k < words.length) ∧
      (spread (words.take k)).flatten.length ≤ room ∧
      ∀ next ∈ (words.drop k).head?,
        room < (spread (words.take k)).flatten.length + 1 + next.length := by
  induction words generalizing room with
  | nil => exact ⟨0, .inl rfl, Nat.zero_le _, by simp⟩
  | cons word words ih =>
    rw [spread_cons, fitting]
    by_cases hspace : [' '].length ≤ room
    · rw [if_pos hspace, fitting]
      rw [List.length_singleton] at hspace ⊢
      by_cases hword : word.length ≤ room - 1
      · obtain ⟨k, hfitting, hfits, hfull⟩ := ih (room - 1 - word.length)
        rw [if_pos hword]
        refine ⟨k + 1, ?_, ?_, fun next hnext => ?_⟩
        · rw [List.length_cons]
          omega
        · rw [List.take_succ_cons, length_spread_cons]
          omega
        · have hroom := hfull next hnext
          rw [List.take_succ_cons, length_spread_cons]
          omega
      · rw [if_neg hword]
        refine ⟨0, .inr ⟨rfl, Nat.succ_pos _⟩, Nat.zero_le _, fun next hnext => ?_⟩
        obtain rfl : word = next := by simpa using hnext
        show room < 0 + 1 + word.length
        omega
    · rw [if_neg hspace]
      rw [List.length_singleton] at hspace
      refine ⟨0, .inl rfl, Nat.zero_le _, fun next _ => ?_⟩
      show room < 0 + 1 + next.length
      omega

theorem dropBlankLast_concat (chunks : List (List Char)) (chunk : List Char) :
    dropBlankLast (chunks ++ [chunk]) = if allBlank chunk then chunks else chunks ++ [chunk] := by
  rw [dropBlankLast, List.reverse_append, List.reverse_singleton, List.singleton_append,
    dropBlankFirst]
  split_ifs
  · exact List.reverse_reverse chunks
  · rw [List.reverse_cons, List.reverse_reverse]

theorem dropBlankLast_spaced {words : List (List Char)} (h : ∀ w ∈ words, IsWord w) :
    dropBlankLast (spaced words) = spaced words := by
  rcases List.eq_nil_or_concat words with rfl | ⟨init, last, rfl⟩
  · rfl
  · obtain ⟨front, hfront⟩ := exists_spaced_concat init last
    have hlast : allBlank last = false := (h last (by simp)).not_allBlank
    rw [hfront, dropBlankLast_concat, if_neg (by simp [hlast])]

/-- A space between lines is dropped from the end of the one or from the start of the other. -/
theorem lineStart_spread {words : List (List Char)} (h : ∀ w ∈ words, IsWord w) :
    lineStart true (spread words) = spaced words ∧
      lineStart true ((spread words).drop 1) = spaced words := by
  cases words with
  | nil => exact ⟨rfl, rfl⟩
  | cons word words =>
    have hword : allBlank word = false := (h word List.mem_cons_self).not_allBlank
    refine ⟨?_, ?_⟩
    · rw [spread_cons, lineStart, if_pos rfl, dropBlankFirst, if_pos (by decide), spaced]
    · rw [spread_cons, List.drop_one, List.tail_cons, lineStart, if_pos rfl, dropBlankFirst,
        if_neg (by simp [hword]), spaced]

/-- A line with the next `k` words behind its first one, with or without a space behind them. -/
theorem cut_spread {word : List Char} {words : List (List Char)} {k more : Nat}
    (hmore : more = 2 * k ∨ more = 2 * k + 1 ∧ k < words.length)
    (hwords : ∀ w ∈ word :: words, IsWord w) :
    dropBlankLast (word :: (spread words).take more) = spaced (word :: words.take k) ∧
      lineStart true ((spread words).drop more) = spaced (words.drop k) := by
  have hrest : ∀ w ∈ words.drop k, IsWord w := fun w hw =>
    hwords w (List.mem_cons_of_mem _ (List.mem_of_mem_drop hw))
  rcases hmore with rfl | ⟨rfl, hlt⟩
  · have hline : ∀ w ∈ word :: words.take k, IsWord w := fun w hw =>
      hwords w (List.cons_subset_cons word (List.take_subset k words) hw)
    rw [take_spread, drop_spread]
    exact ⟨dropBlankLast_spaced hline, (lineStart_spread hrest).1⟩
  · obtain ⟨next, rest, hnext⟩ : ∃ next rest, words.drop k = next :: rest :=
      List.exists_cons_of_ne_nil (by simpa using hlt)
    have htake : (spread words).take (2 * k + 1) = spread (words.take k) ++ [[' ']] := by
      rw [List.take_add, take_spread, drop_spread, hnext]
      rfl
    rw [htake, ← List.drop_drop, drop_spread, ← List.cons_append, dropBlankLast_concat,
      if_pos (by decide)]
    exact ⟨rfl, (lineStart_spread hrest).2⟩

/-- The next line of words: its first word, the words that fit behind that one, and no more. -/
theorem fillLines_spaced_cons (width room : Nat) (begun : Bool) {word : List Char}
    {words : List (List Char)} (hwords : ∀ w ∈ word :: words, IsWord w) :
    ∃ k, (words.take k = [] ∨ ([' '].intercalate (word :: words.take k)).length ≤ room) ∧
      (∀ next ∈ (words.drop k).head?,
        room < ([' '].intercalate (word :: words.take k)).length + 1 + next.length) ∧
      fillLines width room begun (spaced (word :: words)) =
        [' '].intercalate (word :: words.take k) ::
          fillLines width width true (spaced (words.drop k)) := by
  have hline : ∀ k, fitting room (word :: spread words) - 1 = 2 * k ∨
      fitting room (word :: spread words) - 1 = 2 * k + 1 ∧ k < words.length →
      fillLines width room begun (spaced (word :: words)) =
        [' '].intercalate (word :: words.take k) ::
          fillLines width width true (spaced (words.drop k)) := by
    intro k hmore
    obtain ⟨htake, hdrop⟩ := cut_spread hmore hwords
    rw [spaced, fillLines]
    rw [htake, hdrop, if_neg (by simp [spaced]), flatten_spaced]
  simp only [length_intercalate_cons]
  by_cases hword : word.length ≤ room
  · obtain ⟨k, hfitting, hfits, hfull⟩ := exists_fitting (room - word.length) words
    refine ⟨k, .inr (by omega), fun next hnext => ?_, hline k ?_⟩
    · have hroom := hfull next hnext
      omega
    · rwa [fitting, if_pos hword]
  · refine ⟨0, .inl rfl, fun next _ => by omega, hline 0 (.inl ?_)⟩
    rw [fitting, if_neg hword]

/-! ### All lines -/

/-- Lines of words: each holds a word at least, fits into its room unless it is a single word, and
has no room for the first word of the next one. The first line has its own room. -/
inductive Fill (width : Nat) : Nat → List (List Char) → List (List (List Char)) → Prop
  | nil {room : Nat} : Fill width room [] []
  | line {room : Nat} {word : List Char} {more rest : List (List Char)}
    {lines : List (List (List Char))}
    (hfits : more = [] ∨ ([' '].intercalate (word :: more)).length ≤ room)
    (hfull : ∀ next ∈ rest.head?,
      room < ([' '].intercalate (word :: more)).length + 1 + next.length)
    (hrest : Fill width width rest lines) :
    Fill width room (word :: more ++ rest) ((word :: more) :: lines)

/-- Words are put on lines as long as they fit. -/
theorem exists_fill (width room : Nat) (begun : Bool) (words : List (List Char))
    (hwords : ∀ w ∈ words, IsWord w) :
    ∃ lines, Fill width room words lines ∧
      fillLines width room begun (spaced words) = lines.map fun line => [' '].intercalate line := by
  match words, hwords with
  | [], _ => exact ⟨[], .nil, by rw [spaced, fillLines]; rfl⟩
  | word :: words, hwords =>
    obtain ⟨k, hfits, hfull, hline⟩ := fillLines_spaced_cons width room begun hwords
    obtain ⟨lines, hlines, hrest⟩ := exists_fill width width true (words.drop k) fun w hw =>
      hwords w (List.mem_cons_of_mem _ (List.mem_of_mem_drop hw))
    refine ⟨(word :: words.take k) :: lines, ?_, ?_⟩
    · have hfill := Fill.line hfits hfull hlines
      rwa [List.cons_append, List.take_append_drop] at hfill
    · rw [hline, hrest, List.map_cons]
termination_by words.length
decreasing_by
  rw [List.length_drop, List.length_cons]
  omega

namespace Fill

variable {width room : Nat} {words : List (List Char)} {lines : List (List (List Char))}

theorem flatten_eq (h : Fill width room words lines) : lines.flatten = words := by
  induction h with
  | nil => rfl
  | line _ _ _ ih => rw [List.flatten_cons, ih]

theorem ne_nil_of_mem (h : Fill width room words lines) : ∀ line ∈ lines, line ≠ [] := by
  induction h with
  | nil => exact fun _ hline => by cases hline
  | line _ _ _ ih =>
    rw [List.forall_mem_cons]
    exact ⟨List.cons_ne_nil _ _, ih⟩

/-- A line fits into its room, or it is a single word. -/
theorem fits (h : Fill width room words lines) {i : Nat} {line : List (List Char)}
    (hline : lines[i]? = some line) :
    ([' '].intercalate line).length ≤ (if i = 0 then room else width) ∨
      ∃ word ∈ words, line = [word] := by
  induction h generalizing i with
  | nil => cases hline
  | @line room word more rest lines hfits _ _ ih =>
    cases i with
    | zero =>
      obtain rfl := Option.some.inj hline
      rcases hfits with rfl | hfits
      · exact Or.inr ⟨word, by simp, rfl⟩
      · exact Or.inl hfits
    | succ i =>
      rcases ih hline with hroom | ⟨other, hother, rfl⟩
      · exact Or.inl (by simpa using hroom)
      · exact Or.inr ⟨other, List.mem_append_right _ hother, rfl⟩

/-- The first word of a line has no room on the line before it. -/
theorem full (h : Fill width room words lines) {i : Nat} {line next : List (List Char)}
    (hline : lines[i]? = some line) (hnext : lines[i + 1]? = some next) :
    ∃ word rest, next = word :: rest ∧
      (if i = 0 then room else width) < ([' '].intercalate line).length + 1 + word.length := by
  induction h generalizing i with
  | nil => cases hline
  | line _ hfull hrest ih =>
    cases i with
    | zero =>
      obtain rfl := Option.some.inj hline
      cases hrest with
      | nil => cases hnext
      | line _ _ _ =>
        obtain rfl := Option.some.inj hnext
        exact ⟨_, _, rfl, hfull _ rfl⟩
    | succ i =>
      obtain ⟨word, rest, hword, hroom⟩ := ih hline hnext
      exact ⟨word, rest, hword, by simpa using hroom⟩

end Fill

/-! ### From a text to its chunks -/

theorem expandTabs_eq_self (column : Nat) {text : List Char} (h : '\t' ∉ text) :
    expandTabs column text = text := by
  induction text generalizing column with
  | nil => rfl
  | cons c rest ih =>
    rw [List.mem_cons, not_or] at h
    rw [expandTabs, if_neg (Ne.symm h.1)]
    split_ifs <;> rw [ih _ h.2]

/-- A text whose only blanks are spaces is on one line already. -/
theorem flattenSpace_eq_self {text : List Char} (h : ∀ c ∈ text, isBlank c = true → c = ' ') :
    flattenSpace text = text := by
  have htab : '\t' ∉ text := fun hmem => absurd (h '\t' hmem (by decide)) (by decide)
  rw [flattenSpace, expandTabs_eq_self 0 htab]
  refine (List.map_congr_left fun c hc => ?_).trans (List.map_id text)
  split_ifs with hblank
  · exact (h c hc (isBlank_of_isAsciiBlank hblank)).symm
  · rfl

theorem ne_space_of_not_blank {c : Char} (h : isBlank c = false) : c ≠ ' ' := by
  rintro rfl
  exact absurd h (by decide)

theorem chunks_word {word : List Char} (h : IsWord word) : chunks word = [word] := by
  obtain ⟨hne, hfree⟩ := h
  refine List.splitBy_of_isChain hne (List.Pairwise.isChain ?_)
  refine List.pairwise_of_forall_mem_list fun a ha b hb => ?_
  simp [ne_space_of_not_blank (hfree a ha), ne_space_of_not_blank (hfree b hb)]

/-- The chunks of words with spaces between them. -/
theorem chunks_intercalate {words : List (List Char)} (hwords : ∀ w ∈ words, IsWord w) :
    chunks ([' '].intercalate words) = spaced words := by
  cases words with
  | nil => rfl
  | cons word words =>
    induction words generalizing word with
    | nil =>
      rw [List.intercalate_singleton, chunks_word (hwords word List.mem_cons_self)]
      rfl
    | cons next words ih =>
      rw [List.forall_mem_cons] at hwords
      obtain ⟨hfirst, hrest⟩ := hwords
      obtain ⟨hnextNe, hnextFree⟩ := hrest next List.mem_cons_self
      have hlast : ∀ c ∈ word.getLast?, ((c = ' ') == (' ' = ' ')) = false := fun c hc => by
        simp [ne_space_of_not_blank (hfirst.2 c (List.mem_of_mem_getLast? hc))]
      have hhead : ∀ c ∈ ([' '].intercalate (next :: words)).head?,
          ((' ' = ' ') == (c = ' ')) = false := by
        rw [← flatten_spaced, spaced, List.flatten_cons, List.head?_append_of_ne_nil _ hnextNe]
        intro c hc
        simp [ne_space_of_not_blank (hnextFree c (List.mem_of_mem_head? hc))]
      calc chunks ([' '].intercalate (word :: next :: words))
          = chunks (word ++ ' ' :: [' '].intercalate (next :: words)) := by
            rw [List.intercalate_cons_cons, List.append_assoc, List.singleton_append]
        _ = chunks word ++ chunks ([' '] ++ [' '].intercalate (next :: words)) :=
            List.splitBy_append_cons _ (by simpa using hlast)
        _ = chunks word ++ (chunks [' '] ++ chunks ([' '].intercalate (next :: words))) := by
            congr 1
            exact List.splitBy_append (by simpa using hhead)
        _ = spaced (word :: next :: words) := by
            rw [chunks_word hfirst, ih next hrest]
            rfl

/-- Words with a space between them are wrapped word by word. -/
theorem exists_fill_of_wrapLines (width indent : Nat) {words : List (List Char)}
    (hwords : ∀ w ∈ words, IsWord w) :
    ∃ lines, Fill (max width 1) (max width 1 - indent) words lines ∧
      wrapLines width indent ([' '].intercalate words) =
        lines.map fun line => [' '].intercalate line := by
  have hblank : ∀ c ∈ [' '].intercalate words, isBlank c = true → c = ' ' := by
    intro c hc hblank
    rw [← flatten_spaced] at hc
    obtain ⟨chunk, hchunk, hmem⟩ := List.mem_flatten.mp hc
    rcases mem_spaced hchunk with rfl | hword
    · exact List.mem_singleton.mp hmem
    · exact absurd hblank (by simp [(hwords chunk hword).2 c hmem])
  rw [wrapLines, flattenSpace_eq_self hblank, chunks_intercalate hwords]
  exact exists_fill (max width 1) (max width 1 - indent) false words hwords

end BindingGen.Text

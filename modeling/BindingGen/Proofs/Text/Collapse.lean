/-
# Collapsed blanks

A text whose blank runs are collapsed is its words with one space between them, and one space in
front of them if the text starts with a blank, provided that it does not end in one.

Key theorems: `words_cons_of_visible`, `collapseBlanks_eq`, `collapseBlanks_eq_intercalate`.
-/
import BindingGen.Proofs.Text.Trimming
import BindingGen.Proofs.Text.Words

namespace BindingGen.Text

variable {c d : Char} {rest : List Char}

theorem words_cons_of_blank (hc : isBlank c = true) (rest : List Char) :
    words (c :: rest) = words rest := by
  have hblanks : ∀ b ∈ [c], isBlank b = true := by simpa using hc
  exact words_blanks_append hblanks rest

theorem words_cons_of_blank_next (hc : isBlank c = false) (hd : isBlank d = true)
    (rest : List Char) : words (c :: d :: rest) = [c] :: words (d :: rest) := by
  have hword : words [c] = [[c]] := words_eq_singleton ⟨by simp, blankFree_singleton hc⟩
  calc words ([c] ++ d :: rest) = words [c] ++ words rest := words_append_cons hd [c] rest
    _ = [c] :: words (d :: rest) := by rw [hword, words_cons_of_blank hd, List.singleton_append]

/-- A visible character in front of another one belongs to its word. -/
theorem words_cons_of_visible (hc : isBlank c = false) (hd : isBlank d = false)
    (rest : List Char) :
    ∃ word others, words (d :: rest) = word :: others ∧
      words (c :: d :: rest) = (c :: word) :: others := by
  obtain ⟨part, parts, hparts⟩ := List.exists_cons_of_ne_nil (List.splitOnP_ne_nil isBlank rest)
  unfold words
  simp only [List.splitOnP_cons_eq_if_modifyHead, hc, hd, hparts, Bool.false_eq_true, if_false,
    List.modifyHead_cons]
  exact ⟨d :: part, parts.filter fun w => !w.isEmpty, rfl, rfl⟩

theorem words_ne_nil_of_endsVisible (hne : rest ≠ []) (hend : EndsVisible rest) :
    words rest ≠ [] := by
  induction rest with
  | nil => exact absurd rfl hne
  | cons c rest ih =>
    cases rest with
    | nil =>
      have hc : isBlank c = false := hend c rfl
      rw [words_eq_singleton ⟨hne, blankFree_singleton hc⟩]
      exact List.cons_ne_nil _ _
    | cons d rest =>
      have hrest := ih (by simp) (by simpa [EndsVisible] using hend)
      cases hc : isBlank c with
      | true => rwa [words_cons_of_blank hc]
      | false =>
        cases hd : isBlank d with
        | true =>
          rw [words_cons_of_blank_next hc hd]
          exact List.cons_ne_nil _ _
        | false =>
          obtain ⟨word, others, -, hwords⟩ := words_cons_of_visible hc hd rest
          rw [hwords]
          exact List.cons_ne_nil _ _

/-- A space in front of a text that starts with a blank. -/
def leadingSpace (text : List Char) : List Char := if text.head?.any isBlank then [' '] else []

theorem collapseBlanks_eq {text : List Char} (hend : EndsVisible text) :
    collapseBlanks text = leadingSpace text ++ [' '].intercalate (words text) := by
  induction text with
  | nil => rfl
  | cons c rest ih =>
    cases rest with
    | nil =>
      have hc : isBlank c = false := hend c rfl
      rw [words_eq_singleton ⟨by simp, blankFree_singleton hc⟩]
      simp [collapseBlanks, leadingSpace, hc]
    | cons d rest =>
      have hend' : EndsVisible (d :: rest) := by simpa [EndsVisible] using hend
      have hrest := ih hend'
      rw [leadingSpace, List.head?_cons, Option.any_some] at hrest
      rw [collapseBlanks, leadingSpace, List.head?_cons, List.head?_cons, Option.any_some,
        Option.any_some, hrest]
      cases hc : isBlank c with
      | true =>
        rw [words_cons_of_blank hc]
        cases isBlank d <;> simp
      | false =>
        cases hd : isBlank d with
        | true =>
          obtain ⟨word, others, hwords⟩ :=
            List.exists_cons_of_ne_nil (words_ne_nil_of_endsVisible (by simp) hend')
          rw [words_cons_of_blank_next hc hd, hwords, List.intercalate_cons_cons]
          simp
        | false =>
          obtain ⟨word, others, hword, hwords⟩ := words_cons_of_visible hc hd rest
          rw [hword, hwords]
          cases others with
          | nil => simp
          | cons next others => simp [List.intercalate_cons_cons]

/-- A text that starts and ends with a visible character is collapsed into its words with one space
between them. -/
theorem collapseBlanks_eq_intercalate {text : List Char} (hstart : text.head?.any isBlank = false)
    (hend : EndsVisible text) : collapseBlanks text = [' '].intercalate (words text) := by
  rw [collapseBlanks_eq hend, leadingSpace, hstart, if_neg Bool.false_ne_true, List.nil_append]

end BindingGen.Text

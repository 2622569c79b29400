/-
# Words between blanks

A blank character between two texts keeps their words apart, so that the words of a text do not
depend on how many blanks stand between them, nor on those at its ends. A text is squeezed by
writing its words with one space between them; a tidy text is one that this leaves as it is.

Key definitions: `squeeze`, `IsTidy`.
Key theorems: `words_append_cons`, `words_eq_singleton`, `words_intercalate`,
`words_arrows`, `squeeze_arrows`.
-/
import BindingGen.Proofs.Text.BlankFree
import BindingGen.Proofs.Text.Filling
import BindingGen.Proofs.Text.Join

namespace BindingGen.Text

/-- A blank between two texts keeps their words apart. -/
theorem words_append_cons {c : Char} (hc : isBlank c = true) (a b : List Char) :
    words (a ++ c :: b) = words a ++ words b := by
  unfold words
  rw [List.splitOnP_append_cons a b hc, List.filter_append]

theorem words_blanks_append {blanks : List Char} (h : ∀ c ∈ blanks, isBlank c = true)
    (text : List Char) : words (blanks ++ text) = words text := by
  induction blanks with
  | nil => rfl
  | cons c blanks ih =>
    rw [List.forall_mem_cons] at h
    have hfirst : words ([] ++ c :: (blanks ++ text)) = words [] ++ words (blanks ++ text) :=
      words_append_cons h.1 [] _
    rw [List.cons_append, ← ih h.2]
    exact hfirst

theorem words_eq_singleton {word : List Char} (h : IsWord word) : words word = [word] := by
  unfold words
  rw [List.splitOnP_eq_singleton h.2]
  simp [h.1]

theorem words_intercalate {c : Char} (hc : isBlank c = true) (lines : List (List Char)) :
    words ([c].intercalate lines) = lines.flatMap words := by
  induction lines with
  | nil => rfl
  | cons line lines ih =>
    cases lines with
    | nil => simp
    | cons next lines =>
      rw [List.intercalate_cons_cons, List.append_assoc, List.singleton_append,
        words_append_cons hc, ih, ← List.flatMap_cons]

/-! ### Squeezed texts -/

/-- The words of a text with one space between them. -/
def squeeze (text : String) : String := " ".intercalate ((words text.toList).map String.ofList)

/-- The text has words, and one space stands between them. -/
def IsTidy (text : String) : Prop := squeeze text = text ∧ text ≠ ""

instance (text : String) : Decidable (IsTidy text) :=
  inferInstanceAs (Decidable (squeeze text = text ∧ text ≠ ""))

theorem IsTidy.words_ne_nil {text : String} (h : IsTidy text) : words text.toList ≠ [] := by
  intro hnone
  refine h.2 ?_
  rw [← h.1, squeeze, hnone]
  rfl

theorem words_arrow (a b : List Char) :
    words (a ++ (" -> ".toList ++ b)) = words a ++ ("->".toList :: words b) := by
  have hword : words "->".toList = ["->".toList] := words_eq_singleton ⟨by decide, by decide⟩
  calc words (a ++ (" -> ".toList ++ b))
      = words a ++ words ("->".toList ++ ' ' :: b) := words_append_cons (by decide) a _
    _ = words a ++ ("->".toList :: words b) := by
        rw [words_append_cons (by decide), hword, List.singleton_append]

/-- The words of types with arrows between them. -/
theorem words_arrows (type : String) (types : List String) :
    words (" -> ".intercalate (type :: types)).toList =
      words type.toList ++ types.flatMap fun t => "->".toList :: words t.toList := by
  induction types generalizing type with
  | nil => simp
  | cons next types ih =>
    rw [String.intercalate_cons_cons, String.append_assoc, String.toList_append,
      String.toList_append, words_arrow, ih, List.flatMap_cons]
    rfl

/-- Arrows between tidy types make a tidy text. -/
theorem squeeze_arrows {types : List String} (h : ∀ t ∈ types, IsTidy t) :
    squeeze (" -> ".intercalate types) = " -> ".intercalate types := by
  induction types with
  | nil => rfl
  | cons type types ih =>
    rw [List.forall_mem_cons] at h
    cases types with
    | nil => simpa using h.1.1
    | cons next types =>
      have hwords : words (" -> ".intercalate (type :: next :: types)).toList =
          words type.toList ++
            ("->".toList :: words (" -> ".intercalate (next :: types)).toList) := by
        rw [String.intercalate_cons_cons, String.append_assoc, String.toList_append,
          String.toList_append, words_arrow]
      have htype : (words type.toList).map String.ofList ≠ [] := by simp [h.1.words_ne_nil]
      have hnext : (words (" -> ".intercalate (next :: types)).toList).map String.ofList ≠ [] := by
        have hne : words next.toList ≠ [] := (h.2 next List.mem_cons_self).words_ne_nil
        rw [words_arrows]
        simp [hne]
      calc squeeze (" -> ".intercalate (type :: next :: types))
          = squeeze type ++ " " ++
              ("->" ++ " " ++ squeeze (" -> ".intercalate (next :: types))) := by
            rw [squeeze, hwords, List.map_append, List.map_cons,
              String.intercalate_append_of_ne_nil htype (by simp),
              String.intercalate_cons_of_ne_nil hnext]
            rfl
        _ = " -> ".intercalate (type :: next :: types) := by
            rw [h.1.1, ih h.2, String.intercalate_cons_cons]
            simp only [String.append_assoc]
            rfl

end BindingGen.Text

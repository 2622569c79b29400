/-
# Trimmed texts

A trimmed text is the text up to its last visible character. Trimming two texts in a row trims the
second, or the first if the second is blank, so that nothing in front of a visible character is
lost.

Key definitions: `EndsVisible`.
Key theorems: `dropEndWhile_append`, `endsVisible_stripRight`, `stripRight_append`,
`prefix_stripRight_append`, `mem_stripRight_append`.
-/
import Mathlib.Data.List.DropRight
import BindingGen.Text.Blank

namespace BindingGen.Text

/-- The text does not end in a blank character. -/
def EndsVisible (text : List Char) : Prop := ∀ c ∈ text.getLast?, isBlank c = false

instance (text : List Char) : Decidable (EndsVisible text) :=
  decidable_of_iff (text.getLast?.all fun c => !isBlank c) (by simp [EndsVisible, Option.all_eq_true])

/-! ### End runs -/

section EndRun

variable {α : Type} {p : α → Bool} {a b : List α}

theorem dropEndWhile_eq_self_iff : dropEndWhile p a = a ↔ ∀ x ∈ a.getLast?, p x = false := by
  rw [show dropEndWhile p a = a.rdropWhile p from rfl, List.rdropWhile_eq_self_iff]
  cases a with
  | nil => simp
  | cons c rest => simp [List.getLast?_eq_some_getLast]

theorem getLast?_dropEndWhile (p : α → Bool) (a : List α) :
    ∀ x ∈ (dropEndWhile p a).getLast?, p x = false :=
  dropEndWhile_eq_self_iff.mp (List.rdropWhile_idempotent p a)

/-- The end run of a list starts behind the last element that is outside of such runs. -/
theorem dropEndWhile_append (ha : ∀ x ∈ a.getLast?, p x = false) (hb : ∀ x ∈ b, p x = true) :
    dropEndWhile p (a ++ b) = a := by
  rw [dropEndWhile, List.reverse_append, List.dropWhile_append_of_pos (by simpa using hb)]
  exact dropEndWhile_eq_self_iff.mpr ha

theorem of_mem_takeEndWhile {x : α} (hx : x ∈ takeEndWhile p a) : p x = true :=
  List.mem_takeWhile_imp (List.mem_reverse.mp hx)

end EndRun

/-! ### Blanks at the end -/

theorem stripRight_eq_self_iff {text : List Char} : stripRight text = text ↔ EndsVisible text :=
  dropEndWhile_eq_self_iff

theorem endsVisible_stripRight (text : List Char) : EndsVisible (stripRight text) :=
  getLast?_dropEndWhile isBlank text

theorem stripRight_eq_nil_iff {text : List Char} :
    stripRight text = [] ↔ ∀ c ∈ text, isBlank c = true :=
  List.rdropWhile_eq_nil_iff

theorem stripRight_subset (text : List Char) : stripRight text ⊆ text :=
  (List.rdropWhile_prefix isBlank text).subset

/-- Only where the second of two texts is blank does trimming reach the first. -/
theorem stripRight_append (a b : List Char) :
    stripRight (a ++ b) = if stripRight b = [] then stripRight a else a ++ stripRight b := by
  have hempty : stripRight b = [] ↔ (b.reverse.dropWhile isBlank).isEmpty = true := by
    rw [stripRight, dropEndWhile, List.reverse_eq_nil_iff, List.isEmpty_iff]
  simp only [hempty]
  rw [stripRight, dropEndWhile, List.reverse_append, List.dropWhile_append]
  split_ifs
  · rfl
  · rw [List.reverse_append, List.reverse_reverse]
    rfl

/-- What ends in a visible character stays whole in front of any text. -/
theorem prefix_stripRight_append {a : List Char} (ha : EndsVisible a) (b : List Char) :
    a <+: stripRight (a ++ b) := by
  rw [stripRight_append]
  split_ifs
  · exact (stripRight_eq_self_iff.mpr ha).symm ▸ List.prefix_rfl
  · exact List.prefix_append _ _

theorem mem_stripRight_append {a b : List Char} {c : Char} (h : c ∈ stripRight (a ++ b)) :
    c ∈ a ∨ c ∈ stripRight b := by
  rw [stripRight_append] at h
  split_ifs at h
  · exact Or.inl (stripRight_subset a h)
  · exact List.mem_append.mp h

end BindingGen.Text

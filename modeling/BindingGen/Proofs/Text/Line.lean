/-
# Lines between line feeds

A text is read as lines by whoever takes a module: each line feed ends a line, and a text that ends
in one has an empty last line. The lines of two texts with a line feed between them are the lines of
the one and then those of the other; further line feeds add empty lines only.

Key definitions: `linesOf`, `filledLines`, `IsBreaks`.
Key theorems: `linesOf_append_break`, `linesOf_join_append`, `linesOf_append_join`,
`linesOf_append_breaks`.
-/
import Mathlib.Data.List.Basic

namespace BindingGen.Text

/-- The lines of a text. -/
def linesOf (text : String) : List (List Char) := text.toList.splitOn '\n'

/-- The lines of a text that are not empty. -/
def filledLines (text : String) : List (List Char) := (linesOf text).filter (· ≠ [])

/-- The text is one line feed or more. -/
def IsBreaks (text : String) : Prop := text ≠ "" ∧ ∀ c ∈ text.toList, c = '\n'

instance (text : String) : Decidable (IsBreaks text) :=
  decidable_of_iff (text ≠ "" ∧ text.toList.all (· = '\n') = true) (by simp [IsBreaks])

theorem linesOf_of_not_mem {line : String} (h : '\n' ∉ line.toList) :
    linesOf line = [line.toList] :=
  List.splitOn_eq_singleton h

/-- A line feed between two texts keeps their lines apart. -/
theorem linesOf_append_break (a b : String) :
    linesOf (a ++ "\n" ++ b) = linesOf a ++ linesOf b := by
  have htext : (a ++ "\n" ++ b).toList = a.toList ++ '\n' :: b.toList := by simp
  unfold linesOf
  rw [htext, List.splitOn_append_cons_self]

/-- Whole lines in front of a text are lines of their own. -/
theorem linesOf_join_append {lines : List String} (h : ∀ line ∈ lines, '\n' ∉ line.toList)
    (rest : String) :
    linesOf (String.join (lines.map (· ++ "\n")) ++ rest) =
      lines.map (·.toList) ++ linesOf rest := by
  induction lines with
  | nil => rfl
  | cons line lines ih =>
    rw [List.map_cons, String.join_cons, String.append_assoc, linesOf_append_break,
      ih fun other hother => h other (List.mem_cons_of_mem _ hother),
      linesOf_of_not_mem (h line List.mem_cons_self)]
    rfl

theorem linesOf_join {lines : List String} (h : ∀ line ∈ lines, '\n' ∉ line.toList) :
    linesOf (String.join (lines.map (· ++ "\n"))) = lines.map (·.toList) ++ [[]] := by
  have hlines := linesOf_join_append h ""
  rwa [String.append_empty] at hlines

theorem linesOf_append_join {first : String} (hfirst : '\n' ∉ first.toList) {lines : List String}
    (h : ∀ line ∈ lines, '\n' ∉ line.toList) :
    linesOf (first ++ String.join (lines.map ("\n" ++ ·))) =
      first.toList :: lines.map (·.toList) := by
  induction lines generalizing first with
  | nil => simpa using linesOf_of_not_mem hfirst
  | cons line lines ih =>
    rw [List.forall_mem_cons] at h
    rw [List.map_cons, String.join_cons, String.append_assoc, ← String.append_assoc,
      linesOf_append_break, ih h.1 h.2, linesOf_of_not_mem hfirst]
    rfl

theorem splitOn_append_replicate (n : Nat) (a b : List Char) :
    (a ++ (List.replicate (n + 1) '\n' ++ b)).splitOn '\n' =
      a.splitOn '\n' ++ (List.replicate n [] ++ b.splitOn '\n') := by
  induction n generalizing a with
  | zero => exact List.splitOn_append_cons_self a b
  | succ n ih =>
    have hrest : (List.replicate (n + 1) '\n' ++ b).splitOn '\n' =
        [] :: (List.replicate n [] ++ b.splitOn '\n') := ih []
    rw [List.replicate_succ, List.cons_append, List.splitOn_append_cons_self, hrest]
    rfl

/-- Line feeds between two texts add empty lines only. -/
theorem linesOf_append_breaks {separator : String} (hseparator : IsBreaks separator)
    (a b : String) :
    ∃ n, linesOf (a ++ separator ++ b) = linesOf a ++ (List.replicate n [] ++ linesOf b) := by
  obtain ⟨hne, hbreak⟩ := hseparator
  have hreplicate : separator.toList = List.replicate separator.toList.length '\n' :=
    List.eq_replicate_iff.mpr ⟨rfl, hbreak⟩
  obtain ⟨n, hn⟩ : ∃ n, separator.toList.length = n + 1 := by
    refine Nat.exists_eq_add_one_of_ne_zero fun hzero => hne ?_
    simpa using hzero
  refine ⟨n, ?_⟩
  have htext : (a ++ separator ++ b).toList =
      a.toList ++ (List.replicate (n + 1) '\n' ++ b.toList) := by
    rw [← hn, ← hreplicate, String.toList_append, String.toList_append, List.append_assoc]
  unfold linesOf
  rw [htext, splitOn_append_replicate]

end BindingGen.Text

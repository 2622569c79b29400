/-
# Joined texts

A separator between texts is as well behind each of the texts in front of one of them and in front
of each of the texts behind it. Texts that differ up to their first separator still differ when
others are joined to them.

Key definitions: `upTo`.
Key theorems: `intercalate_append_self`, `append_intercalate_self`, `intercalate_cons_eq_append`,
`intercalate_append_cons`, `eq_of_intercalate_eq`.
-/
import Mathlib.Data.List.Forall2
import Mathlib.Data.List.TakeWhile

namespace BindingGen.Text

/-- A separator behind separated texts stands behind each of them. -/
theorem intercalate_append_self (separator : String) {texts : List String} (h : texts ≠ []) :
    separator.intercalate texts ++ separator = String.join (texts.map (· ++ separator)) := by
  induction texts with
  | nil => exact absurd rfl h
  | cons text rest ih =>
    cases rest with
    | nil => simp
    | cons next rest =>
      rw [String.intercalate_cons_cons, List.map_cons, String.join_cons, ← ih (by simp)]
      simp only [String.append_assoc]

/-- A separator in front of separated texts stands in front of each of them. -/
theorem append_intercalate_self (separator : String) {texts : List String} (h : texts ≠ []) :
    separator ++ separator.intercalate texts = String.join (texts.map (separator ++ ·)) := by
  induction texts with
  | nil => exact absurd rfl h
  | cons text rest ih =>
    cases rest with
    | nil => simp
    | cons next rest =>
      rw [String.intercalate_cons_cons, List.map_cons, String.join_cons, ← ih (by simp)]
      simp only [String.append_assoc]

theorem intercalate_cons_eq_append (separator text : String) (after : List String) :
    separator.intercalate (text :: after) = text ++ String.join (after.map (separator ++ ·)) := by
  cases after with
  | nil => simp
  | cons next rest =>
    rw [String.intercalate_cons_cons, ← append_intercalate_self separator (by simp),
      String.append_assoc]

theorem intercalate_append_cons (separator text : String) (before after : List String) :
    separator.intercalate (before ++ text :: after) =
      String.join (before.map (· ++ separator)) ++ text ++
        String.join (after.map (separator ++ ·)) := by
  cases before with
  | nil => simp [intercalate_cons_eq_append]
  | cons first rest =>
    rw [String.intercalate_append_of_ne_nil (by simp) (by simp),
      intercalate_append_self separator (by simp), intercalate_cons_eq_append, String.append_assoc]

/-! ### Joined texts told apart -/

section Apart

variable {c : Char}

/-- A text up to its first separator. -/
def upTo (c : Char) (text : List Char) : List Char := text.takeWhile (· ≠ c)

theorem upTo_of_not_mem {text : List Char} (h : c ∉ text) : upTo c text = text :=
  List.takeWhile_eq_self_iff.mpr fun _ hd => decide_eq_true fun he => h (he ▸ hd)

theorem upTo_append_cons (text rest : List Char) : upTo c (text ++ c :: rest) = upTo c text := by
  unfold upTo
  induction text with
  | nil => simp
  | cons d text ih => rw [List.cons_append, List.takeWhile_cons, List.takeWhile_cons, ih]

theorem upTo_intercalate (text : List Char) (texts : List (List Char)) :
    upTo c ([c].intercalate (text :: texts)) = upTo c text := by
  cases texts with
  | nil => simp
  | cons next texts =>
    rw [List.intercalate_cons_cons, List.append_assoc, List.singleton_append, upTo_append_cons]

/-- Texts that are the same when they are joined are the same one by one, if none of the first ones
has a separator and the second ones start in the same way only where they are the same. -/
theorem eq_of_intercalate_eq {texts texts' : List (List Char)} (hc : ∀ text ∈ texts, c ∉ text)
    (h : List.Forall₂ (fun text text' => upTo c text' = text → text' = text) texts texts')
    (hjoin : [c].intercalate texts' = [c].intercalate texts) : texts' = texts := by
  induction h with
  | nil => rfl
  | @cons text text' texts texts' hfirst hrest ih =>
    obtain ⟨htext, htexts⟩ := List.forall_mem_cons.mp hc
    have hsame : text' = text := by
      refine hfirst ?_
      rw [← upTo_intercalate text' texts', hjoin, upTo_intercalate, upTo_of_not_mem htext]
    subst hsame
    cases hrest with
    | nil => rfl
    | cons _ _ =>
      rw [List.intercalate_cons_cons, List.intercalate_cons_cons, List.append_cancel_left_eq] at hjoin
      rw [ih htexts hjoin]

end Apart

end BindingGen.Text

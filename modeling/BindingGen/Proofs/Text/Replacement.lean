/-
# Replaced occurrences

Replacement goes through a text from left to right. Two texts are replaced in one by one if no
occurrence that begins in the first can go on in the second. A text without occurrences stays as it
is, and no occurrence is left, nor made, by a replacement that none can begin in, end in or reach
across. Joined texts are cut again where they are joined if no occurrence of the separator begins in
one of them.

Key definitions: `replaceFrom`, `StandsClear`.
Key theorems: `replaceAll_append`, `replaceAll_eq_self`, `not_infix_replaceAll`, `cut_intercalate`.
-/
import Mathlib.Data.List.Infix
import BindingGen.Text.Search

namespace BindingGen.Text

variable {s c : Char} {sep replacement text a b : List Char} {skip : Nat}

/-! ### One character at a time -/

/-- A text with every occurrence of `s :: sep` replaced; the first `skip` characters are the rest of
an occurrence that began before them. -/
def replaceFrom (s : Char) (sep replacement : List Char) (skip : Nat) (text : List Char) :
    List Char :=
  replacement.intercalate (cutFrom s sep skip text)

theorem consToFirst_ne_nil (c : Char) (parts : List (List Char)) : consToFirst c parts ≠ [] := by
  cases parts <;> simp [consToFirst]

theorem cutFrom_ne_nil (s : Char) (sep : List Char) (skip : Nat) (text : List Char) :
    cutFrom s sep skip text ≠ [] := by
  fun_induction cutFrom s sep skip text with
  | case1 => simp
  | case2 _ _ _ ih => exact ih
  | case3 => simp
  | case4 => exact consToFirst_ne_nil _ _

theorem intercalate_consToFirst {parts : List (List Char)} (h : parts ≠ []) (c : Char) :
    replacement.intercalate (consToFirst c parts) = c :: replacement.intercalate parts := by
  obtain ⟨first, rest, rfl⟩ := List.exists_cons_of_ne_nil h
  cases rest with
  | nil => simp [consToFirst]
  | cons next rest =>
    rw [consToFirst, List.intercalate_cons_cons, List.intercalate_cons_cons]
    simp

theorem replaceFrom_nil : replaceFrom s sep replacement skip [] = [] := by
  cases skip <;> simp [replaceFrom, cutFrom]

theorem replaceFrom_succ (c : Char) (rest : List Char) :
    replaceFrom s sep replacement (skip + 1) (c :: rest) =
      replaceFrom s sep replacement skip rest := rfl

theorem replaceFrom_of_match (h : c = s ∧ sep <+: text) :
    replaceFrom s sep replacement 0 (c :: text) =
      replacement ++ replaceFrom s sep replacement sep.length text := by
  obtain ⟨first, rest, hparts⟩ :=
    List.exists_cons_of_ne_nil (cutFrom_ne_nil s sep sep.length text)
  have hmatch : (c = s && sep.isPrefixOf text) = true := by simpa using h
  rw [replaceFrom, cutFrom, if_pos hmatch, replaceFrom, hparts, List.intercalate_cons_cons]
  simp

theorem replaceFrom_of_not_match (h : ¬(c = s ∧ sep <+: text)) :
    replaceFrom s sep replacement 0 (c :: text) = c :: replaceFrom s sep replacement 0 text := by
  have hmatch : ¬(c = s && sep.isPrefixOf text) = true := by simpa using h
  rw [replaceFrom, cutFrom, if_neg hmatch, intercalate_consToFirst (cutFrom_ne_nil _ _ _ _)]
  rfl

theorem replaceAll_cons_of_ne (h : c ≠ s) :
    replaceAll s sep replacement (c :: text) = c :: replaceAll s sep replacement text :=
  replaceFrom_of_not_match fun hmatch => h hmatch.1

/-! ### Two texts -/

/-- What begins in the first of two texts and does not go on in the second is all in the first. -/
theorem prefix_of_prefix_append (h : sep <+: a ++ b) (hb : ∀ c ∈ b.head?, c ∉ sep) :
    sep <+: a := by
  rcases List.prefix_or_prefix_of_prefix h (List.prefix_append a b) with hshort | hlong
  · exact hshort
  · obtain ⟨rest, rfl⟩ := hlong
    have hrest : rest <+: b := (List.prefix_append_right_inj a).mp h
    cases rest with
    | nil => rw [List.append_nil]
    | cons c rest =>
      obtain ⟨tail, rfl⟩ := hrest
      exact absurd (by simp) (hb c rfl)

theorem replaceFrom_append (hb : ∀ c ∈ b.head?, c ∉ sep) (hskip : skip ≤ a.length) :
    replaceFrom s sep replacement skip (a ++ b) =
      replaceFrom s sep replacement skip a ++ replaceFrom s sep replacement 0 b := by
  induction a generalizing skip with
  | nil =>
    obtain rfl : skip = 0 := by simpa using hskip
    rw [replaceFrom_nil]
    rfl
  | cons c a ih =>
    cases skip with
    | succ skip =>
      rw [List.cons_append, replaceFrom_succ, replaceFrom_succ]
      exact ih (by simpa using hskip)
    | zero =>
      rw [List.cons_append]
      by_cases hmatch : c = s ∧ sep <+: a
      · have hlong : c = s ∧ sep <+: a ++ b := ⟨hmatch.1, hmatch.2.trans (List.prefix_append a b)⟩
        rw [replaceFrom_of_match hmatch, replaceFrom_of_match hlong, ih hmatch.2.length_le,
          List.append_assoc]
      · have hlong : ¬(c = s ∧ sep <+: a ++ b) := fun h =>
          hmatch ⟨h.1, prefix_of_prefix_append h.2 hb⟩
        rw [replaceFrom_of_not_match hmatch, replaceFrom_of_not_match hlong, ih (Nat.zero_le _)]
        rfl

/-- An occurrence does not go on in a text whose first character can only begin one. -/
theorem replaceAll_append (a : List Char) (hb : ∀ c ∈ b.head?, c ∉ sep) :
    replaceAll s sep replacement (a ++ b) =
      replaceAll s sep replacement a ++ replaceAll s sep replacement b :=
  replaceFrom_append hb (Nat.zero_le _)

theorem cutFrom_length_append (word b : List Char) :
    cutFrom s sep word.length (word ++ b) = cut s sep b := by
  induction word with
  | nil => rfl
  | cons c word ih => exact ih

/-- An occurrence is replaced wherever it stands, if it can overlap with no other. -/
theorem replaceAll_append_self (hs : s ∉ sep) (a b : List Char) :
    replaceAll s sep replacement (a ++ s :: (sep ++ b)) =
      replaceAll s sep replacement a ++ (replacement ++ replaceAll s sep replacement b) := by
  have hmatch : s = s ∧ sep <+: sep ++ b := ⟨rfl, List.prefix_append sep b⟩
  have hfirst : replaceAll s sep replacement (s :: (sep ++ b)) =
      replacement ++ replaceFrom s sep replacement sep.length (sep ++ b) :=
    replaceFrom_of_match hmatch
  rw [replaceAll_append a (by simpa using hs), hfirst, replaceFrom, cutFrom_length_append]
  rfl

/-! ### Occurrences -/

theorem replaceAll_eq_self (h : ¬s :: sep <:+: text) :
    replaceAll s sep replacement text = text := by
  induction text with
  | nil => exact replaceFrom_nil
  | cons c rest ih =>
    rw [List.infix_cons_iff, not_or, List.cons_prefix_cons] at h
    have hmatch : ¬(c = s ∧ sep <+: rest) := fun hmatch => h.1 ⟨hmatch.1.symm, hmatch.2⟩
    calc replaceAll s sep replacement (c :: rest)
        = c :: replaceAll s sep replacement rest := replaceFrom_of_not_match hmatch
      _ = c :: rest := by rw [ih h.2]

theorem infix_append_cons {word : List Char} (hc : c ∉ word) (h : word <:+: a ++ c :: b) :
    word <:+: a ∨ word <:+: b := by
  induction a with
  | nil =>
    rw [List.nil_append, List.infix_cons_iff] at h
    rcases h with hstarts | hrest
    · cases word with
      | nil => exact .inl List.nil_infix
      | cons d word =>
        rw [List.cons_prefix_cons] at hstarts
        exact absurd (hstarts.1 ▸ List.mem_cons_self) hc
    · exact .inr hrest
  | cons d a ih =>
    rw [List.cons_append, List.infix_cons_iff] at h
    rcases h with hstarts | hrest
    · have hhead : ∀ e ∈ (c :: b).head?, e ∉ word := by simpa using hc
      rw [← List.cons_append] at hstarts
      exact .inl (prefix_of_prefix_append hstarts hhead).isInfix
    · rcases ih hrest with ha | hb
      · exact .inl (List.infix_cons ha)
      · exact .inr hb

section Apart

variable {start : List Char} {last stop : Char}

/-- No text that ends in `last` and has no `stop` begins in a replacement. -/
theorem not_prefix_replacement_append {word : List Char} (hlast : last ∉ start ++ [stop])
    (hstop : stop ∉ word ++ [last]) : ¬word ++ [last] <+: (start ++ [stop]) ++ text := by
  intro h
  rcases List.prefix_or_prefix_of_prefix h (List.prefix_append _ text) with hshort | hlong
  · exact hlast (hshort.subset (by simp))
  · exact hstop (hlong.subset (by simp))

/-- What the text with replacements starts with is what the text starts with, if it can neither
begin in a replacement nor reach across one. -/
theorem prefix_of_prefix_replaceFrom {word : List Char} (hlast : last ∉ start ++ [stop])
    (hstop : stop ∉ word ++ [last])
    (h : word ++ [last] <+: replaceFrom s sep (start ++ [stop]) 0 text) :
    word ++ [last] <+: text := by
  induction text generalizing word with
  | nil =>
    rw [replaceFrom_nil] at h
    exact h
  | cons c rest ih =>
    by_cases hmatch : c = s ∧ sep <+: rest
    · rw [replaceFrom_of_match hmatch] at h
      exact absurd h (not_prefix_replacement_append hlast hstop)
    · rw [replaceFrom_of_not_match hmatch] at h
      cases word with
      | nil => simpa using h
      | cons d word =>
        rw [List.cons_append, List.cons_prefix_cons] at h ⊢
        refine ⟨h.1, ih (fun hmem => hstop ?_) h.2⟩
        exact List.mem_cons_of_mem _ hmem

/-- No occurrence is left, nor made, by replacements that none can end in or reach across. -/
theorem not_infix_replaceAll (front start : List Char) (hlast : last ∉ start ++ [stop])
    (hstop : stop ∉ s :: (front ++ [last])) (text : List Char) :
    ¬s :: (front ++ [last]) <:+: replaceAll s (front ++ [last]) (start ++ [stop]) text := by
  have hfrom : ∀ skip, ¬s :: (front ++ [last]) <:+:
      replaceFrom s (front ++ [last]) (start ++ [stop]) skip text := by
    induction text with
    | nil =>
      intro skip
      simp [replaceFrom_nil]
    | cons c rest ih =>
      intro skip
      cases skip with
      | succ skip =>
        rw [replaceFrom_succ]
        exact ih skip
      | zero =>
        by_cases hmatch : c = s ∧ front ++ [last] <+: rest
        · rw [replaceFrom_of_match hmatch, List.append_assoc, List.singleton_append]
          intro h
          rcases infix_append_cons hstop h with hin | hbehind
          · exact hlast (List.mem_append_left _ (hin.subset (by simp)))
          · exact ih _ hbehind
        · rw [replaceFrom_of_not_match hmatch, List.infix_cons_iff, List.cons_prefix_cons]
          rintro (⟨rfl, hrest⟩ | hrest)
          · refine hmatch ⟨rfl, prefix_of_prefix_replaceFrom hlast (fun hmem => hstop ?_) hrest⟩
            exact List.mem_cons_of_mem _ hmem
          · exact ih 0 hrest
  exact hfrom 0

end Apart

/-! ### Joined texts -/

/-- No occurrence of `s :: sep` begins in the text, where one stands behind it. -/
def StandsClear (s : Char) (sep text : List Char) : Prop :=
  ∀ ending, ending <:+ text → ending ≠ [] → ¬s :: sep <+: ending ++ s :: sep

theorem StandsClear.of_cons (h : StandsClear s sep (c :: text)) : StandsClear s sep text :=
  fun ending hending => h ending (hending.trans (List.suffix_cons c text))

theorem standsClear_of_not_mem (h : s ∉ text) : StandsClear s sep text := by
  intro ending hending hne hstarts
  obtain ⟨c, rest, rfl⟩ := List.exists_cons_of_ne_nil hne
  rw [List.cons_append, List.cons_prefix_cons] at hstarts
  exact h (hstarts.1 ▸ hending.subset List.mem_cons_self)

theorem StandsClear.not_match (h : StandsClear s sep (c :: text)) (b : List Char) :
    ¬(c = s ∧ sep <+: text ++ s :: (sep ++ b)) := by
  rintro ⟨rfl, hmatch⟩
  refine h (c :: text) List.suffix_rfl (by simp) ?_
  rw [List.cons_append, List.cons_prefix_cons]
  have hlong : text ++ c :: (sep ++ b) = (text ++ c :: sep) ++ b := by simp
  rw [hlong] at hmatch
  exact ⟨rfl, List.prefix_of_prefix_length_le hmatch (List.prefix_append _ b) (by simp; omega)⟩

theorem cut_cons_of_not_match (h : ¬(c = s ∧ sep <+: text)) :
    cut s sep (c :: text) = consToFirst c (cut s sep text) :=
  if_neg (by simpa using h)

theorem cut_append_self (h : StandsClear s sep a) (b : List Char) :
    cut s sep (a ++ s :: (sep ++ b)) = a :: cut s sep b := by
  induction a with
  | nil =>
    have hmatch : (s = s && sep.isPrefixOf (sep ++ b)) = true := by simp
    rw [List.nil_append, cut, cutFrom, if_pos hmatch, cutFrom_length_append]
  | cons c a ih =>
    rw [List.cons_append, cut_cons_of_not_match (h.not_match b), ih h.of_cons, consToFirst]

theorem cut_eq_singleton (h : StandsClear s sep text) : cut s sep text = [text] := by
  induction text with
  | nil => rfl
  | cons c text ih =>
    have hmatch : ¬(c = s ∧ sep <+: text) := fun hmatch =>
      h.not_match [] ⟨hmatch.1, hmatch.2.trans (List.prefix_append text _)⟩
    rw [cut_cons_of_not_match hmatch, ih h.of_cons, consToFirst]

/-- Joined texts are cut again into the same texts. -/
theorem cut_intercalate {texts : List (List Char)} (hne : texts ≠ [])
    (h : ∀ text ∈ texts, StandsClear s sep text) :
    cut s sep ((s :: sep).intercalate texts) = texts := by
  induction texts with
  | nil => exact absurd rfl hne
  | cons text rest ih =>
    rw [List.forall_mem_cons] at h
    cases rest with
    | nil => rw [List.intercalate_singleton, cut_eq_singleton h.1]
    | cons next rest =>
      rw [List.intercalate_cons_cons, List.append_assoc, List.cons_append, cut_append_self h.1,
        ih (by simp) h.2]

end BindingGen.Text

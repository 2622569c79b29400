/-
# Constants between quotes

A constant is referred to by its Haskell name between quotes. A quote has no case, parts no words
and is no upper-case letter that a known prefix could stand in front of, so that the Haskell name
of a constant ends with the quotes that its C name ends with. So no constant is spelled like the
reference to it.

Key definitions: `Text.quotes`.
Key theorems: `Text.quotes_suffix_capitalize`, `Text.exists_last_piece`,
`Name.quotes_suffix_ofConstant`, `Name.quoted_ofConstant_ne`.
-/
import Mathlib.Data.List.Infix
import BindingGen.Name
import BindingGen.Proofs.Text.Replacement

namespace BindingGen

namespace Text

/-- A run of `n` quotes. -/
def quotes (n : Nat) : List Char := List.replicate n '\''

theorem quotes_succ (n : Nat) : quotes (n + 1) = '\'' :: quotes n := List.replicate_succ

/-! ### Letter case -/

theorem lowerBetween_quote (before after : List Char) : lowerBetween before '\'' after = ['\''] := by
  rw [lowerBetween, if_neg (by decide)]
  decide

theorem lowerWithin_quotes (before : List Char) (n : Nat) :
    lowerWithin before (quotes n) = quotes n := by
  induction n generalizing before with
  | zero => rfl
  | succ n ih => rw [quotes_succ, lowerWithin, lowerBetween_quote, ih, List.singleton_append]

theorem capitalize_quotes (n : Nat) : capitalize (quotes n) = quotes n := by
  cases n with
  | zero => rfl
  | succ n =>
    have htitle : title '\'' = ['\''] := by decide
    rw [quotes_succ, capitalize, htitle, lowerWithin_quotes, List.singleton_append]

theorem quotes_suffix_lowerWithin {n : Nat} {text : List Char} (before : List Char)
    (h : quotes n <:+ text) : quotes n <:+ lowerWithin before text := by
  induction text generalizing before with
  | nil => exact h
  | cons c rest ih =>
    rcases List.suffix_cons_iff.mp h with hall | hrest
    · rw [← hall, lowerWithin_quotes]
    · exact List.suffix_append_of_suffix (ih (c :: before) hrest)

theorem quotes_suffix_capitalize {n : Nat} {text : List Char} (h : quotes n <:+ text) :
    quotes n <:+ capitalize text := by
  cases text with
  | nil => exact h
  | cons c rest =>
    rcases List.suffix_cons_iff.mp h with hall | hrest
    · rw [← hall, capitalize_quotes]
    · exact List.suffix_append_of_suffix (quotes_suffix_lowerWithin [c] hrest)

/-! ### Parts -/

section Parts

variable {s : Char} {text ending : List Char}

theorem cut_cons (s c : Char) (rest : List Char) :
    cut s [] (c :: rest) = if c = s then [] :: cut s [] rest else consToFirst c (cut s [] rest) := by
  simp [cut, cutFrom]

/-- The last part of a text ends like the text, as far as there is no separator. -/
theorem exists_last_part (hs : s ∉ ending) (h : ending <:+ text) :
    ∃ parts last, cut s [] text = parts ++ [last] ∧ ending <:+ last := by
  induction text with
  | nil => exact ⟨[], [], rfl, h⟩
  | cons c rest ih =>
    rcases List.suffix_cons_iff.mp h with rfl | hrest
    · exact ⟨[], c :: rest, cut_eq_singleton (standsClear_of_not_mem hs), List.suffix_rfl⟩
    · obtain ⟨parts, last, hparts, hlast⟩ := ih hrest
      rw [cut_cons, hparts]
      split_ifs
      · exact ⟨[] :: parts, last, rfl, hlast⟩
      · cases parts with
        | nil => exact ⟨[], c :: last, rfl, hlast.trans (List.suffix_cons c last)⟩
        | cons first parts => exact ⟨(c :: first) :: parts, last, rfl, hlast⟩

/-- The last non-empty part of a text ends like the text, as far as there is no separator. -/
theorem exists_last_piece (hs : s ∉ ending) (hne : ending ≠ []) (h : ending <:+ text) :
    ∃ parts last, pieces s [] text = parts ++ [last] ∧ ending <:+ last := by
  obtain ⟨parts, last, hparts, hlast⟩ := exists_last_part hs h
  have hkept : last ≠ [] := fun hnil => hne (List.suffix_nil.mp (hnil ▸ hlast))
  refine ⟨parts.filter fun p => !p.isEmpty, last, ?_, hlast⟩
  simp [pieces, hparts, hkept]

end Parts

end Text

open Text

/-! ### Names -/

namespace Name

/-- Either nothing of a name is dropped, or an upper-case letter comes first in what is left. -/
theorem droppedLength_eq_zero_or (known : List String) (name : String) :
    droppedLength known name = 0 ∨
      (name.toList.drop (droppedLength known name)).head?.any isUpper = true := by
  unfold droppedLength
  induction known with
  | nil => exact .inl rfl
  | cons start known ih =>
    by_cases hcan : canDrop name start = true
    · rw [List.filter_cons_of_pos hcan, List.map_cons, List.foldr_cons, Nat.max_def]
      split_ifs
      · exact ih
      · exact .inr (Bool.and_eq_true_iff.mp hcan).2
    · rwa [List.filter_cons_of_neg hcan]

theorem quotes_suffix_dropKnown (known : List String) {name : String} {n : Nat}
    (h : quotes n <:+ name.toList) : quotes n <:+ (dropKnown known name).toList := by
  rw [dropKnown, String.toList_ofList]
  rcases droppedLength_eq_zero_or known name with hzero | hupper
  · rwa [hzero, List.drop_zero]
  · obtain ⟨first, hfirst⟩ := h
    rw [← hfirst, List.drop_append] at hupper ⊢
    by_cases hlong : droppedLength known name ≤ first.length
    · rw [Nat.sub_eq_zero_of_le hlong, List.drop_zero]
      exact List.suffix_append _ _
    · -- what is left would start with a quote
      rw [List.drop_eq_nil_of_le (by omega), List.nil_append, quotes, List.drop_replicate] at hupper
      cases hleft : n - (droppedLength known name - first.length) with
      | zero =>
        rw [hleft] at hupper
        exact absurd hupper Bool.false_ne_true
      | succ m =>
        rw [hleft, List.replicate_succ, List.head?_cons, Option.any_some] at hupper
        exact absurd hupper (by decide)

theorem quotes_suffix_ofConstant (settings : Settings) {cname : String} {n : Nat}
    (h : quotes n <:+ cname.toList) : quotes n <:+ (ofConstant settings cname).toList := by
  rcases Nat.eq_zero_or_pos n with rfl | hpos
  · exact List.nil_suffix
  · refine quotes_suffix_dropKnown _ ?_
    have hnone : '_' ∉ quotes n := fun hmem => absurd (List.eq_of_mem_replicate hmem) (by decide)
    have hne : quotes n ≠ [] := List.ne_nil_of_length_pos (by rwa [quotes, List.length_replicate])
    obtain ⟨parts, last, hparts, hlast⟩ := exists_last_piece hnone hne h
    have hwords : underscoreWords cname = parts.map String.ofList ++ [String.ofList last] := by
      rw [underscoreWords, hparts, List.map_append, List.map_singleton]
    rw [hwords, List.map_append, List.map_singleton, String.join_append, String.toList_append,
      String.toList_ofList]
    refine List.suffix_append_of_suffix ?_
    simpa using quotes_suffix_capitalize hlast

/-- No constant is spelled like its Haskell name between quotes. -/
theorem quoted_ofConstant_ne (settings : Settings) (cname : String) :
    "'" ++ ofConstant settings cname ++ "'" ≠ cname := by
  intro hsame
  have hchars : cname.toList = ('\'' :: (ofConstant settings cname).toList) ++ ['\''] := by
    simpa using congrArg String.toList hsame.symm
  have hall : ∀ n, quotes n <:+ cname.toList := by
    intro n
    induction n with
    | zero => exact List.nil_suffix
    | succ n ih =>
      obtain ⟨first, hfirst⟩ := quotes_suffix_ofConstant settings ih
      refine ⟨'\'' :: first, ?_⟩
      rw [hchars, ← hfirst, quotes, List.replicate_succ']
      simp [quotes]
  have hlong := (hall (cname.toList.length + 1)).length_le
  rw [quotes, List.length_replicate] at hlong
  omega

end Name

end BindingGen

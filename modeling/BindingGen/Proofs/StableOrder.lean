/-
# Stable orders

Records are sorted by a key, and records of one key keep the order they came in. These two facts
leave no choice: a list has one stable order, which merge sort gives (`isStableOrder_iff`). The key
is often the position of a name in another list, where the first record of a name stands for the
name and a name without a record stands behind all others.

Key definitions: `IsFirst`, `position`, `IsStableOrder`.
Key theorems: `isFirst_iff`, `position_le_iff`, `filter_key_eq_of_perm`, `isStableOrder_iff`.
-/
import Mathlib.Data.Prod.Lex
import Mathlib.Order.WithBot
import BindingGen.Proofs.Places

namespace BindingGen

/-! ### The first record of a name -/

section First

variable {α : Type} {nameOf : α → String} {name : String} {records : List α}

/-- What is found is the first record of the name; nothing is found where no record has it. -/
def IsFirst (nameOf : α → String) (name : String) (records : List α) : Option α → Prop
  | none => ∀ r ∈ records, nameOf r ≠ name
  | some r => nameOf r = name ∧
      ∃ before after, records = before ++ r :: after ∧ ∀ other ∈ before, nameOf other ≠ name

theorem isFirst_iff {found : Option α} :
    IsFirst nameOf name records found ↔ firstNamed? nameOf name records = found := by
  unfold firstNamed?
  cases found with
  | none => simp [IsFirst]
  | some r => simp [IsFirst, List.find?_eq_some_iff_append]

theorem isFirst_firstNamed? : IsFirst nameOf name records (firstNamed? nameOf name records) :=
  isFirst_iff.mpr rfl

end First

/-! ### Positions -/

section Position

variable {α : Type} {nameOf : α → String} {records : List α}

/-- The position of the first record of a name, above all positions if there is none. -/
def position (nameOf : α → String) (name : String) (records : List α) : WithTop ℕ :=
  match records.findIdx? fun r => nameOf r = name with
  | some place => WithTop.some place
  | none => ⊤

theorem position_eq (nameOf : α → String) (name : String) (records : List α) :
    position nameOf name records =
      if rank nameOf name records < records.length then WithTop.some (rank nameOf name records)
      else ⊤ := by
  unfold position rank
  rw [List.findIdx?_eq_guard_findIdx_lt]
  split_ifs with h <;> simp [Option.guard, h]

theorem rank_le_length (nameOf : α → String) (name : String) (records : List α) :
    rank nameOf name records ≤ records.length :=
  List.findIdx_le_length

/-- Names are in the order of their places, the last of which is that of the absent ones. -/
theorem position_le_iff {a b : String} :
    position nameOf a records ≤ position nameOf b records ↔
      rank nameOf a records ≤ rank nameOf b records := by
  have ha := rank_le_length nameOf a records
  have hb := rank_le_length nameOf b records
  rw [position_eq, position_eq]
  by_cases hpresent : rank nameOf b records < records.length
  · by_cases hfirst : rank nameOf a records < records.length
    · rw [if_pos hpresent, if_pos hfirst, WithTop.coe_le_coe]
    · rw [if_pos hpresent, if_neg hfirst, top_le_iff]
      simp only [WithTop.coe_ne_top, false_iff]
      omega
  · rw [if_neg hpresent]
    simp only [le_top, true_iff]
    omega

theorem position_eq_iff {a b : String} :
    position nameOf a records = position nameOf b records ↔
      rank nameOf a records = rank nameOf b records := by
  rw [le_antisymm_iff, le_antisymm_iff, position_le_iff, position_le_iff]

end Position

/-! ### Stable orders -/

section Stable

variable {α κ : Type} [LinearOrder κ] {key : α → κ} {l sorted sorted' : List α}

/-- The list is in the order of the keys, and the members of one key come as they did. -/
structure IsStableOrder (key : α → κ) (l sorted : List α) : Prop where
  perm : sorted.Perm l
  ordered : sorted.Pairwise fun a b => key a ≤ key b
  stable : ∀ k, sorted.filter (key · = k) = l.filter (key · = k)

theorem isStableOrder_mergeSort (key : α → κ) (l : List α) :
    IsStableOrder key l (l.mergeSort fun a b => key a ≤ key b) := by
  have htrans : ∀ a b c, decide (key a ≤ key b) = true → decide (key b ≤ key c) = true →
      decide (key a ≤ key c) = true := by
    intro a b c hab hbc
    rw [decide_eq_true_eq] at hab hbc ⊢
    exact hab.trans hbc
  have htotal : ∀ a b, (decide (key a ≤ key b) || decide (key b ≤ key a)) = true := by
    intro a b
    rw [Bool.or_eq_true, decide_eq_true_eq, decide_eq_true_eq]
    exact le_total (key a) (key b)
  have hperm : (l.mergeSort fun a b => key a ≤ key b).Perm l := List.mergeSort_perm _ _
  refine ⟨hperm, ?_, fun k => ?_⟩
  · exact (List.pairwise_mergeSort htrans htotal l).imp fun h => by simpa using h
  · -- the members of one key are in order as they are, so that sorting keeps them as a sublist
    have hsame : (l.filter (key · = k)).Pairwise fun a b => decide (key a ≤ key b) = true := by
      refine List.pairwise_of_forall_mem_list fun a ha b hb => ?_
      have hka : key a = k := by simpa using (List.mem_filter.mp ha).2
      have hkb : key b = k := by simpa using (List.mem_filter.mp hb).2
      rw [hka, hkb]
      exact decide_eq_true le_rfl
    have hsub := (List.sublist_mergeSort htrans htotal hsame List.filter_sublist).filter
      (key · = k)
    rw [List.filter_filter] at hsub
    simp only [Bool.and_self] at hsub
    exact (hsub.eq_of_length (hperm.filter _).length_eq.symm).symm

theorem mem_iff_of_filter_eq
    (hfilter : ∀ k, sorted.filter (key · = k) = sorted'.filter (key · = k)) (a : α) :
    a ∈ sorted ↔ a ∈ sorted' := by
  have hk := congrArg (a ∈ ·) (hfilter (key a))
  simpa using hk

/-- Lists in the order of the keys that have the same members of each key are equal. -/
theorem eq_of_ordered_of_filter_eq (h : sorted.Pairwise fun a b => key a ≤ key b)
    (h' : sorted'.Pairwise fun a b => key a ≤ key b)
    (hfilter : ∀ k, sorted.filter (key · = k) = sorted'.filter (key · = k)) :
    sorted = sorted' := by
  have hmem := mem_iff_of_filter_eq hfilter
  induction sorted generalizing sorted' with
  | nil =>
    refine (List.eq_nil_iff_forall_not_mem.mpr fun a ha => ?_).symm
    exact List.not_mem_nil ((hmem a).mpr ha)
  | cons a rest ih =>
    cases sorted' with
    | nil => exact absurd ((hmem a).mp List.mem_cons_self) List.not_mem_nil
    | cons b rest' =>
      rw [List.pairwise_cons] at h h'
      -- each head is below the other one, which the other list has
      have hab : key a ≤ key b := by
        rcases List.mem_cons.mp ((hmem b).mpr List.mem_cons_self) with rfl | hb
        · exact le_rfl
        · exact h.1 b hb
      have hba : key b ≤ key a := by
        rcases List.mem_cons.mp ((hmem a).mp List.mem_cons_self) with rfl | ha
        · exact le_rfl
        · exact h'.1 a ha
      have hkey : key b = key a := le_antisymm hba hab
      have hhead : a = b := by
        have hk := hfilter (key a)
        rw [List.filter_cons_of_pos (by simp), List.filter_cons_of_pos (by simp [hkey])] at hk
        exact (List.cons.inj hk).1
      subst hhead
      have hrest : ∀ k, rest.filter (key · = k) = rest'.filter (key · = k) := by
        intro k
        have hk := hfilter k
        simp only [List.filter_cons] at hk
        split_ifs at hk
        · exact (List.cons.inj hk).2
        · exact hk
      rw [ih h.2 h'.2 hrest (mem_iff_of_filter_eq hrest)]

/-- A list has one stable order. -/
theorem isStableOrder_iff :
    IsStableOrder key l sorted ↔ sorted = l.mergeSort fun a b => key a ≤ key b := by
  have hsort := isStableOrder_mergeSort key l
  constructor
  · intro h
    refine eq_of_ordered_of_filter_eq h.ordered hsort.ordered fun k => ?_
    rw [h.stable, hsort.stable]
  · rintro rfl
    exact hsort

end Stable

end BindingGen

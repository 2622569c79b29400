/-
# Sorting by the place in a list

Records are put in the order of a list of names. Where no name is listed twice, the places of its
names grow along the list, and so along any part of it: sorting brings records that are named by
such a part into the order of the part, whatever order they came in (`mergeSort_eq_of_perm`).

Key theorems: `firstNamed?_eq_some_iff`, `firstNamed?_perm`, `lookup_map_eq_firstNamed?`,
`lookup_eq_some_iff_mem`, `rank_eq_idxOf`, `pairwise_rank_lt`, `firstEntries_idem`,
`mergeSort_eq_of_perm`.
-/
import Mathlib.Data.List.Nodup
import BindingGen.Table

namespace BindingGen

variable {α : Type}

/-! ### The record of a name -/

theorem mem_of_firstNamed? {nameOf : α → String} {name : String} {records : List α} {r : α}
    (h : firstNamed? nameOf name records = some r) : r ∈ records ∧ nameOf r = name :=
  ⟨List.mem_of_find?_eq_some h, by simpa using List.find?_some h⟩

theorem firstNamed?_of_mem {nameOf : α → String} {records : List α}
    (hnodup : (records.map nameOf).Nodup) {r : α} (hr : r ∈ records) :
    firstNamed? nameOf (nameOf r) records = some r := by
  induction records with
  | nil => cases hr
  | cons first rest ih =>
    rw [List.map_cons, List.nodup_cons] at hnodup
    rw [firstNamed?, List.find?_cons]
    rcases List.mem_cons.mp hr with rfl | hr
    · simp
    · have hne : nameOf first ≠ nameOf r := fun he =>
        hnodup.1 (he ▸ List.mem_map_of_mem hr)
      rw [decide_eq_false hne]
      exact ih hnodup.2 hr

theorem firstNamed?_eq_some_iff {nameOf : α → String} {name : String} {records : List α}
    (hnodup : (records.map nameOf).Nodup) {r : α} :
    firstNamed? nameOf name records = some r ↔ r ∈ records ∧ nameOf r = name := by
  constructor
  · exact mem_of_firstNamed?
  · rintro ⟨hr, rfl⟩
    exact firstNamed?_of_mem hnodup hr

/-- Where no name stands for two records, the record of a name does not depend on their order. -/
theorem firstNamed?_perm {nameOf : α → String} {records records' : List α}
    (hdistinct : (records.map nameOf).Nodup) (hperm : records.Perm records') (name : String) :
    firstNamed? nameOf name records' = firstNamed? nameOf name records := by
  have hdistinct' : (records'.map nameOf).Nodup := (hperm.map nameOf).nodup_iff.mp hdistinct
  cases hfirst : firstNamed? nameOf name records with
  | none =>
    refine List.find?_eq_none.mpr fun r hr => ?_
    exact List.find?_eq_none.mp hfirst r (hperm.mem_iff.mpr hr)
  | some r =>
    obtain ⟨hr, rfl⟩ := mem_of_firstNamed? hfirst
    exact firstNamed?_of_mem hdistinct' (hperm.mem_iff.mp hr)

/-- What is looked up in a table of records is that of the first record of the name. -/
theorem lookup_map_eq_firstNamed? {β : Type} (nameOf : α → String) (f : α → β) (name : String)
    (records : List α) :
    (records.map fun r => (nameOf r, f r)).lookup name =
      (firstNamed? nameOf name records).map f := by
  induction records with
  | nil => rfl
  | cons r rest ih =>
    rw [List.map_cons, List.lookup_cons, firstNamed?, List.find?_cons, ih]
    by_cases h : nameOf r = name
    · simp [h]
    · rw [beq_false_of_ne (Ne.symm h), decide_eq_false h]
      rfl

/-- Where no name stands for two entries, a look-up finds every entry. -/
theorem lookup_eq_some_iff_mem {entries : List (String × α)}
    (hdistinct : (entries.map (·.1)).Nodup) {name : String} {value : α} :
    entries.lookup name = some value ↔ (name, value) ∈ entries := by
  rw [List.lookup_eq_some_iff]
  constructor
  · rintro ⟨before, after, rfl, -⟩
    exact List.mem_append_right _ List.mem_cons_self
  · intro hmem
    obtain ⟨before, after, rfl⟩ := List.append_of_mem hmem
    refine ⟨before, after, rfl, fun entry hentry => ?_⟩
    rw [List.map_append, List.map_cons] at hdistinct
    have hapart := (List.nodup_append.mp hdistinct).2.2
    have hne := hapart entry.1 (List.mem_map_of_mem hentry) name List.mem_cons_self
    exact bne_iff_ne.mpr hne.symm

/-- What records say under their own names has a part of these names. -/
theorem names_filterMap_sublist {β κ : Type} {nameOf : α → κ} {nameOf' : β → κ} {f : α → Option β}
    (h : ∀ a b, f a = some b → nameOf' b = nameOf a) (records : List α) :
    ((records.filterMap f).map nameOf').Sublist (records.map nameOf) := by
  induction records with
  | nil => exact List.Sublist.slnil
  | cons a rest ih =>
    rw [List.filterMap_cons, List.map_cons]
    cases ha : f a with
    | none => exact ih.cons _
    | some b =>
      rw [List.map_cons, h a b ha]
      exact ih.cons_cons _

/-! ### Places -/

theorem rank_eq_idxOf (nameOf : α → String) (name : String) (records : List α) :
    rank nameOf name records = (records.map nameOf).idxOf name := by
  induction records with
  | nil => rfl
  | cons r records ih =>
    rw [rank, List.findIdx_cons, List.map_cons, List.idxOf_cons, ← ih]
    by_cases h : nameOf r = name
    · simp [h]
    · simp [h, rank, beq_eq_false_iff_ne.mpr h]

theorem pairwise_idxOf_lt {names part : List String} (hnodup : names.Nodup)
    (hpart : part.Sublist names) :
    part.Pairwise fun a b => names.idxOf a < names.idxOf b := by
  refine List.Pairwise.sublist hpart (List.pairwise_iff_getElem.mpr fun i j hi hj hij => ?_)
  rw [hnodup.idxOf_getElem i hi, hnodup.idxOf_getElem j hj]
  exact hij

/-- Along records that are listed in this order, places grow. -/
theorem pairwise_rank_lt {β : Type} {nameOf : α → String} {records : List α}
    (hnodup : (records.map nameOf).Nodup) {key : β → String} {part : List β}
    (hpart : (part.map key).Sublist (records.map nameOf)) :
    part.Pairwise fun a b => rank nameOf (key a) records < rank nameOf (key b) records := by
  refine (List.pairwise_map.mp (pairwise_idxOf_lt hnodup hpart)).imp fun h => ?_
  rwa [rank_eq_idxOf, rank_eq_idxOf]

theorem mem_names_firstEntries {name : String} {entries : List (String × α)} :
    name ∈ (firstEntries entries).map (·.1) ↔ name ∈ entries.map (·.1) := by
  have hlookup (l : List (String × α)) : name ∈ l.map (·.1) ↔ (l.lookup name).isSome = true := by
    simp only [List.lookup_isSome_iff, List.mem_map, beq_iff_eq, eq_comm (a := name)]
  rw [hlookup, hlookup, lookup_firstEntries]

theorem pairwise_firstEntries (entries : List (String × α)) :
    ((firstEntries entries).map (·.1)).Pairwise fun a b =>
      (entries.map (·.1)).idxOf a < (entries.map (·.1)).idxOf b := by
  induction entries with
  | nil => exact List.Pairwise.nil
  | cons entry rest ih =>
    simp only [firstEntries, List.map_cons, List.pairwise_cons]
    have hne : ∀ b ∈ ((firstEntries rest).filter fun other => other.1 != entry.1).map (·.1),
        entry.1 ≠ b := by
      intro b hb
      obtain ⟨other, hother, rfl⟩ := List.mem_map.mp hb
      exact Ne.symm (by simpa using (List.mem_filter.mp hother).2)
    refine ⟨fun b hb => ?_, ?_⟩
    · rw [List.idxOf_cons_self, List.idxOf_cons_ne _ (hne b hb)]
      exact Nat.succ_pos _
    · refine (ih.sublist (List.filter_sublist.map _)).imp_of_mem fun ha hb h => ?_
      rw [List.idxOf_cons_ne _ (hne _ ha), List.idxOf_cons_ne _ (hne _ hb)]
      exact Nat.succ_lt_succ h

theorem nodup_firstEntries (entries : List (String × α)) :
    ((firstEntries entries).map (·.1)).Nodup :=
  (pairwise_firstEntries entries).imp fun h he => absurd h (by simp [he])

theorem firstEntries_eq_self {entries : List (String × α)} (h : (entries.map (·.1)).Nodup) :
    firstEntries entries = entries := by
  induction entries with
  | nil => rfl
  | cons entry rest ih =>
    obtain ⟨hentry, hrest⟩ := List.nodup_cons.mp h
    rw [firstEntries, ih hrest, List.filter_eq_self.mpr fun other hother => ?_]
    refine bne_iff_ne.mpr fun hname => hentry ?_
    exact List.mem_map.mpr ⟨other, hother, hname⟩

theorem firstEntries_idem (entries : List (String × α)) :
    firstEntries (firstEntries entries) = firstEntries entries :=
  firstEntries_eq_self (nodup_firstEntries entries)

theorem nodup_eraseDups [BEq α] [LawfulBEq α] : ∀ l : List α, l.eraseDups.Nodup
  | [] => List.nodup_nil
  | a :: rest => by
    rw [List.eraseDups_cons, List.nodup_cons]
    refine ⟨fun hmem => ?_, nodup_eraseDups (rest.filter fun b => !b == a)⟩
    simpa using (List.mem_filter.mp (List.mem_eraseDups.mp hmem)).2
termination_by l => l.length
decreasing_by exact Nat.lt_succ_of_le (List.length_filter_le _ rest)

/-! ### Sorting -/

/-- Sorting brings records into an order that is strict for the comparison. -/
theorem mergeSort_eq_of_perm {le : α → α → Bool} (htrans : ∀ a b c, le a b → le b c → le a c)
    (htotal : ∀ a b, le a b || le b a) {l sorted : List α} (hperm : l.Perm sorted)
    (hsorted : sorted.Pairwise fun a b => le a b = true ∧ le b a = false) :
    l.mergeSort le = sorted := by
  have hp : (l.mergeSort le).Perm sorted := (List.mergeSort_perm l le).trans hperm
  have hle : (l.mergeSort le).Pairwise fun a b => le a b = true :=
    List.pairwise_mergeSort htrans htotal l
  refine List.Perm.eq_of_pairwise ?_ hle (hsorted.imp And.left) hp
  intro a b ha hb hab hba
  -- of two different records, only one comparison holds, whichever comes first
  have hanti : ∀ x ∈ sorted, ∀ y ∈ sorted, le x y = true → le y x = true → x = y := by
    refine List.Pairwise.forall_of_forall_of_flip (fun _ _ _ _ => rfl) ?_ ?_
    · exact hsorted.imp fun h _ hyx => absurd hyx (by simp [h.2])
    · exact hsorted.imp fun h hyx _ => absurd hyx (by simp [h.2])
  exact hanti a (hp.mem_iff.mp ha) b hb hab hba

theorem mergeSort_key_eq_of_perm (key : α → Nat) {l sorted : List α} (hperm : l.Perm sorted)
    (hsorted : sorted.Pairwise fun a b => key a < key b) :
    l.mergeSort (fun a b => key a ≤ key b) = sorted := by
  refine mergeSort_eq_of_perm ?_ ?_ hperm (hsorted.imp fun h => ?_)
  · intro a b c hab hbc
    rw [decide_eq_true_eq] at hab hbc ⊢
    omega
  · intro a b
    rw [Bool.or_eq_true, decide_eq_true_eq, decide_eq_true_eq]
    omega
  · rw [decide_eq_true_eq, decide_eq_false_iff_not]
    omega

end BindingGen

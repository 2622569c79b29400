/-
# Texts without blanks

Letter case turns no visible character into a blank one: the images of the case mappings are listed
or given by runs of codes, and none of them meets the ranges of the blank characters. The parts of a
text that has no blank have none either.

Key definitions: `BlankFree`, `IsWord`.
Key theorems: `mem_lower`, `mem_upper`, `blankFree_title`, `blankFree_capitalize`,
`subset_of_mem_pieces`.
-/
import Mathlib.Data.List.Basic
import BindingGen.Text.Blank
import BindingGen.Text.Case
import BindingGen.Text.Search

namespace BindingGen.Text

open CaseTable

/-- No character of the text is blank. -/
def BlankFree (text : List Char) : Prop := ∀ c ∈ text, isBlank c = false

instance (text : List Char) : Decidable (BlankFree text) :=
  List.decidableBAll _ text

namespace BlankFree

variable {a b : List Char}

theorem append (ha : BlankFree a) (hb : BlankFree b) : BlankFree (a ++ b) :=
  List.forall_mem_append.mpr ⟨ha, hb⟩

theorem of_subset (ha : BlankFree a) (h : b ⊆ a) : BlankFree b := fun c hc => ha c (h hc)

theorem join {texts : List String} (h : ∀ text ∈ texts, BlankFree text.toList) :
    BlankFree (String.join texts).toList := by
  induction texts with
  | nil => exact fun c hc => by cases hc
  | cons text texts ih =>
    rw [List.forall_mem_cons] at h
    rw [String.join_cons, String.toList_append]
    exact h.1.append (ih h.2)

end BlankFree

/-- The text is not empty and has no blank in it. -/
def IsWord (text : List Char) : Prop := text ≠ [] ∧ BlankFree text

theorem IsWord.not_allBlank {text : List Char} (h : IsWord text) : allBlank text = false := by
  obtain ⟨c, rest, rfl⟩ := List.exists_cons_of_ne_nil h.1
  simp [allBlank, h.2 c List.mem_cons_self]

/-! ### Codes -/

/-- No code from the first to the last is that of a blank character. -/
def avoidsBlanks (first last : Nat) : Bool :=
  blankRanges.all fun (lowest, highest) => last < lowest || highest < first

/-- The images of a case mapping by runs are visible. -/
def runsAvoidBlanks (runs : List (Nat × Nat × Nat × Nat)) : Bool :=
  runs.all fun (first, last, _, image) => avoidsBlanks image (image + (last - first))

theorem not_inRanges_of_avoidsBlanks {first last n : Nat} (h : avoidsBlanks first last = true)
    (hfirst : first ≤ n) (hlast : n ≤ last) : inRanges blankRanges n = false := by
  refine List.any_eq_false.mpr fun range hrange => ?_
  have hapart := List.all_eq_true.mp h range hrange
  rw [Bool.or_eq_true, decide_eq_true_eq, decide_eq_true_eq] at hapart
  rw [Bool.and_eq_true, decide_eq_true_eq, decide_eq_true_eq]
  omega

/-- The character of a code is blank if the code is that of a blank one. -/
theorem isBlank_ofNat {n : Nat} (h : inRanges blankRanges n = false) :
    isBlank (Char.ofNat n) = false := by
  rw [Char.ofNat]
  by_cases hvalid : n.isValidChar
  · rw [dif_pos hvalid]
    exact h
  · rw [dif_neg hvalid]
    decide

theorem not_inRanges_runImage {runs : List (Nat × Nat × Nat × Nat)}
    (h : runsAvoidBlanks runs = true) {n m : Nat} (hm : runImage? runs n = some m) :
    inRanges blankRanges m = false := by
  obtain ⟨⟨first, last, step, image⟩, hrun, himage⟩ := List.exists_of_findSome?_eq_some hm
  dsimp only at himage
  split_ifs at himage with hin
  · rw [Bool.and_eq_true, Bool.and_eq_true, decide_eq_true_eq, decide_eq_true_eq] at hin
    obtain rfl := Option.some.inj himage
    have havoids : avoidsBlanks image (image + (last - first)) = true :=
      List.all_eq_true.mp h _ hrun
    exact not_inRanges_of_avoidsBlanks havoids (by omega) (by omega)

theorem blankFree_map_ofNat {codes : List Nat}
    (h : ∀ code ∈ codes, inRanges blankRanges code = false) : BlankFree (codes.map Char.ofNat) := by
  intro c hc
  obtain ⟨code, hcode, rfl⟩ := List.mem_map.mp hc
  exact isBlank_ofNat (h code hcode)

/-! ### Letter case -/

section Case

variable {c : Char} {text : List Char}

theorem blankFree_singleton (h : isBlank c = false) : BlankFree [c] :=
  List.forall_mem_singleton.mpr h

/-- A case mapping whose images are visible, but for the characters that it leaves as they are. -/
theorem mem_mapCase {special : List (Nat × List Nat)} {runs : List (Nat × Nat × Nat × Nat)}
    (hspecial : ∀ entry ∈ special, ∀ code ∈ entry.2, inRanges blankRanges code = false)
    (hruns : runsAvoidBlanks runs = true) {d : Char} (hd : d ∈ mapCase special runs c) :
    d = c ∨ isBlank d = false := by
  unfold mapCase at hd
  split at hd
  · rename_i codes hcodes
    obtain ⟨before, after, rfl, -⟩ := List.lookup_eq_some_iff.mp hcodes
    exact .inr (blankFree_map_ofNat (hspecial (c.toNat, codes) (by simp)) d hd)
  · rw [List.mem_singleton] at hd
    cases himage : runImage? runs c.toNat with
    | none =>
      rw [himage] at hd
      exact .inl hd
    | some m =>
      rw [himage] at hd
      exact .inr (hd ▸ isBlank_ofNat (not_inRanges_runImage hruns himage))

theorem toLower_eq_or (hascii : c.toNat < 128) : c.toLower = c ∨ isBlank c.toLower = false := by
  have hall : ∀ n < 128, (Char.ofNat n).toLower = Char.ofNat n ∨
      isBlank (Char.ofNat n).toLower = false := by decide +kernel
  have hc := hall c.toNat hascii
  rwa [Char.ofNat_toNat] at hc

theorem toUpper_eq_or (hascii : c.toNat < 128) : c.toUpper = c ∨ isBlank c.toUpper = false := by
  have hall : ∀ n < 128, (Char.ofNat n).toUpper = Char.ofNat n ∨
      isBlank (Char.ofNat n).toUpper = false := by decide +kernel
  have hc := hall c.toNat hascii
  rwa [Char.ofNat_toNat] at hc

theorem mem_lower {d : Char} (hd : d ∈ lower c) : d = c ∨ isBlank d = false := by
  unfold lower at hd
  split_ifs at hd with hascii
  · rw [List.mem_singleton.mp hd]
    exact toLower_eq_or hascii
  · exact mem_mapCase (by decide +kernel) (by decide +kernel) hd

theorem mem_upper {d : Char} (hd : d ∈ upper c) : d = c ∨ isBlank d = false := by
  unfold upper at hd
  split_ifs at hd with hascii
  · rw [List.mem_singleton.mp hd]
    exact toUpper_eq_or hascii
  · exact mem_mapCase (by decide +kernel) (by decide +kernel) hd

theorem mem_upperFirst {d : Char} (hd : d ∈ upperFirst text) : d ∈ text ∨ isBlank d = false := by
  cases text with
  | nil => cases hd
  | cons c rest =>
    rcases List.mem_append.mp hd with hd | hd
    · exact (mem_upper hd).imp_left fun he : d = c => he ▸ List.mem_cons_self
    · exact .inl (List.mem_cons_of_mem c hd)

theorem mem_lowerFirst {d : Char} (hd : d ∈ lowerFirst text) : d ∈ text ∨ isBlank d = false := by
  cases text with
  | nil => cases hd
  | cons c rest =>
    rcases List.mem_append.mp hd with hd | hd
    · exact (mem_lower hd).imp_left fun he : d = c => he ▸ List.mem_cons_self
    · exact .inl (List.mem_cons_of_mem c hd)

theorem blankFree_lower (h : isBlank c = false) : BlankFree (lower c) :=
  fun _ hd => (mem_lower hd).elim (fun he => he ▸ h) id

theorem blankFree_upper (h : isBlank c = false) : BlankFree (upper c) :=
  fun _ hd => (mem_upper hd).elim (fun he => he ▸ h) id

theorem blankFree_title (h : isBlank c = false) : BlankFree (title c) := by
  have hspecial : ∀ entry ∈ titleSpecial, ∀ code ∈ entry.2, inRanges blankRanges code = false := by
    decide +kernel
  have hruns : runsAvoidBlanks titleRuns = true := by decide +kernel
  unfold title
  split_ifs with hascii
  · exact blankFree_singleton ((toUpper_eq_or hascii).elim (fun he => he.symm ▸ h) id)
  · split
    · rename_i codes hcodes
      obtain ⟨before, after, hsplit, -⟩ := List.lookup_eq_some_iff.mp hcodes
      exact blankFree_map_ofNat (hspecial (c.toNat, codes) (by simp [hsplit]))
    · rename_i himage
      exact blankFree_singleton (isBlank_ofNat (not_inRanges_runImage hruns himage))
    · exact blankFree_upper h

theorem blankFree_lowerBetween (before after : List Char) (h : isBlank c = false) :
    BlankFree (lowerBetween before c after) := by
  unfold lowerBetween
  split_ifs
  · decide
  · decide
  · exact blankFree_lower h

theorem blankFree_lowerWithin (before : List Char) (h : BlankFree text) :
    BlankFree (lowerWithin before text) := by
  induction text generalizing before with
  | nil => exact h
  | cons c rest ih =>
    obtain ⟨hc, hrest⟩ := List.forall_mem_cons.mp h
    exact (blankFree_lowerBetween before rest hc).append (ih (c :: before) hrest)

theorem blankFree_capitalize (h : BlankFree text) : BlankFree (capitalize text) := by
  cases text with
  | nil => exact h
  | cons c rest =>
    obtain ⟨hc, hrest⟩ := List.forall_mem_cons.mp h
    exact (blankFree_title hc).append (blankFree_lowerWithin [c] hrest)

theorem blankFree_upperFirst (h : BlankFree text) : BlankFree (upperFirst text) :=
  fun d hd => (mem_upperFirst hd).elim (h d) id

theorem blankFree_lowerFirst (h : BlankFree text) : BlankFree (lowerFirst text) :=
  fun d hd => (mem_lowerFirst hd).elim (h d) id

end Case

/-! ### Parts -/

/-- The parts between separators are made of characters of the text. -/
theorem subset_of_mem_cutFrom {s : Char} {sep : List Char} {skip : Nat} {text part : List Char}
    (h : part ∈ cutFrom s sep skip text) : part ⊆ text := by
  fun_induction cutFrom s sep skip text generalizing part with
  | case1 =>
    rw [List.mem_singleton.mp h]
    exact List.Subset.refl _
  | case2 skip c rest ih => exact List.subset_cons_of_subset c (ih h)
  | case3 c rest hsep ih =>
    rcases List.mem_cons.mp h with rfl | h
    · exact List.nil_subset _
    · exact List.subset_cons_of_subset c (ih h)
  | case4 c rest hsep ih =>
    cases hparts : cutFrom s sep 0 rest with
    | nil =>
      rw [hparts, consToFirst, List.mem_singleton] at h
      rw [h]
      exact List.cons_subset_cons c (List.nil_subset _)
    | cons first parts =>
      rw [hparts, consToFirst] at h
      rcases List.mem_cons.mp h with rfl | h
      · exact List.cons_subset_cons c (ih (hparts ▸ List.mem_cons_self))
      · exact List.subset_cons_of_subset c (ih (hparts ▸ List.mem_cons_of_mem _ h))

theorem subset_of_mem_pieces {s : Char} {sep text part : List Char}
    (h : part ∈ pieces s sep text) : part ⊆ text :=
  subset_of_mem_cutFrom (List.mem_filter.mp h).1

end BindingGen.Text

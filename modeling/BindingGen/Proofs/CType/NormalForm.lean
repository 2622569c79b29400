/-
# The normal form of a spelling

A spelling is in normal form if it has no dash behind `const`, starts and ends with a visible
character, and has single spaces only, each in front of a visible character other than a star.
Normalization gives a spelling of this form, and leaves such a one as it is: its passes over the
blanks are one pass from the right, which touches blanks only, so that it makes nothing that the
steps before it would find. A normal form is spelled by the type that it is read as.

Key definitions: `Respaced`, `tidy`, `Gap`, `undash`, `IsNormal`, `spelling`, `IsBare`.
Key theorems: `isNormal_normalForm`, `normalForm_eq_self_iff`, `normalize_idem`,
`normalize_eq_spelling`, `parse_eq_iff`, `isBare_base`.
-/
import Mathlib.Data.List.Chain
import BindingGen.CType
import BindingGen.Proofs.Text.Replacement
import BindingGen.Proofs.Text.Trimming

namespace BindingGen.CType

open Text

variable {a b text word : List Char} {c d : Char}

/-! ### Blanks only -/

/-- The second text is the first with blanks replaced by blanks, or left out in front of a blank or
a star. -/
inductive Respaced : List Char → List Char → Prop
  | nil : Respaced [] []
  | keep (c : Char) {a b : List Char} (h : Respaced a b) : Respaced (c :: a) (c :: b)
  | blank {c d : Char} {a b : List Char} (hc : isBlank c = true) (hd : isBlank d = true)
      (h : Respaced a b) : Respaced (c :: a) (d :: b)
  | drop {c : Char} {a b : List Char} (hc : isBlank c = true)
      (hb : ∃ d ∈ b.head?, isBlank d = true ∨ d = '*') (h : Respaced a b) : Respaced (c :: a) b

theorem endsVisible_of_cons (h : EndsVisible (c :: a)) : EndsVisible a := by
  cases a with
  | nil => exact fun d hd => by cases hd
  | cons d a => simpa [EndsVisible] using h

theorem endsVisible_cons (hc : a = [] → isBlank c = false) (h : EndsVisible a) :
    EndsVisible (c :: a) := by
  cases a with
  | nil => simpa [EndsVisible] using hc rfl
  | cons d a => simpa [EndsVisible] using h

/-- The text is part of a word: it has neither blanks nor stars. -/
def IsInner (word : List Char) : Prop := ∀ c ∈ word, isBlank c = false ∧ c ≠ '*'

instance (word : List Char) : Decidable (IsInner word) := List.decidableBAll _ word

theorem IsInner.not_head (h : IsInner (c :: word)) : ¬(isBlank c = true ∨ c = '*') := by
  have := h c List.mem_cons_self
  rintro (hblank | hstar)
  · rw [this.1] at hblank
    cases hblank
  · exact this.2 hstar

namespace Respaced

theorem isPrefix_left (h : Respaced a b) (hword : IsInner word) (hfirst : word <+: b) :
    word <+: a := by
  induction h generalizing word with
  | nil => exact hfirst
  | keep c h ih =>
    cases word with
    | nil => exact List.nil_prefix
    | cons d word =>
      rw [List.cons_prefix_cons] at hfirst ⊢
      exact ⟨hfirst.1, ih (fun e he => hword e (List.mem_cons_of_mem _ he)) hfirst.2⟩
  | blank hc hd h ih =>
    cases word with
    | nil => exact List.nil_prefix
    | cons e word =>
      rw [List.cons_prefix_cons] at hfirst
      exact absurd (.inl (hfirst.1 ▸ hd)) hword.not_head
  | drop hc hb h ih =>
    cases word with
    | nil => exact List.nil_prefix
    | cons e word =>
      obtain ⟨tail, rfl⟩ := hfirst
      obtain ⟨d, hd, hspecial⟩ := hb
      obtain rfl : e = d := by simpa using hd
      exact absurd hspecial hword.not_head

theorem isInfix_left (h : Respaced a b) (hword : IsInner word) (hpart : word <:+: b) :
    word <:+: a := by
  induction h with
  | nil => exact hpart
  | keep c h ih =>
    rcases List.infix_cons_iff.mp hpart with hfirst | hrest
    · exact ((keep c h).isPrefix_left hword hfirst).isInfix
    · exact List.infix_cons (ih hrest)
  | blank hc hd h ih =>
    rcases List.infix_cons_iff.mp hpart with hfirst | hrest
    · exact ((blank hc hd h).isPrefix_left hword hfirst).isInfix
    · exact List.infix_cons (ih hrest)
  | drop hc hb h ih => exact List.infix_cons (ih hpart)

theorem head?_eq (h : Respaced a b) (ha : ∀ c ∈ a.head?, isBlank c = false) :
    b.head? = a.head? := by
  have hvisible {c : Char} {a : List Char} (hc : isBlank c = true) :
      ¬∀ d ∈ (c :: a).head?, isBlank d = false := by
    intro h
    have := h c rfl
    rw [hc] at this
    cases this
  cases h with
  | nil => rfl
  | keep c h => rfl
  | blank hc hd h => exact absurd ha (hvisible hc)
  | drop hc hb h => exact absurd ha (hvisible hc)

theorem eq_nil_of_eq_nil (h : Respaced a b) (hb : b = []) : a = [] := by
  cases h with
  | nil => rfl
  | keep c h => cases hb
  | blank hc hd h => cases hb
  | drop hc hhead h =>
    obtain ⟨d, hd, -⟩ := hhead
    rw [hb] at hd
    cases hd

theorem endsVisible (h : Respaced a b) (ha : EndsVisible a) : EndsVisible b := by
  induction h with
  | nil => exact ha
  | keep c h ih =>
    refine endsVisible_cons (fun hb => ha c ?_) (ih (endsVisible_of_cons ha))
    rw [h.eq_nil_of_eq_nil hb]
    rfl
  | @blank c d a b hc hd h ih =>
    refine endsVisible_cons (fun hb => ?_) (ih (endsVisible_of_cons ha))
    rw [h.eq_nil_of_eq_nil hb] at ha
    have := ha c rfl
    rw [hc] at this
    cases this
  | drop hc hb h ih => exact ih (endsVisible_of_cons ha)

end Respaced

/-! ### From the right -/

/-- A text without the blanks in front of its stars and with single spaces for its other blanks. -/
def tidy (text : List Char) : List Char := collapseBlanks (tightenStars text)

/-- The text takes up the blanks that are put in front of it. -/
def absorbs (text : List Char) : Bool := text.head?.any fun c => isBlank c || c = '*'

theorem head?_tightenStars_eq_star_iff :
    (tightenStars text).head? = some '*' ↔ (text.dropWhile isBlank).head? = some '*' := by
  have hstar : isBlank '*' = false := by decide
  fun_induction tightenStars text with
  | case1 => rfl
  | case2 c rest hdrop ih =>
    rw [Bool.and_eq_true] at hdrop
    rw [List.dropWhile_cons_of_pos hdrop.1]
    exact ih
  | case3 c rest hkeep ih =>
    cases hc : isBlank c with
    | true =>
      rw [hc, Bool.true_and, beq_iff_eq] at hkeep
      rw [List.dropWhile_cons_of_pos hc, List.head?_cons, Option.some_inj]
      refine iff_of_false ?_ hkeep
      rintro rfl
      rw [hstar] at hc
      cases hc
    | false => rw [List.dropWhile_cons_of_neg (by simp [hc]), List.head?_cons, List.head?_cons]

theorem head?_collapseBlanks (text : List Char) :
    (collapseBlanks text).head? = text.head?.map fun c => if isBlank c then ' ' else c := by
  fun_induction collapseBlanks text with
  | case1 => rfl
  | case2 c rest hc hnext ih =>
    rw [ih, List.head?_cons, Option.map_some, if_pos hc]
    cases rest with
    | nil => cases hnext
    | cons d rest =>
      have hd : isBlank d = true := hnext
      rw [List.head?_cons, Option.map_some, if_pos hd]
  | case3 c rest hc hnext ih => simp [hc]
  | case4 c rest hc ih => simp [hc]

theorem absorbs_tidy (text : List Char) : absorbs (tidy text) = absorbs (tightenStars text) := by
  unfold absorbs tidy
  rw [head?_collapseBlanks]
  cases (tightenStars text).head? with
  | none => rfl
  | some c =>
    cases hc : isBlank c with
    | true =>
      simp only [Option.map_some, Option.any_some, hc, if_true, Bool.true_or]
      decide
    | false => simp [hc]

theorem tidy_cons_of_visible (hc : isBlank c = false) (text : List Char) :
    tidy (c :: text) = c :: tidy text := by
  simp [tidy, tightenStars, collapseBlanks, hc]

/-- A blank is taken up by what follows it, or written as a space. -/
theorem tidy_cons_of_blank (hc : isBlank c = true) (text : List Char) :
    tidy (c :: text) = if absorbs (tidy text) then tidy text else ' ' :: tidy text := by
  rw [absorbs_tidy, tidy, tightenStars, hc, Bool.true_and]
  by_cases hstar : (tightenStars text).head? = some '*'
  · have hdrop : (text.dropWhile isBlank).head? = some '*' :=
      head?_tightenStars_eq_star_iff.mp hstar
    rw [if_pos (beq_iff_eq.mpr hdrop), if_pos (by simp [absorbs, hstar])]
    rfl
  · have hkeep : ¬(text.dropWhile isBlank).head? = some '*' :=
      fun hdrop => hstar (head?_tightenStars_eq_star_iff.mpr hdrop)
    have habsorbs : absorbs (tightenStars text) = (tightenStars text).head?.any isBlank := by
      unfold absorbs
      cases hhead : (tightenStars text).head? with
      | none => rfl
      | some d =>
        have hd : d ≠ '*' := fun he => hstar (he ▸ hhead)
        simp [hd]
    rw [if_neg (by simpa using hkeep), collapseBlanks, if_pos hc, habsorbs]
    rfl

theorem exists_of_absorbs (h : absorbs text = true) :
    ∃ c ∈ text.head?, isBlank c = true ∨ c = '*' := by
  obtain ⟨c, hc, hspecial⟩ := (Option.any_eq_true _ _).mp h
  exact ⟨c, hc, by simpa using hspecial⟩

theorem respaced_tidy (text : List Char) : Respaced text (tidy text) := by
  induction text with
  | nil => exact .nil
  | cons c text ih =>
    cases hc : isBlank c with
    | false =>
      rw [tidy_cons_of_visible hc]
      exact .keep c ih
    | true =>
      rw [tidy_cons_of_blank hc]
      by_cases habsorbs : absorbs (tidy text) = true
      · rw [if_pos habsorbs]
        exact .drop hc (exists_of_absorbs habsorbs) ih
      · rw [if_neg habsorbs]
        exact .blank hc (by decide) ih

/-- A blank is a space in front of a visible character other than a star. -/
def Gap (a b : Char) : Prop := isBlank a = true → a = ' ' ∧ isBlank b = false ∧ b ≠ '*'

theorem isChain_gap_tidy (text : List Char) : (tidy text).IsChain Gap := by
  induction text with
  | nil => exact List.isChain_nil
  | cons c text ih =>
    cases hc : isBlank c with
    | false =>
      rw [tidy_cons_of_visible hc]
      refine List.isChain_cons.mpr ⟨fun d _ hblank => ?_, ih⟩
      rw [hc] at hblank
      cases hblank
    | true =>
      rw [tidy_cons_of_blank hc]
      by_cases habsorbs : absorbs (tidy text) = true
      · rwa [if_pos habsorbs]
      · rw [if_neg habsorbs]
        refine List.isChain_cons.mpr ⟨fun d hd _ => ?_, ih⟩
        rw [absorbs, Option.mem_def.mp hd] at habsorbs
        exact ⟨rfl, by simpa using habsorbs⟩

theorem tidy_eq_self (h : text.IsChain Gap) (hends : EndsVisible text) : tidy text = text := by
  induction text with
  | nil => rfl
  | cons c rest ih =>
    have hrest := ih h.tail (endsVisible_of_cons hends)
    cases hc : isBlank c with
    | false => rw [tidy_cons_of_visible hc, hrest]
    | true =>
      rw [tidy_cons_of_blank hc, hrest]
      cases rest with
      | nil =>
        have := hends c rfl
        rw [hc] at this
        cases this
      | cons d rest =>
        obtain ⟨rfl, hvisible, hstar⟩ := (List.isChain_cons_cons.mp h).1 hc
        rw [if_neg (by simp [absorbs, hvisible, hstar])]

/-! ### Normal forms -/

/-- A text with a space for each dash behind `const`. -/
def undash (text : List Char) : List Char := replaceAll 'c' "onst-".toList "const ".toList text

theorem normalForm_eq_tidy (text : List Char) : normalForm text = tidy (strip (undash text)) := rfl

theorem not_infix_undash (text : List Char) : ¬"const-".toList <:+: undash text :=
  not_infix_replaceAll "onst".toList "const".toList (by decide) (by decide) text

/-- The text is in normal form. -/
structure IsNormal (text : List Char) : Prop where
  undashed : ¬"const-".toList <:+: text
  starts : ∀ c ∈ text.head?, isBlank c = false
  ends : EndsVisible text
  gaps : text.IsChain Gap

theorem strip_isInfix (text : List Char) : strip text <:+: text :=
  (List.rdropWhile_prefix isBlank _).isInfix.trans (List.dropWhile_suffix _).isInfix

theorem head?_strip (text : List Char) : ∀ c ∈ (strip text).head?, isBlank c = false := by
  intro c hc
  have hfirst : strip text <+: text.dropWhile isBlank := List.rdropWhile_prefix isBlank _
  obtain ⟨tail, htail⟩ := hfirst
  have hhead : (text.dropWhile isBlank).head? = some c := by
    rw [← htail, List.head?_append, Option.mem_def.mp hc, Option.some_or]
  have := List.head?_dropWhile_not isBlank text
  rw [hhead] at this
  simpa using this

theorem isNormal_normalForm (spelling : List Char) : IsNormal (normalForm spelling) := by
  have htidy := respaced_tidy (strip (undash spelling))
  rw [normalForm_eq_tidy]
  refine ⟨fun h => not_infix_undash spelling ?_, ?_, ?_, isChain_gap_tidy _⟩
  · exact (htidy.isInfix_left (by decide) h).trans (strip_isInfix _)
  · rw [htidy.head?_eq (head?_strip _)]
    exact head?_strip _
  · exact htidy.endsVisible (endsVisible_stripRight _)

theorem strip_eq_self (hstarts : ∀ c ∈ text.head?, isBlank c = false) (hends : EndsVisible text) :
    strip text = text := by
  cases text with
  | nil => rfl
  | cons c rest =>
    rw [strip, List.dropWhile_cons_of_neg (by simp [hstarts c rfl])]
    exact stripRight_eq_self_iff.mpr hends

/-- The spellings that normalization leaves as they are are those in normal form. -/
theorem normalForm_eq_self_iff : normalForm text = text ↔ IsNormal text := by
  constructor
  · intro h
    exact h ▸ isNormal_normalForm text
  · intro h
    have hundashed : ¬ 'c' :: "onst-".toList <:+: text := h.undashed
    rw [normalForm_eq_tidy, undash, replaceAll_eq_self hundashed, strip_eq_self h.starts h.ends,
      tidy_eq_self h.gaps h.ends]

theorem normalize_idem (spelling : String) :
    normalize (normalize spelling) = normalize spelling := by
  unfold normalize
  rw [String.toList_ofList, normalForm_eq_self_iff.mpr (isNormal_normalForm _)]

/-! ### The type of a normal form -/

/-- The normal form that spells a type. -/
def spelling (type : CType) : String :=
  (if type.isConst then "const " else "") ++ type.base ++
    String.ofList (List.replicate type.depth '*')

/-- The name neither starts nor ends with a blank, and it does not end with a star. -/
structure IsBare (base : List Char) : Prop where
  starts : ∀ c ∈ base.head?, isBlank c = false
  ends : EndsVisible base
  starless : ∀ c ∈ base.getLast?, c ≠ '*'

/-- A text in normal form without its `const `. -/
def unconst (text : List Char) : List Char :=
  if "const ".toList.isPrefixOf text then text.drop 6 else text

theorem ofNormal_eq (text : List Char) :
    ofNormal text =
      { base := String.ofList (dropEndWhile (· = '*') (unconst text))
        depth := (takeEndWhile (· = '*') (unconst text)).length
        isConst := "const ".toList.isPrefixOf text } := rfl

theorem takeEndWhile_eq_replicate (text : List Char) :
    takeEndWhile (· = '*') text = List.replicate (takeEndWhile (· = '*') text).length '*' :=
  List.eq_replicate_iff.mpr ⟨rfl, fun _ hc => by simpa using of_mem_takeEndWhile hc⟩

theorem append_unconst (text : List Char) :
    (if "const ".toList.isPrefixOf text then "const ".toList else []) ++ unconst text = text := by
  unfold unconst
  split
  · rename_i hconst
    obtain ⟨rest, rfl⟩ := List.isPrefixOf_iff_prefix.mp hconst
    rfl
  · rfl

theorem spelling_ofNormal (text : List Char) : (ofNormal text).spelling = String.ofList text := by
  refine String.toList_inj.mp ?_
  rw [ofNormal_eq, spelling]
  simp only [String.toList_append, String.toList_ofList]
  rw [← takeEndWhile_eq_replicate, List.append_assoc, dropEndWhile_append_takeEndWhile]
  refine Eq.trans ?_ (append_unconst text)
  split <;> rfl

theorem normalize_eq_spelling (spelled : String) :
    normalize spelled = (parse spelled).spelling := (spelling_ofNormal _).symm

/-- The type that a spelling stands for tells its normal form. -/
theorem parse_eq_iff {t u : String} : parse t = parse u ↔ normalize t = normalize u := by
  constructor
  · intro h
    rw [normalize_eq_spelling, normalize_eq_spelling, h]
  · intro h
    have hforms : normalForm t.toList = normalForm u.toList := by
      simpa [normalize] using congrArg String.toList h
    rw [parse, parse, hforms]

theorem IsNormal.head?_unconst (h : IsNormal text) :
    ∀ c ∈ (unconst text).head?, isBlank c = false := by
  unfold unconst
  split
  · rename_i hconst
    obtain ⟨rest, rfl⟩ := List.isPrefixOf_iff_prefix.mp hconst
    have hgaps : ("const".toList ++ ' ' :: rest).IsChain Gap := h.gaps
    have hgap := hgaps.right_of_append
    exact fun c hc => ((List.isChain_cons.mp hgap).1 c hc (by decide)).2.1
  · exact h.starts

theorem unconst_suffix (text : List Char) : unconst text <:+ text := by
  unfold unconst
  split
  · exact List.drop_suffix 6 text
  · exact List.suffix_rfl

theorem endsVisible_of_suffix (h : a <:+ text) (hends : EndsVisible text) : EndsVisible a := by
  obtain ⟨front, rfl⟩ := h
  intro c hc
  refine hends c ?_
  rw [List.getLast?_append, Option.mem_def.mp hc, Option.some_or]
  rfl

theorem isBare_base (h : IsNormal text) : IsBare (ofNormal text).base.toList := by
  have hgaps : (unconst text).IsChain Gap := h.gaps.suffix (unconst_suffix text)
  have hends : EndsVisible (unconst text) := endsVisible_of_suffix (unconst_suffix text) h.ends
  have hsplit := dropEndWhile_append_takeEndWhile (· = '*') (unconst text)
  have hlast := getLast?_dropEndWhile (· = '*') (unconst text)
  have hstars := takeEndWhile_eq_replicate (unconst text)
  have hstarts := h.head?_unconst
  rw [ofNormal_eq, String.toList_ofList]
  generalize dropEndWhile (· = '*') (unconst text) = base at hsplit hlast ⊢
  generalize takeEndWhile (· = '*') (unconst text) = stars at hsplit hstars
  rw [← hsplit] at hgaps hends hstarts
  refine ⟨fun c hc => hstarts c ?_, fun c hc => ?_, fun c hc => of_decide_eq_false (hlast c hc)⟩
  · rw [List.head?_append, Option.mem_def.mp hc, Option.some_or]
    rfl
  · cases stars with
    | nil =>
      rw [List.append_nil] at hends
      exact hends c hc
    | cons star stars =>
      obtain rfl : star = '*' := by
        rw [List.length_cons, List.replicate_succ] at hstars
        exact (List.cons.inj hstars).1
      by_contra hblank
      have hgap : Gap c '*' := (List.isChain_append.mp hgaps).2.2 c hc '*' rfl
      exact (hgap (by simpa using hblank)).2.2 rfl

end BindingGen.CType

/-
# Marked words have no blanks

The text of documentation is cut into words at its blanks. A word that is marked up has no blank
either, unless a word of a function's name is spelled with one: names are put together from the
parts of C names, and letter case adds no blank.

Key definitions: `Settings.FixesAreBlankFree`.
Key theorems: `Name.blankFree_ofFunction`, `Name.blankFree_ofConstant`,
`DocContext.isWord_of_mem_words`.
-/
import BindingGen.Proofs.Haddock.Written
import BindingGen.Proofs.Text.BlankFree

namespace BindingGen

open Text

/-- No word of a function's name is spelled with a blank. -/
def Settings.FixesAreBlankFree (settings : Settings) : Prop :=
  ∀ fix ∈ settings.wordFixes, BlankFree fix.2.toList

instance (settings : Settings) : Decidable settings.FixesAreBlankFree :=
  inferInstanceAs (Decidable (∀ fix ∈ settings.wordFixes, BlankFree fix.2.toList))

/-! ### Names -/

namespace Name

variable {settings : Settings} {cname : String}

theorem blankFree_underscoreWords (h : BlankFree cname.toList) :
    ∀ word ∈ underscoreWords cname, BlankFree word.toList := by
  intro word hword
  obtain ⟨part, hpart, rfl⟩ := List.mem_map.mp hword
  rw [String.toList_ofList]
  exact h.of_subset (subset_of_mem_pieces hpart)

theorem blankFree_dropKnown (known : List String) {name : String} (h : BlankFree name.toList) :
    BlankFree (dropKnown known name).toList := by
  rw [dropKnown, String.toList_ofList]
  exact h.of_subset (List.drop_subset _ _)

theorem blankFree_fixWord (hfixes : settings.FixesAreBlankFree) {word : String}
    (h : BlankFree word.toList) : BlankFree (settings.fixWord word).toList := by
  unfold Settings.fixWord
  cases hfix : settings.wordFixes.lookup word with
  | none => exact h
  | some spelled => exact hfixes (word, spelled) (mem_of_lookup_eq_some hfix)

theorem blankFree_ofFunction (hfixes : settings.FixesAreBlankFree) (h : BlankFree cname.toList) :
    BlankFree (ofFunction settings cname).toList := by
  rw [ofFunction, lowerFirst, String.toList_ofList]
  refine blankFree_lowerFirst (blankFree_dropKnown _ (BlankFree.join fun text htext => ?_))
  rw [List.map_map] at htext
  obtain ⟨word, hword, rfl⟩ := List.mem_map.mp htext
  rw [Function.comp_apply, upperFirst, String.toList_ofList]
  exact blankFree_upperFirst (blankFree_fixWord hfixes (blankFree_underscoreWords h word hword))

theorem blankFree_ofConstant (h : BlankFree cname.toList) :
    BlankFree (ofConstant settings cname).toList := by
  refine blankFree_dropKnown _ (BlankFree.join fun text htext => ?_)
  obtain ⟨word, hword, rfl⟩ := List.mem_map.mp htext
  rw [String.toList_ofList]
  exact blankFree_capitalize (blankFree_underscoreWords h word hword)

end Name

/-! ### Marked words -/

theorem blankFree_quoted {name : String} (h : BlankFree name.toList) :
    BlankFree ("'" ++ name ++ "'").toList := by
  rw [String.toList_append, String.toList_append]
  exact ((show BlankFree "'".toList by decide).append h).append (by decide)

theorem subset_of_callParts? {word name trailer : List Char}
    (h : callParts? word = some (name, trailer)) : name ⊆ word ∧ trailer ⊆ word := by
  obtain ⟨rfl, -⟩ := callParts?_eq_some_iff.mp h
  exact ⟨by simp, fun c hc => by simp [hc]⟩

/-- A word without blanks has none in its core and in the punctuation behind it. -/
theorem blankFree_parts {word : List Char} (h : BlankFree word) :
    BlankFree (coreOf word).toList ∧ BlankFree (takeEndWhile isTrailer word) := by
  refine List.forall_mem_append.mp ?_
  rwa [toList_coreOf_append]

namespace DocContext

variable (ctx : DocContext)

theorem blankFree_literal {core : String} (h : core ∈ valueNames) :
    BlankFree (ctx.literal core).toList := by
  simp only [valueNames, List.mem_cons, List.not_mem_nil, or_false] at h
  unfold literal
  rcases h with rfl | rfl | rfl <;> cases ctx.nullsHandled <;> decide

theorem blankFree_markWord (hfixes : ctx.settings.FixesAreBlankFree) {word : List Char}
    {marked : String} (h : BlankFree word) (hmark : ctx.markWord (String.ofList word) = .ok marked) :
    BlankFree marked.toList := by
  cases hcall : callParts? word with
  | some parts =>
    obtain ⟨name, trailer⟩ := parts
    obtain ⟨hname, htrailer⟩ := subset_of_callParts? hcall
    rw [ctx.markWord_of_call h hcall] at hmark
    cases hmark
    rw [String.toList_append, String.toList_ofList]
    refine (blankFree_quoted (Name.blankFree_ofFunction hfixes ?_)).append (h.of_subset htrailer)
    rw [String.toList_ofList]
    exact h.of_subset hname
  | none =>
    obtain ⟨hcore, htrailer⟩ := blankFree_parts h
    rw [ctx.markWord_of_not_call h hcall] at hmark
    split_ifs at hmark with hvalue
    · cases hmark
      rw [String.toList_append, String.toList_ofList]
      exact (ctx.blankFree_literal hvalue).append htrailer
    · cases hmark
      rw [String.toList_append, String.toList_ofList]
      exact (blankFree_quoted (Name.blankFree_ofConstant hcore)).append htrailer
    · cases hmark
      rwa [String.toList_ofList]

/-- The words of spans are words when they are marked up. -/
theorem isWord_of_mem_words (hfixes : ctx.settings.FixesAreBlankFree) {spans : List Span}
    {ws : List String} (h : ctx.words spans = .ok ws) : ∀ w ∈ ws, IsWord w.toList := by
  intro w hw
  obtain ⟨text, -, hmarked⟩ := bind_eq_ok_iff.mp h
  obtain ⟨word, hword, hmark⟩ := exists_of_mem_mapM hmarked hw
  obtain ⟨cs, hcs, rfl⟩ := List.mem_map.mp hword
  refine ⟨fun hnil => ?_, ?_⟩
  · have hvisible : allBlank w.toList = false := ctx.not_blank_of_words h w hw
    rw [hnil] at hvisible
    cases hvisible
  · exact ctx.blankFree_markWord hfixes (mem_words hcs).2 hmark

end DocContext

end BindingGen

/-
# References among the words

A word of documentation is a reference if it spells a call without arguments, a truth value or the
null pointer, or a constant of the symbol table, with punctuation behind it or not. What is written
for a word without blanks is given by one equation for calls and one for all other words; a word
that is no reference stays as it is.

Key definitions: `IsCallName`, `valueNames`, `coreOf`, `DocContext.IsReference`.
Key theorems: `callParts?_eq_some_iff`, `DocContext.isReference_iff`, `DocContext.markWord_of_call`,
`DocContext.markWord_of_not_call`, `DocContext.markWord_of_not_isReference`,
`DocContext.exists_constant_of_mem`.
-/
import BindingGen.Haddock.Markup
import BindingGen.Proofs.Text.BlankFree
import BindingGen.Proofs.Text.Trimming

namespace BindingGen

open Text

/-! ### Calls -/

/-- The name that a call is spelled with: it starts with a letter and has an underscore. -/
structure IsCallName (name : List Char) : Prop where
  chars : ∀ c ∈ name, isCallChar c = true
  letter : ∃ c ∈ name.head?, 'a' ≤ c ∧ c ≤ 'z'
  underscore : '_' ∈ name

/-- A word spells a call where a call's name, empty parentheses and punctuation make it up. -/
theorem callParts?_eq_some_iff {word name trailer : List Char} :
    callParts? word = some (name, trailer) ↔
      word = name ++ '(' :: ')' :: trailer ∧ IsCallName name ∧ ∀ c ∈ trailer, isTrailer c = true := by
  unfold callParts?
  dsimp only
  constructor
  · intro h
    split at h
    · rename_i rest hrest
      split_ifs at h with hcall
      obtain ⟨rfl, rfl⟩ := Prod.mk.inj (Option.some.inj h)
      simp only [Bool.and_eq_true, List.all_eq_true, Option.any_eq_true, decide_eq_true_eq,
        List.contains_iff_mem] at hcall
      obtain ⟨⟨⟨c, hhead, hletter⟩, hunderscore⟩, htrailer⟩ := hcall
      refine ⟨?_, ⟨fun d hd => List.mem_takeWhile_imp hd, ⟨c, hhead, hletter⟩, hunderscore⟩, htrailer⟩
      rw [← hrest, List.takeWhile_append_dropWhile]
    · cases h
  · rintro ⟨rfl, hname, htrailer⟩
    have hparen : isCallChar '(' = false := by decide
    have htake : (name ++ '(' :: ')' :: trailer).takeWhile isCallChar = name := by
      rw [List.takeWhile_append_of_pos hname.chars, List.takeWhile_cons_of_neg (by simp [hparen]),
        List.append_nil]
    have hdrop : (name ++ '(' :: ')' :: trailer).dropWhile isCallChar = '(' :: ')' :: trailer := by
      rw [List.dropWhile_append_of_pos hname.chars, List.dropWhile_cons_of_neg (by simp [hparen])]
    rw [htake, hdrop]
    obtain ⟨c, hhead, hletter⟩ := hname.letter
    have hcall : (name.head?.any (fun c => 'a' ≤ c && c ≤ 'z') && name.contains '_' &&
        trailer.all isTrailer) = true := by
      simp only [Bool.and_eq_true, List.all_eq_true, Option.any_eq_true, decide_eq_true_eq,
        List.contains_iff_mem]
      exact ⟨⟨⟨c, hhead, hletter⟩, hname.underscore⟩, htrailer⟩
    exact if_pos hcall

/-! ### References -/

/-- The truth values and the null pointer, as C names them. -/
def valueNames : List String := ["TRUE", "FALSE", "NULL"]

/-- No value is named by nothing, with punctuation or with a delimiter. -/
theorem plain_of_mem_valueNames {core : String} (h : core ∈ valueNames) :
    core.toList ≠ [] ∧ ∀ c ∈ core.toList, isTrailer c = false ∧ c ≠ '@' ∧ c ≠ '/' := by
  simp only [valueNames, List.mem_cons, List.not_mem_nil, or_false] at h
  rcases h with rfl | rfl | rfl <;> simp [isTrailer]

/-- The word without the punctuation at its end. -/
def coreOf (word : List Char) : String := String.ofList (dropEndWhile isTrailer word)

theorem coreOf_append {core : String} (hbare : ∀ c ∈ core.toList.getLast?, isTrailer c = false)
    {trailer : List Char} (h : ∀ c ∈ trailer, isTrailer c = true) :
    coreOf (core.toList ++ trailer) = core := by
  rw [coreOf, dropEndWhile_append hbare h, String.ofList_toList]

theorem toList_coreOf_append (word : List Char) :
    (coreOf word).toList ++ takeEndWhile isTrailer word = word := by
  rw [coreOf, String.toList_ofList, dropEndWhile_append_takeEndWhile]

namespace DocContext

variable (ctx : DocContext) {word : List Char}

/-- The word names something that is marked up: it spells a call without arguments, a truth value or
the null pointer, or a constant of the table. Punctuation may follow. -/
inductive IsReference : List Char → Prop
  | call {name trailer : List Char} (hname : IsCallName name)
      (htrailer : ∀ c ∈ trailer, isTrailer c = true) :
      IsReference (name ++ '(' :: ')' :: trailer)
  | value {core : String} {trailer : List Char} (hcore : core ∈ valueNames)
      (htrailer : ∀ c ∈ trailer, isTrailer c = true) : IsReference (core.toList ++ trailer)
  | constant {core : String} {trailer : List Char}
      (hcore : ctx.symbols.lookup core = some .enumValue)
      (hbare : ∀ c ∈ core.toList.getLast?, isTrailer c = false)
      (htrailer : ∀ c ∈ trailer, isTrailer c = true) : IsReference (core.toList ++ trailer)

/-- Whether a word is a reference is seen from its parts. -/
theorem isReference_iff : ctx.IsReference word ↔
    (callParts? word).isSome = true ∨ coreOf word ∈ valueNames ∨
      ctx.symbols.lookup (coreOf word) = some .enumValue := by
  constructor
  · intro h
    cases h with
    | call hname htrailer =>
      rw [callParts?_eq_some_iff.mpr ⟨rfl, hname, htrailer⟩]
      exact .inl rfl
    | value hcore htrailer =>
      have hbare := fun c hc =>
        ((plain_of_mem_valueNames hcore).2 c (List.mem_of_getLast? hc)).1
      rw [coreOf_append hbare htrailer]
      exact .inr (.inl hcore)
    | constant hcore hbare htrailer =>
      rw [coreOf_append hbare htrailer]
      exact .inr (.inr hcore)
  · have htrailer : ∀ c ∈ takeEndWhile isTrailer word, isTrailer c = true := fun c hc =>
      of_mem_takeEndWhile hc
    rintro (hcall | hvalue | hconstant)
    · obtain ⟨⟨name, trailer⟩, hparts⟩ := Option.isSome_iff_exists.mp hcall
      obtain ⟨rfl, hname, htrailer⟩ := callParts?_eq_some_iff.mp hparts
      exact .call hname htrailer
    · rw [← toList_coreOf_append word]
      exact .value hvalue htrailer
    · rw [← toList_coreOf_append word]
      refine .constant hconstant (fun c hc => ?_) htrailer
      rw [coreOf, String.toList_ofList] at hc
      exact getLast?_dropEndWhile isTrailer word c hc

instance : DecidablePred ctx.IsReference := fun _ => decidable_of_iff _ ctx.isReference_iff.symm

/-- A truth value is a reference in front of a comma, and none behind a parenthesis. -/
example : IsReference ⟨[], {}, false⟩ "TRUE,".toList ∧
    ¬IsReference ⟨[], {}, false⟩ "(TRUE)".toList := by
  decide +kernel

/-! ### What is written for a word -/

theorem dropFinalBreak_of_blankFree (h : BlankFree word) : dropFinalBreak word = word := by
  rw [dropFinalBreak, if_neg]
  intro hbreak
  exact absurd (h '\n' (List.mem_of_getLast? hbreak)) (by decide)

theorem markWord_of_call (h : BlankFree word) {name trailer : List Char}
    (hcall : callParts? word = some (name, trailer)) :
    ctx.markWord (String.ofList word) = .ok ("'" ++
      Name.ofFunction ctx.settings (String.ofList name) ++ "'" ++ String.ofList trailer) := by
  unfold markWord
  dsimp only
  rw [String.toList_ofList, dropFinalBreak_of_blankFree h, hcall]

theorem markWord_of_not_call (h : BlankFree word) (hcall : callParts? word = none) :
    ctx.markWord (String.ofList word) =
      if coreOf word ∈ valueNames then
        .ok (ctx.literal (coreOf word) ++ String.ofList (takeEndWhile isTrailer word))
      else if ctx.symbols.lookup (coreOf word) = some .enumValue then
        .ok ("'" ++ Name.ofConstant ctx.settings (coreOf word) ++ "'" ++
          String.ofList (takeEndWhile isTrailer word))
      else .ok (String.ofList word) := by
  have hbreak : word.contains '\n' = false := by
    rw [Bool.eq_false_iff]
    intro hmem
    exact absurd (h '\n' (by simpa using hmem)) (by decide)
  have hvalues : (coreOf word = "TRUE" || coreOf word = "FALSE" || coreOf word = "NULL") =
      decide (coreOf word ∈ valueNames) := by
    simp [valueNames, Bool.or_assoc]
  unfold markWord
  dsimp only
  rw [String.toList_ofList, dropFinalBreak_of_blankFree h, hcall]
  dsimp only
  rw [hbreak, if_neg Bool.false_ne_true]
  change (if (coreOf word = "TRUE" || coreOf word = "FALSE" || coreOf word = "NULL") = true
    then _ else _) = _
  simp only [hvalues, decide_eq_true_eq]
  rfl

theorem markWord_of_not_isReference (h : BlankFree word) (href : ¬ctx.IsReference word) :
    ctx.markWord (String.ofList word) = .ok (String.ofList word) := by
  rw [ctx.isReference_iff, not_or, not_or, Option.not_isSome_iff_eq_none] at href
  obtain ⟨hcall, hvalue, hconstant⟩ := href
  rw [ctx.markWord_of_not_call h hcall, if_neg hvalue, if_neg hconstant]

/-- A delimiter that occurs in a reference occurs in the constant that it names. -/
theorem exists_constant_of_mem {mark : Char} (href : ctx.IsReference word) (hmem : mark ∈ word)
    (hmark : mark = '@' ∨ mark = '/') :
    ∃ core, ctx.symbols.lookup core = some .enumValue ∧ mark ∈ core.toList := by
  have htrail : isTrailer mark = false := by rcases hmark with rfl | rfl <;> decide
  have hchar : isCallChar mark = false := by rcases hmark with rfl | rfl <;> decide
  have hbehind : ∀ {trailer : List Char}, (∀ c ∈ trailer, isTrailer c = true) → mark ∉ trailer := by
    intro trailer htrailer hin
    rw [htrailer mark hin] at htrail
    cases htrail
  cases href with
  | call hname htrailer =>
    exfalso
    rcases List.mem_append.mp hmem with hin | hin
    · rw [hname.chars mark hin] at hchar
      cases hchar
    · rcases hmark with rfl | rfl <;> simp [hbehind htrailer] at hin
  | value hcore htrailer =>
    exfalso
    rcases List.mem_append.mp hmem with hin | hin
    · obtain ⟨-, hat, hslash⟩ := (plain_of_mem_valueNames hcore).2 mark hin
      exact hmark.elim hat hslash
    · exact hbehind htrailer hin
  | constant hcore hbare htrailer =>
    exact ⟨_, hcore, (List.mem_append.mp hmem).resolve_right (hbehind htrailer)⟩

end DocContext

end BindingGen

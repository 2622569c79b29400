/-
# Words of marked-up text

A literal and an emphasis stand between delimiters. Their text is cut into words like any other, and
what is written for a word does not depend on the span that it comes from: the words are those of
the delimited text, in order, but for the references among them, each of which is rewritten. A word
with a delimiter is a reference only if the delimiter occurs in the name of a constant.

Key definitions: `Span.Delimits`, `delimited`.
Key theorems: `DocContext.words_eq_mapM`, `DocContext.words_delimited`.
-/
import BindingGen.Proofs.Haddock.Quotes
import BindingGen.Proofs.Haddock.Words
import BindingGen.Proofs.Text.Collapse

namespace BindingGen

open Text

namespace DocContext

/-! ### Words told apart from what is written for them -/

section Apart

variable (ctx : DocContext) {word : List Char}

theorem upTo_space_of_blankFree (h : BlankFree word) : upTo ' ' word = word :=
  upTo_of_not_mem fun hmem => absurd (h ' ' hmem) (by decide)

theorem upTo_cons_ne {mark : Char} (hmark : mark ≠ ' ') {text : List Char}
    (hhead : mark ∉ word.head?) : upTo ' ' (mark :: text) ≠ word := by
  rintro rfl
  exact hhead (by simp [upTo, hmark])

theorem markWord_of_isReference (h : BlankFree word) (href : ctx.IsReference word) :
    ∃ marked, ctx.markWord (String.ofList word) = .ok marked ∧
      upTo ' ' marked.toList ≠ word := by
  cases hcall : callParts? word with
  | some parts =>
    obtain ⟨name, trailer⟩ := parts
    refine ⟨_, ctx.markWord_of_call h hcall, ?_⟩
    obtain ⟨rfl, hname, -⟩ := callParts?_eq_some_iff.mp hcall
    obtain ⟨c, hhead, hletter⟩ := hname.letter
    simp only [String.toList_append]
    refine upTo_cons_ne (by decide) ?_
    rw [List.head?_append, hhead]
    rintro ⟨⟩
    exact absurd hletter (by decide)
  | none =>
    rw [ctx.markWord_of_not_call h hcall]
    have hcore := blankFree_parts h
    split_ifs with hvalue hconstant
    · refine ⟨_, rfl, ?_⟩
      obtain ⟨rest, hrest⟩ := ctx.toList_literal (coreOf word)
      rw [String.toList_append, hrest]
      refine upTo_cons_ne (by decide) ?_
      obtain ⟨hne, hplain⟩ := plain_of_mem_valueNames hvalue
      rw [← toList_coreOf_append word, List.head?_append_of_ne_nil _ hne]
      exact fun hmark => (hplain '@' (List.mem_of_head? hmark)).2.1 rfl
    · refine ⟨_, rfl, ?_⟩
      rw [String.toList_append, String.toList_ofList, upTo_space_of_blankFree
        ((blankFree_quoted (Name.blankFree_ofConstant hcore.1)).append hcore.2)]
      intro hsame
      have hquoted := List.append_cancel_right (hsame.trans (toList_coreOf_append word).symm)
      exact Name.quoted_ofConstant_ne _ _ (String.toList_inj.mp hquoted)
    · rw [ctx.isReference_iff, hcall] at href
      simp [hvalue, hconstant] at href

/-- Just the references among the words are rewritten, and so that they differ from the word up to
the first space. -/
theorem upTo_markWord_eq_iff (h : BlankFree word) {marked : String}
    (hmark : ctx.markWord (String.ofList word) = .ok marked) :
    upTo ' ' marked.toList = word ↔ ¬ctx.IsReference word := by
  constructor
  · intro hsame href
    obtain ⟨other, hother, hdiffer⟩ := ctx.markWord_of_isReference h href
    obtain rfl := Except.ok.inj (hother.symm.trans hmark)
    exact hdiffer hsame
  · intro href
    obtain rfl := Except.ok.inj ((ctx.markWord_of_not_isReference h href).symm.trans hmark)
    rw [String.toList_ofList, upTo_space_of_blankFree h]

theorem toList_markWord_eq_iff (h : BlankFree word) {marked : String}
    (hmark : ctx.markWord (String.ofList word) = .ok marked) :
    marked.toList = word ↔ ¬ctx.IsReference word := by
  constructor
  · intro hsame
    refine (ctx.upTo_markWord_eq_iff h hmark).mp ?_
    rw [hsame, upTo_space_of_blankFree h]
  · intro href
    obtain rfl := Except.ok.inj ((ctx.markWord_of_not_isReference h href).symm.trans hmark)
    exact String.toList_ofList

end Apart

end DocContext

/-- The span writes a text between two marks: a literal that names no value, or an emphasis. -/
inductive Span.Delimits : Span → Char → String → Prop
  | literal {text : String} (htext : text ∉ valueNames) : Delimits (.literal text) '@' text
  | emphasis (text : String) : Delimits (.emphasis text) '/' text

/-- An escaped text between two marks. -/
def delimited (mark : Char) (text : String) : List Char := mark :: (escape text).toList ++ [mark]

namespace DocContext

variable (ctx : DocContext) {span : Span} {mark : Char} {text : String}

/-! ### The delimited text -/

theorem mark_of_delimits (h : span.Delimits mark text) : mark = '@' ∨ mark = '/' := by
  cases h with
  | literal _ => exact .inl rfl
  | emphasis _ => exact .inr rfl

theorem spanText_of_delimits (h : span.Delimits mark text) :
    ctx.spanText span = .ok (String.ofList (delimited mark text)) := by
  have hmarked : ∀ quote : String, quote.toList = [mark] →
      quote ++ escape text ++ quote = String.ofList (delimited mark text) := by
    intro quote hquote
    rw [← String.toList_inj, String.toList_append, String.toList_append, hquote,
      String.toList_ofList]
    rfl
  cases h with
  | literal htext =>
    simp only [valueNames, List.mem_cons, List.not_mem_nil, or_false, not_or] at htext
    obtain ⟨htrue, hfalse, hnull⟩ := htext
    rw [spanText, literal, if_neg htrue, if_neg hfalse, if_neg hnull, hmarked "@" rfl]
  | emphasis _ => rw [spanText, hmarked "/" rfl]

/-- The words of the span are what is written for the words of its delimited text. -/
theorem words_eq_mapM (h : span.Delimits mark text) : ctx.words [span] =
    ((Text.words (delimited mark text)).map String.ofList).mapM ctx.markWord := by
  have htext : ctx.spansText [span] = .ok (String.ofList (delimited mark text)) := by
    simp [spansText, ctx.spanText_of_delimits h, bind, Except.bind, pure, Except.pure]
  rw [words, htext]
  change ((Text.words (String.ofList (delimited mark text)).toList).map String.ofList).mapM
    ctx.markWord = _
  rw [String.toList_ofList]

theorem collapseBlanks_delimited (h : span.Delimits mark text) :
    collapseBlanks (delimited mark text) = [' '].intercalate (Text.words (delimited mark text)) := by
  have hvisible : isBlank mark = false := by
    rcases mark_of_delimits h with rfl | rfl <;> decide
  refine collapseBlanks_eq_intercalate hvisible fun c hc => ?_
  rw [delimited, List.getLast?_concat, Option.mem_some_iff] at hc
  exact hc ▸ hvisible

/-! ### The words of the span -/

theorem map_toList_eq_iff {texts : List (List Char)} {ws : List String}
    (h : List.Forall₂ (fun word w => w.toList = word ↔ ¬ctx.IsReference word) texts ws) :
    ws.map String.toList = texts ↔ ∀ word ∈ texts, ¬ctx.IsReference word := by
  induction h with
  | nil => simp
  | cons hword _ ih => rw [List.map_cons, List.cons_eq_cons, hword, ih, List.forall_mem_cons]

/-- Joined by spaces, what is written for the words is the delimited text with its blank runs
collapsed just where each of them is written as it is. -/
theorem intercalate_eq_iff (h : span.Delimits mark text) {ws : List String}
    (hmarked : List.Forall₂ (fun word w => BlankFree word ∧ ctx.markWord (String.ofList word) = .ok w)
      (Text.words (delimited mark text)) ws) :
    " ".intercalate ws = String.ofList (collapseBlanks (delimited mark text)) ↔
      ws.map String.toList = Text.words (delimited mark text) := by
  rw [← String.toList_inj, String.toList_ofList, String.toList_intercalate,
    collapseBlanks_delimited h]
  refine ⟨fun hjoin => ?_, fun hsame => congrArg _ hsame⟩
  have hspace : ∀ word ∈ Text.words (delimited mark text), ' ' ∉ word := fun word hword hmem =>
    absurd ((mem_words hword).2 ' ' hmem) (by decide)
  -- what is written for a word differs from it up to a space, so that the join tells them apart
  refine eq_of_intercalate_eq hspace (List.forall₂_map_right_iff.mpr ?_) hjoin
  exact hmarked.imp fun _ _ hword hsame => (ctx.toList_markWord_eq_iff hword.1 hword.2).mpr
    ((ctx.upTo_markWord_eq_iff hword.1 hword.2).mp hsame)

/-- **The words of a literal or an emphasis.** A literal that names no value and an emphasis have the
words of the delimited text, in order and each as it is, but for the references among them. Joined
by spaces they are the delimited text with its blank runs collapsed just where no word is a
reference, and a word that a delimiter belongs to is one only through a constant whose name has that
delimiter in it. -/
theorem words_delimited (h : span.Delimits mark text) :
    ∃ ws, ctx.words [span] = .ok ws ∧
      List.Forall₂ (fun word w => w.toList = word ↔ ¬ctx.IsReference word)
        (Text.words (delimited mark text)) ws ∧
      (" ".intercalate ws = String.ofList (collapseBlanks (delimited mark text)) ↔
        ∀ word ∈ Text.words (delimited mark text), ¬ctx.IsReference word) ∧
      ∀ word ∈ Text.words (delimited mark text), mark ∈ word → ctx.IsReference word →
        ∃ core, ctx.symbols.lookup core = some .enumValue ∧ mark ∈ core.toList := by
  obtain ⟨ws, hws⟩ : ∃ ws, ctx.words [span] = .ok ws := by
    rw [ctx.words_eq_mapM h]
    refine exists_mapM_eq_ok fun word hword => ?_
    obtain ⟨w, hw, -⟩ := ctx.markWord_of_mem_words hword
    exact ⟨w, hw⟩
  have hmarked : List.Forall₂
      (fun word w => BlankFree word ∧ ctx.markWord (String.ofList word) = .ok w)
      (Text.words (delimited mark text)) ws :=
    (List.forall₂_and_left _ _).mpr
      ⟨fun _ hword => (mem_words hword).2,
        List.forall₂_map_left_iff.mp (mapM_eq_ok_iff.mp (ctx.words_eq_mapM h ▸ hws))⟩
  have hkept := hmarked.imp fun _ _ hword => ctx.toList_markWord_eq_iff hword.1 hword.2
  refine ⟨ws, hws, hkept, ?_, fun word _ hmem href =>
    ctx.exists_constant_of_mem href hmem (mark_of_delimits h)⟩
  rw [ctx.intercalate_eq_iff h hmarked, ctx.map_toList_eq_iff hkept]

end DocContext

/-- An emphasis over two lines has its words as they are. -/
theorem words_delimited_mainLoop :
    DocContext.words ⟨[], {}, false⟩ [.emphasis "the  main\nloop"] = .ok ["/the", "main", "loop/"] ∧
      " ".intercalate ["/the", "main", "loop/"] =
        String.ofList (collapseBlanks (delimited '/' "the  main\nloop")) := by
  obtain ⟨ws, hws, -, hjoin, -⟩ :=
    DocContext.words_delimited ⟨[], {}, false⟩ (.emphasis "the  main\nloop")
  have hwords : DocContext.words ⟨[], {}, false⟩ [.emphasis "the  main\nloop"] =
      .ok ["/the", "main", "loop/"] := by
    decide +kernel
  obtain rfl := Except.ok.inj (hws.symm.trans hwords)
  exact ⟨hwords, hjoin.mpr (by decide +kernel)⟩

/-- A truth value inside of a literal is marked up once more. -/
theorem not_words_delimited_nested :
    Span.Delimits (.literal "a TRUE b") '@' "a TRUE b" ∧
      DocContext.words ⟨[], {}, false⟩ [.literal "a TRUE b"] = .ok ["@a", "@True@", "b@"] ∧
      " ".intercalate ["@a", "@True@", "b@"] ≠
        String.ofList (collapseBlanks (delimited '@' "a TRUE b")) :=
  ⟨.literal (by decide), by decide +kernel, by decide +kernel⟩

end BindingGen

/-
# Documentation is always written

Spans and paragraphs of known kinds can be written down, whatever their texts, the settings and
the width of the page are. A word has no line break in it and stays visible when it is marked up,
so that words always fill a line; and a signature has a type at least, that of its result. A kind
that is not known is thus the only thing that can go wrong.

Key definitions: `Span.IsAllowed`, `Para.IsAllowed`, `Fault.IsUnknownKind`.
Key theorems: `DocContext.failsOnly_words`, `DocContext.not_blank_of_words`,
`failsOnly_wrapWords`, `DocContext.failsOnly_comment`, `DocContext.failsOnly_signature`.
-/
import BindingGen.Function.Signature
import BindingGen.Proofs.Haddock.Reference
import BindingGen.Proofs.Readable
import BindingGen.Proofs.Text.Filling

namespace BindingGen

open Text

/-! ### Kinds -/

/-- The span is of a known kind, or `P` allows the fault that it is not. -/
def Span.IsAllowed (P : Fault → Prop) : Span → Prop
  | .unknown kind => P (.unknownKind kind)
  | _ => True

/-- The paragraph and its spans are of known kinds, or `P` allows the faults that they are not. -/
def Para.IsAllowed (P : Fault → Prop) : Para → Prop
  | .text spans => ∀ s ∈ spans, s.IsAllowed P
  | .program _ => True
  | .title _ => True
  | .definition term spans => (∀ s ∈ term, s.IsAllowed P) ∧ ∀ s ∈ spans, s.IsAllowed P
  | .item spans => ∀ s ∈ spans, s.IsAllowed P
  | .unknown kind => P (.unknownKind kind)

/-- The fault is that of a span or a paragraph of a kind that is not known. -/
def Fault.IsUnknownKind (fault : Fault) : Prop := ∃ kind, fault = .unknownKind kind

section Kinds

variable {P : Fault → Prop}

theorem Span.isAllowed_of_isKnown {s : Span} (h : s.isKnown = true) : s.IsAllowed P := by
  cases s with
  | unknown kind => cases h
  | _ => trivial

theorem Para.isAllowed_of_isKnown {p : Para} (h : p.isKnown = true) : p.IsAllowed P := by
  cases p with
  | text spans | item spans =>
    exact fun s hs => Span.isAllowed_of_isKnown (List.all_eq_true.mp h s hs)
  | definition term spans =>
    obtain ⟨hterm, hspans⟩ := Bool.and_eq_true_iff.mp h
    exact ⟨fun s hs => Span.isAllowed_of_isKnown (List.all_eq_true.mp hterm s hs),
      fun s hs => Span.isAllowed_of_isKnown (List.all_eq_true.mp hspans s hs)⟩
  | unknown kind => cases h
  | _ => trivial

theorem Span.isAllowed_isUnknownKind (s : Span) : s.IsAllowed Fault.IsUnknownKind := by
  cases s with
  | unknown kind => exact ⟨kind, rfl⟩
  | _ => trivial

theorem Para.isAllowed_isUnknownKind (p : Para) : p.IsAllowed Fault.IsUnknownKind := by
  cases p with
  | text spans | item spans => exact fun s _ => s.isAllowed_isUnknownKind
  | definition term spans =>
    exact ⟨fun s _ => s.isAllowed_isUnknownKind, fun s _ => s.isAllowed_isUnknownKind⟩
  | unknown kind => exact ⟨kind, rfl⟩
  | _ => trivial

end Kinds

/-! ### Visible texts -/

theorem allBlank_append (a b : List Char) : allBlank (a ++ b) = (allBlank a && allBlank b) :=
  List.all_append

theorem not_blank_of_quoted (c : Char) (hc : isBlank c = false) (text : List Char) :
    allBlank (c :: text) = false := by
  simp [allBlank, hc]

namespace DocContext

variable (ctx : DocContext)

theorem toList_literal (text : String) : ∃ rest, (ctx.literal text).toList = '@' :: rest := by
  unfold literal
  split_ifs <;> simp

/-! ### Words -/

theorem failsOnly_spansText {P : Fault → Prop} {spans : List Span}
    (h : ∀ s ∈ spans, s.IsAllowed P) : FailsOnly P (ctx.spansText spans) := by
  unfold spansText
  refine (FailsOnly.mapM fun s hs => ?_).bind fun _ _ => failsOnly_pure _
  cases s with
  | unknown kind => exact failsOnly_error (h _ hs)
  | _ => exact failsOnly_ok _

/-- A word without blanks is marked up, and the result is visible. -/
theorem markWord_of_isWord {word : List Char} (h : IsWord word) :
    ∃ marked, ctx.markWord (String.ofList word) = .ok marked ∧ allBlank marked.toList = false := by
  have hquote : isBlank '\'' = false := by decide
  cases hcall : callParts? word with
  | some parts => exact ⟨_, ctx.markWord_of_call h.2 hcall, by simp [allBlank, hquote]⟩
  | none =>
    rw [ctx.markWord_of_not_call h.2 hcall]
    split_ifs
    · obtain ⟨rest, hrest⟩ := ctx.toList_literal (coreOf word)
      refine ⟨_, rfl, ?_⟩
      rw [String.toList_append, hrest, allBlank_append, not_blank_of_quoted '@' (by decide)]
      rfl
    · exact ⟨_, rfl, by simp [allBlank, hquote]⟩
    · exact ⟨_, rfl, by rw [String.toList_ofList, h.not_allBlank]⟩

theorem markWord_of_mem_words {text : List Char} {word : String}
    (h : word ∈ (Text.words text).map String.ofList) :
    ∃ marked, ctx.markWord word = .ok marked ∧ allBlank marked.toList = false := by
  obtain ⟨cs, hcs, rfl⟩ := List.mem_map.mp h
  exact ctx.markWord_of_isWord (mem_words hcs)

theorem failsOnly_words_of_isAllowed {P : Fault → Prop} {spans : List Span}
    (h : ∀ s ∈ spans, s.IsAllowed P) : FailsOnly P (ctx.words spans) := by
  unfold words
  refine (ctx.failsOnly_spansText h).bind fun text _ => FailsOnly.mapM fun word hword => ?_
  obtain ⟨marked, hmarked, -⟩ := ctx.markWord_of_mem_words hword
  exact hmarked ▸ failsOnly_ok marked

theorem failsOnly_words {spans : List Span} (h : ∀ s ∈ spans, s.isKnown = true) :
    FailsOnly Fault.Never (ctx.words spans) :=
  ctx.failsOnly_words_of_isAllowed fun s hs => Span.isAllowed_of_isKnown (h s hs)

/-- The words of spans are visible. -/
theorem not_blank_of_words {spans : List Span} {ws : List String} (h : ctx.words spans = .ok ws) :
    ∀ w ∈ ws, allBlank w.toList = false := by
  unfold words at h
  obtain ⟨text, -, hws⟩ := bind_eq_ok_iff.mp h
  intro w hw
  obtain ⟨word, hword, hmark⟩ := exists_of_mem_mapM hws hw
  obtain ⟨marked, hmarked, hblank⟩ := ctx.markWord_of_mem_words hword
  rw [hmarked, Except.ok.injEq] at hmark
  exact hmark ▸ hblank

end DocContext

/-! ### Lines and comments -/

/-- Visible words fill a line. -/
theorem failsOnly_wrapWords {words : List String} (h : ∀ w ∈ words, allBlank w.toList = false)
    (width column : Int) : FailsOnly Fault.Never (wrapWords words width column) := by
  unfold wrapWords
  cases words with
  | nil => exact failsOnly_ok _
  | cons word rest =>
    have hblank : allBlank (" ".intercalate (word :: rest)).toList = false := by
      obtain ⟨c, hc, hcblank⟩ := List.all_eq_false.mp (h word List.mem_cons_self)
      refine List.all_eq_false.mpr ⟨c, ?_, hcblank⟩
      rw [String.toList_intercalate]
      cases rest with
      | nil => simpa using hc
      | cons next rest => simp [List.intercalate_cons_cons, hc]
    rw [List.isEmpty_cons, if_neg Bool.false_ne_true]
    cases hlines : wrapLines width.toNat column.toNat (" ".intercalate (word :: rest)).toList with
    | nil => exact absurd hlines (wrapLines_ne_nil _ _ hblank)
    | cons first lines => exact failsOnly_ok _

namespace DocContext

variable (ctx : DocContext)

section Allowed

variable {P : Fault → Prop}

theorem failsOnly_wrapSpans {spans : List Span} (h : ∀ s ∈ spans, s.IsAllowed P) (width : Int) :
    FailsOnly P (ctx.wrapSpans spans width) := by
  unfold wrapSpans
  exact (ctx.failsOnly_words_of_isAllowed h).bind fun ws hws =>
    (failsOnly_wrapWords (ctx.not_blank_of_words hws) width commentColumn).of_never

/-- The words of an item or a definition stand behind a visible one. -/
theorem failsOnly_wrapWords_cons {spans : List Span} {ws : List String} {mark : String}
    (hmark : allBlank mark.toList = false) (hws : ctx.words spans = .ok ws) (width : Int) :
    FailsOnly P (wrapWords (mark :: ws) width commentColumn) := by
  refine (failsOnly_wrapWords (fun w hw => ?_) width commentColumn).of_never
  rcases List.mem_cons.mp hw with rfl | hw
  · exact hmark
  · exact ctx.not_blank_of_words hws w hw

theorem failsOnly_paragraphLines_of_isAllowed {p : Para} (h : p.IsAllowed P) :
    FailsOnly P (ctx.paragraphLines p) := by
  cases p with
  | text spans => exact ctx.failsOnly_wrapSpans h _
  | program text => exact failsOnly_ok _
  | title title => exact failsOnly_ok _
  | definition term spans =>
    refine (ctx.failsOnly_spansText h.1).bind fun term _ => ?_
    refine (ctx.failsOnly_words_of_isAllowed h.2).bind fun ws hws => ?_
    exact ctx.failsOnly_wrapWords_cons (by simp [allBlank, show isBlank '[' = false by decide])
      hws _
  | item spans =>
    refine (ctx.failsOnly_words_of_isAllowed h).bind fun ws hws => ?_
    exact ctx.failsOnly_wrapWords_cons (by decide) hws _
  | unknown kind => exact failsOnly_error h

theorem failsOnly_comment_of_isAllowed {paragraphs : List Para}
    (h : ∀ p ∈ paragraphs, p.IsAllowed P) : FailsOnly P (ctx.comment paragraphs) := by
  unfold comment
  refine (FailsOnly.mapM fun p hp => ?_).bind fun _ _ => failsOnly_pure _
  exact ctx.failsOnly_paragraphLines_of_isAllowed (h p hp)

end Allowed

theorem failsOnly_paragraphLines {p : Para} (h : p.isKnown = true) :
    FailsOnly Fault.Never (ctx.paragraphLines p) :=
  ctx.failsOnly_paragraphLines_of_isAllowed (Para.isAllowed_of_isKnown h)

/-- The comment of a declaration can be written. -/
theorem failsOnly_comment {paragraphs : List Para} (h : ∀ p ∈ paragraphs, p.isKnown = true) :
    FailsOnly Fault.Never (ctx.comment paragraphs) :=
  ctx.failsOnly_comment_of_isAllowed fun p hp => Para.isAllowed_of_isKnown (h p hp)

/-! ### Signatures -/

section Allowed

variable {P : Fault → Prop}

theorem failsOnly_documentedType (column : Nat) (type : String) {doc : Option (List Span)}
    (h : ∀ spans ∈ doc, ∀ s ∈ spans, s.IsAllowed P) :
    FailsOnly P (ctx.documentedType column type doc) := by
  cases doc with
  | none => exact failsOnly_ok _
  | some spans => exact (ctx.failsOnly_wrapSpans (h spans rfl) _).bind fun _ _ => failsOnly_pure _

theorem failsOnly_signatureFrom (column : Nat) (afterDoc : Option Bool)
    {types : List (String × Option (List Span))}
    (h : ∀ t ∈ types, ∀ spans ∈ t.2, ∀ s ∈ spans, s.IsAllowed P) :
    FailsOnly P (ctx.signatureFrom column afterDoc types) := by
  induction types generalizing afterDoc with
  | nil => exact failsOnly_ok _
  | cons t rest ih =>
    obtain ⟨type, doc⟩ := t
    rw [signatureFrom]
    refine (ctx.failsOnly_documentedType column type (h _ List.mem_cons_self)).bind fun _ _ => ?_
    refine (ih _ fun t ht => h t (List.mem_cons_of_mem _ ht)).bind fun _ _ => ?_
    exact failsOnly_pure _

theorem failsOnly_signature_of_isAllowed {types : List (String × Option (List Span))}
    (hne : types ≠ []) (h : ∀ t ∈ types, ∀ spans ∈ t.2, ∀ s ∈ spans, s.IsAllowed P) :
    FailsOnly P (ctx.signature types) := by
  unfold signature
  rw [if_neg (by simpa using hne)]
  exact ctx.failsOnly_signatureFrom _ _ h

end Allowed

/-- A signature of at least one type can be written. -/
theorem failsOnly_signature {types : List (String × Option (List Span))} (hne : types ≠ [])
    (h : ∀ t ∈ types, ∀ spans ∈ t.2, ∀ s ∈ spans, s.isKnown = true) :
    FailsOnly Fault.Never (ctx.signature types) :=
  ctx.failsOnly_signature_of_isAllowed hne fun t ht spans hspans s hs =>
    Span.isAllowed_of_isKnown (h t ht spans hspans s hs)

end DocContext
end BindingGen

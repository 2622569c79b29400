/-
# Signatures

A signature spells its class constraints and then its types in order, with an arrow in front of each
but the first. What is said of a type is a remark behind it: a comment that ends with its last line,
so that the arrow behind a remark starts a new line and is not a part of it.

Key definitions: `SpellsContext`, `IsRemark`, `IsTypeLead`, `SpellsTypes`.
Key theorems: `spellsContext_constraintText`, `DocContext.spellsTypes_signature`.
-/
import BindingGen.Proofs.Haddock.CommentLines

namespace BindingGen

/-! ### Class constraints -/

/-- The text spells the class constraints: a single one in front of an arrow, and several between
parentheses in front of it. -/
inductive SpellsContext : List String → String → Prop
  | none : SpellsContext [] ""
  | single (constraint : String) : SpellsContext [constraint] (constraint ++ " => ")
  | several {constraints : List String} (h : 1 < constraints.length) :
    SpellsContext constraints ("(" ++ ", ".intercalate constraints ++ ") => ")

theorem spellsContext_constraintText (constraints : List String) :
    SpellsContext constraints (constraintText constraints) := by
  match constraints with
  | [] => exact .none
  | [constraint] => exact .single constraint
  | first :: second :: rest => exact .several (by simp)

/-! ### Types -/

/-- The text is a remark: lines without line feeds, each of them behind the mark of a comment. -/
def IsRemark (text : String) : Prop :=
  ∃ (margin column : Nat) (lines : List String), (∀ line ∈ lines, '\n' ∉ line.toList) ∧
    text = spaces margin ++ " -- ^ " ++ ("\n" ++ spaces column ++ "-- ").intercalate lines

/-- What may stand in front of a type; `remarked` tells whether the type before it has a remark, if
there is a type before it. -/
def IsTypeLead : Option Bool → String → Prop
  | none, lead => lead = "" ∨ lead = "\n    "
  | some false, lead => lead = " -> " ∨ lead = "\n -> "
  | some true, lead => lead = "\n -> "

/-- The text spells the types in order, with or without a remark behind each. -/
inductive SpellsTypes : Option Bool → List String → String → Prop
  | nil {remarked : Option Bool} : SpellsTypes remarked [] ""
  | bare {remarked : Option Bool} {lead type text : String} {types : List String} :
    IsTypeLead remarked lead → SpellsTypes (some false) types text →
      SpellsTypes remarked (type :: types) (lead ++ type ++ text)
  | remarked {remarked : Option Bool} {lead type remark text : String} {types : List String} :
    IsTypeLead remarked lead → IsRemark remark → SpellsTypes (some true) types text →
      SpellsTypes remarked (type :: types) (lead ++ (type ++ remark) ++ text)

theorem isTypeLead_typeLead (remarked : Option Bool) (hasDoc : Bool) :
    IsTypeLead remarked (typeLead remarked.isNone (remarked.getD false) hasDoc) := by
  cases remarked with
  | none => cases hasDoc <;> simp [typeLead, IsTypeLead]
  | some remarked => cases remarked <;> cases hasDoc <;> simp [typeLead, IsTypeLead]

namespace DocContext

variable {ctx : DocContext}

theorem isRemark_of_documentedType {column : Nat} {type text : String} {doc : List Span}
    (h : ctx.documentedType column type (some doc) = .ok text) :
    ∃ remark, IsRemark remark ∧ text = type ++ remark := by
  obtain ⟨lines, hlines, h⟩ := bind_eq_ok_iff.mp h
  obtain ⟨words, -, hwrap⟩ := bind_eq_ok_iff.mp hlines
  refine ⟨_, ⟨column - type.length, column + 5, lines, fun line hline => ?_, rfl⟩, ?_⟩
  · exact not_mem_break_of_mem_wrapWords hwrap hline
  · rw [← Except.ok.inj h]
    simp only [String.append_assoc]

theorem spellsTypes_signatureFrom {column : Nat} {remarked : Option Bool}
    {types : List (String × Option (List Span))} {text : String}
    (h : ctx.signatureFrom column remarked types = .ok text) :
    SpellsTypes remarked (types.map (·.1)) text := by
  induction types generalizing remarked text with
  | nil =>
    cases h
    exact .nil
  | cons entry rest ih =>
    obtain ⟨type, doc⟩ := entry
    obtain ⟨first, hfirst, h⟩ := bind_eq_ok_iff.mp h
    obtain ⟨others, hothers, h⟩ := bind_eq_ok_iff.mp h
    rw [← Except.ok.inj h]
    have hlead := isTypeLead_typeLead remarked doc.isSome
    cases doc with
    | none =>
      cases hfirst
      exact .bare hlead (ih hothers)
    | some doc =>
      obtain ⟨remark, hremark, rfl⟩ := isRemark_of_documentedType hfirst
      exact .remarked hlead hremark (ih hothers)

theorem spellsTypes_signature {types : List (String × Option (List Span))} {text : String}
    (h : ctx.signature types = .ok text) : SpellsTypes none (types.map (·.1)) text := by
  unfold signature at h
  split at h
  · cases h
  · exact spellsTypes_signatureFrom h

end DocContext
end BindingGen

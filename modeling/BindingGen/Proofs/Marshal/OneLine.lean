/-
# What is handed over is written on one line

A C name without a line feed has a Haskell name without one, for letter case makes no line feed of
another character. The name of a C type never has one, however the type is spelled, since its blanks
become spaces. So where the name of a parameter is on one line, each piece of its code is: what the
call is given, the bracket around the call, and the statement that reads an output. The same holds
of what is done to a result.

Key definitions: `IsFlat`, `StartsVisible`, `MarshaledParameter.IsOnLines`, `ResultGlue.IsOnLines`.
Key theorems: `Name.isFlat_ofParameter`, `CType.isFlat_base_parse`, `isOnLines_of_marshalType?`,
`isOnLines_of_marshalResultType?`.
-/
import BindingGen.Marshal.Result
import BindingGen.Proofs.Marshal.Parameter
import BindingGen.Proofs.Text.BlankFree
import BindingGen.Proofs.Text.Join
import BindingGen.Proofs.Text.Trimming

namespace BindingGen

open Text MarshaledParameter

/-- The text has no line feed, so that it is on one line. -/
def IsFlat (text : String) : Prop := '\n' ∉ text.toList

instance (text : String) : Decidable (IsFlat text) :=
  inferInstanceAs (Decidable ('\n' ∉ text.toList))

/-- The text starts with a visible character. -/
def StartsVisible (text : String) : Prop := text.toList.head?.any (!isBlank ·) = true

instance (text : String) : Decidable (StartsVisible text) :=
  inferInstanceAs (Decidable (_ = true))

theorem isFlat_append {a b : String} : IsFlat (a ++ b) ↔ IsFlat a ∧ IsFlat b := by
  simp [IsFlat]

theorem isFlat_join {texts : List String} (h : ∀ text ∈ texts, IsFlat text) :
    IsFlat (String.join texts) := by
  induction texts with
  | nil => decide
  | cons text texts ih =>
    rw [List.forall_mem_cons] at h
    rw [String.join_cons, isFlat_append]
    exact ⟨h.1, ih h.2⟩

theorem isFlat_intercalate {separator : String} (hseparator : IsFlat separator)
    {texts : List String} (h : ∀ text ∈ texts, IsFlat text) :
    IsFlat (separator.intercalate texts) := by
  cases texts with
  | nil => exact (by decide : IsFlat "")
  | cons text rest =>
    rw [List.forall_mem_cons] at h
    rw [intercalate_cons_eq_append, isFlat_append]
    refine ⟨h.1, isFlat_join (List.forall_mem_map.mpr fun other hother => ?_)⟩
    exact isFlat_append.mpr ⟨hseparator, h.2 other hother⟩

theorem StartsVisible.append {a : String} (h : StartsVisible a) (b : String) :
    StartsVisible (a ++ b) := by
  unfold StartsVisible at h ⊢
  rw [String.toList_append]
  cases ha : a.toList with
  | nil => simp [ha] at h
  | cons c rest => simpa [ha] using h

/-! ### Names -/

namespace Name

variable {cname : String}

theorem isFlat_studly (h : IsFlat cname) : IsFlat (studly cname) := by
  refine isFlat_join fun text htext => ?_
  obtain ⟨word, hword, rfl⟩ := List.mem_map.mp htext
  obtain ⟨part, hpart, rfl⟩ := List.mem_map.mp hword
  rw [upperFirst, String.toList_ofList, IsFlat, String.toList_ofList]
  intro hbreak
  rcases mem_upperFirst hbreak with hbreak | hvisible
  · exact h (subset_of_mem_pieces hpart hbreak)
  · exact absurd hvisible (by decide)

/-- The Haskell variable of a C parameter is on one line where the C name is. -/
theorem isFlat_ofParameter (h : IsFlat cname) : IsFlat (ofParameter cname) := by
  have hcamel : IsFlat (camel cname) := by
    rw [camel, lowerFirst, IsFlat, String.toList_ofList]
    intro hbreak
    rcases mem_lowerFirst hbreak with hbreak | hvisible
    · exact isFlat_studly h hbreak
    · exact absurd hvisible (by decide)
  unfold ofParameter legal
  split_ifs
  · exact isFlat_append.mpr ⟨hcamel, by decide⟩
  · exact hcamel

theorem isFlat_ofType (settings : Settings) (h : IsFlat cname) :
    IsFlat (ofType settings cname) := by
  unfold ofType dropKnown
  split_ifs
  · exact h
  · rw [IsFlat, String.toList_ofList]
    exact fun hbreak => h (List.drop_subset _ _ hbreak)

end Name

/-! ### Types -/

theorem not_mem_break_collapseBlanks (text : List Char) : '\n' ∉ collapseBlanks text := by
  fun_induction collapseBlanks text with
  | case1 => exact List.not_mem_nil
  | case2 c rest hblank hnext ih => exact ih
  | case3 c rest hblank hnext ih => simp [ih]
  | case4 c rest hblank ih =>
    rw [List.mem_cons, not_or]
    refine ⟨fun hbreak => hblank ?_, ih⟩
    rw [← hbreak]
    decide

/-- The name of a C type is on one line. -/
theorem CType.isFlat_base_parse (spelling : String) : IsFlat (CType.parse spelling).base := by
  rw [IsFlat, CType.parse, CType.ofNormal, String.toList_ofList]
  intro hbreak
  have hnormal : '\n' ∈ CType.normalForm spelling.toList := by
    have hrest := (List.rdropWhile_prefix _ _).subset hbreak
    split_ifs at hrest
    · exact List.drop_subset _ _ hrest
    · exact hrest
  exact not_mem_break_collapseBlanks _ hnormal

theorem Primitive.isFlat_of_find? {base : String} {p : Primitive} (h : find? base = some p) :
    IsFlat p.toC ∧ IsFlat p.fromC := by
  have hall : ∀ entry ∈ table, IsFlat entry.2.toC ∧ IsFlat entry.2.fromC := by decide +kernel
  exact hall (base, p) (mem_of_lookup_eq_some h)

theorem Variety.isFlat_toC (variety : Variety) : IsFlat variety.toC := by
  cases variety <;> decide

theorem Variety.isFlat_fromC (variety : Variety) : IsFlat variety.fromC := by
  cases variety <;> decide

/-! ### Parameters -/

namespace MarshaledParameter

/-- Each piece of a parameter's code is on one line, and brackets start with their lender. -/
structure IsOnLines (m : MarshaledParameter) : Prop where
  argument : IsFlat m.glue.argument.argument
  bracket : ∀ bracket ∈ m.glue.bracket, IsFlat bracket.render ∧ StartsVisible bracket.render
  out : ∀ glue ∈ m.out,
    IsFlat glue.bracket.render ∧ IsFlat glue.peek.render ∧ IsFlat glue.component.bare

variable {name : String} (hname : IsFlat name)
include hname

theorem isFlat_pointerTo : IsFlat (pointerTo name) := isFlat_append.mpr ⟨hname, by decide⟩

theorem isFlat_argument {conversion : Option String} (h : ∀ f ∈ conversion, IsFlat f) :
    IsFlat (Operand.argument { conversion, var := name }) := by
  cases conversion with
  | none => exact hname
  | some f =>
    simp only [Operand.argument, isFlat_append]
    exact ⟨⟨⟨⟨by decide, h f rfl⟩, by decide⟩, hname⟩, by decide⟩

theorem isFlat_bare {conversion : Option String} (h : ∀ f ∈ conversion, IsFlat f) :
    IsFlat (Operand.bare { conversion, var := name }) := by
  cases conversion with
  | none => exact hname
  | some f =>
    simp only [Operand.bare, isFlat_append]
    exact ⟨⟨h f rfl, by decide⟩, hname⟩

theorem isFlat_peek {reader : Option String} (h : ∀ f ∈ reader, IsFlat f) :
    IsFlat (Peek.render { var := name, pointer := pointerTo name, reader }) := by
  have hreader : IsFlat (reader.elim "" fun f => " >>= " ++ f) := by
    cases reader with
    | none => decide
    | some f => exact isFlat_append.mpr ⟨by decide, h f rfl⟩
  simp only [Peek.render, isFlat_append]
  exact ⟨⟨⟨hname, by decide⟩, isFlat_pointerTo hname⟩, hreader⟩

theorem isFlat_bracket {lender : String} {source : Option Operand} (hlender : IsFlat lender)
    (h : ∀ x ∈ source, IsFlat x.argument) :
    IsFlat (Bracket.render { lender, source, pointer := pointerTo name }) := by
  have hsource : IsFlat (source.elim "" fun x => " " ++ x.argument) := by
    cases source with
    | none => decide
    | some x => exact isFlat_append.mpr ⟨by decide, h x rfl⟩
  simp only [Bracket.render, isFlat_append]
  exact ⟨⟨⟨⟨hlender, hsource⟩, by decide⟩, isFlat_pointerTo hname⟩, by decide⟩

theorem isOnLines_argument (type : HsType) {conversion : Option String}
    (h : ∀ f ∈ conversion, IsFlat f) : (argument type name conversion).IsOnLines :=
  ⟨isFlat_argument hname h, by rintro _ ⟨⟩, by rintro _ ⟨⟩⟩

theorem isOnLines_lent (type : HsType) {lender : String} (hlender : IsFlat lender)
    (hvisible : StartsVisible lender) : (lent type name lender).IsOnLines := by
  refine ⟨isFlat_pointerTo hname, ?_, by rintro _ ⟨⟩⟩
  rintro _ ⟨⟩
  refine ⟨isFlat_bracket hname hlender ?_, ?_⟩
  · rintro _ ⟨⟩
    exact hname
  · simp only [Bracket.render, String.append_assoc]
    exact hvisible.append _

theorem isOnLines_output (type : HsType) {reader fromC : Option String}
    (hreader : ∀ f ∈ reader, IsFlat f) (hfrom : ∀ f ∈ fromC, IsFlat f) :
    (output type name reader fromC).IsOnLines := by
  refine ⟨isFlat_pointerTo hname, by rintro _ ⟨⟩, ?_⟩
  rintro _ ⟨⟩
  exact ⟨isFlat_bracket hname (by decide) (by rintro _ ⟨⟩), isFlat_peek hname hreader,
    isFlat_bare hname hfrom⟩

theorem isOnLines_inout (type : HsType) {toC fromC : String} (hto : IsFlat toC)
    (hfrom : IsFlat fromC) : (inout type name toC fromC).IsOnLines := by
  refine ⟨isFlat_pointerTo hname, by rintro _ ⟨⟩, ?_⟩
  rintro _ ⟨⟩
  refine ⟨isFlat_bracket hname (by decide) ?_, isFlat_peek hname (by rintro _ ⟨⟩),
    isFlat_bare hname (by rintro _ ⟨⟩; exact hfrom)⟩
  rintro _ ⟨⟩
  exact isFlat_argument hname (by rintro _ ⟨⟩; exact hto)

theorem isOnLines_object {hs : String} (hhs : IsFlat hs) (isLeaf nullable : Bool) :
    (object hs name isLeaf nullable).IsOnLines := by
  refine ⟨isFlat_argument hname ?_, by rintro _ ⟨⟩, by rintro _ ⟨⟩⟩
  rintro _ ⟨⟩
  split_ifs
  · simp only [isFlat_append]
    exact ⟨⟨⟨by decide, hhs⟩, by decide⟩, hhs⟩
  · exact isFlat_append.mpr ⟨by decide, hhs⟩

end MarshaledParameter

section Marshal

variable {symbols : SymbolTable} {settings : Settings} {function name : String} {type : CType}

theorem isOnLines_marshalPointer (hname : IsFlat name) (hsType : HsType) {toC fromC : String}
    (hto : IsFlat toC) (hfrom : IsFlat fromC) :
    (marshalPointer settings function name hsType toC fromC).IsOnLines := by
  unfold marshalPointer
  split
  · exact isOnLines_inout hname hsType hto hfrom
  · exact isOnLines_output hname hsType (by rintro _ ⟨⟩) (by rintro _ ⟨⟩; exact hfrom)

/-- A parameter whose name is on one line is handed over on lines, whatever its type is. -/
theorem isOnLines_of_marshalType? {m : MarshaledParameter} (hname : IsFlat name)
    (hbase : IsFlat type.base) (h : marshalType? symbols settings function name type = some m) :
    m.IsOnLines := by
  have hhs : IsFlat (Name.ofType settings type.base) := Name.isFlat_ofType settings hbase
  revert h
  fun_cases marshalType? symbols settings function name type
  -- the types that are refused, and then each way to hand a parameter over
  case case4 | case8 | case15 | case16 | case19 | case20 => exact fun h => by cases h
  all_goals
    intro h
    obtain rfl := Option.some.inj h
  case case1 _ p hp =>
    exact isOnLines_argument hname _ (by rintro _ ⟨⟩; exact (Primitive.isFlat_of_find? hp).1)
  case case2 => exact isOnLines_argument hname _ (by rintro _ ⟨⟩)
  case case3 => exact isOnLines_argument hname _ (by rintro _ ⟨⟩; exact Variety.isFlat_toC _)
  case case5 | case6 | case11 | case12 => exact isOnLines_lent hname _ (by decide) (by decide)
  case case13 | case14 =>
    exact isOnLines_lent hname _ (isFlat_append.mpr ⟨by decide, hhs⟩)
      (StartsVisible.append (by decide) _)
  case case7 _ _ p hp =>
    obtain ⟨hto, hfrom⟩ := Primitive.isFlat_of_find? (Option.ite_none_left_eq_some.mp hp).2
    exact isOnLines_marshalPointer hname _ hto hfrom
  case case9 =>
    exact isOnLines_marshalPointer hname _ (Variety.isFlat_toC _) (Variety.isFlat_fromC _)
  case case10 => exact isOnLines_object hname hhs _ _
  case case17 => exact isOnLines_output hname _ (by rintro _ ⟨⟩; decide) (by rintro _ ⟨⟩)
  case case18 =>
    refine isOnLines_output hname _ ?_ (by rintro _ ⟨⟩)
    rintro _ ⟨⟩
    exact isFlat_append.mpr ⟨isFlat_append.mpr ⟨by decide, hhs⟩, by decide⟩

/-- What is done to a result is on one line. -/
def ResultGlue.IsOnLines : ResultGlue → Prop
  | .direct => True
  | .convert conversion => IsFlat conversion
  | .read reader _ => IsFlat reader
  | .make maker _ => IsFlat maker ∧ StartsVisible maker

theorem isFlat_objectMaker (settings : Settings) (isConstructor : Bool) (ancestors : List String) :
    IsFlat (objectMaker settings isConstructor ancestors) ∧
      StartsVisible (objectMaker settings isConstructor ancestors) := by
  unfold objectMaker
  split_ifs <;> decide

/-- A result is handed back on lines, whatever its type is. -/
theorem isOnLines_of_marshalResultType? {isConstructor : Bool} {m : MarshaledResult}
    (hbase : IsFlat type.base)
    (h : marshalResultType? symbols settings function isConstructor type = some m) :
    m.glue.IsOnLines := by
  have hhs : IsFlat (Name.ofType settings type.base) := Name.isFlat_ofType settings hbase
  revert h
  fun_cases marshalResultType? symbols settings function isConstructor type
  case case5 | case12 | case13 => exact fun h => by cases h
  all_goals
    intro h
    obtain rfl := Option.some.inj h
  case case1 | case3 => trivial
  case case2 _ _ p hp => exact (Primitive.isFlat_of_find? hp).2
  case case4 => exact Variety.isFlat_fromC _
  case case6 =>
    dsimp only [ResultGlue.IsOnLines]
    split_ifs <;> decide
  case case7 =>
    obtain ⟨hmaker, hvisible⟩ := isFlat_objectMaker settings isConstructor _
    simp only [ResultGlue.IsOnLines, isFlat_append, String.append_assoc]
    exact ⟨⟨hmaker, by decide, hhs⟩, hvisible.append _⟩
  case case8 | case9 => exact (by decide : IsFlat "peek")
  case case10 | case11 => exact isFlat_append.mpr ⟨by decide, hhs⟩

end Marshal
end BindingGen

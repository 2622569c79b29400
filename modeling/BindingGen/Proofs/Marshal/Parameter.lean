/-
# The ways to hand a parameter over

Whatever the type of a parameter, the symbols and the settings are, a parameter that can be handed
over is so in one of five ways. All of them speak of two variables only, that of the parameter and
that of the pointer to it. A parameter is pointed if a bracket lends its pointer; the pointer is
then what the call is given, and its bracket reads the parameter exactly if the parameter is an
argument of the function.

Key definitions: `HsType.Spells`, `IsArgumentOf`, `IsComponentOf`, `BindsPointer`, `ReadsPointer`,
`MarshaledParameter.Serves`, `MarshaledParameter.isPointed`.
Key theorems: `serves_of_marshalType?`, `MarshaledParameter.Serves.argument_var`,
`MarshaledParameter.Serves.bracket_eq`, `MarshaledParameter.Serves.out_eq`.
-/
import BindingGen.Marshal.Parameter

namespace BindingGen

/-! ### Texts -/

/-- The text spells the Haskell type. -/
inductive HsType.Spells : HsType → String → Prop
  | plain (name : String) : Spells (.plain name) name
  | nullable (name : String) : Spells (.nullable name) ("Maybe " ++ name)
  | flags (name : String) : Spells (.flags name) ("[" ++ name ++ "]")

theorem HsType.spells_render (type : HsType) : type.Spells type.render := by
  cases type with
  | plain name => exact .plain name
  | nullable name => exact .nullable name
  | flags name => exact .flags name

/-- The text hands the variable over: as it is, or converted between parentheses. -/
def IsArgumentOf (var text : String) : Prop :=
  text = var ∨ ∃ conversion, text = "(" ++ conversion ++ " " ++ var ++ ")"

/-- The text returns the variable: as it is, or converted. -/
def IsComponentOf (var text : String) : Prop :=
  text = var ∨ ∃ conversion, text = conversion ++ " " ++ var

/-- The text binds the pointer to what is lent to the code behind it. -/
def BindsPointer (pointer text : String) : Prop :=
  ∃ lender, text = lender ++ " $ \\" ++ pointer ++ " ->"

/-- The text binds the variable to what is read from the pointer. -/
def ReadsPointer (var pointer text : String) : Prop :=
  text = var ++ " <- peek " ++ pointer ∨
    ∃ reader, text = var ++ " <- peek " ++ pointer ++ " >>= " ++ reader

theorem Operand.isArgumentOf_argument (x : Operand) : IsArgumentOf x.var x.argument := by
  unfold argument
  cases x.conversion with
  | none => exact .inl rfl
  | some conversion => exact .inr ⟨conversion, rfl⟩

theorem Operand.isComponentOf_bare (x : Operand) : IsComponentOf x.var x.bare := by
  unfold bare
  cases x.conversion with
  | none => exact .inl rfl
  | some conversion => exact .inr ⟨conversion, rfl⟩

theorem Bracket.bindsPointer_render (bracket : Bracket) :
    BindsPointer bracket.pointer bracket.render := ⟨_, rfl⟩

theorem Peek.readsPointer_render (peek : Peek) :
    ReadsPointer peek.var peek.pointer peek.render := by
  unfold render
  cases peek.reader with
  | none => exact .inl String.append_empty
  | some reader => exact .inr ⟨reader, String.append_assoc.symm⟩

/-! ### Parameters -/

namespace MarshaledParameter

/-- The ways in which the parameter `name` may be handed over. -/
inductive Serves (name : String) : MarshaledParameter → Prop
  | argument (type : HsType) (conversion : Option String) :
    Serves name (.argument type name conversion)
  | lent (type : HsType) (lender : String) : Serves name (.lent type name lender)
  | output (type : HsType) (reader fromC : Option String) :
    Serves name (.output type name reader fromC)
  | inout (type : HsType) (toC fromC : String) : Serves name (.inout type name toC fromC)
  | object (hs : String) (isLeaf nullable : Bool) : Serves name (.object hs name isLeaf nullable)

/-- Whether the parameter is handed over by a pointer that a bracket lends. -/
def isPointed (m : MarshaledParameter) : Bool := m.glue.bracket.isSome || m.out.isSome

theorem pointerTo_injective {a b : String} (h : pointerTo a = pointerTo b) : a = b := by
  rw [← String.toList_inj] at h ⊢
  simpa [pointerTo] using h

theorem pointerTo_ne (name : String) : pointerTo name ≠ name := by
  intro h
  simp [pointerTo, ← String.toList_inj] at h

namespace Serves

variable {name : String} {m : MarshaledParameter} (h : Serves name m)
include h

theorem isSome_out : m.out.isSome = (m.direction != .input) := by
  cases h <;> rfl

theorem argument_var : m.glue.argument.var = if m.isPointed then pointerTo name else name := by
  cases h <;> rfl

/-- A bracket around the call is that of an input, which it reads. -/
theorem bracket_eq {bracket : Bracket} (hb : m.glue.bracket = some bracket) :
    m.direction = .input ∧ bracket.pointer = pointerTo name ∧
      bracket.source.map (·.var) = some name := by
  cases h <;> cases hb
  exact ⟨rfl, rfl, rfl⟩

/-- The code of an output lends its pointer, binds its variable and returns it. -/
theorem out_eq {glue : OutGlue} (ho : m.out = some glue) :
    m.glue.bracket = none ∧ glue.bracket.pointer = pointerTo name ∧
      glue.bracket.source.map (·.var) = (if m.direction = .inout then some name else none) ∧
      glue.peek.var = name ∧ glue.peek.pointer = pointerTo name ∧ glue.component.var = name := by
  cases h <;> cases ho <;> exact ⟨rfl, rfl, rfl, rfl, rfl, rfl⟩

theorem argument_of_out {glue : OutGlue} (ho : m.out = some glue) :
    m.glue.argument.argument = glue.peek.pointer := by
  cases h <;> cases ho <;> rfl

end Serves

end MarshaledParameter

open MarshaledParameter

theorem serves_marshalPointer (settings : Settings) (function name : String) (type : HsType)
    (toC fromC : String) : Serves name (marshalPointer settings function name type toC fromC) := by
  unfold marshalPointer
  split
  · exact .inout ..
  · exact .output ..

/-- Every type that can be handed over is so in one of the ways. -/
theorem serves_of_marshalType? {symbols : SymbolTable} {settings : Settings}
    {function name : String} {type : CType} {m : MarshaledParameter}
    (h : marshalType? symbols settings function name type = some m) : Serves name m := by
  revert h
  fun_cases marshalType? symbols settings function name type
  -- the types that are refused, and then each way in turn
  case case4 | case8 | case15 | case16 | case19 | case20 => exact fun h => by cases h
  case case1 | case2 | case3 => exact fun h => Option.some.inj h ▸ .argument ..
  case case5 | case6 | case11 | case12 | case13 | case14 =>
    exact fun h => Option.some.inj h ▸ .lent ..
  case case7 | case9 => exact fun h => Option.some.inj h ▸ serves_marshalPointer ..
  case case10 => exact fun h => Option.some.inj h ▸ .object ..
  case case17 | case18 => exact fun h => Option.some.inj h ▸ .output ..

theorem marshalParameter_eq_ok_iff {symbols : SymbolTable} {settings : Settings}
    {function name type : String} {m : MarshaledParameter} :
    marshalParameter symbols settings function name type = .ok m ↔
      marshalType? symbols settings function name (.parse type) = some m := by
  unfold marshalParameter
  cases marshalType? symbols settings function name (.parse type) <;> simp

end BindingGen

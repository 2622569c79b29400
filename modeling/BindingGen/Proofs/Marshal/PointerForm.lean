/-
# Pointers as parameters

The pointers that a function can be handed come in eight forms, which are told from the number of
stars, from the base, from what the base stands for and from whether the type is constant. The form
says what becomes of the parameter (`marshalType?_pointer_eq_some_iff`), and so which of the
settings have a say in it: a number or an enumerated value is written as well as read if it is
listed for that, and a text or an object may be absent if it is listed for that. The other forms
look at neither list.

Key definitions: `CType.Leads`, `PointerForm`, `CType.Points`, `PointerForm.parameter`,
`PointerForm.direction`.
Key theorems: `CType.Points.marshalType?`, `CType.exists_points`,
`marshalType?_pointer_eq_some_iff`, `PointerForm.direction_parameter`.
-/
import BindingGen.Proofs.Marshal.Parameter

namespace BindingGen

open MarshaledParameter

/-! ### Forms of pointers -/

/-- The forms of the pointers that a function can be handed. A value is a number or an enumeration;
what is stored is read and written as a whole; what is boxed has functions of its own for that. The
last two are places for a text and for an object. -/
inductive PointerForm where
  | text
  | number (p : Primitive)
  | enumeration (variety : Variety)
  | object
  | stored
  | boxed
  | textPlace
  | objectPlace

/-- The primitive type that a pointer to the base can write. -/
def CType.written? (type : CType) : Option Primitive :=
  if type.isConst then none else Primitive.find? type.base

/-- The type is a pointer to the symbol: not to characters and not to a number that it can write. -/
structure CType.Leads (symbols : SymbolTable) (type : CType) (symbol : CSymbol) : Prop where
  depth : type.depth = 1
  text : stringBases.contains type.base = false
  number : type.written? = none
  symbol : symbols.lookup type.base = some symbol

/-- A C type is a pointer of a form. Characters are what texts point to before they are anything
else, and a number that can be written is one before its name is that of a symbol. -/
inductive CType.Points (symbols : SymbolTable) (type : CType) : PointerForm → Prop
  | text : type.depth = 1 → stringBases.contains type.base = true → Points symbols type .text
  | number {p : Primitive} : type.depth = 1 → stringBases.contains type.base = false →
    type.written? = some p → Points symbols type (.number p)
  | enumeration {variety : Variety} : type.Leads symbols (.enumeration variety) →
    type.isConst = false → Points symbols type (.enumeration variety)
  | object {ancestors : List String} : type.Leads symbols (.object ancestors) →
    Points symbols type .object
  | struct : type.Leads symbols .struct → Points symbols type .stored
  | typeAlias : type.Leads symbols .typeAlias → Points symbols type .stored
  | boxed : type.Leads symbols .boxed → Points symbols type .boxed
  | classStruct : type.Leads symbols .classStruct → Points symbols type .boxed
  | textPlace : type.depth = 2 → type.isConst = false → stringBases.contains type.base = true →
    Points symbols type .textPlace
  | objectPlace {ancestors : List String} : type.depth = 2 → type.isConst = false →
    stringBases.contains type.base = false → symbols.lookup type.base = some (.object ancestors) →
    Points symbols type .objectPlace

namespace PointerForm

/-- What becomes of the parameter `name` of a function that is a pointer of a form to `base`. -/
def parameter (settings : Settings) (function name base : String) :
    PointerForm → MarshaledParameter
  | .text =>
    if settings.maybeNullParameter function name then
      lent (.nullable "String") name "maybeWith withUTFString"
    else lent .string name "withUTFString"
  | .number p => marshalPointer settings function name p.type p.toC p.fromC
  | .enumeration variety =>
    marshalPointer settings function name (variety.hsType (Name.ofType settings base)) variety.toC
      variety.fromC
  | .object =>
    .object (Name.ofType settings base) name (settings.isLeaf base)
      (settings.maybeNullParameter function name)
  | .stored => lent (.plain (Name.ofType settings base)) name "with"
  | .boxed => lent (.plain (Name.ofType settings base)) name ("with" ++ Name.ofType settings base)
  | .textPlace => output .string name (some "readUTFString") none
  | .objectPlace =>
    output (.plain (Name.ofType settings base)) name
      (some ("makeNewGObject mk" ++ Name.ofType settings base ++ " . return")) none

/-- Whether a pointer leads to a number or an enumerated value. -/
def isValue : PointerForm → Bool
  | .number _ | .enumeration _ => true
  | _ => false

/-- Which way a pointer of a form carries a value; `isInout` tells whether the settings list it as
read before it is written. -/
def direction (isInout : Bool) : PointerForm → Direction
  | .number _ | .enumeration _ => if isInout then .inout else .output
  | .textPlace | .objectPlace => .output
  | _ => .input

theorem direction_eq_inout_iff {form : PointerForm} {isInout : Bool} :
    form.direction isInout = .inout ↔ isInout = true ∧ form.isValue = true := by
  cases form <;> cases isInout <;> simp [direction, isValue]

theorem direction_parameter (settings : Settings) (function name base : String)
    (form : PointerForm) : (form.parameter settings function name base).direction =
      form.direction (settings.isInout function name) := by
  cases form with
  | text =>
    simp only [parameter]
    split <;> rfl
  | number | enumeration =>
    simp only [parameter, marshalPointer, direction]
    split <;> rfl
  | object | stored | boxed | textPlace | objectPlace => rfl

end PointerForm

/-! ### Pointers that can be handed over -/

namespace CType

variable {symbols : SymbolTable} {settings : Settings} {function name : String} {type : CType}

theorem Points.marshalType? {form : PointerForm} (h : type.Points symbols form) :
    marshalType? symbols settings function name type =
      some (form.parameter settings function name type.base) := by
  unfold BindingGen.marshalType?
  cases h with
  | text hdepth htext =>
    cases hnull : settings.maybeNullParameter function name <;>
      simp only [hdepth, htext, hnull, PointerForm.parameter] <;> rfl
  | number hdepth htext hnumber =>
    rw [written?] at hnumber
    simp only [hdepth, htext, hnumber]
    rfl
  | enumeration hleads hconst =>
    obtain ⟨hdepth, htext, hnumber, hsymbol⟩ := hleads
    rw [written?, hconst] at hnumber
    simp only [hdepth, htext, hnumber, hsymbol, hconst]
    rfl
  | object hleads | struct hleads | typeAlias hleads | boxed hleads | classStruct hleads =>
    obtain ⟨hdepth, htext, hnumber, hsymbol⟩ := hleads
    rw [written?] at hnumber
    simp only [hdepth, htext, hnumber, hsymbol]
    rfl
  | textPlace hdepth hconst htext =>
    simp only [hdepth, hconst, htext]
    rfl
  | objectPlace hdepth hconst htext hsymbol =>
    simp only [hdepth, hconst, htext, hsymbol]
    rfl

/-- A pointer that can be handed over is of a form. -/
theorem exists_points {m : MarshaledParameter} (hdepth : type.depth ≠ 0)
    (h : BindingGen.marshalType? symbols settings function name type = some m) :
    ∃ form, type.Points symbols form := by
  revert h
  fun_cases BindingGen.marshalType? symbols settings function name type
  -- the types that are refused, those without stars, and then each form in turn
  case case8 | case15 | case16 | case19 | case20 => exact fun h => by cases h
  case case1 hzero _ _ | case2 hzero _ _ | case3 hzero _ _ _ _ | case4 hzero _ _ _ =>
    exact absurd hzero hdepth
  case case5 hone htext _ | case6 hone htext _ => exact fun _ => ⟨_, .text hone htext⟩
  case case7 hone htext p hnumber =>
    exact fun _ => ⟨_, .number hone (Bool.eq_false_iff.mpr htext) hnumber⟩
  case case9 hone htext hnumber variety hsymbol hconst =>
    exact fun _ => ⟨_, .enumeration ⟨hone, Bool.eq_false_iff.mpr htext, hnumber, hsymbol⟩
      (Bool.eq_false_iff.mpr hconst)⟩
  case case10 hone htext hnumber ancestors hsymbol =>
    exact fun _ => ⟨_, .object ⟨hone, Bool.eq_false_iff.mpr htext, hnumber, hsymbol⟩⟩
  case case11 hone htext hnumber hsymbol =>
    exact fun _ => ⟨_, .struct ⟨hone, Bool.eq_false_iff.mpr htext, hnumber, hsymbol⟩⟩
  case case12 hone htext hnumber hsymbol =>
    exact fun _ => ⟨_, .typeAlias ⟨hone, Bool.eq_false_iff.mpr htext, hnumber, hsymbol⟩⟩
  case case13 hone htext hnumber hsymbol =>
    exact fun _ => ⟨_, .boxed ⟨hone, Bool.eq_false_iff.mpr htext, hnumber, hsymbol⟩⟩
  case case14 hone htext hnumber hsymbol =>
    exact fun _ => ⟨_, .classStruct ⟨hone, Bool.eq_false_iff.mpr htext, hnumber, hsymbol⟩⟩
  case case17 htwo hconst htext =>
    exact fun _ => ⟨_, .textPlace htwo (Bool.eq_false_iff.mpr hconst) htext⟩
  case case18 htwo hconst htext ancestors hsymbol =>
    exact fun _ => ⟨_, .objectPlace htwo (Bool.eq_false_iff.mpr hconst)
      (Bool.eq_false_iff.mpr htext) hsymbol⟩

end CType

/-- A pointer can be handed over exactly if it is of one of the forms, and as the form says. -/
theorem marshalType?_pointer_eq_some_iff {symbols : SymbolTable} {settings : Settings}
    {function name : String} {type : CType} {m : MarshaledParameter} (hdepth : type.depth ≠ 0) :
    marshalType? symbols settings function name type = some m ↔
      ∃ form, type.Points symbols form ∧
        m = form.parameter settings function name type.base := by
  constructor
  · intro h
    obtain ⟨form, hform⟩ := CType.exists_points hdepth h
    rw [hform.marshalType?] at h
    exact ⟨form, hform, (Option.some.inj h).symm⟩
  · rintro ⟨form, hform, rfl⟩
    exact hform.marshalType?

end BindingGen

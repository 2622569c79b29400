/-
# Property values and signal arguments

The Haskell type of a property with the tag of its generic value, and the Haskell type of a signal
argument with the category that names it in a connect helper.

Key definitions: `marshalProperty`, `marshalSignal`.
-/
import BindingGen.Marshal.Primitive
import BindingGen.Marshal.Enumerated
import BindingGen.Symbol.Basic
import BindingGen.CType
import BindingGen.Name
import BindingGen.Fault

namespace BindingGen

/-- The type of a property and the tag of its value, if its C type can be handed over. -/
def marshalPropertyType? (symbols : SymbolTable) (settings : Settings) (type : CType) :
    Option (HsType × String) :=
  let hs := Name.ofType settings type.base
  match type.depth with
  | 0 =>
    match Primitive.find? type.base with
    | some p => some (p.type, p.boxedAs)
    | none =>
      if pointerBases.contains type.base then some (.pointer, "GVpointer")
      else
        match symbols.lookup type.base with
        | some (.enumeration .choice) => some (.plain hs, "GVenum")
        | some (.enumeration .flags) => some (.flags hs, "GVflags")
        | _ => none
  | 1 =>
    if stringBases.contains type.base then some (.string, "GVstring")
    else
      match symbols.lookup type.base with
      | some (.object _) => some (.plain hs, "GVobject")
      | some .boxed | some .struct => some (.plain hs, "GVboxed")
      | _ => none
  | _ => none

/-- The type of a property and the tag of its value. -/
def marshalProperty (symbols : SymbolTable) (settings : Settings) (owner type : String) :
    Except Refusal (HsType × String) :=
  match marshalPropertyType? symbols settings (.parse type) with
  | some marshaled => .ok marshaled
  | none => .error (.unmarshalable owner type .property)

/-- The category and the type of a signal argument, if its C type can be handed over. -/
def marshalSignalType? (symbols : SymbolTable) (settings : Settings) (type : CType) :
    Option (String × HsType) :=
  let hs := Name.ofType settings type.base
  match type.depth with
  | 0 =>
    if type.base = "void" then some ("NONE", .unit)
    else
      match Primitive.find? type.base with
      | some p => some (p.category, p.type)
      | none =>
        if pointerBases.contains type.base then some ("PTR", .pointer)
        else
          match symbols.lookup type.base with
          | some (.enumeration .choice) => some ("ENUM", .plain hs)
          | some (.enumeration .flags) => some ("FLAGS", .flags hs)
          | _ => none
  | 1 =>
    if stringBases.contains type.base then some ("STRING", .string)
    else
      match symbols.lookup type.base with
      | some (.object _) => some ("OBJECT", .plain hs)
      | some .boxed | some .struct | some .typeAlias => some ("BOXED", .plain hs)
      | some _ => some ("PTR", .pointer)
      | none => if pointerBases.contains type.base then some ("PTR", .pointer) else none
  | _ => none

/-- The category and the type of a signal argument. -/
def marshalSignal (symbols : SymbolTable) (settings : Settings) (owner type : String) :
    Except Refusal (String × HsType) :=
  match marshalSignalType? symbols settings (.parse type) with
  | some marshaled => .ok marshaled
  | none => .error (.unmarshalable owner type .signalArgument)

end BindingGen

/-
# Results

How the result of a C function is handed back, by its type. A constructor of a type with a
floating reference takes it over; another constructor keeps the reference it is given; any other
function adds one.

Key definitions: `MarshaledResult`, `marshalResult`.
-/
import BindingGen.Marshal.Primitive
import BindingGen.Marshal.Enumerated
import BindingGen.Marshal.Call
import BindingGen.Symbol.Basic
import BindingGen.CType
import BindingGen.Name

namespace BindingGen

/-- A result that can be handed back. -/
structure MarshaledResult where
  type : HsType
  glue : ResultGlue
  deriving DecidableEq

/-- The function that makes the Haskell value of an object. -/
def objectMaker (settings : Settings) (isConstructor : Bool) (ancestors : List String) : String :=
  if !isConstructor then "makeNewGObject"
  else if ancestors.contains settings.floatingType then "makeNewObject"
  else "constructNewGObject"

/-- How the result of a function is handed back, if its type can be. -/
def marshalResultType? (symbols : SymbolTable) (settings : Settings) (function : String)
    (isConstructor : Bool) (type : CType) : Option MarshaledResult :=
  let hs := Name.ofType settings type.base
  let nullable := settings.maybeNullResult function
  match type.depth with
  | 0 =>
    if type.base = "void" then some ⟨.unit, .direct⟩
    else
      match Primitive.find? type.base with
      | some p => some ⟨p.type, .convert p.fromC⟩
      | none =>
        if pointerBases.contains type.base then some ⟨.pointer, .direct⟩
        else
          match symbols.lookup type.base with
          | some (.enumeration variety) => some ⟨variety.hsType hs, .convert variety.fromC⟩
          | _ => none
  | 1 =>
    if stringBases.contains type.base then
      some ⟨if nullable then .nullable "String" else .string,
        .read (if type.isConst then "peekUTFString" else "readUTFString") nullable⟩
    else
      match symbols.lookup type.base with
      | some (.object ancestors) =>
        some ⟨if nullable then .nullable hs else .plain hs,
          .make (objectMaker settings isConstructor ancestors ++ " mk" ++ hs) nullable⟩
      | some .struct | some .typeAlias => some ⟨.plain hs, .read "peek" false⟩
      | some .boxed | some .classStruct => some ⟨.plain hs, .read ("makeNew" ++ hs) false⟩
      | _ => none
  | _ => none

/-- How the result of a function is handed back. -/
def marshalResult (symbols : SymbolTable) (settings : Settings) (function : String)
    (isConstructor : Bool) (type : String) : Except Refusal MarshaledResult :=
  match marshalResultType? symbols settings function isConstructor (.parse type) with
  | some marshaled => .ok marshaled
  | none => .error (.unmarshalable function type .result)

end BindingGen

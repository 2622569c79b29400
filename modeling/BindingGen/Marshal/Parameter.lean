/-
# Parameters

How a parameter of a C function is handed over, by its type: an input is an argument of the
Haskell function, an output is a pointer that is read after the call, and a parameter listed as
both is written before the call and read after it. An object type that may have subclasses is
passed through a type variable with a class constraint.

Key definitions: `Direction`, `OutGlue`, `MarshaledParameter`, `marshalParameter`.
-/
import BindingGen.Marshal.Primitive
import BindingGen.Marshal.Enumerated
import BindingGen.Marshal.Call
import BindingGen.Symbol.Basic
import BindingGen.CType
import BindingGen.Name

namespace BindingGen

/-- Which way a parameter carries a value. -/
inductive Direction where
  | input
  | output
  | inout
  deriving DecidableEq

/-- The statement that reads an output: the variable it binds, the pointer it reads, and what is
done with what it finds. -/
structure Peek where
  var : String
  pointer : String
  reader : Option String := none
  deriving DecidableEq

/-- The text of the statement. -/
def Peek.render (p : Peek) : String :=
  p.var ++ " <- peek " ++ p.pointer ++ p.reader.elim "" fun r => " >>= " ++ r

/-- The code of an output: the bracket that lends its pointer, the statement that reads it, and
the component of the result that returns it. -/
structure OutGlue where
  bracket : Bracket
  peek : Peek
  component : Operand
  deriving DecidableEq

/-- A parameter that can be handed over. -/
structure MarshaledParameter where
  constraint : Option String := none
  direction : Direction := .input
  type : HsType
  glue : ArgumentGlue
  out : Option OutGlue := none
  deriving DecidableEq

namespace MarshaledParameter

/-- An input that is an argument of the call. -/
def argument (type : HsType) (name : String) (conversion : Option String) : MarshaledParameter where
  type
  glue := { argument := { conversion, var := name } }

/-- The variable of the pointer to a parameter. -/
def pointerTo (name : String) : String := name ++ "Ptr"

/-- An input that a bracket lends a pointer to. -/
def lent (type : HsType) (name lender : String) : MarshaledParameter where
  type
  glue :=
    { bracket := some { lender, source := some { var := name }, pointer := pointerTo name }
      argument := { var := pointerTo name } }

/-- An output that is read after the call. -/
def output (type : HsType) (name : String) (reader fromC : Option String) :
    MarshaledParameter where
  direction := .output
  type
  glue := { argument := { var := pointerTo name } }
  out := some
    { bracket := { lender := "alloca", pointer := pointerTo name }
      peek := { var := name, pointer := pointerTo name, reader }
      component := { conversion := fromC, var := name } }

/-- A parameter that is written before the call and read after it. -/
def inout (type : HsType) (name toC fromC : String) : MarshaledParameter where
  direction := .inout
  type
  glue := { argument := { var := pointerTo name } }
  out := some
    { bracket :=
        { lender := "with"
          source := some { conversion := some toC, var := name }
          pointer := pointerTo name }
      peek := { var := name, pointer := pointerTo name }
      component := { conversion := some fromC, var := name } }

/-- An object type as an input. -/
def object (hs name : String) (isLeaf nullable : Bool) : MarshaledParameter :=
  let var := if isLeaf then hs else name
  { constraint := if isLeaf then none else some (hs ++ "Class " ++ name)
    type := if nullable then .nullable var else .plain var
    glue :=
      { argument :=
          { conversion := some
              (if nullable then "maybe (" ++ hs ++ " nullForeignPtr) to" ++ hs else "to" ++ hs)
            var := name } } }

/-- The text of the call hook `body` with the parameter handed over. -/
def applyGlue (m : MarshaledParameter) (body : String) : String :=
  (Call.pass { hook := body } m.glue).render

end MarshaledParameter

open MarshaledParameter

/-- A number or an enumeration behind a pointer: an output, unless it is listed as both. -/
def marshalPointer (settings : Settings) (function name : String) (type : HsType)
    (toC fromC : String) : MarshaledParameter :=
  if settings.isInout function name then inout type name toC fromC
  else output type name none (some fromC)

/-- How the parameter `name` of a function is handed over, if its type can be. -/
def marshalType? (symbols : SymbolTable) (settings : Settings) (function name : String)
    (type : CType) : Option MarshaledParameter :=
  let hs := Name.ofType settings type.base
  let nullable := settings.maybeNullParameter function name
  match type.depth with
  | 0 =>
    match Primitive.find? type.base with
    | some p => some (argument p.type name (some p.toC))
    | none =>
      if pointerBases.contains type.base then some (argument .pointer name none)
      else
        match symbols.lookup type.base with
        | some (.enumeration variety) => some (argument (variety.hsType hs) name (some variety.toC))
        | _ => none
  | 1 =>
    if stringBases.contains type.base then
      if nullable then some (lent (.nullable "String") name "maybeWith withUTFString")
      else some (lent .string name "withUTFString")
    else
      match (if type.isConst then none else Primitive.find? type.base) with
      | some p => some (marshalPointer settings function name p.type p.toC p.fromC)
      | none =>
        match symbols.lookup type.base with
        | some (.enumeration variety) =>
          if type.isConst then none
          else
            some (marshalPointer settings function name (variety.hsType hs) variety.toC
              variety.fromC)
        | some (.object _) => some (object hs name (settings.isLeaf type.base) nullable)
        | some .struct | some .typeAlias => some (lent (.plain hs) name "with")
        | some .boxed | some .classStruct => some (lent (.plain hs) name ("with" ++ hs))
        | _ => none
  | 2 =>
    if type.isConst then none
    else if stringBases.contains type.base then
      some (output .string name (some "readUTFString") none)
    else
      match symbols.lookup type.base with
      | some (.object _) =>
        some (output (.plain hs) name (some ("makeNewGObject mk" ++ hs ++ " . return")) none)
      | _ => none
  | _ => none

/-- How the parameter `name` of a function is handed over. -/
def marshalParameter (symbols : SymbolTable) (settings : Settings) (function name type : String) :
    Except Refusal MarshaledParameter :=
  match marshalType? symbols settings function name (.parse type) with
  | some marshaled => .ok marshaled
  | none => .error (.unmarshalable function type .parameter)

end BindingGen

/-
# Attributes

The Haskell attribute of a property: a signature and a pair of functions that get and set it,
either through the object system or by the accessors of the object.

Key definitions: `Attribute`, `Attribute.ofProperty`, `Attribute.ofAccessors`, `Attribute.render`.
-/
import BindingGen.Haddock.Comment
import BindingGen.Marshal.Call
import BindingGen.Marshal.Result
import BindingGen.Marshal.Value
import BindingGen.Member.Property

namespace BindingGen

/-- An attribute: its name, the type of its value, and the code that gets and sets it. -/
structure Attribute where
  name : String
  type : HsType
  getter : String
  setter : String
  deriving DecidableEq

namespace Attribute

/-- The name of an attribute of an object. -/
def nameFor (obj : Object) (name : String) : String := Name.lowerFirst (obj.name ++ name)

/-- The code in front of the body of a getter. -/
def getterHead : String := "(\\obj -> do "

/-- The attribute of a property of the object system. -/
def ofProperty (symbols : SymbolTable) (settings : Settings) (obj : Object) (p : Property) :
    Except Refusal Attribute := do
  let (type, tag) ← marshalProperty symbols settings (obj.cname ++ ":" ++ p.cname) p.type
  return {
    name := nameFor obj p.name
    type
    getter := getterHead ++ tag ++ " result <- objectGetProperty obj \"" ++ p.cname ++ "\"\n" ++
      String.ofList (List.replicate (2 + getterHead.length) ' ') ++ "return result)"
    setter := "(\\obj val -> objectSetProperty obj \"" ++ p.cname ++ "\" (" ++ tag ++ " val))" }

/-- The attribute of a pair of accessors. -/
def ofAccessors (symbols : SymbolTable) (settings : Settings) (obj : Object) (pair : Accessors) :
    Except Refusal Attribute := do
  let result ← marshalResult symbols settings pair.getter.cname false pair.getter.returnType
  return {
    name := nameFor obj pair.name
    type := result.type
    getter := Name.ofFunction settings pair.getter.cname
    setter := Name.ofFunction settings pair.setter.cname }

/-- The attribute of a property, however it is read and written. -/
def ofImpl (symbols : SymbolTable) (settings : Settings) (obj : Object) :
    PropertyImpl → Except Refusal Attribute
  | .declared p => ofProperty symbols settings obj p
  | .accessors pair => ofAccessors symbols settings obj pair

/-- The signature of an attribute. An object type that may have subclasses stands as a type
variable with a class constraint. -/
def signature (settings : Settings) (obj : Object) (a : Attribute) : String :=
  let type := parenthesized a.type.render
  if settings.isLeaf obj.cname then a.name ++ " :: Attr " ++ obj.name ++ " " ++ type
  else a.name ++ " :: " ++ obj.name ++ "Class self => Attr self " ++ type

/-- The text of an attribute: comment, signature and equation. -/
def render (ctx : DocContext) (obj : Object) (doc : Option MemberDoc) (a : Attribute) :
    Except Fault String := do
  let comment ← ctx.comment (MemberDoc.paragraphsOf doc)
  return comment ++ a.signature ctx.settings obj ++ "\n" ++ a.name ++ " = Attr" ++
    indent 1 ++ a.getter ++ indent 1 ++ a.setter

end Attribute

end BindingGen

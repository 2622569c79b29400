/-
# The properties of an object

A property is read and written through the object system, unless the object has a pair of methods
that get and set it. Every such pair that belongs to no declared property makes one more property,
in the order of their names after the declared ones.

Key definitions: `Accessors`, `Object.accessorPairs`, `PropertyImpl`, `PropertyEntry`,
`Object.propertyEntries`.
-/
import BindingGen.Api
import BindingGen.Doc
import BindingGen.Name
import BindingGen.Table

namespace BindingGen

/-- A method that gets a value and one that sets it. -/
structure Accessors where
  getter : Method
  setter : Method
  deriving DecidableEq

/-- The name of a method without its first three characters, `Get` or `Set`. -/
def Method.suffix (m : Method) : String := String.ofList (m.name.toList.drop 3)

/-- The name of the value that a pair of methods gets and sets. -/
def Accessors.name (pair : Accessors) : String := pair.getter.suffix

/-- How a property is read and written. -/
inductive PropertyImpl where
  | declared (property : Property)
  | accessors (pair : Accessors)
  deriving DecidableEq

/-- The name of a property. -/
def PropertyImpl.name : PropertyImpl → String
  | .declared property => property.name
  | .accessors pair => pair.name

/-- A property to be bound, with its documentation. -/
structure PropertyEntry where
  impl : PropertyImpl
  doc : Option MemberDoc
  deriving DecidableEq

/-- The documentation of a pair of methods that belongs to no declared property. -/
def Accessors.doc (pair : Accessors) : MemberDoc where
  name := ""
  paragraphs :=
    [.text [.text ("'" ++ Name.lowerFirst pair.name ++ "' property. See "),
      .functionRef pair.getter.cname, .text " and ", .functionRef pair.setter.cname]]

/-- Whether two methods have the shape of accessors: one takes nothing, the other takes a value
and returns nothing. -/
def isAccessorShape (getter setter : Method) : Bool :=
  getter.parameters.length == 0 && setter.parameters.length == 1 && setter.returnType == "void"

namespace Object

variable (obj : Object)

/-- The methods that are not deprecated and whose names start in a given way. -/
def methodsStarting (start : String) : List Method :=
  obj.methods.filter fun m => !m.deprecated && Text.startsWith start m.name

/-- The pairs of methods that get and set a value, in the order of the getters. -/
def accessorPairs : List Accessors :=
  (obj.methodsStarting "Get").filterMap fun getter =>
    match (obj.methodsStarting "Set").find? fun s => s.suffix = getter.suffix with
    | some setter => if isAccessorShape getter setter then some ⟨getter, setter⟩ else none
    | none => none

/-- The pair that gets and sets a value. -/
def accessors? (name : String) : Option Accessors := firstNamed? (·.name) name obj.accessorPairs

/-- The documentation of a member by its C name, which may be spelled with dashes. -/
def memberDoc? (docs : List MemberDoc) (cname : String) : Option MemberDoc :=
  firstNamed? (fun d => Name.dashless d.name) (Name.dashless cname) docs

/-- A declared property: its accessors if the object has them. -/
def declaredEntry (docs : List MemberDoc) (p : Property) : PropertyEntry where
  impl := (obj.accessors? p.name).elim (.declared p) .accessors
  doc := memberDoc? docs p.cname

/-- The names of the values that have accessors and are not declared, in order. -/
def undeclaredNames : List String :=
  ((obj.accessorPairs.map (·.name)).filter fun name =>
    !(obj.properties.map (·.name)).contains name).eraseDups.mergeSort

/-- The properties that are bound. -/
def propertyEntries (docs : List MemberDoc) : List PropertyEntry :=
  obj.properties.map (obj.declaredEntry docs) ++
    (obj.undeclaredNames.filterMap obj.accessors?).map fun pair =>
      { impl := .accessors pair, doc := some pair.doc }

end Object
end BindingGen

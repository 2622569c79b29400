/-
# The declarations of a C library

An API is a list of namespaces, each with object types and their members, enumerations, and other
named types. A C name may be declared more than once.

Key definitions: `Parameter`, `Method`, `Constructor`, `Property`, `Signal`, `Object`, `Variety`,
`Enumeration`, `MiscKind`, `Misc`, `Namespace`, `Api`.
-/
import BindingGen.Fault

namespace BindingGen

/-- A parameter of a C function, or the mark of a variable argument list. -/
structure Parameter where
  type : String
  name : String
  isVarargs : Bool := false
  deriving DecidableEq

/-- A function that belongs to an object type. A shared method takes no object of it. -/
structure Method where
  name : String
  cname : String
  returnType : String
  parameters : List Parameter := []
  shared : Bool := false
  deprecated : Bool := false
  deriving DecidableEq

/-- A function that makes an object. -/
structure Constructor where
  name : String
  cname : String
  parameters : List Parameter := []
  deriving DecidableEq

/-- A named value that an object carries. -/
structure Property where
  name : String
  cname : String
  type : String
  deriving DecidableEq

/-- An event that an object emits, with the type of its handlers. -/
structure Signal where
  name : String
  cname : String
  returnType : String := "void"
  parameters : List Parameter := []
  deriving DecidableEq

/-- An object type with its members. An empty parent means none. -/
structure Object where
  name : String
  cname : String
  parent : String := ""
  interfaces : List String := []
  constructors : List Constructor := []
  methods : List Method := []
  properties : List Property := []
  signals : List Signal := []
  deprecated : Bool := false
  deriving DecidableEq

/-- Whether the members of an enumeration exclude one another or are combined. -/
inductive Variety where
  | choice
  | flags
  deriving DecidableEq

/-- The variety of a name. -/
def Variety.ofName (name : String) : Except Fault Variety :=
  if name = "enum" then .ok .choice
  else if name = "flags" then .ok .flags
  else .error (.unknownVariety name)

/-- A constant of an enumeration. -/
structure EnumMember where
  name : String
  cname : String
  deriving DecidableEq

/-- An enumeration with its constants. -/
structure Enumeration where
  name : String
  cname : String
  variety : Variety := .choice
  members : List EnumMember := []
  deriving DecidableEq

/-- What a named type that is neither an object nor an enumeration is. -/
inductive MiscKind where
  | struct
  | boxed
  | classStruct
  | typeAlias
  | callback
  | unknown (kind : String)
  deriving DecidableEq

/-- The kind of a name. -/
def MiscKind.ofName (name : String) : MiscKind :=
  if name = "struct" then .struct
  else if name = "boxed" then .boxed
  else if name = "class" then .classStruct
  else if name = "alias" then .typeAlias
  else if name = "callback" then .callback
  else .unknown name

/-- A named type that is neither an object nor an enumeration. -/
structure Misc where
  kind : MiscKind
  name : String
  cname : String
  deriving DecidableEq

/-- The declarations of one namespace. -/
structure Namespace where
  name : String
  objects : List Object := []
  enums : List Enumeration := []
  misc : List Misc := []
  deriving DecidableEq

/-- The declarations of a library. -/
abbrev Api := List Namespace

/-- Whether a parameter list goes on without an end. -/
def hasVarargs (parameters : List Parameter) : Bool := parameters.any (·.isVarargs)

namespace Api

/-- The declared objects, in order of declaration. -/
def declared (api : Api) : List Object := api.flatMap (·.objects)

end Api
end BindingGen

/-
# Haskell types

The Haskell types that C types are given: a name, a name that may be absent, or a list of flags.

Key definitions: `HsType`, `HsType.render`, `parenthesized`.
-/
import BindingGen.Text.Search

namespace BindingGen

/-- A Haskell type. -/
inductive HsType where
  | plain (name : String)
  | nullable (name : String)
  | flags (name : String)
  deriving DecidableEq

/-- The text of a Haskell type. -/
def HsType.render : HsType → String
  | .plain name => name
  | .nullable name => "Maybe " ++ name
  | .flags name => "[" ++ name ++ "]"

/-- The type of a value that carries nothing. -/
def HsType.unit : HsType := .plain "()"

/-- The type of a pointer to nothing in particular. -/
def HsType.pointer : HsType := .plain "Ptr ()"

/-- The type of a text. -/
def HsType.string : HsType := .plain "String"

/-- A type as an argument of another: between parentheses if it has several words and does not
open with a bracket. -/
def parenthesized (type : String) : String :=
  if type.toList.contains ' ' && !Text.startsWith "(" type && !Text.startsWith "[" type then
    "(" ++ type ++ ")"
  else type

end BindingGen

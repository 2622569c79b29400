/-
# Symbols

What a C name stands for. An object type carries the names of its ancestors, its own first.

Key definitions: `CSymbol`, `SymbolTable`.
-/
import BindingGen.Api
import BindingGen.Table

namespace BindingGen

/-- What a C name stands for. -/
inductive CSymbol where
  | enumeration (variety : Variety)
  | enumValue
  | object (ancestors : List String)
  | struct
  | boxed
  | classStruct
  | typeAlias
  | callback
  deriving DecidableEq

/-- The symbols of a library by their C names. -/
abbrev SymbolTable := List (String × CSymbol)

end BindingGen

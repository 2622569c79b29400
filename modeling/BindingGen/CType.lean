/-
# C types

A C type is a base name under some pointers, constant or not. Its spelling is put into a normal
form first: blanks in front of a star are dropped and any other run of blanks is one space.

Key definitions: `CType`, `CType.normalize`, `CType.parse`.
-/
import BindingGen.Text.Blank
import BindingGen.Text.Search

namespace BindingGen

/-- A C type: its base name, how many pointers lead to it, and whether it is constant. -/
structure CType where
  base : String
  depth : Nat
  isConst : Bool
  deriving DecidableEq

namespace CType

open Text

/-- A text without the blanks in front of its stars. -/
def tightenStars : List Char → List Char
  | [] => []
  | c :: rest =>
    if isBlank c && (rest.dropWhile isBlank).head? == some '*' then tightenStars rest
    else c :: tightenStars rest

/-- The normal form of a spelling. -/
def normalForm (spelling : List Char) : List Char :=
  collapseBlanks (tightenStars (strip
    (replaceAll 'c' "onst-".toList "const ".toList spelling)))

/-- The normal form of a spelling. -/
def normalize (spelling : String) : String := String.ofList (normalForm spelling.toList)

/-- The type that a normal form spells. -/
def ofNormal (normal : List Char) : CType :=
  let isConst := "const ".toList.isPrefixOf normal
  let rest := if isConst then normal.drop 6 else normal
  { base := String.ofList (dropEndWhile (· = '*') rest)
    depth := (takeEndWhile (· = '*') rest).length
    isConst }

/-- The type that a spelling stands for. -/
def parse (spelling : String) : CType := ofNormal (normalForm spelling.toList)

end CType
end BindingGen

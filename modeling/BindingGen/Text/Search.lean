/-
# Finding a text in a text

A non-empty separator, given by its first character and the rest, cuts a text at its occurrences
from left to right, none of which overlap. Replacement joins the cut parts again.

Key definitions: `cut`, `pieces`, `replaceAll`, `startsWith`.
-/

namespace BindingGen.Text

/-- Puts `c` in front of the first part. -/
def consToFirst (c : Char) : List (List Char) → List (List Char)
  | [] => [[c]]
  | part :: parts => (c :: part) :: parts

/-- The parts of a text between the occurrences of the separator `s :: sep`; the first `skip`
characters are the rest of an occurrence that began before them. -/
def cutFrom (s : Char) (sep : List Char) : Nat → List Char → List (List Char)
  | _, [] => [[]]
  | skip + 1, _ :: rest => cutFrom s sep skip rest
  | 0, c :: rest =>
    if c = s && sep.isPrefixOf rest then [] :: cutFrom s sep sep.length rest
    else consToFirst c (cutFrom s sep 0 rest)

/-- The parts of a text between the occurrences of the separator `s :: sep`, empty ones
included. -/
def cut (s : Char) (sep text : List Char) : List (List Char) := cutFrom s sep 0 text

/-- The non-empty parts of a text between the occurrences of the separator `s :: sep`. -/
def pieces (s : Char) (sep text : List Char) : List (List Char) :=
  (cut s sep text).filter fun p => !p.isEmpty

/-- A text with every occurrence of `s :: sep` replaced. -/
def replaceAll (s : Char) (sep replacement text : List Char) : List Char :=
  replacement.intercalate (cut s sep text)

/-- Whether a text starts with another. -/
def startsWith (start text : String) : Bool := start.toList.isPrefixOf text.toList

end BindingGen.Text

/-
# Blank characters

The white space of Unicode together with the four separator controls, and the trimming of texts
by it. `words` splits a text at its blank runs, `collapseBlanks` writes each run as one space.

Key definitions: `isBlank`, `strip`, `stripRight`, `words`, `collapseBlanks`.
-/
import BindingGen.Text.CodeRange

namespace BindingGen.Text

/-- The codes of the blank characters. -/
def blankRanges : List (Nat × Nat) :=
  [(0x09, 0x0d), (0x1c, 0x20), (0x85, 0x85), (0xa0, 0xa0), (0x1680, 0x1680), (0x2000, 0x200a),
   (0x2028, 0x2029), (0x202f, 0x202f), (0x205f, 0x205f), (0x3000, 0x3000)]

/-- Whether a character is white space. -/
def isBlank (c : Char) : Bool := inRanges blankRanges c.toNat

/-- `l` without the longest end run of elements that satisfy `p`. -/
def dropEndWhile {α : Type} (p : α → Bool) (l : List α) : List α :=
  (l.reverse.dropWhile p).reverse

/-- The longest end run of elements of `l` that satisfy `p`. -/
def takeEndWhile {α : Type} (p : α → Bool) (l : List α) : List α :=
  (l.reverse.takeWhile p).reverse

/-- A list is cut in two where its end run starts. -/
theorem dropEndWhile_append_takeEndWhile {α : Type} (p : α → Bool) (l : List α) :
    dropEndWhile p l ++ takeEndWhile p l = l := by
  rw [dropEndWhile, takeEndWhile, ← List.reverse_append, List.takeWhile_append_dropWhile,
    List.reverse_reverse]

/-- A text without blank characters at its end. -/
def stripRight (text : List Char) : List Char := dropEndWhile isBlank text

/-- A text without blank characters at its start and its end. -/
def strip (text : List Char) : List Char := stripRight (text.dropWhile isBlank)

/-- Whether a text holds blank characters only. -/
def allBlank (text : List Char) : Bool := text.all isBlank

/-- The words of a text: its maximal parts without a blank character. -/
def words (text : List Char) : List (List Char) :=
  (text.splitOnP isBlank).filter fun w => !w.isEmpty

/-- A text with each run of blank characters written as one space. -/
def collapseBlanks : List Char → List Char
  | [] => []
  | c :: rest =>
    if isBlank c then
      if rest.head?.any isBlank then collapseBlanks rest else ' ' :: collapseBlanks rest
    else c :: collapseBlanks rest

end BindingGen.Text

/-
# Documentation comments

A paragraph becomes lines: words are wrapped to the width of the page less the three columns in
front of a comment line, a program keeps its lines behind a mark, a title is one line. The comment
of a declaration joins the paragraphs that are not blank with an empty line between them, and ends
with a bare comment line.

Key definitions: `wrapWords`, `DocContext.paragraphLines`, `commentLines`, `DocContext.comment`.
-/
import BindingGen.Haddock.Markup
import BindingGen.Text.LineBreak
import BindingGen.Text.Wrap

namespace BindingGen

open Text

/-- The column in which the text of a comment starts. -/
def commentColumn : Nat := 3

/-- The first line from column `column` on; a negative column counts from its end. -/
def fromColumn (column : Int) (line : List Char) : List Char :=
  if column < 0 then line.drop (line.length - column.natAbs) else line

/-- The lines that words fill at a width, where the first line starts in a later column. No words
fill one empty line; words that are all blank fill none, which is a fault. -/
def wrapWords (words : List String) (width column : Int) : Except Fault (List String) :=
  if words.isEmpty then .ok [""]
  else
    match wrapLines width.toNat column.toNat (" ".intercalate words).toList with
    | [] => .error .noLines
    | first :: rest => .ok ((fromColumn column first :: rest).map String.ofList)

/-- Whether every character of every line is blank. -/
def blankLines (lines : List String) : Bool := lines.all fun line => allBlank line.toList

/-- A line without blanks at its end. -/
def trimLine (line : String) : String := String.ofList (stripRight line.toList)

/-- The lines of a comment that holds `content`. -/
def commentLines : List String → List String
  | [] => []
  | first :: rest =>
    trimLine ("-- | " ++ first) :: (rest.map fun line => trimLine ("-- " ++ line)) ++ ["--"]

/-- The content of a comment: the blocks that are not blank, an empty line between them. -/
def commentContent (blocks : List (List String)) : List String :=
  [""].intercalate (blocks.filter fun block => !blankLines block)

namespace DocContext

variable (ctx : DocContext)

/-- The lines of a list of spans at a width. -/
def wrapSpans (spans : List Span) (width : Int) : Except Fault (List String) := do
  wrapWords (← ctx.words spans) width commentColumn

/-- The width of a paragraph. -/
def paragraphWidth : Int := ctx.settings.lineWidth - commentColumn

/-- The lines of a paragraph. -/
def paragraphLines : Para → Except Fault (List String)
  | .text spans => ctx.wrapSpans spans ctx.paragraphWidth
  | .program text => .ok ((splitLines text.toList).map fun line => "> " ++ String.ofList line)
  | .title title => .ok ["* " ++ escape title]
  | .definition term spans => do
    let term ← ctx.spansText term
    wrapWords (("[" ++ term ++ "]") :: (← ctx.words spans)) ctx.paragraphWidth commentColumn
  | .item spans => do
    wrapWords ("*" :: (← ctx.words spans)) ctx.paragraphWidth commentColumn
  | .unknown kind => .error (.unknownKind kind)

/-- The comment of a declaration, empty if the paragraphs say nothing. -/
def comment (paragraphs : List Para) : Except Fault String := do
  let blocks ← paragraphs.mapM ctx.paragraphLines
  return String.join ((commentLines (commentContent blocks)).map (· ++ "\n"))

end DocContext
end BindingGen

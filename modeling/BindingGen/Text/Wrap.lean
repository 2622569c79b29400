/-
# Filling lines

A text is cut into chunks, which are its runs of spaces and the runs between them, and the chunks
are put on lines, each line taking as many as fit. A chunk that is longer than a line gets a line
of its own. Blank chunks are dropped at the end of every line and at the start of every line but
the first, and a line that is left empty is not kept.

Key definitions: `expandTabs`, `chunks`, `fitting`, `fillLines`, `wrapLines`.
-/
import BindingGen.Text.Blank

namespace BindingGen.Text

/-- A text with its tabs written as spaces up to the next multiple of eight columns; `column` is
the column the text starts in. -/
def expandTabs : Nat → List Char → List Char
  | _, [] => []
  | column, c :: rest =>
    if c = '\t' then
      List.replicate (8 - column % 8) ' ' ++ expandTabs (column + (8 - column % 8)) rest
    else if c = '\n' || c = '\r' then c :: expandTabs 0 rest
    else c :: expandTabs (column + 1) rest

/-- The white space of ASCII. -/
def isAsciiBlank (c : Char) : Bool := (0x09 ≤ c.toNat && c.toNat ≤ 0x0d) || c = ' '

/-- A text on one line: tabs expanded and every other white space of ASCII a space. -/
def flattenSpace (text : List Char) : List Char :=
  (expandTabs 0 text).map fun c => if isAsciiBlank c then ' ' else c

/-- The maximal runs of spaces of a text and the runs between them, in order. -/
def chunks (text : List Char) : List (List Char) :=
  text.splitBy fun a b => (a = ' ') == (b = ' ')

/-- How many of the first chunks fit into `room` together. -/
def fitting : Nat → List (List Char) → Nat
  | _, [] => 0
  | room, chunk :: rest =>
    if chunk.length ≤ room then fitting (room - chunk.length) rest + 1 else 0

/-- The chunks without a blank one at the start. -/
def dropBlankFirst : List (List Char) → List (List Char)
  | [] => []
  | chunk :: rest => if allBlank chunk then rest else chunk :: rest

/-- The chunks without a blank one at the end. -/
def dropBlankLast (line : List (List Char)) : List (List Char) :=
  (dropBlankFirst line.reverse).reverse

/-- The chunks that a line starts with: only a line before it lets a blank one be dropped. -/
def lineStart (begun : Bool) (todo : List (List Char)) : List (List Char) :=
  if begun then dropBlankFirst todo else todo

theorem length_lineStart_drop_le (begun : Bool) (n : Nat) (todo : List (List Char)) :
    (lineStart begun (todo.drop n)).length ≤ todo.length := by
  refine Nat.le_trans ?_ (List.length_drop ▸ Nat.sub_le todo.length n)
  cases begun <;> cases todo.drop n with
  | nil => simp [lineStart, dropBlankFirst]
  | cons chunk rest => by_cases h : allBlank chunk <;> simp [lineStart, dropBlankFirst, h]

/-- The lines that the chunks fill. The next line has `room` columns and those after it `width`;
`begun` tells that a line came before it. A line takes the chunks that fit, and at least one. -/
def fillLines (width room : Nat) (begun : Bool) : List (List Char) → List (List Char)
  | [] => []
  | chunk :: rest =>
    let more := fitting room (chunk :: rest) - 1
    let line := dropBlankLast (chunk :: rest.take more)
    if line.isEmpty then fillLines width room begun (lineStart begun (rest.drop more))
    else line.flatten :: fillLines width width true (lineStart true (rest.drop more))
termination_by todo => todo.length
decreasing_by all_goals exact Nat.lt_succ_of_le (length_lineStart_drop_le _ _ _)

/-- The lines of a text at `width` columns, at least one; the first line starts `indent` columns
to the right. -/
def wrapLines (width indent : Nat) (text : List Char) : List (List Char) :=
  fillLines (max width 1) (max width 1 - indent) false (chunks (flattenSpace text))

end BindingGen.Text

/-
# Letter case

Upper, lower and title case of characters. A character may map to several, and the capital sigma
has two lower-case forms: the one for the end of a word stands where a letter comes before it and
none comes after, marks such as accents and apostrophes left aside.

Key definitions: `isUpper`, `upper`, `lower`, `title`, `lowerWithin`, `capitalize`, `upperFirst`,
`lowerFirst`.
-/
import BindingGen.Text.CodeRange
import BindingGen.Text.CaseTable

namespace BindingGen.Text

open CaseTable

/-- Whether a character is an upper-case letter. -/
def isUpper (c : Char) : Bool :=
  if c.toNat < 128 then c.isUpper else inStridedRanges upperRanges c.toNat

/-- Whether a character has a case. -/
def isCased (c : Char) : Bool :=
  if c.toNat < 128 then c.isAlpha else inRanges casedRanges c.toNat

/-- Whether a character is skipped when the letter next to another is looked for. -/
def isCaseIgnorable (c : Char) : Bool := inRanges ignorableRanges c.toNat

/-- The image of a character: as listed, else by a run, else the character itself. -/
def mapCase (special : List (Nat × List Nat)) (runs : List (Nat × Nat × Nat × Nat)) (c : Char) :
    List Char :=
  match special.lookup c.toNat with
  | some codes => codes.map Char.ofNat
  | none => [((runImage? runs c.toNat).map Char.ofNat).getD c]

/-- A character in lower case. -/
def lower (c : Char) : List Char :=
  if c.toNat < 128 then [c.toLower] else mapCase lowerSpecial lowerRuns c

/-- A character in upper case. -/
def upper (c : Char) : List Char :=
  if c.toNat < 128 then [c.toUpper] else mapCase upperSpecial upperRuns c

/-- A character in title case, which is upper case unless listed. -/
def title (c : Char) : List Char :=
  if c.toNat < 128 then [c.toUpper]
  else
    match titleSpecial.lookup c.toNat, runImage? titleRuns c.toNat with
    | some codes, _ => codes.map Char.ofNat
    | none, some n => [Char.ofNat n]
    | none, none => upper c

/-- Whether the first character that counts is a letter. -/
def letterNext (text : List Char) : Bool := (text.dropWhile isCaseIgnorable).head?.any isCased

/-- A character in lower case, between the characters `before` (the nearest first) and `after`. -/
def lowerBetween (before : List Char) (c : Char) (after : List Char) : List Char :=
  if c = 'Σ' then [if letterNext before && !letterNext after then 'ς' else 'σ'] else lower c

/-- A text in lower case that follows the characters `before` (the nearest first). -/
def lowerWithin : List Char → List Char → List Char
  | _, [] => []
  | before, c :: rest => lowerBetween before c rest ++ lowerWithin (c :: before) rest

/-- A text with its first character in title case and the others in lower case. -/
def capitalize : List Char → List Char
  | [] => []
  | c :: rest => title c ++ lowerWithin [c] rest

/-- A text with its first character in upper case. -/
def upperFirst : List Char → List Char
  | [] => []
  | c :: rest => upper c ++ rest

/-- A text with its first character in lower case. -/
def lowerFirst : List Char → List Char
  | [] => []
  | c :: rest => lower c ++ rest

end BindingGen.Text

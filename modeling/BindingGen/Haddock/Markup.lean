/-
# Marked-up words

The text of documentation spans with Haddock's marks: references between quotes, literals between
at signs, emphasis between slashes, and the characters that Haddock reads specially behind a
backslash. The text is then cut into words, and a word that names a truth value, the null pointer,
a function call or a constant is marked up as well.

Key definitions: `DocContext`, `escape`, `DocContext.spanText`, `DocContext.markWord`,
`DocContext.words`.
-/
import BindingGen.Doc
import BindingGen.Fault
import BindingGen.Name
import BindingGen.Symbol.Basic
import BindingGen.Text.Blank

namespace BindingGen

open Text

/-- What documentation is written for: the symbols, the settings, and whether a null pointer is
`Nothing` in the function that is documented. -/
structure DocContext where
  symbols : SymbolTable
  settings : Settings
  nullsHandled : Bool

/-- Whether Haddock reads a character specially. -/
def isSpecial (c : Char) : Bool := "/@<`\"\\".toList.contains c

/-- A text with the special characters behind a backslash. -/
def escape (text : String) : String :=
  String.ofList (text.toList.flatMap fun c => if isSpecial c then ['\\', c] else [c])

namespace DocContext

variable (ctx : DocContext)

/-- A literal between at signs; truth values and the null pointer as Haskell names them. -/
def literal (text : String) : String :=
  if text = "TRUE" then "@True@"
  else if text = "FALSE" then "@False@"
  else if text = "NULL" then if ctx.nullsHandled then "@Nothing@" else "@NULL@"
  else "@" ++ escape text ++ "@"

/-- The text of a span. -/
def spanText : Span → Except Fault String
  | .text text => .ok (escape text)
  | .arg name => .ok ("@" ++ Name.ofParameter name ++ "@")
  | .literal text => .ok (ctx.literal text)
  | .emphasis text => .ok ("/" ++ escape text ++ "/")
  | .functionRef cname => .ok ("'" ++ Name.ofFunction ctx.settings cname ++ "'")
  | .typeRef cname =>
    .ok (if (ctx.symbols.lookup cname).isSome then "'" ++ Name.ofType ctx.settings cname ++ "'"
      else "@" ++ escape cname ++ "@")
  | .otherRef text => .ok ("'" ++ text ++ "'")
  | .unknown kind => .error (.unknownKind kind)

/-- The text of a list of spans. -/
def spansText (spans : List Span) : Except Fault String := do
  return String.join (← spans.mapM ctx.spanText)

end DocContext

/-- Whether a character is punctuation that may follow a word. -/
def isTrailer (c : Char) : Bool := ".,;:)".toList.contains c

/-- Whether a character can stand in the name of a C function. -/
def isCallChar (c : Char) : Bool :=
  ('a' ≤ c && c ≤ 'z') || ('0' ≤ c && c ≤ '9') || c = '_'

/-- The function and the punctuation after it, of a word that spells a call without arguments. -/
def callParts? (word : List Char) : Option (List Char × List Char) :=
  let name := word.takeWhile isCallChar
  match word.dropWhile isCallChar with
  | '(' :: ')' :: trailer =>
    if name.head?.any (fun c => 'a' ≤ c && c ≤ 'z') && name.contains '_' && trailer.all isTrailer
    then some (name, trailer) else none
  | _ => none

/-- A word without a line break at its end. -/
def dropFinalBreak (word : List Char) : List Char :=
  if word.getLast? = some '\n' then word.dropLast else word

namespace DocContext

variable (ctx : DocContext)

/-- The text of a word, marked up where it names something. The punctuation after the name stays
behind the mark. -/
def markWord (word : String) : Except Fault String :=
  let body := dropFinalBreak word.toList
  match callParts? body with
  | some (name, trailer) =>
    .ok ("'" ++ Name.ofFunction ctx.settings (String.ofList name) ++ "'" ++ String.ofList trailer)
  | none =>
    if body.contains '\n' then .error .brokenWord
    else
      let core := String.ofList (dropEndWhile isTrailer body)
      let trailer := String.ofList (takeEndWhile isTrailer body)
      if core = "TRUE" || core = "FALSE" || core = "NULL" then .ok (ctx.literal core ++ trailer)
      else if ctx.symbols.lookup core = some .enumValue then
        .ok ("'" ++ Name.ofConstant ctx.settings core ++ "'" ++ trailer)
      else .ok word

/-- The words of a list of spans. -/
def words (spans : List Span) : Except Fault (List String) := do
  let text ← ctx.spansText spans
  ((Text.words text.toList).map String.ofList).mapM ctx.markWord

end DocContext
end BindingGen

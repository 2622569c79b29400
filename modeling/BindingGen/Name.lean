/-
# Haskell names of C names

A C name is a list of words between underscores, a type name a list of capitalized words. Haskell
names are in camel case and drop the library's prefix: a known prefix is dropped where an
upper-case letter follows it, the longest such prefix if there are several.

Key definitions: `Name.studly`, `Name.camel`, `Name.dropKnown`, `Name.ofFunction`, `Name.ofType`,
`Name.ofConstant`, `Name.ofParameter`, `Name.legal`.
-/
import BindingGen.Settings
import BindingGen.Fault
import BindingGen.Text.Case
import BindingGen.Text.Search

namespace BindingGen.Name

open Text

/-- The words that Haskell keeps for itself. -/
def keywords : List String :=
  ["case", "class", "data", "default", "deriving", "do", "else", "foreign", "if", "import", "in",
    "infix", "infixl", "infixr", "instance", "let", "module", "newtype", "of", "then", "type",
    "where"]

/-- The types whose C name is their Haskell name. -/
def unprefixedTypes : List String := ["GObject"]

/-- A name with its first character in lower case. -/
def lowerFirst (name : String) : String := String.ofList (Text.lowerFirst name.toList)

/-- A name with its first character in upper case. -/
def upperFirst (name : String) : String := String.ofList (Text.upperFirst name.toList)

/-- The non-empty words between the underscores of a name. -/
def underscoreWords (name : String) : List String :=
  (pieces '_' [] name.toList).map String.ofList

/-- The non-empty parts of a text between the occurrences of a separator. -/
def splitBy (separator text : String) : Except Fault (List String) :=
  match separator.toList with
  | [] => .error .emptySeparator
  | s :: sep => .ok ((pieces s sep text.toList).map String.ofList)

/-- The words of a name put together, each with its first character in upper case. -/
def studly (name : String) : String := String.join ((underscoreWords name).map upperFirst)

/-- Whether `name` can drop the prefix `known`: an upper-case letter follows it. -/
def canDrop (name known : String) : Bool :=
  startsWith known name && (name.toList.drop known.length).head?.any isUpper

/-- The length of the longest of the known prefixes that a name can drop, `0` if it can drop
none. -/
def droppedLength (known : List String) (name : String) : Nat :=
  ((known.filter (canDrop name)).map (·.length)).foldr max 0

/-- A name without the longest of the known prefixes that it can drop. -/
def dropKnown (known : List String) (name : String) : String :=
  String.ofList (name.toList.drop (droppedLength known name))

/-- A name without a start that it may have. -/
def dropStart (start name : String) : String :=
  if startsWith start name then String.ofList (name.toList.drop start.length) else name

/-- The Haskell name of a C function. -/
def ofFunction (settings : Settings) (cname : String) : String :=
  let words := (underscoreWords cname).map settings.fixWord
  lowerFirst (dropKnown settings.knownPrefixes (String.join (words.map upperFirst)))

/-- The Haskell name of a C type. -/
def ofType (settings : Settings) (cname : String) : String :=
  if unprefixedTypes.contains cname then cname else dropKnown settings.knownPrefixes cname

/-- The Haskell name of a C constant. -/
def ofConstant (settings : Settings) (cname : String) : String :=
  let words := (underscoreWords cname).map fun w => String.ofList (capitalize w.toList)
  dropKnown settings.knownPrefixes (String.join words)

/-- The words of a C name in camel case, the first of them in lower case. -/
def camel (cname : String) : String := lowerFirst (studly cname)

/-- A name that is no keyword: a keyword gets a mark at its end. -/
def legal (name : String) : String := if keywords.contains name then name ++ "'" else name

/-- The Haskell variable of a C parameter. -/
def ofParameter (cname : String) : String := legal (camel cname)

/-- A name with underscores for dashes, which signals and properties may be spelled with. -/
def dashless (name : String) : String :=
  String.ofList (name.toList.map fun c => if c = '-' then '_' else c)

end BindingGen.Name

/-
# Type signatures

The types of a function's inputs and of its result, each with its documentation as a comment
behind it. The comments start in one column, to the right of the longest type, and a type behind a
comment starts a new line.

Key definitions: `constraintText`, `typeColumn`, `DocContext.documentedType`,
`DocContext.signature`.
-/
import BindingGen.Haddock.Comment

namespace BindingGen

/-- The class constraints in front of a signature. -/
def constraintText : List String → String
  | [] => ""
  | [constraint] => constraint ++ " => "
  | constraints => "(" ++ ", ".intercalate constraints ++ ") => "

/-- Spaces. -/
def spaces (n : Nat) : String := String.ofList (List.replicate n ' ')

/-- The length of the longest type. -/
def typeColumn (types : List String) : Nat := (types.map (·.length)).foldr max 0

/-- What stands in front of a type: nothing or an indent for the first, an arrow for the others,
on a new line next to a comment. -/
def typeLead (first afterDoc hasDoc : Bool) : String :=
  if first then if hasDoc then "\n    " else ""
  else if afterDoc || hasDoc then "\n -> "
  else " -> "

namespace DocContext

variable (ctx : DocContext)

/-- A type with its documentation behind it. -/
def documentedType (column : Nat) (type : String) : Option (List Span) → Except Fault String
  | none => .ok type
  | some doc => do
    let lines ← ctx.wrapSpans doc (ctx.settings.lineWidth - column - 8)
    return type ++ spaces (column - type.length) ++ " -- ^ " ++
      ("\n" ++ spaces (column + 5) ++ "-- ").intercalate lines

/-- The types from some place on; `afterDoc` tells whether the type before them, if there is one,
has documentation. -/
def signatureFrom (column : Nat) (afterDoc : Option Bool) :
    List (String × Option (List Span)) → Except Fault String
  | [] => .ok ""
  | (type, doc) :: rest => do
    let text ← ctx.documentedType column type doc
    let others ← signatureFrom column (some doc.isSome) rest
    return typeLead afterDoc.isNone (afterDoc.getD false) doc.isSome ++ text ++ others

/-- The types of a signature with their documentation. -/
def signature (types : List (String × Option (List Span))) : Except Fault String :=
  if types.isEmpty then .error .noTypes
  else ctx.signatureFrom (typeColumn (types.map (·.1))) none types

end DocContext
end BindingGen

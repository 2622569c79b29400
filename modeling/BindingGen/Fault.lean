/-
# What can go wrong

A refusal says why one object gets no module; the other objects are not touched by it. Every other
fault ends the whole run. Each fault has at most one message.

Key definitions: `Role`, `Refusal`, `Refusal.message`, `Fault`, `Fault.message?`.
-/
import BindingGen.Text.Quoted

namespace BindingGen

/-- What a C type is the type of. -/
inductive Role where
  | parameter
  | result
  | property
  | signalArgument
  deriving DecidableEq

/-- The words for a role in a message. -/
def Role.label : Role → String
  | .parameter => "parameter"
  | .result => "result"
  | .property => "property"
  | .signalArgument => "signal argument"

/-- Why an object's module is not generated. -/
inductive Refusal where
  /-- A C type has no Haskell counterpart in its role. -/
  | unmarshalable (owner cType : String) (role : Role)
  /-- The parents of an object lead back to a name met before. -/
  | inheritanceCycle (chain : List String)
  /-- A parameter counts as an output but has no code that reads it. -/
  | missingOutGlue
  deriving DecidableEq

/-- The message of a refusal. -/
def Refusal.message : Refusal → String
  | .unmarshalable owner cType role =>
    owner ++ ": unable to marshal " ++ role.label ++ " of type " ++ Text.quoted cType
  | .inheritanceCycle chain => "inheritance cycle: " ++ " -> ".intercalate chain
  | .missingOutGlue => "output parameter without out glue"

/-- Why there is no answer. -/
inductive Fault where
  | refused (refusal : Refusal)
  /-- A span, a paragraph or a type of a kind that is not known. -/
  | unknownKind (kind : String)
  /-- A text is to be split at nothing. -/
  | emptySeparator
  /-- An enumeration of a variety that is not known. -/
  | unknownVariety (name : String)
  /-- A signature without types. -/
  | noTypes
  /-- A version with a numeral that is too long to read. -/
  | numeralTooLong (digits : Nat)
  /-- A word that a line break cuts in two. -/
  | brokenWord
  /-- A paragraph that is given words but fills no line. -/
  | noLines
  deriving DecidableEq

/-- The longest numeral that is read. -/
def longestNumeral : Nat := 4300

/-- The longest quotation of an unknown kind in a message. -/
def longestQuotation : Nat := 100

/-- A quotation, cut where it is too long. -/
def clipped (quotation : String) : String :=
  if quotation.length ≤ longestQuotation then quotation
  else String.ofList (quotation.toList.take longestQuotation) ++ "..."

/-- The message of a fault, if it has one. -/
def Fault.message? : Fault → Option String
  | .refused refusal => some refusal.message
  | .unknownKind kind =>
    some ("Expected code to be unreachable, but got: " ++ clipped (Text.quoted kind))
  | .emptySeparator => some "empty separator"
  | .unknownVariety name => some (Text.quoted name ++ " is not a valid EnumVariety")
  | .noTypes => some "max() arg is an empty sequence"
  | .numeralTooLong digits =>
    some ("Exceeds the limit (" ++ toString longestNumeral ++
      " digits) for integer string conversion: value has " ++ toString digits ++
      " digits; use sys.set_int_max_str_digits() to increase the limit")
  | .brokenWord => none
  | .noLines => none

end BindingGen

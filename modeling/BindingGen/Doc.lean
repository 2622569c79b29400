/-
# Documentation of a library

Documentation is a list of paragraphs, and a paragraph holds spans: text, references and marked-up
text. A module's documentation holds one record per function, property and signal.

Key definitions: `Span`, `Para`, `ParamDoc`, `FunctionDoc`, `MemberDoc`, `ModuleDoc`.
-/

namespace BindingGen

/-- A piece of running text. -/
inductive Span where
  | text (text : String)
  | arg (name : String)
  | literal (text : String)
  | emphasis (text : String)
  | functionRef (cname : String)
  | typeRef (cname : String)
  | otherRef (text : String)
  | unknown (kind : String)
  deriving DecidableEq

/-- A paragraph. -/
inductive Para where
  | text (spans : List Span)
  | program (text : String)
  | title (title : String)
  | definition (term : List Span) (spans : List Span)
  | item (spans : List Span)
  | unknown (kind : String)
  deriving DecidableEq

/-- What is said of one parameter, or of the result under the name `Returns`. -/
structure ParamDoc where
  name : String
  paragraph : List Span := []
  deriving DecidableEq

/-- The documentation of a function. -/
structure FunctionDoc where
  name : String
  paragraphs : List Para := []
  params : List ParamDoc := []
  since : String := ""
  deriving DecidableEq

/-- The documentation of a property or a signal. -/
structure MemberDoc where
  name : String
  paragraphs : List Para := []
  since : String := ""
  deriving DecidableEq

/-- The documentation of a module. -/
structure ModuleDoc where
  name : String
  summary : String := ""
  description : List Para := []
  functions : List FunctionDoc := []
  properties : List MemberDoc := []
  signals : List MemberDoc := []
  since : String := ""
  deriving DecidableEq

/-- A paragraph that is one text. -/
def Para.ofText (text : String) : Para := .text [.text text]

/-- The paragraphs of a function's documentation, none if it has no documentation. -/
def FunctionDoc.paragraphsOf (doc : Option FunctionDoc) : List Para := (doc.map (·.paragraphs)).getD []

/-- The version a function's documentation names, empty if it has no documentation. -/
def FunctionDoc.sinceOf (doc : Option FunctionDoc) : String := (doc.map (·.since)).getD ""

/-- The paragraphs of a member's documentation, none if it has no documentation. -/
def MemberDoc.paragraphsOf (doc : Option MemberDoc) : List Para := (doc.map (·.paragraphs)).getD []

/-- The version a member's documentation names, empty if it has no documentation. -/
def MemberDoc.sinceOf (doc : Option MemberDoc) : String := (doc.map (·.since)).getD ""

end BindingGen

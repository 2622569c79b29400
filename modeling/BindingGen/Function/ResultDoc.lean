/-
# Documentation of parameters and results

The documentation of a function names its parameters, and its result as `Returns`. What is said of
an output belongs to the result. Where several texts are said of one result they are put one after
another behind a label that names the parts, and are left to be merged by hand.

Key definitions: `paramDocs`, `mergeDocs`, `mergeRecords`.
-/
import BindingGen.Doc
import BindingGen.Journal
import BindingGen.Name
import BindingGen.Table

namespace BindingGen

/-- The name that the documentation of a result bears. -/
def resultDocName : String := "Returns"

/-- The spans that introduce a parameter's documentation, and then that documentation. -/
def ParamDoc.spans (d : ParamDoc) : List Span :=
  if d.name = resultDocName then .text "returns " :: d.paragraph
  else .arg d.name :: .text " - " :: d.paragraph

/-- The documentation of a function's parameters by name, without that which is left out. The
first of a name stands. -/
def paramDocs (settings : Settings) (function : String) (doc : Option FunctionDoc) :
    List (String × List Span) :=
  let params := (doc.map (·.params)).getD []
  let kept := params.filter fun d => !settings.isSilenced function (Name.camel d.name)
  firstEntries (kept.map fun d => (d.name, d.spans))

/-- The name of a part of a result in the label: that of the parameter it comes from. -/
def partName : List Span → String
  | .arg name :: _ => Name.camel name
  | _ => "_"

/-- The mark of texts that are to be merged by hand. -/
def mergeMark : String := " \x7bFIXME: merge return value docs\x7d "

/-- The documentation of a result of which `docs` are said. -/
def mergeDocs : List (List Span) → Option (List Span)
  | [] => none
  | [doc] => some doc
  | docs =>
    some (.literal ("(" ++ ", ".intercalate (docs.map partName) ++ ")") :: .text mergeMark ::
      docs.flatten)

/-- What the journal says of a result of which `docs` are said. -/
def mergeRecords (function : String) (docs : List (List Span)) : List Record :=
  if docs.length < 2 then []
  else [⟨.warning, .codegen, function ++ ": return value docs need merging by hand"⟩]

end BindingGen

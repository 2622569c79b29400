/-
# The export list of a module

The names that a module exports: its types, then its members in the sections of the body. Members
that the prior module exported keep its order and come before the others; attributes stay in the
order of their entries.

Key definitions: `Export`, `Object.exportFragments`, `moduleExports`.
-/
import BindingGen.Member.Attribute
import BindingGen.Member.Function
import BindingGen.Member.Signal
import BindingGen.Module.Section

namespace BindingGen

/-- The exports of one member: its names, the version it needs and whether it is deprecated. -/
structure Export where
  names : List String
  since : String := ""
  deprecated : Bool := false
  deriving DecidableEq

namespace Export

/-- The text of the exports of a member. -/
def fragment (e : Export) : Fragment where
  text := "\n".intercalate (e.names.map fun name => "  " ++ name ++ ",")
  since := e.since
  deprecated := e.deprecated

/-- The place of a member's first name in the export list of the prior module; after the end if it
is not there. -/
def place (prior : PriorModule) (e : Export) : Nat :=
  match e.names with
  | [] => prior.exports.length
  | name :: _ => rank id name prior.exports

/-- The exports in the order of the prior module. -/
def inPriorOrder (prior : PriorModule) (exports : List Export) : List Export :=
  exports.mergeSort fun a b => a.place prior ≤ b.place prior

/-- The export of a function. -/
def ofFunction (settings : Settings) (e : FunctionEntry) : Export where
  names := [Name.ofFunction settings e.method.cname]
  since := FunctionDoc.sinceOf e.doc
  deprecated := e.method.deprecated

/-- The export of an attribute. -/
def ofProperty (obj : Object) (e : PropertyEntry) : Export where
  names := [Attribute.nameFor obj e.impl.name]
  since := MemberDoc.sinceOf e.doc

/-- The exports of a signal. -/
def ofSignal (e : SignalEntry) : Export where
  names := e.signal.functionNames
  since := MemberDoc.sinceOf e.doc

end Export

namespace Object

variable (settings : Settings) (obj : Object)

/-- The types that a module exports. -/
def typeExports : List Export :=
  [{ names := [obj.name] }, { names := [obj.name ++ "Class"] }, { names := ["castTo" ++ obj.name] }]

/-- The constructors that a module exports. -/
def constructorExports (doc : ModuleDoc) (prior : PriorModule) : List Export :=
  Export.inPriorOrder prior
    ((obj.constructorEntries settings doc.functions []).map (Export.ofFunction settings))

/-- The methods that a module exports. -/
def methodExports (doc : ModuleDoc) (prior : PriorModule) : List Export :=
  Export.inPriorOrder prior
    ((obj.methodEntries doc.functions prior.calls false).map (Export.ofFunction settings))

/-- The attributes that a module exports. -/
def propertyExports (doc : ModuleDoc) : List Export :=
  (obj.propertyEntries doc.properties).map (Export.ofProperty obj)

/-- The signal functions that a module exports. -/
def signalExports (doc : ModuleDoc) (prior : PriorModule) : List Export :=
  Export.inPriorOrder prior ((obj.signalEntries doc.signals).map Export.ofSignal)

/-- The fragments of the export list, in sections. -/
def exportFragments (doc : ModuleDoc) (prior : PriorModule) : List Fragment :=
  { text := "-- * Types" } :: obj.typeExports.map (·.fragment) ++
    exportSection "Constructors" ((constructorExports settings obj doc prior).map (·.fragment)) ++
    exportSection "Methods" ((methodExports settings obj doc prior).map (·.fragment)) ++
    exportSection "Properties" ((propertyExports obj doc).map (·.fragment)) ++
    exportSection "Signals" ((signalExports obj doc prior).map (·.fragment))

end Object

/-- The text of a module's export list. -/
def moduleExports (settings : Settings) (obj : Object) (doc : ModuleDoc) (prior : PriorModule) :
    Logged String := do
  Logged.tell (obj.constructorRecords ++ obj.methodRecords prior.calls)
  let lifted ← Logged.ofExcept (obj.liftAll doc (obj.exportFragments settings doc prior))
  return guarded settings "\n" lifted

end BindingGen

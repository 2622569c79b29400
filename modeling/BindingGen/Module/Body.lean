/-
# The body of a module

The instances, functions, attributes and signal handlers of an object, in sections. The
definitions are made in the order of the sections, and the first that cannot be made ends the
making of the others.

Key definitions: `Definitions`, `Object.definitions`, `Definitions.fragments`, `moduleBody`.
-/
import BindingGen.Module.Definition
import BindingGen.Module.Section

namespace BindingGen

/-- The definitions of a module, by section. -/
structure Definitions where
  constructors : List Definition
  methods : List Definition
  attributes : List Definition
  connectors : List Definition

namespace Object

variable (symbols : SymbolTable) (settings : Settings) (obj : Object)

/-- The instances of the interfaces that the object implements. -/
def instances : List Fragment :=
  obj.interfaces.map fun i =>
    { text := "instance " ++ Name.ofType settings i ++ "Class " ++ obj.name }

/-- The definitions of the bound constructors. -/
def constructorDefinitions (docs : List FunctionDoc) (priors : List PriorCall) :
    Logged (List Definition) := do
  Logged.tell obj.constructorRecords
  (obj.constructorEntries settings docs priors).mapM (Definition.ofFunction symbols settings true)

/-- The definitions of the bound methods. -/
def methodDefinitions (docs : List FunctionDoc) (priors : List PriorCall) :
    Logged (List Definition) := do
  Logged.tell (obj.methodRecords priors)
  (obj.methodEntries docs priors true).mapM (Definition.ofFunction symbols settings false)

/-- The definitions of the attributes. -/
def attributeDefinitions (docs : List MemberDoc) : Except Fault (List Definition) :=
  (obj.propertyEntries docs).mapM (Definition.ofProperty symbols settings obj)

/-- The definitions of the functions that connect signal handlers. -/
def connectorDefinitions (docs : List MemberDoc) : Except Fault (List Definition) :=
  (obj.signalEntries docs).mapM (Definition.ofSignal symbols settings obj)

/-- The definitions of a module. -/
def definitions (doc : ModuleDoc) (prior : PriorModule) : Logged Definitions := do
  let constructors ← constructorDefinitions symbols settings obj doc.functions prior.calls
  let methods ← methodDefinitions symbols settings obj doc.functions prior.calls
  let attributes ← Logged.ofExcept (attributeDefinitions symbols settings obj doc.properties)
  let connectors ← Logged.ofExcept (connectorDefinitions symbols settings obj doc.signals)
  return { constructors, methods, attributes, connectors }

end Object

/-- The fragments of a body, in sections. -/
def Definitions.fragments (settings : Settings) (obj : Object) (d : Definitions) : List Fragment :=
  bodySection "Interfaces" (Object.instances settings obj) ++
    bodySection "Constructors" (d.constructors.map (·.fragment)) ++
    bodySection "Methods" (d.methods.map (·.fragment)) ++
    bodySection "Properties" (d.attributes.map (·.fragment)) ++
    bodySection "Signals" (d.connectors.map (·.fragment))

/-- The text of a module's body. -/
def moduleBody (symbols : SymbolTable) (settings : Settings) (obj : Object) (doc : ModuleDoc)
    (prior : PriorModule) : Logged String := do
  let d ← Object.definitions symbols settings obj doc prior
  let lifted ← Logged.ofExcept (obj.liftAll doc (d.fragments settings obj))
  return guarded settings "\n\n" lifted

end BindingGen

/-
# The functions of an object

The methods and constructors of an object that are bound, each with its documentation and the call
of the prior module. Functions with a variable argument list are not bound, and a deprecated method
only if the prior module calls it. Methods are ordered by the place of their prior call and that of
their documentation, constructors by the place of their prior call; the first of two records of one
C name stands for it.

Key definitions: `FunctionEntry`, `Object.isBound`, `Object.methodEntries`,
`Object.constructorEntries`, `Object.varargsFunctions`, `Object.expandShortNames`.
-/
import BindingGen.Api
import BindingGen.Doc
import BindingGen.Journal
import BindingGen.Name
import BindingGen.PriorModule
import BindingGen.Table

namespace BindingGen

/-- A function to be bound, with its documentation and its prior call. -/
structure FunctionEntry where
  method : Method
  doc : Option FunctionDoc
  prior : Option PriorCall
  deriving DecidableEq

/-- The order of pairs of places: by the first, then by the second. -/
def placeLe (a b : Nat × Nat) : Bool := a.1 < b.1 || (a.1 == b.1 && a.2 ≤ b.2)

namespace Object

variable (obj : Object)

/-- A method as a function: its name starts with the object's, and it takes the object as its
first parameter unless it is shared. -/
def asFunction (m : Method) : Method :=
  { m with
    name := obj.name ++ m.name
    parameters :=
      if m.shared then m.parameters
      else { type := obj.cname ++ "*", name := "self" } :: m.parameters }

/-- Whether a method is bound. -/
def isBound (priors : List PriorCall) (m : Method) : Bool :=
  !hasVarargs m.parameters && (!m.deprecated || priors.any fun c => c.cname = m.cname)

/-- The places of a C function among the prior calls and among the documentation, in the order in
which they count. -/
def places (docs : List FunctionDoc) (priors : List PriorCall) (priorFirst : Bool)
    (cname : String) : Nat × Nat :=
  let priorPlace := rank (·.cname) cname priors
  let docPlace := rank (·.name) cname docs
  if priorFirst then (priorPlace, docPlace) else (docPlace, priorPlace)

/-- The methods that are bound. -/
def methodEntries (docs : List FunctionDoc) (priors : List PriorCall) (priorFirst : Bool) :
    List FunctionEntry :=
  let place (m : Method) := places docs priors priorFirst m.cname
  let ordered := (obj.methods.filter (isBound priors)).mergeSort fun a b => placeLe (place a) (place b)
  ordered.map fun m =>
    { method := obj.asFunction m
      doc := firstNamed? (·.name) m.cname docs
      prior := firstNamed? (·.cname) m.cname priors }

/-- What the journal says of the methods that are not bound. -/
def methodRecords (priors : List PriorCall) : List Record :=
  obj.methods.flatMap fun m =>
    if hasVarargs m.parameters then
      [⟨.debug, .collate, m.cname ++ ": skipping varargs method"⟩]
    else if isBound priors m then []
    else [⟨.debug, .collate, m.cname ++ ": skipping deprecated method not bound before"⟩]

/-- A constructor as a function: its name is that of the C function, its result the object. -/
def constructorFunction (settings : Settings) (c : Constructor) : Method where
  name := Name.ofFunction settings c.cname
  cname := c.cname
  returnType := obj.cname ++ "*"
  parameters := c.parameters

/-- The documentation of a constructor, which says nothing of its result. -/
def constructorDoc (doc : FunctionDoc) : FunctionDoc :=
  { doc with params := doc.params.filter fun p => p.name != "Returns" }

/-- The constructors that are bound. -/
def constructorEntries (settings : Settings) (docs : List FunctionDoc) (priors : List PriorCall) :
    List FunctionEntry :=
  let place (c : Constructor) := rank (·.cname) c.cname priors
  let bound := obj.constructors.filter fun c => !hasVarargs c.parameters
  (bound.mergeSort fun a b => place a ≤ place b).map fun c =>
    { method := obj.constructorFunction settings c
      doc := (firstNamed? (·.name) c.cname docs).map constructorDoc
      prior := firstNamed? (·.cname) c.cname priors }

/-- What the journal says of the constructors that are not bound. -/
def constructorRecords : List Record :=
  obj.constructors.flatMap fun c =>
    if hasVarargs c.parameters then
      [⟨.debug, .collate, c.cname ++ ": skipping varargs constructor"⟩]
    else []

/-- The functions with a variable argument list. -/
def varargsFunctions : List String :=
  (obj.constructors.filter fun c => hasVarargs c.parameters).map (·.cname) ++
    (obj.methods.filter fun m => hasVarargs m.parameters).map (·.cname)

/-- The C names of an object's functions. -/
def functionNames : List String := obj.constructors.map (·.cname) ++ obj.methods.map (·.cname)

/-- A prior module whose calls have full C names: the context prefix is put in front of a call's
name where that makes it the name of a function of the object. -/
def expandShortNames (prior : PriorModule) : PriorModule :=
  if prior.contextPrefix = "" then prior
  else
    { prior with
      calls := prior.calls.map fun call =>
        let full := prior.contextPrefix ++ "_" ++ call.cname
        if obj.functionNames.contains full then { call with cname := full } else call }

end Object
end BindingGen

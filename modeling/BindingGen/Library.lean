/-
# The modules of a library

Every object of a library gets a module or a reason why it gets none. A refusal concerns one
object; the others are generated as if it were not there.

Key definitions: `Library`, `Api.objects`, `docFor`, `priorFor`, `Generated`, `generateObject`,
`generateAll`, `Library.generate`.
-/
import BindingGen.Module.Basic
import BindingGen.Symbol.Classification

namespace BindingGen

/-- A library to be bound: its declarations, the documentation and the prior modules of its
objects by their C names, and the settings. -/
structure Library where
  api : Api
  docs : List (String × ModuleDoc) := []
  priors : List (String × PriorModule) := []
  settings : Settings := {}

/-- The objects of an API by their C names; the first declaration of a name stands. -/
def Api.objects (api : Api) : List (String × Object) :=
  firstEntries (api.declared.map fun o => (o.cname, o))

/-- The documentation of an object, empty if there is none. -/
def docFor (docs : List (String × ModuleDoc)) (cname : String) : ModuleDoc :=
  (docs.lookup cname).getD { name := cname }

/-- The prior module of an object; without one, the module has the object's name. -/
def priorFor (priors : List (String × PriorModule)) (cname name : String) : PriorModule :=
  (priors.lookup cname).getD { name }

/-- The generated modules and the refusals, by the C names of their objects. -/
structure Generated where
  modules : List (String × GeneratedModule) := []
  failures : List (String × Refusal) := []
  deriving DecidableEq

namespace Generated

/-- The modules and refusals of two lots of objects. -/
def append (a b : Generated) : Generated := ⟨a.modules ++ b.modules, a.failures ++ b.failures⟩

/-- The module or the refusal of one object. -/
def ofObject (cname : String) : Except Refusal GeneratedModule → Generated
  | .ok m => { modules := [(cname, m)] }
  | .error refusal => { failures := [(cname, refusal)] }

end Generated

/-- Turns a refusal into an answer that the journal notes; other faults stay. -/
def catchRefusal (cname : String) (x : Logged GeneratedModule) :
    Logged (Except Refusal GeneratedModule) :=
  match x.outcome with
  | .ok m => ⟨.ok (.ok m), x.records⟩
  | .error (.refused refusal) =>
    ⟨.ok (.error refusal), x.records ++
      [⟨.error, .codegen, cname ++ ": generation failed: " ++ refusal.message⟩]⟩
  | .error fault => ⟨.error fault, x.records⟩

/-- Generates the module of an object, which fails if its parents form a cycle. -/
def generateObject (library : Library) (symbols : SymbolTable) (cycles : List (String × List String))
    (cname : String) (obj : Object) : Logged Generated :=
  match cycles.lookup cname with
  | some chain => pure (.ofObject cname (.error (.inheritanceCycle chain)))
  | none =>
    .ofObject cname <$> catchRefusal cname
      (generateModule symbols library.settings obj (docFor library.docs cname)
        (priorFor library.priors cname obj.name))

/-- Generates the modules of the given objects. -/
def generateAll (library : Library) (symbols : SymbolTable) (cycles : List (String × List String)) :
    List (String × Object) → Logged Generated
  | [] => pure {}
  | (cname, obj) :: rest => do
    let first ← generateObject library symbols cycles cname obj
    let others ← generateAll library symbols cycles rest
    return first.append others

/-- Generates the modules of a library. -/
def Library.generate (library : Library) : Logged Generated := do
  let c ← (classify library.settings true library.api).logged
  generateAll library c.symbols c.failures library.api.objects

end BindingGen

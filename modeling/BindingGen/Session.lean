/-
# Sessions

A session holds a library that may be edited while its modules are generated. The objects and the
symbols are computed when they are first asked for and then kept, whatever is edited later; the
failures are those that were met while the symbols were computed, also where that ended in a fault.

Key definitions: `Session`, `Session.Query`, `Session.Answer`, `Session.ask`, `Session.Edit`,
`Session.edit`.
-/
import BindingGen.Library

namespace BindingGen

/-- A library with what was computed of it. -/
structure Session where
  library : Library
  objects? : Option (List (String × Object)) := none
  symbols? : Option SymbolTable := none
  failures : List (String × List String) := []

namespace Session

/-- What a session is asked. -/
inductive Query where
  | objects
  | symbols
  | failures
  | docFor (cname : String)
  | priorFor (cname name : String)
  | generate
  deriving DecidableEq

/-- What a session answers. -/
inductive Answer where
  | objects (objects : List (String × Object))
  | symbols (symbols : SymbolTable)
  | failures (failures : List (String × List String))
  | doc (doc : ModuleDoc)
  | prior (prior : PriorModule)
  | generated (generated : Generated)
  deriving DecidableEq

/-- A change of a session's library. -/
inductive Edit where
  | addNamespace (ns : Namespace)
  | setSettings (settings : Settings)
  | setDoc (cname : String) (doc : ModuleDoc)
  | setPrior (cname : String) (prior : PriorModule)

/-- The objects of the session. -/
def objects (s : Session) : List (String × Object) := s.objects?.getD s.library.api.objects

/-- The session with its objects kept. -/
def keepObjects (s : Session) : Session := { s with objects? := some s.objects }

/-- The symbols of the session, and the session that keeps them. -/
def readSymbols (s : Session) : Logged SymbolTable × Session :=
  match s.symbols? with
  | some symbols => (pure symbols, s)
  | none =>
    let c := classify s.library.settings true s.library.api
    ((·.symbols) <$> c.logged,
      { s with
        symbols? := if c.fault?.isSome then none else some c.symbols
        failures := firstEntries (s.failures ++ c.failures) })

/-- Generates the modules of the session's objects. -/
def generate (s : Session) : Logged Generated × Session :=
  let (symbols, read) := s.readSymbols
  let kept := if symbols.outcome.isOk then read.keepObjects else read
  (do generateAll kept.library (← symbols) kept.failures kept.objects, kept)

/-- The answer to a query, and the session after it. -/
def ask (s : Session) : Query → Logged Answer × Session
  | .objects => (pure (.objects s.objects), s.keepObjects)
  | .symbols => (.symbols <$> s.readSymbols.1, s.readSymbols.2)
  | .failures => (pure (.failures s.failures), s)
  | .docFor cname => (pure (.doc (BindingGen.docFor s.library.docs cname)), s)
  | .priorFor cname name => (pure (.prior (BindingGen.priorFor s.library.priors cname name)), s)
  | .generate => (.generated <$> s.generate.1, s.generate.2)

/-- The library after a change. -/
def editLibrary (l : Library) : Edit → Library
  | .addNamespace ns => { l with api := l.api ++ [ns] }
  | .setSettings settings => { l with settings }
  | .setDoc cname doc => { l with docs := (cname, doc) :: l.docs }
  | .setPrior cname prior => { l with priors := (cname, prior) :: l.priors }

/-- The session after a change; what was computed stays. -/
def edit (s : Session) (e : Edit) : Session := { s with library := editLibrary s.library e }

end Session
end BindingGen

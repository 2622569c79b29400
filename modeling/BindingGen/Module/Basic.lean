/-
# Generated modules

A module has a name, an export list, imports, a body, and a note of the functions that were not
bound.

Key definitions: `moduleImports`, `moduleTodo`, `GeneratedModule`, `generateModule`,
`GeneratedModule.render`.
-/
import BindingGen.Module.Body
import BindingGen.Module.Exports

namespace BindingGen

/-- The import lines of a module: those of the prior module, or the default ones if it has none.
Lines for standard modules come first. -/
def moduleImports (settings : Settings) (prior : PriorModule) : String :=
  let isStandard (line : String × String) : Bool := settings.standardModules.contains line.1
  let standard :=
    if prior.imports.isEmpty then settings.standardImports
    else (prior.imports.filter isStandard).map (·.2)
  let further :=
    if prior.imports.isEmpty then settings.furtherImports
    else (prior.imports.filter fun line => !isStandard line).map (·.2)
  (if standard.isEmpty then "" else "\n".intercalate standard ++ "\n\n") ++
    "\n".intercalate further

/-- The note of the functions that were not bound. -/
def moduleTodo (obj : Object) : String :=
  let names := obj.varargsFunctions
  if names.isEmpty then ""
  else
    "\n-- TODO: the following varargs functions were not bound\n" ++
      "\n".intercalate (names.map ("--   " ++ ·)) ++ "\n--"

/-- The parts of a generated module. -/
structure GeneratedModule where
  name : String
  exports : String
  imports : String
  body : String
  todo : String
  deriving DecidableEq

/-- The text of a module. -/
def GeneratedModule.render (m : GeneratedModule) : String :=
  "module " ++ m.name ++ " (\n" ++ m.exports ++ "\n  ) where\n\n" ++ m.imports ++ "\n\n" ++
    m.body ++ "\n" ++ m.todo ++ "\n"

/-- The module of an object. -/
def generateModule (symbols : SymbolTable) (settings : Settings) (obj : Object) (doc : ModuleDoc)
    (prior : PriorModule) : Logged GeneratedModule := do
  let prior := obj.expandShortNames prior
  let exports ← moduleExports settings obj doc prior
  let body ← moduleBody symbols settings obj doc prior
  return {
    name := if prior.name = "" then obj.name else prior.name
    exports
    imports := moduleImports settings prior
    body
    todo := moduleTodo obj }

end BindingGen

/-
# The module as it stood before

A module is generated again when its library changes. What the module held before decides the
order of its members, which deprecated functions it keeps, how its calls are spelled and what it
imports.

Key definitions: `PriorCall`, `PriorModule`.
-/

namespace BindingGen

/-- A call that the module makes: the C function, the name the call hook has for it where that
is shorter, and whether the call is unsafe. -/
structure PriorCall where
  cname : String
  shortName : Option String := none
  isUnsafe : Bool := false
  deriving DecidableEq

/-- The name that the call hook uses: the short one unless it is missing or empty. -/
def PriorCall.hookName (call : PriorCall) : String :=
  match call.shortName with
  | some short => if short = "" then call.cname else short
  | none => call.cname

/-- The module as it stood before: its name, the prefix that its calls leave out, its calls, its
export list and its import lines with the modules they name. -/
structure PriorModule where
  name : String := ""
  contextPrefix : String := ""
  calls : List PriorCall := []
  exports : List String := []
  imports : List (String × String) := []
  deriving DecidableEq

end BindingGen

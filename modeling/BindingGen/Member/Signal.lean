/-
# The signals of an object

Every signal is bound, with its documentation.

Key definitions: `SignalEntry`, `Object.signalEntries`, `Signal.studlyName`,
`Signal.functionNames`.
-/
import BindingGen.Member.Property

namespace BindingGen

/-- A signal to be bound, with its documentation. -/
structure SignalEntry where
  signal : Signal
  doc : Option MemberDoc
  deriving DecidableEq

/-- The signals that are bound. -/
def Object.signalEntries (obj : Object) (docs : List MemberDoc) : List SignalEntry :=
  obj.signals.map fun s => { signal := s, doc := Object.memberDoc? docs s.cname }

/-- The name that follows `on` and `after` in the names of a signal's functions. -/
def Signal.studlyName (s : Signal) : String := Name.studly (Name.dashless s.cname)

/-- The names of the functions that connect a handler to a signal, before and after those of the
object. -/
def Signal.functionNames (s : Signal) : List String :=
  ["on" ++ s.studlyName, "after" ++ s.studlyName]

end BindingGen

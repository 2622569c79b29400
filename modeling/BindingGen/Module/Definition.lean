/-
# Definitions of a module

What the body of a module defines: functions, attributes and the functions that connect signal
handlers. A definition knows its names, its text, the version it needs and whether it is
deprecated.

Key definitions: `Defined`, `Defined.names`, `Definition`, `Definition.fragment`,
`Definition.ofFunction`, `Definition.ofProperty`, `Definition.ofSignal`.
-/
import BindingGen.Function.Binding
import BindingGen.Guard
import BindingGen.Member.Attribute
import BindingGen.Member.Function
import BindingGen.Member.Handler

namespace BindingGen

/-- What is defined. -/
inductive Defined where
  | function (binding : Binding)
  | attr (attr : Attribute)
  | connectors (signal : Signal) (handler : Handler)

/-- The names that are defined. -/
def Defined.names : Defined → List String
  | .function b => [b.name]
  | .attr a => [a.name]
  | .connectors s _ => s.functionNames

/-- A definition: what it defines, its text, the version it needs, and whether it is
deprecated. -/
structure Definition where
  defined : Defined
  text : String
  since : String := ""
  deprecated : Bool := false

namespace Definition

/-- A definition as a part of a module. -/
def fragment (d : Definition) : Fragment where
  text := d.text
  since := d.since
  deprecated := d.deprecated

variable (symbols : SymbolTable) (settings : Settings) (obj : Object)

/-- The definition of a function. -/
def ofFunction (isConstructor : Bool) (e : FunctionEntry) : Logged Definition := do
  let b ← Logged.ofExcept
    ((Binding.ofMethod symbols settings isConstructor e.method e.doc e.prior).mapError .refused)
  let text ← b.write symbols settings
  return {
    defined := .function b
    text
    since := FunctionDoc.sinceOf e.doc
    deprecated := e.method.deprecated }

/-- The definition of an attribute. -/
def ofProperty (e : PropertyEntry) : Except Fault Definition := do
  let a ← (Attribute.ofImpl symbols settings obj e.impl).mapError .refused
  let text ← a.render ⟨symbols, settings, false⟩ obj e.doc
  return { defined := .attr a, text, since := MemberDoc.sinceOf e.doc }

/-- The definition of the functions that connect a handler to a signal. -/
def ofSignal (e : SignalEntry) : Except Fault Definition := do
  let h ← (Handler.ofSignal symbols settings obj e.signal).mapError .refused
  let text ← h.render ⟨symbols, settings, false⟩ obj e.signal e.doc
  return { defined := .connectors e.signal h, text, since := MemberDoc.sinceOf e.doc }

end Definition
end BindingGen

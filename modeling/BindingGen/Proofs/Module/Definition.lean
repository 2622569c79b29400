/-
# What the body of a module is made of

A body is generated where each of its parts is: the definition of every member, the version of every
fragment. Each statement below tells when one part is made, and what it is then.

Key theorems: `Definition.ofFunction_eq_ok_iff`, `Definition.ofProperty_eq_ok_iff`,
`Definition.ofSignal_eq_ok_iff`, `Object.definitions_eq_ok_iff`, `moduleBody_eq_ok_iff`.
-/
import BindingGen.Module.Body
import BindingGen.Proofs.Outcome

namespace BindingGen

/-! ### Definitions -/

namespace Definition

variable {symbols : SymbolTable} {settings : Settings} {obj : Object} {x : Definition}

/-- A function is defined where it can be bound and written down. -/
theorem ofFunction_eq_ok_iff {isConstructor : Bool} {e : FunctionEntry} :
    (ofFunction symbols settings isConstructor e).outcome = .ok x ↔
      ∃ b text, Binding.ofMethod symbols settings isConstructor e.method e.doc e.prior = .ok b ∧
        b.render ⟨symbols, settings, b.handlesNull settings⟩ = .ok text ∧
        x = ⟨.function b, text, FunctionDoc.sinceOf e.doc, e.method.deprecated⟩ := by
  unfold ofFunction Binding.write
  simp only [Logged.outcome_bind, Logged.outcome_ofExcept, bind_eq_ok_iff, mapError_eq_ok_iff]
  constructor
  · rintro ⟨b, hb, text, ⟨-, -, htext⟩, hx⟩
    exact ⟨b, text, hb, htext, (Except.ok.inj hx).symm⟩
  · rintro ⟨b, text, hb, htext, rfl⟩
    exact ⟨b, hb, text, ⟨(), rfl, htext⟩, rfl⟩

theorem ofMethod_of_defined {isConstructor : Bool} {e : FunctionEntry} {b : Binding}
    (h : (ofFunction symbols settings isConstructor e).outcome = .ok x)
    (hdefined : x.defined = .function b) :
    Binding.ofMethod symbols settings isConstructor e.method e.doc e.prior = .ok b := by
  obtain ⟨b', text, hb, -, rfl⟩ := ofFunction_eq_ok_iff.mp h
  rw [hb, Defined.function.inj hdefined]

theorem ofProperty_eq_ok_iff {e : PropertyEntry} :
    ofProperty symbols settings obj e = .ok x ↔
      ∃ a text, Attribute.ofImpl symbols settings obj e.impl = .ok a ∧
        a.render ⟨symbols, settings, false⟩ obj e.doc = .ok text ∧
        x = { defined := .attr a, text, since := MemberDoc.sinceOf e.doc } := by
  unfold ofProperty
  simp only [bind_eq_ok_iff, mapError_eq_ok_iff]
  constructor
  · rintro ⟨a, ha, text, htext, hx⟩
    exact ⟨a, text, ha, htext, (Except.ok.inj hx).symm⟩
  · rintro ⟨a, text, ha, htext, rfl⟩
    exact ⟨a, ha, text, htext, rfl⟩

theorem ofSignal_eq_ok_iff {e : SignalEntry} :
    ofSignal symbols settings obj e = .ok x ↔
      ∃ h text, Handler.ofSignal symbols settings obj e.signal = .ok h ∧
        h.render ⟨symbols, settings, false⟩ obj e.signal e.doc = .ok text ∧
        x = { defined := .connectors e.signal h, text, since := MemberDoc.sinceOf e.doc } := by
  unfold ofSignal
  simp only [bind_eq_ok_iff, mapError_eq_ok_iff]
  constructor
  · rintro ⟨h, hh, text, htext, hx⟩
    exact ⟨h, text, hh, htext, (Except.ok.inj hx).symm⟩
  · rintro ⟨h, text, hh, htext, rfl⟩
    exact ⟨h, hh, text, htext, rfl⟩

end Definition

/-! ### Bodies -/

section Body

variable {symbols : SymbolTable} {settings : Settings} {obj : Object} {doc : ModuleDoc}
  {prior : PriorModule} {d : Definitions}

theorem Object.definitions_eq_ok_iff :
    (obj.definitions symbols settings doc prior).outcome = .ok d ↔
      (obj.constructorEntries settings doc.functions prior.calls).mapM
          (fun e => (Definition.ofFunction symbols settings true e).outcome) = .ok d.constructors ∧
        (obj.methodEntries doc.functions prior.calls true).mapM
          (fun e => (Definition.ofFunction symbols settings false e).outcome) = .ok d.methods ∧
        (obj.propertyEntries doc.properties).mapM (Definition.ofProperty symbols settings obj) =
          .ok d.attributes ∧
        (obj.signalEntries doc.signals).mapM (Definition.ofSignal symbols settings obj) =
          .ok d.connectors := by
  unfold definitions constructorDefinitions methodDefinitions attributeDefinitions
    connectorDefinitions
  simp only [Logged.outcome_bind, Logged.outcome_ofExcept, Logged.outcome_mapM, bind_eq_ok_iff]
  constructor
  · rintro ⟨constructors, ⟨-, -, hc⟩, methods, ⟨-, -, hm⟩, attributes, ha, connectors, hs, hd⟩
    cases hd
    exact ⟨hc, hm, ha, hs⟩
  · rintro ⟨hc, hm, ha, hs⟩
    exact ⟨_, ⟨(), rfl, hc⟩, _, ⟨(), rfl, hm⟩, _, ha, _, hs, rfl⟩

/-- A body is the text of its definitions behind their guards. -/
theorem moduleBody_eq_ok_iff {text : String} :
    (moduleBody symbols settings obj doc prior).outcome = .ok text ↔
      ∃ d lifted, (obj.definitions symbols settings doc prior).outcome = .ok d ∧
        obj.liftAll doc (d.fragments settings obj) = .ok lifted ∧
        text = guarded settings "\n\n" lifted := by
  unfold moduleBody
  simp only [Logged.outcome_bind, Logged.outcome_ofExcept, bind_eq_ok_iff]
  constructor
  · rintro ⟨d, hd, lifted, hl, ht⟩
    exact ⟨d, lifted, hd, hl, (Except.ok.inj ht).symm⟩
  · rintro ⟨d, lifted, hd, hl, rfl⟩
    exact ⟨d, hd, lifted, hl, rfl⟩

end Body
end BindingGen

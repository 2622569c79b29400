/-
# Which type fails a module

A module hands C types over: those of the parameters and of the result of each bound function, that
of each property without accessors, and those of the handlers of signals. It is refused for the
first of these types that has no counterpart, in the order of the body, and for nothing else. The
types of functions that are not bound and of properties that have accessors are not looked at; a
pair of accessors never fails, since its getter is a bound function of the same result.

Key definitions: `TypeUse`, `Object.typeUses`, `Object.HandsOver`.
Key theorems: `Definition.failsFirst_ofFunction`, `Object.failsFirst_definitions`,
`Object.mem_typeUses_iff`, `generateModule_fails_first`.
-/
import BindingGen.Proofs.FirstFault
import BindingGen.Proofs.Function.Wiring
import BindingGen.Proofs.Member.Accessors
import BindingGen.Proofs.Module.Refusal

namespace BindingGen

/-! ### Types that are handed over -/

/-- A C type that is handed over: as the type of a parameter, of a result, of a property or of
a handler's argument or result. -/
inductive TypeUse where
  | parameter (function var type : String)
  | result (function : String) (isConstructor : Bool) (type : String)
  | property (owner type : String)
  | signal (owner type : String)
  deriving DecidableEq

namespace TypeUse

/-- Whether the type has a counterpart in its place. -/
def isPassed (symbols : SymbolTable) (settings : Settings) : TypeUse → Bool
  | .parameter function var type =>
    (marshalType? symbols settings function var (.parse type)).isSome
  | .result function isConstructor type =>
    (marshalResultType? symbols settings function isConstructor (.parse type)).isSome
  | .property _ type => (marshalPropertyType? symbols settings (.parse type)).isSome
  | .signal _ type => (marshalSignalType? symbols settings (.parse type)).isSome

/-- The refusal for a type without a counterpart. -/
def refusal : TypeUse → Refusal
  | .parameter function _ type => .unmarshalable function type .parameter
  | .result function _ type => .unmarshalable function type .result
  | .property owner type => .unmarshalable owner type .property
  | .signal owner type => .unmarshalable owner type .signalArgument

/-- The refusals for the types without counterparts, in order. -/
def refusals (symbols : SymbolTable) (settings : Settings) (uses : List TypeUse) : List Refusal :=
  (uses.filter fun use => !use.isPassed symbols settings).map (·.refusal)

section Refusals

variable (symbols : SymbolTable) (settings : Settings)

theorem refusals_append (uses others : List TypeUse) :
    refusals symbols settings (uses ++ others) =
      refusals symbols settings uses ++ refusals symbols settings others := by
  simp [refusals]

theorem refusals_flatMap {α : Type} (l : List α) (usesOf : α → List TypeUse) :
    refusals symbols settings (l.flatMap usesOf) =
      l.flatMap fun a => refusals symbols settings (usesOf a) := by
  induction l with
  | nil => rfl
  | cons a l ih => rw [List.flatMap_cons, List.flatMap_cons, refusals_append, ih]

theorem refusals_map {α : Type} (l : List α) (useOf : α → TypeUse) :
    refusals symbols settings (l.map useOf) =
      l.flatMap fun a => refusals symbols settings [useOf a] := by
  rw [← refusals_flatMap, ← List.flatMap_singleton' (l.map useOf), List.flatMap_map]

theorem head?_refusals (uses : List TypeUse) :
    (refusals symbols settings uses).head? =
      (uses.find? fun use => !use.isPassed symbols settings).map (·.refusal) := by
  rw [refusals, List.head?_map, List.head?_filter]

variable {symbols settings} in
/-- The step that hands a type over fails in the refusal for it or not at all. -/
theorem failsFirst_use {α : Type} {x : Except Refusal α} (use : TypeUse) (m? : Option α)
    (hpassed : use.isPassed symbols settings = m?.isSome)
    (hx : x = m?.elim (.error use.refusal) .ok) :
    FailsFirst (refusals symbols settings [use]) x := by
  cases m? with
  | none =>
    have hrefused : refusals symbols settings [use] = [use.refusal] := by simp [refusals, hpassed]
    rw [hrefused, hx]
    exact .error use.refusal []
  | some m =>
    have hnone : refusals symbols settings [use] = [] := by simp [refusals, hpassed]
    rw [hnone, hx]
    exact .ok m

theorem failsFirst_parameter (function var type : String) :
    FailsFirst (refusals symbols settings [.parameter function var type])
      (marshalParameter symbols settings function var type) := by
  refine failsFirst_use _ (marshalType? symbols settings function var (.parse type))
    (by rw [isPassed]) ?_
  rw [marshalParameter]
  cases marshalType? symbols settings function var (.parse type) <;> rfl

theorem failsFirst_result (function : String) (isConstructor : Bool) (type : String) :
    FailsFirst (refusals symbols settings [.result function isConstructor type])
      (marshalResult symbols settings function isConstructor type) := by
  refine failsFirst_use _
    (marshalResultType? symbols settings function isConstructor (.parse type))
    (by rw [isPassed]) ?_
  rw [marshalResult]
  cases marshalResultType? symbols settings function isConstructor (.parse type) <;> rfl

theorem failsFirst_property (owner type : String) :
    FailsFirst (refusals symbols settings [.property owner type])
      (marshalProperty symbols settings owner type) := by
  refine failsFirst_use _ (marshalPropertyType? symbols settings (.parse type))
    (by rw [isPassed]) ?_
  rw [marshalProperty]
  cases marshalPropertyType? symbols settings (.parse type) <;> rfl

theorem failsFirst_signal (owner type : String) :
    FailsFirst (refusals symbols settings [.signal owner type])
      (marshalSignal symbols settings owner type) := by
  refine failsFirst_use _ (marshalSignalType? symbols settings (.parse type))
    (by rw [isPassed]) ?_
  rw [marshalSignal]
  cases marshalSignalType? symbols settings (.parse type) <;> rfl

end Refusals

end TypeUse

open TypeUse

/-- The types of a function: those of its parameters, then that of its result. -/
def Method.typeUses (isConstructor : Bool) (m : Method) : List TypeUse :=
  m.parameters.map (fun p => .parameter m.cname (Name.ofParameter p.name) p.type) ++
    [.result m.cname isConstructor m.returnType]

/-- The type of a property. -/
def Property.typeUse (obj : Object) (p : Property) : TypeUse :=
  .property (obj.cname ++ ":" ++ p.cname) p.type

/-- The types of a signal's handler: those of its arguments, then that of its result. -/
def Signal.typeUses (obj : Object) (s : Signal) : List TypeUse :=
  (s.handlerParameters obj).map (fun p => .signal s.cname p.type) ++
    [.signal s.cname s.returnType]

/-- The types of a module in the order of its body. -/
def Object.typeUses (settings : Settings) (obj : Object) (doc : ModuleDoc) (prior : PriorModule) :
    List TypeUse :=
  (obj.constructorEntries settings doc.functions prior.calls).flatMap (·.method.typeUses true) ++
    ((obj.methodEntries doc.functions prior.calls true).flatMap (·.method.typeUses false) ++
      ((obj.properties.filter fun p => (obj.accessors? p.name).isNone).map (·.typeUse obj) ++
        obj.signals.flatMap (·.typeUses obj)))

/-! ### Functions -/

section Function

variable (symbols : SymbolTable) (settings : Settings)

theorem failsFirst_bindParameters (function : String) (parameters : List Parameter) :
    FailsFirst (parameters.flatMap fun p =>
        refusals symbols settings [.parameter function (Name.ofParameter p.name) p.type])
      (bindParameters symbols settings function parameters) :=
  FailsFirst.mapM fun p _ =>
    (failsFirst_parameter symbols settings function (Name.ofParameter p.name) p.type).bind_never
      fun _ _ => .ok _

theorem Binding.failsFirst_ofMethod (isConstructor : Bool) (method : Method)
    (doc : Option FunctionDoc) (prior : Option PriorCall) :
    FailsFirst (refusals symbols settings (method.typeUses isConstructor))
      (ofMethod symbols settings isConstructor method doc prior) := by
  rw [Method.typeUses, refusals_append, refusals_map]
  refine (failsFirst_bindParameters symbols settings method.cname method.parameters).bind
    fun _ _ => ?_
  exact (failsFirst_result symbols settings method.cname isConstructor
    method.returnType).bind_never fun _ _ => .ok _

variable {symbols settings}

/-- The outputs of a bound function have the code that reads them. -/
theorem Binding.failsFirst_body {isConstructor : Bool} {method : Method} {doc : Option FunctionDoc}
    {prior : Option PriorCall} {b : Binding}
    (hb : ofMethod symbols settings isConstructor method doc prior = .ok b) :
    FailsFirst [] b.body := by
  have hserves : ∀ p ∈ b.parameters, p.marshaled.Serves p.var := fun p hp => serves_of_mem hb hp
  unfold body
  split_ifs with hempty
  · exact .ok _
  · have hpresent : ∀ p ∈ b.outputs, p.marshaled.out.isSome = true := by
      intro p hp
      rw [isSome_out_of_mem hserves (mem_of_mem_outputs hp)]
      exact (List.mem_filter.mp hp).2
    have htexts : (b.outputs.map fun p => p.marshaled.out.map outText).any (·.isNone) = false := by
      simpa [← Option.isSome_iff_ne_none] using hpresent
    unfold doBlock allOutTexts
    rw [htexts, List.isEmpty_map, Bool.eq_false_iff.mpr hempty]
    exact .ok _

/-- A bound function of which known things are said can be written. -/
theorem Binding.failsFirst_render {isConstructor : Bool} {method : Method}
    {doc : Option FunctionDoc} {prior : Option PriorCall} {b : Binding}
    (hb : ofMethod symbols settings isConstructor method doc prior = .ok b)
    (hdoc : ∀ f ∈ doc, f.isReadable = true) (ctx : DocContext) :
    FailsFirst [] (b.render ctx) := by
  have hknown : b.IsKnown := isKnown_of_ofMethod hdoc hb
  have hne : b.types ≠ [] := by simp [types]
  have hsignature := ctx.failsOnly_signature hne (isKnown_of_mem_types hknown)
  have hcomment := ctx.failsOnly_comment hknown.paragraphs
  unfold render
  refine (failsFirst_of_never hsignature).bind_never fun _ _ => ?_
  refine ((failsFirst_body hb).mapError Fault.refused).bind_never fun _ _ => ?_
  exact (failsFirst_of_never hcomment).bind_never fun _ _ => .ok _

end Function

/-! ### Definitions -/

section Definition

variable {symbols : SymbolTable} {settings : Settings} {obj : Object}

theorem Definition.failsFirst_ofFunction (isConstructor : Bool) {e : FunctionEntry}
    (hdoc : ∀ f ∈ e.doc, f.isReadable = true) :
    FailsFirst ((refusals symbols settings (e.method.typeUses isConstructor)).map Fault.refused)
      (ofFunction symbols settings isConstructor e).outcome := by
  have hbinding := Binding.failsFirst_ofMethod symbols settings isConstructor e.method e.doc e.prior
  unfold ofFunction Binding.write
  simp only [Logged.outcome_bind, Logged.outcome_ofExcept]
  refine (hbinding.mapError Fault.refused).bind_never fun b hb => ?_
  have hrender := Binding.failsFirst_render (mapError_eq_ok_iff.mp hb) hdoc
    ⟨symbols, settings, b.handlesNull settings⟩
  exact ((FailsFirst.ok ()).never_bind fun _ _ => hrender).bind_never fun _ _ => .ok _

/-- The types that the attribute of a property hands over: none if it has accessors, which are
functions of the object. -/
def PropertyImpl.typeUses (obj : Object) : PropertyImpl → List TypeUse
  | .declared p => [p.typeUse obj]
  | .accessors _ => []

/-- An attribute is made unless the type of its property has no counterpart; if it has accessors,
the result of the getter is known to have one. -/
theorem Attribute.failsFirst_ofImpl {impl : PropertyImpl}
    (hgetter : ∀ pair, impl = .accessors pair → ∃ m,
      marshalResult symbols settings pair.getter.cname false pair.getter.returnType = .ok m) :
    FailsFirst (refusals symbols settings (impl.typeUses obj))
      (ofImpl symbols settings obj impl) := by
  cases impl with
  | declared p => exact (failsFirst_property symbols settings _ p.type).bind_never fun _ _ => .ok _
  | accessors pair =>
    obtain ⟨m, hm⟩ := hgetter pair rfl
    show FailsFirst [] (ofAccessors symbols settings obj pair)
    rw [ofAccessors, hm]
    exact .ok _

theorem Definition.failsFirst_ofProperty {e : PropertyEntry}
    (hdoc : ∀ d ∈ e.doc, d.isReadable = true)
    (hgetter : ∀ pair, e.impl = .accessors pair → ∃ m,
      marshalResult symbols settings pair.getter.cname false pair.getter.returnType = .ok m) :
    FailsFirst ((refusals symbols settings (e.impl.typeUses obj)).map Fault.refused)
      (ofProperty symbols settings obj e) := by
  have hcomment := DocContext.failsOnly_comment ⟨symbols, settings, false⟩
    (MemberDoc.isKnown_of_mem_paragraphsOf hdoc)
  unfold ofProperty Attribute.render
  refine ((Attribute.failsFirst_ofImpl hgetter).mapError Fault.refused).bind_never fun a _ => ?_
  exact ((failsFirst_of_never hcomment).bind_never fun _ _ => .ok _).bind_never fun _ _ => .ok _

theorem Handler.failsFirst_ofSignal (s : Signal) :
    FailsFirst (refusals symbols settings (s.typeUses obj))
      (ofSignal symbols settings obj s) := by
  rw [Signal.typeUses, refusals_append, refusals_map]
  have harguments : FailsFirst
      ((s.handlerParameters obj).flatMap fun p =>
        refusals symbols settings [.signal s.cname p.type])
      ((s.handlerParameters obj).mapM fun p => marshalSignal symbols settings s.cname p.type) :=
    FailsFirst.mapM fun p _ => failsFirst_signal symbols settings s.cname p.type
  refine harguments.bind fun _ _ => ?_
  exact (failsFirst_signal symbols settings s.cname s.returnType).bind_never fun _ _ => .ok _

theorem Definition.failsFirst_ofSignal {e : SignalEntry}
    (hdoc : ∀ d ∈ e.doc, d.isReadable = true) :
    FailsFirst ((refusals symbols settings (e.signal.typeUses obj)).map Fault.refused)
      (ofSignal symbols settings obj e) := by
  have hcomment := DocContext.failsOnly_comment ⟨symbols, settings, false⟩
    (MemberDoc.isKnown_of_mem_paragraphsOf hdoc)
  unfold ofSignal Handler.render
  refine ((Handler.failsFirst_ofSignal e.signal).mapError Fault.refused).bind_never fun h _ => ?_
  exact ((failsFirst_of_never hcomment).bind_never fun _ _ => .ok _).bind_never fun _ _ => .ok _

end Definition

/-! ### Bodies -/

section Body

variable {symbols : SymbolTable} {settings : Settings} {obj : Object} {doc : ModuleDoc}
  {prior : PriorModule}

theorem failsFirst_functions {isConstructor : Bool} {entries : List FunctionEntry}
    (hdoc : ∀ e ∈ entries, ∀ f ∈ e.doc, f.isReadable = true) :
    FailsFirst ((refusals symbols settings
        (entries.flatMap (·.method.typeUses isConstructor))).map Fault.refused)
      (entries.mapM fun e => (Definition.ofFunction symbols settings isConstructor e).outcome) := by
  rw [refusals_flatMap, List.map_flatMap]
  exact FailsFirst.mapM fun e he => Definition.failsFirst_ofFunction isConstructor (hdoc e he)

/-- Where the methods of a module are defined, the results of its getters have counterparts. -/
theorem exists_marshalResult_getter {docs : List FunctionDoc} {priors : List PriorCall}
    {memberDocs : List MemberDoc} {methods : List Definition}
    (hmethods : (obj.methodEntries docs priors true).mapM
      (fun e => (Definition.ofFunction symbols settings false e).outcome) = .ok methods)
    {e : PropertyEntry} (he : e ∈ obj.propertyEntries memberDocs) {pair : Accessors}
    (hpair : e.impl = .accessors pair) :
    ∃ m, marshalResult symbols settings pair.getter.cname false pair.getter.returnType = .ok m := by
  have h := Accessors.isPairOf_of_mem_propertyEntries he hpair
  have hbinds : obj.Binds docs priors true pair.getter := by
    rw [obj.binds_iff_of_live h.getter_mem h.getter_live, h.getter_parameters]
    rfl
  obtain ⟨entry, hentry, hfunction⟩ := hbinds
  obtain ⟨x, hx⟩ := exists_of_mapM_of_mem hmethods hentry
  obtain ⟨b, text, hb, -, -⟩ := Definition.ofFunction_eq_ok_iff.mp hx
  obtain ⟨parameters, -, hb⟩ := bind_eq_ok_iff.mp hb
  obtain ⟨result, hresult, -⟩ := bind_eq_ok_iff.mp hb
  rw [hfunction] at hresult
  exact ⟨result, hresult⟩

theorem typeUses_declaredEntries (docs : List MemberDoc) (properties : List Property) :
    (properties.map (obj.declaredEntry docs)).flatMap (·.impl.typeUses obj) =
      (properties.filter fun p => (obj.accessors? p.name).isNone).map (·.typeUse obj) := by
  induction properties with
  | nil => rfl
  | cons p properties ih =>
    rw [List.map_cons, List.flatMap_cons, ih, Object.declaredEntry, List.filter_cons]
    cases obj.accessors? p.name <;> rfl

/-- Attributes hand over the types of the declared properties without accessors. -/
theorem typeUses_propertyEntries (docs : List MemberDoc) :
    (obj.propertyEntries docs).flatMap (·.impl.typeUses obj) =
      (obj.properties.filter fun p => (obj.accessors? p.name).isNone).map (·.typeUse obj) := by
  have hundeclared : ((obj.undeclaredNames.filterMap obj.accessors?).map fun pair =>
      ({ impl := .accessors pair, doc := some pair.doc } : PropertyEntry)).flatMap
        (·.impl.typeUses obj) = [] := by
    simp [List.flatMap_map, PropertyImpl.typeUses]
  rw [Object.propertyEntries, List.flatMap_append, typeUses_declaredEntries, hundeclared,
    List.append_nil]

theorem typeUses_signalEntries (docs : List MemberDoc) :
    (obj.signalEntries docs).flatMap (·.signal.typeUses obj) =
      obj.signals.flatMap (·.typeUses obj) := by
  rw [Object.signalEntries, List.flatMap_map]

/-- The members of a documented module are defined unless one of its types has no counterpart. -/
theorem Object.failsFirst_definitions (hdoc : doc.IsReadable) :
    FailsFirst ((refusals symbols settings (obj.typeUses settings doc prior)).map Fault.refused)
      (obj.definitions symbols settings doc prior).outcome := by
  unfold definitions constructorDefinitions methodDefinitions attributeDefinitions
    connectorDefinitions
  simp only [Logged.outcome_bind, Logged.outcome_ofExcept, Logged.outcome_mapM]
  rw [typeUses, ← typeUses_propertyEntries doc.properties, ← typeUses_signalEntries doc.signals]
  simp only [refusals_append, List.map_append]
  refine ((FailsFirst.ok ()).never_bind fun _ _ => failsFirst_functions fun e he =>
    isReadable_of_mem_constructorEntries hdoc he).bind fun _ _ => ?_
  refine ((FailsFirst.ok ()).never_bind fun _ _ => failsFirst_functions fun e he =>
    isReadable_of_mem_methodEntries hdoc he).bind fun methods hmethods => ?_
  simp only [refusals_flatMap, List.map_flatMap]
  refine (FailsFirst.mapM fun e he => ?_).bind fun _ _ => ?_
  · -- the getter of an attribute is one of the methods that were defined
    exact Definition.failsFirst_ofProperty (isReadable_of_mem_propertyEntries hdoc he)
      fun pair hpair => exists_marshalResult_getter hmethods he hpair
  · refine (FailsFirst.mapM fun e he => ?_).bind_never fun _ _ => .ok _
    exact Definition.failsFirst_ofSignal (isReadable_of_mem_signalEntries hdoc he)

/-- A documented module is generated unless one of its types has no counterpart. -/
theorem failsFirst_generateModule (hdoc : doc.IsReadable) :
    FailsFirst ((refusals symbols settings
        (obj.typeUses settings doc (obj.expandShortNames prior))).map Fault.refused)
      (generateModule symbols settings obj doc prior).outcome := by
  have hbody : FailsFirst ((refusals symbols settings
        (obj.typeUses settings doc (obj.expandShortNames prior))).map Fault.refused)
      (moduleBody symbols settings obj doc (obj.expandShortNames prior)).outcome := by
    unfold moduleBody
    simp only [Logged.outcome_bind, Logged.outcome_ofExcept]
    refine (Object.failsFirst_definitions hdoc).bind_never fun d hd => ?_
    have hlift : FailsOnly Fault.Never (obj.liftAll doc (d.fragments settings obj)) :=
      failsOnly_liftAll hdoc fun _ hf => hdoc.isReadable_since (since_of_mem_fragments hd hf)
    exact (failsFirst_of_never hlift).bind_never fun _ _ => .ok _
  unfold generateModule
  simp only [Logged.outcome_bind]
  refine (failsFirst_of_never (failsOnly_moduleExports hdoc)).never_bind fun _ _ => ?_
  exact hbody.bind_never fun _ _ => .ok _

end Body

/-! ### Types that an object hands over -/

/-- The object hands the type over, where the prior module makes the calls: as one of a constructor
or of a method with an end to its parameter list, the method not being deprecated or called before;
as that of a property without accessors; or as one of a signal. -/
inductive Object.HandsOver (settings : Settings) (obj : Object) (priors : List PriorCall) :
    TypeUse → Prop
  | constructor {c : Constructor} {use : TypeUse} (hc : c ∈ obj.constructors)
    (hfinite : hasVarargs c.parameters = false)
    (huse : use ∈ (obj.constructorFunction settings c).typeUses true) :
    HandsOver settings obj priors use
  | method {m : Method} {use : TypeUse} (hm : m ∈ obj.methods)
    (hfinite : hasVarargs m.parameters = false)
    (hkept : m.deprecated = true → ∃ call ∈ priors, call.cname = m.cname)
    (huse : use ∈ (obj.asFunction m).typeUses false) : HandsOver settings obj priors use
  | property {p : Property} (hp : p ∈ obj.properties) (hnone : obj.accessors? p.name = none) :
    HandsOver settings obj priors (p.typeUse obj)
  | signal {s : Signal} {use : TypeUse} (hs : s ∈ obj.signals) (huse : use ∈ s.typeUses obj) :
    HandsOver settings obj priors use

section HandsOver

variable {symbols : SymbolTable} {settings : Settings} {obj : Object} {doc : ModuleDoc}
  {prior : PriorModule}

theorem Object.isBound_iff {priors : List PriorCall} {m : Method} :
    isBound priors m = true ↔ hasVarargs m.parameters = false ∧
      (m.deprecated = true → ∃ call ∈ priors, call.cname = m.cname) := by
  unfold isBound
  cases m.deprecated <;> simp

/-- The types of a module are those that its object hands over. -/
theorem Object.mem_typeUses_iff {use : TypeUse} :
    use ∈ obj.typeUses settings doc prior ↔ obj.HandsOver settings prior.calls use := by
  rw [typeUses, constructorEntries_eq_map, methodEntries_eq_map]
  simp only [List.mem_append, List.mem_flatMap, List.mem_map, List.mem_filter,
    (obj.orderedConstructors_perm prior.calls).mem_iff,
    (obj.orderedMethods_perm doc.functions prior.calls true).mem_iff]
  constructor
  · rintro (⟨e, ⟨c, ⟨hc, hfinite⟩, rfl⟩, huse⟩ | ⟨e, ⟨m, ⟨hm, hbound⟩, rfl⟩, huse⟩ |
      ⟨p, ⟨hp, hnone⟩, rfl⟩ | ⟨s, hs, huse⟩)
    · exact .constructor hc (by simpa using hfinite) huse
    · obtain ⟨hfinite, hkept⟩ := isBound_iff.mp hbound
      exact .method hm hfinite hkept huse
    · exact .property hp (by simpa using hnone)
    · exact .signal hs huse
  · rintro (⟨hc, hfinite, huse⟩ | ⟨hm, hfinite, hkept, huse⟩ | ⟨hp, hnone⟩ | ⟨hs, huse⟩)
    · exact .inl ⟨_, ⟨_, ⟨hc, by simp [hfinite]⟩, rfl⟩, huse⟩
    · exact .inr (.inl ⟨_, ⟨_, ⟨hm, isBound_iff.mpr ⟨hfinite, hkept⟩⟩, rfl⟩, huse⟩)
    · exact .inr (.inr (.inl ⟨_, ⟨hp, by simp [hnone]⟩, rfl⟩))
    · exact .inr (.inr (.inr ⟨_, hs, huse⟩))

/-- **A module fails for the first type without a counterpart.** Generation of a documented module
fails exactly if the object hands a type over that has no counterpart, and then in the refusal for
the first of them in the order of the body. -/
theorem generateModule_fails_first (symbols : SymbolTable) (settings : Settings) (obj : Object)
    (prior : PriorModule) (hdoc : doc.IsReadable) :
    ((∃ fault, (generateModule symbols settings obj doc prior).outcome = .error fault) ↔
        ∃ use, obj.HandsOver settings (obj.expandShortNames prior).calls use ∧
          use.isPassed symbols settings = false) ∧
      ∀ fault, (generateModule symbols settings obj doc prior).outcome = .error fault ↔
        ∃ use, (obj.typeUses settings doc (obj.expandShortNames prior)).find?
            (fun use => !use.isPassed symbols settings) = some use ∧
          fault = .refused use.refusal := by
  have hfirst : FailsFirst ((refusals symbols settings
        (obj.typeUses settings doc (obj.expandShortNames prior))).map Fault.refused)
      (generateModule symbols settings obj doc prior).outcome := failsFirst_generateModule hdoc
  have herror : ∀ fault, (generateModule symbols settings obj doc prior).outcome = .error fault ↔
      ∃ use, (obj.typeUses settings doc (obj.expandShortNames prior)).find?
          (fun use => !use.isPassed symbols settings) = some use ∧
        fault = .refused use.refusal := by
    intro fault
    rw [hfirst.error_iff, List.head?_map, head?_refusals, Option.map_map, Option.map_eq_some_iff]
    exact exists_congr fun use => and_congr_right fun _ => eq_comm
  refine ⟨?_, herror⟩
  have hmem : ∀ use, obj.HandsOver settings (obj.expandShortNames prior).calls use ↔
      use ∈ obj.typeUses settings doc (obj.expandShortNames prior) :=
    fun use => Object.mem_typeUses_iff.symm
  simp only [herror, hmem]
  constructor
  · rintro ⟨fault, use, hfind, -⟩
    exact ⟨use, List.mem_of_find?_eq_some hfind, by simpa using List.find?_some hfind⟩
  · rintro ⟨use, huse, hrefused⟩
    have hsome : ((obj.typeUses settings doc (obj.expandShortNames prior)).find?
        fun use => !use.isPassed symbols settings).isSome = true :=
      List.find?_isSome.mpr ⟨use, huse, by simp [hrefused]⟩
    obtain ⟨first, hfind⟩ := Option.isSome_iff_exists.mp hsome
    exact ⟨_, first, hfind, rfl⟩

end HandsOver

/-- The symbols of a lamp. -/
def lampSymbols : SymbolTable := [("GtkLamp", .object ["GObject"])]

/-- A lamp that names a type without a counterpart in a method with a variable argument list, in
a deprecated method and in a declared property that has accessors. -/
def oddLamp (signals : List Signal) : Object where
  name := "Lamp"
  cname := "GtkLamp"
  methods := [
    { name := "Log", cname := "gtk_lamp_log", returnType := "Odd",
      parameters := [{ type := "", name := "...", isVarargs := true }] },
    { name := "Dim", cname := "gtk_lamp_dim", returnType := "Odd", deprecated := true },
    lampLevel.getter, lampLevel.setter]
  properties := [{ name := "Level", cname := "level", type := "Odd" }]
  signals

/-- A signal that names the type as well. -/
def oddSignal : Signal where
  name := "Lit"
  cname := "lit"
  parameters := [{ type := "GtkLamp*", name := "lamp" }, { type := "Odd", name := "mode" }]

theorem orderedMethods_oddLamp (signals : List Signal) :
    (oddLamp signals).orderedMethods [] [] true = [lampLevel.getter, lampLevel.setter] := by
  have hbound : (oddLamp signals).methods.filter (Object.isBound []) =
      [lampLevel.getter, lampLevel.setter] := rfl
  rw [Object.orderedMethods, hbound]
  refine List.mergeSort_of_pairwise ?_
  simp only [List.pairwise_cons]
  decide +kernel

/-- The type does not fail the lamp, but with the signal it does. -/
theorem generateModule_fails_first_oddLamp :
    (∀ fault, (generateModule lampSymbols {} (oddLamp []) { name := "GtkLamp" } {}).outcome ≠
        .error fault) ∧
      (generateModule lampSymbols {} (oddLamp [oddSignal]) { name := "GtkLamp" } {}).outcome =
        .error (.refused (.unmarshalable "lit" "Odd" .signalArgument)) := by
  have hdoc : ModuleDoc.IsReadable { name := "GtkLamp" } := ⟨by simp, by simp, by simp, by decide⟩
  have hpassed := (generateModule_fails_first lampSymbols {} (oddLamp []) {} hdoc).2
  have hrefused := (generateModule_fails_first lampSymbols {} (oddLamp [oddSignal]) {} hdoc).2
  constructor
  · intro fault h
    have hnone : ((oddLamp []).typeUses {} { name := "GtkLamp" } {}).find?
        (fun use => !use.isPassed lampSymbols {}) = none := by
      rw [Object.typeUses, Object.methodEntries_eq_map, orderedMethods_oddLamp]
      decide +kernel
    obtain ⟨use, hfind, -⟩ := (hpassed fault).mp h
    exact absurd (hfind.symm.trans hnone) (by simp)
  · refine (hrefused _).mpr ⟨.signal "lit" "Odd", ?_, rfl⟩
    show ((oddLamp [oddSignal]).typeUses {} { name := "GtkLamp" } {}).find? _ = _
    rw [Object.typeUses, Object.methodEntries_eq_map, orderedMethods_oddLamp]
    decide +kernel

end BindingGen

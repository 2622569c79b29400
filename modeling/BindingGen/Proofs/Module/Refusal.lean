/-
# A module is generated or refused

Where the documentation of a module can be read, no fault but a refusal ends its generation: what
is said of a function, an attribute or a signal is always written down, and the versions of all
fragments can be compared. Only a C type that cannot be handed over stands in the way, or an output
without the code that reads it; the parents of the object are not looked at.

Key definitions: `Binding.IsKnown`.
Key theorems: `Binding.failsOnly_render`, `failsOnly_moduleBody`, `failsOnly_moduleExports`,
`failsOnly_generateModule`.
-/
import BindingGen.Module.Basic
import BindingGen.Proofs.Haddock.Written
import BindingGen.Proofs.Module.Since

namespace BindingGen

/-! ### Refused members -/

section Marshal

variable (symbols : SymbolTable) (settings : Settings)

theorem isOfMember_unmarshalable (owner type : String) (role : Role) :
    (Refusal.unmarshalable owner type role).IsOfMember := by
  rintro chain ⟨⟩

theorem failsOnly_marshalParameter (function name type : String) :
    FailsOnly Refusal.IsOfMember (marshalParameter symbols settings function name type) := by
  unfold marshalParameter
  split
  · exact failsOnly_ok _
  · exact failsOnly_error (isOfMember_unmarshalable _ _ _)

theorem failsOnly_marshalResult (function : String) (isConstructor : Bool) (type : String) :
    FailsOnly Refusal.IsOfMember (marshalResult symbols settings function isConstructor type) := by
  unfold marshalResult
  split
  · exact failsOnly_ok _
  · exact failsOnly_error (isOfMember_unmarshalable _ _ _)

theorem failsOnly_marshalProperty (owner type : String) :
    FailsOnly Refusal.IsOfMember (marshalProperty symbols settings owner type) := by
  unfold marshalProperty
  split
  · exact failsOnly_ok _
  · exact failsOnly_error (isOfMember_unmarshalable _ _ _)

theorem failsOnly_marshalSignal (owner type : String) :
    FailsOnly Refusal.IsOfMember (marshalSignal symbols settings owner type) := by
  unfold marshalSignal
  split
  · exact failsOnly_ok _
  · exact failsOnly_error (isOfMember_unmarshalable _ _ _)

theorem Binding.failsOnly_ofMethod (isConstructor : Bool) (method : Method)
    (doc : Option FunctionDoc) (prior : Option PriorCall) :
    FailsOnly Refusal.IsOfMember (ofMethod symbols settings isConstructor method doc prior) := by
  unfold ofMethod bindParameters
  refine FailsOnly.bind (FailsOnly.mapM fun p _ => ?_) fun _ _ => ?_
  · exact (failsOnly_marshalParameter symbols settings _ _ _).bind fun _ _ => failsOnly_pure _
  · exact (failsOnly_marshalResult symbols settings _ _ _).bind fun _ _ => failsOnly_pure _

theorem Binding.failsOnly_body (b : Binding) : FailsOnly Refusal.IsOfMember b.body := by
  unfold body doBlock allOutTexts
  split_ifs
  · exact failsOnly_ok _
  · exact failsOnly_error (by rintro chain ⟨⟩)
  · exact failsOnly_ok _

theorem Attribute.failsOnly_ofImpl (obj : Object) (impl : PropertyImpl) :
    FailsOnly Refusal.IsOfMember (ofImpl symbols settings obj impl) := by
  cases impl with
  | declared p =>
    exact (failsOnly_marshalProperty symbols settings _ _).bind fun _ _ => failsOnly_pure _
  | accessors pair =>
    exact (failsOnly_marshalResult symbols settings _ _ _).bind fun _ _ => failsOnly_pure _

theorem Handler.failsOnly_ofSignal (obj : Object) (s : Signal) :
    FailsOnly Refusal.IsOfMember (ofSignal symbols settings obj s) := by
  unfold ofSignal
  refine FailsOnly.bind (FailsOnly.mapM fun p _ => ?_) fun _ _ => ?_
  · exact failsOnly_marshalSignal symbols settings _ _
  · exact (failsOnly_marshalSignal symbols settings _ _).bind fun _ _ => failsOnly_pure _

end Marshal

/-! ### Bound functions -/

/-- What is said of a function and of its parameters is of known kinds. -/
structure Binding.IsKnown (b : Binding) : Prop where
  docs : ∀ name spans, b.docs.lookup name = some spans → ∀ s ∈ spans, s.isKnown = true
  paragraphs : ∀ p ∈ b.paragraphs, p.isKnown = true

theorem ParamDoc.isKnown_of_mem_spans {d : ParamDoc} (h : ∀ s ∈ d.paragraph, s.isKnown = true) :
    ∀ s ∈ d.spans, s.isKnown = true := by
  intro s hs
  unfold spans at hs
  split_ifs at hs
  · rcases List.mem_cons.mp hs with rfl | hs
    · rfl
    · exact h s hs
  · rcases List.mem_cons.mp hs with rfl | hs
    · rfl
    rcases List.mem_cons.mp hs with rfl | hs
    · rfl
    · exact h s hs

theorem isKnown_of_lookup_paramDocs {settings : Settings} {function name : String}
    {doc : Option FunctionDoc} (hdoc : ∀ f ∈ doc, f.isReadable = true) {spans : List Span}
    (h : (paramDocs settings function doc).lookup name = some spans) :
    ∀ s ∈ spans, s.isKnown = true := by
  unfold paramDocs at h
  rw [lookup_firstEntries, List.lookup_eq_some_iff] at h
  obtain ⟨before, after, hsplit, -⟩ := h
  have hmem : (name, spans) ∈ before ++ (name, spans) :: after := by simp
  rw [← hsplit] at hmem
  obtain ⟨d, hd, hentry⟩ := List.mem_map.mp hmem
  cases doc with
  | none => simp at hd
  | some f =>
    cases hentry
    have hparams := (FunctionDoc.isReadable_iff.mp (hdoc f rfl)).2.1
    exact ParamDoc.isKnown_of_mem_spans (hparams d (List.mem_filter.mp hd).1)

theorem isKnown_of_mem_mergeDocs {docs : List (List Span)}
    (h : ∀ doc ∈ docs, ∀ s ∈ doc, s.isKnown = true) :
    ∀ spans ∈ mergeDocs docs, ∀ s ∈ spans, s.isKnown = true := by
  unfold mergeDocs
  split
  · rintro spans ⟨⟩
  · rintro spans ⟨⟩
    exact h _ List.mem_cons_self
  · rintro spans ⟨⟩ s hs
    rcases List.mem_cons.mp hs with rfl | hs
    · rfl
    rcases List.mem_cons.mp hs with rfl | hs
    · rfl
    obtain ⟨doc, hdoc, hs⟩ := List.mem_flatten.mp hs
    exact h doc hdoc s hs

namespace Binding

variable {symbols : SymbolTable} {settings : Settings} {b : Binding}

theorem isKnown_of_ofMethod {isConstructor : Bool} {method : Method} {doc : Option FunctionDoc}
    {prior : Option PriorCall} (hdoc : ∀ f ∈ doc, f.isReadable = true)
    (h : ofMethod symbols settings isConstructor method doc prior = .ok b) : b.IsKnown := by
  unfold ofMethod at h
  obtain ⟨parameters, -, h⟩ := bind_eq_ok_iff.mp h
  obtain ⟨result, -, h⟩ := bind_eq_ok_iff.mp h
  cases h
  exact ⟨fun name spans => isKnown_of_lookup_paramDocs hdoc,
    FunctionDoc.isKnown_of_mem_paragraphsOf hdoc⟩

theorem isKnown_of_mem_types (hb : b.IsKnown) :
    ∀ t ∈ b.types, ∀ spans ∈ t.2, ∀ s ∈ spans, s.isKnown = true := by
  intro t ht
  rcases List.mem_append.mp ht with ht | ht
  · obtain ⟨p, -, rfl⟩ := List.mem_map.mp ht
    exact fun spans => hb.docs p.cname spans
  · rw [List.mem_singleton] at ht
    subst ht
    refine isKnown_of_mem_mergeDocs fun doc hdoc => ?_
    obtain ⟨found, hfound, hid⟩ := List.mem_filterMap.mp hdoc
    rcases List.mem_cons.mp hfound with rfl | hfound
    · exact hb.docs _ doc hid
    · obtain ⟨p, -, rfl⟩ := List.mem_map.mp hfound
      exact hb.docs _ doc hid

/-- A function of which known things are said can be written, or its outputs are refused. -/
theorem failsOnly_render (hb : b.IsKnown) (ctx : DocContext) :
    FailsOnly Fault.IsRefusal (b.render ctx) := by
  unfold render
  have hne : b.types ≠ [] := by simp [types]
  refine (ctx.failsOnly_signature hne (isKnown_of_mem_types hb)).of_never.bind fun _ _ => ?_
  refine (failsOnly_mapError_refused b.failsOnly_body).bind fun _ _ => ?_
  exact (ctx.failsOnly_comment hb.paragraphs).of_never.bind fun _ _ => failsOnly_pure _

end Binding

/-! ### Definitions -/

namespace Definition

variable (symbols : SymbolTable) (settings : Settings) (obj : Object)

theorem failsOnly_ofFunction (isConstructor : Bool) {e : FunctionEntry}
    (h : ∀ f ∈ e.doc, f.isReadable = true) :
    FailsOnly Fault.IsRefusal (ofFunction symbols settings isConstructor e).outcome := by
  unfold ofFunction Binding.write
  simp only [Logged.outcome_bind, Logged.outcome_ofExcept]
  have hbinding := Binding.failsOnly_ofMethod symbols settings isConstructor e.method e.doc e.prior
  refine (failsOnly_mapError_refused hbinding).bind fun b hb => ?_
  have hb := Binding.isKnown_of_ofMethod h (mapError_eq_ok_iff.mp hb)
  exact ((failsOnly_ok ()).bind fun _ _ => Binding.failsOnly_render hb _).bind fun _ _ =>
    failsOnly_pure _

theorem failsOnly_ofProperty {e : PropertyEntry} (h : ∀ d ∈ e.doc, d.isReadable = true) :
    FailsOnly Fault.IsRefusal (ofProperty symbols settings obj e) := by
  unfold ofProperty Attribute.render
  refine (failsOnly_mapError_refused
    (Attribute.failsOnly_ofImpl symbols settings obj e.impl)).bind fun a _ => ?_
  have hcomment := DocContext.failsOnly_comment ⟨symbols, settings, false⟩
    (MemberDoc.isKnown_of_mem_paragraphsOf h)
  exact (hcomment.of_never.bind fun _ _ => failsOnly_pure _).bind fun _ _ => failsOnly_pure _

theorem failsOnly_ofSignal {e : SignalEntry} (h : ∀ d ∈ e.doc, d.isReadable = true) :
    FailsOnly Fault.IsRefusal (ofSignal symbols settings obj e) := by
  unfold ofSignal Handler.render
  refine (failsOnly_mapError_refused
    (Handler.failsOnly_ofSignal symbols settings obj e.signal)).bind fun handler _ => ?_
  have hcomment := DocContext.failsOnly_comment ⟨symbols, settings, false⟩
    (MemberDoc.isKnown_of_mem_paragraphsOf h)
  exact (hcomment.of_never.bind fun _ _ => failsOnly_pure _).bind fun _ _ => failsOnly_pure _

end Definition

/-! ### The documentation of entries -/

section Entries

variable {settings : Settings} {obj : Object} {doc : ModuleDoc} (hdoc : doc.IsReadable)
include hdoc

theorem isReadable_of_mem_methodEntries {priors : List PriorCall} {priorFirst : Bool}
    {e : FunctionEntry} (he : e ∈ obj.methodEntries doc.functions priors priorFirst) :
    ∀ f ∈ e.doc, f.isReadable = true :=
  fun f hf => hdoc.functions f (Object.mem_of_doc_methodEntries he hf)

theorem isReadable_of_mem_constructorEntries {priors : List PriorCall} {e : FunctionEntry}
    (he : e ∈ obj.constructorEntries settings doc.functions priors) :
    ∀ f ∈ e.doc, f.isReadable = true := by
  intro f hf
  obtain ⟨full, hfull, rfl⟩ := Object.mem_of_doc_constructorEntries he hf
  obtain ⟨hparagraphs, hparams, hsince⟩ :=
    FunctionDoc.isReadable_iff.mp (hdoc.functions full hfull)
  exact FunctionDoc.isReadable_iff.mpr
    ⟨hparagraphs, fun p hp => hparams p (List.mem_filter.mp hp).1, hsince⟩

theorem isReadable_of_mem_propertyEntries {e : PropertyEntry}
    (he : e ∈ obj.propertyEntries doc.properties) : ∀ d ∈ e.doc, d.isReadable = true := by
  intro d hd
  rcases Object.mem_of_doc_propertyEntries he hd with hmem | ⟨pair, rfl⟩
  · exact hdoc.properties d hmem
  · exact pair.isReadable_doc

theorem isReadable_of_mem_signalEntries {e : SignalEntry}
    (he : e ∈ obj.signalEntries doc.signals) : ∀ d ∈ e.doc, d.isReadable = true :=
  fun d hd => hdoc.signals d (Object.mem_of_doc_signalEntries he hd)

end Entries

/-! ### Versions of fragments -/

/-- The versions of fragments of readable documentation are readable. -/
theorem ModuleDoc.IsReadable.isReadable_since {doc : ModuleDoc} (hdoc : doc.IsReadable)
    {since : String} (h : since = "" ∨ since ∈ doc.memberSinces) :
    Version.isReadable since = true := by
  rcases h with rfl | h
  · exact Version.isReadable_empty
  · rcases mem_memberSinces.mp h with ⟨f, hf, rfl⟩ | ⟨p, hp, rfl⟩ | ⟨s, hs, rfl⟩
    · exact (FunctionDoc.isReadable_iff.mp (hdoc.functions f hf)).2.2
    · exact (MemberDoc.isReadable_iff.mp (hdoc.properties p hp)).2
    · exact (MemberDoc.isReadable_iff.mp (hdoc.signals s hs)).2

/-- Fragments of readable versions take on the version of their module. -/
theorem failsOnly_liftAll {obj : Object} {doc : ModuleDoc} (hdoc : doc.IsReadable)
    {fragments : List Fragment} (h : ∀ f ∈ fragments, Version.isReadable f.since = true) :
    FailsOnly Fault.Never (obj.liftAll doc fragments) :=
  FailsOnly.mapM fun f hf => obj.failsOnly_lift hdoc.since (h f hf)

/-! ### Bodies and export lists -/

section Module

variable {symbols : SymbolTable} {settings : Settings} {obj : Object} {doc : ModuleDoc}
  {prior : PriorModule} (hdoc : doc.IsReadable)
include hdoc

theorem failsOnly_definitions :
    FailsOnly Fault.IsRefusal (obj.definitions symbols settings doc prior).outcome := by
  unfold Object.definitions Object.constructorDefinitions Object.methodDefinitions
    Object.attributeDefinitions Object.connectorDefinitions
  simp only [Logged.outcome_bind, Logged.outcome_ofExcept, Logged.outcome_mapM]
  refine ((failsOnly_ok ()).bind fun _ _ => FailsOnly.mapM fun e he => ?_).bind fun _ _ => ?_
  · exact Definition.failsOnly_ofFunction _ _ _ (isReadable_of_mem_constructorEntries hdoc he)
  refine ((failsOnly_ok ()).bind fun _ _ => FailsOnly.mapM fun e he => ?_).bind fun _ _ => ?_
  · exact Definition.failsOnly_ofFunction _ _ _ (isReadable_of_mem_methodEntries hdoc he)
  refine (FailsOnly.mapM fun e he => ?_).bind fun _ _ => ?_
  · exact Definition.failsOnly_ofProperty _ _ _ (isReadable_of_mem_propertyEntries hdoc he)
  refine (FailsOnly.mapM fun e he => ?_).bind fun _ _ => failsOnly_pure _
  exact Definition.failsOnly_ofSignal _ _ _ (isReadable_of_mem_signalEntries hdoc he)

/-- The body of a documented module is written or refused. -/
theorem failsOnly_moduleBody :
    FailsOnly Fault.IsRefusal (moduleBody symbols settings obj doc prior).outcome := by
  unfold moduleBody
  simp only [Logged.outcome_bind, Logged.outcome_ofExcept]
  refine (failsOnly_definitions hdoc).bind fun d hd => ?_
  have hlift : FailsOnly Fault.Never (obj.liftAll doc (d.fragments settings obj)) :=
    failsOnly_liftAll hdoc fun _ hf => hdoc.isReadable_since (since_of_mem_fragments hd hf)
  exact hlift.of_never.bind fun _ _ => failsOnly_pure _

/-- The export list of a documented module is always written. -/
theorem failsOnly_moduleExports :
    FailsOnly Fault.Never (moduleExports settings obj doc prior).outcome := by
  unfold moduleExports
  simp only [Logged.outcome_bind, Logged.outcome_ofExcept]
  refine (failsOnly_ok ()).bind fun _ _ => ?_
  have hlift : FailsOnly Fault.Never
      (obj.liftAll doc (obj.exportFragments settings doc prior)) :=
    failsOnly_liftAll hdoc fun _ hf => hdoc.isReadable_since (since_of_mem_exportFragments hf)
  exact hlift.bind fun _ _ => failsOnly_pure _

/-- A documented module is generated or refused. -/
theorem failsOnly_generateModule :
    FailsOnly Fault.IsRefusal (generateModule symbols settings obj doc prior).outcome := by
  unfold generateModule
  simp only [Logged.outcome_bind]
  refine (failsOnly_moduleExports hdoc).of_never.bind fun _ _ => ?_
  exact (failsOnly_moduleBody hdoc).bind fun _ _ => failsOnly_pure _

end Module
end BindingGen

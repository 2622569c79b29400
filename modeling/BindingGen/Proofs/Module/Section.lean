/-
# The sections of members

The body and the export list of a module have the same four sections of members. Each section of the
export list names what its section of the body defines, and guards it in the same way: both are made
of the same entries, whatever order they stand in (`Object.exportsOf_perm`).

Key definitions: `MemberKind`, `Object.exportsOf`, `Definitions.ofKind`, `Definition.toExport`.
Key theorems: `Object.exportFragments_eq`, `Definitions.fragments_eq`, `Object.exportsOf_perm`.
-/
import BindingGen.Module.Exports
import BindingGen.Proofs.Member.Entries
import BindingGen.Proofs.Module.Definition

namespace BindingGen

/-- The kinds of members, one for each section. -/
inductive MemberKind where
  | constructors
  | methods
  | properties
  | signals
  deriving DecidableEq

/-- The kinds in the order of their sections. -/
def MemberKind.all : List MemberKind := [.constructors, .methods, .properties, .signals]

/-- The header of a section. -/
def MemberKind.title : MemberKind → String
  | .constructors => "Constructors"
  | .methods => "Methods"
  | .properties => "Properties"
  | .signals => "Signals"

theorem MemberKind.mem_all (kind : MemberKind) : kind ∈ MemberKind.all := by
  cases kind <;> decide

/-- The exports of one section. -/
def Object.exportsOf (settings : Settings) (obj : Object) (doc : ModuleDoc) (prior : PriorModule) :
    MemberKind → List Export
  | .constructors => obj.constructorExports settings doc prior
  | .methods => obj.methodExports settings doc prior
  | .properties => obj.propertyExports doc
  | .signals => obj.signalExports doc prior

/-- The definitions of one section. -/
def Definitions.ofKind (d : Definitions) : MemberKind → List Definition
  | .constructors => d.constructors
  | .methods => d.methods
  | .properties => d.attributes
  | .signals => d.connectors

/-- What a definition defines as an export. -/
def Definition.toExport (x : Definition) : Export where
  names := x.defined.names
  since := x.since
  deprecated := x.deprecated

/-! ### Fragments by section -/

theorem Object.exportFragments_eq (settings : Settings) (obj : Object) (doc : ModuleDoc)
    (prior : PriorModule) :
    obj.exportFragments settings doc prior =
      { text := "-- * Types" } :: obj.typeExports.map (·.fragment) ++
        MemberKind.all.flatMap fun kind =>
          exportSection kind.title ((obj.exportsOf settings doc prior kind).map (·.fragment)) := by
  unfold exportFragments MemberKind.all
  simp only [List.flatMap_cons, List.flatMap_nil, List.append_nil, List.append_assoc,
    List.cons_append]
  rfl

theorem Definitions.fragments_eq (settings : Settings) (obj : Object) (d : Definitions) :
    d.fragments settings obj =
      bodySection "Interfaces" (obj.instances settings) ++
        MemberKind.all.flatMap fun kind =>
          bodySection kind.title ((d.ofKind kind).map (·.fragment)) := by
  unfold fragments MemberKind.all
  simp only [List.flatMap_cons, List.flatMap_nil, List.append_nil, List.append_assoc]
  rfl

theorem mem_bodySection {name : String} {entries : List Fragment} {f : Fragment}
    (h : f ∈ entries) : f ∈ bodySection name entries := by
  unfold bodySection
  rw [if_neg (by simpa using List.ne_nil_of_mem h)]
  exact List.mem_cons_of_mem _ h

/-! ### Lifted fragments -/

namespace Object

variable {obj : Object} {doc : ModuleDoc} {fragments part lifted : List Fragment}

theorem text_lift {since : String} {f g : Fragment} (h : obj.lift since f = .ok g) :
    g.text = f.text := by
  obtain ⟨later, -, hg⟩ := bind_eq_ok_iff.mp h
  cases hg
  rfl

theorem map_text_liftAll {fragments lifted : List Fragment}
    (h : obj.liftAll doc fragments = .ok lifted) :
    lifted.map (·.text) = fragments.map (·.text) :=
  map_eq_of_mapM h fun _ _ hfg => text_lift hfg

/-- Whether a fragment can be lifted is told by the version that it needs. -/
theorem exists_lift_of_since_eq {since : String} {f g : Fragment}
    (hf : ∃ h, obj.lift since f = .ok h) (heq : g.since = f.since) :
    ∃ h, obj.lift since g = .ok h := by
  obtain ⟨h, hf⟩ := hf
  obtain ⟨later, hlater, -⟩ := bind_eq_ok_iff.mp hf
  exact ⟨_, bind_eq_ok_iff.mpr ⟨later, heq ▸ hlater, rfl⟩⟩

/-- What needs no version can be lifted where anything can. -/
theorem exists_lift_of_since_empty {since : String} {f g : Fragment}
    (hf : ∃ h, obj.lift since f = .ok h) (hempty : g.since = "") :
    ∃ h, obj.lift since g = .ok h := by
  obtain ⟨h, hf⟩ := hf
  obtain ⟨later, hlater, -⟩ := bind_eq_ok_iff.mp hf
  obtain ⟨_, _, hrest⟩ := bind_eq_ok_iff.mp hlater
  obtain ⟨key, hkey, -⟩ := bind_eq_ok_iff.mp hrest
  have hlifted : ∃ least, Version.later since g.since = .ok least := by
    rw [hempty]
    exact ⟨_, bind_eq_ok_iff.mpr ⟨[], rfl, bind_eq_ok_iff.mpr ⟨key, hkey, rfl⟩⟩⟩
  obtain ⟨least, hleast⟩ := hlifted
  exact ⟨_, bind_eq_ok_iff.mpr ⟨least, hleast, rfl⟩⟩

theorem exists_liftAll_of_subset (h : obj.liftAll doc fragments = .ok lifted)
    (hpart : part ⊆ fragments) : ∃ l, obj.liftAll doc part = .ok l :=
  exists_mapM_eq_ok fun _ hf => exists_of_mapM_of_mem h (hpart hf)

theorem liftAll_append_eq_ok_iff :
    obj.liftAll doc (fragments ++ part) = .ok lifted ↔ ∃ l l',
      obj.liftAll doc fragments = .ok l ∧ obj.liftAll doc part = .ok l' ∧ lifted = l ++ l' := by
  unfold liftAll
  rw [List.mapM_append, bind_eq_ok_iff]
  constructor
  · rintro ⟨l, hl, h⟩
    obtain ⟨l', hl', h⟩ := bind_eq_ok_iff.mp h
    exact ⟨l, l', hl, hl', (Except.ok.inj h).symm⟩
  · rintro ⟨l, l', hl, hl', rfl⟩
    exact ⟨l, hl, bind_eq_ok_iff.mpr ⟨l', hl', rfl⟩⟩

theorem liftAll_flatMap {section₁ section₂ : MemberKind → List Fragment}
    (h : ∀ kind, obj.liftAll doc (section₁ kind) = .ok (section₂ kind)) (kinds : List MemberKind) :
    obj.liftAll doc (kinds.flatMap section₁) = .ok (kinds.flatMap section₂) := by
  induction kinds with
  | nil => rfl
  | cons kind kinds ih =>
    rw [List.flatMap_cons, List.flatMap_cons]
    exact liftAll_append_eq_ok_iff.mpr ⟨_, _, h kind, ih, rfl⟩

end Object

theorem moduleExports_eq_ok_iff {settings : Settings} {obj : Object} {doc : ModuleDoc}
    {prior : PriorModule} {text : String} :
    (moduleExports settings obj doc prior).outcome = .ok text ↔
      ∃ lifted, obj.liftAll doc (obj.exportFragments settings doc prior) = .ok lifted ∧
        text = guarded settings "\n" lifted := by
  unfold moduleExports
  simp only [Logged.outcome_bind, Logged.outcome_ofExcept, bind_eq_ok_iff]
  constructor
  · rintro ⟨-, -, lifted, hlifted, htext⟩
    exact ⟨lifted, hlifted, (Except.ok.inj htext).symm⟩
  · rintro ⟨lifted, hlifted, rfl⟩
    exact ⟨(), rfl, lifted, hlifted, rfl⟩

/-! ### Names of definitions -/

namespace Definition

variable {symbols : SymbolTable} {settings : Settings} {obj : Object} {x : Definition}

theorem toExport_ofFunction {isConstructor : Bool} {e : FunctionEntry}
    (h : (ofFunction symbols settings isConstructor e).outcome = .ok x) :
    x.toExport = Export.ofFunction settings e := by
  obtain ⟨b, text, hb, -, rfl⟩ := ofFunction_eq_ok_iff.mp h
  obtain ⟨parameters, -, hb⟩ := bind_eq_ok_iff.mp hb
  obtain ⟨result, -, hb⟩ := bind_eq_ok_iff.mp hb
  cases hb
  rfl

theorem toExport_ofProperty {e : PropertyEntry} (h : ofProperty symbols settings obj e = .ok x) :
    x.toExport = Export.ofProperty obj e := by
  obtain ⟨a, text, ha, -, rfl⟩ := ofProperty_eq_ok_iff.mp h
  have hname : a.name = Attribute.nameFor obj e.impl.name := by
    cases himpl : e.impl with
    | declared p =>
      rw [himpl] at ha
      obtain ⟨marshaled, -, ha⟩ := bind_eq_ok_iff.mp ha
      cases ha
      rfl
    | accessors pair =>
      rw [himpl] at ha
      obtain ⟨result, -, ha⟩ := bind_eq_ok_iff.mp ha
      cases ha
      rfl
  rw [Definition.toExport, Defined.names, hname]
  rfl

theorem toExport_ofSignal {e : SignalEntry} (h : ofSignal symbols settings obj e = .ok x) :
    x.toExport = Export.ofSignal e := by
  obtain ⟨handler, text, -, -, rfl⟩ := ofSignal_eq_ok_iff.mp h
  rfl

end Definition

/-! ### Exports and definitions -/

section Sections

variable {symbols : SymbolTable} {settings : Settings} {obj : Object} {doc : ModuleDoc}
  {prior : PriorModule} {d : Definitions}

theorem Export.inPriorOrder_perm (prior : PriorModule) (exports : List Export) :
    (Export.inPriorOrder prior exports).Perm exports := List.mergeSort_perm _ _

/-- An export does not depend on the prior calls, nor does the set of constructors. -/
theorem Object.constructorExports_perm (docs : List FunctionDoc) (priors priors' : List PriorCall) :
    ((obj.constructorEntries settings docs priors).map (Export.ofFunction settings)).Perm
      ((obj.constructorEntries settings docs priors').map (Export.ofFunction settings)) := by
  rw [constructorEntries_eq_map, constructorEntries_eq_map, List.map_map, List.map_map]
  exact ((obj.orderedConstructors_perm priors).trans
    (obj.orderedConstructors_perm priors').symm).map _

theorem Object.methodEntries_perm (docs : List FunctionDoc) (priors : List PriorCall)
    (priorFirst priorFirst' : Bool) :
    (obj.methodEntries docs priors priorFirst).Perm
      (obj.methodEntries docs priors priorFirst') := by
  rw [methodEntries_eq_map, methodEntries_eq_map]
  exact (obj.orderedMethods_perm_orderedMethods docs priors docs priorFirst priorFirst').map _

/-- A section exports what it defines, behind the same guards, in some order. -/
theorem Object.exportsOf_perm
    (hd : (obj.definitions symbols settings doc prior).outcome = .ok d) (kind : MemberKind) :
    (obj.exportsOf settings doc prior kind).Perm ((d.ofKind kind).map (·.toExport)) := by
  obtain ⟨hc, hm, ha, hs⟩ := definitions_eq_ok_iff.mp hd
  cases kind with
  | constructors =>
    have hmap : d.constructors.map (·.toExport) =
        (obj.constructorEntries settings doc.functions prior.calls).map
          (Export.ofFunction settings) :=
      map_eq_of_mapM hc fun e x h => Definition.toExport_ofFunction h
    show (Export.inPriorOrder prior _).Perm (d.constructors.map (·.toExport))
    rw [hmap]
    exact (Export.inPriorOrder_perm _ _).trans (constructorExports_perm _ _ _)
  | methods =>
    have hmap : d.methods.map (·.toExport) =
        (obj.methodEntries doc.functions prior.calls true).map (Export.ofFunction settings) :=
      map_eq_of_mapM hm fun e x h => Definition.toExport_ofFunction h
    show (Export.inPriorOrder prior _).Perm (d.methods.map (·.toExport))
    rw [hmap]
    exact (Export.inPriorOrder_perm _ _).trans ((methodEntries_perm _ _ _ _).map _)
  | properties =>
    have hmap : d.attributes.map (·.toExport) =
        (obj.propertyEntries doc.properties).map (Export.ofProperty obj) :=
      map_eq_of_mapM ha fun e x h => Definition.toExport_ofProperty h
    show (obj.propertyExports doc).Perm (d.attributes.map (·.toExport))
    rw [hmap]
    exact List.Perm.refl _
  | signals =>
    have hmap : d.connectors.map (·.toExport) = (obj.signalEntries doc.signals).map Export.ofSignal :=
      map_eq_of_mapM hs fun e x h => Definition.toExport_ofSignal h
    show (Export.inPriorOrder prior _).Perm (d.connectors.map (·.toExport))
    rw [hmap]
    exact Export.inPriorOrder_perm _ _

end Sections
end BindingGen

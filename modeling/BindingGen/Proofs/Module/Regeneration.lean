/-
# Regeneration is a fixpoint

A module is generated again from the calls that it makes. The functions that its body defines are
read off as a list of prior calls (`Definitions.calls`), which is the list that its entries make
(`Definitions.calls_eq`); so the body comes out as it was, and with other documentation it binds the
same functions in the same order.

Key definitions: `Definitions.calls`, `Binding.undocumented`, `Definitions.constructorFunctions`,
`Definitions.methodFunctions`.
Key theorems: `Definitions.calls_eq`, `functions_eq_of_bare_eq`, `moduleBody_regenerates`.
-/
import BindingGen.Proofs.Member.Regeneration
import BindingGen.Proofs.Module.Definition

namespace BindingGen

/-- The call that a definition makes, if it is that of a function. -/
def Definition.call? (x : Definition) : Option PriorCall :=
  match x.defined with
  | .function b => some b.hook.priorCall
  | _ => none

/-- The calls that a module makes, in the order of its text. -/
def Definitions.calls (d : Definitions) : List PriorCall :=
  (d.constructors ++ d.methods).filterMap (·.call?)

/-- A function without what is said of it. -/
def Binding.undocumented (b : Binding) : Binding := { b with docs := [], paragraphs := [] }

/-- The function that a definition defines, without what is said of it. -/
def Definition.function? (x : Definition) : Option Binding :=
  match x.defined with
  | .function b => some b.undocumented
  | _ => none

/-- The constructors of a module, in the order of its text. -/
def Definitions.constructorFunctions (d : Definitions) : List Binding :=
  d.constructors.filterMap (·.function?)

/-- The methods of a module, in the order of its text. -/
def Definitions.methodFunctions (d : Definitions) : List Binding :=
  d.methods.filterMap (·.function?)

/-! ### Functions and their entries -/

section Functions

variable {symbols : SymbolTable} {settings : Settings} {isConstructor : Bool}

/-- Of its prior call, a function depends on the hook only. -/
theorem Binding.ofMethod_of_hook_eq {method : Method} {doc : Option FunctionDoc}
    {prior prior' : Option PriorCall}
    (h : CallHook.ofPrior method.cname prior = CallHook.ofPrior method.cname prior') :
    Binding.ofMethod symbols settings isConstructor method doc prior =
      Binding.ofMethod symbols settings isConstructor method doc prior' := by
  unfold ofMethod
  rw [h]

/-- But for what is said of it, a function does not depend on its documentation. -/
theorem Binding.undocumented_ofMethod (method : Method) (doc doc' : Option FunctionDoc)
    (prior : Option PriorCall) :
    undocumented <$> ofMethod symbols settings isConstructor method doc prior =
      undocumented <$> ofMethod symbols settings isConstructor method doc' prior := by
  unfold ofMethod
  simp only [map_bind, map_pure]
  rfl

/-- The function of an entry, without what is said of it, if it can be bound. -/
def FunctionEntry.function? (symbols : SymbolTable) (settings : Settings) (isConstructor : Bool)
    (e : FunctionEntry) : Option Binding :=
  (Binding.undocumented <$>
    Binding.ofMethod symbols settings isConstructor e.method e.doc e.prior).toOption

theorem FunctionEntry.function?_of_bare_eq {e e' : FunctionEntry} (h : e.bare = e'.bare) :
    e.function? symbols settings isConstructor = e'.function? symbols settings isConstructor := by
  obtain ⟨hmethod, hhook⟩ := Prod.mk.inj h
  unfold FunctionEntry.hook at hhook
  rw [← hmethod] at hhook
  rw [FunctionEntry.function?, Binding.undocumented_ofMethod e.method e.doc e'.doc,
    Binding.ofMethod_of_hook_eq hhook, hmethod, FunctionEntry.function?]

variable {x : Definition} {e : FunctionEntry}

theorem Definition.call?_ofFunction
    (h : (ofFunction symbols settings isConstructor e).outcome = .ok x) :
    x.call? = some e.hook.priorCall := by
  obtain ⟨b, text, hb, -, rfl⟩ := ofFunction_eq_ok_iff.mp h
  unfold Binding.ofMethod at hb
  obtain ⟨parameters, -, hb⟩ := bind_eq_ok_iff.mp hb
  obtain ⟨result, -, hb⟩ := bind_eq_ok_iff.mp hb
  cases hb
  rfl

theorem Definition.function?_ofFunction
    (h : (ofFunction symbols settings isConstructor e).outcome = .ok x) :
    x.function? = e.function? symbols settings isConstructor := by
  obtain ⟨b, text, hb, -, rfl⟩ := ofFunction_eq_ok_iff.mp h
  rw [FunctionEntry.function?, hb]
  rfl

theorem Definition.ofFunction_of_hook_eq {e' : FunctionEntry} (hmethod : e.method = e'.method)
    (hdoc : e.doc = e'.doc) (hhook : e.hook = e'.hook) :
    ofFunction symbols settings isConstructor e = ofFunction symbols settings isConstructor e' := by
  unfold FunctionEntry.hook at hhook
  rw [← hmethod] at hhook
  unfold ofFunction
  rw [Binding.ofMethod_of_hook_eq hhook, hdoc, hmethod]

end Functions

/-! ### Regeneration -/

section Regeneration

variable {symbols : SymbolTable} {settings : Settings} {obj : Object} {doc : ModuleDoc}
  {prior : PriorModule} {d : Definitions}

theorem Definitions.calls_eq
    (hd : (obj.definitions symbols settings doc prior).outcome = .ok d) :
    d.calls = obj.calls settings doc.functions prior.calls := by
  obtain ⟨hc, hm, -, -⟩ := Object.definitions_eq_ok_iff.mp hd
  have hcall : (d.constructors ++ d.methods).map (·.call?) =
      (obj.functionEntries settings doc.functions prior.calls).map
        fun e => some e.hook.priorCall := by
    rw [Object.functionEntries, List.map_append, List.map_append,
      map_eq_of_mapM hc fun e x h => Definition.call?_ofFunction h,
      map_eq_of_mapM hm fun e x h => Definition.call?_ofFunction h]
  have hsome := congrArg (List.filterMap id) hcall
  rw [List.filterMap_map, List.filterMap_map] at hsome
  rw [Definitions.calls, Object.calls, ← List.filterMap_eq_map]
  exact hsome

/-- Modules whose entries differ in their documentation only define the same functions. -/
theorem functions_eq_of_bare_eq {isConstructor : Bool} {entries entries' : List FunctionEntry}
    {defs defs' : List Definition}
    (h : entries.mapM (fun e => (Definition.ofFunction symbols settings isConstructor e).outcome) =
      .ok defs)
    (h' : entries'.mapM
      (fun e => (Definition.ofFunction symbols settings isConstructor e).outcome) = .ok defs')
    (hbare : entries.map (·.bare) = entries'.map (·.bare)) :
    defs.filterMap (·.function?) = defs'.filterMap (·.function?) := by
  have hentries : ∀ {l l' : List FunctionEntry}, l.map (·.bare) = l'.map (·.bare) →
      l.map (·.function? symbols settings isConstructor) =
        l'.map (·.function? symbols settings isConstructor) := by
    intro l l' hl
    rw [← List.forall₂_eq_eq_eq, List.forall₂_map_left_iff, List.forall₂_map_right_iff] at hl ⊢
    exact hl.imp fun e e' he => FunctionEntry.function?_of_bare_eq he
  have hmap : defs.map (·.function?) = defs'.map (·.function?) := by
    rw [map_eq_of_mapM h fun e x hx => Definition.function?_ofFunction hx,
      map_eq_of_mapM h' fun e x hx => Definition.function?_ofFunction hx]
    exact hentries hbare
  have hfilter := congrArg (List.filterMap id) hmap
  rwa [List.filterMap_map, List.filterMap_map] at hfilter

variable (hfull : ∀ c ∈ prior.calls, c.hookName = c.cname) (hdistinct : obj.functionNames.Nodup)
include hfull hdistinct

theorem constructorDefinitions_calls :
    obj.constructorDefinitions symbols settings doc.functions
        (obj.calls settings doc.functions prior.calls) =
      obj.constructorDefinitions symbols settings doc.functions prior.calls := by
  unfold Object.constructorDefinitions
  rw [Object.constructorEntries_eq_map, Object.constructorEntries_eq_map,
    Object.orderedConstructors_calls hfull hdistinct]
  congr 1
  funext _
  refine mapM_map_congr fun c hc => ?_
  exact Definition.ofFunction_of_hook_eq rfl rfl
    (Object.hook_calls hfull hdistinct (Object.constructorEntry_mem hc))

theorem methodDefinitions_calls :
    obj.methodDefinitions symbols settings doc.functions
        (obj.calls settings doc.functions prior.calls) =
      obj.methodDefinitions symbols settings doc.functions prior.calls := by
  have hrecords : obj.methodRecords (obj.calls settings doc.functions prior.calls) =
      obj.methodRecords prior.calls := by
    unfold Object.methodRecords
    refine List.flatMap_congr fun m hm => ?_
    rw [Object.isBound_calls hfull hdistinct hm]
  unfold Object.methodDefinitions
  rw [hrecords, Object.methodEntries_eq_map, Object.methodEntries_eq_map,
    Object.orderedMethods_calls hfull hdistinct]
  congr 1
  funext _
  refine mapM_map_congr fun m hm => ?_
  exact Definition.ofFunction_of_hook_eq rfl rfl
    (Object.hook_calls hfull hdistinct (Object.methodEntry_mem hm))

/-- **Regeneration is a fixpoint.** Where the functions of an object have distinct C names and no
prior call has a short name, the calls of a module give the same body again; and with other
documentation they give the same constructors and the same methods in the same order, with the same
hooks. -/
theorem moduleBody_regenerates
    (hd : (obj.definitions symbols settings doc prior).outcome = .ok d) :
    moduleBody symbols settings obj doc { prior with calls := d.calls } =
        moduleBody symbols settings obj doc prior ∧
      ∀ doc' : ModuleDoc,
        (obj.constructorEntries settings doc'.functions d.calls).map (·.bare) =
            (obj.constructorEntries settings doc.functions prior.calls).map (·.bare) ∧
          (obj.methodEntries doc'.functions d.calls true).map (·.bare) =
            (obj.methodEntries doc.functions prior.calls true).map (·.bare) ∧
          ∀ d', (obj.definitions symbols settings doc' { prior with calls := d.calls }).outcome =
              .ok d' →
            d'.constructorFunctions = d.constructorFunctions ∧
              d'.methodFunctions = d.methodFunctions := by
  have hcalls : d.calls = obj.calls settings doc.functions prior.calls := Definitions.calls_eq hd
  rw [hcalls]
  refine ⟨?_, fun doc' => ?_⟩
  · unfold moduleBody Object.definitions
    rw [constructorDefinitions_calls hfull hdistinct, methodDefinitions_calls hfull hdistinct]
  · have hconstructors := Object.bare_constructorEntries_calls hfull hdistinct settings
      doc.functions doc'.functions
    have hmethods := Object.bare_methodEntries_calls hfull hdistinct settings doc.functions
      doc'.functions
    refine ⟨hconstructors, hmethods, fun d' hd' => ?_⟩
    obtain ⟨hc, hm, -, -⟩ := Object.definitions_eq_ok_iff.mp hd
    obtain ⟨hc', hm', -, -⟩ := Object.definitions_eq_ok_iff.mp hd'
    exact ⟨functions_eq_of_bare_eq hc' hc hconstructors, functions_eq_of_bare_eq hm' hm hmethods⟩

end Regeneration

/-- An object with a constructor and two methods, the second of them deprecated. -/
def grabbedButton : Object where
  name := "Button"
  cname := "GtkButton"
  constructors := [{ name := "New", cname := "gtk_button_new" }]
  methods := [
    { name := "Press", cname := "gtk_button_press", returnType := "void" },
    { name := "Grab", cname := "gtk_button_grab", returnType := "void", deprecated := true }]

/-- The deprecated method was called before. -/
def grabbedButtonPrior : PriorModule where
  calls := [{ cname := "gtk_button_grab", isUnsafe := true }]

theorem orderedMethods_grabbedButton :
    grabbedButton.orderedMethods [] grabbedButtonPrior.calls true =
      [{ name := "Grab", cname := "gtk_button_grab", returnType := "void", deprecated := true },
        { name := "Press", cname := "gtk_button_press", returnType := "void" }] := by
  refine mergeSort_places_eq_of_perm _ (List.isPerm_iff.mp (by decide +kernel)) ?_
  simp only [List.pairwise_cons]
  decide +kernel

/-- The module of the object calls its three functions, and from these calls it comes again. -/
theorem moduleBody_regenerates_grabbedButton :
    (∀ c ∈ grabbedButtonPrior.calls, c.hookName = c.cname) ∧ grabbedButton.functionNames.Nodup ∧
    ∃ d, (grabbedButton.definitions [("GtkButton", .object ["GtkButton", "GObject"])] {}
        { name := "GtkButton" } grabbedButtonPrior).outcome = .ok d ∧
      d.calls = [{ cname := "gtk_button_new" }, { cname := "gtk_button_grab", isUnsafe := true },
        { cname := "gtk_button_press" }] ∧
      moduleBody [("GtkButton", .object ["GtkButton", "GObject"])] {} grabbedButton
          { name := "GtkButton" } { grabbedButtonPrior with calls := d.calls } =
        moduleBody [("GtkButton", .object ["GtkButton", "GObject"])] {} grabbedButton
          { name := "GtkButton" } grabbedButtonPrior := by
  have hfull : ∀ c ∈ grabbedButtonPrior.calls, c.hookName = c.cname := by decide
  have hdistinct : grabbedButton.functionNames.Nodup := by decide
  refine ⟨hfull, hdistinct, ?_⟩
  have hcalls : ((grabbedButton.definitions [("GtkButton", .object ["GtkButton", "GObject"])] {}
      { name := "GtkButton" } grabbedButtonPrior).outcome.map (·.calls)).toOption =
        some [{ cname := "gtk_button_new" }, { cname := "gtk_button_grab", isUnsafe := true },
          { cname := "gtk_button_press" }] := by
    unfold Object.definitions Object.methodDefinitions
    rw [Object.methodEntries_eq_map, orderedMethods_grabbedButton]
    decide +kernel
  obtain ⟨calls, hok⟩ := exists_ok_of_isSome (Option.isSome_of_eq_some hcalls)
  obtain ⟨d, hd, rfl⟩ := map_eq_ok_iff.mp hok
  rw [hok] at hcalls
  exact ⟨d, hd, Option.some.inj hcalls, (moduleBody_regenerates hfull hdistinct hd).1⟩

end BindingGen

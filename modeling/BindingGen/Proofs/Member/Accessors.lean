/-
# Attributes rest on the functions of the object

The attribute of a pair of accessors calls two methods of the object by their Haskell names. The
getter is always bound: it has no parameter, so that its parameter list has an end, and it is not
deprecated. The one parameter of the setter may be the mark of a variable argument list, which the
shape of an accessor counts as a value; such a setter is not bound, although the attribute calls it.
The functions take the object, and the object and a value, unless they are shared: a shared pair
has the shape of accessors as well, and takes no object.

Key definitions: `Accessors.IsPairOf`, `Object.Binds`, `Object.selfParameter`.
Key theorems: `Accessors.isPairOf_of_mem_propertyEntries`, `Object.binds_iff_of_live`,
`Object.parameters_asFunction_eq_iff`, `Definition.exists_of_binds`, `accessors_rest_on_functions`.
-/
import BindingGen.Proofs.Module.Section

namespace BindingGen

/-- Two methods of the object that are not deprecated, one without parameters and one with a single
parameter. -/
structure Accessors.IsPairOf (obj : Object) (pair : Accessors) : Prop where
  getter_mem : pair.getter ∈ obj.methods
  setter_mem : pair.setter ∈ obj.methods
  getter_live : pair.getter.deprecated = false
  setter_live : pair.setter.deprecated = false
  getter_parameters : pair.getter.parameters = []
  setter_parameters : ∃ value, pair.setter.parameters = [value]

namespace Object

variable (obj : Object)

/-- The object as the first parameter of its methods. -/
def selfParameter : Parameter where
  type := obj.cname ++ "*"
  name := "self"

/-- The method is one of the bound functions. -/
def Binds (docs : List FunctionDoc) (priors : List PriorCall) (priorFirst : Bool) (m : Method) :
    Prop :=
  ∃ e ∈ obj.methodEntries docs priors priorFirst, e.method = obj.asFunction m

end Object

/-! ### Pairs of accessors -/

section Pairs

variable {obj : Object} {pair : Accessors}

theorem Object.mem_methodsStarting {start : String} {m : Method}
    (h : m ∈ obj.methodsStarting start) : m ∈ obj.methods ∧ m.deprecated = false := by
  obtain ⟨hm, htest⟩ := List.mem_filter.mp h
  rw [Bool.and_eq_true, Bool.not_eq_true'] at htest
  exact ⟨hm, htest.1⟩

theorem isAccessorShape_iff {getter setter : Method} :
    isAccessorShape getter setter = true ↔
      getter.parameters = [] ∧ (∃ value, setter.parameters = [value]) ∧
        setter.returnType = "void" := by
  simp [isAccessorShape, List.length_eq_one_iff, and_assoc]

theorem Accessors.isPairOf_of_mem_accessorPairs (h : pair ∈ obj.accessorPairs) :
    pair.IsPairOf obj := by
  obtain ⟨getter, hgetter, hpair⟩ := List.mem_filterMap.mp h
  split at hpair
  · rename_i setter hfind
    split at hpair
    · rename_i hshape
      obtain rfl := Option.some.inj hpair
      obtain ⟨hnone, hone, -⟩ := isAccessorShape_iff.mp hshape
      obtain ⟨hget, hgetLive⟩ := Object.mem_methodsStarting hgetter
      obtain ⟨hset, hsetLive⟩ := Object.mem_methodsStarting (List.mem_of_find?_eq_some hfind)
      exact ⟨hget, hset, hgetLive, hsetLive, hnone, hone⟩
    · cases hpair
  · cases hpair

/-- The accessors of a property are a pair of the object, whether the property is declared or not. -/
theorem Accessors.isPairOf_of_mem_propertyEntries {docs : List MemberDoc} {e : PropertyEntry}
    (he : e ∈ obj.propertyEntries docs) (hpair : e.impl = .accessors pair) :
    pair.IsPairOf obj := by
  have hfound : ∃ name, obj.accessors? name = some pair := by
    rcases List.mem_append.mp he with he | he
    · obtain ⟨p, -, rfl⟩ := List.mem_map.mp he
      refine ⟨p.name, ?_⟩
      simp only [Object.declaredEntry] at hpair
      cases hfirst : obj.accessors? p.name with
      | none =>
        rw [hfirst] at hpair
        cases hpair
      | some own =>
        rw [hfirst] at hpair
        exact congrArg some (PropertyImpl.accessors.inj hpair)
    · obtain ⟨own, hown, rfl⟩ := List.mem_map.mp he
      obtain rfl := PropertyImpl.accessors.inj hpair
      obtain ⟨name, -, hfirst⟩ := List.mem_filterMap.mp hown
      exact ⟨name, hfirst⟩
  obtain ⟨name, hfirst⟩ := hfound
  exact isPairOf_of_mem_accessorPairs (mem_of_firstNamed? hfirst).1

end Pairs

/-! ### Methods as functions -/

namespace Object

variable (obj : Object) {docs : List FunctionDoc} {priors : List PriorCall} {priorFirst : Bool}
  {m : Method}

theorem hasVarargs_asFunction (m : Method) :
    hasVarargs (obj.asFunction m).parameters = hasVarargs m.parameters := by
  unfold asFunction
  cases m.shared <;> simp [hasVarargs]

theorem parameters_asFunction_eq_iff :
    (obj.asFunction m).parameters = obj.selfParameter :: m.parameters ↔ m.shared = false := by
  unfold asFunction
  cases m.shared with
  | false => simp [selfParameter]
  | true => simp [List.ne_cons_self]

/-- A method that is not deprecated is bound exactly if its parameter list has an end. -/
theorem binds_iff_of_live (hm : m ∈ obj.methods) (hlive : m.deprecated = false) :
    obj.Binds docs priors priorFirst m ↔ hasVarargs m.parameters = false := by
  unfold Binds
  rw [methodEntries_eq_map]
  constructor
  · rintro ⟨e, he, hfunction⟩
    obtain ⟨bound, hbound, rfl⟩ := List.mem_map.mp he
    have hfilter := (obj.orderedMethods_perm docs priors priorFirst).mem_iff.mp hbound
    have hfinite : hasVarargs bound.parameters = false := by
      have htest := (List.mem_filter.mp hfilter).2
      rw [isBound, Bool.and_eq_true, Bool.not_eq_true'] at htest
      exact htest.1
    calc hasVarargs m.parameters
        = hasVarargs (obj.asFunction m).parameters := (obj.hasVarargs_asFunction m).symm
      _ = hasVarargs (obj.asFunction bound).parameters := by rw [← hfunction]; rfl
      _ = false := (obj.hasVarargs_asFunction bound).trans hfinite
  · intro hfinite
    have htest : isBound priors m = true := by simp [isBound, hfinite, hlive]
    have hordered : m ∈ obj.orderedMethods docs priors priorFirst :=
      (obj.orderedMethods_perm docs priors priorFirst).mem_iff.mpr (List.mem_filter.mpr ⟨hm, htest⟩)
    exact ⟨obj.methodEntry docs priors m, List.mem_map_of_mem hordered, rfl⟩

end Object

/-! ### Names that attributes call -/

theorem Definition.exists_of_binds {symbols : SymbolTable} {settings : Settings} {obj : Object}
    {doc : ModuleDoc} {prior : PriorModule} {d : Definitions}
    (hd : (obj.definitions symbols settings doc prior).outcome = .ok d) {m : Method}
    (hm : obj.Binds doc.functions prior.calls true m) :
    ∃ x ∈ d.methods, x.defined.names = [Name.ofFunction settings m.cname] := by
  obtain ⟨-, hmethods, -⟩ := Object.definitions_eq_ok_iff.mp hd
  have hexports : d.methods.map (·.toExport) =
      (obj.methodEntries doc.functions prior.calls true).map (Export.ofFunction settings) :=
    map_eq_of_mapM hmethods fun e x h => toExport_ofFunction h
  obtain ⟨e, he, hfunction⟩ := hm
  have hexport : Export.ofFunction settings e ∈ d.methods.map (·.toExport) :=
    hexports ▸ List.mem_map_of_mem he
  obtain ⟨x, hx, hsame⟩ := List.mem_map.mp hexport
  refine ⟨x, hx, ?_⟩
  calc x.defined.names
      = (Export.ofFunction settings e).names := congrArg Export.names hsame
    _ = [Name.ofFunction settings m.cname] := by rw [Export.ofFunction, hfunction]; rfl

theorem Attribute.calls_of_ofAccessors {symbols : SymbolTable} {settings : Settings} {obj : Object}
    {pair : Accessors} {a : Attribute} (h : ofAccessors symbols settings obj pair = .ok a) :
    a.getter = Name.ofFunction settings pair.getter.cname ∧
      a.setter = Name.ofFunction settings pair.setter.cname := by
  obtain ⟨result, -, ha⟩ := bind_eq_ok_iff.mp h
  cases ha
  exact ⟨rfl, rfl⟩

/-- **Attributes rest on functions.** Of the accessors of a property, the getter is bound, and the
setter is bound unless its parameter is the mark of a variable argument list; what is bound is
defined under the name that the attribute calls. The function of the getter takes the object only,
and that of the setter the object and the value, unless the method is shared. -/
theorem accessors_rest_on_functions (obj : Object) (doc : ModuleDoc) (prior : PriorModule)
    {e : PropertyEntry} (he : e ∈ obj.propertyEntries doc.properties) {pair : Accessors}
    (hpair : e.impl = .accessors pair) :
    ∃ value, pair.setter.parameters = [value] ∧
      (∀ priorFirst, obj.Binds doc.functions prior.calls priorFirst pair.getter ∧
        (obj.Binds doc.functions prior.calls priorFirst pair.setter ↔ value.isVarargs = false)) ∧
      ((obj.asFunction pair.getter).parameters = [obj.selfParameter] ↔
        pair.getter.shared = false) ∧
      ((obj.asFunction pair.setter).parameters = [obj.selfParameter, value] ↔
        pair.setter.shared = false) ∧
      ∀ symbols settings d a, (obj.definitions symbols settings doc prior).outcome = .ok d →
        Attribute.ofAccessors symbols settings obj pair = .ok a →
        (∃ x ∈ d.methods, x.defined.names = [a.getter]) ∧
        (value.isVarargs = false → ∃ x ∈ d.methods, x.defined.names = [a.setter]) := by
  have h := Accessors.isPairOf_of_mem_propertyEntries he hpair
  obtain ⟨value, hvalue⟩ := h.setter_parameters
  have hgetter : ∀ priorFirst, obj.Binds doc.functions prior.calls priorFirst pair.getter := by
    intro priorFirst
    rw [obj.binds_iff_of_live h.getter_mem h.getter_live, h.getter_parameters]
    rfl
  have hsetter : ∀ priorFirst, obj.Binds doc.functions prior.calls priorFirst pair.setter ↔
      value.isVarargs = false := by
    intro priorFirst
    rw [obj.binds_iff_of_live h.setter_mem h.setter_live, hvalue]
    simp [hasVarargs]
  refine ⟨value, hvalue, fun priorFirst => ⟨hgetter priorFirst, hsetter priorFirst⟩, ?_, ?_, ?_⟩
  · rw [← obj.parameters_asFunction_eq_iff, h.getter_parameters]
  · rw [← obj.parameters_asFunction_eq_iff, hvalue]
  · intro symbols settings d a hd ha
    obtain ⟨hget, hset⟩ := Attribute.calls_of_ofAccessors ha
    rw [hget, hset]
    exact ⟨Definition.exists_of_binds hd (hgetter true),
      fun hfinite => Definition.exists_of_binds hd ((hsetter true).mpr hfinite)⟩

/-- The accessors of a lamp's level. -/
def lampLevel : Accessors where
  getter := { name := "GetLevel", cname := "gtk_lamp_get_level", returnType := "gint" }
  setter := { name := "SetLevel", cname := "gtk_lamp_set_level", returnType := "void",
              parameters := [{ type := "gint", name := "level" }] }

/-- A lamp whose level is declared as a property and has accessors. -/
def dimmedLamp : Object where
  name := "Lamp"
  cname := "GtkLamp"
  methods := [lampLevel.getter, lampLevel.setter]
  properties := [{ name := "Level", cname := "level", type := "gint" }]

/-- Both accessors of the level are bound, and take the lamp. -/
theorem accessors_rest_on_functions_dimmedLamp :
    { impl := .accessors lampLevel, doc := none } ∈ dimmedLamp.propertyEntries [] ∧
      dimmedLamp.Binds [] [] true lampLevel.getter ∧
      dimmedLamp.Binds [] [] true lampLevel.setter ∧
      (dimmedLamp.asFunction lampLevel.getter).parameters = [dimmedLamp.selfParameter] ∧
      (dimmedLamp.asFunction lampLevel.setter).parameters =
        [dimmedLamp.selfParameter, { type := "gint", name := "level" }] := by
  have he : { impl := .accessors lampLevel, doc := none } ∈ dimmedLamp.propertyEntries [] := by
    decide +kernel
  obtain ⟨value, hvalue, hbinds, hgetter, hsetter, -⟩ :=
    accessors_rest_on_functions dimmedLamp { name := "GtkLamp" } {} he rfl
  obtain rfl : { type := "gint", name := "level" } = value := List.singleton_inj.mp hvalue
  exact ⟨he, (hbinds true).1, (hbinds true).2.mpr rfl, hgetter.mpr rfl, hsetter.mpr rfl⟩

/-- Accessors of a dial's mark; the setter has a variable argument list. -/
def dialMark : Accessors where
  getter := { name := "GetMark", cname := "gtk_dial_get_mark", returnType := "gint" }
  setter := { name := "SetMark", cname := "gtk_dial_set_mark", returnType := "void",
              parameters := [{ type := "", name := "...", isVarargs := true }] }

/-- A dial with a mark. -/
def markedDial : Object where
  name := "Dial"
  cname := "GtkDial"
  methods := [dialMark.getter, dialMark.setter]

/-- Accessors of a unit that all dials share. -/
def dialUnit : Accessors where
  getter := { name := "GetUnit", cname := "gtk_dial_get_unit", returnType := "gint",
              shared := true }
  setter := { name := "SetUnit", cname := "gtk_dial_set_unit", returnType := "void",
              parameters := [{ type := "gint", name := "unit" }], shared := true }

/-- A dial with a unit. -/
def unitDial : Object where
  name := "Dial"
  cname := "GtkDial"
  methods := [dialUnit.getter, dialUnit.setter]

/-- Attributes do not always rest on functions that take the object. The attribute of the mark calls
a setter although the getter alone is bound, and the accessors of the unit take no dial. -/
theorem not_accessors_rest_dials :
    (markedDial.propertyEntries [] = [{ impl := .accessors dialMark, doc := some dialMark.doc }] ∧
      ¬markedDial.Binds [] [] true dialMark.setter ∧
      (Attribute.ofAccessors [] {} markedDial dialMark).toOption.map (·.setter) =
        some "dialSetMark" ∧
      (markedDial.methodEntries [] [] true).map (fun e => Name.ofFunction {} e.method.cname) =
        ["dialGetMark"]) ∧
    unitDial.propertyEntries [] = [{ impl := .accessors dialUnit, doc := some dialUnit.doc }] ∧
      (unitDial.asFunction dialUnit.getter).parameters = [] ∧
      (unitDial.asFunction dialUnit.setter).parameters = [{ type := "gint", name := "unit" }] := by
  have hmark : ¬markedDial.Binds [] [] true dialMark.setter := by
    rw [markedDial.binds_iff_of_live (by decide) rfl]
    decide
  exact ⟨⟨by decide +kernel, hmark, by decide +kernel, by decide +kernel⟩, by decide +kernel,
    rfl, rfl⟩

end BindingGen

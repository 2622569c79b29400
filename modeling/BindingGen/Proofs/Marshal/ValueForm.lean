/-
# One Haskell type for each C type

A C type is read in four ways: as a parameter, as a result, as the value of a property and as an
argument of a signal. The values of properties come in seven forms, which are told from the pointers
of the type, from its base and from what the base stands for (`marshalPropertyType?_eq_some_iff`).
The other three ways take each of these forms to the same Haskell type, as long as nothing may be
null and no symbol bears the name of a primitive type. Only a parameter that is an object of a class
with subclasses has a type variable for its type.

Key definitions: `ValueForm`, `CType.HasForm`, `SymbolTable.FreeOfPrimitives`,
`CType.IsOpenObject`.
Key theorems: `marshalPropertyType?_eq_some_iff`, `CType.HasForm.marshalResultType?`,
`CType.HasForm.marshalSignalType?`, `CType.HasForm.marshalType?`, `marshalers_agree`.
-/
import BindingGen.Marshal.Result
import BindingGen.Marshal.Value
import BindingGen.Proofs.Marshal.Parameter

namespace BindingGen

/-! ### Types that can be handed over -/

section Marshal

variable {symbols : SymbolTable} {settings : Settings} {function owner type : String}

theorem marshalResult_eq_ok_iff {isConstructor : Bool} {m : MarshaledResult} :
    marshalResult symbols settings function isConstructor type = .ok m ↔
      marshalResultType? symbols settings function isConstructor (.parse type) = some m := by
  unfold marshalResult
  cases marshalResultType? symbols settings function isConstructor (.parse type) <;> simp

theorem marshalProperty_eq_ok_iff {m : HsType × String} :
    marshalProperty symbols settings owner type = .ok m ↔
      marshalPropertyType? symbols settings (.parse type) = some m := by
  unfold marshalProperty
  cases marshalPropertyType? symbols settings (.parse type) <;> simp

theorem marshalSignal_eq_ok_iff {m : String × HsType} :
    marshalSignal symbols settings owner type = .ok m ↔
      marshalSignalType? symbols settings (.parse type) = some m := by
  unfold marshalSignal
  cases marshalSignalType? symbols settings (.parse type) <;> simp

end Marshal

/-! ### Forms of values -/

/-- The forms of the values that a property can have. -/
inductive ValueForm where
  | primitive (p : Primitive)
  | untyped
  | enumeration (variety : Variety)
  | string
  | object
  | boxed
  | struct

namespace ValueForm

/-- The Haskell type of the values of a form; `hs` is the Haskell name of their C type. -/
def hsType (hs : String) : ValueForm → HsType
  | .primitive p => p.type
  | .untyped => .pointer
  | .enumeration variety => variety.hsType hs
  | .string => .string
  | .object | .boxed | .struct => .plain hs

/-- The tag of the values of a form. -/
def tag : ValueForm → String
  | .primitive p => p.boxedAs
  | .untyped => "GVpointer"
  | .enumeration .choice => "GVenum"
  | .enumeration .flags => "GVflags"
  | .string => "GVstring"
  | .object => "GVobject"
  | .boxed | .struct => "GVboxed"

/-- The type and the class constraint of an input of a form, whose variable is `name`. -/
def parameterType (hs name : String) (isLeaf : Bool) : ValueForm → HsType × Option String
  | .object => if isLeaf then (.plain hs, none) else (.plain name, some (hs ++ "Class " ++ name))
  | form => (form.hsType hs, none)

theorem parameterType_of_closed {form : ValueForm} {hs name : String} {isLeaf : Bool}
    (h : form = .object → isLeaf = true) :
    form.parameterType hs name isLeaf = (form.hsType hs, none) := by
  cases form with
  | object => rw [parameterType, h rfl]; rfl
  | _ => rfl

end ValueForm

/-- The values of a C type are of a form. A name that is read in several ways is a primitive type
before it is an untyped pointer, and both before it is a symbol; characters are what strings point
to before they are symbols. -/
inductive CType.HasForm (symbols : SymbolTable) (type : CType) : ValueForm → Prop
  | primitive {p : Primitive} : type.depth = 0 → Primitive.find? type.base = some p →
    HasForm symbols type (.primitive p)
  | untyped : type.depth = 0 → Primitive.find? type.base = none →
    pointerBases.contains type.base = true → HasForm symbols type .untyped
  | enumeration {variety : Variety} : type.depth = 0 → Primitive.find? type.base = none →
    pointerBases.contains type.base = false →
    symbols.lookup type.base = some (.enumeration variety) →
    HasForm symbols type (.enumeration variety)
  | string : type.depth = 1 → stringBases.contains type.base = true → HasForm symbols type .string
  | object {ancestors : List String} : type.depth = 1 → stringBases.contains type.base = false →
    symbols.lookup type.base = some (.object ancestors) → HasForm symbols type .object
  | boxed : type.depth = 1 → stringBases.contains type.base = false →
    symbols.lookup type.base = some .boxed → HasForm symbols type .boxed
  | struct : type.depth = 1 → stringBases.contains type.base = false →
    symbols.lookup type.base = some .struct → HasForm symbols type .struct

section Property

variable {symbols : SymbolTable} {settings : Settings} {type : CType}

theorem CType.HasForm.marshalPropertyType? {form : ValueForm} (h : type.HasForm symbols form) :
    marshalPropertyType? symbols settings type =
      some (form.hsType (Name.ofType settings type.base), form.tag) := by
  unfold BindingGen.marshalPropertyType?
  cases h with
  | primitive hdepth hp => simp only [hdepth, hp]; rfl
  | untyped hdepth hp hpointer => simp only [hdepth, hp, hpointer]; rfl
  | @enumeration variety hdepth hp hpointer hsymbol =>
    cases variety <;> simp only [hdepth, hp, hpointer, hsymbol] <;> rfl
  | string hdepth hstring => simp only [hdepth, hstring]; rfl
  | object hdepth hstring hsymbol => simp only [hdepth, hstring, hsymbol]; rfl
  | boxed hdepth hstring hsymbol => simp only [hdepth, hstring, hsymbol]; rfl
  | struct hdepth hstring hsymbol => simp only [hdepth, hstring, hsymbol]; rfl

theorem CType.exists_hasForm {t : HsType} {tag : String}
    (h : marshalPropertyType? symbols settings type = some (t, tag)) :
    ∃ form, type.HasForm symbols form ∧ t = form.hsType (Name.ofType settings type.base) ∧
      tag = form.tag := by
  revert h
  fun_cases marshalPropertyType? symbols settings type
  -- the types that no property has, and then each form in turn
  case case5 | case10 | case11 => exact fun h => by cases h
  case case1 hdepth p hp =>
    rintro ⟨⟩
    exact ⟨_, .primitive hdepth hp, rfl, rfl⟩
  case case2 hdepth hp hpointer =>
    rintro ⟨⟩
    exact ⟨_, .untyped hdepth hp hpointer, rfl, rfl⟩
  case case3 hs hdepth hp hpointer hsymbol | case4 hs hdepth hp hpointer hsymbol =>
    rintro ⟨⟩
    exact ⟨_, .enumeration hdepth hp (Bool.eq_false_iff.mpr hpointer) hsymbol, rfl, rfl⟩
  case case6 hdepth hstring =>
    rintro ⟨⟩
    exact ⟨_, .string hdepth hstring, rfl, rfl⟩
  case case7 hs hdepth hstring ancestors hsymbol =>
    rintro ⟨⟩
    exact ⟨_, .object hdepth (Bool.eq_false_iff.mpr hstring) hsymbol, rfl, rfl⟩
  case case8 hs hdepth hstring hsymbol =>
    rintro ⟨⟩
    exact ⟨_, .boxed hdepth (Bool.eq_false_iff.mpr hstring) hsymbol, rfl, rfl⟩
  case case9 hs hdepth hstring hsymbol =>
    rintro ⟨⟩
    exact ⟨_, .struct hdepth (Bool.eq_false_iff.mpr hstring) hsymbol, rfl, rfl⟩

/-- A property has a Haskell type exactly if its values are of one of the forms. -/
theorem marshalPropertyType?_eq_some_iff {t : HsType} {tag : String} :
    marshalPropertyType? symbols settings type = some (t, tag) ↔
      ∃ form, type.HasForm symbols form ∧ t = form.hsType (Name.ofType settings type.base) ∧
        tag = form.tag := by
  constructor
  · exact CType.exists_hasForm
  · rintro ⟨form, hform, rfl, rfl⟩
    exact hform.marshalPropertyType?

end Property

/-! ### Names of primitive types -/

/-- No symbol bears the name of a primitive type or of the type without values. -/
def SymbolTable.FreeOfPrimitives (symbols : SymbolTable) : Prop :=
  ∀ entry ∈ symbols, Primitive.find? entry.1 = none ∧ entry.1 ≠ "void"

instance (symbols : SymbolTable) : Decidable (SymbolTable.FreeOfPrimitives symbols) :=
  inferInstanceAs (Decidable (∀ entry ∈ symbols, Primitive.find? entry.1 = none ∧ entry.1 ≠ "void"))

theorem SymbolTable.FreeOfPrimitives.of_lookup {symbols : SymbolTable}
    (hfree : SymbolTable.FreeOfPrimitives symbols) {base : String} {symbol : CSymbol}
    (h : symbols.lookup base = some symbol) : Primitive.find? base = none ∧ base ≠ "void" :=
  hfree (base, symbol) (mem_of_lookup_eq_some h)

/-! ### The other readings -/

namespace CType.HasForm

variable {symbols : SymbolTable} {type : CType} {form : ValueForm}

theorem base_ne_void (h : type.HasForm symbols form) (hdepth : type.depth = 0)
    (hfree : SymbolTable.FreeOfPrimitives symbols) : type.base ≠ "void" := by
  cases h with
  | primitive _ hp =>
    intro hvoid
    have hnone : Primitive.find? "void" = none := by decide
    rw [hvoid, hnone] at hp
    cases hp
  | untyped _ _ hpointer =>
    intro hvoid
    rw [hvoid] at hpointer
    exact absurd hpointer (by decide)
  | enumeration _ _ _ hsymbol => exact (hfree.of_lookup hsymbol).2
  | string hone | object hone | boxed hone | struct hone => omega

/-- A result that is not null has the Haskell type of its form. -/
theorem marshalResultType? (h : type.HasForm symbols form)
    (hfree : SymbolTable.FreeOfPrimitives symbols) {settings : Settings} {function : String}
    (hresult : settings.maybeNullResult function = false) (isConstructor : Bool) :
    ∃ glue, marshalResultType? symbols settings function isConstructor type =
      some ⟨form.hsType (Name.ofType settings type.base), glue⟩ := by
  have hvoid : type.depth = 0 → type.base ≠ "void" := fun hdepth => h.base_ne_void hdepth hfree
  unfold BindingGen.marshalResultType?
  cases h with
  | primitive hdepth hp => exact ⟨_, by simp only [hdepth, hvoid hdepth, hp]; rfl⟩
  | untyped hdepth hp hpointer =>
    exact ⟨_, by simp only [hdepth, hvoid hdepth, hp, hpointer]; rfl⟩
  | enumeration hdepth hp hpointer hsymbol =>
    exact ⟨_, by simp only [hdepth, hvoid hdepth, hp, hpointer, hsymbol]; rfl⟩
  | string hdepth hstring => exact ⟨_, by simp only [hdepth, hstring, hresult]; rfl⟩
  | object hdepth hstring hsymbol =>
    exact ⟨_, by simp only [hdepth, hstring, hsymbol, hresult]; rfl⟩
  | boxed hdepth hstring hsymbol => exact ⟨_, by simp only [hdepth, hstring, hsymbol]; rfl⟩
  | struct hdepth hstring hsymbol => exact ⟨_, by simp only [hdepth, hstring, hsymbol]; rfl⟩

/-- A signal argument has the Haskell type of its form. -/
theorem marshalSignalType? (h : type.HasForm symbols form)
    (hfree : SymbolTable.FreeOfPrimitives symbols) (settings : Settings) :
    ∃ category, marshalSignalType? symbols settings type =
      some (category, form.hsType (Name.ofType settings type.base)) := by
  have hvoid : type.depth = 0 → type.base ≠ "void" := fun hdepth => h.base_ne_void hdepth hfree
  unfold BindingGen.marshalSignalType?
  cases h with
  | primitive hdepth hp => exact ⟨_, by simp only [hdepth, hvoid hdepth, hp]; rfl⟩
  | untyped hdepth hp hpointer =>
    exact ⟨_, by simp only [hdepth, hvoid hdepth, hp, hpointer]; rfl⟩
  | @enumeration variety hdepth hp hpointer hsymbol =>
    cases variety <;> exact ⟨_, by simp only [hdepth, hvoid hdepth, hp, hpointer, hsymbol]; rfl⟩
  | string hdepth hstring => exact ⟨_, by simp only [hdepth, hstring]; rfl⟩
  | object hdepth hstring hsymbol => exact ⟨_, by simp only [hdepth, hstring, hsymbol]; rfl⟩
  | boxed hdepth hstring hsymbol => exact ⟨_, by simp only [hdepth, hstring, hsymbol]; rfl⟩
  | struct hdepth hstring hsymbol => exact ⟨_, by simp only [hdepth, hstring, hsymbol]; rfl⟩

/-- A parameter that is not null is an input. It has the Haskell type of its form, but an object of
a class with subclasses has the parameter's variable for its type, with a class constraint. -/
theorem marshalType? (h : type.HasForm symbols form)
    (hfree : SymbolTable.FreeOfPrimitives symbols) {settings : Settings} {function name : String}
    (hparameter : settings.maybeNullParameter function name = false) :
    ∃ m, marshalType? symbols settings function name type = some m ∧ m.direction = .input ∧
      (m.type, m.constraint) =
        form.parameterType (Name.ofType settings type.base) name (settings.isLeaf type.base) := by
  unfold BindingGen.marshalType?
  cases h with
  | primitive hdepth hp => exact ⟨_, by simp only [hdepth, hp]; rfl, rfl, rfl⟩
  | untyped hdepth hp hpointer =>
    exact ⟨_, by simp only [hdepth, hp, hpointer]; rfl, rfl, rfl⟩
  | enumeration hdepth hp hpointer hsymbol =>
    exact ⟨_, by simp only [hdepth, hp, hpointer, hsymbol]; rfl, rfl, rfl⟩
  | string hdepth hstring =>
    exact ⟨_, by simp only [hdepth, hstring, hparameter]; rfl, rfl, rfl⟩
  | object hdepth hstring hsymbol =>
    have hp := (hfree.of_lookup hsymbol).1
    refine ⟨_, by simp only [hdepth, hstring, hsymbol, hparameter, hp, ite_self]; rfl, rfl, ?_⟩
    cases settings.isLeaf type.base <;> rfl
  | boxed hdepth hstring hsymbol =>
    have hp := (hfree.of_lookup hsymbol).1
    exact ⟨_, by simp only [hdepth, hstring, hsymbol, hp, ite_self]; rfl, rfl, rfl⟩
  | struct hdepth hstring hsymbol =>
    have hp := (hfree.of_lookup hsymbol).1
    exact ⟨_, by simp only [hdepth, hstring, hsymbol, hp, ite_self]; rfl, rfl, rfl⟩

theorem eq_object (h : type.HasForm symbols form) (hobject : type.HasForm symbols .object) :
    form = .object := by
  cases hobject with
  | object hdepth hstring hsymbol =>
    cases h with
    | primitive hzero | untyped hzero | enumeration hzero => omega
    | string _ hchars =>
      rw [hchars] at hstring
      cases hstring
    | object => rfl
    | boxed _ _ hother | struct _ _ hother =>
      rw [hother] at hsymbol
      cases hsymbol

end CType.HasForm

/-! ### Agreement -/

/-- The values of a C type are objects of a class that may have subclasses. -/
def CType.IsOpenObject (symbols : SymbolTable) (settings : Settings) (type : CType) : Prop :=
  type.HasForm symbols .object ∧ settings.isLeaf type.base = false

/-- **A C type has one Haskell type.** What is the type of a property is, wherever nothing may be
null and no symbol bears the name of a primitive type, the type of a result and of a signal
argument as well. It is the type of an input too, but for an object of a class with subclasses:
there the type is a variable named after the parameter and constrained by the class. -/
theorem marshalers_agree {symbols : SymbolTable} {settings : Settings}
    (hfree : SymbolTable.FreeOfPrimitives symbols) {function name : String}
    (hresult : settings.maybeNullResult function = false)
    (hparameter : settings.maybeNullParameter function name = false) {owner type : String}
    {t : HsType} {tag : String} (h : marshalProperty symbols settings owner type = .ok (t, tag)) :
    (∀ isConstructor, ∃ glue,
        marshalResult symbols settings function isConstructor type = .ok ⟨t, glue⟩) ∧
      (∀ emitter, ∃ category, marshalSignal symbols settings emitter type = .ok (category, t)) ∧
      ∃ m, marshalParameter symbols settings function name type = .ok m ∧ m.direction = .input ∧
        ((CType.parse type).IsOpenObject symbols settings →
          m.type = .plain name ∧ m.constraint = some (t.render ++ "Class " ++ name)) ∧
        (¬(CType.parse type).IsOpenObject symbols settings → m.type = t ∧ m.constraint = none) := by
  obtain ⟨form, hform, rfl, -⟩ :=
    marshalPropertyType?_eq_some_iff.mp (marshalProperty_eq_ok_iff.mp h)
  obtain ⟨m, hm, hinput, htype⟩ := hform.marshalType? hfree hparameter
  refine ⟨fun isConstructor => ?_, fun emitter => ?_, m, marshalParameter_eq_ok_iff.mpr hm, hinput,
    fun hopen => ?_, fun hclosed => ?_⟩
  · obtain ⟨glue, hglue⟩ := hform.marshalResultType? hfree hresult isConstructor
    exact ⟨glue, marshalResult_eq_ok_iff.mpr hglue⟩
  · obtain ⟨category, hcategory⟩ := hform.marshalSignalType? hfree settings
    exact ⟨category, marshalSignal_eq_ok_iff.mpr hcategory⟩
  · obtain rfl := hform.eq_object hopen.1
    rw [ValueForm.parameterType, hopen.2] at htype
    exact Prod.mk.inj htype
  · rw [ValueForm.parameterType_of_closed fun hobject => ?_] at htype
    · exact Prod.mk.inj htype
    · subst hobject
      rw [← Bool.not_eq_false]
      exact fun hleaf => hclosed ⟨hform, hleaf⟩

/-- Windows and the areas they cover. -/
def windowSymbols : SymbolTable :=
  [("GtkWindow", .object ["GtkWindow", "GtkObject", "GObject"]), ("GdkRectangle", .boxed)]

/-- A property that is a window is a window as a result and as a signal argument too. As a parameter
it is a variable of the class of windows. -/
theorem marshalers_agree_window :
    SymbolTable.FreeOfPrimitives windowSymbols ∧
      ({} : Settings).maybeNullResult "gtk_window_set_owner" = false ∧
      ({} : Settings).maybeNullParameter "gtk_window_set_owner" "owner" = false ∧
      marshalProperty windowSymbols {} "GtkWindow:owner" "const-GtkWindow *" =
        .ok (.plain "Window", "GVobject") ∧
      (∃ glue, marshalResult windowSymbols {} "gtk_window_set_owner" false "const-GtkWindow *" =
        .ok ⟨.plain "Window", glue⟩) ∧
      (∃ category, marshalSignal windowSymbols {} "owned" "const-GtkWindow *" =
        .ok (category, .plain "Window")) ∧
      ∃ m, marshalParameter windowSymbols {} "gtk_window_set_owner" "owner" "const-GtkWindow *" =
          .ok m ∧ m.direction = .input ∧ m.type = .plain "owner" ∧
        m.constraint = some "WindowClass owner" := by
  have hfree : SymbolTable.FreeOfPrimitives windowSymbols := by decide
  have hparse : CType.parse "const-GtkWindow *" = ⟨"GtkWindow", 1, true⟩ := by decide +kernel
  have hform : (CType.parse "const-GtkWindow *").HasForm windowSymbols .object :=
    hparse ▸ .object rfl (by decide) rfl
  have h : marshalProperty windowSymbols {} "GtkWindow:owner" "const-GtkWindow *" =
      .ok (.plain "Window", "GVobject") :=
    marshalProperty_eq_ok_iff.mpr (by rw [hparse]; decide +kernel)
  have hresult : ({} : Settings).maybeNullResult "gtk_window_set_owner" = false := rfl
  have hparameter : ({} : Settings).maybeNullParameter "gtk_window_set_owner" "owner" = false := rfl
  obtain ⟨hresults, hsignals, m, hm, hinput, hopen, -⟩ :=
    marshalers_agree hfree hresult hparameter h
  exact ⟨hfree, hresult, hparameter, h, hresults false, hsignals "owned", m, hm, hinput,
    hopen ⟨hform, rfl⟩⟩

end BindingGen

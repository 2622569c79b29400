/-
# Pointers that may be null

The settings list the functions whose result may be null and the parameters that may be. Of the
pointers that are handed back or over, the lists are consulted for texts and objects: the Haskell
type of such a result or input allows for no value exactly if it is listed, and exactly then the
code tests the result for null, or passes null for a value that is absent. The type of any other
pointer allows for no absence, whether it is listed or not.

Key definitions: `HsType.IsMaybe`, `ResultGlue.TestsNull`, `MarshaledParameter.PassesNull`,
`MarshaledResult.MayBeAbsentIff`, `MarshaledParameter.MayBeAbsentIff`, `CType.IsTextOrObject`.
Key theorems: `mayBeAbsentIff_of_marshalResultType?`, `PointerForm.mayBeAbsentIff_parameter`,
`marshalers_nullable`, `not_marshalers_nullable_requisition`.
-/
import BindingGen.Proofs.Marshal.OneLine
import BindingGen.Proofs.Marshal.PointerForm
import BindingGen.Proofs.Marshal.ValueForm

namespace BindingGen

/-! ### Absent values -/

/-- The type allows for no value. -/
def HsType.IsMaybe (type : HsType) : Prop := ∃ name, type = .nullable name

/-- What is done to the result of any call tests it for null: only a pointer that is not null is
read, or made an object of. -/
def ResultGlue.TestsNull (glue : ResultGlue) : Prop :=
  (∃ reader, ∀ call, glue.apply call = call ++ indent 1 ++ ">>= maybePeek " ++ reader) ∨
    ∃ maker, ∀ call, glue.apply call = "maybeNull (" ++ maker ++ ") $" ++ indent 1 ++ call

/-- Any call is passed null for an absent value of the parameter `name`: a bracket lends the null
pointer, or the null pointer stands in for the object. -/
def MarshaledParameter.PassesNull (name : String) (m : MarshaledParameter) : Prop :=
  (∃ lender pointer, ∀ body, m.applyGlue body = "maybeWith " ++ lender ++ " " ++ name ++ " $ \\" ++
      pointer ++ " ->" ++ indent 1 ++ body ++ indent 2 ++ pointer) ∨
    ∃ hs, ∀ body, m.applyGlue body = body ++ indent 2 ++ "(maybe (" ++ hs ++
      " nullForeignPtr) to" ++ hs ++ " " ++ name ++ ")"

/-- The result may be absent exactly if `p`: then its type allows for that, and its code tests it
for null. -/
structure MarshaledResult.MayBeAbsentIff (p : Prop) (m : MarshaledResult) : Prop where
  type : m.type.IsMaybe ↔ p
  glue : m.glue.TestsNull ↔ p

/-- The parameter `name` may be absent exactly if `p`: then its type allows for that, and null is
passed for it. -/
structure MarshaledParameter.MayBeAbsentIff (name : String) (p : Prop) (m : MarshaledParameter) :
    Prop where
  type : m.type.IsMaybe ↔ p
  glue : m.PassesNull name ↔ p

/-- The base is one of characters or of objects. -/
def CType.IsTextOrObject (symbols : SymbolTable) (type : CType) : Prop :=
  stringBases.contains type.base = true ∨
    ∃ ancestors, symbols.lookup type.base = some (.object ancestors)

theorem CType.not_isTextOrObject {symbols : SymbolTable} {type : CType} {symbol : CSymbol}
    (htext : stringBases.contains type.base = false)
    (hsymbol : symbols.lookup type.base = some symbol)
    (hobject : ∀ ancestors, symbol ≠ .object ancestors) : ¬type.IsTextOrObject symbols := by
  rintro (h | ⟨ancestors, h⟩)
  · rw [h] at htext
    cases htext
  · rw [h] at hsymbol
    exact hobject ancestors (Option.some.inj hsymbol).symm

theorem HsType.isMaybe_ite (nullable : Bool) (name other : String) :
    (if nullable then HsType.nullable name else .plain other).IsMaybe ↔ nullable = true := by
  cases nullable <;> simp [IsMaybe]

theorem HsType.not_isMaybe_plain {name : String} : ¬(HsType.plain name).IsMaybe := by
  rintro ⟨_, h⟩
  cases h

/-! ### Results -/

namespace ResultGlue

theorem testsNull_read_iff {reader : String} {nullable : Bool}
    (hreader : ¬"maybePeek".toList <+: reader.toList) :
    (read reader nullable).TestsNull ↔ nullable = true := by
  cases nullable with
  | true => exact iff_of_true (.inl ⟨reader, fun _ => rfl⟩) rfl
  | false =>
    refine iff_of_false ?_ Bool.false_ne_true
    rintro (⟨other, h⟩ | ⟨maker, h⟩)
    · have hsame : reader.toList = "maybePeek".toList ++ (' ' :: other.toList) := by
        simpa [apply, indent, ← String.toList_inj] using h ""
      exact hreader ⟨_, hsame.symm⟩
    · simpa [apply, indent, ← String.toList_inj] using h ""

theorem testsNull_make_iff {maker hs : String} {nullable : Bool}
    (hmaker : maker ∈ ["makeNewGObject", "makeNewObject", "constructNewGObject"]) :
    (make (maker ++ " mk" ++ hs) nullable).TestsNull ↔ nullable = true := by
  cases nullable with
  | true => exact iff_of_true (.inr ⟨_, fun _ => rfl⟩) rfl
  | false =>
    refine iff_of_false ?_ Bool.false_ne_true
    simp only [List.mem_cons, List.not_mem_nil, or_false] at hmaker
    -- no maker starts as a line break or as the test does
    rintro (⟨reader, h⟩ | ⟨other, h⟩) <;> rcases hmaker with rfl | rfl | rfl <;>
      simpa [apply, indent, ← String.toList_inj] using h ""

end ResultGlue

theorem objectMaker_mem (settings : Settings) (isConstructor : Bool) (ancestors : List String) :
    objectMaker settings isConstructor ancestors ∈
      ["makeNewGObject", "makeNewObject", "constructNewGObject"] := by
  unfold objectMaker
  split
  · simp
  · split <;> simp

/-- What is read whatever the settings say is never absent. -/
theorem mayBeAbsentIff_read {p : Prop} (hp : ¬p) {hs reader : String}
    (hreader : ¬"maybePeek".toList <+: reader.toList) :
    MarshaledResult.MayBeAbsentIff p ⟨.plain hs, .read reader false⟩ where
  type := iff_of_false HsType.not_isMaybe_plain hp
  glue := (ResultGlue.testsNull_read_iff hreader).trans (iff_of_false Bool.false_ne_true hp)

section Result

variable {symbols : SymbolTable} {settings : Settings} {function : String} {isConstructor : Bool}
  {type : CType} {m : MarshaledResult}

/-- A pointer that is handed back may be null exactly if the function is listed and the pointer is
one to characters or to an object. -/
theorem mayBeAbsentIff_of_marshalResultType? (hdepth : type.depth = 1)
    (h : marshalResultType? symbols settings function isConstructor type = some m) :
    m.MayBeAbsentIff
      (settings.maybeNullResult function = true ∧ type.IsTextOrObject symbols) := by
  revert h
  fun_cases marshalResultType? symbols settings function isConstructor type
  -- the types without stars and those that are refused, and then each kind of pointer
  case case1 | case2 | case3 | case4 | case5 => omega
  case case12 | case13 => exact fun h => by cases h
  case case6 nullable _ htext =>
    rintro ⟨⟩
    have hreader : ¬"maybePeek".toList <+:
        (if type.isConst then "peekUTFString" else "readUTFString").toList := by
      cases type.isConst <;> decide
    have htype : type.IsTextOrObject symbols := .inl htext
    rw [and_iff_left htype]
    exact ⟨HsType.isMaybe_ite nullable _ _, ResultGlue.testsNull_read_iff hreader⟩
  case case7 nullable _ htext ancestors hsymbol =>
    rintro ⟨⟩
    have htype : type.IsTextOrObject symbols := .inr ⟨ancestors, hsymbol⟩
    rw [and_iff_left htype]
    exact ⟨HsType.isMaybe_ite nullable _ _,
      ResultGlue.testsNull_make_iff (objectMaker_mem settings isConstructor ancestors)⟩
  case case8 htext hsymbol | case9 htext hsymbol =>
    rintro ⟨⟩
    have hother := CType.not_isTextOrObject (Bool.eq_false_iff.mpr htext) hsymbol (by simp)
    exact mayBeAbsentIff_read (fun h => hother h.2) (by decide)
  case case10 hs _ htext hsymbol | case11 hs _ htext hsymbol =>
    rintro ⟨⟩
    have hother := CType.not_isTextOrObject (Bool.eq_false_iff.mpr htext) hsymbol (by simp)
    exact mayBeAbsentIff_read (fun h => hother h.2) (by simp)

end Result

/-! ### Parameters -/

namespace MarshaledParameter

/-- What is lent whatever the settings say is never absent. -/
theorem mayBeAbsentIff_lent {name hs lender : String} {p : Prop} (hp : ¬p)
    (hlender : "with".toList <+: lender.toList) :
    (lent (.plain hs) name lender).MayBeAbsentIff name p where
  type := iff_of_false HsType.not_isMaybe_plain hp
  glue := by
    refine iff_of_false ?_ hp
    obtain ⟨rest, hrest⟩ := hlender
    rintro (⟨other, pointer, h⟩ | ⟨hs, h⟩)
    · simpa [applyGlue, Call.pass, Call.render, Bracket.render, lent, Operand.argument, ← hrest,
        ← String.toList_inj] using h ""
    · simpa [applyGlue, Call.pass, Call.render, Bracket.render, lent, Operand.argument, indent,
        ← hrest, ← String.toList_inj] using h ""

theorem mayBeAbsentIff_text (name : String) (nullable : Bool) :
    (if nullable then lent (.nullable "String") name "maybeWith withUTFString"
      else lent .string name "withUTFString").MayBeAbsentIff name (nullable = true) := by
  cases nullable with
  | true =>
    refine ⟨iff_of_true ⟨_, rfl⟩ rfl, iff_of_true (.inl ⟨"withUTFString", pointerTo name, ?_⟩) rfl⟩
    intro body
    simp [applyGlue, Call.pass, Call.render, Bracket.render, lent, Operand.argument,
      ← String.toList_inj]
  | false => exact mayBeAbsentIff_lent Bool.false_ne_true (by decide)

theorem mayBeAbsentIff_object (hs name : String) (isLeaf nullable : Bool) :
    (object hs name isLeaf nullable).MayBeAbsentIff name (nullable = true) where
  type := HsType.isMaybe_ite nullable _ _
  glue := by
    cases nullable with
    | true =>
      refine iff_of_true (.inr ⟨hs, fun body => ?_⟩) rfl
      simp [applyGlue, Call.pass, Call.render, object, Operand.argument, ← String.toList_inj]
    | false =>
      refine iff_of_false ?_ Bool.false_ne_true
      rintro (⟨other, pointer, h⟩ | ⟨other, h⟩) <;>
        simpa [applyGlue, Call.pass, Call.render, object, Operand.argument, indent,
          ← String.toList_inj] using h ""

end MarshaledParameter

open MarshaledParameter

section Parameter

variable {symbols : SymbolTable} {settings : Settings} {function name : String} {type : CType}

/-- A pointer that is an input may be null exactly if it is listed and is one to characters or to an
object. -/
theorem CType.Points.mayBeAbsentIff_parameter {form : PointerForm}
    (hform : type.Points symbols form) (hdepth : type.depth = 1)
    (hinput : (form.parameter settings function name type.base).direction = .input) :
    (form.parameter settings function name type.base).MayBeAbsentIff name
      (settings.maybeNullParameter function name = true ∧ type.IsTextOrObject symbols) := by
  rw [PointerForm.direction_parameter] at hinput
  cases hform with
  | text _ htext =>
    have htype : type.IsTextOrObject symbols := .inl htext
    rw [and_iff_left htype]
    exact mayBeAbsentIff_text name _
  | number | enumeration =>
    rw [PointerForm.direction] at hinput
    split at hinput <;> cases hinput
  | object hleads =>
    have htype : type.IsTextOrObject symbols := .inr ⟨_, hleads.symbol⟩
    rw [and_iff_left htype]
    exact mayBeAbsentIff_object ..
  | struct hleads | typeAlias hleads =>
    have hother := CType.not_isTextOrObject hleads.text hleads.symbol (by simp)
    exact mayBeAbsentIff_lent (fun h => hother h.2) (by decide)
  | boxed hleads | classStruct hleads =>
    have hother := CType.not_isTextOrObject hleads.text hleads.symbol (by simp)
    exact mayBeAbsentIff_lent (fun h => hother h.2) (by simp)
  | textPlace htwo | objectPlace htwo => omega

end Parameter

/-! ### Pointers that are listed -/

/-- **Listed texts and objects may be null.** A pointer that is handed back has a type that allows
for no value exactly if the function is listed and the pointer is one to characters or to an object;
and exactly then the code around the call tests it for null. A pointer that is an input has such a
type exactly if the parameter is listed and is one to characters or to an object; and exactly then
null is passed for an absent value. -/
theorem marshalers_nullable (symbols : SymbolTable) (settings : Settings) :
    (∀ function isConstructor type m, (CType.parse type).depth = 1 →
      marshalResult symbols settings function isConstructor type = .ok m →
        m.MayBeAbsentIff (settings.maybeNullResult function = true ∧
          (CType.parse type).IsTextOrObject symbols)) ∧
    (∀ function name type m, (CType.parse type).depth = 1 →
      marshalParameter symbols settings function name type = .ok m → m.direction = .input →
        m.MayBeAbsentIff name (settings.maybeNullParameter function name = true ∧
          (CType.parse type).IsTextOrObject symbols)) := by
  refine ⟨fun function isConstructor type m hdepth h => ?_,
    fun function name type m hdepth h hinput => ?_⟩
  · exact mayBeAbsentIff_of_marshalResultType? hdepth (marshalResult_eq_ok_iff.mp h)
  · have hsome : (CType.parse type).depth ≠ 0 := by omega
    obtain ⟨form, hform, rfl⟩ :=
      (marshalType?_pointer_eq_some_iff hsome).mp (marshalParameter_eq_ok_iff.mp h)
    exact hform.mayBeAbsentIff_parameter hdepth hinput

/-- The title of a window and its parent are listed: the title is read only if there is one, and
null is passed for a window without a parent. -/
theorem marshalers_nullable_window :
    (∃ m, marshalResult windowSymbols .curated "gtk_window_get_title" false "const-gchar*" = .ok m ∧
      m.type.IsMaybe ∧ m.glue.TestsNull) ∧
    ∃ m, marshalParameter windowSymbols .curated "gtk_window_set_transient_for" "parent"
        "GtkWindow*" = .ok m ∧ m.direction = .input ∧ m.type.IsMaybe ∧ m.PassesNull "parent" := by
  have htitle : CType.parse "const-gchar*" = ⟨"gchar", 1, true⟩ := by decide +kernel
  have hparent : CType.parse "GtkWindow*" = ⟨"GtkWindow", 1, false⟩ := by decide +kernel
  have hresult : marshalResult windowSymbols .curated "gtk_window_get_title" false "const-gchar*" =
      .ok ⟨.nullable "String", .read "peekUTFString" true⟩ :=
    marshalResult_eq_ok_iff.mpr (by decide +kernel)
  have hparameter : marshalParameter windowSymbols .curated "gtk_window_set_transient_for" "parent"
      "GtkWindow*" = .ok (object "Window" "parent" false true) :=
    marshalParameter_eq_ok_iff.mpr (by decide +kernel)
  have hlisted : Settings.curated.maybeNullResult "gtk_window_get_title" = true ∧
      (CType.parse "const-gchar*").IsTextOrObject windowSymbols :=
    ⟨by decide +kernel, .inl (by rw [htitle]; decide)⟩
  have hlisted' :
      Settings.curated.maybeNullParameter "gtk_window_set_transient_for" "parent" = true ∧
        (CType.parse "GtkWindow*").IsTextOrObject windowSymbols :=
    ⟨by decide +kernel, .inr ⟨_, by rw [hparent]; rfl⟩⟩
  obtain ⟨hresults, hparameters⟩ := marshalers_nullable windowSymbols .curated
  have habsent := hresults _ _ _ _ (by rw [htitle]) hresult
  have habsent' := hparameters _ _ _ _ (by rw [hparent]) hparameter rfl
  exact ⟨⟨_, hresult, habsent.type.mpr hlisted, habsent.glue.mpr hlisted⟩,
    _, hparameter, rfl, habsent'.type.mpr hlisted', habsent'.glue.mpr hlisted'⟩

/-- The settings of a library in which there may be no size and no area. -/
def requisitionSettings : Settings where
  nullableResults := ["gtk_widget_get_requisition"]
  nullableParameters := [("gtk_widget_intersect", ["area"])]

/-- A size is listed as a result that may be null and is read without a test; an area is listed as a
parameter that may be null, and null cannot be passed for it. Neither type allows for no value. -/
theorem not_marshalers_nullable_requisition :
    (requisitionSettings.maybeNullResult "gtk_widget_get_requisition" = true ∧
      (CType.parse "GtkRequisition*").depth = 1 ∧
      ∃ m, marshalResult [("GtkRequisition", .boxed)] requisitionSettings
          "gtk_widget_get_requisition" false "GtkRequisition*" = .ok m ∧
        ¬m.type.IsMaybe ∧ ¬m.glue.TestsNull) ∧
    (requisitionSettings.maybeNullParameter "gtk_widget_intersect" "area" = true ∧
      (CType.parse "GdkRectangle*").depth = 1 ∧
      ∃ m, marshalParameter [("GdkRectangle", .struct)] requisitionSettings
          "gtk_widget_intersect" "area" "GdkRectangle*" = .ok m ∧ m.direction = .input ∧
        ¬m.type.IsMaybe ∧ ¬m.PassesNull "area") := by
  have hresult : marshalResult [("GtkRequisition", .boxed)] requisitionSettings
      "gtk_widget_get_requisition" false "GtkRequisition*" =
      .ok ⟨.plain "Requisition", .read "makeNewRequisition" false⟩ :=
    marshalResult_eq_ok_iff.mpr (by decide +kernel)
  have hparameter : marshalParameter [("GdkRectangle", .struct)] requisitionSettings
      "gtk_widget_intersect" "area" "GdkRectangle*" =
      .ok (lent (.plain "Rectangle") "area" "with") :=
    marshalParameter_eq_ok_iff.mpr (by decide +kernel)
  have hsize : MarshaledResult.MayBeAbsentIff False
      ⟨.plain "Requisition", .read "makeNewRequisition" false⟩ :=
    mayBeAbsentIff_read not_false (by decide)
  have harea : (lent (.plain "Rectangle") "area" "with").MayBeAbsentIff "area" False :=
    mayBeAbsentIff_lent not_false (by decide)
  exact ⟨⟨by decide, by decide +kernel, _, hresult, hsize.type.mp, hsize.glue.mp⟩,
    by decide, by decide +kernel, _, hparameter, rfl, harea.type.mp, harea.glue.mp⟩

end BindingGen

/-
# The declared result is what is returned

A function with outputs declares the type of its result and ends with an expression that returns it.
Both go through one list of parts: the result of the C function, unless its type is that of a value
that carries nothing, and then the outputs in order. The part of an output is returned from the
variable that its statement binds, and the statement reads the pointer that the call was given for
this very output. A single part is returned as it is, and several are a tuple.

The type of a value that carries nothing is that of a function that returns nothing, or of one whose
C type bears its name.

Key definitions: `CType.IsVoid`, `ioType`, `Binding.codedOutputs`, `Binding.returnedParts`,
`Parameter.Returned`.
Key theorems: `isVoid_of_type_eq_unit`, `Binding.resultType_eq_ioType`,
`Binding.body_eq_returned`, `Binding.returned_codedOutputs`, `Definition.ofFunction_returned`.
-/
import BindingGen.Proofs.Function.CallOrder
import BindingGen.Proofs.Marshal.OneLine
import BindingGen.Proofs.Marshal.ValueForm
import BindingGen.Proofs.Name.Prefixes

namespace BindingGen

/-- The C type of a function that returns nothing. -/
def CType.IsVoid (type : CType) : Prop := type.depth = 0 ∧ type.base = "void"

/-- The type of an action that returns values of the types: of the value itself if there is one,
and of their tuple otherwise. -/
def ioType : List String → String
  | [type] => "IO " ++ parenthesized type
  | types => "IO (" ++ ", ".intercalate types ++ ")"

theorem ioType_singleton (type : String) :
    ioType [type] = "IO " ++ type ∨ ioType [type] = "IO (" ++ type ++ ")" := by
  have hmark : "IO (" = "IO " ++ "(" := rfl
  have hsingle : ioType [type] = "IO " ++ parenthesized type := rfl
  rw [hsingle, parenthesized, hmark]
  split_ifs
  · exact .inr (by simp only [String.append_assoc])
  · exact .inl rfl

/-! ### Results that carry nothing -/

theorem HsType.render_eq_unit_iff {type : HsType} : type.render = "()" ↔ type = .unit := by
  cases type <;> simp [render, unit, ← String.toList_inj]

section Result

variable {symbols : SymbolTable} {settings : Settings} {function : String} {isConstructor : Bool}
  {type : CType} {m : MarshaledResult}

theorem type_eq_unit_of_isVoid (hvoid : type.IsVoid)
    (h : marshalResultType? symbols settings function isConstructor type = some m) :
    m.type = .unit := by
  obtain ⟨hdepth, hbase⟩ := hvoid
  simp only [marshalResultType?, hdepth, hbase, if_true, Option.some.injEq] at h
  rw [← h]

theorem Primitive.type_ne_unit {base : String} {p : Primitive} (h : Primitive.find? base = some p) :
    p.type ≠ .unit := by
  have hall : ∀ entry ∈ Primitive.table, entry.2.type ≠ .unit := by decide +kernel
  exact hall (base, p) (mem_of_lookup_eq_some h)

theorem Variety.eq_of_hsType_eq_unit {variety : Variety} {hs : String}
    (h : variety.hsType hs = .unit) : hs = "()" := by
  cases variety with
  | choice => exact HsType.plain.inj h
  | flags => cases h

theorem Name.eq_of_ofType_eq_unit {settings : Settings} {cname : String}
    (h : ofType settings cname = "()") : cname = "()" := by
  unfold ofType at h
  split at h
  · exact h
  · generalize hunit : "()" = unit at h
    have hleft := dropKnown_eq_iff.mp h
    cases hleft with
    | behind _ hdrops _ =>
      -- behind a dropped prefix stands an upper-case letter
      obtain ⟨c, hc, hupper⟩ := hdrops.upper
      rw [← hunit] at hc
      obtain rfl : '(' = c := Option.some.inj hc
      exact absurd hupper (by decide)
    | whole _ => rfl

/-- A result carries nothing only if the C function returns nothing, unless a C type is named as
the Haskell type without content is. -/
theorem isVoid_of_type_eq_unit (hunit : m.type = .unit)
    (h : marshalResultType? symbols settings function isConstructor type = some m) :
    type.IsVoid ∨ type.base = "()" := by
  suffices hname : type.IsVoid ∨ Name.ofType settings type.base = "()" from
    hname.imp_right Name.eq_of_ofType_eq_unit
  revert h
  fun_cases marshalResultType? symbols settings function isConstructor type
  case case1 hdepth hbase => exact fun _ => .inl ⟨hdepth, hbase⟩
  case case2 _ _ p hp =>
    intro h
    obtain rfl := Option.some.inj h
    exact absurd hunit (Primitive.type_ne_unit hp)
  case case3 =>
    intro h
    obtain rfl := Option.some.inj h
    exact absurd hunit (by decide)
  case case4 =>
    intro h
    obtain rfl := Option.some.inj h
    exact .inr (Variety.eq_of_hsType_eq_unit hunit)
  case case6 =>
    intro h
    obtain rfl := Option.some.inj h
    dsimp only at hunit
    split_ifs at hunit
    · cases hunit
    · exact absurd hunit (by decide)
  case case7 =>
    intro h
    obtain rfl := Option.some.inj h
    dsimp only at hunit
    split_ifs at hunit
    · cases hunit
    · exact .inr (HsType.plain.inj hunit)
  -- a value behind a pointer, which has the Haskell name of its C type
  case case8 | case9 | case10 | case11 =>
    intro h
    obtain rfl := Option.some.inj h
    exact .inr (HsType.plain.inj hunit)
  case case5 | case12 | case13 => exact fun h => by cases h

end Result

/-! ### Parts of a result -/

namespace Binding

/-- The outputs of a function, each with its code. -/
def codedOutputs (b : Binding) : List (BoundParameter × OutGlue) :=
  b.outputs.filterMap fun p => p.marshaled.out.map (p, ·)

/-- What is returned next to outputs: each part by its type and the expression of its value. -/
def returnedParts (b : Binding) : List (String × String) :=
  (if b.hasResult then [(b.result.type.render, "result")] else []) ++
    b.codedOutputs.map fun x => (x.1.marshaled.type.render, x.2.component.bare)

theorem hasResult_eq_false_iff (b : Binding) :
    b.hasResult = false ↔ b.result.type.render = "()" := by
  rw [HsType.render_eq_unit_iff, hasResult]
  simp

variable {b : Binding}

theorem mem_codedOutputs {x : BoundParameter × OutGlue} (hx : x ∈ b.codedOutputs) :
    x.1 ∈ b.outputs ∧ x.1.marshaled.out = some x.2 := by
  obtain ⟨p, hp, hx⟩ := List.mem_filterMap.mp hx
  obtain ⟨glue, hglue, rfl⟩ := Option.map_eq_some_iff.mp hx
  exact ⟨hp, hglue⟩

theorem outs_eq_codedOutputs : b.equation.outs = b.codedOutputs.map fun x => (x.1.cname, x.2) := by
  simp [equation, codedOutputs, List.map_filterMap, Function.comp_def]

theorem map_fst_codedOutputs (hserves : ∀ p ∈ b.parameters, p.marshaled.Serves p.var) :
    b.codedOutputs.map (·.1) = b.outputs := by
  have hfst : ∀ p ∈ b.outputs, ∀ x, p.marshaled.out.map (p, ·) = some x → x.1 = p := by
    intro p _ x hx
    obtain ⟨glue, -, rfl⟩ := Option.map_eq_some_iff.mp hx
    rfl
  rw [codedOutputs, map_filterMap_eq hfst, List.map_id',
    List.filter_eq_self.mpr fun p hp => ?_]
  rw [Option.isSome_map, isSome_out_of_mem hserves (mem_of_mem_outputs hp)]
  exact (List.mem_filter.mp hp).2

theorem mem_outs_of_mem_codedOutputs {x : BoundParameter × OutGlue} (hx : x ∈ b.codedOutputs) :
    (x.1.cname, x.2) ∈ b.equation.outs := by
  rw [outs_eq_codedOutputs]
  exact List.mem_map_of_mem hx

theorem exists_mem_codedOutputs (hserves : ∀ p ∈ b.parameters, p.marshaled.Serves p.var)
    {p : BoundParameter} (hp : p ∈ b.outputs) : ∃ glue, (p, glue) ∈ b.codedOutputs := by
  rw [← map_fst_codedOutputs hserves] at hp
  obtain ⟨⟨p, glue⟩, hx, rfl⟩ := List.mem_map.mp hp
  exact ⟨glue, hx⟩

section Outputs

variable (houtputs : b.outputs ≠ [])
include houtputs

theorem resultType_eq_ioType (hserves : ∀ p ∈ b.parameters, p.marshaled.Serves p.var) :
    b.resultType = ioType (b.returnedParts.map (·.1)) := by
  have hcomponents : b.components.map (·.render) = b.returnedParts.map (·.1) := by
    have hsome : b.outputs.isEmpty = false := by simpa using houtputs
    rw [components, hsome, Bool.false_or, returnedParts, ← map_fst_codedOutputs hserves]
    cases b.hasResult <;> simp
  rw [resultType, hcomponents]
  rfl

theorem outs_isEmpty (hserves : ∀ p ∈ b.parameters, p.marshaled.Serves p.var) :
    b.equation.outs.isEmpty = false := by
  rw [outs_eq_codedOutputs, List.isEmpty_map, List.isEmpty_eq_false_iff]
  exact fun hnil => houtputs (by rw [← map_fst_codedOutputs hserves, hnil, List.map_nil])

/-- With outputs, the call is given its arguments in order, each output is read in order, and the
values of the parts are returned. -/
theorem body_eq_returned (hserves : ∀ p ∈ b.parameters, p.marshaled.Serves p.var) :
    b.equation.body = b.equation.opening ++ b.equation.layout b.equation.hook ++
      String.join (b.parameters.map fun p =>
        indent 3 ++ b.equation.layout p.marshaled.glue.argument.argument) ++
      b.equation.layout b.result.glue.trail ++
      String.join (b.codedOutputs.map fun x => indent 1 ++ x.2.peek.render) ++
      (indent 1 ++ "return (" ++ ", ".intercalate (b.returnedParts.map (·.2)) ++ ")") := by
  have hsome : b.equation.outs.isEmpty = false := outs_isEmpty houtputs hserves
  have hdepth : b.equation.depth = 1 := by
    rw [Equation.depth, hsome]
    rfl
  have hreturned : b.equation.returned = b.returnedParts.map (·.2) := by
    rw [Equation.returned, outs_eq_codedOutputs, returnedParts]
    cases hresult : b.hasResult <;> simp [equation, hresult]
  have hclosing : b.equation.closing = b.equation.layout b.result.glue.trail ++
      String.join (b.codedOutputs.map fun x => indent 1 ++ x.2.peek.render) ++
      (indent 1 ++ "return (" ++ ", ".intercalate (b.returnedParts.map (·.2)) ++ ")") := by
    rw [Equation.closing, hsome, hreturned, outs_eq_codedOutputs, List.map_map]
    rfl
  have hpassed : String.join (b.equation.passed.map fun x =>
        b.equation.layout (indent 2 ++ x.2.argument)) =
      String.join (b.parameters.map fun p =>
        indent 3 ++ b.equation.layout p.marshaled.glue.argument.argument) := by
    simp only [Equation.layout_append, Equation.layout_indent, hdepth]
    rw [equation, List.map_map]
    rfl
  rw [Equation.body, hclosing, hpassed]
  simp only [String.append_assoc]

end Outputs

end Binding

/-! ### Functions -/

/-- The output is returned by its code: the statement binds the variable of the output to what it
reads from the pointer that the call is given for it, and what is returned is this variable. -/
structure Parameter.Returned (symbols : SymbolTable) (settings : Settings) (function : String)
    (q : Parameter) (x : BoundParameter × OutGlue) : Prop where
  binds : q.Binds symbols settings function x.1
  code : x.1.marshaled.out = some x.2
  passed : x.1.marshaled.glue.argument.argument = x.2.peek.pointer
  read : x.2.component.var = x.2.peek.var
  bound : x.2.peek.var = Name.ofParameter q.name
  statement : ReadsPointer x.2.peek.var x.2.peek.pointer x.2.peek.render
  component : IsComponentOf x.2.component.var x.2.component.bare
  type : x.1.marshaled.type.Spells x.1.marshaled.type.render

section OfMethod

variable {symbols : SymbolTable} {settings : Settings} {isConstructor : Bool} {method : Method}
  {doc : Option FunctionDoc} {prior : Option PriorCall} {b : Binding}
  (hb : Binding.ofMethod symbols settings isConstructor method doc prior = .ok b)
include hb

theorem Binding.result_of_ofMethod :
    marshalResult symbols settings method.cname isConstructor method.returnType = .ok b.result := by
  obtain ⟨parameters, -, hb⟩ := bind_eq_ok_iff.mp hb
  obtain ⟨result, hresult, hb⟩ := bind_eq_ok_iff.mp hb
  rw [hresult, ← Except.ok.inj hb]

/-- The outputs of the method are returned in order. -/
theorem Binding.returned_codedOutputs :
    List.Forall₂ (Parameter.Returned symbols settings method.cname)
      (method.outputs symbols settings) b.codedOutputs := by
  have hserves : ∀ p ∈ b.parameters, p.marshaled.Serves p.var := fun p => serves_of_mem hb
  have hbinds : List.Forall₂ (fun q x => Parameter.Binds symbols settings method.cname q x.1)
      (method.outputs symbols settings) b.codedOutputs := by
    rw [← List.forall₂_map_right_iff, map_fst_codedOutputs hserves]
    exact binds_outputs hb
  have hcode : ∀ x ∈ b.codedOutputs, x.1.marshaled.Serves x.1.var ∧
      x.1.marshaled.out = some x.2 := fun x hx =>
    ⟨hserves x.1 (mem_of_mem_outputs (mem_codedOutputs hx).1), (mem_codedOutputs hx).2⟩
  refine ((List.forall₂_and_left _ _).mpr ⟨hcode, hbinds.flip⟩).flip.imp ?_
  rintro q x ⟨⟨hx, hout⟩, hq⟩
  obtain ⟨-, -, -, hpeek, -, hcomponent⟩ := hx.out_eq hout
  exact {
    binds := hq
    code := hout
    passed := hx.argument_of_out hout
    read := hcomponent.trans hpeek.symm
    bound := hpeek.trans hq.var
    statement := x.2.peek.readsPointer_render
    component := x.2.component.isComponentOf_bare
    type := x.1.marshaled.type.spells_render }

/-- The C result is left out next to outputs if it is nothing, and only then as long as no C type is
named as the Haskell type without content is. -/
theorem Binding.hasResult_eq_false :
    ((CType.parse method.returnType).IsVoid → b.hasResult = false) ∧
      (b.hasResult = false → (CType.parse method.returnType).IsVoid ∨
        (CType.parse method.returnType).base = "()") := by
  have hresult := marshalResult_eq_ok_iff.mp (result_of_ofMethod hb)
  rw [b.hasResult_eq_false_iff, HsType.render_eq_unit_iff]
  exact ⟨fun h => type_eq_unit_of_isVoid h hresult, fun h => isVoid_of_type_eq_unit h hresult⟩

end OfMethod

namespace Definition

variable {symbols : SymbolTable} {settings : Settings} {isConstructor : Bool} {e : FunctionEntry}

/-- **The declared result is what is returned.** A function with outputs that is defined declares
the types of the parts of its result, and its body ends with their values; the parts are the C
result and the outputs in order. The C result is left out if its Haskell type is that of a value
that carries nothing, which is so if it is nothing, and otherwise only if its C type has the name of
that type. Each output is returned from the variable that its statement binds, and this statement
reads the pointer that the call is given for the output. A single output next to no C result is
returned as it is. -/
theorem ofFunction_returned {d : Definition}
    (houtputs : e.method.outputs symbols settings ≠ [])
    (h : (ofFunction symbols settings isConstructor e).outcome = .ok d) :
    ∃ b comment signature types, d.defined = .function b ∧
      d.text = comment ++ b.name ++ " :: " ++ constraintText b.constraints ++ signature ++ "\n" ++
        b.equation.render ∧
      b.equation.IsWritten ∧
      SpellsTypes none (types ++ [ioType (b.returnedParts.map (·.1))]) signature ∧
      b.equation.body = b.equation.opening ++ b.equation.layout b.equation.hook ++
        String.join (b.parameters.map fun p =>
          indent 3 ++ b.equation.layout p.marshaled.glue.argument.argument) ++
        b.equation.layout b.result.glue.trail ++
        String.join (b.codedOutputs.map fun x => indent 1 ++ x.2.peek.render) ++
        (indent 1 ++ "return (" ++ ", ".intercalate (b.returnedParts.map (·.2)) ++ ")") ∧
      List.Forall₂ (Parameter.Binds symbols settings e.method.cname) e.method.parameters
        b.parameters ∧
      b.codedOutputs.map (·.1) = b.parameters.filter (·.isOutput) ∧
      List.Forall₂ (Parameter.Returned symbols settings e.method.cname)
        (e.method.outputs symbols settings) b.codedOutputs ∧
      marshalResult symbols settings e.method.cname isConstructor e.method.returnType =
        .ok b.result ∧
      (b.hasResult = false ↔ b.result.type.render = "()") ∧
      ((CType.parse e.method.returnType).IsVoid → b.hasResult = false) ∧
      (b.hasResult = false → (CType.parse e.method.returnType).IsVoid ∨
        (CType.parse e.method.returnType).base = "()") ∧
      (b.hasResult = false → ∀ x, b.codedOutputs = [x] →
        b.resultType = "IO " ++ x.1.marshaled.type.render ∨
          b.resultType = "IO (" ++ x.1.marshaled.type.render ++ ")") := by
  obtain ⟨b, comment, signature, hb, hdefined, -, htext, hspells⟩ := exists_of_ofFunction h
  have hserves : ∀ p ∈ b.parameters, p.marshaled.Serves p.var := fun p => Binding.serves_of_mem hb
  have hsome : b.outputs ≠ [] := by
    have hbound := Binding.binds_outputs hb
    intro hnil
    rw [hnil, List.forall₂_nil_right_iff] at hbound
    exact houtputs hbound
  have htype := Binding.resultType_eq_ioType hsome hserves
  rw [htype] at hspells
  obtain ⟨hvoid, hnothing⟩ := Binding.hasResult_eq_false hb
  refine ⟨b, comment, signature, _, hdefined, htext, b.equation.isWritten, hspells,
    Binding.body_eq_returned hsome hserves, Binding.binds_of_ofMethod hb,
    Binding.map_fst_codedOutputs hserves, Binding.returned_codedOutputs hb,
    Binding.result_of_ofMethod hb, b.hasResult_eq_false_iff, hvoid, hnothing,
    fun hnone x hx => ?_⟩
  rw [htype, Binding.returnedParts, hnone, hx]
  exact ioType_singleton _

/-- The search returns whether there is a match, its place and its width, where the statement that
reads the place reads the pointer that the call is given for it. -/
theorem ofFunction_returned_search :
    ∃ d b, (ofFunction searchSymbols searchSettings false searchEntry).outcome = .ok d ∧
      d.defined = .function b ∧
      b.returnedParts = [("Bool", "result"), ("Int", "fromIntegral startPos"),
        ("Int", "fromIntegral width")] ∧
      List.Forall₂ (Parameter.Returned searchSymbols searchSettings "gtk_label_search")
        [{ type := "gint*", name := "start_pos" }, { type := "gint*", name := "width" }]
        b.codedOutputs := by
  obtain ⟨d, hd⟩ : ∃ d,
      (ofFunction searchSymbols searchSettings false searchEntry).outcome = .ok d :=
    exists_ok_of_isSome (by decide +kernel)
  have houtputs : searchEntry.method.outputs searchSymbols searchSettings =
      [{ type := "gint*", name := "start_pos" }, { type := "gint*", name := "width" }] := by
    decide +kernel
  have hparts : (Binding.ofMethod searchSymbols searchSettings false searchEntry.method
      searchEntry.doc searchEntry.prior).map Binding.returnedParts =
      .ok [("Bool", "result"), ("Int", "fromIntegral startPos"),
        ("Int", "fromIntegral width")] := by
    decide +kernel
  obtain ⟨b, -, -, -, hdefined, -, -, -, -, -, -, hreturned, -⟩ :=
    ofFunction_returned (by rw [houtputs]; exact List.cons_ne_nil _ _) hd
  rw [ofMethod_of_defined hd hdefined] at hparts
  rw [houtputs] at hreturned
  exact ⟨d, b, hd, hdefined, Except.ok.inj hparts, hreturned⟩

/-- A function that returns a mode and gives a width. The C type of modes is named as the Haskell
type without content is. -/
def modeEntry : FunctionEntry where
  method :=
    { name := "Mode", cname := "gtk_mode", returnType := "()"
      parameters := [{ type := "gint*", name := "width" }] }
  doc := none
  prior := none

/-- The mode is left out of the declared result, although the function does not return nothing. -/
theorem not_declared_mode :
    ¬∀ (symbols : SymbolTable) (settings : Settings) (isConstructor : Bool) (e : FunctionEntry)
      (d : Definition), e.method.outputs symbols settings ≠ [] →
      (ofFunction symbols settings isConstructor e).outcome = .ok d →
      ¬(CType.parse e.method.returnType).IsVoid →
      ∃ b types, d.defined = .function b ∧
        types.length = (e.method.outputs symbols settings).length ∧
        b.resultType = ioType (b.result.type.render :: types) := by
  intro h
  obtain ⟨d, hd⟩ : ∃ d, (ofFunction [("()", .enumeration .choice)] {} false modeEntry).outcome =
      .ok d :=
    exists_ok_of_isSome (by decide +kernel)
  have houtputs : modeEntry.method.outputs [("()", .enumeration .choice)] {} =
      [{ type := "gint*", name := "width" }] := by
    decide +kernel
  have hvoid : ¬(CType.parse modeEntry.method.returnType).IsVoid := fun hvoid =>
    absurd hvoid.2 (by decide +kernel)
  have hparts : (Binding.ofMethod [("()", .enumeration .choice)] {} false modeEntry.method
      modeEntry.doc modeEntry.prior).map (fun b => (b.result.type.render, b.resultType)) =
      .ok ("()", "IO Int") := by
    decide +kernel
  obtain ⟨b, types, hdefined, hlength, hresult⟩ := h _ _ _ _ _
    (by rw [houtputs]; exact List.cons_ne_nil _ _) hd hvoid
  rw [ofMethod_of_defined hd hdefined] at hparts
  obtain ⟨htype, hdeclared⟩ := Prod.mk.inj (Except.ok.inj hparts)
  rw [houtputs, List.length_singleton, List.length_eq_one_iff] at hlength
  obtain ⟨type, rfl⟩ := hlength
  rw [htype, hdeclared] at hresult
  -- the declared result goes on with a letter, where a pair has a parenthesis
  simp [ioType, ← String.toList_inj] at hresult

end Definition
end BindingGen

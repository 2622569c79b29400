/-
# Signature, equation and call agree

The arguments of a bound function are the variables of its inputs, the parameters that are not just
outputs, in the order of their declaration, and its signature has one type for each of them and then
that of the result. Its call is given one argument for each C parameter in order: the variable of
the parameter, or the pointer to it, as it is or converted; exactly one bracket in front of the call
binds that pointer where the variables are distinct.

Key definitions: `Equation.pointers`.
Key theorems: `Binding.perm_pointers`, `Binding.count_pointers_eq_one`,
`Definition.exists_of_ofFunction`, `Definition.ofFunction_callOrder`.
-/
import BindingGen.Proofs.Function.Signature
import BindingGen.Proofs.Function.Wiring
import BindingGen.Proofs.Module.Definition

namespace BindingGen

open MarshaledParameter

/-- The pointers that the brackets in front of the call lend. -/
def Equation.pointers (e : Equation) : List String :=
  e.outs.map (·.2.bracket.pointer) ++ e.lent.map (·.2.pointer)

/-! ### Pointers -/

namespace Binding

section Serves

variable {b : Binding} (hserves : ∀ p ∈ b.parameters, p.marshaled.Serves p.var)
include hserves

theorem perm_pointers : b.equation.pointers.Perm
    ((b.outputs ++ b.lentInputs).map fun p => pointerTo p.var) := by
  unfold Equation.pointers
  rw [outs_map hserves fun p hp glue hglue => ((hserves p hp).out_eq hglue).2.1,
    lent_map fun p hp bracket hbracket => ((hserves p hp).bracket_eq hbracket).2.1, List.map_append]
  exact (List.reverse_perm _).append_left _

theorem count_pointers_eq_one (hdistinct : (b.parameters.map (·.var)).Nodup) {p : BoundParameter}
    (hp : p ∈ b.parameters) (hpointed : p.marshaled.isPointed = true) :
    b.equation.pointers.count (pointerTo p.var) = 1 := by
  rw [(perm_pointers hserves).count_eq]
  refine List.count_eq_one_of_mem (nodup_pointed hserves hdistinct) ?_
  exact List.mem_map_of_mem ((mem_pointed hserves).mpr ⟨hp, hpointed⟩)

end Serves

theorem count_pointers_of_mem_passed {symbols : SymbolTable} {settings : Settings}
    {isConstructor : Bool} {method : Method} {doc : Option FunctionDoc} {prior : Option PriorCall}
    {b : Binding} (hb : ofMethod symbols settings isConstructor method doc prior = .ok b)
    (hdistinct : (method.parameters.map fun q => Name.ofParameter q.name).Nodup)
    {x : String × Operand} (hx : x ∈ b.equation.passed)
    (hpointer : x.2.var = pointerTo (Name.ofParameter x.1)) :
    b.equation.pointers.count x.2.var = 1 := by
  obtain ⟨p, hp, hvar, hargument⟩ := exists_of_mem_passed hb hx
  rw [← vars_eq hb] at hdistinct
  rw [← hvar] at hpointer
  cases hpointed : p.marshaled.isPointed with
  | true =>
    rw [hpointer]
    exact count_pointers_eq_one (fun p => serves_of_mem hb) hdistinct hp hpointed
  | false =>
    rw [hpointed, if_neg Bool.false_ne_true, hpointer] at hargument
    exact absurd hargument (pointerTo_ne p.var)

theorem exists_resultType (b : Binding) : ∃ type, b.resultType = "IO " ++ type := by
  unfold resultType
  split
  · exact ⟨_, rfl⟩
  · have hmark : "IO (" = "IO " ++ "(" := rfl
    exact ⟨"(" ++ _ ++ ")", by rw [hmark, String.append_assoc, String.append_assoc,
      String.append_assoc]⟩

end Binding

/-! ### Agreement -/

namespace Definition

variable {symbols : SymbolTable} {settings : Settings} {isConstructor : Bool} {e : FunctionEntry}
  {d : Definition}

/-- A function that is defined is written as a comment, a signature that spells the types of its
inputs and of its result, and an equation. -/
theorem exists_of_ofFunction (h : (ofFunction symbols settings isConstructor e).outcome = .ok d) :
    ∃ b comment signature,
      Binding.ofMethod symbols settings isConstructor e.method e.doc e.prior = .ok b ∧
      d.defined = .function b ∧
      DocContext.signature ⟨symbols, settings, b.handlesNull settings⟩ b.types = .ok signature ∧
      d.text = comment ++ b.name ++ " :: " ++ constraintText b.constraints ++ signature ++ "\n" ++
        b.equation.render ∧
      SpellsTypes none (b.inputs.map (·.marshaled.type.render) ++ [b.resultType]) signature := by
  obtain ⟨b, text, hb, htext, rfl⟩ := ofFunction_eq_ok_iff.mp h
  obtain ⟨comment, signature, hsignature, htext⟩ := Binding.exists_of_render htext
  refine ⟨b, comment, signature, hb, rfl, hsignature, htext, ?_⟩
  simpa [Binding.types, Function.comp_def] using DocContext.spellsTypes_signature hsignature

/-- **Signature, equation and call agree.** A function that is defined is written as a comment, a
signature and an equation. The arguments of the equation are the variables of the inputs in order;
the signature spells the type of each of them and then that of the result. Behind the call hook is
one line for each C parameter in order, which hands over its variable or its pointer; where the
variables are distinct, one bracket in front of the hook binds that pointer. -/
theorem ofFunction_callOrder
    (h : (ofFunction symbols settings isConstructor e).outcome = .ok d) :
    ∃ b comment signature, d.defined = .function b ∧
      d.text = comment ++ b.name ++ " :: " ++ constraintText b.constraints ++ signature ++ "\n" ++
        b.equation.render ∧
      b.equation.IsWritten ∧
      IsHookOf (CallHook.ofPrior e.method.cname e.prior).name b.equation.hook ∧
      b.equation.arguments = (e.method.inputs symbols settings).map
        (fun q => (q.name, Name.ofParameter q.name)) ∧
      (∃ types result, b.resultType = "IO " ++ result ∧
        SpellsTypes none (types ++ [b.resultType]) signature ∧
        List.Forall₂ (fun q type => ∃ m,
            q.marshaled? symbols settings e.method.cname = some m ∧ m.type.Spells type)
          (e.method.inputs symbols settings) types) ∧
      b.equation.passed.map (·.1) = e.method.parameters.map (·.name) ∧
      (∀ x ∈ b.equation.passed, x.2.var = Name.ofParameter x.1 ∨
        x.2.var = pointerTo (Name.ofParameter x.1)) ∧
      ((e.method.parameters.map fun q => Name.ofParameter q.name).Nodup →
        ∀ x ∈ b.equation.passed, x.2.var = pointerTo (Name.ofParameter x.1) →
          b.equation.pointers.count x.2.var = 1) := by
  obtain ⟨b, comment, signature, hb, hdefined, -, htext, hspells⟩ := exists_of_ofFunction h
  have hinputs := Binding.binds_inputs hb
  obtain ⟨result, hresult⟩ := b.exists_resultType
  refine ⟨b, comment, signature, hdefined, htext, b.equation.isWritten, ?_, ?_,
    ⟨b.inputs.map (·.marshaled.type.render), result, hresult, hspells, ?_⟩, ?_, fun x hx => ?_,
    fun hdistinct x hx => Binding.count_pointers_of_mem_passed hb hdistinct hx⟩
  · rw [← Binding.hook_of_ofMethod hb]
    exact b.hook.isHookOf_render
  · exact map_eq_of_forall₂ hinputs fun q p hbinds => by rw [hbinds.cname, hbinds.var]
  · rw [List.forall₂_map_right_iff]
    exact hinputs.imp fun q p hbinds =>
      ⟨p.marshaled, hbinds.marshaled, p.marshaled.type.spells_render⟩
  · rw [← Binding.cnames_eq hb]
    simp [Binding.equation]
  · obtain ⟨p, -, hvar, hargument⟩ := Binding.exists_of_mem_passed hb hx
    rw [hargument, hvar]
    split
    · exact Or.inr rfl
    · exact Or.inl rfl

/-- A search in a label: an object and a text are given, a position is given and returned, and the
width of what was found is returned. -/
def searchEntry : FunctionEntry where
  method :=
    { name := "LabelSearch"
      cname := "gtk_label_search"
      returnType := "gboolean"
      parameters :=
        [{ type := "GtkLabel*", name := "self" }, { type := "const-gchar*", name := "search_text" },
          { type := "gint*", name := "start_pos" }, { type := "gint*", name := "width" },
          { type := "gint", name := "type" }] }
  doc := some
    { name := "gtk_label_search"
      params := [{ name := "search_text", paragraph := [.text "what to search for"] }] }
  prior := none

/-- The symbols of the search. -/
def searchSymbols : SymbolTable := [("GtkLabel", .object ["GtkLabel", "GObject"])]

/-- The settings of the search, which reads the position as well as it writes it. -/
def searchSettings : Settings where
  inoutParameters := [("gtk_label_search", ["startPos"])]

/-- The search takes four arguments and hands five parameters to the call; the pointers to the text,
the position and the width are bound once each. -/
theorem ofFunction_callOrder_search :
    ∃ d b, (ofFunction searchSymbols searchSettings false searchEntry).outcome = .ok d ∧
      d.defined = .function b ∧
      IsHookOf "gtk_label_search" b.equation.hook ∧
      b.equation.arguments.map (·.2) = ["self", "searchText", "startPos", "type'"] ∧
      b.equation.passed.map (fun x => (x.1, x.2.argument)) =
        [("self", "(toLabel self)"), ("search_text", "searchTextPtr"),
          ("start_pos", "startPosPtr"), ("width", "widthPtr"), ("type", "(fromIntegral type')")] ∧
      (∀ x ∈ b.equation.passed, IsArgumentOf x.2.var x.2.argument) ∧
      ∀ x ∈ b.equation.passed, x.2.var = pointerTo (Name.ofParameter x.1) →
        b.equation.pointers.count x.2.var = 1 := by
  obtain ⟨d, hd⟩ : ∃ d,
      (ofFunction searchSymbols searchSettings false searchEntry).outcome = .ok d :=
    exists_ok_of_isSome (by decide +kernel)
  have hparts : (Binding.ofMethod searchSymbols searchSettings false searchEntry.method
      searchEntry.doc searchEntry.prior).map (fun b =>
        b.equation.passed.map fun x => (x.1, x.2.argument)) =
      .ok [("self", "(toLabel self)"), ("search_text", "searchTextPtr"),
        ("start_pos", "startPosPtr"), ("width", "widthPtr"), ("type", "(fromIntegral type')")] := by
    decide +kernel
  obtain ⟨b, -, -, hdefined, -, hwritten, hhook, harguments, -, -, -, hpointers⟩ :=
    ofFunction_callOrder hd
  rw [ofMethod_of_defined hd hdefined] at hparts
  refine ⟨d, b, hd, hdefined, hhook, ?_, Except.ok.inj hparts, hwritten.argument,
    hpointers (by decide +kernel)⟩
  rw [harguments]
  decide +kernel

end Definition
end BindingGen

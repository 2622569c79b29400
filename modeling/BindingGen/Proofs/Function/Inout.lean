/-
# Parameters that are read before they are written

The settings list the pointers that are read before they are written. Of the pointers that can be
handed over, the list is consulted for those to numbers and to enumerated values that may be
written. Such a parameter, if it is listed, is an argument of the function and a part of its result:
its type is among the inputs and among what is returned, and its bracket writes the argument to the
pointer that is read after the call. Every other pointer is an input or an output by its form alone,
whether it is listed or not.

Key definitions: `Binding.WritesAndReads`.
Key theorems: `Binding.writesAndReads_of_direction`, `Definition.ofFunction_inout`,
`Definition.not_inout_matchStart`.
-/
import BindingGen.Proofs.Function.Returned
import BindingGen.Proofs.Marshal.PointerForm

namespace BindingGen

open MarshaledParameter

/-! ### Listed parameters -/

/-- Which way a pointer goes is told by its form, and the list matters to values only. -/
theorem direction_marshalParameter {symbols : SymbolTable} {settings : Settings}
    {function name type : String} {m : MarshaledParameter} {form : PointerForm}
    (hform : (CType.parse type).Points symbols form)
    (h : marshalParameter symbols settings function name type = .ok m) :
    m.direction = form.direction (settings.isInout function name) := by
  have hm := marshalParameter_eq_ok_iff.mp h
  rw [hform.marshalType?, Option.some.injEq] at hm
  rw [← hm, PointerForm.direction_parameter]

namespace Binding

/-- The parameter is an argument of the function and a part of its result: a bracket writes the
argument to the pointer that is read for the result. -/
structure WritesAndReads (b : Binding) (p : BoundParameter) : Prop where
  input : p ∈ b.inputs
  argument : (p.cname, p.var) ∈ b.equation.arguments
  output : ∃ glue, (p, glue) ∈ b.codedOutputs ∧ (p.cname, glue) ∈ b.equation.outs ∧
    glue.bracket.source.map (·.var) = some p.var ∧ glue.bracket.pointer = glue.peek.pointer ∧
    glue.component.var = glue.peek.var ∧
    (p.marshaled.type.render, glue.component.bare) ∈ b.returnedParts
  resultType : b.resultType = ioType (b.returnedParts.map (·.1))

variable {symbols : SymbolTable} {settings : Settings} {isConstructor : Bool} {method : Method}
  {doc : Option FunctionDoc} {prior : Option PriorCall} {b : Binding}

theorem writesAndReads_of_direction
    (hb : ofMethod symbols settings isConstructor method doc prior = .ok b) {p : BoundParameter}
    (hp : p ∈ b.parameters) (hdirection : p.marshaled.direction = .inout) : b.WritesAndReads p := by
  have hserves : ∀ p ∈ b.parameters, p.marshaled.Serves p.var := fun p => serves_of_mem hb
  have hinput : p ∈ b.inputs :=
    List.mem_filter.mpr ⟨hp, by rw [BoundParameter.isInput, hdirection]; rfl⟩
  have houtput : p ∈ b.outputs :=
    List.mem_filter.mpr ⟨hp, by rw [BoundParameter.isOutput, hdirection]; rfl⟩
  obtain ⟨glue, hcoded⟩ := exists_mem_codedOutputs hserves houtput
  obtain ⟨-, hbracket, hsource, hvar, hpeek, hcomponent⟩ :=
    (hserves p hp).out_eq (mem_codedOutputs hcoded).2
  rw [if_pos hdirection] at hsource
  exact {
    input := hinput
    argument := List.mem_map_of_mem hinput
    output := ⟨glue, hcoded, mem_outs_of_mem_codedOutputs hcoded, hsource,
      hbracket.trans hpeek.symm, hcomponent.trans hvar.symm,
      List.mem_append_right _ (List.mem_map_of_mem hcoded)⟩
    resultType := resultType_eq_ioType (List.ne_nil_of_mem houtput) hserves }

end Binding

/-! ### Functions -/

namespace Definition

variable (symbols : SymbolTable) (settings : Settings) (isConstructor : Bool) (e : FunctionEntry)

/-- **Listed values are handed both ways.** The direction of a pointer is that of its form, and a
pointer is both an input and an output exactly if it is listed and leads to a number or an
enumerated value that may be written. In a function that is defined, such a parameter has its type
among those of the arguments and among those of the result, and what is returned for it is what is
read after the call from the pointer that its argument was written to. -/
theorem ofFunction_inout :
    (∀ function name type m, (CType.parse type).depth ≠ 0 →
      marshalParameter symbols settings function name type = .ok m →
        ∃ form, (CType.parse type).Points symbols form) ∧
    (∀ function name type m form, (CType.parse type).Points symbols form →
      marshalParameter symbols settings function name type = .ok m →
        m.direction = form.direction (settings.isInout function name) ∧
        (m.direction = .inout ↔
          settings.isInout function name = true ∧ form.isValue = true)) ∧
    ∀ d, (ofFunction symbols settings isConstructor e).outcome = .ok d →
      ∃ b comment signature, d.defined = .function b ∧
        d.text = comment ++ b.name ++ " :: " ++ constraintText b.constraints ++ signature ++
          "\n" ++ b.equation.render ∧
        SpellsTypes none (b.inputs.map (·.marshaled.type.render) ++ [b.resultType]) signature ∧
        List.Forall₂ (fun q p => q.Binds symbols settings e.method.cname p ∧
            ∀ form, (CType.parse q.type).Points symbols form → form.isValue = true →
              settings.isInout e.method.cname p.var = true → b.WritesAndReads p)
          e.method.parameters b.parameters := by
  refine ⟨fun function name type m hdepth hm => ?_, fun function name type m form hform hm => ?_,
    fun d hd => ?_⟩
  · exact CType.exists_points hdepth (marshalParameter_eq_ok_iff.mp hm)
  · have hdirection := direction_marshalParameter hform hm
    exact ⟨hdirection, by rw [hdirection, PointerForm.direction_eq_inout_iff]⟩
  · obtain ⟨b, comment, signature, hb, hdefined, -, htext, hspells⟩ := exists_of_ofFunction hd
    refine ⟨b, comment, signature, hdefined, htext, hspells,
      Binding.forall₂_of_binds hb fun q p hp hbinds => ⟨hbinds, ?_⟩⟩
    intro form hform hvalue hlisted
    refine Binding.writesAndReads_of_direction hb hp ?_
    rw [direction_marshalParameter hform hbinds.marshalParameter_eq_ok]
    exact PointerForm.direction_eq_inout_iff.mpr ⟨hlisted, hvalue⟩

/-- The search is given the place where it starts, which is listed, and returns where it stopped. -/
theorem ofFunction_inout_search :
    ∃ d b p, (ofFunction searchSymbols searchSettings false searchEntry).outcome = .ok d ∧
      d.defined = .function b ∧ p.cname = "start_pos" ∧ p.marshaled.direction = .inout ∧
      searchSettings.isInout "gtk_label_search" p.var = true ∧ b.WritesAndReads p := by
  obtain ⟨d, hd⟩ : ∃ d,
      (ofFunction searchSymbols searchSettings false searchEntry).outcome = .ok d :=
    exists_ok_of_isSome (by decide +kernel)
  have hparse : CType.parse "gint*" = ⟨"gint", 1, false⟩ := by decide +kernel
  have hform : (CType.parse "gint*").Points searchSymbols (.number .int) :=
    hparse ▸ .number rfl (by decide) rfl
  obtain ⟨-, hdirection, hfunctions⟩ :=
    ofFunction_inout searchSymbols searchSettings false searchEntry
  obtain ⟨b, -, -, hdefined, -, -, hparameters⟩ := hfunctions d hd
  have hmem : { type := "gint*", name := "start_pos" } ∈ searchEntry.method.parameters := by
    simp [searchEntry]
  obtain ⟨p, -, hbinds, hwrites⟩ := exists_of_mem_forall₂ hparameters.flip hmem
  have hlisted : searchSettings.isInout "gtk_label_search" p.var = true := by
    rw [hbinds.var]
    decide +kernel
  have hinout := (hdirection _ _ _ _ _ hform hbinds.marshalParameter_eq_ok).2
  exact ⟨d, b, p, hd, hdefined, hbinds.cname, hinout.mpr ⟨hlisted, rfl⟩, hlisted,
    hwrites _ hform rfl hlisted⟩

/-- The settings list the places of a match of a text search as read before they are written. But
the places are iterators, which are boxed, so that they are inputs that return nothing. -/
theorem not_inout_matchStart :
    Settings.curated.isInout "gtk_text_iter_forward_search" (Name.ofParameter "match_start") =
        true ∧
      (CType.parse "GtkTextIter*").depth = 1 ∧
      ∃ m, marshalParameter [("GtkTextIter", .boxed)] Settings.curated
          "gtk_text_iter_forward_search" (Name.ofParameter "match_start") "GtkTextIter*" = .ok m ∧
        m.direction ≠ .inout ∧ m.out = none := by
  have hparameter : marshalParameter [("GtkTextIter", .boxed)] Settings.curated
      "gtk_text_iter_forward_search" (Name.ofParameter "match_start") "GtkTextIter*" =
      .ok (lent (.plain "TextIter") "matchStart" "withTextIter") := by
    decide +kernel
  exact ⟨by decide +kernel, by decide +kernel, _, hparameter, by decide, rfl⟩

end Definition
end BindingGen

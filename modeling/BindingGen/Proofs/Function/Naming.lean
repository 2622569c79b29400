/-
# The name of a parameter

A parameter has one variable, which is bound in the equation of its function, and by which the lists
of parameters that may be null and of those that are read before they are written know it, and the
documentation mentions it. But the list of parameters whose documentation is left out, and the label
of a result of which several texts are said, know it by the words of its name in camel case. The two
names differ where these words make a keyword, which gets a mark as a variable; everywhere else, the
parameter has one name.

Key definitions: `LooksUp`, `Parameter.IsCalled`.
Key theorems: `Parameter.isCalled`, `Parameter.IsCalled.names_eq`, `Parameter.exists_isCalled_iff`,
`Definition.ofFunction_naming`, `Definition.not_isCalled_type`.
-/
import BindingGen.Proofs.Function.Documentation
import BindingGen.Proofs.Function.Returned

namespace BindingGen

/-! ### Places that know a parameter -/

/-- All that matters in a table of parameters is whether it lists `name` for the function. -/
def LooksUp {α : Type} (function name : String) (f : List (String × List String) → α) : Prop :=
  ∀ table table', Settings.lists table function name = Settings.lists table' function name →
    f table = f table'

/-- The places that know the parameter `q` of a function by a name: the lists of what may be null
and of what is read before it is written, and the text of its documentation, know it by `name`; the
list of what is not documented and the label of a result know it by `docName`. -/
structure Parameter.IsCalled (symbols : SymbolTable) (settings : Settings) (function : String)
    (q : Parameter) (name docName : String) : Prop where
  nullable : LooksUp function name fun table =>
    q.marshaled? symbols { settings with nullableParameters := table } function
  inout : LooksUp function name fun table =>
    q.marshaled? symbols { settings with inoutParameters := table } function
  mentioned : ∀ (ctx : DocContext) (d : ParamDoc) text, d.name = q.name → d.name ≠ resultDocName →
    ctx.spansText d.spans = .ok text →
      ∃ rest, ctx.spansText d.paragraph = .ok rest ∧ text = "@" ++ name ++ "@ - " ++ rest
  silenced : ∀ doc, (paramDocs settings function doc).lookup q.name =
    if settings.isSilenced function docName then none
    else (firstNamed? (·.name) q.name (FunctionDoc.paramsOf doc)).map (·.spans)
  labelled : ∀ (d : ParamDoc) before after, d.name = q.name → d.name ≠ resultDocName →
    before ++ after ≠ [] → mergeDocs ((before ++ d :: after).map (·.spans)) =
      some (.literal ("(" ++
          ", ".intercalate (before.map (·.label) ++ docName :: after.map (·.label)) ++ ")") ::
        .text mergeMark :: (before ++ d :: after).flatMap (·.spans))

/-! ### The two names -/

/-- Of the settings, handing a parameter over reads how types are named, which classes have no
subclasses, and whether the parameter is listed. -/
theorem marshalType?_congr {symbols : SymbolTable} {settings settings' : Settings}
    {function name : String} {type : CType}
    (hprefixes : settings.knownPrefixes = settings'.knownPrefixes)
    (hleaves : settings.leafClasses = settings'.leafClasses)
    (hnull : settings.maybeNullParameter function name = settings'.maybeNullParameter function name)
    (hinout : settings.isInout function name = settings'.isInout function name) :
    marshalType? symbols settings function name type =
      marshalType? symbols settings' function name type := by
  have hname : Name.ofType settings type.base = Name.ofType settings' type.base := by
    rw [Name.ofType, Name.ofType, hprefixes]
  have hleaf : settings.isLeaf type.base = settings'.isLeaf type.base := by
    rw [Settings.isLeaf, Settings.isLeaf, hleaves]
  simp only [marshalType?, marshalPointer, hname, hleaf, hnull, hinout]

theorem firstNamed?_filter {α : Type} {nameOf : α → String} (keep : String → Bool) (name : String)
    (records : List α) : firstNamed? nameOf name (records.filter fun r => keep (nameOf r)) =
      if keep name then firstNamed? nameOf name records else none := by
  rw [firstNamed?, List.find?_filter]
  cases hkeep : keep name with
  | true =>
    have hsame : (fun r => decide (keep (nameOf r) = true ∧ decide (nameOf r = name) = true)) =
        fun r => decide (nameOf r = name) := by
      funext r
      by_cases hr : nameOf r = name <;> simp [hr, hkeep]
    rw [hsame]
    rfl
  | false =>
    rw [List.find?_eq_none.mpr]
    · rfl
    · intro r _ hr
      obtain ⟨hkept, hr⟩ := of_decide_eq_true hr
      rw [of_decide_eq_true hr, hkeep] at hkept
      cases hkept

theorem DocContext.exists_of_spansText_cons {ctx : DocContext} {span : Span} {spans : List Span}
    {text : String} (h : ctx.spansText (span :: spans) = .ok text) :
    ∃ first rest, ctx.spanText span = .ok first ∧ ctx.spansText spans = .ok rest ∧
      text = first ++ rest := by
  obtain ⟨texts, htexts, h⟩ := bind_eq_ok_iff.mp h
  rw [List.mapM_cons] at htexts
  obtain ⟨first, hfirst, htexts⟩ := bind_eq_ok_iff.mp htexts
  obtain ⟨others, hothers, htexts⟩ := bind_eq_ok_iff.mp htexts
  refine ⟨first, String.join others, hfirst, bind_eq_ok_iff.mpr ⟨others, hothers, rfl⟩, ?_⟩
  rw [← Except.ok.inj h, ← Except.ok.inj htexts, String.join_cons]

theorem ParamDoc.exists_of_spansText {ctx : DocContext} {d : ParamDoc} {text : String}
    (hname : d.name ≠ resultDocName) (h : ctx.spansText d.spans = .ok text) :
    ∃ rest, ctx.spansText d.paragraph = .ok rest ∧
      text = "@" ++ Name.ofParameter d.name ++ "@ - " ++ rest := by
  rw [spans, if_neg hname] at h
  obtain ⟨mention, _, hmention, hspans, rfl⟩ := DocContext.exists_of_spansText_cons h
  obtain ⟨dash, rest, hdash, hparagraph, rfl⟩ := DocContext.exists_of_spansText_cons hspans
  obtain rfl := Except.ok.inj hmention
  obtain rfl := Except.ok.inj hdash
  have hescape : escape " - " = " - " := by decide +kernel
  have hmark : "@ - " = "@" ++ " - " := rfl
  refine ⟨rest, hparagraph, ?_⟩
  rw [hescape, hmark]
  simp only [String.append_assoc]

theorem mergeDocs_map_spans {parts : List ParamDoc} (h : 2 ≤ parts.length) :
    mergeDocs (parts.map (·.spans)) =
      some (.literal ("(" ++ ", ".intercalate (parts.map (·.label)) ++ ")") :: .text mergeMark ::
        parts.flatMap (·.spans)) :=
  (saysOfResult_map_spans "" parts).merged h

variable (symbols : SymbolTable) (settings : Settings) (function : String) (q : Parameter)

/-- The lists of what may be null and of what is read before it is written and the text of its
documentation know a parameter by its variable. The list of what is not documented and the label of
a result know it by the words of its name. -/
theorem Parameter.isCalled : q.IsCalled symbols settings function (Name.ofParameter q.name)
    (Name.camel q.name) where
  nullable _ _ h := marshalType?_congr rfl rfl h rfl
  inout _ _ h := marshalType?_congr rfl rfl rfl h
  mentioned ctx d text hname hreturns h := by
    rw [← hname]
    exact ParamDoc.exists_of_spansText hreturns h
  silenced doc := by
    rw [lookup_paramDocs, keptDocs,
      firstNamed?_filter fun name => !settings.isSilenced function (Name.camel name)]
    cases settings.isSilenced function (Name.camel q.name) <;> rfl
  labelled d before after hname hreturns hsome := by
    have hlabel : d.label = Name.camel q.name := by rw [ParamDoc.label, if_neg hreturns, hname]
    have htwo : 2 ≤ (before ++ d :: after).length := by
      have := List.length_pos_iff.mpr hsome
      simp only [List.length_append, List.length_cons] at this ⊢
      omega
    rw [mergeDocs_map_spans htwo, List.map_append, List.map_cons, hlabel]

/-- Unless a parameter is named as results are, both of its names are told by the places that know
it by them. -/
theorem Parameter.IsCalled.names_eq {symbols : SymbolTable} {settings : Settings}
    {function name docName : String} {q : Parameter}
    (h : q.IsCalled symbols settings function name docName) (hreturns : q.name ≠ resultDocName) :
    name = Name.ofParameter q.name ∧ docName = Name.camel q.name := by
  have hcalled := q.isCalled symbols settings function
  let d : ParamDoc := { name := q.name, paragraph := [] }
  constructor
  · let ctx : DocContext := ⟨[], settings, false⟩
    obtain ⟨text, htext⟩ : ∃ text, ctx.spansText d.spans = .ok text := by
      rw [ParamDoc.spans, if_neg hreturns]
      exact ⟨_, rfl⟩
    obtain ⟨rest, hrest, hname⟩ := h.mentioned _ d _ rfl hreturns htext
    obtain ⟨rest', hrest', hvar⟩ := hcalled.mentioned _ d _ rfl hreturns htext
    obtain rfl := Except.ok.inj (hrest.symm.trans hrest')
    simpa [← String.toList_inj] using hname.symm.trans hvar
  · let result : ParamDoc := { name := resultDocName, paragraph := [] }
    have hlabels := (h.labelled d [result] [] rfl hreturns (List.cons_ne_nil _ _)).symm.trans
      (hcalled.labelled d [result] [] rfl hreturns (List.cons_ne_nil _ _))
    simpa [← String.toList_inj] using hlabels

/-- A parameter has one name exactly if the words of its name make no keyword. -/
theorem Parameter.exists_isCalled_iff :
    (∃ name, q.IsCalled symbols settings function name name) ↔
      Name.camel q.name ∉ Name.keywords := by
  constructor
  · rintro ⟨name, h⟩ hkeyword
    have hreturns : q.name ≠ resultDocName := by
      intro heq
      rw [heq] at hkeyword
      exact absurd hkeyword (by decide +kernel)
    obtain ⟨hvar, hdoc⟩ := h.names_eq hreturns
    rw [hdoc, Name.ofParameter, Name.legal, if_pos (by simpa using hkeyword)] at hvar
    exact absurd hvar (by simp [← String.toList_inj])
  · intro hkeyword
    have hsame : Name.ofParameter q.name = Name.camel q.name := by
      rw [Name.ofParameter, Name.legal, if_neg (by simpa using hkeyword)]
    have hcalled := q.isCalled symbols settings function
    rw [hsame] at hcalled
    exact ⟨_, hcalled⟩

/-! ### Functions -/

/-- The equation of the function binds the variable of a parameter: as an argument if it is an
input, and by the statement that reads it if it is an output. -/
structure Binding.BindsVariable (b : Binding) (p : BoundParameter) : Prop where
  input : p.isInput = true → (p.cname, p.var) ∈ b.equation.arguments
  output : p.isOutput = true → ∃ glue, (p.cname, glue) ∈ b.equation.outs ∧ glue.peek.var = p.var

theorem Binding.bindsVariable {b : Binding} {p : BoundParameter} (hp : p ∈ b.parameters)
    (hserves : ∀ p ∈ b.parameters, p.marshaled.Serves p.var) : b.BindsVariable p where
  input hinput := List.mem_map_of_mem (List.mem_filter.mpr ⟨hp, hinput⟩)
  output houtput := by
    obtain ⟨glue, hcoded⟩ := exists_mem_codedOutputs hserves (List.mem_filter.mpr ⟨hp, houtput⟩)
    obtain ⟨-, -, -, hvar, -⟩ := (hserves p hp).out_eq (mem_codedOutputs hcoded).2
    exact ⟨glue, mem_outs_of_mem_codedOutputs hcoded, hvar⟩

namespace Definition

/-- **A parameter has one name, unless it is a keyword.** In a function that is defined, every
parameter has a variable that its equation binds. The lists of what may be null and of what is read
before it is written are asked for this variable, as is whether null pointers are written as absent
values, and the text of the parameter's documentation starts with it. The list of what is not
documented is asked for the words of its name instead, which also stand for it in the label of a
result. The names are one exactly if these words make no keyword. -/
theorem ofFunction_naming (isConstructor : Bool) (e : FunctionEntry) :
    (∀ function (q : Parameter), q.IsCalled symbols settings function (Name.ofParameter q.name)
      (Name.camel q.name)) ∧
    (∀ function (q : Parameter), (∃ name, q.IsCalled symbols settings function name name) ↔
      Name.camel q.name ∉ Name.keywords) ∧
    ∀ d, (ofFunction symbols settings isConstructor e).outcome = .ok d →
      ∃ b comment signature, d.defined = .function b ∧
        DocContext.signature ⟨symbols, settings, b.handlesNull settings⟩ b.types = .ok signature ∧
        d.text = comment ++ b.name ++ " :: " ++ constraintText b.constraints ++ signature ++
          "\n" ++ b.equation.render ∧
        b.docs = paramDocs settings e.method.cname e.doc ∧
        b.handlesNull settings = (settings.maybeNullResult e.method.cname ||
          e.method.parameters.any fun q =>
            settings.maybeNullParameter e.method.cname (Name.ofParameter q.name)) ∧
        List.Forall₂ (fun q p => q.Binds symbols settings e.method.cname p ∧ b.BindsVariable p)
          e.method.parameters b.parameters := by
  refine ⟨fun function q => q.isCalled symbols settings function,
    fun function q => Parameter.exists_isCalled_iff symbols settings function q, fun d hd => ?_⟩
  obtain ⟨b, comment, signature, hb, hdefined, hsignature, htext, -⟩ := exists_of_ofFunction hd
  have hserves : ∀ p ∈ b.parameters, p.marshaled.Serves p.var := fun p => Binding.serves_of_mem hb
  refine ⟨b, comment, signature, hdefined, hsignature, htext, Binding.docs_of_ofMethod hb, ?_,
    Binding.forall₂_of_binds hb fun q p hp hbinds => ⟨hbinds, Binding.bindsVariable hp hserves⟩⟩
  have hany : (b.parameters.any fun p => settings.maybeNullParameter e.method.cname p.var) =
      (b.parameters.map (·.var)).any (settings.maybeNullParameter e.method.cname) := by
    rw [List.any_map]
    rfl
  rw [Binding.handlesNull, Binding.cname_of_ofMethod hb, hany, Binding.vars_eq hb, List.any_map]
  rfl

/-- The place where a search starts has one name, which is an argument of the function. -/
theorem ofFunction_naming_search :
    ∃ d b p, (ofFunction searchSymbols searchSettings false searchEntry).outcome = .ok d ∧
      d.defined = .function b ∧ p.cname = "start_pos" ∧ p.var = "startPos" ∧ b.BindsVariable p ∧
      ∃ q ∈ searchEntry.method.parameters, q.name = "start_pos" ∧
        q.IsCalled searchSymbols searchSettings "gtk_label_search" "startPos" "startPos" := by
  obtain ⟨d, hd⟩ : ∃ d,
      (ofFunction searchSymbols searchSettings false searchEntry).outcome = .ok d :=
    exists_ok_of_isSome (by decide +kernel)
  obtain ⟨hcalled, -, hfunctions⟩ :=
    ofFunction_naming searchSymbols searchSettings false searchEntry
  obtain ⟨b, -, -, hdefined, -, -, -, -, hparameters⟩ := hfunctions d hd
  have hmem : { type := "gint*", name := "start_pos" } ∈ searchEntry.method.parameters := by
    simp [searchEntry]
  obtain ⟨p, -, hbinds, hbound⟩ := exists_of_mem_forall₂ hparameters.flip hmem
  have hname : Name.ofParameter "start_pos" = "startPos" := by decide +kernel
  have hcamel : Name.camel "start_pos" = "startPos" := by decide +kernel
  refine ⟨d, b, p, hd, hdefined, hbinds.cname, hbinds.var.trans hname, hbound, _, hmem, rfl, ?_⟩
  have hstart := hcalled "gtk_label_search" { type := "gint*", name := "start_pos" }
  rwa [hname, hcamel] at hstart

/-- The settings of the search that leave out the documentation of its kind, by its variable. -/
def primedSettings : Settings :=
  { searchSettings with silencedParameters := [("gtk_label_search", ["type'"])] }

/-- The kind of a search is no keyword as a variable, but it is one as the words of its name. By its
variable, its documentation is not left out; and where it is a part of a result, the label does not
name its variable. -/
theorem not_isCalled_type :
    Name.ofParameter "type" = "type'" ∧
      (¬∃ name, Parameter.IsCalled searchSymbols primedSettings "gtk_label_search"
        { type := "gint", name := "type" } name name) ∧
      primedSettings.isSilenced "gtk_label_search" "type'" = true ∧
      (paramDocs primedSettings "gtk_label_search" (some searchDoc)).lookup "type" =
        some [.arg "type", .text " - ", .text "kind"] ∧
      mergeDocs [[.arg "type", .text " - ", .text "kind"], [.arg "width", .text " - "]] =
        some [.literal "(type, width)", .text mergeMark, .arg "type", .text " - ", .text "kind",
          .arg "width", .text " - "] := by
  have hkeyword : Name.camel "type" ∈ Name.keywords := by decide +kernel
  refine ⟨by decide +kernel, ?_, by decide +kernel, by decide +kernel, by decide +kernel⟩
  rw [Parameter.exists_isCalled_iff]
  exact not_not_intro hkeyword

end Definition
end BindingGen

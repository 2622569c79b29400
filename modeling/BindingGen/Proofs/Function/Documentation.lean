/-
# Documentation of parameters reaches the signature

What is said of a parameter is found by the parameter's C name, and is put behind the types of the
signature: that of an input behind the type of the input, that of an output behind the type of the
result, and that of a parameter that is both behind both. Where no name stands for two parameters or
for two texts, no text is lost and none gets elsewhere. Several texts behind the result stand in the
order of its parts, under a label that names them, and the journal has a warning then and only then.

Key definitions: `keptDocs`, `ParamDoc.label`, `IsDocOf`, `ArePartDocs`, `SaysOfResult`.
Key theorems: `isDocOf_lookup_paramDocs`, `exists_partDocs`, `saysOfResult_map_spans`,
`Definition.ofFunction_documentation`.
-/
import Mathlib.Data.List.Perm.Subperm
import BindingGen.Proofs.Function.CallOrder
import BindingGen.Proofs.Places

namespace BindingGen

/-- What a function's documentation says of parameters and of the result. -/
def FunctionDoc.paramsOf (doc : Option FunctionDoc) : List ParamDoc := (doc.map (·.params)).getD []

/-- What is said of parameters and of the result, without that which is left out. -/
def keptDocs (settings : Settings) (function : String) (doc : Option FunctionDoc) :
    List ParamDoc :=
  (FunctionDoc.paramsOf doc).filter fun d => !settings.isSilenced function (Name.camel d.name)

/-- The name of a part of a result: the variable of a parameter, and none for the C result. -/
def ParamDoc.label (d : ParamDoc) : String :=
  if d.name = resultDocName then "_" else Name.camel d.name

/-! ### Texts and their places -/

/-- The spans are what is said under the name, and there are none exactly if nothing is said. -/
def IsDocOf (docs : List ParamDoc) (name : String) (doc : Option (List Span)) : Prop :=
  ∀ spans, doc = some spans ↔ ∃ d ∈ docs, d.name = name ∧ d.spans = spans

/-- What is said of the parts of a result, in the order of the parts and each text once. -/
structure ArePartDocs (docs : List ParamDoc) (names : List String) (parts : List ParamDoc) :
    Prop where
  mem_iff : ∀ d, d ∈ parts ↔ d ∈ docs ∧ d.name ∈ names
  ordered : (parts.map (·.name)).Sublist names
  nodup : parts.Nodup

/-- What the parts say together of the result of a function, and what the journal notes of it. -/
structure SaysOfResult (function : String) (parts : List ParamDoc) (doc : Option (List Span))
    (records : List Record) : Prop where
  silent : parts = [] → doc = none
  single : ∀ d, parts = [d] → doc = some d.spans
  merged : 2 ≤ parts.length → doc =
    some (.literal ("(" ++ ", ".intercalate (parts.map (·.label)) ++ ")") :: .text mergeMark ::
      parts.flatMap (·.spans))
  noted : records = if 2 ≤ parts.length then
      [⟨.warning, .codegen, function ++ ": return value docs need merging by hand"⟩]
    else []

section Docs

variable {settings : Settings} {function : String} {doc : Option FunctionDoc}

theorem nodup_keptDocs (h : ((FunctionDoc.paramsOf doc).map (·.name)).Nodup) :
    ((keptDocs settings function doc).map (·.name)).Nodup :=
  h.sublist (List.filter_sublist.map _)

theorem lookup_paramDocs (name : String) : (paramDocs settings function doc).lookup name =
    (firstNamed? (·.name) name (keptDocs settings function doc)).map (·.spans) := by
  rw [paramDocs, lookup_firstEntries]
  exact lookup_map_eq_firstNamed? ParamDoc.name ParamDoc.spans name _

/-- What is looked up under a name is what is said under it. -/
theorem isDocOf_lookup_paramDocs (h : ((FunctionDoc.paramsOf doc).map (·.name)).Nodup)
    (name : String) :
    IsDocOf (keptDocs settings function doc) name
      ((paramDocs settings function doc).lookup name) := by
  intro spans
  rw [lookup_paramDocs, Option.map_eq_some_iff]
  simp only [firstNamed?_eq_some_iff (nodup_keptDocs h), and_assoc]

end Docs

/-- The texts that are looked up under names are what is said of the parts with these names. -/
theorem exists_partDocs {docs : List ParamDoc} (hdocs : (docs.map (·.name)).Nodup)
    {names : List String} (hnames : names.Nodup) :
    ∃ parts, ArePartDocs docs names parts ∧
      (names.map fun name => (firstNamed? (·.name) name docs).map (·.spans)).filterMap id =
        parts.map (·.spans) := by
  have hname : ∀ name ∈ names, ∀ d, firstNamed? (·.name) name docs = some d → d.name = name :=
    fun name _ d hd => (mem_of_firstNamed? hd).2
  have hordered : ((names.filterMap fun name => firstNamed? (·.name) name docs).map
      (·.name)).Sublist names := by
    rw [map_filterMap_eq hname, List.map_id']
    exact List.filter_sublist
  refine ⟨names.filterMap fun name => firstNamed? (·.name) name docs,
    ⟨fun d => ?_, hordered, ?_⟩, ?_⟩
  · rw [List.mem_filterMap]
    simp only [firstNamed?_eq_some_iff hdocs]
    constructor
    · rintro ⟨name, hmem, hd, rfl⟩
      exact ⟨hd, hmem⟩
    · rintro ⟨hd, hmem⟩
      exact ⟨d.name, hmem, hd, rfl⟩
  · exact List.Nodup.of_map _ (hnames.sublist hordered)
  · rw [List.filterMap_map, List.map_filterMap]
    rfl

theorem ArePartDocs.map_name {docs parts : List ParamDoc} {names : List String}
    (h : ArePartDocs docs names parts) (hnames : names.Nodup)
    (hall : ∀ name ∈ names, name ∈ docs.map (·.name)) : parts.map (·.name) = names := by
  have hsubset : names ⊆ parts.map (·.name) := by
    intro name hname
    obtain ⟨d, hd, rfl⟩ := List.mem_map.mp (hall name hname)
    exact List.mem_map_of_mem ((h.mem_iff d).mpr ⟨hd, hname⟩)
  exact h.ordered.eq_of_length_le (hnames.subperm hsubset).length_le

theorem partName_spans (d : ParamDoc) : partName d.spans = d.label := by
  unfold ParamDoc.spans ParamDoc.label
  split_ifs <;> rfl

/-- What is written of a result is what its parts say. -/
theorem saysOfResult_map_spans (function : String) (parts : List ParamDoc) :
    SaysOfResult function parts (mergeDocs (parts.map (·.spans)))
      (mergeRecords function (parts.map (·.spans))) where
  silent h := by rw [h]; rfl
  single d h := by rw [h]; rfl
  merged h := by
    match parts, h with
    | d :: d' :: rest, _ =>
      have hlabels : (List.map (·.spans) (d :: d' :: rest)).map partName =
          (d :: d' :: rest).map (·.label) := by
        rw [List.map_map]
        exact List.map_congr_left fun d _ => partName_spans d
      rw [← hlabels, List.flatMap_def]
      rfl
  noted := by
    rw [mergeRecords, List.length_map]
    split_ifs <;> first | rfl | omega

/-! ### Functions -/

namespace Binding

variable {symbols : SymbolTable} {settings : Settings} {isConstructor : Bool} {method : Method}
  {doc : Option FunctionDoc} {prior : Option PriorCall} {b : Binding}
  (hb : ofMethod symbols settings isConstructor method doc prior = .ok b)
include hb

theorem cname_of_ofMethod : b.cname = method.cname := by
  obtain ⟨parameters, -, hb⟩ := bind_eq_ok_iff.mp hb
  obtain ⟨result, -, hb⟩ := bind_eq_ok_iff.mp hb
  rw [← Except.ok.inj hb]

theorem docs_of_ofMethod : b.docs = paramDocs settings method.cname doc := by
  obtain ⟨parameters, -, hb⟩ := bind_eq_ok_iff.mp hb
  obtain ⟨result, -, hb⟩ := bind_eq_ok_iff.mp hb
  rw [← Except.ok.inj hb]

theorem resultDocs_eq : b.resultDocs =
    ((resultDocName :: (method.outputs symbols settings).map (·.name)).map fun name =>
      (firstNamed? (·.name) name (keptDocs settings method.cname doc)).map
        (·.spans)).filterMap id := by
  have hnames : b.outputs.map (·.cname) = (method.outputs symbols settings).map (·.name) :=
    map_eq_of_forall₂ (binds_outputs hb) fun _ _ hbinds => hbinds.cname
  rw [resultDocs, docs_of_ofMethod hb, ← hnames, List.map_cons, List.map_map]
  simp only [lookup_paramDocs, Function.comp_def]

end Binding

namespace Definition

variable {symbols : SymbolTable} {settings : Settings} {isConstructor : Bool} {e : FunctionEntry}

/-- The journal of a function that is written has a note if its result has several texts. -/
theorem records_ofFunction {b : Binding} {text : String}
    (hb : Binding.ofMethod symbols settings isConstructor e.method e.doc e.prior = .ok b)
    (htext : b.render ⟨symbols, settings, b.handlesNull settings⟩ = .ok text) :
    (ofFunction symbols settings isConstructor e).records = mergeRecords b.cname b.resultDocs := by
  have hbound : (Logged.ofExcept ((Binding.ofMethod symbols settings isConstructor e.method e.doc
      e.prior).mapError .refused)).outcome = .ok b := by
    rw [hb]
    rfl
  have hwritten : (b.write symbols settings).outcome = .ok text := htext
  have hnoted : (b.write symbols settings).records = mergeRecords b.cname b.resultDocs := by
    rw [Binding.write, Logged.bind_ok rfl]
    exact List.append_nil _
  unfold ofFunction
  rw [Logged.bind_ok hbound, Logged.bind_ok hwritten, hnoted]
  exact List.append_nil _

/-- **Documentation of parameters reaches the signature without loss.** Where the parameters have
distinct names other than that of the result, and no name stands for two texts, a function that is
defined has a signature with a type for each input in order and then that of the result. Behind the
type of an input is what is said of the input and nothing else. Behind that of the result is what is
said of the C result and of the outputs in order: nothing, or the one text there is, or all texts
behind a label that names each of them; and the journal has a warning in this last case only. -/
theorem ofFunction_documentation {d : Definition}
    (hnames : (e.method.parameters.map (·.name)).Nodup)
    (hreturns : resultDocName ∉ e.method.parameters.map (·.name))
    (hdocs : ((FunctionDoc.paramsOf e.doc).map (·.name)).Nodup)
    (h : (ofFunction symbols settings isConstructor e).outcome = .ok d) :
    ∃ b inputs result comment signature parts, d.defined = .function b ∧
      DocContext.signature ⟨symbols, settings, b.handlesNull settings⟩
        (inputs ++ [(b.resultType, result)]) = .ok signature ∧
      d.text = comment ++ b.name ++ " :: " ++ constraintText b.constraints ++ signature ++ "\n" ++
        b.equation.render ∧
      List.Forall₂ (fun q entry =>
          (∃ m, q.marshaled? symbols settings e.method.cname = some m ∧
            entry.1 = m.type.render) ∧
          IsDocOf (keptDocs settings e.method.cname e.doc) q.name entry.2)
        (e.method.inputs symbols settings) inputs ∧
      ArePartDocs (keptDocs settings e.method.cname e.doc)
        (resultDocName :: (e.method.outputs symbols settings).map (·.name)) parts ∧
      SaysOfResult e.method.cname parts result
        (ofFunction symbols settings isConstructor e).records := by
  obtain ⟨b, text, hb, htext, rfl⟩ := ofFunction_eq_ok_iff.mp h
  obtain ⟨comment, signature, hsignature, htextEq⟩ := Binding.exists_of_render htext
  have hparts : (resultDocName :: (e.method.outputs symbols settings).map (·.name)).Nodup := by
    have houtputs : ((e.method.outputs symbols settings).map (·.name)).Sublist
        (e.method.parameters.map (·.name)) := List.filter_sublist.map _
    refine List.nodup_cons.mpr ⟨fun hmem => hreturns (houtputs.subset hmem), ?_⟩
    exact hnames.sublist houtputs
  obtain ⟨parts, hdocsOf, hspans⟩ := exists_partDocs (nodup_keptDocs hdocs) hparts
  have hresult : b.resultDocs = parts.map (·.spans) := (Binding.resultDocs_eq hb).trans hspans
  refine ⟨b,
    b.inputs.map fun p : BoundParameter => (p.marshaled.type.render, b.docs.lookup p.cname),
    mergeDocs b.resultDocs, comment, signature, parts, rfl, hsignature, htextEq, ?_, hdocsOf, ?_⟩
  · rw [List.forall₂_map_right_iff]
    refine (Binding.binds_inputs hb).imp fun q p hbinds => ⟨⟨_, hbinds.marshaled, rfl⟩, ?_⟩
    rw [Binding.docs_of_ofMethod hb, hbinds.cname]
    exact isDocOf_lookup_paramDocs hdocs q.name
  · rw [records_ofFunction hb htext, Binding.cname_of_ofMethod hb, hresult]
    exact saysOfResult_map_spans e.method.cname parts

/-- What is said of a search in a label; of its kind, nothing is kept. -/
def searchDoc : FunctionDoc where
  name := "gtk_label_search"
  params :=
    [{ name := "width", paragraph := [.text "length"] },
      { name := "search_text", paragraph := [.text "key"] },
      { name := "start_pos", paragraph := [.text "place"] },
      { name := "type", paragraph := [.text "kind"] },
      { name := resultDocName, paragraph := [.text "success"] }]

/-- The settings of the search, with the documentation of its kind left out. -/
def silencedSettings : Settings :=
  { searchSettings with silencedParameters := [("gtk_label_search", ["type"])] }

/-- The position is both an argument and a part of the result, and what is said of it stands behind
both types. Together with the match and its width there are three texts behind the result, and a
warning. -/
theorem ofFunction_documentation_search :
    ∃ d b inputs result signature, ∃ parts : List ParamDoc,
      (ofFunction searchSymbols silencedSettings false
        { searchEntry with doc := some searchDoc }).outcome = .ok d ∧
      d.defined = .function b ∧
      DocContext.signature ⟨searchSymbols, silencedSettings, b.handlesNull silencedSettings⟩
        (inputs ++ [(b.resultType, result)]) = .ok signature ∧
      List.Forall₂ (fun name entry =>
          IsDocOf (keptDocs silencedSettings "gtk_label_search" (some searchDoc)) name entry.2)
        ["self", "search_text", "start_pos", "type"] inputs ∧
      parts.map (·.name) = [resultDocName, "start_pos", "width"] ∧
      result = some (.literal "(_, startPos, width)" :: .text mergeMark ::
        parts.flatMap (·.spans)) ∧
      (ofFunction searchSymbols silencedSettings false
        { searchEntry with doc := some searchDoc }).records =
        [⟨.warning, .codegen, "gtk_label_search: return value docs need merging by hand"⟩] := by
  obtain ⟨d, hd⟩ : ∃ d, (ofFunction searchSymbols silencedSettings false
      { searchEntry with doc := some searchDoc }).outcome = .ok d :=
    exists_ok_of_isSome (by decide +kernel)
  obtain ⟨b, inputs, result, -, signature, parts, hdefined, hsignature, -, hinputs, hparts,
    hresult⟩ := ofFunction_documentation (by decide) (by decide) (by decide) hd
  have hnames : resultDocName :: ((searchEntry.method.outputs searchSymbols silencedSettings).map
      (·.name)) = [resultDocName, "start_pos", "width"] := by decide +kernel
  have hinputNames : (searchEntry.method.inputs searchSymbols silencedSettings).map (·.name) =
      ["self", "search_text", "start_pos", "type"] := by decide +kernel
  have hkept : (keptDocs silencedSettings "gtk_label_search" (some searchDoc)).map (·.name) =
      ["width", "search_text", "start_pos", resultDocName] := by decide +kernel
  have hall : parts.map (·.name) = [resultDocName, "start_pos", "width"] := by
    rw [hnames] at hparts
    refine hparts.map_name (by decide) fun name hname => ?_
    have hsaid : [resultDocName, "start_pos", "width"] ⊆
        ["width", "search_text", "start_pos", resultDocName] := by decide
    exact hkept ▸ hsaid hname
  have hlength : 2 ≤ parts.length := by
    rw [← List.length_map (·.name), hall]
    decide
  have hlabels : parts.map (·.label) = ["_", "startPos", "width"] := by
    have hlabel : parts.map (·.label) = (parts.map (·.name)).map fun name =>
        ParamDoc.label { name } := by
      rw [List.map_map]
      rfl
    rw [hlabel, hall]
    decide +kernel
  refine ⟨d, b, inputs, result, signature, parts, hd, hdefined, hsignature, ?_, hall, ?_, ?_⟩
  · rw [← hinputNames, List.forall₂_map_left_iff]
    exact hinputs.imp fun q entry h => h.2
  · rw [hresult.merged hlength, hlabels]
    rfl
  · rw [hresult.noted, if_pos hlength]
    rfl

end Definition
end BindingGen

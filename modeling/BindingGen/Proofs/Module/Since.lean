/-
# Versions of a module's fragments

The fragments of a body and of an export list need the versions that the documentation of the
members names, and no others: headers, types, instances and members without documentation name
none. What holds of the empty version and of every version in the documentation therefore holds of
every fragment.

Key definitions: `ModuleDoc.memberSinces`.
Key theorems: `since_of_mem_exportsOf`, `since_of_mem_exportFragments`, `since_of_mem_fragments`.
-/
import BindingGen.Module.Body
import BindingGen.Proofs.Module.Section

namespace BindingGen

/-- The versions that the documentation of a module's members names. -/
def ModuleDoc.memberSinces (doc : ModuleDoc) : List String :=
  doc.functions.map (·.since) ++ doc.properties.map (·.since) ++ doc.signals.map (·.since)

/-! ### Sections -/

theorem since_of_mem_bodySection {name : String} {entries : List Fragment} {f : Fragment}
    (h : f ∈ bodySection name entries) : f.since = "" ∨ f ∈ entries := by
  unfold bodySection at h
  split_ifs at h
  · cases h
  · rcases List.mem_cons.mp h with rfl | h
    · exact Or.inl rfl
    · exact Or.inr h

theorem since_of_mem_exportSection {name : String} {entries : List Fragment} {f : Fragment}
    (h : f ∈ exportSection name entries) : f.since = "" ∨ f ∈ entries := by
  unfold exportSection at h
  split_ifs at h
  · cases h
  · rcases List.mem_cons.mp h with rfl | h
    · exact Or.inl rfl
    rcases List.mem_cons.mp h with rfl | h
    · exact Or.inl rfl
    · exact Or.inr h

/-! ### Members -/

namespace ModuleDoc

variable {doc : ModuleDoc}

theorem mem_memberSinces {since : String} : since ∈ doc.memberSinces ↔
    (∃ f ∈ doc.functions, f.since = since) ∨ (∃ p ∈ doc.properties, p.since = since) ∨
      ∃ s ∈ doc.signals, s.since = since := by
  simp only [memberSinces, List.mem_append, List.mem_map, or_assoc]

theorem since_functionDoc {d : Option FunctionDoc}
    (h : ∀ f ∈ d, ∃ full ∈ doc.functions, f.since = full.since) :
    FunctionDoc.sinceOf d = "" ∨ FunctionDoc.sinceOf d ∈ doc.memberSinces := by
  cases d with
  | none => exact Or.inl rfl
  | some f =>
    obtain ⟨full, hfull, hsince⟩ := h f rfl
    exact Or.inr (mem_memberSinces.mpr (Or.inl ⟨full, hfull, hsince.symm⟩))

theorem since_memberDoc {d : Option MemberDoc}
    (h : ∀ m ∈ d, m.since = "" ∨ m ∈ doc.properties ∨ m ∈ doc.signals) :
    MemberDoc.sinceOf d = "" ∨ MemberDoc.sinceOf d ∈ doc.memberSinces := by
  cases d with
  | none => exact Or.inl rfl
  | some m =>
    rcases h m rfl with hempty | hproperty | hsignal
    · exact Or.inl hempty
    · exact Or.inr (mem_memberSinces.mpr (Or.inr (Or.inl ⟨m, hproperty, rfl⟩)))
    · exact Or.inr (mem_memberSinces.mpr (Or.inr (Or.inr ⟨m, hsignal, rfl⟩)))

end ModuleDoc

section Module

variable {symbols : SymbolTable} {settings : Settings} {obj : Object} {doc : ModuleDoc}
  {prior : PriorModule}

/-- An export needs a version that the documentation names, or none. -/
theorem since_of_mem_exportsOf {kind : MemberKind} {e : Export}
    (he : e ∈ obj.exportsOf settings doc prior kind) :
    e.since = "" ∨ e.since ∈ doc.memberSinces := by
  cases kind with
  | constructors =>
    obtain ⟨entry, hentry, rfl⟩ := List.mem_map.mp (List.mem_mergeSort.mp he)
    refine ModuleDoc.since_functionDoc fun f hf => ?_
    obtain ⟨full, hfull, rfl⟩ := Object.mem_of_doc_constructorEntries hentry hf
    exact ⟨full, hfull, rfl⟩
  | methods =>
    obtain ⟨entry, hentry, rfl⟩ := List.mem_map.mp (List.mem_mergeSort.mp he)
    refine ModuleDoc.since_functionDoc fun f hf => ?_
    exact ⟨f, Object.mem_of_doc_methodEntries hentry hf, rfl⟩
  | properties =>
    obtain ⟨entry, hentry, rfl⟩ := List.mem_map.mp he
    refine ModuleDoc.since_memberDoc fun d hd => ?_
    rcases Object.mem_of_doc_propertyEntries hentry hd with hmem | ⟨pair, rfl⟩
    · exact Or.inr (Or.inl hmem)
    · exact Or.inl rfl
  | signals =>
    obtain ⟨entry, hentry, rfl⟩ := List.mem_map.mp (List.mem_mergeSort.mp he)
    refine ModuleDoc.since_memberDoc fun d hd => ?_
    exact Or.inr (Or.inr (Object.mem_of_doc_signalEntries hentry hd))

/-- So does a fragment of the export list. -/
theorem since_of_mem_exportFragments {f : Fragment}
    (hf : f ∈ obj.exportFragments settings doc prior) :
    f.since = "" ∨ f.since ∈ doc.memberSinces := by
  rw [Object.exportFragments_eq, List.mem_append, List.mem_cons] at hf
  rcases hf with (rfl | hf) | hf
  · exact Or.inl rfl
  · obtain ⟨e, he, rfl⟩ := List.mem_map.mp hf
    simp only [Object.typeExports, List.mem_cons, List.not_mem_nil, or_false] at he
    rcases he with rfl | rfl | rfl <;> exact Or.inl rfl
  · obtain ⟨kind, -, hf⟩ := List.mem_flatMap.mp hf
    rcases since_of_mem_exportSection hf with h | h
    · exact Or.inl h
    · obtain ⟨e, he, rfl⟩ := List.mem_map.mp h
      exact since_of_mem_exportsOf he

/-- So does a fragment of the body. -/
theorem since_of_mem_fragments {d : Definitions}
    (hd : (obj.definitions symbols settings doc prior).outcome = .ok d) {f : Fragment}
    (hf : f ∈ d.fragments settings obj) : f.since = "" ∨ f.since ∈ doc.memberSinces := by
  rw [Definitions.fragments_eq, List.mem_append] at hf
  rcases hf with hf | hf
  · rcases since_of_mem_bodySection hf with h | h
    · exact Or.inl h
    · obtain ⟨i, -, rfl⟩ := List.mem_map.mp h
      exact Or.inl rfl
  · obtain ⟨kind, -, hf⟩ := List.mem_flatMap.mp hf
    rcases since_of_mem_bodySection hf with h | h
    · exact Or.inl h
    · -- a definition needs the version that its export needs
      obtain ⟨x, hx, rfl⟩ := List.mem_map.mp h
      have hexport : x.toExport ∈ obj.exportsOf settings doc prior kind :=
        (Object.exportsOf_perm hd kind).mem_iff.mpr (List.mem_map_of_mem hx)
      exact since_of_mem_exportsOf hexport

end Module
end BindingGen

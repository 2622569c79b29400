/-
# What the journal is about

A journal's records are on the topics of the activities that wrote it. The classification of a
library writes on symbols only, and the generation of modules, with the symbols at hand, on what it
collects and on what it writes.

Key definitions: `Logged.WritesOn`.
Key theorems: `Logged.WritesOn.bind`, `writesOn_classify`, `writesOn_generateModule`,
`writesOn_generateAll`.
-/
import BindingGen.Library

namespace BindingGen

namespace Logged

variable {α β : Type} {topics : List Topic} {x : Logged α}

theorem ok_bind (a : α) (records : List Record) (f : α → Logged β) :
    (⟨.ok a, records⟩ : Logged α) >>= f = ⟨(f a).outcome, records ++ (f a).records⟩ := rfl

theorem map_ok (f : α → β) (a : α) (records : List Record) :
    f <$> (⟨.ok a, records⟩ : Logged α) = ⟨.ok (f a), records⟩ := by
  rw [← bind_pure_comp, ok_bind, pure_outcome, pure_records, List.append_nil]

theorem records_map (f : α → β) (x : Logged α) : (f <$> x).records = x.records := by
  rw [← bind_pure_comp]
  cases h : x.outcome with
  | error fault => rw [bind_error h]
  | ok a => rw [bind_ok h, pure_records, List.append_nil]

/-- The records of the computation are on certain topics. -/
def WritesOn (topics : List Topic) (x : Logged α) : Prop := ∀ r ∈ x.records, r.topic ∈ topics

theorem writesOn_pure (a : α) : WritesOn topics (pure a : Logged α) :=
  fun _ hr => absurd hr List.not_mem_nil

theorem writesOn_ofExcept (y : Except Fault α) : WritesOn topics (ofExcept y) :=
  fun _ hr => absurd hr List.not_mem_nil

theorem WritesOn.bind {f : α → Logged β} (hx : x.WritesOn topics)
    (hf : ∀ a, (f a).WritesOn topics) : (x >>= f).WritesOn topics := by
  intro r hr
  cases h : x.outcome with
  | error fault =>
    rw [bind_error h] at hr
    exact hx r hr
  | ok a =>
    rw [bind_ok h] at hr
    exact (List.mem_append.mp hr).elim (hx r) (hf a r)

theorem WritesOn.map (f : α → β) (hx : x.WritesOn topics) : (f <$> x).WritesOn topics := by
  intro r hr
  rw [records_map] at hr
  exact hx r hr

theorem WritesOn.mapM {f : α → Logged β} (hf : ∀ a, (f a).WritesOn topics) (l : List α) :
    (l.mapM f).WritesOn topics := by
  induction l with
  | nil => exact writesOn_pure _
  | cons a l ih =>
    rw [List.mapM_cons]
    exact (hf a).bind fun _ => ih.bind fun _ => writesOn_pure _

end Logged

open Logged

/-! ### Classification -/

theorem Classified.topic_of_mem_records {c : Classified} {r : Record} (hr : r ∈ c.records) :
    r.topic = .symbols := by
  unfold records at hr
  rcases List.mem_append.mp hr with hr | hr
  · obtain ⟨parent, -, rfl⟩ := List.mem_map.mp hr
    rfl
  · obtain ⟨⟨cname, chain⟩, -, rfl⟩ := List.mem_map.mp hr
    rfl

/-- The classification writes on symbols. -/
theorem writesOn_classify (settings : Settings) (collect : Bool) (api : Api) :
    (classify settings collect api).logged.WritesOn [.symbols] := by
  intro r hr
  obtain ⟨c, -, hr⟩ := List.mem_flatMap.mp hr
  rw [Classified.topic_of_mem_records hr]
  exact List.mem_singleton_self _

/-! ### Generation -/

/-- The topics that the generation of modules writes on. -/
def generationTopics : List Topic := [.collate, .codegen]

theorem Object.writesOn_constructorRecords (obj : Object) :
    (Logged.tell obj.constructorRecords).WritesOn generationTopics := by
  intro r hr
  obtain ⟨c, -, hr⟩ := List.mem_flatMap.mp hr
  split at hr
  · rw [List.mem_singleton.mp hr]
    simp [generationTopics]
  · cases hr

theorem Object.writesOn_methodRecords (obj : Object) (priors : List PriorCall) :
    (Logged.tell (obj.methodRecords priors)).WritesOn generationTopics := by
  intro r hr
  obtain ⟨m, -, hr⟩ := List.mem_flatMap.mp hr
  split at hr
  · rw [List.mem_singleton.mp hr]
    simp [generationTopics]
  · split at hr
    · cases hr
    · rw [List.mem_singleton.mp hr]
      simp [generationTopics]

theorem writesOn_mergeRecords (function : String) (docs : List (List Span)) :
    (Logged.tell (mergeRecords function docs)).WritesOn generationTopics := by
  intro r hr
  unfold Logged.tell mergeRecords at hr
  dsimp only at hr
  split at hr
  · cases hr
  · rw [List.mem_singleton.mp hr]
    simp [generationTopics]

section Generation

variable (symbols : SymbolTable) (settings : Settings) (obj : Object)

theorem Definition.writesOn_ofFunction (isConstructor : Bool) (e : FunctionEntry) :
    (ofFunction symbols settings isConstructor e).WritesOn generationTopics := by
  refine (writesOn_ofExcept _).bind fun b => WritesOn.bind ?_ fun _ => writesOn_pure _
  exact (writesOn_mergeRecords _ _).bind fun _ => writesOn_ofExcept _

theorem Object.writesOn_definitions (doc : ModuleDoc) (prior : PriorModule) :
    (definitions symbols settings obj doc prior).WritesOn generationTopics := by
  refine WritesOn.bind ?_ fun _ => WritesOn.bind ?_ fun _ => ?_
  · exact obj.writesOn_constructorRecords.bind fun _ =>
      WritesOn.mapM (Definition.writesOn_ofFunction symbols settings true) _
  · exact (obj.writesOn_methodRecords _).bind fun _ =>
      WritesOn.mapM (Definition.writesOn_ofFunction symbols settings false) _
  · exact (writesOn_ofExcept _).bind fun _ => (writesOn_ofExcept _).bind fun _ => writesOn_pure _

theorem writesOn_moduleExports (doc : ModuleDoc) (prior : PriorModule) :
    (moduleExports settings obj doc prior).WritesOn generationTopics := by
  refine WritesOn.bind ?_ fun _ => (writesOn_ofExcept _).bind fun _ => writesOn_pure _
  intro r hr
  exact (List.mem_append.mp hr).elim (obj.writesOn_constructorRecords r)
    (obj.writesOn_methodRecords prior.calls r)

theorem writesOn_generateModule (doc : ModuleDoc) (prior : PriorModule) :
    (generateModule symbols settings obj doc prior).WritesOn generationTopics := by
  refine (writesOn_moduleExports settings obj doc _).bind fun _ => WritesOn.bind ?_ fun _ =>
    writesOn_pure _
  exact (obj.writesOn_definitions symbols settings doc _).bind fun _ =>
    (writesOn_ofExcept _).bind fun _ => writesOn_pure _

end Generation

/-- A refusal that is caught is noted as one of the generation. -/
theorem writesOn_catchRefusal {x : Logged GeneratedModule} (h : x.WritesOn generationTopics)
    (cname : String) : (catchRefusal cname x).WritesOn generationTopics := by
  intro r hr
  unfold catchRefusal at hr
  split at hr
  · exact h r hr
  · refine (List.mem_append.mp hr).elim (h r) fun hnote => ?_
    rw [List.mem_singleton.mp hnote]
    simp [generationTopics]
  · exact h r hr

/-- The generation of modules writes on what it collects and on what it writes. -/
theorem writesOn_generateAll (l : Library) (symbols : SymbolTable)
    (cycles : List (String × List String)) (objects : List (String × Object)) :
    (generateAll l symbols cycles objects).WritesOn generationTopics := by
  induction objects with
  | nil => exact writesOn_pure _
  | cons entry rest ih =>
    obtain ⟨cname, obj⟩ := entry
    refine WritesOn.bind ?_ fun _ => ih.bind fun _ => writesOn_pure _
    unfold generateObject
    split
    · exact writesOn_pure _
    · exact (writesOn_catchRefusal (writesOn_generateModule symbols l.settings obj _ _) cname).map _

end BindingGen

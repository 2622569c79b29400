/-
# Libraries without repeated names

Where no C name is declared twice, no entry of a table hides another: a look-up finds an entry
exactly if the table has it. So the symbol of a name, and the cycle of a name that fails, are the
verdict on its one declaration.

Key definitions: `Api.cnames`.
Key theorems: `lookup_symbols_iff`, `lookup_failures_eq_some_iff`.
-/
import BindingGen.Proofs.Places
import BindingGen.Proofs.Symbol.Classification

namespace BindingGen

/-- The C names that a namespace declares. -/
def Namespace.cnames (ns : Namespace) : List String :=
  ns.enums.map (·.cname) ++ ns.objects.map (·.cname) ++
    (ns.enums.flatMap (·.members)).map (·.cname) ++ ns.misc.map (·.cname)

/-- The C names that an API declares. -/
def Api.cnames (api : Api) : List String := api.flatMap Namespace.cnames

/-! ### Declared names -/

theorem Classified.names_ofApi (api : Api) (root : String) :
    (ofApi api root).map (·.cname) = api.cnames := by
  unfold ofApi Api.cnames
  rw [List.map_flatMap]
  simp only [ofNamespace, List.map_append, List.map_map, Function.comp_def]
  rfl

theorem Namespace.names_objects_sublist (ns : Namespace) :
    (ns.objects.map (·.cname)).Sublist ns.cnames := by
  unfold cnames
  rw [List.append_assoc, List.append_assoc]
  exact (List.sublist_append_left _ _).trans (List.sublist_append_right _ _)

theorem Api.names_declared_sublist (api : Api) :
    (api.declared.map (·.cname)).Sublist api.cnames := by
  unfold declared cnames
  rw [List.map_flatMap]
  induction api with
  | nil => exact List.Sublist.slnil
  | cons ns rest ih =>
    rw [List.flatMap_cons, List.flatMap_cons]
    exact ns.names_objects_sublist.append ih

section Distinct

variable {settings : Settings} {api : Api} (hdistinct : api.cnames.Nodup)
include hdistinct

theorem Api.nodup_declared : (api.declared.map (·.cname)).Nodup :=
  hdistinct.sublist api.names_declared_sublist

theorem nodup_names_filterMap {α : Type} (root : String) {f : Classified → Option (String × α)}
    (hf : ∀ c name value, f c = some (name, value) → c.cname = name) :
    (((Classified.ofApi api root).filterMap f).map (·.1)).Nodup := by
  have hnames : ∀ c entry, f c = some entry → entry.1 = c.cname := fun c entry hc =>
    (hf c entry.1 entry.2 hc).symm
  refine List.Nodup.sublist (names_filterMap_sublist hnames _) ?_
  rw [Classified.names_ofApi]
  exact hdistinct

variable (h : (classify settings true api).fault? = none)
include h

/-- The symbol of a name is the verdict on its declaration. -/
theorem lookup_symbols_iff {name : String} {symbol : CSymbol} :
    (classify settings true api).symbols.lookup name = some symbol ↔
      ∃ c ∈ Classified.ofApi api settings.rootType, c.cname = name ∧ c.verdict = .symbol symbol := by
  have hnodup := nodup_names_filterMap hdistinct settings.rootType
    fun c name symbol hc => (Classified.symbol?_eq_some_iff.mp hc).1
  rw [lookup_symbols h, lookup_eq_some_iff_mem hnodup, List.mem_filterMap]
  simp only [Classified.symbol?_eq_some_iff]

/-- The cycle of a name that fails is the verdict on its declaration. -/
theorem lookup_failures_eq_some_iff {name : String} {chain : List String} :
    (classify settings true api).failures.lookup name = some chain ↔
      ∃ c ∈ Classified.ofApi api settings.rootType, c.cname = name ∧ c.verdict = .cycle chain := by
  have hnodup := nodup_names_filterMap hdistinct settings.rootType
    fun c name chain hc => (Classified.cycle?_eq_some_iff.mp hc).1
  rw [lookup_failures h, lookup_eq_some_iff_mem hnodup, List.mem_filterMap]
  simp only [Classified.cycle?_eq_some_iff]

end Distinct
end BindingGen

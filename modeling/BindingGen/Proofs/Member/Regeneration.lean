/-
# The functions of an object reproduce themselves

The calls that the bound functions of an object make are a list of prior calls. Where the C names of
the object's functions are distinct and no prior call has a short name, reading that list as the
prior module binds the same functions in the same order and with the same hooks, whatever their
documentation is: the list holds each bound function once, so that the places in it grow along the
functions, and a deprecated method stands in it where it was kept.

Key definitions: `FunctionEntry.hook`, `FunctionEntry.bare`, `Object.calls`.
Key theorems: `Object.isBound_calls`, `Object.orderedMethods_calls`,
`Object.orderedConstructors_calls`, `Object.hook_calls`.
-/
import BindingGen.Function.Binding
import BindingGen.Proofs.Member.Entries

namespace BindingGen

/-- The call that a hook makes. -/
def CallHook.priorCall (hook : CallHook) : PriorCall where
  cname := hook.name
  isUnsafe := hook.isUnsafe

/-- The hook of a function. -/
def FunctionEntry.hook (e : FunctionEntry) : CallHook := .ofPrior e.method.cname e.prior

/-- A function without what is said of it: the method that is bound and its hook. -/
def FunctionEntry.bare (e : FunctionEntry) : Method × CallHook := (e.method, e.hook)

namespace Object

variable (obj : Object) (settings : Settings) (docs : List FunctionDoc) (priors : List PriorCall)

/-- The functions of a module, constructors first. -/
def functionEntries : List FunctionEntry :=
  obj.constructorEntries settings docs priors ++ obj.methodEntries docs priors true

/-- The calls that the functions of a module make. -/
def calls : List PriorCall := (obj.functionEntries settings docs priors).map (·.hook.priorCall)

/-! ### The calls of a module -/

variable {obj settings docs priors}

theorem constructorEntry_mem {c : Constructor} (hc : c ∈ obj.orderedConstructors priors) :
    obj.constructorEntry settings docs priors c ∈ obj.functionEntries settings docs priors :=
  List.mem_append_left _ (List.mem_map_of_mem hc)

theorem methodEntry_mem {m : Method} (hm : m ∈ obj.orderedMethods docs priors true) :
    obj.methodEntry docs priors m ∈ obj.functionEntries settings docs priors :=
  List.mem_append_right _ (List.mem_map_of_mem hm)

theorem prior_of_mem_functionEntries {e : FunctionEntry}
    (he : e ∈ obj.functionEntries settings docs priors) :
    e.prior = firstNamed? (·.cname) e.method.cname priors := by
  unfold functionEntries at he
  rw [constructorEntries_eq_map, methodEntries_eq_map] at he
  rcases List.mem_append.mp he with he | he
  · obtain ⟨c, -, rfl⟩ := List.mem_map.mp he
    rfl
  · obtain ⟨m, -, rfl⟩ := List.mem_map.mp he
    rfl

section FullNames

variable (hfull : ∀ c ∈ priors, c.hookName = c.cname)
include hfull

/-- Without short names, a function is called by its C name. -/
theorem hook_name_of_mem {e : FunctionEntry}
    (he : e ∈ obj.functionEntries settings docs priors) : e.hook.name = e.method.cname := by
  unfold FunctionEntry.hook
  cases hprior : e.prior with
  | none => rfl
  | some c =>
    rw [prior_of_mem_functionEntries he] at hprior
    obtain ⟨hc, hname⟩ := mem_of_firstNamed? hprior
    exact (hfull c hc).trans hname

theorem map_cname_calls :
    (obj.calls settings docs priors).map (·.cname) =
      (obj.orderedConstructors priors).map (·.cname) ++
        (obj.orderedMethods docs priors true).map (·.cname) := by
  have hnames : (obj.calls settings docs priors).map (·.cname) =
      (obj.functionEntries settings docs priors).map (·.method.cname) := by
    rw [calls, List.map_map]
    exact List.map_congr_left fun e he => hook_name_of_mem hfull he
  rw [hnames, functionEntries, constructorEntries_eq_map, methodEntries_eq_map, List.map_append,
    List.map_map, List.map_map]
  rfl

variable (hdistinct : obj.functionNames.Nodup)
include hdistinct

theorem nodup_calls : ((obj.calls settings docs priors).map (·.cname)).Nodup := by
  rw [map_cname_calls hfull]
  have hconstructors : (obj.constructors.filter fun c => !hasVarargs c.parameters).Sublist
      obj.constructors := List.filter_sublist
  have hmethods : (obj.methods.filter (isBound priors)).Sublist obj.methods := List.filter_sublist
  have hperm := ((obj.orderedConstructors_perm priors).map (·.cname)).append
    ((obj.orderedMethods_perm docs priors true).map (·.cname))
  rw [hperm.nodup_iff]
  exact hdistinct.sublist ((hconstructors.map _).append (hmethods.map _))

theorem mem_calls_iff {m : Method} (hm : m ∈ obj.methods) :
    m.cname ∈ (obj.calls settings docs priors).map (·.cname) ↔ isBound priors m = true := by
  obtain ⟨-, hmethods, hdisjoint⟩ := List.nodup_append.mp hdistinct
  rw [map_cname_calls hfull, List.mem_append]
  constructor
  · rintro (h | h)
    · -- a constructor has another name
      obtain ⟨c, hc, hname⟩ := List.mem_map.mp h
      have hc := (List.mem_filter.mp ((obj.orderedConstructors_perm priors).mem_iff.mp hc)).1
      exact absurd hname (hdisjoint _ (List.mem_map_of_mem hc) _ (List.mem_map_of_mem hm))
    · obtain ⟨other, hother, hname⟩ := List.mem_map.mp h
      obtain ⟨hother, hbound⟩ :=
        List.mem_filter.mp ((obj.orderedMethods_perm docs priors true).mem_iff.mp hother)
      rwa [List.inj_on_of_nodup_map hmethods hother hm hname] at hbound
  · intro hbound
    refine Or.inr (List.mem_map_of_mem ?_)
    exact (obj.orderedMethods_perm docs priors true).mem_iff.mpr
      (List.mem_filter.mpr ⟨hm, hbound⟩)

theorem isBound_calls {m : Method} (hm : m ∈ obj.methods) :
    isBound (obj.calls settings docs priors) m = isBound priors m := by
  have hmem : m.cname ∈ (obj.calls settings docs priors).map (·.cname) ↔ isBound priors m = true :=
    mem_calls_iff hfull hdistinct hm
  have hany : ((obj.calls settings docs priors).any fun c => c.cname = m.cname) =
      isBound priors m := by
    rw [Bool.eq_iff_iff, ← hmem, List.any_eq_true, List.mem_map]
    simp only [decide_eq_true_eq]
  unfold isBound at hany ⊢
  rw [hany]
  cases hasVarargs m.parameters <;> cases m.deprecated <;> rfl

/-- The methods come again in the same order, whatever their documentation. -/
theorem orderedMethods_calls (docs' : List FunctionDoc) :
    obj.orderedMethods docs' (obj.calls settings docs priors) true =
      obj.orderedMethods docs priors true := by
  have hbound : obj.methods.filter (isBound (obj.calls settings docs priors)) =
      obj.methods.filter (isBound priors) :=
    List.filter_congr fun m hm => isBound_calls hfull hdistinct hm
  have hpart : ((obj.orderedMethods docs priors true).map (·.cname)).Sublist
      ((obj.calls settings docs priors).map (·.cname)) := by
    rw [map_cname_calls hfull]
    exact List.sublist_append_right _ _
  rw [orderedMethods, hbound]
  exact mergeSort_places_eq_of_perm _ (obj.orderedMethods_perm docs priors true).symm
    (pairwise_rank_lt (nodup_calls hfull hdistinct) hpart)

/-- The constructors come again in the same order. -/
theorem orderedConstructors_calls :
    obj.orderedConstructors (obj.calls settings docs priors) = obj.orderedConstructors priors := by
  have hpart : ((obj.orderedConstructors priors).map (·.cname)).Sublist
      ((obj.calls settings docs priors).map (·.cname)) := by
    rw [map_cname_calls hfull]
    exact List.sublist_append_left _ _
  exact mergeSort_key_eq_of_perm _ (obj.orderedConstructors_perm priors).symm
    (pairwise_rank_lt (nodup_calls hfull hdistinct) hpart)

theorem hook_calls {e : FunctionEntry} (he : e ∈ obj.functionEntries settings docs priors) :
    CallHook.ofPrior e.method.cname
      (firstNamed? (·.cname) e.method.cname (obj.calls settings docs priors)) = e.hook := by
  have hname := hook_name_of_mem hfull he
  have hmem : e.hook.priorCall ∈ obj.calls settings docs priors := List.mem_map_of_mem he
  have hfirst := firstNamed?_of_mem (nodup_calls hfull hdistinct) hmem
  rw [show e.hook.priorCall.cname = e.method.cname from hname] at hfirst
  rw [hfirst]
  rfl

theorem bare_constructorEntries_calls (settings : Settings) (docs docs' : List FunctionDoc) :
    (obj.constructorEntries settings docs' (obj.calls settings docs priors)).map (·.bare) =
      (obj.constructorEntries settings docs priors).map (·.bare) := by
  simp only [constructorEntries_eq_map, orderedConstructors_calls hfull hdistinct, List.map_map]
  refine List.map_congr_left fun c hc => congrArg (Prod.mk _) ?_
  exact hook_calls hfull hdistinct (constructorEntry_mem hc)

theorem bare_methodEntries_calls (settings : Settings) (docs docs' : List FunctionDoc) :
    (obj.methodEntries docs' (obj.calls settings docs priors) true).map (·.bare) =
      (obj.methodEntries docs priors true).map (·.bare) := by
  simp only [methodEntries_eq_map, orderedMethods_calls hfull hdistinct, List.map_map]
  refine List.map_congr_left fun m hm => congrArg (Prod.mk _) ?_
  exact hook_calls hfull hdistinct (methodEntry_mem hm)

end FullNames

end Object
end BindingGen

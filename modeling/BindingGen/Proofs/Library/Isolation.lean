/-
# Failures are isolated

A library whose declarations and documentation can be read is always generated. Each of its objects
gets a module or a refusal, not both, and a refusal keeps no other object from its module: the
objects are met in the order of their first declarations, and each of them adds one entry to one of
the two lists (`generateAll_partitions`).

Key definitions: `Library.IsReadable`, `Api.DeclaredBefore`.
Key theorems: `generateObject_eq_ok`, `generateAll_partitions`, `Library.generate_isolates`.
-/
import BindingGen.Library
import BindingGen.Proofs.Module.Refusal
import BindingGen.Proofs.Symbol.Classification

namespace BindingGen

/-- The declarations of a library are of known kinds and its documentation can be read. -/
structure Library.IsReadable (l : Library) : Prop where
  api : l.api.IsKnown
  docs : ∀ entry ∈ l.docs, entry.2.IsReadable

/-- The first object of one C name is declared before that of another. -/
def Api.DeclaredBefore (api : Api) (a b : String) : Prop :=
  (api.declared.map (·.cname)).idxOf a < (api.declared.map (·.cname)).idxOf b

/-! ### Objects -/

theorem isReadable_docFor {docs : List (String × ModuleDoc)}
    (h : ∀ entry ∈ docs, entry.2.IsReadable) (cname : String) : (docFor docs cname).IsReadable := by
  unfold docFor
  cases hlookup : docs.lookup cname with
  | none =>
    refine ⟨fun _ h => ?_, fun _ h => ?_, fun _ h => ?_, Version.isReadable_empty⟩ <;> cases h
  | some doc => exact h (cname, doc) (mem_of_lookup_eq_some hlookup)

theorem outcome_catchRefusal (cname : String) {x : Logged GeneratedModule}
    (h : FailsOnly Fault.IsRefusal x.outcome) :
    ∃ answer, (catchRefusal cname x).outcome = .ok answer ∧
      ∀ refusal, answer = .error refusal → refusal.IsOfMember := by
  unfold catchRefusal
  cases hx : x.outcome with
  | ok m => exact ⟨.ok m, rfl, fun _ hm => by cases hm⟩
  | error fault =>
    obtain ⟨refusal, rfl, hmember⟩ := h fault hx
    refine ⟨.error refusal, rfl, fun other hother => ?_⟩
    exact Except.error.inj hother ▸ hmember

variable {l : Library} (symbols : SymbolTable) (cycles : List (String × List String))

/-- An object of a readable library gets a module or a refusal, which tells of a cycle exactly if
one is known of the object. -/
theorem generateObject_eq_ok (h : l.IsReadable) (cname : String) (obj : Object) :
    ∃ answer, (generateObject l symbols cycles cname obj).outcome =
        .ok (Generated.ofObject cname answer) ∧
      ∀ chain, answer = .error (.inheritanceCycle chain) ↔ cycles.lookup cname = some chain := by
  unfold generateObject
  cases hcycle : cycles.lookup cname with
  | some chain => exact ⟨_, rfl, fun other => by simp⟩
  | none =>
    have hmodule : FailsOnly Fault.IsRefusal
        (generateModule symbols l.settings obj (docFor l.docs cname)
          (priorFor l.priors cname obj.name)).outcome :=
      failsOnly_generateModule (isReadable_docFor h.docs cname)
    obtain ⟨answer, hanswer, hmember⟩ := outcome_catchRefusal cname hmodule
    refine ⟨answer, ?_, fun chain => iff_of_false (fun hrefused => ?_) (by simp)⟩
    · rw [Logged.outcome_map, hanswer]
      rfl
    · exact hmember _ hrefused chain rfl

/-! ### All objects -/

/-- The objects that got a module. -/
def Generated.moduleNames (g : Generated) : List String := g.modules.map (·.1)

/-- The objects that were refused. -/
def Generated.failureNames (g : Generated) : List String := g.failures.map (·.1)

/-- Every object adds one name, to the modules or to the failures, in order. -/
theorem generateAll_partitions (h : l.IsReadable) (objects : List (String × Object)) :
    ∃ g, (generateAll l symbols cycles objects).outcome = .ok g ∧
      g.moduleNames.Sublist (objects.map (·.1)) ∧ g.failureNames.Sublist (objects.map (·.1)) ∧
      (g.moduleNames ++ g.failureNames).Perm (objects.map (·.1)) := by
  induction objects with
  | nil => exact ⟨{}, rfl, List.nil_sublist _, List.nil_sublist _, List.Perm.nil⟩
  | cons entry rest ih =>
    obtain ⟨cname, obj⟩ := entry
    obtain ⟨answer, hfirst, -⟩ := generateObject_eq_ok symbols cycles h cname obj
    obtain ⟨g, hrest, hmodules, hfailures, hperm⟩ := ih
    refine ⟨(Generated.ofObject cname answer).append g, ?_, ?_⟩
    · simp only [generateAll, Logged.outcome_bind, hfirst, hrest]
      rfl
    cases answer with
    | ok m => exact ⟨hmodules.cons_cons cname, hfailures.cons cname, hperm.cons cname⟩
    | error refusal =>
      exact ⟨hmodules.cons cname, hfailures.cons_cons cname,
        List.perm_middle.trans (hperm.cons cname)⟩

/-- **Failures are isolated.** A readable library is generated, every object is found among the
modules or among the failures but not in both, nothing else is, and both lists are in the order of
first declaration. -/
theorem Library.generate_isolates (l : Library) (h : l.IsReadable) :
    ∃ g, l.generate.outcome = .ok g ∧
      (∀ name ∈ l.api.objects.map (·.1), Xor (name ∈ g.moduleNames) (name ∈ g.failureNames)) ∧
      (∀ name, name ∈ g.moduleNames ∨ name ∈ g.failureNames →
        name ∈ l.api.objects.map (·.1)) ∧
      g.moduleNames.Pairwise l.api.DeclaredBefore ∧
      g.failureNames.Pairwise l.api.DeclaredBefore := by
  let c := classify l.settings true l.api
  obtain ⟨g, hg, hmodules, hfailures, hperm⟩ :=
    generateAll_partitions c.symbols c.failures h l.api.objects
  have horder : (l.api.objects.map (·.1)).Pairwise l.api.DeclaredBefore := by
    have hfirst := pairwise_firstEntries (l.api.declared.map fun o => (o.cname, o))
    rw [List.map_map] at hfirst
    exact hfirst
  have hnodup : (g.moduleNames ++ g.failureNames).Nodup :=
    hperm.nodup_iff.mpr (horder.imp fun h he => absurd h (by simp [he, Api.DeclaredBefore]))
  refine ⟨g, ?_, fun name hname => ?_, fun name hname => ?_, horder.sublist hmodules,
    horder.sublist hfailures⟩
  · unfold Library.generate
    rw [Logged.outcome_bind, outcome_classify h.api]
    exact hg
  · have hdisjoint := (List.nodup_append.mp hnodup).2.2
    rcases List.mem_append.mp (hperm.mem_iff.mpr hname) with hm | hf
    · exact Or.inl ⟨hm, fun hf => hdisjoint name hm name hf rfl⟩
    · exact Or.inr ⟨hf, fun hm => hdisjoint name hm name hf rfl⟩
  · exact hperm.mem_iff.mp (List.mem_append.mpr hname)

/-- A library of an object that can be bound, one with a method that takes a type without a
counterpart, and one that is its own parent. -/
def mixedLibrary : Library where
  api := [{
    name := "Gtk"
    objects := [
      { name := "Button", cname := "GtkButton", parent := "GObject",
        methods := [{ name := "Press", cname := "gtk_button_press", returnType := "void" }] },
      { name := "Plug", cname := "GtkPlug", parent := "GObject",
        methods := [{ name := "Wire", cname := "gtk_plug_wire", returnType := "void",
                      parameters := [{ type := "va_list", name := "wires" }] }] },
      { name := "Loop", cname := "GtkLoop", parent := "GtkLoop" }]
    misc := [{ kind := .boxed, name := "Rect", cname := "GdkRect" }] }]
  docs := [("GtkButton", {
    name := "GtkButton"
    since := "2.4"
    functions := [{
      name := "gtk_button_press"
      paragraphs := [.text [.text "Presses ", .typeRef "GtkButton", .text " twice."]]
      since := "2.12.1" }] })]

theorem mixedLibrary_isReadable : mixedLibrary.IsReadable where
  api := by
    show ∀ ns ∈ mixedLibrary.api, ∀ m ∈ ns.misc, m.kind.isKnown = true
    decide
  docs := by
    intro entry hentry
    rw [List.mem_singleton.mp hentry]
    exact ⟨by decide, by decide, by decide, by decide⟩

/-- The first object of the library gets its module although the two others are refused. -/
theorem generate_mixedLibrary :
    mixedLibrary.IsReadable ∧ ∃ g, mixedLibrary.generate.outcome = .ok g ∧
      (∀ name ∈ ["GtkButton", "GtkPlug", "GtkLoop"],
        Xor (name ∈ g.moduleNames) (name ∈ g.failureNames)) ∧
      g.moduleNames = ["GtkButton"] ∧ g.failureNames = ["GtkPlug", "GtkLoop"] := by
  refine ⟨mixedLibrary_isReadable, ?_⟩
  obtain ⟨g, hg, hxor, -⟩ := Library.generate_isolates mixedLibrary mixedLibrary_isReadable
  have hnames : mixedLibrary.generate.outcome.toOption.map
      (fun g => (g.moduleNames, g.failureNames)) = some (["GtkButton"], ["GtkPlug", "GtkLoop"]) := by
    decide +kernel
  rw [hg] at hnames
  obtain ⟨hmodules, hfailures⟩ := Prod.mk.inj (Option.some.inj hnames)
  exact ⟨g, hg, fun name hname => hxor name hname, hmodules, hfailures⟩

end BindingGen

/-
# One object's module does not see the members of another

The module of an object, or the reason why it gets none, is read off the outline of the library, the
first declaration of the object, its documentation and its prior module. Two libraries that agree on
these may differ in everything else (the members of other objects, what is said of them, their prior
modules), and other objects may fail in the one and not in the other.

Key definitions: `Generated.entry`, `Library.AgreesAbout`.
Key theorems: `generateObject_congr`, `entry_generateAll`, `Library.entry_generate`,
`Library.generate_noninterferes`.
-/
import BindingGen.Proofs.Library.Cycle
import BindingGen.Proofs.Symbol.Outline

namespace BindingGen

/-- The module of an object and its refusal, of which an object that is generated has one. -/
def Generated.entry (g : Generated) (name : String) : Option GeneratedModule × Option Refusal :=
  (g.modules.lookup name, g.failures.lookup name)

/-- The libraries differ in nothing that the object of the name is generated from: they have the
same settings and the same outline, and the object has the same first declaration, documentation
and prior module. -/
structure Library.AgreesAbout (name : String) (l l' : Library) : Prop where
  settings : l.settings = l'.settings
  outline : l.api.outline = l'.api.outline
  object : firstNamed? (·.cname) name l.api.declared = firstNamed? (·.cname) name l'.api.declared
  doc : l.docs.lookup name = l'.docs.lookup name
  prior : l.priors.lookup name = l'.priors.lookup name

/-! ### Entries -/

namespace Generated

variable {name cname : String}

theorem entry_ofObject_ne (h : name ≠ cname) (answer : Except Refusal GeneratedModule) :
    (ofObject cname answer).entry name = (none, none) := by
  have hne : (name == cname) = false := by simpa using h
  cases answer <;> simp [entry, ofObject, List.lookup_cons, hne]

theorem entry_append_of_none {a : Generated} (h : a.entry name = (none, none)) (b : Generated) :
    (a.append b).entry name = b.entry name := by
  obtain ⟨hmodules, hfailures⟩ := Prod.mk.inj h
  simp [entry, append, List.lookup_append, hmodules, hfailures]

theorem entry_append_of_none_right {b : Generated} (h : b.entry name = (none, none))
    (a : Generated) : (a.append b).entry name = a.entry name := by
  obtain ⟨hmodules, hfailures⟩ := Prod.mk.inj h
  simp [entry, append, List.lookup_append, hmodules, hfailures]

end Generated

section Generation

variable {l l' : Library} {symbols : SymbolTable} {cycles : List (String × List String)}
  {name : String} {obj : Object}

theorem exists_ofObject_of_generateObject {first : Generated}
    (h : (generateObject l symbols cycles name obj).outcome = .ok first) :
    ∃ answer, first = .ofObject name answer := by
  unfold generateObject at h
  split at h
  · exact ⟨_, (Except.ok.inj h).symm⟩
  · rw [Logged.outcome_map, map_eq_ok_iff] at h
    obtain ⟨answer, -, hanswer⟩ := h
    exact ⟨answer, hanswer.symm⟩

/-- An object is generated from the settings, its documentation and its prior module. -/
theorem generateObject_congr (hsettings : l.settings = l'.settings)
    (hdoc : l.docs.lookup name = l'.docs.lookup name)
    (hprior : l.priors.lookup name = l'.priors.lookup name) :
    generateObject l symbols cycles name obj = generateObject l' symbols cycles name obj := by
  unfold generateObject docFor priorFor
  rw [hsettings, hdoc, hprior]

theorem entry_generateAll_of_not_mem {objects : List (String × Object)} {g : Generated}
    (hg : (generateAll l symbols cycles objects).outcome = .ok g)
    (hname : name ∉ objects.map (·.1)) : g.entry name = (none, none) := by
  induction objects generalizing g with
  | nil =>
    cases hg
    rfl
  | cons entry rest ih =>
    obtain ⟨cname, other⟩ := entry
    obtain ⟨first, others, hfirst, hothers, rfl⟩ := generateAll_cons_eq_ok_iff.mp hg
    obtain ⟨answer, rfl⟩ := exists_ofObject_of_generateObject hfirst
    rw [List.map_cons, List.mem_cons, not_or] at hname
    rw [Generated.entry_append_of_none (Generated.entry_ofObject_ne hname.1 answer)]
    exact ih hothers hname.2

/-- The entry of an object is what is generated for it, whatever is generated for the others. -/
theorem entry_generateAll {objects : List (String × Object)} {g : Generated}
    (hg : (generateAll l symbols cycles objects).outcome = .ok g)
    (hdistinct : (objects.map (·.1)).Nodup) (hobject : (name, obj) ∈ objects) :
    ∃ own, (generateObject l symbols cycles name obj).outcome = .ok own ∧
      g.entry name = own.entry name := by
  induction objects generalizing g with
  | nil => cases hobject
  | cons entry rest ih =>
    obtain ⟨cname, other⟩ := entry
    obtain ⟨first, others, hfirst, hothers, rfl⟩ := generateAll_cons_eq_ok_iff.mp hg
    rw [List.map_cons, List.nodup_cons] at hdistinct
    rcases List.mem_cons.mp hobject with hhere | hrest
    · cases hhere
      refine ⟨first, hfirst, ?_⟩
      exact Generated.entry_append_of_none_right
        (entry_generateAll_of_not_mem hothers hdistinct.1) first
    · obtain ⟨answer, rfl⟩ := exists_ofObject_of_generateObject hfirst
      obtain ⟨own, hown, hentry⟩ := ih hothers hdistinct.2 hrest
      have hlater : name ∈ rest.map (·.1) := List.mem_map.mpr ⟨(name, obj), hrest, rfl⟩
      have hne : name ≠ cname := fun he => hdistinct.1 (he ▸ hlater)
      refine ⟨own, hown, ?_⟩
      rw [Generated.entry_append_of_none (Generated.entry_ofObject_ne hne answer), hentry]

end Generation

/-! ### Libraries -/

theorem Api.lookup_objects (api : Api) (name : String) :
    api.objects.lookup name = firstNamed? (·.cname) name api.declared := by
  rw [objects, lookup_firstEntries]
  exact (lookup_map_eq_firstNamed? (·.cname) id name api.declared).trans Option.map_id'

theorem Api.nodup_objects (api : Api) : (api.objects.map (·.1)).Nodup := nodup_firstEntries _

/-- The entry of a name is what is generated for its first declaration, by the classification of the
library; without a declaration there is none. -/
theorem Library.entry_generate {l : Library} {g : Generated} (hg : l.generate.outcome = .ok g)
    (name : String) :
    match firstNamed? (·.cname) name l.api.declared with
    | none => g.entry name = (none, none)
    | some obj => ∃ own, (generateObject l (classify l.settings true l.api).symbols
        (classify l.settings true l.api).failures name obj).outcome = .ok own ∧
        g.entry name = own.entry name := by
  unfold Library.generate at hg
  rw [Logged.outcome_bind, bind_eq_ok_iff] at hg
  obtain ⟨c, hc, hg⟩ := hg
  obtain rfl : classify l.settings true l.api = c := by
    unfold Classification.logged at hc
    split at hc
    · cases hc
    · exact Except.ok.inj hc
  rw [← Api.lookup_objects]
  cases hfirst : l.api.objects.lookup name with
  | none =>
    refine entry_generateAll_of_not_mem hg fun hmem => ?_
    obtain ⟨entry, hentry, rfl⟩ := List.mem_map.mp hmem
    have := List.lookup_eq_none_iff.mp hfirst entry hentry
    simp at this
  | some obj => exact entry_generateAll hg l.api.nodup_objects (mem_of_lookup_eq_some hfirst)

/-- **Objects do not interfere.** Where both of two libraries that agree about an object are
generated, the object has the same module in both, or the same refusal, whether or not the other
objects are refused. -/
theorem Library.generate_noninterferes {name : String} {l l' : Library}
    (h : l.AgreesAbout name l') {g g' : Generated} (hg : l.generate.outcome = .ok g)
    (hg' : l'.generate.outcome = .ok g') : g.entry name = g'.entry name := by
  have hclassify : classify l.settings true l.api = classify l'.settings true l'.api := by
    rw [← classify_outline, h.settings, h.outline, classify_outline]
  have hentry := entry_generate hg name
  have hentry' := entry_generate hg' name
  rw [← hclassify, ← h.object] at hentry'
  cases hfirst : firstNamed? (·.cname) name l.api.declared with
  | none =>
    rw [hfirst] at hentry hentry'
    exact hentry.trans hentry'.symm
  | some obj =>
    rw [hfirst] at hentry hentry'
    obtain ⟨own, hown, hentry⟩ := hentry
    obtain ⟨own', hown', hentry'⟩ := hentry'
    rw [generateObject_congr h.settings h.doc h.prior, hown'] at hown
    rw [hentry, hentry', Except.ok.inj hown]

/-- The mixed library after its plug was mended: the method of the plug takes a number, the plug is
documented, and the loop has got a logical name, a property and a prior module. -/
def mendedLibrary : Library where
  api := [{
    name := "Gtk"
    objects := [
      { name := "Button", cname := "GtkButton", parent := "GObject",
        methods := [{ name := "Press", cname := "gtk_button_press", returnType := "void" }] },
      { name := "Socket", cname := "GtkPlug", parent := "GObject", deprecated := true,
        methods := [{ name := "Wire", cname := "gtk_plug_wire", returnType := "void",
                      parameters := [{ type := "gint", name := "wires" }] }] },
      { name := "Noose", cname := "GtkLoop", parent := "GtkLoop",
        properties := [{ name := "Tight", cname := "tight", type := "gboolean" }] }]
    misc := [{ kind := .boxed, name := "Rect", cname := "GdkRect" }] }]
  docs := ("GtkPlug", { name := "GtkPlug", since := "2.2" }) :: mixedLibrary.docs
  priors := [("GtkLoop", { name := "Loop" })]

theorem mixedLibrary_agreesAbout_button : mixedLibrary.AgreesAbout "GtkButton" mendedLibrary where
  settings := rfl
  outline := by decide +kernel
  object := by decide +kernel
  doc := by decide +kernel
  prior := by decide +kernel

/-- The plug is refused in the one library and not in the other; the button has one and the same
module in both. -/
theorem generate_noninterferes_button :
    mixedLibrary.AgreesAbout "GtkButton" mendedLibrary ∧
    ∃ g g', mixedLibrary.generate.outcome = .ok g ∧ mendedLibrary.generate.outcome = .ok g' ∧
      g.moduleNames = ["GtkButton"] ∧ g.failureNames = ["GtkPlug", "GtkLoop"] ∧
      g'.failureNames = ["GtkLoop"] ∧ g.entry "GtkButton" = g'.entry "GtkButton" := by
  have hnames : mixedLibrary.generate.outcome.toOption.map
      (fun g => (g.moduleNames, g.failureNames)) =
      some (["GtkButton"], ["GtkPlug", "GtkLoop"]) := by
    decide +kernel
  have hnames' : mendedLibrary.generate.outcome.toOption.map
      (fun g => (g.moduleNames, g.failureNames)) =
      some (["GtkButton", "GtkPlug"], ["GtkLoop"]) := by
    decide +kernel
  obtain ⟨g, hg⟩ : ∃ g, mixedLibrary.generate.outcome = .ok g :=
    exists_ok_of_isSome (by decide +kernel)
  obtain ⟨g', hg'⟩ : ∃ g', mendedLibrary.generate.outcome = .ok g' :=
    exists_ok_of_isSome (by decide +kernel)
  rw [hg] at hnames
  rw [hg'] at hnames'
  obtain ⟨hmodules, hfailures⟩ := Prod.mk.inj (Option.some.inj hnames)
  obtain ⟨-, hfailures'⟩ := Prod.mk.inj (Option.some.inj hnames')
  exact ⟨mixedLibrary_agreesAbout_button, g, g', hg, hg', hmodules, hfailures, hfailures',
    Library.generate_noninterferes mixedLibrary_agreesAbout_button hg hg'⟩

end BindingGen

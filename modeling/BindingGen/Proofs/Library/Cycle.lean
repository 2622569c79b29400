/-
# Objects refused for a cycle

A name is refused for a cycle of parents if any declaration of it revisits a name, while the object
that is generated is the first declaration. Where the declarations of the name agree, this is one
and the same: a name is among the failures exactly if its first declaration revisits a name, it is
then no object type of the table, and generation refuses it for a cycle in no other case. Where a
later declaration differs, all three may fail.

Key definitions: `Api.AgreesOn`, `Api.FirstRevisits`.
Key theorems: `generateAll_cycles`, `Library.cycles_of_agreement`.
-/
import BindingGen.Proofs.Library.Isolation

namespace BindingGen

/-- The declarations of a C name have one parent. -/
def Api.AgreesOn (api : Api) (name : String) : Prop :=
  ∀ o ∈ api.declared, ∀ other ∈ api.declared, o.cname = name → other.cname = name →
    o.parent = other.parent

/-- The first object that is declared under the name revisits a name. -/
def Api.FirstRevisits (api : Api) (root name : String) : Prop :=
  ∃ o, firstNamed? (·.cname) name api.declared = some o ∧ o.Revisits api.declared root

/-! ### Declarations that agree -/

section Agreement

variable {settings : Settings} {api : Api} {name : String}

/-- Where declarations agree, the first one stands for all of them. -/
theorem Api.AgreesOn.revisits (hagree : api.AgreesOn name) {root : String} {o other : Object}
    (ho : o ∈ api.declared) (hname : o.cname = name) (hother : other ∈ api.declared)
    (hname' : other.cname = name) (h : o.Revisits api.declared root) :
    other.Revisits api.declared root :=
  Object.revisits_congr (hname.trans hname'.symm) (hagree o ho other hother hname hname') h

theorem Api.AgreesOn.firstRevisits_iff (hagree : api.AgreesOn name) {root : String} :
    api.FirstRevisits root name ↔
      ∃ o ∈ api.declared, o.cname = name ∧ o.Revisits api.declared root := by
  constructor
  · rintro ⟨o, hfirst, hrevisits⟩
    obtain ⟨ho, hname⟩ := mem_of_firstNamed? hfirst
    exact ⟨o, ho, hname, hrevisits⟩
  · rintro ⟨o, ho, hname, hrevisits⟩
    obtain ⟨first, hfirst⟩ : ∃ first, firstNamed? (·.cname) name api.declared = some first :=
      Option.isSome_iff_exists.mp (List.find?_isSome.mpr ⟨o, ho, by simp [hname]⟩)
    obtain ⟨hmem, hname'⟩ := mem_of_firstNamed? hfirst
    exact ⟨first, hfirst, hagree.revisits ho hname hmem hname' hrevisits⟩

theorem lookup_symbols_ne_object (h : api.IsKnown) (hagree : api.AgreesOn name)
    (hfirst : api.FirstRevisits settings.rootType name) (ancestors : List String) :
    (classify settings true api).symbols.lookup name ≠ some (.object ancestors) := by
  intro hobject
  obtain ⟨other, hother, hname', hnot⟩ := exists_of_lookup_symbols h hobject
  obtain ⟨o, ho, hname, hrevisits⟩ := hagree.firstRevisits_iff.mp hfirst
  exact hnot (hagree.revisits ho hname hother hname' hrevisits)

end Agreement

/-! ### Generation -/

theorem generateAll_cons_eq_ok_iff {l : Library} {symbols : SymbolTable}
    {cycles : List (String × List String)} {cname : String} {obj : Object}
    {rest : List (String × Object)} {g : Generated} :
    (generateAll l symbols cycles ((cname, obj) :: rest)).outcome = .ok g ↔
      ∃ first others, (generateObject l symbols cycles cname obj).outcome = .ok first ∧
        (generateAll l symbols cycles rest).outcome = .ok others ∧ g = first.append others := by
  simp only [generateAll, Logged.outcome_bind, bind_eq_ok_iff]
  constructor
  · rintro ⟨first, hfirst, others, hothers, hg⟩
    exact ⟨first, others, hfirst, hothers, (Except.ok.inj hg).symm⟩
  · rintro ⟨first, others, hfirst, hothers, rfl⟩
    exact ⟨first, hfirst, others, hothers, rfl⟩

theorem Generated.mem_failures_ofObject {cname name : String} {refusal : Refusal}
    {answer : Except Refusal GeneratedModule} :
    (name, refusal) ∈ (Generated.ofObject cname answer).failures ↔
      name = cname ∧ answer = .error refusal := by
  cases answer with
  | ok m => simp [Generated.ofObject]
  | error other => simp [Generated.ofObject, eq_comm]

/-- An object is refused for a cycle exactly if one is known of it. -/
theorem generateAll_cycles {l : Library} (h : l.IsReadable) {symbols : SymbolTable}
    {cycles : List (String × List String)} {objects : List (String × Object)} {g : Generated}
    (hg : (generateAll l symbols cycles objects).outcome = .ok g) (name : String)
    (chain : List String) : (name, .inheritanceCycle chain) ∈ g.failures ↔
      name ∈ objects.map (·.1) ∧ cycles.lookup name = some chain := by
  induction objects generalizing g with
  | nil =>
    cases hg
    simp
  | cons entry rest ih =>
    obtain ⟨cname, obj⟩ := entry
    obtain ⟨first, others, hfirst, hothers, rfl⟩ := generateAll_cons_eq_ok_iff.mp hg
    obtain ⟨answer, hanswer, hcycle⟩ := generateObject_eq_ok symbols cycles h cname obj
    obtain rfl := Except.ok.inj (hfirst.symm.trans hanswer)
    rw [Generated.append, List.mem_append, ih hothers, Generated.mem_failures_ofObject, hcycle,
      List.map_cons, List.mem_cons, or_and_right]
    refine or_congr_left (and_congr_right ?_)
    rintro rfl
    exact Iff.rfl

theorem mem_names_objects {api : Api} {name : String} :
    name ∈ api.objects.map (·.1) ↔ ∃ o ∈ api.declared, o.cname = name := by
  rw [Api.objects, mem_names_firstEntries, List.map_map, List.mem_map]
  rfl

/-- **A cycle is refused with its first declaration.** A name is among the failures exactly if some
declaration of it revisits a name. Where its declarations have one parent, the first of them
decides: it revisits a name exactly if the name is among the failures, no failure is an object type
of the table, and generation refuses the name for a cycle in the same case. -/
theorem Library.cycles_of_agreement (l : Library) (h : l.IsReadable) :
    (∀ name, (∃ chain, (classify l.settings true l.api).failures.lookup name = some chain) ↔
      ∃ o ∈ l.api.declared, o.cname = name ∧ o.Revisits l.api.declared l.settings.rootType) ∧
    ∃ g, l.generate.outcome = .ok g ∧ ∀ name, l.api.AgreesOn name →
      ((∃ chain, (classify l.settings true l.api).failures.lookup name = some chain) ↔
        l.api.FirstRevisits l.settings.rootType name) ∧
      ((∃ chain, (classify l.settings true l.api).failures.lookup name = some chain) →
        ∀ ancestors, (classify l.settings true l.api).symbols.lookup name ≠
          some (.object ancestors)) ∧
      ((∃ chain, (name, .inheritanceCycle chain) ∈ g.failures) ↔
        l.api.FirstRevisits l.settings.rootType name) := by
  obtain ⟨g, hg, -⟩ := generateAll_partitions (classify l.settings true l.api).symbols
    (classify l.settings true l.api).failures h l.api.objects
  have hgenerate : l.generate.outcome = .ok g := by
    unfold Library.generate
    rw [Logged.outcome_bind, outcome_classify h.api]
    exact hg
  refine ⟨fun name => lookup_failures_iff h.api, g, hgenerate, fun name hagree => ?_⟩
  have hfailure : (∃ chain, (classify l.settings true l.api).failures.lookup name = some chain) ↔
      l.api.FirstRevisits l.settings.rootType name :=
    (lookup_failures_iff h.api).trans hagree.firstRevisits_iff.symm
  refine ⟨hfailure, fun hchain => lookup_symbols_ne_object h.api hagree (hfailure.mp hchain), ?_⟩
  simp only [generateAll_cycles h hg]
  rw [← hfailure]
  constructor
  · rintro ⟨chain, -, hchain⟩
    exact ⟨chain, hchain⟩
  · rintro ⟨chain, hchain⟩
    obtain ⟨o, ho, hname, -⟩ := (lookup_failures_iff h.api).mp ⟨chain, hchain⟩
    exact ⟨chain, mem_names_objects.mpr ⟨o, ho, hname⟩, hchain⟩

/-- Two types that are each other's parent and one that descends from the root; two of them are
declared twice. -/
def ringLibrary : Library where
  api := [
    { name := "Gtk"
      objects := [{ name := "Ring", cname := "GtkRing", parent := "GtkHoop" },
        { name := "Hoop", cname := "GtkHoop", parent := "GtkRing" },
        { name := "Box", cname := "GtkBox", parent := "GObject" }] },
    { name := "Extra"
      objects := [{ name := "Ring", cname := "GtkRing", parent := "GtkHoop" },
        { name := "Crate", cname := "GtkBox", parent := "GObject" }] }]

/-- The ring is refused for its cycle and the box is not. -/
theorem cycles_of_agreement_ringLibrary :
    ringLibrary.IsReadable ∧ ringLibrary.api.AgreesOn "GtkRing" ∧
    ringLibrary.api.AgreesOn "GtkBox" ∧ ringLibrary.api.FirstRevisits "GObject" "GtkRing" ∧
    ¬ringLibrary.api.FirstRevisits "GObject" "GtkBox" ∧
    ∃ g, ringLibrary.generate.outcome = .ok g ∧
      (∃ chain, ("GtkRing", .inheritanceCycle chain) ∈ g.failures) ∧
      ∀ chain, ("GtkBox", .inheritanceCycle chain) ∉ g.failures := by
  have hreadable : ringLibrary.IsReadable := by
    refine ⟨?_, fun entry hentry => by cases hentry⟩
    show ∀ ns ∈ ringLibrary.api, ∀ m ∈ ns.misc, m.kind.isKnown = true
    decide
  have hring : ringLibrary.api.AgreesOn "GtkRing" := by
    unfold Api.AgreesOn
    decide
  have hbox : ringLibrary.api.AgreesOn "GtkBox" := by
    unfold Api.AgreesOn
    decide
  obtain ⟨-, g, hg, hagree⟩ := ringLibrary.cycles_of_agreement hreadable
  obtain ⟨hringFailure, -, hringRefused⟩ := hagree "GtkRing" hring
  obtain ⟨hboxFailure, -, hboxRefused⟩ := hagree "GtkBox" hbox
  have hrevisits : ringLibrary.api.FirstRevisits ringLibrary.settings.rootType "GtkRing" :=
    hringFailure.mp ⟨["GtkRing", "GtkHoop", "GtkRing"], by decide +kernel⟩
  have hnot : ¬ringLibrary.api.FirstRevisits ringLibrary.settings.rootType "GtkBox" := by
    rw [← hboxFailure]
    rintro ⟨chain, hchain⟩
    have hnone : (classify ringLibrary.settings true ringLibrary.api).failures.lookup "GtkBox" =
        none := by
      decide +kernel
    rw [hnone] at hchain
    cases hchain
  exact ⟨hreadable, hring, hbox, hrevisits, hnot, g, hg, hringRefused.mpr hrevisits,
    fun chain hchain => hnot (hboxRefused.mp ⟨chain, hchain⟩)⟩

/-- An object type that is declared a second time as its own parent. -/
def redeclaredLibrary : Library where
  api := [
    { name := "Gtk"
      objects := [{ name := "Spinner", cname := "GtkSpinner", parent := "GObject" },
        { name := "Spinner", cname := "GtkSpinner", parent := "GtkSpinner" }] }]

/-- Agreement is needed: the first declaration of the name reaches the root and is an object type of
the table, and still the name is among the failures and gets no module. -/
theorem generate_redeclaredLibrary :
    redeclaredLibrary.IsReadable ∧ ¬redeclaredLibrary.api.FirstRevisits "GObject" "GtkSpinner" ∧
    (classify {} true redeclaredLibrary.api).failures =
      [("GtkSpinner", ["GtkSpinner", "GtkSpinner"])] ∧
    (classify {} true redeclaredLibrary.api).symbols =
      [("GtkSpinner", .object ["GtkSpinner", "GObject"])] ∧
    redeclaredLibrary.generate.outcome = .ok
      { failures := [("GtkSpinner", .inheritanceCycle ["GtkSpinner", "GtkSpinner"])] } := by
  refine ⟨⟨?_, fun entry hentry => by cases hentry⟩, ?_, by decide +kernel, by decide +kernel,
    by decide +kernel⟩
  · show ∀ ns ∈ redeclaredLibrary.api, ∀ m ∈ ns.misc, m.kind.isKnown = true
    decide
  · rintro ⟨o, hfirst, hrevisits⟩
    have hdeclared : firstNamed? (·.cname) "GtkSpinner" redeclaredLibrary.api.declared =
        some { name := "Spinner", cname := "GtkSpinner", parent := "GObject" } := by
      decide +kernel
    obtain ⟨hmem, -⟩ := mem_of_firstNamed? hfirst
    obtain rfl := Option.some.inj (hfirst.symm.trans hdeclared)
    obtain ⟨again, hending⟩ := (Ancestry.ofObject_cyclic_iff hmem).mpr hrevisits
    have hroot : (Ancestry.ofObject redeclaredLibrary.api.declared "GObject"
        { name := "Spinner", cname := "GtkSpinner", parent := "GObject" }).ending = .root := by
      decide +kernel
    cases hroot.symm.trans hending

end BindingGen

/-
# The order of exports is stable

An export list that is read as that of the prior module comes again, whatever the documentation is.
The names of a section do not depend on the documentation but for their order
(`names_methodEntries_perm` and its kin), and the lead names of a section stand in the prior list in
the order of the section, so that sorting by their places brings any other order back to it
(`Export.names_inPriorOrder`). Attributes are not sorted, and their order does not depend on the
documentation.

Key definitions: `Export.lead`, `Object.namesOf`, `Object.exportNames`.
Key theorems: `Export.names_inPriorOrder`, `Object.namesOf_stable`, `Object.exportNames_stable`.
-/
import BindingGen.Proofs.Module.Section

namespace BindingGen

/-! ### Exports in prior order -/

/-- The first of the names that a member exports. -/
def Export.lead (names : List String) : String := names.headD ""

theorem Export.place_eq {prior : PriorModule} {e : Export} (h : e.names ≠ []) :
    e.place prior = prior.exports.idxOf (lead e.names) := by
  obtain ⟨name, rest, hnames⟩ := List.exists_cons_of_ne_nil h
  unfold place lead
  rw [hnames]
  show rank id name prior.exports = prior.exports.idxOf name
  rw [rank_eq_idxOf, List.map_id]

theorem Export.lead_sublist {names : List (List String)} (h : ∀ ns ∈ names, ns ≠ []) :
    (names.map lead).Sublist names.flatten := by
  induction names with
  | nil => exact List.Sublist.refl _
  | cons ns rest ih =>
    obtain ⟨name, others, rfl⟩ := List.exists_cons_of_ne_nil (h ns List.mem_cons_self)
    rw [List.map_cons, List.flatten_cons, List.cons_append]
    have hrest := ih fun ns' hns' => h ns' (List.mem_cons_of_mem _ hns')
    exact (hrest.trans (List.sublist_append_right others _)).cons_cons name

/-- Exports whose names are listed in the prior module come in the order of that list, whatever
order they were in. -/
theorem Export.names_inPriorOrder {prior : PriorModule} {exports : List Export}
    {names : List (List String)} (hnodup : prior.exports.Nodup)
    (hlisted : names.flatten.Sublist prior.exports) (hne : ∀ ns ∈ names, ns ≠ [])
    (hperm : (exports.map (·.names)).Perm names) :
    (inPriorOrder prior exports).map (·.names) = names := by
  have hplace : ∀ e ∈ exports, e.place prior = prior.exports.idxOf (lead e.names) :=
    fun e he => place_eq (hne _ (hperm.mem_iff.mp (List.mem_map_of_mem he)))
  have hgrow : names.Pairwise fun a b =>
      prior.exports.idxOf (lead a) < prior.exports.idxOf (lead b) := by
    have hleads := pairwise_idxOf_lt hnodup ((lead_sublist hne).trans hlisted)
    rwa [List.pairwise_map] at hleads
  have hsort : (inPriorOrder prior exports).map (·.names) =
      (exports.map (·.names)).mergeSort fun a b =>
        prior.exports.idxOf (lead a) ≤ prior.exports.idxOf (lead b) := by
    refine List.map_mergeSort fun a ha b hb => ?_
    rw [hplace a ha, hplace b hb]
  rw [hsort]
  exact mergeSort_key_eq_of_perm (fun ns => prior.exports.idxOf (lead ns)) hperm hgrow

namespace Object

variable (settings : Settings) (obj : Object)

/-- The names that a section exports, by member. -/
def namesOf (doc : ModuleDoc) (prior : PriorModule) (kind : MemberKind) : List (List String) :=
  (obj.exportsOf settings doc prior kind).map (·.names)

/-- The names that a module exports: its types, then its members by section. -/
def exportNames (doc : ModuleDoc) (prior : PriorModule) : List String :=
  obj.typeExports.flatMap (·.names) ++
    MemberKind.all.flatMap fun kind => (obj.namesOf settings doc prior kind).flatten

/-! ### The names of a section -/

variable {settings obj} {prior : PriorModule}

theorem namesOf_sublist (doc : ModuleDoc) (prior : PriorModule) (kind : MemberKind) :
    (obj.namesOf settings doc prior kind).flatten.Sublist
      (obj.exportNames settings doc prior) := by
  refine List.Sublist.trans ?_ (List.sublist_append_right _ _)
  exact List.sublist_flatten_of_mem (List.mem_map_of_mem kind.mem_all)

theorem ne_nil_of_mem_namesOf {doc : ModuleDoc} {kind : MemberKind} {names : List String}
    (h : names ∈ obj.namesOf settings doc prior kind) : names ≠ [] := by
  obtain ⟨e, he, rfl⟩ := List.mem_map.mp h
  cases kind with
  | constructors =>
    obtain ⟨entry, -, rfl⟩ := List.mem_map.mp (List.mem_mergeSort.mp he)
    exact List.cons_ne_nil _ _
  | methods =>
    obtain ⟨entry, -, rfl⟩ := List.mem_map.mp (List.mem_mergeSort.mp he)
    exact List.cons_ne_nil _ _
  | properties =>
    obtain ⟨entry, -, rfl⟩ := List.mem_map.mp he
    exact List.cons_ne_nil _ _
  | signals =>
    obtain ⟨entry, -, rfl⟩ := List.mem_map.mp (List.mem_mergeSort.mp he)
    exact List.cons_ne_nil _ _

theorem names_constructorEntries (docs docs' : List FunctionDoc) (priors : List PriorCall) :
    ((obj.constructorEntries settings docs priors).map
        fun e => (Export.ofFunction settings e).names) =
      (obj.constructorEntries settings docs' priors).map
        fun e => (Export.ofFunction settings e).names := by
  rw [constructorEntries_eq_map, constructorEntries_eq_map, List.map_map, List.map_map]
  rfl

theorem names_methodEntries_perm (docs docs' : List FunctionDoc) (priors : List PriorCall)
    (priorFirst : Bool) :
    ((obj.methodEntries docs priors priorFirst).map
        fun e => (Export.ofFunction settings e).names).Perm
      ((obj.methodEntries docs' priors priorFirst).map
        fun e => (Export.ofFunction settings e).names) := by
  rw [methodEntries_eq_map, methodEntries_eq_map, List.map_map, List.map_map]
  exact (obj.orderedMethods_perm_orderedMethods docs priors docs' priorFirst priorFirst).map _

theorem names_propertyEntries (docs docs' : List MemberDoc) :
    ((obj.propertyEntries docs).map fun e => (Export.ofProperty obj e).names) =
      (obj.propertyEntries docs').map fun e => (Export.ofProperty obj e).names := by
  unfold propertyEntries
  simp only [List.map_append, List.map_map]
  rfl

theorem names_signalEntries (docs docs' : List MemberDoc) :
    ((obj.signalEntries docs).map fun e => (Export.ofSignal e).names) =
      (obj.signalEntries docs').map fun e => (Export.ofSignal e).names := by
  unfold signalEntries
  rw [List.map_map, List.map_map]
  rfl

/-- A section comes again in its order if the prior module lists its names in this order. -/
theorem namesOf_stable {doc doc' : ModuleDoc} {exports : List String} (hnodup : exports.Nodup)
    (kind : MemberKind)
    (hlisted : (obj.namesOf settings doc prior kind).flatten.Sublist exports) :
    obj.namesOf settings doc' { prior with exports } kind = obj.namesOf settings doc prior kind := by
  have hsorted : ∀ {new old : List Export},
      (new.map (·.names)).Perm (old.map (·.names)) →
      obj.namesOf settings doc prior kind = (Export.inPriorOrder prior old).map (·.names) →
      (Export.inPriorOrder { prior with exports } new).map (·.names) =
        obj.namesOf settings doc prior kind := by
    intro new old hperm hold
    refine Export.names_inPriorOrder hnodup hlisted (fun ns hns => ne_nil_of_mem_namesOf hns) ?_
    rw [hold]
    exact hperm.trans ((List.mergeSort_perm _ _).map _).symm
  cases kind with
  | constructors =>
    refine hsorted ?_ rfl
    rw [List.map_map, List.map_map]
    exact List.Perm.of_eq (names_constructorEntries _ _ _)
  | methods =>
    refine hsorted ?_ rfl
    rw [List.map_map, List.map_map]
    exact names_methodEntries_perm _ _ _ _
  | properties =>
    show (obj.propertyExports doc').map (·.names) = (obj.propertyExports doc).map (·.names)
    unfold propertyExports
    rw [List.map_map, List.map_map]
    exact names_propertyEntries _ _
  | signals =>
    refine hsorted ?_ rfl
    rw [List.map_map, List.map_map]
    exact List.Perm.of_eq (names_signalEntries _ _)

/-! ### The export list -/

/-- The text of a section depends on the names of its exports only. -/
theorem text_exportSection {title : String} {exports exports' : List Export}
    (h : exports.map (·.names) = exports'.map (·.names)) :
    (exportSection title (exports.map (·.fragment))).map (·.text) =
      (exportSection title (exports'.map (·.fragment))).map (·.text) := by
  have htexts : ∀ l : List Export, (exportSection title (l.map (·.fragment))).map (·.text) =
      if (l.map (·.names)).isEmpty then []
      else "" :: ("-- * " ++ title) :: (l.map (·.names)).map fun names =>
        "\n".intercalate (names.map fun name => "  " ++ name ++ ",") := by
    intro l
    unfold exportSection
    cases l with
    | nil => rfl
    | cons e rest => simp [Export.fragment]
  rw [htexts, htexts, h]

/-- **The order of exports is stable.** Where the names that a module exports are distinct and are
read as the export list of the prior module, the same names are exported in the same order, whatever
the documentation is; and the lines of the export list are the same but for their guards. -/
theorem exportNames_stable {doc : ModuleDoc} (hnodup : (obj.exportNames settings doc prior).Nodup)
    (doc' : ModuleDoc) :
    obj.exportNames settings doc' { prior with exports := obj.exportNames settings doc prior } =
        obj.exportNames settings doc prior ∧
      (obj.exportFragments settings doc'
          { prior with exports := obj.exportNames settings doc prior }).map (·.text) =
        (obj.exportFragments settings doc prior).map (·.text) := by
  have hkind : ∀ kind, obj.namesOf settings doc'
      { prior with exports := obj.exportNames settings doc prior } kind =
        obj.namesOf settings doc prior kind :=
    fun kind => namesOf_stable hnodup kind (namesOf_sublist doc prior kind)
  refine ⟨?_, ?_⟩
  · have hflatten := congrArg (fun f : MemberKind → List (List String) =>
      MemberKind.all.flatMap fun kind => (f kind).flatten) (funext hkind)
    exact congrArg (obj.typeExports.flatMap (·.names) ++ ·) hflatten
  · rw [exportFragments_eq, exportFragments_eq, List.map_append, List.map_append,
      List.map_flatMap, List.map_flatMap]
    refine congrArg _ (List.flatMap_congr fun kind _ => ?_)
    exact text_exportSection (hkind kind)

end Object

/-- An object with two methods. -/
def heldButton : Object where
  name := "Button"
  cname := "GtkButton"
  methods := [
    { name := "Press", cname := "gtk_button_press", returnType := "void" },
    { name := "Hold", cname := "gtk_button_hold", returnType := "void" }]

/-- The second method of the object is documented first. -/
def heldButtonDoc : ModuleDoc where
  name := "GtkButton"
  functions := [{ name := "gtk_button_hold" }, { name := "gtk_button_press" }]

theorem methodExports_heldButton :
    heldButton.methodExports {} heldButtonDoc {} =
      [{ names := ["buttonHold"] }, { names := ["buttonPress"] }] := by
  have hordered : heldButton.orderedMethods heldButtonDoc.functions [] false =
      [{ name := "Hold", cname := "gtk_button_hold", returnType := "void" },
        { name := "Press", cname := "gtk_button_press", returnType := "void" }] := by
    refine mergeSort_places_eq_of_perm _ (List.isPerm_iff.mp (by decide +kernel)) ?_
    simp only [List.pairwise_cons]
    decide +kernel
  unfold Object.methodExports
  rw [Object.methodEntries_eq_map, hordered]
  refine (List.mergeSort_of_pairwise ?_).trans (by decide +kernel)
  simp only [List.map_cons, List.map_nil, List.pairwise_cons]
  decide +kernel

theorem exportNames_heldButton :
    heldButton.exportNames {} heldButtonDoc {} =
      ["Button", "ButtonClass", "castToButton", "buttonHold", "buttonPress"] := by
  unfold Object.exportNames MemberKind.all Object.namesOf
  simp only [List.flatMap_cons, Object.exportsOf, methodExports_heldButton]
  decide +kernel

/-- The order of the names stays when the documentation is gone. -/
theorem exportNames_stable_heldButton :
    (heldButton.exportNames {} heldButtonDoc {}).Nodup ∧
      heldButton.exportNames {} { name := "GtkButton" }
          { exports := heldButton.exportNames {} heldButtonDoc {} } =
        ["Button", "ButtonClass", "castToButton", "buttonHold", "buttonPress"] := by
  have hnodup : (heldButton.exportNames {} heldButtonDoc {}).Nodup := by
    rw [exportNames_heldButton]
    decide
  refine ⟨hnodup, ?_⟩
  have hstable := (Object.exportNames_stable hnodup { name := "GtkButton" }).1
  exact hstable.trans exportNames_heldButton

end BindingGen

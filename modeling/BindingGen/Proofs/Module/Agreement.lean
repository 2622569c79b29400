/-
# Exports and definitions agree

Where the body of a module is generated, each section exports the names that it defines, each as
often as it is defined and behind the guards that its definition stands behind. The entries of a
section are the same in both texts (`Object.exportsOf_perm`), and the guards of a fragment depend on
nothing but the entry and the module. The names are those that the fragments of the two texts have:
a fragment of the body declares its names in front of their type, and one of the export list lists
its names, one a line.

Key definitions: `DeclaresNames`, `ListsNames`, `GuardedName`, `HaveNames`, `IsSection`,
`Object.exportedNames`, `Definitions.definedNames`.
Key theorems: `Definition.declaresNames_of_mem`, `exists_exportedNames`, `exists_isSection`,
`exports_agree_with_moduleBody`.
-/
import Mathlib.Data.List.Perm.Basic
import BindingGen.Proofs.Haddock.CommentLines
import BindingGen.Proofs.Module.Section

namespace BindingGen

/-! ### Names in texts -/

/-- The text declares the names: they stand together at the start of a line, in front of their type,
and the lines above them are comments. -/
def DeclaresNames (names : List String) (text : String) : Prop :=
  ∃ (comment : List String) (type : String), (∀ line ∈ comment, "--".toList <+: line.toList) ∧
    text = String.join (comment.map (· ++ "\n")) ++ ", ".intercalate names ++ " :: " ++ type

/-- The text lists the names, each on a line of its own. -/
def ListsNames (names : List String) (text : String) : Prop :=
  text = "\n".intercalate (names.map fun name => "  " ++ name ++ ",")

theorem Export.listsNames (e : Export) : ListsNames e.names e.fragment.text := rfl

theorem DocContext.exists_lines_of_comment {ctx : DocContext} {paragraphs : List Para}
    {text : String} (h : ctx.comment paragraphs = .ok text) :
    ∃ lines : List String, (∀ line ∈ lines, "--".toList <+: line.toList) ∧
      text = String.join (lines.map (· ++ "\n")) := by
  unfold comment at h
  obtain ⟨blocks, -, h⟩ := bind_eq_ok_iff.mp h
  exact ⟨commentLines (commentContent blocks), fun _ => mark_of_mem_commentLines,
    (Except.ok.inj h).symm⟩

namespace Definition

variable {symbols : SymbolTable} {settings : Settings} {obj : Object} {x : Definition}

theorem declaresNames_ofFunction {isConstructor : Bool} {e : FunctionEntry}
    (h : (ofFunction symbols settings isConstructor e).outcome = .ok x) :
    DeclaresNames x.defined.names x.text := by
  obtain ⟨b, text, -, htext, rfl⟩ := ofFunction_eq_ok_iff.mp h
  unfold Binding.render at htext
  obtain ⟨signature, -, htext⟩ := bind_eq_ok_iff.mp htext
  obtain ⟨body, -, htext⟩ := bind_eq_ok_iff.mp htext
  obtain ⟨comment, hcomment, htext⟩ := bind_eq_ok_iff.mp htext
  obtain ⟨lines, hmark, rfl⟩ := DocContext.exists_lines_of_comment hcomment
  obtain rfl := Except.ok.inj htext
  refine ⟨lines, constraintText b.constraints ++ signature ++ "\n" ++ b.head ++ "=" ++ indent 1 ++
    body, hmark, ?_⟩
  simp only [Defined.names, String.intercalate_singleton, String.append_assoc]

theorem declaresNames_ofProperty {e : PropertyEntry}
    (h : ofProperty symbols settings obj e = .ok x) : DeclaresNames x.defined.names x.text := by
  obtain ⟨a, text, -, htext, rfl⟩ := ofProperty_eq_ok_iff.mp h
  unfold Attribute.render at htext
  obtain ⟨comment, hcomment, htext⟩ := bind_eq_ok_iff.mp htext
  obtain ⟨lines, hmark, rfl⟩ := DocContext.exists_lines_of_comment hcomment
  have hsignature : ∃ type, a.signature settings obj = a.name ++ " :: " ++ type := by
    unfold Attribute.signature
    by_cases hleaf : settings.isLeaf obj.cname
    · rw [if_pos hleaf]
      have hmark : " :: Attr " = " :: " ++ "Attr " := rfl
      refine ⟨"Attr " ++ obj.name ++ " " ++ parenthesized a.type.render, ?_⟩
      simp only [hmark, String.append_assoc]
    · rw [if_neg hleaf]
      refine ⟨obj.name ++ "Class self => Attr self " ++ parenthesized a.type.render, ?_⟩
      simp only [String.append_assoc]
  obtain ⟨type, htype⟩ := hsignature
  obtain rfl := Except.ok.inj htext
  refine ⟨lines, type ++ "\n" ++ a.name ++ " = Attr" ++ indent 1 ++ a.getter ++ indent 1 ++
    a.setter, hmark, ?_⟩
  simp only [htype, Defined.names, String.intercalate_singleton, String.append_assoc]

theorem declaresNames_ofSignal {e : SignalEntry} (h : ofSignal symbols settings obj e = .ok x) :
    DeclaresNames x.defined.names x.text := by
  obtain ⟨handler, text, -, htext, rfl⟩ := ofSignal_eq_ok_iff.mp h
  unfold Handler.render at htext
  obtain ⟨comment, hcomment, htext⟩ := bind_eq_ok_iff.mp htext
  obtain ⟨lines, hmark, rfl⟩ := DocContext.exists_lines_of_comment hcomment
  have hnames : ", ".intercalate e.signal.functionNames =
      "on" ++ (e.signal.studlyName ++ (", after" ++ e.signal.studlyName)) := by
    have hmark : ", after" = ", " ++ "after" := rfl
    rw [Signal.functionNames, String.intercalate_cons_cons, String.intercalate_singleton, hmark]
    simp only [String.append_assoc]
  obtain rfl := Except.ok.inj htext
  refine ⟨lines, obj.name ++ "Class self => self\n -> " ++ handler.type ++
    "\n -> IO (ConnectId self)\n" ++ "on" ++ e.signal.studlyName ++ " = " ++ handler.helper ++
    " \"" ++ e.signal.cname ++ "\" False\n" ++ "after" ++ e.signal.studlyName ++ " = " ++
    handler.helper ++ " \"" ++ e.signal.cname ++ "\" True", hmark, ?_⟩
  simp only [Defined.names, hnames, String.append_assoc]

end Definition

section Agreement

variable {symbols : SymbolTable} {settings : Settings} {obj : Object} {doc : ModuleDoc}
  {prior : PriorModule} {d : Definitions}

theorem Definition.declaresNames_of_mem
    (hd : (obj.definitions symbols settings doc prior).outcome = .ok d) {kind : MemberKind}
    {x : Definition} (hx : x ∈ d.ofKind kind) : DeclaresNames x.defined.names x.text := by
  obtain ⟨hc, hm, ha, hs⟩ := Object.definitions_eq_ok_iff.mp hd
  cases kind with
  | constructors =>
    obtain ⟨e, -, h⟩ := exists_of_mem_mapM hc hx
    exact declaresNames_ofFunction h
  | methods =>
    obtain ⟨e, -, h⟩ := exists_of_mem_mapM hm hx
    exact declaresNames_ofFunction h
  | properties =>
    obtain ⟨e, -, h⟩ := exists_of_mem_mapM ha hx
    exact declaresNames_ofProperty h
  | signals =>
    obtain ⟨e, -, h⟩ := exists_of_mem_mapM hs hx
    exact declaresNames_ofSignal h

/-! ### Guarded names -/

/-- A name with the version that it needs and whether it is deprecated, as its module guards it. -/
structure GuardedName where
  name : String
  since : String
  deprecated : Bool
  deriving DecidableEq

/-- The fragments have the names, behind the guards of the fragments; `Has` tells which names a text
has. -/
inductive HaveNames (Has : List String → String → Prop) : List Fragment → List GuardedName → Prop
  | nil : HaveNames Has [] []
  | cons {f : Fragment} {names : List String} {fragments : List Fragment} {rest : List GuardedName}
    (h : Has names f.text) (hrest : HaveNames Has fragments rest) :
    HaveNames Has (f :: fragments) (names.map (⟨·, f.since, f.deprecated⟩) ++ rest)

/-- The fragments are a section that has the names: headers of the titles in front of entries that
have them, or nothing at all. -/
inductive IsSection (Has : List String → String → Prop) (titles : List String) :
    List Fragment → List GuardedName → Prop
  | empty : IsSection Has titles [] []
  | filled {headers entries : List Fragment} {names : List GuardedName}
    (htitles : headers.map (·.text) = titles) (hentries : entries ≠ [])
    (h : HaveNames Has entries names) : IsSection Has titles (headers ++ entries) names

/-- The names of a fragment behind the guards that it takes on in the module of an object. -/
def Object.guardNames (obj : Object) (doc : ModuleDoc) (names : List String) (f : Fragment) :
    Except Fault (List GuardedName) := do
  let lifted ← obj.lift doc.since f
  return names.map fun name => ⟨name, lifted.since, lifted.deprecated⟩

/-- The names of an export, guarded. -/
def Export.guardedNames (obj : Object) (doc : ModuleDoc) (e : Export) :
    Except Fault (List GuardedName) := obj.guardNames doc e.names e.fragment

/-- The names of a definition, guarded. -/
def Definition.guardedNames (obj : Object) (doc : ModuleDoc) (x : Definition) :
    Except Fault (List GuardedName) := obj.guardNames doc x.defined.names x.fragment

/-- The names that a section of the export list lists. -/
def Object.exportedNames (settings : Settings) (obj : Object) (doc : ModuleDoc)
    (prior : PriorModule) (kind : MemberKind) : Except Fault (List GuardedName) := do
  let names ← (obj.exportsOf settings doc prior kind).mapM (Export.guardedNames obj doc)
  return names.flatten

/-- The names that a section of the body defines. -/
def Definitions.definedNames (obj : Object) (doc : ModuleDoc) (d : Definitions)
    (kind : MemberKind) : Except Fault (List GuardedName) := do
  let names ← (d.ofKind kind).mapM (Definition.guardedNames obj doc)
  return names.flatten

/-- The guards of a definition are those of its export: its text does not count. -/
theorem Definition.guardedNames_toExport (x : Definition) :
    x.toExport.guardedNames obj doc = x.guardedNames obj doc := by
  unfold Export.guardedNames Definition.guardedNames Object.guardNames Object.lift
  simp only [bind_assoc, pure_bind]
  rfl

/-- Where the definitions of a section take on the guards of the module, so do its exports, and
what is exported is what is defined. -/
theorem exists_exportedNames
    (hd : (obj.definitions symbols settings doc prior).outcome = .ok d) {kind : MemberKind}
    {defined : List GuardedName} (hdefined : d.definedNames obj doc kind = .ok defined) :
    ∃ exported, obj.exportedNames settings doc prior kind = .ok exported ∧
      exported.Perm defined := by
  unfold Definitions.definedNames at hdefined
  obtain ⟨names, hnames, hflatten⟩ := bind_eq_ok_iff.mp hdefined
  have hexports : List.Forall₂ (fun e names => Export.guardedNames obj doc e = .ok names)
      ((d.ofKind kind).map (·.toExport)) names := by
    rw [List.forall₂_map_left_iff]
    exact (mapM_eq_ok_iff.mp hnames).imp fun x names h => x.guardedNames_toExport.trans h
  obtain ⟨listed, hlisted, hperm⟩ := List.perm_comp_forall₂ (Object.exportsOf_perm hd kind) hexports
  refine ⟨listed.flatten, ?_, ?_⟩
  · unfold Object.exportedNames
    exact bind_eq_ok_iff.mpr ⟨listed, mapM_eq_ok_iff.mpr hlisted, rfl⟩
  · rw [← Except.ok.inj hflatten]
    exact hperm.flatten

/-! ### Sections -/

/-- Lifted fragments have the names that their texts had, behind the guards that they take on. -/
theorem exists_haveNames {α : Type} {Has : List String → String → Prop} {names : α → List String}
    {fragment : α → Fragment} {xs : List α} {lifted : List Fragment}
    (hhas : ∀ x ∈ xs, Has (names x) (fragment x).text)
    (h : obj.liftAll doc (xs.map fragment) = .ok lifted) :
    ∃ guarded, xs.mapM (fun x => obj.guardNames doc (names x) (fragment x)) = .ok guarded ∧
      HaveNames Has lifted guarded.flatten := by
  induction xs generalizing lifted with
  | nil =>
    cases h
    exact ⟨[], rfl, .nil⟩
  | cons x xs ih =>
    rw [List.forall_mem_cons] at hhas
    unfold Object.liftAll at h
    rw [List.map_cons, List.mapM_cons] at h
    obtain ⟨f, hf, h⟩ := bind_eq_ok_iff.mp h
    obtain ⟨rest, hrest, h⟩ := bind_eq_ok_iff.mp h
    obtain rfl := Except.ok.inj h
    obtain ⟨guarded, hguarded, hnames⟩ := ih hhas.2 hrest
    refine ⟨(names x).map (⟨·, f.since, f.deprecated⟩) :: guarded, ?_,
      .cons (by rw [Object.text_lift hf]; exact hhas.1) hnames⟩
    have hx : obj.guardNames doc (names x) (fragment x) =
        .ok ((names x).map (⟨·, f.since, f.deprecated⟩)) :=
      bind_eq_ok_iff.mpr ⟨f, hf, rfl⟩
    rw [List.mapM_cons, hx]
    exact bind_eq_ok_iff.mpr ⟨_, rfl, bind_eq_ok_iff.mpr ⟨guarded, hguarded, rfl⟩⟩

theorem exists_isSection {α : Type} {Has : List String → String → Prop} {names : α → List String}
    {fragment : α → Fragment} {xs : List α} {headers lifted : List Fragment}
    (hhas : ∀ x ∈ xs, Has (names x) (fragment x).text)
    (h : obj.liftAll doc (if (xs.map fragment).isEmpty then [] else headers ++ xs.map fragment) =
      .ok lifted) :
    ∃ guarded, xs.mapM (fun x => obj.guardNames doc (names x) (fragment x)) = .ok guarded ∧
      IsSection Has (headers.map (·.text)) lifted guarded.flatten := by
  cases xs with
  | nil =>
    cases h
    exact ⟨[], rfl, .empty⟩
  | cons x xs =>
    rw [List.map_cons, List.isEmpty_cons, if_neg Bool.false_ne_true] at h
    obtain ⟨headers', entries, hheaders, hentries, rfl⟩ := Object.liftAll_append_eq_ok_iff.mp h
    obtain ⟨guarded, hguarded, hnames⟩ := exists_haveNames hhas hentries
    refine ⟨guarded, hguarded, .filled (Object.map_text_liftAll hheaders) ?_ hnames⟩
    have htexts := Object.map_text_liftAll hentries
    rintro rfl
    cases htexts

/-- Where a section of the body can be lifted, so can the section of the export list. -/
theorem exists_liftAll_exportSection
    (hd : (obj.definitions symbols settings doc prior).outcome = .ok d) {kind : MemberKind}
    {body : List Fragment}
    (hbody : obj.liftAll doc (bodySection kind.title ((d.ofKind kind).map (·.fragment))) =
      .ok body) :
    ∃ exports, obj.liftAll doc (exportSection kind.title
      ((obj.exportsOf settings doc prior kind).map (·.fragment))) = .ok exports := by
  have hlift (f : Fragment) (hf : f ∈ bodySection kind.title ((d.ofKind kind).map (·.fragment))) :
      ∃ g, obj.lift doc.since f = .ok g := exists_of_mapM_of_mem hbody hf
  have hmem (e : Export) (he : e ∈ obj.exportsOf settings doc prior kind) :
      ∃ x ∈ d.ofKind kind, x.toExport = e :=
    List.mem_map.mp ((Object.exportsOf_perm hd kind).mem_iff.mp he)
  refine exists_mapM_eq_ok fun f hf => ?_
  unfold exportSection at hf
  split_ifs at hf with hempty
  · cases hf
  · obtain ⟨e, he⟩ := List.exists_mem_of_ne_nil _ (by simpa using hempty)
    obtain ⟨x, hx, -⟩ := hmem e he
    have hfilled : ¬((d.ofKind kind).map (·.fragment)).isEmpty := by
      simpa using List.ne_nil_of_mem hx
    have hheader : ∃ g, obj.lift doc.since { text := sectionRule ++ "\n-- " ++ kind.title } =
        .ok g := by
      refine hlift _ ?_
      rw [bodySection, if_neg hfilled]
      exact List.mem_cons_self
    rcases List.mem_cons.mp hf with rfl | hf
    · exact Object.exists_lift_of_since_eq hheader rfl
    rcases List.mem_cons.mp hf with rfl | hf
    · exact Object.exists_lift_of_since_eq hheader rfl
    · obtain ⟨e, he, rfl⟩ := List.mem_map.mp hf
      obtain ⟨x, hx, rfl⟩ := hmem e he
      exact Object.exists_lift_of_since_eq (hlift _ (mem_bodySection (List.mem_map_of_mem hx))) rfl

theorem exists_agreeing_sections
    (hd : (obj.definitions symbols settings doc prior).outcome = .ok d) {kind : MemberKind}
    {body : List Fragment}
    (hbody : obj.liftAll doc (bodySection kind.title ((d.ofKind kind).map (·.fragment))) =
      .ok body) :
    ∃ exports, obj.liftAll doc (exportSection kind.title
        ((obj.exportsOf settings doc prior kind).map (·.fragment))) = .ok exports ∧
      ∃ exported defined, obj.exportedNames settings doc prior kind = .ok exported ∧
        d.definedNames obj doc kind = .ok defined ∧
        IsSection ListsNames ["", "-- * " ++ kind.title] exports exported ∧
        IsSection DeclaresNames [sectionRule ++ "\n-- " ++ kind.title] body defined ∧
        exported.Perm defined := by
  obtain ⟨guarded, hguarded, hdeclares⟩ := @exists_isSection obj doc _ DeclaresNames
    (fun x : Definition => x.defined.names) Definition.fragment _
    [{ text := sectionRule ++ "\n-- " ++ kind.title }] _
    (fun x hx => Definition.declaresNames_of_mem hd hx) hbody
  have hdefined : d.definedNames obj doc kind = .ok guarded.flatten :=
    bind_eq_ok_iff.mpr ⟨guarded, hguarded, rfl⟩
  obtain ⟨exported, hexported, hperm⟩ := exists_exportedNames hd hdefined
  obtain ⟨exports, hexports⟩ := exists_liftAll_exportSection hd hbody
  obtain ⟨guarded', hguarded', hlists⟩ := @exists_isSection obj doc _ ListsNames
    Export.names Export.fragment _
    [{ text := "" }, { text := "-- * " ++ kind.title }] _
    (fun e _ => e.listsNames) hexports
  have hsame : obj.exportedNames settings doc prior kind = .ok guarded'.flatten :=
    bind_eq_ok_iff.mpr ⟨guarded', hguarded', rfl⟩
  rw [hexported] at hsame
  obtain rfl := Except.ok.inj hsame
  exact ⟨exports, hexports, _, _, hexported, hdefined, hlists, hdeclares, hperm⟩

/-- The types can be exported where anything can: they need no version. -/
theorem exists_liftAll_typeExports {f g : Fragment} (hf : obj.lift doc.since f = .ok g) :
    ∃ types, obj.liftAll doc
      ({ text := "-- * Types" } :: obj.typeExports.map (·.fragment)) = .ok types := by
  refine exists_mapM_eq_ok fun t ht => Object.exists_lift_of_since_empty ⟨g, hf⟩ ?_
  simp only [Object.typeExports, List.map_cons, List.map_nil, List.mem_cons, List.not_mem_nil,
    or_false] at ht
  rcases ht with rfl | rfl | rfl | rfl <;> rfl

/-- **Exports and definitions agree.** Where the body of a module is generated, it is made of the
instances and of sections whose fragments declare the names that are defined; the export list is
made of the types and of sections whose fragments list the names that are exported, and it is
generated unless the body is empty. Every section exports the names that it defines, each as often
and behind the same guards. -/
theorem exports_agree_with_moduleBody {text : String}
    (hbody : (moduleBody symbols settings obj doc prior).outcome = .ok text) :
    ∃ d instances, ∃ bodies exports : MemberKind → List Fragment,
      (obj.definitions symbols settings doc prior).outcome = .ok d ∧
      obj.liftAll doc (d.fragments settings obj) =
        .ok (instances ++ MemberKind.all.flatMap bodies) ∧
      text = guarded settings "\n\n" (instances ++ MemberKind.all.flatMap bodies) ∧
      (∀ listed, (moduleExports settings obj doc prior).outcome = .ok listed → ∃ types,
        listed = guarded settings "\n" (types ++ MemberKind.all.flatMap exports)) ∧
      (instances ++ MemberKind.all.flatMap bodies ≠ [] → ∃ listed,
        (moduleExports settings obj doc prior).outcome = .ok listed) ∧
      ∀ kind, ∃ exported defined, obj.exportedNames settings doc prior kind = .ok exported ∧
        d.definedNames obj doc kind = .ok defined ∧
        IsSection ListsNames ["", "-- * " ++ kind.title] (exports kind) exported ∧
        IsSection DeclaresNames [sectionRule ++ "\n-- " ++ kind.title] (bodies kind) defined ∧
        exported.Perm defined := by
  obtain ⟨d, lifted, hd, hlifted, htext⟩ := moduleBody_eq_ok_iff.mp hbody
  rw [Definitions.fragments_eq] at hlifted
  obtain ⟨instances, sections, hinstances, hsections, rfl⟩ :=
    Object.liftAll_append_eq_ok_iff.mp hlifted
  have hkind (kind : MemberKind) : ∃ body,
      obj.liftAll doc (bodySection kind.title ((d.ofKind kind).map (·.fragment))) = .ok body :=
    Object.exists_liftAll_of_subset hsections fun f hf =>
      List.mem_flatMap.mpr ⟨kind, kind.mem_all, hf⟩
  choose bodies hbodies using hkind
  choose exports hexports hagree using fun kind => exists_agreeing_sections hd (hbodies kind)
  rw [Object.liftAll_flatMap hbodies MemberKind.all] at hsections
  obtain rfl := Except.ok.inj hsections
  refine ⟨d, instances, bodies, exports, hd, ?_, htext, fun listed hlisted => ?_, fun hne => ?_,
    hagree⟩
  · rw [Definitions.fragments_eq]
    exact hlifted
  · obtain ⟨all, hall, rfl⟩ := moduleExports_eq_ok_iff.mp hlisted
    rw [Object.exportFragments_eq] at hall
    obtain ⟨types, members, -, hmembers, rfl⟩ := Object.liftAll_append_eq_ok_iff.mp hall
    rw [Object.liftAll_flatMap hexports MemberKind.all] at hmembers
    exact ⟨types, by rw [Except.ok.inj hmembers]⟩
  · obtain ⟨g, hg⟩ := List.exists_mem_of_ne_nil _ hne
    obtain ⟨f, -, hf⟩ := exists_of_mem_mapM hlifted hg
    obtain ⟨types, htypes⟩ := exists_liftAll_typeExports hf
    refine ⟨_, moduleExports_eq_ok_iff.mpr ⟨types ++ MemberKind.all.flatMap exports, ?_, rfl⟩⟩
    rw [Object.exportFragments_eq]
    exact Object.liftAll_append_eq_ok_iff.mpr
      ⟨_, _, htypes, Object.liftAll_flatMap hexports MemberKind.all, rfl⟩

end Agreement

/-- An object with a member of each kind; its method is deprecated. -/
def pressedButton : Object where
  name := "Button"
  cname := "GtkButton"
  constructors := [{ name := "New", cname := "gtk_button_new" }]
  methods := [{ name := "Press", cname := "gtk_button_press", returnType := "void",
                deprecated := true }]
  properties := [{ name := "Label", cname := "label", type := "gchar*" }]
  signals := [{ name := "Pressed", cname := "pressed" }]

/-- The method and the signal of the object are older and newer than its module. -/
def pressedButtonDoc : ModuleDoc where
  name := "GtkButton"
  functions := [{ name := "gtk_button_press", paragraphs := [.text [.text "Presses it."]],
                  since := "2.4" }]
  signals := [{ name := "pressed", since := "2.12" }]
  since := "2.6"

/-- The method of the object was called before. -/
def pressedButtonPrior : PriorModule where
  calls := [{ cname := "gtk_button_press", isUnsafe := true }]
  exports := ["buttonPress"]

/-- Both functions of the signal are exported and defined from the version that the signal needs. -/
theorem exports_agree_pressedButton :
    (∃ text, (moduleBody [("GtkButton", .object ["GtkButton", "GObject"])] {} pressedButton
      pressedButtonDoc pressedButtonPrior).outcome = .ok text) ∧
    ∃ types, ∃ exports : MemberKind → List Fragment,
      (moduleExports {} pressedButton pressedButtonDoc pressedButtonPrior).outcome =
        .ok (guarded {} "\n" (types ++ MemberKind.all.flatMap exports)) ∧
      IsSection ListsNames ["", "-- * Signals"] (exports .signals)
        [⟨"onPressed", "2.12", false⟩, ⟨"afterPressed", "2.12", false⟩] ∧
      ∃ d defined, (pressedButton.definitions [("GtkButton", .object ["GtkButton", "GObject"])] {}
          pressedButtonDoc pressedButtonPrior).outcome = .ok d ∧
        d.definedNames pressedButton pressedButtonDoc .signals = .ok defined ∧
        List.Perm [⟨"onPressed", "2.12", false⟩, ⟨"afterPressed", "2.12", false⟩] defined := by
  obtain ⟨text, htext⟩ : ∃ text, (moduleBody [("GtkButton", .object ["GtkButton", "GObject"])] {}
      pressedButton pressedButtonDoc pressedButtonPrior).outcome = .ok text :=
    exists_ok_of_isSome (by decide +kernel)
  obtain ⟨listed, hlisted⟩ : ∃ listed, (moduleExports {} pressedButton pressedButtonDoc
      pressedButtonPrior).outcome = .ok listed :=
    exists_ok_of_isSome (by decide +kernel)
  obtain ⟨d, instances, bodies, exports, hd, -, -, hexports, -, hagree⟩ :=
    exports_agree_with_moduleBody htext
  obtain ⟨types, rfl⟩ := hexports listed hlisted
  obtain ⟨exported, defined, hexported, hdefined, hsection, -, hperm⟩ := hagree .signals
  have hnames : (pressedButton.exportedNames {} pressedButtonDoc pressedButtonPrior
      .signals).toOption = some [⟨"onPressed", "2.12", false⟩, ⟨"afterPressed", "2.12", false⟩] := by
    decide +kernel
  rw [hexported] at hnames
  obtain rfl := Option.some.inj hnames
  exact ⟨⟨text, htext⟩, types, exports, hlisted, hsection, d, defined, hd, hdefined, hperm⟩

end BindingGen

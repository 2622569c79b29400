/-
# Modules behind the guard of their release

Every fragment takes on the version of its module, unless its own version is later. Where the own
version names a release, that release is no earlier than the module's, and the fragment stays behind
a guard. A later version that names no release, such as `3` next to `2.6`, is kept as well, and no
guard can be written for it: the fragment then stands outside every guard.

Key definitions: `Version.NeedsAtLeast`, `Version.IsRaisedTo`, `IsReleaseBlock`, `IsShielded`.
Key theorems: `Object.needsAtLeast_lift_iff`, `isShielded_guarded`, `module_isShielded`.
-/
import BindingGen.Proofs.Guard.Visibility
import BindingGen.Proofs.Module.Since

namespace BindingGen

/-! ### Raised versions -/

namespace Version

/-- The version names a release that is `release` or a later one. -/
def NeedsAtLeast (release : Release) (version : String) : Prop :=
  ∃ r, Names version r ∧ release ≤ r

/-- A module's version guards a fragment whose own version is not later, and one whose own version
names a release. -/
def IsRaisedTo (moduleSince own : String) : Prop :=
  (∃ r, Names own r) ∨ ¬Precedes moduleSince own

theorem isRaisedTo_iff {moduleSince own : String} :
    IsRaisedTo moduleSince own ↔ (release? own).isSome = true ∨ ¬Precedes moduleSince own := by
  simp only [IsRaisedTo, Option.isSome_iff_exists, release?_eq_some_iff]

instance (moduleSince own : String) : Decidable (IsRaisedTo moduleSince own) :=
  decidable_of_iff _ isRaisedTo_iff.symm

theorem not_precedes_empty (version : String) : ¬Precedes version "" := by
  rintro ⟨ka, kb, -, hkb, hlt⟩
  have hempty : kb = [] := eq_of_key_eq_ok hkb
  rw [hempty] at hlt
  cases ka <;> cases hlt

/-- The later of two versions needs the release of the first, unless it is the second and names
none. -/
theorem needsAtLeast_later_iff {a b later : String} {release : Release} (ha : Names a release)
    (h : Version.later a b = .ok later) : NeedsAtLeast release later ↔ IsRaisedTo a b := by
  rcases later_cases h with ⟨rfl, hnot⟩ | ⟨rfl, hprec⟩
  · exact ⟨fun _ => Or.inr hnot, fun _ => ⟨release, ha, release.le_refl⟩⟩
  · constructor
    · rintro ⟨r, hr, -⟩
      exact Or.inl ⟨r, hr⟩
    · rintro (⟨r, hr⟩ | hnot)
      · exact ⟨r, hr, ha.le_of_precedes hr hprec⟩
      · exact absurd hprec hnot

end Version

namespace Object

variable {obj : Object} {doc : ModuleDoc} {release : Release}

/-- A fragment of a module needs the release of the module exactly if its version is raised. -/
theorem needsAtLeast_lift_iff {f g : Fragment} (hrelease : Version.Names doc.since release)
    (h : obj.lift doc.since f = .ok g) :
    Version.NeedsAtLeast release g.since ↔ Version.IsRaisedTo doc.since f.since := by
  obtain ⟨later, hlater, hg⟩ := bind_eq_ok_iff.mp h
  cases hg
  exact Version.needsAtLeast_later_iff hrelease hlater

theorem needsAtLeast_of_mem_liftAll {fragments lifted : List Fragment}
    (hrelease : Version.Names doc.since release)
    (hraised : ∀ f ∈ fragments, Version.IsRaisedTo doc.since f.since)
    (h : obj.liftAll doc fragments = .ok lifted) :
    ∀ g ∈ lifted, Version.NeedsAtLeast release g.since := by
  intro g hg
  obtain ⟨f, hf, hfg⟩ := exists_of_mem_mapM h hg
  exact (needsAtLeast_lift_iff hrelease hfg).mpr (hraised f hf)

end Object

/-! ### Shielded texts -/

/-- The text is a block of the preprocessor for a release that is `release` or a later one. -/
def IsReleaseBlock (settings : Settings) (release : Release) (text : String) : Prop :=
  ∃ major minor micro body : String,
    text = "#if " ++ settings.versionMacro ++ "(" ++ major ++ "," ++ minor ++ "," ++ micro ++
      ")\n" ++ body ++ "\n#endif" ∧
    isNumeral major.toList = true ∧ isNumeral minor.toList = true ∧ isNumeral micro.toList = true ∧
    release ≤ Version.releaseOf (major, minor, micro)

/-- The text is made of runs of the fragments, one after the other, and each run is a block of the
preprocessor for a release that is `release` or a later one. -/
def IsShielded (settings : Settings) (separator : String) (release : Release)
    (fragments : List Fragment) (text : String) : Prop :=
  ∃ runs : List (List Fragment),
    runs.flatten.map (·.text) = fragments.map (·.text) ∧
    text = separator.intercalate (runs.map (guardedRun settings separator)) ∧
    ∀ run ∈ runs, IsReleaseBlock settings release (guardedRun settings separator run)

section Shield

variable {settings : Settings} {separator : String} {release : Release}

theorem isReleaseBlock_versionGuard {since : String} (h : Version.NeedsAtLeast release since)
    (body : String) : IsReleaseBlock settings release (versionGuard settings since body) := by
  obtain ⟨r, hr, hle⟩ := h
  obtain ⟨⟨major, minor, micro⟩, hparts, rfl⟩ :=
    Option.map_eq_some_iff.mp (Version.release?_eq_some_iff.mpr hr)
  obtain ⟨hmajor, hminor, hmicro, -⟩ := Version.parts?_eq_some hparts
  refine ⟨major, minor, micro, body, ?_, hmajor, hminor, hmicro, hle⟩
  simp only [versionGuard, hparts]

/-- Fragments that need the release are shielded by their guards. -/
theorem isShielded_guarded {fragments lifted : List Fragment}
    (htext : lifted.map (·.text) = fragments.map (·.text))
    (h : ∀ f ∈ lifted, Version.NeedsAtLeast release f.since) :
    IsShielded settings separator release fragments (guarded settings separator lifted) := by
  refine ⟨lifted.splitBy Fragment.sameGuard, ?_, rfl, fun run hrun => ?_⟩
  · rw [List.flatten_splitBy, htext]
  · cases run with
    | nil => exact absurd rfl (List.ne_nil_of_mem_splitBy hrun)
    | cons first rest =>
      have hfirst : first ∈ (lifted.splitBy Fragment.sameGuard).flatten :=
        List.mem_flatten_of_mem hrun List.mem_cons_self
      rw [List.flatten_splitBy] at hfirst
      exact isReleaseBlock_versionGuard (h first hfirst) _

theorem IsReleaseBlock.suffix {text : String} (h : IsReleaseBlock settings release text) :
    "#endif".toList <:+ text.toList := by
  obtain ⟨major, minor, micro, body, rfl, -⟩ := h
  rw [String.toList_append, String.toList_append]
  exact ⟨_ ++ ['\n'], List.append_assoc _ _ _⟩

theorem suffix_intercalate {ending : List Char} {texts : List String} (hne : texts ≠ [])
    (h : ∀ text ∈ texts, ending <:+ text.toList) :
    ending <:+ (separator.intercalate texts).toList := by
  induction texts with
  | nil => exact absurd rfl hne
  | cons text rest ih =>
    cases rest with
    | nil => simpa using h text List.mem_cons_self
    | cons next rest =>
      rw [String.intercalate_cons_cons, String.toList_append]
      refine (ih (List.cons_ne_nil _ _) fun other hother => ?_).trans (List.suffix_append _ _)
      exact h other (List.mem_cons_of_mem _ hother)

theorem IsShielded.suffix {fragments : List Fragment} {text : String}
    (h : IsShielded settings separator release fragments text) (hne : fragments ≠ []) :
    "#endif".toList <:+ text.toList := by
  obtain ⟨runs, htexts, rfl, hblock⟩ := h
  refine suffix_intercalate ?_ fun block hblocks => ?_
  · rintro hruns
    rw [List.map_eq_nil_iff] at hruns
    rw [hruns] at htexts
    exact hne (List.map_eq_nil_iff.mp htexts.symm)
  · obtain ⟨run, hrun, rfl⟩ := List.mem_map.mp hblocks
    exact (hblock run hrun).suffix

end Shield

/-! ### Modules -/

section Module

variable {symbols : SymbolTable} {settings : Settings} {obj : Object} {doc : ModuleDoc}
  {prior : PriorModule} {release : Release}

/-- The fragments of a module are shielded if every version that they need is raised. -/
theorem isShielded_of_liftAll {separator : String} {fragments lifted : List Fragment}
    (hrelease : Version.Names doc.since release)
    (hraised : ∀ since ∈ doc.memberSinces, Version.IsRaisedTo doc.since since)
    (hsince : ∀ f ∈ fragments, f.since = "" ∨ f.since ∈ doc.memberSinces)
    (h : obj.liftAll doc fragments = .ok lifted) :
    IsShielded settings separator release fragments (guarded settings separator lifted) := by
  refine isShielded_guarded (Object.map_text_liftAll h) ?_
  refine Object.needsAtLeast_of_mem_liftAll hrelease (fun f hf => ?_) h
  rcases hsince f hf with hempty | hmem
  · exact hempty ▸ Or.inr (Version.not_precedes_empty _)
  · exact hraised f.since hmem

/-- **A module stands behind the guard of its release.** Where each version in the documentation of
its members names a release or does not come after the version of the module, the export list and
the body are made of blocks for the release of the module or later ones, headers included. -/
theorem module_isShielded (hrelease : Version.Names doc.since release)
    (hraised : ∀ since ∈ doc.memberSinces, Version.IsRaisedTo doc.since since) :
    (∀ text, (moduleExports settings obj doc prior).outcome = .ok text →
      IsShielded settings "\n" release (obj.exportFragments settings doc prior) text) ∧
    ∀ text, (moduleBody symbols settings obj doc prior).outcome = .ok text →
      ∃ d, (obj.definitions symbols settings doc prior).outcome = .ok d ∧
        IsShielded settings "\n\n" release (d.fragments settings obj) text := by
  constructor
  · intro text htext
    obtain ⟨lifted, hlifted, rfl⟩ := moduleExports_eq_ok_iff.mp htext
    exact isShielded_of_liftAll hrelease hraised (fun f => since_of_mem_exportFragments) hlifted
  · intro text htext
    obtain ⟨d, lifted, hd, hlifted, rfl⟩ := moduleBody_eq_ok_iff.mp htext
    exact ⟨d, hd,
      isShielded_of_liftAll hrelease hraised (fun f => since_of_mem_fragments hd) hlifted⟩

end Module

/-- An object with a constructor, a method and a signal. -/
def spunWheel : Object where
  name := "Wheel"
  cname := "GtkWheel"
  constructors := [{ name := "New", cname := "gtk_wheel_new" }]
  methods := [{ name := "Spin", cname := "gtk_wheel_spin", returnType := "void" }]
  signals := [{ name := "Spun", cname := "spun" }]

/-- The members of the object are older than its module, newer, and of no release. -/
def spunWheelDoc : ModuleDoc where
  name := "GtkWheel"
  functions := [{ name := "gtk_wheel_new", since := "2" },
    { name := "gtk_wheel_spin", since := "2.10.3" }]
  signals := [{ name := "spun", since := "the first release" }]
  since := "2.6"

/-- Both texts of the module are made of blocks. -/
theorem module_isShielded_spunWheel :
    Version.Names spunWheelDoc.since ⟨2, 6, 0⟩ ∧
    (∀ since ∈ spunWheelDoc.memberSinces, Version.IsRaisedTo spunWheelDoc.since since) ∧
    (∃ text, (moduleExports {} spunWheel spunWheelDoc {}).outcome = .ok text ∧
      IsShielded {} "\n" ⟨2, 6, 0⟩ (spunWheel.exportFragments {} spunWheelDoc {}) text) ∧
    ∃ (text : String) (d : Definitions),
      (moduleBody [("GtkWheel", .object ["GtkWheel", "GObject"])] {} spunWheel spunWheelDoc
        {}).outcome = .ok text ∧
      (spunWheel.definitions [("GtkWheel", .object ["GtkWheel", "GObject"])] {} spunWheelDoc
        {}).outcome = .ok d ∧
      IsShielded {} "\n\n" ⟨2, 6, 0⟩ (d.fragments {} spunWheel) text := by
  have hrelease : Version.Names spunWheelDoc.since ⟨2, 6, 0⟩ :=
    Version.release?_eq_some_iff.mp (by decide +kernel)
  have hraised : ∀ since ∈ spunWheelDoc.memberSinces,
      Version.IsRaisedTo spunWheelDoc.since since := by
    decide +kernel
  obtain ⟨exported, hexported⟩ : ∃ text,
      (moduleExports {} spunWheel spunWheelDoc {}).outcome = .ok text :=
    exists_ok_of_isSome (by decide +kernel)
  obtain ⟨text, htext⟩ : ∃ text, (moduleBody [("GtkWheel", .object ["GtkWheel", "GObject"])] {}
      spunWheel spunWheelDoc {}).outcome = .ok text :=
    exists_ok_of_isSome (by decide +kernel)
  have hlist := (@module_isShielded [] _ _ _ _ _ hrelease hraised).1 exported hexported
  obtain ⟨d, hd, hbody⟩ := (module_isShielded hrelease hraised).2 text htext
  exact ⟨hrelease, hraised, ⟨exported, hexported, hlist⟩, text, d, htext, hd, hbody⟩

/-- A later version that names no release leaves its member outside every guard, so that the version
of the module alone does not shield it. -/
theorem not_isShielded_laterMember :
    ¬∀ (settings : Settings) (obj : Object) (doc : ModuleDoc) (prior : PriorModule)
      (release : Release) (text : String), Version.Names doc.since release →
      (moduleExports settings obj doc prior).outcome = .ok text →
      IsShielded settings "\n" release (obj.exportFragments settings doc prior) text := by
  intro h
  have hexports : (moduleExports {} { spunWheel with signals := [] }
      { name := "GtkWheel", functions := [{ name := "gtk_wheel_spin", since := "3" }],
        since := "2.6" } {}).outcome =
      .ok ("#if GTK_CHECK_VERSION(2,6,0)\n-- * Types\n  Wheel,\n  WheelClass,\n  castToWheel,\n" ++
        "\n-- * Constructors\n  wheelNew,\n\n-- * Methods\n#endif\n  wheelSpin,") := by
    decide +kernel
  have hshield := h {} { spunWheel with signals := [] } _ {} ⟨2, 6, 0⟩ _
    (Version.release?_eq_some_iff.mp (by decide +kernel)) hexports
  have hsuffix := hshield.suffix (by simp [Object.exportFragments])
  revert hsuffix
  decide +kernel

end BindingGen

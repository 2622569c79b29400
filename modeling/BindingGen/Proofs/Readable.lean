/-
# Declarations and documentation that can be read

The faults that end a whole run come from three places: a span, a paragraph or a type of a kind
that is not known, and a version with a numeral that is too long to read. What has none of these is
readable. The later of two readable versions can always be told.

Key definitions: `Span.isKnown`, `Para.isKnown`, `Version.isReadable`, `FunctionDoc.isReadable`,
`MemberDoc.isReadable`, `ModuleDoc.IsReadable`, `Api.IsKnown`.
Key theorems: `Object.failsOnly_lift`.
-/
import BindingGen.Member.Property
import BindingGen.Module.Section
import BindingGen.Proofs.Outcome

namespace BindingGen

/-- Whether a span is of a known kind. -/
def Span.isKnown : Span → Bool
  | .unknown _ => false
  | _ => true

/-- Whether a paragraph and its spans are of known kinds. -/
def Para.isKnown : Para → Bool
  | .text spans => spans.all (·.isKnown)
  | .program _ => true
  | .title _ => true
  | .definition term spans => term.all (·.isKnown) && spans.all (·.isKnown)
  | .item spans => spans.all (·.isKnown)
  | .unknown _ => false

/-- Whether a type is of a known kind. -/
def MiscKind.isKnown : MiscKind → Bool
  | .unknown _ => false
  | _ => true

/-- Whether no numeral of a version is too long to read. -/
def Version.isReadable (version : String) : Bool :=
  (Text.digitRuns version.toList).all fun digits => digits.length ≤ longestNumeral

/-- Whether the documentation of a function can be read. -/
def FunctionDoc.isReadable (d : FunctionDoc) : Bool :=
  d.paragraphs.all (·.isKnown) && d.params.all (fun p => p.paragraph.all (·.isKnown)) &&
    Version.isReadable d.since

/-- Whether the documentation of a property or a signal can be read. -/
def MemberDoc.isReadable (d : MemberDoc) : Bool :=
  d.paragraphs.all (·.isKnown) && Version.isReadable d.since

/-- The documentation of a module can be read. Its summary and description are not looked at. -/
structure ModuleDoc.IsReadable (d : ModuleDoc) : Prop where
  functions : ∀ f ∈ d.functions, f.isReadable = true
  properties : ∀ p ∈ d.properties, p.isReadable = true
  signals : ∀ s ∈ d.signals, s.isReadable = true
  since : Version.isReadable d.since = true

/-- The types that an API declares are of known kinds. -/
def Api.IsKnown (api : Api) : Prop := ∀ ns ∈ api, ∀ m ∈ ns.misc, m.kind.isKnown = true

instance (api : Api) : Decidable api.IsKnown :=
  inferInstanceAs (Decidable (∀ ns ∈ api, ∀ m ∈ ns.misc, m.kind.isKnown = true))

/-! ### Versions -/

theorem Version.isReadable_empty : Version.isReadable "" = true := by decide

theorem Version.failsOnly_key {version : String} (h : Version.isReadable version = true) :
    FailsOnly Fault.Never (Version.key version) := by
  refine FailsOnly.mapM fun digits hdigits => ?_
  rw [if_pos (by simpa using List.all_eq_true.mp h digits hdigits)]
  exact failsOnly_ok _

/-- The later of two readable versions can be told. -/
theorem Version.failsOnly_later {a b : String} (ha : Version.isReadable a = true)
    (hb : Version.isReadable b = true) : FailsOnly Fault.Never (Version.later a b) := by
  unfold Version.later
  refine (failsOnly_key hb).bind fun _ _ => (failsOnly_key ha).bind fun _ _ => ?_
  exact failsOnly_pure _

/-- A fragment of a readable version takes on the version of its module. -/
theorem Object.failsOnly_lift (obj : Object) {since : String} {f : Fragment}
    (hsince : Version.isReadable since = true) (hf : Version.isReadable f.since = true) :
    FailsOnly Fault.Never (obj.lift since f) := by
  unfold Object.lift
  exact (Version.failsOnly_later hsince hf).bind fun _ _ => failsOnly_pure _

/-! ### Documentation of members -/

theorem FunctionDoc.isReadable_iff {d : FunctionDoc} :
    d.isReadable = true ↔ (∀ p ∈ d.paragraphs, p.isKnown = true) ∧
      (∀ p ∈ d.params, ∀ s ∈ p.paragraph, s.isKnown = true) ∧ Version.isReadable d.since = true := by
  simp [FunctionDoc.isReadable, and_assoc]

theorem MemberDoc.isReadable_iff {d : MemberDoc} :
    d.isReadable = true ↔
      (∀ p ∈ d.paragraphs, p.isKnown = true) ∧ Version.isReadable d.since = true := by
  simp [MemberDoc.isReadable]

/-- What is said of a pair of methods that belongs to no declared property can be read. -/
theorem Accessors.isReadable_doc (pair : Accessors) : pair.doc.isReadable = true :=
  MemberDoc.isReadable_iff.mpr ⟨by simp [Accessors.doc, Para.isKnown, Span.isKnown],
    Version.isReadable_empty⟩

section Optional

variable {d : Option FunctionDoc} {m : Option MemberDoc}

theorem FunctionDoc.isKnown_of_mem_paragraphsOf (h : ∀ f ∈ d, f.isReadable = true) :
    ∀ p ∈ FunctionDoc.paragraphsOf d, p.isKnown = true := by
  cases d with
  | none => exact fun p hp => by cases hp
  | some f => exact (isReadable_iff.mp (h f rfl)).1

theorem MemberDoc.isKnown_of_mem_paragraphsOf (h : ∀ f ∈ m, f.isReadable = true) :
    ∀ p ∈ MemberDoc.paragraphsOf m, p.isKnown = true := by
  cases m with
  | none => exact fun p hp => by cases hp
  | some f => exact (isReadable_iff.mp (h f rfl)).1

end Optional

end BindingGen

/-
# The order of methods

A method is bound if its parameter list has an end and it is not deprecated, or was called before.
The bound methods are sorted by two positions, that of the prior call and that of the documentation,
whichever counts first; a method without the one or the other stands behind all that have it, and
methods in the same place stay as they are declared. Each is paired with the first documentation and
the first prior call of its C name.

Key definitions: `Object.IsEligible`, `Object.sortKey`, `Object.IsEntryOf`, `Object.IsCollated`.
Key theorems: `Object.sortKey_le_iff`, `Object.isCollated_iff`.
-/
import BindingGen.Proofs.Member.Entries
import BindingGen.Proofs.Outcome
import BindingGen.Proofs.StableOrder

namespace BindingGen
namespace Object

variable (obj : Object) (docs : List FunctionDoc) (priors : List PriorCall) (priorFirst : Bool)

/-- The parameter list of the method has an end, and the method was called before if it is
deprecated. -/
def IsEligible (m : Method) : Prop :=
  (∀ p ∈ m.parameters, p.isVarargs = false) ∧
    (m.deprecated = true → ∃ call ∈ priors, call.cname = m.cname)

instance (m : Method) : Decidable (IsEligible priors m) :=
  inferInstanceAs (Decidable ((∀ p ∈ m.parameters, p.isVarargs = false) ∧
    (m.deprecated = true → ∃ call ∈ priors, call.cname = m.cname)))

/-- The positions of a method among the prior calls and among the documentation, in the order in
which they count. -/
def sortKey (m : Method) : WithTop ℕ ×ₗ WithTop ℕ :=
  let called := position (·.cname) m.cname priors
  let documented := position (·.name) m.cname docs
  if priorFirst then toLex (called, documented) else toLex (documented, called)

/-- The entry binds the method, with the first documentation and the first prior call of its
C name. -/
structure IsEntryOf (m : Method) (e : FunctionEntry) : Prop where
  method : e.method = obj.asFunction m
  doc : IsFirst (·.name) m.cname docs e.doc
  prior : IsFirst (·.cname) m.cname priors e.prior

/-- The entries are those of the eligible methods in their stable order. -/
def IsCollated (entries : List FunctionEntry) : Prop :=
  ∃ methods, IsStableOrder (sortKey docs priors priorFirst)
      (obj.methods.filter (IsEligible priors)) methods ∧
    List.Forall₂ (obj.IsEntryOf docs priors) methods entries

variable {obj docs priors priorFirst}

theorem isBound_iff_isEligible {m : Method} : isBound priors m = true ↔ IsEligible priors m := by
  simp [isBound, IsEligible, hasVarargs, imp_iff_not_or]

/-- The places of two methods compare as their positions do. -/
theorem sortKey_le_iff {a b : Method} :
    sortKey docs priors priorFirst a ≤ sortKey docs priors priorFirst b ↔
      placeLe (places docs priors priorFirst a.cname) (places docs priors priorFirst b.cname)
        = true := by
  rw [placeLe_iff]
  unfold sortKey places
  cases priorFirst with
  | false | true =>
    simp only [Bool.false_eq_true, if_true, if_false, Prod.Lex.toLex_le_toLex, lt_iff_not_ge,
      position_le_iff, position_eq_iff]

theorem isEntryOf_iff {m : Method} {e : FunctionEntry} :
    obj.IsEntryOf docs priors m e ↔ obj.methodEntry docs priors m = e := by
  constructor
  · rintro ⟨hmethod, hdoc, hprior⟩
    obtain ⟨method, doc, prior⟩ := e
    rw [methodEntry, isFirst_iff.mp hdoc, isFirst_iff.mp hprior]
    exact congrArg (FunctionEntry.mk · doc prior) hmethod.symm
  · rintro rfl
    exact ⟨rfl, isFirst_firstNamed?, isFirst_firstNamed?⟩

theorem orderedMethods_eq :
    obj.orderedMethods docs priors priorFirst =
      (obj.methods.filter (IsEligible priors)).mergeSort fun a b =>
        sortKey docs priors priorFirst a ≤ sortKey docs priors priorFirst b := by
  have hfilter : obj.methods.filter (isBound priors) =
      obj.methods.filter (IsEligible priors) := by
    refine List.filter_congr fun m _ => ?_
    rw [Bool.eq_iff_iff, isBound_iff_isEligible, decide_eq_true_eq]
  rw [orderedMethods, hfilter]
  congr 1
  funext a b
  rw [Bool.eq_iff_iff, ← sortKey_le_iff, decide_eq_true_eq]

/-- **Methods are collated in one way.** The bound methods of an object are those that are eligible,
in the order of their positions among the prior calls and the documentation and, where these are the
same, of their declarations; and each comes with the first documentation and the first prior call of
its C name. -/
theorem isCollated_iff {entries : List FunctionEntry} :
    obj.IsCollated docs priors priorFirst entries ↔
      entries = obj.methodEntries docs priors priorFirst := by
  have hpaired : ∀ methods, List.Forall₂ (obj.IsEntryOf docs priors) methods entries ↔
      entries = methods.map (obj.methodEntry docs priors) := by
    refine fun _ => forall₂_iff_eq_map fun m e => ?_
    exact isEntryOf_iff
  unfold IsCollated
  simp only [isStableOrder_iff, hpaired, exists_eq_left]
  rw [methodEntries_eq_map, orderedMethods_eq]

end Object
end BindingGen

/-
# The members of an object in order

The bound functions of an object are its methods and constructors put in order, each with its own
documentation and prior call; so they are the same, up to their order, in every order. The
documentation of a member is one of the records it was looked for in, that of a constructor without
what it says of the result.

Key definitions: `Object.orderedMethods`, `Object.methodEntry`, `Object.orderedConstructors`,
`Object.constructorEntry`.
Key theorems: `mergeSort_places_eq_of_perm`, `Object.methodEntries_eq_map`,
`Object.constructorEntries_eq_map`, `Object.orderedMethods_perm`, `Object.orderedConstructors_perm`.
-/
import BindingGen.Member.Function
import BindingGen.Member.Signal
import BindingGen.Proofs.Places

namespace BindingGen

/-! ### The order of places -/

theorem placeLe_iff {a b : Nat × Nat} :
    placeLe a b = true ↔ a.1 < b.1 ∨ a.1 = b.1 ∧ a.2 ≤ b.2 := by
  simp [placeLe]

theorem placeLe_trans (a b c : Nat × Nat) (hab : placeLe a b = true) (hbc : placeLe b c = true) :
    placeLe a c = true := by
  rw [placeLe_iff] at hab hbc ⊢
  omega

theorem placeLe_total (a b : Nat × Nat) : (placeLe a b || placeLe b a) = true := by
  rw [Bool.or_eq_true, placeLe_iff, placeLe_iff]
  omega

/-- Sorting by pairs of places brings records into an order along which the first places grow. -/
theorem mergeSort_places_eq_of_perm {α : Type} (place : α → Nat × Nat) {l sorted : List α}
    (hperm : l.Perm sorted) (hsorted : sorted.Pairwise fun a b => (place a).1 < (place b).1) :
    l.mergeSort (fun a b => placeLe (place a) (place b)) = sorted := by
  refine mergeSort_eq_of_perm (fun a b c => placeLe_trans (place a) (place b) (place c))
    (fun a b => placeLe_total (place a) (place b)) hperm (hsorted.imp fun h => ?_)
  rw [← Bool.not_eq_true, placeLe_iff, placeLe_iff]
  omega

namespace Object

variable (obj : Object) (settings : Settings) (docs : List FunctionDoc) (priors : List PriorCall)

/-! ### Methods -/

/-- The bound methods in order. -/
def orderedMethods (priorFirst : Bool) : List Method :=
  (obj.methods.filter (isBound priors)).mergeSort fun a b =>
    placeLe (places docs priors priorFirst a.cname) (places docs priors priorFirst b.cname)

/-- A method with its documentation and its prior call. -/
def methodEntry (m : Method) : FunctionEntry where
  method := obj.asFunction m
  doc := firstNamed? (·.name) m.cname docs
  prior := firstNamed? (·.cname) m.cname priors

theorem methodEntries_eq_map (priorFirst : Bool) :
    obj.methodEntries docs priors priorFirst =
      (obj.orderedMethods docs priors priorFirst).map (obj.methodEntry docs priors) := rfl

theorem orderedMethods_perm (priorFirst : Bool) :
    (obj.orderedMethods docs priors priorFirst).Perm (obj.methods.filter (isBound priors)) :=
  List.mergeSort_perm _ _

/-- The same methods are bound whatever their order and their documentation are. -/
theorem orderedMethods_perm_orderedMethods (docs' : List FunctionDoc)
    (priorFirst priorFirst' : Bool) :
    (obj.orderedMethods docs priors priorFirst).Perm
      (obj.orderedMethods docs' priors priorFirst') :=
  (obj.orderedMethods_perm docs priors priorFirst).trans
    (obj.orderedMethods_perm docs' priors priorFirst').symm

/-! ### Constructors -/

/-- The bound constructors in order. -/
def orderedConstructors : List Constructor :=
  (obj.constructors.filter fun c => !hasVarargs c.parameters).mergeSort fun a b =>
    rank (·.cname) a.cname priors ≤ rank (·.cname) b.cname priors

/-- A constructor with its documentation and its prior call. -/
def constructorEntry (c : Constructor) : FunctionEntry where
  method := obj.constructorFunction settings c
  doc := (firstNamed? (·.name) c.cname docs).map constructorDoc
  prior := firstNamed? (·.cname) c.cname priors

theorem constructorEntries_eq_map :
    obj.constructorEntries settings docs priors =
      (obj.orderedConstructors priors).map (obj.constructorEntry settings docs priors) := rfl

theorem orderedConstructors_perm :
    (obj.orderedConstructors priors).Perm
      (obj.constructors.filter fun c => !hasVarargs c.parameters) :=
  List.mergeSort_perm _ _

/-! ### Documentation -/

variable {obj settings docs priors} {e : FunctionEntry} {memberDocs : List MemberDoc}

theorem mem_of_doc_methodEntries {priorFirst : Bool}
    (he : e ∈ obj.methodEntries docs priors priorFirst) {d : FunctionDoc} (hd : e.doc = some d) :
    d ∈ docs := by
  rw [methodEntries_eq_map] at he
  obtain ⟨m, -, rfl⟩ := List.mem_map.mp he
  exact (mem_of_firstNamed? hd).1

theorem mem_of_doc_constructorEntries (he : e ∈ obj.constructorEntries settings docs priors)
    {d : FunctionDoc} (hd : e.doc = some d) : ∃ full ∈ docs, d = constructorDoc full := by
  rw [constructorEntries_eq_map] at he
  obtain ⟨c, -, rfl⟩ := List.mem_map.mp he
  obtain ⟨full, hfull, rfl⟩ := Option.map_eq_some_iff.mp hd
  exact ⟨full, (mem_of_firstNamed? hfull).1, rfl⟩

theorem mem_of_doc_propertyEntries {e : PropertyEntry} (he : e ∈ obj.propertyEntries memberDocs)
    {d : MemberDoc} (hd : e.doc = some d) : d ∈ memberDocs ∨ ∃ pair : Accessors, d = pair.doc := by
  rcases List.mem_append.mp he with he | he
  · obtain ⟨p, -, rfl⟩ := List.mem_map.mp he
    exact Or.inl (mem_of_firstNamed? hd).1
  · obtain ⟨pair, -, rfl⟩ := List.mem_map.mp he
    exact Or.inr ⟨pair, (Option.some.inj hd).symm⟩

theorem mem_of_doc_signalEntries {e : SignalEntry} (he : e ∈ obj.signalEntries memberDocs)
    {d : MemberDoc} (hd : e.doc = some d) : d ∈ memberDocs := by
  obtain ⟨s, -, rfl⟩ := List.mem_map.mp he
  exact (mem_of_firstNamed? hd).1

end Object
end BindingGen

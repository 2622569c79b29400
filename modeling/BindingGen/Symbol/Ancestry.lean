/-
# Ancestors of an object type

The walk from an object type to its parent, its parent's parent and so on. It ends at the root
type, at a type without a parent, in front of a parent that is not declared, or when it comes back
to a name met before.

Key definitions: `WalkEnd`, `Ancestry`, `Ancestry.walk`, `Ancestry.ofObject`.
-/
import BindingGen.Api
import BindingGen.Table

namespace BindingGen

/-- How a walk along parents ends. -/
inductive WalkEnd where
  | root
  | parentless
  | unresolved (parent : String)
  | cyclic (again : String)
  deriving DecidableEq

/-- The names met on a walk along parents, and how it ended. -/
structure Ancestry where
  chain : List String
  ending : WalkEnd
  deriving DecidableEq

namespace Ancestry

/-- The number of declarations whose name is not on the chain. -/
def unmet (declared : List Object) (chain : List String) : Nat :=
  declared.countP fun o => !chain.contains o.cname

theorem countP_lt {α : Type} {p q : α → Bool} {a : α} :
    ∀ {l : List α}, (∀ x, q x = true → p x = true) → a ∈ l → p a = true → q a = false →
      l.countP q < l.countP p
  | [], _, hmem, _, _ => by simp at hmem
  | b :: l, himp, hmem, hp, hq => by
    rcases List.mem_cons.mp hmem with rfl | hmem
    · have := List.countP_mono_left (l := l) (fun x _ => himp x)
      simp only [List.countP_cons, hp, hq, if_true]
      simp only [Bool.false_eq_true, if_false]
      omega
    · have := countP_lt himp hmem hp hq
      have hb : (if q b = true then 1 else 0) ≤ (if p b = true then 1 else 0) := by
        by_cases h : q b = true
        · simp [h, himp b h]
        · simp [h]
      simp only [List.countP_cons]
      omega

/-- A step to a declared parent that is not on the chain leaves fewer names to be met. -/
theorem unmet_lt {declared : List Object} {chain : List String} {parent : Object} {name : String}
    (hnew : ¬chain.contains name = true)
    (hfind : firstNamed? (·.cname) name declared = some parent) :
    unmet declared (chain ++ [name]) < unmet declared chain := by
  have hname : parent.cname = name := by simpa using List.find?_some hfind
  refine countP_lt (a := parent) ?_ (List.mem_of_find?_eq_some hfind) ?_ ?_
  · intro x hx
    simp only [List.contains_eq_mem, List.mem_append, Bool.not_eq_true', decide_eq_false_iff_not]
      at hx ⊢
    exact fun h => hx (Or.inl h)
  · simpa [hname] using hnew
  · simp [hname]

/-- The walk from `current`, which is the last name of `chain`. Parents are looked up among the
declarations, where the first of a name stands. -/
def walk (declared : List Object) (root : String) (chain : List String) (current : Object) :
    Ancestry :=
  if current.cname = root then ⟨chain, .root⟩
  else if current.parent = "" then ⟨chain, .parentless⟩
  else if _hold : chain.contains current.parent = true then ⟨chain, .cyclic current.parent⟩
  else if current.parent = root then ⟨chain ++ [root], .root⟩
  else
    match _hfind : firstNamed? (·.cname) current.parent declared with
    | none => ⟨chain, .unresolved current.parent⟩
    | some parent => walk declared root (chain ++ [current.parent]) parent
termination_by unmet declared chain
decreasing_by exact unmet_lt _hold _hfind

/-- The walk that starts at an object type. -/
def ofObject (declared : List Object) (root : String) (object : Object) : Ancestry :=
  walk declared root [object.cname] object

end Ancestry
end BindingGen

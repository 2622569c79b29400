/-
# Climbing along parents

An object type climbs to the first declaration of its parent's name, unless it is the root type or
has no parent. A declaration revisits a name if some climb that starts at it meets a name twice. The
walk to the ancestors of a declaration ends at a name met before exactly where the declaration
revisits one: there is one climb only, and the walk takes it.

Key definitions: `Object.Climbs`, `ReturnsAfter`, `Object.Revisits`.
Key theorems: `Ancestry.walk_cyclic_iff`, `Ancestry.ofObject_cyclic_iff`, `Object.revisits_congr`.
-/
import Mathlib.Data.List.Chain
import BindingGen.Proofs.Places
import BindingGen.Symbol.Ancestry

namespace BindingGen

section Climb

variable (declared : List Object) (root : String)

/-- An object type climbs to the first declaration of its parent, if it is not the root type. -/
def Object.Climbs (o parent : Object) : Prop :=
  o.cname ≠ root ∧ o.parent ≠ "" ∧ firstNamed? (·.cname) o.parent declared = some parent

/-- A climb along `met` can go on until it meets a name for the second time. -/
def ReturnsAfter (met : List Object) : Prop :=
  ∃ path, (met ++ path).IsChain (Object.Climbs declared root) ∧
    ¬((met ++ path).map (·.cname)).Nodup

/-- A climb from the object type meets a name twice. -/
def Object.Revisits (o : Object) : Prop := ReturnsAfter declared root [o]

end Climb

variable {declared : List Object} {root : String} {before : List Object} {current parent : Object}

theorem Object.Climbs.unique {other : Object} (h : current.Climbs declared root parent)
    (hother : current.Climbs declared root other) : other = parent :=
  Option.some.inj (hother.2.2.symm.trans h.2.2)

/-! ### Going on with a climb -/

theorem climbs_of_isChain_append {next : Object} {rest : List Object}
    (h : (before ++ [current] ++ next :: rest).IsChain (Object.Climbs declared root)) :
    current.Climbs declared root next :=
  (List.isChain_append.mp h).2.2 current (by simp) next (by simp)

theorem not_returnsAfter_of_stuck (hnodup : ((before ++ [current]).map (·.cname)).Nodup)
    (hstuck : ∀ next, ¬current.Climbs declared root next) :
    ¬ReturnsAfter declared root (before ++ [current]) := by
  rintro ⟨path, hchain, hrepeat⟩
  cases path with
  | nil => exact hrepeat (by rwa [List.append_nil])
  | cons next rest => exact hstuck next (climbs_of_isChain_append hchain)

/-- There is one way to go on. -/
theorem returnsAfter_iff_of_climbs (hnodup : ((before ++ [current]).map (·.cname)).Nodup)
    (h : current.Climbs declared root parent) :
    ReturnsAfter declared root (before ++ [current]) ↔
      ReturnsAfter declared root (before ++ [current] ++ [parent]) := by
  constructor
  · rintro ⟨path, hchain, hrepeat⟩
    cases path with
    | nil => exact absurd (by rwa [List.append_nil]) hrepeat
    | cons next rest =>
      obtain rfl := h.unique (climbs_of_isChain_append hchain)
      exact ⟨rest, by simpa using hchain, by simpa using hrepeat⟩
  · rintro ⟨path, hchain, hrepeat⟩
    exact ⟨parent :: path, by simpa using hchain, by simpa using hrepeat⟩

theorem isChain_climb (hchain : (before ++ [current]).IsChain (Object.Climbs declared root))
    (h : current.Climbs declared root parent) :
    (before ++ [current] ++ [parent]).IsChain (Object.Climbs declared root) := by
  refine List.isChain_append.mpr ⟨hchain, List.isChain_singleton _, ?_⟩
  simpa using h

theorem returnsAfter_of_mem (hchain : (before ++ [current]).IsChain (Object.Climbs declared root))
    (h : current.Climbs declared root parent)
    (hmem : parent.cname ∈ (before ++ [current]).map (·.cname)) :
    ReturnsAfter declared root (before ++ [current]) := by
  refine ⟨[parent], isChain_climb hchain h, fun hnodup => ?_⟩
  rw [List.map_append, List.map_singleton] at hnodup
  exact (List.disjoint_of_nodup_append hnodup) hmem (List.mem_singleton_self _)

/-! ### The walk -/

namespace Ancestry

theorem nodup_concat {chain : List String} {name : String} (hnodup : chain.Nodup)
    (hnew : ¬chain.contains name = true) : (chain ++ [name]).Nodup := by
  rw [List.contains_iff_mem] at hnew
  exact List.nodup_append_comm.mp (List.nodup_cons.mpr ⟨hnew, hnodup⟩)

/-- The walk ends at a name met before exactly where the climb along its chain does. -/
theorem walk_cyclic_iff {chain : List String}
    (hnames : chain = (before ++ [current]).map (·.cname)) (hnodup : chain.Nodup)
    (hchain : (before ++ [current]).IsChain (Object.Climbs declared root))
    (hdeclared : ∀ name ∈ chain, ∃ o, firstNamed? (·.cname) name declared = some o) :
    (∃ again, (walk declared root chain current).ending = .cyclic again) ↔
      ReturnsAfter declared root (before ++ [current]) := by
  -- each step of the walk is the one climb there is, and the chain has no name twice until it ends
  fun_induction walk declared root chain current generalizing before with
  | case1 chain current hroot =>
    refine iff_of_false (by simp) (not_returnsAfter_of_stuck (hnames ▸ hnodup) ?_)
    exact fun _ h => h.1 hroot
  | case2 chain current _ hparent =>
    refine iff_of_false (by simp) (not_returnsAfter_of_stuck (hnames ▸ hnodup) ?_)
    exact fun _ h => h.2.1 hparent
  | case3 chain current hroot hparent hmem =>
    -- a name on the chain is declared, so that there is a declaration to climb to
    rw [List.contains_iff_mem] at hmem
    obtain ⟨parent, hfind⟩ := hdeclared current.parent hmem
    refine iff_of_true ⟨_, rfl⟩ (returnsAfter_of_mem hchain ⟨hroot, hparent, hfind⟩ ?_)
    rw [(mem_of_firstNamed? hfind).2, ← hnames]
    exact hmem
  | case4 chain current hroot hparent hnew hnext =>
    refine iff_of_false (by simp) ?_
    cases hfind : firstNamed? (·.cname) current.parent declared with
    | none =>
      refine not_returnsAfter_of_stuck (hnames ▸ hnodup) fun _ h => ?_
      exact absurd (hfind.symm.trans h.2.2) (by simp)
    | some top =>
      -- the root type is declared as well, and no climb goes on from it
      have hname : top.cname = current.parent := (mem_of_firstNamed? hfind).2
      have hclimb : current.Climbs declared root top := ⟨hroot, hparent, hfind⟩
      rw [returnsAfter_iff_of_climbs (hnames ▸ hnodup) hclimb]
      refine not_returnsAfter_of_stuck ?_ fun _ h => h.1 (hname.trans hnext)
      rw [List.map_append, List.map_singleton, hname, ← hnames]
      exact nodup_concat hnodup hnew
  | case5 chain current _ _ _ _ hfind =>
    refine iff_of_false (by simp) (not_returnsAfter_of_stuck (hnames ▸ hnodup) fun _ h => ?_)
    exact absurd (hfind.symm.trans h.2.2) (by simp)
  | case6 chain current hroot hparent hnew hnext parent hfind ih =>
    have hclimb : current.Climbs declared root parent := ⟨hroot, hparent, hfind⟩
    have hname : parent.cname = current.parent := (mem_of_firstNamed? hfind).2
    rw [returnsAfter_iff_of_climbs (hnames ▸ hnodup) hclimb]
    refine ih ?_ (nodup_concat hnodup hnew) (isChain_climb hchain hclimb) ?_
    · rw [List.map_append, List.map_singleton, hname, hnames]
    · rw [List.forall_mem_append, List.forall_mem_singleton]
      exact ⟨hdeclared, parent, hfind⟩

/-- The walk from a declared object type ends at a name met before exactly where the type revisits
one. -/
theorem ofObject_cyclic_iff {o : Object} (ho : o ∈ declared) :
    (∃ again, (ofObject declared root o).ending = .cyclic again) ↔ o.Revisits declared root := by
  have hfirst : ∃ first, firstNamed? (·.cname) o.cname declared = some first :=
    Option.isSome_iff_exists.mp (List.find?_isSome.mpr ⟨o, ho, by simp⟩)
  exact @walk_cyclic_iff declared root [] o [o.cname] rfl (List.nodup_singleton _)
    (List.isChain_singleton _) (List.forall_mem_singleton.mpr hfirst)

end Ancestry

theorem Object.revisits_congr {o other : Object} (hname : o.cname = other.cname)
    (hparent : o.parent = other.parent) (h : o.Revisits declared root) :
    other.Revisits declared root := by
  obtain ⟨path, hchain, hrepeat⟩ := h
  refine ⟨path, ?_, by simpa [hname] using hrepeat⟩
  cases path with
  | nil => exact List.isChain_singleton _
  | cons next rest =>
    obtain ⟨hfirst, hrest⟩ := List.isChain_cons_cons.mp hchain
    refine List.isChain_cons_cons.mpr ⟨?_, hrest⟩
    rw [Object.Climbs, hname, hparent] at hfirst
    exact hfirst

end BindingGen

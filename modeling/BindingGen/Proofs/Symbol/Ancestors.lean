/-
# The names on the way to the root type

The walk from an object type meets names without repetition, each of them the parent of the type
before it. It stops at the root type, at a type without a parent, in front of a parent that is not
declared, which is the one case with a warning, or at a parent whose name it has met before; and it
meets a name again exactly if climbing along parents does. On the way the object type stands for its
own name, whether it is declared or not. The names are at most two more than the declarations, so
that the walk comes to an end.

Key definitions: `HasParent`, `WalkEnd.Stops`, `Ancestry.Follows`, `Classified.warnings`.
Key theorems: `Ancestry.walk_cons`, `Ancestry.follows_ofObject`, `Ancestry.Follows.length_le`,
`Classified.ofObject_walks`.
-/
import BindingGen.Proofs.Symbol.Climb
import BindingGen.Symbol.Classification

namespace BindingGen

section Names

variable (known : List Object) (root : String)

/-- The type of a name is not the root type and has a parent. -/
def HasParent (name parent : String) : Prop :=
  name ≠ root ∧ parent ≠ "" ∧ ∃ o, firstNamed? (·.cname) name known = some o ∧ o.parent = parent

/-- A walk that has met the names of `chain`, the last of them `last`, stops there. -/
inductive WalkEnd.Stops (chain : List String) (last : String) : WalkEnd → Prop
  | root (hroot : last = root) : Stops chain last .root
  | parentless {o : Object} (hroot : last ≠ root)
      (hlast : firstNamed? (·.cname) last known = some o) (hparent : o.parent = "") :
      Stops chain last .parentless
  | unresolved {parent : String} (hparent : HasParent known root last parent)
      (hroot : parent ≠ root) (hnone : firstNamed? (·.cname) parent known = none) :
      Stops chain last (.unresolved parent)
  | cyclic {again : String} (hparent : HasParent known root last again) (hmem : again ∈ chain) :
      Stops chain last (.cyclic again)

/-- The names lead from `start` along parents, without repetition, to where a walk stops. -/
structure Ancestry.Follows (start : String) (a : Ancestry) : Prop where
  head : a.chain.head? = some start
  nodup : a.chain.Nodup
  parents : a.chain.IsChain (HasParent known root)
  stops : ∃ last ∈ a.chain.getLast?, a.ending.Stops known root a.chain last

end Names

namespace Ancestry

variable {declared known : List Object} {root start : String} {o current : Object}
  {chain : List String}

/-! ### The object type itself -/

theorem firstNamed?_cons_of_ne {name : String} (h : o.cname ≠ name) :
    firstNamed? (·.cname) name (o :: declared) = firstNamed? (·.cname) name declared := by
  simp [firstNamed?, h]

/-- The walk does not look up the names that it has met. -/
theorem walk_cons (hmem : o.cname ∈ chain) :
    walk (o :: declared) root chain current = walk declared root chain current := by
  have hne {name : String} (hnew : ¬chain.contains name = true) : o.cname ≠ name := by
    rintro rfl
    exact hnew (List.contains_iff_mem.mpr hmem)
  fun_induction walk declared root chain current with
  | case1 chain current hroot => rw [walk, if_pos hroot]
  | case2 chain current hroot hparent => rw [walk, if_neg hroot, if_pos hparent]
  | case3 chain current hroot hparent hmet => rw [walk, if_neg hroot, if_neg hparent, dif_pos hmet]
  | case4 chain current hroot hparent hnew hnext =>
    rw [walk, if_neg hroot, if_neg hparent, dif_neg hnew, if_pos hnext]
  | case5 chain current hroot hparent hnew hnext hfind =>
    rw [walk, if_neg hroot, if_neg hparent, dif_neg hnew, if_neg hnext]
    rw [← firstNamed?_cons_of_ne (hne hnew)] at hfind
    split
    · rfl
    · rename_i parent hparent'
      rw [hfind] at hparent'
      cases hparent'
  | case6 chain current hroot hparent hnew hnext parent hfind ih =>
    rw [walk, if_neg hroot, if_neg hparent, dif_neg hnew, if_neg hnext]
    rw [← firstNamed?_cons_of_ne (hne hnew)] at hfind
    split
    · rename_i hnone
      rw [hfind] at hnone
      cases hnone
    · rename_i found hfound
      obtain rfl := Option.some.inj (hfind.symm.trans hfound)
      have hmem' : o.cname ∈ chain ++ [current.parent] := List.mem_append_left _ hmem
      refine ih hmem' fun {name} hnew' => ?_
      rintro rfl
      exact hnew' (List.contains_iff_mem.mpr hmem')

theorem walk_ofObject (declared : List Object) (root : String) (o : Object) :
    walk (o :: declared) root [o.cname] o = ofObject declared root o :=
  walk_cons (List.mem_singleton_self _)

/-! ### The names it meets -/

theorem isChain_concat {parent : String} (hlast : chain.getLast? = some current.cname)
    (hchain : chain.IsChain (HasParent known root))
    (hparent : HasParent known root current.cname parent) :
    (chain ++ [parent]).IsChain (HasParent known root) := by
  refine List.isChain_append.mpr ⟨hchain, List.isChain_singleton _, ?_⟩
  intro last hmem next hnext
  rw [hlast] at hmem
  obtain rfl : next = parent := by simpa using hnext.symm
  obtain rfl : current.cname = last := by simpa using hmem
  exact hparent

theorem follows_walk (hhead : chain.head? = some start)
    (hlast : chain.getLast? = some current.cname)
    (hcurrent : firstNamed? (·.cname) current.cname known = some current) (hnodup : chain.Nodup)
    (hchain : chain.IsChain (HasParent known root)) :
    (walk known root chain current).Follows known root start := by
  -- each step appends the parent of the last name, which is a new one
  fun_induction walk known root chain current with
  | case1 chain current hroot => exact ⟨hhead, hnodup, hchain, _, hlast, .root hroot⟩
  | case2 chain current hroot hparent =>
    exact ⟨hhead, hnodup, hchain, _, hlast, .parentless hroot hcurrent hparent⟩
  | case3 chain current hroot hparent hmet =>
    have hnext : HasParent known root current.cname current.parent :=
      ⟨hroot, hparent, current, hcurrent, rfl⟩
    exact ⟨hhead, hnodup, hchain, _, hlast, .cyclic hnext (List.contains_iff_mem.mp hmet)⟩
  | case4 chain current hroot hparent hnew hnext =>
    have hlink : HasParent known root current.cname root :=
      ⟨hroot, hnext ▸ hparent, current, hcurrent, hnext⟩
    refine ⟨?_, nodup_concat hnodup (hnext ▸ hnew), isChain_concat hlast hchain hlink, root, ?_,
      .root rfl⟩
    · rw [List.head?_append, hhead, Option.some_or]
    · rw [List.getLast?_concat]
      rfl
  | case5 chain current hroot hparent hnew hnext hfind =>
    have hlink : HasParent known root current.cname current.parent :=
      ⟨hroot, hparent, current, hcurrent, rfl⟩
    exact ⟨hhead, hnodup, hchain, _, hlast, .unresolved hlink hnext hfind⟩
  | case6 chain current hroot hparent hnew hnext parent hfind ih =>
    have hlink : HasParent known root current.cname current.parent :=
      ⟨hroot, hparent, current, hcurrent, rfl⟩
    have hname : parent.cname = current.parent := (mem_of_firstNamed? hfind).2
    refine ih ?_ ?_ (hname ▸ hfind) (nodup_concat hnodup hnew) (isChain_concat hlast hchain hlink)
    · rw [List.head?_append, hhead, Option.some_or]
    · rw [List.getLast?_concat, hname]

theorem follows_ofObject (declared : List Object) (root : String) (o : Object) :
    (ofObject declared root o).Follows (o :: declared) root o.cname := by
  rw [← walk_ofObject]
  have hself : firstNamed? (·.cname) o.cname (o :: declared) = some o := by simp [firstNamed?]
  exact follows_walk rfl rfl hself (List.nodup_singleton _) (List.isChain_singleton _)

/-! ### How many names it meets -/

theorem mem_names_of_firstNamed? {name : String} (h : firstNamed? (·.cname) name known = some o) :
    name ∈ root :: known.map (·.cname) := by
  obtain ⟨hmem, rfl⟩ := mem_of_firstNamed? h
  exact List.mem_cons_of_mem _ (List.mem_map_of_mem hmem)

theorem mem_names_of_hasParent {name parent : String} (h : HasParent known root name parent) :
    name ∈ root :: known.map (·.cname) := by
  obtain ⟨-, -, o, ho, -⟩ := h
  exact mem_names_of_firstNamed? ho

theorem mem_names_of_stops {last : String} {ending : WalkEnd}
    (h : ending.Stops known root chain last) : last ∈ root :: known.map (·.cname) := by
  cases h with
  | root hroot => exact hroot ▸ List.mem_cons_self
  | parentless _ hlast _ => exact mem_names_of_firstNamed? hlast
  | unresolved hparent _ _ => exact mem_names_of_hasParent hparent
  | cyclic hparent _ => exact mem_names_of_hasParent hparent

theorem Follows.subset {a : Ancestry} (h : a.Follows known root start) :
    a.chain ⊆ root :: known.map (·.cname) := by
  intro name hname
  obtain ⟨before, after, hsplit⟩ := List.append_of_mem hname
  cases after with
  | cons next after =>
    have hchain := h.parents
    rw [hsplit] at hchain
    exact mem_names_of_hasParent (List.isChain_cons_cons.mp (List.isChain_append.mp hchain).2.1).1
  | nil =>
    obtain ⟨last, hlast, hstops⟩ := h.stops
    obtain rfl : name = last := by simpa [hsplit] using hlast
    exact mem_names_of_stops hstops

theorem Follows.length_le {a : Ancestry} (h : a.Follows known root start) :
    a.chain.length ≤ known.length + 1 := by
  have := h.nodup.length_le_of_subset h.subset
  simpa using this

end Ancestry

/-! ### What is told of the walk -/

/-- The warnings that the journal has for a name. -/
def Classified.warnings (c : Classified) : List Record :=
  c.records.filter (·.severity = .warning)

theorem Verdict.ofAncestry_eq_cycle_iff {root : String} {a : Ancestry} {reported : List String} :
    ofAncestry root a = .cycle reported ↔
      ∃ again, a.ending = .cyclic again ∧ reported = a.chain ++ [again] := by
  unfold ofAncestry
  cases a.ending with
  | root => simp
  | parentless => simp
  | unresolved parent => simp
  | cyclic again => simp [eq_comm]

/-- The warning about a parent that is not declared. -/
def unresolvedWarning (cname parent : String) : Record :=
  ⟨.warning, .symbols, "unresolved parent type " ++ parent ++ " of " ++ cname ++
    ", assuming it is not an object type"⟩

theorem Classified.warnings_ofObject (declared : List Object) (root : String) (o : Object) :
    (ofObject declared root o).warnings =
      match (Ancestry.ofObject declared root o).ending with
      | .unresolved parent => [unresolvedWarning o.cname parent]
      | _ => [] := by
  unfold warnings ofObject
  generalize Ancestry.ofObject declared root o = a
  obtain ⟨chain, ending⟩ := a
  cases ending with
  | root => rfl
  | parentless => rfl
  | unresolved parent => rfl
  | cyclic again => rfl

/-- **The walk to the ancestors ends and reports exactly the cycles.** From any object type, over
any declarations and for any root type, the walk meets names without repetition, first the type's
own and then each time the parent of the type before, and stops at the root type, at a type without
a parent, in front of a parent that is not declared, or at one whose name it has met. It does the
last exactly if climbing along parents meets a name twice, and the names that are reported then are
those of the walk and behind them the one it met again. There is one warning if a parent is not
declared, and none otherwise. -/
theorem Classified.ofObject_walks (declared : List Object) (root : String) (o : Object) :
    let a := Ancestry.ofObject declared root o
    let c := Classified.ofObject declared root o
    a.Follows (o :: declared) root o.cname ∧
    a.chain.length ≤ declared.length + 2 ∧
    ((∃ reported, c.verdict = .cycle reported) ↔ o.Revisits (o :: declared) root) ∧
    (∀ reported, c.verdict = .cycle reported →
      ∃ again ∈ a.chain, reported = a.chain ++ [again] ∧ a.ending = .cyclic again) ∧
    (∀ parent, a.ending = .unresolved parent → c.warnings = [unresolvedWarning o.cname parent]) ∧
    ((∀ parent, a.ending ≠ .unresolved parent) → c.warnings = []) := by
  intro a c
  have hfollows : a.Follows (o :: declared) root o.cname :=
    Ancestry.follows_ofObject declared root o
  have hwarnings := Classified.warnings_ofObject declared root o
  refine ⟨hfollows, hfollows.length_le, ?_, fun reported hreported => ?_, fun parent hending => ?_,
    fun hending => ?_⟩
  · have hcyclic : (∃ again, a.ending = .cyclic again) ↔ o.Revisits (o :: declared) root := by
      have hwalk : Ancestry.ofObject (o :: declared) root o = a :=
        Ancestry.walk_ofObject declared root o
      rw [← hwalk]
      exact Ancestry.ofObject_cyclic_iff List.mem_cons_self
    rw [← hcyclic]
    constructor
    · rintro ⟨reported, hreported⟩
      obtain ⟨again, hagain, -⟩ := Verdict.ofAncestry_eq_cycle_iff.mp hreported
      exact ⟨again, hagain⟩
    · rintro ⟨again, hagain⟩
      exact ⟨_, Verdict.ofAncestry_eq_cycle_iff.mpr ⟨again, hagain, rfl⟩⟩
  · obtain ⟨again, hagain, rfl⟩ := Verdict.ofAncestry_eq_cycle_iff.mp hreported
    obtain ⟨last, -, hstops⟩ := hfollows.stops
    rw [hagain] at hstops
    cases hstops with
    | cyclic _ hmem => exact ⟨again, hmem, rfl, hagain⟩
  · rw [hwarnings, hending]
  · rw [hwarnings]
    split
    · rename_i parent hparent
      exact absurd hparent (hending parent)
    · rfl

end BindingGen

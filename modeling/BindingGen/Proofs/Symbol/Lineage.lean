/-
# Lines of descent

An object type descends from the root type if it is the root type, if the root type is its parent,
or if the type it climbs to descends from the root type. The names met on the way are its line.
Where no name is declared twice, a line has no name twice, and the line of a type on it is the part
from that type on. The walk to the ancestors of a type finds its line, and the classification makes
the declarations that have a line object types and no others.

Key definitions: `Object.Descends`, `IsLine`.
Key theorems: `Object.Descends.unique`, `Object.Descends.dropWhile`, `Object.Descends.nodup`,
`Ancestry.walk_eq_of_descends`, `lookup_symbols_object_iff`, `classify_lines_coherent`.
-/
import BindingGen.Proofs.Symbol.Distinct

namespace BindingGen

/-- The object type descends from the root type by way of the names of a list, its own first. -/
inductive Object.Descends (declared : List Object) (root : String) : Object → List String → Prop
  | top {o : Object} (hroot : o.cname = root) : Descends declared root o [root]
  | child {o : Object} (hroot : o.cname ≠ root) (hparent : o.parent ≠ "") (hnext : o.parent = root) :
      Descends declared root o [o.cname, root]
  | climb {o parent : Object} {line : List String} (hclimb : o.Climbs declared root parent)
      (h : Descends declared root parent line) : Descends declared root o (o.cname :: line)

namespace Object

variable {declared : List Object} {root : String} {o b parent : Object} {line other : List String}

theorem Climbs.mem (h : o.Climbs declared root parent) : parent ∈ declared :=
  (mem_of_firstNamed? h.2.2).1

theorem Climbs.cname_eq (h : o.Climbs declared root parent) : parent.cname = o.parent :=
  (mem_of_firstNamed? h.2.2).2

theorem eq_of_cname_eq (hdistinct : (declared.map (·.cname)).Nodup) (ho : o ∈ declared)
    (hb : b ∈ declared) (h : b.cname = o.cname) : b = o :=
  List.inj_on_of_nodup_map hdistinct hb ho h

namespace Descends

theorem exists_cons (h : o.Descends declared root line) : ∃ rest, line = o.cname :: rest := by
  cases h with
  | top hroot => exact ⟨[], by rw [hroot]⟩
  | child _ _ _ => exact ⟨_, rfl⟩
  | climb _ _ => exact ⟨_, rfl⟩

/-- A line ends with the root type and has it at no other place. -/
theorem exists_concat (h : o.Descends declared root line) :
    ∃ below, line = below ++ [root] ∧ root ∉ below := by
  induction h with
  | top _ => exact ⟨[], rfl, List.not_mem_nil⟩
  | @child o hroot _ _ => exact ⟨[o.cname], rfl, by simpa using hroot.symm⟩
  | @climb o _ _ hclimb _ ih =>
    obtain ⟨below, rfl, hbelow⟩ := ih
    exact ⟨o.cname :: below, rfl, List.not_mem_cons_of_ne_of_not_mem hclimb.1.symm hbelow⟩

theorem eq_of_cname_eq_root (h : o.Descends declared root line) (hroot : o.cname = root) :
    line = [root] := by
  cases h with
  | top _ => rfl
  | child hne _ _ => exact absurd hroot hne
  | climb hclimb _ => exact absurd hroot hclimb.1

theorem unique (h : o.Descends declared root line) (hother : o.Descends declared root other) :
    other = line := by
  induction h generalizing other with
  | top hroot => exact hother.eq_of_cname_eq_root hroot
  | child hroot _ hnext =>
    cases hother with
    | top htop => exact absurd htop hroot
    | child _ _ _ => rfl
    | climb hclimb h => rw [h.eq_of_cname_eq_root (hclimb.cname_eq.trans hnext)]
  | climb hclimb h ih =>
    cases hother with
    | top htop => exact absurd htop hclimb.1
    | child _ _ hnext => rw [h.eq_of_cname_eq_root (hclimb.cname_eq.trans hnext)]
    | climb hclimb' h' =>
      obtain rfl := hclimb.unique hclimb'
      rw [ih h']

section Distinct

variable (hdistinct : (declared.map (·.cname)).Nodup)
include hdistinct

/-- The line of a type on a line is the part from that type on. -/
theorem dropWhile (h : o.Descends declared root line) (ho : o ∈ declared) (hb : b ∈ declared)
    (hmem : b.cname ∈ line) :
    b.Descends declared root (line.dropWhile fun name => name != b.cname) := by
  -- up to the type itself the line goes on to the parent's
  induction h with
  | @top o hroot =>
    have hname : b.cname = root := by simpa using hmem
    rw [List.dropWhile_cons_of_neg (by simp [hname])]
    exact .top hname
  | @child o hroot hparent hnext =>
    by_cases hname : b.cname = o.cname
    · obtain rfl := eq_of_cname_eq hdistinct ho hb hname
      rw [List.dropWhile_cons_of_neg (by simp)]
      exact .child hroot hparent hnext
    · have htop : b.cname = root := by simpa [hname] using hmem
      rw [List.dropWhile_cons_of_pos (by simpa using Ne.symm hname),
        List.dropWhile_cons_of_neg (by simp [htop])]
      exact .top htop
  | @climb o parent line hclimb h ih =>
    by_cases hname : b.cname = o.cname
    · obtain rfl := eq_of_cname_eq hdistinct ho hb hname
      rw [List.dropWhile_cons_of_neg (by simp)]
      exact .climb hclimb h
    · rw [List.dropWhile_cons_of_pos (by simpa using Ne.symm hname)]
      exact ih hclimb.mem (List.mem_of_ne_of_mem hname hmem)

theorem nodup (h : o.Descends declared root line) (ho : o ∈ declared) : line.Nodup := by
  induction h with
  | top _ => exact List.nodup_singleton _
  | child hroot _ _ => simpa using hroot
  | @climb o parent line hclimb h ih =>
    refine List.nodup_cons.mpr ⟨fun hmem => ?_, ih hclimb.mem⟩
    -- otherwise the type's line would be a part of its parent's, which is shorter
    have hpart := h.dropWhile hdistinct hclimb.mem ho hmem
    have hlength : (line.dropWhile fun name => name != o.cname).length ≤ line.length :=
      (List.dropWhile_sublist _).length_le
    rw [(Descends.climb hclimb h).unique hpart, List.length_cons] at hlength
    omega

end Distinct
end Descends
end Object

/-! ### The walk -/

namespace Ancestry

variable {declared : List Object} {root : String} {o current : Object}
  {line before chain : List String}

theorem not_mem_of_nodup_append_cons {name : String} {rest : List String}
    (h : (before ++ name :: rest).Nodup) : name ∉ before :=
  fun hmem => (List.nodup_cons.mp (List.nodup_middle.mp h)).1 (List.mem_append_left _ hmem)

/-- The walk takes each climb to a new name that is not the root type's. -/
theorem walk_of_climbs {parent : Object} (h : o.Climbs declared root parent)
    (hnew : o.parent ∉ chain) (hnext : o.parent ≠ root) :
    walk declared root chain o = walk declared root (chain ++ [o.parent]) parent := by
  rw [walk, if_neg h.1, if_neg h.2.1, dif_neg (by simpa using hnew), if_neg hnext]
  split
  · rename_i hnone
    cases h.2.2.symm.trans hnone
  · rename_i found hfound
    obtain rfl := Option.some.inj (h.2.2.symm.trans hfound)
    rfl

theorem walk_of_parent_eq_root (hroot : o.cname ≠ root) (hparent : o.parent ≠ "")
    (hnext : o.parent = root) (hnew : root ∉ chain) :
    walk declared root chain o = ⟨chain ++ [root], .root⟩ := by
  rw [walk, if_neg hroot, if_neg hparent, hnext, dif_neg (by simpa using hnew), if_pos rfl]

theorem walk_eq_of_descends (h : o.Descends declared root line) (hnodup : (before ++ line).Nodup) :
    walk declared root (before ++ [o.cname]) o = ⟨before ++ line, .root⟩ := by
  induction h generalizing before with
  | top hroot => rw [walk, if_pos hroot, hroot]
  | @child o hroot hparent hnext =>
    rw [List.append_cons before o.cname [root]] at hnodup ⊢
    exact walk_of_parent_eq_root hroot hparent hnext (not_mem_of_nodup_append_cons hnodup)
  | @climb o parent line hclimb h ih =>
    rw [List.append_cons before o.cname line] at hnodup ⊢
    have hwalk := ih hnodup
    obtain ⟨rest, rfl⟩ := h.exists_cons
    have hnew := not_mem_of_nodup_append_cons hnodup
    rw [hclimb.cname_eq] at hwalk hnew
    by_cases hnext : o.parent = root
    · -- the root type is declared, and the walk ends in front of its declaration
      rw [h.eq_of_cname_eq_root (hclimb.cname_eq.trans hnext)]
      exact walk_of_parent_eq_root hclimb.1 hclimb.2.1 hnext (hnext ▸ hnew)
    · rw [walk_of_climbs hclimb hnew hnext, hwalk, hclimb.cname_eq]

theorem exists_descends_of_walk (hchain : chain = before ++ [current.cname])
    (hend : (walk declared root chain current).ending = .root) :
    ∃ line, current.Descends declared root line ∧
      (walk declared root chain current).chain = before ++ line := by
  fun_induction walk declared root chain current generalizing before with
  | case1 chain current hroot => exact ⟨[root], .top hroot, hroot ▸ hchain⟩
  | case2 | case3 | case5 => cases hend
  | case4 chain current hroot hparent hnew hnext =>
    exact ⟨_, .child hroot hparent hnext, by rw [hchain, ← List.append_cons]⟩
  | case6 chain current hroot hparent hnew hnext parent hfind ih =>
    have hclimb : current.Climbs declared root parent := ⟨hroot, hparent, hfind⟩
    obtain ⟨line, hline, hwalk⟩ := ih (by rw [hclimb.cname_eq]) hend
    exact ⟨_, .climb hclimb hline, by rw [hwalk, hchain, ← List.append_cons]⟩

theorem ending_eq_root_of_mem (hfirst : root ∈ chain → current.cname = root)
    (hmem : root ∈ (walk declared root chain current).chain) :
    (walk declared root chain current).ending = .root := by
  fun_induction walk declared root chain current with
  | case1 => rfl
  | case2 _ _ hroot => exact absurd (hfirst hmem) hroot
  | case3 _ _ hroot => exact absurd (hfirst hmem) hroot
  | case4 => rfl
  | case5 _ _ hroot => exact absurd (hfirst hmem) hroot
  | case6 chain current hroot _ _ hnext _ _ ih =>
    refine ih (fun hmem => ?_) hmem
    rcases List.mem_append.mp hmem with hold | hlast
    · exact absurd (hfirst hold) hroot
    · exact absurd (List.mem_singleton.mp hlast).symm hnext

/-- The walk of a type meets the root type only at its end. -/
theorem ofObject_ending_of_mem (hmem : root ∈ (ofObject declared root o).chain) :
    (ofObject declared root o).ending = .root :=
  ending_eq_root_of_mem (fun h => (List.mem_singleton.mp h).symm) hmem

theorem descends_of_ofObject (hend : (ofObject declared root o).ending = .root) :
    o.Descends declared root (ofObject declared root o).chain := by
  have hchain : [o.cname] = [] ++ [o.cname] := rfl
  obtain ⟨line, hline, hwalk⟩ := exists_descends_of_walk hchain hend
  exact hwalk ▸ hline

theorem ofObject_eq_of_descends (hdistinct : (declared.map (·.cname)).Nodup) (ho : o ∈ declared)
    (h : o.Descends declared root line) : ofObject declared root o = ⟨line, .root⟩ := by
  have hnodup : ([] ++ line).Nodup := h.nodup hdistinct ho
  exact walk_eq_of_descends h hnodup

end Ancestry

/-! ### Object types -/

theorem Verdict.ofAncestry_eq_object {root : String} {a : Ancestry} {line : List String}
    (h : ofAncestry root a = .symbol (.object line)) : root ∈ a.chain ∧ a.chain = line := by
  unfold ofAncestry at h
  split at h
  · cases h
  · split_ifs at h with hmem
    · exact ⟨hmem, by simpa using h⟩
    · cases h

/-- A declaration is an object type exactly if it has a line, and the line is what it carries. -/
theorem Classified.verdict_ofObject_object_iff {declared : List Object} {root : String} {o : Object}
    {line : List String} (hdistinct : (declared.map (·.cname)).Nodup) (ho : o ∈ declared) :
    (ofObject declared root o).verdict = .symbol (.object line) ↔
      o.Descends declared root line := by
  constructor
  · intro hverdict
    obtain ⟨hmem, rfl⟩ := Verdict.ofAncestry_eq_object hverdict
    exact Ancestry.descends_of_ofObject (Ancestry.ofObject_ending_of_mem hmem)
  · intro h
    obtain ⟨below, rfl, -⟩ := h.exists_concat
    have hwalk := Ancestry.ofObject_eq_of_descends hdistinct ho h
    show Verdict.ofAncestry root (Ancestry.ofObject declared root o) = _
    rw [hwalk]
    simp [Verdict.ofAncestry]

/-- The object types of the table are the declarations that descend from the root type. -/
theorem lookup_symbols_object_iff {settings : Settings} {api : Api} {name : String}
    {line : List String} (hdistinct : api.cnames.Nodup)
    (h : (classify settings true api).fault? = none) :
    (classify settings true api).symbols.lookup name = some (.object line) ↔
      ∃ o ∈ api.declared, o.cname = name ∧ o.Descends api.declared settings.rootType line := by
  have hverdict : ∀ o ∈ api.declared,
      (Classified.ofObject api.declared settings.rootType o).verdict = .symbol (.object line) ↔
        o.Descends api.declared settings.rootType line :=
    fun _ => Classified.verdict_ofObject_object_iff (Api.nodup_declared hdistinct)
  rw [lookup_symbols_iff hdistinct h]
  constructor
  · rintro ⟨c, hc, rfl, hobject⟩
    obtain ⟨o, ho, rfl⟩ := Classified.exists_object_of_verdict hc hobject
    exact ⟨o, ho, rfl, (hverdict o ho).mp hobject⟩
  · rintro ⟨o, ho, rfl, hline⟩
    exact ⟨_, Classified.ofObject_mem_ofApi ho, rfl, (hverdict o ho).mpr hline⟩

/-- The names from a name up to the root type. -/
structure IsLine (root name : String) (line : List String) : Prop where
  nodup : line.Nodup
  head : line.head? = some name
  root_last : ∃ below, line = below ++ [root] ∧ root ∉ below

theorem Object.Descends.isLine {declared : List Object} {root : String} {o : Object}
    {line : List String} (hdistinct : (declared.map (·.cname)).Nodup) (ho : o ∈ declared)
    (h : o.Descends declared root line) : IsLine root o.cname line := by
  refine ⟨h.nodup hdistinct ho, ?_, h.exists_concat⟩
  obtain ⟨rest, rfl⟩ := h.exists_cons
  rfl

/-- **Lines of descent are coherent.** If no C name of a library is declared twice, and its
classification comes to its end, as it does if its types are of known kinds, then the list that an
object type of the table carries leads from the type's name to the root type, no name twice. A
declared type on the list is an object type of the table, too, and carries the part of the list that
starts at it: whatever it descends from, the lower type descends from. Conversely, a declared type
whose walk meets the root type descends from it, and one that descends from it is an object type of
the table that carries the line of its descent. -/
theorem classify_lines_coherent (settings : Settings) {api : Api} (hdistinct : api.cnames.Nodup) :
    (api.IsKnown → (classify settings true api).fault? = none) ∧
    ((classify settings true api).fault? = none →
      (∀ name line, (classify settings true api).symbols.lookup name = some (.object line) →
        IsLine settings.rootType name line ∧
        (∀ b ∈ api.declared, b.cname ∈ line →
          (classify settings true api).symbols.lookup b.cname =
            some (.object (line.dropWhile fun other => other != b.cname))) ∧
        ∀ above upper, above ∈ line →
          (classify settings true api).symbols.lookup above = some (.object upper) →
          upper ⊆ line) ∧
      (∀ o ∈ api.declared,
        settings.rootType ∈ (Ancestry.ofObject api.declared settings.rootType o).chain →
        ∃ line, o.Descends api.declared settings.rootType line) ∧
      ∀ o ∈ api.declared, ∀ line, o.Descends api.declared settings.rootType line →
        (classify settings true api).symbols.lookup o.cname = some (.object line)) := by
  have hdeclared := Api.nodup_declared hdistinct
  refine ⟨fault?_classify, fun hnone => ⟨fun name line hname => ?_, fun o ho hmem => ?_,
    fun o ho line hline => ?_⟩⟩
  · obtain ⟨o, ho, rfl, hline⟩ := (lookup_symbols_object_iff hdistinct hnone).mp hname
    have hpart : ∀ b ∈ api.declared, b.cname ∈ line →
        (classify settings true api).symbols.lookup b.cname =
          some (.object (line.dropWhile fun other => other != b.cname)) := fun b hb hmem =>
      (lookup_symbols_object_iff hdistinct hnone).mpr
        ⟨b, hb, rfl, hline.dropWhile hdeclared ho hb hmem⟩
    refine ⟨hline.isLine hdeclared ho, hpart, fun above upper hmem habove => ?_⟩
    obtain ⟨b, hb, rfl, -⟩ := (lookup_symbols_object_iff hdistinct hnone).mp habove
    obtain rfl : upper = _ := CSymbol.object.inj (Option.some.inj
      (habove.symm.trans (hpart b hb hmem)))
    exact List.dropWhile_subset _
  · exact ⟨_, Ancestry.descends_of_ofObject (Ancestry.ofObject_ending_of_mem hmem)⟩
  · exact (lookup_symbols_object_iff hdistinct hnone).mpr ⟨o, ho, rfl, hline⟩

/-- A button whose line goes on in another namespace, where the root type is declared, and two types
that are each other's parent. -/
def buttonApi : Api := [
  { name := "Gtk"
    objects := [{ name := "Button", cname := "GtkButton", parent := "GtkBin" },
      { name := "Ring", cname := "GtkRing", parent := "GtkHoop" },
      { name := "Bin", cname := "GtkBin", parent := "GInitiallyUnowned" },
      { name := "Hoop", cname := "GtkHoop", parent := "GtkRing" }] },
  { name := "GObject"
    objects := [{ name := "Object", cname := "GObject" },
      { name := "InitiallyUnowned", cname := "GInitiallyUnowned", parent := "GObject" }] }]

/-- The bin carries the part of the button's line that starts at the bin. -/
theorem classify_lines_coherent_buttonApi :
    buttonApi.cnames.Nodup ∧ (classify {} true buttonApi).fault? = none ∧
    (classify {} true buttonApi).symbols.lookup "GtkButton" =
      some (.object ["GtkButton", "GtkBin", "GInitiallyUnowned", "GObject"]) ∧
    IsLine "GObject" "GtkButton" ["GtkButton", "GtkBin", "GInitiallyUnowned", "GObject"] ∧
    (classify {} true buttonApi).symbols.lookup "GtkBin" =
      some (.object ["GtkBin", "GInitiallyUnowned", "GObject"]) := by
  have hdistinct : buttonApi.cnames.Nodup := by decide
  have hknown : buttonApi.IsKnown := by decide
  obtain ⟨hends, hcoherent⟩ := classify_lines_coherent {} hdistinct
  have hnone := hends hknown
  obtain ⟨hlines, -, -⟩ := hcoherent hnone
  have hbutton : (classify {} true buttonApi).symbols.lookup "GtkButton" =
      some (.object ["GtkButton", "GtkBin", "GInitiallyUnowned", "GObject"]) := by
    decide +kernel
  obtain ⟨hline, hpart, -⟩ := hlines _ _ hbutton
  have hbin : { name := "Bin", cname := "GtkBin", parent := "GInitiallyUnowned" } ∈
      buttonApi.declared := by
    decide
  exact ⟨hdistinct, hnone, hbutton, hline, hpart _ hbin (by decide)⟩

end BindingGen

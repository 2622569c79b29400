/-
# The order of declarations

The namespaces of a library may come in another order, and so may the declarations inside each of
them. Where no C name is declared twice, this changes nothing: an object climbs to the declaration
of its parent's name wherever that stands, so that every declaration gets the same verdict, and a
name has one verdict only. Two orders of a library have the same symbols, the same names that fail,
and the same cycles.

Key definitions: `ReorderedBy`, `Enumeration.Reordered`, `Namespace.Reordered`, `Api.Reordered`.
Key theorems: `Classified.ofApi_perm`, `classify_reordered`.
-/
import BindingGen.Proofs.Symbol.Distinct
import BindingGen.Proofs.Symbol.Outline

namespace BindingGen

/-! ### Two orders of a library -/

/-- The members of one list, each replaced by a related one, are those of the other in some
order. -/
def ReorderedBy {α : Type} (R : α → α → Prop) (l l' : List α) : Prop :=
  ∃ middle, l.Perm middle ∧ List.Forall₂ R middle l'

/-- The same enumeration with its constants in some order. -/
structure Enumeration.Reordered (e e' : Enumeration) : Prop where
  cname : e.cname = e'.cname
  variety : e.variety = e'.variety
  members : e.members.Perm e'.members

/-- The same declarations in some order. -/
structure Namespace.Reordered (ns ns' : Namespace) : Prop where
  enums : ReorderedBy Enumeration.Reordered ns.enums ns'.enums
  objects : ns.objects.Perm ns'.objects
  misc : ns.misc.Perm ns'.misc

/-- The same namespaces in some order, each with the same declarations in some order. -/
def Api.Reordered (api api' : Api) : Prop := ReorderedBy Namespace.Reordered api api'

section ReorderedBy

variable {α β : Type} {R : α → α → Prop} {l l' : List α}

/-- What related members have in some order, the lists have in some order. -/
theorem ReorderedBy.flatMap_perm (h : ReorderedBy R l l') {f g : α → List β}
    (hfg : ∀ a b, R a b → (f a).Perm (g b)) : (l.flatMap f).Perm (l'.flatMap g) := by
  obtain ⟨middle, hperm, hrelated⟩ := h
  refine (hperm.flatMap_right f).trans ?_
  clear hperm
  induction hrelated with
  | nil => exact List.Perm.nil
  | cons hab _ ih =>
    rw [List.flatMap_cons, List.flatMap_cons]
    exact (hfg _ _ hab).append ih

theorem ReorderedBy.map_perm (h : ReorderedBy R l l') {f g : α → β}
    (hfg : ∀ a b, R a b → f a = g b) : (l.map f).Perm (l'.map g) := by
  obtain ⟨middle, hperm, hrelated⟩ := h
  rw [map_eq_of_forall₂ hrelated fun a b hab => (hfg a b hab).symm]
  exact hperm.map f

end ReorderedBy

/-! ### Verdicts -/

theorem Api.declared_perm {api api' : Api} (h : api.Reordered api') :
    api.declared.Perm api'.declared :=
  h.flatMap_perm fun _ _ hns => hns.objects

namespace Classified

theorem ofNamespace_perm {declared declared' : List Object} {root : String}
    (hobject : ∀ o, ofObject declared' root o = ofObject declared root o) {ns ns' : Namespace}
    (h : ns.Reordered ns') :
    (ofNamespace declared root ns).Perm (ofNamespace declared' root ns') := by
  unfold ofNamespace
  refine ((List.Perm.append ?_ ?_).append ?_).append ?_
  · refine h.enums.map_perm fun e e' he => ?_
    rw [he.cname, he.variety]
  · rw [List.map_congr_left fun o _ => hobject o]
    exact h.objects.map _
  · exact (h.enums.flatMap_perm fun e e' he => he.members).map _
  · exact h.misc.map _

theorem ofApi_perm {api api' : Api} (hdistinct : api.cnames.Nodup) (h : api.Reordered api')
    (root : String) : (ofApi api root).Perm (ofApi api' root) := by
  have hfind : ∀ name, firstNamed? (·.cname) name api'.declared =
      (firstNamed? (·.cname) name api.declared).map id := by
    intro name
    rw [Option.map_id_fun, id]
    exact firstNamed?_perm (Api.nodup_declared hdistinct) (Api.declared_perm h) name
  have hobject : ∀ o, ofObject api'.declared root o = ofObject api.declared root o :=
    ofObject_map (f := id) (fun _ => rfl) (fun _ => rfl) hfind root
  exact h.flatMap_perm fun ns ns' hns => ofNamespace_perm hobject hns

end Classified

/-! ### Tables -/

theorem Api.nodup_cnames_of_reordered {api api' : Api} (hdistinct : api.cnames.Nodup)
    (h : api.Reordered api') : api'.cnames.Nodup := by
  have hperm := (Classified.ofApi_perm hdistinct h "").map (·.cname)
  rw [Classified.names_ofApi, Classified.names_ofApi] at hperm
  exact hperm.nodup_iff.mp hdistinct

/-- **The order of declarations does not matter.** If no C name of a library is declared twice,
another order of the library is classified exactly if the library is, which it is if its types are
of known kinds. The tables then agree on every name: it has the same symbol in both, and fails with
the same cycle. -/
theorem classify_reordered (settings : Settings) {api api' : Api} (hdistinct : api.cnames.Nodup)
    (h : api.Reordered api') :
    ((classify settings true api).fault? = none ↔ (classify settings true api').fault? = none) ∧
    (api.IsKnown → (classify settings true api).fault? = none) ∧
    ((classify settings true api).fault? = none → ∀ name,
      (classify settings true api').symbols.lookup name =
        (classify settings true api).symbols.lookup name ∧
      (classify settings true api').failures.lookup name =
        (classify settings true api).failures.lookup name) := by
  have hperm := Classified.ofApi_perm hdistinct h settings.rootType
  have hdistinct' := Api.nodup_cnames_of_reordered hdistinct h
  have hfault : (classify settings true api).fault? = none ↔
      (classify settings true api').fault? = none := by
    unfold classify
    simp only [List.findSome?_eq_none_iff, hperm.mem_iff]
  refine ⟨hfault, fault?_classify, fun hnone name => ⟨?_, ?_⟩⟩
  · ext symbol
    rw [lookup_symbols_iff hdistinct' (hfault.mp hnone), lookup_symbols_iff hdistinct hnone]
    simp only [hperm.mem_iff]
  · ext chain : 1
    rw [lookup_failures_eq_some_iff hdistinct' (hfault.mp hnone),
      lookup_failures_eq_some_iff hdistinct hnone]
    simp only [hperm.mem_iff]

/-- Windows that descend from the root by way of another namespace, two types that are each other's
parent, and an enumeration. -/
def harbourApi : Api := [
  { name := "Gtk"
    objects := [{ name := "Window", cname := "GtkWindow", parent := "BaseFrame" },
      { name := "Ring", cname := "GtkRing", parent := "BaseHoop" }]
    enums := [{ name := "Side", cname := "GtkSide"
                members := [{ name := "Left", cname := "GTK_SIDE_LEFT" },
                  { name := "Right", cname := "GTK_SIDE_RIGHT" }] }] },
  { name := "Base"
    objects := [{ name := "Frame", cname := "BaseFrame", parent := "GObject" },
      { name := "Hoop", cname := "BaseHoop", parent := "GtkRing" }]
    misc := [{ kind := .boxed, name := "Rope", cname := "BaseRope" }] }]

/-- The same library, where parents are declared before windows and the ring comes first. -/
def harbourApiAfloat : Api := [
  { name := "Base"
    objects := [{ name := "Frame", cname := "BaseFrame", parent := "GObject" },
      { name := "Hoop", cname := "BaseHoop", parent := "GtkRing" }]
    misc := [{ kind := .boxed, name := "Rope", cname := "BaseRope" }] },
  { name := "Gtk"
    objects := [{ name := "Ring", cname := "GtkRing", parent := "BaseHoop" },
      { name := "Window", cname := "GtkWindow", parent := "BaseFrame" }]
    enums := [{ name := "Side", cname := "GtkSide"
                members := [{ name := "Right", cname := "GTK_SIDE_RIGHT" },
                  { name := "Left", cname := "GTK_SIDE_LEFT" }] }] }]

/-- The window keeps its ancestors and the ring its cycle. -/
theorem classify_reordered_harbourApi :
    harbourApi.cnames.Nodup ∧ harbourApi.Reordered harbourApiAfloat ∧
    (classify {} true harbourApi).fault? = none ∧
    (classify {} true harbourApiAfloat).symbols.lookup "GtkWindow" =
      some (.object ["GtkWindow", "BaseFrame", "GObject"]) ∧
    (classify {} true harbourApiAfloat).failures.lookup "GtkRing" =
      some ["GtkRing", "BaseHoop", "GtkRing"] := by
  have hdistinct : harbourApi.cnames.Nodup := by decide
  have hbase : Namespace.Reordered harbourApi[1] harbourApiAfloat[0] :=
    ⟨⟨[], .nil, .nil⟩, .refl _, .refl _⟩
  have hside : Enumeration.Reordered harbourApi[0].enums[0] harbourApiAfloat[1].enums[0] :=
    ⟨rfl, rfl, .swap _ _ _⟩
  have hgtk : Namespace.Reordered harbourApi[0] harbourApiAfloat[1] :=
    ⟨⟨_, .refl _, .cons hside .nil⟩, .swap _ _ _, .refl _⟩
  have hreordered : harbourApi.Reordered harbourApiAfloat :=
    ⟨_, .swap _ _ _, .cons hbase (.cons hgtk .nil)⟩
  obtain ⟨-, hknown, hagree⟩ := classify_reordered {} hdistinct hreordered
  have hnone := hknown (by decide)
  refine ⟨hdistinct, hreordered, hnone, ?_, ?_⟩
  · rw [(hagree hnone _).1]
    decide +kernel
  · rw [(hagree hnone _).2]
    decide +kernel

end BindingGen

/-
# Known prefixes

Of the known prefixes behind which a name goes on with an upper-case letter, the name drops the
longest. Two prefixes of one name and one length are the same, so that what is left depends on the
set of the known prefixes only: on neither their order nor their repetitions. Whoever goes through
them from the longest down and drops the first that can be dropped is left with the same.

Key definitions: `Drops`, `IsLeft`, `dropFirst`.
Key theorems: `dropKnown_eq_iff`, `dropFirst_mergeSort`, `dropKnown_told_by_members`.
-/
import BindingGen.Name

namespace BindingGen.Name

open Text

/-- The name is the prefix with `rest` behind it, which starts with an upper-case letter. -/
structure Drops (name start rest : String) : Prop where
  eq_append : name = start ++ rest
  upper : ∃ c ∈ rest.toList.head?, isUpper c = true

/-- What is left of a name: what stands behind the longest of the known prefixes that it drops, or
the whole name if it drops none. -/
inductive IsLeft (known : List String) (name : String) : String → Prop
  | behind {start rest : String} (hknown : start ∈ known) (hdrops : Drops name start rest)
      (hlongest : ∀ other ∈ known, ∀ left, Drops name other left → other.length ≤ start.length) :
      IsLeft known name rest
  | whole (hnone : ∀ start ∈ known, ∀ rest, ¬Drops name start rest) : IsLeft known name name

variable {known other : List String} {name start rest left : String}

/-! ### One prefix -/

/-- What is left of a name behind `n` characters. -/
def behind (n : Nat) (name : String) : String := String.ofList (name.toList.drop n)

theorem canDrop_iff : canDrop name start = true ↔ Drops name start (behind start.length name) := by
  have hhead : (name.toList.drop start.length).head?.any isUpper = true ↔
      ∃ c ∈ (behind start.length name).toList.head?, isUpper c = true := by
    rw [behind, String.toList_ofList, Option.any_eq_true]
    rfl
  rw [canDrop, Bool.and_eq_true, hhead, startsWith, List.isPrefixOf_iff_prefix]
  constructor
  · rintro ⟨⟨tail, htail⟩, hupper⟩
    refine ⟨String.toList_inj.mp ?_, hupper⟩
    rw [behind, String.toList_append, String.toList_ofList, ← htail, ← String.length_toList,
      List.drop_left]
  · intro h
    refine ⟨⟨(behind start.length name).toList, ?_⟩, h.upper⟩
    rw [← String.toList_append, ← h.eq_append]

theorem Drops.eq_behind (h : Drops name start rest) : rest = behind start.length name := by
  refine String.toList_inj.mp ?_
  rw [behind, String.toList_ofList, h.eq_append, String.toList_append, ← String.length_toList,
    List.drop_left]

theorem Drops.canDrop (h : Drops name start rest) : canDrop name start = true :=
  canDrop_iff.mpr (h.eq_behind ▸ h)

/-! ### The longest prefix -/

theorem droppedLength_cons (start : String) (known : List String) (name : String) :
    droppedLength (start :: known) name =
      if canDrop name start then max start.length (droppedLength known name)
      else droppedLength known name := by
  by_cases h : canDrop name start = true
  · rw [if_pos h, droppedLength, List.filter_cons_of_pos h]
    rfl
  · rw [if_neg h, droppedLength, List.filter_cons_of_neg h]
    rfl

theorem length_le_droppedLength (hknown : start ∈ known) (h : canDrop name start = true) :
    start.length ≤ droppedLength known name := by
  induction known with
  | nil => cases hknown
  | cons first known ih =>
    rw [droppedLength_cons]
    rcases List.mem_cons.mp hknown with rfl | hknown
    · rw [if_pos h]
      omega
    · have := ih hknown
      split <;> omega

theorem droppedLength_cases (known : List String) (name : String) :
    (∃ start ∈ known, canDrop name start = true ∧ start.length = droppedLength known name) ∨
      (∀ start ∈ known, canDrop name start = false) ∧ droppedLength known name = 0 := by
  induction known with
  | nil => exact .inr ⟨by simp, rfl⟩
  | cons first known ih =>
    rw [droppedLength_cons]
    by_cases hfirst : canDrop name first = true
    · rw [if_pos hfirst]
      by_cases hlong : droppedLength known name ≤ first.length
      · exact .inl ⟨first, List.mem_cons_self, hfirst, by omega⟩
      · obtain ⟨start, hknown, hcan, hlength⟩ | ⟨-, hzero⟩ := ih
        · exact .inl ⟨start, List.mem_cons_of_mem _ hknown, hcan, by omega⟩
        · omega
    · rw [if_neg hfirst]
      rcases ih with ⟨start, hknown, hcan, hlength⟩ | ⟨hnone, hzero⟩
      · exact .inl ⟨start, List.mem_cons_of_mem _ hknown, hcan, hlength⟩
      · exact .inr ⟨List.forall_mem_cons.mpr ⟨by simpa using hfirst, hnone⟩, hzero⟩

theorem isLeft_dropKnown (known : List String) (name : String) :
    IsLeft known name (dropKnown known name) := by
  have hbehind : dropKnown known name = behind (droppedLength known name) name := rfl
  rcases droppedLength_cases known name with ⟨start, hknown, hcan, hlength⟩ | ⟨hnone, hzero⟩
  · rw [hbehind, ← hlength]
    refine .behind hknown (canDrop_iff.mp hcan) fun other hother left h => ?_
    have := length_le_droppedLength hother h.canDrop
    omega
  · have hwhole : dropKnown known name = name := by
      rw [hbehind, hzero, behind, List.drop_zero, String.ofList_toList]
    rw [hwhole]
    refine .whole fun start hknown rest h => ?_
    have hcannot := hnone start hknown
    rw [h.canDrop] at hcannot
    cases hcannot

/-- One text is left of a name: the longest prefixes that it drops are of one length. -/
theorem IsLeft.unique (h : IsLeft known name rest) (hleft : IsLeft known name left) :
    left = rest := by
  cases h with
  | @behind start rest hknown hdrops hlongest =>
    cases hleft with
    | @behind start' left hknown' hdrops' hlongest' =>
      have hle := hlongest start' hknown' left hdrops'
      have hge := hlongest' start hknown rest hdrops
      rw [hdrops.eq_behind, hdrops'.eq_behind, Nat.le_antisymm hle hge]
    | whole hnone => exact absurd hdrops (hnone start hknown rest)
  | whole hnone =>
    cases hleft with
    | @behind start left hknown hdrops _ => exact absurd hdrops (hnone start hknown left)
    | whole _ => rfl

theorem dropKnown_eq_iff : dropKnown known name = rest ↔ IsLeft known name rest :=
  ⟨fun h => h ▸ isLeft_dropKnown known name, fun h => h.unique (isLeft_dropKnown known name)⟩

theorem IsLeft.of_mem_iff (h : IsLeft known name rest)
    (hsame : ∀ start, start ∈ known ↔ start ∈ other) : IsLeft other name rest := by
  cases h with
  | @behind start rest hknown hdrops hlongest =>
    refine .behind ((hsame start).mp hknown) hdrops fun start' hstart' => ?_
    exact hlongest start' ((hsame start').mpr hstart')
  | whole hnone => exact .whole fun start hstart => hnone start ((hsame start).mpr hstart)

/-! ### Going through the prefixes -/

/-- A name without the first of the prefixes that it can drop. -/
def dropFirst (prefixes : List String) (name : String) : String :=
  match prefixes.find? (canDrop name) with
  | some start => behind start.length name
  | none => name

/-- Where no prefix is longer than one in front of it, the first is the longest. -/
theorem dropFirst_eq_dropKnown (hfalling : known.Pairwise fun a b => b.length ≤ a.length) :
    dropFirst known name = dropKnown known name := by
  refine (dropKnown_eq_iff.mpr ?_).symm
  unfold dropFirst
  split
  · rename_i start hfind
    obtain ⟨hcan, before, after, rfl, hbefore⟩ := List.find?_eq_some_iff_append.mp hfind
    refine .behind (by simp) (canDrop_iff.mp hcan) fun other hother left h => ?_
    rcases List.mem_append.mp hother with hother | hother
    · -- what comes earlier cannot be dropped
      have := hbefore other hother
      rw [h.canDrop] at this
      cases this
    · rcases List.mem_cons.mp hother with rfl | hother
      · exact Nat.le_refl _
      · exact (List.pairwise_cons.mp (List.pairwise_append.mp hfalling).2.1).1 other hother
  · rename_i hfind
    refine .whole fun start hknown rest h => ?_
    exact List.find?_eq_none.mp hfind start hknown h.canDrop

/-- Going through the prefixes from the longest down leaves the same. -/
theorem dropFirst_mergeSort (known : List String) (name : String) :
    dropFirst (known.mergeSort fun a b => b.length ≤ a.length) name = dropKnown known name := by
  have hfalling : (known.mergeSort fun a b => b.length ≤ a.length).Pairwise
      fun a b => b.length ≤ a.length := by
    refine (List.pairwise_mergeSort ?_ ?_ known).imp of_decide_eq_true
    · intro a b c hab hbc
      rw [decide_eq_true_eq] at hab hbc ⊢
      omega
    · intro a b
      rw [Bool.or_eq_true, decide_eq_true_eq, decide_eq_true_eq]
      omega
  rw [dropFirst_eq_dropKnown hfalling, dropKnown_eq_iff]
  refine (isLeft_dropKnown known name).of_mem_iff fun start => ?_
  exact (List.mergeSort_perm known _).mem_iff.symm

/-! ### Names -/

/-- **What names drop depends on the set of the known prefixes.** Going through the known prefixes
from the longest down and dropping the first that can be dropped leaves of a name what stands behind
the longest prefix that an upper-case letter follows, or the whole name if there is none. Two lists
of the same prefixes, in any order and with any repetitions, leave the same of every name and give
all functions, types and constants the same Haskell names. -/
theorem dropKnown_told_by_members (hsame : ∀ start, start ∈ known ↔ start ∈ other) :
    (∀ name, dropKnown other name = dropKnown known name ∧
      dropFirst (known.mergeSort fun a b => b.length ≤ a.length) name = dropKnown known name ∧
      ∀ rest, dropKnown known name = rest ↔ IsLeft known name rest) ∧
    ∀ (settings : Settings) (cname : String),
      ofFunction { settings with knownPrefixes := other } cname =
        ofFunction { settings with knownPrefixes := known } cname ∧
      ofType { settings with knownPrefixes := other } cname =
        ofType { settings with knownPrefixes := known } cname ∧
      ofConstant { settings with knownPrefixes := other } cname =
        ofConstant { settings with knownPrefixes := known } cname := by
  have hdrop : ∀ name, dropKnown other name = dropKnown known name := fun name =>
    dropKnown_eq_iff.mpr ((isLeft_dropKnown known name).of_mem_iff hsame)
  refine ⟨fun name => ⟨hdrop name, dropFirst_mergeSort known name, fun rest => dropKnown_eq_iff⟩,
    fun settings cname => ⟨?_, ?_, ?_⟩⟩
  · exact congrArg lowerFirst (hdrop _)
  · unfold ofType
    rw [hdrop]
  · exact hdrop _

/-- The longest of these prefixes of a widget's name ends within a word, so that the next longest is
dropped. -/
theorem dropKnown_told_by_members_widget :
    (∀ start, start ∈ ["G", "GtkWi", "Gtk"] ↔ start ∈ ["Gtk", "GtkWi", "G", "Gtk"]) ∧
      dropKnown ["Gtk", "GtkWi", "G", "Gtk"] "GtkWidget" = "Widget" ∧
      dropFirst (["G", "GtkWi", "Gtk"].mergeSort fun a b => b.length ≤ a.length) "GtkWidget" =
        "Widget" ∧
      IsLeft ["G", "GtkWi", "Gtk"] "GtkWidget" "Widget" ∧
      ofFunction { knownPrefixes := ["Gtk", "GtkWi", "G", "Gtk"] } "gtk_widget_show" =
        ofFunction { knownPrefixes := ["G", "GtkWi", "Gtk"] } "gtk_widget_show" := by
  have hsame : ∀ start, start ∈ ["G", "GtkWi", "Gtk"] ↔ start ∈ ["Gtk", "GtkWi", "G", "Gtk"] := by
    intro start
    simp only [List.mem_cons, List.not_mem_nil, or_false]
    grind
  obtain ⟨hnames, hfunctions⟩ := dropKnown_told_by_members hsame
  obtain ⟨hother, hloop, hleft⟩ := hnames "GtkWidget"
  have hwidget : dropKnown ["G", "GtkWi", "Gtk"] "GtkWidget" = "Widget" := by decide +kernel
  exact ⟨hsame, hother.trans hwidget, hloop.trans hwidget, (hleft _).mp hwidget,
    (hfunctions {} "gtk_widget_show").1⟩

end BindingGen.Name

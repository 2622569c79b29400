/-
# Classified declarations

Where failures are collected, the classification of a library of known declarations reaches every
declaration. A name is then among the failures if some declaration of it revisits a name, and an
object type only if some declaration of it does not: both lists are filled declaration by
declaration, and a name that is declared twice may get into both.

Key theorems: `Classified.fault?_eq_none`, `outcome_classify`, `lookup_symbols`,
`lookup_failures_iff`, `exists_of_lookup_symbols`.
-/
import Mathlib.Data.List.TakeWhile
import BindingGen.Proofs.Readable
import BindingGen.Proofs.Symbol.Climb
import BindingGen.Symbol.Classification

namespace BindingGen

/-! ### Verdicts -/

theorem Verdict.ofAncestry_cases (root : String) (a : Ancestry) :
    (∃ again, a.ending = .cyclic again) ∧ (∃ chain, ofAncestry root a = .cycle chain) ∨
      (¬∃ again, a.ending = .cyclic again) ∧ ∃ symbol, ofAncestry root a = .symbol symbol := by
  obtain ⟨chain, ending⟩ := a
  cases ending <;> simp [ofAncestry]

namespace Classified

variable {api : Api} {root : String} {c : Classified}

/-- A declared object revisits a name, or it has a symbol. -/
theorem verdict_ofObject (root : String) {declared : List Object} {o : Object}
    (ho : o ∈ declared) :
    o.Revisits declared root ∧ (∃ chain, (ofObject declared root o).verdict = .cycle chain) ∨
      ¬o.Revisits declared root ∧
        ∃ symbol, (ofObject declared root o).verdict = .symbol symbol := by
  rw [← Ancestry.ofObject_cyclic_iff ho]
  exact Verdict.ofAncestry_cases root (Ancestry.ofObject declared root o)

theorem cases_of_mem_ofApi (hc : c ∈ ofApi api root) :
    (∃ o ∈ api.declared, c = ofObject api.declared root o) ∨
      (∃ variety, c.verdict = .symbol (.enumeration variety)) ∨ c.verdict = .symbol .enumValue ∨
      ∃ ns ∈ api, ∃ m ∈ ns.misc, c.verdict = .ofMisc m.kind := by
  obtain ⟨ns, hns, hc⟩ := List.mem_flatMap.mp hc
  simp only [ofNamespace, List.mem_append, List.mem_map, or_assoc] at hc
  rcases hc with ⟨e, -, rfl⟩ | ⟨o, ho, rfl⟩ | ⟨m, -, rfl⟩ | ⟨m, hm, rfl⟩
  · exact Or.inr (Or.inl ⟨e.variety, rfl⟩)
  · exact Or.inl ⟨o, List.mem_flatMap.mpr ⟨ns, hns, ho⟩, rfl⟩
  · exact Or.inr (Or.inr (Or.inl rfl))
  · exact Or.inr (Or.inr (Or.inr ⟨ns, hns, m, hm, rfl⟩))

theorem ofObject_mem_ofApi {o : Object} (ho : o ∈ api.declared) :
    ofObject api.declared root o ∈ ofApi api root := by
  obtain ⟨ns, hns, ho⟩ := List.mem_flatMap.mp ho
  refine List.mem_flatMap.mpr ⟨ns, hns, ?_⟩
  simp only [ofNamespace, List.mem_append]
  exact Or.inl (Or.inl (Or.inr (List.mem_map_of_mem ho)))

theorem ofMisc_ne_object (kind : MiscKind) (ancestors : List String) :
    Verdict.ofMisc kind ≠ .symbol (.object ancestors) := by
  cases kind <;> simp [Verdict.ofMisc]

theorem exists_ofMisc_eq_symbol {kind : MiscKind} (h : kind.isKnown = true) :
    ∃ symbol, Verdict.ofMisc kind = .symbol symbol := by
  cases kind with
  | unknown name => cases h
  | struct | boxed | classStruct | typeAlias | callback => exact ⟨_, rfl⟩

theorem exists_object_of_verdict {ancestors : List String} (hc : c ∈ ofApi api root)
    (hverdict : c.verdict = .symbol (.object ancestors)) :
    ∃ o ∈ api.declared, c = ofObject api.declared root o := by
  rcases cases_of_mem_ofApi hc with hobject | ⟨variety, hother⟩ | hother | ⟨ns, -, m, -, hother⟩
  · exact hobject
  · cases hother.symm.trans hverdict
  · cases hother.symm.trans hverdict
  · exact absurd (hother.symm.trans hverdict) (ofMisc_ne_object m.kind ancestors)

/-- What is neither an object nor of an unknown kind has a symbol. -/
theorem verdict_of_mem_ofApi (h : api.IsKnown) (hc : c ∈ ofApi api root) :
    (∃ o ∈ api.declared, c = ofObject api.declared root o) ∨
      ∃ symbol, c.verdict = .symbol symbol := by
  rcases cases_of_mem_ofApi hc with hobject | ⟨variety, hverdict⟩ | hverdict |
    ⟨ns, hns, m, hm, hverdict⟩
  · exact Or.inl hobject
  · exact Or.inr ⟨_, hverdict⟩
  · exact Or.inr ⟨_, hverdict⟩
  · obtain ⟨symbol, hsymbol⟩ := exists_ofMisc_eq_symbol (h ns hns m hm)
    exact Or.inr ⟨symbol, hverdict.trans hsymbol⟩

/-- Where failures are collected, nothing known ends the classification. -/
theorem fault?_eq_none (h : api.IsKnown) (hc : c ∈ ofApi api root) : c.fault? true = none := by
  unfold fault?
  rcases verdict_of_mem_ofApi h hc with ⟨o, ho, rfl⟩ | ⟨symbol, hverdict⟩
  · rcases verdict_ofObject root ho with ⟨-, chain, hverdict⟩ | ⟨-, symbol, hverdict⟩
    · rw [hverdict]
      rfl
    · rw [hverdict]
  · rw [hverdict]

theorem cycle?_eq_some_iff {name : String} {chain : List String} :
    c.cycle? = some (name, chain) ↔ c.cname = name ∧ c.verdict = .cycle chain := by
  unfold cycle?
  cases c.verdict <;> simp

theorem symbol?_eq_some_iff {name : String} {symbol : CSymbol} :
    c.symbol? = some (name, symbol) ↔ c.cname = name ∧ c.verdict = .symbol symbol := by
  unfold symbol?
  cases c.verdict <;> simp

end Classified

/-! ### Failures and symbols -/

section Collected

variable {settings : Settings} {api : Api} (h : (classify settings true api).fault? = none)
include h

theorem reached_eq : (Classified.ofApi api settings.rootType).takeWhile
    (fun c => (c.fault? true).isNone) = Classified.ofApi api settings.rootType :=
  List.takeWhile_eq_self_iff.mpr fun c hc => by rw [List.findSome?_eq_none_iff.mp h c hc]; rfl

theorem lookup_symbols (name : String) : (classify settings true api).symbols.lookup name =
    ((Classified.ofApi api settings.rootType).filterMap (·.symbol?)).lookup name := by
  simp only [classify, reached_eq h, lookup_firstEntries]

theorem lookup_failures (name : String) : (classify settings true api).failures.lookup name =
    ((Classified.ofApi api settings.rootType).filterMap (·.cycle?)).lookup name := by
  simp only [classify, reached_eq h, lookup_firstEntries]

end Collected

section Classify

variable {settings : Settings} {api : Api} (h : api.IsKnown)
include h

theorem fault?_classify : (classify settings true api).fault? = none :=
  List.findSome?_eq_none_iff.mpr fun _ hc => Classified.fault?_eq_none h hc

theorem outcome_classify :
    (classify settings true api).logged.outcome = .ok (classify settings true api) := by
  simp only [Classification.logged, fault?_classify h]

/-- A name fails exactly if a declaration of it revisits a name. -/
theorem lookup_failures_iff {name : String} :
    (∃ chain, (classify settings true api).failures.lookup name = some chain) ↔
      ∃ o ∈ api.declared, o.cname = name ∧ o.Revisits api.declared settings.rootType := by
  rw [lookup_failures (fault?_classify h), ← Option.isSome_iff_exists, List.lookup_isSome_iff]
  constructor
  · rintro ⟨⟨cname, chain⟩, hmem, hname⟩
    obtain rfl : name = cname := by simpa using hname
    obtain ⟨c, hc, hcycle⟩ := List.mem_filterMap.mp hmem
    obtain ⟨rfl, hverdict⟩ := Classified.cycle?_eq_some_iff.mp hcycle
    rcases Classified.verdict_of_mem_ofApi h hc with ⟨o, ho, rfl⟩ | ⟨symbol, hsymbol⟩
    · refine ⟨o, ho, rfl, ?_⟩
      rcases Classified.verdict_ofObject settings.rootType ho with ⟨hrevisits, -⟩ |
        ⟨-, symbol, hsymbol⟩
      · exact hrevisits
      · cases hverdict.symm.trans hsymbol
    · cases hverdict.symm.trans hsymbol
  · rintro ⟨o, ho, rfl, hrevisits⟩
    rcases Classified.verdict_ofObject settings.rootType ho with ⟨-, chain, hverdict⟩ | ⟨hnot, -⟩
    · have hcycle := Classified.cycle?_eq_some_iff.mpr ⟨rfl, hverdict⟩
      exact ⟨_, List.mem_filterMap.mpr ⟨_, Classified.ofObject_mem_ofApi ho, hcycle⟩,
        beq_self_eq_true o.cname⟩
    · exact absurd hrevisits hnot

/-- An object type of the table has a declaration that revisits no name. -/
theorem exists_of_lookup_symbols {name : String} {ancestors : List String}
    (hname : (classify settings true api).symbols.lookup name = some (.object ancestors)) :
    ∃ o ∈ api.declared, o.cname = name ∧ ¬o.Revisits api.declared settings.rootType := by
  rw [lookup_symbols (fault?_classify h), List.lookup_eq_some_iff] at hname
  obtain ⟨before, after, hsplit, -⟩ := hname
  have hmem : (name, CSymbol.object ancestors) ∈
      (Classified.ofApi api settings.rootType).filterMap (·.symbol?) := by
    rw [hsplit]
    simp
  obtain ⟨c, hc, hsymbol⟩ := List.mem_filterMap.mp hmem
  obtain ⟨rfl, hverdict⟩ := Classified.symbol?_eq_some_iff.mp hsymbol
  obtain ⟨o, ho, rfl⟩ := Classified.exists_object_of_verdict hc hverdict
  refine ⟨o, ho, rfl, ?_⟩
  rcases Classified.verdict_ofObject settings.rootType ho with ⟨-, chain, hcycle⟩ | ⟨hnot, -⟩
  · cases hverdict.symm.trans hcycle
  · exact hnot

end Classify
end BindingGen

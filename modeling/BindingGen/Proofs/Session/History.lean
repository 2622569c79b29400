/-
# Questions asked before

A session keeps what it computes. As long as its library is not edited, this shows in two places
only: the journal of the classification is written once, where the symbols are first needed, and the
failures are known from there on. Every other answer is that of a session that was not asked
anything before.

What a session holds is told by whether its symbols were needed (`Session.Holds`). A query leads from
one such session to another and has the answer that goes with it (`Session.Holds.ask`), and so has
every query of a sequence (`Session.Holds.answers`).

Key definitions: `Session.answers`, `Session.Holds`, `Library.answer`.
Key theorems: `Session.Holds.ask`, `Session.generate_session`, `Session.Holds.answers`,
`Session.answers_session`.
-/
import BindingGen.Proofs.Library.Journal
import BindingGen.Proofs.Symbol.Classification
import BindingGen.Session

namespace BindingGen

namespace Session

/-- Whether the answer to a query takes the symbols. -/
def Query.needsSymbols : Query → Bool
  | .symbols | .generate => true
  | .objects | .failures | .docFor _ | .priorFor _ _ => false

/-- The answers to queries that are asked one after another. -/
def answers (s : Session) : List Query → List (Logged Answer)
  | [] => []
  | q :: rest => (s.ask q).1 :: (s.ask q).2.answers rest

end Session

/-! ### Answers of a library -/

namespace Library

variable (l : Library)

/-- The session of a library that was not asked anything. -/
def session : Session := { library := l }

/-- The classification of the names of a library. -/
def classification : Classification := classify l.settings true l.api

/-- The symbols of a library, with the journal of their classification if they were not needed
before. -/
def symbolsAfter (needed : Bool) : Logged SymbolTable :=
  ⟨.ok l.classification.symbols, if needed then [] else l.classification.records⟩

/-- What a session of the library answers, by whether its symbols were needed before. -/
def answer (needed : Bool) : Session.Query → Logged Session.Answer
  | .objects => pure (.objects l.api.objects)
  | .symbols => .symbols <$> l.symbolsAfter needed
  | .failures => pure (.failures (if needed then l.classification.failures else []))
  | .docFor cname => pure (.doc (docFor l.docs cname))
  | .priorFor cname name => pure (.prior (priorFor l.priors cname name))
  | .generate => .generated <$> do
    generateAll l (← l.symbolsAfter needed) l.classification.failures l.api.objects

variable {l}

theorem logged_classification (hknown : l.api.IsKnown) :
    l.classification.logged = ⟨.ok l.classification, l.classification.records⟩ := by
  have hfault : l.classification.fault? = none := fault?_classify hknown
  unfold Classification.logged
  rw [hfault]

theorem symbolsAfter_false (hknown : l.api.IsKnown) :
    (·.symbols) <$> l.classification.logged = l.symbolsAfter false := by
  rw [logged_classification hknown, Logged.map_ok]
  rfl

/-- What was asked before does not change an answer, unless the failures are asked for. -/
theorem outcome_answer {q : Session.Query} (h : q ≠ .failures) (needed : Bool) :
    (l.answer needed q).outcome = (l.answer false q).outcome := by
  cases q with
  | failures => exact absurd rfl h
  | symbols => simp only [answer, symbolsAfter, Logged.outcome_map]
  | generate => simp only [answer, symbolsAfter, Logged.outcome_map, Logged.outcome_bind]
  | objects | docFor | priorFor => rfl

/-- What was asked before spares the journal of the classification. -/
theorem records_answer (needed : Bool) (q : Session.Query) :
    (l.answer needed q).records =
      (if q.needsSymbols && !needed then l.classification.records else []) ++
        (l.answer true q).records := by
  cases q with
  | symbols =>
    simp only [answer, symbolsAfter, Logged.map_ok]
    cases needed <;> simp [Session.Query.needsSymbols]
  | generate =>
    simp only [answer, symbolsAfter, Logged.ok_bind, Logged.records_map]
    cases needed <;> simp [Session.Query.needsSymbols]
  | objects | docFor | priorFor | failures => rfl

theorem writesOn_answer (q : Session.Query) : (l.answer true q).WritesOn generationTopics := by
  cases q with
  | symbols =>
    rw [answer, symbolsAfter, Logged.map_ok]
    exact Logged.writesOn_ofExcept _
  | generate =>
    rw [answer, symbolsAfter, Logged.ok_bind]
    exact (writesOn_generateAll l _ _ _).map _
  | objects | docFor | priorFor | failures => exact Logged.writesOn_pure _

theorem topic_of_mem_records_classification {r : Record}
    (hr : r ∈ l.classification.records) : r.topic = .symbols :=
  List.mem_singleton.mp (writesOn_classify l.settings true l.api r hr)

theorem topic_ne_of_mem_records_answer {q : Session.Query} {r : Record}
    (hr : r ∈ (l.answer true q).records) : r.topic ≠ .symbols :=
  ne_of_mem_of_not_mem (writesOn_answer q r hr) (by decide)

theorem records_on_symbols_answer (needed : Bool) (q : Session.Query) :
    (l.answer needed q).records.filter (·.topic = .symbols) =
      if q.needsSymbols && !needed then l.classification.records else [] := by
  have hnone : (l.answer true q).records.filter (·.topic = .symbols) = [] :=
    List.filter_eq_nil_iff.mpr fun r hr => by simpa using topic_ne_of_mem_records_answer hr
  rw [records_answer, List.filter_append, hnone, List.append_nil]
  split
  · refine List.filter_eq_self.mpr fun r hr => ?_
    simpa using topic_of_mem_records_classification hr
  · rfl

theorem records_off_symbols_answer (needed : Bool) (q : Session.Query) :
    (l.answer needed q).records.filter (·.topic ≠ .symbols) = (l.answer true q).records := by
  have hall : (l.answer true q).records.filter (·.topic ≠ .symbols) = (l.answer true q).records :=
    List.filter_eq_self.mpr fun r hr => by simpa using topic_ne_of_mem_records_answer hr
  rw [records_answer, List.filter_append, hall]
  split
  · rw [List.filter_eq_nil_iff.mpr fun r hr => ?_, List.nil_append]
    simpa using topic_of_mem_records_classification hr
  · rfl

end Library

/-! ### One query -/

namespace Session

/-- What a session holds of a library that is not edited, by whether its symbols were needed. -/
structure Holds (l : Library) (needed : Bool) (s : Session) : Prop where
  library : s.library = l
  objects : s.objects = l.api.objects
  symbols : s.symbols? = if needed then some l.classification.symbols else none
  failures : s.failures = if needed then l.classification.failures else []

variable {l : Library} {needed : Bool} {s : Session}

theorem holds_session (l : Library) : l.session.Holds l false := ⟨rfl, rfl, rfl, rfl⟩

theorem Holds.keepObjects (h : s.Holds l needed) : s.keepObjects.Holds l needed :=
  ⟨h.library, h.objects, h.symbols, h.failures⟩

/-- The symbols are the same at any time; they are classified if they were not needed before. -/
theorem Holds.readSymbols (hknown : l.api.IsKnown) (h : s.Holds l needed) :
    s.readSymbols.1 = l.symbolsAfter needed ∧ s.readSymbols.2.Holds l true := by
  cases needed with
  | true =>
    have hsymbols : s.symbols? = some l.classification.symbols := h.symbols
    simp only [Session.readSymbols, hsymbols]
    exact ⟨rfl, h⟩
  | false =>
    have hsymbols : s.symbols? = none := h.symbols
    have hfailures : s.failures = [] := h.failures
    have hclassify : classify s.library.settings true s.library.api = l.classification := by
      rw [h.library]
      rfl
    have hfault : l.classification.fault? = none := fault?_classify hknown
    simp only [Session.readSymbols, hsymbols, hclassify, hfailures, hfault, List.nil_append]
    refine ⟨Library.symbolsAfter_false hknown, h.library, h.objects, rfl, ?_⟩
    exact firstEntries_idem _

theorem Holds.generate (hknown : l.api.IsKnown) (h : s.Holds l needed) :
    s.generate.1 = (do
      generateAll l (← l.symbolsAfter needed) l.classification.failures l.api.objects) ∧
      s.generate.2.Holds l true := by
  obtain ⟨hsymbols, hread⟩ := h.readSymbols hknown
  have hok : s.readSymbols.1.outcome.isOk = true := by
    rw [hsymbols]
    rfl
  have hkept := hread.keepObjects
  simp only [Session.generate, hok, if_true]
  refine ⟨?_, hkept⟩
  rw [hsymbols, hkept.library, hkept.objects, hkept.failures, if_pos rfl]

/-- **One query.** A session answers by what it holds of its library, and then holds the symbols if
the answer took them. -/
theorem Holds.ask (hknown : l.api.IsKnown) (h : s.Holds l needed) (q : Query) :
    (s.ask q).1 = l.answer needed q ∧ (s.ask q).2.Holds l (needed || q.needsSymbols) := by
  cases q with
  | objects =>
    rw [Query.needsSymbols, Bool.or_false]
    exact ⟨congrArg (pure <| Answer.objects ·) h.objects, h.keepObjects⟩
  | failures =>
    rw [Query.needsSymbols, Bool.or_false]
    exact ⟨congrArg (pure <| Answer.failures ·) h.failures, h⟩
  | docFor cname =>
    rw [Query.needsSymbols, Bool.or_false]
    refine ⟨?_, h⟩
    rw [Session.ask, h.library, Library.answer]
  | priorFor cname name =>
    rw [Query.needsSymbols, Bool.or_false]
    refine ⟨?_, h⟩
    rw [Session.ask, h.library, Library.answer]
  | symbols =>
    obtain ⟨hsymbols, hread⟩ := h.readSymbols hknown
    rw [Query.needsSymbols, Bool.or_true]
    exact ⟨congrArg (Answer.symbols <$> ·) hsymbols, hread⟩
  | generate =>
    obtain ⟨hmodules, hgenerated⟩ := h.generate hknown
    rw [Query.needsSymbols, Bool.or_true]
    exact ⟨congrArg (Answer.generated <$> ·) hmodules, hgenerated⟩

/-- A session that was not asked anything generates what its library does. -/
theorem generate_session (hknown : l.api.IsKnown) : l.session.generate.1 = l.generate := by
  have hlogged := Library.logged_classification hknown
  rw [Library.classification] at hlogged
  rw [((holds_session l).generate hknown).1, Library.generate, hlogged, Library.symbolsAfter,
    Logged.ok_bind, Logged.ok_bind]
  rfl

/-! ### Many queries -/

/-- **A sequence of queries.** Each of them has the answer that goes with the queries before it. -/
theorem Holds.answers (hknown : l.api.IsKnown) (h : s.Holds l needed) (before : List Query)
    (q : Query) (rest : List Query) :
    (s.answers (before ++ q :: rest))[before.length]? =
      some (l.answer (needed || before.any Query.needsSymbols) q) := by
  induction before generalizing s needed with
  | nil =>
    rw [List.any_nil, Bool.or_false]
    exact congrArg some (h.ask hknown q).1
  | cons first before ih =>
    rw [List.any_cons, ← Bool.or_assoc]
    exact ih (h.ask hknown first).2

/-- **History does not matter.** If the types of a library are of known kinds, each query of a
sequence is answered as a session answers it that was not asked anything before, with two exceptions.
The failures are empty up to the first query that needs the symbols, and all those of the
classification from there on; and the records on symbols are those of the classification at that
query, and none at any other. -/
theorem answers_session (l : Library) (hknown : l.api.IsKnown) (before : List Query) (q : Query)
    (rest : List Query) :
    ∃ a, (l.session.answers (before ++ q :: rest))[before.length]? = some a ∧
      (q ≠ .failures → a.outcome = (l.session.ask q).1.outcome) ∧
      (q = .failures → a.outcome = .ok (.failures
        (if before.any Query.needsSymbols then (classify l.settings true l.api).failures else []))) ∧
      a.records.filter (·.topic = .symbols) =
        (if q.needsSymbols && !before.any Query.needsSymbols then
          (classify l.settings true l.api).records else []) ∧
      a.records.filter (·.topic ≠ .symbols) =
        (l.session.ask q).1.records.filter (·.topic ≠ .symbols) := by
  have hanswer := (holds_session l).answers hknown before q rest
  have hfresh := ((holds_session l).ask hknown q).1
  rw [Bool.false_or] at hanswer
  generalize before.any Query.needsSymbols = needed at hanswer ⊢
  refine ⟨_, hanswer, fun hne => ?_, fun heq => ?_, ?_, ?_⟩
  · rw [hfresh]
    exact Library.outcome_answer hne needed
  · rw [heq]
    rfl
  · exact Library.records_on_symbols_answer needed q
  · rw [hfresh, Library.records_off_symbols_answer, Library.records_off_symbols_answer]

/-- An object type that is its own parent. -/
def loopLibrary : Library where
  api := [{ name := "Gtk"
            objects := [{ name := "Loop", cname := "GtkLoop", parent := "GtkLoop" }] }]

/-- The failures of the loop are asked for before and after its symbols. -/
def loopQueries : List Query := [.failures, .symbols, .failures]

/-- The loop is noted where the symbols are asked for, and is among the failures after that. -/
theorem answers_session_loopLibrary :
    loopLibrary.api.IsKnown ∧
    (∃ a, (loopLibrary.session.answers loopQueries)[0]? = some a ∧
      a.outcome = .ok (.failures [])) ∧
    (∃ a, (loopLibrary.session.answers loopQueries)[1]? = some a ∧
      a.records.filter (·.topic = .symbols) =
        [⟨.error, .symbols, "GtkLoop: inheritance cycle: GtkLoop -> GtkLoop"⟩]) ∧
    ∃ a, (loopLibrary.session.answers loopQueries)[2]? = some a ∧
      a.outcome = .ok (.failures [("GtkLoop", ["GtkLoop", "GtkLoop"])]) ∧
      a.records.filter (·.topic = .symbols) = [] := by
  have hknown : loopLibrary.api.IsKnown := by decide
  have hfailures : (classify {} true loopLibrary.api).failures =
      [("GtkLoop", ["GtkLoop", "GtkLoop"])] := by
    decide +kernel
  have hrecords : (classify {} true loopLibrary.api).records =
      [⟨.error, .symbols, "GtkLoop: inheritance cycle: GtkLoop -> GtkLoop"⟩] := by
    decide +kernel
  obtain ⟨first, hfirst, -, hempty, -⟩ :=
    answers_session loopLibrary hknown [] .failures [.symbols, .failures]
  obtain ⟨second, hsecond, -, -, hnoted, -⟩ :=
    answers_session loopLibrary hknown [.failures] .symbols [.failures]
  obtain ⟨third, hthird, -, hlisted, hsilent, -⟩ :=
    answers_session loopLibrary hknown [.failures, .symbols] .failures []
  exact ⟨hknown, ⟨first, hfirst, hempty rfl⟩, ⟨second, hsecond, hnoted.trans hrecords⟩, third, hthird,
    (hlisted rfl).trans (congrArg (Except.ok <| Answer.failures ·) hfailures), hsilent⟩

end Session

end BindingGen

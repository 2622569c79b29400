/-
# First entries

Where several records bear one name, the first of them stands for the name. A table is a list of
named entries that is read by `List.lookup`; `firstEntries` leaves out the entries that no look-up
reaches.

Key definitions: `firstEntries`, `firstNamed?`, `rank`.
Key theorems: `lookup_firstEntries`, `mem_of_lookup_eq_some`.
-/

namespace BindingGen

variable {α : Type}

/-- The first entry of each name, in order. -/
def firstEntries : List (String × α) → List (String × α)
  | [] => []
  | entry :: rest => entry :: (firstEntries rest).filter fun other => other.1 != entry.1

theorem lookup_filter_ne {name other : String} (h : name ≠ other) (entries : List (String × α)) :
    (entries.filter fun entry => entry.1 != other).lookup name = entries.lookup name := by
  induction entries with
  | nil => rfl
  | cons entry rest ih =>
    obtain ⟨key, value⟩ := entry
    by_cases hk : key = other
    · subst hk
      have : (name == key) = false := by simpa using h
      simp [List.lookup_cons, this, ih]
    · have : (key != other) = true := by simpa using hk
      simp only [List.filter_cons, this, if_true, List.lookup_cons, ih]

/-- A look-up finds the same entry with and without those that it never reaches. -/
theorem lookup_firstEntries (name : String) (entries : List (String × α)) :
    (firstEntries entries).lookup name = entries.lookup name := by
  induction entries with
  | nil => rfl
  | cons entry rest ih =>
    obtain ⟨key, value⟩ := entry
    simp only [firstEntries, List.lookup_cons]
    by_cases h : name = key
    · simp [h]
    · have : (name == key) = false := by simpa using h
      simp only [this, lookup_filter_ne h, ih]

/-- What a look-up finds is an entry. -/
theorem mem_of_lookup_eq_some {name : String} {value : α} {entries : List (String × α)}
    (h : entries.lookup name = some value) : (name, value) ∈ entries := by
  obtain ⟨before, after, rfl, -⟩ := List.lookup_eq_some_iff.mp h
  exact List.mem_append_right before List.mem_cons_self

/-- The first record of a name. -/
def firstNamed? (nameOf : α → String) (name : String) (records : List α) : Option α :=
  records.find? fun r => nameOf r = name

/-- The place of the first record of a name; the place after the last one if there is none. -/
def rank (nameOf : α → String) (name : String) (records : List α) : Nat :=
  records.findIdx fun r => nameOf r = name

end BindingGen

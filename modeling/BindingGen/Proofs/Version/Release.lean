/-
# Releases

A version of the form `major.minor` or `major.minor.micro` names a release; any other text names
none. Releases are ordered by their three numbers, where a missing third number is zero. Versions
are compared in another way, by all numbers that they hold: on versions that name releases, a later
version names no earlier release.

Key definitions: `Release`, `isNumeral`, `Version.Names`, `Version.release?`, `Version.Precedes`.
Key theorems: `Version.release?_eq_some_iff`, `Version.parts?_eq_some`, `Version.later_cases`,
`Version.Names.le_of_precedes`.
-/
import BindingGen.Proofs.Outcome
import BindingGen.Version

namespace BindingGen

open Text

/-! ### Releases and their order -/

/-- The three numbers of a release. -/
structure Release where
  major : Nat
  minor : Nat
  micro : Nat
  deriving DecidableEq

namespace Release

/-- A release is at most another if it does not come after it, by the first number in which they
differ. -/
instance : LE Release where
  le a b := a.major < b.major ∨
    a.major = b.major ∧ (a.minor < b.minor ∨ a.minor = b.minor ∧ a.micro ≤ b.micro)

instance (a b : Release) : Decidable (a ≤ b) :=
  inferInstanceAs (Decidable (_ < _ ∨ _ = _ ∧ (_ < _ ∨ _ = _ ∧ _ ≤ _)))

theorem le_iff {a b : Release} : a ≤ b ↔ a.major < b.major ∨
    a.major = b.major ∧ (a.minor < b.minor ∨ a.minor = b.minor ∧ a.micro ≤ b.micro) := Iff.rfl

protected theorem le_refl (a : Release) : a ≤ a := by
  rw [le_iff]
  omega

end Release

/-! ### Numerals -/

/-- Whether a text is a numeral: one digit or more, and nothing else. -/
def isNumeral (text : List Char) : Bool := !text.isEmpty && text.all isDigit

/-- The number that a numeral writes. -/
def numeralValue (text : List Char) : Nat := numeral (text.filterMap digitValue?)

theorem numeralValue_zero : numeralValue ['0'] = 0 := by decide

theorem isDigit_of_mem {text : List Char} (h : isNumeral text = true) {c : Char} (hc : c ∈ text) :
    isDigit c = true :=
  List.all_eq_true.mp (Bool.and_eq_true_iff.mp h).2 c hc

theorem not_mem_of_isNumeral {text : List Char} (h : isNumeral text = true) {c : Char}
    (hc : isDigit c = false) : c ∉ text := by
  intro hmem
  rw [isDigit_of_mem h hmem] at hc
  cases hc

namespace Version

/-! ### Versions that name releases -/

/-- The version names the release. -/
inductive Names (version : String) : Release → Prop where
  | short {major minor : List Char} (htext : version.toList = major ++ '.' :: minor)
      (hmajor : isNumeral major = true) (hminor : isNumeral minor = true) :
      Names version ⟨numeralValue major, numeralValue minor, 0⟩
  | full {major minor micro : List Char}
      (htext : version.toList = major ++ '.' :: (minor ++ '.' :: micro))
      (hmajor : isNumeral major = true) (hminor : isNumeral minor = true)
      (hmicro : isNumeral micro = true) :
      Names version ⟨numeralValue major, numeralValue minor, numeralValue micro⟩

/-- The release whose numbers are written in three parts. -/
def releaseOf (parts : String × String × String) : Release :=
  ⟨numeralValue parts.1.toList, numeralValue parts.2.1.toList, numeralValue parts.2.2.toList⟩

/-- The release that a version names, if it names one. -/
def release? (version : String) : Option Release := (parts? version).map releaseOf

theorem isDigit_dot : isDigit '.' = false := by decide

theorem parts?_eq (version : String) :
    parts? version =
      if (version.toList.splitOn '.').all isNumeral then
        match (version.toList.splitOn '.').map String.ofList with
        | [major, minor] => some (major, minor, "0")
        | [major, minor, micro] => some (major, minor, micro)
        | _ => none
      else none := rfl

theorem parts?_short {version : String} {major minor : List Char}
    (htext : version.toList = major ++ '.' :: minor) (hmajor : isNumeral major = true)
    (hminor : isNumeral minor = true) :
    parts? version = some (String.ofList major, String.ofList minor, "0") := by
  have hsplit : version.toList.splitOn '.' = [major, minor] := by
    rw [htext, List.splitOn_append_cons_self_of_not_mem (not_mem_of_isNumeral hmajor isDigit_dot),
      List.splitOn_eq_singleton (not_mem_of_isNumeral hminor isDigit_dot)]
  simp [parts?_eq, hsplit, hmajor, hminor]

theorem parts?_full {version : String} {major minor micro : List Char}
    (htext : version.toList = major ++ '.' :: (minor ++ '.' :: micro))
    (hmajor : isNumeral major = true) (hminor : isNumeral minor = true)
    (hmicro : isNumeral micro = true) :
    parts? version = some (String.ofList major, String.ofList minor, String.ofList micro) := by
  have hsplit : version.toList.splitOn '.' = [major, minor, micro] := by
    rw [htext, List.splitOn_append_cons_self_of_not_mem (not_mem_of_isNumeral hmajor isDigit_dot),
      List.splitOn_append_cons_self_of_not_mem (not_mem_of_isNumeral hminor isDigit_dot),
      List.splitOn_eq_singleton (not_mem_of_isNumeral hmicro isDigit_dot)]
  simp [parts?_eq, hsplit, hmajor, hminor, hmicro]

/-- The parts of a version are numerals, and the version names the release that they write. -/
theorem parts?_eq_some {version : String} {parts : String × String × String}
    (h : parts? version = some parts) :
    isNumeral parts.1.toList = true ∧ isNumeral parts.2.1.toList = true ∧
      isNumeral parts.2.2.toList = true ∧ Names version (releaseOf parts) := by
  have hversion : ['.'].intercalate (version.toList.splitOn '.') = version.toList :=
    List.intercalate_splitOn '.'
  rw [parts?_eq] at h
  generalize version.toList.splitOn '.' = read at h hversion
  have hall : read.all isNumeral = true := by
    by_contra hne
    rw [if_neg hne] at h
    cases h
  rw [if_pos hall] at h
  simp only [List.all_eq_true] at hall
  rcases read with _ | ⟨major, _ | ⟨minor, _ | ⟨micro, _ | ⟨_, _⟩⟩⟩⟩
  · cases h
  · cases h
  · have hmajor : isNumeral major = true := hall major (by simp)
    have hminor : isNumeral minor = true := hall minor (by simp)
    cases h
    refine ⟨by simpa using hmajor, by simpa using hminor,
      (by decide : isNumeral "0".toList = true), ?_⟩
    have htext : version.toList = major ++ '.' :: minor := by simpa using hversion.symm
    simpa [releaseOf, numeralValue_zero] using Names.short htext hmajor hminor
  · have hmajor : isNumeral major = true := hall major (by simp)
    have hminor : isNumeral minor = true := hall minor (by simp)
    have hmicro : isNumeral micro = true := hall micro (by simp)
    cases h
    refine ⟨by simpa using hmajor, by simpa using hminor, by simpa using hmicro, ?_⟩
    have htext : version.toList = major ++ '.' :: (minor ++ '.' :: micro) := by
      simpa using hversion.symm
    simpa [releaseOf] using Names.full htext hmajor hminor hmicro
  · cases h

/-- A version names the release that is read from its parts, and no other. -/
theorem release?_eq_some_iff {version : String} {r : Release} :
    release? version = some r ↔ Names version r := by
  constructor
  · intro h
    obtain ⟨parts, hparts, rfl⟩ := Option.map_eq_some_iff.mp h
    exact (parts?_eq_some hparts).2.2.2
  · rintro (⟨htext, hmajor, hminor⟩ | ⟨htext, hmajor, hminor, hmicro⟩)
    · rw [release?, parts?_short htext hmajor hminor]
      simp [releaseOf, numeralValue_zero]
    · rw [release?, parts?_full htext hmajor hminor hmicro]
      simp [releaseOf]

/-! ### The order of versions -/

/-- The first version is earlier than the second: the numbers that it holds come first. -/
def Precedes (a b : String) : Prop :=
  ∃ ka kb, key a = .ok ka ∧ key b = .ok kb ∧ keyLt ka kb = true

theorem precedes_iff {a b : String} :
    Precedes a b ↔ (do return keyLt (← key a) (← key b)) = (.ok true : Except Fault Bool) := by
  simp only [Precedes, bind_eq_ok_iff, pure, Except.pure, Except.ok.injEq]
  constructor
  · rintro ⟨ka, kb, hka, hkb, hlt⟩
    exact ⟨ka, hka, kb, hkb, hlt⟩
  · rintro ⟨ka, hka, kb, hkb, hlt⟩
    exact ⟨ka, kb, hka, hkb, hlt⟩

instance (a b : String) : Decidable (Precedes a b) := decidable_of_iff _ precedes_iff.symm

/-- The later of two versions is the second one only if the first one precedes it. -/
theorem later_cases {a b later : String} (h : Version.later a b = .ok later) :
    later = a ∧ ¬Precedes a b ∨ later = b ∧ Precedes a b := by
  obtain ⟨kb, hkb, h⟩ := bind_eq_ok_iff.mp h
  obtain ⟨ka, hka, h⟩ := bind_eq_ok_iff.mp h
  cases hlt : keyLt ka kb with
  | true =>
    rw [hlt, if_pos rfl] at h
    exact Or.inr ⟨(Except.ok.inj h).symm, ka, kb, hka, hkb, hlt⟩
  | false =>
    rw [hlt, if_neg Bool.false_ne_true] at h
    refine Or.inl ⟨(Except.ok.inj h).symm, ?_⟩
    rintro ⟨ka', kb', hka', hkb', hlt'⟩
    rw [hka, Except.ok.injEq] at hka'
    rw [hkb, Except.ok.injEq] at hkb'
    rw [hka', hkb', hlt'] at hlt
    cases hlt

theorem eq_of_key_eq_ok {version : String} {numbers : List Nat} (h : key version = .ok numbers) :
    numbers = (digitRuns version.toList).map numeral := by
  have hmap := map_eq_of_mapM (k := id) (g := numeral) h fun digits n hn => by
    split_ifs at hn with hlength
    exact (Except.ok.inj hn).symm
  rwa [List.map_id] at hmap

theorem isNone_digitValue?_of_mem {text : List Char} (h : isNumeral text = true) :
    ∀ value ∈ text.map digitValue?, value.isNone = false := by
  intro value hvalue
  obtain ⟨c, hc, rfl⟩ := List.mem_map.mp hvalue
  have hdigit : isDigit c = true := isDigit_of_mem h hc
  rwa [isDigit, ← Option.not_isNone, Bool.not_eq_true'] at hdigit

/-- The digits of a numeral, as a run. -/
theorem filterMap_digitValue?_ne_nil {text : List Char} (h : isNumeral text = true) :
    text.filterMap digitValue? ≠ [] := by
  obtain ⟨hne, hdigits⟩ := Bool.and_eq_true_iff.mp h
  cases text with
  | nil => cases hne
  | cons c rest =>
    obtain ⟨value, hvalue⟩ := Option.isSome_iff_exists.mp (List.all_eq_true.mp hdigits c (by simp))
    rw [List.filterMap_cons_some hvalue]
    exact List.cons_ne_nil _ _

/-- A numeral in front of a character that is no digit is the first run of digits. -/
theorem digitRuns_append_cons {text rest : List Char} {c : Char} (h : isNumeral text = true)
    (hc : isDigit c = false) :
    digitRuns (text ++ c :: rest) = text.filterMap digitValue? :: digitRuns rest := by
  have hnone : (digitValue? c).isNone = true := by
    rwa [isDigit, ← Option.not_isNone, Bool.not_eq_false'] at hc
  unfold digitRuns
  rw [List.map_append, List.map_cons,
    List.splitOnP_append_cons_of_forall_mem (isNone_digitValue?_of_mem h) _ hnone, List.map_cons,
    List.filterMap_map, List.filter_cons_of_pos]
  · rfl
  · simpa using filterMap_digitValue?_ne_nil h

theorem digitRuns_of_isNumeral {text : List Char} (h : isNumeral text = true) :
    digitRuns text = [text.filterMap digitValue?] := by
  unfold digitRuns
  rw [List.splitOnP_eq_singleton (isNone_digitValue?_of_mem h), List.map_singleton,
    List.filterMap_map, List.filter_cons_of_pos]
  · rfl
  · simpa using filterMap_digitValue?_ne_nil h

/-- A version that names a release holds its numbers, the last of them only if it is written. -/
theorem Names.key_eq {version : String} {r : Release} (h : Names version r) {numbers : List Nat}
    (hkey : key version = .ok numbers) :
    numbers = [r.major, r.minor] ∧ r.micro = 0 ∨ numbers = [r.major, r.minor, r.micro] := by
  rw [eq_of_key_eq_ok hkey]
  rcases h with ⟨htext, hmajor, hminor⟩ | ⟨htext, hmajor, hminor, hmicro⟩
  · rw [htext, digitRuns_append_cons hmajor isDigit_dot, digitRuns_of_isNumeral hminor]
    exact Or.inl ⟨rfl, rfl⟩
  · rw [htext, digitRuns_append_cons hmajor isDigit_dot, digitRuns_append_cons hminor isDigit_dot,
      digitRuns_of_isNumeral hmicro]
    exact Or.inr rfl

/-- An earlier version names no later release. -/
theorem Names.le_of_precedes {a b : String} {ra rb : Release} (ha : Names a ra) (hb : Names b rb)
    (h : Precedes a b) : ra ≤ rb := by
  obtain ⟨ka, kb, hka, hkb, hlt⟩ := h
  rw [Release.le_iff]
  rcases ha.key_eq hka with ⟨rfl, hmicro⟩ | rfl <;>
    rcases hb.key_eq hkb with ⟨rfl, hmicro'⟩ | rfl <;>
    simp [keyLt] at hlt <;> omega

end Version
end BindingGen

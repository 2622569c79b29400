/-
# The first fault of several steps

A computation of several steps ends at the first step that fails. Where the faults of the steps are
known beforehand and in order, the computation answers if there are none and ends in the first of
them otherwise. The faults of one step after another are those of the one and then those of the
other, whatever the later step makes of the answer of the earlier one.

Key definitions: `FailsFirst`.
Key theorems: `FailsFirst.error_iff`, `FailsFirst.bind`, `FailsFirst.mapM`, `FailsFirst.mapError`.
-/
import BindingGen.Proofs.Outcome

namespace BindingGen

variable {ε δ α β : Type}

/-- The computation answers if there are no faults, and ends in the first of them otherwise. -/
inductive FailsFirst : List ε → Except ε α → Prop
  | ok (a : α) : FailsFirst [] (.ok a)
  | error (fault : ε) (others : List ε) : FailsFirst (fault :: others) (.error fault)

theorem failsFirst_of_never {x : Except Fault α} (h : FailsOnly Fault.Never x) :
    FailsFirst [] x := by
  obtain ⟨a, rfl⟩ := exists_ok_of_never h
  exact .ok a

variable {faults later : List ε} {x : Except ε α}

/-- A computation ends in the first of its faults and in no other. -/
theorem FailsFirst.error_iff (h : FailsFirst faults x) {fault : ε} :
    x = .error fault ↔ faults.head? = some fault := by
  cases h <;> simp

theorem FailsFirst.failsOnly (h : FailsFirst faults x) {P : ε → Prop}
    (hP : ∀ fault ∈ faults, P fault) : FailsOnly P x := by
  intro fault hfault
  exact hP fault (List.mem_of_head? (h.error_iff.mp hfault))

/-- The later step may use that the first one answered. -/
theorem FailsFirst.bind {f : α → Except ε β} (h : FailsFirst faults x)
    (hlater : ∀ a, x = .ok a → FailsFirst later (f a)) :
    FailsFirst (faults ++ later) (x >>= f) := by
  cases h with
  | ok a => exact hlater a rfl
  | error fault others => exact .error fault (others ++ later)

theorem FailsFirst.never_bind {f : α → Except ε β} (h : FailsFirst [] x)
    (hlater : ∀ a, x = .ok a → FailsFirst later (f a)) : FailsFirst later (x >>= f) :=
  h.bind hlater

theorem FailsFirst.bind_never {f : α → Except ε β} (h : FailsFirst faults x)
    (hlater : ∀ a, x = .ok a → FailsFirst [] (f a)) : FailsFirst faults (x >>= f) := by
  simpa using h.bind hlater

/-- The faults of a list of steps are those of each step in turn. -/
theorem FailsFirst.mapM {f : α → Except ε β} {faultsOf : α → List ε} {l : List α}
    (h : ∀ a ∈ l, FailsFirst (faultsOf a) (f a)) : FailsFirst (l.flatMap faultsOf) (l.mapM f) := by
  induction l with
  | nil => exact .ok []
  | cons a l ih =>
    rw [List.mapM_cons, List.flatMap_cons]
    refine (h a List.mem_cons_self).bind fun b _ => ?_
    exact (ih fun a' ha' => h a' (List.mem_cons_of_mem _ ha')).bind_never fun bs _ => .ok (b :: bs)

theorem FailsFirst.mapError (f : ε → δ) (h : FailsFirst faults x) :
    FailsFirst (faults.map f) (x.mapError f) := by
  cases h with
  | ok a => exact .ok a
  | error fault others => exact .error (f fault) (others.map f)

end BindingGen

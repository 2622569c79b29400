/-
# Outcomes of computations

A computation of several steps fails with the fault of the first step that fails. `FailsOnly P x`
says that `x` answers or fails with a fault that `P` allows; if `P` allows none, `x` answers. The
outcome of a logged computation is that of the same steps without their journal.

Key definitions: `FailsOnly`, `Refusal.IsOfMember`, `Fault.IsRefusal`, `Fault.Never`.
Key theorems: `bind_eq_ok_iff`, `mapM_eq_ok_iff`, `map_eq_of_forall₂`, `forall₂_iff_eq_map`,
`map_eq_of_mapM`, `mapM_map_congr`, `FailsOnly.bind`, `FailsOnly.mapM`, `Logged.outcome_bind`,
`Logged.outcome_mapM`.
-/
import Mathlib.Data.List.Forall2
import BindingGen.Journal

namespace BindingGen

/-! ### Steps that answer -/

section Except

variable {ε α β : Type}

theorem bind_eq_ok_iff {x : Except ε α} {f : α → Except ε β} {b : β} :
    x >>= f = .ok b ↔ ∃ a, x = .ok a ∧ f a = .ok b := by
  cases x with
  | error e => simp [bind, Except.bind]
  | ok a => simp [bind, Except.bind]

theorem exists_ok_of_isSome {x : Except ε α} (h : x.toOption.isSome = true) :
    ∃ a, x = .ok a := by
  cases x with
  | error e => cases h
  | ok a => exact ⟨a, rfl⟩

theorem map_eq_ok_iff {x : Except ε α} {f : α → β} {b : β} :
    f <$> x = .ok b ↔ ∃ a, x = .ok a ∧ f a = b := by
  cases x with
  | error e => simp [Functor.map, Except.map]
  | ok a => simp [Functor.map, Except.map]

theorem mapError_eq_ok_iff {δ : Type} {x : Except ε α} {f : ε → δ} {a : α} :
    x.mapError f = .ok a ↔ x = .ok a := by
  cases x <;> simp [Except.mapError]

/-- A list of steps answers with one answer per step. -/
theorem mapM_eq_ok_iff {f : α → Except ε β} {l : List α} {r : List β} :
    l.mapM f = .ok r ↔ List.Forall₂ (fun a b => f a = .ok b) l r := by
  induction l generalizing r with
  | nil =>
    rw [List.mapM_nil, List.forall₂_nil_left_iff, pure, Applicative.toPure]
    exact ⟨fun h => (Except.ok.inj h).symm, fun h => congrArg Except.ok h.symm⟩
  | cons a l ih =>
    rw [List.mapM_cons, bind_eq_ok_iff, List.forall₂_cons_left_iff]
    constructor
    · rintro ⟨b, hb, h⟩
      obtain ⟨bs, hbs, h⟩ := bind_eq_ok_iff.mp h
      exact ⟨b, bs, hb, ih.mp hbs, (Except.ok.inj h).symm⟩
    · rintro ⟨b, bs, hb, hbs, rfl⟩
      exact ⟨b, hb, bind_eq_ok_iff.mpr ⟨bs, ih.mpr hbs, rfl⟩⟩

theorem exists_of_mem_forall₂ {R : α → β → Prop} {l : List α} {r : List β}
    (h : List.Forall₂ R l r) {b : β} (hb : b ∈ r) : ∃ a ∈ l, R a b := by
  induction h with
  | nil => cases hb
  | cons hab _ ih =>
    rcases List.mem_cons.mp hb with rfl | hb
    · exact ⟨_, List.mem_cons_self, hab⟩
    · obtain ⟨a, ha, hR⟩ := ih hb
      exact ⟨a, List.mem_cons_of_mem _ ha, hR⟩

/-- What related members have in common, related lists have in common. -/
theorem map_eq_of_forall₂ {γ : Type} {R : α → β → Prop} {l : List α} {r : List β}
    (h : List.Forall₂ R l r) {g : α → γ} {k : β → γ} (hk : ∀ a b, R a b → k b = g a) :
    r.map k = l.map g := by
  induction h with
  | nil => rfl
  | cons hab _ ih => rw [List.map_cons, List.map_cons, hk _ _ hab, ih]

/-- Lists are related member by member by a function's graph if the second is the image of the
first. -/
theorem forall₂_iff_eq_map {R : α → β → Prop} {f : α → β} (h : ∀ a b, R a b ↔ f a = b) {l : List α}
    {r : List β} : List.Forall₂ R l r ↔ r = l.map f := by
  have hgraph : R = fun a b => f a = b := funext fun a => funext fun b => propext (h a b)
  rw [hgraph, ← List.forall₂_map_left_iff, List.forall₂_eq_eq_eq, eq_comm]

theorem exists_of_mem_mapM {f : α → Except ε β} {l : List α} {r : List β} (h : l.mapM f = .ok r)
    {b : β} (hb : b ∈ r) : ∃ a ∈ l, f a = .ok b :=
  exists_of_mem_forall₂ (mapM_eq_ok_iff.mp h) hb

theorem exists_mapM_eq_ok {f : α → Except ε β} {l : List α} (h : ∀ a ∈ l, ∃ b, f a = .ok b) :
    ∃ r, l.mapM f = .ok r := by
  induction l with
  | nil => exact ⟨[], rfl⟩
  | cons a l ih =>
    obtain ⟨b, hb⟩ := h a List.mem_cons_self
    obtain ⟨bs, hbs⟩ := ih fun a' ha' => h a' (List.mem_cons_of_mem _ ha')
    refine ⟨b :: bs, ?_⟩
    rw [mapM_eq_ok_iff] at hbs ⊢
    exact List.Forall₂.cons hb hbs

theorem exists_of_mapM_of_mem {f : α → Except ε β} {l : List α} {r : List β}
    (h : l.mapM f = .ok r) {a : α} (ha : a ∈ l) : ∃ b, f a = .ok b := by
  rw [mapM_eq_ok_iff] at h
  induction h with
  | nil => cases ha
  | cons hab _ ih =>
    rcases List.mem_cons.mp ha with rfl | ha
    · exact ⟨_, hab⟩
    · exact ih ha

/-- What each answer says of itself can be told from the step that gave it. -/
theorem map_eq_of_mapM {γ : Type} {f : α → Except ε β} {l : List α} {r : List β}
    {g : α → γ} {k : β → γ} (h : l.mapM f = .ok r) (hk : ∀ a b, f a = .ok b → k b = g a) :
    r.map k = l.map g :=
  map_eq_of_forall₂ (mapM_eq_ok_iff.mp h) hk

theorem mapM_eq_some_map {f : α → Option β} {g : α → β} {l : List α}
    (h : ∀ a ∈ l, f a = some (g a)) : l.mapM f = some (l.map g) := by
  induction l with
  | nil => rfl
  | cons a l ih =>
    rw [List.mapM_cons, h a List.mem_cons_self, ih fun a' ha' => h a' (List.mem_cons_of_mem _ ha')]
    rfl

/-- Steps over the images of a list depend on what they do for each of its members. -/
theorem mapM_map_congr {m : Type → Type} [Monad m] [LawfulMonad m] {γ : Type} {l : List γ}
    {g g' : γ → α} {f : α → m β} (h : ∀ c ∈ l, f (g c) = f (g' c)) :
    (l.map g).mapM f = (l.map g').mapM f := by
  induction l with
  | nil => rfl
  | cons c l ih =>
    rw [List.map_cons, List.map_cons, List.mapM_cons, List.mapM_cons, h c List.mem_cons_self,
      ih fun c' hc' => h c' (List.mem_cons_of_mem _ hc')]

/-! ### Allowed faults -/

/-- The computation answers, or fails with a fault that `P` allows. -/
def FailsOnly (P : ε → Prop) (x : Except ε α) : Prop := ∀ e, x = .error e → P e

variable {P Q : ε → Prop}

theorem failsOnly_ok (a : α) : FailsOnly P (.ok a : Except ε α) := by
  intro e h
  cases h

theorem failsOnly_pure (a : α) : FailsOnly P (pure a : Except ε α) := failsOnly_ok a

theorem failsOnly_error {e : ε} (h : P e) : FailsOnly P (.error e : Except ε α) := by
  intro e' he
  cases he
  exact h

theorem FailsOnly.mono {x : Except ε α} (h : FailsOnly P x) (hPQ : ∀ e, P e → Q e) :
    FailsOnly Q x := fun e he => hPQ e (h e he)

/-- The later step may use what the first step answered. -/
theorem FailsOnly.bind {x : Except ε α} {f : α → Except ε β} (hx : FailsOnly P x)
    (hf : ∀ a, x = .ok a → FailsOnly P (f a)) : FailsOnly P (x >>= f) := by
  intro e h
  cases x with
  | error e' =>
    cases h
    exact hx e rfl
  | ok a => exact hf a rfl e h

theorem FailsOnly.mapM {f : α → Except ε β} {l : List α} (h : ∀ a ∈ l, FailsOnly P (f a)) :
    FailsOnly P (l.mapM f) := by
  induction l with
  | nil => exact failsOnly_pure _
  | cons a l ih =>
    rw [List.mapM_cons]
    refine (h a List.mem_cons_self).bind fun b _ => ?_
    refine (ih fun a' ha' => h a' (List.mem_cons_of_mem _ ha')).bind fun bs _ => ?_
    exact failsOnly_pure _

end Except

/-- The refusal is that of a member: of a type or of the code that reads an output. -/
def Refusal.IsOfMember (refusal : Refusal) : Prop := ∀ chain, refusal ≠ .inheritanceCycle chain

/-- The fault concerns one object only, for the sake of one of its members. -/
def Fault.IsRefusal (fault : Fault) : Prop :=
  ∃ refusal, fault = .refused refusal ∧ refusal.IsOfMember

/-- No fault is allowed. -/
def Fault.Never (_ : Fault) : Prop := False

section Fault

variable {α : Type} {x : Except Fault α}

theorem FailsOnly.of_never {P : Fault → Prop} (h : FailsOnly Fault.Never x) : FailsOnly P x :=
  h.mono fun _ h => h.elim

theorem exists_ok_of_never (h : FailsOnly Fault.Never x) : ∃ a, x = .ok a := by
  cases x with
  | error fault => exact (h fault rfl).elim
  | ok a => exact ⟨a, rfl⟩

theorem failsOnly_mapError_refused {y : Except Refusal α} (h : FailsOnly Refusal.IsOfMember y) :
    FailsOnly Fault.IsRefusal (y.mapError Fault.refused) := by
  cases y with
  | error refusal => exact failsOnly_error ⟨refusal, rfl, h refusal rfl⟩
  | ok a => exact failsOnly_ok a

end Fault

/-! ### Steps with a journal -/

namespace Logged

variable {α β : Type}

@[simp] theorem outcome_bind (x : Logged α) (f : α → Logged β) :
    (x >>= f).outcome = x.outcome >>= fun a => (f a).outcome := by
  cases h : x.outcome with
  | error fault => rw [bind_error h]; rfl
  | ok a => rw [bind_ok h]; rfl

@[simp] theorem outcome_map (f : α → β) (x : Logged α) : (f <$> x).outcome = f <$> x.outcome := by
  rw [← bind_pure_comp, outcome_bind, ← bind_pure_comp]
  rfl

@[simp] theorem outcome_ofExcept (x : Except Fault α) : (ofExcept x).outcome = x := rfl

@[simp] theorem outcome_mapM (f : α → Logged β) (l : List α) :
    (l.mapM f).outcome = l.mapM fun a => (f a).outcome := by
  induction l with
  | nil => rfl
  | cons a l ih =>
    rw [List.mapM_cons, List.mapM_cons, outcome_bind]
    congr 1
    funext b
    rw [outcome_bind, ih]
    rfl

end Logged
end BindingGen

/-
# The scopes of an equation

An equation is run on names. Its binders, from the outside to the inside, are its arguments, the
brackets of the outputs, the brackets around the call, the variable of the result and the statements
that read the outputs. Each binder gives its name a value that may depend on what another name
stands for, and an inner binder hides an outer one of the same name. The brackets around the call
are closed when the outputs are read.

Key definitions: `Value`, `Scope`, `Binder`, `Binder.Apart`, `Scope.enter`, `Equation.binders`,
`Equation.run`.
Key theorems: `Scope.enter_map`, `Scope.lookup_extend_of_mem`, `Scope.lookup_extend_of_not_mem`.
-/
import BindingGen.Proofs.Function.Equation

namespace BindingGen

/-- What a name of an equation stands for, by the C names of the parameters. -/
inductive Value where
  /-- What the caller gives for a parameter. -/
  | given (cname : String)
  /-- The pointer that is lent for a parameter, to memory that holds nothing yet. -/
  | blank (cname : String)
  /-- The pointer that is lent for a parameter, to memory that holds a value. -/
  | lent (cname : String) (held : Value)
  /-- What is found behind a pointer after the call. -/
  | found (pointer : Value)
  /-- The result of the call. -/
  | result
  deriving DecidableEq

/-- Names with what they stand for, the innermost first. -/
abbrev Scope := List (String × Value)

/-- What a name is bound to. -/
inductive BinderRole where
  | argument (cname : String)
  | pointer (cname : String)
  | result
  | peek (cname : String)
  deriving DecidableEq

/-- A place that binds a name, with the name that it reads. -/
structure Binder where
  role : BinderRole
  name : String
  reads : Option String := none
  deriving DecidableEq

namespace Binder

/-- What the name of a binder stands for, if the name that it reads is in scope. -/
def value? (x : Binder) (scope : Scope) : Option Value :=
  match x.role, x.reads with
  | .argument cname, _ => some (.given cname)
  | .pointer cname, none => some (.blank cname)
  | .pointer cname, some name => (scope.lookup name).map (.lent cname)
  | .result, _ => some .result
  | .peek _, none => none
  | .peek _, some name => (scope.lookup name).map .found

/-- Whether the first binder is a parameter among the arguments, and the second binder the place
where the same parameter is read again. -/
def isReread (x y : Binder) : Bool :=
  match x.role, y.role with
  | .argument cname, .peek cname' => cname = cname'
  | _, _ => false

/-- The binders have different names, but that a parameter may be read again into its argument. -/
def Apart (x y : Binder) : Prop := x.name = y.name → x.isReread y = true

instance (x y : Binder) : Decidable (x.Apart y) :=
  inferInstanceAs (Decidable (x.name = y.name → x.isReread y = true))

theorem apart_of_name_ne {x y : Binder} (h : x.name ≠ y.name) : x.Apart y := fun he => absurd he h

end Binder

/-! ### Scopes -/

namespace Scope

/-- The scope inside further names, the last of them innermost. -/
def extend (scope : Scope) (names : Scope) : Scope := names.reverse ++ scope

/-- The scope inside binders, the last of them innermost. -/
def enter (scope : Scope) : List Binder → Option Scope
  | [] => some scope
  | x :: rest => (x.value? scope).bind fun v => enter ((x.name, v) :: scope) rest

theorem extend_append (scope a b : Scope) : scope.extend (a ++ b) = (scope.extend a).extend b := by
  simp [extend]

theorem lookup_extend_of_not_mem {names : Scope} {name : String}
    (h : name ∉ names.map (·.1)) (scope : Scope) :
    (scope.extend names).lookup name = scope.lookup name := by
  have hnone : names.reverse.lookup name = none := by
    refine List.lookup_eq_none_iff.mpr fun entry hentry => ?_
    have hne : name ≠ entry.1 := fun he =>
      h (he ▸ List.mem_map_of_mem (List.mem_reverse.mp hentry))
    simpa using hne
  rw [extend, List.lookup_append, hnone, Option.none_or]

theorem lookup_extend_of_mem {names : Scope} (hdistinct : (names.map (·.1)).Nodup) {name : String}
    {v : Value} (h : (name, v) ∈ names) (scope : Scope) :
    (scope.extend names).lookup name = some v := by
  obtain ⟨before, after, rfl⟩ := List.append_of_mem h
  have hafter : name ∉ after.map (·.1) := by
    rw [List.map_append, List.map_cons] at hdistinct
    exact (List.nodup_cons.mp (List.nodup_append.mp hdistinct).2.1).1
  rw [List.append_cons, extend_append, lookup_extend_of_not_mem hafter, extend_append]
  exact List.lookup_cons_self

/-- A binder does not see names that it does not read. -/
theorem value?_cons {x : Binder} {name : String} (h : x.reads ≠ some name) (v : Value)
    (scope : Scope) : x.value? ((name, v) :: scope) = x.value? scope := by
  obtain ⟨role, own, reads⟩ := x
  cases reads with
  | none => cases role <;> rfl
  | some other =>
    have hlookup : List.lookup other ((name, v) :: scope) = scope.lookup other := by
      have hne : (other == name) = false := by simpa using h
      rw [List.lookup_cons, hne]
    cases role <;> simp only [Binder.value?, hlookup]

/-- Binders that do not read one another are entered together. -/
theorem enter_map {α : Type} {l : List α} {binder : α → Binder} {value : α → Value} {scope : Scope}
    (hvalue : ∀ a ∈ l, (binder a).value? scope = some (value a))
    (hreads : ∀ a ∈ l, ∀ a' ∈ l, (binder a).reads ≠ some (binder a').name) :
    scope.enter (l.map binder) =
      some (scope.extend (l.map fun a => ((binder a).name, value a))) := by
  induction l generalizing scope with
  | nil => rfl
  | cons a l ih =>
    have hrest : ∀ a' ∈ l, (binder a').value? (((binder a).name, value a) :: scope) =
        some (value a') := by
      intro a' ha'
      rw [value?_cons (hreads a' (List.mem_cons_of_mem _ ha') a List.mem_cons_self)]
      exact hvalue a' (List.mem_cons_of_mem _ ha')
    rw [List.map_cons, enter, hvalue a List.mem_cons_self, Option.bind_some, ih hrest ?_]
    · simp [extend]
    · exact fun a' ha' a'' ha'' =>
        hreads a' (List.mem_cons_of_mem _ ha') a'' (List.mem_cons_of_mem _ ha'')

end Scope

/-! ### Equations -/

namespace Equation

variable (e : Equation)

/-- The arguments of the equation. -/
def argumentBinders : List Binder := e.arguments.map fun x => { role := .argument x.1, name := x.2 }

/-- The brackets of the outputs. -/
def outBinders : List Binder :=
  e.outs.map fun x =>
    { role := .pointer x.1
      name := x.2.bracket.pointer
      reads := x.2.bracket.source.map (·.var) }

/-- The brackets around the call. -/
def lentBinders : List Binder :=
  e.lent.map fun x =>
    { role := .pointer x.1, name := x.2.pointer, reads := x.2.source.map (·.var) }

/-- The variable of the result, if there is one. -/
def resultBinders : List Binder :=
  if e.bindsResult then [{ role := .result, name := "result" }] else []

/-- The statements that read the outputs. -/
def peekBinders : List Binder :=
  e.outs.map fun x => { role := .peek x.1, name := x.2.peek.var, reads := some x.2.peek.pointer }

/-- The binders of the equation, in the order of its text. -/
def binders : List Binder :=
  e.argumentBinders ++ e.outBinders ++ e.resultBinders ++ e.lentBinders ++ e.peekBinders

/-- The binders of the equation are apart, each from those behind it. -/
def BindsApart : Prop := e.binders.Pairwise Binder.Apart

instance : Decidable e.BindsApart := inferInstanceAs (Decidable (e.binders.Pairwise Binder.Apart))

/-- What the names that an equation uses stand for: the argument that the call is given for each
parameter, the variable of the result, and the component that is returned for each output. -/
structure Run where
  passed : List (String × Value)
  result : Option Value
  returned : List (String × Value)
  deriving DecidableEq

/-- The names that the equation uses, each looked up where it stands, if all of them are in
scope. -/
def run : Option Run := do
  let arguments ← Scope.enter [] e.argumentBinders
  let block ← arguments.enter e.outBinders
  let inside ← block.enter e.lentBinders
  let passed ← e.passed.mapM fun x => (inside.lookup x.2.var).map (x.1, ·)
  let behind ← block.enter e.resultBinders
  let behind ← behind.enter e.peekBinders
  let result ← if e.bindsResult then (behind.lookup "result").map some else some none
  let returned ← e.outs.mapM fun x => (behind.lookup x.2.component.var).map (x.1, ·)
  return { passed, result, returned }

end Equation
end BindingGen

/-
# Answers with a journal

A computation that may fail keeps the journal it wrote up to the fault. Journals of computations
that follow one another are joined in order.

Key definitions: `Severity`, `Topic`, `Record`, `Logged`, `Logged.tell`, `Logged.ofExcept`.
-/
import BindingGen.Fault

namespace BindingGen

/-- How much a record matters. -/
inductive Severity where
  | debug
  | warning
  | error
  deriving DecidableEq

/-- The name of a severity. -/
def Severity.label : Severity → String
  | .debug => "DEBUG"
  | .warning => "WARNING"
  | .error => "ERROR"

/-- The activity that writes a record. -/
inductive Topic where
  | symbols
  | collate
  | codegen
  deriving DecidableEq

/-- The name of the channel a topic is written to. -/
def Topic.channel : Topic → String
  | .symbols => "apigen.symbols"
  | .collate => "apigen.collate"
  | .codegen => "apigen.codegen"

/-- An entry of the journal. -/
structure Record where
  severity : Severity
  topic : Topic
  message : String
  deriving DecidableEq

/-- An answer or a fault, with the journal written on the way. -/
structure Logged (α : Type) where
  outcome : Except Fault α
  records : List Record

namespace Logged

variable {α β : Type}

/-- Runs one computation after another, unless the first fails. -/
def andThen (x : Logged α) (f : α → Logged β) : Logged β :=
  match x.outcome with
  | .ok a => ⟨(f a).outcome, x.records ++ (f a).records⟩
  | .error fault => ⟨.error fault, x.records⟩

instance : Monad Logged where
  pure a := ⟨.ok a, []⟩
  bind := andThen

/-- Writes records. -/
def tell (records : List Record) : Logged Unit := ⟨.ok (), records⟩

/-- An answer that writes no record. -/
def ofExcept (outcome : Except Fault α) : Logged α := ⟨outcome, []⟩

@[simp] theorem pure_outcome (a : α) : (pure a : Logged α).outcome = .ok a := rfl

@[simp] theorem pure_records (a : α) : (pure a : Logged α).records = [] := rfl

theorem bind_ok {x : Logged α} {a : α} (h : x.outcome = .ok a) (f : α → Logged β) :
    x >>= f = ⟨(f a).outcome, x.records ++ (f a).records⟩ := by
  show andThen x f = _
  simp [andThen, h]

theorem bind_error {x : Logged α} {fault : Fault} (h : x.outcome = .error fault)
    (f : α → Logged β) : x >>= f = ⟨.error fault, x.records⟩ := by
  show andThen x f = _
  simp [andThen, h]

instance : LawfulMonad Logged := LawfulMonad.mk' Logged
  (fun x => by
    show andThen x _ = x
    rcases x with ⟨_ | a, records⟩
    · rfl
    · exact congrArg (Logged.mk (.ok a)) (List.append_nil records))
  (fun a f => by
    show andThen (pure a) f = f a
    simp [andThen, pure])
  (fun x f g => by
    show andThen (andThen x f) g = andThen x fun a => andThen (f a) g
    rcases x with ⟨_ | a, _⟩
    · simp [andThen]
    · rcases h : f a with ⟨_ | _, _⟩ <;> simp [andThen, h])

end Logged
end BindingGen

/-
# Calls

The call of a C function with the code around it: brackets that lend a pointer for the time of the
call, outermost first, the call itself and its arguments, and what is done to its result.

Key definitions: `Operand`, `Bracket`, `Call`, `Call.pass`, `Call.render`, `ResultGlue`.
-/

namespace BindingGen

/-- The break in front of a line that is indented by `level` steps. -/
def indent (level : Nat) : String := "\n" ++ String.ofList (List.replicate (2 * level) ' ')

/-- A variable, or a conversion of it. -/
structure Operand where
  conversion : Option String := none
  var : String
  deriving DecidableEq

/-- An operand as an argument. -/
def Operand.argument (x : Operand) : String :=
  match x.conversion with
  | none => x.var
  | some f => "(" ++ f ++ " " ++ x.var ++ ")"

/-- An operand on its own. -/
def Operand.bare (x : Operand) : String :=
  match x.conversion with
  | none => x.var
  | some f => f ++ " " ++ x.var

/-- Code that lends a pointer to what it encloses: a lender, what it reads, and the pointer's
name. -/
structure Bracket where
  lender : String
  source : Option Operand := none
  pointer : String
  deriving DecidableEq

/-- The text of a bracket. -/
def Bracket.render (b : Bracket) : String :=
  b.lender ++ (b.source.elim "" fun x => " " ++ x.argument) ++ " $ \\" ++ b.pointer ++ " ->"

/-- How a parameter is handed to the call: inside a bracket or not, and as which argument. -/
structure ArgumentGlue where
  bracket : Option Bracket := none
  argument : Operand
  deriving DecidableEq

/-- A call inside brackets, the outermost first. -/
structure Call where
  brackets : List Bracket := []
  hook : String
  arguments : List Operand := []
  deriving DecidableEq

namespace Call

/-- The call with one more argument; its bracket encloses those that are there. -/
def pass (call : Call) (glue : ArgumentGlue) : Call :=
  { call with
    brackets := glue.bracket.toList ++ call.brackets
    arguments := call.arguments ++ [glue.argument] }

/-- The text of a call: a line for each bracket, the call, and a line for each argument. -/
def render (call : Call) : String :=
  String.join (call.brackets.map fun b => b.render ++ indent 1) ++ call.hook ++
    String.join (call.arguments.map fun x => indent 2 ++ x.argument)

end Call

/-- What is done to the result of a call: nothing, a conversion, a reading of what it points to,
or the making of an object. The last two may allow for a null pointer. -/
inductive ResultGlue where
  | direct
  | convert (conversion : String)
  | read (reader : String) (nullable : Bool)
  | make (maker : String) (nullable : Bool)
  deriving DecidableEq

/-- The text of a call with what is done to its result. -/
def ResultGlue.apply (call : String) : ResultGlue → String
  | .direct => call
  | .convert conversion => "liftM " ++ conversion ++ " $" ++ indent 1 ++ call
  | .read reader false => call ++ indent 1 ++ ">>= " ++ reader
  | .read reader true => call ++ indent 1 ++ ">>= maybePeek " ++ reader
  | .make maker false => maker ++ " $" ++ indent 1 ++ call
  | .make maker true => "maybeNull (" ++ maker ++ ") $" ++ indent 1 ++ call

end BindingGen

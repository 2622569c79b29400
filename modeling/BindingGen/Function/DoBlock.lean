/-
# Outputs

The body of a function with outputs: the brackets that lend their pointers, one a line, the last
of which opens a block of statements. The block calls the function, reads the outputs in order and
returns the result, if there is one, and what was read.

Key definitions: `OutText`, `doBlock`.
-/
import BindingGen.Marshal.Call
import BindingGen.Fault

namespace BindingGen

/-- The text of an output: the bracket that lends its pointer, the statement that reads it, and
the component of the result that returns it. -/
structure OutText where
  before : String
  after : String
  component : String
  deriving DecidableEq

/-- The outputs, if all of them have text and there is one at least. -/
def allOutTexts (outputs : List (Option OutText)) : Except Refusal (List OutText) :=
  if outputs.isEmpty || outputs.any (·.isNone) then .error .missingOutGlue
  else .ok (outputs.filterMap id)

/-- A text with its lines after the first moved one step to the right. -/
def nested (text : String) : String :=
  String.ofList (text.toList.flatMap fun c => if c = '\n' then ['\n', ' ', ' '] else [c])

/-- The lines with the last one opening a block. -/
def openBlock : List String → List String
  | [] => []
  | [line] => [line ++ " do"]
  | line :: lines => line :: openBlock lines

/-- The statement that makes the call. -/
def callStatement (call : String) (hasResult : Bool) : String :=
  if hasResult then "result <-" ++ indent 2 ++ nested call else nested call

/-- The lines of a body with outputs. -/
def blockLines (call : String) (hasResult : Bool) (outputs : List OutText) : List String :=
  let components := (if hasResult then ["result"] else []) ++ outputs.map (·.component)
  openBlock (outputs.map (·.before)) ++ [callStatement call hasResult] ++
    outputs.map (·.after) ++ ["return (" ++ ", ".intercalate components ++ ")"]

/-- The body of a function with outputs. -/
def doBlock (call : String) (hasResult : Bool) (outputs : List (Option OutText)) :
    Except Refusal String :=
  match allOutTexts outputs with
  | .ok texts => .ok ((indent 1).intercalate (blockLines call hasResult texts))
  | .error refusal => .error refusal

end BindingGen

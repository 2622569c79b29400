/-
# Signal handlers

The functions that connect a handler to a signal, before or after the handlers of the object. The
helper they call is named for the categories of the handler's arguments and of its result. The
object that emits the signal is not an argument of the handler.

Key definitions: `Handler`, `Handler.ofSignal`, `Handler.helper`, `Handler.render`.
-/
import BindingGen.Haddock.Comment
import BindingGen.Marshal.Value
import BindingGen.Member.Signal

namespace BindingGen

/-- The parameters of a handler: those of the signal without the object that emits it. -/
def Signal.handlerParameters (obj : Object) (s : Signal) : List Parameter :=
  match s.parameters with
  | [] => []
  | p :: rest => if CType.normalize p.type = obj.cname ++ "*" then rest else p :: rest

/-- A handler: the categories and types of its arguments and of its result. -/
structure Handler where
  arguments : List (String × HsType)
  result : String × HsType
  deriving DecidableEq

namespace Handler

/-- The handler of a signal. -/
def ofSignal (symbols : SymbolTable) (settings : Settings) (obj : Object) (s : Signal) :
    Except Refusal Handler := do
  let arguments ← (s.handlerParameters obj).mapM fun p =>
    marshalSignal symbols settings s.cname p.type
  let result ← marshalSignal symbols settings s.cname s.returnType
  return { arguments, result }

variable (h : Handler)

/-- The name of the helper that connects a handler. -/
def helper : String :=
  let categories := if h.arguments.isEmpty then ["NONE"] else h.arguments.map (·.1)
  "connect_" ++ "_".intercalate categories ++ "__" ++ h.result.1

/-- The type of a handler. -/
def type : String :=
  let result := "IO " ++ parenthesized h.result.2.render
  if h.arguments.isEmpty then result
  else "(" ++ " -> ".intercalate (h.arguments.map (·.2.render) ++ [result]) ++ ")"

/-- The text of the functions that connect a handler: comment, signature and equations. -/
def render (ctx : DocContext) (obj : Object) (s : Signal) (doc : Option MemberDoc) :
    Except Fault String := do
  let comment ← ctx.comment (MemberDoc.paragraphsOf doc)
  let name := s.studlyName
  return comment ++ "on" ++ name ++ ", after" ++ name ++ " :: " ++ obj.name ++
    "Class self => self\n -> " ++ h.type ++ "\n -> IO (ConnectId self)\n" ++
    "on" ++ name ++ " = " ++ h.helper ++ " \"" ++ s.cname ++ "\" False\n" ++
    "after" ++ name ++ " = " ++ h.helper ++ " \"" ++ s.cname ++ "\" True"

end Handler

end BindingGen

/-
# Bound functions

The Haskell function for a C function. Its inputs are the parameters that carry a value in, its
result is the C result and what the outputs carry back. The parts of the function are put together
first (`Binding.ofMethod`) and written down after that (`Binding.render`).

Key definitions: `CallHook`, `BoundParameter`, `Binding`, `Binding.ofMethod`, `Binding.render`,
`Binding.write`.
-/
import BindingGen.Function.DoBlock
import BindingGen.Function.ResultDoc
import BindingGen.Function.Signature
import BindingGen.Marshal.Parameter
import BindingGen.Marshal.Result
import BindingGen.PriorModule

namespace BindingGen

/-- The call hook of a C function: the name it is called by and whether the call is unsafe. -/
structure CallHook where
  name : String
  isUnsafe : Bool
  deriving DecidableEq

/-- The call hook of a C function that the prior module may have called. -/
def CallHook.ofPrior (cname : String) : Option PriorCall → CallHook
  | none => { name := cname, isUnsafe := false }
  | some call => { name := call.hookName, isUnsafe := call.isUnsafe }

/-- The text of a call hook. -/
def CallHook.render (hook : CallHook) : String :=
  (if hook.isUnsafe then "\x7b# call unsafe " else "\x7b# call ") ++ hook.name ++ " #\x7d"

/-- A C parameter with its Haskell variable and the way it is handed over. -/
structure BoundParameter where
  cname : String
  var : String
  marshaled : MarshaledParameter
  deriving DecidableEq

/-- Whether a parameter is an argument of the Haskell function. -/
def BoundParameter.isInput (p : BoundParameter) : Bool := p.marshaled.direction != .output

/-- Whether a parameter is a part of the Haskell function's result. -/
def BoundParameter.isOutput (p : BoundParameter) : Bool := p.marshaled.direction != .input

/-- How the parameters of a function are handed over. -/
def bindParameters (symbols : SymbolTable) (settings : Settings) (function : String)
    (parameters : List Parameter) : Except Refusal (List BoundParameter) :=
  parameters.mapM fun p => do
    let var := Name.ofParameter p.name
    let marshaled ← marshalParameter symbols settings function var p.type
    return { cname := p.name, var, marshaled }

/-- A bound function: its names, its parameters and its result, what is said of them, and the
call hook. -/
structure Binding where
  cname : String
  name : String
  parameters : List BoundParameter
  result : MarshaledResult
  docs : List (String × List Span)
  paragraphs : List Para
  hook : CallHook

namespace Binding

/-- The bound function of a method. -/
def ofMethod (symbols : SymbolTable) (settings : Settings) (isConstructor : Bool) (method : Method)
    (doc : Option FunctionDoc) (prior : Option PriorCall) : Except Refusal Binding := do
  let parameters ← bindParameters symbols settings method.cname method.parameters
  let result ← marshalResult symbols settings method.cname isConstructor method.returnType
  return {
    cname := method.cname
    name := Name.ofFunction settings method.cname
    parameters
    result
    docs := paramDocs settings method.cname doc
    paragraphs := FunctionDoc.paragraphsOf doc
    hook := .ofPrior method.cname prior }

variable (b : Binding)

/-- The parameters that are arguments of the function. -/
def inputs : List BoundParameter := b.parameters.filter (·.isInput)

/-- The parameters that are parts of the function's result. -/
def outputs : List BoundParameter := b.parameters.filter (·.isOutput)

/-- Whether the C result is a part of what is returned next to the outputs. -/
def hasResult : Bool := b.result.type != .unit

/-- The class constraints, each of them once. -/
def constraints : List String := (b.parameters.filterMap (·.marshaled.constraint)).eraseDups

/-- The types that are returned: that of the C result, unless it carries nothing and there are
outputs, and those of the outputs. -/
def components : List HsType :=
  (if b.outputs.isEmpty || b.hasResult then [b.result.type] else []) ++
    b.outputs.map (·.marshaled.type)

/-- The type of the result. -/
def resultType : String :=
  match b.components.map (·.render) with
  | [type] => "IO " ++ parenthesized type
  | types => "IO (" ++ ", ".intercalate types ++ ")"

/-- What is said of the result: of the C result and of the outputs in order. -/
def resultDocs : List (List Span) :=
  (b.docs.lookup resultDocName :: b.outputs.map fun p => b.docs.lookup p.cname).filterMap id

/-- The types of the signature with their documentation. -/
def types : List (String × Option (List Span)) :=
  (b.inputs.map fun p => (p.marshaled.type.render, b.docs.lookup p.cname)) ++
    [(b.resultType, mergeDocs b.resultDocs)]

/-- The call with every parameter handed over. -/
def call : Call := b.parameters.foldl (fun c p => c.pass p.marshaled.glue) { hook := b.hook.render }

/-- The text of an output. -/
def outText (glue : OutGlue) : OutText where
  before := glue.bracket.render
  after := glue.peek.render
  component := glue.component.bare

/-- The body of the function. -/
def body : Except Refusal String :=
  let call := b.result.glue.apply b.call.render
  if b.outputs.isEmpty then .ok call
  else doBlock call b.hasResult (b.outputs.map fun p => p.marshaled.out.map outText)

/-- The left-hand side of the equation. -/
def head : String := b.name ++ " " ++ String.join (b.inputs.map fun p => p.var ++ " ")

/-- The text of the function: comment, signature and equation. -/
def render (ctx : DocContext) : Except Fault String := do
  let signature ← ctx.signature b.types
  let body ← b.body.mapError .refused
  let comment ← ctx.comment b.paragraphs
  return comment ++ b.name ++ " :: " ++ constraintText b.constraints ++ signature ++ "\n" ++
    b.head ++ "=" ++ indent 1 ++ body

/-- Whether a null pointer is `Nothing` in the result or in a parameter. -/
def handlesNull (settings : Settings) : Bool :=
  settings.maybeNullResult b.cname ||
    b.parameters.any fun p => settings.maybeNullParameter b.cname p.var

/-- Writes the function down, and a note in the journal if its result has several texts. -/
def write (symbols : SymbolTable) (settings : Settings) : Logged String := do
  Logged.tell (mergeRecords b.cname b.resultDocs)
  Logged.ofExcept (b.render ⟨symbols, settings, b.handlesNull settings⟩)

end Binding

end BindingGen

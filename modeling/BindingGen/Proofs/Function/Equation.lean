/-
# The equation of a bound function

A function is written parameter by parameter, and what the parameters add is wrapped around the
call, or appended to it, or gathered in a block. The equation that comes of it has one shape for all
of them: its arguments; the brackets of the outputs, the last of which opens a block; the brackets
of the inputs; the call hook with one argument for each parameter; the statements that read the
outputs; and what is returned. Without outputs there is no block, and with outputs the call is
nested in it.

Key definitions: `Equation`, `Equation.opening`, `Equation.closing`, `Equation.render`,
`Equation.IsWritten`, `Binding.equation`.
Key theorems: `Equation.isWritten`, `Binding.body_eq`, `Binding.exists_of_render`.
-/
import BindingGen.Function.Binding
import BindingGen.Proofs.Marshal.Parameter
import BindingGen.Proofs.Outcome
import BindingGen.Proofs.Text.Join

namespace BindingGen

/-! ### Layout -/

theorem nested_append (a b : String) : nested (a ++ b) = nested a ++ nested b := by
  simp only [nested, String.toList_append, List.flatMap_append, String.ofList_append]

theorem nested_join (texts : List String) :
    nested (String.join texts) = String.join (texts.map nested) := by
  induction texts with
  | nil => rfl
  | cons text texts ih =>
    rw [String.join_cons, nested_append, ih, List.map_cons, String.join_cons]

theorem nested_of_not_mem {line : String} (h : '\n' ∉ line.toList) : nested line = line := by
  rw [← String.toList_inj, nested, String.toList_ofList]
  generalize line.toList = cs at h ⊢
  induction cs with
  | nil => rfl
  | cons c rest ih =>
    rw [List.mem_cons, not_or] at h
    rw [List.flatMap_cons, ih h.2, if_neg (Ne.symm h.1)]
    rfl

theorem nested_indent (level : Nat) : nested (indent level) = indent (level + 1) := by
  have hblanks : '\n' ∉ (String.ofList (List.replicate (2 * level) ' ')).toList := by simp
  have hbreak : nested "\n" = "\n" ++ String.ofList (List.replicate 2 ' ') := rfl
  have hcount : 2 * (level + 1) = 2 + 2 * level := by omega
  rw [indent, nested_append, nested_of_not_mem hblanks, hbreak, indent, hcount, List.replicate_add,
    String.ofList_append, String.append_assoc]

/-- Lines of which the last opens a block, each with a separator behind it. -/
theorem join_openBlock (separator : String) {lines : List String} (h : lines ≠ []) :
    String.join ((openBlock lines).map (· ++ separator)) =
      separator.intercalate lines ++ " do" ++ separator := by
  fun_induction openBlock lines with
  | case1 => exact absurd rfl h
  | case2 line => simp
  | case3 line lines hlines ih =>
    obtain ⟨next, rest, rfl⟩ := List.exists_cons_of_ne_nil hlines
    rw [List.map_cons, String.join_cons, ih hlines, String.intercalate_cons_cons]
    simp only [String.append_assoc]

/-- What is done to the result of a call in front of it. -/
def ResultGlue.lead : ResultGlue → String
  | .direct => ""
  | .convert conversion => "liftM " ++ conversion ++ " $" ++ indent 1
  | .read _ _ => ""
  | .make maker false => maker ++ " $" ++ indent 1
  | .make maker true => "maybeNull (" ++ maker ++ ") $" ++ indent 1

/-- What is done to the result of a call behind it. -/
def ResultGlue.trail : ResultGlue → String
  | .read reader false => indent 1 ++ ">>= " ++ reader
  | .read reader true => indent 1 ++ ">>= maybePeek " ++ reader
  | _ => ""

theorem ResultGlue.apply_eq (glue : ResultGlue) (call : String) :
    glue.apply call = glue.lead ++ call ++ glue.trail := by
  cases glue with
  | direct => simp [apply, lead, trail]
  | convert conversion => simp [apply, lead, trail]
  | read reader nullable => cases nullable <;> simp [apply, lead, trail, String.append_assoc]
  | make maker nullable => cases nullable <;> simp [apply, lead, trail]

/-- The text is a hook that calls the C function. -/
def IsHookOf (name text : String) : Prop :=
  text = "\x7b# call " ++ name ++ " #\x7d" ∨ text = "\x7b# call unsafe " ++ name ++ " #\x7d"

theorem CallHook.isHookOf_render (hook : CallHook) : IsHookOf hook.name hook.render := by
  unfold render
  cases hook.isUnsafe with
  | false => exact .inl rfl
  | true => exact .inr rfl

/-! ### Equations -/

/-- The equation of a function. What belongs to a C parameter is found under its C name. -/
structure Equation where
  name : String
  /-- The variables that are arguments. -/
  arguments : List (String × String)
  /-- The outputs; without outputs, the call is the whole body. -/
  outs : List (String × OutGlue)
  /-- The brackets around the call. -/
  lent : List (String × Bracket)
  result : ResultGlue
  hasResult : Bool
  hook : String
  /-- What the call is given. -/
  passed : List (String × Operand)

namespace Equation

variable (e : Equation)

/-- Whether the result of the call is bound to a variable. -/
def bindsResult : Bool := !e.outs.isEmpty && e.hasResult

/-- A part of the call, which is nested in a block. -/
def layout (text : String) : String := if e.outs.isEmpty then text else nested text

/-- The body in front of the call hook. -/
def opening : String :=
  String.join ((openBlock (e.outs.map (·.2.bracket.render))).map (· ++ indent 1)) ++
    (if e.bindsResult then "result <-" ++ indent 2 else "") ++
    e.layout (e.result.lead ++ String.join (e.lent.map fun x => x.2.render ++ indent 1))

/-- The components of what is returned. -/
def returned : List String :=
  (if e.hasResult then ["result"] else []) ++ e.outs.map (·.2.component.bare)

/-- The body behind the arguments of the call. -/
def closing : String :=
  e.layout e.result.trail ++ String.join (e.outs.map fun x => indent 1 ++ x.2.peek.render) ++
    if e.outs.isEmpty then "" else indent 1 ++ "return (" ++ ", ".intercalate e.returned ++ ")"

/-- The text of the body. -/
def body : String :=
  e.opening ++ e.layout e.hook ++
    String.join (e.passed.map fun x => e.layout (indent 2 ++ x.2.argument)) ++ e.closing

/-- The text of the equation. -/
def render : String :=
  e.name ++ " " ++ String.join (e.arguments.map (·.2 ++ " ")) ++ "=" ++ indent 1 ++ e.body

/-- How deep the call is nested. -/
def depth : Nat := if e.outs.isEmpty then 0 else 1

/-- The way an equation is written. Behind its arguments is its body: the brackets of the outputs,
the last of which opens a block, what is done to the result in front of the call, the brackets of
the inputs, the call hook with a line for each argument, and the closing. Each bracket binds its
pointer, and each argument is the variable that is passed. In a block, the call is further to the
right; a text on one line stays as it is. -/
structure IsWritten : Prop where
  text : e.render = e.name ++ " " ++ String.join (e.arguments.map (·.2 ++ " ")) ++ "=" ++
    indent 1 ++ (e.opening ++ e.layout e.hook ++
      String.join (e.passed.map fun x => indent (2 + e.depth) ++ e.layout x.2.argument) ++
      e.closing)
  opening : e.opening =
    (if e.outs = [] then ""
      else (indent 1).intercalate (e.outs.map (·.2.bracket.render)) ++ " do" ++ indent 1) ++
    (if e.bindsResult then "result <-" ++ indent 2 else "") ++ e.layout e.result.lead ++
    String.join (e.lent.map fun x => e.layout x.2.render ++ indent (1 + e.depth))
  out : ∀ x ∈ e.outs, BindsPointer x.2.bracket.pointer x.2.bracket.render
  lent : ∀ x ∈ e.lent, BindsPointer x.2.pointer x.2.render
  argument : ∀ x ∈ e.passed, IsArgumentOf x.2.var x.2.argument
  line : ∀ text : String, '\n' ∉ text.toList → e.layout text = text

variable {e}

theorem layout_append (a b : String) : e.layout (a ++ b) = e.layout a ++ e.layout b := by
  unfold layout
  split
  · rfl
  · exact nested_append a b

theorem layout_join (texts : List String) :
    e.layout (String.join texts) = String.join (texts.map e.layout) := by
  unfold layout
  split
  · rw [List.map_id']
  · exact nested_join texts

theorem layout_indent (level : Nat) : e.layout (indent level) = indent (level + e.depth) := by
  unfold layout depth
  split
  · rfl
  · exact nested_indent level

theorem isWritten (e : Equation) : e.IsWritten where
  text := by
    simp only [render, body, layout_append, layout_indent]
  opening := by
    have hbrackets :
        String.join ((openBlock (e.outs.map (·.2.bracket.render))).map (· ++ indent 1)) =
        if e.outs = [] then ""
        else (indent 1).intercalate (e.outs.map (·.2.bracket.render)) ++ " do" ++ indent 1 := by
      split_ifs with houts
      · rw [houts]
        rfl
      · exact join_openBlock _ (by simpa using houts)
    rw [Equation.opening, hbrackets, layout_append, layout_join, List.map_map,
      ← String.append_assoc]
    simp only [Function.comp_def, layout_append, layout_indent]
  out x _ := x.2.bracket.bindsPointer_render
  lent x _ := x.2.bindsPointer_render
  argument x _ := x.2.isArgumentOf_argument
  line text htext := by
    unfold layout
    split
    · rfl
    · exact nested_of_not_mem htext

end Equation

namespace Binding

variable {b : Binding}

/-- The equation of a bound function. -/
def equation (b : Binding) : Equation where
  name := b.name
  arguments := b.inputs.map fun p => (p.cname, p.var)
  outs := b.outputs.filterMap fun p => p.marshaled.out.map (p.cname, ·)
  lent := (b.parameters.filterMap fun p => p.marshaled.glue.bracket.map (p.cname, ·)).reverse
  result := b.result.glue
  hasResult := b.hasResult
  hook := b.hook.render
  passed := b.parameters.map fun p => (p.cname, p.marshaled.glue.argument)

/-- Parameters are passed in order, and each bracket encloses those before it. -/
theorem foldl_pass (parameters : List BoundParameter) (call : Call) :
    parameters.foldl (fun c p => c.pass p.marshaled.glue) call =
      { brackets := (parameters.filterMap (·.marshaled.glue.bracket)).reverse ++ call.brackets
        hook := call.hook
        arguments := call.arguments ++ parameters.map (·.marshaled.glue.argument) } := by
  induction parameters generalizing call with
  | nil => simp
  | cons p parameters ih =>
    rw [List.foldl_cons, ih]
    cases hbracket : p.marshaled.glue.bracket <;> simp [Call.pass, hbracket]

theorem call_eq (b : Binding) : b.call =
    { brackets := b.equation.lent.map (·.2)
      hook := b.equation.hook
      arguments := b.equation.passed.map (·.2) } := by
  unfold call
  rw [foldl_pass]
  simp [equation, List.map_filterMap, Function.comp_def]

theorem render_call (b : Binding) : b.call.render =
    String.join (b.equation.lent.map fun x => x.2.render ++ indent 1) ++ b.equation.hook ++
      String.join (b.equation.passed.map fun x => indent 2 ++ x.2.argument) := by
  rw [call_eq, Call.render, List.map_map, List.map_map]
  rfl

theorem allOutTexts_eq_ok {texts : List OutText}
    (h : allOutTexts (b.outputs.map fun p => p.marshaled.out.map outText) = .ok texts) :
    b.equation.outs ≠ [] ∧ texts = b.equation.outs.map fun x => outText x.2 := by
  unfold allOutTexts at h
  split at h
  · cases h
  rename_i hpresent
  have htexts : texts = b.equation.outs.map fun x => outText x.2 := by
    rw [← Except.ok.inj h]
    simp [equation, List.map_filterMap, List.filterMap_map, Function.comp_def]
  refine ⟨fun hnone => ?_, htexts⟩
  -- a first output would have code, and so be among the outputs of the equation
  cases houtputs : b.outputs with
  | nil => simp [houtputs] at hpresent
  | cons p rest =>
    cases hout : p.marshaled.out with
    | none => simp [houtputs, hout] at hpresent
    | some glue => simp [equation, houtputs, hout] at hnone

theorem body_of_outs_eq_nil (h : b.equation.outs = []) :
    b.equation.body = b.result.glue.apply b.call.render := by
  have hlayout (text : String) : b.equation.layout text = text := by
    rw [Equation.layout, h]
    rfl
  have hbinds : b.equation.bindsResult = false := by
    rw [Equation.bindsResult, h]
    rfl
  have hopening : b.equation.opening = b.result.glue.lead ++
      String.join (b.equation.lent.map fun x => x.2.render ++ indent 1) := by
    simp only [Equation.opening, h, hbinds, hlayout]
    simp [openBlock, equation]
  have hclosing : b.equation.closing = b.result.glue.trail := by
    simp only [Equation.closing, h, hlayout]
    simp [equation]
  rw [ResultGlue.apply_eq, render_call]
  simp only [Equation.body, hopening, hclosing, hlayout, String.append_assoc]

theorem body_of_outs_ne_nil (h : b.equation.outs ≠ []) :
    b.equation.body = (indent 1).intercalate
      (blockLines (b.result.glue.apply b.call.render) b.hasResult
        (b.equation.outs.map fun x => outText x.2)) := by
  have hblock : b.equation.outs.isEmpty = false := by simpa using h
  have hlayout (text : String) : b.equation.layout text = nested text := by
    rw [Equation.layout, hblock]
    rfl
  have hbinds : b.equation.bindsResult = b.hasResult := by
    rw [Equation.bindsResult, hblock]
    rfl
  have hstatement : callStatement (b.result.glue.apply b.call.render) b.hasResult =
      (if b.hasResult then "result <-" ++ indent 2 else "") ++
        nested (b.result.glue.apply b.call.render) := by
    unfold callStatement
    split <;> simp
  have hcall : nested (b.result.glue.apply b.call.render) =
      nested (b.result.glue.lead ++
        String.join (b.equation.lent.map fun x => x.2.render ++ indent 1)) ++
      nested b.equation.hook ++
      String.join (b.equation.passed.map fun x => nested (indent 2 ++ x.2.argument)) ++
      nested b.result.glue.trail := by
    rw [ResultGlue.apply_eq, render_call]
    simp only [nested_append, nested_join, List.map_map, Function.comp_def, String.append_assoc]
  rw [blockLines, List.append_assoc, List.append_assoc, List.singleton_append,
    Text.intercalate_append_cons, hstatement, hcall]
  simp only [Equation.body, Equation.opening, Equation.closing, Equation.returned, hlayout, hbinds,
    hblock, Bool.false_eq_true, if_false, List.map_append, List.map_cons, List.map_nil,
    List.map_map, Function.comp_def, String.join_append, String.join_cons, String.join_nil,
    String.append_empty, String.append_assoc]
  rfl

/-- The body of a function is that of its equation. -/
theorem body_eq {text : String} (h : b.body = .ok text) : text = b.equation.body := by
  unfold body at h
  split at h
  · rename_i hempty
    have houts : b.equation.outs = [] := by simp [equation, List.isEmpty_iff.mp hempty]
    rw [body_of_outs_eq_nil houts]
    exact (Except.ok.inj h).symm
  · unfold doBlock at h
    split at h
    · rename_i texts htexts
      obtain ⟨hne, rfl⟩ := allOutTexts_eq_ok htexts
      rw [body_of_outs_ne_nil hne]
      exact (Except.ok.inj h).symm
    · cases h

/-- A function is written as a comment, a signature and its equation. -/
theorem exists_of_render {ctx : DocContext} {text : String} (h : b.render ctx = .ok text) :
    ∃ comment signature, ctx.signature b.types = .ok signature ∧
      text = comment ++ b.name ++ " :: " ++ constraintText b.constraints ++ signature ++ "\n" ++
        b.equation.render := by
  unfold render at h
  obtain ⟨signature, hsignature, h⟩ := bind_eq_ok_iff.mp h
  obtain ⟨body, hbody, h⟩ := bind_eq_ok_iff.mp h
  obtain ⟨comment, -, h⟩ := bind_eq_ok_iff.mp h
  refine ⟨comment, signature, hsignature, ?_⟩
  rw [← Except.ok.inj h, body_eq (mapError_eq_ok_iff.mp hbody)]
  simp only [head, Equation.render, equation, List.map_map, Function.comp_def, String.append_assoc]

end Binding
end BindingGen

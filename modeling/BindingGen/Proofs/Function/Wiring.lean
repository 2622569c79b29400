/-
# The equation, parameter by parameter

A function is bound parameter by parameter, in order. What its equation holds can be told from the
bound parameters: the outputs of the equation are those of the function, the brackets around the
call are those of the lent inputs, the last of them outermost, and the parameters that have a
pointer are the outputs and the lent inputs.

Key definitions: `Parameter.marshaled?`, `Method.inputs`, `Method.outputs`, `Parameter.Binds`,
`Binding.lentInputs`.
Key theorems: `Binding.binds_of_ofMethod`, `Binding.binds_inputs`, `Binding.binds_outputs`,
`Binding.outs_map`, `Binding.lent_map`, `Binding.perm_pointed`, `Binding.nodup_pointed`.
-/
import Mathlib.Data.List.Nodup
import BindingGen.Proofs.Function.Equation
import BindingGen.Proofs.Marshal.Parameter

namespace BindingGen

open MarshaledParameter

/-- How a parameter of a C function is handed over, if its type can be. -/
def Parameter.marshaled? (symbols : SymbolTable) (settings : Settings) (function : String)
    (q : Parameter) : Option MarshaledParameter :=
  marshalType? symbols settings function (Name.ofParameter q.name) (.parse q.type)

/-- The parameters of a method that are not just outputs. -/
def Method.inputs (symbols : SymbolTable) (settings : Settings) (method : Method) :
    List Parameter :=
  method.parameters.filter fun q =>
    (q.marshaled? symbols settings method.cname).any (·.direction != .output)

/-- The parameters of a method that are not just inputs. -/
def Method.outputs (symbols : SymbolTable) (settings : Settings) (method : Method) :
    List Parameter :=
  method.parameters.filter fun q =>
    (q.marshaled? symbols settings method.cname).any (·.direction != .input)

/-! ### Parameters -/

/-- The bound parameter of a C parameter. -/
structure Parameter.Binds (symbols : SymbolTable) (settings : Settings) (function : String)
    (q : Parameter) (p : BoundParameter) : Prop where
  cname : p.cname = q.name
  var : p.var = Name.ofParameter q.name
  marshaled : q.marshaled? symbols settings function = some p.marshaled

section Binding

variable {symbols : SymbolTable} {settings : Settings} {isConstructor : Bool} {method : Method}
  {doc : Option FunctionDoc} {prior : Option PriorCall} {b : Binding}

theorem binds_of_bindParameters {function : String} {parameters : List Parameter}
    {bound : List BoundParameter}
    (h : bindParameters symbols settings function parameters = .ok bound) :
    List.Forall₂ (Parameter.Binds symbols settings function) parameters bound := by
  refine (mapM_eq_ok_iff.mp h).imp fun q p hp => ?_
  obtain ⟨m, hm, hp⟩ := bind_eq_ok_iff.mp hp
  have hbound := Except.ok.inj hp
  exact {
    cname := by rw [← hbound]
    var := by rw [← hbound]
    marshaled := by rw [← hbound, ← marshalParameter_eq_ok_iff.mp hm]; rfl }

theorem Parameter.Binds.serves {function : String} {q : Parameter} {p : BoundParameter}
    (h : q.Binds symbols settings function p) : p.marshaled.Serves p.var := by
  rw [h.var]
  exact serves_of_marshalType? h.marshaled

theorem Parameter.Binds.marshalParameter_eq_ok {function : String} {q : Parameter}
    {p : BoundParameter} (h : q.Binds symbols settings function p) :
    marshalParameter symbols settings function p.var q.type = .ok p.marshaled := by
  rw [h.var]
  exact marshalParameter_eq_ok_iff.mpr h.marshaled

theorem Parameter.Binds.isInput_iff {function : String} {q : Parameter} {p : BoundParameter}
    (h : q.Binds symbols settings function p) :
    (q.marshaled? symbols settings function).any (·.direction != .output) = p.isInput := by
  rw [h.marshaled]
  rfl

theorem Parameter.Binds.isOutput_iff {function : String} {q : Parameter} {p : BoundParameter}
    (h : q.Binds symbols settings function p) :
    (q.marshaled? symbols settings function).any (·.direction != .input) = p.isOutput := by
  rw [h.marshaled]
  rfl

namespace Binding

variable (hb : ofMethod symbols settings isConstructor method doc prior = .ok b)
include hb

/-- A function is bound parameter by parameter. -/
theorem binds_of_ofMethod : List.Forall₂ (Parameter.Binds symbols settings method.cname)
    method.parameters b.parameters := by
  obtain ⟨parameters, hparameters, hb⟩ := bind_eq_ok_iff.mp hb
  obtain ⟨result, -, hb⟩ := bind_eq_ok_iff.mp hb
  rw [← Except.ok.inj hb]
  exact binds_of_bindParameters hparameters

/-- What holds of every parameter and what it is bound by holds parameter by parameter. -/
theorem forall₂_of_binds {R : Parameter → BoundParameter → Prop}
    (h : ∀ q, ∀ p ∈ b.parameters, q.Binds symbols settings method.cname p → R q p) :
    List.Forall₂ R method.parameters b.parameters := by
  have hmem := (List.forall₂_and_left (p := (· ∈ b.parameters)) _ _).mpr
    ⟨fun _ hp => hp, (binds_of_ofMethod hb).flip⟩
  exact hmem.flip.imp fun q p ⟨hp, hbinds⟩ => h q p hp hbinds

theorem binds_inputs : List.Forall₂ (Parameter.Binds symbols settings method.cname)
    (method.inputs symbols settings) b.inputs := by
  refine List.rel_filter (fun q p hbinds => ?_) (binds_of_ofMethod hb)
  exact iff_of_eq (congrArg (· = true) hbinds.isInput_iff)

theorem binds_outputs : List.Forall₂ (Parameter.Binds symbols settings method.cname)
    (method.outputs symbols settings) b.outputs := by
  refine List.rel_filter (fun q p hbinds => ?_) (binds_of_ofMethod hb)
  exact iff_of_eq (congrArg (· = true) hbinds.isOutput_iff)

theorem binds_of_mem {p : BoundParameter} (hp : p ∈ b.parameters) :
    ∃ q ∈ method.parameters, q.Binds symbols settings method.cname p :=
  exists_of_mem_forall₂ (binds_of_ofMethod hb) hp

theorem serves_of_mem {p : BoundParameter} (hp : p ∈ b.parameters) : p.marshaled.Serves p.var := by
  obtain ⟨q, -, hbinds⟩ := binds_of_mem hb hp
  exact hbinds.serves

theorem hook_of_ofMethod : b.hook = .ofPrior method.cname prior := by
  obtain ⟨parameters, -, hb⟩ := bind_eq_ok_iff.mp hb
  obtain ⟨result, -, hb⟩ := bind_eq_ok_iff.mp hb
  rw [← Except.ok.inj hb]

theorem names_eq : b.parameters.map (fun p => (p.cname, p.var)) =
    method.parameters.map fun q => (q.name, Name.ofParameter q.name) :=
  map_eq_of_forall₂ (binds_of_ofMethod hb) fun _ _ hbinds => by rw [hbinds.cname, hbinds.var]

theorem cnames_eq : b.parameters.map (·.cname) = method.parameters.map (·.name) :=
  map_eq_of_forall₂ (binds_of_ofMethod hb) fun _ _ hbinds => hbinds.cname

theorem vars_eq : b.parameters.map (·.var) =
    method.parameters.map fun q => Name.ofParameter q.name :=
  map_eq_of_forall₂ (binds_of_ofMethod hb) fun _ _ hbinds => hbinds.var

theorem exists_of_mem_passed {x : String × Operand} (hx : x ∈ b.equation.passed) :
    ∃ p ∈ b.parameters, p.var = Name.ofParameter x.1 ∧
      x.2.var = if p.marshaled.isPointed then pointerTo p.var else p.var := by
  obtain ⟨p, hp, rfl⟩ := List.mem_map.mp hx
  obtain ⟨q, -, hbinds⟩ := binds_of_mem hb hp
  exact ⟨p, hp, by rw [hbinds.var, hbinds.cname], hbinds.serves.argument_var⟩

end Binding

end Binding

/-! ### Equations -/

/-- The parameters that brackets around the call lend. -/
def Binding.lentInputs (b : Binding) : List BoundParameter :=
  b.parameters.filter fun p => p.marshaled.glue.bracket.isSome

theorem map_filterMap_eq {α β γ : Type} {f : α → Option β} {g : β → γ} {k : α → γ} {l : List α}
    (h : ∀ a ∈ l, ∀ b, f a = some b → g b = k a) :
    (l.filterMap f).map g = (l.filter fun a => (f a).isSome).map k := by
  induction l with
  | nil => rfl
  | cons a l ih =>
    have htail := ih fun a' ha' => h a' (List.mem_cons_of_mem _ ha')
    cases hfa : f a with
    | none => simp [hfa, htail]
    | some b => simp [hfa, htail, h a List.mem_cons_self b hfa]

namespace Binding

variable {b : Binding}

theorem mem_of_mem_inputs {p : BoundParameter} (hp : p ∈ b.inputs) : p ∈ b.parameters :=
  List.mem_of_mem_filter hp

theorem mem_of_mem_outputs {p : BoundParameter} (hp : p ∈ b.outputs) : p ∈ b.parameters :=
  List.mem_of_mem_filter hp

/-- The brackets of the equation are those of the inputs, the last of them outermost. -/
theorem lent_map {γ : Type} {g : String × Bracket → γ} {k : BoundParameter → γ}
    (h : ∀ p ∈ b.parameters, ∀ bracket, p.marshaled.glue.bracket = some bracket →
      g (p.cname, bracket) = k p) :
    b.equation.lent.map g = (b.lentInputs.map k).reverse := by
  have hlent : b.equation.lent.map g = ((b.parameters.filter fun p =>
      (p.marshaled.glue.bracket.map (p.cname, ·)).isSome).map k).reverse := by
    rw [equation, List.map_reverse]
    congr 1
    refine map_filterMap_eq fun p hp entry hentry => ?_
    obtain ⟨bracket, hbracket, rfl⟩ := Option.map_eq_some_iff.mp hentry
    exact h p hp bracket hbracket
  rw [hlent]
  simp only [Option.isSome_map, lentInputs]

variable (hserves : ∀ p ∈ b.parameters, p.marshaled.Serves p.var)
include hserves

theorem isSome_out_of_mem {p : BoundParameter} (hp : p ∈ b.parameters) :
    p.marshaled.out.isSome = p.isOutput := by
  rw [(hserves p hp).isSome_out]
  rfl

theorem outs_map {γ : Type} {g : String × OutGlue → γ} {k : BoundParameter → γ}
    (h : ∀ p ∈ b.parameters, ∀ glue, p.marshaled.out = some glue → g (p.cname, glue) = k p) :
    b.equation.outs.map g = b.outputs.map k := by
  have houts : b.equation.outs.map g = (b.outputs.filter fun p =>
      (p.marshaled.out.map (p.cname, ·)).isSome).map k := by
    refine map_filterMap_eq fun p hp entry hentry => ?_
    obtain ⟨glue, hglue, rfl⟩ := Option.map_eq_some_iff.mp hentry
    exact h p (mem_of_mem_outputs hp) glue hglue
  rw [houts, List.filter_eq_self.mpr fun p hp => ?_]
  rw [Option.isSome_map, isSome_out_of_mem hserves (mem_of_mem_outputs hp)]
  exact (List.mem_filter.mp hp).2

/-- The pointed parameters are the outputs and those that are lent. -/
theorem perm_pointed : (b.outputs ++ b.lentInputs).Perm
    (b.parameters.filter (·.marshaled.isPointed)) := by
  have hparts := List.filter_append_perm (·.isOutput) (b.parameters.filter (·.marshaled.isPointed))
  have houtputs : (b.parameters.filter (·.marshaled.isPointed)).filter (·.isOutput) =
      b.outputs := by
    rw [List.filter_filter]
    refine List.filter_congr fun p hp => ?_
    rw [isPointed, isSome_out_of_mem hserves hp]
    cases p.isOutput <;> simp
  have hlent : (b.parameters.filter (·.marshaled.isPointed)).filter (!·.isOutput) =
      b.lentInputs := by
    rw [List.filter_filter]
    refine List.filter_congr fun p hp => ?_
    rw [isPointed, isSome_out_of_mem hserves hp]
    cases hbracket : p.marshaled.glue.bracket with
    | none => cases p.isOutput <;> rfl
    | some bracket => simp [BoundParameter.isOutput, ((hserves p hp).bracket_eq hbracket).1]
  rwa [houtputs, hlent] at hparts

theorem mem_pointed {p : BoundParameter} : p ∈ b.outputs ++ b.lentInputs ↔
    p ∈ b.parameters ∧ p.marshaled.isPointed = true := by
  rw [(perm_pointed hserves).mem_iff, List.mem_filter]

theorem nodup_pointed (hdistinct : (b.parameters.map (·.var)).Nodup) :
    ((b.outputs ++ b.lentInputs).map fun p => pointerTo p.var).Nodup := by
  rw [((perm_pointed hserves).map _).nodup_iff]
  have hvars : ((b.parameters.filter (·.marshaled.isPointed)).map (·.var)).Nodup :=
    hdistinct.sublist (List.filter_sublist.map _)
  have hpointers := List.Nodup.map (fun _ _ => pointerTo_injective) hvars
  rwa [List.map_map] at hpointers

end Binding
end BindingGen

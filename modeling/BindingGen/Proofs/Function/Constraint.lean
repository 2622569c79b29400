/-
# Class constraints

However a parameter is handed over, it has the code of an output exactly if it is one, and a class
constraint only if it is an input whose type is the variable that is constrained. So the outputs of
a function can always be read, and its signature spells each class constraint of its parameters
once, on a variable that is the type of an input.

Key definitions: `MarshaledParameter.IsShaped`, `Binding.IsConstrained`, `Fault.IsOfFunction`.
Key theorems: `isShaped_of_marshalType?`, `Binding.isConstrained_of_ofMethod`,
`Definition.failsOnly_isOfFunction`, `Definition.ofFunction_constraints`.
-/
import BindingGen.Proofs.Function.CallOrder
import BindingGen.Proofs.Module.TypeUse

namespace BindingGen

/-! ### Parameters -/

/-- The shape of a parameter: its outputs have code, and only an input has a class constraint, on
the variable that is its type. The class is that of the Haskell type `hs`. -/
structure MarshaledParameter.IsShaped (hs name : String) (m : MarshaledParameter) : Prop where
  out_iff : m.out.isSome = true ↔ m.direction = .output ∨ m.direction = .inout
  input : m.constraint.isSome = true → m.direction = .input
  constraint : ∀ constraint, m.constraint = some constraint → constraint = hs ++ "Class " ++ name
  type : m.constraint.isSome = true → m.type = .plain name ∨ m.type = .nullable name

namespace MarshaledParameter

theorem isShaped_of_constraint_eq_none {hs name : String} {m : MarshaledParameter}
    (hout : m.out.isSome = (m.direction != .input)) (hnone : m.constraint = none) :
    m.IsShaped hs name where
  out_iff := by
    rw [hout]
    cases m.direction <;> decide
  input h := by
    rw [hnone] at h
    cases h
  constraint constraint h := by
    rw [hnone] at h
    cases h
  type h := by
    rw [hnone] at h
    cases h

theorem isShaped_object (hs name : String) (isLeaf nullable : Bool) :
    (object hs name isLeaf nullable).IsShaped hs name := by
  cases isLeaf with
  | true => exact isShaped_of_constraint_eq_none rfl rfl
  | false =>
    refine ⟨by simp [object], fun _ => rfl, fun constraint h => (Option.some.inj h).symm,
      fun _ => ?_⟩
    cases nullable
    · exact .inl rfl
    · exact .inr rfl

end MarshaledParameter

open MarshaledParameter

theorem constraint_marshalPointer (settings : Settings) (function name : String) (type : HsType)
    (toC fromC : String) :
    (marshalPointer settings function name type toC fromC).constraint = none := by
  unfold marshalPointer
  split <;> rfl

/-- Every type that can be handed over is so in a parameter of the right shape. -/
theorem isShaped_of_marshalType? {symbols : SymbolTable} {settings : Settings}
    {function name : String} {type : CType} {m : MarshaledParameter}
    (h : marshalType? symbols settings function name type = some m) :
    m.IsShaped (Name.ofType settings type.base) name := by
  have hout : m.out.isSome = (m.direction != .input) := (serves_of_marshalType? h).isSome_out
  revert h
  fun_cases marshalType? symbols settings function name type
  case case4 | case8 | case15 | case16 | case19 | case20 => exact fun h => by cases h
  case case10 => exact fun h => Option.some.inj h ▸ isShaped_object ..
  -- all but the objects have no constraint
  case case7 | case9 =>
    exact fun h => isShaped_of_constraint_eq_none hout
      (Option.some.inj h ▸ constraint_marshalPointer ..)
  all_goals exact fun h => isShaped_of_constraint_eq_none hout (Option.some.inj h ▸ rfl)

/-! ### Functions -/

/-- The class constraints of a function are those of its parameters, each once, and each constrains
a variable that is written as the type of an input, as it is or where it may be null. -/
structure Binding.IsConstrained (b : Binding) : Prop where
  nodup : b.constraints.Nodup
  mem_iff : ∀ constraint, constraint ∈ b.constraints ↔
    ∃ p ∈ b.parameters, p.marshaled.constraint = some constraint
  input : ∀ constraint ∈ b.constraints, ∃ p ∈ b.inputs, ∃ hs,
    constraint = hs ++ "Class " ++ p.var ∧
      (p.marshaled.type.render = p.var ∨ p.marshaled.type.render = "Maybe " ++ p.var)

section Function

variable {symbols : SymbolTable} {settings : Settings} {isConstructor : Bool} {method : Method}
  {doc : Option FunctionDoc} {prior : Option PriorCall} {b : Binding}

theorem Parameter.Binds.isShaped {function : String} {q : Parameter} {p : BoundParameter}
    (h : q.Binds symbols settings function p) :
    p.marshaled.IsShaped (Name.ofType settings (CType.parse q.type).base) p.var := by
  rw [h.var]
  exact isShaped_of_marshalType? h.marshaled

theorem Binding.mem_constraints_iff {constraint : String} : constraint ∈ b.constraints ↔
    ∃ p ∈ b.parameters, p.marshaled.constraint = some constraint := by
  rw [constraints, List.mem_eraseDups, List.mem_filterMap]

theorem Binding.isConstrained_of_ofMethod
    (hb : ofMethod symbols settings isConstructor method doc prior = .ok b) : b.IsConstrained where
  nodup := nodup_eraseDups _
  mem_iff _ := mem_constraints_iff
  input constraint hmem := by
    obtain ⟨p, hp, hconstraint⟩ := mem_constraints_iff.mp hmem
    obtain ⟨q, -, hbinds⟩ := binds_of_mem hb hp
    have hshaped := hbinds.isShaped
    have hsome : p.marshaled.constraint.isSome = true := by rw [hconstraint]; rfl
    have hinput : p.isInput = true := by
      rw [BoundParameter.isInput, hshaped.input hsome]
      rfl
    refine ⟨p, List.mem_filter.mpr ⟨hp, hinput⟩, _, hshaped.constraint constraint hconstraint, ?_⟩
    rcases hshaped.type hsome with hplain | hnullable
    · exact .inl (by rw [hplain, HsType.render])
    · exact .inr (by rw [hnullable, HsType.render])

/-- A bound function is written down unless a kind of span or paragraph is not known. -/
theorem Binding.failsOnly_isUnknownKind
    (hb : ofMethod symbols settings isConstructor method doc prior = .ok b) (ctx : DocContext) :
    FailsOnly Fault.IsUnknownKind (b.render ctx) := by
  have hne : b.types ≠ [] := by simp [types]
  have hbody : FailsOnly Fault.IsUnknownKind (b.body.mapError Fault.refused) :=
    ((failsFirst_body hb).mapError Fault.refused).failsOnly fun fault hfault => by cases hfault
  unfold render
  refine (ctx.failsOnly_signature_of_isAllowed hne
    fun _ _ _ _ s _ => s.isAllowed_isUnknownKind).bind fun _ _ => ?_
  refine hbody.bind fun _ _ => ?_
  exact (ctx.failsOnly_comment_of_isAllowed
    fun p _ => p.isAllowed_isUnknownKind).bind fun _ _ => failsOnly_pure _

end Function

/-- The fault is one that a function can have: a kind of span or paragraph is not known, or one of
the function's types has no counterpart. -/
def Fault.IsOfFunction (function : String) (fault : Fault) : Prop :=
  fault.IsUnknownKind ∨ ∃ type role, fault = .refused (.unmarshalable function type role)

/-- The refusals for the types of a function are that these types have no counterparts. -/
theorem exists_of_mem_refusals {symbols : SymbolTable} {settings : Settings} {isConstructor : Bool}
    {method : Method} {refusal : Refusal}
    (h : refusal ∈ TypeUse.refusals symbols settings (method.typeUses isConstructor)) :
    ∃ type role, refusal = .unmarshalable method.cname type role := by
  obtain ⟨use, huse, rfl⟩ := List.mem_map.mp h
  rcases List.mem_append.mp (List.mem_filter.mp huse).1 with hparameter | hresult
  · obtain ⟨q, -, rfl⟩ := List.mem_map.mp hparameter
    exact ⟨q.type, .parameter, rfl⟩
  · rw [List.mem_singleton.mp hresult]
    exact ⟨method.returnType, .result, rfl⟩

namespace Definition

variable (symbols : SymbolTable) (settings : Settings) (isConstructor : Bool) (e : FunctionEntry)

/-- Whatever is said of a function, no fault of other kinds keeps it from being defined. -/
theorem failsOnly_isOfFunction : FailsOnly (Fault.IsOfFunction e.method.cname)
    (ofFunction symbols settings isConstructor e).outcome := by
  have hbinding := (Binding.failsFirst_ofMethod symbols settings isConstructor e.method e.doc
    e.prior).mapError Fault.refused
  unfold ofFunction Binding.write
  simp only [Logged.outcome_bind, Logged.outcome_ofExcept]
  refine (hbinding.failsOnly fun fault hfault => ?_).bind fun b hb => ?_
  · obtain ⟨refusal, hrefusal, rfl⟩ := List.mem_map.mp hfault
    obtain ⟨type, role, rfl⟩ := exists_of_mem_refusals hrefusal
    exact .inr ⟨type, role, rfl⟩
  · have hrender := Binding.failsOnly_isUnknownKind (mapError_eq_ok_iff.mp hb)
      ⟨symbols, settings, b.handlesNull settings⟩
    exact ((failsOnly_ok ()).bind fun _ _ => hrender.mono fun _ => .inl).bind fun _ _ =>
      failsOnly_pure _

/-- **Outputs can be read, and class constraints are on types of inputs.** A parameter has the code
of an output exactly if it is one, and a class constraint only if it is an input that has the
constrained variable for its type, as it is or where it may be null. So no function is refused for
an output without code; and the signature of a function that is defined spells each class constraint
of its parameters once, on a variable that is the type of an input, and then the types. -/
theorem ofFunction_constraints :
    (∀ function name type m, marshalParameter symbols settings function name type = .ok m →
      m.IsShaped (Name.ofType settings (CType.parse type).base) name) ∧
    (ofFunction symbols settings isConstructor e).outcome ≠ .error (.refused .missingOutGlue) ∧
    ∀ d, (ofFunction symbols settings isConstructor e).outcome = .ok d →
      ∃ b comment context signature, d.defined = .function b ∧
        d.text = comment ++ b.name ++ " :: " ++ context ++ signature ++ "\n" ++
          b.equation.render ∧
        SpellsContext b.constraints context ∧
        SpellsTypes none (b.inputs.map (·.marshaled.type.render) ++ [b.resultType]) signature ∧
        List.Forall₂ (Parameter.Binds symbols settings e.method.cname) e.method.parameters
          b.parameters ∧
        b.IsConstrained := by
  refine ⟨fun function name type m hm => ?_, fun hrefused => ?_, fun d hd => ?_⟩
  · exact isShaped_of_marshalType? (marshalParameter_eq_ok_iff.mp hm)
  · rcases failsOnly_isOfFunction symbols settings isConstructor e _ hrefused with
      ⟨kind, h⟩ | ⟨type, role, h⟩
    · cases h
    · cases h
  · obtain ⟨b, comment, signature, hb, hdefined, -, htext, hspells⟩ := exists_of_ofFunction hd
    exact ⟨b, comment, constraintText b.constraints, signature, hdefined, htext,
      spellsContext_constraintText b.constraints, hspells, Binding.binds_of_ofMethod hb,
      Binding.isConstrained_of_ofMethod hb⟩

/-- Two children of a box change places; their parameters have the same variable. Where they are
then is returned. -/
def swapEntry : FunctionEntry where
  method :=
    { name := "BoxSwap"
      cname := "gtk_box_swap"
      returnType := "void"
      parameters :=
        [{ type := "GtkBox*", name := "self" }, { type := "GtkWidget *", name := "child" },
          { type := "GtkWidget*", name := "_child" }, { type := "gint*", name := "place" }] }
  doc := none
  prior := none

/-- The symbols of the exchange. -/
def swapSymbols : SymbolTable :=
  [("GtkBox", .object ["GtkBox", "GtkWidget", "GObject"]),
    ("GtkWidget", .object ["GtkWidget", "GObject"])]

/-- The settings of the exchange, where no child needs to be given. -/
def swapSettings : Settings where
  nullableParameters := [("gtk_box_swap", ["child"])]

/-- The two children are of one type, and it is constrained once. -/
theorem ofFunction_constraints_swap :
    ∃ d b comment signature,
      (ofFunction swapSymbols swapSettings false swapEntry).outcome = .ok d ∧
      d.defined = .function b ∧
      d.text = comment ++ "boxSwap" ++ " :: " ++ "(BoxClass self, WidgetClass child) => " ++
        signature ++ "\n" ++ b.equation.render ∧
      SpellsTypes none ["self", "Maybe child", "Maybe child", "IO Int"] signature ∧
      b.constraints = ["BoxClass self", "WidgetClass child"] ∧ b.constraints.Nodup ∧
      ∃ p ∈ b.inputs, ∃ hs, "WidgetClass child" = hs ++ "Class " ++ p.var ∧
        (p.marshaled.type.render = p.var ∨ p.marshaled.type.render = "Maybe " ++ p.var) := by
  obtain ⟨d, hd⟩ : ∃ d, (ofFunction swapSymbols swapSettings false swapEntry).outcome = .ok d :=
    exists_ok_of_isSome (by decide +kernel)
  obtain ⟨b, comment, context, signature, hdefined, htext, hcontext, hspells, -, hconstrained⟩ :=
    (ofFunction_constraints swapSymbols swapSettings false swapEntry).2.2 d hd
  have hparts : (Binding.ofMethod swapSymbols swapSettings false swapEntry.method swapEntry.doc
      swapEntry.prior).map (fun b => (b.name, b.constraints,
        b.inputs.map (·.marshaled.type.render) ++ [b.resultType])) =
      .ok ("boxSwap", ["BoxClass self", "WidgetClass child"],
        ["self", "Maybe child", "Maybe child", "IO Int"]) := by
    decide +kernel
  rw [ofMethod_of_defined hd hdefined] at hparts
  obtain ⟨hname, hrest⟩ := Prod.mk.inj (Except.ok.inj hparts)
  obtain ⟨hconstraints, htypes⟩ := Prod.mk.inj hrest
  have hmem : "WidgetClass child" ∈ b.constraints := by
    rw [hconstraints]
    decide
  refine ⟨d, b, comment, signature, hd, hdefined, ?_, htypes ▸ hspells, hconstraints,
    hconstrained.nodup, hconstrained.input _ hmem⟩
  rw [hconstraints] at hcontext
  rw [htext, hname]
  cases hcontext with
  | several => rfl

end Definition
end BindingGen

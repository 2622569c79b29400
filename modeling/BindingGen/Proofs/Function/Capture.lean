/-
# No variable is captured where the names are apart

The names of an equation are made of the names of the parameters one by one, and nothing looks for
a name that is still free. So two binders may have one name: parameters whose names are spelled in
one way, a parameter that is named as the pointer to another one, and a parameter that is named as
the result. These are all the ways there are. Where the names are apart, the call is given for each
parameter its own value or its own pointer, and what is returned is the result of the call and what
is found behind the pointers of the outputs.

Key definitions: `Binding.NamesApart`, `BoundParameter.handed`.
Key theorems: `Binding.bindsApart_iff`, `Binding.run_of_namesApart`,
`Definition.ofFunction_captures`.
-/
import BindingGen.Proofs.Function.Scope
import BindingGen.Proofs.Function.Wiring
import BindingGen.Proofs.Module.Definition

namespace BindingGen

open MarshaledParameter

theorem pointerTo_ne_result (name : String) : pointerTo name ≠ "result" := by
  intro h
  have hlast := congrArg (·.toList.getLast?) h
  simp [pointerTo] at hlast

/-- The names of a function are apart: its variables are distinct, none of them is the pointer of a
parameter that has one, and none is the name of the result where the result is bound. -/
structure Binding.NamesApart (b : Binding) : Prop where
  vars : (b.parameters.map (·.var)).Nodup
  pointers : ∀ p ∈ b.parameters, ∀ q ∈ b.parameters, q.marshaled.isPointed = true →
    p.var ≠ pointerTo q.var
  result : b.equation.bindsResult = true → ∀ p ∈ b.parameters, p.var ≠ "result"

namespace BoundParameter

/-- What the call is to be given for a parameter. -/
def handed (p : BoundParameter) : Value :=
  if !p.marshaled.isPointed then .given p.cname
  else if p.isInput then .lent p.cname (.given p.cname)
  else .blank p.cname

/-- The binder of a parameter among the arguments. -/
def argumentBinder (p : BoundParameter) : Binder := { role := .argument p.cname, name := p.var }

/-- The binder of a parameter's pointer. -/
def pointerBinder (p : BoundParameter) : Binder :=
  { role := .pointer p.cname
    name := pointerTo p.var
    reads := if p.isInput then some p.var else none }

/-- The binder of a parameter where it is read. -/
def peekBinder (p : BoundParameter) : Binder :=
  { role := .peek p.cname, name := p.var, reads := some (pointerTo p.var) }

theorem isInput_or_isOutput (p : BoundParameter) : p.isInput = true ∨ p.isOutput = true := by
  unfold isInput isOutput
  cases p.marshaled.direction <;> decide

end BoundParameter

open BoundParameter

theorem pairwise_apart_of_nodup {l : List BoundParameter} {f : BoundParameter → Binder}
    (h : (l.map fun p => (f p).name).Nodup) : (l.map f).Pairwise Binder.Apart := by
  rw [List.pairwise_map]
  exact (List.pairwise_map.mp h).imp Binder.apart_of_name_ne

theorem eq_of_pairwise_apart {l : List BoundParameter} {f : BoundParameter → Binder}
    (hf : ∀ p q, (f p).isReread (f q) = false) (h : (l.map f).Pairwise Binder.Apart)
    {p q : BoundParameter} (hp : p ∈ l) (hq : q ∈ l) (hname : (f p).name = (f q).name) : p = q := by
  have hnodup : (l.map fun p => (f p).name).Nodup := by
    refine List.pairwise_map.mpr ((List.pairwise_map.mp h).imp fun hapart he => ?_)
    rw [Binder.Apart, hf] at hapart
    exact Bool.false_ne_true (hapart he)
  exact List.inj_on_of_nodup_map hnodup hp hq hname

namespace Binding

variable {b : Binding}

/-! ### Binders -/

theorem argumentBinders_eq (b : Binding) :
    b.equation.argumentBinders = b.inputs.map argumentBinder := by
  simp [Equation.argumentBinders, equation, argumentBinder]

theorem mem_resultBinders {x : Binder} : x ∈ b.equation.resultBinders ↔
    b.equation.bindsResult = true ∧ x = { role := .result, name := "result" } := by
  unfold Equation.resultBinders
  split <;> simp_all

theorem pairwise_resultBinders (b : Binding) :
    b.equation.resultBinders.Pairwise Binder.Apart := by
  unfold Equation.resultBinders
  split
  · exact List.pairwise_singleton _ _
  · exact List.Pairwise.nil

section Serves

variable (hserves : ∀ p ∈ b.parameters, p.marshaled.Serves p.var)
include hserves

theorem outBinders_eq : b.equation.outBinders = b.outputs.map pointerBinder := by
  refine outs_map hserves fun p hp glue hglue => ?_
  obtain ⟨-, hpointer, hsource, -⟩ := (hserves p hp).out_eq hglue
  have houtput : p.isOutput = true := by
    rw [← isSome_out_of_mem hserves hp, hglue]
    rfl
  rw [hpointer, hsource, pointerBinder]
  unfold isInput isOutput at *
  cases hdirection : p.marshaled.direction <;> simp [hdirection] at houtput ⊢

theorem lentBinders_eq : b.equation.lentBinders = (b.lentInputs.map pointerBinder).reverse := by
  refine lent_map fun p hp bracket hbracket => ?_
  obtain ⟨hdirection, hpointer, hsource⟩ := (hserves p hp).bracket_eq hbracket
  rw [hpointer, hsource, pointerBinder]
  simp [isInput, hdirection]

theorem peekBinders_eq : b.equation.peekBinders = b.outputs.map peekBinder := by
  refine outs_map hserves fun p hp glue hglue => ?_
  obtain ⟨-, -, -, hvar, hpointer, -⟩ := (hserves p hp).out_eq hglue
  rw [hvar, hpointer, peekBinder]

theorem binders_eq : b.equation.binders =
    b.inputs.map argumentBinder ++ b.outputs.map pointerBinder ++ b.equation.resultBinders ++
      (b.lentInputs.map pointerBinder).reverse ++ b.outputs.map peekBinder := by
  rw [Equation.binders, argumentBinders_eq, outBinders_eq hserves, lentBinders_eq hserves,
    peekBinders_eq hserves]

/-! ### Binders that are apart -/

theorem NamesApart.var_ne_pointerTo (h : b.NamesApart) {p q : BoundParameter}
    (hp : p ∈ b.parameters) (hq : q ∈ b.outputs ++ b.lentInputs) : p.var ≠ pointerTo q.var := by
  obtain ⟨hq, hpointed⟩ := (mem_pointed hserves).mp hq
  exact h.pointers p hp q hq hpointed

theorem NamesApart.bindsApart (h : b.NamesApart) : b.equation.BindsApart := by
  have hnodup := nodup_pointed hserves h.vars
  rw [List.map_append, List.nodup_append] at hnodup
  obtain ⟨houtputs, hlents, hdisjoint⟩ := hnodup
  have harguments : (b.inputs.map argumentBinder).Pairwise Binder.Apart :=
    pairwise_apart_of_nodup (h.vars.sublist (List.filter_sublist.map _))
  have hpeeks : (b.outputs.map peekBinder).Pairwise Binder.Apart :=
    pairwise_apart_of_nodup (h.vars.sublist (List.filter_sublist.map _))
  have houtBinders : (b.outputs.map pointerBinder).Pairwise Binder.Apart :=
    pairwise_apart_of_nodup houtputs
  have hlentBinders : (b.lentInputs.map pointerBinder).reverse.Pairwise Binder.Apart := by
    rw [← List.map_reverse]
    refine pairwise_apart_of_nodup ?_
    rw [List.map_reverse, List.nodup_reverse]
    exact hlents
  have hout {p q : BoundParameter} (hp : p ∈ b.parameters) (hq : q ∈ b.outputs) :=
    h.var_ne_pointerTo hserves hp (List.mem_append_left _ hq)
  have hlent {p q : BoundParameter} (hp : p ∈ b.parameters) (hq : q ∈ b.lentInputs) :=
    h.var_ne_pointerTo hserves hp (List.mem_append_right _ hq)
  have hresult {x : Binder} (hx : x ∈ b.equation.resultBinders) {p : BoundParameter}
      (hp : p ∈ b.parameters) : p.var ≠ x.name := by
    obtain ⟨hbinds, rfl⟩ := mem_resultBinders.mp hx
    exact h.result hbinds p hp
  have hpointer {x : Binder} (hx : x ∈ b.equation.resultBinders) (p : BoundParameter) :
      pointerTo p.var ≠ x.name := by
    obtain ⟨-, rfl⟩ := mem_resultBinders.mp hx
    exact pointerTo_ne_result p.var
  unfold Equation.BindsApart
  rw [binders_eq hserves]
  simp only [List.pairwise_append, List.forall_mem_append, List.forall_mem_map, List.mem_reverse]
  refine ⟨⟨⟨⟨harguments, houtBinders, ?argumentOut⟩, pairwise_resultBinders b, ?argumentResult,
    ?outResult⟩, hlentBinders, ⟨?argumentLent, ?outLent⟩, ?resultLent⟩,
    hpeeks, ⟨⟨?argumentPeek, ?outPeek⟩, ?resultPeek⟩, ?lentPeek⟩
  case argumentPeek =>
    -- the one variable that is bound twice is that of a parameter which is read again
    intro p hp q hq hname
    obtain rfl := List.inj_on_of_nodup_map h.vars (mem_of_mem_inputs hp) (mem_of_mem_outputs hq)
      hname
    simp [Binder.isReread, argumentBinder, peekBinder]
  all_goals
    intro x hx y hy
    refine Binder.apart_of_name_ne ?_
  case argumentOut => exact hout (mem_of_mem_inputs hx) hy
  case argumentResult => exact hresult hy (mem_of_mem_inputs hx)
  case outResult => exact hpointer hy x
  case argumentLent => exact hlent (mem_of_mem_inputs hx) hy
  case outLent => exact hdisjoint _ (List.mem_map_of_mem hx) _ (List.mem_map_of_mem hy)
  case resultLent => exact (hpointer hx y).symm
  case outPeek => exact (hout (mem_of_mem_outputs hy) hx).symm
  case resultPeek => exact (hresult hx (mem_of_mem_outputs hy)).symm
  case lentPeek => exact (hlent (mem_of_mem_outputs hy) hx).symm

theorem namesApart_of_bindsApart (hcnames : (b.parameters.map (·.cname)).Nodup)
    (h : b.equation.BindsApart) : b.NamesApart := by
  unfold Equation.BindsApart at h
  rw [binders_eq hserves] at h
  simp only [List.pairwise_append, List.forall_mem_append, List.forall_mem_map,
    List.mem_reverse] at h
  obtain ⟨⟨⟨⟨harguments, -, hargumentOut⟩, -, hargumentResult, -⟩, -, ⟨hargumentLent, -⟩, -⟩,
    hpeeks, ⟨⟨hargumentPeek, houtPeek⟩, hresultPeek⟩, hlentPeek⟩ := h
  have hinput {p : BoundParameter} (hp : p ∈ b.parameters) (hin : p.isInput = true) :
      p ∈ b.inputs := List.mem_filter.mpr ⟨hp, hin⟩
  have houtput {p : BoundParameter} (hp : p ∈ b.parameters) (hout : p.isOutput = true) :
      p ∈ b.outputs := List.mem_filter.mpr ⟨hp, hout⟩
  -- an input and an output of one variable are one parameter that is read again
  have hreread {p q : BoundParameter} (hp : p ∈ b.inputs) (hq : q ∈ b.outputs)
      (hvar : p.var = q.var) : p = q := by
    have hcname : p.cname = q.cname := by
      simpa [Binder.isReread, argumentBinder, peekBinder] using hargumentPeek p hp q hq hvar
    exact List.inj_on_of_nodup_map hcnames (mem_of_mem_inputs hp) (mem_of_mem_outputs hq) hcname
  refine ⟨?_, fun p hp q hq hpointed hname => ?_, fun hbinds p hp hname => ?_⟩
  · rw [List.nodup_map_iff_inj_on (List.Nodup.of_map _ hcnames)]
    intro p hp q hq hvar
    rcases p.isInput_or_isOutput with hpin | hpout <;>
      rcases q.isInput_or_isOutput with hqin | hqout
    · exact eq_of_pairwise_apart (fun _ _ => rfl) harguments (hinput hp hpin) (hinput hq hqin) hvar
    · exact hreread (hinput hp hpin) (houtput hq hqout) hvar
    · exact (hreread (hinput hq hqin) (houtput hp hpout) hvar.symm).symm
    · exact eq_of_pairwise_apart (fun _ _ => rfl) hpeeks (houtput hp hpout) (houtput hq hqout) hvar
  · have hq := (mem_pointed hserves).mpr ⟨hq, hpointed⟩
    rcases p.isInput_or_isOutput with hpin | hpout <;>
      rcases List.mem_append.mp hq with hqout | hqlent
    · exact Bool.false_ne_true (hargumentOut p (hinput hp hpin) q hqout hname)
    · exact Bool.false_ne_true (hargumentLent p (hinput hp hpin) q hqlent hname)
    · exact Bool.false_ne_true (houtPeek q hqout p (houtput hp hpout) hname.symm)
    · exact Bool.false_ne_true (hlentPeek q hqlent p (houtput hp hpout) hname.symm)
  · have hresult := mem_resultBinders.mpr ⟨hbinds, rfl⟩
    rcases p.isInput_or_isOutput with hpin | hpout
    · exact Bool.false_ne_true (hargumentResult p (hinput hp hpin) _ hresult hname)
    · exact Bool.false_ne_true (hresultPeek _ hresult p (houtput hp hpout) hname.symm)

/-- **Binders are apart exactly where the names are.** -/
theorem bindsApart_iff (hcnames : (b.parameters.map (·.cname)).Nodup) :
    b.equation.BindsApart ↔ b.NamesApart :=
  ⟨namesApart_of_bindsApart hserves hcnames, fun h => h.bindsApart hserves⟩

end Serves

/-! ### Scopes of names that are apart -/

/-- The scope of the arguments. -/
def argumentScope (b : Binding) : Scope :=
  Scope.extend [] (b.inputs.map fun p => (p.var, .given p.cname))

/-- The scope inside the brackets of the outputs. -/
def blockScope (b : Binding) : Scope :=
  b.argumentScope.extend (b.outputs.map fun p => (pointerTo p.var, p.handed))

/-- The scope of the call. -/
def callScope (b : Binding) : Scope :=
  b.blockScope.extend (b.lentInputs.reverse.map fun p => (pointerTo p.var, p.handed))

/-- The scope behind the call. -/
def resultScope (b : Binding) : Scope :=
  b.blockScope.extend (if b.equation.bindsResult then [("result", .result)] else [])

/-- The scope in which the function returns. -/
def returnScope (b : Binding) : Scope :=
  b.resultScope.extend (b.outputs.map fun p => (p.var, .found p.handed))

theorem value?_pointerBinder {p : BoundParameter} (hpointed : p.marshaled.isPointed = true)
    {scope : Scope} (h : p.isInput = true → scope.lookup p.var = some (.given p.cname)) :
    p.pointerBinder.value? scope = some p.handed := by
  cases hin : p.isInput with
  | true => simp [Binder.value?, pointerBinder, handed, hpointed, hin, h hin]
  | false => simp [Binder.value?, pointerBinder, handed, hpointed, hin]

theorem enter_argumentBinders (b : Binding) :
    Scope.enter [] b.equation.argumentBinders = some b.argumentScope := by
  rw [argumentBinders_eq]
  exact Scope.enter_map (fun _ _ => rfl) fun _ _ _ _ => nofun

section Apart

variable (hserves : ∀ p ∈ b.parameters, p.marshaled.Serves p.var) (hapart : b.NamesApart)
include hserves hapart

omit hserves in
theorem lookup_argumentScope {p : BoundParameter} (hp : p ∈ b.inputs) :
    b.argumentScope.lookup p.var = some (.given p.cname) := by
  refine Scope.lookup_extend_of_mem ?_ ?_ _
  · rw [List.map_map]
    exact hapart.vars.sublist (List.filter_sublist.map _)
  · exact List.mem_map.mpr ⟨p, hp, rfl⟩

theorem lookup_extend_pointers {p : BoundParameter} (hp : p ∈ b.parameters)
    {l : List BoundParameter} (hl : ∀ q ∈ l, q ∈ b.outputs ++ b.lentInputs) (scope : Scope) :
    (scope.extend (l.map fun q => (pointerTo q.var, q.handed))).lookup p.var =
      scope.lookup p.var := by
  refine Scope.lookup_extend_of_not_mem ?_ scope
  rw [List.map_map]
  intro hmem
  obtain ⟨q, hq, hname⟩ := List.mem_map.mp hmem
  exact hapart.var_ne_pointerTo hserves hp (hl q hq) hname.symm

theorem lookup_blockScope {p : BoundParameter} (hp : p ∈ b.inputs) :
    b.blockScope.lookup p.var = some (.given p.cname) := by
  rw [blockScope, lookup_extend_pointers hserves hapart (mem_of_mem_inputs hp)
    (fun q hq => List.mem_append_left _ hq), lookup_argumentScope hapart hp]

theorem lookup_callScope {p : BoundParameter} (hp : p ∈ b.inputs) :
    b.callScope.lookup p.var = some (.given p.cname) := by
  rw [callScope, lookup_extend_pointers hserves hapart (mem_of_mem_inputs hp)
    (fun q hq => List.mem_append_right _ (List.mem_reverse.mp hq)),
    lookup_blockScope hserves hapart hp]

theorem lookup_pointer_blockScope {p : BoundParameter} (hp : p ∈ b.outputs) :
    b.blockScope.lookup (pointerTo p.var) = some p.handed := by
  refine Scope.lookup_extend_of_mem ?_ (List.mem_map.mpr ⟨p, hp, rfl⟩) _
  have hnodup := nodup_pointed hserves hapart.vars
  rw [List.map_append] at hnodup
  rw [List.map_map]
  exact (List.nodup_append.mp hnodup).1

theorem lookup_pointer_callScope {p : BoundParameter} (hp : p ∈ b.outputs ++ b.lentInputs) :
    b.callScope.lookup (pointerTo p.var) = some p.handed := by
  have hperm : (b.outputs ++ b.lentInputs.reverse).Perm (b.outputs ++ b.lentInputs) :=
    (List.reverse_perm _).append_left _
  rw [callScope, blockScope, ← Scope.extend_append, ← List.map_append]
  refine Scope.lookup_extend_of_mem ?_ (List.mem_map.mpr ⟨p, hperm.mem_iff.mpr hp, rfl⟩) _
  rw [List.map_map]
  exact (hperm.map _).nodup_iff.mpr (nodup_pointed hserves hapart.vars)

theorem reads_pointerBinder_ne {p q : BoundParameter} (hp : p ∈ b.outputs ++ b.lentInputs)
    (hq : q ∈ b.outputs ++ b.lentInputs) : p.pointerBinder.reads ≠ some q.pointerBinder.name := by
  obtain ⟨hp, -⟩ := (mem_pointed hserves).mp hp
  unfold pointerBinder
  split
  · exact fun h => hapart.var_ne_pointerTo hserves hp hq (Option.some.inj h)
  · exact nofun

theorem enter_outBinders : b.argumentScope.enter b.equation.outBinders = some b.blockScope := by
  rw [outBinders_eq hserves]
  refine Scope.enter_map (fun p hp => ?_) fun p hp q hq => ?_
  · have hpointed := (mem_pointed hserves).mp (List.mem_append_left _ hp)
    refine value?_pointerBinder hpointed.2 fun hin => ?_
    exact lookup_argumentScope hapart (List.mem_filter.mpr ⟨hpointed.1, hin⟩)
  · exact reads_pointerBinder_ne hserves hapart (List.mem_append_left _ hp)
      (List.mem_append_left _ hq)

theorem enter_lentBinders : b.blockScope.enter b.equation.lentBinders = some b.callScope := by
  rw [lentBinders_eq hserves, ← List.map_reverse]
  refine Scope.enter_map (fun p hp => ?_) fun p hp q hq => ?_
  · have hpointed := (mem_pointed hserves).mp (List.mem_append_right _ (List.mem_reverse.mp hp))
    refine value?_pointerBinder hpointed.2 fun hin => ?_
    exact lookup_blockScope hserves hapart (List.mem_filter.mpr ⟨hpointed.1, hin⟩)
  · exact reads_pointerBinder_ne hserves hapart
      (List.mem_append_right _ (List.mem_reverse.mp hp))
      (List.mem_append_right _ (List.mem_reverse.mp hq))

omit hserves hapart in
theorem enter_resultBinders : b.blockScope.enter b.equation.resultBinders = some b.resultScope := by
  unfold Equation.resultBinders resultScope
  split <;> rfl

omit hserves hapart in
theorem lookup_resultScope {name : String} (h : name ≠ "result") :
    b.resultScope.lookup name = b.blockScope.lookup name := by
  refine Scope.lookup_extend_of_not_mem ?_ _
  split
  · simpa using h
  · simp

theorem enter_peekBinders : b.resultScope.enter b.equation.peekBinders = some b.returnScope := by
  rw [peekBinders_eq hserves]
  refine Scope.enter_map (fun p hp => ?_) fun p hp q hq => ?_
  · simp only [Binder.value?, peekBinder]
    rw [lookup_resultScope (pointerTo_ne_result p.var),
      lookup_pointer_blockScope hserves hapart hp]
    rfl
  · intro h
    exact hapart.var_ne_pointerTo hserves (mem_of_mem_outputs hq) (List.mem_append_left _ hp)
      (Option.some.inj h).symm

/-! ### Runs -/

omit hserves in
theorem lookup_returnScope {p : BoundParameter} (hp : p ∈ b.outputs) :
    b.returnScope.lookup p.var = some (.found p.handed) := by
  refine Scope.lookup_extend_of_mem ?_ (List.mem_map.mpr ⟨p, hp, rfl⟩) _
  rw [List.map_map]
  exact hapart.vars.sublist (List.filter_sublist.map _)

omit hserves in
/-- The outputs do not hide the result of the call. -/
theorem lookup_result_returnScope (hbinds : b.equation.bindsResult = true) :
    b.returnScope.lookup "result" = some .result := by
  have hmem : "result" ∉ (b.outputs.map fun p => (p.var, Value.found p.handed)).map (·.1) := by
    rw [List.map_map]
    intro hmem
    obtain ⟨p, hp, hname⟩ := List.mem_map.mp hmem
    exact hapart.result hbinds p (mem_of_mem_outputs hp) hname
  rw [returnScope, Scope.lookup_extend_of_not_mem hmem, resultScope, if_pos hbinds]
  rfl

/-- The call is given its own value or its own pointer for each parameter. -/
theorem lookup_argument {p : BoundParameter} (hp : p ∈ b.parameters) :
    b.callScope.lookup p.marshaled.glue.argument.var = some p.handed := by
  rw [(hserves p hp).argument_var]
  cases hpointed : p.marshaled.isPointed with
  | true => exact lookup_pointer_callScope hserves hapart ((mem_pointed hserves).mpr ⟨hp, hpointed⟩)
  | false =>
    have hin : p ∈ b.inputs := by
      refine List.mem_filter.mpr ⟨hp, p.isInput_or_isOutput.resolve_right ?_⟩
      rw [isPointed, Bool.or_eq_false_iff] at hpointed
      rw [← isSome_out_of_mem hserves hp, hpointed.2]
      exact Bool.false_ne_true
    rw [if_neg Bool.false_ne_true, lookup_callScope hserves hapart hin]
    simp [handed, hpointed]

/-- **Nothing is captured where the names are apart.** Every name that the equation uses is in
scope; the call is given for each parameter its own value or pointer, and the function returns the
result of the call and what is found behind the pointers of the outputs. -/
theorem run_of_namesApart : b.equation.run = some
    { passed := b.parameters.map fun p => (p.cname, p.handed)
      result := if b.equation.bindsResult then some .result else none
      returned := b.outputs.map fun p => (p.cname, .found p.handed) } := by
  have hpassed : b.equation.passed.mapM (fun x => (b.callScope.lookup x.2.var).map (x.1, ·)) =
      some (b.parameters.map fun p => (p.cname, p.handed)) := by
    rw [equation, List.mapM_map]
    refine mapM_eq_some_map fun p hp => ?_
    simp only [Function.comp_apply]
    rw [lookup_argument hserves hapart hp]
    rfl
  have hreturned : b.equation.outs.mapM
      (fun x => (b.returnScope.lookup x.2.component.var).map (x.1, ·)) =
      some (b.outputs.map fun p => (p.cname, .found p.handed)) := by
    have hcomponents : b.equation.outs.map (fun x => (x.1, x.2.component.var)) =
        b.outputs.map fun p => (p.cname, p.var) :=
      outs_map hserves fun p hp glue hglue => by
        rw [((hserves p hp).out_eq hglue).2.2.2.2.2]
    have hlookups : b.equation.outs.mapM
        (fun x => (b.returnScope.lookup x.2.component.var).map (x.1, ·)) =
        (b.equation.outs.map fun x => (x.1, x.2.component.var)).mapM
          fun c => (b.returnScope.lookup c.2).map (c.1, ·) := by
      rw [List.mapM_map]
      rfl
    rw [hlookups, hcomponents, List.mapM_map]
    refine mapM_eq_some_map fun p hp => ?_
    simp only [Function.comp_apply]
    rw [lookup_returnScope hapart hp]
    rfl
  unfold Equation.run
  simp only [enter_argumentBinders, enter_outBinders hserves hapart,
    enter_lentBinders hserves hapart, enter_resultBinders, enter_peekBinders hserves hapart,
    hpassed, hreturned, Option.bind_eq_bind, Option.bind_some]
  split
  · rename_i hbinds
    rw [lookup_result_returnScope hapart hbinds]
    rfl
  · rfl

end Apart
end Binding

/-! ### Defined functions -/

namespace Definition

variable {symbols : SymbolTable} {settings : Settings} {isConstructor : Bool} {e : FunctionEntry}
  {d : Definition}

/-- **What is captured, and what is not.** A function that is defined, of a method whose parameters
have distinct C names, ends with its equation. The binders of the equation are apart exactly where
the names are: where the variables of the parameters are distinct, none of them is the pointer of a
parameter that has one, and none is the name of the result where that is bound. The call is then
given for each parameter its own value or pointer, and what is returned is the result of the call
and what is found behind the pointers of the outputs. -/
theorem ofFunction_captures (h : (ofFunction symbols settings isConstructor e).outcome = .ok d)
    (hcnames : (e.method.parameters.map (·.name)).Nodup) :
    ∃ b before, d.defined = .function b ∧ d.text = before ++ b.equation.render ∧
      b.parameters.map (fun p => (p.cname, p.var)) =
        e.method.parameters.map (fun q => (q.name, Name.ofParameter q.name)) ∧
      (b.equation.BindsApart ↔ b.NamesApart) ∧
      (b.equation.BindsApart → b.equation.run = some
        { passed := b.parameters.map fun p => (p.cname, p.handed)
          result := if b.equation.bindsResult then some .result else none
          returned := b.outputs.map fun p => (p.cname, .found p.handed) }) := by
  obtain ⟨b, text, hb, htext, rfl⟩ := ofFunction_eq_ok_iff.mp h
  obtain ⟨comment, signature, -, htext⟩ := Binding.exists_of_render htext
  have hserves : ∀ p ∈ b.parameters, p.marshaled.Serves p.var := fun p => Binding.serves_of_mem hb
  rw [← Binding.cnames_eq hb] at hcnames
  have hiff := Binding.bindsApart_iff hserves hcnames
  exact ⟨b, _, rfl, htext, Binding.names_eq hb, hiff, fun hapart =>
    Binding.run_of_namesApart hserves (hiff.mp hapart)⟩

/-- A look-up in a tree: a path is given, an offset is given and returned, the label of the node is
returned, and the node is the result. -/
def treeLookup : Method where
  name := "TreeLookup"
  cname := "gtk_tree_lookup"
  returnType := "GtkNode*"
  parameters :=
    [{ type := "GtkTree*", name := "self" }, { type := "const-gchar*", name := "path" },
      { type := "gchar**", name := "label" }, { type := "gint*", name := "offset" }]

/-- The types of the look-up. -/
def treeSymbols : SymbolTable :=
  [("GtkTree", .object ["GtkTree", "GObject"]), ("GtkNode", .object ["GtkNode", "GObject"])]

/-- The settings of the look-up, which reads the offset as well as it writes it. -/
def treeSettings : Settings where
  inoutParameters := [("gtk_tree_lookup", ["offset"])]

/-- The names of the look-up are apart, and nothing is captured. -/
theorem ofFunction_captures_treeLookup :
    (treeLookup.parameters.map (·.name)).Nodup ∧
    ∃ d b, (ofFunction treeSymbols treeSettings false ⟨treeLookup, none, none⟩).outcome = .ok d ∧
      d.defined = .function b ∧ b.equation.BindsApart ∧ b.equation.run = some
        { passed :=
            [("self", .given "self"), ("path", .lent "path" (.given "path")),
              ("label", .blank "label"), ("offset", .lent "offset" (.given "offset"))]
          result := some .result
          returned :=
            [("label", .found (.blank "label")),
              ("offset", .found (.lent "offset" (.given "offset")))] } := by
  have hcnames : (treeLookup.parameters.map (·.name)).Nodup := by decide
  obtain ⟨d, hd⟩ : ∃ d,
      (ofFunction treeSymbols treeSettings false ⟨treeLookup, none, none⟩).outcome = .ok d :=
    exists_ok_of_isSome (by decide +kernel)
  obtain ⟨b, before, hdefined, -, -, -, hrun⟩ := ofFunction_captures hd hcnames
  obtain ⟨b', text, hb, -, rfl⟩ := ofFunction_eq_ok_iff.mp hd
  obtain rfl : b' = b := Defined.function.inj hdefined
  have hnames : (Binding.ofMethod treeSymbols treeSettings false treeLookup none none).toOption.map
      (fun b => (decide b.equation.BindsApart, b.equation.bindsResult)) = some (true, true) := by
    decide +kernel
  have hvalues : (Binding.ofMethod treeSymbols treeSettings false treeLookup none none).toOption.map
      (fun b => (b.parameters.map fun p => (p.cname, p.handed),
        b.outputs.map fun p => (p.cname, Value.found p.handed))) =
      some ([("self", .given "self"), ("path", .lent "path" (.given "path")),
          ("label", .blank "label"), ("offset", .lent "offset" (.given "offset"))],
        [("label", .found (.blank "label")),
          ("offset", .found (.lent "offset" (.given "offset")))]) := by
    decide +kernel
  rw [hb] at hnames hvalues
  simp only [Except.toOption, Option.map_some, Option.some.injEq, Prod.mk.injEq, decide_eq_true_eq]
    at hnames hvalues
  refine ⟨hcnames, _, b', hd, rfl, hnames.1, ?_⟩
  rw [hrun hnames.1, hnames.2, hvalues.1, hvalues.2]
  rfl

/-- A probe whose only parameter is an output of the name of the result. -/
def resultProbe : Method where
  name := "Probe"
  cname := "gtk_probe"
  returnType := "gboolean"
  parameters := [{ type := "gint*", name := "result" }]

/-- The names have to be apart: the output of the probe hides the result of its call, so that both
components of what is returned are what is found behind the pointer. -/
theorem captures_resultProbe :
    (resultProbe.parameters.map (·.name)).Nodup ∧
    ∃ d b, (ofFunction [] {} false ⟨resultProbe, none, none⟩).outcome = .ok d ∧
      d.defined = .function b ∧ ¬b.equation.BindsApart ∧ b.equation.run = some
        { passed := [("result", .blank "result")]
          result := some (.found (.blank "result"))
          returned := [("result", .found (.blank "result"))] } := by
  obtain ⟨d, hd⟩ : ∃ d, (ofFunction [] {} false ⟨resultProbe, none, none⟩).outcome = .ok d :=
    exists_ok_of_isSome (by decide +kernel)
  obtain ⟨b, text, hb, -, rfl⟩ := ofFunction_eq_ok_iff.mp hd
  have hrun : (Binding.ofMethod [] {} false resultProbe none none).toOption.map
      (fun b => (decide b.equation.BindsApart, b.equation.run)) = some (false, some
        { passed := [("result", .blank "result")]
          result := some (.found (.blank "result"))
          returned := [("result", .found (.blank "result"))] }) := by
    decide +kernel
  rw [hb] at hrun
  simp only [Except.toOption, Option.map_some, Option.some.injEq, Prod.mk.injEq,
    decide_eq_false_iff_not] at hrun
  exact ⟨by decide, _, b, hd, rfl, hrun⟩

end Definition
end BindingGen

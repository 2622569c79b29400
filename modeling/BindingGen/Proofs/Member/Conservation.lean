/-
# No member is lost

A constructor is bound or has a variable argument list; a method is bound, has one, or is a
deprecated method that is dropped because the prior module does not call it. So the C names of an
object's functions are those of the bound functions, those of the note of what was not bound, and
those of the dropped methods, each as often as it is declared. Where the C names are distinct, each
member is found in exactly one of these places.

Key definitions: `boundNames`, `Object.droppedMethods`, `IsNoteOf`, `notedNames`.
Key theorems: `Object.methods_perm_parts`, `Object.functionNames_perm_parts`,
`isNoteOf_moduleTodo`, `notedNames_of_isNoteOf`, `Object.members_conserved`.
-/
import Mathlib.Data.List.Perm.Basic
import BindingGen.Module.Basic
import BindingGen.Proofs.Member.Entries
import BindingGen.Proofs.Text.Join
import BindingGen.Proofs.Text.Line

namespace BindingGen

/-- The C names of the functions that are bound. -/
def boundNames (entries : List FunctionEntry) : List String := entries.map (·.method.cname)

namespace Object

/-- Whether a method is dropped: it could be bound, but is deprecated and not called before. -/
def isDropped (priors : List PriorCall) (m : Method) : Bool :=
  !hasVarargs m.parameters && m.deprecated && !priors.any fun c => c.cname = m.cname

variable (obj : Object) (settings : Settings) (docs : List FunctionDoc) (priors : List PriorCall)

/-- The methods that are dropped. -/
def droppedMethods : List Method := obj.methods.filter (isDropped priors)

/-- The C names of the constructors and the methods that are bound. -/
def boundFunctions (priorFirst : Bool) : List String :=
  boundNames (obj.constructorEntries settings docs priors) ++
    boundNames (obj.methodEntries docs priors priorFirst)

/-! ### The parts of an object's functions -/

theorem constructors_perm_parts :
    (obj.constructors.filter (fun c => !hasVarargs c.parameters) ++
      obj.constructors.filter fun c => hasVarargs c.parameters).Perm obj.constructors := by
  have hsplit := List.filter_append_perm (fun c => !hasVarargs c.parameters) obj.constructors
  simpa only [Bool.not_not] using hsplit

/-- A method is bound, has a variable argument list, or is dropped. -/
theorem methods_perm_parts :
    (obj.methods.filter (isBound priors) ++
      obj.methods.filter (fun m => hasVarargs m.parameters) ++
      obj.droppedMethods priors).Perm obj.methods := by
  have hbound : ∀ m, (isBound priors m && !hasVarargs m.parameters) = isBound priors m := by
    intro m
    simp only [isBound]
    cases hasVarargs m.parameters <;> simp
  -- of the methods without a variable argument list, those that are not bound are dropped
  have hdropped : ∀ m, (!isBound priors m && !hasVarargs m.parameters) = isDropped priors m := by
    intro m
    simp only [isBound, isDropped]
    cases hasVarargs m.parameters <;> cases m.deprecated <;> simp
  have hfinite := List.filter_append_perm (isBound priors)
    (obj.methods.filter fun m => !hasVarargs m.parameters)
  simp only [List.filter_filter, hbound, hdropped] at hfinite
  have hall := List.filter_append_perm (fun m => hasVarargs m.parameters) obj.methods
  refine ((List.perm_append_comm.append_right _).trans ?_).trans hall
  rw [List.append_assoc]
  exact hfinite.append_left _

/-- **No function is lost.** Its C name is that of a bound function, is in the note of what was not
bound, or is that of a dropped method, as often as it is declared. -/
theorem functionNames_perm_parts (priorFirst : Bool) :
    obj.functionNames.Perm
      (obj.boundFunctions settings docs priors priorFirst ++ obj.varargsFunctions ++
        (obj.droppedMethods priors).map (·.cname)) := by
  have hconstructors := obj.constructors_perm_parts.map (·.cname)
  have hmethods := (obj.methods_perm_parts priors).map (·.cname)
  have hbound : (boundNames (obj.constructorEntries settings docs priors)).Perm
      ((obj.constructors.filter fun c => !hasVarargs c.parameters).map (·.cname)) := by
    rw [constructorEntries_eq_map, boundNames, List.map_map]
    exact (obj.orderedConstructors_perm priors).map _
  have hbound' : (boundNames (obj.methodEntries docs priors priorFirst)).Perm
      ((obj.methods.filter (isBound priors)).map (·.cname)) := by
    rw [methodEntries_eq_map, boundNames, List.map_map]
    exact (obj.orderedMethods_perm docs priors priorFirst).map _
  rw [List.perm_iff_count]
  intro name
  have hc := hconstructors.count_eq name
  have hm := hmethods.count_eq name
  rw [List.map_append, List.count_append, ← hbound.count_eq] at hc
  rw [List.map_append, List.map_append, List.count_append, List.count_append,
    ← hbound'.count_eq] at hm
  simp only [functionNames, boundFunctions, varargsFunctions, List.count_append]
  omega

end Object

/-! ### The note of what was not bound -/

/-- The line above the names. -/
def noteHeading : String := "-- TODO: the following varargs functions were not bound"

/-- What stands in front of a name. -/
def noteMark : String := "--   "

/-- The note has one line for each of the names, in order; without names there is none. -/
def IsNoteOf (names : List String) (note : String) : Prop :=
  names = [] ∧ note = "" ∨
    names ≠ [] ∧ note = "\n" ++ noteHeading ++ "\n" ++
      String.join (names.map fun name => noteMark ++ name ++ "\n") ++ "--"

/-- The names that a note has lines for. -/
def notedNames (note : String) : List String :=
  (Text.linesOf note).filterMap fun line =>
    if noteMark.toList <+: line then some (String.ofList (line.drop noteMark.length)) else none

theorem isNoteOf_moduleTodo (obj : Object) : IsNoteOf obj.varargsFunctions (moduleTodo obj) := by
  unfold IsNoteOf moduleTodo
  cases hnames : obj.varargsFunctions with
  | nil => exact Or.inl ⟨rfl, rfl⟩
  | cons name names =>
    refine Or.inr ⟨by simp, ?_⟩
    have hlines : String.join ((name :: names).map fun name => noteMark ++ name ++ "\n") =
        "\n".intercalate ((name :: names).map (noteMark ++ ·)) ++ "\n" := by
      rw [Text.intercalate_append_self _ (by simp), List.map_map]
      rfl
    have hheading : "\n-- TODO: the following varargs functions were not bound\n" =
        "\n" ++ noteHeading ++ "\n" := by decide
    have hclose : "\n--" = "\n" ++ "--" := by decide
    rw [hlines, hheading, hclose]
    simp only [List.isEmpty_cons, Bool.false_eq_true, if_false, noteMark, String.append_assoc]

/-- The names of a note can be read from its lines, if each of them stands on one line. -/
theorem notedNames_of_isNoteOf {names : List String} {note : String} (h : IsNoteOf names note)
    (hline : ∀ name ∈ names, '\n' ∉ name.toList) : notedNames note = names := by
  obtain ⟨rfl, rfl⟩ | ⟨-, rfl⟩ := h
  · decide
  have hmarked : ∀ line ∈ names.map (noteMark ++ ·), '\n' ∉ line.toList := by
    intro line hmem
    obtain ⟨name, hname, rfl⟩ := List.mem_map.mp hmem
    rw [String.toList_append, List.mem_append, not_or]
    exact ⟨by decide, hline name hname⟩
  have hbody := Text.linesOf_join_append hmarked "--"
  rw [List.map_map, List.map_map] at hbody
  have hlines : Text.linesOf ("\n" ++ noteHeading ++ "\n" ++
      String.join (names.map fun name => noteMark ++ name ++ "\n") ++ "--") =
        [[], noteHeading.toList] ++ ((names.map fun name => (noteMark ++ name).toList) ++
          ["--".toList]) := by
    rw [String.append_assoc, Text.linesOf_append_break]
    exact congrArg₂ (· ++ ·) (by decide) hbody
  have hread : ∀ name ∈ names, (if noteMark.toList <+: (noteMark ++ name).toList then
      some (String.ofList ((noteMark ++ name).toList.drop noteMark.length)) else none) =
        some name := by
    intro name _
    have hmark : noteMark.length = noteMark.toList.length := rfl
    rw [String.toList_append, if_pos (List.prefix_append _ _), hmark, List.drop_left,
      String.ofList_toList]
  have hheading : ¬noteMark.toList <+: noteHeading.toList := by decide
  have hclose : ¬noteMark.toList <+: "--".toList := by decide
  have hempty : ¬noteMark.toList <+: [] := by decide
  unfold notedNames
  rw [hlines, List.filterMap_append, List.filterMap_append, List.filterMap_map]
  simp only [List.filterMap_cons, List.filterMap_nil, if_neg hheading, if_neg hclose,
    if_neg hempty, List.nil_append, List.append_nil]
  exact (List.filterMap_congr hread).trans List.filterMap_some

/-! ### Conservation -/

namespace Object

variable {obj : Object} {settings : Settings} {docs : List FunctionDoc} {priors : List PriorCall}
  {priorFirst : Bool}

theorem mem_droppedMethods_iff {m : Method} :
    m ∈ obj.droppedMethods priors ↔ m ∈ obj.methods ∧ hasVarargs m.parameters = false ∧
      m.deprecated = true ∧ ∀ call ∈ priors, call.cname ≠ m.cname := by
  simp [droppedMethods, isDropped, and_assoc]

theorem mem_boundFunctions_of_constructor {c : Constructor} (hc : c ∈ obj.constructors)
    (hfinite : hasVarargs c.parameters = false) :
    c.cname ∈ obj.boundFunctions settings docs priors priorFirst := by
  refine List.mem_append_left _ ?_
  rw [constructorEntries_eq_map, boundNames, List.map_map, List.mem_map]
  exact ⟨c, (obj.orderedConstructors_perm priors).mem_iff.mpr (by simp [hc, hfinite]), rfl⟩

theorem mem_boundFunctions_of_method {m : Method} (hm : m ∈ obj.methods)
    (hbound : isBound priors m = true) :
    m.cname ∈ obj.boundFunctions settings docs priors priorFirst := by
  refine List.mem_append_right _ ?_
  rw [methodEntries_eq_map, boundNames, List.map_map, List.mem_map]
  exact ⟨m, (obj.orderedMethods_perm docs priors priorFirst).mem_iff.mpr
    (List.mem_filter.mpr ⟨hm, hbound⟩), rfl⟩

section Distinct

variable (hdistinct : obj.functionNames.Nodup)
include hdistinct

/-- Nothing is bound twice, or bound although it is noted or dropped. -/
theorem boundFunctions_apart : (obj.boundFunctions settings docs priors priorFirst).Nodup ∧
    ∀ name ∈ obj.varargsFunctions ++ (obj.droppedMethods priors).map (·.cname),
      name ∉ obj.boundFunctions settings docs priors priorFirst := by
  have hparts :=
    (obj.functionNames_perm_parts settings docs priors priorFirst).nodup_iff.mp hdistinct
  rw [List.append_assoc] at hparts
  obtain ⟨hbound, -, hapart⟩ := List.nodup_append.mp hparts
  exact ⟨hbound, fun name hname hmem => hapart name hmem name hname rfl⟩

theorem count_boundFunctions {name : String}
    (h : name ∈ obj.boundFunctions settings docs priors priorFirst) :
    (obj.boundFunctions settings docs priors priorFirst).count name = 1 :=
  List.count_eq_one_of_mem (boundFunctions_apart hdistinct).1 h

theorem constructor_found {c : Constructor} (hc : c ∈ obj.constructors) :
    (hasVarargs c.parameters = true → c.cname ∈ obj.varargsFunctions ∧
        c.cname ∉ obj.boundFunctions settings docs priors priorFirst) ∧
      (hasVarargs c.parameters = false →
        (obj.boundFunctions settings docs priors priorFirst).count c.cname = 1) := by
  refine ⟨fun hvarargs => ?_, fun hfinite => ?_⟩
  · have hnoted : c.cname ∈ obj.varargsFunctions :=
      List.mem_append_left _ (List.mem_map_of_mem (List.mem_filter.mpr ⟨hc, hvarargs⟩))
    exact ⟨hnoted, (boundFunctions_apart hdistinct).2 _ (List.mem_append_left _ hnoted)⟩
  · exact count_boundFunctions hdistinct (mem_boundFunctions_of_constructor hc hfinite)

theorem method_found {m : Method} (hm : m ∈ obj.methods) :
    (hasVarargs m.parameters = true → m.cname ∈ obj.varargsFunctions ∧
        m.cname ∉ obj.boundFunctions settings docs priors priorFirst) ∧
      (m ∈ obj.droppedMethods priors →
        m.cname ∉ obj.boundFunctions settings docs priors priorFirst) ∧
      (hasVarargs m.parameters = false → m ∉ obj.droppedMethods priors →
        (obj.boundFunctions settings docs priors priorFirst).count m.cname = 1) := by
  refine ⟨fun hvarargs => ?_, fun hdropped => ?_, fun hfinite hkept => ?_⟩
  · have hnoted : m.cname ∈ obj.varargsFunctions :=
      List.mem_append_right _ (List.mem_map_of_mem (List.mem_filter.mpr ⟨hm, hvarargs⟩))
    exact ⟨hnoted, (boundFunctions_apart hdistinct).2 _ (List.mem_append_left _ hnoted)⟩
  · exact (boundFunctions_apart hdistinct).2 _
      (List.mem_append_right _ (List.mem_map_of_mem hdropped))
  · refine count_boundFunctions hdistinct (mem_boundFunctions_of_method hm ?_)
    rcases List.mem_append.mp ((obj.methods_perm_parts priors).mem_iff.mpr hm) with h | h
    · rcases List.mem_append.mp h with h | h
      · exact (List.mem_filter.mp h).2
      · exact absurd ((List.mem_filter.mp h).2.symm.trans hfinite) (by decide)
    · exact absurd h hkept

end Distinct

/-- **Members are conserved.** The C names of an object's functions are those of the functions that
are bound, of those that the note lists, and of the methods that are dropped, as often as they are
declared. Where they are distinct, a function with a variable argument list is noted and not bound,
and every other one is bound once, or is a deprecated method that was not called before. -/
theorem members_conserved (obj : Object) (settings : Settings) (docs : List FunctionDoc)
    (priors : List PriorCall) (priorFirst : Bool) :
    obj.functionNames.Perm
        (boundNames (obj.constructorEntries settings docs priors) ++
          boundNames (obj.methodEntries docs priors priorFirst) ++ obj.varargsFunctions ++
          (obj.droppedMethods priors).map (·.cname)) ∧
      (IsNoteOf obj.varargsFunctions (moduleTodo obj) ∧
        ((∀ name ∈ obj.varargsFunctions, '\n' ∉ name.toList) →
          notedNames (moduleTodo obj) = obj.varargsFunctions)) ∧
      (∀ m, m ∈ obj.droppedMethods priors ↔ m ∈ obj.methods ∧ hasVarargs m.parameters = false ∧
        m.deprecated = true ∧ ∀ call ∈ priors, call.cname ≠ m.cname) ∧
      (obj.functionNames.Nodup →
        (∀ c ∈ obj.constructors,
          (hasVarargs c.parameters = true → c.cname ∈ obj.varargsFunctions ∧
            c.cname ∉ obj.boundFunctions settings docs priors priorFirst) ∧
          (hasVarargs c.parameters = false →
            (obj.boundFunctions settings docs priors priorFirst).count c.cname = 1)) ∧
        ∀ m ∈ obj.methods,
          (hasVarargs m.parameters = true → m.cname ∈ obj.varargsFunctions ∧
            m.cname ∉ obj.boundFunctions settings docs priors priorFirst) ∧
          (m ∈ obj.droppedMethods priors →
            m.cname ∉ obj.boundFunctions settings docs priors priorFirst) ∧
          (hasVarargs m.parameters = false → m ∉ obj.droppedMethods priors →
            (obj.boundFunctions settings docs priors priorFirst).count m.cname = 1)) := by
  have hnote := isNoteOf_moduleTodo obj
  exact ⟨obj.functionNames_perm_parts settings docs priors priorFirst,
    ⟨hnote, notedNames_of_isNoteOf hnote⟩, fun m => mem_droppedMethods_iff,
    fun hdistinct => ⟨fun c hc => constructor_found hdistinct hc,
      fun m hm => method_found hdistinct hm⟩⟩

end Object

/-- An object with a constructor that has a variable argument list, a method, and two deprecated
methods, one of which was called before. -/
def packedBox : Object where
  name := "Box"
  cname := "GtkBox"
  constructors := [{ name := "NewWith", cname := "gtk_box_new_with",
                     parameters := [{ type := "gint", name := "first" },
                       { type := "", name := "...", isVarargs := true }] }]
  methods := [
    { name := "Pack", cname := "gtk_box_pack", returnType := "void" },
    { name := "Unpack", cname := "gtk_box_unpack", returnType := "void", deprecated := true },
    { name := "Repack", cname := "gtk_box_repack", returnType := "void", deprecated := true }]

/-- The method that was called before. -/
def packedBoxCalls : List PriorCall := [{ cname := "gtk_box_repack", isUnsafe := true }]

/-- The constructor is in the note, two methods are bound and the third is dropped. -/
theorem members_conserved_packedBox :
    packedBox.functionNames.Nodup ∧
      (∀ name ∈ packedBox.varargsFunctions, '\n' ∉ name.toList) ∧
      notedNames (moduleTodo packedBox) = ["gtk_box_new_with"] ∧
      (packedBox.boundFunctions {} [] packedBoxCalls true).count "gtk_box_pack" = 1 ∧
      (packedBox.boundFunctions {} [] packedBoxCalls true).count "gtk_box_repack" = 1 ∧
      "gtk_box_unpack" ∉ packedBox.boundFunctions {} [] packedBoxCalls true := by
  have hdistinct : packedBox.functionNames.Nodup := by decide
  have hlines : ∀ name ∈ packedBox.varargsFunctions, '\n' ∉ name.toList := by decide
  obtain ⟨-, ⟨-, hnoted⟩, -, hfound⟩ :=
    packedBox.members_conserved {} [] packedBoxCalls true
  obtain ⟨-, hmethods⟩ := hfound hdistinct
  have hpack := hmethods packedBox.methods[0] (List.getElem_mem _)
  have hunpack := hmethods packedBox.methods[1] (List.getElem_mem _)
  have hrepack := hmethods packedBox.methods[2] (List.getElem_mem _)
  exact ⟨hdistinct, hlines, (hnoted hlines).trans (by decide), hpack.2.2 rfl (by decide),
    hrepack.2.2 rfl (by decide), hunpack.2.1 (by decide)⟩

end BindingGen

/-
# The layout of a block

The statements of a block are told apart by their columns: a line that starts in the column of the
block is a statement, and a line further to the right goes on with the one before. The text of a
call has several lines, all of which but the first are indented, and moving them two columns to the
right puts them behind the column of the block, whatever the call is given and whatever is done to
its result. So the statements of a block are the call, one statement for each output and the one
that returns them, as long as the variables of the outputs start with a visible character.

Key definitions: `startColumn`, `Hangs`, `BlockLayout`, `BlockLayout.IsLaidOut`.
Key theorems: `Hangs.append_indent`, `Hangs.nested`, `Binding.exists_hangsOn_callStatement`,
`BlockLayout.filter_statements`, `Binding.isLaidOut_blockLayout`, `Definition.ofFunction_layout`.
-/
import BindingGen.Proofs.Function.Returned

namespace BindingGen

open Text

/-! ### Columns -/

/-- The column in which the text of a line starts. -/
def startColumn (line : String) : Nat := (line.toList.takeWhile isBlank).length

theorem isFlat_spaces (n : Nat) : IsFlat (spaces n) := by
  rw [IsFlat, spaces, String.toList_ofList]
  exact fun h => absurd (List.eq_of_mem_replicate h) (by decide)

theorem startColumn_spaces_append (n : Nat) (line : String) :
    startColumn (spaces n ++ line) = n + startColumn line := by
  have hblank : ∀ c ∈ List.replicate n ' ', isBlank c = true := by
    intro c hc
    rw [List.eq_of_mem_replicate hc]
    decide
  rw [startColumn, String.toList_append, spaces, String.toList_ofList,
    List.takeWhile_append_of_pos hblank, List.length_append, List.length_replicate]
  rfl

theorem startColumn_of_startsVisible {line : String} (h : StartsVisible line) :
    startColumn line = 0 := by
  unfold StartsVisible at h
  unfold startColumn
  cases hline : line.toList with
  | nil => rfl
  | cons c rest =>
    have hc : isBlank c = false := by simpa [hline] using h
    rw [List.takeWhile_cons_of_neg (by simp [hc])]
    rfl

theorem startColumn_spaces_of_startsVisible {line : String} (h : StartsVisible line) (n : Nat) :
    startColumn (spaces n ++ line) = n := by
  rw [startColumn_spaces_append, startColumn_of_startsVisible h, Nat.add_zero]

/-! ### Hanging lines -/

/-- The text is a first line and further lines that are indented by `n` columns at least. -/
structure HangsOn (n : Nat) (first : String) (rest : List String) (text : String) : Prop where
  text_eq : text = first ++ String.join (rest.map ("\n" ++ ·))
  first : IsFlat first
  rest : ∀ line ∈ rest, IsFlat line ∧ n ≤ startColumn line

/-- All lines of the text but the first are indented by `n` columns at least. -/
def Hangs (n : Nat) (text : String) : Prop := ∃ first rest, HangsOn n first rest text

theorem IsFlat.hangs {text : String} (h : IsFlat text) (n : Nat) : Hangs n text :=
  ⟨text, [], by simp, h, fun line hline => by cases hline⟩

theorem Hangs.append_indent {n level : Nat} {a b : String} (ha : Hangs n a) (hb : Hangs n b)
    (hlevel : n ≤ 2 * level) : Hangs n (a ++ indent level ++ b) := by
  obtain ⟨first, rest, rfl, hfirst, hrest⟩ := ha
  obtain ⟨next, others, rfl, hnext, hothers⟩ := hb
  have hindent : indent level = "\n" ++ spaces (2 * level) := rfl
  refine ⟨first, rest ++ (spaces (2 * level) ++ next) :: others, ⟨?_, hfirst, ?_⟩⟩
  · rw [hindent, List.map_append, List.map_cons, String.join_append, String.join_cons]
    simp only [String.append_assoc]
  · rw [List.forall_mem_append, List.forall_mem_cons, startColumn_spaces_append]
    exact ⟨hrest, ⟨isFlat_append.mpr ⟨isFlat_spaces _, hnext⟩, by omega⟩, hothers⟩

theorem Hangs.lines_append {n level : Nat} {lines : List String} {text : String}
    (hlines : ∀ line ∈ lines, IsFlat line) (htext : Hangs n text) (hlevel : n ≤ 2 * level) :
    Hangs n (String.join (lines.map (· ++ indent level)) ++ text) := by
  induction lines with
  | nil => simpa using htext
  | cons line lines ih =>
    rw [List.forall_mem_cons] at hlines
    have hrest := (hlines.1.hangs n).append_indent (ih hlines.2) hlevel
    simpa only [List.map_cons, String.join_cons, String.append_assoc] using hrest

theorem Hangs.append_lines {n level : Nat} {lines : List String} {text : String}
    (htext : Hangs n text) (hlines : ∀ line ∈ lines, IsFlat line) (hlevel : n ≤ 2 * level) :
    Hangs n (text ++ String.join (lines.map (indent level ++ ·))) := by
  induction lines generalizing text with
  | nil => simpa using htext
  | cons line lines ih =>
    rw [List.forall_mem_cons] at hlines
    have hrest := ih (htext.append_indent (hlines.1.hangs n) hlevel) hlines.2
    simpa only [List.map_cons, String.join_cons, String.append_assoc] using hrest

/-- A nested text hangs two columns further to the right. -/
theorem Hangs.nested {n : Nat} {text : String} (h : Hangs n text) :
    Hangs (n + 2) (nested text) := by
  obtain ⟨first, rest, rfl, hfirst, hrest⟩ := h
  refine ⟨first, rest.map (spaces 2 ++ ·), ⟨?_, hfirst, ?_⟩⟩
  · have hmoved : rest.map (BindingGen.nested ∘ ("\n" ++ ·)) =
        rest.map (("\n" ++ ·) ∘ (spaces 2 ++ ·)) := by
      refine List.map_congr_left fun line hline => ?_
      rw [Function.comp_apply, Function.comp_apply, nested_append,
        nested_of_not_mem (hrest line hline).1, ← String.append_assoc]
      rfl
    rw [nested_append, nested_of_not_mem hfirst, nested_join, List.map_map, List.map_map, hmoved]
  · rw [List.forall_mem_map]
    intro line hline
    obtain ⟨hbreak, hcolumn⟩ := hrest line hline
    rw [startColumn_spaces_append]
    exact ⟨isFlat_append.mpr ⟨isFlat_spaces 2, hbreak⟩, by omega⟩

theorem startsVisible_nested {text : String} (h : StartsVisible text) :
    StartsVisible (nested text) := by
  unfold StartsVisible at h ⊢
  rw [nested, String.toList_ofList]
  cases htext : text.toList with
  | nil => simp [htext] at h
  | cons c rest =>
    have hc : isBlank c = false := by simpa [htext] using h
    have hbreak : c ≠ '\n' := by
      rintro rfl
      exact absurd hc (by decide)
    simp [hbreak, hc]

theorem HangsOn.startsVisible {n : Nat} {first text : String} {rest : List String}
    (h : HangsOn n first rest text) (hvisible : StartsVisible text) : StartsVisible first := by
  rw [h.text_eq] at hvisible
  unfold StartsVisible at hvisible ⊢
  cases hfirst : first.toList with
  | cons c tail => simpa [hfirst] using hvisible
  | nil =>
    -- without a first line, the text is empty or starts with a line feed
    rw [String.toList_append, hfirst] at hvisible
    cases rest with
    | nil => simp at hvisible
    | cons line rest =>
      rw [List.map_cons, String.join_cons] at hvisible
      simp at hvisible
      exact absurd hvisible (by decide)

/-! ### Calls -/

namespace ResultGlue

variable {glue : ResultGlue} (hglue : glue.IsOnLines) {call : String}
include hglue

/-- What is done to the result of a call is on lines of its own, in front of the call or behind. -/
theorem hangs_apply (h : Hangs 2 call) : Hangs 2 (glue.apply call) := by
  cases glue with
  | direct => exact h
  | convert conversion =>
    refine Hangs.append_indent (IsFlat.hangs ?_ 2) h le_rfl
    exact isFlat_append.mpr ⟨isFlat_append.mpr ⟨by decide, hglue⟩, by decide⟩
  | read reader nullable =>
    have hline : ∀ start, IsFlat start → Hangs 2 (call ++ indent 1 ++ (start ++ reader)) :=
      fun start hstart =>
        h.append_indent (IsFlat.hangs (isFlat_append.mpr ⟨hstart, hglue⟩) 2) le_rfl
    cases nullable with
    | false => simpa only [apply, String.append_assoc] using hline ">>= " (by decide)
    | true => simpa only [apply, String.append_assoc] using hline ">>= maybePeek " (by decide)
  | make maker nullable =>
    obtain ⟨hmaker, -⟩ := hglue
    cases nullable with
    | false =>
      exact Hangs.append_indent (IsFlat.hangs (isFlat_append.mpr ⟨hmaker, by decide⟩) 2) h le_rfl
    | true =>
      refine Hangs.append_indent (IsFlat.hangs ?_ 2) h le_rfl
      exact isFlat_append.mpr ⟨isFlat_append.mpr ⟨by decide, hmaker⟩, by decide⟩

theorem startsVisible_apply (h : StartsVisible call) : StartsVisible (glue.apply call) := by
  cases glue with
  | direct => exact h
  | convert conversion =>
    simp only [apply, String.append_assoc]
    exact StartsVisible.append (by decide) _
  | read reader nullable =>
    cases nullable <;> simp only [apply, String.append_assoc] <;> exact h.append _
  | make maker nullable =>
    cases nullable with
    | false =>
      simp only [apply, String.append_assoc]
      exact hglue.2.append _
    | true =>
      simp only [apply, String.append_assoc]
      exact StartsVisible.append (by decide) _

end ResultGlue

namespace Binding

variable {b : Binding} (hlines : ∀ p ∈ b.parameters, p.marshaled.IsOnLines)
include hlines

theorem mem_lent {x : String × Bracket} (hx : x ∈ b.equation.lent) :
    IsFlat x.2.render ∧ StartsVisible x.2.render := by
  obtain ⟨p, hp, hx⟩ := List.mem_filterMap.mp (List.mem_reverse.mp hx)
  obtain ⟨bracket, hbracket, rfl⟩ := Option.map_eq_some_iff.mp hx
  exact (hlines p hp).bracket bracket hbracket

theorem isFlat_of_mem_passed {x : String × Operand} (hx : x ∈ b.equation.passed) :
    IsFlat x.2.argument := by
  obtain ⟨p, hp, rfl⟩ := List.mem_map.mp hx
  exact (hlines p hp).argument

theorem hangs_render_call (hhook : IsFlat b.hook.render) : Hangs 2 b.call.render := by
  have hbrackets : ∀ line ∈ b.equation.lent.map (·.2.render), IsFlat line := by
    rw [List.forall_mem_map]
    exact fun x hx => (mem_lent hlines hx).1
  have harguments : ∀ line ∈ b.equation.passed.map (·.2.argument), IsFlat line := by
    rw [List.forall_mem_map]
    exact fun x hx => isFlat_of_mem_passed hlines hx
  have hcall : Hangs 2 (b.equation.hook ++
      String.join ((b.equation.passed.map (·.2.argument)).map (indent 2 ++ ·))) :=
    (hhook.hangs 2).append_lines harguments (by decide)
  have hall : Hangs 2 (String.join ((b.equation.lent.map (·.2.render)).map (· ++ indent 1)) ++ _) :=
    Hangs.lines_append hbrackets hcall le_rfl
  rw [render_call, String.append_assoc]
  simpa only [List.map_map, Function.comp_def] using hall

theorem startsVisible_render_call : StartsVisible b.call.render := by
  rw [render_call, String.append_assoc]
  cases hlent : b.equation.lent with
  | nil =>
    have hhook : StartsVisible b.equation.hook := by
      unfold equation CallHook.render
      split_ifs <;> simp only [String.append_assoc] <;> exact StartsVisible.append (by decide) _
    simpa using hhook.append _
  | cons x rest =>
    have hx := (mem_lent hlines (hlent ▸ List.mem_cons_self)).2
    rw [List.map_cons, String.join_cons, String.append_assoc, String.append_assoc]
    exact hx.append _

/-- The statement of the call starts with a visible character, and its other lines hang two steps
to the right of it. -/
theorem exists_hangsOn_callStatement (hhook : IsFlat b.hook.render)
    (hresult : b.result.glue.IsOnLines) :
    ∃ first rest, HangsOn 4 first rest
        (callStatement (b.result.glue.apply b.call.render) b.hasResult) ∧
      StartsVisible first := by
  have hcall : Hangs 4 (nested (b.result.glue.apply b.call.render)) :=
    (ResultGlue.hangs_apply hresult (hangs_render_call hlines hhook)).nested
  have hvisible : StartsVisible (nested (b.result.glue.apply b.call.render)) :=
    startsVisible_nested
      (ResultGlue.startsVisible_apply hresult (startsVisible_render_call hlines))
  have hstatement : Hangs 4 (callStatement (b.result.glue.apply b.call.render) b.hasResult) ∧
      StartsVisible (callStatement (b.result.glue.apply b.call.render) b.hasResult) := by
    unfold callStatement
    split_ifs
    · refine ⟨Hangs.append_indent (IsFlat.hangs (by decide) 4) hcall le_rfl, ?_⟩
      rw [String.append_assoc]
      exact StartsVisible.append (by decide) _
    · exact ⟨hcall, hvisible⟩
  obtain ⟨⟨first, rest, hhangs⟩, hstarts⟩ := hstatement
  exact ⟨first, rest, hhangs, hhangs.startsVisible hstarts⟩

end Binding

/-! ### Blocks -/

/-- The lines of a block: the brackets of the outputs, the first line of the call and the further
ones, and a line for each output and for what is returned. -/
structure BlockLayout where
  binders : List String
  call : String
  continuation : List String
  peeks : List String
  final : String

/-- The line opens a block. -/
def OpensBlock (line : String) : Prop := " do".toList <:+ line.toList

namespace BlockLayout

variable (l : BlockLayout)

/-- The lines inside the block. -/
def statements : List String := l.call :: (l.continuation ++ (l.peeks ++ [l.final]))

/-- All lines. -/
def lines : List String := l.binders ++ l.statements

/-- The last bracket opens the block, in which the lines that start in the second column are the
call, the outputs and what is returned; the others go on with the call, further to the right. -/
structure IsLaidOut : Prop where
  oneLine : ∀ line ∈ l.lines, IsFlat line
  opens : ∃ before last, l.binders = before ++ [last] ∧ OpensBlock last ∧
    ∀ line ∈ before, ¬OpensBlock line
  starts : l.statements.filter (startColumn · = 2) = l.call :: (l.peeks ++ [l.final])
  continues : ∀ line ∈ l.continuation, 2 < startColumn line

variable {l}

/-- The lines of a block that start in the second column are told from those that go on. -/
theorem filter_statements (hcall : startColumn l.call = 2)
    (hcontinues : ∀ line ∈ l.continuation, 2 < startColumn line)
    (hpeeks : ∀ line ∈ l.peeks, startColumn line = 2) (hfinal : startColumn l.final = 2) :
    l.statements.filter (startColumn · = 2) = l.call :: (l.peeks ++ [l.final]) := by
  have hnone : l.continuation.filter (startColumn · = 2) = [] := by
    refine List.filter_eq_nil_iff.mpr fun line hline => ?_
    rw [decide_eq_true_eq]
    exact (hcontinues line hline).ne'
  have hkept : l.peeks.filter (startColumn · = 2) = l.peeks := by
    refine List.filter_eq_self.mpr fun line hline => ?_
    rw [decide_eq_true_eq]
    exact hpeeks line hline
  rw [statements, List.filter_cons_of_pos (by simp [hcall]), List.filter_append,
    List.filter_append, hnone, hkept, List.nil_append,
    List.filter_cons_of_pos (by simp [hfinal]), List.filter_nil]

/-- A block has two statements more than it has outputs. -/
theorem IsLaidOut.countP_statements (h : l.IsLaidOut) :
    l.statements.countP (startColumn · = 2) = l.peeks.length + 2 := by
  rw [List.countP_eq_length_filter, h.starts, List.length_cons, List.length_append]
  rfl

end BlockLayout

theorem openBlock_concat (before : List String) (last : String) :
    openBlock (before ++ [last]) = before ++ [last ++ " do"] := by
  induction before with
  | nil => rfl
  | cons line before ih =>
    obtain ⟨next, rest, hrest⟩ : ∃ next rest, before ++ [last] = next :: rest :=
      List.exists_cons_of_ne_nil (by simp)
    rw [List.cons_append, hrest, openBlock, ← hrest, ih]
    · rfl
    · exact fun h => by cases h

theorem length_openBlock (lines : List String) : (openBlock lines).length = lines.length := by
  fun_induction openBlock lines with
  | case1 => rfl
  | case2 => rfl
  | case3 line lines _ ih => rw [List.length_cons, ih, List.length_cons]

theorem not_opensBlock_bracket (front : String) (bracket : Bracket) :
    ¬OpensBlock (front ++ bracket.render) := by
  rintro ⟨before, h⟩
  rw [Bracket.render, ← String.append_assoc, String.toList_append] at h
  have hends : " do".toList = " ->".toList := List.append_inj_right' h (by simp)
  simp at hends

namespace Binding

variable {b : Binding}

/-- The layout of a block with the lines of its call. -/
def blockLayout (b : Binding) (first : String) (rest : List String) : BlockLayout where
  binders := (openBlock (b.codedOutputs.map (·.2.bracket.render))).map (spaces 2 ++ ·)
  call := spaces 2 ++ first
  continuation := rest
  peeks := b.codedOutputs.map fun x => spaces 2 ++ x.2.peek.render
  final := spaces 2 ++ ("return (" ++ ", ".intercalate (b.returnedParts.map (·.2)) ++ ")")

/-- The body of a function with outputs is made of the lines of its block. -/
theorem indent_body_eq (houtputs : b.outputs ≠ [])
    (hserves : ∀ p ∈ b.parameters, p.marshaled.Serves p.var) {first : String} {rest : List String}
    (hcall : HangsOn 4 first rest
      (callStatement (b.result.glue.apply b.call.render) b.hasResult)) :
    indent 1 ++ b.equation.body =
      String.join ((b.blockLayout first rest).lines.map ("\n" ++ ·)) := by
  have hne : b.equation.outs ≠ [] := by
    simpa using outs_isEmpty houtputs hserves
  have hindent (text : String) : indent 1 ++ text = "\n" ++ (spaces 2 ++ text) :=
    String.append_assoc
  have hreturned : (if b.hasResult then ["result"] else []) ++
      b.codedOutputs.map (·.2.component.bare) = b.returnedParts.map (·.2) := by
    rw [returnedParts]
    cases b.hasResult <;> simp
  rw [body_of_outs_ne_nil hne, append_intercalate_self _ (by simp [blockLines]), blockLines,
    hcall.text_eq, outs_eq_codedOutputs]
  simp only [List.map_map, Function.comp_def, outText, hreturned, BlockLayout.lines,
    BlockLayout.statements, blockLayout, List.map_append, List.map_cons, List.map_nil,
    String.join_append, String.join_cons, String.join_nil, String.append_empty, hindent,
    String.append_assoc]

theorem isFlat_of_mem_returnedParts (hlines : ∀ p ∈ b.parameters, p.marshaled.IsOnLines)
    {part : String × String} (hpart : part ∈ b.returnedParts) : IsFlat part.2 := by
  rcases List.mem_append.mp hpart with hpart | hpart
  · split_ifs at hpart
    · rw [List.mem_singleton.mp hpart]
      exact (by decide : IsFlat "result")
    · cases hpart
  · obtain ⟨x, hx, rfl⟩ := List.mem_map.mp hpart
    obtain ⟨hp, hout⟩ := mem_codedOutputs hx
    exact ((hlines x.1 (mem_of_mem_outputs hp)).out x.2 hout).2.2

/-- The brackets of a block are as they are but for the last one, which opens it. -/
theorem exists_binders_blockLayout (houtputs : b.codedOutputs ≠ []) (first : String)
    (rest : List String) : ∃ before last, b.codedOutputs = before ++ [last] ∧
      (b.blockLayout first rest).binders =
        before.map (fun x => spaces 2 ++ x.2.bracket.render) ++
          [spaces 2 ++ (last.2.bracket.render ++ " do")] := by
  obtain ⟨before, last, hsplit⟩ : ∃ before last, b.codedOutputs = before ++ [last] :=
    ⟨_, _, (List.dropLast_append_getLast houtputs).symm⟩
  refine ⟨before, last, hsplit, ?_⟩
  rw [blockLayout, hsplit, List.map_append, List.map_singleton, openBlock_concat]
  simp

section BlockLayout

variable {first text : String} {rest : List String}
  (hlines : ∀ p ∈ b.parameters, p.marshaled.IsOnLines) (hcall : HangsOn 4 first rest text)
include hlines hcall

theorem isFlat_of_mem_blockLayout (houtputs : b.codedOutputs ≠ []) :
    ∀ line ∈ (b.blockLayout first rest).lines, IsFlat line := by
  have houts : ∀ x ∈ b.codedOutputs, IsFlat x.2.bracket.render ∧ IsFlat x.2.peek.render := by
    intro x hx
    obtain ⟨hp, hout⟩ := mem_codedOutputs hx
    obtain ⟨hbracket, hpeek, -⟩ := (hlines x.1 (mem_of_mem_outputs hp)).out x.2 hout
    exact ⟨hbracket, hpeek⟩
  have hspaced {line : String} (h : IsFlat line) : IsFlat (spaces 2 ++ line) :=
    isFlat_append.mpr ⟨isFlat_spaces 2, h⟩
  obtain ⟨before, last, hsplit, hbinders⟩ := exists_binders_blockLayout houtputs first rest
  have hlast : last ∈ b.codedOutputs := hsplit ▸ List.mem_append_right _ List.mem_cons_self
  have hparts : ∀ text ∈ b.returnedParts.map (·.2), IsFlat text :=
    List.forall_mem_map.mpr fun part hpart => isFlat_of_mem_returnedParts hlines hpart
  rw [BlockLayout.lines, BlockLayout.statements, hbinders, List.forall_mem_append,
    List.forall_mem_append, List.forall_mem_singleton, List.forall_mem_cons,
    List.forall_mem_append, List.forall_mem_append, List.forall_mem_singleton]
  refine ⟨⟨List.forall_mem_map.mpr fun x hx => ?_, hspaced ?_⟩, hspaced hcall.first,
    fun line hline => (hcall.rest line hline).1,
    List.forall_mem_map.mpr fun x hx => hspaced (houts x hx).2, hspaced ?_⟩
  · exact hspaced (houts x (hsplit ▸ List.mem_append_left _ hx)).1
  · exact isFlat_append.mpr ⟨(houts last hlast).1, by decide⟩
  · rw [isFlat_append, isFlat_append]
    exact ⟨⟨by decide, isFlat_intercalate (by decide) hparts⟩, by decide⟩

/-- A block is laid out by columns where the variables of its outputs start visibly. -/
theorem isLaidOut_blockLayout (houtputs : b.codedOutputs ≠ [])
    (hvisible : ∀ x ∈ b.codedOutputs, StartsVisible x.2.peek.var) (hfirst : StartsVisible first) :
    (b.blockLayout first rest).IsLaidOut := by
  obtain ⟨before, last, -, hbinders⟩ := exists_binders_blockLayout houtputs first rest
  have hcontinues (line : String) (hline : line ∈ rest) : 2 < startColumn line := by
    have hfar := (hcall.rest line hline).2
    omega
  have hpeeks : ∀ line ∈ (b.blockLayout first rest).peeks, startColumn line = 2 := by
    refine List.forall_mem_map.mpr fun x hx => startColumn_spaces_of_startsVisible ?_ 2
    simp only [Peek.render, String.append_assoc]
    exact (hvisible x hx).append _
  have hreturn : StartsVisible
      ("return (" ++ ", ".intercalate (b.returnedParts.map (·.2)) ++ ")") := by
    rw [String.append_assoc]
    exact StartsVisible.append (by decide) _
  refine ⟨isFlat_of_mem_blockLayout hlines hcall houtputs, ⟨_, _, hbinders, ?_, ?_⟩, ?_,
    hcontinues⟩
  · exact ⟨(spaces 2 ++ last.2.bracket.render).toList, by simp⟩
  · exact List.forall_mem_map.mpr fun x _ => not_opensBlock_bracket _ _
  · exact BlockLayout.filter_statements (startColumn_spaces_of_startsVisible hfirst 2) hcontinues
      hpeeks (startColumn_spaces_of_startsVisible hreturn 2)

end BlockLayout

end Binding

/-! ### Functions -/

section OfMethod

variable {symbols : SymbolTable} {settings : Settings} {isConstructor : Bool} {method : Method}
  {doc : Option FunctionDoc} {prior : Option PriorCall} {b : Binding}
  (hb : Binding.ofMethod symbols settings isConstructor method doc prior = .ok b)
include hb

theorem Binding.isFlat_hook (hcall : IsFlat (CallHook.ofPrior method.cname prior).name) :
    IsFlat b.hook.render := by
  rw [hook_of_ofMethod hb, CallHook.render, isFlat_append, isFlat_append]
  refine ⟨⟨?_, hcall⟩, by decide⟩
  split_ifs <;> decide

theorem Binding.isOnLines_result : b.result.glue.IsOnLines :=
  isOnLines_of_marshalResultType? (CType.isFlat_base_parse _)
    (marshalResult_eq_ok_iff.mp (result_of_ofMethod hb))

theorem Binding.isOnLines_of_mem (hnames : ∀ q ∈ method.parameters, IsFlat q.name)
    {p : BoundParameter} (hp : p ∈ b.parameters) : p.marshaled.IsOnLines := by
  obtain ⟨q, hq, hbinds⟩ := binds_of_mem hb hp
  exact isOnLines_of_marshalType? (Name.isFlat_ofParameter (hnames q hq))
    (CType.isFlat_base_parse q.type) hbinds.marshaled

end OfMethod

namespace Definition

variable {symbols : SymbolTable} {settings : Settings} {isConstructor : Bool} {e : FunctionEntry}

/-- **The layout of a block.** A function with outputs that is defined has a body of lines. The
brackets of the outputs come first, and the last of them alone opens a block. The lines of the block
that start in the second column are the first line of the call, one line for each output in order
and the line that returns; every other line goes on with the call, further to the right. The names
of the parameters and of the call are on one line, and the variables of the outputs start with a
visible character. -/
theorem ofFunction_layout {d : Definition}
    (hnames : ∀ q ∈ e.method.parameters, IsFlat q.name)
    (hcall : IsFlat (CallHook.ofPrior e.method.cname e.prior).name)
    (houtputs : e.method.outputs symbols settings ≠ [])
    (hvisible : ∀ q ∈ e.method.outputs symbols settings, StartsVisible (Name.ofParameter q.name))
    (h : (ofFunction symbols settings isConstructor e).outcome = .ok d) :
    ∃ b, ∃ l : BlockLayout, d.defined = .function b ∧
      (∃ front, d.text = front ++ b.head ++ "=" ++ (indent 1 ++ b.equation.body)) ∧
      indent 1 ++ b.equation.body = String.join (l.lines.map ("\n" ++ ·)) ∧
      l.IsLaidOut ∧
      l.binders.length = (e.method.outputs symbols settings).length ∧
      l.peeks.length = (e.method.outputs symbols settings).length ∧
      List.Forall₂ (Parameter.Returned symbols settings e.method.cname)
        (e.method.outputs symbols settings) b.codedOutputs ∧
      l.binders = (openBlock (b.codedOutputs.map (·.2.bracket.render))).map (spaces 2 ++ ·) ∧
      "\n".intercalate (l.call :: l.continuation) =
        spaces 2 ++ callStatement (b.result.glue.apply b.call.render) b.hasResult ∧
      l.peeks = b.codedOutputs.map (fun x => spaces 2 ++ x.2.peek.render) ∧
      l.final = spaces 2 ++
        ("return (" ++ ", ".intercalate (b.returnedParts.map (·.2)) ++ ")") := by
  obtain ⟨b, text, hb, htext, rfl⟩ := ofFunction_eq_ok_iff.mp h
  obtain ⟨comment, signature, -, htext⟩ := Binding.exists_of_render htext
  have hserves : ∀ p ∈ b.parameters, p.marshaled.Serves p.var := fun p => Binding.serves_of_mem hb
  have hlines : ∀ p ∈ b.parameters, p.marshaled.IsOnLines := fun p =>
    Binding.isOnLines_of_mem hb hnames
  have hreturned := Binding.returned_codedOutputs hb
  obtain ⟨first, rest, hhangs, hfirst⟩ := Binding.exists_hangsOn_callStatement hlines
    (Binding.isFlat_hook hb hcall) (Binding.isOnLines_result hb)
  have hcoded : b.codedOutputs ≠ [] := by
    rw [← List.length_pos_iff, ← hreturned.length_eq]
    exact List.length_pos_of_ne_nil houtputs
  have hsome : b.outputs ≠ [] := by
    rw [← Binding.map_fst_codedOutputs hserves]
    simpa using hcoded
  have hvars : ∀ x ∈ b.codedOutputs, StartsVisible x.2.peek.var := by
    intro x hx
    obtain ⟨q, hq, hx⟩ := exists_of_mem_forall₂ hreturned hx
    obtain ⟨-, -, -, hpeek, -⟩ := hx.binds.serves.out_eq hx.code
    rw [hpeek, hx.binds.var]
    exact hvisible q hq
  have hlayout := Binding.isLaidOut_blockLayout hlines hhangs hcoded hvars hfirst
  refine ⟨b, b.blockLayout first rest, rfl, ⟨comment ++ b.name ++ " :: " ++
      constraintText b.constraints ++ signature ++ "\n", ?_⟩,
    Binding.indent_body_eq hsome hserves hhangs, hlayout, ?_, ?_, hreturned, rfl, ?_, rfl, rfl⟩
  · rw [htext, Equation.render, Binding.head]
    simp only [Binding.equation, List.map_map, Function.comp_def, String.append_assoc]
  · rw [Binding.blockLayout, List.length_map, length_openBlock, List.length_map,
      hreturned.length_eq]
  · rw [Binding.blockLayout, List.length_map, hreturned.length_eq]
  · rw [hhangs.text_eq, intercalate_cons_eq_append, ← String.append_assoc]
    rfl

/-- The block of the search: two brackets, the call with its result, two outputs and a return. -/
theorem ofFunction_layout_search :
    ∃ d b, ∃ l : BlockLayout,
      (ofFunction searchSymbols searchSettings false searchEntry).outcome = .ok d ∧
      d.defined = .function b ∧
      indent 1 ++ b.equation.body = String.join (l.lines.map ("\n" ++ ·)) ∧
      l.IsLaidOut ∧
      l.binders = ["  with (fromIntegral startPos) $ \\startPosPtr ->",
        "  alloca $ \\widthPtr -> do"] ∧
      l.peeks = ["  startPos <- peek startPosPtr", "  width <- peek widthPtr"] ∧
      l.final = "  return (result, fromIntegral startPos, fromIntegral width)" := by
  obtain ⟨d, hd⟩ : ∃ d,
      (ofFunction searchSymbols searchSettings false searchEntry).outcome = .ok d :=
    exists_ok_of_isSome (by decide +kernel)
  have houtputs : searchEntry.method.outputs searchSymbols searchSettings =
      [{ type := "gint*", name := "start_pos" }, { type := "gint*", name := "width" }] := by
    decide +kernel
  have hvisible : ∀ q ∈ searchEntry.method.outputs searchSymbols searchSettings,
      StartsVisible (Name.ofParameter q.name) := by
    rw [houtputs]
    decide +kernel
  have htexts : (Binding.ofMethod searchSymbols searchSettings false searchEntry.method
      searchEntry.doc searchEntry.prior).map (fun b =>
        ((openBlock (b.codedOutputs.map (·.2.bracket.render))).map (spaces 2 ++ ·),
          b.codedOutputs.map (fun x => spaces 2 ++ x.2.peek.render),
          spaces 2 ++ ("return (" ++ ", ".intercalate (b.returnedParts.map (·.2)) ++ ")"))) =
      .ok (["  with (fromIntegral startPos) $ \\startPosPtr ->", "  alloca $ \\widthPtr -> do"],
        ["  startPos <- peek startPosPtr", "  width <- peek widthPtr"],
        "  return (result, fromIntegral startPos, fromIntegral width)") := by
    decide +kernel
  obtain ⟨b, l, hdefined, -, hbody, hlaid, -, -, -, hbinders, -, hpeeks, hfinal⟩ :=
    ofFunction_layout (by decide) (by decide) (by rw [houtputs]; exact List.cons_ne_nil _ _)
      hvisible hd
  rw [ofMethod_of_defined hd hdefined] at htexts
  obtain ⟨hbinderTexts, hrest⟩ := Prod.mk.inj (Except.ok.inj htexts)
  obtain ⟨hpeekTexts, hfinalText⟩ := Prod.mk.inj hrest
  exact ⟨d, b, l, hd, hdefined, hbody, hlaid, hbinders.trans hbinderTexts,
    hpeeks.trans hpeekTexts, hfinal.trans hfinalText⟩

/-- A function whose output has a C name without a word in it, so that its variable is empty. -/
def unnamedEntry : FunctionEntry where
  method :=
    { name := "Foo", cname := "foo", returnType := "void"
      parameters := [{ type := "gint*", name := "_" }] }
  doc := none
  prior := none

/-- The statement of an output without a variable starts too far to the right, so that names of
parameters without line feeds alone do not make the layout of a block. -/
theorem not_isLaidOut_unnamed :
    ¬∀ (symbols : SymbolTable) (settings : Settings) (isConstructor : Bool) (e : FunctionEntry)
      (d : Definition), (∀ q ∈ e.method.parameters, IsFlat q.name) →
      IsFlat (CallHook.ofPrior e.method.cname e.prior).name →
      e.method.outputs symbols settings ≠ [] →
      (ofFunction symbols settings isConstructor e).outcome = .ok d →
      ∃ b, ∃ l : BlockLayout, d.defined = .function b ∧
        indent 1 ++ b.equation.body = String.join (l.lines.map ("\n" ++ ·)) ∧ l.IsLaidOut ∧
        l.peeks.length = (e.method.outputs symbols settings).length := by
  intro h
  obtain ⟨d, hd⟩ : ∃ d, (ofFunction [] {} false unnamedEntry).outcome = .ok d :=
    exists_ok_of_isSome (by decide +kernel)
  have houtputs : unnamedEntry.method.outputs [] {} = [{ type := "gint*", name := "_" }] := by
    decide +kernel
  obtain ⟨b, l, hdefined, hbody, hlaid, hpeeks⟩ := h [] {} false unnamedEntry d (by decide)
    (by decide) (by rw [houtputs]; exact List.cons_ne_nil _ _) hd
  have htext : (Binding.ofMethod [] {} false unnamedEntry.method unnamedEntry.doc
      unnamedEntry.prior).map (fun b => linesOf (indent 1 ++ b.equation.body)) =
      .ok ["".toList, "  alloca $ \\Ptr -> do".toList, "  \x7b# call foo #\x7d".toList,
        "      Ptr".toList, "   <- peek Ptr".toList, "  return (fromIntegral )".toList] := by
    decide +kernel
  rw [ofMethod_of_defined hd hdefined, Except.map, Except.ok.injEq, hbody] at htext
  have hread : linesOf ("" ++ String.join (l.lines.map ("\n" ++ ·))) =
      "".toList :: l.lines.map (·.toList) := linesOf_append_join (by decide) hlaid.oneLine
  rw [String.empty_append, htext] at hread
  have hlines := (List.cons.inj hread).2
  -- three lines start in the second column, the first one of which is a bracket
  have hcount : l.lines.countP (startColumn · = 2) = 3 := by
    have hchars : (l.lines.map (·.toList)).countP (fun cs => (cs.takeWhile isBlank).length = 2) =
        3 := by
      rw [← hlines]
      decide +kernel
    rwa [List.countP_map] at hchars
  have hinside : l.statements.countP (startColumn · = 2) = 3 := by
    rw [hlaid.countP_statements, hpeeks, houtputs]
    rfl
  have hbracket : 0 < l.binders.countP (startColumn · = 2) := by
    obtain ⟨before, last, hbinders, -⟩ := hlaid.opens
    obtain ⟨first, more, hfirst⟩ : ∃ first more, l.binders = first :: more :=
      List.exists_cons_of_ne_nil (by rw [hbinders]; simp)
    rw [BlockLayout.lines, hfirst, List.cons_append, List.map_cons] at hlines
    have hcolumn : startColumn first = 2 := by
      rw [startColumn, ← (List.cons.inj hlines).1]
      decide +kernel
    rw [hfirst, List.countP_cons_of_pos (by simp [hcolumn])]
    exact Nat.succ_pos _
  rw [BlockLayout.lines, List.countP_append, hinside] at hcount
  omega

end Definition
end BindingGen

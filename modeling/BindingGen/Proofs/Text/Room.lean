/-
# Lines stay within their room

Chunks are put on a line while they fit, whatever they hold. A line is longer than its room only if
it is a single chunk, and a single chunk is all that a line without room for two characters has. A
chunk that is not blank has no white space of ASCII at which it could be broken.

Key definitions: `IsUnbroken`, `StaysWithin`.
Key theorems: `length_take_fitting_le`, `line_fits`, `fits_of_fillLines`,
`isUnbroken_of_mem_chunks`, `staysWithin_of_wrapLines`.
-/
import BindingGen.Proofs.Text.Greedy

namespace BindingGen.Text

/-- The text has no white space of ASCII, at which lines are broken. -/
def IsUnbroken (text : List Char) : Prop := ∀ c ∈ text, isAsciiBlank c = false

instance (text : List Char) : Decidable (IsUnbroken text) :=
  inferInstanceAs (Decidable (∀ c ∈ text, isAsciiBlank c = false))

/-- The line is not longer than the bound, or it cannot be broken. -/
def StaysWithin (bound : Int) (line : List Char) : Prop := line.length ≤ bound ∨ IsUnbroken line

/-! ### A line -/

theorem length_take_fitting_le (room : Nat) (todo : List (List Char)) :
    (todo.take (fitting room todo)).flatten.length ≤ room := by
  induction todo generalizing room with
  | nil => exact Nat.zero_le _
  | cons chunk rest ih =>
    rw [fitting]
    split_ifs with hchunk
    · rw [List.take_succ_cons, List.flatten_cons, List.length_append]
      have hrest := ih (room - chunk.length)
      omega
    · exact Nat.zero_le _

theorem dropBlankLast_sublist (line : List (List Char)) : (dropBlankLast line).Sublist line := by
  rcases List.eq_nil_or_concat line with rfl | ⟨init, last, rfl⟩
  · exact List.Sublist.refl _
  · rw [List.concat_eq_append, dropBlankLast_concat]
    split_ifs
    · exact List.sublist_append_left init [last]
    · exact List.Sublist.refl _

theorem dropBlankLast_singleton {chunk : List Char} (h : dropBlankLast [chunk] ≠ []) :
    dropBlankLast [chunk] = [chunk] ∧ allBlank chunk = false := by
  have hline : dropBlankLast [chunk] = if allBlank chunk then [] else [chunk] :=
    dropBlankLast_concat [] chunk
  cases hblank : allBlank chunk with
  | true => exact absurd (hline.trans (if_pos hblank)) h
  | false => exact ⟨hline.trans (if_neg (by simp [hblank])), rfl⟩

/-- A line fits into a room for two characters at least, or it is its first chunk. -/
theorem line_fits {room : Nat} {chunk : List Char} {rest : List (List Char)}
    (hne : ∀ c ∈ chunk :: rest, c ≠ [])
    (hline : dropBlankLast (chunk :: rest.take (fitting room (chunk :: rest) - 1)) ≠ []) :
    (1 < room ∧
        (dropBlankLast (chunk :: rest.take (fitting room (chunk :: rest) - 1))).flatten.length ≤
          room) ∨
      dropBlankLast (chunk :: rest.take (fitting room (chunk :: rest) - 1)) = [chunk] ∧
        allBlank chunk = false := by
  obtain ⟨hchunkNe, hrestNe⟩ := List.forall_mem_cons.mp hne
  by_cases hchunk : chunk.length ≤ room
  · have htaken : chunk :: rest.take (fitting room (chunk :: rest) - 1) =
        (chunk :: rest).take (fitting room (chunk :: rest)) := by
      rw [fitting, if_pos hchunk, List.take_succ_cons, Nat.add_sub_cancel]
    have hlength := length_take_fitting_le room (chunk :: rest)
    rw [← htaken] at hlength
    by_cases hroom : 1 < room
    · refine .inl ⟨hroom, le_trans ?_ hlength⟩
      exact (dropBlankLast_sublist _).flatten.length_le
    · -- the first chunk fills the room, so that no other one is with it
      have hpos : 0 < chunk.length := List.length_pos_of_ne_nil hchunkNe
      have hnone : rest.take (fitting room (chunk :: rest) - 1) = [] := by
        rw [List.flatten_cons, List.length_append] at hlength
        have hempty : (rest.take (fitting room (chunk :: rest) - 1)).flatten = [] :=
          List.eq_nil_of_length_eq_zero (by omega)
        refine List.eq_nil_iff_forall_not_mem.mpr fun c hc => ?_
        exact hrestNe c (List.mem_of_mem_take hc) (List.flatten_eq_nil_iff.mp hempty c hc)
      rw [hnone] at hline ⊢
      exact .inr (dropBlankLast_singleton hline)
  · have hnone : rest.take (fitting room (chunk :: rest) - 1) = [] := by
      rw [fitting, if_neg hchunk]
      rfl
    rw [hnone] at hline ⊢
    exact .inr (dropBlankLast_singleton hline)

/-! ### All lines -/

/-- A line is within its room, which is not that of a single character, or it is one of the chunks
and not blank. -/
theorem fits_of_fillLines {width room : Nat} {begun : Bool} {todo : List (List Char)}
    (hne : ∀ c ∈ todo, c ≠ []) : ∀ (i : Nat) (line : List Char),
      (fillLines width room begun todo)[i]? = some line →
      (1 < (if i = 0 then room else width) ∧ line.length ≤ if i = 0 then room else width) ∨
        line ∈ todo ∧ allBlank line = false := by
  fun_induction fillLines width room begun todo with
  | case1 => exact fun i line h => by cases h
  | case2 room begun chunk rest more filled hempty ih =>
    intro i line h
    have hsub := lineStart_drop_subset begun more chunk rest
    exact (ih (fun c hc => hne c (hsub hc)) i line h).imp_right
      (And.imp_left fun hmem => hsub hmem)
  | case3 room begun chunk rest more filled hempty ih =>
    intro i line h
    cases i with
    | zero =>
      obtain rfl := Option.some.inj h
      refine (line_fits hne (by simpa using hempty)).imp_right ?_
      rintro ⟨hsingle, hblank⟩
      have hline : filled = [chunk] := hsingle
      rw [hline, List.flatten_singleton]
      exact ⟨List.mem_cons_self, hblank⟩
    | succ i =>
      have hsub := lineStart_drop_subset true more chunk rest
      have hrest := ih (fun c hc => hne c (hsub hc)) i line h
      rw [ite_self] at hrest
      rw [if_neg (Nat.succ_ne_zero i)]
      exact hrest.imp_right (And.imp_left fun hmem => hsub hmem)

/-! ### Chunks -/

theorem eq_space_of_mem_flattenSpace {text : List Char} {c : Char} (h : c ∈ flattenSpace text)
    (hc : isAsciiBlank c = true) : c = ' ' := by
  obtain ⟨a, -, ha⟩ := List.mem_map.mp h
  split_ifs at ha with hblank
  · exact ha.symm
  · exact absurd (ha ▸ hc) hblank

/-- A chunk is a run of spaces, or it cannot be broken. -/
theorem isUnbroken_of_mem_chunks {text chunk : List Char}
    (h : chunk ∈ chunks (flattenSpace text)) (hblank : allBlank chunk = false) :
    IsUnbroken chunk := by
  let Alike (a b : Char) : Prop := a = ' ' ↔ b = ' '
  have : Trans Alike Alike Alike := ⟨Iff.trans⟩
  have : Std.Symm Alike := ⟨fun _ _ => Iff.symm⟩
  -- of two characters next to one another, and so of any two, both are spaces or neither is
  have halike : chunk.Pairwise Alike :=
    List.isChain_iff_pairwise.mp <| (List.isChain_of_mem_splitBy h).imp fun a b hab => by
      simpa [Alike] using hab
  obtain ⟨visible, hvisible, hnot⟩ := List.all_eq_false.mp hblank
  intro c hc
  rw [← Bool.not_eq_true]
  intro hascii
  have hmem : c ∈ flattenSpace text := by
    rw [← List.flatten_splitBy (fun a b => (a = ' ') == (b = ' ')) (flattenSpace text)]
    exact List.mem_flatten_of_mem h hc
  have hspace : c = ' ' := eq_space_of_mem_flattenSpace hmem hascii
  have hsame : Alike visible c :=
    List.Pairwise.forall_of_forall (R := Alike) (fun _ _ => Iff.rfl) halike hvisible hc
  rw [hsame.mpr hspace] at hnot
  exact hnot (by decide)

/-- A line of a text is within the width, and the first one within what its indent leaves of it;
or it cannot be broken. -/
theorem staysWithin_of_wrapLines {width : Int} {indent : Nat} {text line : List Char} {i : Nat}
    (h : (wrapLines width.toNat indent text)[i]? = some line) :
    StaysWithin (if i = 0 then width - indent else width) line := by
  have hne : ∀ c ∈ chunks (flattenSpace text), c ≠ [] := fun c hc => List.ne_nil_of_mem_splitBy hc
  refine (fits_of_fillLines hne i line h).imp ?_ fun ⟨hmem, hblank⟩ =>
    isUnbroken_of_mem_chunks hmem hblank
  rintro ⟨hroom, hline⟩
  split_ifs at hroom hline ⊢ <;> omega

end BindingGen.Text

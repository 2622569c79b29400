/-
# Lines

The characters that end a line in prose, and the lines of a text. A carriage return and a line
feed together end one line, and a break at the end of a text opens no further line.

Key definitions: `isLineBreak`, `splitLines`.
-/
import BindingGen.Text.CodeRange

namespace BindingGen.Text

/-- The codes of the characters that end a line. -/
def lineBreakRanges : List (Nat × Nat) :=
  [(0x0a, 0x0d), (0x1c, 0x1e), (0x85, 0x85), (0x2028, 0x2029)]

/-- Whether a character ends a line. -/
def isLineBreak (c : Char) : Bool := inRanges lineBreakRanges c.toNat

/-- The lines of a text, without their breaks. -/
def splitLines : List Char → List (List Char)
  | [] => []
  | '\r' :: '\n' :: rest => [] :: splitLines rest
  | c :: rest =>
    if isLineBreak c then [] :: splitLines rest
    else
      match splitLines rest with
      | [] => [[c]]
      | line :: lines => (c :: line) :: lines

/-- No line of a text has a character in it that ends lines. -/
theorem not_isLineBreak_of_mem_splitLines {text line : List Char} (h : line ∈ splitLines text) :
    ∀ c ∈ line, isLineBreak c = false := by
  fun_induction splitLines text generalizing line with
  | case1 => cases h
  | case2 rest ih =>
    rcases List.mem_cons.mp h with rfl | h
    · exact fun _ hc => by cases hc
    · exact ih h
  | case3 c rest _ hbreak ih =>
    rcases List.mem_cons.mp h with rfl | h
    · exact fun _ hc => by cases hc
    · exact ih h
  | case4 c rest _ hbreak hrest ih =>
    rw [List.mem_singleton.mp h]
    simpa using hbreak
  | case5 c rest _ hbreak first lines hrest ih =>
    rcases List.mem_cons.mp h with rfl | h
    · rw [List.forall_mem_cons]
      exact ⟨by simpa using hbreak, ih (hrest ▸ List.mem_cons_self)⟩
    · exact ih (hrest ▸ List.mem_cons_of_mem _ h)

end BindingGen.Text

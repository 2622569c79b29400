/-
# Quoted texts

How a text is shown in a message: between single quotes, or between double quotes where it holds
a single quote and no double one. The quote in use, the backslash and the unprintable characters
are written with a backslash.

Key definitions: `isPrintable`, `escapeIn`, `quoted`.
-/
import BindingGen.Text.CodeRange
import BindingGen.Text.PrintableTable

namespace BindingGen.Text

/-- Whether a character is shown as it is. -/
def isPrintable (c : Char) : Bool :=
  if c.toNat < 128 then 0x20 ≤ c.toNat && c.toNat < 0x7f
  else !inRanges PrintableTable.unprintableRanges c.toNat

/-- The code `n` in hexadecimal, with at least `width` digits. -/
def hexCode (width n : Nat) : List Char :=
  let digits := Nat.toDigits 16 n
  List.replicate (width - digits.length) '0' ++ digits

/-- A character of a text between the quotes `q`. -/
def escapeIn (q c : Char) : List Char :=
  if c = q || c = '\\' then ['\\', c]
  else if c = '\n' then ['\\', 'n']
  else if c = '\r' then ['\\', 'r']
  else if c = '\t' then ['\\', 't']
  else if isPrintable c then [c]
  else if c.toNat < 0x100 then '\\' :: 'x' :: hexCode 2 c.toNat
  else if c.toNat < 0x10000 then '\\' :: 'u' :: hexCode 4 c.toNat
  else '\\' :: 'U' :: hexCode 8 c.toNat

/-- The quote that a text is written between. -/
def quoteFor (text : List Char) : Char :=
  if text.contains '\x27' && !text.contains '"' then '"' else '\x27'

/-- A text between quotes. -/
def quoted (text : String) : String :=
  let q := quoteFor text.toList
  String.ofList (q :: text.toList.flatMap (escapeIn q) ++ [q])

end BindingGen.Text

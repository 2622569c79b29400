/-
# Versions

Versions are texts. They are compared by the numbers that they hold, and a text that holds none is
the least. Of two equal versions the first one given stands.

Key definitions: `Version.key`, `Version.keyLt`, `Version.later`, `Version.parts?`.
-/
import BindingGen.Fault
import BindingGen.Text.Digit

namespace BindingGen.Version

open Text

/-- The numbers that a version holds, unless one of them is too long to read. -/
def key (version : String) : Except Fault (List Nat) :=
  (digitRuns version.toList).mapM fun digits =>
    if digits.length ≤ longestNumeral then .ok (numeral digits)
    else .error (.numeralTooLong digits.length)

/-- The order of keys: by the first number in which they differ, where a key comes before those
that it is the start of. -/
def keyLt : List Nat → List Nat → Bool
  | _, [] => false
  | [], _ :: _ => true
  | a :: as, b :: bs => a < b || (a == b && keyLt as bs)

/-- The later of two versions. -/
def later (a b : String) : Except Fault String := do
  let kb ← key b
  let ka ← key a
  return if keyLt ka kb then b else a

/-- The parts of a text of the form `major.minor` or `major.minor.micro`; a missing micro version
is `0`. -/
def parts? (version : String) : Option (String × String × String) :=
  let parts := version.toList.splitOnP (· = '.')
  if parts.all fun p => !p.isEmpty && p.all isDigit then
    match parts.map String.ofList with
    | [major, minor] => some (major, minor, "0")
    | [major, minor, micro] => some (major, minor, micro)
    | _ => none
  else none

end BindingGen.Version

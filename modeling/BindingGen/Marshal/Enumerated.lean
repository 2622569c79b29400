/-
# Enumerations in Haskell

A value of an enumeration is a constructor of its type, a set of flags a list of them. Both travel
as numbers.

Key definitions: `Variety.hsType`, `Variety.toC`, `Variety.fromC`.
-/
import BindingGen.Marshal.HsType
import BindingGen.Api

namespace BindingGen.Variety

/-- The Haskell type of the values of an enumeration. -/
def hsType (hs : String) : Variety → HsType
  | .choice => .plain hs
  | .flags => .flags hs

/-- The conversion of such a value to a number. -/
def toC : Variety → String
  | .choice => "(fromIntegral . fromEnum)"
  | .flags => "(fromIntegral . fromFlags)"

/-- The conversion of a number to such a value. -/
def fromC : Variety → String
  | .choice => "(toEnum . fromIntegral)"
  | .flags => "(toFlags . fromIntegral)"

end BindingGen.Variety

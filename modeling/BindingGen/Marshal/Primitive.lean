/-
# Primitive C types

The C types that hold a number, a truth value or a character, with the Haskell type that each has,
the conversions to and from it, and its names in signal helpers and property values.

Key definitions: `Primitive`, `Primitive.find?`, `stringBases`, `pointerBases`.
-/
import BindingGen.Marshal.HsType

namespace BindingGen

/-- How values of a primitive C type are handed over. -/
structure Primitive where
  hsType : String
  toC : String
  fromC : String
  category : String
  boxedAs : String
  deriving DecidableEq

namespace Primitive

/-- Signed numbers. -/
def int : Primitive := ⟨"Int", "fromIntegral", "fromIntegral", "INT", "GVint"⟩

/-- Unsigned numbers. -/
def word : Primitive := ⟨"Int", "fromIntegral", "fromIntegral", "WORD", "GVuint"⟩

/-- Signed numbers of 64 bits. -/
def int64 : Primitive := ⟨"Int", "fromIntegral", "fromIntegral", "INT64", "GVint64"⟩

/-- Unsigned numbers of 64 bits. -/
def word64 : Primitive := ⟨"Int", "fromIntegral", "fromIntegral", "WORD64", "GVuint64"⟩

/-- Numbers of double precision. -/
def double : Primitive := ⟨"Double", "realToFrac", "realToFrac", "DOUBLE", "GVdouble"⟩

/-- Numbers of single precision. -/
def float : Primitive := ⟨"Double", "realToFrac", "realToFrac", "FLOAT", "GVfloat"⟩

/-- Truth values. -/
def bool : Primitive := ⟨"Bool", "fromBool", "toBool", "BOOL", "GVboolean"⟩

/-- Characters. -/
def char : Primitive :=
  ⟨"Char", "(fromIntegral . ord)", "(chr . fromIntegral)", "CHAR", "GVuint"⟩

/-- The primitive types by their C names. -/
def table : List (String × Primitive) :=
  [("gboolean", bool), ("gint", int), ("int", int), ("glong", int), ("long", int),
    ("gshort", int), ("gint8", int), ("gint16", int), ("gint32", int), ("guint", word),
    ("guint8", word), ("guint16", word), ("guint32", word), ("gulong", word), ("gushort", word),
    ("gint64", int64), ("gssize", int64), ("guint64", word64), ("gsize", word64),
    ("gdouble", double), ("double", double), ("gfloat", float), ("float", float),
    ("gunichar", char)]

/-- The primitive type of a C name. -/
def find? (base : String) : Option Primitive := table.lookup base

/-- The Haskell type of a primitive type. -/
def type (p : Primitive) : HsType := .plain p.hsType

end Primitive

/-- The characters that strings point to. -/
def stringBases : List String := ["gchar", "char"]

/-- The names of untyped pointers. -/
def pointerBases : List String := ["gpointer", "gconstpointer"]

end BindingGen

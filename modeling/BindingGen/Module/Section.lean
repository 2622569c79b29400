/-
# Sections of a module

What the body of a module and its export list have in common: fragments stand in sections, each
with a header unless it is empty, and every fragment takes on the version and the deprecation of
the object it belongs to.

Key definitions: `Object.lift`, `Object.liftAll`, `bodySection`, `exportSection`.
-/
import BindingGen.Api
import BindingGen.Doc
import BindingGen.Guard

namespace BindingGen

/-- A fragment of an object's module: it needs the later of the module's version and its own, and
is deprecated if the object is. -/
def Object.lift (obj : Object) (since : String) (f : Fragment) : Except Fault Fragment := do
  return {
    text := f.text
    since := ← Version.later since f.since
    deprecated := obj.deprecated || f.deprecated }

/-- The fragments of an object's module. -/
def Object.liftAll (obj : Object) (doc : ModuleDoc) (fragments : List Fragment) :
    Except Fault (List Fragment) :=
  fragments.mapM (obj.lift doc.since)

/-- The line above the header of a section. -/
def sectionRule : String := "--------------------"

/-- A section of a module's body. -/
def bodySection (name : String) (entries : List Fragment) : List Fragment :=
  if entries.isEmpty then [] else { text := sectionRule ++ "\n-- " ++ name } :: entries

/-- A section of a module's export list. -/
def exportSection (name : String) (entries : List Fragment) : List Fragment :=
  if entries.isEmpty then [] else { text := "" } :: { text := "-- * " ++ name } :: entries

end BindingGen

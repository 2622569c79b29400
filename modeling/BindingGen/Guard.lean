/-
# Guarded fragments

The parts of a module that depend on the version built against or are deprecated stand between
lines of the preprocessor. Neighbours that depend on the same share one pair of lines.

Key definitions: `Fragment`, `versionGuard`, `deprecationGuard`, `guarded`.
-/
import BindingGen.Settings
import BindingGen.Version

namespace BindingGen

/-- A part of a module: its text, the version that it needs, and whether it is deprecated. -/
structure Fragment where
  text : String
  since : String := ""
  deprecated : Bool := false
  deriving DecidableEq

/-- Whether two fragments stand behind the same guards. -/
def Fragment.sameGuard (a b : Fragment) : Bool :=
  a.since == b.since && a.deprecated == b.deprecated

/-- A text behind the guard of a version; a text that names no version has no guard. -/
def versionGuard (settings : Settings) (since body : String) : String :=
  match Version.parts? since with
  | some (major, minor, micro) =>
    "#if " ++ settings.versionMacro ++ "(" ++ major ++ "," ++ minor ++ "," ++ micro ++ ")\n" ++
      body ++ "\n#endif"
  | none => body

/-- A text behind the guard of deprecated declarations, if it is one. -/
def deprecationGuard (settings : Settings) (deprecated : Bool) (body : String) : String :=
  if deprecated then "#ifndef " ++ settings.deprecatedMacro ++ "\n" ++ body ++ "\n#endif" else body

/-- Neighbouring fragments that share their guards, as one text. -/
def guardedRun (settings : Settings) (separator : String) : List Fragment → String
  | [] => ""
  | first :: rest =>
    versionGuard settings first.since (deprecationGuard settings first.deprecated
      (separator.intercalate ((first :: rest).map (·.text))))

/-- The fragments behind their guards. -/
def guarded (settings : Settings) (separator : String) (fragments : List Fragment) : String :=
  separator.intercalate ((fragments.splitBy Fragment.sameGuard).map (guardedRun settings separator))

end BindingGen

/-
# Classification of C names

Every declaration gives its C name a verdict, in the order of declaration; within a namespace
enumerations come first, then objects, constants and other types. The first symbol of a name
stands. An object type descends from the root type; an object whose parents form a cycle gets no
symbol, and is either listed among the failures or ends the classification.

Key definitions: `Verdict`, `Verdict.ofObject`, `Classified`, `Classification`, `classify`,
`knownSymbols`.
-/
import BindingGen.Symbol.Basic
import BindingGen.Symbol.Ancestry
import BindingGen.Settings
import BindingGen.Journal

namespace BindingGen

/-- What a declaration says of its name. -/
inductive Verdict where
  | symbol (symbol : CSymbol)
  | cycle (chain : List String)
  | unknownKind (kind : String)
  deriving DecidableEq

/-- The verdict on an object whose ancestors were walked. -/
def Verdict.ofAncestry (root : String) (ancestry : Ancestry) : Verdict :=
  match ancestry.ending with
  | .cyclic again => .cycle (ancestry.chain ++ [again])
  | _ => .symbol (if root ∈ ancestry.chain then .object ancestry.chain else .struct)

/-- The verdict on a type that is neither an object nor an enumeration. -/
def Verdict.ofMisc : MiscKind → Verdict
  | .struct => .symbol .struct
  | .boxed => .symbol .boxed
  | .classStruct => .symbol .classStruct
  | .typeAlias => .symbol .typeAlias
  | .callback => .symbol .callback
  | .unknown kind => .unknownKind kind

/-- A declared C name with its verdict, and the parent that the walk to its ancestors did not
find. -/
structure Classified where
  cname : String
  verdict : Verdict
  unresolved : Option String := none
  deriving DecidableEq

namespace Classified

/-- The classification of an object. -/
def ofObject (declared : List Object) (root : String) (object : Object) : Classified :=
  let ancestry := Ancestry.ofObject declared root object
  { cname := object.cname
    verdict := .ofAncestry root ancestry
    unresolved :=
      match ancestry.ending with
      | .unresolved parent => some parent
      | _ => none }

/-- The classifications that a namespace declares. -/
def ofNamespace (declared : List Object) (root : String) (ns : Namespace) : List Classified :=
  (ns.enums.map fun e => { cname := e.cname, verdict := .symbol (.enumeration e.variety) }) ++
  ns.objects.map (ofObject declared root) ++
  (ns.enums.flatMap (·.members)).map (fun m => { cname := m.cname, verdict := .symbol .enumValue }) ++
  ns.misc.map fun m => { cname := m.cname, verdict := .ofMisc m.kind }

/-- The classifications that an API declares. -/
def ofApi (api : Api) (root : String) : List Classified :=
  api.flatMap (ofNamespace api.declared root)

/-- The fault of a verdict that ends the classification. A cycle does so unless failures are
collected. -/
def fault? (collect : Bool) (c : Classified) : Option Fault :=
  match c.verdict with
  | .symbol _ => none
  | .cycle chain => if collect then none else some (.refused (.inheritanceCycle chain))
  | .unknownKind kind => some (.unknownKind kind)

/-- The symbol of a name, if its verdict is one. -/
def symbol? (c : Classified) : Option (String × CSymbol) :=
  match c.verdict with
  | .symbol symbol => some (c.cname, symbol)
  | _ => none

/-- The cycle of a name, if its verdict is one. -/
def cycle? (c : Classified) : Option (String × List String) :=
  match c.verdict with
  | .cycle chain => some (c.cname, chain)
  | _ => none

/-- What the journal says of a name: the parent that was not found, or the cycle. -/
def records (c : Classified) : List Record :=
  (c.unresolved.toList.map fun parent =>
    ⟨.warning, .symbols, "unresolved parent type " ++ parent ++ " of " ++ c.cname ++
      ", assuming it is not an object type"⟩) ++
  c.cycle?.toList.map fun (cname, chain) =>
    ⟨.error, .symbols, cname ++ ": " ++ (Refusal.inheritanceCycle chain).message⟩

end Classified

/-- The symbols and the failures of a library, both without repeated names, with the journal and
the fault that ended the classification early, if one did. -/
structure Classification where
  symbols : SymbolTable
  failures : List (String × List String)
  records : List Record
  fault? : Option Fault

/-- Classifies the names of an API. Failures are collected, or the first of them is a fault. -/
def classify (settings : Settings) (collect : Bool) (api : Api) : Classification :=
  let all := Classified.ofApi api settings.rootType
  let reached := all.takeWhile fun c => (c.fault? collect).isNone
  { symbols := firstEntries (reached.filterMap (·.symbol?))
    failures := firstEntries (reached.filterMap (·.cycle?))
    records := reached.flatMap (·.records)
    fault? := all.findSome? (·.fault? collect) }

/-- The classification as an answer with its journal. -/
def Classification.logged (c : Classification) : Logged Classification :=
  ⟨match c.fault? with
    | some fault => .error fault
    | none => .ok c,
   c.records⟩

/-- The symbols of an API; names whose parents form a cycle have none. -/
def knownSymbols (settings : Settings) (api : Api) : Logged SymbolTable :=
  (·.symbols) <$> (classify settings true api).logged

end BindingGen

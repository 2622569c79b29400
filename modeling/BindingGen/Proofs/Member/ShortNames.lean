/-
# Short names of prior calls

The calls of a prior module may leave its prefix out. A name is taken as short where the prefix in
front of it makes the C name of a function of the object, whether or not it is the name of another
function already; such a name is written out, and all else of a call stays. A name that is written
out can be short again, if the object has a function whose name is that of another one behind the
prefix; where it has none, the names of its functions are left alone, and a second pass changes
nothing.

Key definitions: `PriorModule.fullName`, `Object.Declares`, `Object.IsShort`, `Object.Expands`.
Key theorems: `Object.expandShortNames_eq`, `Object.expandShortNames_idem_iff`,
`Object.expandShortNames_expands`.
-/
import Mathlib.Data.List.Forall2
import BindingGen.Member.Function

namespace BindingGen

/-- A name behind the prefix of the module. -/
def PriorModule.fullName (prior : PriorModule) (cname : String) : String :=
  prior.contextPrefix ++ "_" ++ cname

theorem PriorModule.fullName_ne (prior : PriorModule) (cname : String) :
    prior.fullName cname ≠ cname := by
  intro h
  have hlength := congrArg String.length h
  have hmark : "_".length = 1 := rfl
  rw [fullName, String.length_append, String.length_append, hmark] at hlength
  omega

namespace Object

variable (obj : Object) (prior : PriorModule)

/-- The object has a constructor or a method of the C name. -/
def Declares (cname : String) : Prop :=
  (∃ c ∈ obj.constructors, c.cname = cname) ∨ ∃ m ∈ obj.methods, m.cname = cname

instance (cname : String) : Decidable (obj.Declares cname) :=
  inferInstanceAs (Decidable ((∃ c ∈ obj.constructors, c.cname = cname) ∨
    ∃ m ∈ obj.methods, m.cname = cname))

/-- The module has a prefix, which makes the name that of a function of the object. -/
def IsShort (cname : String) : Prop :=
  prior.contextPrefix ≠ "" ∧ obj.Declares (prior.fullName cname)

instance (cname : String) : Decidable (obj.IsShort prior cname) :=
  inferInstanceAs (Decidable (prior.contextPrefix ≠ "" ∧ obj.Declares (prior.fullName cname)))

/-- What becomes of a call. Its C name changes if it is short, and then to that of a function
behind the prefix; the name of a function stays, unless it is short for another one. -/
structure Expands (call call' : PriorCall) : Prop where
  shortName : call'.shortName = call.shortName
  isUnsafe : call'.isUnsafe = call.isUnsafe
  changed_iff : call'.cname ≠ call.cname ↔ obj.IsShort prior call.cname
  changed : call'.cname ≠ call.cname →
    call'.cname = prior.fullName call.cname ∧ obj.Declares call'.cname
  kept : obj.Declares call.cname → ¬obj.Declares (prior.fullName call.cname) → call' = call

/-! ### One call -/

/-- The call with its name written out if it is short. -/
def expandedCall (call : PriorCall) : PriorCall :=
  if obj.IsShort prior call.cname then { call with cname := prior.fullName call.cname } else call

variable {obj prior} {call : PriorCall}

theorem expandedCall_of_isShort (h : obj.IsShort prior call.cname) :
    obj.expandedCall prior call = { call with cname := prior.fullName call.cname } :=
  if_pos h

theorem expandedCall_of_not_isShort (h : ¬obj.IsShort prior call.cname) :
    obj.expandedCall prior call = call :=
  if_neg h

theorem expandedCall_eq_self_iff :
    obj.expandedCall prior call = call ↔ ¬obj.IsShort prior call.cname := by
  constructor
  · intro h hshort
    rw [expandedCall_of_isShort hshort] at h
    exact prior.fullName_ne call.cname (congrArg PriorCall.cname h)
  · exact expandedCall_of_not_isShort

theorem expands_expandedCall : obj.Expands prior call (obj.expandedCall prior call) := by
  by_cases hshort : obj.IsShort prior call.cname
  · rw [expandedCall_of_isShort hshort]
    have hne := prior.fullName_ne call.cname
    exact ⟨rfl, rfl, iff_of_true hne hshort, fun _ => ⟨rfl, hshort.2⟩,
      fun _ hnot => absurd hshort.2 hnot⟩
  · rw [expandedCall_of_not_isShort hshort]
    exact ⟨rfl, rfl, iff_of_false (by simp) hshort, fun hne => absurd rfl hne, fun _ _ => rfl⟩

/-- A second pass leaves a call alone unless its name is short twice. -/
theorem expandedCall_idem_iff :
    obj.expandedCall prior (obj.expandedCall prior call) = obj.expandedCall prior call ↔
      (obj.IsShort prior call.cname → ¬obj.IsShort prior (prior.fullName call.cname)) := by
  rw [expandedCall_eq_self_iff]
  by_cases hshort : obj.IsShort prior call.cname
  · rw [expandedCall_of_isShort hshort]
    exact ⟨fun h _ => h, fun h => h hshort⟩
  · rw [expandedCall_of_not_isShort hshort]
    exact iff_of_true hshort fun h => absurd h hshort

/-! ### All calls -/

theorem mem_functionNames {cname : String} : cname ∈ obj.functionNames ↔ obj.Declares cname := by
  simp [functionNames, Declares]

theorem expandShortNames_eq (obj : Object) (prior : PriorModule) :
    obj.expandShortNames prior =
      { prior with calls := prior.calls.map (obj.expandedCall prior) } := by
  unfold expandShortNames
  split_ifs with hnamed
  · have hcalls : prior.calls.map (obj.expandedCall prior) = prior.calls := by
      refine List.map_id'' (fun call => expandedCall_of_not_isShort ?_) _
      exact fun hshort => hshort.1 hnamed
    rw [hcalls]
  · have hcall : ∀ call : PriorCall, (if obj.functionNames.contains (prior.fullName call.cname)
        then { call with cname := prior.fullName call.cname } else call) =
          obj.expandedCall prior call := by
      intro call
      rw [expandedCall]
      congr 1
      rw [List.contains_iff_mem, mem_functionNames, IsShort]
      exact propext ⟨fun h => ⟨hnamed, h⟩, And.right⟩
    exact congrArg (fun calls => { prior with calls }) (List.map_congr_left fun call _ => hcall call)

theorem expandShortNames_idem_iff :
    obj.expandShortNames (obj.expandShortNames prior) = obj.expandShortNames prior ↔
      ∀ call ∈ prior.calls, obj.IsShort prior call.cname →
        ¬obj.IsShort prior (prior.fullName call.cname) := by
  have hagain : obj.expandShortNames (obj.expandShortNames prior) =
      { prior with
        calls := (prior.calls.map (obj.expandedCall prior)).map (obj.expandedCall prior) } := by
    rw [expandShortNames_eq, expandShortNames_eq]
    rfl
  rw [hagain, expandShortNames_eq, PriorModule.mk.injEq]
  simp only [true_and, and_true, List.map_map, List.map_inj_left, Function.comp_apply,
    expandedCall_idem_iff]

/-- **Short names are written out.** Of a prior module, only the C names of its calls change: those
that the prefix makes the name of a function of the object, each into that name. The name of a
function stays unless it is short for another one, and a second pass changes nothing exactly if no
name is short twice. -/
theorem expandShortNames_expands (obj : Object) (prior : PriorModule) :
    (∃ calls, obj.expandShortNames prior = { prior with calls } ∧
      List.Forall₂ (obj.Expands prior) prior.calls calls) ∧
    (obj.expandShortNames (obj.expandShortNames prior) = obj.expandShortNames prior ↔
      ∀ call ∈ prior.calls, obj.IsShort prior call.cname →
        ¬obj.IsShort prior (prior.fullName call.cname)) := by
  refine ⟨⟨_, obj.expandShortNames_eq prior, ?_⟩, expandShortNames_idem_iff⟩
  rw [List.forall₂_map_right_iff, List.forall₂_same]
  exact fun call _ => expands_expandedCall

end Object

/-- A server with a function whose name is that of another one behind its prefix. -/
def echoServer : Object where
  name := "Echo"
  cname := "EchoServer"
  methods := [{ name := "Ping", cname := "echo_ping", returnType := "void" },
    { name := "EchoPing", cname := "echo_echo_ping", returnType := "void" }]

/-- A prior module of the server with one call. -/
def echoPrior (cname : String) : PriorModule where
  contextPrefix := "echo"
  calls := [{ cname }]

/-- The name of a function can be short for another one: a call of the first function of the server
becomes one of the second, so that two passes over a short call do not end where the first does. -/
theorem not_expandShortNames_idem_echoServer :
    echoServer.Declares "echo_ping" ∧
      echoServer.expandShortNames (echoPrior "echo_ping") = echoPrior "echo_echo_ping" ∧
      echoServer.expandShortNames (echoServer.expandShortNames (echoPrior "ping")) ≠
        echoServer.expandShortNames (echoPrior "ping") := by
  decide

end BindingGen

/-
# The console

Messages of the generator on the console. Messages are sent to channels, which are opened when they
are first named. A channel hands its messages on to the nearest open channel around it, and the
console prints what arrives at the root channel. The channels around a channel are found by cutting
its name at its dots from the right; a dot right in front of a cut is passed over, so that a name
may have no way to the root.

Until the console is set up nothing is printed. Whether a channel takes messages of a level is
decided when one is first sent to it, and stays so until the console is set up again.

Key definitions: `Console`, `channelName`, `enclosing`, `Console.reachesRoot`, `Console.configure`,
`Console.openChannel`, `Console.takes`, `Console.send`.
-/

namespace BindingGen

/-- The channel that messages are printed from. -/
def rootChannel : String := "apigen"

/-- The full name of a channel. -/
def channelName : Option String → String
  | none => rootChannel
  | some name => if name = "" then rootChannel else rootChannel ++ "." ++ name

/-- The name of a level. -/
def levelName (level : Int) : String :=
  if level = 50 then "CRITICAL"
  else if level = 40 then "ERROR"
  else if level = 30 then "WARNING"
  else if level = 20 then "INFO"
  else if level = 10 then "DEBUG"
  else if level = 0 then "NOTSET"
  else "Level " ++ toString level

/-! ### The channels around a channel -/

/-- The names around a name, the longest first. All are written backwards. The character in front
of the name's end is passed over if `cut` is set, which is so after a cut. -/
def enclosing : Bool → List Char → List (List Char)
  | _, [] => []
  | true, _ :: rest => enclosing false rest
  | false, c :: rest => if c = '.' then rest :: enclosing true rest else enclosing false rest

theorem length_lt_of_mem_enclosing : ∀ {cut : Bool} {name outer : List Char},
    outer ∈ enclosing cut name → outer.length < name.length
  | _, [], _, h => by simp [enclosing] at h
  | true, _ :: rest, _, h => by
    simp only [enclosing] at h
    have := length_lt_of_mem_enclosing h
    simp only [List.length_cons]
    omega
  | false, c :: rest, outer, h => by
    by_cases hc : c = '.'
    · simp only [enclosing, hc, if_true, List.mem_cons] at h
      rcases h with rfl | h
      · simp
      · have := length_lt_of_mem_enclosing h
        simp only [List.length_cons]
        omega
    · simp only [enclosing, hc, if_false] at h
      have := length_lt_of_mem_enclosing h
      simp only [List.length_cons]
      omega

/-- The console: the lowest level that it prints once it is set up, the open channels besides the
root, and which channels take messages of which levels, as far as that was decided. -/
structure Console where
  threshold : Option Int := none
  channels : List String := []
  decisions : List ((String × Int) × Bool) := []
  deriving DecidableEq

/-- The lowest level that a channel takes which has no way to a root that is set up. -/
def looseThreshold : Int := 30

namespace Console

/-- Whether a channel is open. -/
def isOpen (c : Console) (channel : String) : Bool :=
  channel = rootChannel || c.channels.contains channel

/-- Whether what is sent to a channel arrives at the root. The name is written backwards. -/
def leadsToRoot (c : Console) (name : List Char) : Bool :=
  if String.ofList name.reverse = rootChannel then true
  else
    match _h : (enclosing false name).find? fun outer => c.isOpen (String.ofList outer.reverse) with
    | none => false
    | some outer => c.leadsToRoot outer
termination_by name.length
decreasing_by exact length_lt_of_mem_enclosing (List.mem_of_find?_eq_some _h)

/-- Whether what is sent to a channel arrives at the root. -/
def reachesRoot (c : Console) (channel : String) : Bool := c.leadsToRoot channel.toList.reverse

/-- Sets up the console. A verbose one prints debugging messages too. -/
def configure (c : Console) (verbose : Bool) : Console :=
  { c with threshold := some (if verbose then 10 else 20), decisions := [] }

/-- The console with a channel open. -/
def openChannel (c : Console) (channel : String) : Console :=
  if c.isOpen channel then c else { c with channels := channel :: c.channels }

/-- Whether a channel takes messages of a level, as decided before or else by the lowest level of
the root that it reaches. -/
def takes (c : Console) (channel : String) (level : Int) : Bool :=
  match c.decisions.lookup (channel, level) with
  | some taken => taken
  | none =>
    let lowest := if c.reachesRoot channel then c.threshold.getD looseThreshold else looseThreshold
    lowest ≤ level

/-- Sends a message to an open channel: what is printed, and the console after it. -/
def sendOpen (c : Console) (channel : String) (level : Int) (message : String) :
    String × Console :=
  let taken := c.takes channel level
  (if taken && c.threshold.isSome && c.reachesRoot channel then
      "[" ++ rootChannel ++ "] " ++ levelName level ++ " " ++ message ++ "\n"
    else "",
   { c with decisions := ((channel, level), taken) :: c.decisions })

/-- Sends a message to a channel, which is opened for it. -/
def send (c : Console) (channel : String) (level : Int) (message : String) : String × Console :=
  (c.openChannel channel).sendOpen channel level message

end Console
end BindingGen

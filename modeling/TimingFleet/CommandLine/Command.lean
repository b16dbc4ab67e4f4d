import TimingFleet.CommandLine.Address
import TimingFleet.CommandLine.Level
import TimingFleet.Clock.Duration
import TimingFleet.EndpointIds
import TimingFleet.Register.BoardIo
import TimingFleet.Register.Endpoint

/-!
# Commands

What an operator can ask for: something of the endpoints of one device, or something of one of the two
fleets.  A command line that is no command is refused as a whole.  The word `help` is kept free.
-/

namespace TimingFleet.CommandLine

open Text

/-- What to do with endpoints. -/
inductive EndpointAction where
  | enable (on : Bool) (partition : UInt32)
  /-- Shows the state once, or again and again with a pause between. -/
  | monitor (watch : Bool) (period : Duration)
  | readback (mode : ReadoutMode)
  deriving DecidableEq, Repr

/-- A command for endpoints of one device. -/
structure EndpointCommand where
  device : String
  ids : List UInt32
  action : Option EndpointAction
  deriving DecidableEq, Repr

/-- What to do with a fleet. -/
inductive FleetAction where
  | setup
  | synctime
  | status
  | scanFanout
  | measureDelay (address : UInt32) (slot : Option UInt32)
  deriving DecidableEq, Repr

/-- A command. -/
inductive Command where
  | endpoint (command : EndpointCommand)
  | fleet (group : String) (action : Option FleetAction)
  deriving DecidableEq, Repr

/-! ## Values of options -/

/-- Reads a numeral up to `max`, with any sign. -/
def numberUpTo (max : Nat) (text : String) : Option Nat :=
  match text.toList with
  | '-' :: c :: cs => (Numeral.extend 10 1 0 (c :: cs)).toOption
  | cs => (Numeral.read 10 (max + 1) cs).toOption

/-- Reads a numeral up to `max`, without a minus sign. -/
def countUpTo (max : Nat) (text : String) : Option Nat :=
  (Numeral.read 10 (max + 1) text.toList).toOption

/-- The value of an option read by `read`, or `default` if the option is not given. -/
def Level.valueOr {α : Type} (l : Level) (name : String) (default : α) (read : String → Option α) :
    Option α :=
  match l.value? name with
  | some text => read text
  | none => some default

/-! ## Endpoint commands -/

/-- The longest pause between two views of the state, in seconds. -/
def maxPeriod : Nat := 240

/-- Reads the arguments of `enable`. -/
def readEnable (shared : List OptionSpec) (args : List String) : Option (Level × EndpointAction) := do
  let level ← LevelSpec.read ⟨shared ++ [⟨"on", none, .flag⟩, ⟨"off", none, .flag⟩,
    ⟨"partition", some 'p', .value⟩], []⟩ args
  let partition ← level.valueOr "partition" 0 (numberUpTo maxPartition.toNat)
  if level.operands ≠ [] ∨ (level.has "on" ∧ level.has "off") then none
  else some (level, .enable (!level.has "off") (UInt32.ofNat partition))

/-- Reads the arguments of `monitor`. -/
def readMonitor (shared : List OptionSpec) (args : List String) : Option (Level × EndpointAction) := do
  let level ← LevelSpec.read ⟨shared ++ [⟨"watch", some 'w', .flag⟩, ⟨"period", some 'p', .value⟩], []⟩
    args
  let period ← level.valueOr "period" 2 (countUpTo maxPeriod)
  if level.operands ≠ [] then none
  else some (level, .monitor (level.has "watch") ⟨1000 * period⟩)

/-- Reads the arguments of `readback`. -/
def readReadback (shared : List OptionSpec) (args : List String) : Option (Level × EndpointAction) := do
  let level ← LevelSpec.read ⟨shared ++ [⟨"events", none, .flag⟩, ⟨"all", some 'a', .flag⟩], []⟩ args
  if level.operands ≠ [] ∨ (level.has "events" ∧ level.has "all") then none
  else some (level, .readback (if level.has "all" then .everything else .completeEvents))

/-- Reads an action on endpoints. -/
def readEndpointAction (shared : List OptionSpec) (name : String) (args : List String) :
    Option (Level × EndpointAction) :=
  if name = "enable" then readEnable shared args
  else if name = "monitor" then readMonitor shared args
  else if name = "readback" then readReadback shared args
  else none

/-- Reads an endpoint command and gives its levels. -/
def readEndpointCommand (shared : List OptionSpec) (args : List String) :
    Option (List Level × EndpointCommand) := do
  let level ← LevelSpec.read ⟨shared, ["enable", "monitor", "readback", "help"]⟩ args
  match level.operands with
  | [device, list] =>
    let ids ← (EndpointIds.parse list).toOption
    match level.command with
    | none => return ([level], ⟨device, ids, none⟩)
    | some (name, rest) =>
      let (inner, action) ← readEndpointAction shared name rest
      return ([level, inner], ⟨device, ids, some action⟩)
  | _ => none

/-! ## Fleet commands -/

/-- Reads the arguments of an action that has none of its own. -/
def readBare (shared : List OptionSpec) (action : FleetAction) (args : List String) :
    Option (Level × FleetAction) := do
  let level ← LevelSpec.read ⟨shared, []⟩ args
  if level.operands ≠ [] then none else some (level, action)

/-- Reads the arguments of `measure-delay`. -/
def readMeasureDelay (shared : List OptionSpec) (args : List String) : Option (Level × FleetAction) := do
  let level ← LevelSpec.read ⟨shared ++ [⟨"slot", some 's', .value⟩], []⟩ args
  let slot ← level.valueOr "slot" none fun text =>
    (numberUpTo (fanoutSlots.toNat - 1) text).map fun slot => some (UInt32.ofNat slot)
  match level.operands with
  | [text] =>
    let address ← (readAddress text).toOption
    return (level, .measureDelay address slot)
  | _ => none

/-- Reads an action on a fleet. -/
def readFleetAction (shared : List OptionSpec) (name : String) (args : List String) :
    Option (Level × FleetAction) :=
  if name = "setup" then readBare shared .setup args
  else if name = "synctime" then readBare shared .synctime args
  else if name = "status" then readBare shared .status args
  else if name = "scan-fanout" then readBare shared .scanFanout args
  else if name = "measure-delay" then readMeasureDelay shared args
  else none

/-- Reads a fleet command and gives its levels. -/
def readFleetCommand (shared : List OptionSpec) (args : List String) :
    Option (List Level × Option FleetAction) := do
  let level ← LevelSpec.read
    ⟨shared, ["setup", "synctime", "status", "scan-fanout", "measure-delay", "help"]⟩ args
  if level.operands ≠ [] then none
  else
    match level.command with
    | none => return ([level], none)
    | some (name, rest) =>
      let (inner, action) ← readFleetAction shared name rest
      return ([level, inner], some action)

/-! ## Commands -/

/-- The names of the commands. -/
def commandNames : List String := ["ept", "ovld", "vst", "help"]

/-- Reads the command whose name and arguments are given, and its levels. -/
def readNamed (shared : List OptionSpec) (name : String) (args : List String) :
    Option (List Level × Command) :=
  if name = "ept" then
    (readEndpointCommand shared args).map fun (levels, command) => (levels, .endpoint command)
  else if name = "ovld" ∨ name = "vst" then
    (readFleetCommand shared args).map fun (levels, action) => (levels, .fleet name action)
  else none

/-- Reads a command without options that all levels share. -/
def Command.read (args : List String) : Option Command := do
  let level ← LevelSpec.read ⟨[], commandNames⟩ args
  if level.operands ≠ [] then none
  else
    let (name, rest) ← level.command
    let (_, command) ← readNamed [] name rest
    return command

end TimingFleet.CommandLine

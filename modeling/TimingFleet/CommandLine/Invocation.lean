import TimingFleet.CommandLine.Job
import TimingFleet.Connections.Directory

/-!
# Invocations

A whole command line: a command with the options that may stand on any level, or a question for the
version.  The connections file is named on the deepest level that names one, else by a variable of the
environment, else it has a fixed name.  How the program ends is a code, its output and its error output.
-/

namespace TimingFleet.CommandLine

open Text

/-- The name of the program and its version. -/
def versionText : String := "butler 0.1.0"

/-- The variable of the environment that names the connections file. -/
def fileVariable : String := "TIMING_CONNECTIONS"

/-- The connections file when none is named. -/
def defaultFile : String := "connections.toml"

/-- The options that may stand on any level. -/
def sharedOptions : List OptionSpec := [⟨"connections", none, .value⟩, ⟨"timeout", none, .value⟩]

/-- What the shared options come to. -/
structure Settings where
  file : String
  /-- In milliseconds. -/
  timeout : Option Nat
  deriving DecidableEq, Repr

namespace Settings

/-- The values of an option, outermost level first. -/
def valuesOf (name : String) (levels : List Level) : List String := levels.filterMap (·.value? name)

/-- The file named on a level, or by the environment if the level names none. -/
def fileOn (environment : Option String) (level : Level) : Option String :=
  level.value? "connections" <|> environment

/-- The settings of a command line, given what the environment names.  A file with an empty name is refused on every
level, and so is a timeout that is no number of sixty-four bits. -/
def ofLevels (environment : Option String) (levels : List Level) : Option Settings := do
  let timeouts ← (valuesOf "timeout" levels).mapM (countUpTo (UInt64.size - 1))
  if (levels.filterMap (fileOn environment)).contains "" then none
  else
    let named := (valuesOf "connections" levels).getLast? <|> environment
    some ⟨named.getD defaultFile, timeouts.getLast?⟩

end Settings

/-- A command line. -/
inductive Invocation where
  | version
  | command (settings : Settings) (command : Command)
  deriving DecidableEq, Repr

/-- Reads a command line, given the file that the environment names. -/
def Invocation.read (environment : Option String) (args : List String) : Option Invocation := do
  let level ← LevelSpec.read ⟨sharedOptions ++ [⟨"version", some 'V', .ending⟩], commandNames⟩ args
  if level.operands ≠ [] then none
  else if level.has "version" then
    let _ ← Settings.ofLevels none [level]
    return .version
  else
    let (name, rest) ← level.command
    let (levels, asked) ← readNamed sharedOptions name rest
    let settings ← Settings.ofLevels environment (level :: levels)
    return .command settings asked

/-! ## Running -/

/-- The connections for a command, given what reading the file led to. -/
def Settings.load (s : Settings) (contents : Except FileFault ByteArray) :
    Except Failure Connections × List Event :=
  let o := Connections.load s.file contents
  match o.result with
  | .error e => (.error ⟨["loading " ++ s.file], e⟩, o.events)
  | .ok connections =>
    let connections :=
      match s.timeout with
      | some ms => connections.setTimeout ⟨ms⟩
      | none => connections
    (.ok connections,
      o.events ++ [.log .debug ("Devices: " ++ ", ".intercalate connections.devices.keys)])

/-- Loads the connections of a command and opens its devices. -/
def prepare (v : View) (contents : Except FileFault ByteArray) (s : Settings) (c : Command) :
    Except Failure Job × List Event :=
  match s.load contents with
  | (.error failure, events) => (.error failure, events)
  | (.ok connections, events) =>
    let (job, more) := c.prepare v connections
    (job, events ++ more)

/-- How the program ends. -/
structure Ending where
  code : Nat
  output : String := ""
  errors : String := ""
  deriving DecidableEq, Repr

/-- What is shown with a command line that is refused. -/
def usage : String :=
  "Usage: butler [--connections <FILE>] [--timeout <MS>] <ept|ovld|vst> ...\n"

/-- The ending with a version. -/
def Ending.version : Ending := { code := 0, output := versionText ++ "\n" }

/-- The ending of a command line that is refused. -/
def Ending.refused : Ending := { code := 2, errors := usage }

/-- The ending with a transcript. -/
def Transcript.ending (t : Transcript) : Ending :=
  match t.failure with
  | none => { code := 0, output := t.output }
  | some failure => { code := 1, output := t.output, errors := failure.report }

/-- Runs a command line to its end, given the file that the environment names, the wall clock and the files. -/
def runToEnd (v : View) (now : UInt64) (environment : Option String)
    (directory : Directory) (args : List String) : Ending :=
  match Invocation.read environment args with
  | none => .refused
  | some .version => .version
  | some (.command settings command) =>
    match prepare v (directory.read settings.file) settings command with
    | (.ok job, events) => (job.run now events).ending
    | (.error failure, events) => (⟨some failure, events⟩ : Transcript).ending

end TimingFleet.CommandLine

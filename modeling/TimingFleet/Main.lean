import Std.Time.DateTime.Timestamp
import TimingFleet.CommandLine.Invocation

/-!
# The program

Reads the command line, the environment and the connections file, and carries out what they ask for.
Results go to the output as they come, failures and warnings to the error output, and pauses are real.
-/

namespace TimingFleet.CommandLine

/-- The number of a fault of the system, which some calls give as its negative. -/
def faultNumber (code : UInt32) : Nat := (if code < 0x80000000 then code else 0 - code).toNat

/-- Why a file could not be read. -/
def faultOf : IO.Error → FileFault
  | .noFileOrDirectory .. => .notFound
  | .inappropriateType _ code _ => if faultNumber code = 20 then .notDirectory else .isDirectory
  | .invalidArgument _ code _ => if faultNumber code = 36 then .nameTooLong else .nulInName
  | e => .other (toString e)

/-- Reads a file. -/
def readContents (path : String) : IO (Except FileFault ByteArray) := do
  try
    return .ok (← IO.FS.readBinFile path)
  catch e => return .error (faultOf e)

/-- The seconds on the wall clock. -/
def wallClock : IO UInt64 := do
  let now ← Std.Time.Timestamp.now
  return UInt64.ofNat now.toSecondsSinceUnixEpoch.val.toNat

/-- Makes an event happen. -/
def happen : Event → IO Unit
  | .log .warn text => IO.eprintln ("WARN " ++ text)
  | .log _ _ => pure ()
  | .pause duration => do
    (← IO.getStdout).flush
    IO.sleep (UInt32.ofNat duration.milliseconds)
  | .print text => IO.print text

/-- Carries out a procedure. -/
def perform {ι σ : Type} [Stations ι σ] : Procedure ι Unit → σ → IO (Except Error Unit)
  | .done result, _ => return .ok result
  | .fail e, _ => return .error e
  | .emit e p, s => do
    happen e
    perform p s
  | .clock p, s => do perform (p (← wallClock)) s
  | .ask i r p, s => do
    let o := Stations.answer i r s
    o.events.forM happen
    perform (p o.result) o.state

/-- Carries out a job. -/
def Job.perform : Job → IO (Except Error Unit)
  | .endpoint session p => CommandLine.perform p session
  | .fleet sessions p => CommandLine.perform p sessions

/-- Colours are for terminals, unless the environment asks for none. -/
def choosePalette : IO Text.Palette := do
  let terminal ← (← IO.getStdout).isTty
  let refused ← IO.getEnv "NO_COLOR"
  return if terminal && refused.isNone then .coloured else .plain

/-- Shows an ending and gives its code. -/
def finish (e : Ending) : IO UInt32 := do
  IO.print e.output
  IO.eprint e.errors
  return UInt32.ofNat e.code

/-- Carries out a command. -/
def carryOut (settings : Settings) (command : Command) : IO UInt32 := do
  let view : View := { palette := ← choosePalette, rounds := UInt64.size }
  let (prepared, events) := prepare view (← readContents settings.file) settings command
  events.forM happen
  match prepared with
  | .error failure => finish (⟨some failure, []⟩ : Transcript).ending
  | .ok job =>
    match ← job.perform with
    | .ok () => return 0
    | .error e => finish (⟨some { cause := e }, []⟩ : Transcript).ending

end TimingFleet.CommandLine

open TimingFleet.CommandLine in
/-- The entry point. -/
def main (args : List String) : IO UInt32 := do
  match Invocation.read (← IO.getEnv fileVariable) args with
  | none => finish .refused
  | some .version => finish .version
  | some (.command settings command) => carryOut settings command

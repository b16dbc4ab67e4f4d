import TimingFleet.CommandLine.Command
import TimingFleet.CommandLine.Failure
import TimingFleet.Connections.Basic
import TimingFleet.Report

/-!
# Jobs

What a command does once its connections are known.  First the devices are opened, then a procedure on
their sessions runs and prints its results.  A job is the sessions with the procedure, so that it can be
run on simulated time or in earnest.
-/

namespace TimingFleet.CommandLine

open Text Procedure

/-- How results are shown. -/
structure View where
  palette : Palette := .plain
  /-- The most times the state is shown when it is shown again and again. -/
  rounds : Nat

/-! ## Endpoints -/

/-- Clears the screen. -/
def clearScreen : String := "\x1b[2J\x1b[1;1H"

/-- A heading within a view. -/
def heading (v : View) (title : String) : String := "-- " ++ Colour.green.paint v.palette title ++ " ---"

/-- Shows the state of endpoints. -/
def showState (v : View) (group : EndpointGroup) : Procedure Unit Unit := do
  let snapshot ← group.snapshot
  printLine (Report.summary v.palette snapshot)
  printLine ""
  printLine (heading v "Endpoint state")
  printLine (Report.statusFlags snapshot)
  printLine ""
  printLine (heading v "Command counters")
  printLine (Report.counters snapshot)

/-- Waits without a word, unless there is no time to wait. -/
def pause {ι : Type} (duration : Duration) : Procedure ι Unit :=
  if duration.milliseconds = 0 then .done () else .emit (.pause duration) (.done ())

/-- Shows the state of endpoints on a cleared screen, `rounds` times with pauses between. -/
def watchState (v : View) (group : EndpointGroup) (period : Duration) : Nat → Procedure Unit Unit
  | 0 => .done ()
  | rounds + 1 => do
    print clearScreen
    showState v group
    pause period
    watchState v group period rounds

/-- Reads readout buffers and shows them. -/
def showReadback (v : View) (group : EndpointGroup) (mode : ReadoutMode) : Procedure Unit Unit := do
  let readbacks ← group.readback mode
  let _ ← each readbacks fun r => do
    if 1 < readbacks.length then
      printLine (Report.banner v.palette ("Endpoint " ++ Numeral.decimal r.id.toNat))
    printLine (Report.readback r)

/-- Carries out an action on endpoints. -/
def EndpointAction.procedure (v : View) (group : EndpointGroup) : EndpointAction → Procedure Unit Unit
  | .enable on partition => do
    let report ← group.enable on partition
    printLine ("> " ++ report.text)
  | .monitor false _ => showState v group
  | .monitor true period => watchState v group period v.rounds
  | .readback mode => showReadback v group mode

/-- Carries out a command for the endpoints of the device opened as `device`. -/
def EndpointCommand.procedure (v : View) (device : String) (c : EndpointCommand) :
    Procedure Unit Unit := do
  printLine ("Created endpoint device " ++ Colour.blue.paint v.palette device)
  let group ← EndpointGroup.resolve device c.ids
  let versions ← group.readVersions
  if !versions.isConsistent then
    printLine (Colour.yellow.paint v.palette "WARNING: multiple endpoint versions detected")
    printLine ""
  printLine (Report.versions versions)
  match c.action with
  | none => return ()
  | some action => action.procedure v group

/-! ## Fleets -/

/-- The names under which the boards of a fleet are shown. -/
def boardLabels (f : Fleet) : List String :=
  "Overlord" :: f.fanouts.keys.map fun n => "Fanout " ++ Numeral.decimal n.toNat

/-- Identifies all boards and shows what they are. -/
def showIdentities (v : View) (f : Fleet) : Procedure Seat Unit := do
  let boards ← f.identifyAll
  let _ ← each ((boardLabels f).zip boards) fun (label, id, identity) => do
    printLine (Report.banner v.palette (label ++ " " ++ id))
    printLine (Report.identity identity)

/-- Shows status and PLL registers. -/
def showStatus (v : View) (f : Fleet) : Procedure Seat Unit := do
  let status ← f.status
  printLine (Report.banner v.palette "Overlord IO status")
  printLine (Report.registers .hidden status.overlord)
  match status.fanout with
  | none => pure ()
  | some fanout =>
    printLine (Report.banner v.palette "Fanout[0] IO status")
    printLine (Report.registers .hidden fanout)
  let plls := status.overlordPll :: status.fanoutPll.toList
  printLine (Report.banner v.palette "PLL status")
  printLine (collate (plls.map PllReport.designId))
  printLine (collate (plls.map fun pll => Report.registers .hidden pll.status))
  printLine (collate (plls.map fun pll => Report.registers .hidden pll.sticky))

/-- Scans all fanouts and shows their slots. -/
def showScan (v : View) (f : Fleet) : Procedure Seat Unit := do
  let scans ← f.scanFanouts
  let _ ← each scans fun (n, slots) => do
    printLine (Report.banner v.palette ("Fanout " ++ Numeral.decimal n.toNat))
    printLine (Report.slotScan v.palette slots)

/-- Measures a delay and shows it. -/
def showDelay (v : View) (f : Fleet) (address : UInt32) (slot : Option UInt32) :
    Procedure Seat Unit := do
  let m ← f.measureDelay address slot
  if slot.isNone then
    printLine ("Address " ++ Numeral.hex address.toNat ++ " mapped to fanout " ++
      Numeral.decimal m.fanout.toNat ++ ", slot " ++ Numeral.decimal m.slot.toNat)
  printLine (Report.delay v.palette m)

/-- Carries out an action on a fleet. -/
def FleetAction.procedure (v : View) (f : Fleet) : FleetAction → Procedure Seat Unit
  | .setup => do
    let sync ← f.setup
    printLine (Report.timeSync v.palette sync)
  | .synctime => do
    printLine f.overlord.name
    let sync ← f.synctime
    printLine (Report.timeSync v.palette sync)
  | .status => showStatus v f
  | .scanFanout => showScan v f
  | .measureDelay address slot => showDelay v f address slot

/-- Identifies the boards of a fleet and carries out an action. -/
def fleetProcedure (v : View) (f : Fleet) (action : Option FleetAction) : Procedure Seat Unit := do
  showIdentities v f
  match action with
  | none => return ()
  | some action => action.procedure v f

/-! ## Jobs -/

/-- Sessions, and what to do on them. -/
inductive Job where
  | endpoint (session : Session) (procedure : Procedure Unit Unit)
  | fleet (sessions : FleetSessions) (procedure : Procedure Seat Unit)

/-- Opens the devices of a command. -/
def Command.prepare (v : View) (connections : Connections) : Command → Except Failure Job × List Event
  | .endpoint c =>
    let opened := connections.connect c.device
    match opened.result with
    | .ok session => (.ok (.endpoint session (c.procedure v session.name)), opened.events)
    | .error e => (.error { cause := e }, opened.events)
  | .fleet group action =>
    let opened := connections.openFleet group .hardware
    match opened.result with
    | .ok (boards, sessions) => (.ok (.fleet sessions (fleetProcedure v boards action)), opened.events)
    | .error e => (.error ⟨["opening group '" ++ group ++ "'"], e⟩, opened.events)

/-- What a command leaves behind. -/
structure Transcript where
  failure : Option Failure := none
  events : List Event := []
  deriving DecidableEq, Repr

/-- The transcript of an outcome, after earlier events. -/
def Transcript.ofOutcome {σ : Type} (events : List Event) (o : Outcome σ Unit) : Transcript :=
  match o.result with
  | .ok () => ⟨none, events ++ o.events⟩
  | .error e => ⟨some { cause := e }, events ++ o.events⟩

/-- The text printed. -/
def Transcript.output (t : Transcript) : String :=
  String.join (t.events.filterMap fun
    | .print text => some text
    | _ => none)

/-- Runs a job while the wall clock stands at `now`. -/
def Job.run (now : UInt64) (events : List Event) : Job → Transcript
  | .endpoint session p => .ofOutcome events (p.run now session)
  | .fleet sessions p => .ofOutcome events (p.run now sessions)

/-- Opens the devices of a command and runs it while the wall clock stands at `now`. -/
def Command.run (v : View) (now : UInt64) (connections : Connections) (c : Command) : Transcript :=
  match c.prepare v connections with
  | (.ok job, events) => job.run now events
  | (.error failure, events) => ⟨some failure, events⟩

end TimingFleet.CommandLine

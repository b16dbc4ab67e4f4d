import TimingFleet.EndpointGroup
import TimingFleet.Fleet
import TimingFleet.Text.Colour
import TimingFleet.Text.Columns
import TimingFleet.Text.Grid

/-!
# Reports

What an operator is shown: the rows of each table, and the texts around them.  A table's rows are kept
apart from its drawing.  Endpoints stand in columns, in ascending order, under a heading row of their
ids.
-/

namespace TimingFleet

open Text

namespace Report

/-- A word in hexadecimal. -/
def hexWord (w : UInt32) : String := Numeral.hex w.toNat

/-- A word in decimal. -/
def decimalWord (w : UInt32) : String := Numeral.decimal w.toNat

/-- What stands in a cell without a value. -/
def noValue : String := "-"

/-- The heading of a section. -/
def banner (palette : Palette) (title : String) : String :=
  "--- " ++ Colour.cyan.paint palette title ++ " ---"

/-! ## Endpoints -/

/-- Versions below the ids of their endpoints. -/
def versionRows (r : VersionReport) : Grid :=
  [r.versions.keys.map decimalWord, r.versions.values.map hexWord]

/-- The version table. -/
def versions (r : VersionReport) : String := (versionRows r).draw

/-- A state's label with its code; a code without a state stays visible. -/
def stateCell (palette : Palette) (code : UInt32) : String :=
  let name :=
    match EndpointState.ofCode? code with
    | some .ready => Colour.green.paint palette EndpointState.ready.label
    | some state => state.label
    | none => Colour.red.paint palette "undefined"
  name ++ " (" ++ hexWord code ++ ")"

/-- The heading row. -/
def headingRow (s : Snapshot) : List String := "Endpoint" :: s.keys.map decimalWord

/-- A row with a label and one cell for each endpoint. -/
def snapshotRow (s : Snapshot) (label : String) (cell : EndpointSnapshot → String) : List String :=
  label :: s.values.map cell

/-- State, partition, time stamp, counters and buffer of each endpoint. -/
def summaryRows (palette : Palette) (s : Snapshot) : Grid :=
  [headingRow s,
    snapshotRow s "State" fun e => (e.stateCode?.map (stateCell palette)).getD noValue,
    snapshotRow s "Partition" fun e => decimalWord e.partition,
    snapshotRow s "Timestamp" fun e =>
      Colour.blue.paint palette (Numeral.decimal e.timestamp.toNat),
    snapshotRow s "Timestamp (hex)" fun e => Numeral.hex e.timestamp.toNat,
    snapshotRow s "EventCounter" fun e => decimalWord e.eventCounter,
    snapshotRow s "Buffer status" fun e =>
      if e.bufferOk then Colour.green.paint palette "OK" else Colour.red.paint palette "Error",
    snapshotRow s "Buffer occupancy" fun e => decimalWord e.bufferCount]

/-- The summary table. -/
def summary (palette : Palette) (s : Snapshot) : String := (summaryRows palette s).draw

/-- The names of the status flags that the first endpoint reports. -/
def statusNames (s : Snapshot) : List String :=
  match s.values with
  | [] => []
  | e :: _ => e.status.keys

/-- One row for each status flag. -/
def statusRows (s : Snapshot) : Grid :=
  headingRow s :: (statusNames s).map fun name =>
    snapshotRow s name fun e => (e.status[name]?.map hexWord).getD noValue

/-- The status table. -/
def statusFlags (s : Snapshot) : String := (statusRows s).draw

/-- A command's name, or its code. -/
def commandLabel (code : Nat) : String := (commandName? code).getD (Numeral.hex code)

/-- The number of counters of the endpoint that has most. -/
def counterRowCount (s : Snapshot) : Nat := (s.values.map fun e => e.counters.length).foldr max 0

/-- One row for each command code. -/
def counterRows (s : Snapshot) : Grid :=
  headingRow s :: (List.range (counterRowCount s)).map fun code =>
    snapshotRow s (commandLabel code) fun e => (e.counters[code]?.map decimalWord).getD noValue

/-- The table of command counters. -/
def counters (s : Snapshot) : String := (counterRows s).draw

/-- The words taken from a readout buffer, one on a line with its index. -/
def readbackLines (r : Readback) : List String :=
  ["Words available in readout buffer: " ++ hexWord r.available, Numeral.decimal r.toRead] ++
    (if r.isEmpty then ["Nothing to read"] else []) ++
    r.words.mapIdx fun i word => Numeral.padded 4 i ++ " " ++ hexWord word

/-- The words taken from a readout buffer. -/
def readback (r : Readback) : String := "\n".intercalate (readbackLines r)

/-! ## Boards -/

/-- Whether a register table has a heading. -/
inductive Heading where
  | shown
  | hidden
  deriving DecidableEq, Repr

/-- Names and values of registers. -/
def registerRows (heading : Heading) (d : RegisterDump) : Grid :=
  (if heading = .shown then [["name", "value"]] else []) ++
    d.toList.map fun (name, value) => [name, hexWord value]

/-- A register table. -/
def registers (heading : Heading) (d : RegisterDump) : String := (registerRows heading d).draw

/-- The identification of a board. -/
def identityRows (i : BoardIdentity) : Grid :=
  [["Board", i.boardName], ["Carrier", i.carrierName], ["Design", i.designName],
    ["Firmware", hexWord i.version]]

/-- The identification table. -/
def identity (i : BoardIdentity) : String := (identityRows i).draw

/-- Time stamps before and after they were set. -/
def timeSync (palette : Palette) (t : TimeSync) : String :=
  "Old timestamp " ++ Numeral.hex t.old.toNat ++ ", " ++ Ticks.text t.old ++ "\nNew timestamp " ++
    Numeral.hex t.new.toNat ++ ", " ++ Colour.blue.paint palette (Ticks.text t.new)

/-- The state of one slot, in red unless it is locked. -/
def slotStateCell (palette : Palette) (p : SlotScan) : String :=
  let cell := stateCell palette p.stateCode
  if p.isLocked then cell else Colour.red.paint palette cell

/-- One row for each slot. -/
def slotRows (palette : Palette) (slots : List SlotScan) : Grid :=
  ["Slot", "CDR lol", "SFP los", "Upstream state"] :: slots.map fun p =>
    [decimalWord p.slot, hexWord p.cdrLossOfLock, hexWord p.sfpLossOfSignal, slotStateCell palette p]

/-- The table of a slot scan. -/
def slotScan (palette : Palette) (slots : List SlotScan) : String := (slotRows palette slots).draw

/-- A measured round trip. -/
def delay (palette : Palette) (m : DelayMeasurement) : String :=
  "Measured RTT delay " ++ Colour.green.paint palette (Numeral.decimal m.delay.toNat) ++
    " (transmission " ++ Numeral.hex m.echo.sent.toNat ++ ", reception " ++
    Numeral.hex m.echo.received.toNat ++ ") via fanout " ++ decimalWord m.fanout ++ ", slot " ++
    decimalWord m.slot

end Report

end TimingFleet

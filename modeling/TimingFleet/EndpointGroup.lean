import TimingFleet.Session.RegisterGroup

/-!
# Groups of endpoints

The endpoints of one device that a command names.  A group exists only if the device has all of them;
finding that out touches no register.  Operations go through the endpoints in ascending order.
-/

namespace TimingFleet

open Text

/-- Endpoints of a device, ascending and each once. -/
structure EndpointGroup where
  /-- The id of the device. -/
  device : String
  ids : List UInt32
  deriving DecidableEq, Repr

/-- The numbers of a list, ascending and each once. -/
def ascending (ns : List UInt32) : List UInt32 := (Std.ExtTreeSet.ofList ns compare).toList

/-- Firmware versions by endpoint. -/
structure VersionReport where
  versions : IndexTable UInt32

namespace VersionReport

/-- The versions that occur, ascending and each once. -/
def distinct (r : VersionReport) : List UInt32 := ascending r.versions.values

/-- All endpoints have the same version. -/
def isConsistent (r : VersionReport) : Bool := r.distinct.length ≤ 1

end VersionReport

/-- The position of an enable switch. -/
structure EnableReport where
  ids : List UInt32
  on : Bool
  partition : UInt32
  deriving DecidableEq, Repr

/-- The report as a sentence. -/
def EnableReport.text (r : EnableReport) : String :=
  "Endpoints " ++ EndpointIds.text r.ids ++ " " ++
    if r.on then "activated in partition " ++ Numeral.decimal r.partition.toNat else "deactivated"

/-- What one endpoint reports. -/
structure EndpointSnapshot where
  timestamp : UInt64
  eventCounter : UInt32
  bufferCount : UInt32
  control : RegisterDump
  status : RegisterDump
  counters : List UInt32

namespace EndpointSnapshot

/-- The state code, if the status registers have one. -/
def stateCode? (e : EndpointSnapshot) : Option UInt32 := e.status[EndpointNode.stateFlag]?

/-- The state, if it is a defined one. -/
def state? (e : EndpointSnapshot) : Option EndpointState := e.stateCode?.bind EndpointState.ofCode?

/-- The partition. -/
def partition (e : EndpointSnapshot) : UInt32 := e.control[EndpointNode.partitionFlag]?.getD 0

/-- No readout buffer error is flagged. -/
def bufferOk (e : EndpointSnapshot) : Bool := e.status[EndpointNode.bufferErrorFlag]?.getD 0 == 0

end EndpointSnapshot

/-- What the endpoints of a group report. -/
abbrev Snapshot := IndexTable EndpointSnapshot

/-- Words taken from one readout buffer. -/
structure Readback where
  id : UInt32
  available : UInt32
  toRead : Nat
  words : List UInt32
  deriving DecidableEq, Repr

/-- There was nothing to read. -/
def Readback.isEmpty (r : Readback) : Bool := r.toRead == 0

namespace EndpointGroup

open Procedure

/-! ## Finding the endpoints -/

/-- The ids without a node on the device. -/
def missingIds : List UInt32 → Procedure Unit (List UInt32)
  | [] => return []
  | id :: rest => do
    let known ← hasNode (EndpointNode.base id)
    let missing ← missingIds rest
    return if known then missing else id :: missing

/-- The group of the endpoints `ids` on the device opened as `device`. -/
def resolve (device : String) (ids : List UInt32) : Procedure Unit EndpointGroup := do
  let missing ← missingIds ids
  if missing ≠ [] then .fail (.missingEndpoints device (ascending missing))
  else
    let group : EndpointGroup := ⟨device, ascending ids⟩
    log .debug ("Resolved endpoints " ++ EndpointIds.text group.ids ++ " on " ++ device)
    return group

/-- The node `rel` of endpoint `id`. -/
def node (id : UInt32) (rel : NodePath) : NodePath := (EndpointNode.base id).join rel

/-! ## Versions -/

/-- Reads the version of every endpoint in one batch. -/
def readVersions (g : EndpointGroup) : Procedure Unit VersionReport := do
  let handles ← each g.ids fun id => do
    let h ← read (node id EndpointNode.version)
    return (id, h)
  dispatch
  let versions ← each handles fun (id, h) => do
    let value ← wordValue h
    return (id, value)
  let report : VersionReport := ⟨Std.ExtTreeMap.ofList versions compare⟩
  if report.isConsistent then return report
  else
    log .info ("Multiple endpoint versions detected on " ++ g.device ++ ": " ++
      Numeral.hexList report.distinct)
    return report

/-! ## Enabling -/

/-- Switches one endpoint. -/
def enableOne (on : Bool) (partition id : UInt32) : Procedure Unit Unit := do
  if on then write (node id EndpointNode.partition) partition
  write (node id EndpointNode.enable) (Device.flag on)
  write (node id EndpointNode.bufferEnable) (Device.flag on)
  dispatch
  log .debug ("Endpoint " ++ Numeral.decimal id.toNat ++ if on then " enabled" else " disabled")

/-- Switches the endpoints one after the other, each in a batch of its own. -/
def enable (g : EndpointGroup) (on : Bool) (partition : UInt32) : Procedure Unit EnableReport := do
  if maxPartition < partition then
    .fail (.invalidArgument ("partition " ++ Numeral.decimal partition.toNat ++ " out of range 0-" ++
      Numeral.decimal maxPartition.toNat))
  else
    let _ ← each g.ids (enableOne on partition)
    let report : EnableReport := ⟨g.ids, on, partition⟩
    log .info report.text
    return report

/-! ## Snapshots -/

/-- The handles of one endpoint's snapshot. -/
structure SnapshotHandles where
  id : UInt32
  timestamp : BlockHandle
  eventCounter : WordHandle
  bufferCount : WordHandle
  control : List (String × WordHandle)
  status : List (String × WordHandle)
  counters : BlockHandle

/-- Queues the reads of one endpoint's snapshot. -/
def queueSnapshot (id : UInt32) : Procedure Unit SnapshotHandles := do
  let timestamp ← readBlock (node id EndpointNode.timestamp) 2
  let eventCounter ← read (node id EndpointNode.eventCounter)
  let bufferCount ← read (node id EndpointNode.bufferCount)
  let control ← RegisterGroup.read (node id EndpointNode.control)
  let status ← RegisterGroup.read (node id EndpointNode.status)
  let counters ← readBlock (node id EndpointNode.counters) counterCount
  return { id, timestamp, eventCounter, bufferCount, control, status, counters }

/-- The snapshot behind the handles. -/
def collectSnapshot (h : SnapshotHandles) : Procedure Unit (UInt32 × EndpointSnapshot) := do
  let timestamp ← blockValue h.timestamp
  let eventCounter ← wordValue h.eventCounter
  let bufferCount ← wordValue h.bufferCount
  let control ← RegisterGroup.collect h.control
  let status ← RegisterGroup.collect h.status
  let counters ← blockValue h.counters
  return (h.id,
    { timestamp := Ticks.ofWords timestamp, eventCounter, bufferCount, control, status, counters })

/-- Reads all endpoints in one batch. -/
def snapshot (g : EndpointGroup) : Procedure Unit Snapshot := do
  let handles ← each g.ids queueSnapshot
  dispatch
  let entries ← each handles collectSnapshot
  return Std.ExtTreeMap.ofList entries compare

/-! ## Readout buffers -/

/-- Reads the buffer of one endpoint: first how much there is, then the words. -/
def readbackOne (mode : ReadoutMode) (id : UInt32) : Procedure Unit Readback := do
  let count ← read (node id EndpointNode.bufferCount)
  dispatch
  let available ← wordValue count
  let toRead := wordsToRead available.toNat mode
  if toRead = 0 then
    log .info ("Endpoint " ++ Numeral.decimal id.toNat ++ ": nothing to read")
    return ⟨id, available, toRead, []⟩
  else
    let data ← readBlock (node id EndpointNode.bufferData) toRead
    dispatch
    let words ← blockValue data
    return ⟨id, available, toRead, words⟩

/-- Reads the buffers one after the other. -/
def readback (g : EndpointGroup) (mode : ReadoutMode) : Procedure Unit (List Readback) :=
  each g.ids (readbackOne mode)

end EndpointGroup

end TimingFleet

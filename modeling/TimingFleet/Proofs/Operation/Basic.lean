import TimingFleet.EndpointGroup
import TimingFleet.Fleet

/-!
# Operations as data

What can be asked of a group of endpoints, of a board and of a fleet, so that a statement can speak of all operations
with all their arguments, or of a sequence of them.
-/

namespace TimingFleet

namespace EndpointGroup

/-- An operation on a group of endpoints. -/
inductive Operation where
  | readVersions
  | enable (on : Bool) (partition : UInt32)
  | snapshot
  | readback (mode : ReadoutMode)
  deriving DecidableEq, Repr

/-- The type of an operation's result. -/
@[reducible] def Operation.Reply : Operation → Type
  | .readVersions => VersionReport
  | .enable _ _ => EnableReport
  | .snapshot => Snapshot
  | .readback _ => List Readback

/-- Performs an operation. -/
def perform (g : EndpointGroup) : (o : Operation) → Procedure Unit o.Reply
  | .readVersions => g.readVersions
  | .enable on partition => g.enable on partition
  | .snapshot => g.snapshot
  | .readback mode => g.readback mode

/-- Looks for endpoints of the device opened as `device`, and performs an operation on their group. -/
def operate (device : String) (ids : List UInt32) (o : Operation) : Procedure Unit o.Reply :=
  resolve device ids >>= fun g => g.perform o

end EndpointGroup

namespace Board

/-- An operation on a board. -/
inductive Operation where
  | identify
  | reset (kind : ResetKind)
  | status
  | pllStatus
  | enableUplink
  | readTimestamp
  | syncTimestamp
  | syncTimestampAt (seconds : UInt64)
  | switchSfp (address : UInt32) (on : Bool)
  | measureEcho
  | selectMux (slot : UInt32)
  | scanSlots
  deriving DecidableEq, Repr

/-- The type of an operation's result. -/
@[reducible] def Operation.Reply : Operation → Type
  | .identify => BoardIdentity
  | .reset _ => Unit
  | .status => RegisterDump
  | .pllStatus => PllReport
  | .enableUplink => EndpointState
  | .readTimestamp => UInt64
  | .syncTimestamp => TimeSync
  | .syncTimestampAt _ => TimeSync
  | .switchSfp _ _ => Unit
  | .measureEcho => Echo
  | .selectMux _ => Unit
  | .scanSlots => List SlotScan

/-- Performs an operation. -/
def perform (b : Board) : (o : Operation) → Procedure Unit o.Reply
  | .identify => b.identify
  | .reset kind => b.reset kind
  | .status => b.status
  | .pllStatus => b.pllStatus
  | .enableUplink => b.enableUplink
  | .readTimestamp => b.readTimestamp
  | .syncTimestamp => b.syncTimestamp
  | .syncTimestampAt seconds => b.syncTimestampAt seconds
  | .switchSfp address on => b.switchSfp address on
  | .measureEcho => b.measureEcho
  | .selectMux slot => b.selectMux slot
  | .scanSlots => b.scanSlots

end Board

namespace Fleet

/-- An operation on a fleet. -/
inductive Operation where
  | identifyAll
  | setup
  | synctime
  | status
  | scanFanouts
  | measureDelay (address : UInt32) (slot : Option UInt32)
  deriving DecidableEq, Repr

/-- The type of an operation's result. -/
@[reducible] def Operation.Reply : Operation → Type
  | .identifyAll => List (String × BoardIdentity)
  | .setup => TimeSync
  | .synctime => TimeSync
  | .status => FleetStatus
  | .scanFanouts => List (UInt32 × List SlotScan)
  | .measureDelay _ _ => DelayMeasurement

/-- Performs an operation. -/
def perform (f : Fleet) : (o : Operation) → Procedure Seat o.Reply
  | .identifyAll => f.identifyAll
  | .setup => f.setup
  | .synctime => f.synctime
  | .status => f.status
  | .scanFanouts => f.scanFanouts
  | .measureDelay address slot => f.measureDelay address slot

end Fleet

end TimingFleet

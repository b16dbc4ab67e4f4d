import TimingFleet.Device.Basic
import TimingFleet.Session.Slots

/-!
# Batches

Requests wait in a batch until it is served.  Serving goes through the batch in order; each operation
sees the effects of those before it, and the first one that cannot be served ends the batch with its
error.
-/

namespace TimingFleet

open Text

/-- A register access as the bus sees it. -/
inductive Access where
  | read (path : NodePath)
  | readBlock (path : NodePath) (words : Nat)
  | write (path : NodePath) (value : UInt32)
  | writeBlock (path : NodePath) (values : List UInt32)
  | dispatch
  deriving DecidableEq, Repr

/-- An operation that waits in a batch. -/
inductive Pending where
  | read (handle : WordHandle)
  | readBlock (handle : BlockHandle) (words : Nat)
  | write (path : NodePath) (value : UInt32)
  | writeBlock (path : NodePath) (values : List UInt32)
  deriving DecidableEq, Repr

/-- The access a pending operation makes. -/
def Pending.access : Pending → Access
  | .read h => .read h.path
  | .readBlock h words => .readBlock h.path words
  | .write path value => .write path value
  | .writeBlock path values => .writeBlock path values

/-- The operations that wait, in the order in which they were queued. -/
abbrev Batch := Array Pending

/-- A device and the slots of the handles that wait for its answers. -/
structure Bench where
  device : Device
  slots : Slots

namespace Bench

/-- Serves one operation. -/
def serve (b : Bench) : Pending → Outcome Bench Unit
  | .read h => .ok () { b with slots := b.slots.fillWord h ((b.device.word? h.path).getD 0) }
  | .readBlock h words =>
    match b.device.readBlock h.path words with
    | .ok (values, device) => .ok () ⟨device, b.slots.fillBlock h values⟩
    | .error e => .error e b
  | .write path value =>
    ⟨.ok (), { b with device := b.device.writeWord path value },
      (b.device.setWord path value).writeWordEvents path value⟩
  | .writeBlock path values =>
    ⟨.ok (), { b with device := b.device.writeBlock path values },
      b.device.writeBlockEvents path values⟩

/-- Serves operations in order, up to the first that fails. -/
def serveAll (b : Bench) : List Pending → Outcome Bench Unit
  | [] => .ok () b
  | op :: rest =>
    let first := b.serve op
    match first.result with
    | .ok () => (serveAll first.state rest).after first.events
    | .error _ => first

end Bench

end TimingFleet

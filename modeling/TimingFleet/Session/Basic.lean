import TimingFleet.Device.Build
import TimingFleet.Session.Batch

/-!
# Sessions

A session is an open link to one device.  Reads and writes are checked against the address table and
queued; nothing happens to the device until a dispatch serves the batch.  A dispatch empties the batch
whether it succeeds or not, and a dispatch that the device refuses changes nothing else.
-/

namespace TimingFleet

open Text

/-- An open link to a device. -/
structure Session where
  /-- The id under which the device was opened. -/
  name : String
  device : Device
  slots : Slots := {}
  batch : Batch := #[]
  /-- Every access so far. -/
  log : Array Access := #[]
  timeout : Option Duration := none
  /-- The link takes a timeout. -/
  keepsTimeout : Bool := true

namespace Session

/-- A session on a device that is opened under the device's own id. -/
def ofDevice (device : Device) : Session := { name := device.id, device }

/-- The number of dispatches so far. -/
def dispatchCount (s : Session) : Nat := s.log.countP (· = .dispatch)

/-- The word writes so far. -/
def writes (s : Session) : List (NodePath × UInt32) :=
  s.log.toList.filterMap fun
    | .write path value => some (path, value)
    | _ => none

/-! ## Queueing -/

/-- Records an access. -/
def note (s : Session) (a : Access) : Session := { s with log := s.log.push a }

/-- Puts an operation into the batch and its access into the log. -/
def enqueue (s : Session) (op : Pending) : Session :=
  { s with log := s.log.push op.access, batch := s.batch.push op }

/-- Gives out a slot. -/
def bump (s : Session) : Session := { s with slots := s.slots.bump }

/-- The node is missing on the device. -/
def missing {α : Type} (s : Session) (path : NodePath) : Outcome Session α :=
  .error (.nodeNotFound s.device.id path.toString) s

/-- Queues the read of a word. -/
def read (s : Session) (path : NodePath) : Outcome Session WordHandle :=
  if s.device.registers.words.contains path then
    let h := s.slots.wordHandle path
    .ok h (s.bump.enqueue (.read h))
  else s.missing path

/-- Queues the read of a block. -/
def readBlock (s : Session) (path : NodePath) (words : Nat) : Outcome Session BlockHandle :=
  if s.device.registers.isBlock path then
    let h := s.slots.blockHandle path
    .ok h (s.bump.enqueue (.readBlock h words))
  else s.missing path

/-- Queues the write of a word. -/
def write (s : Session) (path : NodePath) (value : UInt32) : Outcome Session Unit :=
  if s.device.registers.words.contains path then .ok () (s.enqueue (.write path value))
  else s.missing path

/-- Queues the write of a block. -/
def writeBlock (s : Session) (path : NodePath) (values : List UInt32) : Outcome Session Unit :=
  if s.device.registers.blocks.contains path then .ok () (s.enqueue (.writeBlock path values))
  else s.missing path

/-! ## Dispatching -/

/-- The part of the session that serving a batch changes. -/
def bench (s : Session) : Bench := ⟨s.device, s.slots⟩

/-- The session after its batch has been served. -/
def withBench (s : Session) (b : Bench) : Session :=
  { s with device := b.device, slots := b.slots }

/-- Serves the batch, unless the device refuses. -/
def dispatch (s : Session) : Outcome Session Unit :=
  let ops := s.batch.toList
  let s := { s with log := s.log.push .dispatch, batch := #[] }
  match s.device.refusal s.dispatchCount with
  | some reason => .error (.transport s.device.id reason) s
  | none =>
    ((s.bench.serveAll ops).inState s.withBench).after
      [.log .debug ("SimBoard " ++ s.device.id ++ ": dispatching " ++ Numeral.decimal ops.length ++
        " operations")]

/-! ## Looking -/

/-- The node exists on the device. -/
def hasNode (s : Session) (path : NodePath) : Bool := s.device.registers.hasNode path

/-- The names of the nodes one part below `path` that are or hold word registers. -/
def subNodes (s : Session) (path : NodePath) : Except Error (List String) :=
  if s.hasNode path then .ok (s.device.registers.childNames path)
  else .error (.nodeNotFound s.device.id path.toString)

/-- The value behind a word handle. -/
def wordValue (s : Session) (h : WordHandle) : Except Error UInt32 :=
  match s.slots.word? h with
  | some value => .ok value
  | none => .error (.notDispatched h.path.toString)

/-- The values behind a block handle. -/
def blockValue (s : Session) (h : BlockHandle) : Except Error (List UInt32) :=
  match s.slots.block? h with
  | some values => .ok values
  | none => .error (.notDispatched h.path.toString)

/-- Sets the timeout, if the link takes one. -/
def setTimeout (s : Session) (timeout : Duration) : Outcome Session Unit :=
  if s.keepsTimeout then .ok () { s with timeout := some timeout }
  else
    ⟨.ok (), s, [.log .debug (s.name ++ ": timeout " ++ timeout.text ++ " ignored by transport")]⟩

end Session

end TimingFleet

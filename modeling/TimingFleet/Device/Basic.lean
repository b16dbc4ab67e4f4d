import TimingFleet.Clock.Ticks
import TimingFleet.Device.Registers
import TimingFleet.Outcome
import TimingFleet.Register.BoardIo
import TimingFleet.Register.Endpoint
import TimingFleet.Register.Master

/-!
# Simulated devices

A device holds registers and reacts to accesses as its firmware does.

* An endpoint device follows the enable bit of an endpoint with its state code and ready flag, and a read
  of a readout buffer takes words out of it.
* An overlord keeps the set of switched-on SFP transmitters from the command packets written to it,
  answers an echo when its uplink endpoint is ready, and loads its time stamp.
* A fanout reports link flags for the slot its mux selects and locks on live slots only.
-/

namespace TimingFleet

open Text

/-- Which firmware a device carries. -/
inductive DeviceKind where
  | endpoint
  | overlord
  | fanout
  deriving DecidableEq, Repr

/-- A simulated device. -/
structure Device where
  id : String
  kind : DeviceKind
  registers : Registers := {}
  /-- Addresses whose SFP transmitter is on. -/
  enabledSfps : IndexSet := ∅
  /-- Mux slots with a live link. -/
  liveSlots : IndexSet := ∅
  /-- Ticks an echo takes. -/
  roundTrip : UInt32 := 0x1a4
  /-- Why dispatches fail, if they do. -/
  failure : Option String := none
  /-- The only dispatch that fails, counted from 1; without it all do. -/
  failingDispatch : Option Nat := none

namespace Device

/-- The current value of a word register. -/
def word? (d : Device) (path : NodePath) : Option UInt32 := d.registers.words[path]?

/-- The current contents of a block register. -/
def block? (d : Device) (path : NodePath) : Option (List UInt32) := d.registers.blocks[path]?

/-- Sets a word register without any reaction. -/
def setWord (d : Device) (path : NodePath) (value : UInt32) : Device :=
  { d with registers := d.registers.setWord path value }

/-- Sets a block register without any reaction. -/
def setBlock (d : Device) (path : NodePath) (values : List UInt32) : Device :=
  { d with registers := d.registers.setBlock path values }

/-- A flag as a word. -/
def flag (b : Bool) : UInt32 := if b then 1 else 0

/-! ## Reactions -/

/-- The mux of a fanout selects a live slot. -/
def onLiveSlot (d : Device) : Bool := d.liveSlots.contains ((d.word? FanoutNode.mux).getD 0)

/-- Sets the link flags of a fanout for the selected slot; other devices have none. -/
def updateLinkFlags (d : Device) : Device :=
  if d.kind = .fanout then
    let lost := flag (!d.onLiveSlot)
    (d.setWord FanoutNode.cdrLossOfLock lost).setWord FanoutNode.sfpLossOfSignal lost
  else d

/-- Answers an echo if the uplink endpoint of the overlord is ready. -/
def answerEcho (d : Device) : Device :=
  if d.word? (MasterNode.uplink.join EndpointNode.state) = some EndpointState.ready.code then
    let sent := Ticks.ofWords ((d.block? MasterNode.timestamp).getD [])
    let received := sent + d.roundTrip.toUInt64
    ((d.setBlock MasterNode.echoSent (Ticks.toWords sent)).setBlock
      MasterNode.echoReceived (Ticks.toWords received)).setWord MasterNode.echoDone 1
  else d.setWord MasterNode.echoDone 0

/-- The state of an endpoint after a write to its enable bit. -/
def stateAfterEnable (value : UInt32) (linked : EndpointState) : EndpointState :=
  if value = 0 then .standingBy else linked

/-- What an endpoint device does after a word write. -/
def reactEndpoint (d : Device) (path : NodePath) (value : UInt32) : Device :=
  match NodePath.beforeSuffix EndpointNode.enable path with
  | none => d
  | some base =>
    let state := stateAfterEnable value .ready
    (d.setWord (base.join EndpointNode.state) state.code).setWord
      ⟨base.parts ++ EndpointNode.readyFlag.parts⟩ (flag (value != 0))

/-- What an overlord does after a word write. -/
def reactOverlord (d : Device) (path : NodePath) (value : UInt32) : Device :=
  if path = MasterNode.uplink.join EndpointNode.enable then
    let state := stateAfterEnable value (if d.enabledSfps.isEmpty then .waitingSfp else .ready)
    d.setWord (MasterNode.uplink.join EndpointNode.state) state.code
  else if path = MasterNode.echoGo ∧ value ≠ 0 then d.answerEcho
  else if path = BoardNode.softReset ∧ value ≠ 0 then d.setWord MasterNode.broadcastEnable 0
  else d

/-- What a fanout does after a word write. -/
def reactFanout (d : Device) (path : NodePath) (value : UInt32) : Device :=
  if path = FanoutNode.mux then d.updateLinkFlags
  else if path = FanoutNode.uplink.join EndpointNode.enable then
    let state := stateAfterEnable value (if d.onLiveSlot then .ready else .waitingCdrLock)
    d.setWord (FanoutNode.uplink.join EndpointNode.state) state.code
  else d

/-- Writes a word register. -/
def writeWord (d : Device) (path : NodePath) (value : UInt32) : Device :=
  let d := d.setWord path value
  match d.kind with
  | .endpoint => d.reactEndpoint path value
  | .overlord => d.reactOverlord path value
  | .fanout => d.reactFanout path value

/-- The log lines of a word write. -/
def writeWordEvents (d : Device) (path : NodePath) (value : UInt32) : List Event :=
  if d.kind = .overlord ∧ path = BoardNode.softReset ∧ value ≠ 0 then
    [.log .info ("SimBoard " ++ d.id ++ ": soft reset")]
  else []

/-- The set of switched-on transmitters after a command packet. -/
def applyPacket (sfps : IndexSet) (packet : List UInt32) : IndexSet :=
  match SfpPacket.decode packet with
  | some (address, true) => sfps.insert address
  | some (address, false) => if address = broadcastAddress then ∅ else sfps.erase address
  | none => sfps

/-- Writes a block register. -/
def writeBlock (d : Device) (path : NodePath) (values : List UInt32) : Device :=
  let d := d.setBlock path values
  if d.kind = .overlord then
    if path = MasterNode.timestampLoad then d.setBlock MasterNode.timestamp values
    else if path = MasterNode.commandBuffer then
      { d with enabledSfps := applyPacket d.enabledSfps values }
    else d
  else d

/-- The log lines of a block write. -/
def writeBlockEvents (d : Device) (path : NodePath) (values : List UInt32) : List Event :=
  if d.kind = .overlord ∧ path = MasterNode.commandBuffer ∧ SfpPacket.decode values = none then
    [.log .debug ("SimBoard " ++ d.id ++ ": ignoring async packet " ++ Numeral.hexList values)]
  else []

/-- A block cut or filled with zeros to `words` words. -/
def resize (words : Nat) (block : List UInt32) : List UInt32 :=
  block.take words ++ List.replicate (words - block.length) 0

/-- Reads `words` words from a block, or takes them out of a queue that holds enough.  The occupancy
register of a readout buffer follows. -/
def readBlock (d : Device) (path : NodePath) (words : Nat) : Except Error (List UInt32 × Device) :=
  match d.registers.fifos[path]? with
  | none => .ok (resize words ((d.block? path).getD []), d)
  | some queue =>
    if queue.length < words then
      .error (.transport d.id (path.toString ++ ": requested " ++ Numeral.decimal words ++ " words, " ++
        Numeral.decimal queue.length ++ " available"))
    else
      let rest := queue.drop words
      let d := { d with registers := d.registers.setFifo path rest }
      match NodePath.beforeSuffix EndpointNode.bufferData path with
      | none => .ok (queue.take words, d)
      | some base =>
        .ok (queue.take words,
          d.setWord (base.join EndpointNode.bufferCount) (UInt32.ofNat rest.length))

/-- Why dispatch number `n` fails, if it does. -/
def refusal (d : Device) (n : Nat) : Option String :=
  match d.failingDispatch with
  | some k => if k = n then d.failure else none
  | none => d.failure

end Device

end TimingFleet

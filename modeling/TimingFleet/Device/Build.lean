import TimingFleet.Device.Basic

/-!
# Building devices

The three kinds of simulated device in the state in which they come up, and changes to a device before
it is used.
-/

namespace TimingFleet

namespace Device

/-- Version word of simulated endpoints. -/
def endpointVersion : UInt32 := 0x00050400

/-- Version word of simulated boards. -/
def boardVersion : UInt32 := 0x00050201

/-- Adds the registers of endpoint `n`. -/
def addEndpoint (r : Registers) (n : UInt32) : Registers :=
  let base := EndpointNode.base n
  let r := r.setWord (base.join EndpointNode.version) endpointVersion
  let r := r.setFlags (base.join EndpointNode.control) EndpointNode.controlFlags 0
  let r := r.setFlags (base.join EndpointNode.status) EndpointNode.statusFlags 0
  let r := r.setWord (base.join EndpointNode.eventCounter) 0
  let r := r.setWord (base.join EndpointNode.bufferCount) 0
  let r := r.setBlock (base.join EndpointNode.timestamp) [0, 0]
  let r := r.setBlock (base.join EndpointNode.counters) (List.replicate counterCount 0)
  r.setFifo (base.join EndpointNode.bufferData) []

/-- A device with the given endpoints. -/
def endpoint (id : String) (endpoints : List UInt32) : Device :=
  { id, kind := .endpoint, registers := endpoints.foldl addEndpoint {} }

/-- The log line that goes with a new endpoint device. -/
def endpointEvents (id : String) (endpoints : List UInt32) : List Event :=
  [.log .debug ("SimBoard " ++ id ++ ": endpoint device with " ++
    Text.Numeral.decimal endpoints.length ++ " endpoints")]

/-- The live flags of the PLL. -/
def pllFlags : List String := ["lol", "los_xaxb", "los_in0", "los_in1", "hold"]

/-- The registers every board has. -/
def boardRegisters (design : UInt32) (pllDesign : String) : Registers :=
  let r : Registers := {}
  let r := r.setWord BoardNode.version boardVersion
  let r := r.setWord BoardNode.boardType 0
  let r := r.setWord BoardNode.carrierType 0
  let r := r.setWord BoardNode.designType design
  let r := r.setWord BoardNode.softReset 0
  let r := r.setWord BoardNode.pllReset 0
  let r := r.setWord BoardNode.i2cReset 0
  let r := r.setWord BoardNode.i2cMuxReset 0
  let r := r.setWord BoardNode.lockMonitorReset 0
  let r := r.setFlags BoardNode.status ["mmcm_ok", "mmcm_sticky", "pll_ok", "pll_sticky"] 1
  let r := r.setFlags BoardNode.status ["cdr_lol", "cdr_los", "sfp_los"] 0
  let r := r.setBlock BoardNode.pllDesignId (DesignId.encode pllDesign designIdWords)
  let r := r.setFlags BoardNode.pllStatus pllFlags 0
  r.setFlags BoardNode.pllSticky (pllFlags ++ ["cal"]) 0

/-- Adds the enable bit and the state code of an uplink endpoint. -/
def addUplink (r : Registers) (base : NodePath) : Registers :=
  (r.setWord (base.join EndpointNode.enable) 0).setWord (base.join EndpointNode.state) 0

/-- An overlord. -/
def overlord (id : String) : Device :=
  let r := boardRegisters 6 "Si5345-ovld"
  let r := r.setBlock MasterNode.timestamp [0x1000, 0]
  let r := r.setBlock MasterNode.timestampLoad [0, 0]
  let r := r.setWord MasterNode.broadcastEnable 0
  let r := addUplink r MasterNode.uplink
  let r := r.setBlock MasterNode.commandBuffer []
  let r := r.setWord MasterNode.echoGo 0
  let r := r.setWord MasterNode.echoDone 0
  let r := r.setBlock MasterNode.echoSent [0, 0]
  let r := r.setBlock MasterNode.echoReceived [0, 0]
  { id, kind := .overlord, registers := r }

/-- The device with other live slots, its link flags brought up to date. -/
def withLiveSlots (d : Device) (slots : List UInt32) : Device :=
  { d with liveSlots := Std.ExtTreeSet.ofList slots compare }.updateLinkFlags

/-- A fanout with live links on the slots 0 to 3. -/
def fanout (id : String) : Device :=
  let r := boardRegisters 5 "Si5345-fo"
  let r := r.setWord FanoutNode.mux 0
  let r := addUplink r FanoutNode.uplink
  { id, kind := .fanout, registers := r : Device }.withLiveSlots [0, 1, 2, 3]

/-! ## Changes -/

/-- Sets any word register. -/
def withWord (d : Device) (path : NodePath) (value : UInt32) : Device := d.setWord path value

/-- Sets the version of endpoint `n`. -/
def withVersion (d : Device) (n version : UInt32) : Device :=
  d.setWord ((EndpointNode.base n).join EndpointNode.version) version

/-- Sets the state code of endpoint `n`. -/
def withState (d : Device) (n code : UInt32) : Device :=
  d.setWord ((EndpointNode.base n).join EndpointNode.state) code

/-- Sets the event counter of endpoint `n`. -/
def withEventCounter (d : Device) (n count : UInt32) : Device :=
  d.setWord ((EndpointNode.base n).join EndpointNode.eventCounter) count

/-- Sets the time stamp of endpoint `n`. -/
def withTimestamp (d : Device) (n : UInt32) (ticks : UInt64) : Device :=
  d.setBlock ((EndpointNode.base n).join EndpointNode.timestamp) (Ticks.toWords ticks)

/-- Sets the command counters of endpoint `n`. -/
def withCounters (d : Device) (n : UInt32) (counters : List UInt32) : Device :=
  d.setBlock ((EndpointNode.base n).join EndpointNode.counters) (resize counterCount counters)

/-- Fills the readout buffer of endpoint `n`. -/
def withBuffer (d : Device) (n : UInt32) (words : List UInt32) : Device :=
  let base := EndpointNode.base n
  let r := d.registers.setFifo (base.join EndpointNode.bufferData) words
  { d with registers := r.setWord (base.join EndpointNode.bufferCount) (UInt32.ofNat words.length) }

/-- Sets the ticks an echo takes. -/
def withRoundTrip (d : Device) (ticks : UInt32) : Device := { d with roundTrip := ticks }

/-- Makes dispatches fail. -/
def failing (d : Device) (reason : String) : Device := { d with failure := some reason }

/-- Makes dispatch number `n` the only one that fails. -/
def failingAt (d : Device) (n : Nat) (reason : String) : Device :=
  { d with failure := some reason, failingDispatch := some n }

end Device

end TimingFleet

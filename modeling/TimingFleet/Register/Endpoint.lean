import TimingFleet.Register.Path
import TimingFleet.Text.Numeral

/-!
# The register block of an endpoint

Endpoint `n` of a device is the node `endpoint<n>`.  Its receiver reports a state code of four bits, of
which ten are defined.  Codes and states correspond one to one.
-/

namespace TimingFleet

open Text

/-- The states of an endpoint's receiver. -/
inductive EndpointState where
  | standingBy
  | waitingSfp
  | waitingCdrLock
  | waitingAlignment
  | waitingFrequency
  | waitingDecoderLock
  | waitingTimestamp
  | ready
  | errorRx
  | errorTimestamp
  deriving DecidableEq, Repr

namespace EndpointState

/-- Every state in the order of the codes. -/
def all : List EndpointState :=
  [.standingBy, .waitingSfp, .waitingCdrLock, .waitingAlignment, .waitingFrequency,
    .waitingDecoderLock, .waitingTimestamp, .ready, .errorRx, .errorTimestamp]

/-- The code in the status register. -/
def code : EndpointState → UInt32
  | .standingBy => 0x0
  | .waitingSfp => 0x1
  | .waitingCdrLock => 0x2
  | .waitingAlignment => 0x3
  | .waitingFrequency => 0x4
  | .waitingDecoderLock => 0x5
  | .waitingTimestamp => 0x6
  | .ready => 0x8
  | .errorRx => 0xc
  | .errorTimestamp => 0xd

/-- The state with a given code. -/
def ofCode? (code : UInt32) : Option EndpointState := all.find? fun state => state.code == code

/-- The label shown to an operator. -/
def label : EndpointState → String
  | .standingBy => "Standing by"
  | .waitingSfp => "Waiting SFP for signal"
  | .waitingCdrLock => "Waiting CDR lock"
  | .waitingAlignment => "Waiting for comma alignment"
  | .waitingFrequency => "Waiting for good frequency check"
  | .waitingDecoderLock => "Waiting for 8b10b decoder good packet"
  | .waitingTimestamp => "Waiting for time stamp initialisation"
  | .ready => "Ready"
  | .errorRx => "Error in Rx"
  | .errorTimestamp => "Error in time stamp check"

theorem ofCode?_code (state : EndpointState) : ofCode? state.code = some state := by
  cases state <;> decide

theorem code_of_ofCode? {code : UInt32} {state : EndpointState} (h : ofCode? code = some state) :
    state.code = code := by
  simpa using List.find?_some h

end EndpointState

/-! ## Nodes below an endpoint -/

namespace EndpointNode

/-- The node of endpoint `id` on its device. -/
def base (id : UInt32) : NodePath := ⟨["endpoint" ++ Numeral.decimal id.toNat]⟩

/-- Firmware version word. -/
def version : NodePath := ⟨["version"]⟩

/-- Control register group. -/
def control : NodePath := ⟨["csr", "ctrl"]⟩

/-- Status register group. -/
def status : NodePath := ⟨["csr", "stat"]⟩

/-- Endpoint enable bit. -/
def enable : NodePath := ⟨["csr", "ctrl", "ep_en"]⟩

/-- Readout buffer enable bit. -/
def bufferEnable : NodePath := ⟨["csr", "ctrl", "buf_en"]⟩

/-- Partition selector. -/
def partition : NodePath := ⟨["csr", "ctrl", "tgrp"]⟩

/-- State code of the receiver. -/
def state : NodePath := ⟨["csr", "stat", "ep_stat"]⟩

/-- Set while the endpoint is enabled. -/
def readyFlag : NodePath := ⟨["csr", "stat", "ep_rdy"]⟩

/-- Accepted event counter. -/
def eventCounter : NodePath := ⟨["evtctr"]⟩

/-- Two-word time stamp block. -/
def timestamp : NodePath := ⟨["tstamp"]⟩

/-- Occupancy of the readout buffer in words. -/
def bufferCount : NodePath := ⟨["buf", "count"]⟩

/-- The node that words are taken from. -/
def bufferData : NodePath := ⟨["buf", "data"]⟩

/-- Command counter block. -/
def counters : NodePath := ⟨["ctrs"]⟩

/-- The names of the control flags. -/
def controlFlags : List String := ["ep_en", "buf_en", "tgrp", "ctr_rst"]

/-- The names of the status flags. -/
def statusFlags : List String := ["ep_stat", "ep_rdy", "buf_err", "buf_warn", "in_run", "in_spill"]

/-- The flag that holds the state code. -/
def stateFlag : String := "ep_stat"

/-- The flag that reports a readout buffer error. -/
def bufferErrorFlag : String := "buf_err"

/-- The flag that holds the partition. -/
def partitionFlag : String := "tgrp"

end EndpointNode

/-- Words in the command counter block. -/
def counterCount : Nat := 16

/-- Words of one complete event in the readout buffer. -/
def wordsPerEvent : Nat := 6

/-- The highest partition. -/
def maxPartition : UInt32 := 4

/-- Which part of a readout buffer is taken. -/
inductive ReadoutMode where
  | completeEvents
  | everything
  deriving DecidableEq, Repr

/-- Words to take from a buffer that holds `available`. -/
def wordsToRead (available : Nat) : ReadoutMode → Nat
  | .everything => available
  | .completeEvents => available / wordsPerEvent * wordsPerEvent

/-- The names of the commands with fixed length, in the order of their codes. -/
def commandNames : List String :=
  ["TimeSync", "Echo", "SpillStart", "SpillStop", "RunStart", "RunStop", "WibCalib", "SSPCalib",
    "FakeTrig0", "FakeTrig1", "FakeTrig2", "FakeTrig3", "BeamTrig", "NoBeamTrig", "ExtFakeTrig"]

/-- The name of a command; higher codes are reserved and have none. -/
def commandName? (code : Nat) : Option String := commandNames[code]?

end TimingFleet

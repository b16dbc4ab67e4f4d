import TimingFleet.Register.Path

/-!
# Registers of the overlord

The time stamp counter, the echo monitor, and the buffer for asynchronous command packets.  One such
packet switches the SFP transmitter of an endpoint, or of all endpoints when it is sent to the broadcast
address.  The decoder checks the sequence number, the register number and the end mark only.
-/

namespace TimingFleet

namespace MasterNode

/-- Running time stamp. -/
def timestamp : NodePath := ⟨["master", "tstamp", "ctr"]⟩

/-- The node that loads the time stamp. -/
def timestampLoad : NodePath := ⟨["master", "tstamp", "set"]⟩

/-- Time stamp broadcast enable. -/
def broadcastEnable : NodePath := ⟨["master", "global", "csr", "ctrl", "ts_en"]⟩

/-- The endpoint that receives the overlord's own signal. -/
def uplink : NodePath := ⟨["master", "global"]⟩

/-- Buffer for asynchronous command packets. -/
def commandBuffer : NodePath := ⟨["master", "acmd_buf", "txbuf"]⟩

/-- Sends an echo. -/
def echoGo : NodePath := ⟨["master", "echo_mon", "csr", "ctrl", "go"]⟩

/-- Set once the echo is back. -/
def echoDone : NodePath := ⟨["master", "echo_mon", "csr", "stat", "rx_done"]⟩

/-- Time stamp of the sending. -/
def echoSent : NodePath := ⟨["master", "echo_mon", "tx_tstamp"]⟩

/-- Time stamp of the arrival. -/
def echoReceived : NodePath := ⟨["master", "echo_mon", "rx_tstamp"]⟩

end MasterNode

/-- The address of every endpoint on the link. -/
def broadcastAddress : UInt32 := 0x0

/-- The lowest address of an endpoint. -/
def minAddress : UInt32 := 0x1

/-- The highest address of an endpoint. -/
def maxAddress : UInt32 := 0x100

/-- An address that belongs to one endpoint. -/
def isEndpointAddress (address : UInt32) : Bool := minAddress ≤ address && address ≤ maxAddress

theorem isEndpointAddress_iff {address : UInt32} :
    isEndpointAddress address = true ↔ 0x1 ≤ address ∧ address ≤ 0x100 := by
  rw [isEndpointAddress, Bool.and_eq_true, decide_eq_true_iff, decide_eq_true_iff]
  rfl

namespace SfpPacket

/-- Sequence number of command packets. -/
def sequence : UInt32 := 0xab

/-- The endpoint register that controls the SFP transmitter. -/
def controlRegister : UInt32 := 0x70

/-- Marks a write transaction. -/
def writeMark : UInt32 := 0x80

/-- Marks the addressing mode in the length header. -/
def addressMode : UInt32 := 0x80

/-- Marks the last word. -/
def lastMark : UInt32 := 0x100

/-- The packet that switches the transmitter at `address`. -/
def encode (address : UInt32) (on : Bool) : List UInt32 :=
  [address &&& 0xff, address >>> 8, sequence, writeMark ||| controlRegister, addressMode ||| 0x1,
    (if on then 1 else 0) ||| lastMark]

/-- The address and switch position in a packet.  The high part of the address keeps its low
twenty-four bits. -/
def decode : List UInt32 → Option (UInt32 × Bool)
  | [low, high, seq, header, _, payload] =>
    if seq = sequence ∧ header &&& 0x7f = controlRegister ∧ payload &&& lastMark ≠ 0 then
      some (high <<< 8 ||| low, payload &&& 1 = 1)
    else none
  | _ => none

end SfpPacket

end TimingFleet

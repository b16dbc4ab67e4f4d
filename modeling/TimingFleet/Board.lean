import TimingFleet.Session.RegisterGroup

/-!
# Boards

An overlord or a fanout, and what an operator does with one.  Every operation is a fixed sequence of
register accesses with fixed pauses between them.  Nothing is polled and nothing is tried again: the
first failure ends the operation.
-/

namespace TimingFleet

open Text

/-- The part a board plays. -/
inductive BoardRole where
  | overlord
  | fanout
  deriving DecidableEq, Repr

namespace BoardRole

/-- The design code a board of this role should carry. -/
def designCode : BoardRole → UInt32
  | .overlord => 0x6
  | .fanout => 0x5

/-- The node of the uplink endpoint, which receives the signal of the boards above. -/
def uplink : BoardRole → NodePath
  | .overlord => MasterNode.uplink
  | .fanout => FanoutNode.uplink

/-- The role's name. -/
def text : BoardRole → String
  | .overlord => "overlord"
  | .fanout => "fanout"

end BoardRole

/-- The pauses that hardware needs. -/
structure Delays where
  softReset : Duration := .zero
  sfpSettle : Duration := .zero
  lockSettle : Duration := .zero
  muxSettle : Duration := .zero
  echoSettle : Duration := .zero
  deriving DecidableEq, Repr

namespace Delays

/-- No pauses. -/
def none : Delays := {}

/-- The pauses for real hardware. -/
def hardware : Delays := ⟨⟨1000⟩, ⟨100⟩, ⟨100⟩, ⟨100⟩, ⟨10⟩⟩

end Delays

/-- A board as its operations see it. -/
structure Board where
  /-- The id under which the board was opened. -/
  name : String
  role : BoardRole
  delays : Delays := .hardware
  deriving DecidableEq, Repr

/-- The codes by which a board identifies itself. -/
structure BoardIdentity where
  boardType : UInt32
  carrierType : UInt32
  designType : UInt32
  version : UInt32
  deriving DecidableEq, Repr

namespace BoardIdentity

/-- The name of the board type. -/
def boardName (i : BoardIdentity) : String := CodeNames.boards.nameOrHex i.boardType

/-- The name of the carrier type. -/
def carrierName (i : BoardIdentity) : String := CodeNames.carriers.nameOrHex i.carrierType

/-- The name of the design type. -/
def designName (i : BoardIdentity) : String := CodeNames.designs.nameOrHex i.designType

/-- The identity as a phrase. -/
def text (i : BoardIdentity) : String :=
  i.boardName ++ " on " ++ i.carrierName ++ ", design " ++ i.designName ++ ", firmware " ++
    Numeral.hex i.version.toNat

end BoardIdentity

/-- What the PLL reports. -/
structure PllReport where
  designId : String
  status : RegisterDump
  sticky : RegisterDump

/-- Time stamps before and after they were set. -/
structure TimeSync where
  old : UInt64
  new : UInt64
  deriving DecidableEq, Repr

/-- What a fanout reports for one slot. -/
structure SlotScan where
  slot : UInt32
  cdrLossOfLock : UInt32
  sfpLossOfSignal : UInt32
  stateCode : UInt32
  deriving DecidableEq, Repr

namespace SlotScan

/-- The state of the uplink endpoint, if it is a defined one. -/
def state? (p : SlotScan) : Option EndpointState := EndpointState.ofCode? p.stateCode

/-- The uplink endpoint locked on the slot. -/
def isLocked (p : SlotScan) : Bool := p.stateCode == EndpointState.ready.code

end SlotScan

namespace Board

open Procedure

/-- Fails unless the board has the role that `operation` is for. -/
def require (b : Board) (role : BoardRole) (operation : String) : Procedure Unit Unit :=
  if b.role = role then .done ()
  else
    .fail (.invalidArgument (operation ++ " is only available on the " ++ role.text ++ ", " ++ b.name ++
      " is a " ++ b.role.text))

/-! ## Identification -/

/-- Reads the identification codes, and warns of a design that does not fit the role. -/
def identify (b : Board) : Procedure Unit BoardIdentity := do
  let version ← read BoardNode.version
  let boardType ← read BoardNode.boardType
  let carrierType ← read BoardNode.carrierType
  let designType ← read BoardNode.designType
  dispatch
  let boardType ← wordValue boardType
  let carrierType ← wordValue carrierType
  let designType ← wordValue designType
  let version ← wordValue version
  let identity : BoardIdentity := { boardType, carrierType, designType, version }
  if identity.designType ≠ b.role.designCode then
    log .warn (b.name ++ " is used as " ++ b.role.text ++ " but carries design " ++ identity.designName)
  log .info (b.name ++ ": " ++ identity.text)
  return identity

/-! ## Reset -/

/-- Whether a reset goes beyond the design itself. -/
inductive ResetKind where
  | soft
  | hard
  deriving DecidableEq, Repr

/-- Queues a one and a zero for the same bit. -/
def pulse (path : NodePath) : Procedure Unit Unit := do
  write path 1
  write path 0

/-- Resets the design and, for a hard reset, the PLL, the I2C bus and a fanout's inputs. -/
def reset (b : Board) (kind : ResetKind) : Procedure Unit Unit := do
  log .info ("Resetting " ++ b.role.text ++ " " ++ b.name ++
    if kind = .soft then " (soft)" else " (hard)")
  write BoardNode.softReset 1
  dispatch
  settle "soft reset" b.delays.softReset
  if kind = .hard then
    pulse BoardNode.pllReset
    pulse BoardNode.i2cReset
    pulse BoardNode.i2cMuxReset
    dispatch
    log .info (b.name ++ ": PLL keeps its current configuration")
    if b.role = .fanout then
      write FanoutNode.mux 0
      pulse BoardNode.lockMonitorReset
      dispatch
    log .info (b.role.text ++ " " ++ b.name ++ " reset done")

/-! ## Status -/

/-- Reads the status flags in one batch. -/
def status (_ : Board) : Procedure Unit RegisterDump := do
  let handles ← RegisterGroup.read BoardNode.status
  dispatch
  RegisterGroup.collect handles

/-- Reads the PLL in one batch. -/
def pllStatus (_ : Board) : Procedure Unit PllReport := do
  let designId ← readBlock BoardNode.pllDesignId designIdWords
  let status ← RegisterGroup.read BoardNode.pllStatus
  let sticky ← RegisterGroup.read BoardNode.pllSticky
  dispatch
  let designId ← blockValue designId
  let status ← RegisterGroup.collect status
  let sticky ← RegisterGroup.collect sticky
  return { designId := DesignId.decode designId, status, sticky }

/-! ## The endpoint on the uplink -/

/-- Restarts the uplink endpoint and reads its state code after a pause. -/
def lockUplink (b : Board) : Procedure Unit UInt32 := do
  let enable := b.role.uplink.join EndpointNode.enable
  write enable 0
  write enable 1
  dispatch
  settle "upstream lock" b.delays.lockSettle
  let state ← read (b.role.uplink.join EndpointNode.state)
  dispatch
  let code ← wordValue state
  log .debug (b.name ++ ": upstream state " ++ Numeral.hex code.toNat)
  return code

/-- Restarts the uplink endpoint; it must become ready. -/
def enableUplink (b : Board) : Procedure Unit EndpointState := do
  let code ← b.lockUplink
  if code = EndpointState.ready.code then
    log .info (b.role.text ++ " " ++ b.name ++ ": upstream endpoint ready")
    return .ready
  else
    let label := ((EndpointState.ofCode? code).map EndpointState.label).getD "undefined"
    .fail (.receiverNotReady b.name code label)

/-! ## Time stamp of the overlord -/

/-- Reads the running time stamp. -/
def readTimestamp (b : Board) : Procedure Unit UInt64 := do
  b.require .overlord "timestamp read"
  let words ← readBlock MasterNode.timestamp 2
  dispatch
  let words ← blockValue words
  return Ticks.ofWords words

/-- Sets the time stamp to a number of seconds and switches its broadcast on. -/
def syncTimestampAt (b : Board) (seconds : UInt64) : Procedure Unit TimeSync := do
  let old ← b.readTimestamp
  log .info ("Old timestamp " ++ Numeral.hex old.toNat ++ ", " ++ Ticks.text old)
  writeBlock MasterNode.timestampLoad (Ticks.toWords (Ticks.ofSeconds seconds))
  dispatch
  let new ← b.readTimestamp
  log .info ("New timestamp " ++ Numeral.hex new.toNat ++ ", " ++ Ticks.text new)
  write MasterNode.broadcastEnable 1
  dispatch
  return ⟨old, new⟩

/-- Sets the time stamp to the time of the wall clock. -/
def syncTimestamp (b : Board) : Procedure Unit TimeSync := do
  let seconds ← now
  b.syncTimestampAt seconds

/-! ## Endpoint transmitters and echo -/

/-- Switches the SFP transmitter of one endpoint, or of all for the broadcast address. -/
def switchSfp (b : Board) (address : UInt32) (on : Bool) : Procedure Unit Unit := do
  b.require .overlord "SFP control"
  if maxAddress < address then
    .fail (.invalidArgument ("endpoint address " ++ Numeral.hex address.toNat ++ " above " ++
      Numeral.hex maxAddress.toNat))
  else
    writeBlock MasterNode.commandBuffer (SfpPacket.encode address on)
    dispatch
    log .info ("Endpoint " ++ Numeral.hex address.toNat ++ " SFP commanded " ++
      if on then "on" else "off")

/-- Sends an echo and reads its time stamps after a pause. -/
def measureEcho (b : Board) : Procedure Unit Echo := do
  b.require .overlord "echo"
  write MasterNode.echoGo 1
  dispatch
  settle "echo" b.delays.echoSettle
  let finished ← read MasterNode.echoDone
  let sent ← readBlock MasterNode.echoSent 2
  let received ← readBlock MasterNode.echoReceived 2
  dispatch
  let finished ← wordValue finished
  if finished = 0 then .fail (.transport b.name "echo not received")
  else
    let sent ← blockValue sent
    let received ← blockValue received
    let echo : Echo := ⟨Ticks.ofWords sent, Ticks.ofWords received⟩
    log .debug ("Echo tx " ++ Numeral.hex echo.sent.toNat ++ " rx " ++
      Numeral.hex echo.received.toNat)
    return echo

/-! ## Fanout inputs -/

/-- The error for a slot that no fanout has. -/
def slotError (slot : UInt32) : Error :=
  .invalidArgument ("fanout slot " ++ Numeral.decimal slot.toNat ++ " out of range 0-" ++
    Numeral.decimal (fanoutSlots - 1).toNat)

/-- Sets the input mux. -/
def selectMux (b : Board) (slot : UInt32) : Procedure Unit Unit := do
  b.require .fanout "mux selection"
  if fanoutSlots ≤ slot then .fail (slotError slot)
  else
    write FanoutNode.mux slot
    dispatch
    settle "mux" b.delays.muxSettle
    log .info (b.name ++ ": mux set to slot " ++ Numeral.decimal slot.toNat)

/-- Reads the link flags of one slot and tries to lock on it. -/
def scanSlot (b : Board) (slot : UInt32) : Procedure Unit SlotScan := do
  b.selectMux slot
  let lossOfLock ← read FanoutNode.cdrLossOfLock
  let lossOfSignal ← read FanoutNode.sfpLossOfSignal
  dispatch
  let stateCode ← b.lockUplink
  let lossOfLock ← wordValue lossOfLock
  let lossOfSignal ← wordValue lossOfSignal
  return ⟨slot, lossOfLock, lossOfSignal, stateCode⟩

/-- The slots of a fanout. -/
def slots : List UInt32 := (List.range fanoutSlots.toNat).map UInt32.ofNat

/-- Scans every slot and sets the mux back, also after a failure.  The failure of the scan is reported
before one of the restoring. -/
def scanSlots (b : Board) : Procedure Unit (List SlotScan) := do
  b.require .fanout "port scan"
  let current ← read FanoutNode.mux
  dispatch
  let previous ← wordValue current
  let scanned ← (each slots b.scanSlot).attempt
  let restored ← (b.selectMux previous).attempt
  match scanned, restored with
  | .ok scans, .ok () => return scans
  | .ok _, .error e => .fail e
  | .error e, .ok () => .fail e
  | .error e, .error r =>
    log .warn (b.name ++ ": mux not restored to slot " ++ Numeral.decimal previous.toNat ++ ": " ++
      r.message)
    .fail e

end Board

end TimingFleet

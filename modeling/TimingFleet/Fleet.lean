import TimingFleet.Board

/-!
# Fleets

One overlord and its fanouts, operated together.  Fanouts are numbered and visited in ascending order.
The delay to an endpoint is measured by an echo: all other transmitters are switched off first, and the
endpoint's own is switched off at the end whatever happened in between.
-/

namespace TimingFleet

open Text

/-- Where an endpoint is plugged in. -/
structure SlotMapping where
  fanout : UInt32
  slot : UInt32
  deriving DecidableEq, Repr

/-- From endpoint addresses to slots. -/
abbrev AddressMap := IndexTable SlotMapping

/-- A place in a fleet. -/
inductive Seat where
  | overlord
  | fanout (n : UInt32)
  deriving DecidableEq, Repr

/-- The boards of a fleet. -/
structure Fleet where
  overlord : Board
  fanouts : IndexTable Board
  addressMap : AddressMap := ∅

/-- The sessions to the boards of a fleet. -/
structure FleetSessions where
  overlord : Session
  fanouts : IndexTable Session

/-- The error for a fanout the fleet does not have. -/
def Fleet.fanoutError (n : UInt32) : Error :=
  .invalidArgument ("fanout " ++ Numeral.decimal n.toNat ++ " not in this group")

namespace FleetSessions

/-- Answers a request to the session at a seat. -/
def answer (s : FleetSessions) (seat : Seat) (r : Request) : Outcome FleetSessions r.Reply :=
  match seat with
  | .overlord => (s.overlord.answer r).inState fun overlord => { s with overlord }
  | .fanout n =>
    match s.fanouts[n]? with
    | some session =>
      (session.answer r).inState fun session => { s with fanouts := s.fanouts.insert n session }
    | none => .error (Fleet.fanoutError n) s

instance : Stations Seat FleetSessions where
  answer seat r s := s.answer seat r

end FleetSessions

/-- Status of the overlord and of fanout 0. -/
structure FleetStatus where
  overlord : RegisterDump
  fanout : Option RegisterDump
  overlordPll : PllReport
  fanoutPll : Option PllReport

/-- The round trip to one endpoint. -/
structure DelayMeasurement where
  address : UInt32
  fanout : UInt32
  slot : UInt32
  echo : Echo
  deriving DecidableEq, Repr

/-- The round trip in ticks. -/
def DelayMeasurement.delay (m : DelayMeasurement) : UInt64 := m.echo.delay

namespace Fleet

open Procedure

/-- A procedure on the overlord. -/
def onOverlord {α : Type} (p : Procedure Unit α) : Procedure Seat α := p.atStation .overlord

/-- A procedure on fanout `n`. -/
def onFanout {α : Type} (n : UInt32) (p : Procedure Unit α) : Procedure Seat α :=
  p.atStation (.fanout n)

/-- Identifies the overlord and then every fanout. -/
def identifyAll (f : Fleet) : Procedure Seat (List (String × BoardIdentity)) := do
  let first ← onOverlord f.overlord.identify
  let rest ← each f.fanouts.toList fun (n, board) => do
    let identity ← onFanout n board.identify
    return (board.name, identity)
  return (f.overlord.name, first) :: rest

/-- Sets the overlord's time stamp to the wall clock. -/
def synctime (f : Fleet) : Procedure Seat TimeSync := onOverlord f.overlord.syncTimestamp

/-- Resets the overlord and every fanout, then sets the time stamp. -/
def setup (f : Fleet) : Procedure Seat TimeSync := do
  onOverlord (f.overlord.reset .hard)
  let _ ← each f.fanouts.toList fun (n, board) => do
    log .info ("Resetting fanout " ++ Numeral.decimal n.toNat)
    onFanout n (board.reset .hard)
  f.synctime

/-- Reads status and PLL registers of the overlord and of fanout 0. -/
def status (f : Fleet) : Procedure Seat FleetStatus := do
  let overlord ← onOverlord f.overlord.status
  let overlordPll ← onOverlord f.overlord.pllStatus
  match f.fanouts[(0 : UInt32)]? with
  | none => return ⟨overlord, none, overlordPll, none⟩
  | some board =>
    let fanout ← onFanout 0 board.status
    let fanoutPll ← onFanout 0 board.pllStatus
    return ⟨overlord, some fanout, overlordPll, some fanoutPll⟩

/-- Scans every slot of every fanout. -/
def scanFanouts (f : Fleet) : Procedure Seat (List (UInt32 × List SlotScan)) :=
  each f.fanouts.toList fun (n, board) => do
    log .info ("Scanning fanout " ++ Numeral.decimal n.toNat ++ " (" ++ board.name ++ ")")
    let scans ← onFanout n board.scanSlots
    return (n, scans)

/-! ## Delay measurement -/

/-- Finds the slot of an address: the given one on fanout 0, or the mapped one. -/
def locate (f : Fleet) (address : UInt32) (slot : Option UInt32) : Procedure Seat SlotMapping :=
  match slot with
  | some slot => if fanoutSlots ≤ slot then .fail (Board.slotError slot) else .done ⟨0, slot⟩
  | none =>
    match f.addressMap[address]? with
    | none => .fail (.unmappedAddress address)
    | some mapping => do
      log .info ("Address " ++ Numeral.hex address.toNat ++ " mapped to fanout " ++
        Numeral.decimal mapping.fanout.toNat ++ ", slot " ++ Numeral.decimal mapping.slot.toNat)
      return mapping

/-- Locks the fanout and then the overlord, and sends an echo. -/
def lockAndEcho (f : Fleet) (n : UInt32) (fanout : Board) : Procedure Seat Echo := do
  log .info ("Locking fanout " ++ Numeral.decimal n.toNat)
  let _ ← onFanout n fanout.enableUplink
  log .info "Locking overlord"
  let _ ← onOverlord f.overlord.enableUplink
  onOverlord f.overlord.measureEcho

/-- Measures the echo through a fanout with only the endpoint at `address` transmitting. -/
def measureThrough (f : Fleet) (address : UInt32) (mapping : SlotMapping) (fanout : Board) :
    Procedure Seat Echo := do
  onFanout mapping.fanout (fanout.selectMux mapping.slot)
  onOverlord (f.overlord.switchSfp broadcastAddress false)
  settle "SFP switch-off" f.overlord.delays.sfpSettle
  onOverlord (f.overlord.switchSfp address true)
  settle "SFP switch-on" f.overlord.delays.sfpSettle
  let measured ← (f.lockAndEcho mapping.fanout fanout).attempt
  let switched ← (onOverlord (f.overlord.switchSfp address false)).attempt
  match measured, switched with
  | .ok echo, .ok () => return echo
  | .ok _, .error e => .fail e
  | .error e, .ok () => .fail e
  | .error e, .error s =>
    log .warn ("Could not switch endpoint " ++ Numeral.hex address.toNat ++ " SFP off: " ++ s.message)
    .fail e

/-- Measures the round trip to the endpoint at `address`.  Arguments are checked before any board is
touched. -/
def measureDelay (f : Fleet) (address : UInt32) (slot : Option UInt32) :
    Procedure Seat DelayMeasurement := do
  if isEndpointAddress address then
    let mapping ← f.locate address slot
    match f.fanouts[mapping.fanout]? with
    | none => .fail (fanoutError mapping.fanout)
    | some fanout =>
      let echo ← f.measureThrough address mapping fanout
      let m : DelayMeasurement := ⟨address, mapping.fanout, mapping.slot, echo⟩
      log .info ("Measured RTT delay " ++ Numeral.decimal m.delay.toNat ++ " (transmission " ++
        Numeral.hex echo.sent.toNat ++ ", reception " ++ Numeral.hex echo.received.toNat ++ ")")
      return m
  else
    .fail (.invalidArgument ("endpoint address " ++ Numeral.hex address.toNat ++ " out of range " ++
      Numeral.hex minAddress.toNat ++ "-" ++ Numeral.hex maxAddress.toNat))

end Fleet

end TimingFleet

import TimingFleet.Session.Basic

/-!
# Transports

A transport opens sessions to the devices whose addresses have its scheme.  The simulated transport is
always there.  Its addresses name a kind of device and parameters: `sim://overlord?rtt=420`.
-/

namespace TimingFleet

open Text

/-- A way to reach devices. -/
structure Transport where
  scheme : String
  /-- Opens a session to the device with an id and an address. -/
  connect : (id uri : String) → Outcome Unit Session

/-- The scheme of an address, if it has one. -/
def uriScheme? (uri : String) : Option String :=
  (splitOnce [':', '/', '/'] uri.toList).map fun (scheme, _) => String.ofList scheme

/-- The kind of a simulated device and its parameters. -/
structure SimulatedAddress where
  kind : String
  parameters : NameTable String

namespace SimulatedAddress

/-- The parameters of a query.  Pieces without an equals sign are ignored, and of pieces with the same
key the last one counts. -/
def parametersOf (query : List Char) : NameTable String :=
  (split '&' query).foldl (fun table piece =>
    match splitOnce ['='] piece with
    | some (key, value) => table.insert (String.ofList key) (String.ofList value)
    | none => table) ∅

/-- The parts of an address with the simulated scheme. -/
def ofUri? (uri : String) : Option SimulatedAddress :=
  (afterLead ['s', 'i', 'm', ':', '/', '/'] uri.toList).map fun rest =>
    let (kind, query) := (splitOnce ['?'] rest).getD (rest, [])
    ⟨String.ofList kind, parametersOf query⟩

/-- Reads a list of ids. -/
def ids (list : String) : Except Error (List UInt32) :=
  (EndpointIds.parse list).mapError .idList

/-- The device at an address, with the log lines of its making. -/
def device (a : SimulatedAddress) (id uri : String) : Except Error (Device × List Event) :=
  if a.kind = "endpoint" then do
    let endpoints ← ids (a.parameters["ids"]?.getD "0")
    return (.endpoint id endpoints, Device.endpointEvents id endpoints)
  else if a.kind = "overlord" then
    match a.parameters["rtt"]? with
    | none => .ok (.overlord id, [])
    | some rtt =>
      match Numeral.readWord 10 rtt.toList with
      | .ok ticks => .ok ((Device.overlord id).withRoundTrip ticks, [])
      | .error _ => .error (.invalidArgument (uri ++ ": rtt must be an integer"))
  else if a.kind = "fanout" then
    match a.parameters["live"]? with
    | none => .ok (.fanout id, [])
    | some live => do
      let slots ← ids live
      return ((Device.fanout id).withLiveSlots slots, [])
  else .error (.invalidArgument (uri ++ ": unknown simulated board '" ++ a.kind ++ "'"))

end SimulatedAddress

/-- The transport to simulated devices. -/
def Transport.simulated : Transport where
  scheme := "sim"
  connect id uri :=
    match SimulatedAddress.ofUri? uri with
    | none => .error (.unsupportedTransport uri) ()
    | some address =>
      match address.device id uri with
      | .error e => .error e ()
      | .ok (device, events) =>
        ⟨.ok (.ofDevice device), (),
          events ++ [.log .info ("Opened simulated " ++ address.kind ++ " board " ++ id)]⟩

end TimingFleet

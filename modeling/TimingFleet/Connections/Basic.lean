import TimingFleet.Connections.File
import TimingFleet.Connections.Transport

/-!
# Connections

What is known after a connections file has been read: devices, groups, the address map, the transports
by which devices are reached, and the timeout for sessions opened from now on.  Main operations:
`ofText` and `load` read a file, `connect` opens a session to one device, and `openFleet` opens all
boards of a group.
-/

namespace TimingFleet

open Text

/-- The devices, groups and transports of an installation. -/
structure Connections where
  /-- The path of the file. -/
  source : String
  /-- From device ids to addresses. -/
  devices : NameTable String
  groups : NameTable GroupSpec
  addressMap : AddressMap
  /-- In the order in which they are tried. -/
  transports : List Transport := [.simulated]
  /-- Given to every session opened from now on. -/
  timeout : Option Duration := none

namespace AddressEntry

/-- What is wrong with an entry; the address is looked at first. -/
def fault? (e : AddressEntry) : Option String :=
  if !isEndpointAddress e.address then
    some ("address " ++ Numeral.hex e.address.toNat ++ " out of range")
  else if fanoutSlots ≤ e.slot then
    some ("slot " ++ Numeral.decimal e.slot.toNat ++ " for address " ++ Numeral.hex e.address.toNat ++
      " out of range")
  else none

/-- The map of a list of entries; of entries for the same address the last one counts. -/
def toMap (entries : List AddressEntry) : AddressMap :=
  entries.foldl (fun map e => map.insert e.address ⟨e.fanout, e.slot⟩) ∅

end AddressEntry

namespace Connections

/-! ## Reading a file -/

/-- The connections in a file; the first entry of the address map that is out of range refuses it. -/
def ofFile (source : String) (file : ConnectionsFile) : Outcome Unit Connections :=
  match file.addressMap.findSome? AddressEntry.fault? with
  | some reason => .error (.config source reason) ()
  | none =>
    let connections : Connections :=
      { source, devices := file.devices, groups := file.groups,
        addressMap := AddressEntry.toMap file.addressMap }
    ⟨.ok connections, (),
      [.log .info ("Loaded " ++ Numeral.decimal file.devices.size ++ " device(s) from " ++ source)]⟩

/-- How the reason begins when a text is no connections file at all. -/
def malformed : String := "TOML parse error"

/-- The connections in a text, by a reader of connections files. -/
def ofTextBy (reader : String → Option ConnectionsFile) (source text : String) : Outcome Unit Connections :=
  match reader text with
  | some file => ofFile source file
  | none => .error (.config source malformed) ()

/-- The connections in a text. -/
def ofText (source text : String) : Outcome Unit Connections := ofTextBy ConnectionsFile.ofText source text

/-- The text in a file's bytes. -/
def decode (contents : ByteArray) : Except FileFault String :=
  match String.fromUTF8? contents with
  | some text => .ok text
  | none => .error .notUtf8

/-- The connections in a file, given what reading the file led to. -/
def load (path : String) (contents : Except FileFault ByteArray) : Outcome Unit Connections :=
  let read : Outcome Unit Connections :=
    match contents.bind decode with
    | .ok text => ofText path text
    | .error fault => .error (.file fault) ()
  read.after [.log .debug ("Loading connections from " ++ path)]

/-- The last part of the file's path, if that is a name. -/
def sourceName (c : Connections) : Option String :=
  let parts := (split '/' c.source.toList).filter fun part => part ≠ [] && part ≠ ['.']
  (parts.getLast?.filter (· ≠ ['.', '.'])).map String.ofList

/-! ## Opening devices -/

/-- Adds a transport, which is tried after those that are there. -/
def register (c : Connections) (t : Transport) : Connections :=
  { c with transports := c.transports ++ [t] }

/-- The log lines of adding a transport. -/
def registerEvents (t : Transport) : List Event :=
  [.log .debug ("Registered transport for " ++ t.scheme ++ "://")]

/-- Sets the timeout for sessions opened from now on. -/
def setTimeout (c : Connections) (timeout : Duration) : Connections := { c with timeout := some timeout }

/-- The address of a device. -/
def uri (c : Connections) (id : String) : Except Error String :=
  match c.devices[id]? with
  | some uri => .ok uri
  | none => .error (.unknownDevice id)

/-- The transport that serves an address. -/
def transport? (c : Connections) (uri : String) : Option Transport :=
  (uriScheme? uri).bind fun scheme => c.transports.find? fun t => t.scheme == scheme

/-- Gives a new session the timeout. -/
def applyTimeout (c : Connections) (session : Session) : Outcome Unit Session :=
  match c.timeout with
  | none => .ok session ()
  | some timeout =>
    let o := session.setTimeout timeout
    ⟨.ok o.state, (), o.events⟩

/-- Opens a session to a device. -/
def connect (c : Connections) (id : String) : Outcome Unit Session :=
  match c.uri id with
  | .error e => .error e ()
  | .ok uri =>
    match c.transport? uri with
    | none => .error (.unsupportedTransport uri) ()
    | some transport =>
      (transport.connect id uri).andThen fun session _ =>
        (c.applyTimeout session).andThen fun session _ =>
          ⟨.ok session, (), [.log .info ("Opened device " ++ id ++ " (" ++ uri ++ ")")]⟩

/-! ## Opening fleets -/

/-- The boards of a group. -/
def group (c : Connections) (name : String) : Except Error GroupSpec :=
  match c.groups[name]? <|> GroupSpec.builtin? name with
  | some spec => .ok spec
  | none => .error (.invalidArgument ("unknown group '" ++ name ++ "'"))

/-- Opens devices in order, up to the first that fails; the state holds the sessions opened so far. -/
def connectAll (c : Connections) : List String → Outcome (List Session) (List Session)
  | [] => .ok [] []
  | id :: rest =>
    ((c.connect id).inState fun _ => []).andThen fun session _ =>
      ((connectAll c rest).inState (session :: ·)).andThen fun more opened =>
        .ok (session :: more) opened

/-- The fleet of an overlord and its fanouts in the order of their numbers. -/
def assemble (c : Connections) (delays : Delays) (overlord : Session) (fanouts : List Session) :
    Fleet × FleetSessions :=
  let numbered := fanouts.mapIdx fun n session => (UInt32.ofNat n, session)
  let boards := numbered.map fun (n, session) => (n, ⟨session.name, .fanout, delays⟩)
  (⟨⟨overlord.name, .overlord, delays⟩, Std.ExtTreeMap.ofList boards compare, c.addressMap⟩,
    ⟨overlord, Std.ExtTreeMap.ofList numbered compare⟩)

/-- Opens the overlord of a group and then its fanouts, numbered from 0.  The state holds the sessions
that were opened, also when one could not be. -/
def openFleet (c : Connections) (name : String) (delays : Delays) :
    Outcome (List Session) (Fleet × FleetSessions) :=
  match c.group name with
  | .error e => .error e []
  | .ok spec =>
    ((c.connect spec.overlord).inState fun _ => []).andThen fun overlord _ =>
      ((c.connectAll spec.fanouts).inState (overlord :: ·)).andThen fun fanouts opened =>
        .ok (c.assemble delays overlord fanouts) opened

end Connections

end TimingFleet

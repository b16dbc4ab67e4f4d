import TimingFleet.Proofs.Connections.OpenFleet
import TimingFleet.Proofs.Text.Pieces

/-!
# Runs of calls on connections

Once a connections file has been read, transports are added, the timeout is set and devices are opened, in any order
and any number of times.

* `Call`, `Desk.run`: the calls, and what they lead to from connections that nobody has called before.
* `ServedBy transports uri t`, `Unserved transports uri`: which of some transports, tried in order, an address is
  opened by.
* `Opening devices transports timeout id r`: with these devices, transports and timeout, opening `id` has the result
  `r`.

A call changes of the connections just what it is meant to change (`Desk.After.call`), so the result of each opening
can be told from the calls before it (`Connections.opened_in_run`).
-/

namespace TimingFleet

open Text

/-! ## Transports -/

/-- The address names the scheme of the transport, and no transport before it has that scheme. -/
structure ServedBy (transports : List Transport) (uri : String) (t : Transport) : Prop where
  scheme : ∃ address, FirstMark [':', '/', '/'] uri.toList t.scheme.toList address
  earliest : ∃ before after, transports = before ++ t :: after ∧ ∀ other ∈ before, other.scheme ≠ t.scheme

/-- The address names no scheme, or one that no transport has. -/
inductive Unserved (transports : List Transport) (uri : String) : Prop where
  | noScheme (h : ∀ scheme address, uri.toList ≠ scheme ++ [':', '/', '/'] ++ address)
  | noTransport {scheme address : List Char} (hscheme : FirstMark [':', '/', '/'] uri.toList scheme address)
      (h : ∀ t ∈ transports, t.scheme.toList ≠ scheme)

theorem uriScheme?_eq_some_iff {uri scheme : String} :
    uriScheme? uri = some scheme ↔ ∃ address, FirstMark [':', '/', '/'] uri.toList scheme.toList address := by
  have hcut : ∀ before after, splitOnce [':', '/', '/'] uri.toList = some (before, after) ↔
      FirstMark [':', '/', '/'] uri.toList before after := fun _ _ => splitOnce_eq_some_iff (by decide)
  simp only [uriScheme?, Option.map_eq_some_iff, Prod.exists, hcut]
  constructor
  · rintro ⟨before, after, h, rfl⟩
    exact ⟨after, by rwa [String.toList_ofList]⟩
  · rintro ⟨after, h⟩
    exact ⟨scheme.toList, after, h, String.ofList_toList⟩

theorem uriScheme?_eq_none_iff {uri : String} :
    uriScheme? uri = none ↔ ∀ scheme address, uri.toList ≠ scheme ++ [':', '/', '/'] ++ address := by
  rw [uriScheme?, Option.map_eq_none_iff]
  exact splitOnce_eq_none_iff (by decide)

namespace Connections

variable {c : Connections} {uri : String} {t : Transport}

theorem transport?_eq_some_iff : c.transport? uri = some t ↔ ServedBy c.transports uri t := by
  have hfind : ∀ scheme : String, c.transports.find? (fun t => t.scheme == scheme) = some t ↔
      t.scheme = scheme ∧ ∃ before after, c.transports = before ++ t :: after ∧
        ∀ other ∈ before, other.scheme ≠ scheme := by
    intro scheme
    simp [List.find?_eq_some_iff_append]
  simp only [transport?, Option.bind_eq_some_iff, hfind]
  constructor
  · rintro ⟨scheme, hscheme, rfl, hearliest⟩
    exact ⟨uriScheme?_eq_some_iff.mp hscheme, hearliest⟩
  · rintro ⟨hscheme, hearliest⟩
    exact ⟨t.scheme, uriScheme?_eq_some_iff.mpr hscheme, rfl, hearliest⟩

theorem transport?_eq_none_iff : c.transport? uri = none ↔ Unserved c.transports uri := by
  unfold transport?
  constructor
  · intro h
    cases hscheme : uriScheme? uri with
    | none => exact .noScheme (uriScheme?_eq_none_iff.mp hscheme)
    | some scheme =>
      rw [hscheme, Option.bind_some, List.find?_eq_none] at h
      obtain ⟨address, hmark⟩ := uriScheme?_eq_some_iff.mp hscheme
      refine .noTransport hmark fun t ht heq => h t ht ?_
      exact beq_iff_eq.mpr (String.toList_inj.mp heq)
  · intro h
    cases h with
    | noScheme h => rw [uriScheme?_eq_none_iff.mpr h, Option.bind_none]
    | @noTransport scheme address hmark h =>
      rw [← String.toList_ofList (l := scheme)] at hmark
      rw [uriScheme?_eq_some_iff.mpr ⟨address, hmark⟩, Option.bind_some, List.find?_eq_none]
      intro t ht heq
      exact h t ht (by rw [beq_iff_eq.mp heq, String.toList_ofList])

end Connections

/-! ## One opening -/

/-- The session when it has been given a timeout, if there is one to give. -/
def Session.receive (s : Session) : Option Duration → Session
  | none => s
  | some timeout => (s.setTimeout timeout).state

/-- What comes of opening a device: an error of the connections, or what the transport makes of it. -/
inductive Opening (devices : NameTable String) (transports : List Transport) (timeout : Option Duration)
    (id : String) : Except Error Session → Prop where
  | unknown (h : devices[id]? = none) : Opening devices transports timeout id (.error (.unknownDevice id))
  | unsupported {uri : String} (h : devices[id]? = some uri) (hu : Unserved transports uri) :
      Opening devices transports timeout id (.error (.unsupportedTransport uri))
  | failed {uri : String} {t : Transport} {e : Error} (h : devices[id]? = some uri) (ht : ServedBy transports uri t)
      (he : (t.connect id uri).result = .error e) : Opening devices transports timeout id (.error e)
  | opened {uri : String} {t : Transport} {s : Session} (h : devices[id]? = some uri) (ht : ServedBy transports uri t)
      (hs : (t.connect id uri).result = .ok s) : Opening devices transports timeout id (.ok (s.receive timeout))

namespace Connections

variable {c : Connections} {id : String} {r : Except Error Session}

theorem applyTimeout_eq (c : Connections) (s : Session) :
    (c.applyTimeout s).result = .ok (s.receive c.timeout) := by
  unfold applyTimeout Session.receive
  cases c.timeout <;> rfl

theorem connect_of_opening (h : Opening c.devices c.transports c.timeout id r) : (c.connect id).result = r := by
  unfold connect uri
  cases h with
  | unknown h => rw [h]; rfl
  | unsupported h hu =>
    rw [h]
    dsimp only
    rw [transport?_eq_none_iff.mpr hu]
    rfl
  | failed h ht he =>
    rw [h]
    dsimp only
    rw [transport?_eq_some_iff.mpr ht]
    dsimp only
    rw [Outcome.andThen_of_error he]
  | opened h ht hs =>
    rw [h]
    dsimp only
    rw [transport?_eq_some_iff.mpr ht]
    dsimp only
    rw [Outcome.andThen_of_ok hs, Outcome.result_after, Outcome.andThen_of_ok (c.applyTimeout_eq _),
      Outcome.result_after]

theorem exists_opening (c : Connections) (id : String) : ∃ r, Opening c.devices c.transports c.timeout id r := by
  cases huri : c.devices[id]? with
  | none => exact ⟨_, .unknown huri⟩
  | some uri =>
    cases htransport : c.transport? uri with
    | none => exact ⟨_, .unsupported huri (transport?_eq_none_iff.mp htransport)⟩
    | some t =>
      have ht := transport?_eq_some_iff.mp htransport
      cases hs : (t.connect id uri).result with
      | error e => exact ⟨_, .failed huri ht hs⟩
      | ok s => exact ⟨_, .opened huri ht hs⟩

/-- **One opening** has the result that devices, transports and timeout give it, and no other. -/
theorem opening_iff : Opening c.devices c.transports c.timeout id r ↔ r = (c.connect id).result := by
  refine ⟨fun h => (connect_of_opening h).symm, ?_⟩
  rintro rfl
  obtain ⟨r, h⟩ := c.exists_opening id
  exact (connect_of_opening h).symm ▸ h

end Connections

/-! ## Runs -/

/-- A call on connections. -/
inductive Call where
  | register (t : Transport)
  | setTimeout (timeout : Duration)
  | connect (id : String)

namespace Call

/-- The transport that is added. -/
def transport? : Call → Option Transport
  | .register t => some t
  | _ => none

/-- The timeout that is set. -/
def timeout? : Call → Option Duration
  | .setTimeout timeout => some timeout
  | _ => none

/-- The call opens a device. -/
def opens : Call → Bool
  | .connect _ => true
  | _ => false

/-- The transports after some calls, in the order in which they are tried. -/
def transports (calls : List Call) : List Transport := .simulated :: calls.filterMap transport?

/-- The timeout after some calls. -/
def timeout (calls : List Call) : Option Duration := (calls.filterMap timeout?).getLast?

theorem transports_concat (calls : List Call) (c : Call) :
    transports (calls ++ [c]) = transports calls ++ c.transport?.toList := by
  cases c <;> simp [transports, transport?]

theorem timeout_concat (calls : List Call) (c : Call) : timeout (calls ++ [c]) = c.timeout?.or (timeout calls) := by
  cases c <;> simp [timeout, timeout?]

end Call

/-- Connections in use, with what has come of opening devices so far. -/
structure Desk where
  connections : Connections
  results : List (Except Error Session) := []

namespace Desk

variable {d : Desk} {devices : NameTable String} {calls : List Call}

/-- One call. -/
def call (d : Desk) : Call → Desk
  | .register t => { d with connections := d.connections.register t }
  | .setTimeout timeout => { d with connections := d.connections.setTimeout timeout }
  | .connect id => { d with results := d.results ++ [(d.connections.connect id).result] }

/-- Calls in order. -/
def run (d : Desk) (calls : List Call) : Desk := calls.foldl call d

theorem run_append (d : Desk) (calls more : List Call) : d.run (calls ++ more) = (d.run calls).run more :=
  List.foldl_append

/-- The connections are as the calls have left them, and each opening has a result. -/
structure After (devices : NameTable String) (calls : List Call) (d : Desk) : Prop where
  devices : d.connections.devices = devices
  transports : d.connections.transports = Call.transports calls
  timeout : d.connections.timeout = Call.timeout calls
  results : d.results.length = calls.countP Call.opens

/-- **One call** changes the transports, the timeout or the results. -/
theorem After.call (h : d.After devices calls) (c : Call) : (d.call c).After devices (calls ++ [c]) := by
  refine ⟨?_, ?_, ?_, ?_⟩
  · rw [← h.devices]
    cases c <;> rfl
  · rw [Call.transports_concat, ← h.transports]
    cases c with
    | register t => rfl
    | _ => exact (List.append_nil _).symm
  · rw [Call.timeout_concat, ← h.timeout]
    cases c <;> rfl
  · rw [List.countP_append, ← h.results]
    cases c with
    | connect id => exact List.length_append
    | _ => rfl

/-- **Runs** leave the connections as their calls say. -/
theorem After.run (h : d.After devices calls) (more : List Call) : (d.run more).After devices (calls ++ more) := by
  induction more generalizing d calls with
  | nil => rwa [List.append_nil]
  | cons c more ih =>
    rw [List.append_cons]
    exact ih (h.call c)

/-- No call changes the result of an earlier one. -/
theorem results_kept_call (d : Desk) (c : Call) : d.results <+: (d.call c).results := by
  cases c with
  | connect id => exact List.prefix_append _ _
  | _ => exact List.prefix_refl _

theorem results_kept (d : Desk) (calls : List Call) : d.results <+: (d.run calls).results := by
  induction calls generalizing d with
  | nil => exact List.prefix_refl _
  | cons c calls ih => exact (d.results_kept_call c).trans (ih (d.call c))

/-- What an opening in a run comes to, whatever calls follow. -/
theorem getElem?_results (h : d.After devices calls) (id : String) (later : List Call) :
    (d.run (.connect id :: later)).results[calls.countP Call.opens]? = some (d.connections.connect id).result := by
  obtain ⟨rest, hrest⟩ := (d.call (.connect id)).results_kept later
  show ((d.call (.connect id)).run later).results[_]? = _
  rw [← hrest, ← h.results]
  simp [Desk.call]

end Desk

namespace Connections

variable {source text : String} {c : Connections}

/-- Connections that have just been read have the devices of the file, the simulated transport and no timeout. -/
theorem after_of_ofFile {file : ConnectionsFile} (h : (ofFile source file).result = .ok c) :
    Desk.After file.devices [] ⟨c, []⟩ := by
  unfold ofFile at h
  split at h
  · cases h
  · cases h
    exact ⟨rfl, rfl, rfl, rfl⟩

/-- **Devices are opened in runs of calls** as the calls before say.  After any calls on the connections of a file that has
been accepted, whatever reader of such files is used, opening a device has the result that its address in the file, the transports added so far behind the simulated one
and the timeout that was set last give it, and no calls that follow change it. -/
theorem opened_in_run (reader : String → Option ConnectionsFile) (h : (ofTextBy reader source text).result = .ok c) :
    ∃ file, reader text = some file ∧ ∀ before id after,
      ∃ r, (Desk.run ⟨c, []⟩ (before ++ .connect id :: after)).results[before.countP Call.opens]? = some r ∧
        ∀ r', Opening file.devices (Call.transports before) (Call.timeout before) id r' ↔ r' = r := by
  unfold ofTextBy at h
  split at h
  · next file hfile =>
    refine ⟨file, hfile, fun before id after => ?_⟩
    have hafter : (Desk.run ⟨c, []⟩ before).After file.devices before := (after_of_ofFile h).run before
    refine ⟨_, by rw [Desk.run_append, Desk.getElem?_results hafter], fun r' => ?_⟩
    rw [← hafter.devices, ← hafter.transports, ← hafter.timeout]
    exact opening_iff
  · cases h

/-- A transport for the scheme of the simulated one, behind which it is never asked. -/
def shadowed : Transport := ⟨"sim", fun _ uri => .error (.unsupportedTransport uri) ()⟩

/-- An overlord that is opened by the simulated transport with the second of three timeouts. -/
theorem opened_in_run_labFile : ∃ c, (ofText "lab.toml" labFile).result = .ok c ∧
    (Desk.run ⟨c, []⟩ ([.setTimeout ⟨100⟩, .register shadowed, .setTimeout ⟨250⟩] ++
      .connect "OVLD" :: [.setTimeout ⟨1⟩])).results[0]? =
        some (.ok { Session.ofDevice (.overlord "OVLD") with timeout := some ⟨250⟩ }) := by
  have heval : (ConnectionsFile.ofText labFile).map (fun file =>
      (file.devices["OVLD"]?, (ofFile "lab.toml" file).result.isOk)) = some (some "sim://overlord", true) := by
    decide +kernel
  obtain ⟨file, hfile, hfound⟩ := Option.map_eq_some_iff.mp heval
  obtain ⟨hdevice, hok⟩ := Prod.mk.inj hfound
  have hread : ofText "lab.toml" labFile = ofFile "lab.toml" file := ofTextBy_eq hfile
  rw [← hread] at hok
  obtain ⟨c, hc⟩ := Outcome.exists_of_isOk hok
  obtain ⟨file', hfile', hrun⟩ := opened_in_run ConnectionsFile.ofText hc
  obtain rfl : file = file' := Option.some.inj (hfile.symm.trans hfile')
  obtain ⟨r, hr, hopening⟩ := hrun [.setTimeout ⟨100⟩, .register shadowed, .setTimeout ⟨250⟩] "OVLD" [.setTimeout ⟨1⟩]
  have hserved : ServedBy [.simulated, shadowed] "sim://overlord" .simulated :=
    ⟨⟨"overlord".toList, (splitOnce_eq_some_iff (by decide)).mp (by decide)⟩, [], [shadowed], rfl,
      fun _ h => absurd h List.not_mem_nil⟩
  exact ⟨c, hc, hr.trans (congrArg some ((hopening _).mp (.opened hdevice hserved rfl)).symm)⟩

end Connections

end TimingFleet

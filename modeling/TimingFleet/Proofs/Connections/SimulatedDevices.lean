import TimingFleet.Proofs.Connections.SimulatedAddress
import TimingFleet.Proofs.Fleet.Measurement
import TimingFleet.Proofs.Session.AddressTable

/-!
# Simulated devices

What a session to a simulated device shows of the address under which it was opened, now and whatever has been asked
of it since.

- `Session.HasEndpoints ids`: these are the endpoints there are.
- `Session.EchoesTake ticks`: so long an echo is under way, and one comes back when a transmitter is on and the uplink
  is locked.
- `Session.LocksOn slots`: on these slots the uplink becomes ready, and on any other it waits for a lock.

`Transport.connect_simulated` puts this together with the grammar of addresses.
-/

namespace TimingFleet

open Procedure

namespace Session

variable {s : Session} {b : Board} {now : UInt64} {slot : UInt32}

/-! ## Endpoints -/

/-- Whatever is asked of the session, these are the endpoints there are. -/
def HasEndpoints (s : Session) (ids : List UInt32) : Prop :=
  ∀ calls n, (s.follow calls).hasNode (EndpointNode.base n) = true ↔ n ∈ ids

theorem hasEndpoints_endpoint (id : String) (ids : List UInt32) :
    (ofDevice (Device.endpoint id ids)).HasEndpoints ids := by
  intro calls n
  have hfresh : (ofDevice (Device.endpoint id ids)).Fresh := ⟨rfl, rfl⟩
  have hsame := hfresh.orderly.sameNodes_follow (Device.closed_endpoint id ids) calls
  exact ((Device.laid_endpoint id ids).sameNodes hsame).hasNode_base

/-! ## Echoes -/

/-- The echoes of the overlord take so many ticks, whenever one is sent while nothing waits; and one comes back when a
transmitter has been switched on and the uplink has been enabled. -/
structure EchoesTake (s : Session) (ticks : UInt32) : Prop where
  delay : ∀ calls, (s.follow calls).batch = #[] → ∀ (b : Board) (now : UInt64) (echo : Echo), b.role = .overlord →
    (b.measureEcho.run now (s.follow calls)).result = .ok echo → echo.delay = ticks.toUInt64
  comesBack : ∀ calls, (s.follow calls).batch = #[] → ∀ (b : Board) (now : UInt64) (address : UInt32),
    b.role = .overlord → address ≤ maxAddress → ∃ echo,
      ((b.switchSfp address true >>= fun _ => b.enableUplink >>= fun _ => b.measureEcho).run now
        (s.follow calls)).result = .ok echo

/-- An echo that came back was sent by a ready overlord, and took its round trip. -/
theorem delay_measureEcho (hb : b.role = .overlord) (hs : s.Idle .overlord) {echo : Echo}
    (h : (b.measureEcho.run now s).result = .ok echo) : echo.delay = s.device.roundTrip.toUInt64 := by
  obtain ⟨-, hdev, hdone, hecho⟩ := (runs_iff.mp (Board.runs_measureEcho hb hs)).1 echo h
  by_cases hready : s.device.word? BoardRole.overlord.state = some EndpointState.ready.code
  · rw [hecho, hdev, (Device.shownEcho_writeWord_echoGo hs.plays.kind hready).2]
    exact Echo.delay_eq_iff.mpr (UInt64.toNat_add _ _)
  · rw [hdev, Device.word?_echoDone_of_not_ready hs.plays.kind hready] at hdone
    exact absurd rfl hdone

/-- With a transmitter on and the uplink enabled, an echo comes back. -/
theorem exists_echo (hb : b.role = .overlord) (hs : s.Idle .overlord) (hd : s.device.failure = none)
    {address : UInt32} (ha : address ≤ maxAddress) :
    ∃ echo, ((b.switchSfp address true >>= fun _ => b.enableUplink >>= fun _ => b.measureEcho).run now s).result =
      .ok echo := by
  have hruns : Runs now (b.switchSfp address true >>= fun _ => b.enableUplink >>= fun _ => b.measureEcho) s
      (fun _ _ _ => True) fun _ _ _ => False := by
    refine runs_bind ((Board.runs_switchSfp hb hs ha).mono ?_ fun _ _ _ h => h.2.1 hd)
    rintro - t - ⟨ht, hdev, -⟩
    have hfault : t.device.failure = none := by
      rw [hdev, (Device.evolves_writeBlock _ _ _).failure, hd]
    have hon : t.device.enabledSfps.isEmpty = false := by
      rw [hdev, Device.enabledSfps_switchSfp _ hs.plays.kind, Device.applyPacket_on]
      exact Std.ExtTreeSet.isEmpty_eq_false_iff.mpr Std.ExtTreeSet.insert_ne_empty
    have hlinked : t.device.linked .overlord = .ready := if_neg (by rw [hon]; decide)
    refine runs_bind ((Board.runs_enableUplink hb ht).mono ?_ ?_)
    · rintro - u - ⟨hu, hdev', -⟩
      have hready : u.device.word? BoardRole.overlord.state = some EndpointState.ready.code := by
        rw [hdev', Device.word?_state_restartUplink ht.plays.kind, hlinked]
      refine (Fleet.runs_measureEcho_of_ready hb hu hready).mono (fun _ _ _ _ => trivial) fun _ _ _ h => h.2 ?_
      rw [hdev', (Device.evolves_restartUplink _ _).failure, hfault]
    · rintro e u - ⟨-, hfail | ⟨-, hnot, -⟩⟩
      · exact hfail hfault
      · exact hnot hlinked
  cases hres : ((b.switchSfp address true >>= fun _ => b.enableUplink >>= fun _ => b.measureEcho).run now s).result with
  | ok echo => exact ⟨echo, rfl⟩
  | error e => exact ((runs_iff.mp hruns).2 e hres).elim

theorem echoesTake_overlord (id : String) (ticks : UInt32) :
    (ofDevice ((Device.overlord id).withRoundTrip ticks)).EchoesTake ticks := by
  have hplays : ((Device.overlord id).withRoundTrip ticks).Plays .overlord :=
    (Device.Plays.overlord id).extends_of rfl (.refl _)
  have hev := evolves_follow (ofDevice ((Device.overlord id).withRoundTrip ticks))
  refine ⟨fun calls hbatch b now echo hb h => ?_, fun calls hbatch b now address hb ha => ?_⟩
  · rw [delay_measureEcho hb ⟨hplays.evolves (hev calls), hbatch⟩ h, (hev calls).roundTrip]
    rfl
  · exact exists_echo hb ⟨hplays.evolves (hev calls), hbatch⟩ (hev calls).failure ha

/-! ## Locks -/

/-- When the mux has been put on a slot, the uplink of the fanout becomes ready if the slot is one of these, and waits
for a lock if not. -/
def LocksOn (s : Session) (slots : List UInt32) : Prop :=
  ∀ calls slot (b : Board) (now : UInt64), b.role = .fanout →
    (b.lockUplink.run now (s.follow (calls ++ [.write FanoutNode.mux slot, .dispatch]))).result =
      .ok (if slot ∈ slots then EndpointState.ready.code else EndpointState.waitingCdrLock.code)

/-- A dispatch on a fanout without faults leaves the mux as it was written last. -/
theorem onLiveSlot_follow (hs : s.device.Plays .fanout) (hd : s.device.failure = none)
    (hq : ∀ path, s.device.registers.fifos.contains path = false) :
    (s.follow [.write FanoutNode.mux slot, .dispatch]).device.onLiveSlot = s.device.liveSlots.contains slot := by
  have hmux : s.device.registers.words.contains FanoutNode.mux = true := hs.word (by decide)
  have hfollow : s.follow [.write FanoutNode.mux slot, .dispatch] =
      (s.enqueue (.write FanoutNode.mux slot)).dispatch.state := by
    simp [follow, answer, write, hmux, Outcome.ok]
  have hserved := Bench.serveAll_of_suffices (b := (s.enqueue (.write FanoutNode.mux slot)).bench)
    (Device.suffices_of_no_queue hq (s.enqueue (.write FanoutNode.mux slot)).batch.toList)
  have hdispatch := dispatch_of_no_refusal (s := s.enqueue (.write FanoutNode.mux slot))
    (refusal_of_failure_eq_none hd _)
  rw [hfollow, hdispatch.2]
  show (Bench.serveAll _ _).state.device.onLiveSlot = _
  have hwaiting := Bench.serveAll_of_suffices (b := s.bench) (Device.suffices_of_no_queue hq s.batch.toList)
  have hev : s.device.Evolves (s.batch.toList.foldl Device.after s.device) :=
    hwaiting.2 ▸ s.bench.evolves_serveAll s.batch.toList
  rw [hserved.2, toList_batch_enqueue, List.foldl_append]
  show ((s.batch.toList.foldl Device.after s.device).writeWord FanoutNode.mux slot).onLiveSlot = _
  rw [Device.onLiveSlot_writeWord_mux, hev.liveSlots]

/-- The uplink of an idle fanout without faults is ready if its mux is on a live slot. -/
theorem lockUplink_fanout (hb : b.role = .fanout) (hs : s.Idle .fanout) (hd : s.device.failure = none) :
    (b.lockUplink.run now s).result =
      .ok (if s.device.onLiveSlot then EndpointState.ready.code else EndpointState.waitingCdrLock.code) := by
  have hruns : Runs now b.lockUplink s _ _ := Board.runs_lockUplink hb hs
  obtain ⟨hok, herr⟩ := runs_iff.mp hruns
  cases hres : (b.lockUplink.run now s).result with
  | error e => exact absurd hd (herr e hres).2.1
  | ok code =>
    obtain ⟨-, hdev, hcode⟩ := hok code hres
    rw [hcode, hdev, Device.word?_state_restartUplink hs.plays.kind, Option.getD_some, Device.linked]
    split_ifs <;> rfl

theorem locksOn_fanout (id : String) (slots : List UInt32) :
    (ofDevice ((Device.fanout id).withLiveSlots slots)).LocksOn slots := by
  intro calls slot b now hb
  -- the fanout before its link flags are brought up to date
  let lit : Device := { Device.fanout id with liveSlots := Std.ExtTreeSet.ofList slots compare }
  have hlit : lit.Plays .fanout := (Device.Plays.fanout id).extends_of rfl (.refl _)
  have hbefore : lit.Evolves ((ofDevice lit.updateLinkFlags).follow calls).device :=
    lit.evolves_updateLinkFlags.trans (evolves_follow (ofDevice lit.updateLinkFlags) calls)
  have hq : ∀ path, lit.registers.fifos.contains path = false := fun _ => rfl
  show (b.lockUplink.run now ((ofDevice lit.updateLinkFlags).follow _)).result = _
  rw [follow_append]
  generalize (ofDevice lit.updateLinkFlags).follow calls = t at hbefore
  have hev : lit.Evolves (t.follow [.write FanoutNode.mux slot, .dispatch]).device :=
    hbefore.trans (evolves_follow t _)
  have hidle : (t.follow [.write FanoutNode.mux slot, .dispatch]).Idle .fanout :=
    ⟨hlit.evolves hev, (t.answer (.write FanoutNode.mux slot)).state.batch_dispatch⟩
  have hlive : (t.follow [.write FanoutNode.mux slot, .dispatch]).device.onLiveSlot =
      t.device.liveSlots.contains slot :=
    onLiveSlot_follow (hlit.evolves hbefore) hbefore.failure fun path => (hbefore.registers.fifos path).trans (hq path)
  rw [lockUplink_fanout hb hidle hev.failure, hlive, hbefore.liveSlots, Std.ExtTreeSet.contains_ofList]
  simp

/-! ## The device that was asked for -/

/-- The session shows the device that was asked for. -/
def Offers (s : Session) : SimulatedAddress.Wanted → Prop
  | .endpoints ids => s.HasEndpoints ids
  | .overlord ticks => s.EchoesTake ticks
  | .fanout slots => s.LocksOn slots

theorem offers_device (id : String) (wanted : SimulatedAddress.Wanted) :
    (ofDevice (wanted.device id)).Offers wanted := by
  cases wanted with
  | endpoints ids => exact hasEndpoints_endpoint id ids
  | overlord ticks => exact echoesTake_overlord id ticks
  | fanout slots => exact locksOn_fanout id slots

end Session

namespace Transport

open SimulatedAddress

variable {text : String} {kind query : List Char}

theorem connect_of_asksFor (hparts : Parts text.toList kind query) {wanted : Wanted} (h : AsksFor query kind wanted)
    (id : String) : (simulated.connect id ("sim://" ++ text)).result = .ok (.ofDevice (wanted.device id)) := by
  obtain ⟨events, hdevice⟩ := device_of_asksFor h id ("sim://" ++ text)
  simp only [simulated, ofUri?_of_parts hparts, hdevice]

theorem connect_of_faulty (hparts : Parts text.toList kind query) {e : Error}
    (h : Faulty ("sim://" ++ text) query kind e) (id : String) :
    (simulated.connect id ("sim://" ++ text)).result = .error e := by
  simp only [simulated, ofUri?_of_parts hparts, device_of_faulty h id, Outcome.error]

/-- **Simulated devices are opened as their addresses say.**  What follows the scheme is a kind and a query.  If these
ask for a device, a session is opened and shows that device from then on; no other session is opened.  If they ask for
none, the error says why. -/
theorem connect_simulated (id text : String) :
    (∃ kind query, Parts text.toList kind query) ∧
      ∀ kind query, Parts text.toList kind query →
        (∀ wanted, AsksFor query kind wanted →
          ∃ session, (simulated.connect id ("sim://" ++ text)).result = .ok session ∧ session.Offers wanted) ∧
        (∀ session, (simulated.connect id ("sim://" ++ text)).result = .ok session →
          ∃ wanted, AsksFor query kind wanted ∧ session.Offers wanted) ∧
        ∀ e, (simulated.connect id ("sim://" ++ text)).result = .error e ↔
          Faulty ("sim://" ++ text) query kind e := by
  refine ⟨exists_parts _, fun kind query hparts => ⟨fun wanted h => ?_, fun session hok => ?_, fun e => ?_⟩⟩
  · exact ⟨_, connect_of_asksFor hparts h id, Session.offers_device id wanted⟩
  · rcases asksFor_or_faulty ("sim://" ++ text) query kind with ⟨wanted, h⟩ | ⟨e, h⟩
    · rw [connect_of_asksFor hparts h id] at hok
      exact ⟨wanted, h, Except.ok.inj hok ▸ Session.offers_device id wanted⟩
    · exact nomatch (connect_of_faulty hparts h id).symm.trans hok
  · refine ⟨fun herr => ?_, fun h => connect_of_faulty hparts h id⟩
    rcases asksFor_or_faulty ("sim://" ++ text) query kind with ⟨wanted, h⟩ | ⟨e', h⟩
    · exact nomatch (connect_of_asksFor hparts h id).symm.trans herr
    · rw [connect_of_faulty hparts h id] at herr
      exact Except.error.inj herr ▸ h

/-- A key that is given twice, one that is not known, and pieces without a value. -/
def busyQuery : String := "rtt=7&a=b=c&&x&rtt=420"

theorem connect_simulated_busyQuery :
    Parts ("overlord?" ++ busyQuery).toList "overlord".toList busyQuery.toList ∧
      ∃ session, (simulated.connect "OVLD" ("sim://" ++ ("overlord?" ++ busyQuery))).result = .ok session ∧
        session.Offers (.overlord 420) := by
  have hkind : '?' ∉ "overlord".toList := by decide
  have hparts : Parts ("overlord?" ++ busyQuery).toList "overlord".toList busyQuery.toList := .queried hkind
  have hgives : Gives busyQuery.toList "rtt".toList "420".toList :=
    gives_iff.mpr ⟨["rtt=7".toList, "a=b=c".toList, [], "x".toList], [], by decide,
      fun _ h => absurd h List.not_mem_nil⟩
  have hasks : AsksFor busyQuery.toList "overlord".toList (.overlord 420) :=
    .overlordAfter hgives (.plain ⟨by decide, List.all_eq_true.mp (by decide), by decide⟩)
  exact ⟨hparts, ((connect_simulated "OVLD" ("overlord?" ++ busyQuery)).2 _ _ hparts).1 _ hasks⟩

end Transport

end TimingFleet

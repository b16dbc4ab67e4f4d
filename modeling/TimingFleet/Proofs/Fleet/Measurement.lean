import TimingFleet.Proofs.Fleet.Packets

/-!
# The steps of a measurement

A measurement lines the fleet up (`LinedUp`): it sets the mux, switches all transmitters off and the endpoint's
on.  Then it locks both boards and sends an echo, and switches the endpoint off whatever came of that.  There is
one rule for each of the three parts; statements about measurements follow from these.
-/

namespace TimingFleet

open Procedure FleetSessions

/-- The overlord `e` is `d` after accesses that have not set its time stamp. -/
structure Device.Steady (d e : Device) : Prop where
  evolves : d.Evolves e
  timestamp : e.block? MasterNode.timestamp = d.block? MasterNode.timestamp

namespace Device.Steady

variable {c d e : Device}

theorem refl (d : Device) : d.Steady d := ⟨.refl _, rfl⟩

theorem trans (h : c.Steady d) (h' : d.Steady e) : c.Steady e :=
  ⟨h.evolves.trans h'.evolves, h'.timestamp.trans h.timestamp⟩

theorem timestamp_eq (h : d.Steady e) : e.timestamp = d.timestamp := by
  rw [Device.timestamp, h.timestamp, Device.timestamp]

theorem writeWord (hk : d.kind = .overlord) (path : NodePath) (value : UInt32) :
    d.Steady (d.writeWord path value) :=
  ⟨evolves_writeWord _ _ _, block?_timestamp_writeWord hk path value⟩

theorem restartUplink (hk : d.kind = .overlord) : d.Steady (d.restartUplink .overlord) :=
  ⟨evolves_restartUplink _ _, block?_restartUplink hk _⟩

theorem switchSfp (d : Device) (address : UInt32) (on : Bool) :
    d.Steady (d.writeBlock MasterNode.commandBuffer (SfpPacket.encode address on)) :=
  ⟨evolves_writeBlock _ _ _, block?_timestamp_writeBlock _⟩

end Device.Steady

namespace Fleet

variable {f : Fleet} {s t : FleetSessions} {address : UInt32} {slot : Option UInt32} {m : SlotMapping}
  {fanout : Board} {o u v : Session} {now : UInt64} {n : UInt32}
  {Q : Echo → FleetSessions → Trace Seat FleetSessions → Prop}
  {E : Error → FleetSessions → Trace Seat FleetSessions → Prop}

/-! ## Packets from the overlord -/

/-- No request sends an echo. -/
def Silent (tr : Trace Seat FleetSessions) : Prop := ∀ x ∈ tr, x.2.2.writesEcho = false

theorem Silent.append {tr tr' : Trace Seat FleetSessions} (h : Silent tr) (h' : Silent tr') : Silent (tr ++ tr') :=
  List.forall_mem_append.mpr ⟨h, h'⟩

theorem silent_map {tr : Trace Unit Session} {g : Session × Unit × Request → FleetSessions × Seat × Request}
    (hg : ∀ y, (g y).2.2 = y.2.2) (h : ∀ y ∈ tr, y.2.2.writesEcho = false) : Silent (tr.map g) := by
  intro x hx
  obtain ⟨y, hy, rfl⟩ := List.mem_map.mp hx
  rw [hg, h y hy]

/-- Switching transmitters, as a step of the fleet. -/
theorem runs_switchSfp {on : Bool} (hf : f.overlord.role = .overlord) (ho : o.Idle .overlord)
    (ha : address ≤ maxAddress) :
    Runs now (onOverlord (f.overlord.switchSfp address on)) (s.seated n o u)
      (fun _ t tr => ∃ o', t = s.seated n o' u ∧ o'.Idle .overlord ∧
        o'.device = o.device.writeBlock MasterNode.commandBuffer (SfpPacket.encode address on) ∧
        sent tr = [SfpPacket.encode address on] ∧ Silent tr)
      fun e _ tr => o.device.failure ≠ none ∧ sent tr = [] ∧ Silent tr ∧
        StopsAt tr .overlord (.switchSfp address on) e := by
  refine runs_onOverlord (((Board.runs_switchSfp hf ho ha).and
    (runs_of_asks (f.overlord.asks_switchSfp address on))).mono (fun _ o' tr h => ?_) fun e o' tr h => ?_)
  · obtain ⟨⟨ho', hdev, hsent⟩, hsilent⟩ := h
    exact ⟨o', rfl, ho', hdev, (sent_overlord tr).trans hsent, silent_map (fun _ => rfl) hsilent⟩
  · obtain ⟨⟨-, hfail, hsent, hstop⟩, hsilent⟩ := h
    exact ⟨hfail, (sent_overlord tr).trans hsent, silent_map (fun _ => rfl) hsilent, stopsAt_overlord hstop⟩

/-! ## Locking and the echo -/

/-- The sessions `t` are those with `o` and `u` at the two boards after these have been locked and an echo has
been sent. -/
def Relocked (s : FleetSessions) (n : UInt32) (o u : Session) (t : FleetSessions) : Prop :=
  ∃ o' u' : Session, t = s.seated n o' u' ∧ o'.Idle .overlord ∧ u'.Idle .fanout ∧
    o.device.Steady o'.device ∧ o'.device.enabledSfps = o.device.enabledSfps ∧
    u.device.Evolves u'.device ∧ u'.device.word? FanoutNode.mux = u.device.word? FanoutNode.mux

/-- A ready overlord sees its echo. -/
theorem runs_measureEcho_of_ready {b : Board} (hb : b.role = .overlord) (ho : o.Idle .overlord)
    (hready : o.device.word? BoardRole.overlord.state = some EndpointState.ready.code) :
    Runs now b.measureEcho o
      (fun echo o' _ => o'.Idle .overlord ∧ o'.device = o.device.writeWord MasterNode.echoGo 1 ∧
        echo = ⟨o.device.timestamp, o.device.timestamp + o.device.roundTrip.toUInt64⟩)
      fun _ o' _ => o'.Idle .overlord ∧ o.device.failure ≠ none := by
  obtain ⟨hdone, hshown⟩ := Device.shownEcho_writeWord_echoGo ho.plays.kind hready
  refine (Board.runs_measureEcho hb ho).mono (fun echo o' _ h => ?_) fun e o' _ h => ?_
  · obtain ⟨ho', hdev, -, hecho⟩ := h
    exact ⟨ho', hdev, by rw [hecho, hdev, hshown]⟩
  · obtain ⟨ho', hfail | ⟨hdev, hzero⟩⟩ := h
    · exact ⟨ho', hfail⟩
    · rw [hdev, hdone] at hzero
      exact absurd hzero (by decide)

/-- **Locking and the echo**, while a transmitter is on: without faults they succeed on a live slot, and else the
fanout waits for its lock. -/
theorem runs_lockAndEcho (hf : f.overlord.role = .overlord) (hn : fanout.role = .fanout) (ho : o.Idle .overlord)
    (hu : u.Idle .fanout) (hsfps : o.device.enabledSfps.isEmpty = false) :
    Runs now (f.lockAndEcho n fanout) (s.seated n o u)
      (fun echo t _ => Relocked s n o u t ∧ u.device.onLiveSlot = true ∧
        echo = ⟨o.device.timestamp, o.device.timestamp + o.device.roundTrip.toUInt64⟩)
      fun e t _ => (∃ o' u', t = s.seated n o' u' ∧ o'.Idle .overlord ∧ u'.Idle .fanout) ∧
        (o.device.failure ≠ none ∨ u.device.failure ≠ none ∨
          Relocked s n o u t ∧ u.device.onLiveSlot = false ∧ e = .receiverNotReady fanout.name
            EndpointState.waitingCdrLock.code EndpointState.waitingCdrLock.label) := by
  have hmux : (u.device.restartUplink .fanout).word? FanoutNode.mux = u.device.word? FanoutNode.mux :=
    Device.word?_restartUplink hu.plays.kind (by decide) (by decide)
  have huev := u.device.evolves_restartUplink .fanout
  unfold lockAndEcho
  refine runs_bind (runs_log (runs_bind (runs_onFanout ((Board.runs_enableUplink hn hu).mono
    (fun _ u' _ h => ?locked) fun e u' _ h => ⟨⟨o, u', rfl, ho, h.1⟩, ?waiting⟩))))
  case waiting =>
    obtain ⟨hu', hfail | ⟨hdev, hlinked, he⟩⟩ := h
    · exact Or.inr (Or.inl hfail)
    cases hlive : u.device.onLiveSlot with
    | true => exact absurd (by rw [Device.linked, hlive, if_pos rfl]) hlinked
    | false =>
      rw [Device.linked, hlive] at he
      exact Or.inr (Or.inr ⟨⟨o, u', rfl, ho, hu', .refl _, rfl, hdev ▸ huev, by rw [hdev, hmux]⟩, rfl, he⟩)
  obtain ⟨hu', hudev, hlinked⟩ := h
  have hlive : u.device.onLiveSlot = true := by
    cases hlive : u.device.onLiveSlot with
    | true => rfl
    | false => rw [Device.linked, hlive] at hlinked; cases hlinked
  have hready : o.device.linked .overlord = .ready := by rw [Device.linked, hsfps]; rfl
  -- the endpoint's light reaches the overlord, so it can always be locked
  refine runs_bind (runs_log (runs_bind (runs_onOverlord ((Board.runs_enableUplink hf ho).mono
    (fun _ o' _ h => ?_) fun e o' _ h => ⟨⟨o', u', rfl, h.1, hu'⟩, Or.inl ?_⟩))))
  rotate_left
  · rcases h.2 with hfail | ⟨-, hnot, -⟩
    · exact hfail
    · exact absurd hready hnot
  obtain ⟨ho', hodev, -⟩ := h
  have hsteady : o.device.Steady o'.device := hodev ▸ .restartUplink ho.plays.kind
  have hstate : o'.device.word? BoardRole.overlord.state = some EndpointState.ready.code := by
    rw [hodev, Device.word?_state_restartUplink ho.plays.kind, hready]
  refine runs_onOverlord ((runs_measureEcho_of_ready hf ho' hstate).mono (fun echo o'' _ h => ?_)
    fun e o'' _ h => ⟨⟨o'', u', rfl, h.1, hu'⟩, Or.inl (hsteady.evolves.failure ▸ h.2)⟩)
  obtain ⟨ho'', hodev', hecho⟩ := h
  rw [hsteady.timestamp_eq, hsteady.evolves.roundTrip] at hecho
  refine ⟨⟨o'', u', rfl, ho'', hu', ?_, ?_, hudev ▸ huev, by rw [hudev, hmux]⟩, hlive, hecho⟩
  · rw [hodev']
    exact hsteady.trans (.writeWord ho'.plays.kind _ _)
  · rw [hodev', Device.enabledSfps_writeWord, hodev, Device.enabledSfps_restartUplink]

/-! ## The last part: the echo, and the switch-off in any case -/

/-- The part of a measurement after the endpoint has been switched on. -/
def echoAndOff (f : Fleet) (address n : UInt32) (fanout : Board) : Procedure Seat Echo := do
  let measured ← (f.lockAndEcho n fanout).attempt
  let switched ← (onOverlord (f.overlord.switchSfp address false)).attempt
  match measured, switched with
  | .ok echo, .ok () => return echo
  | .ok _, .error e => .fail e
  | .error e, .ok () => .fail e
  | .error e, .error s =>
    log .warn ("Could not switch endpoint " ++ Text.Numeral.hex address.toNat ++ " SFP off: " ++ s.message)
    .fail e

/-- The switch-off comes after success and failure alike, and a failure before it is the one reported. -/
theorem runs_echoAndOff (h : Runs now (f.lockAndEcho n fanout) s
      (fun echo t tr => Runs now (onOverlord (f.overlord.switchSfp address false)) t
        (fun _ t' tr' => Q echo t' (tr ++ tr')) fun e t' tr' => E e t' (tr ++ tr'))
      fun e t tr => Runs now (onOverlord (f.overlord.switchSfp address false)) t
        (fun _ t' tr' => E e t' (tr ++ tr')) fun _ t' tr' => E e t' (tr ++ tr')) :
    Runs now (f.echoAndOff address n fanout) s Q E := by
  unfold echoAndOff
  refine runs_bind (runs_attempt (h.mono (fun echo t tr h => ?_) fun e t tr h => ?_))
  · refine runs_bind (runs_attempt (h.mono (fun _ t' tr' hq => ?_) fun e t' tr' he => ?_))
    · exact runs_pure (by simpa using hq)
    · exact runs_fail (by simpa using he)
  · refine runs_bind (runs_attempt (h.mono (fun _ t' tr' he => ?_) fun _ t' tr' he => ?_))
    · exact runs_fail (by simpa using he)
    · exact runs_bind (runs_log (runs_fail (by simpa using he)))

/-! ## The first part: lining the fleet up -/

/-- The packet that switches all transmitters off. -/
abbrev allOff : List UInt32 := SfpPacket.encode broadcastAddress false

/-- The overlord `o` and the fanout `v` are lined up for the endpoint at `address`, from `s` and the fanout `u`:
the endpoint alone transmits, and the mux stands on its slot. -/
structure LinedUp (s : FleetSessions) (u : Session) (address slot : UInt32) (o v : Session) : Prop where
  overlord : o.Idle .overlord
  fanout : v.Idle .fanout
  steady : s.overlord.device.Steady o.device
  transmitters : o.device.enabledSfps = {address}
  evolves : u.device.Evolves v.device
  mux : v.device.word? FanoutNode.mux = some slot
  onLiveSlot : v.device.onLiveSlot = u.device.liveSlots.contains slot

theorem LinedUp.isEmpty_eq_false {slot : UInt32} (h : LinedUp s u address slot o v) :
    o.device.enabledSfps.isEmpty = false := by
  rw [h.transmitters, Std.ExtTreeSet.isEmpty_eq_false_iff]
  exact Std.ExtTreeSet.insert_ne_empty

/-- A measurement that fails before the endpoint is on has sent no packet, and stopped at the mux or at the
packet for all transmitters; or it has sent that packet only. -/
inductive StopsEarly (m : SlotMapping) (e : Error) (tr : Trace Seat FleetSessions) : Prop where
  | untouched (hsent : sent tr = []) (hstop : StopsAt tr (.fanout m.fanout) (.write FanoutNode.mux m.slot) e ∨
      StopsAt tr .overlord (.switchSfp broadcastAddress false) e)
  | dark (hsent : sent tr = [allOff])

/-- **The steps of a measurement**: with a fault of one of the two boards it may stop early; otherwise it lines
the fleet up and goes on with locking. -/
theorem runs_measureThrough (hs : f.Staffed s) (hr : f.Resolves address slot m fanout)
    (hu : s.fanouts[m.fanout]? = some u)
    (hstop : s.overlord.device.failure ≠ none ∨ u.device.failure ≠ none →
      ∀ e t tr, StopsEarly m e tr → Silent tr → E e t tr)
    (hgo : ∀ o v tr, LinedUp s u address m.slot o v → sent tr = [allOff, SfpPacket.encode address true] →
      Silent tr → Runs now (f.echoAndOff address m.fanout fanout) (s.seated m.fanout o v)
        (fun echo t tr' => Q echo t (tr ++ tr')) fun e t tr' => E e t (tr ++ tr')) :
    Runs now (f.measureThrough address m fanout) s Q E := by
  obtain ⟨hrole, u', hu', huIdle⟩ := hs.fanouts m.fanout fanout hr.board
  obtain rfl := Option.some.inj (hu.symm.trans hu')
  suffices h : Runs now (f.measureThrough address m fanout) (s.seated m.fanout s.overlord u) Q E by
    rwa [seated_self hu] at h
  unfold measureThrough
  -- the mux
  refine runs_bind (runs_onFanout (((Board.runs_selectMux hrole huIdle hr.slot_lt).and
    (runs_of_asks (fanout.asks_selectMux m.slot))).mono (fun _ v trv h => ?_) fun e v tr h => ?stopped))
  case stopped =>
    obtain ⟨⟨hdev, -, hrefused⟩, hsilent⟩ := h
    exact hstop (Or.inr (hdev ▸ hrefused.failure_ne_none)) _ _ _
      (.untouched (sent_fanout tr) (Or.inl (stopsAt_fanout (hrefused.refuses List.mem_cons_self))))
      (silent_map (fun _ => rfl) hsilent)
  obtain ⟨⟨hv, hvdev⟩, hvsilent⟩ := h
  have hvs := silent_map (g := fun y => (s.seated m.fanout s.overlord y.1, .fanout m.fanout, y.2.2))
    (fun _ => rfl) hvsilent
  have hvsent : sent (trv.map fun y => (s.seated m.fanout s.overlord y.1, .fanout m.fanout, y.2.2)) = [] :=
    sent_fanout trv
  -- all transmitters off
  refine runs_bind ((runs_switchSfp hs.role hs.overlord (by decide)).mono (fun _ t tr₁ h => ?_)
    fun e t tr h => ?stopped)
  case stopped =>
    obtain ⟨hfail, hsent, hsilent, hstops⟩ := h
    refine hstop (Or.inl hfail) _ _ _ (.untouched ?_ (Or.inr (hstops.append _))) (hvs.append hsilent)
    rw [sent_append, hvsent, hsent]
    rfl
  obtain ⟨o₁, rfl, ho₁, hdev₁, hsent₁, hsilent₁⟩ := h
  have hsteady₁ : s.overlord.device.Steady o₁.device := hdev₁ ▸ .switchSfp _ _ _
  -- the endpoint on
  refine runs_bind (runs_settle (runs_bind ((runs_switchSfp hs.role ho₁ hr.le_maxAddress).mono
    (fun _ t tr₂ h => ?_) fun e t tr h => ?stopped)))
  case stopped =>
    obtain ⟨hfail, hsent, hsilent, -⟩ := h
    refine hstop (Or.inl (hsteady₁.evolves.failure ▸ hfail)) _ _ _ (.dark ?_)
      (hvs.append (hsilent₁.append hsilent))
    rw [sent_append, hvsent, sent_append, hsent₁]
    show _ ++ sent tr = _
    rw [hsent]
    rfl
  obtain ⟨o₂, rfl, ho₂, hdev₂, hsent₂, hsilent₂⟩ := h
  refine runs_bind (runs_settle ((hgo o₂ v _ ?_ ?_ (hvs.append (hsilent₁.append hsilent₂))).mono
    (fun echo t tr h => ?_) fun e t tr h => ?_))
  · refine ⟨ho₂, hv, hsteady₁.trans (hdev₂ ▸ .switchSfp _ _ _), ?_, hvdev ▸ u.device.evolves_writeWord _ _, ?_, ?_⟩
    · rw [hdev₂, Device.enabledSfps_switchSfp _ ho₁.plays.kind, hdev₁,
        Device.enabledSfps_switchSfp _ hs.overlord.plays.kind, Device.applyPacket_all_off, Device.applyPacket_on]
      rfl
    · rw [hvdev, Device.word?_mux_writeWord_mux]
    · rw [hvdev, Device.onLiveSlot_writeWord_mux]
  · rw [sent_append, hvsent, sent_append, hsent₁, hsent₂]
    rfl
  · simpa using h
  · simpa using h

end Fleet

end TimingFleet

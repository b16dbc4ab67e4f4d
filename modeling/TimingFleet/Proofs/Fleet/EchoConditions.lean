import TimingFleet.Proofs.Fleet.Transmitters

/-!
# When an echo is sent

A measurement sends its echo only when everything is in place (`EchoReady`): the endpoint alone transmits, the
mux of the fanout stands on its slot, and both uplink endpoints are ready.  From the moment at which all
transmitters are off, none but the endpoint's is ever on.
-/

namespace TimingFleet

open Procedure FleetSessions

/-- Everything is in place for an echo through the slot `m` to the endpoint at `address`. -/
structure FleetSessions.EchoReady (t : FleetSessions) (address : UInt32) (m : SlotMapping) : Prop where
  transmitters : t.transmitters = {address}
  overlord : t.overlord.device.word? (MasterNode.uplink.join EndpointNode.state) = some EndpointState.ready.code
  fanout : ∃ u, t.fanouts[m.fanout]? = some u ∧ u.device.word? FanoutNode.mux = some m.slot ∧
    u.device.word? (FanoutNode.uplink.join EndpointNode.state) = some EndpointState.ready.code

namespace Fleet

variable {f : Fleet} {s : FleetSessions} {address : UInt32} {slot : Option UInt32} {m : SlotMapping}
  {fanout : Board} {o u v : Session} {now : UInt64}

/-- A request that sends an echo is one to the overlord, and is made when everything is in place. -/
abbrev EchoGuarded (address : UInt32) (m : SlotMapping) (x : FleetSessions × Seat × Request) : Prop :=
  x.2.2.writesEcho = true → x.2.1 = .overlord ∧ x.1.EchoReady address m

theorem Silent.echoGuarded {tr : Trace Seat FleetSessions} (h : Silent tr) : ∀ x ∈ tr, EchoGuarded address m x :=
  fun x hx hecho => nomatch (h x hx).symm.trans hecho

/-- Locking goes before the echo: both endpoints show the ready state by then. -/
theorem echoGuarded_lockAndEcho (hf : f.overlord.role = .overlord) (hn : fanout.role = .fanout)
    (hline : LinedUp s u address m.slot o v) :
    ∀ x ∈ (f.lockAndEcho m.fanout fanout).asked now (s.seated m.fanout o v), EchoGuarded address m x := by
  have hstate := Device.word?_state_restartUplink hline.fanout.plays.kind
  have hstate' := Device.word?_state_restartUplink hline.overlord.plays.kind
  unfold lockAndEcho
  refine forall_asked_bind (runs_log ⟨fun x hx => absurd hx List.not_mem_nil, ?_⟩)
  refine forall_asked_bind (runs_onFanout (((Board.runs_enableUplink hn hline.fanout).and
    (runs_of_asks fanout.asks_enableUplink)).mono
    (fun _ v' tr h => ⟨(silent_map (fun _ => rfl) fun y hy => (h.2 y hy).2).echoGuarded, ?_⟩)
    fun e v' tr h => (silent_map (fun _ => rfl) fun y hy => (h.2 y hy).2).echoGuarded))
  obtain ⟨⟨-, hvdev, hvready⟩, -⟩ := h
  refine forall_asked_bind (runs_log ⟨fun x hx => absurd hx List.not_mem_nil, ?_⟩)
  refine forall_asked_bind (runs_onOverlord (((Board.runs_enableUplink hf hline.overlord).and
    (runs_of_asks f.overlord.asks_enableUplink)).mono
    (fun _ o' tr h => ⟨(silent_map (fun _ => rfl) fun y hy => (h.2 y hy).2).echoGuarded, ?_⟩)
    fun e o' tr h => (silent_map (fun _ => rfl) fun y hy => (h.2 y hy).2).echoGuarded))
  obtain ⟨⟨-, hodev, hoready⟩, -⟩ := h
  rw [asked_onOverlord]
  intro x hx hecho
  obtain ⟨y, hy, rfl⟩ := List.mem_map.mp hx
  rw [f.overlord.asked_measureEcho now o' y hy hecho]
  refine ⟨rfl, ?_, ?_, v', by simp, ?_, ?_⟩
  · show o'.device.enabledSfps = _
    rw [hodev, Device.enabledSfps_restartUplink, hline.transmitters]
  · show o'.device.word? BoardRole.overlord.state = _
    rw [hodev, hstate', hoready]
  · rw [hvdev, Device.word?_restartUplink hline.fanout.plays.kind (by decide) (by decide), hline.mux]
  · show v'.device.word? BoardRole.fanout.state = _
    rw [hvdev, hstate, hvready]

/-- After the echo only the switch-off is left. -/
theorem echoGuarded_echoAndOff (hf : f.overlord.role = .overlord) (hn : fanout.role = .fanout)
    (hline : LinedUp s u address m.slot o v) :
    ∀ x ∈ (f.echoAndOff address m.fanout fanout).asked now (s.seated m.fanout o v), EchoGuarded address m x := by
  have hlocked : ∀ x ∈ (f.lockAndEcho m.fanout fanout).attempt.asked now (s.seated m.fanout o v),
      EchoGuarded address m x := by
    rw [asked_attempt]
    exact echoGuarded_lockAndEcho hf hn hline
  have hoff : (onOverlord (f.overlord.switchSfp address false)).Asks fun _ r => r.writesEcho = false :=
    asks_mapStations (f.overlord.asks_switchSfp address false) fun _ _ h => h
  unfold echoAndOff
  refine forall_asked_bind (((runs_const_iff (R := fun _ tr => ∀ x ∈ tr, EchoGuarded address m x)).mpr hlocked).mono
    (fun measured t tr h => ⟨h, Silent.echoGuarded ?_⟩) fun _ _ _ h => h)
  refine Asks.of_mem_asked (asks_bind (asks_attempt hoff) fun switched => ?_)
  cases measured <;> cases switched <;> trivial

/-- **Echoes of a measurement** are sent when everything is in place. -/
theorem echoGuarded_measureThrough (hs : f.Staffed s) (hr : f.Resolves address slot m fanout) (now : UInt64) :
    ∀ x ∈ (f.measureThrough address m fanout).asked now s, EchoGuarded address m x := by
  obtain ⟨hrole, u, hu, -⟩ := hs.fanouts m.fanout fanout hr.board
  refine (runs_const_iff (R := fun _ tr => ∀ x ∈ tr, EchoGuarded address m x)).mp ?_
  refine runs_measureThrough hs hr hu (fun _ e t tr _ hsilent => hsilent.echoGuarded) fun o v tr hline _ hsilent => ?_
  exact (runs_const_iff (R := fun _ tr' => ∀ x ∈ tr ++ tr', EchoGuarded address m x)).mpr
    (List.forall_mem_append.mpr ⟨hsilent.echoGuarded, echoGuarded_echoAndOff hs.role hrole hline⟩)

/-! ## Transmitters after the first packet -/

/-- What a measurement has sent at any moment is a beginning of its three packets. -/
theorem sent_beginning (hs : f.Staffed s) (address : UInt32) (slot : Option UInt32) (now : UInt64) :
    sent ((f.measureDelay address slot).asked now s) <+:
      [allOff, SfpPacket.encode address true, SfpPacket.encode address false] := by
  have hbegin : ∀ {packets} (n : Nat),
      packets = [allOff, SfpPacket.encode address true, SfpPacket.encode address false].take n →
      packets <+: [allOff, SfpPacket.encode address true, SfpPacket.encode address false] := by
    rintro packets n rfl
    exact List.take_prefix n _
  obtain ⟨hok, herr⟩ := runs_iff.mp (runs_measureDelay_sent hs address slot now)
  cases hres : ((f.measureDelay address slot).run now s).result with
  | ok d => exact hbegin 3 (hok d hres).2
  | error e =>
    rcases herr e hres with hnil | ⟨m, fanout, -, hbreak⟩
    · exact hbegin 0 (congrArg sent hnil)
    cases hbreak with
    | early hstop =>
      rcases hstop with ⟨hsent, -⟩ | hsent
      · exact hbegin 0 hsent
      · exact hbegin 1 hsent
    | restored hsent => exact hbegin 3 hsent
    | leftOn hsent => exact hbegin 2 hsent

/-- Once the first packet is there, no transmitter but the endpoint's is on. -/
theorem applied_of_beginning {packets : List (List UInt32)} {sfps : IndexSet} (ha : address ≠ broadcastAddress)
    (h : packets <+: [allOff, SfpPacket.encode address true, SfpPacket.encode address false])
    (hoff : allOff ∈ packets) : ∀ a ∈ packets.foldl Device.applyPacket sfps, a = address := by
  rcases List.prefix_cons_iff.mp h with rfl | ⟨rest, rfl, h₁⟩
  · exact absurd hoff List.not_mem_nil
  rcases List.prefix_cons_iff.mp h₁ with rfl | ⟨rest, rfl, h₂⟩
  · rw [applied_allOff]
    simp
  rcases List.prefix_cons_iff.mp h₂ with rfl | ⟨rest, rfl, h₃⟩
  · rw [applied_on]
    simp
  rw [List.prefix_nil.mp h₃, applied_off _ ha]
  simp

/-- **Measurements send echoes into a prepared fleet only.**  When the register is written that sends the echo,
the endpoint alone transmits, the mux of its fanout stands on its slot, and both uplink endpoints show the ready
state.  From the moment at which the packet for all transmitters has arrived, none but the endpoint's is on: not
when a request is made, not at the end, and not between two packets of one dispatch. -/
theorem measureDelay_echoes (hs : f.Staffed s) (address : UInt32) (slot : Option UInt32) (now : UInt64) :
    (∀ t seat value, (t, seat, Request.write MasterNode.echoGo value) ∈ (f.measureDelay address slot).asked now s →
      seat = .overlord ∧ ∃ m fanout, f.Resolves address slot m fanout ∧ t.EchoReady address m) ∧
    (∀ before x after, (f.measureDelay address slot).asked now s = before ++ x :: after →
      allOff ∈ sent before → ∀ a ∈ x.1.transmitters, a = address) ∧
    (allOff ∈ sent ((f.measureDelay address slot).asked now s) →
      ∀ a ∈ ((f.measureDelay address slot).run now s).state.transmitters, a = address) ∧
    (∀ packets, packets <+: sent ((f.measureDelay address slot).asked now s) → allOff ∈ packets →
      ∀ a ∈ packets.foldl Device.applyPacket s.transmitters, a = address) := by
  obtain ⟨hlast, hall⟩ := transmitters_asked now (f.measureDelay address slot) hs.overlord.plays.kind
  have hpackets : ∀ packets, packets <+: sent ((f.measureDelay address slot).asked now s) → allOff ∈ packets →
      ∀ a ∈ packets.foldl Device.applyPacket s.transmitters, a = address := by
    intro packets hbegin hoff
    obtain ⟨x, hx, -⟩ := List.mem_flatMap.mp (hbegin.subset hoff)
    obtain ⟨m, fanout, hr⟩ := resolves_of_mem_asked hx
    exact applied_of_beginning hr.ne_broadcast (hbegin.trans (sent_beginning hs address slot now)) hoff
  refine ⟨fun t seat value hx => ?_, fun before x after hsplit => ?_, ?_, hpackets⟩
  · obtain ⟨m, fanout, hr⟩ := resolves_of_mem_asked hx
    rw [asked_measureDelay hr] at hx
    obtain ⟨hseat, hready⟩ := echoGuarded_measureThrough hs hr now _ hx rfl
    exact ⟨hseat, m, fanout, hr, hready⟩
  · rw [hall before x after hsplit]
    refine hpackets (sent before) ?_
    rw [hsplit, sent_append]
    exact List.prefix_append _ _
  · rw [hlast]
    exact hpackets _ (List.prefix_refl _)

/-- The small fleet sends an echo, and is ready for it. -/
theorem fresh_echo_ready : ∃ t value,
    (t, Seat.overlord, Request.write MasterNode.echoGo value) ∈ (small.measureDelay 0x10 (some 2)).asked 0 fresh ∧
      ∃ m fanout, small.Resolves 0x10 (some 2) m fanout ∧ t.EchoReady 0x10 m := by
  have hany : ((small.measureDelay 0x10 (some 2)).asked 0 fresh).any (fun x => x.2.2.writesEcho) = true := by
    decide +kernel
  obtain ⟨⟨t, seat, r⟩, hx, hecho⟩ := List.any_eq_true.mp hany
  obtain ⟨value, rfl⟩ := Request.eq_of_writesEcho hecho
  obtain ⟨rfl, hready⟩ := (measureDelay_echoes small_staffed_fresh 0x10 (some 2) 0).1 t seat value hx
  exact ⟨t, value, hx, hready⟩

end Fleet

end TimingFleet

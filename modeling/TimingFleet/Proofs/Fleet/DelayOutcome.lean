import TimingFleet.Proofs.Fleet.Measurement

/-!
# What a measurement finds

In a fleet without faults a measurement finds the round trip of the overlord if the slot is live, and a fanout
that waits for its lock if not.  Nothing that was left in the registers by earlier operations matters, and a
measurement leaves everything as it is that the next one could depend on: so the answers in a sequence of
measurements are those that each would give alone.
-/

namespace TimingFleet

open Procedure FleetSessions

namespace Fleet

variable {f : Fleet} {s t : FleetSessions} {address : UInt32} {slot : Option UInt32} {m : SlotMapping}
  {fanout : Board} {o u v : Session} {now : UInt64}

/-! ## Measurements -/

/-- No board has a fault. -/
structure Healthy (f : Fleet) (s : FleetSessions) : Prop extends f.Staffed s where
  overlord_failure : s.overlord.device.failure = none
  fanout_failure : ∀ (n : UInt32) (u : Session), s.fanouts[n]? = some u → u.device.failure = none

/-- The sessions `t` after a measurement from `s` through the slot `m`. -/
structure MeasuredThrough (s : FleetSessions) (m : SlotMapping) (t : FleetSessions) : Prop where
  transmitters : t.transmitters = ∅
  overlord : s.overlord.device.Steady t.overlord.device
  fanout : ∃ u v, s.fanouts[m.fanout]? = some u ∧ t.fanouts[m.fanout]? = some v ∧
    u.device.Evolves v.device ∧ v.device.word? FanoutNode.mux = some m.slot
  others : ∀ n, n ≠ m.fanout → t.fanouts[n]? = s.fanouts[n]?

/-- Boards keep the ids of their devices. -/
theorem MeasuredThrough.named (h : MeasuredThrough s m t) (hs : f.Named s) : f.Named t := by
  refine ⟨hs.overlord.trans h.overlord.evolves.id.symm, fun n b w hb hw => ?_⟩
  by_cases hn : n = m.fanout
  · subst hn
    obtain ⟨u, v, hu, hv, hevolves, -⟩ := h.fanout
    obtain rfl := Option.some.inj (hv.symm.trans hw)
    exact (hs.fanouts _ b u hb hu).trans hevolves.id.symm
  · exact hs.fanouts n b w hb ((h.others n hn).symm.trans hw)

/-- What the measurement through the slot `m` finds. -/
def answer (s : FleetSessions) (address : UInt32) (m : SlotMapping) (fanout : Board) (u : Session) :
    Except Error DelayMeasurement :=
  if m.slot ∈ u.device.liveSlots then
    .ok ⟨address, m.fanout, m.slot,
      ⟨s.overlord.device.timestamp, s.overlord.device.timestamp + s.overlord.device.roundTrip.toUInt64⟩⟩
  else
    .error (.receiverNotReady fanout.name EndpointState.waitingCdrLock.code EndpointState.waitingCdrLock.label)

theorem Healthy.seated (hs : f.Healthy s) (n : UInt32) (ho : o.Idle .overlord) (hu : u.Idle .fanout)
    (hod : o.device.failure = none) (hud : u.device.failure = none) : f.Healthy (s.seated n o u) := by
  refine ⟨hs.toStaffed.seated n ho hu, hod, fun k v hv => ?_⟩
  rw [getElem?_seated] at hv
  by_cases hk : n = k
  · rw [if_pos hk] at hv
    cases hv
    exact hud
  · rw [if_neg hk] at hv
    exact hs.fanout_failure k v hv

/-- The switch-off at the end, from whatever locking has left. -/
theorem runs_switchOff_of_healthy (hs : f.Healthy s) (hr : f.Resolves address slot m fanout)
    (hu : s.fanouts[m.fanout]? = some u) (hline : LinedUp s u address m.slot o v)
    (ht : Relocked s m.fanout o v t) :
    Runs now (onOverlord (f.overlord.switchSfp address false)) t
      (fun _ t _ => f.Healthy t ∧ MeasuredThrough s m t) fun _ _ _ => False := by
  obtain ⟨o', v', rfl, ho', hv', hsteady, hsame, hevolves, hmux⟩ := ht
  have hod : o'.device.failure = none := (hline.steady.trans hsteady).evolves.failure.trans hs.overlord_failure
  have hvd : v'.device.failure = none :=
    (hline.evolves.trans hevolves).failure.trans (hs.fanout_failure _ _ hu)
  refine (runs_switchSfp hs.role ho' hr.le_maxAddress).mono (fun _ t _ h => ?_) fun _ _ _ h => h.1 hod
  obtain ⟨o'', rfl, ho'', hdev, -⟩ := h
  have hsteady' : s.overlord.device.Steady o''.device :=
    (hline.steady.trans hsteady).trans (hdev ▸ .switchSfp _ _ _)
  refine ⟨hs.seated _ ho'' hv' (hsteady'.evolves.failure.trans hs.overlord_failure) hvd, ?_, hsteady',
    ⟨u, v', hu, by simp, hline.evolves.trans hevolves, hmux.trans hline.mux⟩, fun k hk => ?_⟩
  · show o''.device.enabledSfps = ∅
    rw [hdev, Device.enabledSfps_switchSfp _ ho'.plays.kind, hsame, hline.transmitters,
      Device.applyPacket_off _ hr.ne_broadcast]
    exact Device.erase_singleton address
  · rw [getElem?_seated, if_neg (Ne.symm hk)]

/-- **Without faults** a measurement gets through to its answer. -/
theorem runs_measureThrough_of_healthy (hs : f.Healthy s) (hr : f.Resolves address slot m fanout)
    (hu : s.fanouts[m.fanout]? = some u) :
    Runs now (f.measureThrough address m fanout) s
      (fun echo t _ => answer s address m fanout u = .ok ⟨address, m.fanout, m.slot, echo⟩ ∧
        f.Healthy t ∧ MeasuredThrough s m t)
      fun e t _ => answer s address m fanout u = .error e ∧ f.Healthy t ∧ MeasuredThrough s m t := by
  obtain ⟨hrole, -⟩ := hs.fanouts m.fanout fanout hr.board
  have hud := hs.fanout_failure _ _ hu
  refine runs_measureThrough hs.toStaffed hr hu (fun hfault => ?_) fun o v _ hline _ _ => ?_
  · rcases hfault with h | h
    · exact absurd hs.overlord_failure h
    · exact absurd hud h
  refine runs_echoAndOff ((runs_lockAndEcho hs.role hrole hline.overlord hline.fanout
    hline.isEmpty_eq_false).mono (fun echo t _ h => ?ok) fun e t _ h => ?waiting)
  case ok =>
    obtain ⟨ht, hlive, hecho⟩ := h
    refine (runs_switchOff_of_healthy hs hr hu hline ht).mono (fun _ t _ h => ⟨?_, h⟩) fun _ _ _ h => h.elim
    rw [hline.onLiveSlot] at hlive
    rw [answer, if_pos (Std.ExtTreeSet.contains_iff_mem.mp hlive), hecho, hline.steady.timestamp_eq,
      hline.steady.evolves.roundTrip]
  case waiting =>
    obtain ⟨-, hfault | hfault | ⟨ht, hdead, he⟩⟩ := h
    · exact absurd (hline.steady.evolves.failure.trans hs.overlord_failure) hfault
    · exact absurd (hline.evolves.failure.trans hud) hfault
    refine (runs_switchOff_of_healthy hs hr hu hline ht).mono (fun _ t _ h => ⟨?_, h⟩) fun _ _ _ h => h.elim
    have hnot : m.slot ∉ u.device.liveSlots := by
      intro hmem
      rw [hline.onLiveSlot] at hdead
      exact nomatch (Std.ExtTreeSet.contains_iff_mem.mpr hmem).symm.trans hdead
    rw [answer, if_neg hnot, he]

/-- Only the overlord and the fanout of the slot are asked. -/
theorem asks_measureThrough (f : Fleet) (address : UInt32) (m : SlotMapping) (fanout : Board) :
    (f.measureThrough address m fanout).Asks fun seat _ => seat = .overlord ∨ seat = .fanout m.fanout := by
  have hoverlord : ∀ {α : Type} (p : Procedure Unit α),
      (onOverlord p).Asks fun seat _ => seat = .overlord ∨ seat = .fanout m.fanout :=
    fun p => asks_mapStations p.asks_true fun _ _ _ => Or.inl rfl
  have hfanout : ∀ {α : Type} (p : Procedure Unit α),
      (onFanout m.fanout p).Asks fun seat _ => seat = .overlord ∨ seat = .fanout m.fanout :=
    fun p => asks_mapStations p.asks_true fun _ _ _ => Or.inr rfl
  unfold measureThrough lockAndEcho
  refine asks_bind (hfanout _) fun _ => asks_bind (hoverlord _) fun _ => asks_bind (asks_settle _ _) fun _ => ?_
  refine asks_bind (hoverlord _) fun _ => asks_bind (asks_settle _ _) fun _ => ?_
  refine asks_bind (asks_attempt ?_) fun measured => ?_
  · refine asks_bind trivial fun _ => asks_bind (hfanout _) fun _ => ?_
    exact asks_bind trivial fun _ => asks_bind (hoverlord _) fun _ => hoverlord _
  · refine asks_bind (asks_attempt (hoverlord _)) fun switched => ?_
    cases measured <;> cases switched <;> trivial

theorem measureDelay_of_healthy (hs : f.Healthy s) (hr : f.Resolves address slot m fanout)
    (hu : s.fanouts[m.fanout]? = some u) (now : UInt64) :
    ((f.measureDelay address slot).run now s).result = answer s address m fanout u ∧
      f.Healthy ((f.measureDelay address slot).run now s).state ∧
      MeasuredThrough s m ((f.measureDelay address slot).run now s).state := by
  have hrun : Runs now (f.measureDelay address slot) s
      (fun d t _ => answer s address m fanout u = .ok d ∧ f.Healthy t ∧ MeasuredThrough s m t)
      fun e t _ => answer s address m fanout u = .error e ∧ f.Healthy t ∧ MeasuredThrough s m t := by
    refine runs_measureDelay (fun hnone => absurd hr (hnone m fanout)) fun m' fanout' hr' => ?_
    obtain ⟨rfl, rfl⟩ := hr.unique hr'
    exact runs_measureThrough_of_healthy hs hr hu
  obtain ⟨hok, herr⟩ := runs_iff.mp hrun
  cases hres : ((f.measureDelay address slot).run now s).result with
  | ok d => exact ⟨(hok d hres).1.symm, (hok d hres).2⟩
  | error e => exact ⟨(herr e hres).1.symm, (herr e hres).2⟩

/-! ## Sequences of measurements -/

/-- The sessions `t` show what answers depend on as `s` do: the time stamp, the round trip, the live slots. -/
structure Alike (s t : FleetSessions) : Prop where
  timestamp : t.overlord.device.timestamp = s.overlord.device.timestamp
  roundTrip : t.overlord.device.roundTrip = s.overlord.device.roundTrip
  liveSlots : ∀ (n : UInt32) (u : Session), s.fanouts[n]? = some u →
    ∃ v, t.fanouts[n]? = some v ∧ v.device.liveSlots = u.device.liveSlots

theorem Alike.refl (s : FleetSessions) : Alike s s := ⟨rfl, rfl, fun _ u hu => ⟨u, hu, rfl⟩⟩

theorem Alike.trans {r : FleetSessions} (h : Alike r s) (h' : Alike s t) : Alike r t := by
  refine ⟨h'.timestamp.trans h.timestamp, h'.roundTrip.trans h.roundTrip, fun n u hu => ?_⟩
  obtain ⟨v, hv, hvu⟩ := h.liveSlots n u hu
  obtain ⟨w, hw, hwv⟩ := h'.liveSlots n v hv
  exact ⟨w, hw, hwv.trans hvu⟩

/-- A measurement leaves alone what answers depend on. -/
theorem MeasuredThrough.alike (h : MeasuredThrough s m t) : Alike s t := by
  refine ⟨h.overlord.timestamp_eq, h.overlord.evolves.roundTrip, fun n u hu => ?_⟩
  obtain ⟨u', v, hu', hv, hevolves, -⟩ := h.fanout
  by_cases hn : n = m.fanout
  · subst hn
    obtain rfl := Option.some.inj (hu.symm.trans hu')
    exact ⟨v, hv, hevolves.liveSlots⟩
  · exact ⟨u, (h.others n hn).trans hu, rfl⟩

theorem answer_of_alike (h : Alike s t) {v : Session} (hv : v.device.liveSlots = u.device.liveSlots) :
    answer t address m fanout v = answer s address m fanout u := by
  rw [answer, h.timestamp, h.roundTrip, hv, answer]

/-- **Sequences of measurements**: each answer is the one that its measurement alone would give at first. -/
theorem result_each_measureDelay (hs : f.Healthy s) (ht : f.Healthy t) (hst : Alike s t) (now : UInt64)
    (calls : List (UInt32 × Option UInt32))
    (hcalls : ∀ c ∈ calls, ∃ m fanout, f.Resolves c.1 c.2 m fanout) :
    ((each calls fun c => (f.measureDelay c.1 c.2).attempt).run now t).result =
      .ok (calls.map fun c => ((f.measureDelay c.1 c.2).run now s).result) := by
  induction calls generalizing t with
  | nil => rfl
  | cons c calls ih =>
    obtain ⟨m, fanout, hr⟩ := hcalls c List.mem_cons_self
    obtain ⟨-, u, hu, -⟩ := hs.fanouts m.fanout fanout hr.board
    obtain ⟨v, hv, hvu⟩ := hst.liveSlots m.fanout u hu
    obtain ⟨hres, -, -⟩ := measureDelay_of_healthy hs hr hu now
    obtain ⟨hres', ht', hmeasured⟩ := measureDelay_of_healthy ht hr hv now
    have hrest := ih ht' (hst.trans hmeasured.alike) fun c hc => hcalls c (List.mem_cons_of_mem _ hc)
    rw [answer_of_alike hst hvu, ← hres] at hres'
    rw [each, result_bind, run_attempt]
    show ((_ >>= _ : Procedure Seat (List (Except Error DelayMeasurement))).run now _).result = _
    rw [result_bind, hrest, hres']
    rfl

/-- **Measurements in a fleet without faults.**  Whatever earlier operations have left, the measurement finds the
round trip of the overlord if the slot is live, and else a fanout that waits for its lock, which is named by the id of
its device if the boards of the fleet are.  It leaves the mux on the slot, all transmitters off, the time stamp as it was
and the other fanouts alone, so a sequence of measurements gives the answers that each of them alone would give. -/
theorem measureDelay_outcome (hs : f.Healthy s) (now : UInt64) :
    (∀ address slot m fanout u, f.Resolves address slot m fanout → s.fanouts[m.fanout]? = some u →
      let result := ((f.measureDelay address slot).run now s).result
      let t := ((f.measureDelay address slot).run now s).state
      (m.slot ∈ u.device.liveSlots → result = .ok ⟨address, m.fanout, m.slot,
        ⟨s.overlord.device.timestamp, s.overlord.device.timestamp + s.overlord.device.roundTrip.toUInt64⟩⟩) ∧
      (m.slot ∉ u.device.liveSlots → result = .error (.receiverNotReady fanout.name 0x2 "Waiting CDR lock")) ∧
      (f.Named s → (m.slot ∉ u.device.liveSlots →
        result = .error (.receiverNotReady u.device.id 0x2 "Waiting CDR lock")) ∧ f.Named t) ∧
      (∀ d, result = .ok d → d.delay = s.overlord.device.roundTrip.toUInt64) ∧
      (∃ v, t.fanouts[m.fanout]? = some v ∧ v.device.word? FanoutNode.mux = some m.slot) ∧
      t.transmitters = ∅ ∧
      t.overlord.device.block? MasterNode.timestamp = s.overlord.device.block? MasterNode.timestamp ∧
      (∀ n, n ≠ m.fanout → t.fanouts[n]? = s.fanouts[n]?) ∧
      (∀ x ∈ (f.measureDelay address slot).asked now s, x.2.1 = .overlord ∨ x.2.1 = .fanout m.fanout) ∧
      f.Healthy t) ∧
    (∀ calls : List (UInt32 × Option UInt32), (∀ c ∈ calls, ∃ m fanout, f.Resolves c.1 c.2 m fanout) →
      ((each calls fun c => (f.measureDelay c.1 c.2).attempt).run now s).result =
        .ok (calls.map fun c => ((f.measureDelay c.1 c.2).run now s).result)) := by
  refine ⟨fun address slot m fanout u hr hu => ?_, result_each_measureDelay hs hs (.refl s) now⟩
  obtain ⟨hres, hhealthy, hmeasured⟩ := measureDelay_of_healthy hs hr hu now
  obtain ⟨-, v, -, hv, -, hmux⟩ := hmeasured.fanout
  have hasked : ∀ x ∈ (f.measureDelay address slot).asked now s, x.2.1 = .overlord ∨ x.2.1 = .fanout m.fanout := by
    rw [asked_measureDelay hr]
    exact (asks_measureThrough f address m fanout).of_mem_asked
  have hwaits : m.slot ∉ u.device.liveSlots → ((f.measureDelay address slot).run now s).result =
      .error (.receiverNotReady fanout.name 0x2 "Waiting CDR lock") := by
    intro hdead
    rw [hres, answer, if_neg hdead]
    rfl
  refine ⟨fun hlive => ?_, hwaits, fun hnamed => ⟨fun hdead => ?_, hmeasured.named hnamed⟩, fun d hd => ?_,
    ⟨v, hv, hmux⟩, hmeasured.transmitters, hmeasured.overlord.timestamp, hmeasured.others, hasked, hhealthy⟩
  · rw [hres, answer, if_pos hlive]
  · rw [hwaits hdead, hnamed.fanouts _ _ _ hr.board hu]
  · rw [hres, answer] at hd
    split_ifs at hd
    cases hd
    show s.overlord.device.timestamp + s.overlord.device.roundTrip.toUInt64 - s.overlord.device.timestamp = _
    rw [UInt64.add_comm, UInt64.add_sub_cancel]

/-- In the small fleet slot 2 is live and slot 5 is not, and the order of measurements does not matter. -/
theorem fresh_measurements :
    small.Named fresh ∧
    ((small.measureDelay 0x10 (some 2)).run 0 fresh).result = .ok ⟨0x10, 0, 2, ⟨0x1000, 0x11a4⟩⟩ ∧
    ((small.measureDelay 0x10 (some 5)).run 0 fresh).result =
      .error (.receiverNotReady "fan" 0x2 "Waiting CDR lock") ∧
    ((each [(0x10, some 5), (0x10, some 2)] fun c => (small.measureDelay c.1 c.2).attempt).run 0 fresh).result =
      .ok [.error (.receiverNotReady "fan" 0x2 "Waiting CDR lock"), .ok ⟨0x10, 0, 2, ⟨0x1000, 0x11a4⟩⟩] := by
  have hfanout : small.fanouts[(0 : UInt32)]? = some ⟨"fan", .fanout, .none⟩ := getElem?_small 0
  have hu : fresh.fanouts[(0 : UInt32)]? = some (Session.ofDevice (Device.fanout "fan")) := getElem?_opened _ _ 0
  have hs : small.Healthy fresh := by
    refine ⟨small_staffed_fresh, rfl, fun n u hn => ?_⟩
    rw [fresh, getElem?_opened] at hn
    split_ifs at hn
    cases hn
    rfl
  have hlive : (2 : UInt32) ∈ (Session.ofDevice (Device.fanout "fan")).device.liveSlots := by decide +kernel
  have hdead : (5 : UInt32) ∉ (Session.ofDevice (Device.fanout "fan")).device.liveSlots := by decide +kernel
  have htimestamp : fresh.overlord.device.timestamp = 0x1000 := by decide +kernel
  have hroundTrip : fresh.overlord.device.roundTrip = 0x1a4 := rfl
  obtain ⟨hone, hall⟩ := measureDelay_outcome hs 0
  have hr2 : small.Resolves 0x10 (some 2) ⟨0, 2⟩ _ := ⟨rfl, rfl, by decide, hfanout⟩
  have hr5 : small.Resolves 0x10 (some 5) ⟨0, 5⟩ _ := ⟨rfl, rfl, by decide, hfanout⟩
  have h2 := (hone 0x10 (some 2) ⟨0, 2⟩ _ _ hr2 hu).1 hlive
  have hnamed : small.Named fresh := small_named rfl rfl
  have h5 := ((hone 0x10 (some 5) ⟨0, 5⟩ _ _ hr5 hu).2.2.1 hnamed).1 hdead
  rw [htimestamp, hroundTrip] at h2
  refine ⟨hnamed, h2, h5, (hall _ fun c hc => ?_).trans ?_⟩
  · rcases List.mem_cons.mp hc with rfl | hc
    · exact ⟨_, _, hr5⟩
    · rw [List.mem_singleton.mp hc]
      exact ⟨_, _, hr2⟩
  · rw [List.map_cons, List.map_cons, h2, h5]
    rfl

end Fleet

end TimingFleet

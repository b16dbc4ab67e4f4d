import TimingFleet.Proofs.Fleet.Measurement

/-!
# Transmitters around a measurement

A measurement sends at most three packets, in this order: all off, the endpoint on, the endpoint off.  So
afterwards the set of switched-on transmitters is untouched, or empty, or the endpoint alone is left on because
the dispatch of its own switch-off failed.
-/

namespace TimingFleet

open Procedure FleetSessions

namespace Fleet

variable {f : Fleet} {s : FleetSessions} {address : UInt32} {slot : Option UInt32} {m : SlotMapping}
  {fanout : Board} {now : UInt64}

/-! ## The packets of a measurement -/

theorem applied_allOff (sfps : IndexSet) : [allOff].foldl Device.applyPacket sfps = ∅ :=
  Device.applyPacket_all_off sfps

theorem applied_on (sfps : IndexSet) (address : UInt32) :
    [allOff, SfpPacket.encode address true].foldl Device.applyPacket sfps = {address} := by
  rw [List.foldl_cons, Device.applyPacket_all_off]
  exact Device.applyPacket_on ∅ address

theorem applied_off (sfps : IndexSet) (ha : address ≠ broadcastAddress) :
    [allOff, SfpPacket.encode address true, SfpPacket.encode address false].foldl Device.applyPacket sfps = ∅ := by
  rw [List.foldl_cons, Device.applyPacket_all_off, List.foldl_cons, Device.applyPacket_on, List.foldl_cons,
    Device.applyPacket_off _ ha]
  exact Device.erase_singleton address

theorem asks_lockAndEcho (n : UInt32) : (f.lockAndEcho n fanout).Asks fun _ r => r.writesPacket = false := by
  unfold lockAndEcho
  refine asks_bind trivial fun _ => ?_
  refine asks_bind (asks_mapStations fanout.asks_enableUplink fun _ _ h => h.1) fun _ => ?_
  refine asks_bind trivial fun _ => ?_
  refine asks_bind (asks_mapStations f.overlord.asks_enableUplink fun _ _ h => h.1) fun _ => ?_
  exact asks_mapStations f.overlord.asks_measureEcho fun _ _ h => h

/-- What a failed measurement has sent, and where it stopped: before the endpoint was on; or, for a failure of
locking or the echo, after the endpoint was switched off again; or at the packet that was to do so. -/
inductive BreaksOff (address : UInt32) (m : SlotMapping) (e : Error) (tr : Trace Seat FleetSessions) : Prop where
  | early (hstop : StopsEarly m e tr)
  | restored (hsent : sent tr = [allOff, SfpPacket.encode address true, SfpPacket.encode address false])
  | leftOn (hsent : sent tr = [allOff, SfpPacket.encode address true]) (e' : Error)
      (hstop : StopsAt tr .overlord (.switchSfp address false) e')

/-- **Packets of a measurement**: one that succeeds sends all three. -/
theorem runs_measureThrough_sent (hs : f.Staffed s) (hr : f.Resolves address slot m fanout) :
    Runs now (f.measureThrough address m fanout) s
      (fun _ _ tr => sent tr = [allOff, SfpPacket.encode address true, SfpPacket.encode address false])
      fun e _ tr => BreaksOff address m e tr := by
  obtain ⟨hrole, u, hu, -⟩ := hs.fanouts m.fanout fanout hr.board
  refine runs_measureThrough hs hr hu (fun _ e _ tr hstop _ => .early hstop) fun o v tr hline hsent _ => ?_
  have hquiet : Runs now (f.lockAndEcho m.fanout fanout) (s.seated m.fanout o v) (fun _ _ tr => sent tr = [])
      fun _ _ tr => sent tr = [] :=
    (runs_const_iff (R := fun _ tr => sent tr = [])).mpr
      (sent_eq_nil (asks_lockAndEcho m.fanout) hline.overlord.batch)
  refine runs_echoAndOff ((hquiet.and (runs_lockAndEcho hs.role hrole hline.overlord hline.fanout
    hline.isEmpty_eq_false)).mono (fun echo t tr' h => ?ok) fun e t tr' h => ?failed)
  case ok =>
    obtain ⟨hnone, ⟨o', v', rfl, ho', -⟩, -⟩ := h
    refine (runs_switchSfp hs.role ho' hr.le_maxAddress).mono (fun _ t tr'' h => ?_) fun e t tr'' h => ?_
    · obtain ⟨-, -, -, -, hoff, -⟩ := h
      rw [sent_append, hsent, sent_append, hnone, hoff]
      rfl
    · obtain ⟨-, hoff, -, hstop⟩ := h
      refine .leftOn ?_ e ((hstop.append _).append _)
      rw [sent_append, hsent, sent_append, hnone, hoff]
      rfl
  case failed =>
    obtain ⟨hnone, ⟨o', v', rfl, ho', -⟩, -⟩ := h
    refine (runs_switchSfp hs.role ho' hr.le_maxAddress).mono (fun _ t tr'' h => ?_) fun e' t tr'' h => ?_
    · obtain ⟨-, -, -, -, hoff, -⟩ := h
      refine .restored ?_
      rw [sent_append, hsent, sent_append, hnone, hoff]
      rfl
    · obtain ⟨-, hoff, -, hstop⟩ := h
      refine .leftOn ?_ e' ((hstop.append _).append _)
      rw [sent_append, hsent, sent_append, hnone, hoff]
      rfl

/-! ## The failure that is reported -/

/-- The steps of a measurement in their order; the first that fails is the last. -/
def stepsThrough (f : Fleet) (address : UInt32) (m : SlotMapping) (fanout : Board) : Procedure Seat Echo := do
  onFanout m.fanout (fanout.selectMux m.slot)
  onOverlord (f.overlord.switchSfp broadcastAddress false)
  settle "SFP switch-off" f.overlord.delays.sfpSettle
  onOverlord (f.overlord.switchSfp address true)
  settle "SFP switch-on" f.overlord.delays.sfpSettle
  let echo ← f.lockAndEcho m.fanout fanout
  onOverlord (f.overlord.switchSfp address false)
  return echo

/-- The switch-off at the end does not hide an earlier failure. -/
theorem result_measureThrough (f : Fleet) (address : UInt32) (m : SlotMapping) (fanout : Board) (now : UInt64)
    (s : FleetSessions) : ((f.measureThrough address m fanout).run now s).result =
      ((f.stepsThrough address m fanout).run now s).result := by
  unfold measureThrough stepsThrough
  -- the steps before locking are the same
  refine result_bind_congr fun _ _ => result_bind_congr fun _ _ => result_bind_congr fun _ _ => ?_
  refine result_bind_congr fun _ _ => result_bind_congr fun _ t => ?_
  rw [result_bind, result_bind, run_attempt]
  cases hm : ((f.lockAndEcho m.fanout fanout).run now t).result with
  | ok echo =>
    show ((_ >>= _ : Procedure Seat Echo).run now _).result = ((_ >>= _ : Procedure Seat Echo).run now _).result
    rw [result_bind, result_bind, run_attempt]
    cases hs : ((onOverlord (f.overlord.switchSfp address false)).run now
      ((f.lockAndEcho m.fanout fanout).run now t).state).result <;> rfl
  | error e =>
    show ((_ >>= _ : Procedure Seat Echo).run now _).result = _
    rw [result_bind, run_attempt]
    cases hs : ((onOverlord (f.overlord.switchSfp address false)).run now
      ((f.lockAndEcho m.fanout fanout).run now t).state).result <;> rfl

theorem result_measureDelay (hr : f.Resolves address slot m fanout) :
    ((f.measureDelay address slot).run now s).result =
      ((f.stepsThrough address m fanout).run now s).result.map (⟨address, m.fanout, m.slot, ·⟩) := by
  refine (runs_result_iff.mp (runs_measureDelay (fun hnone => absurd hr (hnone m fanout)) fun m' fanout' hr' =>
    ?_)).symm
  obtain ⟨rfl, rfl⟩ := hr.unique hr'
  refine (runs_result_iff.mpr (result_measureThrough f address m fanout now s).symm).mono
    (fun echo _ _ h => ?_) fun e _ _ h => ?_
  · rw [h]
    rfl
  · rw [h]
    rfl

/-! ## Measurements -/

theorem runs_measureDelay_sent (hs : f.Staffed s) (address : UInt32) (slot : Option UInt32) (now : UInt64) :
    Runs now (f.measureDelay address slot) s
      (fun _ _ tr => address ≠ broadcastAddress ∧
        sent tr = [allOff, SfpPacket.encode address true, SfpPacket.encode address false])
      fun e _ tr => tr = [] ∨ ∃ m fanout, f.Resolves address slot m fanout ∧ BreaksOff address m e tr :=
  runs_measureDelay (fun _ _ => Or.inl rfl) fun m fanout hr => (runs_measureThrough_sent hs hr).mono
    (fun _ _ _ h => ⟨hr.ne_broadcast, h⟩) fun _ _ _ h => Or.inr ⟨m, fanout, hr, h⟩

/-- **Transmitters after a measurement.**  After a success all are off.  After a failure they are as before, and
no packet has arrived, because an argument was wrong or the run stopped at the mux or at the first packet; or
all are off; or the endpoint alone is on, and the run stopped at its switch-off.  The failure reported is the
first one among the steps. -/
theorem measureDelay_transmitters (hs : f.Staffed s) (address : UInt32) (slot : Option UInt32) (now : UInt64) :
    (∀ d, ((f.measureDelay address slot).run now s).result = .ok d →
      ((f.measureDelay address slot).run now s).state.transmitters = ∅) ∧
    (∀ e, ((f.measureDelay address slot).run now s).result = .error e →
      let tr := (f.measureDelay address slot).asked now s
      let t := ((f.measureDelay address slot).run now s).state
      (t.transmitters = s.transmitters ∧ sent tr = [] ∧ (tr = [] ∨
        (∃ m fanout, f.Resolves address slot m fanout ∧
          StopsAt tr (.fanout m.fanout) (.write FanoutNode.mux m.slot) e) ∨
        StopsAt tr .overlord (.switchSfp broadcastAddress false) e)) ∨
      t.transmitters = ∅ ∨
      (t.transmitters = {address} ∧ ∃ e', StopsAt tr .overlord (.switchSfp address false) e')) ∧
    (∀ m fanout, f.Resolves address slot m fanout →
      ((f.measureDelay address slot).run now s).result =
        ((f.stepsThrough address m fanout).run now s).result.map (⟨address, m.fanout, m.slot, ·⟩)) ∧
    ((∀ m fanout, ¬ f.Resolves address slot m fanout) →
      (∃ e, ((f.measureDelay address slot).run now s).result = .error e) ∧
        (f.measureDelay address slot).asked now s = []) := by
  have ht := (transmitters_asked now (f.measureDelay address slot) hs.overlord.plays.kind).1
  obtain ⟨hok, herr⟩ := runs_iff.mp (runs_measureDelay_sent hs address slot now)
  refine ⟨fun d hd => ?_, fun e he => ?_, fun m fanout hr => result_measureDelay hr,
    measureDelay_of_not_resolves now s⟩
  · obtain ⟨ha, hsent⟩ := hok d hd
    rw [ht, hsent, applied_off _ ha]
  · dsimp only
    rcases herr e he with hnil | ⟨m, fanout, hr, hbreak⟩
    · rw [ht, hnil]
      exact Or.inl ⟨rfl, rfl, Or.inl rfl⟩
    cases hbreak with
    | early hstop =>
      cases hstop with
      | untouched hsent hstop =>
        refine Or.inl ⟨by rw [ht, hsent]; rfl, hsent, Or.inr ?_⟩
        exact hstop.imp_left fun h => ⟨m, fanout, hr, h⟩
      | dark hsent => exact Or.inr (Or.inl (by rw [ht, hsent, applied_allOff]))
    | restored hsent => exact Or.inr (Or.inl (by rw [ht, hsent, applied_off _ hr.ne_broadcast]))
    | leftOn hsent e' hstop => exact Or.inr (Or.inr ⟨by rw [ht, hsent, applied_on], e', hstop⟩)

/-- The small fleet when the seventh dispatch to the overlord fails, which carries the switch-off. -/
def lostSwitchOff : FleetSessions := opened ((Device.overlord "ovld").failingAt 7 "lost") (Device.fanout "fan")

theorem lostSwitchOff_leaves_endpoint_on :
    ((small.measureDelay 0x10 (some 2)).run 0 lostSwitchOff).state.transmitters = {0x10} ∧
      ∃ e, StopsAt ((small.measureDelay 0x10 (some 2)).asked 0 lostSwitchOff) .overlord (.switchSfp 0x10 false) e := by
  have hplays : ((Device.overlord "ovld").failingAt 7 "lost").Plays .overlord :=
    (Device.Plays.overlord "ovld").extends_of rfl (.refl _)
  have hs : small.Staffed lostSwitchOff := small_staffed hplays (Device.Plays.fanout "fan")
  obtain ⟨hok, herr, -⟩ := measureDelay_transmitters hs 0x10 (some 2) 0
  have hon : ((small.measureDelay 0x10 (some 2)).run 0 lostSwitchOff).state.transmitters ≠ ∅ := by
    rw [ne_eq, ← Std.ExtTreeSet.isEmpty_iff]
    decide +kernel
  have hdark : lostSwitchOff.transmitters = ∅ := rfl
  cases h : ((small.measureDelay 0x10 (some 2)).run 0 lostSwitchOff).result with
  | ok a => exact absurd (hok a h) hon
  | error e =>
    rcases herr e h with ⟨hsame, -⟩ | hempty | hleft
    · exact absurd (hsame.trans hdark) hon
    · exact absurd hempty hon
    · exact hleft

end Fleet

end TimingFleet

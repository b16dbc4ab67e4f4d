import TimingFleet.Proofs.Fleet.ArgumentChecks
import TimingFleet.Proofs.Fleet.DelayOutcome
import TimingFleet.Proofs.Fleet.Places
import TimingFleet.Proofs.Operation.Arguments

/-!
# Where a measurement goes

A measurement at a mapped address goes to the overlord and to the fanout of its place, and nowhere else
(`seats_measureDelay`).  If the fleet lacks the fanout it goes nowhere (`measureDelay_of_missing`).  With boards in their
roles and a slot in range it blames no argument (`not_blamesArgument_measureDelay`).
-/

namespace TimingFleet

open Procedure FleetSessions Text

/-- A fanout that is missing is not a slot that is out of range. -/
theorem Fleet.fanoutError_ne_slotError (n k : UInt32) : fanoutError n ≠ Board.slotError k := by
  intro h
  have hfanout : "fanout slot ".toList = "fanout ".toList ++ "slot ".toList := by decide
  have htext := congrArg String.toList (Error.invalidArgument.inj h)
  simp only [String.toList_append, List.append_assoc, hfanout] at htext
  have hrest := List.append_cancel_left htext
  -- one text goes on with a digit, the other with a letter
  cases hdigits : (Numeral.decimal n.toNat).toList with
  | nil =>
    rw [hdigits] at hrest
    exact absurd (List.head_eq_of_cons_eq hrest) (by decide)
  | cons c digits =>
    have hc : c ∈ Nat.toDigits 10 n.toNat := by
      rw [Numeral.decimal, String.toList_ofList] at hdigits
      exact hdigits ▸ List.mem_cons_self
    have hdigit : c.isDigit = true := Nat.isDigit_of_mem_toDigits (by decide) (by decide) hc
    rw [hdigits] at hrest
    obtain rfl : c = 's' := List.head_eq_of_cons_eq hrest
    exact absurd hdigit (by decide)

namespace Fleet

variable {f : Fleet} {s : FleetSessions} {address : UInt32} {slot : Option UInt32} {m : SlotMapping} {fanout : Board}
  {now : UInt64}

theorem measureDelay_of_missing (haddress : isEndpointAddress address = true) (hm : f.addressMap[address]? = some m)
    (hb : f.fanouts[m.fanout]? = none) (now : UInt64) (s : FleetSessions) :
    ((f.measureDelay address none).run now s).result = .error (fanoutError m.fanout) ∧
      ((f.measureDelay address none).run now s).state = s ∧ (f.measureDelay address none).asked now s = [] := by
  have hrun : Runs now (f.measureDelay address none) s (fun _ _ _ => False)
      fun e t tr => e = fanoutError m.fanout ∧ t = s ∧ tr = [] := by
    unfold measureDelay locate
    rw [if_pos haddress, hm]
    refine runs_bind (runs_bind (runs_log (runs_pure ?_)))
    rw [hb]
    exact runs_fail ⟨rfl, rfl, rfl⟩
  obtain ⟨hok, herr⟩ := runs_iff.mp hrun
  cases hresult : ((f.measureDelay address none).run now s).result with
  | ok d => exact (hok d hresult).elim
  | error e =>
    obtain ⟨rfl, hstate, hasked⟩ := herr e hresult
    exact ⟨rfl, hstate, hasked⟩

/-- **Where it goes**: only the overlord and the fanout of the place are asked, and no other session changes. -/
theorem seats_measureDelay (hr : f.Resolves address slot m fanout) (now : UInt64) (s : FleetSessions) :
    (∀ x ∈ (f.measureDelay address slot).asked now s, x.2.1 = .overlord ∨ x.2.1 = .fanout m.fanout) ∧
      ∀ seat, seat ≠ .overlord → seat ≠ .fanout m.fanout →
        ((f.measureDelay address slot).run now s).state.session? seat = s.session? seat := by
  have hasks := asks_measureThrough f address m fanout
  refine ⟨?_, fun seat hoverlord hfanout => ?_⟩
  · rw [asked_measureDelay hr]
    exact hasks.of_mem_asked
  · have hrun : Runs now (f.measureDelay address slot) s (fun _ t _ => t.session? seat = s.session? seat)
        fun _ t _ => t.session? seat = s.session? seat := by
      refine runs_measureDelay (fun hno => absurd hr (hno m fanout)) fun m' fanout' hr' => ?_
      obtain ⟨rfl, rfl⟩ := hr.unique hr'
      refine (runs_const_iff (R := fun (t : FleetSessions) _ => t.session? seat = s.session? seat)).mpr ?_
      refine (hasks.keeps (I := fun t : FleetSessions => t.session? seat = s.session? seat) ?_ rfl).1
      intro i r t hi ht
      have hne : i ≠ seat := by
        rcases hi with rfl | rfl
        · exact hoverlord.symm
        · exact hfanout.symm
      exact (session?_answer_of_ne hne r).trans ht
    exact (runs_const_iff (R := fun (t : FleetSessions) _ => t.session? seat = s.session? seat)).mp hrun

theorem failsOnly_measureThrough (hrole : f.overlord.role = .overlord) (hb : fanout.role = .fanout)
    (haddress : address ≤ maxAddress) (hslot : m.slot < fanoutSlots) :
    (f.measureThrough address m fanout).FailsOnly fun e => ¬ e.BlamesArgument := by
  have hbroadcast : broadcastAddress ≤ maxAddress := by decide
  have hswitch : ∀ {address} (on : Bool), address ≤ maxAddress →
      (onOverlord (f.overlord.switchSfp address on)).FailsOnly fun e => ¬ e.BlamesArgument :=
    fun on h => failsOnly_mapStations (Board.failsOnly_switchSfp hrole h on)
  have hecho : (f.lockAndEcho m.fanout fanout).FailsOnly fun e => ¬ e.BlamesArgument := by
    unfold lockAndEcho
    refine failsOnly_bind (failsOnly_log _ _) fun _ => ?_
    refine failsOnly_bind (failsOnly_mapStations Board.failsOnly_enableUplink) fun _ => ?_
    refine failsOnly_bind (failsOnly_log _ _) fun _ => ?_
    refine failsOnly_bind (failsOnly_mapStations Board.failsOnly_enableUplink) fun _ => ?_
    exact failsOnly_mapStations (Board.failsOnly_measureEcho hrole)
  unfold measureThrough
  refine failsOnly_bind (failsOnly_mapStations (Board.failsOnly_selectMux hb hslot)) fun _ => ?_
  refine failsOnly_bind (hswitch false hbroadcast) fun _ => failsOnly_bind (failsOnly_settle _ _) fun _ => ?_
  refine failsOnly_bind (hswitch true haddress) fun _ => failsOnly_bind (failsOnly_settle _ _) fun _ => ?_
  refine failsOnly_attempt_bind hecho (fun echo => ?_) fun e he => ?_
  · exact failsOnly_attempt_bind (hswitch false haddress) (fun _ => failsOnly_pure _) fun _ hs => failsOnly_fail hs
  · refine failsOnly_attempt_bind (hswitch false haddress) (fun _ => failsOnly_fail he) fun _ _ => ?_
    exact failsOnly_bind (failsOnly_log _ _) fun _ => failsOnly_fail he

/-- **Arguments are in order** once the address resolves: whatever the devices do, none is blamed. -/
theorem not_blamesArgument_measureDelay (hr : f.Resolves address slot m fanout) (hrole : f.overlord.role = .overlord)
    (hb : fanout.role = .fanout) (hs : (s.session? (.fanout m.fanout)).isSome = true) {e : Error}
    (he : ((f.measureDelay address slot).run now s).result = .error e) : ¬ e.BlamesArgument := by
  have hrun : Runs now (f.measureDelay address slot) s (fun _ _ _ => True) fun e _ _ => ¬ e.BlamesArgument := by
    refine runs_measureDelay (fun hno => absurd hr (hno m fanout)) fun m' fanout' hr' => ?_
    obtain ⟨rfl, rfl⟩ := hr.unique hr'
    refine runs_of_failsOnly_within (I := fun t : FleetSessions => (t.session? (.fanout m.fanout)).isSome = true)
      (failsOnly_measureThrough hrole hb hr.le_maxAddress hr.slot_lt) (asks_measureThrough f address m fanout)
      (fun i r t _ ht => (isSome_session?_answer t i r _).trans ht) (fun i r t e hi ht herr => ?_) now hs
    have hseat : ∃ u, t.session? i = some u := by
      rcases hi with rfl | rfl
      · exact ⟨t.overlord, rfl⟩
      · exact Option.isSome_iff_exists.mp ht
    obtain ⟨u, hu⟩ := hseat
    have hanswer : (t.answer i r).result = (u.answer r).result := by rw [answer_of_session? hu, Outcome.result_inState]
    exact Session.not_blamesArgument (hanswer.symm.trans herr)
  exact (runs_iff.mp hrun).2 e he

end Fleet

end TimingFleet

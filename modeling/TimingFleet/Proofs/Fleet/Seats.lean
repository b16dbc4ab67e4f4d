import TimingFleet.Fleet
import TimingFleet.Proofs.Board.Operations

/-!
# Boards in their seats

A measurement works with the overlord and one fanout.  `s.seated n o u` are the sessions `s` with `o` at the
overlord and `u` at fanout `n`; a procedure on either board changes its own session and no other.
`Fleet.Staffed` says that idle boards in their roles sit where the fleet has them.
-/

namespace TimingFleet

namespace FleetSessions

variable {s : FleetSessions} {n : UInt32} {o u : Session}

/-- The sessions with `o` at the overlord and `u` at fanout `n`. -/
def seated (s : FleetSessions) (n : UInt32) (o u : Session) : FleetSessions := ⟨o, s.fanouts.insert n u⟩

/-- The session at a seat. -/
def session? (s : FleetSessions) : Seat → Option Session
  | .overlord => some s.overlord
  | .fanout n => s.fanouts[n]?

@[simp] theorem getElem?_seated {k : UInt32} :
    (s.seated n o u).fanouts[k]? = if n = k then some u else s.fanouts[k]? := by
  simp [seated, Std.ExtTreeMap.getElem?_insert]

/-- Sessions where they already are. -/
theorem seated_self (h : s.fanouts[n]? = some u) : s.seated n s.overlord u = s := by
  have hf : s.fanouts.insert n u = s.fanouts := by
    refine Std.ExtTreeMap.ext_getElem? fun k => ?_
    rw [Std.ExtTreeMap.getElem?_insert]
    by_cases hk : n = k
    · subst hk
      simp [h]
    · simp [hk]
  rw [seated, hf]

theorem answer_overlord (r : Request) :
    (s.seated n o u).answer .overlord r = (o.answer r).inState fun o => s.seated n o u := rfl

theorem answer_fanout (r : Request) :
    (s.seated n o u).answer (.fanout n) r = (u.answer r).inState fun u => s.seated n o u := by
  have hn : (s.seated n o u).fanouts[n]? = some u := by simp
  have hf : ∀ u', (s.fanouts.insert n u).insert n u' = s.fanouts.insert n u' := by
    refine fun u' => Std.ExtTreeMap.ext_getElem? fun k => ?_
    simp only [Std.ExtTreeMap.getElem?_insert]
    split_ifs <;> rfl
  simp only [answer, hn]
  unfold seated
  simp only [hf]

end FleetSessions

namespace Fleet

open Procedure

variable {α : Type} {p : Procedure Unit α} {s : FleetSessions} {n : UInt32} {o u : Session} {now : UInt64}
  {Q : α → FleetSessions → Trace Seat FleetSessions → Prop}
  {E : Error → FleetSessions → Trace Seat FleetSessions → Prop}

/-- **At the overlord**: the procedure runs in the overlord's session. -/
theorem runs_onOverlord
    (h : Runs now p o (fun a t tr => Q a (s.seated n t u) (tr.map fun y => (s.seated n y.1 u, .overlord, y.2.2)))
      fun e t tr => E e (s.seated n t u) (tr.map fun y => (s.seated n y.1 u, .overlord, y.2.2))) :
    Runs now (onOverlord p) (s.seated n o u) Q E :=
  runs_mapStations (g := fun o => s.seated n o u) (fun _ r _ => FleetSessions.answer_overlord r) h

/-- **At a fanout**: the procedure runs in the fanout's session. -/
theorem runs_onFanout
    (h : Runs now p u (fun a t tr => Q a (s.seated n o t) (tr.map fun y => (s.seated n o y.1, .fanout n, y.2.2)))
      fun e t tr => E e (s.seated n o t) (tr.map fun y => (s.seated n o y.1, .fanout n, y.2.2))) :
    Runs now (onFanout n p) (s.seated n o u) Q E :=
  runs_mapStations (g := fun u => s.seated n o u) (fun _ r _ => FleetSessions.answer_fanout r) h

theorem asked_onOverlord : (onOverlord p).asked now (s.seated n o u) =
    (p.asked now o).map fun y => (s.seated n y.1 u, .overlord, y.2.2) :=
  asked_mapStations (g := fun o => s.seated n o u) (fun _ r _ => FleetSessions.answer_overlord r) now p o

theorem asked_onFanout : (onFanout n p).asked now (s.seated n o u) =
    (p.asked now u).map fun y => (s.seated n o y.1, .fanout n, y.2.2) :=
  asked_mapStations (g := fun u => s.seated n o u) (fun _ r _ => FleetSessions.answer_fanout r) now p u

/-! ## Fleets that fit their sessions -/

/-- The boards of the fleet are in their roles, and their sessions are open to idle devices for these. -/
structure Staffed (f : Fleet) (s : FleetSessions) : Prop where
  role : f.overlord.role = .overlord
  overlord : s.overlord.Idle .overlord
  fanouts : ∀ (n : UInt32) (b : Board), f.fanouts[n]? = some b →
    b.role = .fanout ∧ ∃ u : Session, s.fanouts[n]? = some u ∧ u.Idle .fanout

theorem Staffed.seated {f : Fleet} (hs : f.Staffed s) (n : UInt32) (ho : o.Idle .overlord) (hu : u.Idle .fanout) :
    f.Staffed (s.seated n o u) := by
  refine ⟨hs.role, ho, fun k b hb => ?_⟩
  obtain ⟨hrole, v, hv, hidle⟩ := hs.fanouts k b hb
  refine ⟨hrole, ?_⟩
  rw [FleetSessions.getElem?_seated]
  by_cases hk : n = k
  · exact ⟨u, if_pos hk, hu⟩
  · exact ⟨v, (if_neg hk).trans hv, hidle⟩

/-- Each board of the fleet goes by the id of the device that its session is open to. -/
structure Named (f : Fleet) (s : FleetSessions) : Prop where
  overlord : f.overlord.name = s.overlord.device.id
  fanouts : ∀ (n : UInt32) (b : Board) (u : Session), f.fanouts[n]? = some b → s.fanouts[n]? = some u →
    b.name = u.device.id

/-- A fleet with one fanout and no pauses. -/
def small : Fleet where
  overlord := ⟨"ovld", .overlord, .none⟩
  fanouts := (∅ : IndexTable Board).insert 0 ⟨"fan", .fanout, .none⟩

/-- New sessions for the small fleet. -/
def opened (d e : Device) : FleetSessions :=
  ⟨Session.ofDevice d, (∅ : IndexTable Session).insert 0 (Session.ofDevice e)⟩

theorem getElem?_small (n : UInt32) :
    small.fanouts[n]? = if 0 = n then some ⟨"fan", .fanout, .none⟩ else none := by
  simp [small, Std.ExtTreeMap.getElem?_insert]

theorem getElem?_opened (d e : Device) (n : UInt32) :
    (opened d e).fanouts[n]? = if 0 = n then some (Session.ofDevice e) else none := by
  simp [opened, Std.ExtTreeMap.getElem?_insert]

theorem small_staffed {d e : Device} (hd : d.Plays .overlord) (he : e.Plays .fanout) :
    small.Staffed (opened d e) := by
  refine ⟨rfl, ⟨hd, rfl⟩, fun n b hb => ?_⟩
  rw [getElem?_small] at hb
  rw [getElem?_opened]
  split_ifs at hb with hn
  · cases hb
    exact ⟨rfl, Session.ofDevice e, if_pos hn, he, rfl⟩

theorem small_named {d e : Device} (hd : d.id = "ovld") (he : e.id = "fan") : small.Named (opened d e) := by
  refine ⟨hd.symm, fun n b u hb hu => ?_⟩
  rw [getElem?_small] at hb
  rw [getElem?_opened] at hu
  split_ifs at hb hu
  · cases hb
    cases hu
    exact he.symm

/-- The small fleet as it comes up. -/
def fresh : FleetSessions := opened (Device.overlord "ovld") (Device.fanout "fan")

theorem small_staffed_fresh : small.Staffed fresh :=
  small_staffed (Device.Plays.overlord "ovld") (Device.Plays.fanout "fan")

/-- The place that an address stands for: the given slot of fanout 0, or the mapped one. -/
def target? (f : Fleet) (address : UInt32) (slot : Option UInt32) : Option SlotMapping :=
  match slot with
  | some slot => some ⟨0, slot⟩
  | none => f.addressMap[address]?

/-- The address of an endpoint stands for an existing slot of a board in the fleet. -/
structure Resolves (f : Fleet) (address : UInt32) (slot : Option UInt32) (m : SlotMapping) (fanout : Board) :
    Prop where
  isEndpoint : isEndpointAddress address = true
  target : f.target? address slot = some m
  slot_lt : m.slot < fanoutSlots
  board : f.fanouts[m.fanout]? = some fanout

namespace Resolves

variable {f : Fleet} {address : UInt32} {slot : Option UInt32} {m : SlotMapping} {fanout : Board}

theorem le_maxAddress (h : f.Resolves address slot m fanout) : address ≤ maxAddress := by
  have ha := h.isEndpoint
  simp only [isEndpointAddress, Bool.and_eq_true, decide_eq_true_eq] at ha
  exact ha.2

/-- An endpoint address is no broadcast. -/
theorem ne_broadcast (h : f.Resolves address slot m fanout) : address ≠ broadcastAddress := by
  rintro rfl
  exact absurd h.isEndpoint (by decide)

theorem unique {m' : SlotMapping} {fanout' : Board} (h : f.Resolves address slot m fanout)
    (h' : f.Resolves address slot m' fanout') : m = m' ∧ fanout = fanout' := by
  obtain rfl := Option.some.inj (h.target.symm.trans h'.target)
  exact ⟨rfl, Option.some.inj (h.board.symm.trans h'.board)⟩

end Resolves

section Targets

variable {f : Fleet} {address : UInt32} {slot : Option UInt32}
  {Q : DelayMeasurement → FleetSessions → Trace Seat FleetSessions → Prop}

/-- Only an address without a place, or a slot that does not exist, can fail. -/
theorem runs_locate {Q : SlotMapping → FleetSessions → Trace Seat FleetSessions → Prop}
    (hfail : (∀ m, f.target? address slot = some m → fanoutSlots ≤ m.slot) → ∀ e, E e s [])
    (hok : ∀ m, f.target? address slot = some m → Q m s []) :
    Runs now (f.locate address slot) s Q E := by
  unfold locate
  unfold target? at hfail hok
  cases slot with
  | some k =>
    show Runs now (if fanoutSlots ≤ k then _ else _) s Q E
    by_cases hk : fanoutSlots ≤ k
    · rw [if_pos hk]
      exact runs_fail (hfail (fun m hm => Option.some.inj hm ▸ hk) _)
    · rw [if_neg hk]
      exact hok _ rfl
  | none =>
    dsimp only at hfail hok ⊢
    cases hm : f.addressMap[address]? with
    | none => exact runs_fail (hfail (fun m h => nomatch hm.symm.trans h) _)
    | some m => exact runs_bind (runs_log (runs_pure (hok m hm)))

/-- A slot that does not exist fails the measurement before anything is asked. -/
theorem runs_measureThrough_of_le {m : SlotMapping} {fanout : Board}
    {Q : Echo → FleetSessions → Trace Seat FleetSessions → Prop} (hm : fanoutSlots ≤ m.slot)
    (hfail : ∀ e, E e s []) :
    Runs now (f.measureThrough address m fanout) s Q E := by
  unfold measureThrough
  refine runs_bind ?_
  unfold Board.selectMux Board.require
  rw [if_pos hm]
  split_ifs
  · exact hfail _
  · exact hfail _

/-- **Measurements**: an address that resolves is measured through its slot, and any other fails before
anything is asked. -/
theorem runs_measureDelay (hfail : (∀ m fanout, ¬ f.Resolves address slot m fanout) → ∀ e, E e s [])
    (h : ∀ m fanout, f.Resolves address slot m fanout → Runs now (f.measureThrough address m fanout) s
      (fun echo => Q ⟨address, m.fanout, m.slot, echo⟩) E) :
    Runs now (f.measureDelay address slot) s Q E := by
  unfold measureDelay
  by_cases ha : isEndpointAddress address = true
  · rw [if_pos ha]
    refine runs_bind (runs_locate (fun hout => hfail fun m fanout hr => ?_) fun m hm => ?_)
    · exact UInt32.not_le.mpr hr.slot_lt (hout m hr.target)
    cases hb : f.fanouts[m.fanout]? with
    | none =>
      refine runs_fail (hfail (fun m' fanout hr => ?_) _)
      obtain rfl := Option.some.inj (hm.symm.trans hr.target)
      exact nomatch hb.symm.trans hr.board
    | some fanout =>
      -- an address map may name a slot that does not exist, which only the mux refuses
      by_cases hslot : m.slot < fanoutSlots
      · refine runs_bind ((h m fanout ⟨ha, hm, hslot, hb⟩).mono (fun echo t tr hq => ?_) fun _ _ _ he => he)
        refine runs_bind (runs_log (runs_pure ?_))
        simpa using hq
      · refine runs_bind (runs_measureThrough_of_le (UInt32.not_lt.mp hslot) fun e => ?_)
        refine hfail (fun m' fanout' hr => ?_) e
        obtain rfl := Option.some.inj (hm.symm.trans hr.target)
        exact hslot hr.slot_lt
  · rw [if_neg ha]
    exact runs_fail (hfail (fun m fanout hr => ha hr.isEndpoint) _)

/-- A measurement asks what the measurement through its slot asks. -/
theorem asked_measureDelay {m : SlotMapping} {fanout : Board} (hr : f.Resolves address slot m fanout)
    (now : UInt64) (s : FleetSessions) :
    (f.measureDelay address slot).asked now s = (f.measureThrough address m fanout).asked now s := by
  refine (runs_const_iff (R := fun _ tr => tr = (f.measureThrough address m fanout).asked now s)).mp ?_
  refine runs_measureDelay (fun hnone => absurd hr (hnone m fanout)) fun m' fanout' hr' => ?_
  obtain ⟨rfl, rfl⟩ := hr.unique hr'
  exact (runs_const_iff (R := fun _ tr => tr = (f.measureThrough address m fanout).asked now s)).mpr rfl

/-- An address that does not resolve fails with nothing asked. -/
theorem measureDelay_of_not_resolves (now : UInt64) (s : FleetSessions)
    (hnone : ∀ m fanout, ¬ f.Resolves address slot m fanout) :
    (∃ e, ((f.measureDelay address slot).run now s).result = .error e) ∧
      (f.measureDelay address slot).asked now s = [] := by
  have hrun : Runs now (f.measureDelay address slot) s (fun _ _ _ => False) fun _ _ tr => tr = [] :=
    runs_measureDelay (fun _ _ => rfl) fun m fanout hr => absurd hr (hnone m fanout)
  obtain ⟨hok, herr⟩ := runs_iff.mp hrun
  cases hres : ((f.measureDelay address slot).run now s).result with
  | ok d => exact (hok d hres).elim
  | error e => exact ⟨⟨e, rfl⟩, herr e hres⟩

/-- Where something is asked, the address resolves. -/
theorem resolves_of_mem_asked {x : FleetSessions × Seat × Request}
    (hx : x ∈ (f.measureDelay address slot).asked now s) : ∃ m fanout, f.Resolves address slot m fanout := by
  by_cases h : ∃ m fanout, f.Resolves address slot m fanout
  · exact h
  · rw [(measureDelay_of_not_resolves now s fun m fanout hr => h ⟨m, fanout, hr⟩).2] at hx
    exact absurd hx List.not_mem_nil

end Targets

end Fleet

end TimingFleet

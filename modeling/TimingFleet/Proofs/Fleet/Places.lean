import TimingFleet.Proofs.Fleet.Seats
import TimingFleet.Proofs.Session.Failures

/-!
# One seat of a fleet

A procedure at one seat works in the session of that seat and in no other (`Fleet.runs_atStation`).  At a seat that
is not there it changes nothing and gets nothing (`Fleet.runs_atStation_of_none`).

* `s.put seat u`: the sessions `s` with `u` at the seat.
* `askedAt seat tr`: what a run has asked of the session at the seat, as a run of that session alone sees it.
-/

namespace TimingFleet

open Procedure

namespace FleetSessions

variable {s : FleetSessions} {seat other : Seat} {u v : Session}

/-- The sessions with `u` at the seat. -/
def put (s : FleetSessions) (seat : Seat) (u : Session) : FleetSessions :=
  match seat with
  | .overlord => { s with overlord := u }
  | .fanout n => { s with fanouts := s.fanouts.insert n u }

theorem session?_put (s : FleetSessions) (seat other : Seat) (u : Session) :
    (s.put seat u).session? other = if seat = other then some u else s.session? other := by
  cases seat <;> cases other <;> simp [put, session?, Std.ExtTreeMap.getElem?_insert]

theorem session?_put_self (s : FleetSessions) (seat : Seat) (u : Session) : (s.put seat u).session? seat = some u := by
  rw [session?_put, if_pos rfl]

/-- Sessions are the same if each seat has the same. -/
theorem ext_session? {t : FleetSessions} (h : ∀ seat, s.session? seat = t.session? seat) : s = t := by
  obtain ⟨o, fanouts⟩ := s
  obtain ⟨o', fanouts'⟩ := t
  have ho : o = o' := Option.some.inj (h .overlord)
  have hfanouts : fanouts = fanouts' := Std.ExtTreeMap.ext_getElem? fun n => h (.fanout n)
  rw [ho, hfanouts]

theorem put_put (s : FleetSessions) (seat : Seat) (u v : Session) : (s.put seat u).put seat v = s.put seat v := by
  refine ext_session? fun other => ?_
  simp only [session?_put]
  split_ifs <;> rfl

/-- Sessions where they already are. -/
theorem put_self (h : s.session? seat = some u) : s.put seat u = s := by
  refine ext_session? fun other => ?_
  rw [session?_put]
  split_ifs with ho
  · rw [← ho, h]
  · rfl

theorem answer_of_session? (h : s.session? seat = some u) (r : Request) :
    s.answer seat r = (u.answer r).inState (s.put seat) := by
  cases seat with
  | overlord =>
    cases h
    rfl
  | fanout n =>
    have hn : s.fanouts[n]? = some u := h
    simp only [answer, hn]
    rfl

theorem answer_put (s : FleetSessions) (seat : Seat) (u : Session) (r : Request) :
    (s.put seat u).answer seat r = (u.answer r).inState (s.put seat) := by
  rw [answer_of_session? (session?_put_self s seat u),
    show (s.put seat u).put seat = s.put seat from funext (s.put_put seat u)]

/-- A seat that is not there gives nothing. -/
theorem answer_of_none (h : s.session? seat = none) (r : Request) :
    ∃ n, s.answer seat r = .error (Fleet.fanoutError n) s := by
  cases seat with
  | overlord => cases h
  | fanout n =>
    have hn : s.fanouts[n]? = none := h
    exact ⟨n, by simp only [answer, hn]⟩

/-- An answer at one seat leaves the others alone. -/
theorem session?_answer_of_ne (h : seat ≠ other) (r : Request) :
    (s.answer seat r).state.session? other = s.session? other := by
  cases hu : s.session? seat with
  | none =>
    obtain ⟨n, hn⟩ := answer_of_none hu r
    rw [hn]
    rfl
  | some u =>
    rw [answer_of_session? hu, Outcome.state_inState, session?_put, if_neg h]

/-- An answer neither adds a seat nor takes one away. -/
theorem isSome_session?_answer (s : FleetSessions) (seat : Seat) (r : Request) (other : Seat) :
    ((s.answer seat r).state.session? other).isSome = (s.session? other).isSome := by
  by_cases ho : seat = other
  case neg => rw [session?_answer_of_ne ho]
  subst ho
  cases hu : s.session? seat with
  | none =>
    obtain ⟨n, hn⟩ := answer_of_none hu r
    rw [hn]
    exact congrArg Option.isSome hu
  | some u =>
    rw [answer_of_session? hu, Outcome.state_inState, session?_put_self]
    rfl

/-! ## Requests to one seat -/

/-- What has been asked of the session at the seat. -/
def askedAt (seat : Seat) (tr : Trace Seat FleetSessions) : Trace Unit Session :=
  tr.filterMap fun x => if x.2.1 = seat then (x.1.session? seat).map fun u => (u, (), x.2.2) else none

theorem askedAt_append (seat : Seat) (tr tr' : Trace Seat FleetSessions) :
    askedAt seat (tr ++ tr') = askedAt seat tr ++ askedAt seat tr' := List.filterMap_append

theorem askedAt_self (s : FleetSessions) (seat : Seat) (tr : Trace Unit Session) :
    askedAt seat (tr.map fun y => (s.put seat y.1, seat, y.2.2)) = tr := by
  simp only [askedAt, List.filterMap_map, Function.comp_def, if_true, session?_put_self]
  exact List.filterMap_some

theorem exists_of_mem_askedAt {tr : Trace Seat FleetSessions} {x : Session × Unit × Request} (h : x ∈ askedAt seat tr) :
    ∃ y ∈ tr, y.2.1 = seat := by
  obtain ⟨y, hy, hyx⟩ := List.mem_filterMap.mp h
  by_cases hseat : y.2.1 = seat
  · exact ⟨y, hy, hseat⟩
  · rw [if_neg hseat] at hyx
    cases hyx

theorem askedAt_of_ne {tr : Trace Seat FleetSessions} (h : ∀ x ∈ tr, x.2.1 ≠ seat ∨ x.1.session? seat = none) :
    askedAt seat tr = [] := by
  refine List.filterMap_eq_nil_iff.mpr fun x hx => ?_
  rcases h x hx with hne | hnone
  · exact if_neg hne
  · rw [hnone]
    split_ifs <;> rfl

end FleetSessions

namespace Fleet

open FleetSessions

variable {α : Type} {p : Procedure Unit α} {s : FleetSessions} {seat : Seat} {u : Session} {now : UInt64}
  {Q : α → FleetSessions → Trace Seat FleetSessions → Prop}
  {E : Error → FleetSessions → Trace Seat FleetSessions → Prop}

/-- **At one seat**: the procedure runs in the session of the seat. -/
theorem runs_atStation (hu : s.session? seat = some u)
    (h : Runs now p u (fun a t tr => Q a (s.put seat t) (tr.map fun y => (s.put seat y.1, seat, y.2.2)))
      fun e t tr => E e (s.put seat t) (tr.map fun y => (s.put seat y.1, seat, y.2.2))) :
    Runs now (p.atStation seat) s Q E := by
  rw [← put_self hu]
  exact runs_mapStations (g := s.put seat) (fun _ r _ => answer_put s seat _ r) h

/-- **At no seat**: nothing changes, and each request fails for want of the fanout. -/
theorem runs_atStation_of_none {φ : Error → Prop} (hs : s.session? seat = none) (hp : p.FailsOnly φ)
    (hφ : ∀ n, φ (fanoutError n)) :
    Runs now (p.atStation seat) s (fun _ t tr => t = s ∧ ∀ x ∈ tr, x.1 = s ∧ x.2.1 = seat)
      fun e t tr => φ e ∧ t = s ∧ ∀ x ∈ tr, x.1 = s ∧ x.2.1 = seat := by
  have hasks : (p.atStation seat).Asks fun i _ => i = seat := asks_mapStations p.asks_true fun _ _ _ => rfl
  have hkeep : ∀ i (r : Request) (t : FleetSessions), i = seat → t = s → (Stations.answer i r t).state = s := by
    rintro i r t rfl rfl
    obtain ⟨n, hn⟩ := answer_of_none hs r
    exact congrArg Outcome.state hn
  have hreply : ∀ i (r : Request) (t : FleetSessions) e, i = seat → t = s →
      (Stations.answer i r t).result = .error e → φ e := by
    rintro i r t e rfl rfl he
    obtain ⟨n, hn⟩ := answer_of_none hs r
    have herr : (Stations.answer i r t).result = .error (fanoutError n) := congrArg Outcome.result hn
    exact Except.error.inj (herr.symm.trans he) ▸ hφ n
  have hkept : ((p.atStation seat).run now s).state = s ∧ ∀ x ∈ (p.atStation seat).asked now s, x.1 = s :=
    hasks.keeps hkeep rfl
  obtain ⟨hlast, hall⟩ := hkept
  have hseats : ∀ x ∈ (p.atStation seat).asked now s, x.1 = s ∧ x.2.1 = seat :=
    fun x hx => ⟨hall x hx, hasks.of_mem_asked x hx⟩
  have hrest := (runs_const_iff (R := fun t tr => t = s ∧ ∀ x ∈ tr, x.1 = s ∧ x.2.1 = seat)).mpr ⟨hlast, hseats⟩
  have hrun := runs_of_failsOnly_within (I := fun t => t = s) (failsOnly_mapStations hp) hasks hkeep hreply now rfl
  exact (hrun.and hrest).mono (fun _ _ _ h => h.2) fun _ _ _ h => h

end Fleet

end TimingFleet

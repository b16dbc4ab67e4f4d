import TimingFleet.Proofs.Board.Reset
import TimingFleet.Proofs.Fleet.InOrder

/-!
# Setting a fleet up

A set-up resets the overlord, then the fanouts in ascending order, and then sets the time.  It does all of this, or it
ends at the first dispatch that fails, and everything after that dispatch is left undone.

* `Fleet.resetAll`: the resets, which are all of the set-up but the setting of the time.
* `Fleet.IsSetUp f now t`: every board is reset, and the overlord broadcasts the time `now`.
* `Fleet.StopsAt f seat s t tr`: the boards before the seat are reset, those after it untouched, and the time is not set.

Main statement: `Fleet.setup_outcome`.
-/

namespace TimingFleet

open Procedure FleetSessions Text

/-! ## Seats -/

/-- The overlord comes before the fanouts, and these are in ascending order. -/
def Seat.Before : Seat → Seat → Prop
  | .overlord, .fanout _ => True
  | .fanout j, .fanout k => j < k
  | _, .overlord => False

theorem Seat.Before.asymm {seat other : Seat} (h : seat.Before other) : ¬ other.Before seat := by
  cases seat with
  | overlord => exact fun h' => by cases other <;> exact h'
  | fanout j =>
    cases other with
    | overlord => exact h.elim
    | fanout k => exact UInt32.lt_asymm h

theorem Seat.Before.ne {seat other : Seat} (h : seat.Before other) : other ≠ seat := by
  rintro rfl
  exact h.asymm h

namespace FleetSessions

variable {s t : FleetSessions} {tr : Trace Seat FleetSessions} {seats : List Seat} {seat : Seat}

/-- What a session is asked last is what its seat is asked last. -/
theorem endsAt_put {e : Error} {tr : Trace Unit Session} (h : EndsAt () tr e) (s : FleetSessions) (seat : Seat) :
    EndsAt seat (tr.map fun y => (s.put seat y.1, seat, y.2.2)) e := by
  obtain ⟨v, hlast, -, hv⟩ := h
  refine ⟨s.put seat v, by rw [List.getLast?_map, hlast]; rfl, rfl, ?_⟩
  exact (congrArg Outcome.result (answer_put s seat v .dispatch)).trans hv

/-- The board at the seat is reset. -/
def ResetAt (t : FleetSessions) (seat : Seat) (role : BoardRole) : Prop :=
  ∃ v, t.session? seat = some v ∧ v.device.IsReset role

theorem ResetAt.of_touched {role : BoardRole} (h : s.ResetAt seat role) (ht : Touched seats s t tr)
    (hseat : seat ∉ seats) : t.ResetAt seat role := by
  obtain ⟨v, hv, hreset⟩ := h
  exact ⟨v, (ht.others seat hseat).trans hv, hreset⟩

end FleetSessions

namespace Fleet

variable {f : Fleet} {s t : FleetSessions} {now : UInt64} {seat : Seat}

/-- The board at a seat. -/
def board? (f : Fleet) : Seat → Option Board
  | .overlord => some f.overlord
  | .fanout n => f.fanouts[n]?

/-! ## Resets in order -/

/-- Resets fanouts, in the order of the list. -/
def resetFanouts (items : List (UInt32 × Board)) : Procedure Seat (List Unit) :=
  each items fun (n, board) => do
    log .info ("Resetting fanout " ++ Numeral.decimal n.toNat)
    onFanout n (board.reset .hard)

/-- Resets the overlord and every fanout. -/
def resetAll (f : Fleet) : Procedure Seat (List Unit) := do
  onOverlord (f.overlord.reset .hard)
  resetFanouts f.fanouts.toList

theorem setup_eq (f : Fleet) : f.setup = f.resetAll >>= fun _ => f.synctime := by
  unfold resetAll
  rw [bind_assoc]
  rfl

theorem runs_resetAt {b : Board} {role : BoardRole} {v : Session} (hb : b.role = role)
    (hv : s.session? seat = some v) (hidle : v.Idle role) :
    Runs now ((b.reset .hard).atStation seat) s
      (fun _ t tr => Touched [seat] s t tr ∧
        ∃ w, t.session? seat = some w ∧ w.Idle role ∧ w.device = v.device.hardReset role)
      fun e t tr => Touched [seat] s t tr ∧ EndsAt seat tr e ∧ ∃ w, t.session? seat = some w ∧
        (w.device = v.device ∨ w.device = v.device.softReset ∨ w.device = v.device.softReset.resetIo) := by
  refine runs_atStation hv ((Board.runs_hardReset hb hidle).mono (fun _ w tr h => ?_) fun e w tr h => ?_)
  · exact ⟨touched_put s seat w tr, w, session?_put_self s seat w, h⟩
  · exact ⟨touched_put s seat w tr, endsAt_put h.1 s seat, w, session?_put_self s seat w, h.2⟩

/-- **Fanouts in order**: all are reset, or those before the one that fails, and the rest is untouched. -/
theorem runs_resetFanouts {items : List (UInt32 × Board)} (hdistinct : items.Pairwise fun x y => x.1 ≠ y.1)
    (hitems : ∀ x ∈ items, x.2.role = .fanout ∧ ∃ v, s.session? (.fanout x.1) = some v ∧ v.Idle .fanout) :
    Runs now (resetFanouts items) s
      (fun _ t tr => Touched (seatsOf items) s t tr ∧ ∀ x ∈ items, t.ResetAt (.fanout x.1) .fanout)
      fun e t tr => ∃ done x rest, items = done ++ x :: rest ∧ Touched (seatsOf (done ++ [x])) s t tr ∧
        (∀ y ∈ done, t.ResetAt (.fanout y.1) .fanout) ∧ EndsAt (.fanout x.1) tr e := by
  have hreset : ∀ x ∈ items, ∀ t : FleetSessions, t.session? (.fanout x.1) = s.session? (.fanout x.1) →
      Runs now (onFanout x.1 (x.2.reset .hard)) t
        (fun _ u tr => Touched [.fanout x.1] t u tr ∧ u.ResetAt (.fanout x.1) .fanout ∧ ∀ y ∈ tr, True)
        fun e u tr => Touched [.fanout x.1] t u tr ∧ EndsAt (.fanout x.1) tr e := by
    intro x hx t ht
    obtain ⟨hb, v, hv, hidle⟩ := hitems x hx
    refine (runs_resetAt hb (ht.trans hv) hidle).mono (fun _ u tr h => ?_) fun e u tr h => ⟨h.1, h.2.1⟩
    obtain ⟨htouched, w, hw, -, hdev⟩ := h
    exact ⟨htouched, ⟨w, hw, hdev ▸ Device.isReset_hardReset .fanout hidle.plays.kind⟩, fun _ _ => trivial⟩
  refine (runs_each_seat (D := fun x v => ∃ w, v = some w ∧ w.device.IsReset .fanout) (P := fun _ => True)
    (E := fun x e _ tr => EndsAt (.fanout x.1) tr e) hdistinct
    fun x hx t ht => runs_bind (runs_log (hreset x hx t ht))).mono (fun _ t tr h => ⟨h.touched, h.sessions⟩)
    fun e t tr h => ?_
  obtain ⟨done, x, rest, u, before, last, rfl, rfl, hdone, htouched, hlast⟩ := h
  refine ⟨done, x, rest, rfl, ?_, fun y hy => ?_, hlast.append before⟩
  · rw [seatsOf, List.map_append]
    exact hdone.touched.append htouched
  · have hne : y.1 ≠ x.1 := (List.pairwise_append.mp hdistinct).2.2 y hy x List.mem_cons_self
    have hreset : u.ResetAt (.fanout y.1) .fanout := hdone.sessions y hy
    exact hreset.of_touched htouched fun hin => hne (Seat.fanout.inj (List.mem_singleton.mp hin))

/-- Every board is reset. -/
def AllReset (f : Fleet) (t : FleetSessions) : Prop := ∀ seat b, f.board? seat = some b → t.ResetAt seat b.role

/-- In a run from `s` to `t` with the trace `tr`, the boards before the seat are reset, those after it are untouched, and
the time is not set. -/
structure StopsAt (f : Fleet) (seat : Seat) (s t : FleetSessions) (tr : Trace Seat FleetSessions) : Prop where
  earlier : ∀ other b, f.board? other = some b → other.Before seat → t.ResetAt other b.role
  later : ∀ other, seat.Before other → t.session? other = s.session? other ∧ ∀ x ∈ tr, x.2.1 ≠ other
  time : s.overlord.device.LeavesTime t.overlord.device

theorem asks_resetAll (f : Fleet) : f.resetAll.Asks fun _ r => ¬ r.SetsTime := by
  have hreset : ∀ (b : Board) (seat : Seat), ((b.reset .hard).atStation seat).Asks fun _ r => ¬ r.SetsTime :=
    fun b _ => asks_mapStations (b.asks_reset .hard) fun _ _ h => h
  refine asks_bind (hreset _ _) fun _ => asks_each fun x _ => ?_
  exact asks_bind (p := log _ _) trivial fun _ => hreset _ _

theorem straight_setup (f : Fleet) : f.setup.Straight := by
  have hreset : ∀ (b : Board) (seat : Seat), ((b.reset .hard).atStation seat).Straight :=
    fun b _ => straight_mapStations (b.straight_reset .hard)
  unfold setup
  refine straight_bind (hreset _ _) fun _ => straight_bind (straight_each fun x _ => ?_) fun _ => ?_
  · exact straight_bind (straight_log _ _) fun _ => hreset _ _
  · exact straight_mapStations fun now => f.overlord.straight_syncTimestampAt now

/-- Boards that are reset, seat by seat. -/
theorem resetAt_board {P : Seat → Prop} (hs : f.Staffed s) (ho : t.overlord.device.IsReset .overlord)
    (hf : ∀ n b, f.fanouts[n]? = some b → P (.fanout n) → t.ResetAt (.fanout n) .fanout) (seat : Seat) (b : Board)
    (hb : f.board? seat = some b) (hP : P seat) : t.ResetAt seat b.role := by
  cases seat with
  | overlord =>
    obtain rfl := Option.some.inj hb
    exact ⟨t.overlord, rfl, hs.role ▸ ho⟩
  | fanout n =>
    rw [(hs.fanouts n b hb).1]
    exact hf n b hb hP

/-- The resets stop at the overlord before they come to a fanout. -/
theorem stopsAt_overlord {tr : Trace Seat FleetSessions} (h : Touched [.overlord] s t tr)
    (htime : s.overlord.device.LeavesTime t.overlord.device) : f.StopsAt .overlord s t tr := by
  have hout : ∀ other, Seat.overlord.Before other → other ∉ [Seat.overlord] := fun other hother hin =>
    hother.ne (List.mem_singleton.mp hin)
  refine ⟨fun other _ _ hother => ?_, fun other hother => ?_, htime⟩
  · cases other <;> exact hother.elim
  · exact h.untouched (hout other hother)

/-- They stop at a fanout after the overlord and the fanouts with lower numbers. -/
theorem stopsAt_fanout {done rest : List (UInt32 × Board)} {x : UInt32 × Board} {tr : Trace Seat FleetSessions}
    (hs : f.Staffed s) (hsplit : f.fanouts.toList = done ++ x :: rest)
    (h : Touched ([.overlord] ++ seatsOf (done ++ [x])) s t tr) (ho : t.overlord.device.IsReset .overlord)
    (hdone : ∀ y ∈ done, t.ResetAt (.fanout y.1) .fanout)
    (htime : s.overlord.device.LeavesTime t.overlord.device) : f.StopsAt (.fanout x.1) s t tr := by
  obtain ⟨hlower, hhigher⟩ := fanouts_parted hsplit
  have hout : ∀ other, Seat.Before (.fanout x.1) other → other ∉ [Seat.overlord] ++ seatsOf (done ++ [x]) := by
    intro other hother hin
    cases other with
    | overlord => exact hother
    | fanout n => exact hhigher n hother (by simpa using hin)
  refine ⟨?_, fun other hother => ?_, htime⟩
  · exact resetAt_board (P := fun other => other.Before (.fanout x.1)) hs ho fun n b hb hn => hdone _ (hlower n b hb hn)
  · exact h.untouched (hout other hother)

/-- **The resets**: every board is reset, or they stop at the first dispatch that fails. -/
theorem runs_resetAll (hs : f.Staffed s) :
    Runs now f.resetAll s
      (fun _ t _ => f.AllReset t ∧ t.overlord.Idle .overlord ∧
        t.overlord.device = s.overlord.device.hardReset .overlord)
      fun e t tr => ∃ seat, EndsAt seat tr e ∧ f.StopsAt seat s t tr := by
  have hkind : s.overlord.device.kind = .overlord := hs.overlord.plays.kind
  have hleaves := Device.leavesTime_hardReset hkind
  refine runs_bind ((runs_resetAt hs.role rfl hs.overlord).mono (fun _ t tr h => ?fanouts) fun e t tr h => ?overlord)
  case overlord =>
    obtain ⟨htouched, hlast, w, hw, hdev⟩ := h
    obtain rfl := Option.some.inj hw
    refine ⟨.overlord, hlast, stopsAt_overlord htouched ?_⟩
    rcases hdev with hdev | hdev | hdev
    · exact hdev ▸ .refl _
    · exact hdev ▸ Device.leavesTime_softReset hkind
    · exact hdev ▸ hleaves
  case fanouts =>
    obtain ⟨htouched, w, hw, hidle, hdev⟩ := h
    obtain rfl := Option.some.inj hw
    have hitems : ∀ x ∈ f.fanouts.toList, x.2.role = .fanout ∧
        ∃ v, t.session? (.fanout x.1) = some v ∧ v.Idle .fanout := fun x hx => by
      rw [htouched.others _ (by simp)]
      exact hs.fanouts x.1 x.2 (mem_fanouts.mp hx)
    -- the overlord rests while the fanouts are reset
    have hrests : ∀ {items u tr'}, Touched (seatsOf items) t u tr' → u.overlord = t.overlord :=
      fun h => Option.some.inj (h.others .overlord (overlord_not_mem_seatsOf _))
    have hreset : ∀ {items u tr'}, Touched (seatsOf items) t u tr' → u.overlord.device.IsReset .overlord := fun h => by
      rw [hrests h, hdev]
      exact Device.isReset_hardReset .overlord hkind
    refine (runs_resetFanouts f.distinct_fanouts hitems).mono (fun _ u tr' h => ?_)
      fun e u tr' h => ?_
    · obtain ⟨hmore, hall⟩ := h
      refine ⟨fun seat b hb => ?_, hrests hmore ▸ hidle, (congrArg Session.device (hrests hmore)).trans hdev⟩
      exact resetAt_board (P := fun _ => True) hs (hreset hmore) (fun n b hb _ => hall _ (mem_fanouts.mpr hb)) seat b hb
        trivial
    · obtain ⟨done, x, rest, hsplit, hmore, hdone, hlast⟩ := h
      have htime : s.overlord.device.LeavesTime u.overlord.device := by rwa [hrests hmore, hdev]
      exact ⟨.fanout x.1, hlast.append _, stopsAt_fanout hs hsplit (htouched.append hmore) (hreset hmore) hdone htime⟩

/-! ## The whole set-up -/

/-- Every board is reset, and the overlord broadcasts a time stamp of `now` seconds, or the largest. -/
structure IsSetUp (f : Fleet) (now : UInt64) (t : FleetSessions) : Prop where
  boards : f.AllReset t
  timestamp : t.overlord.device.timestamp.toNat = min (now.toNat * 50000000) (UInt64.size - 1)
  broadcast : t.overlord.device.word? MasterNode.broadcastEnable = some 1

theorem AllReset.put_overlord {v : Session} (h : f.AllReset t) (hv : v.device.IsReset f.overlord.role) :
    f.AllReset (t.put .overlord v) := by
  intro seat b hb
  cases seat with
  | overlord =>
    obtain rfl := Option.some.inj hb
    exact ⟨v, rfl, hv⟩
  | fanout n => exact h (.fanout n) b hb

/-- **The time** is set on a fleet that is reset, which it remains in any case. -/
theorem runs_synctime (hrole : f.overlord.role = .overlord) (hidle : t.overlord.Idle .overlord) (hreset : f.AllReset t) :
    Runs now f.synctime t
      (fun sync u _ => sync = ⟨t.overlord.device.timestamp, Ticks.ofSeconds now⟩ ∧ f.IsSetUp now u)
      fun e u tr => EndsAt .overlord tr e ∧ f.AllReset u := by
  have hkind : t.overlord.device.kind = .overlord := hidle.plays.kind
  have hoverlord : t.overlord.device.IsReset .overlord := by
    obtain ⟨v, hv, h⟩ := hreset .overlord f.overlord rfl
    obtain rfl := Option.some.inj hv
    rwa [hrole] at h
  have hall : ∀ {v : Session}, v.device.IsReset .overlord → f.AllReset (t.put .overlord v) :=
    fun h => hreset.put_overlord (hrole ▸ h)
  refine runs_atStation (u := t.overlord) rfl ?_
  refine (Board.runs_syncTimestamp hrole hidle).mono (fun sync v tr h => ?_) fun e v tr h => ?_
  · obtain ⟨hdev, rfl⟩ := h
    refine ⟨rfl, hall (hdev ▸ hoverlord.syncTime hkind now), ?_, ?_⟩
    · show v.device.timestamp.toNat = _
      rw [hdev, Device.timestamp_syncTime hkind, Ticks.toNat_ofSeconds]
    · exact (congrArg (Device.word? · _) hdev).trans (Device.word?_broadcastEnable_syncTime hkind now)
  · obtain ⟨hlast, hdev⟩ := h
    refine ⟨endsAt_put hlast t .overlord, hall ?_⟩
    rcases hdev with hdev | hdev
    · exact hdev ▸ hoverlord
    · exact hdev ▸ hoverlord.loadTime hkind now

/-- Where a set-up can end: with everything done, within the resets, or within the setting of the time. -/
theorem runs_setup (now : UInt64) (hs : f.Staffed s) :
    Runs now f.setup s
      (fun sync t _ => sync = ⟨s.overlord.device.timestamp, Ticks.ofSeconds now⟩ ∧ f.IsSetUp now t ∧
        (f.resetAll.run now s).state.overlord.device.word? MasterNode.broadcastEnable = some 0)
      fun e t tr => ∃ seat, EndsAt seat tr e ∧
        ((f.resetAll.run now s).result = .error e ∧ f.StopsAt seat s t tr ∧ (∀ x ∈ tr, ¬ x.2.2.SetsTime) ∨
          (∃ a, (f.resetAll.run now s).result = .ok a) ∧ seat = .overlord ∧ f.AllReset t) := by
  have hkind : s.overlord.device.kind = .overlord := hs.overlord.plays.kind
  have hleaves := Device.leavesTime_hardReset hkind
  have hself : Runs now f.resetAll s
      (fun a t _ => (f.resetAll.run now s).result = .ok a ∧ t = (f.resetAll.run now s).state)
      fun e _ _ => (f.resetAll.run now s).result = .error e := runs_iff.mpr ⟨fun a ha => ⟨ha, rfl⟩, fun e he => he⟩
  rw [setup_eq]
  refine runs_bind ((((runs_resetAll hs).and hself).and (runs_of_asks f.asks_resetAll)).mono (fun a t tr h => ?_)
    fun e t tr h => ?_)
  · obtain ⟨⟨⟨hreset, hidle, hdev⟩, hresult, rfl⟩, -⟩ := h
    refine (runs_synctime hs.role hidle hreset).mono (fun sync u _ h => ?_) fun e u tr' h => ?_
    · obtain ⟨rfl, hsetup⟩ := h
      refine ⟨?_, hsetup, ?_⟩
      · rw [hdev, Device.timestamp, hleaves.timestamp]
        rfl
      · rw [hdev, Device.word?_broadcastEnable_hardReset hkind]
    · exact ⟨.overlord, h.1.append tr, Or.inr ⟨⟨a, hresult⟩, rfl, h.2⟩⟩
  · obtain ⟨⟨⟨seat, hlast, hstops⟩, hresult⟩, hunset⟩ := h
    exact ⟨seat, hlast, Or.inl ⟨hresult, hstops, hunset⟩⟩

/-- **Set-up of a fleet** of idle boards in their roles, whatever their registers hold and wherever dispatches fail.  If
none fails, then every board is reset and the time set; the broadcast, which the reset of the overlord has switched off,
is on.  A dispatch that fails is the last request, and its error is the result.  If it belongs to the resets, then the
boards before its seat are reset, those after it have not been asked anything, and the time has not been set.  If it
belongs to the setting of the time, then every board is reset. -/
theorem setup_outcome (hs : f.Staffed s) (now : UInt64) :
    ((∀ x ∈ f.setup.asked now s, ∀ e, ¬ FailsDispatch x e) →
      (f.setup.run now s).result = .ok ⟨s.overlord.device.timestamp, Ticks.ofSeconds now⟩ ∧
      f.IsSetUp now (f.setup.run now s).state ∧
      (f.resetAll.run now s).state.overlord.device.word? MasterNode.broadcastEnable = some 0) ∧
    ∀ before x after e, f.setup.asked now s = before ++ x :: after → FailsDispatch x e →
      (f.setup.run now s).result = .error e ∧ after = [] ∧
      ((f.resetAll.run now s).result = .error e ∧ f.StopsAt x.2.1 s (f.setup.run now s).state (f.setup.asked now s) ∧
          (∀ y ∈ f.setup.asked now s, ¬ y.2.2.SetsTime) ∨
        (∃ a, (f.resetAll.run now s).result = .ok a) ∧ x.2.1 = .overlord ∧ f.AllReset (f.setup.run now s).state) := by
  obtain ⟨hok, herr⟩ := runs_iff.mp (runs_setup now hs)
  refine ⟨fun hnone => ?_, fun before x after e hsplit hx => ?_⟩
  · cases hresult : (f.setup.run now s).result with
    | ok sync =>
      obtain ⟨rfl, hrest⟩ := hok sync hresult
      exact ⟨rfl, hrest⟩
    | error e =>
      obtain ⟨seat, ⟨t, hlast, hfails⟩, -⟩ := herr e hresult
      exact absurd hfails (hnone _ (List.mem_of_getLast? hlast) e)
  · obtain ⟨hresult, rfl⟩ := f.straight_setup.ends hsplit hx.2
    obtain ⟨seat, ⟨t, hlast, -⟩, hstops⟩ := herr e hresult
    rw [hsplit, List.getLast?_concat] at hlast
    obtain rfl := Option.some.inj hlast
    exact ⟨hresult, rfl, hstops⟩

/-- The small fleet with a fanout whose second dispatch fails. -/
def lossy : FleetSessions := opened (Device.overlord "ovld") ((Device.fanout "fan").failingAt 2 "link lost")

theorem small_staffed_lossy : small.Staffed lossy :=
  small_staffed (Device.Plays.overlord "ovld") ((Device.Plays.fanout "fan").extends_of rfl (.refl _))

/-- The small fleet is set up, and stops at its fanout if the link to it is lost. -/
theorem setup_small : small.Staffed fresh ∧ small.Staffed lossy ∧
    small.IsSetUp 1700000000 (small.setup.run 1700000000 fresh).state ∧
    (small.setup.run 1700000000 lossy).result = .error (.transport "fan" "link lost") ∧
    small.StopsAt (.fanout 0) lossy (small.setup.run 1700000000 lossy).state (small.setup.asked 1700000000 lossy) := by
  obtain ⟨hdone, hstops⟩ := setup_outcome small_staffed_fresh 1700000000
  obtain ⟨-, hlost⟩ := setup_outcome small_staffed_lossy 1700000000
  refine ⟨small_staffed_fresh, small_staffed_lossy, (hdone fun x hx e he => ?_).2.1, ?_⟩
  · have hok : (small.setup.run 1700000000 fresh).result.isOk = true := by decide +kernel
    obtain ⟨before, after, hsplit⟩ := List.append_of_mem hx
    rw [(hstops before x after e hsplit he).1] at hok
    cases hok
  · have hlast : (small.setup.asked 1700000000 lossy).getLast?.map (fun x => (x.2.1, decide (x.2.2 = .dispatch),
        match (Stations.answer x.2.1 x.2.2 x.1).result with
        | .ok _ => none
        | .error e => some e)) = some (.fanout 0, true, some (.transport "fan" "link lost")) := by decide +kernel
    obtain ⟨x, hx, heq⟩ := Option.map_eq_some_iff.mp hlast
    obtain ⟨hseat, hrest⟩ := Prod.mk.inj heq
    obtain ⟨hdispatch, herror⟩ := Prod.mk.inj hrest
    have hfails : FailsDispatch x (.transport "fan" "link lost") := by
      refine ⟨of_decide_eq_true hdispatch, ?_⟩
      split at herror
      · cases herror
      · next h => exact h.trans (congrArg Except.error (Option.some.inj herror))
    obtain ⟨before, hsplit⟩ := List.getLast?_eq_some_iff.mp hx
    obtain ⟨hresult, -, ⟨-, hstop, -⟩ | ⟨-, hoverlord, -⟩⟩ := hlost before x [] _ hsplit hfails
    · exact ⟨hresult, hseat ▸ hstop⟩
    · rw [hseat] at hoverlord
      cases hoverlord

end Fleet

end TimingFleet

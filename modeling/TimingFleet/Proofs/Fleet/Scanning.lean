import TimingFleet.Proofs.Board.PortScan
import TimingFleet.Proofs.Fleet.InOrder

/-!
# Scans and the mux

A scan drives the mux of a fanout over all its slots, and then sets it back, also after a visit that has failed.  Only
where the very dispatch that is to set it back fails is it left elsewhere.

* `s.mux? n`: the slot that the mux of fanout `n` is on.
* `Fleet.ScanStopsAt f now n e s t tr`: the scan of a fleet has stopped at fanout `n`, as a scan of that board alone
  stops, and all other fanouts have their mux where it was.

Main statement: `Fleet.scanFanouts_restores`.
-/

namespace TimingFleet

open Procedure FleetSessions Text

namespace FleetSessions

variable {s : FleetSessions} {seat : Seat} {u : Session}

/-- The slot that the mux of a fanout is on. -/
def mux? (s : FleetSessions) (n : UInt32) : Option UInt32 :=
  (s.session? (.fanout n)).bind fun u => u.device.word? FanoutNode.mux

theorem mux?_of_session? {n : UInt32} (h : s.session? (.fanout n) = some u) :
    s.mux? n = u.device.word? FanoutNode.mux := congrArg (Option.bind · _) h

theorem mux?_congr {t : FleetSessions} {n : UInt32} (h : t.session? (.fanout n) = s.session? (.fanout n)) :
    t.mux? n = s.mux? n := congrArg (Option.bind · _) h

/-- A request to a seat fails as it does in the session there. -/
theorem failure?_put (s : FleetSessions) (seat : Seat) (y : Session × Unit × Request) :
    failure? (s.put seat y.1, seat, y.2.2) = failure? y := by
  have hresult : ((s.put seat y.1).answer seat y.2.2).result = (y.1.answer y.2.2).result :=
    congrArg Outcome.result (answer_put s seat y.1 y.2.2)
  refine Option.ext fun e => failure?_eq_some_iff.trans (Iff.trans ?_ failure?_eq_some_iff.symm)
  exact iff_of_eq (congrArg (· = .error e) hresult)

end FleetSessions

namespace Fleet

variable {f : Fleet} {s t v : FleetSessions} {n m : UInt32} {b : Board} {u : Session} {now : UInt64}
  {tr tr' : Trace Seat FleetSessions} {items done rest : List (UInt32 × Board)}
  {P : FleetSessions × Seat × Request → Prop}

/-- The fanouts are in their role, their sessions are idle, and each mux is on a slot. -/
def Scannable (f : Fleet) (s : FleetSessions) : Prop :=
  ∀ n b, f.fanouts[n]? = some b → b.role = .fanout ∧ ∃ u m, s.session? (.fanout n) = some u ∧ u.Idle .fanout ∧
    u.device.word? FanoutNode.mux = some m ∧ m < fanoutSlots

/-- The scan of a fanout has stopped with `e` as a scan of its board alone stops. -/
def StopsAsBoard (now : UInt64) (s : FleetSessions) (x : UInt32 × Board) (e : Error) (t : FleetSessions)
    (tr : Trace Seat FleetSessions) : Prop :=
  ∃ u v m, s.session? (.fanout x.1) = some u ∧ t.session? (.fanout x.1) = some v ∧
    u.device.word? FanoutNode.mux = some m ∧
    Board.ScanStops m (x.2.visitSlots.run now u).result e v (askedAt (.fanout x.1) tr)

/-- In a run from `s` to `t` with the trace `tr` the scan has stopped with `e` at fanout `n`.  All requests to other
fanouts have been served, and their mux is where it was.  Neither the overlord nor a later fanout has been asked
anything. -/
structure ScanStopsAt (f : Fleet) (now : UInt64) (n : UInt32) (e : Error) (s t : FleetSessions)
    (tr : Trace Seat FleetSessions) : Prop where
  board : ∃ b, f.fanouts[n]? = some b ∧ StopsAsBoard now s (n, b) e t tr
  served : ∀ x ∈ tr, x.2.1 ≠ .fanout n → failure? x = none
  others : ∀ k, k ≠ n → t.mux? k = s.mux? k
  overlord : t.session? .overlord = s.session? .overlord ∧ ∀ x ∈ tr, x.2.1 ≠ .overlord
  later : ∀ k, n < k → t.session? (.fanout k) = s.session? (.fanout k) ∧ ∀ x ∈ tr, x.2.1 ≠ .fanout k

/-- The fanout at which the scan has stopped has been asked something. -/
theorem ScanStopsAt.exists_asked {e : Error} (h : f.ScanStopsAt now n e s t tr) : ∃ x ∈ tr, x.2.1 = .fanout n := by
  obtain ⟨b, hb, u, v, m, hu, hv, hmux, before, x, after, hsplit, -⟩ := h.board
  have hx : x ∈ askedAt (.fanout n) tr := hsplit ▸ List.mem_append_right before List.mem_cons_self
  exact exists_of_mem_askedAt hx

/-- At the seat of a fanout, a scan does what it does to the board alone. -/
theorem runs_scanAt (hb : b.role = .fanout) (hu : s.session? (.fanout n) = some u) (hidle : u.Idle .fanout)
    (hmux : u.device.word? FanoutNode.mux = some m) (hm : m < fanoutSlots) :
    Runs now (onFanout n b.scanSlots) s
      (fun _ t tr => Touched [.fanout n] s t tr ∧ t.mux? n = some m ∧ ∀ y ∈ tr, failure? y = none)
      fun e t tr => Touched [.fanout n] s t tr ∧ ∃ v, t.session? (.fanout n) = some v ∧
        Board.ScanStops m (b.visitSlots.run now u).result e v (askedAt (.fanout n) tr) := by
  refine runs_atStation hu ((Board.runs_scanSlots hb hidle hmux hm).mono (fun scans w tr h => ?_) fun e w tr h => ?_)
  · obtain ⟨-, hdev, -, -, hserved⟩ := h
    refine ⟨touched_put s _ w tr, ?_, fun x hx => ?_⟩
    · rw [mux?_of_session? (session?_put_self s _ w), hdev, Device.word?_mux_writeWord_mux]
    · obtain ⟨y, hy, rfl⟩ := List.mem_map.mp hx
      exact (failure?_put s _ y).trans (hserved y hy)
  · refine ⟨touched_put s _ w tr, w, session?_put_self s _ w, ?_⟩
    rwa [askedAt_self]

/-- The session has its mux where the fanout has it in `s`. -/
def SameMux (s : FleetSessions) (x : UInt32 × Board) (v : Option Session) : Prop :=
  (v.bind fun u => u.device.word? FanoutNode.mux) = s.mux? x.1

theorem Visited.mux?_eq (h : Visited (SameMux s) P items s t tr) (n : UInt32) : t.mux? n = s.mux? n := by
  by_cases hn : Seat.fanout n ∈ seatsOf items
  · obtain ⟨x, hx, rfl⟩ := mem_seatsOf.mp hn
    exact h.sessions x hx
  · exact mux?_congr (h.touched.others _ hn)

/-- After the fanouts before it have been scanned, the scan stops at a fanout. -/
theorem scanStopsAt_of_visited {x : UInt32 × Board} {e : Error} (hsplit : f.fanouts.toList = done ++ x :: rest)
    (hdone : Visited (SameMux s) (fun y => failure? y = none) done s t tr) (htouched : Touched [.fanout x.1] t v tr')
    (hstops : StopsAsBoard now s x e v tr') : f.ScanStopsAt now x.1 e s v (tr ++ tr') := by
  have hpassed : Seat.fanout x.1 ∉ seatsOf done := by
    have hdistinct := hsplit ▸ f.distinct_fanouts
    rintro hin
    obtain ⟨y, hy, hyx⟩ := mem_seatsOf.mp hin
    exact (List.pairwise_append.mp hdistinct).2.2 y hy x List.mem_cons_self hyx
  have hall : Touched (seatsOf (done ++ [x])) s v (tr ++ tr') := by
    rw [seatsOf, List.map_append]
    exact hdone.touched.append htouched
  refine ⟨⟨x.2, mem_fanouts.mp ?_, ?_⟩, fun y hy hne => ?_, fun k hk => ?_, ?_, fun k hk => ?_⟩
  · rw [hsplit]
    exact List.mem_append_right _ List.mem_cons_self
  · -- what has been asked before, has been asked elsewhere
    have hbefore : askedAt (.fanout x.1) tr = [] :=
      askedAt_of_ne fun y hy => Or.inl ((hdone.touched.untouched hpassed).2 y hy)
    unfold StopsAsBoard
    rwa [askedAt_append, hbefore, List.nil_append]
  · rcases List.mem_append.mp hy with hy | hy
    · exact hdone.asked y hy
    · exact absurd (List.mem_singleton.mp (htouched.asked y hy)) hne
  · have hother : Seat.fanout k ∉ [Seat.fanout x.1] := fun hin => hk (Seat.fanout.inj (List.mem_singleton.mp hin))
    rw [mux?_congr (htouched.others _ hother), hdone.mux?_eq]
  · exact hall.untouched (overlord_not_mem_seatsOf _)
  · exact hall.untouched ((fanouts_parted hsplit).2 k hk)

/-- **The scan of a fleet** leaves each mux where it was, or stops at the first fanout whose scan fails. -/
theorem runs_scanFanouts (hs : f.Scannable s) :
    Runs now f.scanFanouts s (fun _ t _ => ∀ n, t.mux? n = s.mux? n)
      fun e t tr => ∃ n, f.ScanStopsAt now n e s t tr := by
  have hscan : ∀ x ∈ f.fanouts.toList, ∀ t : FleetSessions, t.session? (.fanout x.1) = s.session? (.fanout x.1) →
      Runs now (onFanout x.1 x.2.scanSlots) t
        (fun _ u tr => Touched [.fanout x.1] t u tr ∧ SameMux s x (u.session? (.fanout x.1)) ∧
          ∀ y ∈ tr, failure? y = none)
        fun e u tr => Touched [.fanout x.1] t u tr ∧ StopsAsBoard now s x e u tr := by
    intro x hx t ht
    obtain ⟨hb, u, m, hu, hidle, hmux, hm⟩ := hs x.1 x.2 (mem_fanouts.mp hx)
    refine (runs_scanAt hb (ht.trans hu) hidle hmux hm).mono (fun _ w tr h => ?_) fun e w tr h => ?_
    · exact ⟨h.1, h.2.1.trans ((mux?_of_session? hu).trans hmux).symm, h.2.2⟩
    · obtain ⟨htouched, v, hv, hstops⟩ := h
      exact ⟨htouched, u, v, m, hu, hv, hmux, hstops⟩
  unfold scanFanouts
  refine (runs_each_seat (D := SameMux s) (P := fun y => failure? y = none) (E := StopsAsBoard now s) f.distinct_fanouts
    fun x hx t ht => runs_bind (runs_log (runs_bind ((hscan x hx t ht).mono (fun scans w tr h => runs_pure ?_)
      fun e w tr h => h)))).mono (fun _ t tr h => h.mux?_eq) fun e t tr h => ?_
  · rwa [List.append_nil]
  · obtain ⟨done, x, rest, u, before, last, hsplit, rfl, hdone, htouched, hstops⟩ := h
    exact ⟨x.1, scanStopsAt_of_visited hsplit hdone htouched hstops⟩

/-- **Scans restore the mux.**  A fanout with its mux on a slot is scanned, whatever its registers hold and whichever
dispatches fail.  If the scan has a result, then the mux is where it was.  If not, then the error is that of the first
request that failed, a dispatch; the mux is where it was, or the visits of the slots had succeeded, and what failed was
the last dispatch of all, which was to set the mux back.  The scan of a fleet leaves each mux where it was, or stops so
at one of its fanouts: all others have their mux where it was, and no later one has been asked anything. -/
theorem scanFanouts_restores (now : UInt64) :
    (∀ (b : Board) (s : Session) (m : UInt32), b.role = .fanout → s.Idle .fanout →
      s.device.word? FanoutNode.mux = some m → m < fanoutSlots →
      (∀ scans, (b.scanSlots.run now s).result = .ok scans →
        (b.scanSlots.run now s).state.device.word? FanoutNode.mux = some m) ∧
      ∀ e, (b.scanSlots.run now s).result = .error e →
        Board.ScanStops m (b.visitSlots.run now s).result e (b.scanSlots.run now s).state (b.scanSlots.asked now s)) ∧
    ∀ (f : Fleet) (s : FleetSessions), f.Scannable s →
      (∀ found, (f.scanFanouts.run now s).result = .ok found → ∀ n, (f.scanFanouts.run now s).state.mux? n = s.mux? n) ∧
      ∀ e, (f.scanFanouts.run now s).result = .error e →
        ∃ n, f.ScanStopsAt now n e s (f.scanFanouts.run now s).state (f.scanFanouts.asked now s) := by
  refine ⟨fun b s m hb hs hmux hm => ?_, fun f s hs => runs_iff.mp (runs_scanFanouts hs)⟩
  have hscan : Runs now b.scanSlots s (fun _ t _ => t.device.word? FanoutNode.mux = some m)
      (Board.ScanStops m (b.visitSlots.run now s).result) :=
    (Board.runs_scanSlots hb hs hmux hm).mono (fun _ _ _ h => h.2.1 ▸ Device.word?_mux_writeWord_mux _ _) fun _ _ _ h => h
  exact runs_iff.mp hscan

/-- A fanout, without pauses, that fails in its last dispatch when it is scanned. -/
def lostRestore : Session := Session.ofDevice ((Device.fanout "FAN").failingAt 34 "lost")

/-- A fleet of two fanouts, without pauses. -/
def pair : Fleet where
  overlord := ⟨"ovld", .overlord, .none⟩
  fanouts := ((∅ : IndexTable Board).insert 0 ⟨"fan0", .fanout, .none⟩).insert 1 ⟨"fan1", .fanout, .none⟩

/-- Sessions for the two fanouts.  The first one fails in its tenth dispatch, and the second has its mux on slot 2. -/
def lostVisit : FleetSessions where
  overlord := Session.ofDevice (Device.overlord "ovld")
  fanouts := ((∅ : IndexTable Session).insert 0 (Session.ofDevice ((Device.fanout "fan0").failingAt 10 "lost"))).insert 1
    (Session.ofDevice ((Device.fanout "fan1").withWord FanoutNode.mux 2))

theorem scannable_lostVisit : pair.Scannable lostVisit := by
  intro n b hb
  simp only [pair, Std.ExtTreeMap.getElem?_insert] at hb
  simp only [session?, lostVisit, Std.ExtTreeMap.getElem?_insert]
  split_ifs at hb with h1 h0
  · obtain rfl := Option.some.inj hb
    refine ⟨rfl, _, 2, if_pos h1, ⟨?_, rfl⟩, by decide +kernel, by decide⟩
    exact (Device.Plays.fanout "fan1").extends_of rfl (.setWord _ _ _)
  · obtain rfl := Option.some.inj hb
    refine ⟨rfl, _, 0, (if_neg h1).trans (if_pos h0), ⟨?_, rfl⟩, by decide +kernel, by decide⟩
    exact (Device.Plays.fanout "fan0").extends_of rfl (.refl _)
  · simp at hb

/-- The fanout is left on its last slot where its mux is not set back.  The fleet stops at its first fanout, and both
have their mux where it was. -/
theorem scanFanouts_lost :
    (∃ e before x, (Board.quickFanout.scanSlots.run 0 lostRestore).result = .error e ∧
      Board.quickFanout.scanSlots.asked 0 lostRestore = before ++ [x] ∧ FailsDispatch x e ∧
      x.1.batch.toList = [.write FanoutNode.mux 0] ∧
      (Board.quickFanout.scanSlots.run 0 lostRestore).state.device.word? FanoutNode.mux = some 7) ∧
    ∃ e, (pair.scanFanouts.run 0 lostVisit).result = .error e ∧
      pair.ScanStopsAt 0 0 e lostVisit (pair.scanFanouts.run 0 lostVisit).state (pair.scanFanouts.asked 0 lostVisit) ∧
      (pair.scanFanouts.run 0 lostVisit).state.mux? 0 = some 0 ∧
      (pair.scanFanouts.run 0 lostVisit).state.mux? 1 = some 2 := by
  obtain ⟨hboard, hfleet⟩ := scanFanouts_restores 0
  have hidle : lostRestore.Idle .fanout := ⟨(Device.Plays.fanout "FAN").extends_of rfl (.refl _), rfl⟩
  obtain ⟨hkeeps, hstops⟩ := hboard Board.quickFanout lostRestore 0 rfl hidle (by decide +kernel) (by decide)
  obtain ⟨-, hstopsAt⟩ := hfleet pair lostVisit scannable_lostVisit
  constructor
  · have hmux : (Board.quickFanout.scanSlots.run 0 lostRestore).state.device.word? FanoutNode.mux = some 7 := by
      decide +kernel
    cases hresult : (Board.quickFanout.scanSlots.run 0 lostRestore).result with
    | ok scans => cases hmux.symm.trans (hkeeps scans hresult)
    | error e =>
      obtain ⟨before, x, after, hsplit, -, hx, ⟨-, hback⟩ | ⟨-, rfl, hbatch⟩⟩ := hstops e hresult
      · cases hmux.symm.trans hback
      · exact ⟨e, before, x, rfl, hsplit, hx, hbatch, hmux⟩
  · have hfails : (pair.scanFanouts.run 0 lostVisit).result.isOk = false := by decide +kernel
    have hseats : (pair.scanFanouts.asked 0 lostVisit).all (fun x => x.2.1 = .fanout 0) = true := by decide +kernel
    cases hresult : (pair.scanFanouts.run 0 lostVisit).result with
    | ok found => rw [hresult] at hfails; cases hfails
    | error e =>
      obtain ⟨n, hn⟩ := hstopsAt e hresult
      -- only the first fanout has been asked, so the scan has stopped there
      obtain ⟨x, hx, hxn⟩ := hn.exists_asked
      obtain rfl : n = 0 := Seat.fanout.inj (hxn.symm.trans (of_decide_eq_true (List.all_eq_true.mp hseats x hx)))
      exact ⟨e, rfl, hn, by decide +kernel, by decide +kernel⟩

end Fleet

end TimingFleet

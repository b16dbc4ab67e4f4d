import TimingFleet.Proofs.Fleet.Seats

/-!
# Packets and transmitters of a fleet

`FleetSessions.sent tr` are the command packets that reach the overlord's device in a run.  The set of
switched-on transmitters is at every moment what they have made of the set at the start
(`transmitters_asked`).  `StopsAt` says at which dispatch a failed run has come to its end.
-/

namespace TimingFleet

open Procedure

namespace FleetSessions

/-! ## Packets and the set of transmitters -/

/-- The addresses whose transmitter is on. -/
abbrev transmitters (s : FleetSessions) : IndexSet := s.overlord.device.enabledSfps

/-- The command packets that reach the overlord's device when the request is answered. -/
def packets (s : FleetSessions) : Seat → Request → List (List UInt32)
  | .overlord, r => s.overlord.packets r
  | .fanout _, _ => []

/-- The command packets that reach the overlord's device in a run. -/
def sent (tr : Trace Seat FleetSessions) : List (List UInt32) := tr.flatMap fun x => x.1.packets x.2.1 x.2.2

@[simp] theorem sent_append (tr tr' : Trace Seat FleetSessions) : sent (tr ++ tr') = sent tr ++ sent tr' :=
  List.flatMap_append

variable {s : FleetSessions} {n : UInt32} {o u : Session} {now : UInt64} {α : Type}

@[simp] theorem sent_overlord (tr : Trace Unit Session) :
    sent (tr.map fun y => (s.seated n y.1 u, .overlord, y.2.2)) = Session.sent tr := by
  simp only [sent, List.flatMap_map]
  rfl

@[simp] theorem sent_fanout (tr : Trace Unit Session) :
    sent (tr.map fun y => (s.seated n o y.1, .fanout n, y.2.2)) = [] := by
  simp only [sent, List.flatMap_map]
  exact List.flatMap_eq_nil_iff.mpr fun _ _ => rfl

/-- Requests to a fanout do not reach the overlord. -/
theorem overlord_answer_fanout (s : FleetSessions) (n : UInt32) (r : Request) :
    (s.answer (.fanout n) r).state.overlord = s.overlord := by
  simp only [answer]
  split <;> rfl

theorem overlord_evolves (s : FleetSessions) (seat : Seat) (r : Request) :
    s.overlord.device.Evolves (s.answer seat r).state.overlord.device := by
  cases seat with
  | overlord => exact s.overlord.answer_evolves r
  | fanout n =>
    rw [overlord_answer_fanout]
    exact .refl _

theorem transmitters_answer (hk : s.overlord.device.kind = .overlord) (seat : Seat) (r : Request) :
    (s.answer seat r).state.transmitters = (s.packets seat r).foldl Device.applyPacket s.transmitters := by
  cases seat with
  | overlord => exact Session.enabledSfps_answer hk r
  | fanout n =>
    rw [transmitters, overlord_answer_fanout]
    rfl

/-- **Transmitters and packets**: in each state that a run comes through, the packets that have reached the
device so far account for the transmitters that are on. -/
theorem transmitters_asked (now : UInt64) (p : Procedure Seat α) (hk : s.overlord.device.kind = .overlord) :
    (p.run now s).state.transmitters = (sent (p.asked now s)).foldl Device.applyPacket s.transmitters ∧
      ∀ before x after, p.asked now s = before ++ x :: after →
        x.1.transmitters = (sent before).foldl Device.applyPacket s.transmitters := by
  have h := foldl_asked (ι := Seat) (m := transmitters)
    (I := fun t : FleetSessions => t.overlord.device.kind = .overlord)
    (g := fun sfps x => (x.1.packets x.2.1 x.2.2).foldl Device.applyPacket sfps)
    (fun seat r t ht => (t.overlord_evolves seat r).kind.trans ht)
    (fun seat r t ht => transmitters_answer ht seat r) now p hk
  simpa only [sent, List.foldl_flatMap] using h

/-- A procedure that writes no packet sends none. -/
theorem sent_eq_nil {p : Procedure Seat α} (hp : p.Asks fun _ r => r.writesPacket = false)
    (hs : s.overlord.batch = #[]) : sent (p.asked now s) = [] := by
  have hno : s.overlord.NoPacket := by
    intro op hop
    rw [hs] at hop
    exact absurd hop List.not_mem_nil
  have hkeeps : _ ∧ ∀ x ∈ p.asked now s, x.1.overlord.NoPacket :=
    hp.keeps (I := fun t : FleetSessions => t.overlord.NoPacket) (fun seat r t hr ht => ?_) hno
  · refine List.flatMap_eq_nil_iff.mpr fun x hx => ?_
    unfold packets
    split
    · exact (hkeeps.2 x hx).packets _
    · rfl
  · cases seat with
    | overlord => exact ht.answer hr
    | fanout n =>
      show (t.answer _ _).state.overlord.NoPacket
      rwa [overlord_answer_fanout]

/-! ## Where a run stops -/

/-- The last request is a dispatch at `seat` that has to get `op` done and fails with `e`. -/
def StopsAt (tr : Trace Seat FleetSessions) (seat : Seat) (op : Pending) (e : Error) : Prop :=
  ∃ t u, tr.getLast? = some (t, seat, .dispatch) ∧ t.session? seat = some u ∧ u.Refuses op e

variable {op : Pending} {e : Error} {tr : Trace Unit Session}

theorem StopsAt.append {tr : Trace Seat FleetSessions} {seat : Seat} (h : StopsAt tr seat op e)
    (tr' : Trace Seat FleetSessions) : StopsAt (tr' ++ tr) seat op e := by
  obtain ⟨t, u, hlast, hrest⟩ := h
  exact ⟨t, u, by rw [List.getLast?_append, hlast]; rfl, hrest⟩

theorem stopsAt_overlord (h : ∃ v, tr.getLast? = some (v, (), .dispatch) ∧ v.Refuses op e) :
    StopsAt (tr.map fun y => (s.seated n y.1 u, .overlord, y.2.2)) .overlord op e := by
  obtain ⟨v, hlast, hv⟩ := h
  exact ⟨s.seated n v u, v, by rw [List.getLast?_map, hlast]; rfl, rfl, hv⟩

theorem stopsAt_fanout (h : ∃ v, tr.getLast? = some (v, (), .dispatch) ∧ v.Refuses op e) :
    StopsAt (tr.map fun y => (s.seated n o y.1, .fanout n, y.2.2)) (.fanout n) op e := by
  obtain ⟨v, hlast, hv⟩ := h
  exact ⟨s.seated n o v, v, by rw [List.getLast?_map, hlast]; rfl, by simp [session?], hv⟩

end FleetSessions

end TimingFleet

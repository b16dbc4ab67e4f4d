import TimingFleet.Proofs.Fleet.Places

/-!
# Fanouts in order

Some procedures on a fleet visit its fanouts in ascending order, each at its own seat, and stop at the first visit
that fails (`Fleet.runs_each_seat`).

* `Touched seats s t tr`: something has been asked at these seats only, and only their sessions have changed.
* `Visited D P items s t tr`: these fanouts have been visited and no others, and each has come out as `D` says.
-/

namespace TimingFleet

open Procedure FleetSessions

/-! ## Seats that are touched -/

namespace FleetSessions

variable {s t u : FleetSessions} {tr tr' : Trace Seat FleetSessions} {seats more : List Seat} {seat : Seat}

/-- From `s` to `t` something has been asked at these seats only, and no other session has changed. -/
structure Touched (seats : List Seat) (s t : FleetSessions) (tr : Trace Seat FleetSessions) : Prop where
  asked : ∀ x ∈ tr, x.2.1 ∈ seats
  others : ∀ seat, seat ∉ seats → t.session? seat = s.session? seat

theorem Touched.append (h : Touched seats s t tr) (h' : Touched more t u tr') :
    Touched (seats ++ more) s u (tr ++ tr') := by
  refine ⟨fun x hx => ?_, fun seat hseat => ?_⟩
  · rcases List.mem_append.mp hx with hx | hx
    · exact List.mem_append_left _ (h.asked x hx)
    · exact List.mem_append_right _ (h'.asked x hx)
  · rw [h'.others seat fun hin => hseat (List.mem_append_right _ hin),
      h.others seat fun hin => hseat (List.mem_append_left _ hin)]

/-- A seat that is not touched is left alone. -/
theorem Touched.untouched (h : Touched seats s t tr) (hseat : seat ∉ seats) :
    t.session? seat = s.session? seat ∧ ∀ x ∈ tr, x.2.1 ≠ seat :=
  ⟨h.others seat hseat, fun x hx heq => hseat (heq ▸ h.asked x hx)⟩

theorem touched_put (s : FleetSessions) (seat : Seat) (v : Session) (tr : Trace Unit Session) :
    Touched [seat] s (s.put seat v) (tr.map fun y => (s.put seat y.1, seat, y.2.2)) := by
  refine ⟨fun x hx => ?_, fun other hother => ?_⟩
  · obtain ⟨y, -, rfl⟩ := List.mem_map.mp hx
    exact List.mem_singleton_self seat
  · have hne : seat ≠ other := by
      rintro rfl
      exact hother (List.mem_singleton_self seat)
    rw [session?_put, if_neg hne]

end FleetSessions

namespace Fleet

/-! ## Visits -/

/-- The seats of fanouts. -/
def seatsOf (items : List (UInt32 × Board)) : List Seat := items.map fun x => .fanout x.1

theorem mem_seatsOf {items : List (UInt32 × Board)} {n : UInt32} : .fanout n ∈ seatsOf items ↔ ∃ x ∈ items, x.1 = n := by
  simp [seatsOf]

theorem overlord_not_mem_seatsOf (items : List (UInt32 × Board)) : .overlord ∉ seatsOf items := by
  simp [seatsOf]

section Visits

variable {β : Type} {q : UInt32 × Board → Procedure Seat β} {s t u : FleetSessions} {now : UInt64}
  {tr tr' : Trace Seat FleetSessions} {items : List (UInt32 × Board)} {x : UInt32 × Board}
  {D : UInt32 × Board → Option Session → Prop} {P : FleetSessions × Seat × Request → Prop}
  {E : UInt32 × Board → Error → FleetSessions → Trace Seat FleetSessions → Prop}

/-- From `s` to `t` these fanouts have been visited and nothing else.  Their sessions are as `D` says, and all that has
been asked is as `P` says. -/
structure Visited (D : UInt32 × Board → Option Session → Prop) (P : FleetSessions × Seat × Request → Prop)
    (items : List (UInt32 × Board)) (s t : FleetSessions) (tr : Trace Seat FleetSessions) : Prop where
  touched : Touched (seatsOf items) s t tr
  sessions : ∀ x ∈ items, D x (t.session? (.fanout x.1))
  asked : ∀ y ∈ tr, P y

theorem visited_nil : Visited D P [] s s [] :=
  ⟨⟨List.forall_mem_nil _, fun _ _ => rfl⟩, List.forall_mem_nil _, List.forall_mem_nil _⟩

/-- A fanout that has been visited is left alone by the visits of others. -/
theorem Visited.cons (h : Visited D P items t u tr') (hne : ∀ y ∈ items, x.1 ≠ y.1)
    (hx : Touched [.fanout x.1] s t tr) (hD : D x (t.session? (.fanout x.1))) (hP : ∀ y ∈ tr, P y) :
    Visited D P (x :: items) s u (tr ++ tr') := by
  refine ⟨hx.append h.touched, List.forall_mem_cons.mpr ⟨?_, h.sessions⟩, List.forall_mem_append.mpr ⟨hP, h.asked⟩⟩
  rwa [h.touched.others _ fun hin => ?_]
  obtain ⟨y, hy, hyx⟩ := mem_seatsOf.mp hin
  exact hne y hy hyx.symm

/-- **Visits in order**: if each works at its own seat, then all fanouts are visited, or the first ones are, the visit
of the next one fails, and the rest is untouched. -/
theorem runs_each_seat (hdistinct : items.Pairwise fun x y => x.1 ≠ y.1)
    (h : ∀ x ∈ items, ∀ t : FleetSessions, t.session? (.fanout x.1) = s.session? (.fanout x.1) → Runs now (q x) t
      (fun _ u tr => Touched [.fanout x.1] t u tr ∧ D x (u.session? (.fanout x.1)) ∧ ∀ y ∈ tr, P y)
      fun e u tr => Touched [.fanout x.1] t u tr ∧ E x e u tr) :
    Runs now (each items q) s (fun _ t tr => Visited D P items s t tr)
      fun e t tr => ∃ done x rest u before last, items = done ++ x :: rest ∧ tr = before ++ last ∧
        Visited D P done s u before ∧ Touched [.fanout x.1] u t last ∧ E x e t last := by
  induction items generalizing s with
  | nil => exact runs_pure visited_nil
  | cons x items ih =>
    obtain ⟨hne, hdistinct⟩ := List.pairwise_cons.mp hdistinct
    refine runs_bind ((h x List.mem_cons_self s rfl).mono (fun _ t tr hx => ?_) fun e t tr hx => ?_)
    · obtain ⟨htouched, hD, hP⟩ := hx
      -- the fanouts that follow are as they were
      have hrest : ∀ y ∈ items, t.session? (.fanout y.1) = s.session? (.fanout y.1) := fun y hy =>
        htouched.others _ fun hin => hne y hy (Seat.fanout.inj (List.mem_singleton.mp hin)).symm
      refine runs_bind ((ih hdistinct fun y hy u hu => ?_).mono (fun _ u tr' hmore => runs_pure ?_) fun e u tr' hmore => ?_)
      · exact h y (List.mem_cons_of_mem x hy) u (hu.trans (hrest y hy))
      · rw [List.append_nil]
        exact hmore.cons hne htouched hD hP
      · obtain ⟨done, y, rest, v, before, last, rfl, rfl, hdone, hlast⟩ := hmore
        refine ⟨x :: done, y, rest, v, tr ++ before, last, rfl, (List.append_assoc _ _ _).symm, ?_, hlast⟩
        exact hdone.cons (fun z hz => hne z (List.mem_append_left _ hz)) htouched hD hP
    · exact ⟨[], x, items, s, [], tr, rfl, rfl, visited_nil, hx⟩

end Visits

/-! ## The order of the fanouts of a fleet -/

variable {f : Fleet}

theorem mem_fanouts {n : UInt32} {b : Board} : (n, b) ∈ f.fanouts.toList ↔ f.fanouts[n]? = some b :=
  Std.ExtTreeMap.mem_toList_iff_getElem?_eq_some

theorem ascending_fanouts (f : Fleet) : f.fanouts.toList.Pairwise fun x y => x.1 < y.1 :=
  Std.ExtTreeMap.ordered_keys_toList.imp Std.compare_eq_lt.mp

theorem distinct_fanouts (f : Fleet) : f.fanouts.toList.Pairwise fun x y => x.1 ≠ y.1 :=
  f.ascending_fanouts.imp UInt32.ne_of_lt

/-- A place in the list of fanouts parts the lower numbers from the higher ones. -/
theorem fanouts_parted {done rest : List (UInt32 × Board)} {x : UInt32 × Board}
    (hsplit : f.fanouts.toList = done ++ x :: rest) :
    (∀ n b, f.fanouts[n]? = some b → n < x.1 → (n, b) ∈ done) ∧
      ∀ n, x.1 < n → Seat.fanout n ∉ seatsOf (done ++ [x]) := by
  have horder := f.ascending_fanouts
  rw [hsplit, List.pairwise_append, List.pairwise_cons] at horder
  obtain ⟨-, ⟨hrest, -⟩, hdone⟩ := horder
  refine ⟨fun n b hb hn => ?_, fun n hn hin => ?_⟩
  · have hmem := mem_fanouts.mpr hb
    rw [hsplit, List.mem_append, List.mem_cons] at hmem
    rcases hmem with hmem | rfl | hmem
    · exact hmem
    · exact absurd hn (UInt32.lt_irrefl n)
    · exact absurd hn (UInt32.lt_asymm (hrest _ hmem))
  · obtain ⟨y, hy, rfl⟩ := mem_seatsOf.mp hin
    rcases List.mem_append.mp hy with hy | hy
    · exact UInt32.lt_asymm hn (hdone y hy x List.mem_cons_self)
    · obtain rfl := List.mem_singleton.mp hy
      exact UInt32.lt_irrefl _ hn

end Fleet

end TimingFleet

import TimingFleet.Proofs.Board.Scan
import TimingFleet.Proofs.Fleet.Seats

/-!
# The arguments of a measurement

What can be wrong with the arguments of a measurement is found out in five places, the last of them in the selection of
the mux.  All the same nothing reaches a board before every argument has been looked at.

* `Fleet.Fits f s`: each fanout of the fleet is in its role and has a session to a device with a mux, in any state.
* `Fleet.objections f address slot`: what is wrong with the arguments, in the order in which it is looked for.
* `FleetSessions.accesses s seat`: the accesses that the board at a seat has seen.

Main statement: the first objection is what a measurement fails with, and without one the mux is written first
(`Fleet.measureDelay_checks_first`).
-/

namespace TimingFleet

open Text Procedure

/-! ## Accesses -/

namespace Session

/-- An answer adds to the log. -/
theorem log_prefix_answer (s : Session) (r : Request) : s.log.toList <+: (s.answer r).state.log.toList := by
  have hpush : ∀ a : Access, s.log.toList <+: (s.log.push a).toList := fun a =>
    ⟨[a], Array.toList_push.symm⟩
  have hdispatch : s.dispatch.state.log = s.log.push .dispatch := by
    unfold dispatch
    dsimp only
    split <;> rfl
  rcases s.answer_cases r with h | ⟨op, -, h | h⟩ | ⟨-, h⟩
  · exact h.symm ▸ List.prefix_rfl
  · rw [h]
    exact hpush op.access
  · rw [h]
    exact hpush op.access
  · rw [h, hdispatch]
    exact hpush .dispatch

end Session

namespace FleetSessions

variable {s : FleetSessions} {seat : Seat} {n : UInt32} {u : Session}

/-- The accesses to the board at a seat so far. -/
def accesses (s : FleetSessions) (seat : Seat) : List Access :=
  ((s.session? seat).map fun u => u.log.toList).getD []

theorem accesses_fanout (h : s.fanouts[n]? = some u) : s.accesses (.fanout n) = u.log.toList := by
  simp [accesses, session?, h]

theorem state_answer_fanout (hu : s.fanouts[n]? = some u) (r : Request) :
    (s.answer (.fanout n) r).state = s.seated n s.overlord (u.answer r).state := by
  unfold answer
  simp only [hu]
  rfl

/-- The write of a word that exists is an access. -/
theorem accesses_write (hu : s.fanouts[n]? = some u) {path : NodePath} {value : UInt32}
    (hpath : u.device.registers.words.contains path = true) :
    (s.answer (.fanout n) (.write path value)).state.accesses (.fanout n) =
      s.accesses (.fanout n) ++ [.write path value] := by
  have hanswer : u.answer (.write path value) = .ok () (u.enqueue (.write path value)) := if_pos hpath
  rw [state_answer_fanout hu, accesses_fanout (getElem?_seated.trans (if_pos rfl)), accesses_fanout hu, hanswer]
  exact Array.toList_push

/-- An answer adds to the accesses of its seat and leaves those of the others. -/
theorem accesses_prefix_answer (s : FleetSessions) (station : Seat) (r : Request) (seat : Seat) :
    s.accesses seat <+: (s.answer station r).state.accesses seat := by
  cases station with
  | overlord =>
    cases seat with
    | overlord => exact s.overlord.log_prefix_answer r
    | fanout n => exact List.prefix_rfl
  | fanout k =>
    cases hu : s.fanouts[k]? with
    | none => simp [answer, hu, Outcome.error]
    | some u =>
      rw [state_answer_fanout hu]
      cases seat with
      | overlord => exact List.prefix_rfl
      | fanout n =>
        by_cases hn : k = n
        · subst hn
          rw [accesses_fanout hu, accesses_fanout (getElem?_seated.trans (if_pos rfl))]
          exact u.log_prefix_answer r
        · simp [accesses, session?, hn]

/-- **Runs add accesses**: what a board has seen stays at the head of what it sees. -/
theorem accesses_prefix_run {α : Type} (p : Procedure Seat α) (now : UInt64) (s : FleetSessions) (seat : Seat) :
    s.accesses seat <+: (p.run now s).state.accesses seat :=
  (p.asks_true.keeps (I := fun t : FleetSessions => s.accesses seat <+: t.accesses seat)
    (fun station r t _ ht => ht.trans (t.accesses_prefix_answer station r seat)) List.prefix_rfl).1

/-- What the first request of a run adds is never lost. -/
theorem accesses_prefix_of_asked {α : Type} {p : Procedure Seat α} {now : UInt64} {x : FleetSessions × Seat × Request}
    {rest : Trace Seat FleetSessions} (h : p.asked now s = x :: rest) (seat : Seat) :
    (s.answer x.2.1 x.2.2).state.accesses seat <+: (p.run now s).state.accesses seat := by
  induction p with
  | done a => cases h
  | fail e => cases h
  | emit e p ih => exact ih h
  | clock p ih => exact ih now h
  | ask station r p =>
    obtain ⟨rfl, -⟩ := List.cons.inj h
    exact accesses_prefix_run _ now _ seat

end FleetSessions

namespace Fleet

variable {f : Fleet} {s : FleetSessions} {address : UInt32} {slot : Option UInt32} {now : UInt64} {e : Error}

/-- Each fanout of the fleet is in its role and has a session to a device with a mux. -/
def Fits (f : Fleet) (s : FleetSessions) : Prop :=
  ∀ (n : UInt32) (b : Board), f.fanouts[n]? = some b →
    b.role = .fanout ∧ ∃ u : Session, s.fanouts[n]? = some u ∧ Board.HasMux u

theorem Staffed.fits (h : f.Staffed s) : f.Fits s := by
  intro n b hb
  obtain ⟨hrole, u, hu, hidle⟩ := h.fanouts n b hb
  exact ⟨hrole, u, hu, hidle.plays.word (by decide)⟩

/-! ## Objections -/

/-- The objection `e` under a condition. -/
def objectIf (c : Prop) [Decidable c] (e : Error) : List Error := if c then [e] else []

@[simp] theorem objectIf_eq_nil {c : Prop} [Decidable c] : objectIf c e = [] ↔ ¬ c := by
  unfold objectIf
  split_ifs with h <;> simp [h]

@[simp] theorem head?_objectIf_append {c : Prop} [Decidable c] {es : List Error} :
    (objectIf c e ++ es).head? = if c then some e else es.head? := by
  unfold objectIf
  split_ifs <;> rfl

/-- No endpoint has the address. -/
def objectToAddress (address : UInt32) : List Error :=
  objectIf (address < 0x1 ∨ 0x100 < address)
    (.invalidArgument ("endpoint address " ++ Numeral.hex address.toNat ++ " out of range 0x1-0x100"))

/-- No fanout has the slot. -/
def objectToSlot (k : UInt32) : List Error :=
  objectIf (8 ≤ k) (.invalidArgument ("fanout slot " ++ Numeral.decimal k.toNat ++ " out of range 0-7"))

/-- The fleet does not have the fanout. -/
def objectToFanout (f : Fleet) (n : UInt32) : List Error :=
  objectIf (f.fanouts[n]? = none)
    (.invalidArgument ("fanout " ++ Numeral.decimal n.toNat ++ " not in this group"))

/-- What is wrong with the arguments of a measurement.  A given slot is looked at before the fanout, and a mapped one
after it. -/
def objections (f : Fleet) (address : UInt32) (slot : Option UInt32) : List Error :=
  objectToAddress address ++
    match slot with
    | some k => objectToSlot k ++ f.objectToFanout 0
    | none =>
      match f.addressMap[address]? with
      | none => [.unmappedAddress address]
      | some m => f.objectToFanout m.fanout ++ objectToSlot m.slot

theorem not_out_of_range_iff : ¬ (address < 0x1 ∨ 0x100 < address) ↔ isEndpointAddress address = true := by
  rw [isEndpointAddress, Bool.and_eq_true, not_or, UInt32.not_lt, UInt32.not_lt]
  exact and_congr decide_eq_true_iff.symm decide_eq_true_iff.symm

theorem objections_eq_nil_iff :
    f.objections address slot = [] ↔ ∃ m fanout, f.Resolves address slot m fanout := by
  unfold objections objectToAddress objectToSlot objectToFanout
  rw [List.append_eq_nil_iff, objectIf_eq_nil, not_out_of_range_iff]
  constructor
  · rintro ⟨haddress, h⟩
    cases slot with
    | some k =>
      obtain ⟨hslot, hfanout⟩ := List.append_eq_nil_iff.mp h
      rw [objectIf_eq_nil] at hslot hfanout
      obtain ⟨fanout, hb⟩ := Option.ne_none_iff_exists'.mp hfanout
      exact ⟨⟨0, k⟩, fanout, haddress, rfl, UInt32.not_le.mp hslot, hb⟩
    | none =>
      cases hm : f.addressMap[address]? with
      | none =>
        rw [hm] at h
        cases h
      | some m =>
        rw [hm] at h
        obtain ⟨hfanout, hslot⟩ := List.append_eq_nil_iff.mp h
        rw [objectIf_eq_nil] at hslot hfanout
        obtain ⟨fanout, hb⟩ := Option.ne_none_iff_exists'.mp hfanout
        exact ⟨m, fanout, haddress, hm, UInt32.not_le.mp hslot, hb⟩
  · rintro ⟨m, fanout, hr⟩
    have hslot : ¬ 8 ≤ m.slot := UInt32.not_le.mpr hr.slot_lt
    have hfanout : f.fanouts[m.fanout]? ≠ none := hr.board ▸ Option.some_ne_none fanout
    refine ⟨hr.isEndpoint, ?_⟩
    cases slot with
    | some k =>
      obtain rfl := Option.some.inj hr.target
      exact List.append_eq_nil_iff.mpr ⟨objectIf_eq_nil.mpr hslot, objectIf_eq_nil.mpr hfanout⟩
    | none =>
      rw [show f.addressMap[address]? = some m from hr.target]
      exact List.append_eq_nil_iff.mpr ⟨objectIf_eq_nil.mpr hfanout, objectIf_eq_nil.mpr hslot⟩

/-! ## The first objection -/

section FirstObjection

variable {Q : DelayMeasurement → FleetSessions → Trace Seat FleetSessions → Prop}
  {E : Error → FleetSessions → Trace Seat FleetSessions → Prop}

theorem outOfRange_text (t : String) :
    t ++ " out of range " ++ Numeral.hex minAddress.toNat ++ "-" ++ Numeral.hex maxAddress.toNat =
      t ++ " out of range 0x1-0x100" := by
  have h : " out of range " ++ (Numeral.hex minAddress.toNat ++ ("-" ++ Numeral.hex maxAddress.toNat)) =
      " out of range 0x1-0x100" := by decide +kernel
  rw [String.append_assoc, String.append_assoc, String.append_assoc, h]

theorem slotError_eq (k : UInt32) : Board.slotError k =
    .invalidArgument ("fanout slot " ++ Numeral.decimal k.toNat ++ " out of range 0-7") := by
  have h : " out of range 0-" ++ Numeral.decimal (fanoutSlots - 1).toNat = " out of range 0-7" := by decide +kernel
  unfold Board.slotError
  rw [String.append_assoc, h]

/-- A place is looked at before the first access: its fanout, and then its slot when the mux is selected. -/
theorem runs_place_of_head? {m : SlotMapping} {k : Echo → Procedure Seat DelayMeasurement} (hf : f.Fits s)
    (h : (f.objectToFanout m.fanout ++ objectToSlot m.slot).head? = some e) (he : E e s []) :
    Runs now (match f.fanouts[m.fanout]? with
      | none => .fail (fanoutError m.fanout)
      | some fanout => f.measureThrough address m fanout >>= k) s Q E := by
  rw [objectToFanout, head?_objectIf_append] at h
  cases hb : f.fanouts[m.fanout]? with
  | none =>
    rw [if_pos hb] at h
    obtain rfl := Option.some.inj h
    exact runs_fail he
  | some fanout =>
    rw [if_neg (hb ▸ Option.some_ne_none fanout), ← List.append_nil (objectToSlot _), objectToSlot,
      head?_objectIf_append, ← slotError_eq] at h
    by_cases hslot : 8 ≤ m.slot
    · rw [if_pos hslot] at h
      obtain rfl := Option.some.inj h
      dsimp only
      unfold measureThrough
      rw [Board.selectMux_of_not_slot (hf m.fanout fanout hb).1 hslot]
      exact runs_bind (runs_bind (runs_fail he))
    · rw [if_neg hslot] at h
      cases h

/-- **The first objection** is what the measurement fails with, before anything is asked. -/
theorem runs_measureDelay_of_head? (hf : f.Fits s) (h : (f.objections address slot).head? = some e)
    (he : E e s []) : Runs now (f.measureDelay address slot) s Q E := by
  unfold objections at h
  rw [objectToAddress, head?_objectIf_append] at h
  unfold measureDelay
  by_cases ha : address < 0x1 ∨ 0x100 < address
  case pos =>
    rw [if_pos ha] at h
    obtain rfl := Option.some.inj h
    rw [if_neg fun hend => not_out_of_range_iff.mpr hend ha, outOfRange_text]
    exact runs_fail he
  rw [if_neg ha] at h
  rw [if_pos (not_out_of_range_iff.mp ha)]
  unfold locate
  cases slot with
  | some k =>
    by_cases hk : fanoutSlots ≤ k
    · dsimp only at h ⊢
      rw [objectToSlot, head?_objectIf_append, if_pos (show 8 ≤ k from hk), ← slotError_eq] at h
      obtain rfl := Option.some.inj h
      rw [if_pos hk]
      exact runs_bind (runs_fail he)
    · -- a slot that has passed is looked at again when the mux is selected
      have hnil : objectToSlot k = [] := objectIf_eq_nil.mpr hk
      dsimp only at h ⊢
      rw [hnil, List.nil_append, ← List.append_nil (objectToFanout _ _), ← hnil] at h
      rw [if_neg hk]
      exact runs_bind (runs_pure (runs_place_of_head? hf h he))
  | none =>
    dsimp only at h ⊢
    cases hm : f.addressMap[address]? with
    | none =>
      rw [hm] at h
      obtain rfl := Option.some.inj h
      exact runs_bind (runs_fail he)
    | some m =>
      rw [hm] at h
      exact runs_bind (runs_bind (runs_log (runs_pure (runs_place_of_head? hf h he))))

theorem measureDelay_of_head? (hf : f.Fits s) (h : (f.objections address slot).head? = some e) (now : UInt64) :
    ((f.measureDelay address slot).run now s).result = .error e ∧
      ((f.measureDelay address slot).run now s).state = s ∧ (f.measureDelay address slot).asked now s = [] := by
  have hrun : Runs now (f.measureDelay address slot) s (fun _ _ _ => False) fun e' t tr => e' = e ∧ t = s ∧ tr = [] :=
    runs_measureDelay_of_head? hf h ⟨rfl, rfl, rfl⟩
  obtain ⟨hok, herr⟩ := runs_iff.mp hrun
  cases hresult : ((f.measureDelay address slot).run now s).result with
  | ok d => exact (hok d hresult).elim
  | error e' =>
    obtain ⟨rfl, hstate, hasked⟩ := herr e' hresult
    exact ⟨rfl, hstate, hasked⟩

end FirstObjection

/-! ## The first access -/

theorem asked_selectMux {b : Board} (hb : b.role = .fanout) {k : UInt32} (hk : k < fanoutSlots) (now : UInt64)
    (u : Session) : ∃ rest, (b.selectMux k).asked now u = (u, (), .write FanoutNode.mux k) :: rest := by
  unfold Board.selectMux Board.require
  rw [if_pos hb, if_neg (UInt32.not_le.mpr hk)]
  exact ⟨_, rfl⟩

/-- An address that resolves is measured by a write to the mux first. -/
theorem asked_measureDelay_cons {m : SlotMapping} {fanout : Board} (hr : f.Resolves address slot m fanout)
    (hrole : fanout.role = .fanout) {u : Session} (hu : s.fanouts[m.fanout]? = some u) (now : UInt64) :
    ∃ rest, (f.measureDelay address slot).asked now s =
      (s, .fanout m.fanout, .write FanoutNode.mux m.slot) :: rest := by
  obtain ⟨rest, hrest⟩ := asked_selectMux hrole hr.slot_lt now u
  have hmux : (onFanout m.fanout (fanout.selectMux m.slot)).asked now s =
      (s, .fanout m.fanout, .write FanoutNode.mux m.slot) ::
        rest.map fun y => (s.seated m.fanout s.overlord y.1, .fanout m.fanout, y.2.2) := by
    have hmap : _ = ((fanout.selectMux m.slot).asked now u).map _ :=
      asked_onFanout (s := s) (n := m.fanout) (o := s.overlord)
    rwa [hrest, List.map_cons, FleetSessions.seated_self hu] at hmap
  rw [asked_measureDelay hr]
  exact asked_bind_of_cons hmux _

theorem measureDelay_of_no_objection (hf : f.Fits s) (now : UInt64) (hnil : f.objections address slot = []) :
    ∃ m rest, f.target? address slot = some m ∧
      (f.measureDelay address slot).asked now s = (s, .fanout m.fanout, .write FanoutNode.mux m.slot) :: rest ∧
      s.accesses (.fanout m.fanout) ++ [.write FanoutNode.mux m.slot] <+:
        ((f.measureDelay address slot).run now s).state.accesses (.fanout m.fanout) := by
  obtain ⟨m, fanout, hr⟩ := objections_eq_nil_iff.mp hnil
  obtain ⟨hrole, u, hu, hword⟩ := hf m.fanout fanout hr.board
  obtain ⟨rest, hrest⟩ := asked_measureDelay_cons hr hrole hu now
  refine ⟨m, rest, hr.target, hrest, ?_⟩
  rw [← FleetSessions.accesses_write hu hword]
  exact FleetSessions.accesses_prefix_of_asked hrest (.fanout m.fanout)

/-- **Arguments are checked first, and exactly.**  A measurement in a fleet whose boards are in their roles, with any
registers, faults and leftovers in the sessions, fails without an access to a board just when there is something to
object to in its arguments.  It then fails with the first objection, and has changed and asked nothing.  Without an
objection its first request, and the next access that the fanout sees, is the write of the slot to the mux. -/
theorem measureDelay_checks_first (hf : f.Fits s) (now : UInt64) (address : UInt32) (slot : Option UInt32) :
    let o := (f.measureDelay address slot).run now s
    let asked := (f.measureDelay address slot).asked now s
    (((∃ e, o.result = .error e) ∧ ∀ seat, o.state.accesses seat = s.accesses seat) ↔
        f.objections address slot ≠ []) ∧
      (∀ e, (f.objections address slot).head? = some e → o.result = .error e ∧ o.state = s ∧ asked = []) ∧
      (f.objections address slot = [] → ∃ m rest, f.target? address slot = some m ∧
        asked = (s, .fanout m.fanout, .write FanoutNode.mux m.slot) :: rest ∧
        s.accesses (.fanout m.fanout) ++ [.write FanoutNode.mux m.slot] <+: o.state.accesses (.fanout m.fanout)) := by
  intro o asked
  refine ⟨⟨?_, fun hne => ?_⟩, fun e he => measureDelay_of_head? hf he now, measureDelay_of_no_objection hf now⟩
  · rintro ⟨-, hsame⟩ hnil
    obtain ⟨m, rest, -, -, hprefix⟩ := measureDelay_of_no_objection hf now hnil
    rw [show _ = s.accesses (.fanout m.fanout) from hsame _] at hprefix
    exact absurd hprefix.length_le (by simp)
  · obtain ⟨e, he⟩ := Option.ne_none_iff_exists'.mp (mt List.head?_eq_none_iff.mp hne)
    obtain ⟨hresult, hstate, -⟩ := measureDelay_of_head? hf he now
    exact ⟨⟨e, hresult⟩, fun seat => congrArg (FleetSessions.accesses · seat) hstate⟩

/-- The small fleet with an address that is mapped to no slot of its fanout. -/
def mismapped : Fleet := { small with addressMap := (∅ : AddressMap).insert 0x21 ⟨0, 9⟩ }

/-- The mapped slot is refused; the given one is written first. -/
theorem measureDelay_mismapped :
    mismapped.Fits fresh ∧
      ((mismapped.measureDelay 0x21 none).run 0 fresh).result =
        .error (.invalidArgument "fanout slot 9 out of range 0-7") ∧
      ((mismapped.measureDelay 0x21 none).run 0 fresh).state = fresh ∧
      ∃ rest, (mismapped.measureDelay 0x21 (some 3)).asked 0 fresh =
        (fresh, .fanout 0, .write FanoutNode.mux 3) :: rest := by
  have hf : mismapped.Fits fresh := small_staffed_fresh.fits
  have hobjects : (mismapped.objections 0x21 none).head? =
      some (.invalidArgument "fanout slot 9 out of range 0-7") := by decide +kernel
  have hnone : mismapped.objections 0x21 (some 3) = [] := by decide +kernel
  obtain ⟨hresult, hstate, -⟩ := (measureDelay_checks_first hf 0 0x21 none).2.1 _ hobjects
  obtain ⟨m, rest, hm, hasked, -⟩ := (measureDelay_checks_first hf 0 0x21 (some 3)).2.2 hnone
  obtain rfl := Option.some.inj hm
  exact ⟨hf, hresult, hstate, rest, hasked⟩

end Fleet

end TimingFleet

import TimingFleet.Proofs.Device.Reactions
import TimingFleet.Proofs.Operation.Leftovers
import TimingFleet.Proofs.Session.Failures

/-!
# Where a scan leaves the mux

A scan of a fanout goes through its slots and then sets the mux back to where it was.  If that was no slot, the mux
stays on the last slot that was scanned, and the scan fails although nothing has gone wrong on the way
(`runs_scanSlots_blaming`).

`Session.OnSlot slot s`: the mux is on `slot`, and nothing that waits will change it.
-/

namespace TimingFleet

/-! ## The word of the mux -/

namespace Device

/-- **Only a write to the mux changes it.** -/
theorem word?_mux_after (d : Device) {op : Pending} (h : ∀ value, op ≠ .write FanoutNode.mux value) :
    (d.after op).word? FanoutNode.mux = d.word? FanoutNode.mux := by
  cases op with
  | read handle => rfl
  | readBlock handle words =>
    show (d.takeOut handle.path words).word? FanoutNode.mux = _
    unfold takeOut
    cases d.registers.fifos[handle.path]? with
    | none => rfl
    | some queue =>
      cases NodePath.beforeSuffix EndpointNode.bufferData handle.path with
      | none => rfl
      | some base => exact word?_mux_setWord_join (by decide) (by decide) _ base _
  | write path value =>
    have hne : path ≠ FanoutNode.mux := fun heq => h value (heq ▸ rfl)
    show (d.writeWord path value).word? FanoutNode.mux = _
    rw [word?_mux_writeWord, word?_setWord, if_neg hne]
  | writeBlock path values =>
    show (d.writeBlock path values).word? FanoutNode.mux = _
    unfold writeBlock
    dsimp only
    split_ifs <;> rfl

end Device

/-! ## Sessions whose mux stays -/

namespace Session

variable {s : Session} {slot : UInt32} {r : Request}

/-- The mux is on `slot`, and nothing that waits will change it. -/
structure OnSlot (slot : UInt32) (s : Session) : Prop where
  mux : s.device.word? FanoutNode.mux = some slot
  batch : ∀ op ∈ s.batch.toList, ∀ value, op ≠ .write FanoutNode.mux value

theorem OnSlot.answer (h : s.OnSlot slot) (hr : ∀ value, r ≠ .write FanoutNode.mux value) :
    (s.answer r).state.OnSlot slot := by
  have hkept : ∀ op ∈ s.batch.toList, ∀ d : Device,
      d.word? FanoutNode.mux = some slot → (d.after op).word? FanoutNode.mux = some slot :=
    fun op hop d hd => (Device.word?_mux_after d (h.batch op hop)).trans hd
  refine ⟨answer_keeps hkept h.mux, ?_⟩
  rintro op hop value rfl
  rcases mem_batch_answer hop with hop | hop
  · exact h.batch _ hop value rfl
  · exact hr value (Request.eq_write_of_queued? hop)

end Session

/-! ## Scans -/

namespace Board

open Procedure Session

variable {b : Board} {now : UInt64} {s : Session} {slot : UInt32}

/-- A slot that can be selected is selected. -/
theorem runs_selectMux_onSlot (hs : s.Clear) :
    Runs now (b.selectMux slot) s (fun _ t _ => t.OnSlot slot) fun _ _ _ => True := by
  unfold selectMux
  refine runs_bind ?_
  by_cases hb : b.role = .fanout
  case neg =>
    unfold require
    rw [if_neg hb]
    exact runs_fail trivial
  refine runs_require hb ?_
  split_ifs
  · exact runs_fail trivial
  by_cases hmux : s.device.registers.words.contains FanoutNode.mux = true
  case neg => exact runs_bind (runs_request (fun _ hok => absurd (hasWord_of_write hok) hmux) fun _ _ => trivial)
  have hbatch : (s.enqueue (.write FanoutNode.mux slot)).batch.toList = [.write FanoutNode.mux slot] := by
    rw [toList_batch_enqueue, show s.batch = #[] from hs]
    rfl
  refine runs_bind (runs_write hmux (runs_bind (runs_dispatch_or_refused _ hbatch (.write (.nil _))
    (fun _ t ht hbench => ?_) fun _ _ => trivial)))
  have hdev : t.device = s.device.writeWord FanoutNode.mux slot := congrArg Bench.device hbench
  refine runs_bind (runs_settle (runs_log ⟨?_, fun op hop => ?_⟩))
  · rw [hdev, Device.word?_mux_writeWord, Device.word?_setWord, if_pos rfl]
  · rw [ht] at hop
    exact absurd hop List.not_mem_nil

/-- What follows the selection of a slot writes no mux. -/
theorem asks_lockUplink_mux (b : Board) : b.lockUplink.Asks fun _ r => ∀ value, r ≠ .write FanoutNode.mux value := by
  have hpath : b.role.uplink.join EndpointNode.enable ≠ FanoutNode.mux := by cases b.role <;> decide
  have henable : ∀ v value, Request.write (b.role.uplink.join EndpointNode.enable) v ≠ .write FanoutNode.mux value :=
    fun v value heq => hpath (Request.write.inj heq).1
  unfold lockUplink
  refine asks_bind (asks_request (henable 0)) fun _ => asks_bind (asks_request (henable 1)) fun _ => ?_
  refine asks_bind (asks_request nofun) fun _ => asks_bind (asks_settle _ _) fun _ => ?_
  refine asks_bind (asks_request nofun) fun _ => asks_bind (asks_request nofun) fun _ => ?_
  exact asks_bind (asks_request nofun) fun _ => trivial

/-- A slot that has been scanned is the one that the mux is on. -/
theorem runs_scanSlot_onSlot (hs : s.Clear) :
    Runs now (b.scanSlot slot) s (fun _ t _ => t.Clear ∧ t.OnSlot slot) fun _ _ _ => True := by
  have htidy := (b.tidy_scanSlot slot now s hs).mono (fun _ _ _ h => h.1) fun _ _ _ _ => trivial
  refine (htidy.and (?_ : Runs now (b.scanSlot slot) s (fun _ t _ => t.OnSlot slot) fun _ _ _ => True)).mono
    (fun _ _ _ h => h) fun _ _ _ _ => trivial
  refine runs_bind ((runs_selectMux_onSlot hs).mono (fun _ t _ ht => ?_) fun _ _ _ h => h)
  refine Runs.mono (runs_const_iff (R := fun u _ => u.OnSlot slot).mpr ?_) (fun _ _ _ h => h) fun _ _ _ _ => trivial
  refine (Asks.keeps (I := OnSlot slot) (?_ : Asks (fun _ r => ∀ value, r ≠ .write FanoutNode.mux value) _)
    (fun _ _ _ hr hu => hu.answer hr) ht).1
  refine asks_bind (asks_request nofun) fun _ => asks_bind (asks_request nofun) fun _ => ?_
  refine asks_bind (asks_request nofun) fun _ => asks_bind b.asks_lockUplink_mux fun _ => ?_
  exact asks_bind (asks_request nofun) fun _ => asks_bind (asks_request nofun) fun _ => trivial

/-- After a scan of some slots the mux is on the last. -/
theorem runs_each_scanSlot_onSlot {slots : List UInt32} (hs : s.Clear) (hne : slots ≠ []) :
    Runs now (each slots b.scanSlot) s (fun _ t _ => t.Clear ∧ t.OnSlot (slots.getLast hne)) fun _ _ _ => True := by
  induction slots generalizing s with
  | nil => exact absurd rfl hne
  | cons slot slots ih =>
    refine runs_bind ((runs_scanSlot_onSlot hs).mono ?_ fun _ _ _ h => h)
    rintro scan t _ ⟨ht, hslot⟩
    by_cases hlast : slots = []
    · subst hlast
      exact runs_bind (runs_pure (runs_pure ⟨ht, hslot⟩))
    · rw [List.getLast_cons hlast]
      exact runs_bind ((ih ht hlast).mono (fun _ _ _ hu => runs_pure hu) fun _ _ _ h => h)

/-! ## Scans that blame an argument -/

theorem failsOnly_require {φ : Error → Prop} {role : BoardRole} (hb : b.role = role) (operation : String) :
    (b.require role operation).FailsOnly φ :=
  failsOnly_ite (fun _ => trivial) fun h => absurd hb h

theorem failsOnly_lockUplink {φ : Error → Prop} (b : Board) : b.lockUplink.FailsOnly φ := by
  unfold lockUplink
  refine failsOnly_bind (failsOnly_request _ _) fun _ => failsOnly_bind (failsOnly_request _ _) fun _ => ?_
  refine failsOnly_bind (failsOnly_request _ _) fun _ => failsOnly_bind (failsOnly_settle _ _) fun _ => ?_
  refine failsOnly_bind (failsOnly_request _ _) fun _ => failsOnly_bind (failsOnly_request _ _) fun _ => ?_
  exact failsOnly_bind (failsOnly_request _ _) fun _ => failsOnly_bind (failsOnly_log _ _) fun _ => failsOnly_pure _

/-- The selection of a slot that exists blames no argument. -/
theorem failsOnly_selectMux {φ : Error → Prop} (hb : b.role = .fanout) (hslot : slot < fanoutSlots) :
    (b.selectMux slot).FailsOnly φ := by
  unfold selectMux
  refine failsOnly_bind (failsOnly_require hb _) fun _ => ?_
  refine failsOnly_ite (fun hle => absurd hle (UInt32.not_le.mpr hslot)) fun _ => ?_
  refine failsOnly_bind (failsOnly_request _ _) fun _ => failsOnly_bind (failsOnly_request _ _) fun _ => ?_
  exact failsOnly_bind (failsOnly_settle _ _) fun _ => failsOnly_log _ _

theorem failsOnly_readMux {φ : Error → Prop} (hb : b.role = .fanout) : b.readMux.FailsOnly φ := by
  unfold readMux
  refine failsOnly_bind (failsOnly_require hb _) fun _ => failsOnly_bind (failsOnly_request _ _) fun _ => ?_
  exact failsOnly_bind (failsOnly_request _ _) fun _ => failsOnly_request _ _

theorem failsOnly_scanSlot {φ : Error → Prop} (hb : b.role = .fanout) (hslot : slot < fanoutSlots) :
    (b.scanSlot slot).FailsOnly φ := by
  unfold scanSlot
  refine failsOnly_bind (failsOnly_selectMux hb hslot) fun _ => failsOnly_bind (failsOnly_request _ _) fun _ => ?_
  refine failsOnly_bind (failsOnly_request _ _) fun _ => failsOnly_bind (failsOnly_request _ _) fun _ => ?_
  refine failsOnly_bind b.failsOnly_lockUplink fun _ => failsOnly_bind (failsOnly_request _ _) fun _ => ?_
  exact failsOnly_bind (failsOnly_request _ _) fun _ => failsOnly_pure _

/-- The scan of all slots ends on the last, or it fails without blaming an argument. -/
theorem runs_each_slots (hb : b.role = .fanout) (hs : s.Clear) :
    Runs now (each slots b.scanSlot) s (fun _ t _ => t.Clear ∧ t.OnSlot (fanoutSlots - 1))
      fun e _ _ => ¬ e.BlamesArgument := by
  have hall : slots.all (fun slot => slot < fanoutSlots) = true := by decide
  have hslots : ∀ slot ∈ slots, slot < fanoutSlots :=
    fun slot hslot => of_decide_eq_true (List.all_eq_true.mp hall slot hslot)
  have hblames : (each slots b.scanSlot).FailsOnly fun e => ¬ e.BlamesArgument :=
    failsOnly_each fun slot hslot => failsOnly_scanSlot hb (hslots slot hslot)
  exact ((runs_each_scanSlot_onSlot hs (by decide)).and (runs_blamesNoArgument hblames now s)).mono
    (fun _ _ _ h => h.1) fun _ _ _ h => h.2

/-- The scan has gone through all slots of a fanout whose mux was on none of them.  The error blames the slot that the
mux was on; the mux is on the last slot now. -/
structure Stranded (s : Session) (e : Error) (t : Session) : Prop where
  blames : ∃ slot, s.device.word? FanoutNode.mux = some slot ∧ fanoutSlots ≤ slot ∧ e = slotError slot
  clear : t.Clear
  onLast : t.device.word? FanoutNode.mux = some (fanoutSlots - 1)

/-- **A scan blames an argument** only at its end, where it cannot set the mux back. -/
theorem runs_scanSlots_blaming (hb : b.role = .fanout) (hs : s.Clear) :
    Runs now b.scanSlots s (fun _ _ _ => True) fun e t _ => e.BlamesArgument → Stranded s e t := by
  rw [scanSlots_eq]
  have hread := runs_blamesNoArgument (failsOnly_readMux hb) now s
  refine runs_bind (((runs_readMux_of_clear hb hs).and hread).mono (fun previous t _ h => ?_) fun _ _ _ h hblames => absurd hblames h.2)
  obtain ⟨⟨hword, -, ht, -⟩, -⟩ := h
  refine runs_bind (runs_attempt ((runs_each_slots hb ht).mono ?_ ?_))
  · rintro scans u _ ⟨hu, hlast⟩
    unfold setBack
    by_cases hslot : previous < fanoutSlots
    · have hrestore := runs_blamesNoArgument (failsOnly_selectMux hb hslot) now u
      exact runs_bind (runs_attempt (hrestore.mono (fun _ _ _ _ => runs_pure trivial)
        fun e v _ he => runs_fail fun hblames => absurd hblames he))
    · have hle : fanoutSlots ≤ previous := UInt32.not_lt.mp hslot
      rw [selectMux_of_not_slot hb hle]
      exact runs_bind (runs_attempt (runs_fail (runs_fail fun _ => ⟨⟨previous, hword, hle, rfl⟩, hu, hlast.mux⟩)))
  · rintro e u _ he
    unfold setBack
    -- the error of the scan goes before one of the restoring
    refine runs_bind (runs_attempt (Runs.mono (runs_const_iff (R := fun _ _ => True).mpr trivial) ?_ ?_))
    · exact fun _ v _ _ => runs_fail fun hblames => absurd hblames he
    · exact fun r v _ _ => runs_bind (runs_log (runs_fail fun hblames => absurd hblames he))

end Board

end TimingFleet

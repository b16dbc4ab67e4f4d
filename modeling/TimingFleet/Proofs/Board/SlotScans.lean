import TimingFleet.Proofs.Board.LinkFlags
import TimingFleet.Proofs.Session.Handles

/-!
# What a scan finds on a slot

A scan of a fanout selects one slot after the other, reads the link flags and restarts the uplink endpoint on it.  Each
selection overwrites what the one before has set, and so does each restart.

* `Device.withUplink role code d`: `d` with its uplink endpoint enabled and in the state of `code`.
* `Device.scanned d slot`: `d` after the scan of one slot.
* `Device.slotScan d slot`: what the scan finds, which depends on nothing but whether the slot is live.

Of all slots that are scanned only the last shows afterwards (`Device.foldl_scanned`), and once the mux is set back only
the uplink endpoint is another than before (`Device.ShowsSlot.writeWord_mux_scanned`).
-/

namespace TimingFleet

/-! ## Words that are set one over the other -/

namespace Device

variable {d : Device} {role : BoardRole} {slot m : UInt32}

/-- Devices that differ from `d` in words only are equal if they have the same words. -/
theorem eq_of_word? {x y : Device} (hx : x = { d with registers := { d.registers with words := x.registers.words } })
    (hy : y = { d with registers := { d.registers with words := y.registers.words } })
    (h : ∀ path, x.word? path = y.word? path) : x = y := by
  have hwords : x.registers.words = y.registers.words := Std.ExtTreeMap.ext_getElem? h
  rw [hx, hy, hwords]

theorem setWord_setWord (d : Device) (path : NodePath) (a b : UInt32) :
    (d.setWord path a).setWord path b = d.setWord path b := by
  refine eq_of_word? (d := d) rfl rfl fun other => ?_
  simp only [word?_setWord]
  split_ifs <;> rfl

theorem setWord_comm {p q : NodePath} (h : p ≠ q) (d : Device) (a b : UInt32) :
    (d.setWord p a).setWord q b = (d.setWord q b).setWord p a := by
  refine eq_of_word? (d := d) rfl rfl fun other => ?_
  simp only [word?_setWord]
  split_ifs with hq hp
  · exact absurd (hp.trans hq.symm) h
  · rfl
  · rfl
  · rfl

/-! ## The uplink endpoint -/

/-- The uplink endpoint is enabled, and in the state of `code`. -/
def withUplink (role : BoardRole) (code : UInt32) (d : Device) : Device :=
  (d.setWord role.enable 1).setWord role.state code

theorem enable_ne_state (role : BoardRole) : role.enable ≠ role.state := by cases role <;> decide

theorem restartUplink_eq_withUplink (hk : d.kind = role.kind) :
    d.restartUplink role = d.withUplink role (d.linked role).code := by
  rw [restartUplink_eq hk, setWord_comm (enable_ne_state role).symm, setWord_setWord, setWord_setWord, withUplink]

theorem withUplink_withUplink (d : Device) (role : BoardRole) (a b : UInt32) :
    (d.withUplink role a).withUplink role b = d.withUplink role b := by
  unfold withUplink
  rw [setWord_comm (enable_ne_state role).symm, setWord_setWord, setWord_setWord]

theorem word?_withUplink {path : NodePath} (he : path ≠ role.enable) (hs : path ≠ role.state) (code : UInt32) :
    (d.withUplink role code).word? path = d.word? path := by
  rw [withUplink, word?_setWord, if_neg (Ne.symm hs), word?_setWord, if_neg (Ne.symm he)]

/-- Any other word may be set before or after. -/
theorem setWord_withUplink {path : NodePath} (he : path ≠ role.enable) (hs : path ≠ role.state) (code value : UInt32) :
    (d.withUplink role code).setWord path value = (d.setWord path value).withUplink role code := by
  unfold withUplink
  rw [setWord_comm hs.symm, setWord_comm he.symm]

theorem evolves_withUplink (d : Device) (role : BoardRole) (code : UInt32) : d.Evolves (d.withUplink role code) :=
  (evolves_setWord _ _ _).trans (evolves_setWord _ _ _)

/-! ## Slots that are selected -/

/-- A selection sets the mux and both link flags. -/
theorem writeWord_mux_eq (hk : d.kind = .fanout) (slot : UInt32) :
    d.writeWord FanoutNode.mux slot =
      ((d.setWord FanoutNode.mux slot).setWord FanoutNode.cdrLossOfLock (flag (!d.liveSlots.contains slot))).setWord
        FanoutNode.sfpLossOfSignal (flag (!d.liveSlots.contains slot)) := by
  have hlive : (d.setWord FanoutNode.mux slot).onLiveSlot = d.liveSlots.contains slot := by
    rw [onLiveSlot, word?_setWord, if_pos rfl]
    rfl
  have hk' : (d.setWord FanoutNode.mux slot).kind = .fanout := hk
  rw [writeWord_mux hk, updateLinkFlags, if_pos hk', hlive]

theorem word?_link_writeWord_mux (hk : d.kind = .fanout) (slot : UInt32) :
    (d.writeWord FanoutNode.mux slot).word? FanoutNode.cdrLossOfLock = some (flag (!d.liveSlots.contains slot)) ∧
      (d.writeWord FanoutNode.mux slot).word? FanoutNode.sfpLossOfSignal =
        some (flag (!d.liveSlots.contains slot)) := by
  have hne : FanoutNode.sfpLossOfSignal ≠ FanoutNode.cdrLossOfLock := by decide
  rw [writeWord_mux_eq hk, word?_setWord, if_neg hne, word?_setWord, if_pos rfl, word?_setWord, if_pos rfl]
  exact ⟨rfl, rfl⟩

/-- A selection overwrites the one before it. -/
theorem writeWord_mux_writeWord_mux (hk : d.kind = .fanout) (a b : UInt32) :
    (d.writeWord FanoutNode.mux a).writeWord FanoutNode.mux b = d.writeWord FanoutNode.mux b := by
  have hev := d.evolves_writeWord FanoutNode.mux a
  rw [writeWord_mux_eq (hev.kind.trans hk), hev.liveSlots, writeWord_mux_eq hk, writeWord_mux_eq hk]
  refine eq_of_word? (d := d) rfl rfl fun path => ?_
  simp only [word?_setWord]
  split_ifs <;> rfl

/-- The uplink endpoint is left alone by a selection. -/
theorem writeWord_mux_withUplink (hk : d.kind = .fanout) (code slot : UInt32) :
    (d.withUplink .fanout code).writeWord FanoutNode.mux slot =
      (d.writeWord FanoutNode.mux slot).withUplink .fanout code := by
  have hev := d.evolves_withUplink .fanout code
  rw [writeWord_mux_eq (hev.kind.trans hk), hev.liveSlots, writeWord_mux_eq hk, setWord_withUplink (by decide) (by decide),
    setWord_withUplink (by decide) (by decide), setWord_withUplink (by decide) (by decide)]

/-- A fanout that shows the slot of its mux is not changed by a selection of that slot. -/
theorem ShowsSlot.writeWord_mux (h : d.ShowsSlot m) : d.writeWord FanoutNode.mux m = d := by
  rw [writeWord_mux_eq h.kind, setWord_eq_self h.mux, setWord_eq_self h.lossOfLock, setWord_eq_self h.lossOfSignal]

theorem ShowsSlot.withUplink (h : d.ShowsSlot m) (code : UInt32) : (d.withUplink .fanout code).ShowsSlot m := by
  have hne : ∀ path ∈ FanoutNode.linkNodes, path ≠ BoardRole.fanout.enable ∧ path ≠ BoardRole.fanout.state := by decide
  exact h.of_eq (d.evolves_withUplink _ _) fun path hpath => word?_withUplink (hne path hpath).1 (hne path hpath).2 code

/-! ## Slots that are scanned -/

/-- The code that the uplink endpoint shows once it has been restarted on the slot. -/
def lockCode (d : Device) (slot : UInt32) : UInt32 :=
  (if d.liveSlots.contains slot then EndpointState.ready else .waitingCdrLock).code

/-- What a scan finds on the slot. -/
def slotScan (d : Device) (slot : UInt32) : SlotScan :=
  ⟨slot, flag (!d.liveSlots.contains slot), flag (!d.liveSlots.contains slot), d.lockCode slot⟩

/-- The device after the scan of a slot. -/
def scanned (d : Device) (slot : UInt32) : Device := (d.writeWord FanoutNode.mux slot).restartUplink .fanout

theorem evolves_scanned (d : Device) (slot : UInt32) : d.Evolves (d.scanned slot) :=
  (d.evolves_writeWord _ _).trans (evolves_restartUplink _ _)

theorem lockCode_congr {e : Device} (h : d.Evolves e) (slot : UInt32) : e.lockCode slot = d.lockCode slot := by
  rw [lockCode, h.liveSlots, ← lockCode]

theorem slotScan_congr {e : Device} (h : d.Evolves e) (slot : UInt32) : e.slotScan slot = d.slotScan slot := by
  rw [slotScan, lockCode_congr h, h.liveSlots, ← slotScan]

theorem linked_writeWord_mux (d : Device) (slot : UInt32) :
    ((d.writeWord FanoutNode.mux slot).linked .fanout).code = d.lockCode slot := by
  rw [linked, onLiveSlot_writeWord_mux, lockCode]

theorem scanned_eq (hk : d.kind = .fanout) (slot : UInt32) :
    d.scanned slot = (d.writeWord FanoutNode.mux slot).withUplink .fanout (d.lockCode slot) := by
  have hk' : (d.writeWord FanoutNode.mux slot).kind = BoardRole.fanout.kind := (d.evolves_writeWord _ _).kind.trans hk
  rw [scanned, restartUplink_eq_withUplink hk', linked_writeWord_mux]

/-- A scan overwrites the one before it. -/
theorem scanned_scanned (hk : d.kind = .fanout) (a b : UInt32) : (d.scanned a).scanned b = d.scanned b := by
  have hev := d.evolves_writeWord FanoutNode.mux a
  rw [scanned_eq ((d.evolves_scanned a).kind.trans hk), lockCode_congr (d.evolves_scanned a), scanned_eq hk,
    writeWord_mux_withUplink (hev.kind.trans hk), writeWord_mux_writeWord_mux hk, withUplink_withUplink, scanned_eq hk]

/-- **Slots one after the other**: only the last shows afterwards. -/
theorem foldl_scanned (hk : d.kind = .fanout) {slots : List UInt32} (hne : slots ≠ []) :
    slots.foldl scanned d = d.scanned (slots.getLast hne) := by
  obtain ⟨first, rest, rfl⟩ := List.exists_cons_of_ne_nil hne
  rw [List.foldl_cons]
  induction rest generalizing first with
  | nil => rfl
  | cons next rest ih =>
    rw [List.foldl_cons, scanned_scanned hk, ih next (List.cons_ne_nil _ _), List.getLast_cons (List.cons_ne_nil _ _)]

/-- **The mux set back**: nothing but the uplink endpoint is another than before. -/
theorem ShowsSlot.writeWord_mux_scanned (h : d.ShowsSlot m) (slot : UInt32) :
    (d.scanned slot).writeWord FanoutNode.mux m = d.withUplink .fanout (d.lockCode slot) := by
  have hev := d.evolves_writeWord FanoutNode.mux slot
  rw [scanned_eq h.kind, writeWord_mux_withUplink (hev.kind.trans h.kind), writeWord_mux_writeWord_mux h.kind,
    h.writeWord_mux]

end Device

/-! ## Scans of slots -/

/-- A value that is there stays, whatever else is asked. -/
theorem Session.Settled.runs {α : Type} {s : Session} {n : Nat} (h : s.Settled n) (now : UInt64)
    (p : Procedure Unit α) :
    Procedure.Runs now p s (fun _ t _ => Slots.SameAt n t.slots s.slots) fun _ t _ => Slots.SameAt n t.slots s.slots :=
  Procedure.runs_const_iff.mpr (p.asks_true.keeps (I := fun t : Session => t.Settled n ∧ Slots.SameAt n t.slots s.slots)
    (fun _ r _ _ ht => ⟨(ht.1.answer r).1, (ht.1.answer r).2.trans ht.2⟩) ⟨h, .refl n _⟩).1.2

namespace Board

open Procedure

variable {b : Board} {s : Session} {now : UInt64} {slot m : UInt32} {slots : List UInt32}

/-- **Scan of one slot**: it finds what the slot makes of the device, or ends with the dispatch that is refused. -/
theorem runs_scanSlot (hb : b.role = .fanout) (hs : s.Idle .fanout) (hslot : slot < fanoutSlots) :
    Runs now (b.scanSlot slot) s
      (fun scan t _ => t.Idle .fanout ∧ t.device = s.device.scanned slot ∧ scan = s.device.slotScan slot)
      fun e t tr => ∃ ops, EndsRefused ops e t tr := by
  have hlock : BoardRole.fanout.registers.words.contains FanoutNode.cdrLossOfLock = true :=
    (BoardRole.contains_words _).mpr (by decide)
  have hsignal : BoardRole.fanout.registers.words.contains FanoutNode.sfpLossOfSignal = true :=
    (BoardRole.contains_words _).mpr (by decide)
  unfold scanSlot
  refine runs_bind ((runs_selectMux hb hs hslot).mono (fun _ t tr ht => ?_) fun _ _ _ h => ⟨_, h.2.2⟩)
  obtain ⟨ht, hdev⟩ := ht
  refine runs_bind (runs_read (ht.plays.words _ hlock) ?_)
  refine runs_bind (runs_read (ht.plays.words _ hsignal) ?_)
  refine runs_bind (runs_dispatch_or_refused [.read ⟨FanoutNode.cdrLossOfLock, t.slots.next⟩,
    .read ⟨FanoutNode.sfpLossOfSignal, t.slots.next + 1⟩] (by simp [ht.batch, Slots.wordHandle, Slots.bump])
    (.read (.read (.nil _))) (fun _ u hbatch hbench => ?_)
    fun _ hr => ⟨_, ((endsRefused_of_refusal rfl hr).append [_, _]).append tr⟩)
  have hudev : u.device = t.device := congrArg Bench.device hbench
  have hu : u.Idle .fanout := ht.of_device_eq hbatch hudev
  -- the flags are there, and stay while the uplink endpoint is restarted
  have hslots : u.slots = _ := congrArg Bench.slots hbench
  have hsettled : ∀ n < t.slots.next + 2, u.Settled n := fun n hn => ⟨by rw [hslots]; exact hn, by simp [hbatch, slotsOf]⟩
  have hvalues : u.slots.word? ⟨FanoutNode.cdrLossOfLock, t.slots.next⟩ =
        some (Device.flag (!s.device.liveSlots.contains slot)) ∧
      u.slots.word? ⟨FanoutNode.sfpLossOfSignal, t.slots.next + 1⟩ =
        some (Device.flag (!s.device.liveSlots.contains slot)) := by
    have hwords := Device.word?_link_writeWord_mux hs.plays.kind slot
    rw [← hdev] at hwords
    rw [hslots]
    simp [Session.bench, hwords.1, hwords.2]
  refine runs_bind ((((runs_lockUplink hb hu).and ((hsettled t.slots.next (by omega)).runs now _)).and
    ((hsettled (t.slots.next + 1) (by omega)).runs now _)).mono (fun code v _ hv => ?_) fun _ _ _ h => ?_)
  · obtain ⟨⟨⟨hv, hvdev, rfl⟩, hfirst⟩, hsecond⟩ := hv
    refine runs_bind (runs_wordValue _ (hfirst.1.trans hvalues.1) ?_)
    refine runs_bind (runs_wordValue _ (hsecond.1.trans hvalues.2) (runs_pure ⟨hv, ?_, ?_⟩))
    · rw [hvdev, hudev, hdev, Device.scanned]
    · have hk : t.device.kind = BoardRole.fanout.kind := ht.plays.kind
      rw [hvdev, hudev, Device.word?_state_restartUplink hk, hdev, Device.linked_writeWord_mux]
      rfl
  · obtain ⟨⟨⟨-, -, ops, hrefused⟩, -⟩, -⟩ := h
    exact ⟨ops, ((hrefused.append [_, _, _]).append tr)⟩

/-- **Slots one after the other**: what each of them shows depends on no other. -/
theorem runs_each_scanSlot (hb : b.role = .fanout) (hslots : ∀ slot ∈ slots, slot < fanoutSlots)
    (hs : s.Idle .fanout) :
    Runs now (each slots b.scanSlot) s
      (fun scans t _ => t.Idle .fanout ∧ t.device = slots.foldl Device.scanned s.device ∧
        scans = slots.map s.device.slotScan)
      fun e t tr => ∃ ops, EndsRefused ops e t tr := by
  induction slots generalizing s with
  | nil => exact runs_pure ⟨hs, rfl, rfl⟩
  | cons slot slots ih =>
    obtain ⟨hslot, hslots⟩ := List.forall_mem_cons.mp hslots
    refine runs_bind ((runs_scanSlot hb hs hslot).mono (fun scan t tr h => ?_) fun _ _ _ h => h)
    obtain ⟨ht, hdev, rfl⟩ := h
    refine runs_bind ((ih hslots ht).mono (fun scans u _ h => ?_) fun _ _ _ ⟨ops, h⟩ => ⟨ops, h.append tr⟩)
    obtain ⟨hu, hudev, rfl⟩ := h
    refine runs_pure ⟨hu, by rw [hudev, hdev, List.foldl_cons], ?_⟩
    have hev : s.device.Evolves t.device := hdev ▸ s.device.evolves_scanned slot
    rw [List.map_cons, List.map_congr_left fun other _ => Device.slotScan_congr hev other]

end Board

end TimingFleet

import TimingFleet.Proofs.Board.Scan
import TimingFleet.Proofs.Operation.Basic

/-!
# The link flags of a fanout

The mux of a fanout is written by the selection of a slot, by a hard reset and all along a scan, and each of these can
end at any of its dispatches.  The link flags are set by the same writes as the mux and by nothing else.

* `Device.InStep d`: the mux of the fanout is on a slot, and its link flags are those of that slot.
* `FanoutNode.Spares path value`: writing `value` to `path` does not part the flags from the mux.

A board never writes anything else (`Board.spares_perform`), so a fanout that comes up in step stays so, whatever
it is asked to do and wherever that fails (`Board.flags_follow_mux`).
-/

namespace TimingFleet

/-- The mux and the link flags. -/
def FanoutNode.linkNodes : List NodePath := [mux, cdrLossOfLock, sfpLossOfSignal]

/-- Writing `value` to `path` sets no link flag, and the mux to a slot only. -/
def FanoutNode.Spares (path : NodePath) (value : UInt32) : Prop :=
  path ≠ cdrLossOfLock ∧ path ≠ sfpLossOfSignal ∧ (path = mux → value < fanoutSlots)

/-- The write that is asked for, if one is, spares the link flags. -/
def Request.SparesFlags (r : Request) : Prop := ∀ path value, r = .write path value → FanoutNode.Spares path value

/-- The operation that waits spares the link flags. -/
def Pending.SparesFlags (op : Pending) : Prop := ∀ path value, op = .write path value → FanoutNode.Spares path value

/-! ## Devices in step -/

namespace Device

variable {d e : Device} {slot : UInt32}

/-- The fanout has its mux on `slot` and shows the link flags of that slot. -/
structure ShowsSlot (d : Device) (slot : UInt32) : Prop where
  kind : d.kind = .fanout
  mux : d.word? FanoutNode.mux = some slot
  lossOfLock : d.word? FanoutNode.cdrLossOfLock = some (flag (!d.liveSlots.contains slot))
  lossOfSignal : d.word? FanoutNode.sfpLossOfSignal = some (flag (!d.liveSlots.contains slot))

/-- The mux of the fanout is on a slot, and its link flags are those of that slot. -/
def InStep (d : Device) : Prop := ∃ slot < fanoutSlots, d.ShowsSlot slot

theorem ShowsSlot.of_eq (h : d.ShowsSlot slot) (he : d.Evolves e)
    (hw : ∀ path ∈ FanoutNode.linkNodes, e.word? path = d.word? path) : e.ShowsSlot slot := by
  refine ⟨he.kind.trans h.kind, (hw _ (by decide)).trans h.mux, ?_, ?_⟩
  · rw [he.liveSlots]
    exact (hw _ (by decide)).trans h.lossOfLock
  · rw [he.liveSlots]
    exact (hw _ (by decide)).trans h.lossOfSignal

theorem writeWord_mux (hk : d.kind = .fanout) (slot : UInt32) :
    d.writeWord FanoutNode.mux slot = (d.setWord FanoutNode.mux slot).updateLinkFlags := by
  have hk' : (d.setWord FanoutNode.mux slot).kind = .fanout := hk
  unfold writeWord
  simp only [hk']
  exact if_pos rfl

/-- A fanout that brings its flags up to date shows the slot that its mux is on. -/
theorem showsSlot_updateLinkFlags (hk : d.kind = .fanout) (hmux : d.word? FanoutNode.mux = some slot) :
    d.updateLinkFlags.ShowsSlot slot := by
  have hev := d.evolves_updateLinkFlags
  have hlive : d.onLiveSlot = d.liveSlots.contains slot := by rw [onLiveSlot, hmux, Option.getD_some]
  have hne : FanoutNode.sfpLossOfSignal ≠ FanoutNode.cdrLossOfLock := by decide
  refine ⟨hev.kind.trans hk, d.word?_mux_updateLinkFlags.trans hmux, ?_, ?_⟩
  · rw [hev.liveSlots, ← hlive, updateLinkFlags, if_pos hk, word?_setWord, if_neg hne, word?_setWord, if_pos rfl]
  · rw [hev.liveSlots, ← hlive, updateLinkFlags, if_pos hk, word?_setWord, if_pos rfl]

/-- Taking words out of a queue changes no word but the occupancy of a buffer. -/
theorem word?_takeOut {path : NodePath} (h : path.parts.getLast? ≠ EndpointNode.bufferCount.parts.getLast?)
    (d : Device) (queue : NodePath) (words : Nat) : (d.takeOut queue words).word? path = d.word? path := by
  unfold takeOut
  cases d.registers.fifos[queue]? with
  | none => rfl
  | some waiting =>
    cases NodePath.beforeSuffix EndpointNode.bufferData queue with
    | none => rfl
    | some base =>
      have hne : base.join EndpointNode.bufferCount ≠ path := by
        rintro rfl
        exact h (NodePath.getLast?_join base (by decide))
      exact (word?_setWord _ _ _ _).trans (if_neg hne)

/-- What a fanout does after a write that is not to its mux changes no word but the state of its uplink endpoint. -/
theorem word?_reactFanout {path other : NodePath} (hmux : path ≠ FanoutNode.mux)
    (hother : other ≠ BoardRole.fanout.state) (d : Device) (value : UInt32) :
    (d.reactFanout path value).word? other = d.word? other := by
  unfold reactFanout
  rw [if_neg hmux]
  split
  · exact (word?_setWord _ _ _ _).trans (if_neg (Ne.symm hother))
  · rfl

/-- **One write** that spares the flags leaves them those of the slot that the mux is on. -/
theorem ShowsSlot.writeWord (h : d.ShowsSlot slot) {path : NodePath} {value : UInt32}
    (hs : FanoutNode.Spares path value) :
    ∃ next, (d.writeWord path value).ShowsSlot next ∧ (next = slot ∨ next < fanoutSlots) := by
  obtain ⟨hlock, hsignal, hvalue⟩ := hs
  have hreact : d.writeWord path value = (d.setWord path value).reactFanout path value := by
    have hk : (d.setWord path value).kind = .fanout := h.kind
    unfold Device.writeWord
    simp only [hk]
  by_cases hpath : path = FanoutNode.mux
  · subst hpath
    refine ⟨value, ?_, Or.inr (hvalue rfl)⟩
    rw [hreact, reactFanout, if_pos rfl]
    exact showsSlot_updateLinkFlags h.kind ((word?_setWord _ _ _ _).trans (if_pos rfl))
  · refine ⟨slot, h.of_eq (d.evolves_writeWord path value) fun other hother => ?_, Or.inl rfl⟩
    simp only [FanoutNode.linkNodes, List.mem_cons, List.not_mem_nil, or_false] at hother
    have hne : path ≠ other ∧ other ≠ BoardRole.fanout.state := by
      rcases hother with rfl | rfl | rfl
      · exact ⟨hpath, by decide⟩
      · exact ⟨hlock, by decide⟩
      · exact ⟨hsignal, by decide⟩
    rw [hreact, word?_reactFanout hpath hne.2, word?_setWord, if_neg hne.1]

/-- **One operation**: the flags stay those of the slot that the mux is on, whatever takes effect, as long as writes
spare them. -/
theorem ShowsSlot.after (h : d.ShowsSlot slot) {op : Pending} (hop : op.SparesFlags) :
    ∃ next, (d.after op).ShowsSlot next ∧ (next = slot ∨ next < fanoutSlots) := by
  cases op with
  | read handle => exact ⟨slot, h, Or.inl rfl⟩
  | readBlock handle words =>
    refine ⟨slot, h.of_eq (d.evolves_takeOut handle.path words) fun path hpath => word?_takeOut ?_ d _ _, Or.inl rfl⟩
    have hcount : ∀ path ∈ FanoutNode.linkNodes, path.parts.getLast? ≠ EndpointNode.bufferCount.parts.getLast? := by
      decide
    exact hcount path hpath
  | write path value => exact h.writeWord (hop path value rfl)
  | writeBlock path values =>
    have hwrite : d.writeBlock path values = d.setBlock path values := by
      have hk : (d.setBlock path values).kind ≠ .overlord := by
        rw [show (d.setBlock path values).kind = .fanout from h.kind]
        decide
      exact if_neg hk
    refine ⟨slot, h.of_eq (d.evolves_writeBlock path values) fun other _ => ?_, Or.inl rfl⟩
    show (d.writeBlock path values).word? other = _
    rw [hwrite, word?_setBlock]

/-- So a device that is in step stays so. -/
theorem InStep.after (h : d.InStep) {op : Pending} (hop : op.SparesFlags) : (d.after op).InStep := by
  obtain ⟨slot, hslot, h⟩ := h
  obtain ⟨next, hnext, rfl | hlt⟩ := h.after hop
  · exact ⟨next, hslot, hnext⟩
  · exact ⟨next, hlt, hnext⟩

/-! ### Fanouts that come up -/

/-- A fanout comes up with its mux on the first slot. -/
theorem showsSlot_fanout (id : String) : (Device.fanout id).ShowsSlot 0 := by
  -- the id is in no register
  let e := Device.fanout ""
  have hmux : e.word? FanoutNode.mux = some 0 := by decide +kernel
  have hlock : e.word? FanoutNode.cdrLossOfLock = some (flag (!e.liveSlots.contains 0)) := by decide +kernel
  have hsignal : e.word? FanoutNode.sfpLossOfSignal = some (flag (!e.liveSlots.contains 0)) := by decide +kernel
  exact ⟨rfl, hmux, hlock, hsignal⟩

/-- Whichever of its slots are live, it shows the first. -/
theorem showsSlot_withLiveSlots (id : String) (slots : List UInt32) :
    ((Device.fanout id).withLiveSlots slots).ShowsSlot 0 :=
  showsSlot_updateLinkFlags rfl (showsSlot_fanout id).mux

/-- To set a word to what it is changes nothing. -/
theorem setWord_eq_self {path : NodePath} {value : UInt32} (h : d.word? path = some value) :
    d.setWord path value = d := by
  have hwords : d.registers.words.insert path value = d.registers.words := by
    refine Std.ExtTreeMap.ext_getElem? fun other => ?_
    rw [Std.ExtTreeMap.getElem?_insert]
    split_ifs with heq
    · rw [← Std.LawfulEqCmp.compare_eq_iff_eq.mp heq]
      exact h.symm
    · rfl
  unfold setWord Registers.setWord
  rw [hwords]

/-- A fanout that shows the slot of its mux has nothing to bring up to date. -/
theorem ShowsSlot.updateLinkFlags (h : d.ShowsSlot slot) : d.updateLinkFlags = d := by
  have hlive : d.onLiveSlot = d.liveSlots.contains slot := by rw [onLiveSlot, h.mux, Option.getD_some]
  unfold Device.updateLinkFlags
  rw [if_pos h.kind, hlive]
  dsimp only
  rw [setWord_eq_self h.lossOfLock, setWord_eq_self h.lossOfSignal]

/-- A fanout comes up as one whose first four slots are live. -/
theorem fanout_withLiveSlots (id : String) : (Device.fanout id).withLiveSlots [0, 1, 2, 3] = Device.fanout id :=
  (showsSlot_fanout id).updateLinkFlags

end Device

/-! ## Sessions in step -/

namespace Session

variable {s : Session} {r : Request}

/-- The fanout is in step, and nothing that waits will change that. -/
structure InStep (s : Session) : Prop where
  device : s.device.InStep
  batch : ∀ op ∈ s.batch.toList, op.SparesFlags

/-- The device is as `P` says, and what waits spares the link flags. -/
structure Sparing (P : Device → Prop) (s : Session) : Prop where
  device : P s.device
  batch : ∀ op ∈ s.batch.toList, op.SparesFlags

/-- **One request** that spares the flags keeps of the device what every operation that spares them keeps. -/
theorem Sparing.answer {P : Device → Prop} (h : s.Sparing P) (hP : ∀ d op, op.SparesFlags → P d → P (d.after op))
    (hr : r.SparesFlags) : (s.answer r).state.Sparing P := by
  refine ⟨answer_keeps (fun op hop d hd => hP d op (h.batch op hop) hd) h.device, fun op hop => ?_⟩
  rcases mem_batch_answer hop with hop | hop
  · exact h.batch op hop
  · rintro path value rfl
    exact hr path value (Request.eq_write_of_queued? hop)

end Session

/-! ## What boards write -/

namespace Procedure

theorem asks_readGroup {φ : Unit → Request → Prop} (path : NodePath) (hnames : ∀ node, φ () (.subNodes node))
    (hread : ∀ node, φ () (.read node)) : (RegisterGroup.read path).Asks φ :=
  asks_bind (asks_request (hnames path)) fun _ => asks_each fun _ _ =>
    asks_bind (asks_request (hread _)) fun _ => trivial

theorem asks_collect {φ : Unit → Request → Prop} (handles : List (String × WordHandle))
    (hvalue : ∀ handle, φ () (.wordValue handle)) : (RegisterGroup.collect handles).Asks φ :=
  asks_bind (asks_each fun _ _ => asks_bind (asks_request (hvalue _)) fun _ => trivial) fun _ => trivial

end Procedure

namespace Board

open Procedure

variable {b : Board} {α β : Type}

/-- The procedure asks only for what spares the link flags. -/
def Spares (p : Procedure Unit α) : Prop := p.Asks fun _ r => r.SparesFlags

theorem spares_bind {p : Procedure Unit α} {f : α → Procedure Unit β} (hp : Spares p) (hf : ∀ a, Spares (f a)) :
    Spares (p >>= f) := asks_bind hp hf

theorem spares_request {r : Request} (h : ∀ path value, r ≠ .write path value) : Spares (request () r) :=
  asks_request fun path value heq => absurd heq (h path value)

/-- A write to no link node. -/
theorem spares_write {path : NodePath} (h : path ∉ FanoutNode.linkNodes) (value : UInt32) :
    Spares (write path value) := by
  simp only [FanoutNode.linkNodes, List.mem_cons, List.not_mem_nil, or_false, not_or] at h
  refine asks_request fun _ _ heq => ?_
  cases heq
  exact ⟨h.2.1, h.2.2, fun heq => absurd heq h.1⟩

/-- A write of a slot to the mux. -/
theorem spares_write_mux {slot : UInt32} (h : slot < fanoutSlots) : Spares (write FanoutNode.mux slot) := by
  refine asks_request fun _ _ heq => ?_
  cases heq
  exact ⟨by decide, by decide, fun _ => h⟩

theorem spares_readGroup (path : NodePath) : Spares (RegisterGroup.read path) :=
  asks_readGroup path (fun _ => nofun) fun _ => nofun

theorem spares_collect (handles : List (String × WordHandle)) : Spares (RegisterGroup.collect handles) :=
  asks_collect handles fun _ => nofun

theorem spares_require (role : BoardRole) (operation : String) : Spares (b.require role operation) :=
  asks_require b role operation

theorem spares_identify : Spares b.identify := by
  unfold identify
  refine spares_bind (spares_request nofun) fun _ => spares_bind (spares_request nofun) fun _ => ?_
  refine spares_bind (spares_request nofun) fun _ => spares_bind (spares_request nofun) fun _ => ?_
  refine spares_bind (spares_request nofun) fun _ => spares_bind (spares_request nofun) fun _ => ?_
  refine spares_bind (spares_request nofun) fun _ => spares_bind (spares_request nofun) fun _ => ?_
  exact spares_bind (spares_request nofun) fun _ => asks_ite (fun _ => trivial) fun _ => trivial

theorem spares_pulse {path : NodePath} (h : path ∉ FanoutNode.linkNodes) : Spares (pulse path) :=
  spares_bind (spares_write h 1) fun _ => spares_write h 0

/-- A hard reset writes the mux too: it puts it on the first slot. -/
theorem spares_reset (kind : ResetKind) : Spares (b.reset kind) := by
  unfold reset
  refine spares_bind (p := log _ _) trivial fun _ => spares_bind (spares_write (by decide) 1) fun _ => ?_
  refine spares_bind (spares_request nofun) fun _ => spares_bind (asks_settle _ _) fun _ => ?_
  refine asks_ite (fun _ => ?_) fun _ => trivial
  refine spares_bind (spares_pulse (by decide)) fun _ => spares_bind (spares_pulse (by decide)) fun _ => ?_
  refine spares_bind (spares_pulse (by decide)) fun _ => spares_bind (spares_request nofun) fun _ => ?_
  refine spares_bind (p := log _ _) trivial fun _ => asks_ite (fun _ => ?_) fun _ => trivial
  refine spares_bind (spares_write_mux (by decide)) fun _ => spares_bind (spares_pulse (by decide)) fun _ => ?_
  exact spares_bind (spares_request nofun) fun _ => trivial

theorem spares_status : Spares b.status := by
  unfold status
  exact spares_bind (spares_readGroup _) fun _ => spares_bind (spares_request nofun) fun _ => spares_collect _

theorem spares_pllStatus : Spares b.pllStatus := by
  unfold pllStatus
  refine spares_bind (spares_request nofun) fun _ => spares_bind (spares_readGroup _) fun _ => ?_
  refine spares_bind (spares_readGroup _) fun _ => spares_bind (spares_request nofun) fun _ => ?_
  refine spares_bind (spares_request nofun) fun _ => spares_bind (spares_collect _) fun _ => ?_
  exact spares_bind (spares_collect _) fun _ => trivial

theorem spares_lockUplink : Spares b.lockUplink := by
  have henable : b.role.uplink.join EndpointNode.enable ∉ FanoutNode.linkNodes := by cases b.role <;> decide
  unfold lockUplink
  refine spares_bind (spares_write henable 0) fun _ => spares_bind (spares_write henable 1) fun _ => ?_
  refine spares_bind (spares_request nofun) fun _ => spares_bind (asks_settle _ _) fun _ => ?_
  refine spares_bind (spares_request nofun) fun _ => spares_bind (spares_request nofun) fun _ => ?_
  exact spares_bind (spares_request nofun) fun _ => trivial

theorem spares_enableUplink : Spares b.enableUplink := by
  unfold enableUplink
  exact spares_bind spares_lockUplink fun _ => asks_ite (fun _ => trivial) fun _ => trivial

theorem spares_readTimestamp : Spares b.readTimestamp := by
  unfold readTimestamp
  refine spares_bind (spares_require _ _) fun _ => spares_bind (spares_request nofun) fun _ => ?_
  exact spares_bind (spares_request nofun) fun _ => spares_bind (spares_request nofun) fun _ => trivial

theorem spares_syncTimestampAt (seconds : UInt64) : Spares (b.syncTimestampAt seconds) := by
  unfold syncTimestampAt
  refine spares_bind spares_readTimestamp fun _ => spares_bind (p := log _ _) trivial fun _ => ?_
  refine spares_bind (spares_request nofun) fun _ => spares_bind (spares_request nofun) fun _ => ?_
  refine spares_bind spares_readTimestamp fun _ => spares_bind (p := log _ _) trivial fun _ => ?_
  exact spares_bind (spares_write (by decide) 1) fun _ => spares_bind (spares_request nofun) fun _ => trivial

theorem spares_switchSfp (address : UInt32) (on : Bool) : Spares (b.switchSfp address on) := by
  unfold switchSfp
  refine spares_bind (spares_require _ _) fun _ => asks_ite (fun _ => trivial) fun _ => ?_
  exact spares_bind (spares_request nofun) fun _ => spares_bind (spares_request nofun) fun _ => trivial

theorem spares_measureEcho : Spares b.measureEcho := by
  unfold measureEcho
  refine spares_bind (spares_require _ _) fun _ => spares_bind (spares_write (by decide) 1) fun _ => ?_
  refine spares_bind (spares_request nofun) fun _ => spares_bind (asks_settle _ _) fun _ => ?_
  refine spares_bind (spares_request nofun) fun _ => spares_bind (spares_request nofun) fun _ => ?_
  refine spares_bind (spares_request nofun) fun _ => spares_bind (spares_request nofun) fun _ => ?_
  refine spares_bind (spares_request nofun) fun _ => asks_ite (fun _ => trivial) fun _ => ?_
  exact spares_bind (spares_request nofun) fun _ => spares_bind (spares_request nofun) fun _ => trivial

/-- Only a slot is written to the mux: any other is refused before. -/
theorem spares_selectMux (slot : UInt32) : Spares (b.selectMux slot) := by
  unfold selectMux
  refine spares_bind (spares_require _ _) fun _ => asks_ite (fun _ => trivial) fun hslot => ?_
  refine spares_bind (spares_write_mux (UInt32.not_le.mp hslot)) fun _ => spares_bind (spares_request nofun) fun _ => ?_
  exact spares_bind (asks_settle _ _) fun _ => trivial

theorem spares_scanSlot (slot : UInt32) : Spares (b.scanSlot slot) := by
  unfold scanSlot
  refine spares_bind (spares_selectMux slot) fun _ => spares_bind (spares_request nofun) fun _ => ?_
  refine spares_bind (spares_request nofun) fun _ => spares_bind (spares_request nofun) fun _ => ?_
  refine spares_bind spares_lockUplink fun _ => spares_bind (spares_request nofun) fun _ => ?_
  exact spares_bind (spares_request nofun) fun _ => trivial

/-- A scan writes the mux at every slot and once more at its end, there with what it has read before. -/
theorem spares_scanSlots : Spares b.scanSlots := by
  unfold scanSlots
  refine spares_bind (spares_require _ _) fun _ => spares_bind (spares_request nofun) fun _ => ?_
  refine spares_bind (spares_request nofun) fun _ => spares_bind (spares_request nofun) fun previous => ?_
  refine spares_bind (asks_attempt (asks_each fun slot _ => spares_scanSlot slot)) fun scanned => ?_
  refine spares_bind (asks_attempt (spares_selectMux previous)) fun restored => ?_
  cases scanned <;> cases restored <;> trivial

/-- **What boards write** spares the link flags of a fanout, in any operation with any arguments. -/
theorem spares_perform (b : Board) (o : Operation) : Spares (b.perform o) := by
  cases o with
  | identify => exact spares_identify
  | reset kind => exact spares_reset kind
  | status => exact b.spares_status
  | pllStatus => exact b.spares_pllStatus
  | enableUplink => exact spares_enableUplink
  | readTimestamp => exact spares_readTimestamp
  | syncTimestamp => exact fun now => spares_syncTimestampAt now
  | syncTimestampAt seconds => exact spares_syncTimestampAt seconds
  | switchSfp address on => exact spares_switchSfp address on
  | measureEcho => exact spares_measureEcho
  | selectMux slot => exact spares_selectMux slot
  | scanSlots => exact spares_scanSlots

/-! ## Sequences of operations -/

/-- The session after the operations, each at its own time and each whether those before it have succeeded or not. -/
def performAll (b : Board) (calls : List (UInt64 × Operation)) (s : Session) : Session :=
  calls.foldl (fun s call => ((b.perform call.2).run call.1 s).state) s

/-- **Operations**, with or without success, keep of the device what every operation that spares the flags keeps. -/
theorem sparing_performAll {P : Device → Prop} (hP : ∀ d op, op.SparesFlags → P d → P (d.after op)) {s : Session}
    (h : s.Sparing P) (calls : List (UInt64 × Operation)) : (b.performAll calls s).Sparing P := by
  induction calls generalizing s with
  | nil => exact h
  | cons call calls ih =>
    exact ih (Asks.keeps (b.spares_perform call.2) (fun _ _ _ hr ht => ht.answer hP hr) h).1

theorem inStep_performAll {s : Session} (h : s.InStep) (calls : List (UInt64 × Operation)) :
    (b.performAll calls s).InStep := by
  obtain ⟨hd, hb⟩ := sparing_performAll (b := b) (P := Device.InStep) (fun _ _ hop hd => hd.after hop)
    ⟨h.device, h.batch⟩ calls
  exact ⟨hd, hb⟩

theorem evolves_performAll (s : Session) (calls : List (UInt64 × Operation)) :
    s.device.Evolves (b.performAll calls s).device := by
  induction calls generalizing s with
  | nil => exact .refl _
  | cons call calls ih => exact (s.evolves_run call.1 _).trans (ih _)

/-- **The link flags follow the mux.**  A fanout comes up with any live slots and any faults, and a board on it is asked
for any operations, with any arguments and at any times.  However many of them fail, and wherever they do, the mux is
on a slot afterwards, and both flags are zero if that slot is live and one if it is not.  A fanout with the live slots
of its make is among these (`Device.fanout_withLiveSlots`). -/
theorem flags_follow_mux (b : Board) (id : String) (slots : List UInt32) (failure : Option String)
    (failingDispatch : Option Nat) (calls : List (UInt64 × Operation)) :
    let d := { (Device.fanout id).withLiveSlots slots with failure, failingDispatch }
    let e := (b.performAll calls (Session.ofDevice d)).device
    ∃ slot ≤ 7, e.word? FanoutNode.mux = some slot ∧
      e.word? FanoutNode.cdrLossOfLock = some (if slot ∈ slots then 0 else 1) ∧
      e.word? FanoutNode.sfpLossOfSignal = some (if slot ∈ slots then 0 else 1) := by
  intro d e
  have hup := Device.showsSlot_withLiveSlots id slots
  have hd : d.InStep := ⟨0, by decide, hup.kind, hup.mux, hup.lossOfLock, hup.lossOfSignal⟩
  have hs : (Session.ofDevice d).InStep := ⟨hd, fun op hop => absurd hop List.not_mem_nil⟩
  obtain ⟨slot, hslot, h⟩ := (inStep_performAll (b := b) hs calls).device
  have hlive : e.liveSlots = Std.ExtTreeSet.ofList slots compare := (evolves_performAll _ calls).liveSlots
  have hflag : Device.flag (!e.liveSlots.contains slot) = if slot ∈ slots then 0 else 1 := by
    rw [hlive, Std.ExtTreeSet.contains_ofList]
    by_cases hmem : slot ∈ slots <;> simp [Device.flag, hmem]
  refine ⟨slot, ?_, h.mux, ?_, ?_⟩
  · have hlt : slot.toNat < 8 := UInt32.lt_iff_toNat_lt.mp hslot
    exact UInt32.le_iff_toNat_le.mpr (Nat.le_of_lt_succ hlt)
  · rw [← hflag]
    exact h.lossOfLock
  · rw [← hflag]
    exact h.lossOfSignal

end Board

end TimingFleet

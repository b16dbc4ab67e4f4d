import TimingFleet.Proofs.Board.LinkFlags
import TimingFleet.Proofs.Procedure.Straight
import TimingFleet.Proofs.Session.Counting

/-!
# Resets and the setting of the time

A hard reset ends with the registers that it pulses at zero and, on a fanout, with the mux on the first slot
(`Device.isReset_hardReset`).  On the overlord it switches the broadcast of the time stamp off and leaves the time stamp
alone (`Device.leavesTime_hardReset`); only the setting of the time switches it on again.

* `Device.IsReset d role`: what a device shows that has been reset.
* `Device.LeavesTime d e`: from `d` to `e` the time has not been set.
-/

namespace TimingFleet

/-! ## Registers that a reset writes -/

namespace BoardRole

/-- The registers to whose writes a board for the role reacts. -/
def reactive : BoardRole → List NodePath
  | .overlord => [BoardRole.overlord.enable, MasterNode.echoGo, BoardNode.softReset]
  | .fanout => [FanoutNode.mux, BoardRole.fanout.enable]

/-- The registers that a hard reset pulses. -/
def pulsed : BoardRole → List NodePath
  | .overlord => [BoardNode.pllReset, BoardNode.i2cReset, BoardNode.i2cMuxReset]
  | .fanout => [BoardNode.pllReset, BoardNode.i2cReset, BoardNode.i2cMuxReset, BoardNode.lockMonitorReset]

/-- A board reacts to no register that both kinds of board have pulsed. -/
theorem not_mem_reactive (role : BoardRole) : ∀ path ∈ BoardRole.overlord.pulsed, path ∉ role.reactive := by
  cases role <;> decide

end BoardRole

namespace Device

variable {d e : Device} {path other : NodePath}

/-- A board does not react to a write elsewhere. -/
theorem writeWord_of_not_reactive (role : BoardRole) (hk : d.kind = role.kind) (h : path ∉ role.reactive)
    (value : UInt32) : d.writeWord path value = d.setWord path value := by
  have hk' : (d.setWord path value).kind = role.kind := hk
  unfold writeWord
  cases role with
  | overlord =>
    simp only [BoardRole.reactive, List.mem_cons, List.not_mem_nil, or_false, not_or] at h
    obtain ⟨henable, hgo, hreset⟩ := h
    simp only [hk', BoardRole.kind, reactOverlord]
    refine (if_neg henable).trans ?_
    rw [if_neg fun h => hgo h.1, if_neg fun h => hreset h.1]
  | fanout =>
    simp only [BoardRole.reactive, List.mem_cons, List.not_mem_nil, or_false, not_or] at h
    obtain ⟨hmux, henable⟩ := h
    simp only [hk', BoardRole.kind, reactFanout]
    rw [if_neg hmux]
    exact if_neg henable

/-- The device after the register has been pulsed. -/
def pulse (d : Device) (path : NodePath) : Device := (d.writeWord path 1).writeWord path 0

theorem evolves_pulse (d : Device) (path : NodePath) : d.Evolves (d.pulse path) :=
  (d.evolves_writeWord path 1).trans (evolves_writeWord _ _ _)

theorem pulse_eq (role : BoardRole) (hk : d.kind = role.kind) (h : path ∉ role.reactive) :
    d.pulse path = (d.setWord path 1).setWord path 0 := by
  have hk' : (d.setWord path 1).kind = role.kind := hk
  rw [pulse, writeWord_of_not_reactive role hk h, writeWord_of_not_reactive role hk' h]

theorem word?_pulse (role : BoardRole) (hk : d.kind = role.kind) (h : path ∉ role.reactive) (other : NodePath) :
    (d.pulse path).word? other = if path = other then some 0 else d.word? other := by
  rw [pulse_eq role hk h, word?_setWord, word?_setWord]
  split_ifs <;> rfl

theorem block?_pulse (role : BoardRole) (hk : d.kind = role.kind) (h : path ∉ role.reactive) (other : NodePath) :
    (d.pulse path).block? other = d.block? other := by
  rw [pulse_eq role hk h]
  rfl

/-! ## The three steps of a hard reset -/

/-- The device after its design has been reset. -/
def softReset (d : Device) : Device := d.writeWord BoardNode.softReset 1

/-- The device after its PLL and its I2C bus have been reset. -/
def resetIo (d : Device) : Device :=
  ((d.pulse BoardNode.pllReset).pulse BoardNode.i2cReset).pulse BoardNode.i2cMuxReset

/-- The device after the inputs of a fanout have been reset. -/
def resetInputs (d : Device) : Device := (d.writeWord FanoutNode.mux 0).pulse BoardNode.lockMonitorReset

/-- The device after a hard reset. -/
def hardReset (d : Device) : BoardRole → Device
  | .overlord => d.softReset.resetIo
  | .fanout => d.softReset.resetIo.resetInputs

theorem evolves_softReset (d : Device) : d.Evolves d.softReset := d.evolves_writeWord _ _

theorem evolves_resetIo (d : Device) : d.Evolves d.resetIo :=
  ((d.evolves_pulse _).trans (evolves_pulse _ _)).trans (evolves_pulse _ _)

theorem evolves_resetInputs (d : Device) : d.Evolves d.resetInputs :=
  (d.evolves_writeWord _ _).trans (evolves_pulse _ _)

theorem evolves_hardReset (d : Device) (role : BoardRole) : d.Evolves (d.hardReset role) := by
  have hio : d.Evolves d.softReset.resetIo := d.evolves_softReset.trans (evolves_resetIo _)
  cases role with
  | overlord => exact hio
  | fanout => exact hio.trans (evolves_resetInputs _)

theorem word?_resetIo (role : BoardRole) (hk : d.kind = role.kind) (other : NodePath) :
    d.resetIo.word? other = if other ∈ BoardRole.overlord.pulsed then some 0 else d.word? other := by
  have hpulsed := role.not_mem_reactive
  have hk₁ := (d.evolves_pulse BoardNode.pllReset).kind.trans hk
  have hk₂ := (evolves_pulse (d.pulse BoardNode.pllReset) BoardNode.i2cReset).kind.trans hk₁
  rw [resetIo, word?_pulse role hk₂ (hpulsed _ (by decide)), word?_pulse role hk₁ (hpulsed _ (by decide)),
    word?_pulse role hk (hpulsed _ (by decide))]
  simp only [BoardRole.pulsed, List.mem_cons, List.not_mem_nil, or_false, eq_comm]
  split_ifs <;> simp_all

theorem block?_resetIo (role : BoardRole) (hk : d.kind = role.kind) (other : NodePath) :
    d.resetIo.block? other = d.block? other := by
  have hpulsed := role.not_mem_reactive
  have hk₁ := (d.evolves_pulse BoardNode.pllReset).kind.trans hk
  have hk₂ := (evolves_pulse (d.pulse BoardNode.pllReset) BoardNode.i2cReset).kind.trans hk₁
  rw [resetIo, block?_pulse role hk₂ (hpulsed _ (by decide)), block?_pulse role hk₁ (hpulsed _ (by decide)),
    block?_pulse role hk (hpulsed _ (by decide))]

/-! ## What is shown after a reset -/

/-- The registers that a hard reset pulses are at zero, and a fanout shows its first slot. -/
structure IsReset (d : Device) (role : BoardRole) : Prop where
  pulsed : ∀ path ∈ role.pulsed, d.word? path = some 0
  slot : role = .fanout → d.ShowsSlot 0

/-- Bringing the link flags up to date changes no other word. -/
theorem word?_updateLinkFlags (h : other ∉ FanoutNode.linkNodes) (d : Device) :
    d.updateLinkFlags.word? other = d.word? other := by
  simp only [FanoutNode.linkNodes, List.mem_cons, List.not_mem_nil, or_false, not_or] at h
  unfold updateLinkFlags
  split_ifs
  · rw [word?_setWord, if_neg (Ne.symm h.2.2), word?_setWord, if_neg (Ne.symm h.2.1)]
  · rfl

theorem word?_resetInputs (hk : d.kind = .fanout) (h : other ∉ FanoutNode.linkNodes) :
    d.resetInputs.word? other = if BoardNode.lockMonitorReset = other then some 0 else d.word? other := by
  have hk' : (d.writeWord FanoutNode.mux 0).kind = .fanout := (d.evolves_writeWord _ _).kind.trans hk
  have hmux : FanoutNode.mux ≠ other := fun heq => h (heq ▸ List.mem_cons_self)
  rw [resetInputs, word?_pulse .fanout hk' (by decide), writeWord_mux hk, word?_updateLinkFlags h,
    word?_setWord, if_neg hmux]

/-- A fanout whose inputs have been reset shows its first slot. -/
theorem showsSlot_resetInputs (hk : d.kind = .fanout) : d.resetInputs.ShowsSlot 0 := by
  have hk' : (d.writeWord FanoutNode.mux 0).kind = .fanout := (d.evolves_writeWord _ _).kind.trans hk
  have hmux : (d.writeWord FanoutNode.mux 0).ShowsSlot 0 := by
    rw [writeWord_mux hk]
    exact showsSlot_updateLinkFlags hk ((word?_setWord _ _ _ _).trans (if_pos rfl))
  refine hmux.of_eq (evolves_pulse _ _) fun path hpath => ?_
  have hne : ∀ path ∈ FanoutNode.linkNodes, BoardNode.lockMonitorReset ≠ path := by decide
  rw [resetInputs, word?_pulse .fanout hk' (by decide), if_neg (hne path hpath)]

/-- **A hard reset** resets a board, whatever it showed before. -/
theorem isReset_hardReset (role : BoardRole) (hk : d.kind = role.kind) : (d.hardReset role).IsReset role := by
  have hsoft := d.evolves_softReset.kind.trans hk
  cases role with
  | overlord => exact ⟨fun path hpath => (word?_resetIo .overlord hsoft path).trans (if_pos hpath), nofun⟩
  | fanout =>
    have hio := (evolves_resetIo _).kind.trans hsoft
    refine ⟨fun path hpath => ?_, fun _ => showsSlot_resetInputs hio⟩
    have hlink : ∀ path ∈ BoardRole.fanout.pulsed, path ∉ FanoutNode.linkNodes := by decide
    have hpulsed : ∀ path ∈ BoardRole.fanout.pulsed, BoardNode.lockMonitorReset ≠ path →
        path ∈ BoardRole.overlord.pulsed := by decide
    rw [hardReset, word?_resetInputs hio (hlink path hpath), word?_resetIo .fanout hsoft]
    split_ifs with hlast hfirst
    · rfl
    · rfl
    · exact absurd (hpulsed path hpath hlast) hfirst

/-! ## The time stamp -/

/-- The time has not been set: the time stamp is the same, and its broadcast is as it was or off. -/
structure LeavesTime (d e : Device) : Prop where
  timestamp : e.block? MasterNode.timestamp = d.block? MasterNode.timestamp
  broadcast : e.word? MasterNode.broadcastEnable = d.word? MasterNode.broadcastEnable ∨
    e.word? MasterNode.broadcastEnable = some 0

theorem LeavesTime.refl (d : Device) : d.LeavesTime d := ⟨rfl, Or.inl rfl⟩

/-- The reset of its design switches the broadcast of an overlord off. -/
theorem word?_broadcastEnable_softReset (hk : d.kind = .overlord) :
    d.softReset.word? MasterNode.broadcastEnable = some 0 := by
  have hk' : (d.setWord BoardNode.softReset 1).kind = .overlord := hk
  have henable : BoardNode.softReset ≠ MasterNode.uplink.join EndpointNode.enable := by decide
  have hgo : BoardNode.softReset ≠ MasterNode.echoGo := by decide
  unfold softReset writeWord
  simp only [hk', reactOverlord]
  rw [if_neg henable, if_neg fun h => hgo h.1, if_pos ⟨trivial, by decide⟩, word?_setWord, if_pos rfl]

theorem word?_broadcastEnable_resetIo (hk : d.kind = .overlord) :
    d.resetIo.word? MasterNode.broadcastEnable = d.word? MasterNode.broadcastEnable := by
  rw [word?_resetIo .overlord hk, if_neg (by decide)]

theorem word?_broadcastEnable_hardReset (hk : d.kind = .overlord) :
    (d.hardReset .overlord).word? MasterNode.broadcastEnable = some 0 := by
  have hsoft : d.softReset.kind = .overlord := d.evolves_softReset.kind.trans hk
  rw [hardReset, word?_broadcastEnable_resetIo hsoft, word?_broadcastEnable_softReset hk]

theorem leavesTime_softReset (hk : d.kind = .overlord) : d.LeavesTime d.softReset :=
  ⟨block?_timestamp_writeWord hk _ _, Or.inr (word?_broadcastEnable_softReset hk)⟩

theorem leavesTime_hardReset (hk : d.kind = .overlord) : d.LeavesTime (d.hardReset .overlord) := by
  have hsoft : d.softReset.kind = .overlord := d.evolves_softReset.kind.trans hk
  refine ⟨?_, Or.inr (word?_broadcastEnable_hardReset hk)⟩
  rw [hardReset, block?_resetIo .overlord hsoft, (leavesTime_softReset hk).timestamp]

/-- The device after the time has been loaded. -/
def loadTime (d : Device) (seconds : UInt64) : Device :=
  d.writeBlock MasterNode.timestampLoad (Ticks.toWords (Ticks.ofSeconds seconds))

/-- The device after the time has been set. -/
def syncTime (d : Device) (seconds : UInt64) : Device := (d.loadTime seconds).writeWord MasterNode.broadcastEnable 1

theorem evolves_loadTime (d : Device) (seconds : UInt64) : d.Evolves (d.loadTime seconds) := d.evolves_writeBlock _ _

theorem loadTime_eq (hk : d.kind = .overlord) (seconds : UInt64) :
    d.loadTime seconds = (d.setBlock MasterNode.timestampLoad (Ticks.toWords (Ticks.ofSeconds seconds))).setBlock
      MasterNode.timestamp (Ticks.toWords (Ticks.ofSeconds seconds)) := by
  unfold loadTime writeBlock
  exact (if_pos hk).trans (if_pos rfl)

theorem syncTime_eq (hk : d.kind = .overlord) (seconds : UInt64) :
    d.syncTime seconds = (d.loadTime seconds).setWord MasterNode.broadcastEnable 1 :=
  writeWord_of_not_reactive .overlord ((d.evolves_loadTime seconds).kind.trans hk) (by decide) 1

theorem word?_loadTime (hk : d.kind = .overlord) (seconds : UInt64) (other : NodePath) :
    (d.loadTime seconds).word? other = d.word? other := by
  rw [loadTime_eq hk]
  rfl

theorem timestamp_loadTime (hk : d.kind = .overlord) (seconds : UInt64) :
    (d.loadTime seconds).timestamp = Ticks.ofSeconds seconds := by
  rw [loadTime_eq hk, timestamp, block?_setBlock, if_pos rfl, Option.getD_some, Ticks.ofWords_toWords]

theorem timestamp_syncTime (hk : d.kind = .overlord) (seconds : UInt64) :
    (d.syncTime seconds).timestamp = Ticks.ofSeconds seconds := by
  rw [syncTime_eq hk, timestamp, block?_setWord]
  exact timestamp_loadTime hk seconds

theorem word?_broadcastEnable_syncTime (hk : d.kind = .overlord) (seconds : UInt64) :
    (d.syncTime seconds).word? MasterNode.broadcastEnable = some 1 := by
  rw [syncTime_eq hk, word?_setWord, if_pos rfl]

theorem IsReset.loadTime (h : d.IsReset .overlord) (hk : d.kind = .overlord) (seconds : UInt64) :
    (d.loadTime seconds).IsReset .overlord :=
  ⟨fun path hpath => (word?_loadTime hk seconds path).trans (h.pulsed path hpath), nofun⟩

/-- Setting the time leaves an overlord reset. -/
theorem IsReset.syncTime (h : d.IsReset .overlord) (hk : d.kind = .overlord) (seconds : UInt64) :
    (d.syncTime seconds).IsReset .overlord := by
  refine ⟨fun path hpath => ?_, nofun⟩
  have hne : ∀ path ∈ BoardRole.overlord.pulsed, MasterNode.broadcastEnable ≠ path := by decide
  rw [syncTime_eq hk, word?_setWord, if_neg (hne path hpath)]
  exact (h.loadTime hk seconds).pulsed path hpath

end Device

/-- A time stamp stands for a number of seconds, or is the largest. -/
theorem Ticks.toNat_ofSeconds (seconds : UInt64) :
    (ofSeconds seconds).toNat = min (seconds.toNat * 50000000) (UInt64.size - 1) := by
  have hfrequency : clockFrequency.toNat = 50000000 := rfl
  have hlt : min (seconds.toNat * 50000000) (UInt64.size - 1) < UInt64.size :=
    Nat.lt_of_le_of_lt (Nat.min_le_right _ _) (by decide)
  rw [ofSeconds, hfrequency, UInt64.toNat_ofNat_of_lt' hlt]

/-- The request loads the time stamp or switches its broadcast. -/
def Request.SetsTime (r : Request) : Prop :=
  (∃ values, r = .writeBlock MasterNode.timestampLoad values) ∨ ∃ value, r = .write MasterNode.broadcastEnable value

/-! ## The operations -/

namespace Board

open Procedure

variable {b : Board} {s : Session} {now : UInt64} {role : BoardRole}

/-- A dispatch that the device refuses ends a trace of which it is the last request. -/
theorem endsAt_of_refusal {reason : String} {tr : Trace Unit Session} (hlast : tr.getLast? = some (s, (), .dispatch))
    (h : s.device.refusal (s.dispatchCount + 1) = some reason) : EndsAt () tr (.transport s.device.id reason) :=
  ⟨s, hlast, rfl, congrArg Outcome.result (Session.dispatch_of_refusal h)⟩

theorem runs_pulse {path : NodePath} {Q : Unit → Session → Trace Unit Session → Prop}
    {E : Error → Session → Trace Unit Session → Prop} (hp : s.device.registers.words.contains path = true)
    (h : Q () ((s.enqueue (.write path 1)).enqueue (.write path 0))
      [(s, (), .write path 1), (s.enqueue (.write path 1), (), .write path 0)]) :
    Runs now (pulse path) s Q E :=
  runs_bind (runs_write hp (runs_write hp h))

/-- **Hard reset**: it does all its writes, or ends at one of its dispatches with those of the dispatches before. -/
theorem runs_hardReset (hb : b.role = role) (hs : s.Idle role) :
    Runs now (b.reset .hard) s (fun _ t _ => t.Idle role ∧ t.device = s.device.hardReset role)
      fun e t tr => EndsAt () tr e ∧
        (t.device = s.device ∨ t.device = s.device.softReset ∨ t.device = s.device.softReset.resetIo) := by
  have hcontains : ∀ path ∈ BoardNode.softReset :: role.pulsed, role.registers.words.contains path = true := by
    have hmem : ∀ path ∈ BoardNode.softReset :: role.pulsed, path ∈ role.wordNodes := by
      cases role <;> decide
    exact fun path hp => role.contains_words.mpr (hmem path hp)
  have hfirst : ∀ path ∈ BoardNode.softReset :: BoardRole.overlord.pulsed, role.registers.words.contains path = true :=
    fun path hpath => hcontains path (by revert path; cases role <;> decide)
  unfold reset
  refine runs_bind (runs_log (runs_bind (runs_write (hs.plays.words _ (hfirst _ (by decide))) ?_)))
  refine runs_bind (runs_dispatch [.write BoardNode.softReset 1] (by simp [hs.batch]) (.write (.nil _))
    (fun _ t hbatch hbench => ?_) fun reason hr t _ hbench =>
      ⟨endsAt_of_refusal rfl hr, Or.inl (congrArg Bench.device hbench)⟩)
  have hdev : t.device = s.device.softReset := congrArg Bench.device hbench
  have ht : t.Idle role := hs.evolves (hdev ▸ s.device.evolves_softReset) hbatch
  refine runs_bind (runs_settle ?_)
  rw [if_pos rfl]
  refine runs_bind (runs_pulse (ht.plays.words _ (hfirst _ (by decide))) ?_)
  refine runs_bind (runs_pulse (ht.plays.words _ (hfirst _ (by decide))) ?_)
  refine runs_bind (runs_pulse (ht.plays.words _ (hfirst _ (by decide))) ?_)
  refine runs_bind (runs_dispatch [.write BoardNode.pllReset 1, .write BoardNode.pllReset 0, .write BoardNode.i2cReset 1,
    .write BoardNode.i2cReset 0, .write BoardNode.i2cMuxReset 1, .write BoardNode.i2cMuxReset 0] (by simp [hbatch])
    (.write (.write (.write (.write (.write (.write (.nil _))))))) (fun _ u hbatch' hbench' => ?_)
    fun reason hr u _ hbench' => ⟨endsAt_of_refusal rfl hr,
      Or.inr (Or.inl ((congrArg Bench.device hbench').trans hdev))⟩)
  have hdev' : u.device = s.device.softReset.resetIo :=
    (congrArg Bench.device hbench').trans (congrArg Device.resetIo hdev)
  have hu : u.Idle role := hs.evolves (hdev' ▸ s.device.evolves_softReset.trans (Device.evolves_resetIo _)) hbatch'
  refine runs_bind (runs_log ?_)
  cases role with
  | overlord =>
    rw [if_neg (by rw [hb]; decide)]
    exact runs_log ⟨hu, hdev'⟩
  | fanout =>
    rw [if_pos hb]
    have hmux : BoardRole.fanout.registers.words.contains FanoutNode.mux = true :=
      (BoardRole.contains_words _).mpr (by decide)
    refine runs_bind (runs_write (hu.plays.words _ hmux) ?_)
    refine runs_bind (runs_pulse (hu.plays.words _ (hcontains _ (by decide))) ?_)
    refine runs_bind (runs_dispatch [.write FanoutNode.mux 0, .write BoardNode.lockMonitorReset 1,
      .write BoardNode.lockMonitorReset 0] (by simp [hbatch']) (.write (.write (.write (.nil _))))
      (fun _ v hbatch'' hbench'' => ?_) fun reason hr v _ hbench'' =>
        ⟨endsAt_of_refusal rfl hr,
          Or.inr (Or.inr ((congrArg Bench.device hbench'').trans hdev'))⟩)
    have hdev'' : v.device = s.device.hardReset .fanout :=
      (congrArg Bench.device hbench'').trans (congrArg Device.resetInputs hdev')
    exact runs_log ⟨hs.evolves (hdev'' ▸ s.device.evolves_hardReset .fanout) hbatch'', hdev''⟩

/-- **Reading the time stamp** changes nothing, and fails only with its dispatch. -/
theorem runs_readTimestamp (hb : b.role = .overlord) (hs : s.Idle .overlord) :
    Runs now b.readTimestamp s
      (fun ticks t _ => t.Idle .overlord ∧ t.device = s.device ∧ ticks = s.device.timestamp ∧ s.Passes t 1)
      fun e t tr => EndsAt () tr e ∧ t.device = s.device ∧ s.RefusedAt 1 e := by
  have htable : BoardRole.overlord.registers.blocks.contains MasterNode.timestamp = true :=
    (BoardRole.contains_blocks _).mpr (by decide)
  have hqueued : s.Passes (s.bump.enqueue (.readBlock (s.slots.blockHandle MasterNode.timestamp) 2)) 0 :=
    (Session.Passes.refl s).bump.enqueue _
  unfold readTimestamp
  refine runs_bind (runs_require hb (runs_bind (runs_readBlock (hs.plays.isBlock htable) ?_)))
  refine runs_bind (runs_counted [.readBlock (s.slots.blockHandle MasterNode.timestamp) 2] (by simp [hs.batch])
    (.readBlock (hs.plays.fifo_eq_none htable) (.nil _)) (fun t hpasses hbatch hbench => ?_) fun e hrefused hends =>
      ⟨hends.endsAt.append _, rfl, hqueued.refusedAt hrefused⟩)
  have hdev : t.device = s.device := congrArg Bench.device hbench
  refine runs_bind (runs_blockValue (Device.resize 2 ((s.device.block? MasterNode.timestamp).getD [])) ?_ ?_)
  · rw [show t.slots = _ from congrArg Bench.slots hbench, Slots.block?_fillBlock]
    exact if_pos rfl
  · exact runs_pure ⟨hs.of_device_eq hbatch hdev, hdev, Ticks.ofWords_resize _, hqueued.trans hpasses⟩

/-- **Setting the time** loads it with its second dispatch and switches its broadcast on with its fourth, or ends with
the first of its dispatches that is refused. -/
theorem runs_syncTimestampAt (hb : b.role = .overlord) (hs : s.Idle .overlord) (seconds : UInt64) :
    Runs now (b.syncTimestampAt seconds) s
      (fun sync t _ => t.Idle .overlord ∧ t.device = s.device.syncTime seconds ∧
        sync = ⟨s.device.timestamp, Ticks.ofSeconds seconds⟩ ∧ s.Passes t 4)
      fun e t tr => EndsAt () tr e ∧ ∃ n, 0 < n ∧ n ≤ 4 ∧ s.RefusedAt n e ∧
        t.device = if n ≤ 2 then s.device else s.device.loadTime seconds := by
  have hload : BoardRole.overlord.registers.blocks.contains MasterNode.timestampLoad = true :=
    (BoardRole.contains_blocks _).mpr (by decide)
  have henable : BoardRole.overlord.registers.words.contains MasterNode.broadcastEnable = true :=
    (BoardRole.contains_words _).mpr (by decide)
  unfold syncTimestampAt
  refine runs_bind ((runs_readTimestamp hb hs).mono (fun old t tr h => ?_) fun e t tr h =>
    ⟨h.1, 1, by decide, by decide, h.2.2, h.2.1⟩)
  obtain ⟨ht, hdev, rfl, hold⟩ := h
  refine runs_bind (runs_log (runs_bind (runs_writeBlock (ht.plays.blocks _ hload) ?_)))
  refine runs_bind (runs_counted [.writeBlock MasterNode.timestampLoad (Ticks.toWords (Ticks.ofSeconds seconds))]
    (by simp [ht.batch]) (.writeBlock (.nil _)) (fun u hpasses hbatch hbench => ?_) fun e hrefused hends => ?_)
  case refine_2 =>
    refine ⟨?_, 2, by decide, by decide, (hold.enqueue _).refusedAt hrefused, hdev⟩
    simp only [← List.append_assoc]
    exact hends.endsAt.append _
  have hloaded : s.Passes u 2 := (hold.enqueue _).trans hpasses
  have hdev' : u.device = s.device.loadTime seconds :=
    (congrArg Bench.device hbench).trans (congrArg (Device.loadTime · seconds) hdev)
  have hu : u.Idle .overlord := hs.evolves hloaded.device hbatch
  refine runs_bind ((runs_readTimestamp hb hu).mono (fun new v tr' h => ?_) fun e v tr' h => ?_)
  case refine_2 =>
    refine ⟨?_, 3, by decide, by decide, hloaded.refusedAt h.2.2, h.2.1.trans hdev'⟩
    simp only [← List.append_assoc]
    exact .append h.1 _
  obtain ⟨hv, hsame, rfl, hread⟩ := h
  refine runs_bind (runs_log (runs_bind (runs_write (hv.plays.words _ henable) ?_)))
  refine runs_bind (runs_counted [.write MasterNode.broadcastEnable 1] (by simp [hv.batch]) (.write (.nil _))
    (fun w hpasses' hbatch' hbench' => ?_) fun e hrefused hends => ?_)
  case refine_2 =>
    refine ⟨?_, 4, by decide, by decide, ((hloaded.trans hread).enqueue _).refusedAt hrefused, hsame.trans hdev'⟩
    simp only [← List.append_assoc]
    exact hends.endsAt.append _
  have hset : s.Passes w 4 := ((hloaded.trans hread).enqueue _).trans hpasses'
  have hdev'' : w.device = s.device.syncTime seconds := (congrArg Bench.device hbench').trans
    (congrArg (Device.writeWord · MasterNode.broadcastEnable 1) (hsame.trans hdev'))
  refine runs_pure ⟨hs.evolves hset.device hbatch', hdev'', ?_, hset⟩
  rw [hdev', Device.timestamp_loadTime hs.plays.kind]

theorem runs_syncTimestamp (hb : b.role = .overlord) (hs : s.Idle .overlord) :
    Runs now b.syncTimestamp s
      (fun sync t _ => t.device = s.device.syncTime now ∧ sync = ⟨s.device.timestamp, Ticks.ofSeconds now⟩)
      fun e t tr => EndsAt () tr e ∧ (t.device = s.device ∨ t.device = s.device.loadTime now) := by
  refine runs_bind (runs_now ((runs_syncTimestampAt hb hs now).mono (fun _ _ _ h => ⟨h.2.1, h.2.2.1⟩) ?_))
  rintro e t tr ⟨hends, n, -, -, -, hdev⟩
  refine ⟨hends, ?_⟩
  split_ifs at hdev
  · exact Or.inl hdev
  · exact Or.inr hdev

/-! ## Which requests they make -/

theorem straight_pulse (path : NodePath) : (pulse path).Straight :=
  straight_bind (straight_request _ _) fun _ => straight_request _ _

theorem straight_reset (b : Board) (kind : ResetKind) : (b.reset kind).Straight := by
  unfold reset
  refine straight_bind (straight_log _ _) fun _ => straight_bind (straight_request _ _) fun _ => ?_
  refine straight_bind (straight_request _ _) fun _ => straight_bind (straight_settle _ _) fun _ => ?_
  refine straight_ite ?_ (straight_pure _)
  refine straight_bind (straight_pulse _) fun _ => straight_bind (straight_pulse _) fun _ => ?_
  refine straight_bind (straight_pulse _) fun _ => straight_bind (straight_request _ _) fun _ => ?_
  refine straight_bind (straight_log _ _) fun _ => straight_ite ?_ (straight_log _ _)
  refine straight_bind (straight_request _ _) fun _ => straight_bind (straight_pulse _) fun _ => ?_
  exact straight_bind (straight_request _ _) fun _ => straight_log _ _

theorem straight_readTimestamp (b : Board) : b.readTimestamp.Straight := by
  unfold readTimestamp
  refine straight_bind (b.straight_require _ _) fun _ => straight_bind (straight_request _ _) fun _ => ?_
  exact straight_bind (straight_request _ _) fun _ => straight_bind (straight_request _ _) fun _ => straight_pure _

theorem straight_syncTimestampAt (b : Board) (seconds : UInt64) : (b.syncTimestampAt seconds).Straight := by
  unfold syncTimestampAt
  refine straight_bind b.straight_readTimestamp fun _ => straight_bind (straight_log _ _) fun _ => ?_
  refine straight_bind (straight_request _ _) fun _ => straight_bind (straight_request _ _) fun _ => ?_
  refine straight_bind b.straight_readTimestamp fun _ => straight_bind (straight_log _ _) fun _ => ?_
  exact straight_bind (straight_request _ _) fun _ => straight_bind (straight_request _ _) fun _ => straight_pure _

theorem asks_pulse {φ : Unit → Request → Prop} {path : NodePath} (h : ∀ value, φ () (.write path value)) :
    (pulse path).Asks φ :=
  asks_bind (asks_request (h 1)) fun _ => asks_request (h 0)

/-- A reset does not ask for the time to be set. -/
theorem asks_reset (b : Board) (kind : ResetKind) : (b.reset kind).Asks fun _ r => ¬ r.SetsTime := by
  have hdispatch : ¬ Request.dispatch.SetsTime := by simp [Request.SetsTime]
  have hwrite : ∀ path value, path ≠ MasterNode.broadcastEnable → ¬ (Request.write path value).SetsTime := by
    simp [Request.SetsTime]
  unfold reset
  refine asks_bind (p := log _ _) trivial fun _ => asks_bind (asks_request (hwrite _ _ (by decide))) fun _ => ?_
  refine asks_bind (asks_request hdispatch) fun _ => asks_bind (asks_settle _ _) fun _ => ?_
  refine asks_ite (fun _ => ?_) fun _ => trivial
  refine asks_bind (asks_pulse fun _ => hwrite _ _ (by decide)) fun _ => ?_
  refine asks_bind (asks_pulse fun _ => hwrite _ _ (by decide)) fun _ => ?_
  refine asks_bind (asks_pulse fun _ => hwrite _ _ (by decide)) fun _ => asks_bind (asks_request hdispatch) fun _ => ?_
  refine asks_bind (p := log _ _) trivial fun _ => asks_ite (fun _ => ?_) fun _ => trivial
  refine asks_bind (asks_request (hwrite _ _ (by decide))) fun _ => ?_
  refine asks_bind (asks_pulse fun _ => hwrite _ _ (by decide)) fun _ => ?_
  exact asks_bind (asks_request hdispatch) fun _ => trivial

end Board

end TimingFleet

import Mathlib.Tactic.SplitIfs
import TimingFleet.Board
import TimingFleet.Device.Build

/-!
# Registers of a device in use

What a device shows after one of its registers has been set, and what no access ever changes.

* `Registers.Extends r r'`: every word and block of `r` is one of `r'`, and both have the same queues.
* `Device.Evolves d e`: `e` is `d` with other contents; its make, its links and its faults are those of `d`.
* `BoardRole.wordNodes`, `BoardRole.blockNodes`: the registers with which a board for the role comes up.
* `Device.Plays d role`: `d` is a board for `role`, with all the registers such boards come up with.

Main statement: a board that plays a role goes on playing it while it evolves (`Plays.evolves`).
-/

namespace TimingFleet

/-! ## Reading back -/

namespace Registers

variable (r : Registers) (path other : NodePath)

@[simp] theorem getElem?_words_setWord (value : UInt32) :
    (r.setWord path value).words[other]? = if path = other then some value else r.words[other]? := by
  simp [setWord, Std.ExtTreeMap.getElem?_insert]

@[simp] theorem getElem?_fifos_setFifo (words : List UInt32) :
    (r.setFifo path words).fifos[other]? = if path = other then some words else r.fifos[other]? := by
  simp [setFifo, Std.ExtTreeMap.getElem?_insert]

@[simp] theorem words_setFifo (words : List UInt32) : (r.setFifo path words).words = r.words := rfl

@[simp] theorem words_setBlock (words : List UInt32) : (r.setBlock path words).words = r.words := rfl

@[simp] theorem fifos_setWord (value : UInt32) : (r.setWord path value).fifos = r.fifos := rfl

@[simp] theorem fifos_setBlock (words : List UInt32) : (r.setBlock path words).fifos = r.fifos := rfl

end Registers

namespace Device

variable (d : Device) (path other : NodePath)

@[simp] theorem word?_setWord (value : UInt32) :
    (d.setWord path value).word? other = if path = other then some value else d.word? other :=
  d.registers.getElem?_words_setWord path other value

@[simp] theorem block?_setBlock (values : List UInt32) :
    (d.setBlock path values).block? other = if path = other then some values else d.block? other := by
  simp [block?, setBlock, Registers.setBlock, Std.ExtTreeMap.getElem?_insert]

@[simp] theorem block?_setWord (value : UInt32) : (d.setWord path value).block? other = d.block? other := rfl

@[simp] theorem word?_setBlock (values : List UInt32) :
    (d.setBlock path values).word? other = d.word? other := rfl

end Device

/-! ## Address tables -/

/-- The registers `r'` hold every word and block of `r`, and the queues are the same. -/
structure Registers.Extends (r r' : Registers) : Prop where
  words : ∀ path, r.words.contains path = true → r'.words.contains path = true
  blocks : ∀ path, r.blocks.contains path = true → r'.blocks.contains path = true
  fifos : ∀ path, r'.fifos.contains path = r.fifos.contains path

namespace Registers.Extends

variable {r r' r'' : Registers}

theorem refl (r : Registers) : r.Extends r := ⟨fun _ h => h, fun _ h => h, fun _ => rfl⟩

theorem trans (h : r.Extends r') (h' : r'.Extends r'') : r.Extends r'' :=
  ⟨fun p hp => h'.words p (h.words p hp), fun p hp => h'.blocks p (h.blocks p hp),
    fun p => (h'.fifos p).trans (h.fifos p)⟩

theorem setWord (r : Registers) (path : NodePath) (value : UInt32) : r.Extends (r.setWord path value) := by
  refine ⟨fun p hp => ?_, fun _ h => h, fun _ => rfl⟩
  simp only [Registers.setWord, Std.ExtTreeMap.contains_insert, hp, Bool.or_true]

theorem setBlock (r : Registers) (path : NodePath) (values : List UInt32) :
    r.Extends (r.setBlock path values) := by
  refine ⟨fun _ h => h, fun p hp => ?_, fun _ => rfl⟩
  simp only [Registers.setBlock, Std.ExtTreeMap.contains_insert, hp, Bool.or_true]

/-- A queue that is there keeps its place in the table when its contents change. -/
theorem setFifo {path : NodePath} (h : r.fifos.contains path = true) (values : List UInt32) :
    r.Extends (r.setFifo path values) := by
  refine ⟨fun _ h => h, fun _ h => h, fun p => ?_⟩
  simp only [Registers.setFifo, Std.ExtTreeMap.contains_insert]
  by_cases hp : path = p
  · subst hp
    simp [h]
  · simp [Std.LawfulEqCmp.compare_eq_iff_eq, hp]

theorem isBlock (h : r.Extends r') {path : NodePath} (hp : r.isBlock path = true) :
    r'.isBlock path = true := by
  unfold Registers.isBlock at hp ⊢
  rw [Bool.or_eq_true] at hp ⊢
  rcases hp with hp | hp
  · exact Or.inl (h.blocks path hp)
  · exact Or.inr ((h.fifos path).trans hp)

end Registers.Extends

/-! ## What accesses leave alone -/

/-- The device `e` is `d` after some accesses: only contents of registers and the set of switched-on
transmitters can differ, and no register is gone. -/
structure Device.Evolves (d e : Device) : Prop where
  id : e.id = d.id
  kind : e.kind = d.kind
  liveSlots : e.liveSlots = d.liveSlots
  roundTrip : e.roundTrip = d.roundTrip
  failure : e.failure = d.failure
  failingDispatch : e.failingDispatch = d.failingDispatch
  registers : d.registers.Extends e.registers

namespace Device

variable {d e : Device}

theorem Evolves.refl (d : Device) : d.Evolves d := ⟨rfl, rfl, rfl, rfl, rfl, rfl, .refl _⟩

theorem Evolves.trans {c : Device} (h : c.Evolves d) (h' : d.Evolves e) : c.Evolves e :=
  ⟨h'.id.trans h.id, h'.kind.trans h.kind, h'.liveSlots.trans h.liveSlots, h'.roundTrip.trans h.roundTrip,
    h'.failure.trans h.failure, h'.failingDispatch.trans h.failingDispatch, h.registers.trans h'.registers⟩

theorem Evolves.refusal (h : d.Evolves e) (n : Nat) : e.refusal n = d.refusal n := by
  unfold Device.refusal
  rw [h.failure, h.failingDispatch]

theorem evolves_setWord (d : Device) (path : NodePath) (value : UInt32) : d.Evolves (d.setWord path value) :=
  ⟨rfl, rfl, rfl, rfl, rfl, rfl, .setWord _ _ _⟩

theorem evolves_setBlock (d : Device) (path : NodePath) (values : List UInt32) :
    d.Evolves (d.setBlock path values) :=
  ⟨rfl, rfl, rfl, rfl, rfl, rfl, .setBlock _ _ _⟩

theorem evolves_updateLinkFlags (d : Device) : d.Evolves d.updateLinkFlags := by
  unfold updateLinkFlags
  split_ifs
  · exact (evolves_setWord _ _ _).trans (evolves_setWord _ _ _)
  · exact .refl d

theorem evolves_answerEcho (d : Device) : d.Evolves d.answerEcho := by
  unfold answerEcho
  split_ifs
  · exact ((evolves_setBlock _ _ _).trans (evolves_setBlock _ _ _)).trans (evolves_setWord _ _ _)
  · exact evolves_setWord _ _ _

theorem evolves_reactEndpoint (d : Device) (path : NodePath) (value : UInt32) :
    d.Evolves (d.reactEndpoint path value) := by
  unfold reactEndpoint
  split
  · exact .refl d
  · exact (evolves_setWord _ _ _).trans (evolves_setWord _ _ _)

theorem evolves_reactOverlord (d : Device) (path : NodePath) (value : UInt32) :
    d.Evolves (d.reactOverlord path value) := by
  unfold reactOverlord
  split_ifs
  · exact evolves_setWord _ _ _
  · exact evolves_setWord _ _ _
  · exact evolves_answerEcho d
  · exact evolves_setWord _ _ _
  · exact .refl d

theorem evolves_reactFanout (d : Device) (path : NodePath) (value : UInt32) :
    d.Evolves (d.reactFanout path value) := by
  unfold reactFanout
  split_ifs
  · exact evolves_updateLinkFlags d
  · exact evolves_setWord _ _ _
  · exact evolves_setWord _ _ _
  · exact .refl d

theorem evolves_writeWord (d : Device) (path : NodePath) (value : UInt32) :
    d.Evolves (d.writeWord path value) := by
  refine (evolves_setWord d path value).trans ?_
  unfold writeWord
  cases hk : d.kind with
  | endpoint => simpa [setWord, hk] using evolves_reactEndpoint (d.setWord path value) path value
  | overlord => simpa [setWord, hk] using evolves_reactOverlord (d.setWord path value) path value
  | fanout => simpa [setWord, hk] using evolves_reactFanout (d.setWord path value) path value

theorem evolves_writeBlock (d : Device) (path : NodePath) (values : List UInt32) :
    d.Evolves (d.writeBlock path values) := by
  refine (evolves_setBlock d path values).trans ?_
  unfold writeBlock
  dsimp only
  split_ifs
  · exact evolves_setBlock _ _ _
  · exact ⟨rfl, rfl, rfl, rfl, rfl, rfl, .refl _⟩
  · exact .refl _
  · exact .refl _

theorem evolves_readBlock {path : NodePath} {words : Nat} {values : List UInt32}
    (h : d.readBlock path words = .ok (values, e)) : d.Evolves e := by
  unfold readBlock at h
  cases hq : d.registers.fifos[path]? with
  | none =>
    simp only [hq, Except.ok.injEq, Prod.mk.injEq] at h
    rw [← h.2]
    exact .refl d
  | some queue =>
    have hc : d.registers.fifos.contains path = true := by
      rw [Std.ExtTreeMap.contains_eq_isSome_getElem?, hq]
      rfl
    have hd : d.Evolves { d with registers := d.registers.setFifo path (queue.drop words) } :=
      ⟨rfl, rfl, rfl, rfl, rfl, rfl, .setFifo hc _⟩
    simp only [hq] at h
    split_ifs at h
    cases hb : NodePath.beforeSuffix EndpointNode.bufferData path with
    | none =>
      simp only [hb, Except.ok.injEq, Prod.mk.injEq] at h
      rw [← h.2]
      exact hd
    | some base =>
      simp only [hb, Except.ok.injEq, Prod.mk.injEq] at h
      rw [← h.2]
      exact hd.trans (evolves_setWord _ _ _)

end Device

/-! ## Boards in their roles -/

/-- The kind of device that plays a role. -/
def BoardRole.kind : BoardRole → DeviceKind
  | .overlord => .overlord
  | .fanout => .fanout

/-- The registers with which the device for a role comes up. -/
def BoardRole.registers : BoardRole → Registers
  | .overlord => (Device.overlord "").registers
  | .fanout => (Device.fanout "").registers

/-- The words of a board of either role. -/
def BoardNode.wordNodes : List NodePath :=
  [version, boardType, carrierType, designType, softReset, pllReset, i2cReset, i2cMuxReset, lockMonitorReset] ++
    ["mmcm_ok", "mmcm_sticky", "pll_ok", "pll_sticky", "cdr_lol", "cdr_los", "sfp_los"].map status.child ++
    Device.pllFlags.map pllStatus.child ++ (Device.pllFlags ++ ["cal"]).map pllSticky.child

namespace BoardRole

/-- The words with which the device for a role comes up. -/
def wordNodes (role : BoardRole) : List NodePath :=
  BoardNode.wordNodes ++ [role.uplink.join EndpointNode.enable, role.uplink.join EndpointNode.state] ++
    match role with
    | .overlord => [MasterNode.broadcastEnable, MasterNode.echoGo, MasterNode.echoDone]
    | .fanout => [FanoutNode.mux]

/-- The blocks with which the device for a role comes up. -/
def blockNodes : BoardRole → List NodePath
  | .overlord =>
    [BoardNode.pllDesignId, MasterNode.timestamp, MasterNode.timestampLoad, MasterNode.commandBuffer,
      MasterNode.echoSent, MasterNode.echoReceived]
  | .fanout => [BoardNode.pllDesignId]

variable {path : NodePath}

-- The tables are evaluated here only; elsewhere it is looked up in the lists what a board has.
theorem contains_words (role : BoardRole) : role.registers.words.contains path = true ↔ path ∈ role.wordNodes := by
  have htable : (∀ path ∈ role.registers.words.keys, path ∈ role.wordNodes) ∧
      ∀ path ∈ role.wordNodes, role.registers.words.contains path = true := by
    cases role <;> decide +kernel
  exact ⟨fun h => htable.1 path (Std.ExtTreeMap.mem_keys.mpr (Std.ExtTreeMap.contains_iff_mem.mp h)), htable.2 path⟩

theorem contains_blocks (role : BoardRole) : role.registers.blocks.contains path = true ↔ path ∈ role.blockNodes := by
  have htable : (∀ path ∈ role.registers.blocks.keys, path ∈ role.blockNodes) ∧
      ∀ path ∈ role.blockNodes, role.registers.blocks.contains path = true := by
    cases role <;> decide +kernel
  exact ⟨fun h => htable.1 path (Std.ExtTreeMap.mem_keys.mpr (Std.ExtTreeMap.contains_iff_mem.mp h)), htable.2 path⟩

end BoardRole

/-- The device is a board for `role`: it has the kind and every register of such boards, possibly more, and
none of their blocks is a queue. -/
structure Device.Plays (d : Device) (role : BoardRole) : Prop where
  kind : d.kind = role.kind
  words : ∀ path, role.registers.words.contains path = true → d.registers.words.contains path = true
  blocks : ∀ path, role.registers.blocks.contains path = true → d.registers.blocks.contains path = true
  fifos : ∀ path, role.registers.blocks.contains path = true → d.registers.fifos.contains path = false

namespace Device.Plays

variable {d e : Device} {role : BoardRole}

theorem extends_of (h : d.Plays role) (hk : e.kind = d.kind) (hr : d.registers.Extends e.registers) :
    e.Plays role :=
  ⟨hk.trans h.kind, fun p hp => hr.words p (h.words p hp), fun p hp => hr.blocks p (h.blocks p hp),
    fun p hp => (hr.fifos p).trans (h.fifos p hp)⟩

/-- A board goes on playing its role. -/
theorem evolves (h : d.Plays role) (he : d.Evolves e) : e.Plays role := h.extends_of he.kind he.registers

theorem word (h : d.Plays role) {path : NodePath} (hp : path ∈ role.wordNodes) :
    d.registers.words.contains path = true :=
  h.words path (role.contains_words.mpr hp)

theorem block (h : d.Plays role) {path : NodePath} (hp : path ∈ role.blockNodes) :
    d.registers.blocks.contains path = true :=
  h.blocks path (role.contains_blocks.mpr hp)

theorem fifo_eq_none (h : d.Plays role) {path : NodePath}
    (hp : role.registers.blocks.contains path = true) : d.registers.fifos[path]? = none :=
  Std.ExtTreeMap.getElem?_eq_none_of_contains_eq_false (h.fifos path hp)

theorem isBlock (h : d.Plays role) {path : NodePath} (hp : role.registers.blocks.contains path = true) :
    d.registers.isBlock path = true := by
  unfold Registers.isBlock
  rw [h.blocks path hp, Bool.true_or]

/-- A board that comes up plays its role. -/
theorem overlord (id : String) : (Device.overlord id).Plays .overlord :=
  ⟨rfl, fun _ h => h, fun _ h => h, fun _ _ => rfl⟩

theorem fanout (id : String) : (Device.fanout id).Plays .fanout :=
  ⟨rfl, fun _ h => h, fun _ h => h, fun _ _ => rfl⟩

end Device.Plays

end TimingFleet

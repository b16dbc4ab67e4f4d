import TimingFleet.Proofs.Device.RegisterNames

/-!
# Devices that have been set up

A device can be changed before it is used: its registers, its links and its faults.  What was set last counts, but for
one thing: a number at which dispatches fail is never taken back (`failingDispatch_configure`).

* `Device.Setting`: one change; `Device.configure d settings`: the device after all of them.
* `Device.faultless d`: the device without its faults.
* `Device.Configured d`: the device is an endpoint device, an overlord or a fanout after some changes.
-/

namespace TimingFleet

namespace Device

/-- A change to a device before it is used. -/
inductive Setting where
  | word (name : String) (value : UInt32)
  | version (n value : UInt32)
  | state (n code : UInt32)
  | eventCounter (n count : UInt32)
  | timestamp (n : UInt32) (ticks : UInt64)
  | counters (n : UInt32) (values : List UInt32)
  | buffer (n : UInt32) (words : List UInt32)
  | roundTrip (ticks : UInt32)
  | liveSlots (slots : List UInt32)
  | failing (reason : String)
  | failingAt (n : Nat) (reason : String)
  deriving DecidableEq, Repr

namespace Setting

/-- Makes the change. -/
def apply (d : Device) : Setting → Device
  | .word name value => d.withWord (.ofString name) value
  | .version n value => d.withVersion n value
  | .state n code => d.withState n code
  | .eventCounter n count => d.withEventCounter n count
  | .timestamp n ticks => d.withTimestamp n ticks
  | .counters n values => d.withCounters n values
  | .buffer n words => d.withBuffer n words
  | .roundTrip ticks => d.withRoundTrip ticks
  | .liveSlots slots => d.withLiveSlots slots
  | .failing reason => d.failing reason
  | .failingAt n reason => d.failingAt n reason

/-- The change gives the device a fault. -/
def isFault : Setting → Bool
  | .failing _ => true
  | .failingAt _ _ => true
  | _ => false

/-- The number of the dispatch that is to fail, if the change chooses one. -/
def number? : Setting → Option Nat
  | .failingAt n _ => some n
  | _ => none

end Setting

/-- The device after some changes. -/
def configure (d : Device) (settings : List Setting) : Device := settings.foldl Setting.apply d

/-- The device without its faults. -/
def faultless (d : Device) : Device := { d with failure := none, failingDispatch := none }

variable {d : Device} {c : Setting} {settings earlier later : List Setting}

theorem configure_append (d : Device) (earlier later : List Setting) :
    d.configure (earlier ++ later) = (d.configure earlier).configure later := List.foldl_append

/-! ## What faults do not change -/

@[simp] theorem kind_faultless (d : Device) : d.faultless.kind = d.kind := rfl

@[simp] theorem enabledSfps_faultless (d : Device) : d.faultless.enabledSfps = d.enabledSfps := rfl

@[simp] theorem onLiveSlot_faultless (d : Device) : d.faultless.onLiveSlot = d.onLiveSlot := rfl

@[simp] theorem faultless_setWord (d : Device) (path : NodePath) (value : UInt32) :
    d.faultless.setWord path value = (d.setWord path value).faultless := rfl

theorem faultless_updateLinkFlags (d : Device) : d.faultless.updateLinkFlags = d.updateLinkFlags.faultless := by
  unfold updateLinkFlags
  simp only [apply_ite faultless, kind_faultless, onLiveSlot_faultless, faultless_setWord]
  rfl

theorem faultless_reactEndpoint (d : Device) (path : NodePath) (value : UInt32) :
    d.faultless.reactEndpoint path value = (d.reactEndpoint path value).faultless := by
  unfold reactEndpoint
  cases NodePath.beforeSuffix EndpointNode.enable path <;> rfl

theorem faultless_answerEcho (d : Device) : d.faultless.answerEcho = d.answerEcho.faultless := by
  unfold answerEcho
  rw [apply_ite faultless]
  rfl

theorem faultless_reactOverlord (d : Device) (path : NodePath) (value : UInt32) :
    d.faultless.reactOverlord path value = (d.reactOverlord path value).faultless := by
  unfold reactOverlord
  simp only [apply_ite faultless, enabledSfps_faultless, faultless_setWord, faultless_answerEcho]
  rfl

theorem faultless_reactFanout (d : Device) (path : NodePath) (value : UInt32) :
    d.faultless.reactFanout path value = (d.reactFanout path value).faultless := by
  unfold reactFanout
  simp only [apply_ite faultless, onLiveSlot_faultless, faultless_setWord, faultless_updateLinkFlags]
  rfl

theorem faultless_writeWord (d : Device) (path : NodePath) (value : UInt32) :
    d.faultless.writeWord path value = (d.writeWord path value).faultless := by
  unfold writeWord
  dsimp only
  rw [faultless_setWord, kind_faultless]
  cases (d.setWord path value).kind with
  | endpoint => exact faultless_reactEndpoint _ path value
  | overlord => exact faultless_reactOverlord _ path value
  | fanout => exact faultless_reactFanout _ path value

theorem faultless_writeBlock (d : Device) (path : NodePath) (values : List UInt32) :
    d.faultless.writeBlock path values = (d.writeBlock path values).faultless := by
  unfold writeBlock
  dsimp only
  rw [apply_ite faultless, apply_ite faultless, apply_ite faultless]
  rfl

/-- A block read finds the same with faults and without. -/
theorem faultless_readBlock (d : Device) (path : NodePath) (words : Nat) :
    d.faultless.readBlock path words =
      (d.readBlock path words).map fun found => (found.1, found.2.faultless) := by
  unfold readBlock
  rw [show d.faultless.registers = d.registers from rfl]
  cases d.registers.fifos[path]? with
  | none => rfl
  | some queue =>
    dsimp only
    rw [apply_ite (Except.map _)]
    cases NodePath.beforeSuffix EndpointNode.bufferData path <;> rfl

/-! ## What the settings come to -/

theorem id_configure (d : Device) (settings : List Setting) : (d.configure settings).id = d.id := by
  induction settings generalizing d with
  | nil => rfl
  | cons c settings ih =>
    refine (ih (c.apply d)).trans ?_
    cases c with
    | liveSlots slots => exact (evolves_updateLinkFlags _).id
    | _ => rfl

/-- What a change makes of the number of the dispatch that is to fail. -/
theorem failingDispatch_apply (d : Device) (c : Setting) :
    (c.apply d).failingDispatch = c.number?.or d.failingDispatch := by
  cases c with
  | liveSlots slots => exact (evolves_updateLinkFlags _).failingDispatch
  | _ => rfl

/-- **The number that was chosen last** stays, whatever is set afterwards. -/
theorem failingDispatch_configure (d : Device) (settings : List Setting) :
    (d.configure settings).failingDispatch = (settings.filterMap Setting.number?).getLast?.or d.failingDispatch := by
  induction settings generalizing d with
  | nil => rfl
  | cons c settings ih =>
    show ((c.apply d).configure settings).failingDispatch = _
    rw [ih, failingDispatch_apply, List.filterMap_cons]
    cases hc : c.number? with
    | none => rfl
    | some n =>
      rw [List.getLast?_cons, Option.some_or, Option.some_or]
      cases (settings.filterMap Setting.number?).getLast? <;> rfl

/-- Other changes leave the faults alone. -/
theorem faults_apply (hc : c.isFault = false) (d : Device) :
    (c.apply d).failure = d.failure ∧ (c.apply d).failingDispatch = d.failingDispatch := by
  cases c with
  | liveSlots slots => exact ⟨(evolves_updateLinkFlags _).failure, (evolves_updateLinkFlags _).failingDispatch⟩
  | failing reason => cases hc
  | failingAt n reason => cases hc
  | _ => exact ⟨rfl, rfl⟩

theorem faults_configure (hlater : ∀ c ∈ later, c.isFault = false) (d : Device) :
    (d.configure later).failure = d.failure ∧ (d.configure later).failingDispatch = d.failingDispatch := by
  induction later generalizing d with
  | nil => exact ⟨rfl, rfl⟩
  | cons c later ih =>
    obtain ⟨hc, hrest⟩ := List.forall_mem_cons.mp hlater
    obtain ⟨hfailure, hnumber⟩ := faults_apply hc d
    obtain ⟨hfailure', hnumber'⟩ := ih hrest (c.apply d)
    exact ⟨hfailure'.trans hfailure, hnumber'.trans hnumber⟩

theorem faultless_apply (d : Device) (c : Setting) :
    (c.apply d).faultless = if c.isFault then d.faultless else c.apply d.faultless := by
  cases c with
  | liveSlots slots => exact (faultless_updateLinkFlags _).symm
  | _ => rfl

/-- **Without its faults** a device is what the other changes make of it. -/
theorem faultless_configure (d : Device) (settings : List Setting) :
    (d.configure settings).faultless = d.faultless.configure (settings.filter fun c => !c.isFault) := by
  induction settings generalizing d with
  | nil => rfl
  | cons c settings ih =>
    show ((c.apply d).configure settings).faultless = _
    rw [ih, faultless_apply]
    cases hc : c.isFault <;> simp [hc, configure]

/-! ## Names -/

theorem named_apply (h : d.registers.Named) (c : Setting) : (c.apply d).registers.Named := by
  have hbase : ∀ (n : UInt32) {rel : NodePath}, rel.Named → ((EndpointNode.base n).join rel).Named := fun n rel hrel =>
    (NodePath.named_iff.mpr ⟨List.cons_ne_nil _ _, EndpointNode.dotFree_base n⟩).join hrel
  cases c with
  | word name value => exact h.setWord ⟨name, rfl⟩ value
  | version n value => exact h.setWord (hbase n (by decide +kernel)) value
  | state n code => exact h.setWord (hbase n (by decide +kernel)) code
  | eventCounter n count => exact h.setWord (hbase n (by decide +kernel)) count
  | timestamp n ticks => exact h.setBlock (hbase n (by decide +kernel)) _
  | counters n values => exact h.setBlock (hbase n (by decide +kernel)) _
  | buffer n words => exact (h.setFifo (hbase n (by decide +kernel)) words).setWord (hbase n (by decide +kernel)) _
  | liveSlots slots => exact named_updateLinkFlags (d := { d with liveSlots := _ }) h
  | roundTrip ticks => exact h
  | failing reason => exact h
  | failingAt n reason => exact h

/-- **Settings add no register** whose name is not a text. -/
theorem named_configure (h : d.registers.Named) (settings : List Setting) : (d.configure settings).registers.Named := by
  induction settings generalizing d with
  | nil => exact h
  | cons c settings ih => exact ih (named_apply h c)

theorem named_endpoint (id : String) (endpoints : List UInt32) : (endpoint id endpoints).registers.Named := by
  intro path hpath
  obtain ⟨e, -, rel, hrel, rfl⟩ := ((laid_endpoint id endpoints).holds_iff path).mp hpath
  exact (NodePath.named_iff.mpr ⟨List.cons_ne_nil _ _, EndpointNode.dotFree_base e⟩).join
    (NodePath.named_iff.mpr ⟨EndpointNode.nodes_ne_nil rel hrel, EndpointNode.dotFree_nodes rel hrel⟩)

theorem named_board (role : BoardRole) (hfifos : ∀ path, role.registers.fifos.contains path = false) :
    role.registers.Named := by
  have hnames : (∀ path ∈ role.wordNodes, path.Named) ∧ ∀ path ∈ role.blockNodes, path.Named := by
    cases role <;> decide +kernel
  rintro path (hword | hblock | hfifo)
  · exact hnames.1 path (role.contains_words.mp hword)
  · exact hnames.2 path (role.contains_blocks.mp hblock)
  · cases hfifo.symm.trans (hfifos path)

theorem named_overlord (id : String) : (overlord id).registers.Named := named_board .overlord fun _ => rfl

theorem named_fanout (id : String) : (fanout id).registers.Named := named_board .fanout fun _ => rfl

/-- A device that has come up and been set up. -/
inductive Configured : Device → Prop
  | endpoint (id : String) (endpoints : List UInt32) (settings : List Setting) :
    Configured ((endpoint id endpoints).configure settings)
  | overlord (id : String) (settings : List Setting) : Configured ((overlord id).configure settings)
  | fanout (id : String) (settings : List Setting) : Configured ((fanout id).configure settings)

/-- **All names are texts** on a device that has been set up. -/
theorem Configured.named (h : d.Configured) : d.registers.Named := by
  cases h with
  | endpoint id endpoints settings => exact named_configure (named_endpoint id endpoints) settings
  | overlord id settings => exact named_configure (named_overlord id) settings
  | fanout id settings => exact named_configure (named_fanout id) settings

end Device

end TimingFleet

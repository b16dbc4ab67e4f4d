import TimingFleet.Proofs.EndpointGroup.Readout
import TimingFleet.Proofs.EndpointGroup.Switching
import TimingFleet.Proofs.Operation.Basic

/-!
# What can be reached

An endpoint device is prepared, groups of its endpoints are found and operated in any order, and dispatches may fail
at any moment.  No endpoint is ever left half switched: its enable bits, its ready flag and its state are all those of
an enabled endpoint or all those of a disabled one.  Its partition is one that exists, and its occupancy register tells
how many words wait.

* `Registers.Sound r e`: this, for endpoint `e`.
* `Session.Reached s₀ s groups`: from `s₀` the session can come to `s`, with `groups` found on the way.

Each operation keeps what is sound (`keeps_perform`), so everything that can be reached is (`sound_of_reached`).
-/

namespace TimingFleet

open EndpointNode Procedure

/-! ## Sound endpoints -/

namespace Registers

variable {r r' : Registers} {e f : UInt32}

/-- The enable bit, the enable bit of the buffer, the ready flag and the state code of an endpoint. -/
def switches (r : Registers) (e : UInt32) : Option UInt32 × Option UInt32 × Option UInt32 × Option UInt32 :=
  (r.words[(base e).join enable]?, r.words[(base e).join bufferEnable]?, r.words[(base e).join readyFlag]?,
    r.words[(base e).join state]?)

/-- The endpoint is wholly on or wholly off, its partition exists, and its occupancy register is right. -/
structure Sound (r : Registers) (e : UInt32) : Prop where
  switches : r.switches e = (some 1, some 1, some 1, some 8) ∨ r.switches e = (some 0, some 0, some 0, some 0)
  partition : ∃ partition ≤ maxPartition, r.words[(base e).join EndpointNode.partition]? = some partition
  buffer : r.HasBuffer e

/-- The nodes of the switches and of the partition. -/
def switchNodes : List NodePath := [enable, bufferEnable, readyFlag, state, EndpointNode.partition]

theorem Sound.of_eq (h : r.Sound e) (hb : r'.HasBuffer e)
    (hw : ∀ rel ∈ switchNodes, r'.words[(base e).join rel]? = r.words[(base e).join rel]?) : r'.Sound e := by
  have hswitches : r'.switches e = r.switches e := by
    unfold Registers.switches
    rw [hw enable (by decide), hw bufferEnable (by decide), hw readyFlag (by decide), hw state (by decide)]
  refine ⟨hswitches ▸ h.switches, ?_, hb⟩
  rw [hw EndpointNode.partition (by decide)]
  exact h.partition

/-- A word that is no switch, no partition and no occupancy may be set to anything. -/
theorem Sound.setWord (h : r.Sound f) {rel : NodePath} (hrel : rel ∉ bufferCount :: switchNodes) (value : UInt32) :
    (r.setWord ((base e).join rel) value).Sound f := by
  have hsame : ∀ other ∈ bufferCount :: switchNodes,
      (r.setWord ((base e).join rel) value).words[(base f).join other]? = r.words[(base f).join other]? := by
    intro other hother
    have hne : (base e).join rel ≠ (base f).join other := by
      intro heq
      obtain ⟨-, rfl⟩ := join_base_inj.mp heq
      exact hrel hother
    rw [getElem?_words_setWord, if_neg hne]
  have hcount : (r.setWord ((base e).join rel) value).words[count f]? = r.words[count f]? :=
    hsame bufferCount List.mem_cons_self
  have hbuffer : (r.setWord ((base e).join rel) value).HasBuffer f := (h.buffer.of_eq (by rfl) hcount).1
  exact h.of_eq hbuffer fun other hother => hsame other (List.mem_cons_of_mem _ hother)

/-- Blocks may be set to anything. -/
theorem Sound.setBlock (h : r.Sound f) (path : NodePath) (values : List UInt32) : (r.setBlock path values).Sound f := by
  have hbuffer : (r.setBlock path values).HasBuffer f := (h.buffer.of_eq (by rfl) (by rfl)).1
  exact h.of_eq hbuffer fun _ _ => rfl

theorem Sound.setBuffer (h : r.Sound f) {words : List UInt32} (hwords : words.length < UInt32.size) :
    (r.setBuffer e words).Sound f := by
  refine h.of_eq (h.buffer.setBuffer hwords) fun rel hrel => ?_
  have hne : count e ≠ (base f).join rel := by
    intro heq
    obtain ⟨-, rfl⟩ := join_base_inj.mp heq
    exact absurd hrel (by decide)
  rw [getElem?_words_setBuffer, if_neg hne]

/-! ## Endpoints that come up -/

theorem getElem?_words_setFlags_of_eq {node path : NodePath} {names : List String} {value : UInt32}
    (h : r.words[path]? = some value) : (r.setFlags node names value).words[path]? = some value := by
  induction names generalizing r with
  | nil => exact h
  | cons name names ih =>
    refine ih (r := r.setWord (node.child name) value) ?_
    rw [getElem?_words_setWord]
    split_ifs
    · rfl
    · exact h

theorem getElem?_words_setFlags_of_mem {node : NodePath} {names : List String} {name : String} {value : UInt32}
    (h : name ∈ names) : (r.setFlags node names value).words[node.child name]? = some value := by
  induction names generalizing r with
  | nil => exact absurd h List.not_mem_nil
  | cons first names ih =>
    rcases List.mem_cons.mp h with rfl | hrest
    · refine getElem?_words_setFlags_of_eq (r := r.setWord (node.child name) value) ?_
      rw [getElem?_words_setWord, if_pos rfl]
    · exact ih (r := r.setWord (node.child first) value) hrest

/-- The flags of a new endpoint are zero. -/
theorem getElem?_words_addEndpoint (r : Registers) (e : UInt32) :
    ∀ rel ∈ switchNodes, (Device.addEndpoint r e).words[(base e).join rel]? = some 0 := by
  have hne : ∀ {rel rel'}, rel ≠ rel' → (base e).join rel ≠ (base e).join rel' := fun h heq => h (join_base_inj.mp heq).2
  -- what is set after the flags is none of them
  have hlast : ∀ rel ∈ switchNodes, (Device.addEndpoint r e).words[(base e).join rel]? =
      (((r.setWord ((base e).join version) Device.endpointVersion).setFlags ((base e).join control) controlFlags
        0).setFlags ((base e).join status) statusFlags 0).words[(base e).join rel]? := by
    intro rel hrel
    have hother : bufferCount ≠ rel ∧ eventCounter ≠ rel :=
      (by decide : ∀ rel ∈ switchNodes, bufferCount ≠ rel ∧ eventCounter ≠ rel) rel hrel
    simp only [Device.addEndpoint, words_setFifo, words_setBlock]
    rw [getElem?_words_setWord, if_neg (hne hother.1), getElem?_words_setWord, if_neg (hne hother.2)]
  have hcontrol : ∀ flag ∈ controlFlags, ∀ r : Registers,
      ((r.setFlags ((base e).join control) controlFlags 0).setFlags ((base e).join status) statusFlags
        0).words[(base e).join ⟨control.parts ++ [flag]⟩]? = some 0 := by
    intro flag hflag r
    refine getElem?_words_setFlags_of_eq ?_
    rw [← child_join_base]
    exact getElem?_words_setFlags_of_mem hflag
  have hstatus : ∀ flag ∈ statusFlags, ∀ r : Registers,
      (r.setFlags ((base e).join status) statusFlags 0).words[(base e).join ⟨status.parts ++ [flag]⟩]? = some 0 := by
    intro flag hflag r
    rw [← child_join_base]
    exact getElem?_words_setFlags_of_mem hflag
  intro rel hrel
  rw [hlast rel hrel]
  simp only [switchNodes, List.mem_cons, List.not_mem_nil, or_false] at hrel
  rcases hrel with rfl | rfl | rfl | rfl | rfl
  · exact hcontrol "ep_en" (by decide) _
  · exact hcontrol "buf_en" (by decide) _
  · exact hstatus "ep_rdy" (by decide) _
  · exact hstatus "ep_stat" (by decide) _
  · exact hcontrol "tgrp" (by decide) _

theorem sound_addEndpoint (r : Registers) (e : UInt32) : (Device.addEndpoint r e).Sound e := by
  have hzero := getElem?_words_addEndpoint r e
  refine ⟨Or.inr ?_, ⟨0, by decide, hzero _ (by decide)⟩, hasBuffer_addEndpoint r e⟩
  unfold Registers.switches
  rw [hzero enable (by decide), hzero bufferEnable (by decide), hzero readyFlag (by decide), hzero state (by decide)]

theorem Sound.addEndpoint (h : r.Sound f) (e : UInt32) : (Device.addEndpoint r e).Sound f := by
  by_cases hef : e = f
  · subst hef
    exact sound_addEndpoint r e
  · exact h.of_eq (h.buffer.addEndpoint e) fun rel _ =>
      (addEndpoint_elsewhere r _ fun rel' heq => hef (join_base_inj.mp heq).1).1

end Registers

namespace Device

variable {d : Device} {e f : UInt32}

theorem sound_endpoint (id : String) {endpoints : List UInt32} (he : e ∈ endpoints) :
    (endpoint id endpoints).registers.Sound e :=
  endpoint_has Registers.sound_addEndpoint (fun _ e _ hf => hf.addEndpoint e) id he

/-- **A switch** leaves the endpoint wholly on or wholly off, and the others as they are. -/
theorem sound_switched (h : d.registers.Sound f) (on : Bool) {partition : UInt32} (hp : partition ≤ maxPartition)
    (e : UInt32) : (d.switched on partition e).registers.Sound f := by
  have hbuffer : (d.switched on partition e).registers.words[count f]? = d.registers.words[count f]? →
      (d.switched on partition e).registers.HasBuffer f :=
    fun hcount => (h.buffer.of_eq (by rw [fifos_switched]) hcount).1
  by_cases hef : e = f
  · subst hef
    obtain ⟨henable, hbit, hready, hstate⟩ := d.word?_switched_bits on partition e
    have hpartition := d.word?_switched_partition on partition e
    refine ⟨?_, ?_, hbuffer (d.word?_switched_count on partition e)⟩
    · have hswitches : (d.switched on partition e).registers.switches e = (some (flag on), some (flag on),
          some (flag on), some (if on then EndpointState.ready.code else EndpointState.standingBy.code)) := by
        unfold word? at henable hbit hready hstate
        rw [Registers.switches, henable, hbit, hready, hstate]
      rw [hswitches]
      cases on with
      | true => exact Or.inl rfl
      | false => exact Or.inr rfl
    · cases on with
      | true => exact ⟨partition, hp, hpartition⟩
      | false =>
        obtain ⟨before, hle, hbefore⟩ := h.partition
        exact ⟨before, hle, hpartition.trans hbefore⟩
  · have hother : ∀ rel, (d.switched on partition e).word? ((base f).join rel) = d.word? ((base f).join rel) :=
      fun rel => word?_switched_of_ne fun rel' heq => hef (join_base_inj.mp heq).1
    exact h.of_eq (hbuffer (hother bufferCount)) fun rel _ => hother rel

end Device

/-! ## Devices that have been prepared -/

namespace EndpointSetting

/-- The setting is one of what an endpoint has measured or received, and a buffer is not too long to be counted. -/
def Received : EndpointSetting → Prop
  | .buffer words => words.length < UInt32.size
  | .state _ => False
  | .word _ _ => False
  | _ => True

theorem Received.fits {c : EndpointSetting} (h : c.Received) : c.Fits := by
  cases c with
  | word rel value => exact h.elim
  | _ => trivial

theorem Received.sound {c : EndpointSetting} (h : c.Received) {d : Device} {f : UInt32} (hf : d.registers.Sound f)
    (e : UInt32) : (c.apply d e).registers.Sound f := by
  cases c with
  | version value => exact hf.setWord (by decide) value
  | eventCounter count => exact hf.setWord (by decide) count
  | timestamp ticks => exact hf.setBlock _ _
  | counters values => exact hf.setBlock _ _
  | buffer words => exact hf.setBuffer h
  | state code => exact h.elim
  | word rel value => exact h.elim

end EndpointSetting

/-- An endpoint device comes up sound, whatever its endpoints have received. -/
theorem Device.sound_prepared {d : Device} {settings : List (UInt32 × EndpointSetting)} {e : UInt32}
    (h : d.registers.Sound e) (hsettings : ∀ c ∈ settings, c.2.Received) : (d.prepared settings).registers.Sound e := by
  induction settings generalizing d with
  | nil => exact h
  | cons c settings ih =>
    refine ih (d := c.2.apply d c.1) ?_ fun c' hc' => hsettings c' (List.mem_cons_of_mem c hc')
    exact (hsettings c List.mem_cons_self).sound h c.1

/-! ## Operations -/

namespace EndpointGroup

variable {endpoints : List UInt32} {g : EndpointGroup}

/-- The session is open to an endpoint device, nothing is queued, and all endpoints are sound. -/
def SoundSession (endpoints : List UInt32) (s : Session) : Prop :=
  s.OnEndpoints endpoints ∧ ∀ e ∈ endpoints, s.device.registers.Sound e

theorem SoundSession.of_device_eq {s t : Session} (hs : SoundSession endpoints s) (ht : t.OnEndpoints endpoints)
    (hdev : t.device = s.device) : SoundSession endpoints t :=
  ⟨ht, hdev ▸ hs.2⟩

theorem keeps_readVersions (hg : ∀ e ∈ g.ids, e ∈ endpoints) : Keeps (SoundSession endpoints) g.readVersions :=
  keeps_iff.mpr fun _ _ hs => (runs_readVersions hs.1 hg).mono (fun _ _ _ ht => hs.of_device_eq ht.1 ht.2.1)
    fun _ _ _ ht => hs.of_device_eq ht.1 ht.2.1

theorem keeps_snapshot (hg : ∀ e ∈ g.ids, e ∈ endpoints) : Keeps (SoundSession endpoints) g.snapshot :=
  keeps_iff.mpr fun _ _ hs => (runs_snapshot hs.1 hg).mono (fun _ _ _ ht => hs.of_device_eq ht.1 ht.2.1)
    fun _ _ _ ht => hs.of_device_eq ht.1 ht.2.1

theorem keeps_enableOne {e : UInt32} (he : e ∈ endpoints) (on : Bool) {partition : UInt32}
    (hp : partition ≤ maxPartition) : Keeps (SoundSession endpoints) (enableOne on partition e) := by
  refine keeps_iff.mpr fun now s hs => (runs_enableOne hs.1 he).mono ?_ fun _ _ _ ht => hs.of_device_eq ht.1 ht.2.1
  rintro _ t _ ⟨ht, hdev⟩
  refine ⟨ht, fun f hf => ?_⟩
  rw [hdev]
  exact Device.sound_switched (hs.2 f hf) on hp e

/-- No partition that does not exist is ever set. -/
theorem keeps_enable (hg : ∀ e ∈ g.ids, e ∈ endpoints) (on : Bool) (partition : UInt32) :
    Keeps (SoundSession endpoints) (g.enable on partition) := by
  unfold enable
  by_cases hp : maxPartition < partition
  · rw [if_pos hp]
    exact keeps_fail _
  · rw [if_neg hp]
    refine keeps_bind (keeps_each fun e he => keeps_enableOne (hg e he) on (UInt32.not_lt.mp hp)) fun _ => ?_
    exact keeps_bind (keeps_log _ _) fun _ => keeps_pure _

theorem keeps_readbackOne {e : UInt32} (he : e ∈ endpoints) (mode : ReadoutMode) :
    Keeps (SoundSession endpoints) (readbackOne mode e) := by
  refine keeps_iff.mpr fun now s hs => ?_
  have hbuffer := (hs.2 e he).buffer
  refine (runs_readbackOne_onEndpoints hs.1 he).mono ?_ fun _ _ _ ht => hs.of_device_eq ht.1 ht.2.1
  rintro report t _ ⟨ht, hread⟩
  rcases Device.eq_or_setBuffer_of_readback hbuffer.queue hread with hdev | ⟨n, hdev⟩
  · exact hs.of_device_eq ht hdev
  · refine ⟨ht, fun f hf => ?_⟩
    rw [hdev]
    exact (hs.2 f hf).setBuffer (hbuffer.length_drop_lt n)

/-- **Every operation keeps the endpoints sound**, whether it succeeds or not. -/
theorem keeps_perform (hg : ∀ e ∈ g.ids, e ∈ endpoints) (o : Operation) :
    Keeps (SoundSession endpoints) (g.perform o) := by
  cases o with
  | readVersions => exact keeps_readVersions hg
  | enable on partition => exact keeps_enable hg on partition
  | snapshot => exact keeps_snapshot hg
  | readback mode => exact keeps_each fun e he => keeps_readbackOne (hg e he) mode

end EndpointGroup

/-! ## Sequences of operations -/

/-- What can be reached from `s₀` by looking for endpoints and operating the groups that were found, at any time. -/
inductive Session.Reached (s₀ : Session) : Session → List EndpointGroup → Prop
  | start : Reached s₀ s₀ []
  | found {s t : Session} {groups : List EndpointGroup} {ids : List UInt32} {g : EndpointGroup} {now : UInt64}
      (h : Reached s₀ s groups) (hresult : ((EndpointGroup.resolve s.name ids).run now s).result = .ok g)
      (hstate : ((EndpointGroup.resolve s.name ids).run now s).state = t) : Reached s₀ t (g :: groups)
  | missed {s t : Session} {groups : List EndpointGroup} {ids : List UInt32} {e : Error} {now : UInt64}
      (h : Reached s₀ s groups) (hresult : ((EndpointGroup.resolve s.name ids).run now s).result = .error e)
      (hstate : ((EndpointGroup.resolve s.name ids).run now s).state = t) : Reached s₀ t groups
  | operated {s t : Session} {groups : List EndpointGroup} {g : EndpointGroup} {o : EndpointGroup.Operation}
      {now : UInt64} (h : Reached s₀ s groups) (hg : g ∈ groups) (hstate : ((g.perform o).run now s).state = t) :
      Reached s₀ t groups

namespace EndpointGroup

/-- The groups that are found have endpoints of the device only. -/
theorem soundSession_of_reached {s₀ s : Session} {groups : List EndpointGroup} (h₀ : SoundSession endpoints s₀)
    (h : s₀.Reached s groups) :
    SoundSession endpoints s ∧ ∀ g ∈ groups, ∀ e ∈ g.ids, e ∈ endpoints := by
  induction h with
  | start => exact ⟨h₀, fun _ hg => absurd hg List.not_mem_nil⟩
  | @found s t groups ids g now h hresult hstate ih =>
    obtain ⟨hs, hgroups⟩ := ih
    obtain ⟨hsame, hknown, rfl⟩ := (runs_iff.mp (runs_resolve_or_missing s.name ids)).1 g hresult
    rw [← hstate, hsame]
    refine ⟨hs, fun g' hg' => ?_⟩
    rcases List.mem_cons.mp hg' with rfl | hg'
    · intro e he
      have hnode := unknown_eq_nil_iff.mp hknown e (mem_ascending.mp he)
      exact hs.1.laid.hasNode_base.mp hnode
    · exact hgroups g' hg'
  | @missed s t groups ids e now h hresult hstate ih =>
    obtain ⟨hsame, -⟩ := (runs_iff.mp (runs_resolve_or_missing s.name ids)).2 e hresult
    rw [← hstate, hsame]
    exact ih
  | operated h hg hstate ih =>
    obtain ⟨hs, hgroups⟩ := ih
    exact ⟨hstate ▸ keeps_perform (hgroups _ hg) _ _ _ hs, hgroups⟩

/-- **No endpoint is left half switched.**  On an endpoint device, after any sequence of searches for endpoints and of
operations on what was found, with any faults, each endpoint is wholly on or wholly off, its partition exists, and its
occupancy register tells how many words wait. -/
theorem sound_of_reached (id : String) (endpoints : List UInt32) (settings : List (UInt32 × EndpointSetting))
    (hsettings : ∀ c ∈ settings, c.1 ∈ endpoints ∧ c.2.Received) (failure : Option String)
    (failingDispatch : Option Nat) {s : Session} {groups : List EndpointGroup}
    (h : (Session.ofDevice { (Device.endpoint id endpoints).prepared settings with
      failure := failure, failingDispatch := failingDispatch }).Reached s groups) :
    ∀ e ∈ endpoints, s.device.registers.Sound e := by
  have hlaid : ((Device.endpoint id endpoints).prepared settings).registers.Laid endpoints :=
    Device.laid_prepared (Device.laid_endpoint id endpoints) fun c hc => ⟨(hsettings c hc).1, (hsettings c hc).2.fits⟩
  have hkind : ((Device.endpoint id endpoints).prepared settings).kind = .endpoint := by rw [Device.prepared_eq]; rfl
  have hsound : ∀ e ∈ endpoints, ((Device.endpoint id endpoints).prepared settings).registers.Sound e :=
    fun e he => Device.sound_prepared (Device.sound_endpoint id he) fun c hc => (hsettings c hc).2
  have horderly : (Session.ofDevice { (Device.endpoint id endpoints).prepared settings with
      failure := failure, failingDispatch := failingDispatch }).Orderly := Session.Fresh.orderly ⟨rfl, rfl⟩
  exact (soundSession_of_reached ⟨⟨by rfl, horderly, hkind, hlaid⟩, hsound⟩ h).1.2

/-- Enabling stops at endpoint 10: endpoint 1 is wholly on, endpoint 10 wholly off. -/
theorem sound_of_enable_stopped :
    let d := (Device.endpoint "EPT" [1, 10]).prepared [(1, .buffer [7, 8]), (10, .version 2)]
    let s := Session.ofDevice { d with failure := some "link down", failingDispatch := some 2 }
    let t := (enable ⟨"EPT", [1, 10]⟩ true 3).run 0 s
    t.result.isOk = false ∧
    (∀ e ∈ [1, 10], t.state.device.registers.Sound e) ∧
    t.state.device.registers.switches 1 = (some 1, some 1, some 1, some 8) ∧
    t.state.device.registers.switches 10 = (some 0, some 0, some 0, some 0) := by
  intro d s t
  have hfound : s.Reached s [⟨"EPT", [1, 10]⟩] :=
    .found (t := s) .start (by rfl : ((resolve s.name [10, 1]).run 0 s).result = .ok ⟨"EPT", [1, 10]⟩) (by rfl)
  refine ⟨by decide +kernel, ?_, by decide +kernel, by decide +kernel⟩
  refine sound_of_reached "EPT" [1, 10] [(1, .buffer [7, 8]), (10, .version 2)] ?_ (some "link down") (some 2)
    (.operated (o := .enable true 3) hfound List.mem_cons_self rfl)
  rintro c hc
  simp only [List.mem_cons, List.not_mem_nil, or_false] at hc
  rcases hc with rfl | rfl
  · exact ⟨by decide, (by decide : [(7 : UInt32), 8].length < UInt32.size)⟩
  · exact ⟨by decide, trivial⟩

end EndpointGroup

end TimingFleet

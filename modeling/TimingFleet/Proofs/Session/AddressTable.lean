import TimingFleet.Proofs.Device.EndpointLayout
import TimingFleet.Proofs.Device.Reactions
import TimingFleet.Proofs.Session.Handles

/-!
# The address table of a device

A device reacts to an access by setting further registers, some of which it names after the register that was
written.  Were one of them missing, setting it would add it.

* `Device.Built d`: `d` is an endpoint device, an overlord or a fanout as it comes up, with any live slots and any
  fault.
* `Device.Closed d`: every register that a reaction of `d` sets is there.

Devices come up closed (`Built.closed`).  A closed device keeps the names of its registers when an access that
it admits takes effect (`Closed.sameNodes_after`), and so over every run of requests (`Closed.sameNodes_follow`).
-/

namespace TimingFleet

/-- What is before a suffix makes the path up again. -/
theorem NodePath.parts_of_beforeSuffix {rel path base : NodePath} (h : beforeSuffix rel path = some base) :
    path.parts = base.parts ++ rel.parts ∧ base.parts ≠ [] := by
  unfold beforeSuffix at h
  dsimp only at h
  split_ifs at h with hsuffix
  obtain ⟨hlength, hdrop⟩ := hsuffix
  cases h
  refine ⟨?_, fun hnil => ?_⟩
  · have hsplit := List.take_append_drop (path.parts.length - rel.parts.length) path.parts
    rw [hdrop] at hsplit
    exact hsplit.symm
  · have htake := congrArg List.length hnil
    rw [List.length_take, List.length_nil] at htake
    omega

/-- Among the words of an endpoint only the enable bit ends as it does. -/
theorem EndpointNode.eq_of_beforeSuffix_enable {e : UInt32} {rel base : NodePath} (hrel : rel ∈ wordNodes)
    (h : NodePath.beforeSuffix enable ((EndpointNode.base e).join rel) = some base) : base = EndpointNode.base e := by
  have hends : ∀ rel ∈ wordNodes, enable.parts.isSuffixOf rel.parts = true → rel = enable := by decide
  obtain ⟨hparts, hne⟩ := NodePath.parts_of_beforeSuffix h
  rw [join_base] at hparts
  obtain ⟨part, parts, hbase⟩ := List.exists_cons_of_ne_nil hne
  have hrest : rel.parts = parts ++ enable.parts := by
    rw [hbase] at hparts
    exact List.tail_eq_of_cons_eq hparts
  obtain rfl := hends rel hrel (List.isSuffixOf_iff_suffix.mpr ⟨parts, hrest.symm⟩)
  rw [beforeSuffix_join_base] at h
  exact (Option.some.inj h).symm

/-! ## Tables with the same names -/

namespace Registers

variable {r r' : Registers} {path : NodePath}

theorem SameNodes.setWord (h : r.SameNodes r') (hp : r.words.contains path = true) (value : UInt32) :
    r.SameNodes (r'.setWord path value) :=
  h.trans (sameNodes_setWord ((h.words path).trans hp) value)

theorem SameNodes.setBlock (h : r.SameNodes r') (hp : r.blocks.contains path = true) (values : List UInt32) :
    r.SameNodes (r'.setBlock path values) :=
  h.trans (sameNodes_setBlock ((h.blocks path).trans hp) values)

theorem SameNodes.isBlock (h : r.SameNodes r') (path : NodePath) : r'.isBlock path = r.isBlock path := by
  simp only [Registers.isBlock, h.blocks, h.fifos]

theorem SameNodes.admits (h : r.SameNodes r') (a : Access) : r'.admits a = r.admits a := by
  cases a with
  | read path => exact h.words path
  | readBlock path words => exact h.isBlock path
  | write path value => exact h.words path
  | writeBlock path values => exact h.blocks path
  | dispatch => rfl

theorem SameNodes.hasNode (h : r.SameNodes r') (path : NodePath) : r'.hasNode path = r.hasNode path := by
  rw [Bool.eq_iff_iff]
  simp only [hasNode_iff, Holds, h.words, h.blocks, h.fifos]

theorem SameNodes.childNames (h : r.SameNodes r') (path : NodePath) : r'.childNames path = r.childNames path := by
  refine congrArg Std.ExtTreeSet.toList (Std.ExtTreeSet.ext_mem fun child => ?_)
  rw [← Std.ExtTreeSet.mem_toList, ← Std.ExtTreeSet.mem_toList]
  show child ∈ r'.childNames path ↔ child ∈ r.childNames path
  simp only [mem_childNames, h.words]

end Registers

/-! ## Reactions that add no register -/

namespace Device

open Registers

variable {d e : Device} {path : NodePath}

/-- Every register that a reaction of the device sets is there: the occupancy of a readout buffer, the state and
the ready flag of an endpoint that can be enabled, and on a board all that boards of its role come up with. -/
structure Closed (d : Device) : Prop where
  occupancy : ∀ path base, d.registers.fifos.contains path = true →
    NodePath.beforeSuffix EndpointNode.bufferData path = some base →
    d.registers.words.contains (base.join EndpointNode.bufferCount) = true
  state : d.kind = .endpoint → ∀ path base, d.registers.words.contains path = true →
    NodePath.beforeSuffix EndpointNode.enable path = some base →
    d.registers.words.contains (base.join EndpointNode.state) = true
  readyFlag : d.kind = .endpoint → ∀ path base, d.registers.words.contains path = true →
    NodePath.beforeSuffix EndpointNode.enable path = some base →
    d.registers.words.contains ⟨base.parts ++ EndpointNode.readyFlag.parts⟩ = true
  plays : ∀ role : BoardRole, d.kind = role.kind → d.Plays role

/-- Only the kind of a device and the names of its registers matter. -/
theorem Closed.sameNodes (h : d.Closed) (hk : e.kind = d.kind) (hs : d.registers.SameNodes e.registers) : e.Closed := by
  refine ⟨fun path base hp hbase => ?_, fun hend path base hp hbase => ?_, fun hend path base hp hbase => ?_,
    fun role hrole => ?_⟩
  · rw [hs.words]
    exact h.occupancy path base ((hs.fifos path).symm.trans hp) hbase
  · rw [hs.words]
    exact h.state (hk.symm.trans hend) path base ((hs.words path).symm.trans hp) hbase
  · rw [hs.words]
    exact h.readyFlag (hk.symm.trans hend) path base ((hs.words path).symm.trans hp) hbase
  · obtain ⟨-, hwords, hblocks, hfifos⟩ := h.plays role (hk.symm.trans hrole)
    exact ⟨hrole, fun p hp => (hs.words p).trans (hwords p hp), fun p hp => (hs.blocks p).trans (hblocks p hp),
      fun p hp => (hs.fifos p).trans (hfifos p hp)⟩

namespace Closed

variable (h : d.Closed) (hs : d.registers.SameNodes e.registers)

include h hs

theorem sameNodes_reactEndpoint (hk : d.kind = .endpoint) (hp : d.registers.words.contains path = true)
    (value : UInt32) : d.registers.SameNodes (e.reactEndpoint path value).registers := by
  unfold reactEndpoint
  cases hbase : NodePath.beforeSuffix EndpointNode.enable path with
  | none => exact hs
  | some base => exact (hs.setWord (h.state hk path base hp hbase) _).setWord (h.readyFlag hk path base hp hbase) _

theorem sameNodes_answerEcho (hk : d.kind = .overlord) : d.registers.SameNodes e.answerEcho.registers := by
  have hplays := h.plays .overlord hk
  have hdone := hplays.word (by decide : MasterNode.echoDone ∈ _)
  have hsent := hplays.block (by decide : MasterNode.echoSent ∈ _)
  have hreceived := hplays.block (by decide : MasterNode.echoReceived ∈ _)
  unfold answerEcho
  split_ifs
  · exact ((hs.setBlock hsent _).setBlock hreceived _).setWord hdone _
  · exact hs.setWord hdone _

theorem sameNodes_reactOverlord (hk : d.kind = .overlord) (path : NodePath) (value : UInt32) :
    d.registers.SameNodes (e.reactOverlord path value).registers := by
  have hplays := h.plays .overlord hk
  have hstate := hplays.words BoardRole.overlord.state (BoardRole.contains_state .overlord)
  have hbroadcast := hplays.word (by decide : MasterNode.broadcastEnable ∈ _)
  unfold reactOverlord
  split
  · exact hs.setWord hstate _
  split
  · exact h.sameNodes_answerEcho hs hk
  split
  · exact hs.setWord hbroadcast _
  · exact hs

theorem sameNodes_updateLinkFlags (hk : e.kind = d.kind) : d.registers.SameNodes e.updateLinkFlags.registers := by
  unfold updateLinkFlags
  split_ifs with hfanout
  · have hplays := h.plays .fanout (hk.symm.trans hfanout)
    have hlock := hplays.word (by decide : FanoutNode.cdrLossOfLock ∈ _)
    have hsignal := hplays.word (by decide : FanoutNode.sfpLossOfSignal ∈ _)
    exact (hs.setWord hlock _).setWord hsignal _
  · exact hs

theorem sameNodes_reactFanout (hk : d.kind = .fanout) (he : e.kind = d.kind) (path : NodePath) (value : UInt32) :
    d.registers.SameNodes (e.reactFanout path value).registers := by
  have hstate := (h.plays .fanout hk).words BoardRole.fanout.state (BoardRole.contains_state .fanout)
  unfold reactFanout
  split
  · exact h.sameNodes_updateLinkFlags hs he
  split
  · exact hs.setWord hstate _
  · exact hs

omit hs

theorem sameNodes_writeWord (hp : d.registers.words.contains path = true) (value : UInt32) :
    d.registers.SameNodes (d.writeWord path value).registers := by
  have hset : d.registers.SameNodes (d.setWord path value).registers := (SameNodes.refl _).setWord hp value
  have hkind : (d.setWord path value).kind = d.kind := rfl
  unfold writeWord
  cases hk : d.kind with
  | endpoint =>
    simp only [hkind, hk]
    exact h.sameNodes_reactEndpoint hset hk hp value
  | overlord =>
    simp only [hkind, hk]
    exact h.sameNodes_reactOverlord hset hk path value
  | fanout =>
    simp only [hkind, hk]
    exact h.sameNodes_reactFanout hset hk rfl path value

theorem sameNodes_writeBlock (hp : d.registers.blocks.contains path = true) (values : List UInt32) :
    d.registers.SameNodes (d.writeBlock path values).registers := by
  have hset : d.registers.SameNodes (d.setBlock path values).registers := (SameNodes.refl _).setBlock hp values
  unfold writeBlock
  dsimp only
  split_ifs with hk
  · have htimestamp := (h.plays .overlord hk).block (by decide : MasterNode.timestamp ∈ _)
    exact hset.setBlock htimestamp values
  · exact hset
  · exact hset
  · exact hset

theorem sameNodes_takeOut (path : NodePath) (words : Nat) : d.registers.SameNodes (d.takeOut path words).registers := by
  unfold takeOut
  cases hqueue : d.registers.fifos[path]? with
  | none => exact .refl _
  | some queue =>
    have hp : d.registers.fifos.contains path = true := by
      rw [Std.ExtTreeMap.contains_eq_isSome_getElem?, hqueue]
      rfl
    have hset := sameNodes_setFifo hp (queue.drop words)
    dsimp only
    cases hbase : NodePath.beforeSuffix EndpointNode.bufferData path with
    | none => exact hset
    | some base => exact hset.setWord (h.occupancy path base hp hbase) _

/-- **One access**: what the device admits adds no register when it takes effect. -/
theorem sameNodes_after {op : Pending} (hop : d.registers.admits op.access = true) :
    d.registers.SameNodes (d.after op).registers := by
  cases op with
  | read handle => exact .refl _
  | readBlock handle words => exact h.sameNodes_takeOut handle.path words
  | write path value => exact h.sameNodes_writeWord hop value
  | writeBlock path values => exact h.sameNodes_writeBlock hop values

end Closed

/-! ## Devices as they come up -/

/-- The device is one that comes up, with other live slots, another length of its link, or a fault. -/
inductive Built : Device → Prop
  | endpoint (id : String) (endpoints : List UInt32) : Built (endpoint id endpoints)
  | overlord (id : String) : Built (overlord id)
  | fanout (id : String) : Built (fanout id)
  | withLiveSlots {d : Device} (slots : List UInt32) : Built d → Built (d.withLiveSlots slots)
  | withRoundTrip {d : Device} (ticks : UInt32) : Built d → Built (d.withRoundTrip ticks)
  | failing {d : Device} (reason : String) : Built d → Built (d.failing reason)
  | failingAt {d : Device} (n : Nat) (reason : String) : Built d → Built (d.failingAt n reason)

theorem closed_endpoint (id : String) (endpoints : List UInt32) : (endpoint id endpoints).Closed := by
  have hlaid := laid_endpoint id endpoints
  -- what ends in the enable bit is the enable bit of one of the endpoints
  have henable : ∀ path base, (endpoint id endpoints).registers.words.contains path = true →
      NodePath.beforeSuffix EndpointNode.enable path = some base → ∃ e ∈ endpoints, base = EndpointNode.base e := by
    intro path base hp hbase
    obtain ⟨e, he, rel, hrel, rfl⟩ := (hlaid.words path).mp hp
    exact ⟨e, he, EndpointNode.eq_of_beforeSuffix_enable hrel hbase⟩
  refine ⟨fun path base hp hbase => ?_, fun _ path base hp hbase => ?_, fun _ path base hp hbase => ?_,
    fun role hrole => nomatch role, hrole⟩
  · obtain ⟨e, he, rel, hrel, rfl⟩ := (hlaid.fifos path).mp hp
    obtain rfl := List.mem_singleton.mp hrel
    rw [EndpointNode.beforeSuffix_join_base] at hbase
    exact Option.some.inj hbase ▸ hlaid.contains_word he (by decide)
  · obtain ⟨e, he, rfl⟩ := henable path base hp hbase
    exact hlaid.contains_word he (by decide)
  · obtain ⟨e, he, rfl⟩ := henable path base hp hbase
    exact EndpointNode.join_base e _ ▸ hlaid.contains_word he (by decide : EndpointNode.readyFlag ∈ EndpointNode.wordNodes)

/-- A board without queues is closed if it has all that boards of its role come up with. -/
theorem closed_of_plays {role : BoardRole} (h : d.Plays role)
    (hfifos : ∀ path, d.registers.fifos.contains path = false) : d.Closed := by
  have hboard : d.kind ≠ .endpoint := fun hk => by cases role <;> exact nomatch h.kind.symm.trans hk
  refine ⟨fun path base hp => ?_, fun hk => absurd hk hboard, fun hk => absurd hk hboard, fun other hother => ?_⟩
  · exact absurd (hp.symm.trans (hfifos path)) (by decide)
  · have hsame : role = other := by
      cases role <;> cases other <;> first | rfl | exact nomatch h.kind.symm.trans hother
    exact hsame ▸ h

/-- **Devices come up closed**, and stay so whatever links and faults they are given. -/
theorem Built.closed (h : d.Built) : d.Closed := by
  induction h with
  | endpoint id endpoints => exact closed_endpoint id endpoints
  | overlord id => exact closed_of_plays (.overlord id) fun _ => rfl
  | fanout id => exact closed_of_plays (.fanout id) fun _ => rfl
  | @withLiveSlots d slots _ ih =>
    have hlive : ({ d with liveSlots := Std.ExtTreeSet.ofList slots compare } : Device).Closed :=
      ih.sameNodes rfl (.refl _)
    exact hlive.sameNodes (evolves_updateLinkFlags _).kind (hlive.sameNodes_updateLinkFlags (.refl _) rfl)
  | withRoundTrip ticks _ ih => exact ih.sameNodes rfl (.refl _)
  | failing reason _ ih => exact ih.sameNodes rfl (.refl _)
  | failingAt n reason _ ih => exact ih.sameNodes rfl (.refl _)

end Device

/-! ## Runs -/

namespace Session

variable {s : Session}

/-- One answer adds no register: what waits in the batch has been admitted. -/
theorem Orderly.sameNodes_answer (h : s.Orderly) (hc : s.device.Closed) (r : Request) :
    s.device.registers.SameNodes (s.answer r).state.device.registers := by
  have hkept := answer_keeps (s := s) (r := r)
    (I := fun d => d.kind = s.device.kind ∧ s.device.registers.SameNodes d.registers)
    (fun op hop d ⟨hk, hd⟩ => ?_) ⟨rfl, .refl _⟩
  · exact hkept.2
  · have hadmits : d.registers.admits op.access = true := (hd.admits op.access).trans (h.admits op hop)
    exact ⟨(d.evolves_after op).kind.trans hk, hd.trans ((hc.sameNodes hk hd).sameNodes_after hadmits)⟩

/-- **Runs** add no register. -/
theorem Orderly.sameNodes_follow (h : s.Orderly) (hc : s.device.Closed) (rs : List Request) :
    s.device.registers.SameNodes (s.follow rs).device.registers := by
  induction rs generalizing s with
  | nil => exact .refl _
  | cons r rs ih =>
    have hs := h.sameNodes_answer hc r
    exact hs.trans (ih (h.answer r) (hc.sameNodes (s.answer_evolves r).kind hs))

theorem evolves_follow (s : Session) (rs : List Request) : s.device.Evolves (s.follow rs).device := by
  induction rs generalizing s with
  | nil => exact .refl _
  | cons r rs ih => exact (s.answer_evolves r).trans (ih _)

/-- An access that is queued fails just if the device does not admit it, and then for want of the register. -/
theorem answer_error_iff {r : Request} {a : Access} (hr : r.queued? = some a) {e : Error} :
    (s.answer r).result = .error e ↔ s.device.registers.admits a = false ∧
      ∃ path, a.path? = some path ∧ e = .nodeNotFound s.device.id path.toString := by
  cases ha : s.device.registers.admits a with
  | true =>
    obtain ⟨⟨reply, hok⟩, -⟩ := answer_of_admits hr ha
    rw [hok]
    exact ⟨(nomatch ·), fun h => nomatch h.1⟩
  | false =>
    obtain ⟨path, hpath, herr, -⟩ := answer_of_not_admits hr ha
    rw [herr]
    refine ⟨fun h => ⟨rfl, path, hpath, (Except.error.inj h).symm⟩, ?_⟩
    rintro ⟨-, path', hpath', rfl⟩
    obtain rfl := Option.some.inj (hpath.symm.trans hpath')
    rfl

/-- **The address table of a device never changes**, whatever is asked of a session on it and whatever fails:
all look-ups go as they did when it came up, and an access lacks its register just if it did then. -/
theorem addressTable_follow {d : Device} (hd : d.Built) (rs : List Request) :
    d.registers.SameNodes ((ofDevice d).follow rs).device.registers ∧
      (∀ path, ((ofDevice d).follow rs).hasNode path = (ofDevice d).hasNode path ∧
        ((ofDevice d).follow rs).subNodes path = (ofDevice d).subNodes path) ∧
      ∀ r a, r.queued? = some a → ∀ e,
        (((ofDevice d).follow rs).answer r).result = .error e ↔ d.registers.admits a = false ∧
          ∃ path, a.path? = some path ∧ e = .nodeNotFound d.id path.toString := by
  have hfresh : (ofDevice d).Fresh := ⟨rfl, rfl⟩
  have hsame : d.registers.SameNodes ((ofDevice d).follow rs).device.registers :=
    hfresh.orderly.sameNodes_follow hd.closed rs
  have hid : ((ofDevice d).follow rs).device.id = d.id := (evolves_follow (ofDevice d) rs).id
  have hnode : ∀ path, ((ofDevice d).follow rs).hasNode path = (ofDevice d).hasNode path := hsame.hasNode
  refine ⟨hsame, fun path => ⟨hnode path, ?_⟩, fun r a hr e => ?_⟩
  · simp only [subNodes, hnode path, hsame.childNames path, hid]
    rfl
  · rw [answer_error_iff hr, hsame.admits, hid]

/-- A fanout with one live slot, whose second dispatch fails. -/
def faultyFanout : Device := ((Device.fanout "fan").withLiveSlots [5]).failingAt 2 "link down"

theorem addressTable_faultyFanout :
    faultyFanout.Built ∧
      (∀ path, ((ofDevice faultyFanout).follow
        [.write FanoutNode.mux 5, .dispatch, .write FanoutNode.mux 6, .dispatch]).hasNode path =
          (ofDevice faultyFanout).hasNode path) ∧
      (((ofDevice faultyFanout).follow
        [.write FanoutNode.mux 5, .dispatch, .write FanoutNode.mux 6, .dispatch]).answer (.read ⟨["mux"]⟩)).result =
          .error (.nodeNotFound "fan" "mux") := by
  have hbuilt : faultyFanout.Built := .failingAt 2 "link down" (.withLiveSlots [5] (.fanout "fan"))
  obtain ⟨-, hlook, hqueue⟩ := addressTable_follow hbuilt
    [.write FanoutNode.mux 5, .dispatch, .write FanoutNode.mux 6, .dispatch]
  refine ⟨hbuilt, fun path => (hlook path).1, (hqueue (.read ⟨["mux"]⟩) _ rfl _).mpr ?_⟩
  exact ⟨by decide +kernel, _, rfl, by decide⟩

end Session

end TimingFleet

import TimingFleet.Proofs.Clock.Stamps
import TimingFleet.Proofs.Device.Registers

/-!
# How boards react to writes

* The uplink endpoint of either board shows, once it has been enabled, the state that its inputs allow:
  `Device.linked`.  Nothing that it showed before matters.
* The mux of a fanout changes the link flags.  Only a write to the mux changes the mux.
* An echo on a ready overlord takes the time stamp of the moment as its start.
-/

namespace TimingFleet

/-- A time stamp takes no more than two words. -/
theorem Ticks.ofWords_resize (words : List UInt32) : ofWords (Device.resize 2 words) = ofWords words := by
  match words with
  | [] => rfl
  | [_] => rfl
  | _ :: _ :: _ => simp [ofWords, Device.resize]

/-- A code stands for one state. -/
theorem EndpointState.code_injective {x y : EndpointState} (h : x.code = y.code) : x = y := by
  have hx := ofCode?_code x
  rw [h, ofCode?_code] at hx
  exact (Option.some.inj hx).symm

theorem NodePath.getLast?_join {rel : NodePath} (path : NodePath) (h : rel.parts ≠ []) :
    (path.join rel).parts.getLast? = rel.parts.getLast? := by
  unfold join
  split_ifs
  · rfl
  · rw [List.getLast?_append, List.getLast?_eq_some_getLast h, Option.some_or]

/-! ## Nodes of the uplink endpoint -/

namespace BoardRole

/-- The enable bit of the uplink endpoint. -/
def enable (role : BoardRole) : NodePath := role.uplink.join EndpointNode.enable

/-- The state code of the uplink endpoint. -/
def state (role : BoardRole) : NodePath := role.uplink.join EndpointNode.state

theorem contains_enable (role : BoardRole) : role.registers.words.contains role.enable = true :=
  role.contains_words.mpr (by cases role <;> decide)

theorem contains_state (role : BoardRole) : role.registers.words.contains role.state = true :=
  role.contains_words.mpr (by cases role <;> decide)

end BoardRole

namespace Device

variable {d : Device} {role : BoardRole}

/-! ## The uplink endpoint -/

/-- The state that an enabled uplink endpoint comes to: an overlord needs a transmitter that is on, a fanout a
live slot behind its mux. -/
def linked (d : Device) : BoardRole → EndpointState
  | .overlord => if d.enabledSfps.isEmpty then .waitingSfp else .ready
  | .fanout => if d.onLiveSlot then .ready else .waitingCdrLock

@[simp] theorem onLiveSlot_setWord {path : NodePath} (h : path ≠ FanoutNode.mux) (value : UInt32) :
    (d.setWord path value).onLiveSlot = d.onLiveSlot := by
  unfold onLiveSlot
  rw [word?_setWord, if_neg h]
  rfl

theorem linked_setWord {path : NodePath} (h : path ≠ FanoutNode.mux) (value : UInt32) :
    (d.setWord path value).linked role = d.linked role := by
  cases role with
  | overlord => rfl
  | fanout => rw [linked, onLiveSlot_setWord h, linked]

theorem writeWord_enable (hk : d.kind = role.kind) (value : UInt32) :
    d.writeWord role.enable value =
      (d.setWord role.enable value).setWord role.state (stateAfterEnable value (d.linked role)).code := by
  have hk' : (d.setWord role.enable value).kind = role.kind := hk
  unfold writeWord
  cases role with
  | overlord =>
    simp only [hk', BoardRole.kind]
    exact if_pos rfl
  | fanout =>
    have hmux : BoardRole.fanout.enable ≠ FanoutNode.mux := by decide
    simp only [hk', BoardRole.kind, reactFanout]
    rw [if_neg hmux]
    refine (if_pos rfl).trans ?_
    rw [onLiveSlot_setWord hmux]
    rfl

/-- The device after its uplink endpoint has been restarted. -/
def restartUplink (d : Device) (role : BoardRole) : Device :=
  (d.writeWord role.enable 0).writeWord role.enable 1

theorem evolves_restartUplink (d : Device) (role : BoardRole) : d.Evolves (d.restartUplink role) :=
  (evolves_writeWord _ _ _).trans (evolves_writeWord _ _ _)

theorem restartUplink_eq (hk : d.kind = role.kind) :
    d.restartUplink role =
      (((d.setWord role.enable 0).setWord role.state EndpointState.standingBy.code).setWord role.enable 1).setWord
        role.state (d.linked role).code := by
  have henable : role.enable ≠ FanoutNode.mux := by cases role <;> decide
  have hstate : role.state ≠ FanoutNode.mux := by cases role <;> decide
  have hk' : ((d.setWord role.enable 0).setWord role.state (stateAfterEnable 0 (d.linked role)).code).kind =
      role.kind := hk
  unfold restartUplink
  rw [writeWord_enable hk, writeWord_enable hk', linked_setWord hstate, linked_setWord henable]
  rfl

/-- **Restart**: the state shown afterwards is the one that the inputs allow. -/
theorem word?_state_restartUplink (hk : d.kind = role.kind) :
    (d.restartUplink role).word? role.state = some (d.linked role).code := by
  rw [restartUplink_eq hk, word?_setWord, if_pos rfl]

theorem word?_restartUplink (hk : d.kind = role.kind) {path : NodePath} (he : path ≠ role.enable)
    (hs : path ≠ role.state) : (d.restartUplink role).word? path = d.word? path := by
  rw [restartUplink_eq hk]
  simp [Ne.symm he, Ne.symm hs]

theorem block?_restartUplink (hk : d.kind = role.kind) (path : NodePath) :
    (d.restartUplink role).block? path = d.block? path := by
  rw [restartUplink_eq hk]
  rfl

/-! ## The mux of a fanout -/

/-- What ends in another name is not the mux. -/
theorem word?_mux_setWord {other : NodePath} (h : other.parts.getLast? ≠ FanoutNode.mux.parts.getLast?) (d : Device)
    (value : UInt32) : (d.setWord other value).word? FanoutNode.mux = d.word? FanoutNode.mux := by
  have hne : other ≠ FanoutNode.mux := fun heq => h (heq ▸ rfl)
  rw [word?_setWord, if_neg hne]

theorem word?_mux_setWord_join {rel : NodePath} (hrel : rel.parts ≠ [])
    (h : rel.parts.getLast? ≠ FanoutNode.mux.parts.getLast?) (d : Device) (base : NodePath) (value : UInt32) :
    (d.setWord (base.join rel) value).word? FanoutNode.mux = d.word? FanoutNode.mux :=
  word?_mux_setWord (by rwa [NodePath.getLast?_join base hrel]) d value

theorem word?_mux_reactEndpoint (d : Device) (path : NodePath) (value : UInt32) :
    (d.reactEndpoint path value).word? FanoutNode.mux = d.word? FanoutNode.mux := by
  unfold reactEndpoint
  cases NodePath.beforeSuffix EndpointNode.enable path with
  | none => rfl
  | some base =>
    have hready : (base.parts ++ EndpointNode.readyFlag.parts).getLast? ≠ FanoutNode.mux.parts.getLast? := by
      rw [List.getLast?_append]
      exact (by decide : some "ep_rdy" ≠ some "mux")
    exact (word?_mux_setWord hready _ _).trans (word?_mux_setWord_join (by decide) (by decide) _ base _)

theorem word?_mux_answerEcho (d : Device) : d.answerEcho.word? FanoutNode.mux = d.word? FanoutNode.mux := by
  unfold answerEcho
  split_ifs
  · exact word?_mux_setWord (by decide) _ _
  · exact word?_mux_setWord (by decide) _ _

theorem word?_mux_reactOverlord (d : Device) (path : NodePath) (value : UInt32) :
    (d.reactOverlord path value).word? FanoutNode.mux = d.word? FanoutNode.mux := by
  unfold reactOverlord
  split
  · exact word?_mux_setWord (by decide) _ _
  split
  · exact d.word?_mux_answerEcho
  split
  · exact word?_mux_setWord (by decide) _ _
  · rfl

theorem word?_mux_updateLinkFlags (d : Device) :
    d.updateLinkFlags.word? FanoutNode.mux = d.word? FanoutNode.mux := by
  unfold updateLinkFlags
  split_ifs
  · exact (word?_mux_setWord (by decide) _ _).trans (word?_mux_setWord (by decide) _ _)
  · rfl

theorem word?_mux_reactFanout (d : Device) (path : NodePath) (value : UInt32) :
    (d.reactFanout path value).word? FanoutNode.mux = d.word? FanoutNode.mux := by
  unfold reactFanout
  split
  · exact d.word?_mux_updateLinkFlags
  split
  · exact word?_mux_setWord (by decide) _ _
  · rfl

/-- No device reacts to a write by changing the mux. -/
theorem word?_mux_writeWord (d : Device) (path : NodePath) (value : UInt32) :
    (d.writeWord path value).word? FanoutNode.mux = (d.setWord path value).word? FanoutNode.mux := by
  unfold writeWord
  dsimp only
  cases (d.setWord path value).kind with
  | endpoint => exact word?_mux_reactEndpoint _ path value
  | overlord => exact word?_mux_reactOverlord _ path value
  | fanout => exact word?_mux_reactFanout _ path value

theorem word?_mux_writeWord_mux (d : Device) (slot : UInt32) :
    (d.writeWord FanoutNode.mux slot).word? FanoutNode.mux = some slot := by
  rw [word?_mux_writeWord, word?_setWord, if_pos rfl]

/-- Behind the mux is the slot that was written last. -/
theorem onLiveSlot_writeWord_mux (d : Device) (slot : UInt32) :
    (d.writeWord FanoutNode.mux slot).onLiveSlot = d.liveSlots.contains slot := by
  unfold onLiveSlot
  rw [word?_mux_writeWord_mux, (evolves_writeWord d _ _).liveSlots]
  rfl

/-! ## Time stamps and echoes -/

/-- The running time stamp. -/
def timestamp (d : Device) : UInt64 := Ticks.ofWords ((d.block? MasterNode.timestamp).getD [])

/-- The time stamps of an echo as the echo monitor shows them. -/
def shownEcho (d : Device) : Echo :=
  ⟨Ticks.ofWords (resize 2 ((d.block? MasterNode.echoSent).getD [])),
    Ticks.ofWords (resize 2 ((d.block? MasterNode.echoReceived).getD []))⟩

theorem block?_timestamp_answerEcho (d : Device) :
    d.answerEcho.block? MasterNode.timestamp = d.block? MasterNode.timestamp := by
  have hsent : MasterNode.echoSent ≠ MasterNode.timestamp := by decide
  have hreceived : MasterNode.echoReceived ≠ MasterNode.timestamp := by decide
  unfold answerEcho
  split_ifs
  · rw [block?_setWord, block?_setBlock, if_neg hreceived, block?_setBlock, if_neg hsent]
  · rfl

/-- No word write to an overlord sets its time stamp. -/
theorem block?_timestamp_writeWord (hk : d.kind = .overlord) (path : NodePath) (value : UInt32) :
    (d.writeWord path value).block? MasterNode.timestamp = d.block? MasterNode.timestamp := by
  have hk' : (d.setWord path value).kind = .overlord := hk
  unfold writeWord
  simp only [hk', reactOverlord]
  split_ifs
  all_goals first
    | rfl
    | exact block?_timestamp_answerEcho _

theorem block?_timestamp_writeBlock (values : List UInt32) :
    (d.writeBlock MasterNode.commandBuffer values).block? MasterNode.timestamp =
      d.block? MasterNode.timestamp := by
  have hload : MasterNode.commandBuffer ≠ MasterNode.timestampLoad := by decide
  have hbuffer : MasterNode.commandBuffer ≠ MasterNode.timestamp := by decide
  have hset : (d.setBlock MasterNode.commandBuffer values).block? MasterNode.timestamp =
      d.block? MasterNode.timestamp := by rw [block?_setBlock, if_neg hbuffer]
  unfold writeBlock
  simp only [if_neg hload]
  split_ifs <;> exact hset

theorem writeWord_echoGo (hk : d.kind = .overlord)
    (hready : d.word? BoardRole.overlord.state = some EndpointState.ready.code) :
    d.writeWord MasterNode.echoGo 1 =
      (((d.setWord MasterNode.echoGo 1).setBlock MasterNode.echoSent (Ticks.toWords d.timestamp)).setBlock
        MasterNode.echoReceived (Ticks.toWords (d.timestamp + d.roundTrip.toUInt64))).setWord
          MasterNode.echoDone 1 := by
  have henable : MasterNode.echoGo ≠ MasterNode.uplink.join EndpointNode.enable := by decide
  have hstate : MasterNode.echoGo ≠ MasterNode.uplink.join EndpointNode.state := by decide
  have hk' : (d.setWord MasterNode.echoGo 1).kind = .overlord := hk
  have hready' : (d.setWord MasterNode.echoGo 1).word? (MasterNode.uplink.join EndpointNode.state) =
      some EndpointState.ready.code := by
    rw [word?_setWord, if_neg hstate]
    exact hready
  unfold writeWord
  simp only [hk', reactOverlord]
  rw [if_neg henable, if_pos ⟨trivial, by decide⟩, answerEcho, if_pos hready']
  rfl

/-- An overlord that is not ready sees no echo. -/
theorem word?_echoDone_of_not_ready (hk : d.kind = .overlord)
    (hready : d.word? BoardRole.overlord.state ≠ some EndpointState.ready.code) :
    (d.writeWord MasterNode.echoGo 1).word? MasterNode.echoDone = some 0 := by
  have henable : MasterNode.echoGo ≠ MasterNode.uplink.join EndpointNode.enable := by decide
  have hstate : MasterNode.echoGo ≠ MasterNode.uplink.join EndpointNode.state := by decide
  have hk' : (d.setWord MasterNode.echoGo 1).kind = .overlord := hk
  have hready' : (d.setWord MasterNode.echoGo 1).word? (MasterNode.uplink.join EndpointNode.state) ≠
      some EndpointState.ready.code := by
    rw [word?_setWord, if_neg hstate]
    exact hready
  unfold writeWord
  simp only [hk', reactOverlord]
  rw [if_neg henable, if_pos ⟨trivial, by decide⟩, answerEcho, if_neg hready', word?_setWord, if_pos rfl]

/-- **Echo of a ready overlord**: it is seen, it starts at the running time stamp, and it takes the round
trip. -/
theorem shownEcho_writeWord_echoGo (hk : d.kind = .overlord)
    (hready : d.word? BoardRole.overlord.state = some EndpointState.ready.code) :
    (d.writeWord MasterNode.echoGo 1).word? MasterNode.echoDone = some 1 ∧
      (d.writeWord MasterNode.echoGo 1).shownEcho = ⟨d.timestamp, d.timestamp + d.roundTrip.toUInt64⟩ := by
  have hne : MasterNode.echoReceived ≠ MasterNode.echoSent := by decide
  have hresize : ∀ ticks, resize 2 (Ticks.toWords ticks) = Ticks.toWords ticks := fun _ => rfl
  rw [writeWord_echoGo hk hready]
  refine ⟨by rw [word?_setWord, if_pos rfl], ?_⟩
  simp only [shownEcho, block?_setWord, block?_setBlock, if_neg hne, if_true, Option.getD_some, hresize,
    Ticks.ofWords_toWords]

end Device

end TimingFleet

import TimingFleet.Proofs.Device.Reactions
import TimingFleet.Proofs.Register.SfpPacket
import TimingFleet.Proofs.Procedure.Logic
import TimingFleet.Proofs.Session.Serving

/-!
# Command packets that reach an overlord

The set of switched-on transmitters changes with command packets only.  `Session.packets s r` lists the
packets that reach the device when `s` answers `r`; the set afterwards is the set before with these packets
applied in their order (`enabledSfps_answer`).
-/

namespace TimingFleet

/-- The command packet that an operation carries, if it carries one. -/
def Pending.packet? : Pending → Option (List UInt32)
  | .writeBlock path values => if path = MasterNode.commandBuffer then some values else none
  | _ => none

/-- Switching the transmitter of `address`, as an operation of a batch. -/
def Pending.switchSfp (address : UInt32) (on : Bool) : Pending :=
  .writeBlock MasterNode.commandBuffer (SfpPacket.encode address on)

/-- The request writes a command packet. -/
def Request.writesPacket : Request → Bool
  | .writeBlock path _ => path == MasterNode.commandBuffer
  | _ => false

theorem packet?_of_queued? {r : Request} {op : Pending} (h : r.queued? = some op.access)
    (hr : r.writesPacket = false) : op.packet? = none := by
  cases op with
  | writeBlock path values =>
    cases r <;> cases h
    simpa [Request.writesPacket, Pending.packet?] using hr
  | _ => rfl

/-! ## The device -/

namespace Device

variable (d : Device)

/-- No reaction to a word write switches a transmitter. -/
@[simp] theorem enabledSfps_writeWord (path : NodePath) (value : UInt32) :
    (d.writeWord path value).enabledSfps = d.enabledSfps := by
  unfold writeWord
  cases hk : d.kind with
  | endpoint =>
    simp only [setWord, hk, reactEndpoint]
    split <;> rfl
  | overlord =>
    simp only [setWord, hk, reactOverlord, answerEcho]
    split_ifs <;> rfl
  | fanout =>
    simp only [setWord, hk, reactFanout, updateLinkFlags]
    split_ifs <;> rfl

@[simp] theorem enabledSfps_restartUplink (role : BoardRole) :
    (d.restartUplink role).enabledSfps = d.enabledSfps := by
  unfold restartUplink
  rw [enabledSfps_writeWord, enabledSfps_writeWord]

theorem enabledSfps_writeBlock (hk : d.kind = .overlord) (path : NodePath) (values : List UInt32) :
    (d.writeBlock path values).enabledSfps =
      (Pending.writeBlock path values).packet?.toList.foldl applyPacket d.enabledSfps := by
  have hne : MasterNode.timestampLoad ≠ MasterNode.commandBuffer := by decide
  simp only [writeBlock, Pending.packet?, setBlock, hk, if_true]
  by_cases hload : path = MasterNode.timestampLoad
  · rw [if_pos hload, if_neg (hload ▸ hne)]
    rfl
  rw [if_neg hload]
  split_ifs <;> rfl

theorem enabledSfps_switchSfp (hk : d.kind = .overlord) (address : UInt32) (on : Bool) :
    (d.writeBlock MasterNode.commandBuffer (SfpPacket.encode address on)).enabledSfps =
      applyPacket d.enabledSfps (SfpPacket.encode address on) := by
  rw [enabledSfps_writeBlock d hk]
  simp [Pending.packet?]

theorem enabledSfps_readBlock {e : Device} {path : NodePath} {words : Nat} {values : List UInt32}
    (h : d.readBlock path words = .ok (values, e)) : e.enabledSfps = d.enabledSfps := by
  unfold readBlock at h
  split at h
  · cases h
    rfl
  · split_ifs at h
    dsimp only at h
    split at h <;> (cases h; rfl)

end Device

/-! ## Batches -/

namespace Bench

/-- An operation that gets done has sent its packet. -/
theorem enabledSfps_serve {b : Bench} {op : Pending} (hk : b.device.kind = .overlord)
    (h : (b.serve op).result = .ok ()) :
    (b.serve op).state.device.enabledSfps = op.packet?.toList.foldl Device.applyPacket b.device.enabledSfps := by
  cases op with
  | read handle => rfl
  | readBlock handle words =>
    cases hr : b.device.readBlock handle.path words with
    | ok found => simpa [serve, hr, Outcome.ok, Pending.packet?] using b.device.enabledSfps_readBlock hr
    | error e => simp [serve, hr, Outcome.error] at h
  | write path value => exact b.device.enabledSfps_writeWord path value
  | writeBlock path values => exact b.device.enabledSfps_writeBlock hk path values

theorem enabledSfps_serveAll {b : Bench} (hk : b.device.kind = .overlord) (ops : List Pending) :
    (b.serveAll ops).state.device.enabledSfps =
      ((b.served ops).filterMap Pending.packet?).foldl Device.applyPacket b.device.enabledSfps := by
  induction ops generalizing b with
  | nil => rfl
  | cons op ops ih =>
    rw [serveAll_cons, served]
    cases h : (b.serve op).result with
    | ok u =>
      have hk' : (b.serve op).state.device.kind = .overlord := (b.evolves_serve op).kind.trans hk
      rw [Outcome.andThen_of_ok h, Outcome.state_after, ih hk', enabledSfps_serve hk h]
      cases hp : op.packet? with
      | none => simp [hp]
      | some packet => simp [hp]
    | error e =>
      rw [Outcome.andThen_of_error h, serve_state_of_error h]
      rfl

end Bench

/-! ## Sessions -/

namespace Session

/-- The command packets that reach the device when the request is answered. -/
def packets (s : Session) : Request → List (List UInt32)
  | .dispatch => s.served.filterMap Pending.packet?
  | _ => []

theorem enabledSfps_dispatch {s : Session} (hk : s.device.kind = .overlord) :
    s.dispatch.state.device.enabledSfps = (s.packets .dispatch).foldl Device.applyPacket s.device.enabledSfps := by
  cases h : s.device.refusal (s.dispatchCount + 1) with
  | some reason =>
    rw [packets, served_of_refusal h, dispatch_of_refusal h]
    rfl
  | none =>
    rw [packets, served, h, (dispatch_of_no_refusal h).2]
    exact Bench.enabledSfps_serveAll hk s.batch.toList

/-- **Transmitters after an answer**: the packets that reach the device are applied, and nothing else is. -/
theorem enabledSfps_answer {s : Session} (hk : s.device.kind = .overlord) (r : Request) :
    (s.answer r).state.device.enabledSfps = (s.packets r).foldl Device.applyPacket s.device.enabledSfps := by
  cases r with
  | dispatch => exact enabledSfps_dispatch hk
  | read path => simp only [answer, read]; split_ifs <;> rfl
  | readBlock path words => simp only [answer, readBlock]; split_ifs <;> rfl
  | write path value => simp only [answer, write]; split_ifs <;> rfl
  | writeBlock path values => simp only [answer, writeBlock]; split_ifs <;> rfl
  | _ => rfl

/-- The command packets that reach the device in a run. -/
def sent (tr : Trace Unit Session) : List (List UInt32) := tr.flatMap fun x => x.1.packets x.2.2

/-- No command packet is queued. -/
def NoPacket (s : Session) : Prop := ∀ op ∈ s.batch.toList, op.packet? = none

/-- A batch without packets sends none. -/
theorem NoPacket.packets {s : Session} (h : s.NoPacket) (r : Request) : s.packets r = [] := by
  cases r with
  | dispatch =>
    refine List.filterMap_eq_nil_iff.mpr fun op hop => ?_
    unfold served at hop
    split at hop
    · exact absurd hop List.not_mem_nil
    · exact h op (Bench.served_subset _ _ op hop)
  | _ => rfl

/-- Only the write of a packet queues one. -/
theorem NoPacket.answer {s : Session} (h : s.NoPacket) {r : Request} (hr : r.writesPacket = false) :
    (s.answer r).state.NoPacket := by
  intro op hop
  rcases mem_batch_answer hop with hop | hop
  · exact h op hop
  · exact packet?_of_queued? hop hr

end Session

end TimingFleet

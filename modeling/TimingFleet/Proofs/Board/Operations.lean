import TimingFleet.Proofs.Device.Reactions
import TimingFleet.Proofs.Session.Logic
import TimingFleet.Proofs.Session.Packets

/-!
# What the operations of a board do

One statement for each operation on an idle board in its role.  On success the device has taken the writes of
the operation in their order and the board is idle again.  Without a fault of the device an operation fails
only for what it reads.
-/

namespace TimingFleet

/-- The request writes the register that sends an echo. -/
def Request.writesEcho : Request → Bool
  | .write path _ => path == MasterNode.echoGo
  | _ => false

theorem Request.eq_of_writesEcho {r : Request} (h : r.writesEcho = true) :
    ∃ value, r = .write MasterNode.echoGo value := by
  cases r with
  | write path value => exact ⟨value, by rw [eq_of_beq h]⟩
  | _ => cases h

theorem Request.writesEcho_enable (role : BoardRole) (value : UInt32) :
    (Request.write role.enable value).writesEcho = false := by
  cases role <;> rfl

namespace Board

open Procedure

variable {b : Board} {s : Session} {now : UInt64}

theorem runs_require {role : BoardRole} {operation : String} {Q : Unit → Session → Trace Unit Session → Prop}
    {E : Error → Session → Trace Unit Session → Prop} (hb : b.role = role) (h : Q () s []) :
    Runs now (b.require role operation) s Q E := by
  unfold require
  rw [if_pos hb]
  exact h

theorem straight_require (b : Board) (role : BoardRole) (operation : String) : (b.require role operation).Straight :=
  straight_ite trivial (straight_fail _)

/-- **Mux selection** writes the slot, or ends with the dispatch that was to write it. -/
theorem runs_selectMux {slot : UInt32} (hb : b.role = .fanout) (hs : s.Idle .fanout) (hslot : slot < fanoutSlots) :
    Runs now (b.selectMux slot) s
      (fun _ t _ => t.Idle .fanout ∧ t.device = s.device.writeWord FanoutNode.mux slot)
      fun e t tr => t.device = s.device ∧ t.dispatchCount = s.dispatchCount + 1 ∧
        EndsRefused [.write FanoutNode.mux slot] e t tr := by
  have hmux : s.device.registers.words.contains FanoutNode.mux = true := hs.plays.word (by decide)
  have hle : ¬ fanoutSlots ≤ slot := UInt32.not_le.mpr hslot
  unfold selectMux
  refine runs_bind (runs_require hb ?_)
  rw [if_neg hle]
  refine runs_bind (runs_write hmux ?_)
  have hops : (s.enqueue (.write FanoutNode.mux slot)).batch.toList = [.write FanoutNode.mux slot] := by simp [hs.batch]
  refine runs_bind (runs_dispatch_or_refused _ hops (.write (.nil _)) (fun _ t hbatch hbench => ?_)
    fun reason hr => ⟨rfl, ?_, (endsRefused_of_refusal hops hr).append _⟩)
  case refine_2 => rw [Session.dispatchCount_flushed, Session.dispatchCount_enqueue]
  have hdev : t.device = s.device.writeWord FanoutNode.mux slot := congrArg Bench.device hbench
  refine runs_bind (runs_settle (runs_log ⟨hs.evolves ?_ hbatch, hdev⟩))
  rw [hdev]
  exact Device.evolves_writeWord _ _ _

/-- **Restart of the uplink endpoint**: the code is the one that the device shows afterwards. -/
theorem runs_lockUplink {role : BoardRole} (hb : b.role = role) (hs : s.Idle role) :
    Runs now b.lockUplink s
      (fun code t _ => t.Idle role ∧ t.device = s.device.restartUplink role ∧
        code = (t.device.word? role.state).getD 0)
      fun e t tr => t.Idle role ∧ s.device.failure ≠ none ∧ ∃ ops, EndsRefused ops e t tr := by
  subst hb
  have henable := hs.plays.words _ b.role.contains_enable
  have hev := s.device.evolves_restartUplink b.role
  unfold lockUplink
  refine runs_bind (runs_write henable ?_)
  refine runs_bind (runs_write henable ?_)
  refine runs_bind (runs_dispatch_or_refused [.write b.role.enable 0, .write b.role.enable 1]
    (by simp [hs.batch, BoardRole.enable]) (.write (.write (.nil _))) (fun _ t hbatch hbench => ?_)
    fun _ hr => ⟨hs.of_device_eq rfl rfl, Session.failure_ne_none_of_refusal hr, _,
      (endsRefused_of_refusal rfl hr).append [_, _]⟩)
  have hdev : t.device = s.device.restartUplink b.role := congrArg Bench.device hbench
  rw [← hdev] at hev
  have ht := hs.evolves hev hbatch
  refine runs_bind (runs_settle ?_)
  refine runs_bind (runs_read (ht.plays.words _ b.role.contains_state) ?_)
  refine runs_bind (runs_dispatch_or_refused [.read (t.slots.wordHandle b.role.state)]
    (by simp [hbatch, BoardRole.state]) (.read (.nil _)) (fun _ u hbatch' hbench' => ?_)
    fun _ hr => ⟨ht.of_device_eq rfl rfl, hev.failure ▸ Session.failure_ne_none_of_refusal hr, _,
      (endsRefused_of_refusal rfl hr).append [_, _, _, _]⟩)
  have hslots := congrArg Bench.slots hbench'
  have hdev' : u.device = t.device := congrArg Bench.device hbench'
  refine runs_bind (runs_wordValue ((t.device.word? b.role.state).getD 0) ?_ ?_)
  · rw [show u.slots = _ from hslots, Slots.word?_fillWord]
    exact if_pos rfl
  · refine runs_bind (runs_log (runs_pure ⟨hs.evolves (hdev' ▸ hev) hbatch', hdev'.trans hdev, ?_⟩))
    rw [hdev']

/-- **Enabling the uplink endpoint** succeeds if its inputs allow the ready state, and fails with the state that
they allow instead. -/
theorem runs_enableUplink {role : BoardRole} (hb : b.role = role) (hs : s.Idle role) :
    Runs now b.enableUplink s
      (fun _ t _ => t.Idle role ∧ t.device = s.device.restartUplink role ∧ s.device.linked role = .ready)
      fun e t _ => t.Idle role ∧ (s.device.failure ≠ none ∨
        t.device = s.device.restartUplink role ∧ s.device.linked role ≠ .ready ∧
          e = .receiverNotReady b.name (s.device.linked role).code (s.device.linked role).label) := by
  subst hb
  have hstate := Device.word?_state_restartUplink hs.plays.kind
  unfold enableUplink
  refine runs_bind ((runs_lockUplink rfl hs).mono ?_ fun _ _ _ h => ⟨h.1, Or.inl h.2.1⟩)
  rintro code t - ⟨hidle, hdev, hcode⟩
  rw [hdev, hstate] at hcode
  by_cases h : code = EndpointState.ready.code
  · rw [if_pos h]
    exact runs_bind (runs_log (runs_pure ⟨hidle, hdev, EndpointState.code_injective (hcode.symm.trans h)⟩))
  · rw [if_neg h]
    refine runs_fail ⟨hidle, Or.inr ⟨hdev, fun hready => h (by rw [hcode, hready]; rfl), ?_⟩⟩
    show Error.receiverNotReady _ code (((EndpointState.ofCode? code).map EndpointState.label).getD "undefined") = _
    rw [hcode, Option.getD_some, EndpointState.ofCode?_code]
    rfl

/-- **Switching transmitters** sends one command packet, or ends with the dispatch that was to send it. -/
theorem runs_switchSfp {address : UInt32} {on : Bool} (hb : b.role = .overlord) (hs : s.Idle .overlord)
    (ha : address ≤ maxAddress) :
    Runs now (b.switchSfp address on) s
      (fun _ t tr => t.Idle .overlord ∧
        t.device = s.device.writeBlock MasterNode.commandBuffer (SfpPacket.encode address on) ∧
        Session.sent tr = [SfpPacket.encode address on])
      fun e t tr => t.Idle .overlord ∧ s.device.failure ≠ none ∧ Session.sent tr = [] ∧
        ∃ u, tr.getLast? = some (u, (), .dispatch) ∧ u.Refuses (.switchSfp address on) e := by
  have hbuffer : s.device.registers.blocks.contains MasterNode.commandBuffer = true :=
    hs.plays.block (by decide)
  have hlt : ¬ maxAddress < address := UInt32.not_lt.mpr ha
  -- the batch after the write
  have hops : (s.enqueue (.switchSfp address on)).batch.toList = [.switchSfp address on] := by simp [hs.batch]
  have hserves : (s.enqueue (.switchSfp address on)).bench.Serves [.switchSfp address on] _ :=
    .writeBlock (.nil _)
  unfold switchSfp
  refine runs_bind (runs_require hb ?_)
  rw [if_neg hlt]
  refine runs_bind (runs_writeBlock hbuffer ?_)
  refine runs_bind (runs_dispatch _ hops hserves (fun hn t hbatch hbench => ?_) fun reason hr t hbatch hbench => ?_)
  · have hdev : t.device = s.device.writeBlock MasterNode.commandBuffer (SfpPacket.encode address on) :=
      congrArg Bench.device hbench
    have hserved : (s.enqueue (.switchSfp address on)).served = [.switchSfp address on] :=
      (Session.served_of_serves hn (hops ▸ hserves)).trans hops
    refine runs_log ⟨hs.evolves ?_ hbatch, hdev, ?_⟩
    · rw [hdev]
      exact Device.evolves_writeBlock _ _ _
    · unfold Pending.switchSfp at hserved
      simp [Session.sent, Session.packets, hserved, Pending.packet?]
  · refine ⟨hs.of_device_eq hbatch (congrArg Bench.device hbench), Session.failure_ne_none_of_refusal hr, ?_,
      _, rfl, by simp [Pending.switchSfp], congrArg Outcome.result (Session.dispatch_of_refusal hr)⟩
    simpa [Session.sent, Session.packets] using
      congrArg (List.filterMap Pending.packet?) (Session.served_of_refusal hr)

/-- **Echo**: its time stamps are those in the echo monitor, and it fails if the monitor saw none come back. -/
theorem runs_measureEcho (hb : b.role = .overlord) (hs : s.Idle .overlord) :
    Runs now b.measureEcho s
      (fun echo t _ => t.Idle .overlord ∧ t.device = s.device.writeWord MasterNode.echoGo 1 ∧
        (t.device.word? MasterNode.echoDone).getD 0 ≠ 0 ∧ echo = t.device.shownEcho)
      fun _ t _ => t.Idle .overlord ∧ (s.device.failure ≠ none ∨
        t.device = s.device.writeWord MasterNode.echoGo 1 ∧ (t.device.word? MasterNode.echoDone).getD 0 = 0) := by
  have hgo : s.device.registers.words.contains MasterNode.echoGo = true := hs.plays.word (by decide)
  have hdoneTable : BoardRole.overlord.registers.words.contains MasterNode.echoDone = true :=
    (BoardRole.contains_words _).mpr (by decide)
  have hsentTable : BoardRole.overlord.registers.blocks.contains MasterNode.echoSent = true :=
    (BoardRole.contains_blocks _).mpr (by decide)
  have hreceivedTable : BoardRole.overlord.registers.blocks.contains MasterNode.echoReceived = true :=
    (BoardRole.contains_blocks _).mpr (by decide)
  unfold measureEcho
  refine runs_bind (runs_require hb ?_)
  refine runs_bind (runs_write hgo ?_)
  refine runs_bind (runs_dispatch [.write MasterNode.echoGo 1] (by simp [hs.batch]) (.write (.nil _))
    (fun _ t hbatch hbench => ?_) fun _ hr t hbatch hbench =>
      ⟨hs.of_device_eq hbatch (congrArg Bench.device hbench), Or.inl (Session.failure_ne_none_of_refusal hr)⟩)
  have hdev : t.device = s.device.writeWord MasterNode.echoGo 1 := congrArg Bench.device hbench
  have hev : s.device.Evolves t.device := hdev ▸ s.device.evolves_writeWord MasterNode.echoGo 1
  have ht : t.Idle .overlord := hs.evolves hev hbatch
  refine runs_bind (runs_settle ?_)
  refine runs_bind (runs_read (ht.plays.words _ hdoneTable) ?_)
  refine runs_bind (runs_readBlock (ht.plays.isBlock hsentTable) ?_)
  refine runs_bind (runs_readBlock (ht.plays.isBlock hreceivedTable) ?_)
  refine runs_bind (runs_dispatch
    [.read ⟨MasterNode.echoDone, t.slots.next⟩, .readBlock ⟨MasterNode.echoSent, t.slots.next + 1⟩ 2,
      .readBlock ⟨MasterNode.echoReceived, t.slots.next + 1 + 1⟩ 2]
    (by simp [hbatch, Slots.wordHandle, Slots.blockHandle, Slots.bump])
    (.read (.readBlock (ht.plays.fifo_eq_none hsentTable)
      (.readBlock (ht.plays.fifo_eq_none hreceivedTable) (.nil _))))
    (fun _ u hbatch' hbench' => ?_) fun _ hr u hbatch' hbench' =>
      ⟨ht.of_device_eq hbatch' (congrArg Bench.device hbench'),
        Or.inl (hev.failure ▸ Session.failure_ne_none_of_refusal hr)⟩)
  have hdev' : u.device = t.device := congrArg Bench.device hbench'
  have hslots := congrArg Bench.slots hbench'
  refine runs_bind (runs_wordValue ((t.device.word? MasterNode.echoDone).getD 0) ?_ ?_)
  · rw [show u.slots = _ from hslots]
    simp [Session.bench, Slots.wordHandle, Slots.word?, Slots.fillBlock, Slots.fillWord]
  by_cases hfinished : (t.device.word? MasterNode.echoDone).getD 0 = 0
  · rw [if_pos hfinished]
    exact runs_fail ⟨hs.evolves (hdev' ▸ hev) hbatch', Or.inr ⟨hdev'.trans hdev, hdev' ▸ hfinished⟩⟩
  rw [if_neg hfinished]
  refine runs_bind (runs_blockValue (Device.resize 2 ((t.device.block? MasterNode.echoSent).getD [])) ?_ ?_)
  · rw [show u.slots = _ from hslots]
    simp [Session.bench, Slots.blockHandle, Slots.bump]
  refine runs_bind (runs_blockValue (Device.resize 2 ((t.device.block? MasterNode.echoReceived).getD [])) ?_ ?_)
  · rw [show u.slots = _ from hslots]
    simp [Session.bench, Slots.blockHandle, Slots.bump]
  refine runs_bind (runs_log (runs_pure ⟨hs.evolves (hdev' ▸ hev) hbatch', hdev'.trans hdev, hdev' ▸ hfinished, ?_⟩))
  rw [hdev', Device.shownEcho]

/-! ## The two parts of a scan -/

/-- The slot that the mux of a fanout is on. -/
def readMux (b : Board) : Procedure Unit UInt32 := do
  b.require .fanout "port scan"
  let current ← read FanoutNode.mux
  dispatch
  wordValue current

/-- The mux set back, and the outcome of the visits, whose failure goes before one of the restoring. -/
def setBack (b : Board) (previous : UInt32) (visited : Except Error (List SlotScan)) :
    Procedure Unit (List SlotScan) := do
  let restored ← (b.selectMux previous).attempt
  match visited, restored with
  | .ok scans, .ok () => return scans
  | .ok _, .error e => .fail e
  | .error e, .ok () => .fail e
  | .error e, .error r =>
    log .warn (b.name ++ ": mux not restored to slot " ++ Text.Numeral.decimal previous.toNat ++ ": " ++
      r.message)
    .fail e

theorem scanSlots_eq (b : Board) :
    b.scanSlots = b.readMux >>= fun previous => (each slots b.scanSlot).attempt >>= b.setBack previous := by
  unfold scanSlots readMux
  simp only [bind_assoc]
  rfl

theorem selectMux_of_not_slot {slot : UInt32} (hb : b.role = .fanout) (hslot : fanoutSlots ≤ slot) :
    b.selectMux slot = .fail (slotError slot) := by
  unfold selectMux require
  rw [if_pos hb]
  exact if_pos hslot

/-! ## What the operations ask -/

theorem asks_require {φ : Unit → Request → Prop} (b : Board) (role : BoardRole) (operation : String) :
    (b.require role operation).Asks φ := by
  unfold require
  split_ifs <;> trivial

theorem asks_selectMux (b : Board) (slot : UInt32) : (b.selectMux slot).Asks fun _ r => r.writesEcho = false := by
  unfold selectMux
  refine asks_bind (asks_require _ _ _) fun _ => ?_
  split_ifs
  · trivial
  · refine asks_bind (asks_request rfl) fun _ => asks_bind (asks_request rfl) fun _ => ?_
    exact asks_bind (asks_settle _ _) fun _ => trivial

theorem asks_switchSfp (b : Board) (address : UInt32) (on : Bool) :
    (b.switchSfp address on).Asks fun _ r => r.writesEcho = false := by
  unfold switchSfp
  refine asks_bind (asks_require _ _ _) fun _ => ?_
  by_cases ha : maxAddress < address
  · rw [if_pos ha]
    trivial
  · rw [if_neg ha]
    exact asks_bind (asks_request rfl) fun _ => asks_bind (asks_request rfl) fun _ => trivial

theorem asks_enableUplink (b : Board) :
    b.enableUplink.Asks fun _ r => r.writesPacket = false ∧ r.writesEcho = false := by
  have henable := Request.writesEcho_enable b.role
  unfold enableUplink
  refine asks_bind ?_ fun code => ?_
  · unfold lockUplink
    refine asks_bind (asks_request ⟨rfl, henable 0⟩) fun _ => asks_bind (asks_request ⟨rfl, henable 1⟩) fun _ => ?_
    refine asks_bind (asks_request ⟨rfl, rfl⟩) fun _ => asks_bind (asks_settle _ _) fun _ => ?_
    refine asks_bind (asks_request ⟨rfl, rfl⟩) fun _ => asks_bind (asks_request ⟨rfl, rfl⟩) fun _ => ?_
    exact asks_bind (asks_request ⟨rfl, rfl⟩) fun _ => trivial
  · split_ifs <;> trivial

/-- An echo begins with the write that sends it, and asks for no other and for no packet afterwards. -/
theorem measureEcho_eq (b : Board) : ∃ rest : Procedure Unit Echo,
    (rest.Asks fun _ r => r.writesPacket = false ∧ r.writesEcho = false) ∧
      b.measureEcho = (b.require .overlord "echo" >>= fun _ => write MasterNode.echoGo 1 >>= fun _ => rest) := by
  refine ⟨_, ?_, rfl⟩
  refine asks_bind (asks_request ⟨rfl, rfl⟩) fun _ => asks_bind (asks_settle _ _) fun _ => ?_
  refine asks_bind (asks_request ⟨rfl, rfl⟩) fun _ => asks_bind (asks_request ⟨rfl, rfl⟩) fun _ => ?_
  refine asks_bind (asks_request ⟨rfl, rfl⟩) fun _ => asks_bind (asks_request ⟨rfl, rfl⟩) fun _ => ?_
  refine asks_bind (asks_request ⟨rfl, rfl⟩) fun finished => ?_
  split_ifs
  · trivial
  · exact asks_bind (asks_request ⟨rfl, rfl⟩) fun _ => asks_bind (asks_request ⟨rfl, rfl⟩) fun _ => trivial

theorem asks_measureEcho (b : Board) : b.measureEcho.Asks fun _ r => r.writesPacket = false := by
  obtain ⟨rest, hrest, heq⟩ := b.measureEcho_eq
  rw [heq]
  exact asks_bind (asks_require _ _ _) fun _ => asks_bind (asks_request rfl) fun _ => hrest.mono fun _ _ h => h.1

/-- The echo is sent before anything else is asked. -/
theorem asked_measureEcho (b : Board) (now : UInt64) (s : Session) :
    ∀ x ∈ b.measureEcho.asked now s, x.2.2.writesEcho = true → x.1 = s := by
  obtain ⟨rest, hrest, heq⟩ := b.measureEcho_eq
  rw [heq]
  unfold require
  split_ifs
  · intro x hx hecho
    rcases List.mem_cons.mp hx with rfl | hx
    · rfl
    · have hsilent := Asks.of_mem_asked (asks_bind (asks_ofExcept _) fun _ => hrest) x hx
      exact nomatch hsilent.2.symm.trans hecho
  · exact fun x hx => absurd hx List.not_mem_nil

end Board

end TimingFleet

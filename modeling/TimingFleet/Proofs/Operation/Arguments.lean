import TimingFleet.Proofs.Board.Scan

/-!
# Arguments that are turned down

An operation turns an argument down before it asks for anything, so the session is as it was.  The one exception is the
scan of a fanout whose mux was on no slot: the scan selects that slot at its end, as if it were an argument, and the
mux stays elsewhere (`Board.Stranded`).

`Procedure.ChecksFirst p`: `p` fails at once, or it never blames an argument.
-/

namespace TimingFleet

open Procedure Session

namespace Procedure

variable {α β : Type} {p : Procedure Unit α}

/-- The procedure fails at once, or it never blames an argument. -/
def ChecksFirst (p : Procedure Unit α) : Prop := (∃ e, p = .fail e) ∨ p.FailsOnly fun e => ¬ e.BlamesArgument

/-- When such a procedure blames an argument, the session is as it was. -/
theorem ChecksFirst.runs (h : ChecksFirst p) (now : UInt64) (s : Session) :
    Runs now p s (fun _ _ _ => True) fun e t _ => e.BlamesArgument → t = s := by
  rcases h with ⟨e, rfl⟩ | hp
  · exact runs_fail fun _ => rfl
  · exact (runs_blamesNoArgument hp now s).mono (fun _ _ _ h => h) fun _ _ _ hno hblames => absurd hblames hno

theorem checksFirst_ite {c : Prop} [Decidable c] {q : Procedure Unit α} (hp : c → ChecksFirst p)
    (hq : ¬ c → ChecksFirst q) : ChecksFirst (if c then p else q) := by
  split_ifs with h
  · exact hp h
  · exact hq h

theorem checksFirst_fail (e : Error) : ChecksFirst (.fail e : Procedure Unit α) := Or.inl ⟨e, rfl⟩

/-- A check of the role, and what is done by the right one. -/
theorem checksFirst_require {b : Board} {role : BoardRole} {operation : String} {f : Unit → Procedure Unit α}
    (h : b.role = role → ChecksFirst (f ())) : ChecksFirst (b.require role operation >>= f) := by
  unfold Board.require
  split_ifs with hb
  · exact h hb
  · exact checksFirst_fail _

end Procedure

/-! ## Groups of endpoints -/

namespace EndpointGroup

variable {g : EndpointGroup} {φ : Error → Prop}

theorem failsOnly_readVersions : g.readVersions.FailsOnly φ := by
  unfold readVersions
  refine failsOnly_bind (failsOnly_each fun _ _ => failsOnly_bind (failsOnly_request _ _) fun _ => failsOnly_pure _) fun _ => ?_
  refine failsOnly_bind (failsOnly_request _ _) fun _ => ?_
  refine failsOnly_bind (failsOnly_each fun _ _ => failsOnly_bind (failsOnly_request _ _) fun _ => failsOnly_pure _) fun _ => ?_
  exact failsOnly_ite (fun _ => failsOnly_pure _) fun _ => failsOnly_bind (failsOnly_log _ _) fun _ => failsOnly_pure _

theorem failsOnly_enableOne (on : Bool) (partition id : UInt32) : (enableOne on partition id).FailsOnly φ := by
  have hrest : (do
      write (node id EndpointNode.enable) (Device.flag on)
      write (node id EndpointNode.bufferEnable) (Device.flag on)
      dispatch
      log .debug ("Endpoint " ++ Text.Numeral.decimal id.toNat ++ if on then " enabled" else " disabled")).FailsOnly φ :=
    failsOnly_bind (failsOnly_request _ _) fun _ => failsOnly_bind (failsOnly_request _ _) fun _ =>
      failsOnly_bind (failsOnly_request _ _) fun _ => failsOnly_log _ _
  cases on with
  | true => exact failsOnly_bind (failsOnly_request _ _) fun _ => hrest
  | false => exact hrest

theorem failsOnly_snapshot : g.snapshot.FailsOnly φ := by
  unfold snapshot
  refine failsOnly_bind (failsOnly_each fun id _ => ?_) fun _ => failsOnly_bind (failsOnly_request _ _) fun _ => ?_
  · unfold queueSnapshot
    refine failsOnly_bind (failsOnly_request _ _) fun _ => failsOnly_bind (failsOnly_request _ _) fun _ => ?_
    refine failsOnly_bind (failsOnly_request _ _) fun _ => failsOnly_bind (failsOnly_readGroup _) fun _ => ?_
    refine failsOnly_bind (failsOnly_readGroup _) fun _ => failsOnly_bind (failsOnly_request _ _) fun _ => failsOnly_pure _
  · refine failsOnly_bind (failsOnly_each fun h _ => ?_) fun _ => failsOnly_pure _
    unfold collectSnapshot
    refine failsOnly_bind (failsOnly_request _ _) fun _ => failsOnly_bind (failsOnly_request _ _) fun _ => ?_
    refine failsOnly_bind (failsOnly_request _ _) fun _ => failsOnly_bind (failsOnly_collect _) fun _ => ?_
    exact failsOnly_bind (failsOnly_collect _) fun _ => failsOnly_bind (failsOnly_request _ _) fun _ => failsOnly_pure _

theorem failsOnly_readbackOne (mode : ReadoutMode) (id : UInt32) : (readbackOne mode id).FailsOnly φ := by
  unfold readbackOne
  refine failsOnly_bind (failsOnly_request _ _) fun _ => failsOnly_bind (failsOnly_request _ _) fun _ => ?_
  refine failsOnly_bind (failsOnly_request _ _) fun _ => failsOnly_ite (fun _ => ?_) fun _ => ?_
  · exact failsOnly_bind (failsOnly_log _ _) fun _ => failsOnly_pure _
  · refine failsOnly_bind (failsOnly_request _ _) fun _ => failsOnly_bind (failsOnly_request _ _) fun _ => ?_
    exact failsOnly_bind (failsOnly_request _ _) fun _ => failsOnly_pure _

/-- An operation on a group checks its arguments first. -/
theorem checksFirst_perform (g : EndpointGroup) (o : Operation) : ChecksFirst (g.perform o) := by
  cases o with
  | readVersions => exact Or.inr failsOnly_readVersions
  | enable on partition =>
    refine checksFirst_ite (fun _ => checksFirst_fail _) fun _ => Or.inr ?_
    refine failsOnly_bind (failsOnly_each fun id _ => failsOnly_enableOne on partition id) fun _ => ?_
    exact failsOnly_bind (failsOnly_log _ _) fun _ => failsOnly_pure _
  | snapshot => exact Or.inr failsOnly_snapshot
  | readback mode => exact Or.inr (failsOnly_each fun id _ => failsOnly_readbackOne mode id)

end EndpointGroup

/-! ## Boards -/

namespace Board

variable {b : Board} {φ : Error → Prop}

theorem failsOnly_identify : b.identify.FailsOnly φ := by
  unfold identify
  refine failsOnly_bind (failsOnly_request _ _) fun _ => failsOnly_bind (failsOnly_request _ _) fun _ => ?_
  refine failsOnly_bind (failsOnly_request _ _) fun _ => failsOnly_bind (failsOnly_request _ _) fun _ => ?_
  refine failsOnly_bind (failsOnly_request _ _) fun _ => failsOnly_bind (failsOnly_request _ _) fun _ => ?_
  refine failsOnly_bind (failsOnly_request _ _) fun _ => failsOnly_bind (failsOnly_request _ _) fun _ => ?_
  refine failsOnly_bind (failsOnly_request _ _) fun _ => failsOnly_ite (fun _ => ?_) fun _ => ?_
  · exact failsOnly_bind (failsOnly_log _ _) fun _ => failsOnly_bind (failsOnly_log _ _) fun _ => failsOnly_pure _
  · exact failsOnly_bind (failsOnly_log _ _) fun _ => failsOnly_pure _

theorem failsOnly_pulse (path : NodePath) : (pulse path).FailsOnly φ :=
  failsOnly_bind (failsOnly_request _ _) fun _ => failsOnly_request _ _

theorem failsOnly_reset (kind : ResetKind) : (b.reset kind).FailsOnly φ := by
  unfold reset
  refine failsOnly_bind (failsOnly_log _ _) fun _ => failsOnly_bind (failsOnly_request _ _) fun _ => ?_
  refine failsOnly_bind (failsOnly_request _ _) fun _ => failsOnly_bind (failsOnly_settle _ _) fun _ => ?_
  refine failsOnly_ite (fun _ => ?_) fun _ => failsOnly_pure _
  refine failsOnly_bind (failsOnly_pulse _) fun _ => failsOnly_bind (failsOnly_pulse _) fun _ => ?_
  refine failsOnly_bind (failsOnly_pulse _) fun _ => failsOnly_bind (failsOnly_request _ _) fun _ => ?_
  refine failsOnly_bind (failsOnly_log _ _) fun _ => failsOnly_ite (fun _ => ?_) fun _ => failsOnly_log _ _
  refine failsOnly_bind (failsOnly_request _ _) fun _ => failsOnly_bind (failsOnly_pulse _) fun _ => ?_
  exact failsOnly_bind (failsOnly_request _ _) fun _ => failsOnly_log _ _

theorem failsOnly_pllStatus : b.pllStatus.FailsOnly φ := by
  unfold pllStatus
  refine failsOnly_bind (failsOnly_request _ _) fun _ => failsOnly_bind (failsOnly_readGroup _) fun _ => ?_
  refine failsOnly_bind (failsOnly_readGroup _) fun _ => failsOnly_bind (failsOnly_request _ _) fun _ => ?_
  refine failsOnly_bind (failsOnly_request _ _) fun _ => failsOnly_bind (failsOnly_collect _) fun _ => ?_
  exact failsOnly_bind (failsOnly_collect _) fun _ => failsOnly_pure _

theorem failsOnly_readTimestamp (hb : b.role = .overlord) : b.readTimestamp.FailsOnly φ := by
  unfold readTimestamp
  refine failsOnly_bind (failsOnly_require hb _) fun _ => failsOnly_bind (failsOnly_request _ _) fun _ => ?_
  exact failsOnly_bind (failsOnly_request _ _) fun _ => failsOnly_bind (failsOnly_request _ _) fun _ => failsOnly_pure _

/-- The first reading of the time stamp checks the role for all of it. -/
theorem checksFirst_syncTimestampAt (seconds : UInt64) : ChecksFirst (b.syncTimestampAt seconds) := by
  unfold syncTimestampAt
  by_cases hb : b.role = .overlord
  · refine Or.inr ?_
    refine failsOnly_bind (failsOnly_readTimestamp hb) fun _ => failsOnly_bind (failsOnly_log _ _) fun _ => ?_
    refine failsOnly_bind (failsOnly_request _ _) fun _ => failsOnly_bind (failsOnly_request _ _) fun _ => ?_
    refine failsOnly_bind (failsOnly_readTimestamp hb) fun _ => failsOnly_bind (failsOnly_log _ _) fun _ => ?_
    exact failsOnly_bind (failsOnly_request _ _) fun _ => failsOnly_bind (failsOnly_request _ _) fun _ => failsOnly_pure _
  · unfold readTimestamp require
    rw [if_neg hb]
    exact checksFirst_fail _

/-- Switching at an address that endpoints can have, or at the broadcast address, blames no argument. -/
theorem failsOnly_switchSfp (hb : b.role = .overlord) {address : UInt32} (haddress : address ≤ maxAddress) (on : Bool) :
    (b.switchSfp address on).FailsOnly φ := by
  unfold switchSfp
  refine failsOnly_bind (failsOnly_require hb _) fun _ => ?_
  refine failsOnly_ite (fun hlt => absurd hlt (UInt32.not_lt.mpr haddress)) fun _ => ?_
  refine failsOnly_bind (failsOnly_request _ _) fun _ => failsOnly_bind (failsOnly_request _ _) fun _ => ?_
  exact failsOnly_log _ _

theorem checksFirst_switchSfp (address : UInt32) (on : Bool) : ChecksFirst (b.switchSfp address on) := by
  by_cases hb : b.role = .overlord
  case neg => exact checksFirst_require fun h => absurd h hb
  by_cases haddress : address ≤ maxAddress
  · exact Or.inr (failsOnly_switchSfp hb haddress on)
  · refine checksFirst_require fun _ => ?_
    rw [if_pos (UInt32.not_le.mp haddress)]
    exact checksFirst_fail _

/-- An echo that does not come back is no fault of an argument. -/
theorem failsOnly_measureEcho (hb : b.role = .overlord) : b.measureEcho.FailsOnly fun e => ¬ e.BlamesArgument := by
  unfold measureEcho
  refine failsOnly_bind (failsOnly_require hb _) fun _ => ?_
  refine failsOnly_bind (failsOnly_request _ _) fun _ => failsOnly_bind (failsOnly_request _ _) fun _ => ?_
  refine failsOnly_bind (failsOnly_settle _ _) fun _ => failsOnly_bind (failsOnly_request _ _) fun _ => ?_
  refine failsOnly_bind (failsOnly_request _ _) fun _ => failsOnly_bind (failsOnly_request _ _) fun _ => ?_
  refine failsOnly_bind (failsOnly_request _ _) fun _ => failsOnly_bind (failsOnly_request _ _) fun _ => ?_
  refine failsOnly_ite (fun _ => failsOnly_fail nofun) fun _ => ?_
  refine failsOnly_bind (failsOnly_request _ _) fun _ => failsOnly_bind (failsOnly_request _ _) fun _ => ?_
  exact failsOnly_bind (failsOnly_log _ _) fun _ => failsOnly_pure _

theorem checksFirst_measureEcho : ChecksFirst b.measureEcho := by
  by_cases hb : b.role = .overlord
  · exact Or.inr (failsOnly_measureEcho hb)
  · exact checksFirst_require fun h => absurd h hb

theorem failsOnly_enableUplink : b.enableUplink.FailsOnly fun e => ¬ e.BlamesArgument := by
  refine failsOnly_bind b.failsOnly_lockUplink fun _ => ?_
  exact failsOnly_ite (fun _ => failsOnly_bind (failsOnly_log _ _) fun _ => failsOnly_pure _) fun _ => failsOnly_fail nofun

theorem checksFirst_readTimestamp : ChecksFirst b.readTimestamp := by
  by_cases hb : b.role = .overlord
  · exact Or.inr (failsOnly_readTimestamp hb)
  · exact checksFirst_require fun h => absurd h hb

theorem checksFirst_selectMux (slot : UInt32) : ChecksFirst (b.selectMux slot) := by
  by_cases hb : b.role = .fanout
  case neg => exact checksFirst_require fun h => absurd h hb
  by_cases hslot : slot < fanoutSlots
  · exact Or.inr (failsOnly_selectMux hb hslot)
  · rw [selectMux_of_not_slot hb (UInt32.not_lt.mp hslot)]
    exact checksFirst_fail _

/-- An operation on a board checks its arguments first, except a scan. -/
theorem runs_perform_blaming {s : Session} (hs : s.Clear) (b : Board) (o : Operation) (now : UInt64) :
    Runs now (b.perform o) s (fun _ _ _ => True) fun e t _ =>
      e.BlamesArgument → t = s ∨ o = .scanSlots ∧ b.role = .fanout ∧ Stranded s e t := by
  have hfirst : ∀ {α : Type} {p : Procedure Unit α}, ChecksFirst p → Runs now p s (fun _ _ _ => True) fun e t _ =>
      e.BlamesArgument → t = s ∨ o = .scanSlots ∧ b.role = .fanout ∧ Stranded s e t :=
    fun hp => (hp.runs now s).mono (fun _ _ _ h => h) fun _ _ _ h hblames => Or.inl (h hblames)
  cases o with
  | identify => exact hfirst (Or.inr failsOnly_identify)
  | reset kind => exact hfirst (Or.inr (failsOnly_reset kind))
  | status =>
    refine hfirst (Or.inr (failsOnly_bind (failsOnly_readGroup _) fun _ => ?_))
    exact failsOnly_bind (failsOnly_request _ _) fun _ => failsOnly_collect _
  | pllStatus => exact hfirst (Or.inr b.failsOnly_pllStatus)
  | enableUplink => exact hfirst (Or.inr failsOnly_enableUplink)
  | readTimestamp => exact hfirst checksFirst_readTimestamp
  | syncTimestamp => exact hfirst (p := b.syncTimestampAt now) (checksFirst_syncTimestampAt now)
  | syncTimestampAt seconds => exact hfirst (checksFirst_syncTimestampAt seconds)
  | switchSfp address on => exact hfirst (checksFirst_switchSfp address on)
  | measureEcho => exact hfirst checksFirst_measureEcho
  | selectMux slot => exact hfirst (checksFirst_selectMux slot)
  | scanSlots =>
    by_cases hb : b.role = .fanout
    · refine (runs_scanSlots_blaming hb hs).mono (fun _ _ _ h => h) fun _ _ _ h hblames => ?_
      exact Or.inr ⟨rfl, hb, h hblames⟩
    · exact hfirst (checksFirst_require fun h => absurd h hb)

end Board

/-! ## All operations -/

/-- **Arguments are turned down before anything is asked.**  When an operation on a group of endpoints or on a board,
with any arguments and on any device, blames an argument, the session is as it was: its log, its batch and all
registers.  There is one exception.  The scan of a fanout whose mux was on no slot goes through all slots, blames the
slot that the mux was on, and leaves the mux on the last. -/
theorem untouched_of_invalidArgument {s : Session} (hs : s.Clear) (now : UInt64) :
    (∀ (g : EndpointGroup) (o : EndpointGroup.Operation) (reason : String),
      ((g.perform o).run now s).result = .error (.invalidArgument reason) → ((g.perform o).run now s).state = s) ∧
    ∀ (b : Board) (o : Board.Operation) (reason : String),
      ((b.perform o).run now s).result = .error (.invalidArgument reason) →
        ((b.perform o).run now s).state = s ∨
          o = .scanSlots ∧ b.role = .fanout ∧
            Board.Stranded s (.invalidArgument reason) ((b.perform o).run now s).state := by
  refine ⟨fun g o reason hresult => ?_, fun b o reason hresult => ?_⟩
  · exact (runs_iff.mp ((g.checksFirst_perform o).runs now s)).2 _ hresult ⟨reason, rfl⟩
  · exact (runs_iff.mp (b.runs_perform_blaming hs o now)).2 _ hresult ⟨reason, rfl⟩

/-- No endpoint has such an address. -/
theorem switchSfp_above_range_untouched :
    let s := ofDevice (Device.overlord "OVLD")
    let o := (Board.perform ⟨"OVLD", .overlord, .none⟩ (.switchSfp 0x101 true)).run 0 s
    s.Clear ∧ o.result = .error (.invalidArgument "endpoint address 0x101 above 0x100") ∧ o.state = s := by
  intro s o
  have hs : s.Clear := rfl
  have hresult : o.result = .error (.invalidArgument "endpoint address 0x101 above 0x100") := rfl
  refine ⟨hs, hresult, ?_⟩
  rcases (untouched_of_invalidArgument hs 0).2 ⟨"OVLD", .overlord, .none⟩ (.switchSfp 0x101 true) _ hresult with
    hsame | ⟨hscan, -⟩
  · exact hsame
  · cases hscan

/-- The mux is on slot 9, which a fanout does not have.  The scan blames an argument after 33 dispatches, and leaves the
mux on slot 7. -/
theorem scan_strands_mux :
    let s := ofDevice ((Device.fanout "FO").withWord FanoutNode.mux 9)
    let o := (Board.scanSlots ⟨"FO", .fanout, .none⟩).run 0 s
    s.Clear ∧ o.result = .error (.invalidArgument "fanout slot 9 out of range 0-7") ∧
      s.dispatchCount = 0 ∧ o.state.dispatchCount = 33 ∧
      s.device.word? FanoutNode.mux = some 9 ∧ o.state.device.word? FanoutNode.mux = some 7 := by
  intro s o
  exact ⟨rfl, by decide +kernel, rfl, by decide +kernel, by decide +kernel, by decide +kernel⟩

end TimingFleet

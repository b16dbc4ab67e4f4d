import TimingFleet.Proofs.Board.Operations
import TimingFleet.Proofs.Operation.Basic
import TimingFleet.Proofs.Session.Leftovers

/-!
# Operations leave nothing waiting

An operation on a group of endpoints or on a board that begins with nothing waiting ends so, whether it succeeds or
not, with one exception: the device turns a request down because it lacks the node.  The operation then ends at
once, and what it has queued since its last dispatch stays in the batch.  Only a scan goes on: it sets the mux back,
and the dispatch of that write clears the batch.

* `EndpointGroup.Operation.MayLeave`, `Board.Operation.MayLeave`: the kind of accesses that can stay.
* `Board.Operation.afterRefusal`: what an operation asks after a request of it was turned down.

Main statement: `operations_leave_nothing`.
-/

namespace TimingFleet

open Procedure Session

/-! ## Groups of endpoints -/

namespace EndpointGroup

variable {g : EndpointGroup}

/-- The accesses that an operation can leave waiting when a request of it is turned down. -/
def Operation.MayLeave : Operation → Access → Prop
  | .enable _ _ => fun _ => True
  | .readback _ => fun _ => False
  | _ => Access.IsRead

theorem tidy_readVersions : Tidy Access.IsRead Clear g.readVersions Clear := by
  unfold readVersions
  refine tidy_bind (Tidy.of_waits (tidy_each fun id => ?_)) fun handles => ?_
  · exact tidy_bind (tidy_read _) fun _ => tidy_pure _
  refine tidy_bind tidy_dispatch fun _ => tidy_bind (tidy_each fun handle => ?_) fun versions => ?_
  · exact tidy_bind (tidy_wordValue _) fun _ => tidy_pure _
  · exact tidy_ite (tidy_pure _) (tidy_bind (tidy_log _ _) fun _ => tidy_pure _)

theorem tidy_enableOne (on : Bool) (partition id : UInt32) :
    Tidy (fun _ => True) Clear (enableOne on partition id) Clear := by
  have hwrite : ∀ path value, Tidy (fun _ => True) (Waits fun _ => True) (write path value) (Waits fun _ => True) :=
    fun _ _ => tidy_queue rfl trivial
  unfold enableOne
  have hrest : Tidy (fun _ => True) (Waits fun _ => True) (do
      write (node id EndpointNode.enable) (Device.flag on)
      write (node id EndpointNode.bufferEnable) (Device.flag on)
      dispatch
      log .debug ("Endpoint " ++ Text.Numeral.decimal id.toNat ++ if on then " enabled" else " disabled")) Clear :=
    tidy_bind (hwrite _ _) fun _ => tidy_bind (hwrite _ _) fun _ => tidy_bind tidy_dispatch fun _ => tidy_log _ _
  cases on with
  | true => exact Tidy.of_waits (tidy_bind (hwrite _ _) fun _ => hrest)
  | false => exact hrest.of_waits

theorem tidy_enable (on : Bool) (partition : UInt32) : Tidy (fun _ => True) Clear (g.enable on partition) Clear := by
  unfold enable
  refine tidy_ite (tidy_fail _) ?_
  refine tidy_bind (tidy_each fun id => tidy_enableOne on partition id) fun _ => ?_
  exact tidy_bind (tidy_log _ _) fun _ => tidy_pure _

theorem tidy_queueSnapshot (id : UInt32) :
    Tidy Access.IsRead (Waits Access.IsRead) (queueSnapshot id) (Waits Access.IsRead) := by
  unfold queueSnapshot
  refine tidy_bind (tidy_readBlock _ _) fun _ => tidy_bind (tidy_read _) fun _ => tidy_bind (tidy_read _) fun _ => ?_
  refine tidy_bind (tidy_readGroup _) fun _ => tidy_bind (tidy_readGroup _) fun _ => ?_
  exact tidy_bind (tidy_readBlock _ _) fun _ => tidy_pure _

theorem tidy_collectSnapshot {φ : Access → Prop} (h : SnapshotHandles) : Tidy φ Clear (collectSnapshot h) Clear := by
  unfold collectSnapshot
  refine tidy_bind (tidy_blockValue _) fun _ => tidy_bind (tidy_wordValue _) fun _ => ?_
  refine tidy_bind (tidy_wordValue _) fun _ => tidy_bind (tidy_collect _) fun _ => ?_
  exact tidy_bind (tidy_collect _) fun _ => tidy_bind (tidy_blockValue _) fun _ => tidy_pure _

theorem tidy_snapshot : Tidy Access.IsRead Clear g.snapshot Clear := by
  unfold snapshot
  refine tidy_bind (Tidy.of_waits (tidy_each tidy_queueSnapshot)) fun _ => tidy_bind tidy_dispatch fun _ => ?_
  exact tidy_bind (tidy_each tidy_collectSnapshot) fun _ => tidy_pure _

theorem tidy_readbackOne {φ : Access → Prop} (mode : ReadoutMode) (id : UInt32) :
    Tidy φ Clear (readbackOne mode id) Clear := by
  unfold readbackOne
  refine tidy_bind (tidy_readFirst _) fun _ => tidy_bind tidy_dispatch fun _ => ?_
  refine tidy_bind (tidy_wordValue _) fun available => ?_
  refine tidy_ite (tidy_bind (tidy_log _ _) fun _ => tidy_pure _) ?_
  refine tidy_bind (tidy_readBlockFirst _ _) fun _ => tidy_bind tidy_dispatch fun _ => ?_
  exact tidy_bind (tidy_blockValue _) fun _ => tidy_pure _

theorem tidy_perform (g : EndpointGroup) (o : Operation) : Tidy o.MayLeave Clear (g.perform o) Clear := by
  cases o with
  | readVersions => exact tidy_readVersions
  | enable on partition => exact tidy_enable on partition
  | snapshot => exact tidy_snapshot
  | readback mode => exact tidy_each (tidy_readbackOne mode)

end EndpointGroup

/-! ## Boards -/

namespace Board

variable {b : Board} {φ : Access → Prop}

/-- The accesses that an operation can leave waiting when a request of it is turned down. -/
def Operation.MayLeave : Operation → Access → Prop
  | .reset kind => fun _ => kind = .hard
  | .identify => Access.IsRead
  | .status => Access.IsRead
  | .pllStatus => Access.IsRead
  | .measureEcho => Access.IsRead
  | .scanSlots => Access.IsRead
  | _ => fun _ => False

theorem tidy_require (role : BoardRole) (operation : String) : Tidy φ Clear (b.require role operation) Clear :=
  tidy_ite (tidy_pure ()) (tidy_fail _)

theorem tidy_identify : Tidy Access.IsRead Clear b.identify Clear := by
  unfold identify
  refine tidy_bind (tidy_read _).of_waits fun _ => tidy_bind (tidy_read _) fun _ => ?_
  refine tidy_bind (tidy_read _) fun _ => tidy_bind (tidy_read _) fun _ => tidy_bind tidy_dispatch fun _ => ?_
  refine tidy_bind (tidy_wordValue _) fun _ => tidy_bind (tidy_wordValue _) fun _ => ?_
  refine tidy_bind (tidy_wordValue _) fun _ => tidy_bind (tidy_wordValue _) fun _ => ?_
  have hrest := fun (text : String) (identity : BoardIdentity) =>
    tidy_bind (φ := Access.IsRead) (P := Clear) (tidy_log .info text) fun _ => tidy_pure identity
  exact tidy_ite (tidy_bind (tidy_log _ _) fun _ => hrest _ _) (hrest _ _)

theorem tidy_pulse (hφ : ∀ a, φ a) (path : NodePath) : Tidy φ (Waits φ) (pulse path) (Waits φ) :=
  tidy_bind (tidy_queue rfl (hφ _)) fun _ => tidy_queue rfl (hφ _)

theorem tidy_reset (kind : ResetKind) : Tidy (fun _ => kind = .hard) Clear (b.reset kind) Clear := by
  unfold reset
  refine tidy_bind (tidy_log _ _) fun _ => tidy_bind (tidy_writeFirst _ _) fun _ => tidy_bind tidy_dispatch fun _ => ?_
  refine tidy_bind (tidy_settle _ _) fun _ => ?_
  by_cases hkind : kind = .hard
  · rw [if_pos hkind]
    have hpulse := fun path => tidy_pulse (φ := fun _ => kind = .hard) (fun _ => hkind) path
    refine tidy_bind (hpulse _).of_waits fun _ => tidy_bind (hpulse _) fun _ => tidy_bind (hpulse _) fun _ => ?_
    refine tidy_bind tidy_dispatch fun _ => tidy_bind (tidy_log _ _) fun _ => tidy_ite ?_ (tidy_log _ _)
    refine tidy_bind (Tidy.of_waits (tidy_queue rfl hkind)) fun _ => tidy_bind (hpulse _) fun _ => ?_
    exact tidy_bind tidy_dispatch fun _ => tidy_log _ _
  · rw [if_neg hkind]
    exact tidy_pure _

theorem tidy_status : Tidy Access.IsRead Clear b.status Clear := by
  unfold status
  exact tidy_bind (tidy_readGroup _).of_waits fun _ => tidy_bind tidy_dispatch fun _ => tidy_collect _

theorem tidy_pllStatus : Tidy Access.IsRead Clear b.pllStatus Clear := by
  unfold pllStatus
  refine tidy_bind (tidy_readBlock _ _).of_waits fun _ => tidy_bind (tidy_readGroup _) fun _ => ?_
  refine tidy_bind (tidy_readGroup _) fun _ => tidy_bind tidy_dispatch fun _ => ?_
  refine tidy_bind (tidy_blockValue _) fun _ => tidy_bind (tidy_collect _) fun _ => ?_
  exact tidy_bind (tidy_collect _) fun _ => tidy_pure _

theorem tidy_lockUplink : Tidy φ Clear b.lockUplink Clear := by
  unfold lockUplink
  refine tidy_bind (tidy_writeFirst _ _) fun _ => tidy_bind (tidy_write_of_hasWord _ _) fun _ => ?_
  refine tidy_bind tidy_dispatch fun _ => tidy_bind (tidy_settle _ _) fun _ => ?_
  refine tidy_bind (tidy_readFirst _) fun _ => tidy_bind tidy_dispatch fun _ => ?_
  exact tidy_bind (tidy_wordValue _) fun _ => tidy_bind (tidy_log _ _) fun _ => tidy_pure _

theorem tidy_enableUplink : Tidy φ Clear b.enableUplink Clear := by
  unfold enableUplink
  refine tidy_bind tidy_lockUplink fun _ => tidy_ite ?_ (tidy_fail _)
  exact tidy_bind (tidy_log _ _) fun _ => tidy_pure _

theorem tidy_readTimestamp : Tidy φ Clear b.readTimestamp Clear := by
  unfold readTimestamp
  refine tidy_bind (tidy_require _ _) fun _ => tidy_bind (tidy_readBlockFirst _ _) fun _ => ?_
  exact tidy_bind tidy_dispatch fun _ => tidy_bind (tidy_blockValue _) fun _ => tidy_pure _

theorem tidy_syncTimestampAt (seconds : UInt64) : Tidy φ Clear (b.syncTimestampAt seconds) Clear := by
  unfold syncTimestampAt
  refine tidy_bind tidy_readTimestamp fun _ => tidy_bind (tidy_log _ _) fun _ => ?_
  refine tidy_bind (tidy_writeBlockFirst _ _) fun _ => tidy_bind tidy_dispatch fun _ => ?_
  refine tidy_bind tidy_readTimestamp fun _ => tidy_bind (tidy_log _ _) fun _ => ?_
  exact tidy_bind (tidy_writeFirst _ _) fun _ => tidy_bind tidy_dispatch fun _ => tidy_pure _

theorem tidy_switchSfp (address : UInt32) (on : Bool) : Tidy φ Clear (b.switchSfp address on) Clear := by
  unfold switchSfp
  refine tidy_bind (tidy_require _ _) fun _ => tidy_ite (tidy_fail _) ?_
  exact tidy_bind (tidy_writeBlockFirst _ _) fun _ => tidy_bind tidy_dispatch fun _ => tidy_log _ _

theorem tidy_measureEcho : Tidy Access.IsRead Clear b.measureEcho Clear := by
  unfold measureEcho
  refine tidy_bind (tidy_require _ _) fun _ => tidy_bind (tidy_writeFirst _ _) fun _ => ?_
  refine tidy_bind tidy_dispatch fun _ => tidy_bind (tidy_settle _ _) fun _ => ?_
  refine tidy_bind (tidy_read _).of_waits fun _ => tidy_bind (tidy_readBlock _ _) fun _ => ?_
  refine tidy_bind (tidy_readBlock _ _) fun _ => tidy_bind tidy_dispatch fun _ => ?_
  refine tidy_bind (tidy_wordValue _) fun _ => tidy_ite (tidy_fail _) ?_
  refine tidy_bind (tidy_blockValue _) fun _ => tidy_bind (tidy_blockValue _) fun _ => ?_
  exact tidy_bind (tidy_log _ _) fun _ => tidy_pure _

theorem tidy_selectMux (slot : UInt32) : Tidy φ Clear (b.selectMux slot) Clear := by
  unfold selectMux
  refine tidy_bind (tidy_require _ _) fun _ => tidy_ite (tidy_fail _) ?_
  refine tidy_bind (tidy_writeFirst _ _) fun _ => tidy_bind tidy_dispatch fun _ => ?_
  exact tidy_bind (tidy_settle _ _) fun _ => tidy_log _ _

theorem tidy_scanSlot (slot : UInt32) : Tidy Access.IsRead Clear (b.scanSlot slot) Clear := by
  unfold scanSlot
  refine tidy_bind (tidy_selectMux slot) fun _ => tidy_bind (tidy_read _).of_waits fun _ => ?_
  refine tidy_bind (tidy_read _) fun _ => tidy_bind tidy_dispatch fun _ => tidy_bind tidy_lockUplink fun _ => ?_
  exact tidy_bind (tidy_wordValue _) fun _ => tidy_bind (tidy_wordValue _) fun _ => tidy_pure _

end Board

/-! ## Runs that leave nothing -/

/-- The device has turned down one request of the run and no other, with the error `e`; after it the run has asked
`rest`.  If that is nothing, what was queued since the last dispatch waits, and it is of the kind `φ`.  Otherwise nothing
waits. -/
def TurnedDownOnce (φ : Access → Prop) (rest : List Request) (e : Error) (t : Session) (tr : Trace Unit Session) : Prop :=
  ∃ before u r after, tr = before ++ (u, (), r) :: after ∧ Accepted before ∧ Accepted after ∧ u.TurnsDown r e ∧
    after.map (fun x => x.2.2) = rest ∧
    (rest = [] ∧ t = u ∧ t.batch.toList.map Pending.access = waiting tr ∧ t.Waits φ ∨ rest ≠ [] ∧ t.Clear)

/-- The run of `p` ends with nothing waiting and no request turned down, or it fails because the device has turned down
one request, after which it has asked `rest`. -/
def LeavesNothing {α : Type} (now : UInt64) (φ : Access → Prop) (rest : List Request) (p : Procedure Unit α)
    (s : Session) : Prop :=
  Runs now p s (fun _ t tr => t.Clear ∧ Accepted tr) fun e t tr => t.Clear ∧ Accepted tr ∨ TurnedDownOnce φ rest e t tr

section LeavesNothing

variable {α : Type} {φ : Access → Prop} {rest : List Request} {p : Procedure Unit α} {s t : Session} {e : Error}
  {tr : Trace Unit Session} {now : UInt64}

/-- A run that ends with the request that was turned down asks nothing after it. -/
theorem Session.EndsTurnedDown.once (h : EndsTurnedDown e t tr) (hwaits : t.Waits φ)
    (hbatch : t.batch.toList.map Pending.access = waiting tr) : TurnedDownOnce φ [] e t tr := by
  obtain ⟨before, r, rfl, hbefore, hr⟩ := h
  exact ⟨before, t, r, [], rfl, hbefore, accepted_nil, hr, rfl, Or.inl ⟨rfl, rfl, hbatch, hwaits⟩⟩

/-- What waits at the end of a run is what it has queued since its last dispatch. -/
theorem LeavesNothing.of_runs (hs : s.Clear) (h : Runs now p s (fun _ t tr => t.Clear ∧ Accepted tr)
    fun e t tr => t.Clear ∧ Accepted tr ∨
      (t.batch.toList.map Pending.access = waiting tr → TurnedDownOnce φ rest e t tr)) :
    LeavesNothing now φ rest p s := by
  have hwaiting := (runs_const_iff (R := fun t tr => t.batch.toList.map Pending.access = waiting tr)).mpr
    (waiting_asked hs now p)
  exact (h.and hwaiting).mono (fun _ _ _ ht => ht.1) fun _ _ _ ht => ht.1.imp_right fun hdown => hdown ht.2

theorem LeavesNothing.of_tidy (h : Tidy φ Clear p Clear) (hs : s.Clear) (now : UInt64) : LeavesNothing now φ [] p s :=
  .of_runs hs ((h now s hs).mono (fun _ _ _ ht => ht) fun _ _ _ ht => ht.imp_right fun hdown => hdown.1.once hdown.2)

end LeavesNothing

/-! ## The scan of a fanout -/

namespace Board

variable {b : Board} {now : UInt64} {s : Session} {m : UInt32}

/-- The device has the register of the mux. -/
def HasMux (s : Session) : Prop := s.device.registers.words.contains FanoutNode.mux = true

/-- The requests that set the mux of `s` back to the slot that it is on, if it is on one. -/
def muxRestore (s : Session) : List Request :=
  match s.device.word? FanoutNode.mux with
  | some slot => if slot < fanoutSlots then [.write FanoutNode.mux slot, .dispatch] else []
  | none => []

theorem muxRestore_of_lt (h : s.device.word? FanoutNode.mux = some m) (hm : m < fanoutSlots) :
    muxRestore s = [.write FanoutNode.mux m, .dispatch] := by
  simp [muxRestore, h, hm]

theorem muxRestore_of_le (h : s.device.word? FanoutNode.mux = some m) (hm : fanoutSlots ≤ m) : muxRestore s = [] := by
  simp [muxRestore, h, UInt32.not_lt.mpr hm]

/-- What an operation that begins in `s` asks after a request of it was turned down. -/
def Operation.afterRefusal (s : Session) : Operation → List Request
  | .scanSlots => muxRestore s
  | _ => []

/-- The mux is read, or the device has none. -/
theorem runs_readMux_of_clear (hb : b.role = .fanout) (hs : s.Clear) :
    Runs now b.readMux s
      (fun previous t tr => s.device.word? FanoutNode.mux = some previous ∧ HasMux t ∧ t.Clear ∧ Accepted tr)
      fun e t tr => t.Clear ∧ Accepted tr ∨ s.device.word? FanoutNode.mux = none ∧ EndsTurnedDown e t tr ∧ t.Clear := by
  unfold readMux
  refine runs_bind (runs_require hb ?_)
  by_cases hmux : HasMux s
  case neg =>
    have hnone : s.device.word? FanoutNode.mux = none :=
      Option.not_isSome_iff_eq_none.mp fun h => hmux (Std.ExtTreeMap.contains_eq_isSome_getElem?.trans h)
    refine runs_bind (runs_request (fun _ hok => absurd (hasWord_of_read hok) hmux) fun e he => Or.inr ?_)
    obtain ⟨hdown, hstate⟩ := turnsDown_of_error rfl he
    rw [show (Stations.answer () (.read FanoutNode.mux) s).state = s from hstate]
    exact ⟨hnone, hdown.ends, hs⟩
  obtain ⟨previous, hprevious⟩ :=
    Option.isSome_iff_exists.mp (Std.ExtTreeMap.contains_eq_isSome_getElem?.symm.trans hmux)
  have hword : s.device.word? FanoutNode.mux = some previous := hprevious
  have hread : Accepted [(s, (), .read FanoutNode.mux)] :=
    accepted_singleton (lacking?_of_ok (congrArg Outcome.result (if_pos hmux)))
  refine runs_bind (runs_read hmux ?_)
  refine runs_bind (runs_dispatch_or_refused _ (hs.toList_enqueue _) (.read (.nil _)) (fun _ t ht hbench => ?_)
    fun _ _ => Or.inl ⟨rfl, hread.append (accepted_singleton rfl)⟩)
  have hdev : t.device = s.device := congrArg Bench.device hbench
  have hmux' : HasMux t := by
    rw [HasMux, hdev]
    exact hmux
  refine runs_wordValue previous ?_ ⟨hword, hmux', ht, ?_⟩
  · rw [show t.slots = _ from congrArg Bench.slots hbench, Slots.word?_fillWord]
    exact (if_pos rfl).trans (congrArg (fun value => some (value.getD 0)) hword)
  · exact hread.append ((accepted_singleton rfl).append (accepted_singleton rfl))

/-- From `s` the mux was set back to `m` by one write and its dispatch, or `m` is no slot and nothing was asked. -/
def SetsBack (m : UInt32) (s t : Session) (tr : Trace Unit Session) : Prop :=
  (m < fanoutSlots ∧ t.Clear ∧ Accepted tr ∧ tr.map (fun x => x.2.2) = [.write FanoutNode.mux m, .dispatch]) ∨
    fanoutSlots ≤ m ∧ t = s ∧ tr = []

theorem SetsBack.clear {t : Session} {tr : Trace Unit Session} (h : SetsBack m s t tr) (hs : s.Clear) :
    t.Clear ∧ Accepted tr := by
  obtain ⟨-, ht, htr, -⟩ | ⟨-, rfl, rfl⟩ := h
  · exact ⟨ht, htr⟩
  · exact ⟨hs, accepted_nil⟩

/-- A fanout that has a mux turns no selection down. -/
theorem setsBack_selectMux (hb : b.role = .fanout) (hmux : HasMux s) :
    Runs now (b.selectMux m) s (fun _ t tr => SetsBack m s t tr) fun _ t tr => SetsBack m s t tr := by
  by_cases hm : m < fanoutSlots
  · have hset : ∀ t : Session, Accepted [(s, (), .write FanoutNode.mux m), (t, (), .dispatch)] := fun t =>
      (accepted_singleton (HasWord.lacking?_write hmux m)).append (accepted_singleton rfl)
    unfold selectMux
    refine runs_bind (runs_require hb ?_)
    rw [if_neg (UInt32.not_le.mpr hm)]
    refine runs_bind (runs_write hmux (runs_bind (runs_request (fun _ _ => ?_) fun _ _ => ?_)))
    · exact runs_bind (runs_settle (runs_log (Or.inl ⟨hm, Session.batch_dispatch _, hset _, rfl⟩)))
    · exact Or.inl ⟨hm, Session.batch_dispatch _, hset _, rfl⟩
  · have hle : fanoutSlots ≤ m := UInt32.not_lt.mp hm
    rw [selectMux_of_not_slot hb hle]
    exact runs_fail (Or.inr ⟨hle, rfl, rfl⟩)

/-- The mux is set back after any visits, and the failure of the visits stays. -/
theorem setsBack_setBack (hb : b.role = .fanout) (hmux : HasMux s) (visited : Except Error (List SlotScan)) :
    Runs now (b.setBack m visited) s (fun _ t tr => SetsBack m s t tr ∧ ∀ e, visited ≠ .error e)
      fun e t tr => SetsBack m s t tr ∧ ∀ e', visited = .error e' → e = e' := by
  unfold setBack
  refine runs_bind (runs_attempt ((setsBack_selectMux hb hmux).mono (fun _ t tr h => ?_) fun r t tr h => ?_))
  all_goals rw [← List.append_nil tr] at h
  · cases visited with
    | ok scans => exact runs_pure ⟨h, nofun⟩
    | error e => exact runs_fail ⟨h, fun _ he => Except.error.inj he⟩
  · cases visited with
    | ok scans => exact runs_fail ⟨h, nofun⟩
    | error e => exact runs_bind (runs_log (runs_fail ⟨h, fun _ he => Except.error.inj he⟩))

/-- Setting the mux back to where it was in `s`, after a visit to a slot that was turned down. -/
theorem SetsBack.once {φ : Access → Prop} {e : Error} {u t : Session} {tr tr' : Trace Unit Session}
    (h : SetsBack m u t tr') (hm : s.device.word? FanoutNode.mux = some m) (hdown : EndsTurnedDown e u tr)
    (hwaits : u.Waits φ) (hbatch : t.batch.toList.map Pending.access = waiting (tr ++ tr')) :
    TurnedDownOnce φ (muxRestore s) e t (tr ++ tr') := by
  obtain ⟨hslot, ht, htr', hasked⟩ | ⟨hslot, rfl, rfl⟩ := h
  · obtain ⟨before, r, rfl, hbefore, hr⟩ := hdown
    have hrest : muxRestore s = [.write FanoutNode.mux m, .dispatch] := muxRestore_of_lt hm hslot
    exact ⟨before, u, r, tr', List.append_assoc _ _ _, hbefore, htr', hr, hasked.trans hrest.symm,
      Or.inr ⟨by simp [hrest], ht⟩⟩
  · rw [muxRestore_of_le hm hslot]
    rw [List.append_nil] at hbatch ⊢
    exact hdown.once hwaits hbatch

/-- Visits to slots and setting the mux back to `m`, after a run that has turned nothing down. -/
theorem runs_visits {tr : Trace Unit Session} (hb : b.role = .fanout) {t : Session} (hmux : HasMux t) (ht : t.Clear)
    (htr : Accepted tr) (hm : s.device.word? FanoutNode.mux = some m) :
    Runs now ((each slots b.scanSlot).attempt >>= b.setBack m) t
      (fun _ v tr' => v.Clear ∧ Accepted (tr ++ tr'))
      fun e v tr' => v.Clear ∧ Accepted (tr ++ tr') ∨
        (v.batch.toList.map Pending.access = waiting (tr ++ tr') →
          TurnedDownOnce Access.IsRead (muxRestore s) e v (tr ++ tr')) := by
  have hkept : HasMux ((each slots b.scanSlot).run now t).state := (t.evolves_run now _).registers.words _ hmux
  have htidy : Procedure.Tidy Access.IsRead Clear (each slots b.scanSlot) Clear :=
    tidy_each fun slot => b.tidy_scanSlot slot
  have hvisits := (htidy now t ht).and (runs_const_iff (R := fun u _ => HasMux u).mpr hkept)
  have hclear : ∀ {u v : Session} {tr' tr''}, u.Clear → Accepted tr' → SetsBack m u v tr'' →
      v.Clear ∧ Accepted (tr ++ (tr' ++ tr'')) :=
    fun hu htr' hset => ⟨(hset.clear hu).1, htr.append (htr'.append (hset.clear hu).2)⟩
  refine runs_bind (runs_attempt (hvisits.mono (fun scans u tr' h => ?_) fun e u tr' h => ?_))
  · obtain ⟨⟨hu, htr'⟩, hmux'⟩ := h
    exact (setsBack_setBack hb hmux' _).mono (fun _ _ _ h => hclear hu htr' h.1)
      fun _ _ _ h => Or.inl (hclear hu htr' h.1)
  · obtain ⟨hfail, hmux'⟩ := h
    refine (setsBack_setBack hb hmux' _).mono (fun _ _ _ h => absurd rfl (h.2 e)) fun e' v tr'' h => ?_
    obtain ⟨hset, he⟩ := h
    obtain rfl := he e rfl
    obtain ⟨hu, htr'⟩ | ⟨hdown, hwaits⟩ := hfail
    · exact Or.inl (hclear hu htr' hset)
    · rw [← List.append_assoc]
      exact Or.inr fun hbatch => hset.once hm (hdown.append htr) hwaits hbatch

/-- **A scan** sets the mux back after a request that was turned down. -/
theorem scanSlots_leavesNothing (hs : s.Clear) :
    LeavesNothing now Access.IsRead (muxRestore s) b.scanSlots s := by
  rw [scanSlots_eq]
  by_cases hb : b.role = .fanout
  case neg =>
    unfold readMux require
    rw [if_neg hb]
    exact runs_fail (Or.inl ⟨hs, accepted_nil⟩)
  refine .of_runs hs (runs_bind ((runs_readMux_of_clear hb hs).mono (fun m t tr h => ?_) fun e t tr h => ?_))
  · obtain ⟨hm, hmux, ht, htr⟩ := h
    exact runs_visits hb hmux ht htr hm
  · refine h.imp_right fun hdown hbatch => ?_
    obtain ⟨hnone, hends, ht⟩ := hdown
    have hrest : muxRestore s = [] := by rw [muxRestore, hnone]
    exact hrest ▸ hends.once ht.waits hbatch

theorem perform_leavesNothing (b : Board) (o : Operation) (hs : s.Clear) :
    LeavesNothing now o.MayLeave (o.afterRefusal s) (b.perform o) s := by
  cases o with
  | identify => exact .of_tidy tidy_identify hs now
  | reset kind => exact .of_tidy (tidy_reset kind) hs now
  | status => exact .of_tidy b.tidy_status hs now
  | pllStatus => exact .of_tidy b.tidy_pllStatus hs now
  | enableUplink => exact .of_tidy tidy_enableUplink hs now
  | readTimestamp => exact .of_tidy tidy_readTimestamp hs now
  | syncTimestamp => exact .of_tidy (fun now => tidy_syncTimestampAt now now) hs now
  | syncTimestampAt seconds => exact .of_tidy (tidy_syncTimestampAt seconds) hs now
  | switchSfp address on => exact .of_tidy (tidy_switchSfp address on) hs now
  | measureEcho => exact .of_tidy tidy_measureEcho hs now
  | selectMux slot => exact .of_tidy (tidy_selectMux slot) hs now
  | scanSlots => exact scanSlots_leavesNothing hs

end Board

/-! ## All operations -/

/-- **Operations leave nothing waiting.**  An operation on any group of endpoints or any board, with any arguments, on any
device with or without faults, that begins with nothing waiting ends so, unless the device turns a request of it down
because it lacks the node.  Then it turns down no other, and the operation fails with that error.  A scan of a fanout whose
mux was on a slot goes on to set the mux back, which leaves nothing waiting either.  Every other operation, and a scan
whose mux was on none, has ended with the request that was turned down, and what it has queued since its last dispatch
waits: only reads, except for the enabling of endpoints and a hard reset, and nothing at all for most operations
(`MayLeave`). -/
theorem operations_leave_nothing {s : Session} (hs : s.Clear) (now : UInt64) :
    (∀ (g : EndpointGroup) (o : EndpointGroup.Operation), LeavesNothing now o.MayLeave [] (g.perform o) s) ∧
      ∀ (b : Board) (o : Board.Operation), LeavesNothing now o.MayLeave (o.afterRefusal s) (b.perform o) s :=
  ⟨fun g o => .of_tidy (g.tidy_perform o) hs now, fun b o => b.perform_leavesNothing o hs⟩

/-- A device that has a mux and link flags but no uplink endpoint. -/
def withoutUplink : Device :=
  (((Device.endpoint "FAN" []).withWord FanoutNode.mux 3).withWord FanoutNode.cdrLossOfLock 0).withWord
    FanoutNode.sfpLossOfSignal 0

/-- A scan of it is turned down after it has selected the first slot and read the flags.  It sets the mux back, and
nothing waits. -/
theorem refused_scan_leaves_nothing :
    let o := (Board.perform ⟨"FAN", .fanout, .none⟩ .scanSlots).run 0 (ofDevice withoutUplink)
    (ofDevice withoutUplink).Clear ∧ o.result = .error (.nodeNotFound "FAN" "fanout.ept.csr.ctrl.ep_en") ∧
      o.state.Clear ∧ o.state.device.word? FanoutNode.mux = some 3 := by
  intro o
  have hs : (ofDevice withoutUplink).Clear := rfl
  have herror : o.result = .error (.nodeNotFound "FAN" "fanout.ept.csr.ctrl.ep_en") := by decide +kernel
  have hmux : (ofDevice withoutUplink).device.word? FanoutNode.mux = some 3 := by decide +kernel
  refine ⟨hs, herror, ?_, by decide +kernel⟩
  obtain ⟨ht, -⟩ | ⟨-, -, -, -, -, -, -, -, -, ⟨hrest, -⟩ | ⟨-, ht⟩⟩ :=
    (runs_iff.mp ((operations_leave_nothing hs 0).2 ⟨"FAN", .fanout, .none⟩ .scanSlots)).2 _ herror
  · exact ht
  · simp [Board.Operation.afterRefusal, Board.muxRestore, hmux, fanoutSlots] at hrest
  · exact ht

/-- A device can have the partition of an endpoint but no enable bit.  The endpoint is found, enabling it fails with
the partition still queued, and the next dispatch sets it. -/
theorem refused_enable_leaves_write :
    let node := (EndpointNode.base 5).join EndpointNode.partition
    let s := ofDevice ((Device.endpoint "EPT" []).withWord node 0)
    let o := (EndpointGroup.perform ⟨"EPT", [5]⟩ (.enable true 2)).run 0 s
    ((EndpointGroup.resolve "EPT" [5]).run 0 s).result = .ok ⟨"EPT", [5]⟩ ∧ s.Clear ∧
      o.result = .error (.nodeNotFound "EPT" "endpoint5.csr.ctrl.ep_en") ∧ ¬ o.state.Clear ∧
      o.state.device.word? node = some 0 ∧ o.state.dispatch.state.device.word? node = some 2 := by
  intro node s o
  refine ⟨rfl, rfl, rfl, ?_, by decide +kernel, by decide +kernel⟩
  unfold Clear
  decide +kernel

end TimingFleet

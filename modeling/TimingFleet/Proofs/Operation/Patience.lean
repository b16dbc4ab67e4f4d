import TimingFleet.Proofs.Fleet.Places
import TimingFleet.Proofs.Operation.Basic
import TimingFleet.Proofs.Session.Patience

/-!
# Operations ask for values once they are there

Operations hold handles of words, of blocks and of whole groups of registers, some over two dispatches, and other
operations may wait in the batch with theirs.  None of this makes them ask for a value too early: each value that an
operation on a group of endpoints, a board or a fleet asks for has been filled by a dispatch of that operation that
succeeded.
-/

namespace TimingFleet

open Procedure

/-- An argument that is blamed is there. -/
theorem not_isNotDispatched_invalidArgument (reason : String) : ¬ (Error.invalidArgument reason).IsNotDispatched :=
  fun ⟨_, h⟩ => nomatch h

/-! ## Groups of endpoints -/

namespace EndpointGroup

variable {l : Ledger}

theorem patient_missingIds (ids : List UInt32) : (missingIds ids).PatientFrom l := by
  induction ids with
  | nil => trivial
  | cons id ids ih => exact patient_bind (patient_hasNode fun _ => patient_then ih fun _ _ _ => trivial)

theorem patient_resolve (device : String) (ids : List UInt32) : (resolve device ids).PatientFrom l := by
  unfold resolve
  refine patient_then (patient_missingIds ids) fun missing l' _ => patient_ite (fun _ => ?_) fun _ => ?_
  · exact patient_fail fun ⟨_, h⟩ => nomatch h
  · exact patient_bind (patient_log trivial)

theorem patient_readVersions (g : EndpointGroup) : g.readVersions.PatientFrom l := by
  unfold readVersions
  have hread : ∀ id, Promises (do
      let h ← read (node id EndpointNode.version)
      return (id, h)) fun x op => op = .read x.2 := fun id l =>
    patient_bind (patient_read fun _ => patient_pure ⟨List.subset_cons_self _ _, fun _ hop => hop ▸ List.mem_cons_self⟩)
  refine patient_bind ((promises_each hread l).mono fun handles l' _ ⟨_, hqueued⟩ => ?_)
  refine patient_bind (patient_dispatch (patient_then (patient_each fun x hx l'' hl'' => ?_) fun versions _ _ => ?_))
  · have hfilled := hl'' (List.mem_append_left _ (hqueued _ ⟨x, hx, rfl⟩))
    exact patient_bind (patient_wordValue hfilled fun _ => trivial)
  · exact patient_ite (fun _ => trivial) fun _ => patient_bind (patient_log trivial)

theorem patient_enableOne (on : Bool) (partition id : UInt32) : (enableOne on partition id).PatientFrom l := by
  unfold enableOne
  have hrest : (do
      write (node id EndpointNode.enable) (Device.flag on)
      write (node id EndpointNode.bufferEnable) (Device.flag on)
      dispatch
      log .debug ("Endpoint " ++ Text.Numeral.decimal id.toNat ++ if on then " enabled" else " disabled")).PatientFrom l :=
    patient_bind (patient_write (patient_bind (patient_write (patient_bind (patient_dispatch (patient_log trivial))))))
  cases on with
  | true => exact patient_bind (patient_write hrest)
  | false => exact hrest

theorem patient_enable (g : EndpointGroup) (on : Bool) (partition : UInt32) : (g.enable on partition).PatientFrom l := by
  unfold enable
  refine patient_ite (fun _ => patient_fail (not_isNotDispatched_invalidArgument _)) fun _ => ?_
  refine patient_then (patient_each fun id _ _ _ => patient_enableOne on partition id) fun _ _ _ => ?_
  exact patient_bind (patient_log trivial)

/-- The operations whose values the handles of a snapshot stand for. -/
inductive SnapshotHandles.Needs (h : SnapshotHandles) : Pending → Prop
  | timestamp : h.Needs (.readBlock h.timestamp 2)
  | eventCounter : h.Needs (.read h.eventCounter)
  | bufferCount : h.Needs (.read h.bufferCount)
  | control {x : String × WordHandle} (hx : x ∈ h.control) : h.Needs (.read x.2)
  | status {x : String × WordHandle} (hx : x ∈ h.status) : h.Needs (.read x.2)
  | counters : h.Needs (.readBlock h.counters counterCount)

theorem promises_queueSnapshot (id : UInt32) : Promises (queueSnapshot id) SnapshotHandles.Needs := by
  intro l
  unfold queueSnapshot
  refine patient_bind (patient_readBlock fun timestamp => patient_bind (patient_read fun eventCounter =>
    patient_bind (patient_read fun bufferCount => ?_)))
  refine patient_bind ((promises_readGroup _ _).mono fun control l' _ ⟨hfirst, hcontrol⟩ => ?_)
  refine patient_bind ((promises_readGroup _ _).mono fun status l'' _ ⟨hsecond, hstatus⟩ => ?_)
  have hkept : ∀ op, op ∈ l'.queued → op ∈ l''.queued := fun op hop => hsecond hop
  refine patient_bind (patient_readBlock fun counters => patient_pure ⟨fun op hop => ?_, fun op hop => ?_⟩)
  · exact List.mem_cons_of_mem _ (hkept op (hfirst (by simp [hop])))
  · cases hop with
    | timestamp => exact List.mem_cons_of_mem _ (hkept _ (hfirst (by simp)))
    | eventCounter => exact List.mem_cons_of_mem _ (hkept _ (hfirst (by simp)))
    | bufferCount => exact List.mem_cons_of_mem _ (hkept _ (hfirst (by simp)))
    | control hx => exact List.mem_cons_of_mem _ (hkept _ (hcontrol _ ⟨_, hx, rfl⟩))
    | status hx => exact List.mem_cons_of_mem _ (hstatus _ ⟨_, hx, rfl⟩)
    | counters => exact List.mem_cons_self

theorem patient_collectSnapshot {h : SnapshotHandles} (hfilled : ∀ op, h.Needs op → op ∈ l.filled) :
    (collectSnapshot h).PatientFrom l := by
  unfold collectSnapshot
  refine patient_bind (patient_blockValue (hfilled _ .timestamp) fun _ => ?_)
  refine patient_bind (patient_wordValue (hfilled _ .eventCounter) fun _ => ?_)
  refine patient_bind (patient_wordValue (hfilled _ .bufferCount) fun _ => ?_)
  refine patient_then (patient_collect fun x hx => hfilled _ (.control hx)) fun _ l' hl' => ?_
  refine patient_then (patient_collect fun x hx => hl' (hfilled _ (.status hx))) fun _ l'' hl'' => ?_
  exact patient_bind (patient_blockValue (hl'' (hl' (hfilled _ .counters))) fun _ => trivial)

theorem patient_snapshot (g : EndpointGroup) : g.snapshot.PatientFrom l := by
  unfold snapshot
  refine patient_bind ((promises_each promises_queueSnapshot l).mono fun handles l' _ ⟨_, hqueued⟩ => ?_)
  refine patient_bind (patient_dispatch (patient_then (patient_each fun h hh l'' hl'' => ?_) fun _ _ _ => trivial))
  exact patient_collectSnapshot fun op hop => hl'' (List.mem_append_left _ (hqueued op ⟨h, hh, hop⟩))

theorem patient_readbackOne (mode : ReadoutMode) (id : UInt32) : (readbackOne mode id).PatientFrom l := by
  unfold readbackOne
  refine patient_bind (patient_read fun count => patient_bind (patient_dispatch ?_))
  refine patient_bind (patient_wordValue List.mem_cons_self fun available => patient_ite (fun _ => ?_) fun _ => ?_)
  · exact patient_bind (patient_log trivial)
  · refine patient_bind (patient_readBlock fun data => patient_bind (patient_dispatch ?_))
    exact patient_bind (patient_blockValue List.mem_cons_self fun _ => trivial)

theorem patient_perform (g : EndpointGroup) (o : Operation) : (g.perform o).PatientFrom l := by
  cases o with
  | readVersions => exact g.patient_readVersions
  | enable on partition => exact g.patient_enable on partition
  | snapshot => exact g.patient_snapshot
  | readback mode => exact patient_each fun id _ _ _ => patient_readbackOne mode id

end EndpointGroup

/-! ## Boards -/

namespace Board

variable {l : Ledger}

theorem patient_require {b : Board} {role : BoardRole} {operation : String} {K : Unit → Ledger → Prop} (h : K () l) :
    (b.require role operation).Patient K l :=
  patient_ite (fun _ => patient_pure h) fun _ => patient_fail (not_isNotDispatched_invalidArgument _)

theorem patient_identify (b : Board) : b.identify.PatientFrom l := by
  unfold identify
  refine patient_bind (patient_read fun version => patient_bind (patient_read fun boardType => ?_))
  refine patient_bind (patient_read fun carrierType => patient_bind (patient_read fun designType => ?_))
  refine patient_bind (patient_dispatch ?_)
  refine patient_bind (patient_wordValue (by simp) fun _ => patient_bind (patient_wordValue (by simp) fun _ => ?_))
  refine patient_bind (patient_wordValue (by simp) fun _ => patient_bind (patient_wordValue (by simp) fun _ => ?_))
  exact patient_ite (fun _ => patient_bind (patient_log (patient_bind (patient_log trivial))))
    fun _ => patient_bind (patient_log trivial)

theorem patient_pulse {path : NodePath} {K : Unit → Ledger → Prop} (h : K () l) : (pulse path).Patient K l :=
  patient_bind (patient_write (patient_write h))

theorem patient_reset (b : Board) (kind : ResetKind) : (b.reset kind).PatientFrom l := by
  unfold reset
  refine patient_bind (patient_log (patient_bind (patient_write (patient_bind (patient_dispatch ?_)))))
  refine patient_bind (patient_settle (patient_ite (fun _ => ?_) fun _ => trivial))
  refine patient_bind (patient_pulse (patient_bind (patient_pulse (patient_bind (patient_pulse ?_)))))
  refine patient_bind (patient_dispatch (patient_bind (patient_log (patient_ite (fun _ => ?_) fun _ => trivial))))
  refine patient_bind (patient_write (patient_bind (patient_pulse ?_)))
  exact patient_bind (patient_dispatch (patient_log trivial))

theorem patient_status (b : Board) : b.status.PatientFrom l := by
  unfold status
  refine patient_bind ((promises_readGroup _ l).mono fun handles l' _ ⟨_, hqueued⟩ => ?_)
  refine patient_bind (patient_dispatch (patient_collect fun x hx => ?_))
  exact List.mem_append_left _ (hqueued _ ⟨x, hx, rfl⟩)

theorem patient_pllStatus (b : Board) : b.pllStatus.PatientFrom l := by
  unfold pllStatus
  refine patient_bind (patient_readBlock fun designId => ?_)
  refine patient_bind ((promises_readGroup _ _).mono fun status l' _ ⟨hfirst, hstatus⟩ => ?_)
  refine patient_bind ((promises_readGroup _ _).mono fun sticky l'' _ ⟨hsecond, hsticky⟩ => ?_)
  refine patient_bind (patient_dispatch ?_)
  have hfilled : ∀ op, op ∈ l''.queued → op ∈ l''.queued ++ l''.filled := fun op => List.mem_append_left _
  refine patient_bind (patient_blockValue (hfilled _ (hsecond (hfirst List.mem_cons_self))) fun _ => ?_)
  refine patient_then (patient_collect fun x hx => hfilled _ (hsecond (hstatus _ ⟨x, hx, rfl⟩))) fun _ l₁ hl₁ => ?_
  exact patient_then (patient_collect fun x hx => hl₁ (hfilled _ (hsticky _ ⟨x, hx, rfl⟩))) fun _ _ _ => trivial

theorem patient_lockUplink (b : Board) : b.lockUplink.PatientFrom l := by
  unfold lockUplink
  refine patient_bind (patient_write (patient_bind (patient_write (patient_bind (patient_dispatch ?_)))))
  refine patient_bind (patient_settle (patient_bind (patient_read fun state => patient_bind (patient_dispatch ?_))))
  exact patient_bind (patient_wordValue List.mem_cons_self fun _ => patient_bind (patient_log trivial))

theorem patient_enableUplink (b : Board) : b.enableUplink.PatientFrom l := by
  unfold enableUplink
  refine patient_then b.patient_lockUplink fun code l' _ => patient_ite (fun _ => ?_) fun _ => ?_
  · exact patient_bind (patient_log trivial)
  · exact patient_fail fun ⟨_, h⟩ => nomatch h

theorem patient_readTimestamp (b : Board) : b.readTimestamp.PatientFrom l := by
  unfold readTimestamp
  refine patient_bind (patient_require (patient_bind (patient_readBlock fun words => ?_)))
  refine patient_bind (patient_dispatch ?_)
  exact patient_bind (patient_blockValue List.mem_cons_self fun _ => trivial)

theorem patient_syncTimestampAt (b : Board) (seconds : UInt64) : (b.syncTimestampAt seconds).PatientFrom l := by
  unfold syncTimestampAt
  refine patient_then b.patient_readTimestamp fun _ _ _ => patient_bind (patient_log ?_)
  refine patient_bind (patient_writeBlock (patient_bind (patient_dispatch ?_)))
  refine patient_then b.patient_readTimestamp fun _ _ _ => patient_bind (patient_log ?_)
  exact patient_bind (patient_write (patient_bind (patient_dispatch trivial)))

theorem patient_switchSfp (b : Board) (address : UInt32) (on : Bool) : (b.switchSfp address on).PatientFrom l := by
  unfold switchSfp
  refine patient_bind (patient_require (patient_ite (fun _ => ?_) fun _ => ?_))
  · exact patient_fail (not_isNotDispatched_invalidArgument _)
  · exact patient_bind (patient_writeBlock (patient_bind (patient_dispatch (patient_log trivial))))

theorem patient_measureEcho (b : Board) : b.measureEcho.PatientFrom l := by
  unfold measureEcho
  refine patient_bind (patient_require (patient_bind (patient_write (patient_bind (patient_dispatch ?_)))))
  refine patient_bind (patient_settle (patient_bind (patient_read fun finished => ?_)))
  refine patient_bind (patient_readBlock fun sent => patient_bind (patient_readBlock fun received => ?_))
  refine patient_bind (patient_dispatch (patient_bind (patient_wordValue (by simp) fun _ => ?_)))
  refine patient_ite (fun _ => patient_fail fun ⟨_, h⟩ => nomatch h) fun _ => ?_
  refine patient_bind (patient_blockValue (List.mem_cons_of_mem _ List.mem_cons_self) fun _ => ?_)
  refine patient_bind (patient_blockValue List.mem_cons_self fun _ => ?_)
  exact patient_bind (patient_log trivial)

theorem patient_selectMux (b : Board) (slot : UInt32) : (b.selectMux slot).PatientFrom l := by
  unfold selectMux
  refine patient_bind (patient_require (patient_ite (fun _ => ?_) fun _ => ?_))
  · exact patient_fail (not_isNotDispatched_invalidArgument _)
  · refine patient_bind (patient_write (patient_bind (patient_dispatch ?_)))
    exact patient_bind (patient_settle (patient_log trivial))

/-- The flags are read in one batch and taken after the uplink endpoint has been locked in two others. -/
theorem patient_scanSlot (b : Board) (slot : UInt32) : (b.scanSlot slot).PatientFrom l := by
  unfold scanSlot
  refine patient_then (b.patient_selectMux slot) fun _ _ _ => ?_
  refine patient_bind (patient_read fun lock => patient_bind (patient_read fun signal => ?_))
  refine patient_bind (patient_dispatch ?_)
  refine patient_then b.patient_lockUplink fun _ l' hl' => ?_
  refine patient_bind (patient_wordValue (hl' (by simp)) fun _ => ?_)
  exact patient_bind (patient_wordValue (hl' (by simp)) fun _ => trivial)

theorem patient_scanSlots (b : Board) : b.scanSlots.PatientFrom l := by
  unfold scanSlots
  refine patient_bind (patient_require (patient_bind (patient_read fun current => patient_bind (patient_dispatch ?_))))
  refine patient_bind (patient_wordValue List.mem_cons_self fun previous => ?_)
  have hscan : ∀ l, (each slots b.scanSlot).PatientFrom l := fun l =>
    patient_each fun slot _ _ _ => b.patient_scanSlot slot
  have hrestore : ∀ l, (b.selectMux previous).PatientFrom l := fun l => b.patient_selectMux previous
  refine patient_bind (patient_attempt ((hscan _).mono fun scans l₁ _ _ => ?_) fun e l₁ he _ => ?_)
  · exact patient_bind (patient_attempt ((hrestore l₁).mono fun _ _ _ _ => trivial) fun _ _ hr _ => patient_fail hr)
  · refine patient_bind (patient_attempt ((hrestore l₁).mono fun _ _ _ _ => patient_fail he) fun _ _ _ _ => ?_)
    exact patient_bind (patient_log (patient_fail he))

theorem patient_perform (b : Board) (o : Operation) : (b.perform o).PatientFrom l := by
  cases o with
  | identify => exact b.patient_identify
  | reset kind => exact b.patient_reset kind
  | status => exact b.patient_status
  | pllStatus => exact b.patient_pllStatus
  | enableUplink => exact b.patient_enableUplink
  | readTimestamp => exact b.patient_readTimestamp
  | syncTimestamp => exact fun now => b.patient_syncTimestampAt now
  | syncTimestampAt seconds => exact b.patient_syncTimestampAt seconds
  | switchSfp address on => exact b.patient_switchSfp address on
  | measureEcho => exact b.patient_measureEcho
  | selectMux slot => exact b.patient_selectMux slot
  | scanSlots => exact b.patient_scanSlots

end Board

/-! ## Fleets -/

namespace Fleet

open FleetSessions

variable {α β : Type} {p : Procedure Seat α}

/-- From any sessions, at each seat the run asks for values that it has dispatched, and it does not fail for a value
that is not there. -/
def Punctual (p : Procedure Seat α) : Prop := ∀ now s, Runs now p s (fun _ _ tr => ∀ seat, Timely (askedAt seat tr))
  fun e _ tr => ¬ e.IsNotDispatched ∧ ∀ seat, Timely (askedAt seat tr)

theorem punctual_pure (a : α) : Punctual (pure a) := fun _ _ => runs_pure fun _ => timelyAfter_nil []

theorem punctual_fail {e : Error} (h : ¬ e.IsNotDispatched) : Punctual (.fail e : Procedure Seat α) :=
  fun _ _ => runs_fail ⟨h, fun _ => timelyAfter_nil []⟩

theorem punctual_log (level : Level) (text : String) : Punctual (log level text) :=
  fun _ _ => runs_log fun _ => timelyAfter_nil []

theorem punctual_settle (what : String) (duration : Duration) : Punctual (settle what duration) :=
  fun _ _ => runs_settle fun _ => timelyAfter_nil []

/-- After a timely part the whole is timely. -/
theorem Punctual.after (hp : Punctual p) {tr : Trace Seat FleetSessions} (htr : ∀ seat, Timely (askedAt seat tr))
    (now : UInt64) (s : FleetSessions) : Runs now p s (fun _ _ tr' => ∀ seat, Timely (askedAt seat (tr ++ tr')))
      fun e _ tr' => ¬ e.IsNotDispatched ∧ ∀ seat, Timely (askedAt seat (tr ++ tr')) := by
  have happend : ∀ tr', (∀ seat, Timely (askedAt seat tr')) → ∀ seat, Timely (askedAt seat (tr ++ tr')) := by
    intro tr' htr' seat
    rw [askedAt_append]
    exact (htr seat).append (htr' seat)
  exact (hp now s).mono (fun _ _ tr' h => happend tr' h) fun _ _ tr' h => ⟨h.1, happend tr' h.2⟩

theorem punctual_bind {f : α → Procedure Seat β} (hp : Punctual p) (hf : ∀ a, Punctual (f a)) : Punctual (p >>= f) :=
  fun now s => runs_bind ((hp now s).mono (fun a t _ htr => (hf a).after htr now t) fun _ _ _ h => h)

/-- What follows an attempt may rely on the error, if there is one. -/
theorem punctual_attempt_bind {f : Except Error α → Procedure Seat β} (hp : Punctual p)
    (hok : ∀ a, Punctual (f (.ok a))) (herr : ∀ e, ¬ e.IsNotDispatched → Punctual (f (.error e))) :
    Punctual (p.attempt >>= f) := by
  intro now s
  refine runs_bind (runs_attempt ((hp now s).mono (fun a t _ htr => ?_) fun e t _ ⟨he, htr⟩ => ?_))
  · exact (hok a).after htr now t
  · exact (herr e he).after htr now t

theorem punctual_ite {c : Prop} [Decidable c] {q : Procedure Seat α} (hp : Punctual p) (hq : Punctual q) :
    Punctual (if c then p else q) := by
  split_ifs
  · exact hp
  · exact hq

theorem punctual_each {items : List β} {f : β → Procedure Seat α} (h : ∀ b, Punctual (f b)) :
    Punctual (each items f) := by
  induction items with
  | nil => exact punctual_pure []
  | cons b items ih => exact punctual_bind (h b) fun _ => punctual_bind ih fun _ => punctual_pure _

/-- **At one seat** a patient procedure is punctual. -/
theorem punctual_atStation {p : Procedure Unit α} (hp : p.PatientFrom {}) (seat : Seat) :
    Punctual (p.atStation seat) := by
  intro now s
  cases hu : s.session? seat with
  | none =>
    have hnothing : ∀ tr : Trace Seat FleetSessions, (∀ x ∈ tr, x.1 = s ∧ x.2.1 = seat) →
        ∀ other, Timely (askedAt other tr) := by
      intro tr htr other
      rw [askedAt_of_ne]
      · exact timelyAfter_nil []
      · intro x hx
        obtain ⟨hs, hseat⟩ := htr x hx
        by_cases ho : seat = other
        · exact Or.inr (by rw [hs, ← ho, hu])
        · exact Or.inl (hseat ▸ ho)
    refine (runs_atStation_of_none hu hp.failsOnly fun n => not_isNotDispatched_invalidArgument _).mono
      (fun _ _ tr h => hnothing tr h.2) fun _ _ tr h => ⟨h.1, hnothing tr h.2.2⟩
  | some u =>
    have hseats : ∀ tr : Trace Unit Session, Timely tr →
        ∀ other, Timely (askedAt other (tr.map fun y => (s.put seat y.1, seat, y.2.2))) := by
      intro tr htr other
      by_cases ho : seat = other
      · rw [← ho, askedAt_self]
        exact htr
      · rw [askedAt_of_ne]
        · exact timelyAfter_nil []
        · exact List.forall_mem_map.mpr fun y _ => Or.inl ho
    refine runs_atStation hu ((runs_of_patient hp now u).mono (fun _ _ tr h => hseats tr h) ?_)
    exact fun _ _ tr h => ⟨h.1, hseats tr h.2⟩

theorem punctual_onOverlord {p : Procedure Unit α} (hp : p.PatientFrom {}) : Punctual (onOverlord p) :=
  punctual_atStation hp .overlord

theorem punctual_onFanout {p : Procedure Unit α} (hp : p.PatientFrom {}) (n : UInt32) : Punctual (onFanout n p) :=
  punctual_atStation hp (.fanout n)

variable (f : Fleet)

theorem punctual_identifyAll : Punctual f.identifyAll := by
  unfold identifyAll
  refine punctual_bind (punctual_onOverlord f.overlord.patient_identify) fun _ => ?_
  refine punctual_bind (punctual_each fun x => ?_) fun _ => punctual_pure _
  exact punctual_bind (punctual_onFanout x.2.patient_identify x.1) fun _ => punctual_pure _

theorem punctual_synctime : Punctual f.synctime :=
  punctual_onOverlord fun now => f.overlord.patient_syncTimestampAt now

theorem punctual_setup : Punctual f.setup := by
  unfold setup
  refine punctual_bind (punctual_onOverlord (f.overlord.patient_reset .hard)) fun _ => ?_
  refine punctual_bind (punctual_each fun x => ?_) fun _ => f.punctual_synctime
  exact punctual_bind (punctual_log _ _) fun _ => punctual_onFanout (x.2.patient_reset .hard) x.1

theorem punctual_status : Punctual f.status := by
  unfold status
  refine punctual_bind (punctual_onOverlord f.overlord.patient_status) fun _ => ?_
  refine punctual_bind (punctual_onOverlord f.overlord.patient_pllStatus) fun _ => ?_
  cases f.fanouts[(0 : UInt32)]? with
  | none => exact punctual_pure _
  | some board =>
    refine punctual_bind (punctual_onFanout board.patient_status 0) fun _ => ?_
    exact punctual_bind (punctual_onFanout board.patient_pllStatus 0) fun _ => punctual_pure _

theorem punctual_scanFanouts : Punctual f.scanFanouts := by
  refine punctual_each fun x => punctual_bind (punctual_log _ _) fun _ => ?_
  exact punctual_bind (punctual_onFanout x.2.patient_scanSlots x.1) fun _ => punctual_pure _

theorem punctual_lockAndEcho (n : UInt32) (fanout : Board) : Punctual (f.lockAndEcho n fanout) := by
  unfold lockAndEcho
  refine punctual_bind (punctual_log _ _) fun _ => ?_
  refine punctual_bind (punctual_onFanout fanout.patient_enableUplink n) fun _ => punctual_bind (punctual_log _ _) fun _ => ?_
  refine punctual_bind (punctual_onOverlord f.overlord.patient_enableUplink) fun _ => ?_
  exact punctual_onOverlord f.overlord.patient_measureEcho

theorem punctual_measureThrough (address : UInt32) (m : SlotMapping) (fanout : Board) :
    Punctual (f.measureThrough address m fanout) := by
  unfold measureThrough
  have hswitch : ∀ address on, Punctual (onOverlord (f.overlord.switchSfp address on)) := fun address on =>
    punctual_onOverlord (f.overlord.patient_switchSfp address on)
  refine punctual_bind (punctual_onFanout (fanout.patient_selectMux m.slot) m.fanout) fun _ => ?_
  refine punctual_bind (hswitch _ _) fun _ => punctual_bind (punctual_settle _ _) fun _ => ?_
  refine punctual_bind (hswitch _ _) fun _ => punctual_bind (punctual_settle _ _) fun _ => ?_
  refine punctual_attempt_bind (f.punctual_lockAndEcho m.fanout fanout) (fun echo => ?_) fun e he => ?_
  · exact punctual_attempt_bind (hswitch _ _) (fun _ => punctual_pure _) fun _ hs => punctual_fail hs
  · refine punctual_attempt_bind (hswitch _ _) (fun _ => punctual_fail he) fun _ _ => ?_
    exact punctual_bind (punctual_log _ _) fun _ => punctual_fail he

theorem punctual_locate (address : UInt32) (slot : Option UInt32) : Punctual (f.locate address slot) := by
  unfold locate
  cases slot with
  | some k => exact punctual_ite (punctual_fail (not_isNotDispatched_invalidArgument _)) (punctual_pure _)
  | none =>
    cases f.addressMap[address]? with
    | none => exact punctual_fail fun ⟨_, h⟩ => nomatch h
    | some m => exact punctual_bind (punctual_log _ _) fun _ => punctual_pure _

theorem punctual_measureDelay (address : UInt32) (slot : Option UInt32) : Punctual (f.measureDelay address slot) := by
  unfold measureDelay
  refine punctual_ite (punctual_bind (f.punctual_locate address slot) fun m => ?_)
    (punctual_fail (not_isNotDispatched_invalidArgument _))
  cases f.fanouts[m.fanout]? with
  | none => exact punctual_fail (not_isNotDispatched_invalidArgument _)
  | some fanout =>
    refine punctual_bind (f.punctual_measureThrough address m fanout) fun _ => ?_
    exact punctual_bind (punctual_log _ _) fun _ => punctual_pure _

theorem punctual_perform (o : Operation) : Punctual (f.perform o) := by
  cases o with
  | identifyAll => exact f.punctual_identifyAll
  | setup => exact f.punctual_setup
  | synctime => exact f.punctual_synctime
  | status => exact f.punctual_status
  | scanFanouts => exact f.punctual_scanFanouts
  | measureDelay address slot => exact f.punctual_measureDelay address slot

end Fleet

/-! ## All operations -/

/-- The run of `p` does not fail for a value that is not there: a dispatch of the run that succeeded has filled
each value that it asks for. -/
def InTime {α : Type} (now : UInt64) (p : Procedure Unit α) (s : Session) : Prop :=
  (∀ path, (p.run now s).result ≠ .error (.notDispatched path)) ∧ Timely (p.asked now s)

/-- The same for a fleet, seat by seat. -/
def Fleet.InTime {α : Type} (now : UInt64) (p : Procedure Seat α) (s : FleetSessions) : Prop :=
  (∀ path, (p.run now s).result ≠ .error (.notDispatched path)) ∧
    ∀ seat, Timely (FleetSessions.askedAt seat (p.asked now s))

theorem inTime_of_patient {α : Type} {p : Procedure Unit α} (hp : p.PatientFrom {}) (now : UInt64) (s : Session) :
    InTime now p s := by
  obtain ⟨herr, htimely⟩ := hp.timelyAfter now (Ledger.holds_empty [] s)
  exact ⟨fun path h => herr _ h ⟨path, rfl⟩, htimely⟩

theorem Fleet.inTime_of_punctual {α : Type} {p : Procedure Seat α} (hp : Punctual p) (now : UInt64) (s : FleetSessions) :
    InTime now p s := by
  have hrun := hp now s
  refine ⟨fun path h => ?_, ?_⟩
  · exact ((runs_iff.mp hrun).2 _ h).1 ⟨path, rfl⟩
  · exact (runs_const_iff (R := fun _ tr => ∀ seat, Timely (FleetSessions.askedAt seat tr))).mp
      (hrun.mono (fun _ _ _ h => h) fun _ _ _ h => h.2)

/-- **Operations ask for values once they are there**: whatever the registers and the queues of a device, whatever
waits in the batch and whatever fails, no operation on a group of endpoints, a board or a fleet fails for a value that
is not there.  Each handle that it looks behind has been filled by a dispatch that succeeded. -/
theorem operations_in_time (now : UInt64) :
    (∀ (s : Session) (device : String) (ids : List UInt32), InTime now (EndpointGroup.resolve device ids) s) ∧
    (∀ (s : Session) (g : EndpointGroup) (o : EndpointGroup.Operation), InTime now (g.perform o) s) ∧
    (∀ (s : Session) (b : Board) (o : Board.Operation), InTime now (b.perform o) s) ∧
    ∀ (s : FleetSessions) (f : Fleet) (o : Fleet.Operation), Fleet.InTime now (f.perform o) s :=
  ⟨fun s device ids => inTime_of_patient (EndpointGroup.patient_resolve device ids) now s,
    fun s g o => inTime_of_patient (g.patient_perform o) now s,
    fun s b o => inTime_of_patient (b.patient_perform o) now s,
    fun s f o => Fleet.inTime_of_punctual (f.punctual_perform o) now s⟩

end TimingFleet

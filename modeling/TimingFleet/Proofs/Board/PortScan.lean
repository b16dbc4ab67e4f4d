import TimingFleet.Proofs.Board.SlotScans

/-!
# The scan of all slots

A scan of a fanout reads where the mux is, visits all slots, and sets the mux back, also where a visit has failed.

* `Board.visitSlots`: the part of a scan before the mux is set back.
* `Board.setBack previous visited`: the rest of it.

Since a device that has served one dispatch refuses at most one, the mux can always be set back after a visit that has
failed (`Board.runs_scanSlots`).  Main statement: `Board.scanSlots_healthy`.
-/

namespace TimingFleet

namespace Board

open Procedure

variable {b : Board} {s : Session} {now : UInt64} {slot m : UInt32}

/-! ## The two parts of a scan -/

/-- The scan of all slots, with the slot that the mux was on before. -/
def visitSlots (b : Board) : Procedure Unit (UInt32 × List SlotScan) := do
  let previous ← b.readMux
  let scans ← each slots b.scanSlot
  return (previous, scans)

theorem visitSlots_of_readMux {now : UInt64} {s : Session} {x : Except Error (List SlotScan)}
    (hmux : (b.readMux.run now s).result = .ok m)
    (hx : ((each slots b.scanSlot).run now (b.readMux.run now s).state).result = x) :
    (b.visitSlots.run now s).result = x.map (Prod.mk m) := by
  unfold visitSlots
  rw [result_bind, hmux]
  show ((each slots b.scanSlot >>= fun scans => pure (m, scans)).run now _).result = _
  rw [result_bind, hx]
  cases x <;> rfl

theorem slots_lt : ∀ slot ∈ slots, slot < fanoutSlots := by
  have hall : slots.all (fun slot => slot < fanoutSlots) = true := by decide
  exact fun slot hslot => of_decide_eq_true (List.all_eq_true.mp hall slot hslot)

theorem toNat_of_slots {i : Nat} (h : slots[i]? = some slot) : slot.toNat = i := by
  obtain ⟨hi, rfl⟩ := List.getElem?_eq_some_iff.mp h
  have hi' : i < fanoutSlots.toNat := hi
  simp only [slots, List.getElem_map, List.getElem_range]
  exact UInt32.toNat_ofNat_of_lt' (Nat.lt_trans hi' (by decide))

/-! ## First failures -/

theorem straight_selectMux (b : Board) (slot : UInt32) : (b.selectMux slot).Straight := by
  unfold selectMux
  refine straight_bind (b.straight_require _ _) fun _ => straight_ite (straight_fail _) ?_
  refine straight_bind (straight_request _ _) fun _ => straight_bind (straight_request _ _) fun _ => ?_
  exact straight_bind (straight_settle _ _) fun _ => straight_log _ _

theorem straight_lockUplink (b : Board) : b.lockUplink.Straight := by
  unfold lockUplink
  refine straight_bind (straight_request _ _) fun _ => straight_bind (straight_request _ _) fun _ => ?_
  refine straight_bind (straight_request _ _) fun _ => straight_bind (straight_settle _ _) fun _ => ?_
  refine straight_bind (straight_request _ _) fun _ => straight_bind (straight_request _ _) fun _ => ?_
  exact straight_bind (straight_request _ _) fun _ => straight_bind (straight_log _ _) fun _ => straight_pure _

theorem straight_scanSlot (b : Board) (slot : UInt32) : (b.scanSlot slot).Straight := by
  unfold scanSlot
  refine straight_bind (b.straight_selectMux slot) fun _ => straight_bind (straight_request _ _) fun _ => ?_
  refine straight_bind (straight_request _ _) fun _ => straight_bind (straight_request _ _) fun _ => ?_
  refine straight_bind b.straight_lockUplink fun _ => straight_bind (straight_request _ _) fun _ => ?_
  exact straight_bind (straight_request _ _) fun _ => straight_pure _

theorem straight_readMux (b : Board) : b.readMux.Straight := by
  unfold readMux
  refine straight_bind (b.straight_require _ _) fun _ => straight_bind (straight_request _ _) fun _ => ?_
  exact straight_bind (straight_request _ _) fun _ => straight_request _ _

/-! ## Runs of the parts -/

/-- A dispatch that is served tells that the device does not refuse all of them. -/
theorem runs_readMux (hb : b.role = .fanout) (hs : s.Idle .fanout) (hmux : s.device.word? FanoutNode.mux = some m) :
    Runs now b.readMux s
      (fun previous t _ => previous = m ∧ t.Idle .fanout ∧ t.device = s.device ∧ ∃ n, s.device.refusal n = none)
      fun e t tr => t.device = s.device ∧ ∃ ops, EndsRefused ops e t tr := by
  have htable : BoardRole.fanout.registers.words.contains FanoutNode.mux = true :=
    (BoardRole.contains_words _).mpr (by decide)
  unfold readMux
  refine runs_bind (runs_require hb ?_)
  refine runs_bind (runs_read (hs.plays.words _ htable) ?_)
  refine runs_bind (runs_dispatch_or_refused [.read ⟨FanoutNode.mux, s.slots.next⟩] (by simp [hs.batch, Slots.wordHandle])
    (.read (.nil _)) (fun hserved t hbatch hbench => ?_)
    fun _ hr => ⟨rfl, _, (endsRefused_of_refusal rfl hr).append [_]⟩)
  have hdev : t.device = s.device := congrArg Bench.device hbench
  refine runs_wordValue m ?_ ⟨rfl, hs.of_device_eq hbatch hdev, hdev, _, hserved⟩
  rw [show t.slots = _ from congrArg Bench.slots hbench, Slots.word?_fillWord]
  exact (if_pos rfl).trans (congrArg (fun value => some (value.getD 0)) hmux)

/-- The visits of all slots stop at the first request that fails, which is a dispatch that the device refuses. -/
theorem runs_each_slots_first (hb : b.role = .fanout) (hs : s.Idle .fanout) :
    Runs now (each slots b.scanSlot) s
      (fun scans t tr => t.Idle .fanout ∧ t.device = slots.foldl Device.scanned s.device ∧
        scans = slots.map s.device.slotScan ∧ ∀ x ∈ tr, failure? x = none)
      fun e t tr => t.Idle .fanout ∧ s.device.Evolves t.device ∧ t.JustRefused e ∧
        ∃ before x, tr = before ++ [x] ∧ (∀ y ∈ before, failure? y = none) ∧ FailsDispatch x e := by
  have hfirst := Straight.runs (straight_each fun slot (_ : slot ∈ slots) => b.straight_scanSlot slot)
    (failsOnly_each fun slot hslot => failsOnly_scanSlot hb (slots_lt slot hslot)) now s
  have hevolves : Runs now (each slots b.scanSlot) s (fun _ t _ => s.device.Evolves t.device)
      fun _ t _ => s.device.Evolves t.device := runs_const_iff.mpr (s.evolves_run now _)
  refine (((runs_each_scanSlot hb slots_lt hs).and hfirst).and hevolves).mono (fun scans t tr h => ?_) fun e t tr h => ?_
  · obtain ⟨⟨⟨ht, hdev, hscans⟩, hserved⟩, -⟩ := h
    exact ⟨ht, hdev, hscans, hserved⟩
  · obtain ⟨⟨⟨ops, hrefused⟩, hfirst⟩, hev⟩ := h
    obtain ⟨before, x, hsplit, hbefore, hx, -⟩ := hrefused.first hfirst
    exact ⟨hs.evolves hev hrefused.batch, hev, hrefused.justRefused, before, x, hsplit, hbefore, hx⟩

/-- After visits that have succeeded the mux is set back, or the dispatch of that write is refused. -/
theorem runs_setBack_ok (hb : b.role = .fanout) (hs : s.Idle .fanout) (hm : m < fanoutSlots) (scans : List SlotScan) :
    Runs now (b.setBack m (.ok scans)) s
      (fun result t tr => result = scans ∧ t.Idle .fanout ∧ t.device = s.device.writeWord FanoutNode.mux m ∧
        ∀ x ∈ tr, failure? x = none)
      fun e _ tr => ∃ before x, tr = before ++ [x] ∧ (∀ y ∈ before, failure? y = none) ∧ FailsDispatch x e ∧
        x.1.batch.toList = [.write FanoutNode.mux m] := by
  have hfirst := (b.straight_selectMux m).runs (failsOnly_selectMux hb hm) now s
  unfold setBack
  refine runs_bind (runs_attempt (((runs_selectMux hb hs hm).and hfirst).mono (fun _ t tr h => ?_) fun e t tr h => ?_))
  · obtain ⟨⟨ht, hdev⟩, hserved⟩ := h
    exact runs_pure ⟨rfl, ht, hdev, by rwa [List.append_nil]⟩
  · obtain ⟨⟨-, -, hrefused⟩, hfirst⟩ := h
    refine runs_fail ?_
    rw [List.append_nil]
    exact hrefused.first hfirst

/-- After a visit that has failed the mux is set back, since the device refuses no second dispatch. -/
theorem runs_setBack_error (hb : b.role = .fanout) (hs : s.Idle .fanout) (hm : m < fanoutSlots) {e : Error} {n : Nat}
    (hserved : s.device.refusal n = none) (hrefused : s.JustRefused e) :
    Runs now (b.setBack m (.error e)) s (fun _ _ _ => False)
      fun e' t _ => e' = e ∧ t.device = s.device.writeWord FanoutNode.mux m := by
  unfold setBack
  refine runs_bind (runs_attempt ((runs_selectMux hb hs hm).mono (fun _ t tr h => ?_) fun e' t tr h => ?_))
  · exact runs_fail ⟨rfl, h.2⟩
  · obtain ⟨hdev, hcount, hagain⟩ := h
    obtain ⟨reason, hr, -⟩ := hrefused
    obtain ⟨reason', hr', -⟩ := hagain.justRefused
    rw [hdev, hcount] at hr'
    exact absurd (Session.refusal_unique hserved hr hr') (Nat.ne_of_lt (Nat.lt_succ_self _))

/-- The scan has ended with `e`, the error of the first request that failed, a dispatch.  The mux is on `m`, or it was
the very last dispatch, which alone was to set the mux to `m`, after `visits` had succeeded. -/
def ScanStops (m : UInt32) (visits : Except Error (UInt32 × List SlotScan)) (e : Error) (t : Session)
    (tr : Trace Unit Session) : Prop :=
  ∃ before x after, tr = before ++ x :: after ∧ (∀ y ∈ before, failure? y = none) ∧ FailsDispatch x e ∧
    (visits = .error e ∧ t.device.word? FanoutNode.mux = some m ∨
      (∃ scans, visits = .ok (m, scans)) ∧ after = [] ∧ x.1.batch.toList = [.write FanoutNode.mux m])

/-- **A scan** finds what each slot shows and sets the mux back, or stops at the first request that fails. -/
theorem runs_scanSlots (hb : b.role = .fanout) (hs : s.Idle .fanout) (hmux : s.device.word? FanoutNode.mux = some m)
    (hm : m < fanoutSlots) :
    Runs now b.scanSlots s
      (fun scans t tr => t.Idle .fanout ∧
        t.device = (slots.foldl Device.scanned s.device).writeWord FanoutNode.mux m ∧
        scans = slots.map s.device.slotScan ∧ (b.visitSlots.run now s).result = .ok (m, scans) ∧
        ∀ x ∈ tr, failure? x = none)
      (ScanStops m (b.visitSlots.run now s).result) := by
  rw [scanSlots_eq]
  have hfirst := b.straight_readMux.runs (failsOnly_readMux hb) now s
  refine runs_bind ((((runs_readMux hb hs hmux).and hfirst).and runs_self).mono (fun m' t tr h => ?_) fun e t tr h => ?_)
  case refine_2 =>
    obtain ⟨⟨⟨hdev, ops, hrefused⟩, hfirst⟩, hresult, -⟩ := h
    obtain ⟨before, x, rfl, hbefore, hx, -⟩ := hrefused.first hfirst
    refine ⟨before, x, [], rfl, hbefore, hx, Or.inl ⟨?_, hdev ▸ hmux⟩⟩
    unfold visitSlots
    rw [result_bind, hresult]
    rfl
  obtain ⟨⟨⟨rfl, ht, hdev, n, hserved⟩, hread⟩, hresult, rfl, -⟩ := h
  have hvisits : ∀ x, ((each slots b.scanSlot).run now (b.readMux.run now s).state).result = x →
      (b.visitSlots.run now s).result = x.map (Prod.mk _) := fun _ => visitSlots_of_readMux hresult
  refine runs_bind (runs_attempt (((runs_each_slots_first hb ht).and runs_self).mono (fun scans u tr' h => ?_)
    fun e u tr' h => ?_))
  · obtain ⟨⟨hu, hudev, rfl, hvisited⟩, hscans, -⟩ := h
    rw [hdev] at hudev hscans ⊢
    have hbefore : ∀ x ∈ tr ++ tr', failure? x = none := List.forall_mem_append.mpr ⟨hread, hvisited⟩
    refine (runs_setBack_ok hb hu hm _).mono (fun result v tr'' h => ?_) fun e v tr'' h => ?_
    · obtain ⟨rfl, hv, hvdev, hset⟩ := h
      refine ⟨hv, by rw [hvdev, hudev], rfl, hvisits _ hscans, ?_⟩
      rw [← List.append_assoc]
      exact List.forall_mem_append.mpr ⟨hbefore, hset⟩
    · obtain ⟨before, x, rfl, hset, hx, hbatch⟩ := h
      refine ⟨tr ++ tr' ++ before, x, [], by simp, List.forall_mem_append.mpr ⟨hbefore, hset⟩, hx, Or.inr ?_⟩
      exact ⟨⟨_, hvisits _ hscans⟩, rfl, hbatch⟩
  · obtain ⟨⟨hu, hev, hrefused, before, x, rfl, hvisited, hx⟩, herror, -⟩ := h
    have hserved' : u.device.refusal n = none := by rw [hev.refusal, hdev, hserved]
    refine (runs_setBack_error hb hu hm hserved' hrefused).mono (fun _ _ _ h => h.elim) fun e' v tr'' h => ?_
    obtain ⟨rfl, hvdev⟩ := h
    refine ⟨tr ++ before, x, tr'', by simp, List.forall_mem_append.mpr ⟨hread, hvisited⟩, hx, Or.inl ?_⟩
    exact ⟨hvisits _ herror, by rw [hvdev, Device.word?_mux_writeWord_mux]⟩

/-! ## Healthy fanouts -/

/-- A fanout that shows the slot of its mux is changed in its uplink endpoint only. -/
theorem runs_scanSlots_shown (hb : b.role = .fanout) (hs : s.Idle .fanout) (hshown : s.device.ShowsSlot m)
    (hm : m < fanoutSlots) :
    Runs now b.scanSlots s
      (fun scans t _ => t.Idle .fanout ∧ t.device = s.device.withUplink .fanout (s.device.lockCode 7) ∧
        scans = slots.map s.device.slotScan)
      fun e _ tr => ∃ x ∈ tr, FailsDispatch x e := by
  refine (runs_scanSlots hb hs hshown.mux hm).mono (fun scans t tr h => ?_) fun e t tr h => ?_
  · obtain ⟨ht, hdev, hscans, -⟩ := h
    have hlast : slots.foldl Device.scanned s.device = s.device.scanned 7 :=
      Device.foldl_scanned hshown.kind (by decide)
    exact ⟨ht, by rw [hdev, hlast, hshown.writeWord_mux_scanned], hscans⟩
  · obtain ⟨before, x, after, rfl, -, hx, -⟩ := h
    exact ⟨x, List.mem_append_right before List.mem_cons_self, hx⟩

/-- Where no dispatch fails, a scan has this outcome. -/
theorem scanSlots_served (hb : b.role = .fanout) (hs : s.Idle .fanout) (hshown : s.device.ShowsSlot m)
    (hm : m < fanoutSlots) (hserved : ∀ x ∈ b.scanSlots.asked now s, ∀ e, ¬ FailsDispatch x e) :
    (b.scanSlots.run now s).result = .ok (slots.map s.device.slotScan) ∧ (b.scanSlots.run now s).state.Idle .fanout ∧
      (b.scanSlots.run now s).state.device = s.device.withUplink .fanout (s.device.lockCode 7) := by
  obtain ⟨hok, herr⟩ := runs_iff.mp (runs_scanSlots_shown hb hs hshown hm)
  cases hresult : (b.scanSlots.run now s).result with
  | ok scans =>
    obtain ⟨hidle, hdev, rfl⟩ := hok scans hresult
    exact ⟨rfl, hidle, hdev⟩
  | error e =>
    obtain ⟨x, hx, hfails⟩ := herr e hresult
    exact absurd hfails (hserved x hx e)

/-- A fanout shows the slot of its mux after any operations if it has shown one before them. -/
theorem showsSlot_performAll (hs : s.device.ShowsSlot slot) (hbatch : s.batch = #[]) {calls : List (UInt64 × Operation)}
    (hmux : (b.performAll calls s).device.word? FanoutNode.mux = some m) :
    (b.performAll calls s).device.ShowsSlot m := by
  have hsparing : (b.performAll calls s).Sparing fun d => ∃ slot, d.ShowsSlot slot := by
    refine sparing_performAll (fun d op hop hd => ?_) ⟨⟨slot, hs⟩, by simp [hbatch]⟩ calls
    obtain ⟨slot, hslot⟩ := hd
    obtain ⟨next, hnext, -⟩ := hslot.after hop
    exact ⟨next, hnext⟩
  obtain ⟨next, hnext⟩ := hsparing.device
  obtain rfl := Option.some.inj (hnext.mux.symm.trans hmux)
  exact hnext

end Board

/-- The scan is that of slot `i`.  The slot shows no flag and is ready if it is one of `live`, and shows both flags and
waits for a lock if not. -/
structure SlotScan.Shows (live : List UInt32) (i : Nat) (scan : SlotScan) : Prop where
  slot : scan.slot.toNat = i
  lossOfLock : scan.cdrLossOfLock = if scan.slot ∈ live then 0 else 1
  lossOfSignal : scan.sfpLossOfSignal = if scan.slot ∈ live then 0 else 1
  state : scan.state? = some (if scan.slot ∈ live then .ready else .waitingCdrLock)
  locked : scan.isLocked = true ↔ scan.slot ∈ live

theorem Device.shows_slotScan {d : Device} {live : List UInt32}
    (hlive : d.liveSlots = Std.ExtTreeSet.ofList live compare) (slot : UInt32) :
    (d.slotScan slot).Shows live slot.toNat := by
  have hcontains : d.liveSlots.contains slot = decide (slot ∈ live) := by
    rw [hlive, Std.ExtTreeSet.contains_ofList, List.contains_eq_mem]
  unfold slotScan lockCode
  rw [hcontains]
  by_cases hmem : slot ∈ live
  · constructor <;> simp [hmem, flag, SlotScan.state?, SlotScan.isLocked, EndpointState.ofCode?_code]
  · have hcode : EndpointState.waitingCdrLock.code ≠ EndpointState.ready.code := by decide
    constructor <;> simp [hmem, flag, SlotScan.state?, SlotScan.isLocked, EndpointState.ofCode?_code, hcode]

namespace Board

open Procedure

variable {b : Board}

/-- **A port scan of a healthy fanout.**  A fanout comes up with any live slots, a board on it is asked for any
operations, and its mux is on a slot.  A scan of which no dispatch fails finds each of the eight slots: without flags and
ready if it is live, with both flags and waiting for a lock if not.  Afterwards the mux is where it was, and the device
is what it was but for its uplink endpoint, which is enabled and in the state that was found on the last slot.  A second
scan finds the same and changes nothing. -/
theorem scanSlots_healthy (hb : b.role = .fanout) {d₀ : Device} (hd₀ : d₀.Plays .fanout) (live : List UInt32)
    (failure : Option String) (failingDispatch : Option Nat) (calls : List (UInt64 × Operation)) {s : Session}
    (hs : s = b.performAll calls (Session.ofDevice { d₀.withLiveSlots live with failure, failingDispatch }))
    {m : UInt32} (hmux : s.device.word? FanoutNode.mux = some m) (hm : m ≤ 7) (hbatch : s.batch = #[]) (now : UInt64)
    (hserved : ∀ x ∈ b.scanSlots.asked now s, ∀ e, ¬ FailsDispatch x e) :
    let o := b.scanSlots.run now s
    ∃ (scans : List SlotScan) (last : SlotScan), o.result = .ok scans ∧ scans.length = 8 ∧ scans[7]? = some last ∧
      (∀ i (scan : SlotScan), scans[i]? = some scan → scan.Shows live i) ∧
      o.state.device.word? FanoutNode.mux = some m ∧
      o.state.device = (s.device.setWord (FanoutNode.uplink.join EndpointNode.enable) 1).setWord
        (FanoutNode.uplink.join EndpointNode.state) last.stateCode ∧
      ∀ later, (∀ x ∈ b.scanSlots.asked later o.state, ∀ e, ¬ FailsDispatch x e) →
        (b.scanSlots.run later o.state).result = .ok scans ∧
          (b.scanSlots.run later o.state).state.device = o.state.device := by
  intro o
  have hm' : m < fanoutSlots := by
    have hle : m.toNat ≤ 7 := UInt32.le_iff_toNat_le.mp hm
    exact UInt32.lt_iff_toNat_lt.mpr (Nat.lt_succ_of_le hle)
  -- the fanout shows the slot of its mux from the beginning
  have hup := Device.evolves_updateLinkFlags { d₀ with liveSlots := Std.ExtTreeSet.ofList live compare }
  obtain ⟨first, hfirst⟩ := Option.isSome_iff_exists.mp (Std.ExtTreeMap.contains_eq_isSome_getElem?.symm.trans
    (hd₀.word (by decide : FanoutNode.mux ∈ _)))
  have hcomes : (d₀.withLiveSlots live).ShowsSlot first := Device.showsSlot_updateLinkFlags hd₀.kind hfirst
  have hplays : ({ d₀.withLiveSlots live with failure, failingDispatch } : Device).Plays .fanout :=
    hd₀.extends_of hup.kind hup.registers
  -- and so it does after the operations
  have hev : ({ d₀.withLiveSlots live with failure, failingDispatch } : Device).Evolves s.device :=
    hs ▸ evolves_performAll (b := b) (Session.ofDevice _) calls
  have hlive : s.device.liveSlots = Std.ExtTreeSet.ofList live compare := hev.liveSlots.trans hup.liveSlots
  have hshown : s.device.ShowsSlot m := by
    subst hs
    exact showsSlot_performAll ⟨hcomes.kind, hcomes.mux, hcomes.lossOfLock, hcomes.lossOfSignal⟩ rfl hmux
  obtain ⟨hresult, hidle, hdev⟩ := scanSlots_served hb ⟨hplays.evolves hev, hbatch⟩ hshown hm' hserved
  refine ⟨_, s.device.slotScan 7, hresult, (List.length_map _).trans (by decide), rfl, fun i scan hscan => ?_, ?_, hdev,
    fun later hserved' => ?_⟩
  · rw [List.getElem?_map] at hscan
    obtain ⟨slot, hslot, rfl⟩ := Option.map_eq_some_iff.mp hscan
    exact toNat_of_slots hslot ▸ Device.shows_slotScan hlive slot
  · rw [hdev, Device.word?_withUplink (by decide) (by decide), hmux]
  · obtain ⟨hresult', -, hdev'⟩ := scanSlots_served hb hidle (hdev ▸ hshown.withUplink _) hm' hserved'
    have hsame := s.evolves_run now b.scanSlots
    refine ⟨by rw [hresult', List.map_congr_left fun slot _ => Device.slotScan_congr hsame slot], ?_⟩
    rw [hdev', Device.lockCode_congr hsame, hdev, Device.withUplink_withUplink]

/-- A board on a fanout, without pauses. -/
def quickFanout : Board := ⟨"FAN", .fanout, .none⟩

/-- A fanout of which the second and the fifth slot are live, with its mux on the third. -/
def onThirdSlot : Session :=
  quickFanout.performAll [(0, .selectMux 2)]
    (Session.ofDevice { (Device.fanout "FAN").withLiveSlots [1, 4] with failure := none, failingDispatch := none })

/-- The scan locks on these two slots, and leaves the mux on the third. -/
theorem scanSlots_onThirdSlot :
    ∃ scans : List SlotScan, (quickFanout.scanSlots.run 0 onThirdSlot).result = .ok scans ∧
      (∀ i (scan : SlotScan), scans[i]? = some scan → scan.Shows [1, 4] i) ∧
      scans.map SlotScan.isLocked = [false, true, false, false, true, false, false, false] ∧
      (quickFanout.scanSlots.run 0 onThirdSlot).state.device.word? FanoutNode.mux = some 2 := by
  obtain ⟨scans, last, hresult, -, -, hshows, hmux, -, -⟩ := scanSlots_healthy (b := quickFanout) rfl (.fanout "FAN")
    [1, 4] none none [(0, .selectMux 2)] (s := onThirdSlot) rfl (m := 2) (by decide +kernel) (by decide)
    (by decide +kernel) 0 (not_failsDispatch_of_all (by decide +kernel))
  have hlocked : (quickFanout.scanSlots.run 0 onThirdSlot).result.toOption.map (List.map SlotScan.isLocked) =
      some [false, true, false, false, true, false, false, false] := by decide +kernel
  have hfound : (quickFanout.scanSlots.run 0 onThirdSlot).result.toOption = some scans := congrArg Except.toOption hresult
  rw [hfound, Option.map_some, Option.some.injEq] at hlocked
  exact ⟨scans, hresult, hshows, hlocked, hmux⟩

end Board

end TimingFleet

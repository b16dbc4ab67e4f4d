import Mathlib.Data.List.Basic
import TimingFleet.Proofs.EndpointGroup.Reachable

/-!
# Switching a group

A group is switched endpoint by endpoint in ascending order, each in a dispatch of its own.  The first dispatch that
fails ends it: the endpoints before are switched, and those from there on are as they were.

* `Device.Switched on partition ids d d'`: in `d'` the endpoints `ids` are switched, and nothing else differs from `d`.

Such a `d'` is determined by `d` (`Switched.unique`), and the same switch of any of `ids` leaves it as it is
(`Switched.again`).  Main statement: `EndpointGroup.enable_outcome`.
-/

namespace TimingFleet

open EndpointNode Procedure

/-! ## Endpoints that are switched -/

namespace Device

variable {d d' d'' : Device} {on : Bool} {partition e : UInt32} {ids done : List UInt32}

/-- In the device `d'` the endpoints `ids` are wholly on in the partition, or wholly off in the one that they had.
Nothing else differs from `d`. -/
structure Switched (on : Bool) (partition : UInt32) (ids : List UInt32) (d d' : Device) : Prop where
  bits : ∀ e ∈ ids, d'.word? ((base e).join enable) = some (flag on) ∧
    d'.word? ((base e).join bufferEnable) = some (flag on) ∧ d'.word? ((base e).join readyFlag) = some (flag on) ∧
    d'.word? ((base e).join state) = some (if on then EndpointState.ready.code else EndpointState.standingBy.code)
  partition : ∀ e ∈ ids, d'.word? ((base e).join EndpointNode.partition) =
    if on then some partition else d.word? ((base e).join EndpointNode.partition)
  words : ∀ path, (∀ e ∈ ids, ∀ rel ∈ Registers.switchNodes, (base e).join rel ≠ path) → d'.word? path = d.word? path
  rest : d' = { d with registers := { d.registers with words := d'.registers.words } }

/-- Only the switches and the partition of an endpoint are set when it is switched. -/
theorem word?_switched_elsewhere {path : NodePath} (h : ∀ rel ∈ Registers.switchNodes, (base e).join rel ≠ path) :
    (d.switched on partition e).word? path = d.word? path := by
  by_cases hpath : ∃ rel, (base e).join rel = path
  · obtain ⟨rel, rfl⟩ := hpath
    have hrel : rel ∉ Registers.switchNodes := fun hmem => h rel hmem rfl
    simp only [Registers.switchNodes, List.mem_cons, List.not_mem_nil, or_false, not_or] at hrel
    have hnone : (switchWords on partition).reverse.lookup rel = none := by
      cases on <;> simp [switchWords, List.lookup_cons, beq_eq_false_iff_ne.mpr, hrel]
    exact word?_switched hnone
  · exact word?_switched_of_ne fun rel heq => hpath ⟨rel, heq⟩

theorem Switched.nil (on : Bool) (partition : UInt32) (d : Device) : Switched on partition [] d d :=
  ⟨List.forall_mem_nil _, List.forall_mem_nil _, fun _ _ => rfl, rfl⟩

/-- What has been switched is left alone while other endpoints are. -/
theorem Switched.cons (h : Switched on partition ids (d.switched on partition e) d') (he : e ∉ ids) :
    Switched on partition (e :: ids) d d' := by
  have hfirst : ∀ rel, d'.word? ((base e).join rel) = (d.switched on partition e).word? ((base e).join rel) :=
    fun rel => h.words _ fun f hf rel' _ heq => he ((join_base_inj.mp heq).1 ▸ hf)
  have hrest : d.switched on partition e = _ := d.setWords_eq e (switchWords on partition)
  refine ⟨List.forall_mem_cons.mpr ⟨?_, h.bits⟩, List.forall_mem_cons.mpr ⟨?_, fun f hf => ?_⟩, fun path hpath => ?_, ?_⟩
  · simp only [hfirst]
    exact d.word?_switched_bits on partition e
  · rw [hfirst]
    exact d.word?_switched_partition on partition e
  · have hne : ∀ rel, (base e).join rel ≠ (base f).join EndpointNode.partition :=
      fun rel heq => he ((join_base_inj.mp heq).1 ▸ hf)
    rw [h.partition f hf, word?_switched_of_ne hne]
  · rw [h.words path fun f hf => hpath f (List.mem_cons_of_mem e hf), word?_switched_elsewhere (hpath e List.mem_cons_self)]
  · rw [h.rest, hrest]

/-- **One after the other**: different endpoints are all switched in the end. -/
theorem switched_foldl (hn : ids.Nodup) (on : Bool) (partition : UInt32) (d : Device) :
    Switched on partition ids d (ids.foldl (fun d e => d.switched on partition e) d) := by
  induction ids generalizing d with
  | nil => exact .nil on partition d
  | cons e ids ih =>
    obtain ⟨he, hn⟩ := List.nodup_cons.mp hn
    exact (ih hn (d.switched on partition e)).cons he

/-- The other endpoints are as they were. -/
theorem Switched.kept (h : Switched on partition ids d d') {f : UInt32} (hf : f ∉ ids) (rel : NodePath) :
    d'.word? ((base f).join rel) = d.word? ((base f).join rel) :=
  h.words _ fun _ he _ _ heq => hf ((join_base_inj.mp heq).1 ▸ he)

/-- What a switch of the endpoints makes of the device is determined. -/
theorem Switched.unique (h : Switched on partition ids d d') (h' : Switched on partition ids d d'') : d'' = d' := by
  have hword : ∀ path, d''.word? path = d'.word? path := by
    intro path
    by_cases hpath : ∃ e ∈ ids, ∃ rel ∈ Registers.switchNodes, (base e).join rel = path
    · obtain ⟨e, he, rel, hrel, rfl⟩ := hpath
      obtain ⟨henable, hbuffer, hready, hstate⟩ := h.bits e he
      obtain ⟨henable', hbuffer', hready', hstate'⟩ := h'.bits e he
      simp only [Registers.switchNodes, List.mem_cons, List.not_mem_nil, or_false] at hrel
      rcases hrel with rfl | rfl | rfl | rfl | rfl
      · rw [henable, henable']
      · rw [hbuffer, hbuffer']
      · rw [hready, hready']
      · rw [hstate, hstate']
      · rw [h.partition e he, h'.partition e he]
    · have hother : ∀ e ∈ ids, ∀ rel ∈ Registers.switchNodes, (base e).join rel ≠ path :=
        fun e he rel hrel heq => hpath ⟨e, he, rel, hrel, heq⟩
      rw [h.words path hother, h'.words path hother]
  have hwords : d''.registers.words = d'.registers.words := Std.ExtTreeMap.ext_getElem? hword
  rw [h.rest, h'.rest, hwords]

/-- **A switch of what is switched changes nothing.** -/
theorem Switched.again (h : Switched on partition ids d d') (hdone : ∀ e ∈ done, e ∈ ids) :
    Switched on partition done d' d' := by
  refine ⟨fun e he => h.bits e (hdone e he), fun e he => ?_, fun _ _ => rfl, rfl⟩
  cases on with
  | true => exact h.partition e (hdone e he)
  | false => rfl

end Device

/-! ## Groups -/

namespace EndpointGroup

variable {s : Session} {endpoints ids : List UInt32} {now : UInt64} {on : Bool} {partition : UInt32} {g : EndpointGroup}

/-- **Endpoints one after the other**: all of them are switched, or those before the one whose dispatch is refused. -/
theorem runs_each_enableOne (hs : s.Clear) (hk : s.device.kind = .endpoint) (hl : s.device.registers.Laid endpoints)
    (hids : ∀ e ∈ ids, e ∈ endpoints) :
    Runs now (each ids (enableOne on partition)) s
      (fun _ t _ => (t.Clear ∧ t.device.registers.Laid endpoints) ∧
        t.device = ids.foldl (fun d e => d.switched on partition e) s.device)
      fun err t tr => ∃ done e rest, ids = done ++ e :: rest ∧
        t.device = done.foldl (fun d e => d.switched on partition e) s.device ∧
        EndsRefused (switchBatch on partition e) err t tr := by
  induction ids generalizing s with
  | nil => exact runs_pure ⟨⟨hs, hl⟩, rfl⟩
  | cons e ids ih =>
    have he : e ∈ endpoints := hids e List.mem_cons_self
    refine runs_bind ((runs_enableOne_or_refused hs hk hl he).mono (fun _ t tr h => ?_) fun err t tr h => ?_)
    · obtain ⟨ht, hdev⟩ := h
      have hk' : t.device.kind = .endpoint := by
        rw [hdev, Device.switched, Device.setWords_eq]
        exact hk
      have hl' : t.device.registers.Laid endpoints :=
        hdev ▸ hl.sameNodes (Device.sameNodes_setWords hl he mem_wordNodes_of_switchWords)
      refine runs_bind ((ih ht hk' hl' fun f hf => hids f (List.mem_cons_of_mem e hf)).mono (fun _ u _ h => ?_)
        fun err u tr' h => ?_)
      · rw [hdev] at h
        exact runs_pure h
      · obtain ⟨done, stop, rest, rfl, hdone, hrefused⟩ := h
        rw [hdev] at hdone
        exact ⟨e :: done, stop, rest, rfl, hdone, hrefused.append tr⟩
    · exact ⟨[], e, ids, rfl, h.1, h.2⟩

/-- Where the switching of a group can end. -/
theorem runs_enable (hs : s.Clear) (hk : s.device.kind = .endpoint) (hl : s.device.registers.Laid endpoints)
    (hg : ∀ e ∈ g.ids, e ∈ endpoints) (hn : g.ids.Nodup) (hp : partition ≤ maxPartition) (on : Bool) (now : UInt64) :
    Runs now (g.enable on partition) s
      (fun report t _ => report = ⟨g.ids, on, partition⟩ ∧ (t.Clear ∧ t.device.registers.Laid endpoints) ∧
        Device.Switched on partition g.ids s.device t.device)
      fun err t tr => ∃ done e rest, g.ids = done ++ e :: rest ∧ EndsRefused (switchBatch on partition e) err t tr ∧
        Device.Switched on partition done s.device t.device := by
  unfold enable
  rw [if_neg (UInt32.not_lt.mpr hp)]
  refine runs_bind ((runs_each_enableOne hs hk hl hg).mono (fun _ t _ h => ?_) fun err t tr h => ?_)
  · exact runs_bind (runs_log (runs_pure ⟨rfl, h.1, h.2 ▸ Device.switched_foldl hn on partition s.device⟩))
  · obtain ⟨done, e, rest, hsplit, hdone, hrefused⟩ := h
    have hnodup : done.Nodup := (List.nodup_append.mp (hsplit ▸ hn)).1
    exact ⟨done, e, rest, hsplit, hrefused, hdone ▸ Device.switched_foldl hnodup on partition s.device⟩

theorem straight_enableOne (on : Bool) (partition e : UInt32) : (enableOne on partition e).Straight := by
  have hrest : (do
      write (node e EndpointNode.enable) (Device.flag on)
      write (node e bufferEnable) (Device.flag on)
      dispatch
      log .debug ("Endpoint " ++ Text.Numeral.decimal e.toNat ++ if on then " enabled" else " disabled")).Straight := by
    refine straight_bind (straight_request _ _) fun _ => straight_bind (straight_request _ _) fun _ => ?_
    exact straight_bind (straight_request _ _) fun _ => straight_log _ _
  cases on with
  | true => exact straight_bind (straight_request _ _) fun _ => hrest
  | false => exact hrest

theorem straight_enable (g : EndpointGroup) (on : Bool) (partition : UInt32) : (g.enable on partition).Straight := by
  unfold enable
  refine straight_ite (straight_fail _) (straight_bind (straight_each fun e _ => straight_enableOne on partition e) ?_)
  exact fun _ => straight_bind (straight_log _ _) fun _ => straight_pure _

/-- **Switching a group** of endpoints, whatever the registers of the device hold and wherever dispatches fail.  If none
fails, then all endpoints of the group are switched, and they are reported in their order.  A dispatch that fails is
the last request, and its error is the result; if it carries the switch of one endpoint, then those before it are
switched, and it and those after it are as they were.  In each case nothing else of the device has changed.  The same
call after a success changes nothing, whether it succeeds or not. -/
theorem enable_outcome (hs : s.Clear) (hk : s.device.kind = .endpoint) (hl : s.device.registers.Laid endpoints)
    (horder : g.ids.Pairwise (· < ·)) (hg : ∀ e ∈ g.ids, e ∈ endpoints) (hp : partition ≤ maxPartition) (on : Bool)
    (now : UInt64) :
    let o := (g.enable on partition).run now s
    ((∀ x ∈ (g.enable on partition).asked now s, ∀ err, ¬ FailsDispatch x err) →
      o.result = .ok ⟨g.ids, on, partition⟩ ∧ Device.Switched on partition g.ids s.device o.state.device) ∧
    (∀ before x after err, (g.enable on partition).asked now s = before ++ x :: after → FailsDispatch x err →
      o.result = .error err ∧ after = [] ∧ ∃ done e rest, g.ids = done ++ e :: rest ∧
        x.1.batch.toList = switchBatch on partition e ∧ Device.Switched on partition done s.device o.state.device ∧
        ∀ f ∈ e :: rest, ∀ rel, o.state.device.word? ((base f).join rel) = s.device.word? ((base f).join rel)) ∧
    ∀ report later, o.result = .ok report →
      ((g.enable on partition).run later o.state).state.device = o.state.device := by
  intro o
  have hn : g.ids.Nodup := horder.imp UInt32.ne_of_lt
  obtain ⟨hok, herr⟩ := runs_iff.mp (runs_enable hs hk hl hg hn hp on now)
  refine ⟨fun hnone => ?served, fun before x after err hsplit hx => ?failed, fun report later hresult => ?again⟩
  case served =>
    cases hresult : o.result with
    | ok report =>
      obtain ⟨rfl, -, hswitched⟩ := hok report hresult
      exact ⟨rfl, hswitched⟩
    | error err =>
      obtain ⟨_, _, _, -, hrefused, -⟩ := herr err hresult
      obtain ⟨u, hlast, hfails⟩ := hrefused.endsAt
      exact absurd hfails (hnone _ (List.mem_of_getLast? hlast) err)
  case failed =>
    obtain ⟨hresult, rfl⟩ := (straight_enable g on partition).ends hsplit hx.2
    obtain ⟨done, e, rest, hids, ⟨u, hlast, hbatch, -⟩, hswitched⟩ := herr err hresult
    rw [hsplit, List.getLast?_concat] at hlast
    obtain rfl := Option.some.inj hlast
    refine ⟨hresult, rfl, done, e, rest, hids, hbatch, hswitched, fun f hf => hswitched.kept fun hdone => ?_⟩
    exact (List.nodup_append.mp (hids ▸ hn)).2.2 f hdone f hf rfl
  case again =>
    obtain ⟨-, ⟨hclear, hlaid⟩, hswitched⟩ := hok report hresult
    have hkind : o.state.device.kind = .endpoint := (s.evolves_run now _).kind.trans hk
    obtain ⟨hok', herr'⟩ := runs_iff.mp (runs_enable hclear hkind hlaid hg hn hp on later)
    cases hlater : ((g.enable on partition).run later o.state).result with
    | ok report' => exact (hswitched.again fun _ he => he).unique (hok' report' hlater).2.2
    | error err =>
      obtain ⟨done, e, rest, hids, -, hdone⟩ := herr' err hlater
      exact (hswitched.again fun f hf => hids ▸ List.mem_append_left _ hf).unique hdone

/-- A batch tells which endpoint it switches. -/
theorem switchBatch_inj {e f : UInt32} : switchBatch on partition e = switchBatch on partition f ↔ e = f := by
  refine ⟨fun h => ?_, fun h => h ▸ rfl⟩
  have hlast := congrArg List.getLast? h
  simp only [switchBatch, List.getLast?_append, List.getLast?_cons_cons, List.getLast?_singleton, Option.some_or,
    Option.some.injEq, Pending.write.injEq] at hlast
  exact (join_base_inj.mp hlast.1).1

/-- Three endpoints of which the second is not switched: the second dispatch fails. -/
def interruptedSwitch : Session :=
  .ofDevice (((Device.endpoint "EPT" [0, 1, 2]).withVersion 1 7).failingAt 2 "link down")

/-- The first endpoint is switched on, the other two are as they were. -/
theorem enable_interruptedSwitch :
    let o := (enable ⟨"EPT", [0, 1, 2]⟩ true 3).run 0 interruptedSwitch
    o.result = .error (.transport "EPT" "link down") ∧
      Device.Switched true 3 [0] interruptedSwitch.device o.state.device ∧
      ∀ e ∈ [1, 2], ∀ rel, o.state.device.word? ((base e).join rel) = interruptedSwitch.device.word? ((base e).join rel) := by
  intro o
  have hlaid : interruptedSwitch.device.registers.Laid [0, 1, 2] :=
    (Device.laid_endpoint "EPT" [0, 1, 2]).sameNodes
      (Registers.sameNodes_setWord ((Device.laid_endpoint "EPT" [0, 1, 2]).contains_word (by decide) (by decide)) 7)
  have hp : (3 : UInt32) ≤ maxPartition := by decide
  obtain ⟨-, hstops, -⟩ := enable_outcome (g := ⟨"EPT", [0, 1, 2]⟩) (by rfl) (by rfl) hlaid (by decide) (fun _ h => h)
    hp true 0
  have hfails : ((enable ⟨"EPT", [0, 1, 2]⟩ true 3).asked 0 interruptedSwitch).getLast?.map
      (fun x => (x.2, failure? x)) = some (((), .dispatch), some (.transport "EPT" "link down")) := by decide +kernel
  obtain ⟨before, x, hsplit, -, hx⟩ := failsDispatch_of_getLast? hfails
  obtain ⟨hresult, -, done, e, rest, hids, hbatch, hswitched, hkept⟩ := hstops before x [] _ hsplit hx
  have hlast : ((enable ⟨"EPT", [0, 1, 2]⟩ true 3).asked 0 interruptedSwitch).getLast?.map (fun x => x.1.batch.toList) =
      some (switchBatch true 3 1) := by decide +kernel
  rw [hsplit, List.getLast?_concat, Option.map_some, hbatch] at hlast
  obtain rfl := switchBatch_inj.mp (Option.some.inj hlast)
  have hsplit' : [0] ++ 1 :: [2] = done ++ 1 :: rest := hids
  obtain ⟨rfl, -, rfl⟩ := (List.append_cons_inj_of_notMem (by decide) (by decide)).mp hsplit'
  exact ⟨hresult, hswitched, hkept⟩

end EndpointGroup

end TimingFleet

import TimingFleet.Proofs.EndpointGroup.Readout
import TimingFleet.Proofs.EndpointGroup.Switching
import TimingFleet.Proofs.Operation.Basic
import TimingFleet.Proofs.Session.Locality

/-!
# Groups that share no endpoint

An operation on a group of endpoints is confined to the nodes of these endpoints (`confined_operate`): to the words,
blocks and queues below them it does what these tell it to do, and to all others nothing.  So operations on groups that
share no endpoint commute (`operate_commute`).
-/

namespace TimingFleet

open EndpointNode Procedure

/-! ## The nodes of some endpoints -/

namespace EndpointNode

variable {ids others : List UInt32} {e : UInt32} {path : NodePath}

/-- The path is the node of one of the endpoints, or lies below it. -/
def Within (ids : List UInt32) (path : NodePath) : Prop := ∃ e ∈ ids, ∃ rel, (base e).join rel = path

theorem within_join_base (he : e ∈ ids) (rel : NodePath) : Within ids ((base e).join rel) := ⟨e, he, rel, rfl⟩

/-- Different endpoints have different nodes. -/
theorem not_within_of_disjoint (h : ∀ e ∈ ids, e ∉ others) (hpath : Within ids path) : ¬ Within others path := by
  obtain ⟨e, he, rel, rfl⟩ := hpath
  rintro ⟨f, hf, rel', heq⟩
  exact h e he ((join_base_inj.mp heq).1 ▸ hf)

end EndpointNode

/-! ## Sessions without faults -/

namespace Session

variable {endpoints : List UInt32} {id : String} {s t : Session}

/-- The session is open to an endpoint device without faults, and nothing is queued. -/
structure Faultless (endpoints : List UInt32) (id : String) (s : Session) : Prop where
  onEndpoints : s.OnEndpoints endpoints
  failure : s.device.failure = none
  id : s.device.id = id

theorem Faultless.not_justRefused (hs : s.Faultless endpoints id) (hdev : t.device = s.device) (err : Error) :
    ¬ t.JustRefused err := by
  rintro ⟨reason, hrefusal, -⟩
  rw [hdev] at hrefusal
  exact failure_ne_none_of_refusal hrefusal hs.failure

end Session

/-! ## Words that are set -/

namespace Device

variable {P : NodePath → Prop} {d d' : Device} {e : UInt32}

theorem agreeAt_setWords (h : d.registers.AgreeAt P d'.registers) (e : UInt32) (words : List (NodePath × UInt32)) :
    (d.setWords e words).registers.AgreeAt P (d'.setWords e words).registers := by
  induction words generalizing d d' with
  | nil => exact h
  | cons w words ih =>
    rw [setWords_cons, setWords_cons]
    exact ih (h.setWord _ w.2)

theorem agreeAt_setWords_of_not (he : ∀ rel, ¬ P ((base e).join rel)) (d : Device) (words : List (NodePath × UInt32)) :
    d.registers.AgreeAt P (d.setWords e words).registers := by
  induction words generalizing d with
  | nil => exact .refl _ _
  | cons w words ih => exact (Registers.agreeAt_setWord (he w.1) w.2).trans (ih (d.setWord _ w.2))

/-- A read of a buffer takes words out of its queue, if there is one and it holds enough. -/
theorem readBlock_data (d : Device) (e : UInt32) (n : Nat) :
    d.readBlock (data e) n = match d.registers.fifos[data e]? with
      | none => .ok (resize n ((d.block? (data e)).getD []), d)
      | some queue =>
        if queue.length < n then
          .error (.transport d.id ((data e).toString ++ ": requested " ++ Text.Numeral.decimal n ++ " words, " ++
            Text.Numeral.decimal queue.length ++ " available"))
        else .ok (queue.take n, { d with registers := d.registers.setBuffer e (queue.drop n) }) := by
  have hbase : NodePath.beforeSuffix bufferData (data e) = some (base e) := beforeSuffix_join_base e bufferData
  unfold readBlock
  simp only [hbase]
  rfl

end Device

namespace EndpointGroup

variable {g : EndpointGroup} {endpoints : List UInt32} {id : String} {P : NodePath → Prop} {e : UInt32} {α : Type}

/-- A procedure that comes to what a step at `P` comes to, unless a dispatch is refused; here none is. -/
theorem confined_of_runs {p : Procedure Unit α} {f : Device → Except Error α × Device} (hf : Local P f)
    (hp : ∀ (now : UInt64) (s : Session), s.OnEndpoints endpoints → Runs now p s
      (fun a t _ => t.OnEndpoints endpoints ∧ f s.device = (.ok a, t.device))
      fun err t _ => t.OnEndpoints endpoints ∧ t.device = s.device ∧
        (f s.device = (.error err, s.device) ∨ t.JustRefused err)) :
    Confined (Session.Faultless endpoints id) P p := by
  refine confined_of_local hf (fun s hs => hs.id) fun now s hs => ?_
  have hevolves := s.evolves_run now p
  have hends : (p.run now s).state.OnEndpoints endpoints ∧
      f s.device = ((p.run now s).result, (p.run now s).state.device) := by
    obtain ⟨hok, herr⟩ := runs_iff.mp (hp now s hs.onEndpoints)
    cases hresult : (p.run now s).result with
    | ok a => exact hok a hresult
    | error err =>
      obtain ⟨ht, hdev, hstep | hrefused⟩ := herr err hresult
      · exact ⟨ht, hdev.symm ▸ hstep⟩
      · exact absurd hrefused (hs.not_justRefused hdev err)
  exact ⟨⟨hends.1, hevolves.failure.trans hs.failure, hevolves.id.trans hs.id⟩, hends.2.symm⟩

/-- The same for a report on the device that leaves it as it is. -/
theorem confined_of_report {p : Procedure Unit α} {v : Device → α} (hv : Local P fun d => (.ok (v d), d))
    (hp : ∀ (now : UInt64) (s : Session), s.OnEndpoints endpoints → Runs now p s
      (fun a t _ => t.OnEndpoints endpoints ∧ t.device = s.device ∧ a = v s.device)
      fun err t _ => t.OnEndpoints endpoints ∧ t.device = s.device ∧ t.JustRefused err) :
    Confined (Session.Faultless endpoints id) P p := by
  refine confined_of_runs hv fun now s hs => (hp now s hs).mono ?_ fun _ _ _ ht => ⟨ht.1, ht.2.1, Or.inr ht.2.2⟩
  rintro a t _ ⟨ht, hdev, rfl⟩
  exact ⟨ht, by rw [hdev]⟩

/-- A step that only looks. -/
theorem local_report {v : Device → α} (hv : ∀ d d' : Device, d.registers.AgreeAt P d'.registers → v d' = v d) :
    Local P fun d => (.ok (v d), d) :=
  ⟨fun _ => .refl _ _, fun d d' _ hagree => ⟨congrArg Except.ok (hv d d' hagree), hagree⟩⟩

/-! ## Versions and snapshots -/

section Reports

variable {ids : List UInt32} {d d' : Device}

theorem endpointSnapshot_congr (h : d.registers.AgreeAt P d'.registers) (he : ∀ rel, P ((base e).join rel)) :
    d'.endpointSnapshot e = d.endpointSnapshot e := by
  have hword : ∀ rel, d'.word? ((base e).join rel) = d.word? ((base e).join rel) := fun rel => h.words _ (he rel)
  have hblock : ∀ rel, d'.block? ((base e).join rel) = d.block? ((base e).join rel) := fun rel => h.blocks _ (he rel)
  have hdump : ∀ rel, d'.dump ((base e).join rel) = d.dump ((base e).join rel) := by
    intro rel
    have hnames : d'.registers.childNames ((base e).join rel) = d.registers.childNames ((base e).join rel) := by
      refine h.childNames fun rest => ?_
      rw [join_base, List.cons_append, ← join_base e ⟨rel.parts ++ rest⟩]
      exact he _
    unfold Device.dump
    simp only [hnames, child_join_base, hword]
  unfold Device.endpointSnapshot
  simp only [hword, hblock, hdump]

theorem local_versions (hP : ∀ e ∈ ids, ∀ rel, P ((base e).join rel)) : Local P fun d => (.ok (d.versions ids), d) := by
  refine local_report fun d d' hagree => ?_
  have hmap : ids.map (fun e => (e, d'.version e)) = ids.map fun e => (e, d.version e) :=
    List.map_congr_left fun e he => by
      rw [Device.version, Device.version, show d'.word? _ = d.word? _ from hagree.words _ (hP e he version)]
  rw [Device.versions, Device.versions, hmap]

theorem local_snapshot (hP : ∀ e ∈ ids, ∀ rel, P ((base e).join rel)) : Local P fun d => (.ok (d.snapshot ids), d) := by
  refine local_report fun d d' hagree => ?_
  have hmap : ids.map (fun e => (e, d'.endpointSnapshot e)) = ids.map fun e => (e, d.endpointSnapshot e) :=
    List.map_congr_left fun e he => by rw [endpointSnapshot_congr hagree (hP e he)]
  rw [Device.snapshot, Device.snapshot, hmap]

variable (hg : ∀ e ∈ g.ids, e ∈ endpoints) (hP : ∀ e ∈ g.ids, ∀ rel, P ((base e).join rel))

include hg hP

theorem confined_readVersions : Confined (Session.Faultless endpoints id) P g.readVersions :=
  confined_of_report (local_versions hP) fun _ _ hs => runs_readVersions hs hg

theorem confined_snapshot : Confined (Session.Faultless endpoints id) P g.snapshot :=
  confined_of_report (local_snapshot hP) fun _ _ hs => runs_snapshot hs hg

end Reports

/-! ## Switches -/

theorem local_switched (he : ∀ rel, P ((base e).join rel)) (on : Bool) (partition : UInt32) :
    Local P fun d => (.ok (), d.switched on partition e) :=
  ⟨fun d => Device.agreeAt_setWords_of_not (fun rel h => h (he rel)) d _,
    fun _ _ _ hagree => ⟨rfl, Device.agreeAt_setWords hagree e _⟩⟩

theorem confined_enableOne (hmem : e ∈ endpoints) (he : ∀ rel, P ((base e).join rel)) (on : Bool) (partition : UInt32) :
    Confined (Session.Faultless endpoints id) P (enableOne on partition e) := by
  refine confined_of_runs (local_switched he on partition) fun now s hs => (runs_enableOne hs hmem).mono ?_ ?_
  · rintro _ t _ ⟨ht, hdev⟩
    exact ⟨ht, by rw [hdev]⟩
  · exact fun err t _ ht => ⟨ht.1, ht.2.1, Or.inr ht.2.2⟩

theorem confined_enable (hg : ∀ e ∈ g.ids, e ∈ endpoints) (hP : ∀ e ∈ g.ids, ∀ rel, P ((base e).join rel)) (on : Bool)
    (partition : UInt32) : Confined (Session.Faultless endpoints id) P (g.enable on partition) := by
  unfold enable
  by_cases hp : maxPartition < partition
  · rw [if_pos hp]
    exact confined_fail _
  · rw [if_neg hp]
    refine confined_bind (confined_each fun e he => confined_enableOne (hg e he) (hP e he) on partition) fun _ => ?_
    exact confined_bind (confined_log _ _) fun _ => confined_pure _

/-! ## Readout -/

/-- A readout of one endpoint as a step.  Where it fails the device stays. -/
def readbackStep (mode : ReadoutMode) (e : UInt32) (d : Device) : Except Error Readback × Device :=
  match d.readback mode e with
  | .ok (report, d') => (.ok report, d')
  | .error err => (.error err, d)

theorem local_readback (he : ∀ rel, P ((base e).join rel)) (mode : ReadoutMode) : Local P (readbackStep mode e) := by
  refine ⟨fun d => ?_, fun d d' hid hagree => ?_⟩
  · unfold readbackStep Device.readback
    dsimp only
    split_ifs
    · exact .refl _ _
    rw [Device.readBlock_data]
    cases d.registers.fifos[data e]? with
    | none => exact .refl _ _
    | some queue =>
      dsimp only
      split_ifs
      · exact .refl _ _
      · exact Registers.agreeAt_setBuffer (fun h => h (he bufferData)) (fun h => h (he bufferCount)) _
  · have hcount : d'.word? (count e) = d.word? (count e) := hagree.words _ (he bufferCount)
    have hblock : d'.block? (data e) = d.block? (data e) := hagree.blocks _ (he bufferData)
    have hqueue : d'.registers.fifos[data e]? = d.registers.fifos[data e]? := hagree.fifos _ (he bufferData)
    unfold readbackStep Device.readback
    simp only [hcount]
    split_ifs
    · exact ⟨rfl, hagree⟩
    rw [Device.readBlock_data, Device.readBlock_data, hqueue, hblock, hid]
    cases d.registers.fifos[data e]? with
    | none => exact ⟨rfl, hagree⟩
    | some queue =>
      dsimp only
      split_ifs
      · exact ⟨rfl, hagree⟩
      · exact ⟨rfl, hagree.setBuffer e _⟩

theorem confined_readbackOne (hmem : e ∈ endpoints) (he : ∀ rel, P ((base e).join rel)) (mode : ReadoutMode) :
    Confined (Session.Faultless endpoints id) P (readbackOne mode e) := by
  refine confined_of_runs (local_readback he mode) fun now s hs => (runs_readbackOne_onEndpoints hs hmem).mono ?_ ?_
  · rintro report t _ ⟨ht, hread⟩
    exact ⟨ht, by rw [readbackStep, hread]⟩
  · rintro err t _ ⟨ht, hdev, hread | hrefused⟩
    · exact ⟨ht, hdev, Or.inl (by rw [readbackStep, hread])⟩
    · exact ⟨ht, hdev, Or.inr hrefused⟩

/-! ## Operations -/

theorem confined_perform (hg : ∀ e ∈ g.ids, e ∈ endpoints) (hP : ∀ e ∈ g.ids, ∀ rel, P ((base e).join rel))
    (o : Operation) : Confined (Session.Faultless endpoints id) P (g.perform o) := by
  cases o with
  | readVersions => exact confined_readVersions hg hP
  | enable on partition => exact confined_enable hg hP on partition
  | snapshot => exact confined_snapshot hg hP
  | readback mode => exact confined_each fun e he => confined_readbackOne (hg e he) (hP e he) mode

variable {ids : List UInt32} {s : Session}

/-- On existing endpoints an operation is what it is on their group. -/
theorem run_operate (hs : s.OnEndpoints endpoints) (hids : ∀ e ∈ ids, e ∈ endpoints) (device : String) (o : Operation)
    (now : UInt64) : ∃ events, (operate device ids o).run now s =
      ((perform ⟨device, ascending ids⟩ o).run now s).after events := by
  have hknown : ∀ e ∈ ids, s.hasNode (base e) = true := fun e he => hs.laid.hasNode_base.mpr (hids e he)
  have hfound : Runs now (resolve device ids) s (fun g t _ => g = ⟨device, ascending ids⟩ ∧ t = s) fun _ _ _ => False :=
    runs_resolve device hknown
  obtain ⟨hok, herr⟩ := runs_iff.mp hfound
  have hrun : (operate device ids o).run now s =
      ((resolve device ids).run now s).andThen fun g t => (g.perform o).run now t :=
    run_bind now _ _ s
  cases hresult : ((resolve device ids).run now s).result with
  | ok g =>
    obtain ⟨rfl, hstate⟩ := hok g hresult
    rw [hrun, Outcome.andThen_of_ok hresult, hstate]
    exact ⟨_, rfl⟩
  | error err => exact (herr err hresult).elim

/-- **An operation is confined to the nodes of its endpoints.** -/
theorem confined_operate (hids : ∀ e ∈ ids, e ∈ endpoints) (device : String) (o : Operation) :
    Confined (Session.Faultless endpoints id) (Within ids) (operate device ids o) := by
  have hperform : Confined (Session.Faultless endpoints id) (Within ids) (perform ⟨device, ascending ids⟩ o) :=
    confined_perform (fun e he => hids e (mem_ascending.mp he)) (fun e he => within_join_base (mem_ascending.mp he)) o
  constructor
  · rintro r now s hs
    obtain ⟨events, hrun⟩ := run_operate hs.1.onEndpoints hids device o now
    rw [hrun]
    exact hperform.keeps r now s hs
  · intro now s t hs ht hagree
    obtain ⟨events, hrun⟩ := run_operate hs.onEndpoints hids device o now
    obtain ⟨events', hrun'⟩ := run_operate ht.onEndpoints hids device o now
    rw [hrun, hrun']
    exact hperform.agrees now s t hs ht hagree

/-- **Operations on disjoint endpoints commute.**  On an endpoint device without faults, whatever is set on its
endpoints, two operations on groups that share no endpoint have the same results in both orders and lead to the same
words, blocks and queues.  Neither changes what lies outside the nodes of its own endpoints. -/
theorem operate_commute (id : String) (endpoints : List UInt32) (settings : List (UInt32 × EndpointSetting))
    (hsettings : ∀ c ∈ settings, c.1 ∈ endpoints ∧ c.2.Fits) (ids others : List UInt32)
    (hids : ∀ e ∈ ids, e ∈ endpoints) (hothers : ∀ e ∈ others, e ∈ endpoints) (hdisjoint : ∀ e ∈ ids, e ∉ others)
    (o o' : Operation) (now now' : UInt64) :
    let s := Session.ofDevice ((Device.endpoint id endpoints).prepared settings)
    let p := operate s.name ids o
    let q := operate s.name others o'
    (p.run now (q.run now' s).state).result = (p.run now s).result ∧
    (q.run now' (p.run now s).state).result = (q.run now' s).result ∧
    (q.run now' (p.run now s).state).state.device.registers = (p.run now (q.run now' s).state).state.device.registers ∧
    s.device.registers.AgreeAt (fun path => ¬ Within ids path) (p.run now s).state.device.registers := by
  intro s p q
  have hlaid : s.device.registers.Laid endpoints := Device.laid_prepared (Device.laid_endpoint id endpoints) hsettings
  have hdevice : s.device = { Device.endpoint id endpoints with registers := s.device.registers } :=
    Device.prepared_eq (Device.endpoint id endpoints) settings
  have hs : s.Faultless endpoints id := by
    refine ⟨⟨rfl, Session.Fresh.orderly ⟨rfl, rfl⟩, ?_, hlaid⟩, ?_, ?_⟩
    all_goals rw [hdevice]; rfl
  have hp : Confined (Session.Faultless endpoints id) (Within ids) p := confined_operate hids s.name o
  have hq : Confined (Session.Faultless endpoints id) (Within others) q := confined_operate hothers s.name o'
  have hapart : ∀ path, Within ids path → ¬ Within others path := fun path => not_within_of_disjoint hdisjoint
  obtain ⟨hfirst, hsecond, hregisters⟩ := hp.commute hq hapart now now' hs
  exact ⟨hfirst, hsecond, hregisters, (hp.untouched now hs).2⟩

/-- A readout of endpoint 1 and a switch of endpoint 10, in both orders. -/
theorem readback_commutes_with_enable :
    let s := Session.ofDevice ((Device.endpoint "EPT" [1, 10]).prepared [(1, .buffer [7, 8]), (10, .version 2)])
    let p := operate s.name [1] (.readback .everything)
    let q := operate s.name [10, 10] (.enable true 3)
    let t := (q.run 0 (p.run 0 s).state).state
    (p.run 0 (q.run 0 s).state).result = (p.run 0 s).result ∧
    t.device.registers = (p.run 0 (q.run 0 s).state).state.device.registers ∧
    t.device.registers.buffer 1 = [] ∧ t.device.word? ((base 10).join state) = some EndpointState.ready.code := by
  have hsettings : ∀ c ∈ [((1 : UInt32), EndpointSetting.buffer [7, 8]), (10, .version 2)], c.1 ∈ [1, 10] ∧ c.2.Fits := by
    simp [EndpointSetting.Fits]
  have hcommute := operate_commute "EPT" [1, 10] [(1, .buffer [7, 8]), (10, .version 2)] hsettings
    [1] [10, 10] (by simp) (by simp) (by simp) (.readback .everything) (.enable true 3) 0 0
  exact ⟨hcommute.1, hcommute.2.2.1, by decide +kernel, by decide +kernel⟩

end EndpointGroup

end TimingFleet

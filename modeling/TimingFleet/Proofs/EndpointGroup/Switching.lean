import TimingFleet.Proofs.EndpointGroup.Reports

/-!
# Switching endpoints

An endpoint is switched by one batch, to which the device adds what follows from the enable bit.  Either all of it
takes effect or nothing: `runs_enableOne`.

* `switchWords on partition`: the words that a switch sets, with the reactions of the device.
* `Device.setWords d e words`: the device after words of endpoint `e` have been set.
-/

namespace TimingFleet

open EndpointNode Procedure

/-! ## Words of one endpoint -/

namespace Device

variable {d : Device} {e : UInt32} {words : List (NodePath × UInt32)} {path : NodePath} {endpoints : List UInt32}

/-- Sets words of endpoint `e`, one after the other. -/
def setWords (d : Device) (e : UInt32) (words : List (NodePath × UInt32)) : Device :=
  words.foldl (fun d w => d.setWord ((base e).join w.1) w.2) d

theorem setWords_cons (d : Device) (e : UInt32) (w : NodePath × UInt32) (words : List (NodePath × UInt32)) :
    d.setWords e (w :: words) = (d.setWord ((base e).join w.1) w.2).setWords e words := rfl

theorem setWords_append (d : Device) (e : UInt32) (words more : List (NodePath × UInt32)) :
    d.setWords e (words ++ more) = (d.setWords e words).setWords e more := List.foldl_append

/-- Only words change. -/
theorem setWords_eq (d : Device) (e : UInt32) (words : List (NodePath × UInt32)) :
    d.setWords e words = { d with registers := { d.registers with words := (d.setWords e words).registers.words } } := by
  induction words generalizing d with
  | nil => rfl
  | cons w words ih => exact ih (d.setWord ((base e).join w.1) w.2)

/-- The value set last is there. -/
theorem word?_setWords (d : Device) (e : UInt32) (words : List (NodePath × UInt32)) (rel : NodePath) :
    (d.setWords e words).word? ((base e).join rel) =
      (words.reverse.lookup rel).or (d.word? ((base e).join rel)) := by
  induction words generalizing d with
  | nil => rfl
  | cons w words ih =>
    obtain ⟨rel', value⟩ := w
    rw [setWords_cons, ih, word?_setWord, List.reverse_cons, List.lookup_append, Option.or_assoc]
    congr 1
    by_cases hrel : rel' = rel
    · subst hrel
      simp
    · have hne : (base e).join rel' ≠ (base e).join rel := fun h => hrel (join_base_inj.mp h).2
      have hlookup : (rel == rel') = false := beq_eq_false_iff_ne.mpr (Ne.symm hrel)
      simp [List.lookup_cons, hlookup, if_neg hne]

/-- What is no word of the endpoint stays. -/
theorem word?_setWords_of_ne (h : ∀ rel, (base e).join rel ≠ path) : (d.setWords e words).word? path = d.word? path := by
  induction words generalizing d with
  | nil => rfl
  | cons w words ih => rw [setWords_cons, ih, word?_setWord, if_neg (h w.1)]

theorem sameNodes_setWords (h : d.registers.Laid endpoints) (he : e ∈ endpoints)
    (hwords : ∀ w ∈ words, w.1 ∈ wordNodes) : d.registers.SameNodes (d.setWords e words).registers := by
  induction words generalizing d with
  | nil => exact .refl _
  | cons w words ih =>
    have hfirst := Registers.sameNodes_setWord (h.contains_word he (hwords w List.mem_cons_self)) w.2
    exact hfirst.trans (ih (d := d.setWord _ w.2) (h.sameNodes hfirst) fun v hv => hwords v (List.mem_cons_of_mem w hv))

/-! ## Writes to an endpoint device -/

theorem writeWord_enable_endpoint (hk : d.kind = .endpoint) (e value : UInt32) :
    d.writeWord ((base e).join enable) value = d.setWords e [(enable, value),
      (state, (stateAfterEnable value .ready).code), (readyFlag, flag (value != 0))] := by
  have hk' : (d.setWord ((base e).join enable) value).kind = .endpoint := hk
  have hready : (⟨(base e).parts ++ readyFlag.parts⟩ : NodePath) = (base e).join readyFlag := (join_base e readyFlag).symm
  unfold writeWord
  simp only [hk', reactEndpoint, beforeSuffix_join_base, hready]
  rfl

/-- A write to any other word of an endpoint has no further effect. -/
theorem writeWord_endpoint (hk : d.kind = .endpoint) (e value : UInt32) {rel : NodePath}
    (hrel : ∀ id : UInt32, NodePath.beforeSuffix enable ((base id).join rel) = none) :
    d.writeWord ((base e).join rel) value = d.setWords e [(rel, value)] := by
  have hk' : (d.setWord ((base e).join rel) value).kind = .endpoint := hk
  unfold writeWord
  simp only [hk', reactEndpoint, hrel e]
  rfl

end Device

theorem EndpointNode.beforeSuffix_partition (id : UInt32) :
    NodePath.beforeSuffix enable ((base id).join partition) = none := by
  rw [join_base]
  simp [NodePath.beforeSuffix, enable, partition]

theorem EndpointNode.beforeSuffix_bufferEnable (id : UInt32) :
    NodePath.beforeSuffix enable ((base id).join bufferEnable) = none := by
  rw [join_base]
  simp [NodePath.beforeSuffix, enable, bufferEnable]

/-! ## Switches -/

/-- The words that a switch sets, in their order: its own and those that the device adds. -/
def switchWords (on : Bool) (partition : UInt32) : List (NodePath × UInt32) :=
  (if on then [(EndpointNode.partition, partition)] else []) ++
    [(enable, Device.flag on), (state, if on then EndpointState.ready.code else EndpointState.standingBy.code),
      (readyFlag, Device.flag on), (bufferEnable, Device.flag on)]

theorem mem_wordNodes_of_switchWords {on : Bool} {partition : UInt32} :
    ∀ w ∈ switchWords on partition, w.1 ∈ wordNodes := by
  have hnames : (switchWords on partition).map Prod.fst = (switchWords on 0).map Prod.fst := by cases on <;> rfl
  have hall : ∀ on, ∀ rel ∈ (switchWords on 0).map Prod.fst, rel ∈ wordNodes := by decide
  intro w hw
  exact hall on w.1 (hnames ▸ List.mem_map_of_mem hw)

/-- The device after endpoint `e` has been switched. -/
def Device.switched (d : Device) (on : Bool) (partition e : UInt32) : Device := d.setWords e (switchWords on partition)

namespace Device

variable {d : Device} {on : Bool} {partition e : UInt32}

theorem word?_switched {rel : NodePath} {value : Option UInt32}
    (h : (switchWords on partition).reverse.lookup rel = value) :
    (d.switched on partition e).word? ((base e).join rel) = value.or (d.word? ((base e).join rel)) :=
  h ▸ d.word?_setWords e (switchWords on partition) rel

/-- The bits of an endpoint that has been switched, and its state. -/
theorem word?_switched_bits (d : Device) (on : Bool) (partition e : UInt32) :
    (d.switched on partition e).word? ((base e).join enable) = some (flag on) ∧
    (d.switched on partition e).word? ((base e).join bufferEnable) = some (flag on) ∧
    (d.switched on partition e).word? ((base e).join readyFlag) = some (flag on) ∧
    (d.switched on partition e).word? ((base e).join state) =
      some (if on then EndpointState.ready.code else EndpointState.standingBy.code) := by
  cases on <;> exact ⟨word?_switched rfl, word?_switched rfl, word?_switched rfl, word?_switched rfl⟩

/-- A partition is set only where the endpoint is switched on. -/
theorem word?_switched_partition (d : Device) (on : Bool) (partition e : UInt32) :
    (d.switched on partition e).word? ((base e).join EndpointNode.partition) =
      if on then some partition else d.word? ((base e).join EndpointNode.partition) := by
  cases on <;> exact word?_switched rfl

theorem word?_switched_count (d : Device) (on : Bool) (partition e : UInt32) :
    (d.switched on partition e).word? (count e) = d.word? (count e) := by
  cases on <;> exact word?_switched rfl

/-- Words of other endpoints stay. -/
theorem word?_switched_of_ne {path : NodePath} (h : ∀ rel, (base e).join rel ≠ path) :
    (d.switched on partition e).word? path = d.word? path := word?_setWords_of_ne h

theorem fifos_switched (d : Device) (on : Bool) (partition e : UInt32) :
    (d.switched on partition e).registers.fifos = d.registers.fifos :=
  congrArg (fun d => d.registers.fifos) (d.setWords_eq e (switchWords on partition))

end Device

namespace EndpointGroup

variable {s : Session} {endpoints : List UInt32} {now : UInt64} {d : Device} {e : UInt32} {on : Bool} {partition : UInt32}

/-- The writes of a switch, in their order. -/
def switchBatch (on : Bool) (partition e : UInt32) : List Pending :=
  (if on then [.write (node e EndpointNode.partition) partition] else []) ++
    [.write (node e EndpointNode.enable) (Device.flag on), .write (node e bufferEnable) (Device.flag on)]

theorem foldl_switchBatch (hk : d.kind = .endpoint) :
    (switchBatch on partition e).foldl Device.after d = d.switched on partition e := by
  have hkind : ∀ (c : Device) (words : List (NodePath × UInt32)), c.kind = .endpoint →
      (c.setWords e words).kind = .endpoint := fun c words hc => by
    rw [Device.setWords_eq]
    exact hc
  have hflag : (Device.flag on != 0) = on := by cases on <;> rfl
  have hstate : (Device.stateAfterEnable (Device.flag on) .ready).code =
      if on then EndpointState.ready.code else EndpointState.standingBy.code := by cases on <;> rfl
  -- the two enable bits, from any state of the partition
  have hbits : ∀ c : Device, c.kind = .endpoint →
      [Pending.write (node e EndpointNode.enable) (Device.flag on), .write (node e bufferEnable) (Device.flag on)].foldl
        Device.after c = c.setWords e [(EndpointNode.enable, Device.flag on),
          (state, if on then EndpointState.ready.code else EndpointState.standingBy.code),
          (readyFlag, Device.flag on), (bufferEnable, Device.flag on)] := by
    intro c hc
    show (c.writeWord ((base e).join EndpointNode.enable) (Device.flag on)).writeWord ((base e).join bufferEnable)
      (Device.flag on) = _
    rw [Device.writeWord_enable_endpoint hc, Device.writeWord_endpoint (hkind c _ hc) e _ beforeSuffix_bufferEnable,
      hflag, hstate]
    rfl
  unfold switchBatch Device.switched switchWords
  rw [List.foldl_append, Device.setWords_append]
  cases on with
  | false => exact hbits d hk
  | true =>
    have hpartition : d.writeWord ((base e).join EndpointNode.partition) partition =
        d.setWords e [(EndpointNode.partition, partition)] :=
      Device.writeWord_endpoint hk e partition beforeSuffix_partition
    show List.foldl _ (d.writeWord ((base e).join EndpointNode.partition) partition) _ = _
    rw [hpartition]
    exact hbits _ (hkind d _ hk)

/-- **Switching one endpoint** takes effect as a whole, or not at all when the dispatch is refused. -/
theorem runs_enableOne_or_refused (hs : s.Clear) (hk : s.device.kind = .endpoint)
    (hl : s.device.registers.Laid endpoints) (he : e ∈ endpoints) :
    Runs now (enableOne on partition e) s
      (fun _ t _ => t.Clear ∧ t.device = s.device.switched on partition e)
      fun err t tr => t.device = s.device ∧ EndsRefused (switchBatch on partition e) err t tr := by
  have hwrites : ∀ op ∈ switchBatch on partition e, op.slot? = none := by cases on <;> simp [switchBatch, Pending.slot?]
  have henable := hl.contains_word he (by decide : EndpointNode.enable ∈ wordNodes)
  have hbuffer := hl.contains_word he (by decide : EndpointNode.bufferEnable ∈ wordNodes)
  -- the end of the batch, after the partition has been queued or not
  have hrest : ∀ t : Session, t.device = s.device →
      t.batch.toList ++ [.write (node e EndpointNode.enable) (Device.flag on),
        .write (node e EndpointNode.bufferEnable) (Device.flag on)] = switchBatch on partition e →
      Runs now (do
        write (node e EndpointNode.enable) (Device.flag on)
        write (node e EndpointNode.bufferEnable) (Device.flag on)
        dispatch
        log .debug ("Endpoint " ++ Text.Numeral.decimal e.toNat ++ if on then " enabled" else " disabled")) t
        (fun _ u _ => u.Clear ∧ u.device = s.device.switched on partition e)
        fun err u tr => u.device = s.device ∧ EndsRefused (switchBatch on partition e) err u tr := by
    intro t hdev hbatch
    refine runs_bind (runs_write (hdev ▸ henable) ?_)
    refine runs_bind (runs_write (s := t.enqueue _) (hdev ▸ hbuffer) ?_)
    obtain ⟨hres, hafter⟩ := Bench.serveAll_of_suffices (b := t.bench) (Device.suffices_of_writes hwrites)
    rw [show t.bench.device = s.device from hdev, foldl_switchBatch hk] at hafter
    have hqueued : ((t.enqueue (.write (node e EndpointNode.enable) (Device.flag on))).enqueue
        (.write (node e EndpointNode.bufferEnable) (Device.flag on))).batch.toList = switchBatch on partition e := by
      simp [← hbatch]
    refine runs_bind (runs_dispatch_or_refused (switchBatch on partition e) hqueued ⟨hres, rfl⟩
      (fun _ u hu hbench => runs_log ⟨hu, (congrArg Bench.device hbench).trans hafter⟩) fun reason hr => ?_)
    exact ⟨hdev, ((endsRefused_of_refusal hqueued hr).append _).append _⟩
  cases on with
  | false => exact hrest s rfl (by simp [show s.batch = #[] from hs, switchBatch])
  | true =>
    have hpartition := hl.contains_word he (by decide : EndpointNode.partition ∈ wordNodes)
    refine runs_bind (runs_write hpartition ?_)
    exact (hrest (s.enqueue (.write (node e EndpointNode.partition) partition)) rfl
      (by simp [show s.batch = #[] from hs, switchBatch])).mono (fun _ _ _ h => h) fun _ _ _ h => ⟨h.1, h.2.append _⟩

/-- The same for an endpoint of an endpoint device. -/
theorem runs_enableOne (hs : s.OnEndpoints endpoints) (he : e ∈ endpoints) :
    Runs now (enableOne on partition e) s
      (fun _ t _ => t.OnEndpoints endpoints ∧ t.device = s.device.switched on partition e)
      fun err t _ => t.OnEndpoints endpoints ∧ t.device = s.device ∧ t.JustRefused err := by
  have hnodes : s.device.registers.SameNodes (s.device.switched on partition e).registers :=
    Device.sameNodes_setWords hs.laid he mem_wordNodes_of_switchWords
  refine hs.runs ((runs_enableOne_or_refused hs.clear hs.kind hs.laid he).mono (fun _ t _ h => ?_) fun err t tr h => ?_)
  · exact ⟨⟨h.1, h.2 ▸ hnodes⟩, h.2⟩
  · exact ⟨⟨h.2.batch, h.1 ▸ .refl _⟩, h.1, h.2.justRefused⟩

end EndpointGroup

end TimingFleet

import TimingFleet.Proofs.Session.Serving

/-!
# What operations do to a device

The effect of a batch, said without serving it.

* `Device.contents d path words`: what a block read of `words` words finds at `path`.
* `Device.after d op`: the device once `op` has taken effect.
* `Device.Short d op`: `op` asks a queue for more words than it holds.
* `Device.Suffices d ops`: no operation of `ops` is short when its turn comes.

Main statements: a batch that suffices is served, with all effects in their order (`serveAll_of_suffices`);
otherwise serving ends at the first operation that is short, which has done nothing (`serveAll_of_short`).
-/

namespace TimingFleet

namespace Device

variable {d : Device} {op : Pending} {ops : List Pending} {path : NodePath} {words : Nat}

/-- The words that a block read finds: the first ones of a queue, or the block cut to size. -/
def contents (d : Device) (path : NodePath) (words : Nat) : List UInt32 :=
  match d.registers.fifos[path]? with
  | some queue => queue.take words
  | none => resize words ((d.block? path).getD [])

/-- The device without the first `words` words of the queue at `path`, if there is a queue.  The occupancy
register of a readout buffer follows. -/
def takeOut (d : Device) (path : NodePath) (words : Nat) : Device :=
  match d.registers.fifos[path]? with
  | none => d
  | some queue =>
    let e := { d with registers := d.registers.setFifo path (queue.drop words) }
    match NodePath.beforeSuffix EndpointNode.bufferData path with
    | none => e
    | some base => e.setWord (base.join EndpointNode.bufferCount) (UInt32.ofNat (queue.length - words))

/-- The device once the operation has taken effect. -/
def after (d : Device) : Pending → Device
  | .read _ => d
  | .readBlock handle words => d.takeOut handle.path words
  | .write path value => d.writeWord path value
  | .writeBlock path values => d.writeBlock path values

/-- The operation asks a queue for more words than it holds. -/
def Short (d : Device) (op : Pending) : Prop :=
  ∃ handle words queue, op = .readBlock handle words ∧ d.registers.fifos[handle.path]? = some queue ∧
    queue.length < words

/-- Each operation in its turn finds as many words as it asks for. -/
def Suffices (d : Device) : List Pending → Prop
  | [] => True
  | op :: ops => ¬ d.Short op ∧ (d.after op).Suffices ops

instance decidableShort (d : Device) (op : Pending) : Decidable (d.Short op) :=
  match op with
  | .readBlock handle words =>
    match hq : d.registers.fifos[handle.path]? with
    | some queue =>
      decidable_of_iff (queue.length < words)
        ⟨fun h => ⟨handle, words, queue, rfl, hq, h⟩, fun ⟨_, _, _, he, hq', h⟩ => by
          cases he
          rw [hq] at hq'
          cases hq'
          exact h⟩
    | none => isFalse fun ⟨_, _, _, he, hq', _⟩ => by
        cases he
        rw [hq] at hq'
        cases hq'
  | .read _ => isFalse fun ⟨_, _, _, he, _⟩ => nomatch he
  | .write _ _ => isFalse fun ⟨_, _, _, he, _⟩ => nomatch he
  | .writeBlock _ _ => isFalse fun ⟨_, _, _, he, _⟩ => nomatch he

instance decidableSuffices : (d : Device) → (ops : List Pending) → Decidable (d.Suffices ops)
  | _, [] => isTrue trivial
  | d, op :: ops =>
    have := decidableSuffices (d.after op) ops
    inferInstanceAs (Decidable (¬ d.Short op ∧ (d.after op).Suffices ops))

theorem readBlock_of_short {queue : List UInt32} (hq : d.registers.fifos[path]? = some queue)
    (h : queue.length < words) : ∃ reason, d.readBlock path words = .error (.transport d.id reason) := by
  unfold readBlock
  simp only [hq, if_pos h]
  exact ⟨_, rfl⟩

theorem readBlock_of_not_short (h : ∀ queue, d.registers.fifos[path]? = some queue → words ≤ queue.length) :
    d.readBlock path words = .ok (d.contents path words, d.takeOut path words) := by
  unfold readBlock contents takeOut
  cases hq : d.registers.fifos[path]? with
  | none => rfl
  | some queue =>
    have hle : ¬ queue.length < words := Nat.not_lt.mpr (h queue hq)
    simp only [if_neg hle, List.length_drop]
    cases NodePath.beforeSuffix EndpointNode.bufferData path <;> rfl

/-- A block read that succeeds has found the contents and taken them out. -/
theorem eq_of_readBlock {e : Device} {values : List UInt32} (h : d.readBlock path words = .ok (values, e)) :
    values = d.contents path words ∧ e = d.takeOut path words := by
  have henough : ∀ queue, d.registers.fifos[path]? = some queue → words ≤ queue.length := by
    intro queue hq
    refine Nat.not_lt.mp fun hlt => ?_
    obtain ⟨reason, herr⟩ := readBlock_of_short hq hlt
    exact nomatch h.symm.trans herr
  rw [readBlock_of_not_short henough] at h
  exact ⟨(congrArg Prod.fst (Except.ok.inj h)).symm, (congrArg Prod.snd (Except.ok.inj h)).symm⟩

theorem evolves_takeOut (d : Device) (path : NodePath) (words : Nat) : d.Evolves (d.takeOut path words) := by
  unfold takeOut
  cases hq : d.registers.fifos[path]? with
  | none => exact .refl d
  | some queue =>
    have hcontains : d.registers.fifos.contains path = true := by
      rw [Std.ExtTreeMap.contains_eq_isSome_getElem?, hq]
      rfl
    have htaken : d.Evolves { d with registers := d.registers.setFifo path (queue.drop words) } :=
      ⟨rfl, rfl, rfl, rfl, rfl, rfl, .setFifo hcontains _⟩
    cases NodePath.beforeSuffix EndpointNode.bufferData path with
    | none => exact htaken
    | some base => exact htaken.trans (evolves_setWord _ _ _)

theorem evolves_after (d : Device) (op : Pending) : d.Evolves (d.after op) := by
  cases op with
  | read handle => exact .refl d
  | readBlock handle words => exact d.evolves_takeOut handle.path words
  | write path value => exact d.evolves_writeWord path value
  | writeBlock path values => exact d.evolves_writeBlock path values

/-- A batch suffices, or there is a first operation that is short. -/
theorem suffices_or_short (d : Device) (ops : List Pending) :
    d.Suffices ops ∨ ∃ done op rest, ops = done ++ op :: rest ∧ d.Suffices done ∧
      (done.foldl after d).Short op := by
  induction ops generalizing d with
  | nil => exact Or.inl trivial
  | cons op ops ih =>
    by_cases hop : d.Short op
    · exact Or.inr ⟨[], op, ops, rfl, trivial, hop⟩
    rcases ih (d.after op) with h | ⟨done, stop, rest, rfl, hdone, hstop⟩
    · exact Or.inl ⟨hop, h⟩
    · exact Or.inr ⟨op :: done, stop, rest, rfl, ⟨hop, hdone⟩, hstop⟩

/-- Writes always suffice. -/
theorem suffices_of_writes (h : ∀ op ∈ ops, op.slot? = none) : d.Suffices ops := by
  induction ops generalizing d with
  | nil => exact trivial
  | cons op ops ih =>
    refine ⟨?_, ih fun x hx => h x (List.mem_cons_of_mem op hx)⟩
    rintro ⟨handle, words, queue, rfl, -, -⟩
    exact nomatch h _ List.mem_cons_self

/-- Without queues every batch suffices. -/
theorem suffices_of_no_queue (h : ∀ path, d.registers.fifos.contains path = false) (ops : List Pending) :
    d.Suffices ops := by
  induction ops generalizing d with
  | nil => exact trivial
  | cons op ops ih =>
    refine ⟨?_, ih fun path => ((d.evolves_after op).registers.fifos path).trans (h path)⟩
    rintro ⟨handle, words, queue, -, hqueue, -⟩
    have hcontains : d.registers.fifos.contains handle.path = true := by
      rw [Std.ExtTreeMap.contains_eq_isSome_getElem?, hqueue]
      rfl
    exact absurd (hcontains.symm.trans (h handle.path)) (by decide)

theorem suffices_append {xs ys : List Pending} (h : d.Suffices (xs ++ ys)) :
    d.Suffices xs ∧ (xs.foldl after d).Suffices ys := by
  induction xs generalizing d with
  | nil => exact ⟨trivial, h⟩
  | cons op xs ih =>
    obtain ⟨hop, hrest⟩ := h
    obtain ⟨hxs, hys⟩ := ih hrest
    exact ⟨⟨hop, hxs⟩, hys⟩

end Device

/-! ## Serving -/

namespace Bench

variable {b : Bench} {op : Pending} {ops : List Pending}

theorem serve_of_short (h : b.device.Short op) :
    ∃ reason, (b.serve op).result = .error (.transport b.device.id reason) := by
  obtain ⟨handle, words, queue, rfl, hq, hlt⟩ := h
  obtain ⟨reason, hr⟩ := Device.readBlock_of_short hq hlt
  exact ⟨reason, by simp only [serve, hr, Outcome.error]⟩

/-- What a block read that is not short fills in and leaves. -/
theorem serve_readBlock {handle : BlockHandle} {words : Nat}
    (h : ¬ b.device.Short (.readBlock handle words)) :
    b.serve (.readBlock handle words) =
      .ok () ⟨b.device.takeOut handle.path words,
        b.slots.fillBlock handle (b.device.contents handle.path words)⟩ := by
  have hle : ∀ queue, b.device.registers.fifos[handle.path]? = some queue → words ≤ queue.length :=
    fun queue hq => Nat.not_lt.mp fun hlt => h ⟨handle, words, queue, rfl, hq, hlt⟩
  simp only [serve, Device.readBlock_of_not_short hle]

theorem serve_of_not_short (h : ¬ b.device.Short op) :
    (b.serve op).result = .ok () ∧ (b.serve op).state.device = b.device.after op := by
  cases op with
  | readBlock handle words =>
    rw [serve_readBlock h]
    exact ⟨rfl, rfl⟩
  | _ => exact ⟨rfl, rfl⟩

/-- **A batch that suffices** is served, and its effects follow one another. -/
theorem serveAll_of_suffices (h : b.device.Suffices ops) :
    (b.serveAll ops).result = .ok () ∧ (b.serveAll ops).state.device = ops.foldl Device.after b.device := by
  induction ops generalizing b with
  | nil => exact ⟨rfl, rfl⟩
  | cons op ops ih =>
    obtain ⟨hop, hrest⟩ := h
    obtain ⟨hres, hdev⟩ := serve_of_not_short hop
    rw [← hdev] at hrest
    obtain ⟨hres', hdev'⟩ := ih hrest
    rw [serveAll_cons, Outcome.andThen_of_ok hres]
    refine ⟨hres', ?_⟩
    rw [Outcome.state_after, hdev', hdev, List.foldl_cons]

/-- **A batch that does not suffice** ends at the first operation that is short.  All before it has been served,
and that is all that happened. -/
theorem serveAll_of_short (h : b.device.Suffices ops) (hop : (ops.foldl Device.after b.device).Short op)
    (rest : List Pending) :
    (∃ reason, (b.serveAll (ops ++ op :: rest)).result = .error (.transport b.device.id reason)) ∧
      (b.serveAll (ops ++ op :: rest)).state = (b.serveAll ops).state := by
  obtain ⟨hres, hdev⟩ := serveAll_of_suffices h
  rw [← hdev] at hop
  obtain ⟨reason, herr⟩ := serve_of_short hop
  have hid : (b.serveAll ops).state.device.id = b.device.id := (b.evolves_serveAll ops).id
  rw [serveAll_append, Outcome.andThen_of_ok hres, serveAll_cons, Outcome.andThen_of_error herr]
  exact ⟨⟨reason, by rw [Outcome.result_after, hid]⟩, serve_state_of_error herr⟩

/-- What each operation of a batch keeps, holds of the device afterwards, however much of the batch was served. -/
theorem serveAll_keeps {I : Device → Prop} (hI : ∀ op ∈ ops, ∀ d, I d → I (d.after op)) (hb : I b.device) :
    I (b.serveAll ops).state.device := by
  induction ops generalizing b with
  | nil => exact hb
  | cons op ops ih =>
    rw [serveAll_cons]
    by_cases hshort : b.device.Short op
    · obtain ⟨reason, herr⟩ := serve_of_short hshort
      rw [Outcome.andThen_of_error herr, serve_state_of_error herr]
      exact hb
    · obtain ⟨hok, hdev⟩ := serve_of_not_short hshort
      rw [Outcome.andThen_of_ok hok, Outcome.state_after]
      refine ih (fun x hx => hI x (List.mem_cons_of_mem op hx)) ?_
      rw [hdev]
      exact hI op List.mem_cons_self _ hb

end Bench

/-- The same for a dispatch, served or refused. -/
theorem Session.dispatch_keeps {s : Session} {I : Device → Prop}
    (hI : ∀ op ∈ s.batch.toList, ∀ d, I d → I (d.after op)) (hs : I s.device) : I s.dispatch.state.device := by
  cases h : s.device.refusal (s.dispatchCount + 1) with
  | some reason =>
    rw [dispatch_of_refusal h]
    exact hs
  | none =>
    rw [(dispatch_of_no_refusal h).2]
    exact Bench.serveAll_keeps (b := s.bench) hI hs

/-- The same for any answer. -/
theorem Session.answer_keeps {s : Session} {r : Request} {I : Device → Prop}
    (hI : ∀ op ∈ s.batch.toList, ∀ d, I d → I (d.after op)) (hs : I s.device) : I (s.answer r).state.device := by
  rcases s.answer_cases r with h | ⟨op, -, h | h⟩ | ⟨-, h⟩
  · rwa [h]
  · rwa [h]
  · rwa [h]
  · rw [h]
    exact dispatch_keeps hI hs

end TimingFleet

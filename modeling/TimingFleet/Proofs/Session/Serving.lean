import TimingFleet.Proofs.Device.Registers
import TimingFleet.Proofs.Outcome
import TimingFleet.Session.Request

/-!
# Serving batches

How an answer changes a session.  A request looks, or puts one operation into the batch, or serves the
batch; nothing else happens (`answer_cases`).  A dispatch is refused as a whole or serves the batch up to
the first operation that fails, and the batch is empty afterwards in either case.

* `Session.served s`: the operations that a dispatch of `s` gets done.
* `serveAll_append`: serving two lists is serving the first and, if that succeeds, the second.
* `answer_evolves`: the device evolves with every answer.
-/

namespace TimingFleet

/-! ## Operations in order -/

namespace Bench

variable {b : Bench} {op : Pending} {xs ys : List Pending}

theorem serveAll_cons (b : Bench) (op : Pending) (ops : List Pending) :
    b.serveAll (op :: ops) = (b.serve op).andThen fun _ c => c.serveAll ops := by
  cases h : (b.serve op).result with
  | ok u =>
    rw [Outcome.andThen_of_ok h]
    simp only [serveAll, h]
  | error e =>
    rw [Outcome.andThen_of_error h]
    simp only [serveAll, h]
    rw [← h]

/-- A batch of one operation. -/
theorem serveAll_singleton (b : Bench) (op : Pending) :
    (b.serveAll [op]).result = (b.serve op).result ∧ (b.serveAll [op]).state = (b.serve op).state := by
  rw [serveAll_cons]
  cases h : (b.serve op).result with
  | ok u => rw [Outcome.andThen_of_ok h]; exact ⟨rfl, rfl⟩
  | error e => rw [Outcome.andThen_of_error h]; exact ⟨rfl, rfl⟩

/-- **Serving in two parts**: the second part is served if the first succeeds, from where that ends. -/
theorem serveAll_append (b : Bench) (xs ys : List Pending) :
    b.serveAll (xs ++ ys) = (b.serveAll xs).andThen fun _ c => c.serveAll ys := by
  induction xs generalizing b with
  | nil => rfl
  | cons op xs ih =>
    rw [List.cons_append, serveAll_cons, serveAll_cons]
    cases h : (b.serve op).result with
    | ok u => rw [Outcome.andThen_of_ok h, Outcome.andThen_of_ok h, ih, Outcome.after_andThen]
    | error e => rw [Outcome.andThen_of_error h, Outcome.andThen_of_error h]; rfl

theorem serveAll_append_ok_iff :
    (b.serveAll (xs ++ ys)).result = .ok () ↔
      (b.serveAll xs).result = .ok () ∧ ((b.serveAll xs).state.serveAll ys).result = .ok () := by
  rw [serveAll_append, Outcome.andThen_ok_iff]
  exact ⟨fun ⟨_, h⟩ => h, fun h => ⟨(), h⟩⟩

theorem serveAll_append_state (h : (b.serveAll xs).result = .ok ()) :
    (b.serveAll (xs ++ ys)).state = ((b.serveAll xs).state.serveAll ys).state := by
  rw [serveAll_append, Outcome.andThen_of_ok h, Outcome.state_after]

/-- Serving `ops` succeeds and leads to `c`. -/
def Serves (b : Bench) (ops : List Pending) (c : Bench) : Prop :=
  (b.serveAll ops).result = .ok () ∧ (b.serveAll ops).state = c

namespace Serves

variable {c : Bench} {ops : List Pending}

theorem nil (b : Bench) : b.Serves [] b := ⟨rfl, rfl⟩

theorem cons (hop : (b.serve op).result = .ok ()) (h : (b.serve op).state.Serves ops c) :
    b.Serves (op :: ops) c := by
  unfold Serves
  rw [serveAll_cons, Outcome.andThen_of_ok hop]
  exact h

theorem read {handle : WordHandle}
    (h : Serves ⟨b.device, b.slots.fillWord handle ((b.device.word? handle.path).getD 0)⟩ ops c) :
    b.Serves (.read handle :: ops) c :=
  cons rfl h

theorem write {path : NodePath} {value : UInt32}
    (h : Serves ⟨b.device.writeWord path value, b.slots⟩ ops c) : b.Serves (.write path value :: ops) c :=
  cons rfl h

theorem writeBlock {path : NodePath} {values : List UInt32}
    (h : Serves ⟨b.device.writeBlock path values, b.slots⟩ ops c) :
    b.Serves (.writeBlock path values :: ops) c :=
  cons rfl h

/-- The read of a block that is no queue. -/
theorem readBlock {handle : BlockHandle} {words : Nat} (hq : b.device.registers.fifos[handle.path]? = none)
    (h : Serves ⟨b.device, b.slots.fillBlock handle
      (Device.resize words ((b.device.block? handle.path).getD []))⟩ ops c) :
    b.Serves (.readBlock handle words :: ops) c := by
  have hr : b.device.readBlock handle.path words =
      .ok (Device.resize words ((b.device.block? handle.path).getD []), b.device) := by
    simp only [Device.readBlock, hq]
  refine cons ?_ ?_
  · simp only [serve, hr, Outcome.ok]
  · simpa only [serve, hr, Outcome.ok] using h

end Serves

/-- The operations that get done when `ops` are served: those before the first that fails. -/
def served (b : Bench) : List Pending → List Pending
  | [] => []
  | op :: ops =>
    match (b.serve op).result with
    | .ok () => op :: (b.serve op).state.served ops
    | .error _ => []

theorem served_subset (b : Bench) (ops : List Pending) : ∀ op ∈ b.served ops, op ∈ ops := by
  induction ops generalizing b with
  | nil => exact fun op h => h
  | cons op ops ih =>
    intro x hx
    rw [served] at hx
    cases h : (b.serve op).result with
    | ok u =>
      rw [h] at hx
      rcases List.mem_cons.mp hx with rfl | hx
      · exact List.mem_cons_self
      · exact List.mem_cons_of_mem _ (ih _ x hx)
    | error e =>
      rw [h] at hx
      exact absurd hx List.not_mem_nil

theorem served_of_ok {ops : List Pending} (h : (b.serveAll ops).result = .ok ()) : b.served ops = ops := by
  induction ops generalizing b with
  | nil => rfl
  | cons op ops ih =>
    rw [serveAll_cons, Outcome.andThen_ok_iff] at h
    obtain ⟨_, hop, hops⟩ := h
    rw [served, hop]
    show op :: _ = _
    rw [ih hops]

/-- An operation that fails has done nothing. -/
theorem serve_state_of_error {e : Error} (h : (b.serve op).result = .error e) : (b.serve op).state = b := by
  cases op with
  | readBlock handle words =>
    cases hb : b.device.readBlock handle.path words with
    | ok found => simp [serve, hb, Outcome.ok] at h
    | error e => simp [serve, hb, Outcome.error]
  | _ => cases h

theorem evolves_serve (b : Bench) (op : Pending) : b.device.Evolves (b.serve op).state.device := by
  cases op with
  | read handle => exact .refl _
  | readBlock handle words =>
    cases h : b.device.readBlock handle.path words with
    | ok found => simpa [serve, h, Outcome.ok] using Device.evolves_readBlock h
    | error e => simpa [serve, h, Outcome.error] using Device.Evolves.refl b.device
  | write path value => exact Device.evolves_writeWord _ _ _
  | writeBlock path values => exact Device.evolves_writeBlock _ _ _

/-- Serving gives out no slots. -/
theorem next_serveAll (b : Bench) (ops : List Pending) : (b.serveAll ops).state.slots.next = b.slots.next := by
  induction ops generalizing b with
  | nil => rfl
  | cons op ops ih =>
    have hop : (b.serve op).state.slots.next = b.slots.next := by
      cases op with
      | readBlock handle words =>
        cases h : b.device.readBlock handle.path words <;> simp [serve, h, Outcome.ok, Outcome.error,
          Slots.fillBlock]
      | _ => rfl
    rw [serveAll_cons]
    cases h : (b.serve op).result with
    | ok u => rw [Outcome.andThen_of_ok h, Outcome.state_after, ih, hop]
    | error e => rw [Outcome.andThen_of_error h]; exact hop

theorem evolves_serveAll (b : Bench) (ops : List Pending) :
    b.device.Evolves (b.serveAll ops).state.device := by
  induction ops generalizing b with
  | nil => exact .refl _
  | cons op ops ih =>
    rw [serveAll_cons]
    cases h : (b.serve op).result with
    | ok u =>
      rw [Outcome.andThen_of_ok h, Outcome.state_after]
      exact (b.evolves_serve op).trans (ih _)
    | error e =>
      rw [Outcome.andThen_of_error h]
      exact b.evolves_serve op

end Bench

/-! ## Dispatches -/

namespace Session

variable {s : Session}

/-- The session with nothing queued and one more dispatch in its log. -/
def flushed (s : Session) : Session := { s with log := s.log.push .dispatch, batch := #[] }

/-- The operations that a dispatch gets done. -/
def served (s : Session) : List Pending :=
  match s.device.refusal (s.dispatchCount + 1) with
  | some _ => []
  | none => s.bench.served s.batch.toList

theorem dispatchCount_flushed (s : Session) : s.flushed.dispatchCount = s.dispatchCount + 1 := by
  simp [dispatchCount, flushed]

theorem dispatch_of_refusal {reason : String} (h : s.device.refusal (s.dispatchCount + 1) = some reason) :
    s.dispatch = .error (.transport s.device.id reason) s.flushed := by
  rw [← dispatchCount_flushed] at h
  unfold dispatch
  simp only [flushed] at h ⊢
  rw [h]

/-- The last dispatch of the session was refused, with the error `e`. -/
def JustRefused (s : Session) (e : Error) : Prop :=
  ∃ reason, s.device.refusal s.dispatchCount = some reason ∧ e = .transport s.device.id reason

theorem justRefused_flushed {reason : String}
    (h : s.device.refusal (s.dispatchCount + 1) = some reason) :
    s.flushed.JustRefused (.transport s.device.id reason) := by
  refine ⟨reason, ?_, rfl⟩
  rw [dispatchCount_flushed]
  exact h

theorem dispatch_of_no_refusal (h : s.device.refusal (s.dispatchCount + 1) = none) :
    s.dispatch.result = (s.bench.serveAll s.batch.toList).result ∧
      s.dispatch.state = s.flushed.withBench (s.bench.serveAll s.batch.toList).state := by
  rw [← dispatchCount_flushed] at h
  unfold dispatch
  simp only [flushed] at h ⊢
  rw [h]
  exact ⟨rfl, rfl⟩

theorem dispatch_ok_iff :
    s.dispatch.result = .ok () ↔ s.device.refusal (s.dispatchCount + 1) = none ∧
      (s.bench.serveAll s.batch.toList).result = .ok () := by
  cases h : s.device.refusal (s.dispatchCount + 1) with
  | some reason =>
    rw [dispatch_of_refusal h]
    exact ⟨(nomatch ·), fun h => nomatch h.1⟩
  | none =>
    rw [(dispatch_of_no_refusal h).1]
    exact ⟨fun h => ⟨rfl, h⟩, fun h => h.2⟩

@[simp] theorem device_enqueue (s : Session) (op : Pending) : (s.enqueue op).device = s.device := rfl

@[simp] theorem slots_enqueue (s : Session) (op : Pending) : (s.enqueue op).slots = s.slots := rfl

@[simp] theorem dispatchCount_enqueue (s : Session) (op : Pending) : (s.enqueue op).dispatchCount = s.dispatchCount := by
  cases op <;> simp [dispatchCount, enqueue, Pending.access]

@[simp] theorem device_bump (s : Session) : s.bump.device = s.device := rfl

@[simp] theorem slots_bump (s : Session) : s.bump.slots = s.slots.bump := rfl

@[simp] theorem batch_bump (s : Session) : s.bump.batch = s.batch := rfl

@[simp] theorem toList_batch_enqueue (s : Session) (op : Pending) :
    (s.enqueue op).batch.toList = s.batch.toList ++ [op] := Array.toList_push

@[simp] theorem batch_dispatch (s : Session) : s.dispatch.state.batch = #[] := by
  cases h : s.device.refusal (s.dispatchCount + 1) with
  | some reason => rw [dispatch_of_refusal h]; rfl
  | none => rw [(dispatch_of_no_refusal h).2]; rfl

theorem evolves_dispatch (s : Session) : s.device.Evolves s.dispatch.state.device := by
  cases h : s.device.refusal (s.dispatchCount + 1) with
  | some reason => rw [dispatch_of_refusal h]; exact .refl _
  | none =>
    rw [(dispatch_of_no_refusal h).2]
    exact s.bench.evolves_serveAll s.batch.toList

/-- Nothing of a refused batch gets done. -/
theorem served_of_refusal {reason : String} (h : s.device.refusal (s.dispatchCount + 1) = some reason) :
    s.served = [] := by
  rw [served, h]

/-- All of a batch that can be served gets done. -/
theorem served_of_serves {c : Bench} (h : s.device.refusal (s.dispatchCount + 1) = none)
    (hc : s.bench.Serves s.batch.toList c) : s.served = s.batch.toList := by
  rw [served, h]
  exact Bench.served_of_ok hc.1

theorem failure_ne_none_of_refusal {d : Device} {n : Nat} {reason : String} (h : d.refusal n = some reason) :
    d.failure ≠ none := by
  intro hn
  unfold Device.refusal at h
  rw [hn] at h
  split at h
  · split_ifs at h
  · cases h

/-- Where some dispatch is not refused, at most one is. -/
theorem refusal_unique {d : Device} {n k l : Nat} {reason reason' : String} (hn : d.refusal n = none)
    (hk : d.refusal k = some reason) (hl : d.refusal l = some reason') : k = l := by
  unfold Device.refusal at hn hk hl
  cases hd : d.failingDispatch with
  | none =>
    simp only [hd] at hn hk
    rw [hn] at hk
    cases hk
  | some i =>
    simp only [hd] at hk hl
    split_ifs at hk hl with hik hil
    exact hik.symm.trans hil

/-- A device without faults refuses nothing. -/
theorem refusal_of_failure_eq_none {d : Device} (h : d.failure = none) (n : Nat) : d.refusal n = none := by
  cases hr : d.refusal n with
  | none => rfl
  | some reason => exact absurd h (failure_ne_none_of_refusal hr)

/-- The batch can be served. -/
def Flushable (s : Session) : Prop := (s.bench.serveAll s.batch.toList).result = .ok ()

/-- A batch that can be served is served, and is empty then. -/
theorem dispatch_flushable (hd : s.device.failure = none) (hf : s.Flushable) :
    s.dispatch.result = .ok () ∧ s.dispatch.state.bench = (s.bench.serveAll s.batch.toList).state := by
  obtain ⟨hres, hstate⟩ := dispatch_of_no_refusal (s := s) (refusal_of_failure_eq_none hd _)
  refine ⟨hres.trans hf, ?_⟩
  rw [hstate]
  rfl

end Session

/-! ## Answers -/

/-- The access that a request puts into the batch. -/
def Request.queued? : Request → Option Access
  | .read path => some (.read path)
  | .readBlock path words => some (.readBlock path words)
  | .write path value => some (.write path value)
  | .writeBlock path values => some (.writeBlock path values)
  | _ => none

theorem Request.eq_write_of_queued? {r : Request} {path : NodePath} {value : UInt32}
    (h : r.queued? = some (.write path value)) : r = .write path value := by
  cases r <;> cases h
  rfl

/-- The slot that waits for an operation. -/
def Pending.slot? : Pending → Option Nat
  | .read handle => some handle.slot
  | .readBlock handle _ => some handle.slot
  | _ => none

/-- The register that an access is about. -/
def Access.path? : Access → Option NodePath
  | .read path => some path
  | .readBlock path _ => some path
  | .write path _ => some path
  | .writeBlock path _ => some path
  | .dispatch => none

/-- The access names a register of the kind that it needs. -/
def Registers.admits (r : Registers) : Access → Bool
  | .read path => r.words.contains path
  | .readBlock path _ => r.isBlock path
  | .write path _ => r.words.contains path
  | .writeBlock path _ => r.blocks.contains path
  | .dispatch => true

theorem Registers.Extends.admits {r r' : Registers} (h : r.Extends r') {a : Access} (ha : r.admits a = true) :
    r'.admits a = true := by
  cases a with
  | read path => exact h.words path ha
  | readBlock path words => exact h.isBlock ha
  | write path value => exact h.words path ha
  | writeBlock path values => exact h.blocks path ha
  | dispatch => rfl

namespace Session

variable {s : Session}

/-- An access that the device does not admit changes nothing; the error names its register. -/
theorem answer_of_not_admits {r : Request} {a : Access} (hr : r.queued? = some a)
    (ha : s.device.registers.admits a = false) :
    ∃ path, a.path? = some path ∧ (s.answer r).result = .error (.nodeNotFound s.device.id path.toString) ∧
      (s.answer r).state = s := by
  cases r with
  | read path =>
    cases hr
    simp only [Registers.admits] at ha
    exact ⟨path, rfl, by simp [answer, read, ha, missing, Outcome.error]⟩
  | readBlock path words =>
    cases hr
    simp only [Registers.admits] at ha
    exact ⟨path, rfl, by simp [answer, readBlock, ha, missing, Outcome.error]⟩
  | write path value =>
    cases hr
    simp only [Registers.admits] at ha
    exact ⟨path, rfl, by simp [answer, write, ha, missing, Outcome.error]⟩
  | writeBlock path values =>
    cases hr
    simp only [Registers.admits] at ha
    exact ⟨path, rfl, by simp [answer, writeBlock, ha, missing, Outcome.error]⟩
  | _ => cases hr

/-- An access that the device admits is queued; one that has something to wait for gets the next slot. -/
theorem answer_of_admits {r : Request} {a : Access} (hr : r.queued? = some a)
    (ha : s.device.registers.admits a = true) :
    (∃ reply, (s.answer r).result = .ok reply) ∧ ∃ op : Pending, op.access = a ∧
      (op.slot? = none ∧ (s.answer r).state = s.enqueue op ∨
        op.slot? = some s.slots.next ∧ (s.answer r).state = s.bump.enqueue op) := by
  cases r with
  | read path =>
    cases hr
    have h : s.answer (.read path) = .ok _ (s.bump.enqueue (.read (s.slots.wordHandle path))) := if_pos ha
    rw [h]
    exact ⟨⟨_, rfl⟩, _, rfl, Or.inr ⟨rfl, rfl⟩⟩
  | readBlock path words =>
    cases hr
    have h : s.answer (.readBlock path words) =
        .ok _ (s.bump.enqueue (.readBlock (s.slots.blockHandle path) words)) := if_pos ha
    rw [h]
    exact ⟨⟨_, rfl⟩, _, rfl, Or.inr ⟨rfl, rfl⟩⟩
  | write path value =>
    cases hr
    have h : s.answer (.write path value) = .ok () (s.enqueue (.write path value)) := if_pos ha
    rw [h]
    exact ⟨⟨_, rfl⟩, _, rfl, Or.inl ⟨rfl, rfl⟩⟩
  | writeBlock path values =>
    cases hr
    have h : s.answer (.writeBlock path values) = .ok () (s.enqueue (.writeBlock path values)) := if_pos ha
    rw [h]
    exact ⟨⟨_, rfl⟩, _, rfl, Or.inl ⟨rfl, rfl⟩⟩
  | _ => cases hr

/-- **What an answer does**: nothing, or it queues one operation that the device admits, or it dispatches. -/
theorem answer_steps (s : Session) (r : Request) :
    (s.answer r).state = s ∨
    (∃ op, r.queued? = some op.access ∧ s.device.registers.admits op.access = true ∧
      (op.slot? = none ∧ (s.answer r).state = s.enqueue op ∨
        op.slot? = some s.slots.next ∧ (s.answer r).state = s.bump.enqueue op)) ∨
    (r = .dispatch ∧ (s.answer r).state = s.dispatch.state) := by
  cases hr : r.queued? with
  | some a =>
    cases ha : s.device.registers.admits a with
    | false =>
      obtain ⟨-, -, -, hs⟩ := answer_of_not_admits hr ha
      exact Or.inl hs
    | true =>
      obtain ⟨-, op, rfl, hs⟩ := answer_of_admits hr ha
      exact Or.inr (Or.inl ⟨op, rfl, ha, hs⟩)
  | none =>
    cases r with
    | dispatch => exact Or.inr (Or.inr ⟨rfl, rfl⟩)
    | hasNode path => exact Or.inl rfl
    | subNodes path => exact Or.inl rfl
    | wordValue handle => exact Or.inl rfl
    | blockValue handle => exact Or.inl rfl
    | _ => cases hr

/-- What an answer does, without the slots. -/
theorem answer_cases (s : Session) (r : Request) :
    (s.answer r).state = s ∨
    (∃ op, r.queued? = some op.access ∧
      ((s.answer r).state = s.enqueue op ∨ (s.answer r).state = s.bump.enqueue op)) ∨
    (r = .dispatch ∧ (s.answer r).state = s.dispatch.state) := by
  rcases s.answer_steps r with h | ⟨op, hop, -, ⟨-, h⟩ | ⟨-, h⟩⟩ | h
  · exact Or.inl h
  · exact Or.inr (Or.inl ⟨op, hop, Or.inl h⟩)
  · exact Or.inr (Or.inl ⟨op, hop, Or.inr h⟩)
  · exact Or.inr (Or.inr h)

/-- What waits after an answer waited before, or it is what was asked for. -/
theorem mem_batch_answer {s : Session} {r : Request} {op : Pending} (h : op ∈ (s.answer r).state.batch.toList) :
    op ∈ s.batch.toList ∨ r.queued? = some op.access := by
  have hpush : ∀ new, r.queued? = some new.access → op ∈ s.batch.toList ++ [new] →
      op ∈ s.batch.toList ∨ r.queued? = some op.access := by
    intro new hnew hop
    rcases List.mem_append.mp hop with hop | hop
    · exact Or.inl hop
    · obtain rfl := List.mem_singleton.mp hop
      exact Or.inr hnew
  rcases s.answer_cases r with hs | ⟨new, hnew, hs | hs⟩ | ⟨-, hs⟩
  · rw [hs] at h
    exact Or.inl h
  · rw [hs, toList_batch_enqueue] at h
    exact hpush new hnew h
  · rw [hs, toList_batch_enqueue] at h
    exact hpush new hnew h
  · rw [hs, batch_dispatch] at h
    exact absurd h List.not_mem_nil

theorem answer_evolves (s : Session) (r : Request) : s.device.Evolves (s.answer r).state.device := by
  rcases s.answer_cases r with h | ⟨op, -, h | h⟩ | ⟨-, h⟩
  · rw [h]; exact .refl _
  · rw [h]; exact .refl _
  · rw [h]; exact .refl _
  · rw [h]; exact s.evolves_dispatch

end Session

end TimingFleet

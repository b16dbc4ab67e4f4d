import TimingFleet.Proofs.Session.Client
import TimingFleet.Proofs.Session.Effects

/-!
# Handles and their slots

Each handle that a session gives out has a slot of its own.  While its operation waits the slot is empty; it is
filled at most once, when the operation is served; and once the operation has left the batch, whether it was
served or not, the slot never changes again.

* `Session.Orderly s`: the operations in the batch wait for different slots, all of them given out and empty.
* `Session.Settled s n`: the slot `n` has been given out, and nothing in the batch waits for it.
* `Session.NotDispatched s op`, `Session.Shows s d op`: what the handle of `op` and all its copies show, where `d`
  is the device at the moment at which `op` was served.

Main statements: a session stays orderly (`Orderly.follow`), and a settled slot keeps what it holds
(`Settled.follow`).
-/

namespace TimingFleet

/-! ## Slots -/

namespace Slots

variable {a b c : Slots} {n : Nat}

/-- Nothing is in the slot. -/
def Empty (s : Slots) (n : Nat) : Prop := s.words[n]? = none ∧ s.blocks[n]? = none

/-- The slot holds the same in both. -/
def SameAt (n : Nat) (a b : Slots) : Prop := a.words[n]? = b.words[n]? ∧ a.blocks[n]? = b.blocks[n]?

theorem SameAt.refl (n : Nat) (a : Slots) : SameAt n a a := ⟨rfl, rfl⟩

theorem SameAt.trans (h : SameAt n a b) (h' : SameAt n b c) : SameAt n a c :=
  ⟨h.1.trans h'.1, h.2.trans h'.2⟩

theorem Empty.of_sameAt (h : b.Empty n) (hs : SameAt n a b) : a.Empty n := ⟨hs.1.trans h.1, hs.2.trans h.2⟩

theorem sameAt_fillWord {handle : WordHandle} (h : handle.slot ≠ n) (value : UInt32) :
    SameAt n (a.fillWord handle value) a := by
  refine ⟨?_, rfl⟩
  simp [fillWord, Std.ExtTreeMap.getElem?_insert, h]

theorem sameAt_fillBlock {handle : BlockHandle} (h : handle.slot ≠ n) (values : List UInt32) :
    SameAt n (a.fillBlock handle values) a := by
  refine ⟨rfl, ?_⟩
  simp [fillBlock, Std.ExtTreeMap.getElem?_insert, h]

/-- What is in the slot of an operation that was served when the device was `d`. -/
def Shows (slots : Slots) (d : Device) : Pending → Prop
  | .read handle => ∃ value, d.word? handle.path = some value ∧ slots.words[handle.slot]? = some value
  | .readBlock handle words => slots.blocks[handle.slot]? = some (d.contents handle.path words)
  | .write _ _ => True
  | .writeBlock _ _ => True

/-- What a slot shows depends on the slot alone. -/
theorem Shows.of_sameAt {d : Device} {op : Pending} (h : b.Shows d op)
    (hs : ∀ n, op.slot? = some n → SameAt n a b) : a.Shows d op := by
  cases op with
  | read handle =>
    obtain ⟨value, hd, hb⟩ := h
    exact ⟨value, hd, (hs _ rfl).1.trans hb⟩
  | readBlock handle words => exact (hs handle.slot rfl).2.trans h
  | _ => trivial

end Slots

/-- The slots that wait for operations, in the order of the operations. -/
def slotsOf (ops : List Pending) : List Nat := ops.filterMap Pending.slot?

theorem mem_slotsOf {ops : List Pending} {op : Pending} {n : Nat} (h : op ∈ ops) (hn : op.slot? = some n) :
    n ∈ slotsOf ops :=
  List.mem_filterMap.mpr ⟨op, h, hn⟩

namespace Bench

variable {b : Bench} {op : Pending} {ops : List Pending} {n : Nat}

/-- An operation fills no slot but its own. -/
theorem sameAt_serve (h : op.slot? ≠ some n) : Slots.SameAt n (b.serve op).state.slots b.slots := by
  cases op with
  | read handle => exact Slots.sameAt_fillWord (fun hn => h (congrArg some hn)) _
  | readBlock handle words =>
    have hne : handle.slot ≠ n := fun hn => h (congrArg some hn)
    cases hb : b.device.readBlock handle.path words with
    | ok found => simpa [serve, hb, Outcome.ok] using Slots.sameAt_fillBlock hne found.1
    | error e => simpa [serve, hb, Outcome.error] using Slots.SameAt.refl n b.slots
  | write path value => exact .refl n _
  | writeBlock path values => exact .refl n _

theorem sameAt_serveAll (h : n ∉ slotsOf ops) : Slots.SameAt n (b.serveAll ops).state.slots b.slots := by
  induction ops generalizing b with
  | nil => exact .refl n _
  | cons op ops ih =>
    have hop : op.slot? ≠ some n := fun hn => h (mem_slotsOf List.mem_cons_self hn)
    have hrest : n ∉ slotsOf ops := by
      intro hn
      obtain ⟨x, hx, hxn⟩ := List.mem_filterMap.mp hn
      exact h (mem_slotsOf (List.mem_cons_of_mem op hx) hxn)
    rw [serveAll_cons]
    cases hr : (b.serve op).result with
    | ok u =>
      rw [Outcome.andThen_of_ok hr, Outcome.state_after]
      exact (ih hrest).trans (sameAt_serve hop)
    | error e =>
      rw [Outcome.andThen_of_error hr]
      exact sameAt_serve hop

/-- An operation that is served shows what it found. -/
theorem shows_serve (hop : b.device.registers.admits op.access = true) (hs : ¬ b.device.Short op) :
    (b.serve op).state.slots.Shows b.device op := by
  cases op with
  | read handle =>
    have hsome : (b.device.word? handle.path).isSome = true := by
      rw [Device.word?, ← Std.ExtTreeMap.contains_eq_isSome_getElem?]
      exact hop
    obtain ⟨value, hvalue⟩ := Option.isSome_iff_exists.mp hsome
    refine ⟨value, hvalue, ?_⟩
    simp [serve, Outcome.ok, hvalue, Slots.fillWord]
  | readBlock handle words =>
    rw [serve_readBlock hs]
    simp [Outcome.ok, Slots.Shows, Slots.fillBlock]
  | _ => trivial

/-- **What a served batch shows**: each handle shows what its operation found in its turn. -/
theorem shows_serveAll (hk : ∀ op ∈ ops, b.device.registers.admits op.access = true) (hn : (slotsOf ops).Nodup)
    (h : b.device.Suffices ops) {before rest : List Pending} (hsplit : ops = before ++ op :: rest) :
    (b.serveAll ops).state.slots.Shows (before.foldl Device.after b.device) op := by
  subst hsplit
  obtain ⟨hbefore, hop, -⟩ := Device.suffices_append h
  obtain ⟨hres, hdev⟩ := serveAll_of_suffices hbefore
  rw [← hdev] at hop ⊢
  -- the turn of `op`
  have hadmits : (b.serveAll before).state.device.registers.admits op.access = true :=
    (b.evolves_serveAll before).registers.admits (hk op (by simp))
  have hfound := shows_serve hadmits hop
  rw [serveAll_append_state hres, serveAll_cons, Outcome.andThen_of_ok (serve_of_not_short hop).1,
    Outcome.state_after]
  -- nothing later fills its slot
  refine hfound.of_sameAt fun n hslot => sameAt_serveAll fun hlater => ?_
  rw [slotsOf, List.filterMap_append, List.filterMap_cons, hslot] at hn
  exact (List.nodup_cons.mp (List.nodup_append.mp hn).2.1).1 hlater

end Bench

/-! ## Sessions -/

namespace Session

variable {s t : Session} {op : Pending} {n : Nat}

/-- Nothing is queued and no handle has been given out. -/
structure Fresh (s : Session) : Prop where
  batch : s.batch = #[]
  slots : s.slots = {}

/-- The operations in the batch name registers of the device and wait for different slots, all of which have been
given out and are empty.  Slots that have not been given out are empty. -/
structure Orderly (s : Session) : Prop where
  admits : ∀ op ∈ s.batch.toList, s.device.registers.admits op.access = true
  waiting : ∀ n ∈ slotsOf s.batch.toList, n < s.slots.next ∧ s.slots.Empty n
  nodup : (slotsOf s.batch.toList).Nodup
  unused : ∀ n, s.slots.next ≤ n → s.slots.Empty n

/-- The slot has been given out, and nothing in the batch waits for it. -/
structure Settled (s : Session) (n : Nat) : Prop where
  given : n < s.slots.next
  left : n ∉ slotsOf s.batch.toList

theorem Fresh.orderly (h : s.Fresh) : s.Orderly := by
  obtain ⟨hbatch, hslots⟩ := h
  refine ⟨?_, ?_, ?_, ?_⟩
  · simp [hbatch]
  · simp [hbatch, slotsOf]
  · simp [hbatch, slotsOf]
  · intro n _
    simp [hslots, Slots.Empty]

theorem slotsOf_enqueue (s : Session) (op : Pending) :
    slotsOf (s.enqueue op).batch.toList = slotsOf s.batch.toList ++ op.slot?.toList := by
  rw [toList_batch_enqueue, slotsOf, List.filterMap_append]
  cases h : op.slot? <;> simp [slotsOf, h]

theorem next_dispatch (s : Session) : s.dispatch.state.slots.next = s.slots.next := by
  cases h : s.device.refusal (s.dispatchCount + 1) with
  | some reason => rw [dispatch_of_refusal h]; rfl
  | none =>
    rw [(dispatch_of_no_refusal h).2]
    exact s.bench.next_serveAll s.batch.toList

/-- A dispatch fills no slot but those that wait. -/
theorem sameAt_dispatch (h : n ∉ slotsOf s.batch.toList) : Slots.SameAt n s.dispatch.state.slots s.slots := by
  cases hr : s.device.refusal (s.dispatchCount + 1) with
  | some reason => rw [dispatch_of_refusal hr]; exact .refl n _
  | none =>
    rw [(dispatch_of_no_refusal hr).2]
    exact Bench.sameAt_serveAll (b := s.bench) h

/-- **Orderly sessions stay orderly**, one answer at a time. -/
theorem Orderly.answer (h : s.Orderly) (r : Request) : (s.answer r).state.Orderly := by
  rcases s.answer_steps r with hs | ⟨op, -, hop, ⟨hslot, hs⟩ | ⟨hslot, hs⟩⟩ | ⟨-, hs⟩
  · rwa [hs]
  · -- a write, which nothing waits for
    have hsame : slotsOf (s.enqueue op).batch.toList = slotsOf s.batch.toList := by
      rw [slotsOf_enqueue, hslot]
      exact List.append_nil _
    rw [hs]
    refine ⟨fun x hx => ?_, hsame ▸ h.waiting, hsame ▸ h.nodup, h.unused⟩
    rw [toList_batch_enqueue, List.mem_append, List.mem_singleton] at hx
    rcases hx with hx | rfl
    · exact h.admits x hx
    · exact hop
  · -- a read, for which the next slot waits
    have hmore : slotsOf (s.bump.enqueue op).batch.toList = slotsOf s.batch.toList ++ [s.slots.next] := by
      rw [slotsOf_enqueue, hslot]
      rfl
    have hnew : s.slots.next ∉ slotsOf s.batch.toList := fun hn => Nat.lt_irrefl _ (h.waiting _ hn).1
    rw [hs]
    refine ⟨fun x hx => ?_, fun n hn => ?_, ?_, fun n hn => h.unused n (Nat.le_of_succ_le hn)⟩
    · rw [toList_batch_enqueue, List.mem_append, List.mem_singleton] at hx
      rcases hx with hx | rfl
      · exact h.admits x hx
      · exact hop
    · rw [hmore, List.mem_append, List.mem_singleton] at hn
      rcases hn with hn | rfl
      · exact ⟨Nat.lt_succ_of_lt (h.waiting n hn).1, (h.waiting n hn).2⟩
      · exact ⟨Nat.lt_succ_self _, h.unused _ (Nat.le_refl _)⟩
    · rw [hmore, List.nodup_append]
      refine ⟨h.nodup, by simp, fun m hm k hk => ?_⟩
      rw [List.mem_singleton.mp hk]
      rintro rfl
      exact hnew hm
  · -- a dispatch, which leaves nothing waiting and no slot filled that was not given out
    rw [hs]
    refine ⟨by simp, by simp [slotsOf], by simp [slotsOf], fun n hn => ?_⟩
    rw [next_dispatch] at hn
    have hleft : n ∉ slotsOf s.batch.toList := fun hw => Nat.not_le.mpr (h.waiting n hw).1 hn
    exact (h.unused n hn).of_sameAt (sameAt_dispatch hleft)

theorem Orderly.follow (h : s.Orderly) (rs : List Request) : (s.follow rs).Orderly := by
  induction rs generalizing s with
  | nil => exact h
  | cons r rs ih => exact ih (h.answer r)

/-- **A settled slot** stays settled and keeps what it holds, one answer at a time. -/
theorem Settled.answer (h : s.Settled n) (r : Request) :
    (s.answer r).state.Settled n ∧ Slots.SameAt n (s.answer r).state.slots s.slots := by
  obtain ⟨hgiven, hleft⟩ := h
  rcases s.answer_steps r with hs | ⟨op, -, -, ⟨hslot, hs⟩ | ⟨hslot, hs⟩⟩ | ⟨-, hs⟩
  · rw [hs]
    exact ⟨⟨hgiven, hleft⟩, .refl n _⟩
  · rw [hs]
    refine ⟨⟨hgiven, ?_⟩, .refl n _⟩
    rw [slotsOf_enqueue, hslot]
    simpa using hleft
  · rw [hs]
    refine ⟨⟨Nat.lt_succ_of_lt hgiven, ?_⟩, .refl n _⟩
    rw [slotsOf_enqueue, hslot]
    simpa using ⟨hleft, Nat.ne_of_lt hgiven⟩
  · rw [hs]
    refine ⟨⟨?_, ?_⟩, sameAt_dispatch hleft⟩
    · rw [next_dispatch]
      exact hgiven
    · simp [slotsOf]

theorem Settled.follow (h : s.Settled n) (rs : List Request) : Slots.SameAt n (s.follow rs).slots s.slots := by
  induction rs generalizing s with
  | nil => exact .refl n _
  | cons r rs ih =>
    obtain ⟨hnext, hsame⟩ := h.answer r
    exact (ih hnext).trans hsame

/-- The slots of a batch are settled once it has been dispatched. -/
theorem Orderly.settled_dispatch (h : s.Orderly) (hop : op ∈ s.batch.toList) (hn : op.slot? = some n) :
    s.dispatch.state.Settled n := by
  refine ⟨?_, by simp [slotsOf]⟩
  rw [next_dispatch]
  exact (h.waiting n (mem_slotsOf hop hn)).1

/-! ## What handles show -/

/-- The handle of the operation, and every copy of it, has no value yet. -/
def NotDispatched (s : Session) : Pending → Prop
  | .read handle => ∀ copy : WordHandle, copy.slot = handle.slot →
      s.wordValue copy = .error (.notDispatched copy.path.toString)
  | .readBlock handle _ => ∀ copy : BlockHandle, copy.slot = handle.slot →
      s.blockValue copy = .error (.notDispatched copy.path.toString)
  | .write _ _ => True
  | .writeBlock _ _ => True

/-- The handle of the operation, and every copy of it, has as its value what the device `d` holds. -/
def Shows (s : Session) (d : Device) : Pending → Prop
  | .read handle => ∃ value, d.word? handle.path = some value ∧
      ∀ copy : WordHandle, copy.slot = handle.slot → s.wordValue copy = .ok value
  | .readBlock handle words => ∀ copy : BlockHandle, copy.slot = handle.slot →
      s.blockValue copy = .ok (d.contents handle.path words)
  | .write _ _ => True
  | .writeBlock _ _ => True

theorem notDispatched_of_empty (h : ∀ n, op.slot? = some n → s.slots.Empty n) : s.NotDispatched op := by
  cases op with
  | read handle =>
    intro copy hcopy
    have hnone : s.slots.word? copy = none := by rw [Slots.word?, hcopy]; exact (h _ rfl).1
    simp only [wordValue, hnone]
  | readBlock handle words =>
    intro copy hcopy
    have hnone : s.slots.block? copy = none := by rw [Slots.block?, hcopy]; exact (h _ rfl).2
    simp only [blockValue, hnone]
  | _ => trivial

theorem shows_of_slots {d : Device} (h : s.slots.Shows d op) : s.Shows d op := by
  cases op with
  | read handle =>
    obtain ⟨value, hd, hvalue⟩ := h
    refine ⟨value, hd, fun copy hcopy => ?_⟩
    have hsome : s.slots.word? copy = some value := by rw [Slots.word?, hcopy]; exact hvalue
    simp only [wordValue, hsome]
  | readBlock handle words =>
    intro copy hcopy
    have hsome : s.slots.block? copy = some (d.contents handle.path words) := by
      rw [Slots.block?, hcopy]
      exact h
    simp only [blockValue, hsome]
  | _ => trivial

/-- What waits has no value. -/
theorem Orderly.notDispatched (h : s.Orderly) (hop : op ∈ s.batch.toList) : s.NotDispatched op :=
  notDispatched_of_empty fun n hn => (h.waiting n (mem_slotsOf hop hn)).2

/-- What a dispatch does not serve never gets a value. -/
theorem Orderly.notDispatched_follow (h : s.Orderly) (hop : op ∈ s.batch.toList)
    (hempty : ∀ n, op.slot? = some n → Slots.SameAt n s.dispatch.state.slots s.slots) (later : List Request) :
    (s.dispatch.state.follow later).NotDispatched op := by
  refine notDispatched_of_empty fun n hn => ?_
  have hnone := (h.waiting n (mem_slotsOf hop hn)).2.of_sameAt (hempty n hn)
  exact hnone.of_sameAt ((h.settled_dispatch hop hn).follow later)

/-- What a dispatch has served keeps its value. -/
theorem Orderly.shows_follow {d : Device} (h : s.Orderly) (hop : op ∈ s.batch.toList)
    (hshows : s.dispatch.state.slots.Shows d op) (later : List Request) :
    (s.dispatch.state.follow later).Shows d op :=
  shows_of_slots (hshows.of_sameAt fun _ hn => (h.settled_dispatch hop hn).follow later)

end Session

end TimingFleet

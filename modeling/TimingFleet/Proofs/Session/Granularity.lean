import TimingFleet.Proofs.Session.Client

/-!
# How often a batch is dispatched

A client that dispatches more often sees the same.  Let a list of requests succeed and end with a dispatch.
With further dispatches at any places it succeeds again, gives out the same handles with the same values,
and leaves the same registers, queues and transmitters; a dispatch after every request is the extreme case,
in which each operation is applied at the moment it is queued.

* `Session.exchanges s rs`: the requests with their replies; `Session.follow s rs`: the session afterwards.
* `MoreDispatches rs qs`: `qs` is `rs` with further dispatches.
* `Session.Behind s t`: `t` is `s` after a first part of the batch of `s` has been served.  Every exchange
  keeps this, and so does a dispatch of `t` alone as long as the batch of `s` can be served (`Flushable`).
-/

namespace TimingFleet

/-- An exchange in which an operation was queued. -/
def Exchange.queues (x : Exchange) : Bool := x.request.queued?.isSome

/-- The second list is the first with further dispatches. -/
inductive MoreDispatches : List Request → List Request → Prop where
  | nil : MoreDispatches [] []
  | cons (r : Request) {rs qs : List Request} (h : MoreDispatches rs qs) : MoreDispatches (r :: rs) (r :: qs)
  | dispatch {rs qs : List Request} (h : MoreDispatches rs qs) : MoreDispatches rs (.dispatch :: qs)

/-! ## Serving and giving out handles -/

namespace Bench

/-- Gives out a slot. -/
def bump (b : Bench) : Bench := { b with slots := b.slots.bump }

theorem serve_bump (b : Bench) (op : Pending) :
    (b.bump.serve op).result = (b.serve op).result ∧ (b.bump.serve op).state = (b.serve op).state.bump := by
  cases op with
  | readBlock handle words =>
    cases h : b.device.readBlock handle.path words with
    | ok found => simp [serve, bump, h, Outcome.ok, Slots.bump, Slots.fillBlock]
    | error e => simp [serve, bump, h, Outcome.error]
  | _ => exact ⟨rfl, rfl⟩

/-- A slot can be given out before or after operations are served. -/
theorem serveAll_bump (b : Bench) (ops : List Pending) :
    (b.bump.serveAll ops).result = (b.serveAll ops).result ∧
      (b.bump.serveAll ops).state = (b.serveAll ops).state.bump := by
  induction ops generalizing b with
  | nil => exact ⟨rfl, rfl⟩
  | cons op ops ih =>
    obtain ⟨hr, hs⟩ := b.serve_bump op
    rw [serveAll_cons, serveAll_cons]
    cases h : (b.serve op).result with
    | ok u =>
      rw [Outcome.andThen_of_ok h, Outcome.andThen_of_ok (hr.trans h), hs]
      exact ih (b.serve op).state
    | error e =>
      rw [Outcome.andThen_of_error h, Outcome.andThen_of_error (hr.trans h)]
      exact ⟨rfl, hs⟩

end Bench

/-! ## One step of two clients -/

namespace Session

variable {s t : Session} {op : Pending} {r : Request} {rs qs : List Request}

/-- The session `t` is `s` after a first part of the batch of `s` has been served. -/
def Behind (s t : Session) : Prop :=
  ∃ ops, s.batch.toList = ops ++ t.batch.toList ∧ (s.bench.serveAll ops).result = .ok () ∧
    (s.bench.serveAll ops).state = t.bench

theorem Behind.refl (s : Session) : s.Behind s := ⟨[], rfl, rfl, rfl⟩

theorem Behind.evolves (h : s.Behind t) : s.device.Evolves t.device := by
  obtain ⟨ops, -, -, hstate⟩ := h
  have he := s.bench.evolves_serveAll ops
  rw [hstate] at he
  exact he

theorem Behind.next_eq (h : s.Behind t) : t.slots.next = s.slots.next := by
  obtain ⟨ops, -, -, hstate⟩ := h
  have hn := s.bench.next_serveAll ops
  rw [hstate] at hn
  exact hn

/-- Both queue the same operation. -/
theorem Behind.enqueue (h : s.Behind t) (op : Pending) : (s.enqueue op).Behind (t.enqueue op) := by
  obtain ⟨ops, hbatch, hres, hstate⟩ := h
  refine ⟨ops, ?_, hres, hstate⟩
  simp only [Session.enqueue, Array.toList_push, hbatch, List.append_assoc]

/-- Both give out the same slot. -/
theorem Behind.bump (h : s.Behind t) : s.bump.Behind t.bump := by
  obtain ⟨ops, hbatch, hres, hstate⟩ := h
  obtain ⟨hr, hs⟩ := s.bench.serveAll_bump ops
  exact ⟨ops, hbatch, hr.trans hres, hs.trans (congrArg Bench.bump hstate)⟩

/-- A request that queues an operation gets the same reply in both. -/
theorem Behind.answer (h : s.Behind t) (hq : r.queued? ≠ none) (hs : ∃ a, (s.answer r).result = .ok a) :
    (t.answer r).result = (s.answer r).result ∧ (s.answer r).state.Behind (t.answer r).state := by
  have hregs := h.evolves.registers
  have hnext := h.next_eq
  obtain ⟨a, ha⟩ := hs
  cases r with
  | read path =>
    by_cases hp : s.device.registers.words.contains path = true
    · have hp' := hregs.words path hp
      simp only [Session.answer, read, hp, hp', if_true, Outcome.ok, Slots.wordHandle, hnext]
      exact ⟨trivial, h.bump.enqueue _⟩
    · simp [Session.answer, read, hp, missing, Outcome.error] at ha
  | readBlock path words =>
    by_cases hp : s.device.registers.isBlock path = true
    · have hp' := hregs.isBlock hp
      simp only [Session.answer, readBlock, hp, hp', if_true, Outcome.ok, Slots.blockHandle, hnext]
      exact ⟨trivial, h.bump.enqueue _⟩
    · simp [Session.answer, readBlock, hp, missing, Outcome.error] at ha
  | write path value =>
    by_cases hp : s.device.registers.words.contains path = true
    · have hp' := hregs.words path hp
      simp only [Session.answer, write, hp, hp', if_true, Outcome.ok]
      exact ⟨trivial, h.enqueue _⟩
    · simp [Session.answer, write, hp, missing, Outcome.error] at ha
  | writeBlock path values =>
    by_cases hp : s.device.registers.blocks.contains path = true
    · have hp' := hregs.blocks path hp
      simp only [Session.answer, writeBlock, hp, hp', if_true, Outcome.ok]
      exact ⟨trivial, h.enqueue _⟩
    · simp [Session.answer, writeBlock, hp, missing, Outcome.error] at ha
  | _ => exact absurd rfl hq

/-- What is left of a batch that can be served can be served. -/
theorem Behind.flushable (h : s.Behind t) (hf : s.Flushable) :
    t.Flushable ∧ (t.bench.serveAll t.batch.toList).state = (s.bench.serveAll s.batch.toList).state := by
  obtain ⟨ops, hbatch, hres, hstate⟩ := h
  unfold Flushable at hf ⊢
  rw [hbatch] at hf ⊢
  rw [Bench.serveAll_append_ok_iff, hstate] at hf
  rw [Bench.serveAll_append_state hres, hstate]
  exact ⟨hf.2, rfl⟩

/-- Both dispatch. -/
theorem Behind.dispatch (h : s.Behind t) (hd : s.device.failure = none) (hf : s.Flushable) :
    t.dispatch.result = .ok () ∧ s.dispatch.state.Behind t.dispatch.state := by
  obtain ⟨hft, hlast⟩ := h.flushable hf
  obtain ⟨-, hs⟩ := dispatch_flushable hd hf
  obtain ⟨hok, ht⟩ := dispatch_flushable (h.evolves.failure.trans hd) hft
  refine ⟨hok, [], by simp, rfl, ?_⟩
  rw [ht, hlast, ← hs]
  rfl

/-- Only `t` dispatches. -/
theorem Behind.dispatch_ahead (h : s.Behind t) (hd : s.device.failure = none) (hf : s.Flushable) :
    t.dispatch.result = .ok () ∧ s.Behind t.dispatch.state := by
  obtain ⟨hft, hlast⟩ := h.flushable hf
  obtain ⟨hok, ht⟩ := dispatch_flushable (h.evolves.failure.trans hd) hft
  exact ⟨hok, s.batch.toList, by simp, hf, hlast.symm.trans ht.symm⟩

/-! ## Whole runs -/

theorem flushable_of_enqueue (h : (s.enqueue op).Flushable) : s.Flushable := by
  unfold Flushable at h ⊢
  simp only [Session.enqueue, Array.toList_push] at h
  exact (Bench.serveAll_append_ok_iff.mp h).1

theorem flushable_of_bump (h : s.bump.Flushable) : s.Flushable :=
  (s.bench.serveAll_bump s.batch.toList).1.symm.trans h

/-- A batch that is dispatched later with success can be served now. -/
theorem flushable_of_succeeds (hl : .dispatch ∈ rs) (hr : ∀ r ∈ rs, r.IsAccess)
    (hs : ∀ x ∈ s.exchanges rs, x.Succeeds) : s.Flushable := by
  -- up to the first dispatch; the requests before it only add to the batch
  induction rs generalizing s with
  | nil => exact absurd hl List.not_mem_nil
  | cons r rs ih =>
    have hhead := hs _ List.mem_cons_self
    by_cases hdisp : r = .dispatch
    · subst hdisp
      obtain ⟨⟨⟩, hok⟩ := hhead
      exact (dispatch_ok_iff.mp hok).2
    · have hl' : .dispatch ∈ rs := (List.mem_cons.mp hl).resolve_left (Ne.symm hdisp)
      have hnext := ih (s := (s.answer r).state) hl' (fun q hq => hr q (List.mem_cons_of_mem _ hq))
        fun x hx => hs x (List.mem_cons_of_mem _ hx)
      rcases s.answer_cases r with h | ⟨op, -, h | h⟩ | ⟨h, -⟩
      · rwa [h] at hnext
      · rw [h] at hnext; exact flushable_of_enqueue hnext
      · rw [h] at hnext; exact flushable_of_bump (flushable_of_enqueue hnext)
      · exact absurd h hdisp

/-- **One client behind the other.**  From sessions of which one is behind, the client with further
dispatches succeeds as well, gets the same replies, and stays ahead; in the end nothing waits. -/
theorem Behind.follow (hm : MoreDispatches rs qs) (hb : s.Behind t) (hd : s.device.failure = none)
    (hr : ∀ r ∈ rs, r.IsAccess) (hl : rs.getLast? = some .dispatch ∨ (rs = [] ∧ s.batch = #[]))
    (hs : ∀ x ∈ s.exchanges rs, x.Succeeds) :
    (∀ x ∈ t.exchanges qs, x.Succeeds) ∧
      (t.exchanges qs).filter Exchange.queues = (s.exchanges rs).filter Exchange.queues ∧
      (s.follow rs).Behind (t.follow qs) ∧ (s.follow rs).batch = #[] := by
  induction hm generalizing s t with
  | nil =>
    rcases hl with hl | ⟨-, hl⟩
    · cases hl
    · exact ⟨fun x hx => absurd hx List.not_mem_nil, rfl, hb, hl⟩
  | @cons r rs qs hm ih =>
    have hhead := hs _ List.mem_cons_self
    have hrest : ∀ x ∈ (s.answer r).state.exchanges rs, x.Succeeds :=
      fun x hx => hs x (List.mem_cons_of_mem _ hx)
    have hr' : ∀ q ∈ rs, q.IsAccess := fun q hq => hr q (List.mem_cons_of_mem _ hq)
    have hd' : (s.answer r).state.device.failure = none := (s.answer_evolves r).failure.trans hd
    have hlast : (r :: rs).getLast? = some .dispatch := hl.resolve_right fun h => nomatch h.1
    -- the two replies agree, the sessions afterwards are again one behind the other
    have hstep : (t.answer r).result = (s.answer r).result ∧ (s.answer r).state.Behind (t.answer r).state := by
      rcases hr r List.mem_cons_self with hq | rfl
      · exact hb.answer hq hhead
      · have hf := flushable_of_succeeds (List.mem_cons_self) hr hs
        obtain ⟨hok, hb'⟩ := hb.dispatch hd hf
        exact ⟨hok.trans (dispatch_flushable hd hf).1.symm, hb'⟩
    have hl' : rs.getLast? = some .dispatch ∨ (rs = [] ∧ (s.answer r).state.batch = #[]) := by
      cases rs with
      | nil =>
        have hrd : r = .dispatch := Option.some.inj hlast
        subst hrd
        exact Or.inr ⟨rfl, s.batch_dispatch⟩
      | cons q rs => exact Or.inl (by rwa [List.getLast?_cons_cons] at hlast)
    obtain ⟨hall, hsame, hbehind, hempty⟩ := ih hstep.2 hd' hr' hl' hrest
    refine ⟨?_, ?_, hbehind, hempty⟩
    · intro x hx
      rcases List.mem_cons.mp hx with rfl | hx
      · obtain ⟨a, ha⟩ := hhead
        exact ⟨a, hstep.1.trans ha⟩
      · exact hall x hx
    · simp only [exchanges, List.filter_cons, hstep.1, hsame]
  | @dispatch rs qs hm ih =>
    -- `s` stays where it is, and its batch can be served since it will be
    have hf : s.Flushable := by
      rcases hl with hl | ⟨-, hl⟩
      · exact flushable_of_succeeds (List.mem_of_getLast? hl) hr hs
      · unfold Flushable
        rw [hl]
        rfl
    obtain ⟨hok, hb'⟩ := hb.dispatch_ahead hd hf
    obtain ⟨hall, hsame, hbehind, hempty⟩ := ih hb' hd hr hl hs
    refine ⟨?_, hsame, hbehind, hempty⟩
    intro x hx
    rcases List.mem_cons.mp hx with rfl | hx
    · exact ⟨(), hok⟩
    · exact hall x hx

/-- When nothing waits, both have served the same. -/
theorem Behind.bench_eq (h : s.Behind t) (hs : s.batch = #[]) : t.bench = s.bench := by
  obtain ⟨ops, hbatch, -, hstate⟩ := h
  rw [hs] at hbatch
  obtain ⟨rfl, -⟩ := List.append_eq_nil_iff.mp hbatch.symm
  exact hstate.symm

/-- **Transparency of batches.**  On a device without faults, let a client read and write with success and
dispatch at the end.  With further dispatches at any places every request succeeds as well and gives out the
same handles; every handle has the same value, and registers, queues and transmitters end the same. -/
theorem moreDispatches_transparent {s : Session} {rs qs : List Request} (hd : s.device.failure = none)
    (hr : ∀ r ∈ rs, r.IsAccess) (hl : rs.getLast? = some .dispatch)
    (hs : ∀ x ∈ s.exchanges rs, x.Succeeds) (hm : MoreDispatches rs qs) :
    (∀ x ∈ s.exchanges qs, x.Succeeds) ∧
      (s.exchanges qs).filter Exchange.queues = (s.exchanges rs).filter Exchange.queues ∧
      (∀ path handle, ⟨.read path, .ok handle⟩ ∈ s.exchanges rs →
        ∃ value, (s.follow rs).wordValue handle = .ok value ∧ (s.follow qs).wordValue handle = .ok value) ∧
      (∀ path words handle, ⟨.readBlock path words, .ok handle⟩ ∈ s.exchanges rs →
        ∃ values, (s.follow rs).blockValue handle = .ok values ∧
          (s.follow qs).blockValue handle = .ok values) ∧
      (s.follow qs).device.registers = (s.follow rs).device.registers ∧
      (s.follow qs).device.enabledSfps = (s.follow rs).device.enabledSfps := by
  obtain ⟨hall, hsame, hbehind, hempty⟩ := (Behind.refl s).follow hm hd hr (Or.inl hl) hs
  have hbench := hbehind.bench_eq hempty
  have hslots : (s.follow qs).slots = (s.follow rs).slots := congrArg Bench.slots hbench
  have hdevice : (s.follow qs).device = (s.follow rs).device := congrArg Bench.device hbench
  refine ⟨hall, hsame, ?_, ?_, by rw [hdevice], by rw [hdevice]⟩
  · intro path handle hx
    obtain ⟨value, hvalue⟩ := word_of_exchange hs hempty hx
    refine ⟨value, hvalue, ?_⟩
    unfold wordValue at hvalue ⊢
    rwa [hslots]
  · intro path words handle hx
    obtain ⟨values, hvalues⟩ := block_of_exchange hs hempty hx
    refine ⟨values, hvalues, ?_⟩
    unfold blockValue at hvalues ⊢
    rwa [hslots]

/-- A client that enables an endpoint, looks at its state, takes three words out of its buffer, and asks how
many are left. -/
def drainingClient : List Request :=
  let node := EndpointNode.base 0
  [.write (node.join EndpointNode.enable) 1, .read (node.join EndpointNode.state),
    .readBlock (node.join EndpointNode.bufferData) 3, .dispatch, .read (node.join EndpointNode.bufferCount),
    .dispatch]

theorem drainingClient_dispatching_more :
    let s := ofDevice ((Device.endpoint "EPT" [0]).withBuffer 0 [1, 2, 3, 4])
    let more := drainingClient.flatMap fun r => [r, .dispatch]
    (∀ x ∈ s.exchanges drainingClient, x.Succeeds) ∧ (∀ x ∈ s.exchanges more, x.Succeeds) ∧
      (s.follow more).device.registers = (s.follow drainingClient).device.registers := by
  intro s more
  have hs : ∀ x ∈ s.exchanges drainingClient, x.Succeeds := by decide +kernel
  have hm : MoreDispatches drainingClient more :=
    .cons _ (.dispatch (.cons _ (.dispatch (.cons _ (.dispatch (.cons _ (.dispatch (.cons _ (.dispatch
      (.cons _ (.dispatch .nil)))))))))))
  have h := moreDispatches_transparent (s := s) rfl (by decide +kernel) (by decide +kernel) hs hm
  exact ⟨hs, h.1, h.2.2.2.2.1⟩

end Session

end TimingFleet

import TimingFleet.Proofs.Procedure.Straight
import TimingFleet.Proofs.Session.Serving

/-!
# Rules for requests to one session

What each request does when the node it names is there, as rules of the logic of runs.  A dispatch of a batch
that can be served has two ends: the device accepts it and serves the batch, or refuses it and the batch is
dropped.
-/

namespace TimingFleet

/-- The session is open to a board for `role`, and nothing is queued. -/
structure Session.Idle (s : Session) (role : BoardRole) : Prop where
  plays : s.device.Plays role
  batch : s.batch = #[]

theorem Session.Idle.evolves {s t : Session} {role : BoardRole} (h : s.Idle role)
    (he : s.device.Evolves t.device) (hb : t.batch = #[]) : t.Idle role :=
  ⟨h.plays.evolves he, hb⟩

theorem Session.Idle.of_device_eq {s t : Session} {role : BoardRole} (h : s.Idle role) (hb : t.batch = #[])
    (hd : t.device = s.device) : t.Idle role :=
  h.evolves (hd ▸ .refl _) hb

/-- A dispatch of `s` has to get `op` done, and fails with `e`. -/
def Session.Refuses (s : Session) (op : Pending) (e : Error) : Prop :=
  op ∈ s.batch.toList ∧ s.dispatch.result = .error e

/-- The device evolves along every run. -/
theorem Session.evolves_run {α : Type} (now : UInt64) (p : Procedure Unit α) (s : Session) :
    s.device.Evolves (p.run now s).state.device :=
  (p.asks_true.keeps (I := fun t : Session => s.device.Evolves t.device)
    (fun _ r t _ ht => ht.trans (t.answer_evolves r)) (.refl _)).1

namespace Procedure

variable {now : UInt64} {s : Session} {path : NodePath} {E : Error → Session → Trace Unit Session → Prop}

/-- A request that succeeds. -/
theorem runs_request_of_ok {r : Request} {a : r.Reply} {t : Session}
    {Q : r.Reply → Session → Trace Unit Session → Prop} (ha : s.answer r = .ok a t) (h : Q a t [(s, (), r)]) :
    Runs now (request () r) s Q E := by
  refine runs_request (fun b hb => ?_) fun e he => ?_
  · simp only [Stations.answer, ha, Outcome.ok, Except.ok.injEq] at hb ⊢
    rw [← hb]
    exact h
  · simp only [Stations.answer, ha, Outcome.ok] at he
    cases he

theorem runs_read {Q : WordHandle → Session → Trace Unit Session → Prop}
    (hp : s.device.registers.words.contains path = true)
    (h : Q (s.slots.wordHandle path) (s.bump.enqueue (.read (s.slots.wordHandle path))) [(s, (), .read path)]) :
    Runs now (read path) s Q E :=
  runs_request_of_ok (by simp only [Session.answer, Session.read, hp, if_true]) h

theorem runs_readBlock {words : Nat} {Q : BlockHandle → Session → Trace Unit Session → Prop}
    (hp : s.device.registers.isBlock path = true)
    (h : Q (s.slots.blockHandle path) (s.bump.enqueue (.readBlock (s.slots.blockHandle path) words))
      [(s, (), .readBlock path words)]) :
    Runs now (readBlock path words) s Q E :=
  runs_request_of_ok (by simp only [Session.answer, Session.readBlock, hp, if_true]) h

theorem runs_write {value : UInt32} {Q : Unit → Session → Trace Unit Session → Prop}
    (hp : s.device.registers.words.contains path = true)
    (h : Q () (s.enqueue (.write path value)) [(s, (), .write path value)]) :
    Runs now (write path value) s Q E :=
  runs_request_of_ok (by simp only [Session.answer, Session.write, hp, if_true]) h

theorem runs_writeBlock {values : List UInt32} {Q : Unit → Session → Trace Unit Session → Prop}
    (hp : s.device.registers.blocks.contains path = true)
    (h : Q () (s.enqueue (.writeBlock path values)) [(s, (), .writeBlock path values)]) :
    Runs now (writeBlock path values) s Q E :=
  runs_request_of_ok (by simp only [Session.answer, Session.writeBlock, hp, if_true]) h

theorem runs_wordValue {handle : WordHandle} {Q : UInt32 → Session → Trace Unit Session → Prop} (value : UInt32)
    (hv : s.slots.word? handle = some value) (h : Q value s [(s, (), .wordValue handle)]) :
    Runs now (wordValue handle) s Q E :=
  runs_request_of_ok (by simp only [Session.answer, Session.wordValue, hv]; rfl) h

theorem runs_blockValue {handle : BlockHandle} {Q : List UInt32 → Session → Trace Unit Session → Prop}
    (values : List UInt32) (hv : s.slots.block? handle = some values)
    (h : Q values s [(s, (), .blockValue handle)]) :
    Runs now (blockValue handle) s Q E :=
  runs_request_of_ok (by simp only [Session.answer, Session.blockValue, hv]; rfl) h

/-- **Dispatch**: the batch is served, or an operation of it fails, or the device refuses it as a whole.  Nothing waits
afterwards in any case. -/
theorem runs_dispatch_cases {Q : Unit → Session → Trace Unit Session → Prop}
    (hok : ∀ t : Session, s.device.refusal (s.dispatchCount + 1) = none →
      (s.bench.serveAll s.batch.toList).result = .ok () → t.batch = #[] →
      t.bench = (s.bench.serveAll s.batch.toList).state → Q () t [(s, (), .dispatch)])
    (hstop : ∀ e (t : Session), (s.bench.serveAll s.batch.toList).result = .error e → t.batch = #[] →
      t.bench = (s.bench.serveAll s.batch.toList).state → E e t [(s, (), .dispatch)])
    (hrefused : ∀ reason, s.device.refusal (s.dispatchCount + 1) = some reason →
      E (.transport s.device.id reason) s.flushed [(s, (), .dispatch)]) :
    Runs now dispatch s Q E := by
  cases h : s.device.refusal (s.dispatchCount + 1) with
  | none =>
    obtain ⟨hres, hstate⟩ := Session.dispatch_of_no_refusal h
    refine runs_request (fun _ hr => ?_) fun e hr => ?_
    · simp only [Stations.answer, Session.answer, hres, hstate] at hr ⊢
      exact hok _ h hr rfl rfl
    · simp only [Stations.answer, Session.answer, hres, hstate] at hr ⊢
      exact hstop e _ hr rfl rfl
  | some reason =>
    have hd := Session.dispatch_of_refusal h
    refine runs_request (fun _ hr => ?_) fun e hr => ?_
    · simp only [Stations.answer, Session.answer, hd] at hr
      cases hr
    · simp only [Stations.answer, Session.answer, hd] at hr ⊢
      cases hr
      exact hrefused reason h

/-- **Dispatch** of a batch that can be served: it is served, or a device with a fault refuses it.  Nothing
waits afterwards in either case. -/
theorem runs_dispatch_or_refused {Q : Unit → Session → Trace Unit Session → Prop} {c : Bench} (ops : List Pending)
    (hb : s.batch.toList = ops) (hc : s.bench.Serves ops c)
    (hok : s.device.refusal (s.dispatchCount + 1) = none → ∀ t : Session, t.batch = #[] → t.bench = c →
      Q () t [(s, (), .dispatch)])
    (herr : ∀ reason, s.device.refusal (s.dispatchCount + 1) = some reason →
      E (.transport s.device.id reason) s.flushed [(s, (), .dispatch)]) :
    Runs now dispatch s Q E := by
  obtain ⟨hserved, rfl⟩ := hc
  subst hb
  refine runs_dispatch_cases (fun t h _ ht hbench => hok h t ht hbench) (fun e t hstop _ _ => ?_) herr
  rw [hserved] at hstop
  cases hstop

/-- The same for a caller that does not look at the log. -/
theorem runs_dispatch {Q : Unit → Session → Trace Unit Session → Prop} {c : Bench} (ops : List Pending)
    (hb : s.batch.toList = ops) (hc : s.bench.Serves ops c)
    (hok : s.device.refusal (s.dispatchCount + 1) = none → ∀ t : Session, t.batch = #[] → t.bench = c →
      Q () t [(s, (), .dispatch)])
    (herr : ∀ reason, s.device.refusal (s.dispatchCount + 1) = some reason → ∀ t : Session, t.batch = #[] →
      t.bench = s.bench → E (.transport s.device.id reason) t [(s, (), .dispatch)]) :
    Runs now dispatch s Q E :=
  runs_dispatch_or_refused ops hb hc hok fun reason hr => herr reason hr s.flushed rfl rfl

/-- The run has ended at a dispatch of `ops` that the device refused.  Nothing waits any more, and the device is as it
was at that moment. -/
def EndsRefused (ops : List Pending) (e : Error) (t : Session) (tr : Trace Unit Session) : Prop :=
  ∃ u : Session, tr.getLast? = some (u, (), .dispatch) ∧ u.batch.toList = ops ∧ t = u.flushed ∧ t.JustRefused e

theorem endsRefused_of_refusal {ops : List Pending} {reason : String} (hb : s.batch.toList = ops)
    (hr : s.device.refusal (s.dispatchCount + 1) = some reason) :
    EndsRefused ops (.transport s.device.id reason) s.flushed [(s, (), .dispatch)] :=
  ⟨s, rfl, hb, rfl, Session.justRefused_flushed hr⟩

section EndsRefused

variable {ops : List Pending} {e : Error} {t : Session} {tr : Trace Unit Session}

theorem EndsRefused.append (h : EndsRefused ops e t tr) (before : Trace Unit Session) :
    EndsRefused ops e t (before ++ tr) := by
  obtain ⟨u, hlast, hu⟩ := h
  exact ⟨u, by rw [List.getLast?_append, hlast, Option.some_or], hu⟩

theorem EndsRefused.batch (h : EndsRefused ops e t tr) : t.batch = #[] := by
  obtain ⟨u, -, -, rfl, -⟩ := h
  rfl

theorem EndsRefused.justRefused (h : EndsRefused ops e t tr) : t.JustRefused e := by
  obtain ⟨u, -, -, -, ht⟩ := h
  exact ht

theorem EndsRefused.failure_ne_none (h : EndsRefused ops e t tr) : t.device.failure ≠ none := by
  obtain ⟨reason, hr, -⟩ := h.justRefused
  exact Session.failure_ne_none_of_refusal hr

theorem EndsRefused.refuses (h : EndsRefused ops e t tr) {op : Pending} (hop : op ∈ ops) :
    ∃ u, tr.getLast? = some (u, (), .dispatch) ∧ u.Refuses op e := by
  obtain ⟨u, hlast, rfl, rfl, reason, hr, rfl⟩ := h
  rw [Session.dispatchCount_flushed] at hr
  exact ⟨u, hlast, hop, congrArg Outcome.result (Session.dispatch_of_refusal hr)⟩

theorem EndsRefused.endsAt (h : EndsRefused ops e t tr) : EndsAt () tr e := by
  obtain ⟨u, hlast, -, rfl, reason, hr, rfl⟩ := h
  rw [Session.dispatchCount_flushed] at hr
  exact ⟨u, hlast, rfl, congrArg Outcome.result (Session.dispatch_of_refusal hr)⟩

/-- If it is the first request of the run that fails, nothing before it has failed. -/
theorem EndsRefused.first (h : EndsRefused ops e t tr)
    (hfirst : ∃ before x, tr = before ++ [x] ∧ (∀ y ∈ before, failure? y = none) ∧ failure? x = some e) :
    ∃ before x, tr = before ++ [x] ∧ (∀ y ∈ before, failure? y = none) ∧ FailsDispatch x e ∧
      x.1.batch.toList = ops := by
  obtain ⟨u, hlast, hbatch, -⟩ := h
  obtain ⟨before, x, rfl, hbefore, hx⟩ := hfirst
  rw [List.getLast?_concat] at hlast
  obtain rfl := Option.some.inj hlast
  exact ⟨before, _, rfl, hbefore, ⟨rfl, failure?_eq_some_iff.mp hx⟩, hbatch⟩

end EndsRefused

/-- **A block read alone in its batch** gives what the device gives, or takes nothing. -/
theorem runs_blockAlone {α : Type} {words : Nat} {k : List UInt32 → Procedure Unit α} {Q : α → Session → Prop}
    {E : Error → Session → Prop} (hs : s.batch = #[]) (hp : s.device.registers.isBlock path = true)
    (hok : ∀ values (t : Session), t.batch = #[] → s.device.readBlock path words = .ok (values, t.device) →
      Runs now (k values) t (fun a u _ => Q a u) fun e u _ => E e u)
    (herr : ∀ e (t : Session), t.batch = #[] → t.device = s.device →
      s.device.readBlock path words = .error e ∨ t.JustRefused e → E e t) :
    Runs now (readBlock path words >>= fun handle => dispatch >>= fun _ => blockValue handle >>= k) s
      (fun a t _ => Q a t) fun e t _ => E e t := by
  have hone : ∀ op, (s.bump.enqueue op).batch.toList = [op] := fun op => by simp [hs]
  refine runs_bind (runs_readBlock hp (runs_bind (runs_dispatch_cases ?served ?stopped fun reason hr => ?refused)))
  case served =>
    intro t _ hres ht hbench
    rw [hone, (Bench.serveAll_singleton _ _).1] at hres
    rw [hone, (Bench.serveAll_singleton _ _).2] at hbench
    cases hread : s.device.readBlock path words with
    | error e => simp [Bench.serve, Session.bench, Slots.blockHandle, hread, Outcome.error] at hres
    | ok taken =>
      simp only [Bench.serve, Session.bench, Session.device_enqueue, Session.device_bump, Slots.blockHandle, hread,
        Outcome.ok] at hbench
      have hdev : t.device = taken.2 := congrArg Bench.device hbench
      refine runs_bind (runs_blockValue taken.1 ?_ (hok taken.1 t ht (by rw [hread, hdev])))
      rw [show t.slots = _ from congrArg Bench.slots hbench, Slots.block?_fillBlock]
      exact if_pos rfl
  case stopped =>
    intro e t hres ht hbench
    rw [hone, (Bench.serveAll_singleton _ _).1] at hres
    rw [hone, (Bench.serveAll_singleton _ _).2, Bench.serve_state_of_error hres] at hbench
    refine herr e t ht (congrArg Bench.device hbench) (Or.inl ?_)
    cases hread : s.device.readBlock path words with
    | ok taken => simp [Bench.serve, Session.bench, Slots.blockHandle, hread, Outcome.ok] at hres
    | error e' => simpa [Bench.serve, Session.bench, Slots.blockHandle, hread, Outcome.error] using hres
  case refused => exact herr _ _ rfl rfl (Or.inr (Session.justRefused_flushed hr))

end Procedure

end TimingFleet

import Mathlib.Tactic.SplitIfs
import TimingFleet.Proofs.Outcome
import TimingFleet.Session.Procedure

/-!
# A program logic for procedures

`Runs now p s Q E`: the run of `p` from `s` either ends with a result, in a final state and with a trace that
satisfy `Q`, or it ends with an error, in a state and with a trace that satisfy `E`.  Every run ends, so there
is no third case.  The trace lists what the run asked: the state in which it asked, the station, the request.

There is one rule for each way to build a procedure.  `Asks φ p` says that whatever the replies are, `p` asks
only what `φ` allows; a property of states that such requests keep holds all along a run (`Asks.keeps`).
-/

namespace TimingFleet

/-- What a run asks: the state in which it asks, the station and the request. -/
abbrev Trace (ι σ : Type) := List (σ × ι × Request)

namespace Procedure

variable {ι κ σ τ α β γ : Type}

/-! ## Runs with results and traces -/

section Runs

variable [Stations ι σ] {now : UInt64} {p : Procedure ι α} {s : σ}
  {Q Q' : α → σ → Trace ι σ → Prop} {E E' : Error → σ → Trace ι σ → Prop}

/-- The run of `p` from `s` satisfies `Q` if it has a result and `E` if it fails. -/
def Runs (now : UInt64) (p : Procedure ι α) (s : σ) (Q : α → σ → Trace ι σ → Prop)
    (E : Error → σ → Trace ι σ → Prop) : Prop :=
  match (p.run now s).result with
  | .ok a => Q a (p.run now s).state (p.asked now s)
  | .error e => E e (p.run now s).state (p.asked now s)

theorem runs_iff : Runs now p s Q E ↔
    (∀ a, (p.run now s).result = .ok a → Q a (p.run now s).state (p.asked now s)) ∧
      (∀ e, (p.run now s).result = .error e → E e (p.run now s).state (p.asked now s)) := by
  unfold Runs
  cases h : (p.run now s).result with
  | ok a => exact ⟨fun hq => ⟨fun b hb => Except.ok.inj hb ▸ hq, fun e he => nomatch he⟩, fun hq => hq.1 a rfl⟩
  | error e =>
    exact ⟨fun he => ⟨(fun _ hb => nomatch hb), fun f hf => Except.error.inj hf ▸ he⟩, fun hq => hq.2 e rfl⟩

/-- A known result, as a statement about the run. -/
theorem runs_result_iff {x : Except Error α} :
    Runs now p s (fun a _ _ => x = .ok a) (fun e _ _ => x = .error e) ↔ x = (p.run now s).result := by
  unfold Runs
  cases (p.run now s).result <;> rfl

theorem Runs.mono (h : Runs now p s Q E) (hQ : ∀ a t tr, Q a t tr → Q' a t tr)
    (hE : ∀ e t tr, E e t tr → E' e t tr) : Runs now p s Q' E' := by
  obtain ⟨hq, he⟩ := runs_iff.mp h
  exact runs_iff.mpr ⟨fun a ha => hQ _ _ _ (hq a ha), fun e h => hE _ _ _ (he e h)⟩

theorem Runs.and (h : Runs now p s Q E) (h' : Runs now p s Q' E') :
    Runs now p s (fun a t tr => Q a t tr ∧ Q' a t tr) (fun e t tr => E e t tr ∧ E' e t tr) := by
  obtain ⟨hq, he⟩ := runs_iff.mp h
  obtain ⟨hq', he'⟩ := runs_iff.mp h'
  exact runs_iff.mpr ⟨fun a ha => ⟨hq a ha, hq' a ha⟩, fun e h => ⟨he e h, he' e h⟩⟩

/-- What a run is, as a statement about it. -/
theorem runs_self : Runs now p s
    (fun a t tr => (p.run now s).result = .ok a ∧ t = (p.run now s).state ∧ tr = p.asked now s)
    fun e t tr => (p.run now s).result = .error e ∧ t = (p.run now s).state ∧ tr = p.asked now s :=
  runs_iff.mpr ⟨fun _ h => ⟨h, rfl, rfl⟩, fun _ h => ⟨h, rfl, rfl⟩⟩

/-- What holds whether a run fails or not. -/
theorem runs_const_iff {R : σ → Trace ι σ → Prop} :
    Runs now p s (fun _ => R) (fun _ => R) ↔ R (p.run now s).state (p.asked now s) := by
  unfold Runs
  cases (p.run now s).result <;> rfl

/-- A run that cannot fail has a result. -/
theorem Runs.succeeds (h : Runs now p s Q fun _ _ _ => False) :
    ∃ a, (p.run now s).result = .ok a ∧ Q a (p.run now s).state (p.asked now s) := by
  obtain ⟨hq, he⟩ := runs_iff.mp h
  cases hresult : (p.run now s).result with
  | ok a => exact ⟨a, rfl, hq a hresult⟩
  | error e => exact (he e hresult).elim

theorem runs_pure {a : α} (h : Q a s []) : Runs now (pure a) s Q E := h

theorem runs_fail {e : Error} (h : E e s []) : Runs now (.fail e) s Q E := h

theorem runs_request {i : ι} {r : Request} {Q : r.Reply → σ → Trace ι σ → Prop}
    (hok : ∀ a, (Stations.answer i r s).result = .ok a → Q a (Stations.answer i r s).state [(s, i, r)])
    (herr : ∀ e, (Stations.answer i r s).result = .error e → E e (Stations.answer i r s).state [(s, i, r)]) :
    Runs now (request i r) s Q E := by
  unfold Runs request
  simp only [run, asked]
  cases h : (Stations.answer i r s).result with
  | ok a => exact hok a h
  | error e => exact herr e h

theorem bind_assoc (p : Procedure ι α) (f : α → Procedure ι β) (g : β → Procedure ι γ) :
    (p >>= f >>= g) = p >>= fun a => f a >>= g := by
  show (p.bind f).bind g = p.bind fun a => (f a).bind g
  induction p with
  | done a => rfl
  | fail e => rfl
  | emit e p ih => exact congrArg (emit e) ih
  | clock p ih => exact congrArg clock (funext ih)
  | ask i r p ih => exact congrArg (ask i r) (funext ih)

/-- The result of a sequence is that of its second part, or the failure of its first. -/
theorem result_bind (now : UInt64) (p : Procedure ι α) (f : α → Procedure ι β) (s : σ) :
    ((p >>= f).run now s).result =
      (p.run now s).result.bind fun a => ((f a).run now (p.run now s).state).result := by
  show ((p.bind f).run now s).result = _
  rw [run_bind]
  cases h : (p.run now s).result with
  | ok a => rw [Outcome.andThen_of_ok h]; rfl
  | error e => rw [Outcome.andThen_of_error h]; rfl

theorem result_bind_congr {f g : α → Procedure ι β}
    (h : ∀ a (t : σ), ((f a).run now t).result = ((g a).run now t).result) :
    ((p >>= f).run now s).result = ((p >>= g).run now s).result := by
  rw [result_bind, result_bind]
  exact congrArg _ (funext fun a => h a _)

theorem asked_bind (now : UInt64) (p : Procedure ι α) (f : α → Procedure ι β) (s : σ) :
    (p.bind f).asked now s = p.asked now s ++
      match (p.run now s).result with
      | .ok a => (f a).asked now (p.run now s).state
      | .error _ => [] := by
  induction p generalizing s with
  | done a => rfl
  | fail e => rfl
  | emit e p ih => exact ih s
  | clock p ih => exact ih now s
  | ask i r p ih => simp only [bind, asked, ih, List.cons_append, run, Outcome.result_after, Outcome.state_after]

/-- What a sequence asks first is what its first part asks first, if that asks at all. -/
theorem asked_bind_of_cons {x : σ × ι × Request} {rest : Trace ι σ} (h : p.asked now s = x :: rest)
    (f : α → Procedure ι β) : ∃ more, (p >>= f).asked now s = x :: more := by
  have hbind := asked_bind now p f s
  rw [h, List.cons_append] at hbind
  exact ⟨_, hbind⟩

theorem asked_attempt (now : UInt64) (p : Procedure ι α) (s : σ) : p.attempt.asked now s = p.asked now s := by
  induction p generalizing s with
  | done a => rfl
  | fail e => rfl
  | emit e p ih => exact ih s
  | clock p ih => exact ih now s
  | ask i r p ih => simp only [attempt, asked, ih]

/-- **Sequences**: the second part runs from where the first succeeds; a failure of the first is final. -/
theorem runs_bind {f : α → Procedure ι β} {Q : β → σ → Trace ι σ → Prop}
    (h : Runs now p s
      (fun a t tr => Runs now (f a) t (fun b u tr' => Q b u (tr ++ tr')) fun e u tr' => E e u (tr ++ tr')) E) :
    Runs now (p >>= f) s Q E := by
  show Runs now (p.bind f) s Q E
  unfold Runs at h ⊢
  rw [run_bind, asked_bind]
  cases hp : (p.run now s).result with
  | ok a =>
    rw [hp] at h
    simpa [Outcome.andThen, hp] using h
  | error e =>
    rw [hp] at h
    simpa [Outcome.andThen, hp] using h

/-- A property of everything that a sequence asks. -/
theorem forall_asked_bind {f : α → Procedure ι β} {φ : σ × ι × Request → Prop}
    (h : Runs now p s (fun a t tr => (∀ x ∈ tr, φ x) ∧ ∀ x ∈ (f a).asked now t, φ x)
      fun _ _ tr => ∀ x ∈ tr, φ x) : ∀ x ∈ (p >>= f).asked now s, φ x := by
  show ∀ x ∈ (p.bind f).asked now s, φ x
  rw [asked_bind]
  unfold Runs at h
  cases hp : (p.run now s).result with
  | ok a =>
    rw [hp] at h
    exact List.forall_mem_append.mpr h
  | error e =>
    rw [hp] at h
    simpa using h

/-- An attempt always has a result. -/
theorem runs_attempt {Q : Except Error α → σ → Trace ι σ → Prop}
    (h : Runs now p s (fun a => Q (.ok a)) fun e => Q (.error e)) : Runs now p.attempt s Q E := by
  unfold Runs at h ⊢
  rw [run_attempt, asked_attempt]
  cases hp : (p.run now s).result with
  | ok a => rwa [hp] at h
  | error e => rwa [hp] at h

theorem runs_log {level : Level} {text : String} {Q : Unit → σ → Trace ι σ → Prop} (h : Q () s []) :
    Runs now (log level text) s Q E := h

theorem runs_now {Q : UInt64 → σ → Trace ι σ → Prop} (h : Q now s []) : Runs now Procedure.now s Q E := h

theorem runs_settle {what : String} {duration : Duration} {Q : Unit → σ → Trace ι σ → Prop} (h : Q () s []) :
    Runs now (settle what duration) s Q E := by
  unfold settle
  split_ifs
  · exact h
  · exact h

end Runs

/-! ## What whole procedures keep -/

section Keeps

variable [Stations ι σ] {I : σ → Prop} {p : Procedure ι α}

/-- A run from a state of `I` ends in one, whether it fails or not. -/
def Keeps (I : σ → Prop) (p : Procedure ι α) : Prop := ∀ now s, I s → I (p.run now s).state

theorem keeps_iff : Keeps I p ↔ ∀ now s, I s → Runs now p s (fun _ t _ => I t) fun _ t _ => I t :=
  forall₃_congr fun _ _ _ => (runs_const_iff (R := fun t _ => I t)).symm

theorem keeps_pure (a : α) : Keeps I (pure a : Procedure ι α) := fun _ _ hs => hs

theorem keeps_fail (e : Error) : Keeps I (.fail e : Procedure ι α) := fun _ _ hs => hs

theorem keeps_log (level : Level) (text : String) : Keeps I (log level text : Procedure ι Unit) := fun _ _ hs => hs

theorem keeps_bind {f : α → Procedure ι β} (hp : Keeps I p) (hf : ∀ a, Keeps I (f a)) : Keeps I (p >>= f) := by
  refine keeps_iff.mpr fun now s hs => runs_bind ((keeps_iff.mp hp now s hs).mono (fun a t _ ht => ?_) fun _ _ _ h => h)
  exact (keeps_iff.mp (hf a) now t ht).mono (fun _ _ _ h => h) fun _ _ _ h => h

theorem keeps_each {items : List β} {f : β → Procedure ι α} (h : ∀ b ∈ items, Keeps I (f b)) :
    Keeps I (each items f) := by
  induction items with
  | nil => exact keeps_pure []
  | cons b items ih =>
    refine keeps_bind (h b List.mem_cons_self) fun _ => ?_
    exact keeps_bind (ih fun c hc => h c (List.mem_cons_of_mem b hc)) fun _ => keeps_pure _

end Keeps

/-! ## What a procedure can ask -/

/-- Whatever the replies are, only requests that `φ` allows are asked. -/
def Asks (φ : ι → Request → Prop) : Procedure ι α → Prop
  | .done _ => True
  | .fail _ => True
  | .emit _ p => p.Asks φ
  | .clock p => ∀ now, (p now).Asks φ
  | .ask i r p => φ i r ∧ ∀ reply, (p reply).Asks φ

section Asks

variable {φ : ι → Request → Prop} {p : Procedure ι α}

theorem asks_bind {f : α → Procedure ι β} (hp : p.Asks φ) (hf : ∀ a, (f a).Asks φ) : (p >>= f).Asks φ := by
  show (p.bind f).Asks φ
  induction p with
  | done a => exact hf a
  | fail e => trivial
  | emit e p ih => exact ih hp
  | clock p ih => exact fun now => ih now (hp now)
  | ask i r p ih => exact ⟨hp.1, fun reply => ih reply (hp.2 reply)⟩

theorem asks_true (p : Procedure ι α) : p.Asks fun _ _ => True := by
  induction p with
  | done a => trivial
  | fail e => trivial
  | emit e p ih => exact ih
  | clock p ih => exact ih
  | ask i r p ih => exact ⟨trivial, ih⟩

theorem Asks.mono {ψ : ι → Request → Prop} (hp : p.Asks φ) (h : ∀ i r, φ i r → ψ i r) : p.Asks ψ := by
  induction p with
  | done a => trivial
  | fail e => trivial
  | emit e p ih => exact ih hp
  | clock p ih => exact fun now => ih now (hp now)
  | ask i r p ih => exact ⟨h i r hp.1, fun reply => ih reply (hp.2 reply)⟩

theorem asks_attempt (hp : p.Asks φ) : p.attempt.Asks φ := by
  induction p with
  | done a => trivial
  | fail e => trivial
  | emit e p ih => exact ih hp
  | clock p ih => exact fun now => ih now (hp now)
  | ask i r p ih => exact ⟨hp.1, fun reply => ih reply (hp.2 reply)⟩

theorem asks_mapStations {ψ : κ → Request → Prop} {f : ι → κ} (hp : p.Asks φ)
    (h : ∀ i r, φ i r → ψ (f i) r) : (p.mapStations f).Asks ψ := by
  induction p with
  | done a => trivial
  | fail e => trivial
  | emit e p ih => exact ih hp
  | clock p ih => exact fun now => ih now (hp now)
  | ask i r p ih => exact ⟨h i r hp.1, fun reply => ih reply (hp.2 reply)⟩

theorem asks_ofExcept (x : Except Error α) : (ofExcept x : Procedure ι α).Asks φ := by
  cases x <;> trivial

theorem asks_request {i : ι} {r : Request} (h : φ i r) : (request i r).Asks φ :=
  ⟨h, asks_ofExcept⟩

theorem asks_ite {c : Prop} [Decidable c] {q : Procedure ι α} (hp : c → p.Asks φ) (hq : ¬ c → q.Asks φ) :
    (if c then p else q).Asks φ := by
  split_ifs with h
  · exact hp h
  · exact hq h

theorem asks_each {items : List β} {f : β → Procedure ι α} (h : ∀ b ∈ items, (f b).Asks φ) : (each items f).Asks φ := by
  induction items with
  | nil => trivial
  | cons b items ih =>
    refine asks_bind (h b List.mem_cons_self) fun _ => ?_
    exact asks_bind (ih fun c hc => h c (List.mem_cons_of_mem b hc)) fun _ => trivial

theorem asks_settle (what : String) (duration : Duration) : (settle what duration : Procedure ι Unit).Asks φ := by
  unfold settle
  split_ifs <;> trivial

variable [Stations ι σ] {now : UInt64} {s : σ}

/-- What is asked in a run is allowed. -/
theorem Asks.of_mem_asked (hp : p.Asks φ) : ∀ x ∈ p.asked now s, φ x.2.1 x.2.2 := by
  induction p generalizing s with
  | done a => exact fun x hx => absurd hx List.not_mem_nil
  | fail e => exact fun x hx => absurd hx List.not_mem_nil
  | emit e p ih => exact ih hp
  | clock p ih => exact ih now (hp now)
  | ask i r p ih =>
    intro x hx
    rcases List.mem_cons.mp hx with rfl | hx
    · exact hp.1
    · exact ih _ (hp.2 _) x hx

/-- **Invariants**: what allowed requests keep holds in every state of a run. -/
theorem Asks.keeps {I : σ → Prop} (hp : p.Asks φ)
    (hI : ∀ i r t, φ i r → I t → I (Stations.answer i r t).state) (hs : I s) :
    I (p.run now s).state ∧ ∀ x ∈ p.asked now s, I x.1 := by
  induction p generalizing s with
  | done a => exact ⟨hs, fun x hx => absurd hx List.not_mem_nil⟩
  | fail e => exact ⟨hs, fun x hx => absurd hx List.not_mem_nil⟩
  | emit e p ih => exact ih hp hs
  | clock p ih => exact ih now (hp now) hs
  | ask i r p ih =>
    obtain ⟨hlast, hall⟩ := ih _ (hp.2 _) (hI i r s hp.1 hs)
    refine ⟨hlast, fun x hx => ?_⟩
    rcases List.mem_cons.mp hx with rfl | hx
    · exact hs
    · exact hall x hx

/-- What is asked in a run, as a statement about the run. -/
theorem runs_of_asks (hp : p.Asks φ) : Runs now p s (fun _ _ tr => ∀ x ∈ tr, φ x.2.1 x.2.2)
    fun _ _ tr => ∀ x ∈ tr, φ x.2.1 x.2.2 :=
  (runs_const_iff (R := fun _ tr => ∀ x ∈ tr, φ x.2.1 x.2.2)).mpr hp.of_mem_asked

end Asks

/-! ## What a run accumulates -/

section Folds

variable [Stations ι σ] {β : Type} {m : σ → β} {g : β → σ × ι × Request → β} {I : σ → Prop}

/-- **Accumulation**: if each request takes the measure of the state one step on, then in each state that a run
comes through the measure is what the requests so far have made of it. -/
theorem foldl_asked (hI : ∀ (i : ι) r t, I t → I (Stations.answer i r t).state)
    (hm : ∀ (i : ι) r t, I t → m (Stations.answer i r t).state = g (m t) (t, i, r)) (now : UInt64)
    (p : Procedure ι α) {s : σ} (hs : I s) :
    m (p.run now s).state = (p.asked now s).foldl g (m s) ∧
      ∀ before x after, p.asked now s = before ++ x :: after → m x.1 = before.foldl g (m s) := by
  induction p generalizing s with
  | done a => exact ⟨rfl, fun before x after h => absurd h.symm (by simp [asked])⟩
  | fail e => exact ⟨rfl, fun before x after h => absurd h.symm (by simp [asked])⟩
  | emit e p ih => exact ih hs
  | clock p ih => exact ih now hs
  | ask i r p ih =>
    obtain ⟨hlast, hall⟩ := ih (Stations.answer i r s).result (hI i r s hs)
    rw [hm i r s hs] at hlast hall
    refine ⟨hlast, fun before x after h => ?_⟩
    cases before with
    | nil =>
      obtain ⟨rfl, -⟩ := List.cons.inj h
      rfl
    | cons y before =>
      obtain ⟨rfl, hrest⟩ := List.cons.inj h
      exact hall before x after hrest

end Folds

/-! ## Stations inside larger states -/

variable [Stations ι σ] [Stations κ τ]

/-- A procedure at other stations runs as it does at its own when these are a part of the others' state. -/
theorem run_mapStations {f : ι → κ} {g : σ → τ}
    (hg : ∀ i r x, Stations.answer (f i) r (g x) = (Stations.answer i r x).inState g) (now : UInt64)
    (p : Procedure ι α) (x : σ) : (p.mapStations f).run now (g x) = (p.run now x).inState g := by
  induction p generalizing x with
  | done a => rfl
  | fail e => rfl
  | emit e p ih => simp only [mapStations, run, ih]; rfl
  | clock p ih => exact ih now x
  | ask i r p ih => simp only [mapStations, run, hg, Outcome.result_inState, Outcome.state_inState, ih]; rfl

theorem asked_mapStations {f : ι → κ} {g : σ → τ}
    (hg : ∀ i r x, Stations.answer (f i) r (g x) = (Stations.answer i r x).inState g) (now : UInt64)
    (p : Procedure ι α) (x : σ) :
    (p.mapStations f).asked now (g x) = (p.asked now x).map fun y => (g y.1, f y.2.1, y.2.2) := by
  induction p generalizing x with
  | done a => rfl
  | fail e => rfl
  | emit e p ih => exact ih x
  | clock p ih => exact ih now x
  | ask i r p ih =>
    simp only [mapStations, asked, hg, Outcome.result_inState, Outcome.state_inState, ih, List.map_cons]

theorem runs_mapStations {f : ι → κ} {g : σ → τ}
    (hg : ∀ i r x, Stations.answer (f i) r (g x) = (Stations.answer i r x).inState g) {now : UInt64}
    {p : Procedure ι α} {x : σ} {Q : α → τ → Trace κ τ → Prop} {E : Error → τ → Trace κ τ → Prop}
    (h : Runs now p x (fun a t tr => Q a (g t) (tr.map fun y => (g y.1, f y.2.1, y.2.2)))
      fun e t tr => E e (g t) (tr.map fun y => (g y.1, f y.2.1, y.2.2))) :
    Runs now (p.mapStations f) (g x) Q E := by
  unfold Runs at h ⊢
  rw [run_mapStations hg, asked_mapStations hg]
  exact h

end Procedure

end TimingFleet

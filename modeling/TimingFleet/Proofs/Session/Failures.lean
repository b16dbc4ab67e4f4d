import TimingFleet.Proofs.Procedure.Straight
import TimingFleet.Proofs.Session.Effects
import TimingFleet.Proofs.Session.Logic
import TimingFleet.Session.RegisterGroup

/-!
# With which errors procedures fail

`FailsOnly φ p`: whatever is replied, `p` fails with errors of `φ` only, as long as the replies do.  So if the stations
reply with such errors only, then a run does not fail with another (`runs_of_failsOnly`).  There is one rule for each
way to build a procedure.

A session's replies do not blame arguments (`Session.not_blamesArgument`): only a procedure's own checks do.
-/

namespace TimingFleet

namespace Procedure

variable {ι σ α β : Type} {φ : Error → Prop} {p : Procedure ι α}

/-- As long as the errors among the replies satisfy `φ`, so does the error of the procedure, if it fails. -/
def FailsOnly (φ : Error → Prop) : Procedure ι α → Prop
  | .done _ => True
  | .fail e => φ e
  | .emit _ p => p.FailsOnly φ
  | .clock p => ∀ now, (p now).FailsOnly φ
  | .ask _ _ p => ∀ reply, (∀ e, reply = .error e → φ e) → (p reply).FailsOnly φ

/-- Only what `p` can ask, in states that its requests keep, has to reply with errors of `φ`. -/
theorem runs_of_failsOnly_within [Stations ι σ] {ψ : ι → Request → Prop} {I : σ → Prop} (hp : p.FailsOnly φ)
    (ha : p.Asks ψ) (hkeep : ∀ i r (s : σ), ψ i r → I s → I (Stations.answer i r s).state)
    (hreply : ∀ i r (s : σ) e, ψ i r → I s → (Stations.answer i r s).result = .error e → φ e) (now : UInt64) {s : σ}
    (hs : I s) : Runs now p s (fun _ _ _ => True) fun e _ _ => φ e := by
  refine runs_iff.mpr ⟨fun _ _ => trivial, fun e h => ?_⟩
  induction p generalizing s with
  | done a => cases h
  | fail e' => exact Except.error.inj h ▸ hp
  | emit _ p ih => exact ih hp ha hs h
  | clock p ih => exact ih now (hp now) (ha now) hs h
  | ask i r p ih =>
    exact ih _ (hp _ fun e he => hreply i r s e ha.1 hs he) (ha.2 _) (hkeep i r s ha.1 hs) h

theorem runs_of_failsOnly [Stations ι σ] (hp : p.FailsOnly φ)
    (hreply : ∀ (i : ι) r (s : σ) e, (Stations.answer i r s).result = .error e → φ e) (now : UInt64) (s : σ) :
    Runs now p s (fun _ _ _ => True) fun e _ _ => φ e :=
  runs_of_failsOnly_within (I := fun _ => True) hp p.asks_true (fun _ _ _ _ _ => trivial)
    (fun i r s e _ _ => hreply i r s e) now trivial

/-- **The first failure**: a procedure that stops at each failure and makes no check of its own asks until a request
fails, and fails with the error of that request. -/
theorem Straight.runs [Stations ι σ] (hp : p.Straight) (hown : p.FailsOnly fun _ => False) (now : UInt64) (s : σ) :
    Runs now p s (fun _ _ tr => ∀ x ∈ tr, failure? x = none)
      fun e _ tr => ∃ before x, tr = before ++ [x] ∧ (∀ y ∈ before, failure? y = none) ∧ failure? x = some e := by
  induction p generalizing s with
  | done a => exact runs_pure (List.forall_mem_nil _)
  | fail e => exact hown.elim
  | emit _ p ih => exact ih hp hown s
  | clock p ih => exact ih now (hp now) (hown now) s
  | ask i r p ih =>
    have hrest : Runs now (p (Stations.answer i r s).result) (Stations.answer i r s).state
        (fun _ _ tr => ∀ x ∈ (s, i, r) :: tr, failure? x = none)
        fun e _ tr => ∃ before x, (s, i, r) :: tr = before ++ [x] ∧ (∀ y ∈ before, failure? y = none) ∧
          failure? x = some e := by
      cases hr : (Stations.answer i r s).result with
      | error e =>
        rw [hp.1]
        exact runs_fail ⟨[], (s, i, r), rfl, List.forall_mem_nil _, failure?_eq_some_iff.mpr hr⟩
      | ok a =>
        have hfirst : failure? (s, i, r) = none := by simp only [failure?, hr]
        refine (ih (.ok a) (hp.2 a) (hown (.ok a) nofun) _).mono (fun _ _ _ h => ?_) ?_
        · exact List.forall_mem_cons.mpr ⟨hfirst, h⟩
        · rintro e _ _ ⟨before, x, rfl, hbefore, hx⟩
          exact ⟨(s, i, r) :: before, x, rfl, List.forall_mem_cons.mpr ⟨hfirst, hbefore⟩, hx⟩
    exact hrest

theorem failsOnly_pure (a : α) : (pure a : Procedure ι α).FailsOnly φ := trivial

theorem failsOnly_fail {e : Error} (h : φ e) : (.fail e : Procedure ι α).FailsOnly φ := h

theorem failsOnly_bind {f : α → Procedure ι β} (hp : p.FailsOnly φ) (hf : ∀ a, (f a).FailsOnly φ) :
    (p >>= f).FailsOnly φ := by
  show (p.bind f).FailsOnly φ
  induction p with
  | done a => exact hf a
  | fail e => exact hp
  | emit e p ih => exact ih hp
  | clock p ih => exact fun now => ih now (hp now)
  | ask i r p ih => exact fun reply h => ih reply (hp reply h)

theorem failsOnly_ite {c : Prop} [Decidable c] {q : Procedure ι α} (hp : c → p.FailsOnly φ) (hq : ¬ c → q.FailsOnly φ) :
    (if c then p else q).FailsOnly φ := by
  split_ifs with h
  · exact hp h
  · exact hq h

theorem failsOnly_request (i : ι) (r : Request) : (request i r).FailsOnly φ := by
  intro reply h
  cases reply with
  | ok a => trivial
  | error e => exact h e rfl

theorem failsOnly_mapStations {κ : Type} {f : ι → κ} (hp : p.FailsOnly φ) : (p.mapStations f).FailsOnly φ := by
  induction p with
  | done a => trivial
  | fail e => exact hp
  | emit e p ih => exact ih hp
  | clock p ih => exact fun now => ih now (hp now)
  | ask i r p ih => exact fun reply h => ih reply (hp reply h)

/-- What follows an attempt may rely on what the attempt can fail with. -/
theorem failsOnly_attempt_bind {f : Except Error α → Procedure ι β} (hp : p.FailsOnly φ)
    (hok : ∀ a, (f (.ok a)).FailsOnly φ) (herr : ∀ e, φ e → (f (.error e)).FailsOnly φ) :
    (p.attempt >>= f).FailsOnly φ := by
  show (p.attempt.bind f).FailsOnly φ
  induction p with
  | done a => exact hok a
  | fail e => exact herr e hp
  | emit e p ih => exact ih hp
  | clock p ih => exact fun now => ih now (hp now)
  | ask i r p ih => exact fun reply h => ih reply (hp reply h)

theorem failsOnly_log (level : Level) (text : String) : (log level text : Procedure ι Unit).FailsOnly φ := trivial

theorem failsOnly_settle (what : String) (duration : Duration) :
    (settle what duration : Procedure ι Unit).FailsOnly φ :=
  failsOnly_ite (fun _ => trivial) fun _ => failsOnly_bind (failsOnly_log _ _) fun _ => trivial

theorem failsOnly_each {items : List β} {f : β → Procedure ι α} (h : ∀ b ∈ items, (f b).FailsOnly φ) :
    (each items f).FailsOnly φ := by
  induction items with
  | nil => trivial
  | cons b items ih =>
    refine failsOnly_bind (h b List.mem_cons_self) fun _ => ?_
    exact failsOnly_bind (ih fun c hc => h c (List.mem_cons_of_mem b hc)) fun _ => trivial

theorem failsOnly_readGroup (path : NodePath) : (RegisterGroup.read path).FailsOnly φ :=
  failsOnly_bind (failsOnly_request _ _) fun _ => failsOnly_each fun _ _ =>
    failsOnly_bind (failsOnly_request _ _) fun _ => failsOnly_pure _

theorem failsOnly_collect (handles : List (String × WordHandle)) : (RegisterGroup.collect handles).FailsOnly φ :=
  failsOnly_bind (failsOnly_each fun _ _ => failsOnly_bind (failsOnly_request _ _) fun _ => failsOnly_pure _) fun _ =>
    failsOnly_pure _

end Procedure

/-! ## Errors that blame arguments -/

/-- The error blames an argument. -/
def Error.BlamesArgument (e : Error) : Prop := ∃ reason, e = .invalidArgument reason

namespace Session

variable {s : Session} {e : Error}

theorem dispatch_error (h : s.dispatch.result = .error e) : ∃ id reason, e = .transport id reason := by
  cases hr : s.device.refusal (s.dispatchCount + 1) with
  | some reason =>
    rw [dispatch_of_refusal hr] at h
    exact ⟨_, reason, (Except.error.inj h).symm⟩
  | none =>
    rw [(dispatch_of_no_refusal hr).1] at h
    rcases s.device.suffices_or_short s.batch.toList with hall | ⟨done, op, rest, hops, hdone, hshort⟩
    · rw [(Bench.serveAll_of_suffices (b := s.bench) hall).1] at h
      cases h
    · obtain ⟨⟨reason, herr⟩, -⟩ := Bench.serveAll_of_short (b := s.bench) hdone hshort rest
      rw [hops, herr] at h
      exact ⟨_, reason, (Except.error.inj h).symm⟩

/-- **A session blames no argument**: a node is missing, a value is not there yet, or the link has failed. -/
theorem not_blamesArgument {r : Request} (h : (s.answer r).result = .error e) : ¬ e.BlamesArgument := by
  rintro ⟨reason, rfl⟩
  cases r with
  | dispatch =>
    obtain ⟨_, _, heq⟩ := dispatch_error h
    cases heq
  | hasNode path => cases h
  | subNodes path => simp only [answer, subNodes] at h; split_ifs at h; cases h
  | read path => simp only [answer, read, missing] at h; split_ifs at h <;> cases h
  | readBlock path words => simp only [answer, readBlock, missing] at h; split_ifs at h <;> cases h
  | write path value => simp only [answer, write, missing] at h; split_ifs at h <;> cases h
  | writeBlock path values => simp only [answer, writeBlock, missing] at h; split_ifs at h <;> cases h
  | wordValue handle => simp only [answer, wordValue] at h; split at h <;> cases h
  | blockValue handle => simp only [answer, blockValue] at h; split at h <;> cases h

end Session

/-- A procedure that makes no check of its own blames no argument. -/
theorem Procedure.runs_blamesNoArgument {α : Type} {p : Procedure Unit α} (hp : p.FailsOnly fun e => ¬ e.BlamesArgument)
    (now : UInt64) (s : Session) : Runs now p s (fun _ _ _ => True) fun e _ _ => ¬ e.BlamesArgument :=
  runs_of_failsOnly hp (fun _ _ _ _ h => Session.not_blamesArgument h) now s

end TimingFleet

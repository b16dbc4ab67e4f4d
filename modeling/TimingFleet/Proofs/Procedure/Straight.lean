import TimingFleet.Proofs.Procedure.Logic

/-!
# Procedures that stop at the first failure

A procedure is straight if each request that fails ends it, with the error of that request: nothing is tried again and
nothing is put back.  So a request that fails is the last one of its run (`Straight.ends`).

* `FailsDispatch x e`: what `x` of a trace asks is a dispatch, and it fails with `e`.
* `EndsAt i tr e`: the trace ends so, at the station `i`.
-/

namespace TimingFleet

namespace Procedure

variable {ι κ σ α β : Type} {p : Procedure ι α}

/-- Each request that fails ends the procedure with its error. -/
def Straight : Procedure ι α → Prop
  | .done _ => True
  | .fail _ => True
  | .emit _ p => p.Straight
  | .clock p => ∀ now, (p now).Straight
  | .ask _ _ p => (∀ e, p (.error e) = .fail e) ∧ ∀ a, (p (.ok a)).Straight

/-- **The first failure is final**: the run ends with the error of a request that fails, and asks nothing more. -/
theorem Straight.ends [Stations ι σ] (hp : p.Straight) {now : UInt64} {s : σ} {before after : Trace ι σ}
    {x : σ × ι × Request} {e : Error} (h : p.asked now s = before ++ x :: after)
    (hx : (Stations.answer x.2.1 x.2.2 x.1).result = .error e) :
    (p.run now s).result = .error e ∧ after = [] := by
  induction p generalizing s before with
  | done a => simp [asked] at h
  | fail e => simp [asked] at h
  | emit _ p ih => exact ih hp h
  | clock p ih => exact ih now (hp now) h
  | ask i r p ih =>
    obtain ⟨hstop, hgo⟩ := hp
    simp only [asked, run, Outcome.result_after] at h ⊢
    cases before with
    | nil =>
      obtain ⟨rfl, hafter⟩ := List.cons.inj h
      rw [hx, hstop] at hafter ⊢
      exact ⟨rfl, hafter.symm⟩
    | cons y before =>
      obtain ⟨-, hrest⟩ := List.cons.inj h
      cases hr : (Stations.answer i r s).result with
      | ok a =>
        rw [hr] at hrest
        exact ih (.ok a) (hgo a) hrest
      | error e' =>
        -- nothing was asked after a failure
        rw [hr, hstop] at hrest
        simp [asked] at hrest

theorem straight_pure (a : α) : (pure a : Procedure ι α).Straight := trivial

theorem straight_fail (e : Error) : (.fail e : Procedure ι α).Straight := trivial

theorem straight_log (level : Level) (text : String) : (log level text : Procedure ι Unit).Straight := trivial

theorem straight_bind {f : α → Procedure ι β} (hp : p.Straight) (hf : ∀ a, (f a).Straight) : (p >>= f).Straight := by
  show (p.bind f).Straight
  induction p with
  | done a => exact hf a
  | fail e => trivial
  | emit _ p ih => exact ih hp
  | clock p ih => exact fun now => ih now (hp now)
  | ask i r p ih =>
    refine ⟨fun e => ?_, fun a => ih (.ok a) (hp.2 a)⟩
    show (p (.error e)).bind f = _
    rw [hp.1]
    rfl

theorem straight_ite {c : Prop} [Decidable c] {q : Procedure ι α} (hp : p.Straight) (hq : q.Straight) :
    (if c then p else q).Straight := by
  split_ifs
  · exact hp
  · exact hq

theorem straight_request (i : ι) (r : Request) : (request i r).Straight := ⟨fun _ => rfl, fun _ => trivial⟩

theorem straight_settle (what : String) (duration : Duration) : (settle what duration : Procedure ι Unit).Straight :=
  straight_ite trivial (straight_bind (straight_log _ _) fun _ => trivial)

theorem straight_each {items : List β} {f : β → Procedure ι α} (h : ∀ b ∈ items, (f b).Straight) :
    (each items f).Straight := by
  induction items with
  | nil => trivial
  | cons b items ih =>
    refine straight_bind (h b List.mem_cons_self) fun _ => ?_
    exact straight_bind (ih fun c hc => h c (List.mem_cons_of_mem b hc)) fun _ => straight_pure _

theorem straight_mapStations {f : ι → κ} (hp : p.Straight) : (p.mapStations f).Straight := by
  induction p with
  | done a => trivial
  | fail e => trivial
  | emit _ p ih => exact ih hp
  | clock p ih => exact fun now => ih now (hp now)
  | ask i r p ih =>
    refine ⟨fun e => ?_, fun a => ih (.ok a) (hp.2 a)⟩
    show (p (.error e)).mapStations f = _
    rw [hp.1]
    rfl

/-! ## Dispatches that fail -/

section Dispatches

variable [Stations ι σ] {i : ι} {tr : Trace ι σ} {e : Error}

/-- The error with which the request fails, if it does. -/
def failure? (x : σ × ι × Request) : Option Error :=
  match (Stations.answer x.2.1 x.2.2 x.1).result with
  | .ok _ => none
  | .error e => some e

theorem failure?_eq_some_iff {x : σ × ι × Request} :
    failure? x = some e ↔ (Stations.answer x.2.1 x.2.2 x.1).result = .error e := by
  unfold failure?
  cases (Stations.answer x.2.1 x.2.2 x.1).result with
  | ok a => exact ⟨nofun, nofun⟩
  | error e' => exact ⟨fun h => congrArg Except.error (Option.some.inj h), fun h => congrArg some (Except.error.inj h)⟩

/-- The request is a dispatch, and fails with `e`. -/
def FailsDispatch (x : σ × ι × Request) (e : Error) : Prop :=
  x.2.2 = .dispatch ∧ (Stations.answer x.2.1 x.2.2 x.1).result = .error e

/-- Where no request fails, no dispatch does. -/
theorem not_failsDispatch_of_all (h : tr.all (fun x => (failure? x).isNone) = true) :
    ∀ x ∈ tr, ∀ e, ¬ FailsDispatch x e := by
  intro x hx e hfails
  have hnone := List.all_eq_true.mp h x hx
  rw [failure?_eq_some_iff.mpr hfails.2] at hnone
  cases hnone

/-- What is asked last is a dispatch at `i`, and fails with `e`. -/
def EndsAt (i : ι) (tr : Trace ι σ) (e : Error) : Prop :=
  ∃ s, tr.getLast? = some (s, i, .dispatch) ∧ FailsDispatch (s, i, .dispatch) e

theorem EndsAt.append (h : EndsAt i tr e) (before : Trace ι σ) : EndsAt i (before ++ tr) e := by
  obtain ⟨s, hlast, hs⟩ := h
  exact ⟨s, by rw [List.getLast?_append, hlast, Option.some_or], hs⟩

/-- What is asked last is a dispatch that fails. -/
theorem failsDispatch_of_getLast? (h : tr.getLast?.map (fun x => (x.2, failure? x)) = some ((i, .dispatch), some e)) :
    ∃ before x, tr = before ++ [x] ∧ x.2.1 = i ∧ FailsDispatch x e := by
  obtain ⟨x, hx, heq⟩ := Option.map_eq_some_iff.mp h
  obtain ⟨hasked, hfails⟩ := Prod.mk.inj heq
  obtain ⟨before, hsplit⟩ := List.getLast?_eq_some_iff.mp hx
  exact ⟨before, x, hsplit, congrArg Prod.fst hasked, congrArg Prod.snd hasked, failure?_eq_some_iff.mp hfails⟩

end Dispatches

end Procedure

end TimingFleet

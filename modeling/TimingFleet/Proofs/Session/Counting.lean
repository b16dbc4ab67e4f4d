import TimingFleet.Proofs.Session.Logic

/-!
# Counting dispatches

A device that fails has been told to refuse every dispatch, or one by its number.  So what a run comes to depends on how
many dispatches it has made.

* `Session.Passes s t n`: the session `t` is `n` dispatches after `s`, and none of them was refused.
* `Session.RefusedAt s n e`: of the dispatches after `s`, the one numbered `n` is the first that is refused.

A dispatch of a batch that can be served takes the count one further or is the first to be refused (`runs_counted`).
-/

namespace TimingFleet

namespace Session

variable {s t u : Session} {n m : Nat} {e : Error}

/-- From `s` to `t` there were `n` dispatches, and the device refused none of them. -/
structure Passes (s t : Session) (n : Nat) : Prop where
  count : t.dispatchCount = s.dispatchCount + n
  device : s.device.Evolves t.device
  accepted : ∀ k, 0 < k → k ≤ n → s.device.refusal (s.dispatchCount + k) = none

/-- After `s` the device accepts the dispatches before the one numbered `n`, and refuses that with `e`. -/
structure RefusedAt (s : Session) (n : Nat) (e : Error) : Prop where
  refused : ∃ reason, s.device.refusal (s.dispatchCount + n) = some reason ∧ e = .transport s.device.id reason
  accepted : ∀ k, 0 < k → k < n → s.device.refusal (s.dispatchCount + k) = none

namespace Passes

theorem refl (s : Session) : s.Passes s 0 := ⟨rfl, .refl _, fun _ hpos hle => absurd hpos (Nat.not_lt.mpr hle)⟩

theorem enqueue (h : s.Passes t n) (op : Pending) : s.Passes (t.enqueue op) n :=
  ⟨(t.dispatchCount_enqueue op).trans h.count, h.device, h.accepted⟩

theorem bump (h : s.Passes t n) : s.Passes t.bump n := ⟨h.count, h.device, h.accepted⟩

theorem refusal (h : s.Passes t n) (k : Nat) :
    t.device.refusal (t.dispatchCount + k) = s.device.refusal (s.dispatchCount + (n + k)) := by
  rw [h.device.refusal, h.count, Nat.add_assoc]

theorem trans (h : s.Passes t n) (h' : t.Passes u m) : s.Passes u (n + m) := by
  refine ⟨by rw [h'.count, h.count, Nat.add_assoc], h.device.trans h'.device, fun k hpos hle => ?_⟩
  rcases Nat.lt_or_ge n k with hlt | hge
  · obtain ⟨l, rfl⟩ := Nat.exists_eq_add_of_le (Nat.le_of_lt hlt)
    rw [← h.refusal]
    exact h'.accepted l (by omega) (by omega)
  · exact h.accepted k hpos hge

/-- What is refused first after `t` is so after `s`. -/
theorem refusedAt (h : s.Passes t n) (h' : t.RefusedAt m e) : s.RefusedAt (n + m) e := by
  obtain ⟨⟨reason, hr, rfl⟩, haccepted⟩ := h'
  refine ⟨⟨reason, (h.refusal m).symm.trans hr, by rw [h.device.id]⟩, fun k hpos hlt => ?_⟩
  rcases Nat.lt_or_ge n k with hgt | hge
  · obtain ⟨l, rfl⟩ := Nat.exists_eq_add_of_le (Nat.le_of_lt hgt)
    rw [← h.refusal]
    exact haccepted l (by omega) (by omega)
  · exact h.accepted k hpos hge

/-- No dispatch that was accepted is one that is refused. -/
theorem lt_of_refusedAt (h : s.Passes t n) (h' : s.RefusedAt m e) (hm : 0 < m) : n < m := by
  obtain ⟨reason, hr, -⟩ := h'.refused
  refine Nat.lt_of_not_le fun hle => ?_
  rw [h.accepted m hm hle] at hr
  cases hr

end Passes

/-- Only one dispatch is the first that is refused. -/
theorem RefusedAt.unique {e' : Error} (h : s.RefusedAt n e) (h' : s.RefusedAt m e') (hn : 0 < n) (hm : 0 < m) :
    n = m ∧ e = e' := by
  obtain ⟨reason, hr, rfl⟩ := h.refused
  obtain ⟨reason', hr', rfl⟩ := h'.refused
  rcases Nat.lt_trichotomy n m with hlt | rfl | hgt
  · exact nomatch hr.symm.trans (h'.accepted n hn hlt)
  · exact ⟨rfl, congrArg _ (Option.some.inj (hr.symm.trans hr'))⟩
  · exact nomatch hr'.symm.trans (h.accepted m hm hgt)

/-- A dispatch is counted, whatever comes of it. -/
theorem dispatchCount_dispatch (s : Session) : s.dispatch.state.dispatchCount = s.dispatchCount + 1 := by
  cases h : s.device.refusal (s.dispatchCount + 1) with
  | some reason => rw [dispatch_of_refusal h]; exact s.dispatchCount_flushed
  | none => rw [(dispatch_of_no_refusal h).2]; exact s.dispatchCount_flushed

theorem passes_dispatch (h : s.device.refusal (s.dispatchCount + 1) = none) : s.Passes s.dispatch.state 1 := by
  refine ⟨s.dispatchCount_dispatch, s.evolves_dispatch, fun k hpos hle => ?_⟩
  obtain rfl : k = 1 := by omega
  exact h

end Session

namespace Procedure

variable {now : UInt64} {s : Session}

/-- **Dispatch, counted**: a batch that can be served is served, or the device refuses it. -/
theorem runs_counted {Q : Unit → Session → Trace Unit Session → Prop}
    {E : Error → Session → Trace Unit Session → Prop} {c : Bench} (ops : List Pending)
    (hb : s.batch.toList = ops) (hc : s.bench.Serves ops c)
    (hok : ∀ t : Session, s.Passes t 1 → t.batch = #[] → t.bench = c → Q () t [(s, (), .dispatch)])
    (herr : ∀ e, s.RefusedAt 1 e → EndsRefused ops e s.flushed [(s, (), .dispatch)] →
      E e s.flushed [(s, (), .dispatch)]) :
    Runs now dispatch s Q E := by
  have hstate : (dispatch.run now s).state = s.dispatch.state := by
    unfold dispatch request
    simp only [run, Outcome.state_after]
    show ((ofExcept s.dispatch.result).run now s.dispatch.state).state = _
    cases s.dispatch.result <;> rfl
  have hruns : Runs now dispatch s (fun _ t tr => s.device.refusal (s.dispatchCount + 1) = none ∧ t.batch = #[] ∧
      t.bench = c ∧ tr = [(s, (), .dispatch)]) E :=
    runs_dispatch_or_refused ops hb hc (fun h t ht hbench => ⟨h, ht, hbench, rfl⟩) fun reason hr =>
      herr _ ⟨⟨reason, hr, rfl⟩, fun k hpos hlt => absurd hpos (by omega)⟩ (endsRefused_of_refusal hb hr)
  refine (hruns.and runs_self).mono ?_ fun e t tr h => h.1
  rintro ⟨⟩ t tr ⟨⟨hn, hbatch, hbench, rfl⟩, -, rfl, -⟩
  exact hok _ (by rw [hstate]; exact Session.passes_dispatch hn) hbatch hbench

end Procedure

end TimingFleet

import TimingFleet.Outcome

/-!
# Outcomes one after the other

What an outcome that goes on from another comes to, once it is known whether the first succeeded.
-/

namespace TimingFleet

namespace Outcome

variable {σ α β : Type} {o : Outcome σ α}

/-- A result that has been evaluated to be one of success. -/
theorem exists_of_isOk {result : Except Error α} (h : result.isOk = true) : ∃ a, result = .ok a := by
  cases result with
  | error e => exact nomatch h
  | ok a => exact ⟨a, rfl⟩

/-- Whether a result is a given failure can be evaluated, also where results have no decidable equality. -/
instance (result : Except Error α) (e : Error) : Decidable (result = .error e) :=
  match result with
  | .ok _ => isFalse nofun
  | .error e' => decidable_of_iff (e' = e) ⟨congrArg Except.error, Except.error.inj⟩

theorem andThen_of_ok {a : α} (h : o.result = .ok a) (f : α → σ → Outcome σ β) :
    o.andThen f = (f a o.state).after o.events := by
  unfold andThen
  rw [h]

theorem andThen_of_error {e : Error} (h : o.result = .error e) (f : α → σ → Outcome σ β) :
    o.andThen f = ⟨.error e, o.state, o.events⟩ := by
  unfold andThen
  rw [h]

/-- What comes second succeeds only after what comes first. -/
theorem andThen_ok_iff {f : α → σ → Outcome σ β} {b : β} :
    (o.andThen f).result = .ok b ↔ ∃ a, o.result = .ok a ∧ (f a o.state).result = .ok b := by
  cases h : o.result with
  | ok a =>
    rw [andThen_of_ok h, result_after]
    exact ⟨fun hb => ⟨a, rfl, hb⟩, fun ⟨_, ha, hb⟩ => by cases ha; exact hb⟩
  | error e =>
    rw [andThen_of_error h]
    exact ⟨(nomatch ·), fun ⟨_, ha, _⟩ => nomatch ha⟩

@[simp] theorem result_inState {τ : Type} (f : σ → τ) : (o.inState f).result = o.result := rfl

@[simp] theorem state_inState {τ : Type} (f : σ → τ) : (o.inState f).state = f o.state := rfl

end Outcome

end TimingFleet

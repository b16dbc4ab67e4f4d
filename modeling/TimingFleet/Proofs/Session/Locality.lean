import TimingFleet.Proofs.Device.Agreement
import TimingFleet.Proofs.Procedure.Logic
import TimingFleet.Session.Request

/-!
# Procedures that keep to a part of the registers

`Confined I P p`: in the sessions of `I`, the procedure `p` changes registers at `P` only, and what comes of it, there
and as its result, is decided by what is there before.

There is one rule for each way to build a procedure.  Main statement (`Confined.commute`): of two procedures that keep
to disjoint parts, each comes out as if the other had not run, and their order does not matter.
-/

namespace TimingFleet

namespace Procedure

variable {I : Session → Prop} {P Q : NodePath → Prop} {α β γ : Type} {p : Procedure Unit α} {q : Procedure Unit β}

/-- The session is one of `I`, and outside `P` its device holds what `r` does. -/
def Untouched (I : Session → Prop) (P : NodePath → Prop) (r : Registers) (s : Session) : Prop :=
  I s ∧ r.AgreeAt (fun path => ¬ P path) s.device.registers

/-- In the sessions of `I` the procedure changes registers at `P` only, by what is there. -/
structure Confined (I : Session → Prop) (P : NodePath → Prop) (p : Procedure Unit α) : Prop where
  keeps : ∀ r, Keeps (Untouched I P r) p
  agrees : ∀ now s t, I s → I t → s.device.registers.AgreeAt P t.device.registers →
    (p.run now t).result = (p.run now s).result ∧
      (p.run now s).state.device.registers.AgreeAt P (p.run now t).state.device.registers

variable {now : UInt64} {s : Session}

/-- Whatever the run comes to, what is outside `P` is as before. -/
theorem Confined.untouched (h : Confined I P p) (now : UInt64) (hs : I s) :
    Untouched I P s.device.registers (p.run now s).state :=
  h.keeps _ now s ⟨hs, .refl _ _⟩

theorem confined_pure (a : α) : Confined I P (pure a : Procedure Unit α) :=
  ⟨fun _ => keeps_pure a, fun _ _ _ _ _ h => ⟨rfl, h⟩⟩

theorem confined_fail (e : Error) : Confined I P (.fail e : Procedure Unit α) :=
  ⟨fun _ => keeps_fail e, fun _ _ _ _ _ h => ⟨rfl, h⟩⟩

theorem confined_log (level : Level) (text : String) : Confined I P (log level text) :=
  ⟨fun _ => keeps_log level text, fun _ _ _ _ _ h => ⟨rfl, h⟩⟩

theorem confined_bind {f : α → Procedure Unit β} (hp : Confined I P p) (hf : ∀ a, Confined I P (f a)) :
    Confined I P (p >>= f) := by
  refine ⟨fun r => keeps_bind (hp.keeps r) fun a => (hf a).keeps r, fun now s t hs ht hagree => ?_⟩
  obtain ⟨hresult, hstate⟩ := hp.agrees now s t hs ht hagree
  have hrun : ∀ u : Session, (p >>= f).run now u = (p.run now u).andThen fun a u => (f a).run now u :=
    run_bind now p f
  cases hr : (p.run now s).result with
  | ok a =>
    rw [hrun, hrun, Outcome.andThen_of_ok hr, Outcome.andThen_of_ok (hresult.trans hr)]
    exact (hf a).agrees now _ _ (hp.untouched now hs).1 (hp.untouched now ht).1 hstate
  | error e =>
    rw [hrun, hrun, Outcome.andThen_of_error hr, Outcome.andThen_of_error (hresult.trans hr)]
    exact ⟨rfl, hstate⟩

theorem confined_each {items : List γ} {f : γ → Procedure Unit α} (h : ∀ c ∈ items, Confined I P (f c)) :
    Confined I P (each items f) := by
  induction items with
  | nil => exact confined_pure []
  | cons c items ih =>
    refine confined_bind (h c List.mem_cons_self) fun _ => ?_
    exact confined_bind (ih fun c' hc' => h c' (List.mem_cons_of_mem c hc')) fun _ => confined_pure _

/-! ## Steps -/

/-- What `f` makes of a device at `P`, and what it returns, is decided by what is there; it changes nothing else. -/
structure Local (P : NodePath → Prop) (f : Device → Except Error α × Device) : Prop where
  outside : ∀ d : Device, d.registers.AgreeAt (fun path => ¬ P path) (f d).2.registers
  inside : ∀ d e : Device, e.id = d.id → d.registers.AgreeAt P e.registers →
    (f e).1 = (f d).1 ∧ (f d).2.registers.AgreeAt P (f e).2.registers

/-- A procedure that does on the device what a step at `P` does. -/
theorem confined_of_local {f : Device → Except Error α × Device} (hf : Local P f) {id : String}
    (hid : ∀ s, I s → s.device.id = id)
    (hp : ∀ now s, I s → I (p.run now s).state ∧ ((p.run now s).result, (p.run now s).state.device) = f s.device) :
    Confined I P p := by
  constructor
  · rintro r now s ⟨hs, hr⟩
    obtain ⟨ht, hstep⟩ := hp now s hs
    refine ⟨ht, hr.trans ?_⟩
    rw [show (p.run now s).state.device = (f s.device).2 from congrArg Prod.snd hstep]
    exact hf.outside s.device
  · intro now s t hs ht hagree
    obtain ⟨hresult, hstate⟩ := hf.inside s.device t.device ((hid t ht).trans (hid s hs).symm) hagree
    have hsame : ((p.run now s).result, (p.run now s).state.device) = f s.device := (hp now s hs).2
    have hsame' : ((p.run now t).result, (p.run now t).state.device) = f t.device := (hp now t ht).2
    rw [← hsame, ← hsame'] at hresult hstate
    exact ⟨hresult, hstate⟩

/-! ## Two procedures -/

/-- After a procedure that keeps to `Q`, one that keeps to `P` comes out as without it. -/
theorem Confined.unaffected (hp : Confined I P p) (hq : Confined I Q q) (hPQ : ∀ path, P path → ¬ Q path)
    (now now' : UInt64) (hs : I s) :
    (p.run now (q.run now' s).state).result = (p.run now s).result ∧
      (p.run now s).state.device.registers.AgreeAt P (p.run now (q.run now' s).state).state.device.registers := by
  obtain ⟨ht, hsame⟩ := hq.untouched now' hs
  exact hp.agrees now s _ hs ht (hsame.mono hPQ)

/-- **Procedures on disjoint registers commute.**  Each has the same result before and after the other, and both
orders lead to the same registers. -/
theorem Confined.commute (hp : Confined I P p) (hq : Confined I Q q) (hPQ : ∀ path, P path → ¬ Q path)
    (now now' : UInt64) (hs : I s) :
    (p.run now (q.run now' s).state).result = (p.run now s).result ∧
    (q.run now' (p.run now s).state).result = (q.run now' s).result ∧
    (q.run now' (p.run now s).state).state.device.registers =
      (p.run now (q.run now' s).state).state.device.registers := by
  have hQP : ∀ path, Q path → ¬ P path := fun path hq hp => hPQ path hp hq
  obtain ⟨hresult, hatP⟩ := hp.unaffected hq hPQ now now' hs
  obtain ⟨hresult', hatQ⟩ := hq.unaffected hp hQP now' now hs
  refine ⟨hresult, hresult', Registers.AgreeAt.eq fun path => ?_⟩
  -- each run leaves what is outside its own part
  obtain ⟨hsp, hp₁⟩ := hp.untouched now hs
  obtain ⟨hsq, hq₁⟩ := hq.untouched now' hs
  obtain ⟨-, hq₂⟩ := hq.untouched now' hsp
  obtain ⟨-, hp₂⟩ := hp.untouched now hsq
  by_cases hpath : P path
  · exact ⟨P, hpath, (hq₂.mono hPQ).symm.trans hatP⟩
  by_cases hpath' : Q path
  · exact ⟨Q, hpath', hatQ.symm.trans (hp₂.mono hQP)⟩
  · refine ⟨fun path => ¬ P path ∧ ¬ Q path, ⟨hpath, hpath'⟩, ?_⟩
    have hfirst := (hp₁.mono fun _ h => And.left h).trans (hq₂.mono fun _ h => And.right h)
    have hother := (hq₁.mono fun _ h => And.right h).trans (hp₂.mono fun _ h => And.left h)
    exact hfirst.symm.trans hother

end Procedure

end TimingFleet

import Mathlib.Data.List.Basic
import TimingFleet.Proofs.EndpointGroup.Readout

/-!
# An account of all words

Readouts are made one after the other, and each returns its words or fails.

* `ReadoutRun.returned r e`: the words of endpoint `e` that the call returned.
* `ReadoutRun.lost r e`: the words that left the buffer of endpoint `e` in a call that failed.

Main statement (`readouts_account`): what a buffer held in the beginning is what the calls returned or lost, in
their order, followed by what it still holds.
-/

namespace TimingFleet

open EndpointNode Procedure

/-! ## Calls -/

/-- The buffers of some endpoints are to be read out. -/
structure ReadoutCall where
  ids : List UInt32
  mode : ReadoutMode
  deriving DecidableEq, Repr

/-- Finds the endpoints and reads their buffers out. -/
def ReadoutCall.procedure (c : ReadoutCall) (device : String) : Procedure Unit (List Readback) := do
  let g ← EndpointGroup.resolve device c.ids
  g.readback c.mode

/-- A call, the session in which it was made, and how it ended. -/
structure ReadoutRun where
  call : ReadoutCall
  before : Session
  outcome : Outcome Session (List Readback)

namespace ReadoutRun

/-- The words of endpoint `e` that the call returned. -/
def returned (r : ReadoutRun) (e : UInt32) : List UInt32 :=
  match r.outcome.result with
  | .ok reports => reports.flatMap fun report => if report.id = e then report.words else []
  | .error _ => []

/-- The words that left the buffer of endpoint `e` in a call that failed. -/
def lost (r : ReadoutRun) (e : UInt32) : List UInt32 :=
  match r.outcome.result with
  | .ok _ => []
  | .error _ =>
    let words := r.before.device.registers.buffer e
    words.take (words.length - (r.outcome.state.device.registers.buffer e).length)

/-- The call ended with a refused dispatch.  The words of the endpoints before the one at which it stopped are lost. -/
structure Stopped (r : ReadoutRun) (err : Error) : Prop where
  refused : r.outcome.state.JustRefused err
  lost : ∃ done stop rest, ascending r.call.ids = done ++ stop :: rest ∧
    ∀ e, r.lost e = if e ∈ done then r.before.device.registers.share r.call.mode e else []

end ReadoutRun

namespace Session

/-- The calls, made one after the other whether they succeed or not. -/
def readouts (now : UInt64) (s : Session) : List ReadoutCall → List ReadoutRun
  | [] => []
  | c :: cs =>
    let o := (c.procedure s.name).run now s
    ⟨c, s, o⟩ :: o.state.readouts now cs

/-- The session after the calls. -/
def afterReadouts (now : UInt64) (s : Session) : List ReadoutCall → Session
  | [] => s
  | c :: cs => ((c.procedure s.name).run now s).state.afterReadouts now cs

end Session

section Account

open Registers

variable {s : Session} {mode : ReadoutMode} {r : Registers} {ids : List UInt32}

/-- Each endpoint of a group is reported once. -/
theorem flatMap_readout (hn : ids.Nodup) (e : UInt32) :
    ((ids.map (r.readout mode)).flatMap fun report => if report.id = e then report.words else []) =
      if e ∈ ids then r.share mode e else [] := by
  induction ids with
  | nil => rfl
  | cons f ids ih =>
    obtain ⟨hf, hn⟩ := List.nodup_cons.mp hn
    rw [List.map_cons, List.flatMap_cons, ih hn]
    by_cases hfe : f = e
    · subst hfe
      simp [Registers.readout, hf]
    · simp [Registers.readout, hfe, Ne.symm hfe]

/-- **One call.**  Every word that leaves a buffer is returned or lost, and words are lost only where a dispatch is
refused. -/
theorem readout_call (now : UInt64) (c : ReadoutCall) (hs : s.Clear)
    (h : ∀ e ∈ c.ids, s.device.registers.HasBuffer e) :
    let run : ReadoutRun := ⟨c, s, (c.procedure s.name).run now s⟩
    run.outcome.state.Clear ∧
      (∀ e, s.device.registers.HasBuffer e → run.outcome.state.device.registers.HasBuffer e) ∧
      (∀ e, s.device.registers.buffer e =
        run.returned e ++ run.lost e ++ run.outcome.state.device.registers.buffer e) ∧
      ∀ err, run.outcome.result = .error err → run.Stopped err := by
  intro run
  have hnodes : ∀ e ∈ c.ids, s.hasNode (base e) = true := fun e he => Device.hasNode_base (h e he)
  have hbuffers : ∀ e ∈ ascending c.ids, s.device.registers.HasBuffer e := fun e he => h e (mem_ascending.mp he)
  have hruns : Runs now (c.procedure s.name) s
      (fun reports t _ => t.Clear ∧ Drained c.mode (ascending c.ids) s.device.registers t.device.registers ∧
        reports = (ascending c.ids).map (s.device.registers.readout c.mode))
      (fun err t _ => t.Clear ∧ t.JustRefused err ∧ ∃ done stop rest, ascending c.ids = done ++ stop :: rest ∧
        Drained c.mode done s.device.registers t.device.registers) := by
    refine runs_bind ((EndpointGroup.runs_resolve s.name hnodes).mono ?_ fun _ _ _ hno => hno.elim)
    rintro g t _ ⟨rfl, rfl⟩
    exact EndpointGroup.runs_each_readbackOne hs (nodup_ascending c.ids) hbuffers
  obtain ⟨hok, herr⟩ := runs_iff.mp hruns
  -- the two ends of the call
  cases hresult : run.outcome.result with
  | ok reports =>
    obtain ⟨hclear, hdrained, rfl⟩ := hok reports hresult
    refine ⟨hclear, hdrained.keeps, fun e => ?_, fun err herr => nomatch herr⟩
    have hreturned : run.returned e = if e ∈ ascending c.ids then s.device.registers.share c.mode e else [] := by
      simp only [ReadoutRun.returned, hresult]
      exact flatMap_readout (nodup_ascending c.ids) e
    have hlost : run.lost e = [] := by simp only [ReadoutRun.lost, hresult]
    rw [hreturned, hlost, List.append_nil]
    exact (hdrained.share_append e).symm
  | error err =>
    obtain ⟨hclear, hrefused, done, stop, rest, hsplit, hdrained⟩ := herr err hresult
    have hlost : ∀ e, run.lost e = if e ∈ done then s.device.registers.share c.mode e else [] := fun e => by
      simp only [ReadoutRun.lost, hresult]
      exact hdrained.gone e
    refine ⟨hclear, hdrained.keeps, fun e => ?_, fun err' herr' => ?_⟩
    · have hreturned : run.returned e = [] := by simp only [ReadoutRun.returned, hresult]
      rw [hreturned, hlost, List.nil_append]
      exact (hdrained.share_append e).symm
    · cases herr'
      exact ⟨hrefused, done, stop, rest, hsplit, hlost⟩

/-- **All calls.**  From what every single call does it follows what all of them do together. -/
theorem readouts_spec (now : UInt64) {calls : List ReadoutCall} (hs : s.Clear)
    (h : ∀ c ∈ calls, ∀ e ∈ c.ids, s.device.registers.HasBuffer e) :
    (∀ e, s.device.registers.buffer e = (s.readouts now calls).flatMap (fun r => r.returned e ++ r.lost e) ++
      (s.afterReadouts now calls).device.registers.buffer e) ∧
    ∀ r ∈ s.readouts now calls, s.device.Evolves r.outcome.state.device ∧
      ∀ err, r.outcome.result = .error err → r.Stopped err := by
  induction calls generalizing s with
  | nil => exact ⟨fun _ => rfl, fun _ hr => absurd hr List.not_mem_nil⟩
  | cons c calls ih =>
    obtain ⟨hclear, hkeeps, hwords, hstopped⟩ := readout_call now c hs (h c List.mem_cons_self)
    have hev : s.device.Evolves ((c.procedure s.name).run now s).state.device := s.evolves_run now _
    have hrest : ∀ d ∈ calls, ∀ e ∈ d.ids,
        ((c.procedure s.name).run now s).state.device.registers.HasBuffer e := fun d hd e he =>
      hkeeps e (h d (List.mem_cons_of_mem c hd) e he)
    obtain ⟨hlater, hruns⟩ := ih hclear hrest
    refine ⟨fun e => ?_, fun r hr => ?_⟩
    · rw [Session.readouts, Session.afterReadouts, List.flatMap_cons, List.append_assoc, ← hlater e]
      exact hwords e
    · rcases List.mem_cons.mp hr with rfl | hr
      · exact ⟨hev, hstopped⟩
      · obtain ⟨hev', hstopped'⟩ := hruns r hr
        exact ⟨hev.trans hev', hstopped'⟩

end Account

/-! ## Devices with at most one fault -/

namespace Device

variable {d e : Device}

/-- The device with a fault in one dispatch, or with none. -/
def injecting (d : Device) : Option (Nat × String) → Device
  | none => d
  | some (n, reason) => d.failingAt n reason

theorem refusal_injecting {injection : Option (Nat × String)} {n : Nat} {reason : String} (hd : d.failure = none)
    (h : (d.injecting injection).refusal n = some reason) : injection = some (n, reason) := by
  cases injection with
  | none => exact nomatch (Session.refusal_of_failure_eq_none hd n).symm.trans h
  | some fault =>
    obtain ⟨k, why⟩ := fault
    have hn : k = n ∧ why = reason := by simpa [injecting, failingAt, refusal] using h
    rw [hn.1, hn.2]

theorem withBuffers_keeps (d : Device) (buffers : List (UInt32 × List UInt32)) :
    (d.withBuffers buffers).failure = d.failure ∧ (d.withBuffers buffers).id = d.id := by
  induction buffers generalizing d with
  | nil => exact ⟨rfl, rfl⟩
  | cons b buffers ih => exact ih (d.withBuffer b.1 b.2)

end Device

/-- Nothing is missing from a list of parts only if all that is left out is empty. -/
theorem flatMap_eq_flatMap_append_iff {α β : Type} {f g : α → List β} {rs : List α} :
    rs.flatMap (fun r => f r ++ g r) = rs.flatMap f ↔ ∀ r ∈ rs, g r = [] := by
  refine ⟨fun h => ?_, fun h => List.flatMap_congr fun r hr => by rw [h r hr, List.append_nil]⟩
  have hlength : (rs.flatMap fun r => f r ++ g r).length = (rs.flatMap f).length + (rs.flatMap g).length := by
    clear h
    induction rs with
    | nil => rfl
    | cons r rs ih =>
      simp only [List.flatMap_cons, List.length_append, ih]
      omega
  rw [h] at hlength
  have hnone : rs.flatMap g = [] := List.length_eq_zero_iff.mp (by omega)
  exact List.flatMap_eq_nil_iff.mp hnone

/-- **Account of all words.**  Let an endpoint device come up with any words in its buffers and with at most one faulty
dispatch, and let calls read out any of its endpoints.  What a buffer held is what the calls returned or lost, in
their order, followed by what it still holds.  A call fails only by ending with the faulty dispatch, and then the words
of the endpoints before the one at which it stopped are lost.  So nothing is missing from what was returned just for
those endpoints of which no call has lost words. -/
theorem readouts_account (id : String) (endpoints : List UInt32) (buffers : List (UInt32 × List UInt32))
    (hshort : ∀ b ∈ buffers, b.2.length < UInt32.size) (injection : Option (Nat × String)) (now : UInt64)
    (calls : List ReadoutCall) (hcalls : ∀ c ∈ calls, ∀ e ∈ c.ids, e ∈ endpoints ∨ e ∈ buffers.map Prod.fst) :
    let s := Session.ofDevice (((Device.endpoint id endpoints).withBuffers buffers).injecting injection)
    let runs := s.readouts now calls
    let last := s.afterReadouts now calls
    (∀ e, s.device.registers.buffer e =
      runs.flatMap (fun r => r.returned e ++ r.lost e) ++ last.device.registers.buffer e) ∧
    (∀ r ∈ runs, ∀ err, r.outcome.result = .error err → r.Stopped err ∧
      ∃ reason, injection = some (r.outcome.state.dispatchCount, reason) ∧ err = .transport id reason) ∧
    ∀ e, s.device.registers.buffer e = runs.flatMap (fun r => r.returned e) ++ last.device.registers.buffer e ↔
      ∀ r ∈ runs, r.lost e = [] := by
  intro s runs last
  have hregisters : s.device.registers = ((Device.endpoint id endpoints).withBuffers buffers).registers := by
    cases injection <;> rfl
  have hid : s.device.id = id := by
    have hbuilt := (Device.withBuffers_keeps (Device.endpoint id endpoints) buffers).2
    cases injection <;> exact hbuilt
  have hfailure : ((Device.endpoint id endpoints).withBuffers buffers).failure = none :=
    (Device.withBuffers_keeps _ buffers).1
  have hbuffers : ∀ c ∈ calls, ∀ e ∈ c.ids, s.device.registers.HasBuffer e := fun c hc e he => by
    rw [hregisters]
    exact Device.hasBuffer_withBuffers hshort ((hcalls c hc e he).symm.imp_right (Device.hasBuffer_endpoint id))
  obtain ⟨hwords, hruns⟩ := readouts_spec now (s := s) rfl hbuffers
  refine ⟨hwords, fun r hr err herr => ?_, fun e => ?_⟩
  · obtain ⟨hev, hstopped⟩ := hruns r hr
    refine ⟨hstopped err herr, ?_⟩
    obtain ⟨reason, hrefusal, rfl⟩ := (hstopped err herr).refused
    rw [hev.refusal] at hrefusal
    refine ⟨reason, Device.refusal_injecting hfailure hrefusal, ?_⟩
    rw [hev.id, hid]
  · rw [hwords e, List.append_left_inj]
    exact flatMap_eq_flatMap_append_iff

/-- Two words in the buffer of one endpoint and one in that of another. -/
def twoBuffers : List (UInt32 × List UInt32) := [(0, [1, 2]), (1, [3])]

/-- Two endpoints of which the third dispatch fails: it asks how many words the second endpoint has. -/
def interruptedReadout : Session :=
  .ofDevice (((Device.endpoint "EPT" [0, 1]).withBuffers twoBuffers).injecting (some (3, "link down")))

/-- Both endpoints are read out in full, and read out again. -/
def readoutTwice : List ReadoutCall := [⟨[0, 1], .everything⟩, ⟨[0, 1], .everything⟩]

/-- The first call loses the words of the first endpoint; the second call returns the word of the other. -/
theorem interruptedReadout_account :
    let runs := interruptedReadout.readouts 0 readoutTwice
    let last := interruptedReadout.afterReadouts 0 readoutTwice
    (∀ e, interruptedReadout.device.registers.buffer e =
      runs.flatMap (fun r => r.returned e ++ r.lost e) ++ last.device.registers.buffer e) ∧
    runs.map (fun r => r.lost 0) = [[1, 2], []] ∧ runs.map (fun r => r.returned 1) = [[], [3]] := by
  have hshort : ∀ b ∈ twoBuffers, b.2.length < UInt32.size := by simp [twoBuffers, UInt32.size]
  have hcalls : ∀ c ∈ readoutTwice, ∀ e ∈ c.ids, e ∈ [0, 1] ∨ e ∈ twoBuffers.map Prod.fst := by
    simp [readoutTwice]
  refine ⟨?_, by decide +kernel, by decide +kernel⟩
  unfold interruptedReadout
  exact (readouts_account "EPT" [0, 1] twoBuffers hshort (some (3, "link down")) 0 readoutTwice hcalls).1

/-- What the calls have returned of the first endpoint and what its buffer holds in the end do not make up what it
held in the beginning. -/
theorem interruptedReadout_misses_words :
    interruptedReadout.device.registers.buffer 0 ≠
      (interruptedReadout.readouts 0 readoutTwice).flatMap (fun r => r.returned 0) ++
        (interruptedReadout.afterReadouts 0 readoutTwice).device.registers.buffer 0 := by
  decide +kernel

end TimingFleet

import TimingFleet.Proofs.Device.Settings
import TimingFleet.Proofs.Session.AddressTable
import TimingFleet.Proofs.Session.Counting
import TimingFleet.Proofs.Session.Dispatch

/-!
# Faults of a device

A device with a fault refuses every dispatch, or one by its number; but for that it goes on as without the fault.

* `Session.faultless s`: the session on the device without its faults.
* `Session.Unharmed s r`: the request is answered as without faults.
* `Session.FailsAlways s reason`, `Session.FailsOnlyAt s n reason`: in every run from `s` each dispatch is refused, just
  the one numbered `n` is.

Main statement: which dispatches a device refuses after any settings (`faults_account`).  The number that was chosen
last stays when all dispatches are made to fail later, so then just the one with this number does.
-/

namespace TimingFleet

/-! ## Serving without faults -/

namespace Bench

/-- The device of the bench without its faults. -/
def faultless (b : Bench) : Bench := { b with device := b.device.faultless }

variable {b : Bench}

theorem faultless_serve (b : Bench) (op : Pending) : b.faultless.serve op = (b.serve op).inState faultless := by
  cases op with
  | read handle => rfl
  | readBlock handle words =>
    have hread : b.faultless.device.readBlock handle.path words = _ :=
      b.device.faultless_readBlock handle.path words
    simp only [serve, hread]
    cases b.device.readBlock handle.path words <;> rfl
  | write path value =>
    have hwrite : b.faultless.device.writeWord path value = _ := b.device.faultless_writeWord path value
    simp only [serve, hwrite]
    rfl
  | writeBlock path values =>
    have hwrite : b.faultless.device.writeBlock path values = _ := b.device.faultless_writeBlock path values
    simp only [serve, hwrite]
    rfl

/-- **A batch** is served with faults as without. -/
theorem faultless_serveAll (b : Bench) (ops : List Pending) :
    b.faultless.serveAll ops = (b.serveAll ops).inState faultless := by
  induction ops generalizing b with
  | nil => rfl
  | cons op ops ih =>
    simp only [serveAll, faultless_serve, Outcome.result_inState, Outcome.state_inState]
    cases (b.serve op).result with
    | ok u =>
      show ((b.serve op).state.faultless.serveAll ops).after _ = _
      rw [ih]
      rfl
    | error e => rfl

end Bench

namespace Session

variable {s t : Session} {r : Request} {n : Nat} {reason : String}

/-- The session on the device without its faults. -/
def faultless (s : Session) : Session := { s with device := s.device.faultless }

/-- The request is answered as on the device without its faults. -/
def Unharmed (s : Session) (r : Request) : Prop := s.faultless.answer r = (s.answer r).inState faultless

theorem dispatch_eq_of_no_refusal (h : s.device.refusal (s.dispatchCount + 1) = none) :
    s.dispatch = ((s.bench.serveAll s.batch.toList).inState s.flushed.withBench).after
      [.log .debug ("SimBoard " ++ s.device.id ++ ": dispatching " ++
        Text.Numeral.decimal s.batch.toList.length ++ " operations")] := by
  rw [← dispatchCount_flushed] at h
  unfold dispatch
  simp only [flushed] at h ⊢
  rw [h]
  rfl

/-- **A dispatch** that is not refused goes as without faults. -/
theorem unharmed_dispatch (h : s.device.refusal (s.dispatchCount + 1) = none) : s.Unharmed .dispatch := by
  have hfree : s.faultless.device.refusal (s.faultless.dispatchCount + 1) = none := rfl
  show s.faultless.dispatch = s.dispatch.inState faultless
  rw [dispatch_eq_of_no_refusal h, dispatch_eq_of_no_refusal hfree,
    show s.faultless.bench.serveAll s.faultless.batch.toList = _ from s.bench.faultless_serveAll s.batch.toList]
  rfl

/-- **One request** goes as without faults, unless it is a dispatch that is refused. -/
theorem unharmed_answer (h : r = .dispatch → s.device.refusal (s.dispatchCount + 1) = none) : s.Unharmed r := by
  cases r with
  | dispatch => exact unharmed_dispatch (h rfl)
  | read path =>
    show s.faultless.read path = (s.read path).inState faultless
    unfold read
    rw [apply_ite (Outcome.inState faultless)]
    rfl
  | readBlock path words =>
    show s.faultless.readBlock path words = (s.readBlock path words).inState faultless
    unfold readBlock
    rw [apply_ite (Outcome.inState faultless)]
    rfl
  | write path value =>
    show s.faultless.write path value = (s.write path value).inState faultless
    unfold write
    rw [apply_ite (Outcome.inState faultless)]
    rfl
  | writeBlock path values =>
    show s.faultless.writeBlock path values = (s.writeBlock path values).inState faultless
    unfold writeBlock
    rw [apply_ite (Outcome.inState faultless)]
    rfl
  | _ => rfl

/-! ## Whole runs -/

theorem dispatchCount_answer (s : Session) (r : Request) :
    (s.answer r).state.dispatchCount = s.dispatchCount + [r].count .dispatch := by
  by_cases hr : r = .dispatch
  · subst hr
    exact s.dispatchCount_dispatch
  · have hcount : [r].count .dispatch = 0 := List.count_eq_zero.mpr fun h => hr (List.mem_singleton.mp h).symm
    rw [hcount]
    rcases s.answer_cases r with hs | ⟨op, -, hs | hs⟩ | ⟨hd, -⟩
    · rw [hs, Nat.add_zero]
    · rw [hs, dispatchCount_enqueue, Nat.add_zero]
    · rw [hs, dispatchCount_enqueue, Nat.add_zero]
      rfl
    · exact absurd hd hr

/-- A session counts the dispatches that are asked for, whatever comes of them. -/
theorem dispatchCount_follow (s : Session) (rs : List Request) :
    (s.follow rs).dispatchCount = s.dispatchCount + rs.count .dispatch := by
  induction rs generalizing s with
  | nil => rfl
  | cons r rs ih =>
    show ((s.answer r).state.follow rs).dispatchCount = _
    rw [ih, dispatchCount_answer, Nat.add_assoc, ← List.count_append, List.singleton_append]

/-- **A stretch of a run** in which no dispatch is refused goes as without faults. -/
theorem follow_unharmed {rs : List Request}
    (h : ∀ k, s.dispatchCount < k → k ≤ s.dispatchCount + rs.count .dispatch → s.device.refusal k = none) :
    (s.follow rs).faultless = s.faultless.follow rs ∧ s.faultless.exchanges rs = s.exchanges rs := by
  induction rs generalizing s with
  | nil => exact ⟨rfl, rfl⟩
  | cons r rs ih =>
    have hcount : (r :: rs).count .dispatch = [r].count .dispatch + rs.count .dispatch := by
      rw [← List.count_append, List.singleton_append]
    have hr : s.faultless.answer r = (s.answer r).inState faultless := by
      refine unharmed_answer fun hd => h _ (Nat.lt_succ_self _) ?_
      subst hd
      rw [List.count_cons_self]
      omega
    obtain ⟨hfollow, hexchanges⟩ := ih (s := (s.answer r).state) fun k hlow hhigh => by
      rw [dispatchCount_answer] at hlow hhigh
      rw [(s.answer_evolves r).refusal]
      exact h k (by omega) (by omega)
    have hstate : (s.faultless.answer r).state = (s.answer r).state.faultless := by rw [hr]; rfl
    constructor
    · show ((s.answer r).state.follow rs).faultless = (s.faultless.answer r).state.follow rs
      rw [hstate, hfollow]
    · show Exchange.mk r (s.faultless.answer r).result :: (s.faultless.answer r).state.exchanges rs = _
      rw [hstate, hexchanges, hr]
      rfl

/-- In every run each dispatch is refused, and everything else goes as without faults. -/
structure FailsAlways (s : Session) (reason : String) : Prop where
  refused : ∀ before, (s.follow before).DispatchRefused reason
  others : ∀ before r, r ≠ .dispatch → (s.follow before).Unharmed r

/-- In every run the dispatch numbered `n` is refused, and everything else goes as without faults: each request, and
each stretch of the run in which that dispatch does not fall. -/
structure FailsOnlyAt (s : Session) (n : Nat) (reason : String) : Prop where
  refused : ∀ before, before.count .dispatch + 1 = n → (s.follow before).DispatchRefused reason
  others : ∀ before r, (r = .dispatch → before.count .dispatch + 1 ≠ n) → (s.follow before).Unharmed r
  stretches : ∀ before rs, n ≤ before.count .dispatch ∨ (before ++ rs).count .dispatch < n →
    (s.follow (before ++ rs)).faultless = (s.follow before).faultless.follow rs ∧
      (s.follow before).faultless.exchanges rs = (s.follow before).exchanges rs

theorem failsAlways (hs : s.Fresh) (hfailure : s.device.failure = some reason)
    (hnumber : s.device.failingDispatch = none) : s.FailsAlways reason := by
  refine ⟨fun before => (hs.orderly.follow before).dispatchRefused ?_, fun before r hr => ?_⟩
  · rw [(evolves_follow s before).refusal, Device.refusal, hnumber]
    exact hfailure
  · exact unharmed_answer fun hd => absurd hd hr

theorem failsOnlyAt (hs : s.Fresh) (hcount : s.dispatchCount = 0) (hfailure : s.device.failure = some reason)
    (hnumber : s.device.failingDispatch = some n) : s.FailsOnlyAt n reason := by
  have hrefusal : ∀ before k, (s.follow before).device.refusal k = if n = k then some reason else none := by
    intro before k
    rw [(evolves_follow s before).refusal, Device.refusal, hnumber, hfailure]
  have hnext : ∀ before, (s.follow before).dispatchCount = before.count .dispatch := fun before => by
    rw [dispatchCount_follow, hcount, Nat.zero_add]
  refine ⟨fun before hn => (hs.orderly.follow before).dispatchRefused ?_, fun before r hr => ?_, fun before rs hn => ?_⟩
  · rw [hrefusal, hnext, if_pos hn.symm]
  · refine unharmed_answer fun hd => ?_
    rw [hrefusal, hnext, if_neg fun heq => hr hd heq.symm]
  · rw [follow_append]
    refine follow_unharmed fun k hlow hhigh => ?_
    rw [hnext] at hlow hhigh
    rw [List.count_append] at hn
    rw [hrefusal, if_neg (by omega)]

/-- Nothing waits in a batch that has just been dispatched, so it can be dispatched again. -/
theorem FailsOnlyAt.not_failsAlways (h : s.FailsOnlyAt n reason) (hs : s.Fresh) : ¬ s.FailsAlways reason := by
  -- the first dispatch, or the second if the first is the one that fails
  have hone : ∃ before : List Request, before.count .dispatch + 1 ≠ n ∧ (s.follow before).batch = #[] := by
    by_cases hn : n = 1
    · exact ⟨[.dispatch], by subst hn; decide, s.batch_dispatch⟩
    · exact ⟨[], fun heq => hn heq.symm, hs.batch⟩
  obtain ⟨before, hne, hempty⟩ := hone
  intro halways
  have hresult := (halways.refused before).result
  have hunharmed := h.others before .dispatch fun _ => hne
  have hok : (s.follow before).faultless.dispatch.result = .ok () := by
    rw [(dispatch_of_no_refusal (s := (s.follow before).faultless) rfl).1,
      show (s.follow before).faultless.batch = #[] from hempty]
    rfl
  rw [show (s.follow before).faultless.dispatch = _ from hunharmed, Outcome.result_inState] at hok
  cases hresult.symm.trans hok

/-! ## The fault that was set last -/

open Device in
/-- **Faults.**  Let a device be set up in any way, its last fault being `fault`.  If that makes the dispatch `n` fail,
just this one does.  If it makes dispatches fail without a number, all do if no number was chosen before; otherwise just
the one with the number that was chosen last.  But for its faults the device is what the other settings make of it. -/
theorem faults_account (d : Device) (earlier later : List Setting) (hlater : ∀ c ∈ later, c.isFault = false) :
    let number := (earlier.filterMap Setting.number?).getLast?.or d.failingDispatch
    let session := fun fault => ofDevice (d.configure (earlier ++ fault :: later))
    (∀ n reason, (session (.failingAt n reason)).FailsOnlyAt n reason) ∧
    (∀ reason, number = none → (session (.failing reason)).FailsAlways reason) ∧
    (∀ n reason, number = some n → (session (.failing reason)).FailsOnlyAt n reason ∧
      ¬ (session (.failing reason)).FailsAlways reason) ∧
    ∀ fault, fault.isFault = true → (∀ rs, ((session fault).follow rs).device.id = d.id) ∧
      (session fault).faultless =
        ofDevice (d.faultless.configure ((earlier ++ later).filter fun c => !c.isFault)) := by
  intro number session
  have hdevice : ∀ fault, (session fault).device = (fault.apply (d.configure earlier)).configure later :=
    fun fault => d.configure_append earlier (fault :: later)
  have hfaults : ∀ fault, (session fault).device.failure = (fault.apply (d.configure earlier)).failure ∧
      (session fault).device.failingDispatch = (fault.apply (d.configure earlier)).failingDispatch := fun fault => by
    rw [hdevice]
    exact faults_configure hlater _
  have hnumber : ∀ reason, (session (.failing reason)).device.failingDispatch = number := fun reason =>
    (hfaults (.failing reason)).2.trans (d.failingDispatch_configure earlier)
  have hfresh : ∀ fault, (session fault).Fresh := fun _ => ⟨rfl, rfl⟩
  refine ⟨fun n reason => ?_, fun reason hnone => ?_, fun n reason hsome => ?_, fun fault hfault => ⟨fun rs => ?_, ?_⟩⟩
  · exact failsOnlyAt (hfresh _) rfl (hfaults (.failingAt n reason)).1 (hfaults (.failingAt n reason)).2
  · exact failsAlways (hfresh _) (hfaults (.failing reason)).1 ((hnumber reason).trans hnone)
  · have honly := failsOnlyAt (hfresh _) rfl (hfaults (.failing reason)).1 ((hnumber reason).trans hsome)
    exact ⟨honly, honly.not_failsAlways (hfresh _)⟩
  · exact (evolves_follow (session fault) rs).id.trans (d.id_configure _)
  · have hfilter : (earlier ++ fault :: later).filter (fun c => !c.isFault) =
        (earlier ++ later).filter fun c => !c.isFault := by
      simp [List.filter_append, hfault]
    have hfree := d.faultless_configure (earlier ++ fault :: later)
    rw [hfilter] at hfree
    rw [← hfree]
    rfl

/-- A board whose second dispatch was to fail, and then all. -/
def lateFailure : Device := (Device.overlord "OVLD").configure [.failingAt 2 "late", .failing "link down"]

theorem lateFailure_fails_once :
    (∀ c ∈ [Device.Setting.roundTrip 7], c.isFault = false) ∧
      (ofDevice ((Device.overlord "OVLD").configure
        [.failingAt 2 "late", .failing "link down", .roundTrip 7])).FailsOnlyAt 2 "link down" := by
  have hlater : ∀ c ∈ [Device.Setting.roundTrip 7], c.isFault = false := by decide
  obtain ⟨-, -, hnumbered, -⟩ := faults_account (Device.overlord "OVLD") [.failingAt 2 "late"] [.roundTrip 7] hlater
  exact ⟨hlater, (hnumbered 2 "link down" rfl).1⟩

/-- Its first dispatch succeeds, though the last call was to make every dispatch fail. -/
theorem lateFailure_first_dispatch :
    (ofDevice lateFailure).dispatch.result = .ok () ∧
      (ofDevice lateFailure).dispatch.result ≠ .error (.transport "OVLD" "link down") := by
  have hok : (ofDevice lateFailure).dispatch.result = .ok () := by
    rw [(dispatch_of_no_refusal rfl).1]
    rfl
  exact ⟨hok, fun h => nomatch hok.symm.trans h⟩

end Session

end TimingFleet

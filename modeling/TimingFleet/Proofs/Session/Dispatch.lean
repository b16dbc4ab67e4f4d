import TimingFleet.Proofs.Session.Handles

/-!
# How a dispatch ends

A dispatch ends in one of three ways, whatever waits in the batch.

* The device refuses it (`DispatchRefused`): nothing happens to the device, and no handle of the batch ever gets a
  value.
* An operation asks a queue for more words than it holds (`DispatchStopped`): the operations before it have taken
  effect and their handles have their values; it is as if it and those after it had never been queued.
* Otherwise (`DispatchCompleted`) all operations take effect in their order and all handles get their values.

The batch is empty afterwards in each case.
-/

namespace TimingFleet

namespace Session

variable {s : Session} {op : Pending} {done rest : List Pending}

/-! ## The three ends -/

/-- The device has refused the dispatch. -/
structure DispatchRefused (s : Session) (reason : String) : Prop where
  result : s.dispatch.result = .error (.transport s.device.id reason)
  device : s.dispatch.state.device = s.device
  batch : s.dispatch.state.batch = #[]
  handles : ∀ op ∈ s.batch.toList, ∀ later, (s.dispatch.state.follow later).NotDispatched op

/-- The dispatch has stopped before `op`, which was short. -/
structure DispatchStopped (s : Session) (done : List Pending) (op : Pending) (rest : List Pending) : Prop where
  result : ∃ reason, s.dispatch.result = .error (.transport s.device.id reason)
  device : s.dispatch.state.device = done.foldl Device.after s.device
  /-- The queue that was too short holds what it held when the turn came to `op`. -/
  queue : s.dispatch.state.device.Short op
  batch : s.dispatch.state.batch = #[]
  served : ∀ before x after, done = before ++ x :: after →
    ∀ later, (s.dispatch.state.follow later).Shows (before.foldl Device.after s.device) x
  pending : ∀ x ∈ op :: rest, ∀ later, (s.dispatch.state.follow later).NotDispatched x
  /-- All that follows is as if only the operations before `op` had been queued. -/
  dropped : ∀ later, s.dispatch.state.follow later = { s with batch := done.toArray }.dispatch.state.follow later

/-- The dispatch has served the whole batch. -/
structure DispatchCompleted (s : Session) : Prop where
  result : s.dispatch.result = .ok ()
  device : s.dispatch.state.device = s.batch.toList.foldl Device.after s.device
  batch : s.dispatch.state.batch = #[]
  served : ∀ before x after, s.batch.toList = before ++ x :: after →
    ∀ later, (s.dispatch.state.follow later).Shows (before.foldl Device.after s.device) x

/-- The operation `op` stands in the batch behind `done`, and it is the first that is short. -/
structure FirstShort (s : Session) (done : List Pending) (op : Pending) (rest : List Pending) : Prop where
  split : s.batch.toList = done ++ op :: rest
  suffices_done : s.device.Suffices done
  short : (done.foldl Device.after s.device).Short op

theorem Orderly.dispatchRefused (h : s.Orderly) {reason : String}
    (hr : s.device.refusal (s.dispatchCount + 1) = some reason) : s.DispatchRefused reason := by
  have hd := dispatch_of_refusal hr
  refine ⟨by rw [hd]; rfl, by rw [hd]; rfl, s.batch_dispatch, fun op hop later => ?_⟩
  refine h.notDispatched_follow hop (fun n _ => ?_) later
  rw [hd]
  exact .refl n _

theorem Orderly.dispatchCompleted (h : s.Orderly) (hn : s.device.refusal (s.dispatchCount + 1) = none)
    (hs : s.device.Suffices s.batch.toList) : s.DispatchCompleted := by
  obtain ⟨hres, hstate⟩ := dispatch_of_no_refusal hn
  obtain ⟨hok, hdev⟩ := Bench.serveAll_of_suffices (b := s.bench) hs
  refine ⟨hres.trans hok, by rw [hstate]; exact hdev, s.batch_dispatch, fun before x after hsplit later => ?_⟩
  refine h.shows_follow (by simp [hsplit]) ?_ later
  rw [hstate]
  exact Bench.shows_serveAll (b := s.bench) h.admits h.nodup hs hsplit

theorem Orderly.dispatchStopped (h : s.Orderly) (hn : s.device.refusal (s.dispatchCount + 1) = none)
    (hs : s.FirstShort done op rest) : s.DispatchStopped done op rest := by
  obtain ⟨hsplit, hdone, hop⟩ := hs
  obtain ⟨hres, hstate⟩ := dispatch_of_no_refusal hn
  obtain ⟨⟨reason, herr⟩, hstop⟩ := Bench.serveAll_of_short (b := s.bench) hdone hop rest
  obtain ⟨hok, hdev⟩ := Bench.serveAll_of_suffices (b := s.bench) hdone
  rw [hsplit] at hres hstate
  rw [hstop] at hstate
  have hdevice : s.dispatch.state.device = done.foldl Device.after s.device := by rw [hstate]; exact hdev
  -- the handles on either side of `op`
  have hnodup := h.nodup
  rw [hsplit, slotsOf, List.filterMap_append] at hnodup
  obtain ⟨hnodupDone, -, hdisjoint⟩ := List.nodup_append.mp hnodup
  refine ⟨⟨reason, hres.trans herr⟩, hdevice, hdevice ▸ hop, s.batch_dispatch, ?served, ?pending, ?dropped⟩
  case served =>
    intro before x after hx later
    refine h.shows_follow (by simp [hsplit, hx]) ?_ later
    rw [hstate]
    refine Bench.shows_serveAll (b := s.bench) (fun y hy => h.admits y ?_) hnodupDone hdone hx
    rw [hsplit]
    exact List.mem_append_left _ hy
  case pending =>
    intro x hx later
    refine h.notDispatched_follow (hsplit ▸ List.mem_append_right _ hx) (fun n hslot => ?_) later
    rw [hstate]
    exact Bench.sameAt_serveAll (b := s.bench) fun hmem => hdisjoint n hmem n (mem_slotsOf hx hslot) rfl
  case dropped =>
    intro later
    have hcut := (dispatch_of_no_refusal (s := { s with batch := done.toArray }) hn).2
    rw [hstate, hcut]
    rfl

/-- A dispatch that succeeds has served the whole batch. -/
theorem Orderly.dispatchCompleted_of_ok (h : s.Orderly) (hok : s.dispatch.result = .ok ()) : s.DispatchCompleted := by
  obtain ⟨hn, -⟩ := dispatch_ok_iff.mp hok
  rcases s.device.suffices_or_short s.batch.toList with hall | ⟨done, op, rest, hsplit, hdone, hshort⟩
  · exact h.dispatchCompleted hn hall
  · obtain ⟨reason, herr⟩ := (h.dispatchStopped hn ⟨hsplit, hdone, hshort⟩).result
    cases hok.symm.trans herr

/-! ## All of them -/

/-- **How a dispatch ends.**  Let a session have come from a fresh one by any requests, so that anything may wait in
its batch.  A refused dispatch does nothing.  A dispatch in which some operation is short serves those before the
first such operation and drops the rest for good.  Any other serves the whole batch. -/
theorem dispatch_ends (hs : s.Fresh) (rs : List Request) :
    (∀ reason, (s.follow rs).device.refusal ((s.follow rs).dispatchCount + 1) = some reason →
      (s.follow rs).DispatchRefused reason) ∧
    ((s.follow rs).device.refusal ((s.follow rs).dispatchCount + 1) = none →
      (∀ done op rest, (s.follow rs).FirstShort done op rest → (s.follow rs).DispatchStopped done op rest) ∧
      ((∀ done op rest, ¬ (s.follow rs).FirstShort done op rest) → (s.follow rs).DispatchCompleted)) := by
  have horderly : (s.follow rs).Orderly := hs.orderly.follow rs
  refine ⟨fun reason hr => horderly.dispatchRefused hr, fun hn => ⟨?_, fun hnone => ?_⟩⟩
  · exact fun done op rest hshort => horderly.dispatchStopped hn hshort
  · refine horderly.dispatchCompleted hn ?_
    rcases (s.follow rs).device.suffices_or_short (s.follow rs).batch.toList with hall | ⟨done, op, rest, h⟩
    · exact hall
    · exact absurd ⟨h.1, h.2.1, h.2.2⟩ (hnone done op rest)

/-- A client that takes two words out of a buffer of three, asks for two more, and sets the partition. -/
def greedyClient : List Request :=
  let node := EndpointNode.base 0
  [.write (node.join EndpointNode.enable) 1, .readBlock (node.join EndpointNode.bufferData) 2,
    .readBlock (node.join EndpointNode.bufferData) 2, .write (node.join EndpointNode.partition) 3]

/-- The endpoint has been enabled, the third word is still there, and the partition is never set. -/
theorem greedyClient_stops :
    let node := EndpointNode.base 0
    let s := (ofDevice ((Device.endpoint "EPT" [0]).withBuffer 0 [1, 2, 3])).follow greedyClient
    let done := [.write (node.join EndpointNode.enable) 1, .readBlock ⟨node.join EndpointNode.bufferData, 0⟩ 2]
    let op := .readBlock ⟨node.join EndpointNode.bufferData, 1⟩ 2
    s.DispatchStopped done op [.write (node.join EndpointNode.partition) 3] ∧
      s.dispatch.state.device.registers.fifos[node.join EndpointNode.bufferData]? = some [3] ∧
      s.dispatch.state.device.word? (node.join EndpointNode.partition) = some 0 := by
  intro node s done op
  have hs : (ofDevice ((Device.endpoint "EPT" [0]).withBuffer 0 [1, 2, 3])).Fresh := ⟨rfl, rfl⟩
  have hshort : s.FirstShort done op [.write (node.join EndpointNode.partition) 3] :=
    ⟨by decide +kernel, by decide +kernel, by decide +kernel⟩
  have hstopped := ((dispatch_ends hs greedyClient).2 rfl).1 done op _ hshort
  exact ⟨hstopped, by rw [hstopped.device]; decide +kernel, by rw [hstopped.device]; decide +kernel⟩

end Session

end TimingFleet

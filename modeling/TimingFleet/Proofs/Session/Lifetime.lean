import TimingFleet.Proofs.Session.Handles

/-!
# The life of a handle

A handle that a read has given out has no value until the first dispatch.  What that dispatch does decides about
the handle for good: if it succeeds, the handle has from then on the value that was found when the turn came to
its operation; if it is refused, the handle never gets a value, whatever is dispatched later.
-/

namespace TimingFleet

namespace Session

variable {s : Session} {op : Pending} {r : Request}

/-- The reply to the request is a handle, and `op` is the operation that waits for its value. -/
inductive GivesHandle (s : Session) : Request → Pending → Prop where
  | word {path : NodePath} {handle : WordHandle} (h : (s.read path).result = .ok handle) :
      GivesHandle s (.read path) (.read handle)
  | block {path : NodePath} {words : Nat} {handle : BlockHandle} (h : (s.readBlock path words).result = .ok handle) :
      GivesHandle s (.readBlock path words) (.readBlock handle words)

theorem GivesHandle.state_answer (h : s.GivesHandle r op) : (s.answer r).state = s.bump.enqueue op := by
  cases h with
  | @word path handle h =>
    by_cases hp : s.device.registers.words.contains path = true
    · simp only [answer, read, hp, if_true, Outcome.ok, Except.ok.injEq] at h ⊢
      rw [h]
    · simp [read, hp, missing, Outcome.error] at h
  | @block path words handle h =>
    by_cases hp : s.device.registers.isBlock path = true
    · simp only [answer, readBlock, hp, if_true, Outcome.ok, Except.ok.injEq] at h ⊢
      rw [h]
    · simp [readBlock, hp, missing, Outcome.error] at h

theorem givesHandle_read {path : NodePath} (hp : s.device.registers.words.contains path = true) :
    s.GivesHandle (.read path) (.read (s.slots.wordHandle path)) := by
  refine .word ?_
  simp only [read, hp, if_true, Outcome.ok]

/-- Without a dispatch the device stays as it is, and operations come in behind those that wait. -/
theorem follow_without_dispatch {waiting : List Request} (hw : .dispatch ∉ waiting) :
    (s.follow waiting).device = s.device ∧
      ∃ behind, (s.follow waiting).batch.toList = s.batch.toList ++ behind := by
  induction waiting generalizing s with
  | nil => exact ⟨rfl, [], (List.append_nil _).symm⟩
  | cons r waiting ih =>
    obtain ⟨hr, hrest⟩ := List.ne_and_not_mem_of_not_mem_cons hw
    have hstep : (s.answer r).state.device = s.device ∧
        ∃ new, (s.answer r).state.batch.toList = s.batch.toList ++ new := by
      rcases s.answer_cases r with hs | ⟨op, -, hs | hs⟩ | ⟨hd, -⟩
      · rw [hs]; exact ⟨rfl, [], (List.append_nil _).symm⟩
      · rw [hs]; exact ⟨rfl, [op], s.toList_batch_enqueue op⟩
      · rw [hs]; exact ⟨rfl, [op], s.bump.toList_batch_enqueue op⟩
      · exact absurd hd.symm hr
    obtain ⟨hdev, new, hnew⟩ := hstep
    obtain ⟨hdev', behind, hbehind⟩ := ih (s := (s.answer r).state) hrest
    refine ⟨hdev'.trans hdev, new ++ behind, ?_⟩
    rw [← List.append_assoc, ← hnew]
    exact hbehind

/-- **The life of a handle.**  In a run from a fresh session let a request give out a handle, and let no dispatch
follow for a while.  Then the handle and all its copies have no value.  If the next dispatch succeeds, they have
from then on the value that the device held when the operations queued earlier had taken effect.  If it is refused,
they never have one. -/
theorem handle_lifetime (hs : s.Fresh) {before waiting : List Request} (hr : (s.follow before).GivesHandle r op)
    (hw : .dispatch ∉ waiting) :
    (s.follow (before ++ r :: waiting)).NotDispatched op ∧
      ((s.follow (before ++ r :: waiting)).dispatch.result = .ok () →
        ∀ later, (s.follow (before ++ r :: waiting ++ .dispatch :: later)).Shows
          ((s.follow before).batch.toList.foldl Device.after (s.follow before).device) op) ∧
      (∀ reason, (s.follow (before ++ r :: waiting)).device.refusal
          ((s.follow (before ++ r :: waiting)).dispatchCount + 1) = some reason →
        ∀ later, (s.follow (before ++ r :: waiting ++ .dispatch :: later)).NotDispatched op) := by
  have horderly := hs.orderly.follow (before ++ r :: waiting)
  -- where the operation stands in the batch
  have hqueued := hr.state_answer
  obtain ⟨hdev, behind, hbatch⟩ := follow_without_dispatch (s := ((s.follow before).answer r).state) hw
  have hrun : s.follow (before ++ r :: waiting) = ((s.follow before).answer r).state.follow waiting :=
    s.follow_append before (r :: waiting)
  rw [← hrun, hqueued, toList_batch_enqueue, batch_bump, List.append_assoc] at hbatch
  rw [← hrun, hqueued] at hdev
  have hlater : ∀ later, s.follow (before ++ r :: waiting ++ .dispatch :: later) =
      (s.follow (before ++ r :: waiting)).dispatch.state.follow later := fun later => s.follow_append _ _
  generalize s.follow (before ++ r :: waiting) = u at *
  have hop : op ∈ u.batch.toList := by simp [hbatch]
  refine ⟨horderly.notDispatched hop, fun hok later => ?_, fun reason href later => ?_⟩
  · obtain ⟨hn, hserved⟩ := dispatch_ok_iff.mp hok
    have hsuffices : u.device.Suffices u.batch.toList := by
      rcases u.device.suffices_or_short u.batch.toList with h | ⟨done, stop, rest, hsplit, hdone, hstop⟩
      · exact h
      · obtain ⟨⟨reason, herr⟩, -⟩ := Bench.serveAll_of_short (b := u.bench) hdone hstop rest
        rw [hsplit, herr] at hserved
        cases hserved
    rw [hlater, ← show u.device = (s.follow before).device from hdev]
    refine horderly.shows_follow hop ?_ later
    rw [(dispatch_of_no_refusal hn).2]
    exact Bench.shows_serveAll (b := u.bench) horderly.admits horderly.nodup hsuffices hbatch
  · rw [hlater]
    refine horderly.notDispatched_follow hop (fun n _ => ?_) later
    rw [dispatch_of_refusal href]
    exact .refl n _

/-- A client that sets the partition to 3, reads it, and sets it to 1. -/
def readingClient : List Request :=
  let node := (EndpointNode.base 0).join EndpointNode.partition
  [.write node 3, .read node, .write node 1]

/-- The handle stands for the 3 for good once the batch has been dispatched; on a device that refuses the first
dispatch it stays without a value. -/
theorem readingClient_handle :
    let node := (EndpointNode.base 0).join EndpointNode.partition
    let s := ofDevice (Device.endpoint "EPT" [0])
    let t := ofDevice ((Device.endpoint "EPT" [0]).failingAt 1 "link down")
    let handle : WordHandle := ⟨node, 0⟩
    (s.follow readingClient).wordValue handle = .error (.notDispatched node.toString) ∧
      (∀ later, (s.follow (readingClient ++ .dispatch :: later)).wordValue handle = .ok 3) ∧
      ∀ later, (t.follow (readingClient ++ .dispatch :: later)).wordValue handle =
        .error (.notDispatched node.toString) := by
  intro node s t handle
  have hw : .dispatch ∉ [Request.write node 1] := by decide
  have hs : (s.follow [.write node 3]).GivesHandle (.read node) (.read handle) := by
    have hslot : (s.follow [.write node 3]).slots.wordHandle node = handle := by decide +kernel
    exact hslot ▸ givesHandle_read (by decide +kernel)
  have ht : (t.follow [.write node 3]).GivesHandle (.read node) (.read handle) := by
    have hslot : (t.follow [.write node 3]).slots.wordHandle node = handle := by decide +kernel
    exact hslot ▸ givesHandle_read (by decide +kernel)
  obtain ⟨hpending, hserved, -⟩ := handle_lifetime (s := s) ⟨rfl, rfl⟩ hs hw
  obtain ⟨-, -, hrefused⟩ := handle_lifetime (s := t) ⟨rfl, rfl⟩ ht hw
  have hrefusal : (t.follow readingClient).device.refusal ((t.follow readingClient).dispatchCount + 1) =
      some "link down" := by decide +kernel
  refine ⟨hpending handle rfl, fun later => ?_, fun later => hrefused "link down" hrefusal later handle rfl⟩
  have hok : (s.follow readingClient).dispatch.result = .ok () := by
    refine dispatch_ok_iff.mpr ⟨by decide +kernel, ?_⟩
    exact (Bench.serveAll_of_suffices (b := (s.follow readingClient).bench) (by decide +kernel)).1
  obtain ⟨value, hvalue, hshown⟩ := hserved hok later
  have hthree : ((s.follow [.write node 3]).batch.toList.foldl Device.after
      (s.follow [.write node 3]).device).word? node = some 3 := by decide +kernel
  cases hthree.symm.trans hvalue
  exact hshown handle rfl

end Session

end TimingFleet

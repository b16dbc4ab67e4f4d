import TimingFleet.Proofs.Session.Serving

/-!
# Clients of a session

A client sends requests one after the other and keeps the handles that it gets.

* `Session.exchanges s rs`: the requests with their replies; `Session.follow s rs`: the session afterwards.
* `Slots.Answers slots op`: the handle of `op` has its value; a write has nothing to wait for.
* `Session.Owes s op`: `op` waits in the batch, or it has been answered.

Main statement: a client whose requests all succeed and whose batch is empty in the end can read the value
of every handle it got (`word_of_exchange`, `block_of_exchange`).
-/

namespace TimingFleet

/-- A request and the reply to it. -/
structure Exchange where
  request : Request
  reply : Except Error request.Reply

/-- The reply is no error. -/
def Exchange.Succeeds (x : Exchange) : Prop := ∃ a, x.reply = .ok a

instance (x : Exchange) : Decidable x.Succeeds :=
  match h : x.reply with
  | .ok a => isTrue ⟨a, h⟩
  | .error _ => isFalse fun ⟨_, ha⟩ => nomatch h.symm.trans ha

/-- Requests with which a client reads and writes: they queue an operation or dispatch. -/
def Request.IsAccess (r : Request) : Prop := r.queued? ≠ none ∨ r = .dispatch

instance (r : Request) : Decidable r.IsAccess := inferInstanceAs (Decidable (_ ∨ _))

namespace Session

/-- The session after a list of requests, whatever the replies. -/
def follow (s : Session) : List Request → Session
  | [] => s
  | r :: rs => (s.answer r).state.follow rs

/-- The requests with their replies. -/
def exchanges (s : Session) : List Request → List Exchange
  | [] => []
  | r :: rs => ⟨r, (s.answer r).result⟩ :: (s.answer r).state.exchanges rs

end Session

/-! ## Values behind handles -/

/-- The handle of an operation has its value. -/
def Slots.Answers (slots : Slots) : Pending → Prop
  | .read handle => (slots.word? handle).isSome = true
  | .readBlock handle _ => (slots.block? handle).isSome = true
  | .write _ _ => True
  | .writeBlock _ _ => True

namespace Slots

theorem Answers.fillWord {slots : Slots} {op : Pending} (h : slots.Answers op) (handle : WordHandle)
    (value : UInt32) : (slots.fillWord handle value).Answers op := by
  cases op with
  | read k =>
    simp only [Answers, word?_fillWord]
    split_ifs
    · rfl
    · exact h
  | _ => exact h

theorem Answers.fillBlock {slots : Slots} {op : Pending} (h : slots.Answers op) (handle : BlockHandle)
    (values : List UInt32) : (slots.fillBlock handle values).Answers op := by
  cases op with
  | readBlock k words =>
    simp only [Answers, block?_fillBlock]
    split_ifs
    · rfl
    · exact h
  | _ => exact h

end Slots

namespace Bench

variable {b : Bench} {op other : Pending} {ops : List Pending}

/-- A value stays behind its handle. -/
theorem answers_serve (h : b.slots.Answers other) (op : Pending) : (b.serve op).state.slots.Answers other := by
  cases op with
  | read handle => exact h.fillWord _ _
  | readBlock handle words =>
    cases hb : b.device.readBlock handle.path words with
    | ok found => simpa [serve, hb, Outcome.ok] using h.fillBlock handle found.1
    | error e => simpa [serve, hb, Outcome.error] using h
  | _ => exact h

/-- An operation that is served fills its handle. -/
theorem answers_self (h : (b.serve op).result = .ok ()) : (b.serve op).state.slots.Answers op := by
  cases op with
  | read handle => simp [serve, Outcome.ok, Slots.Answers]
  | readBlock handle words =>
    cases hb : b.device.readBlock handle.path words with
    | ok found => simp [serve, hb, Outcome.ok, Slots.Answers]
    | error e => simp [serve, hb, Outcome.error] at h
  | _ => trivial

theorem answers_serveAll (h : b.slots.Answers other) (ops : List Pending) :
    (b.serveAll ops).state.slots.Answers other := by
  induction ops generalizing b with
  | nil => exact h
  | cons op ops ih =>
    have hop := answers_serve h op
    rw [serveAll_cons]
    cases hr : (b.serve op).result with
    | ok u => rw [Outcome.andThen_of_ok hr, Outcome.state_after]; exact ih hop
    | error e => rw [Outcome.andThen_of_error hr]; exact hop

/-- A batch that is served fills all its handles. -/
theorem answers_of_serveAll_ok (h : (b.serveAll ops).result = .ok ()) :
    ∀ op ∈ ops, (b.serveAll ops).state.slots.Answers op := by
  induction ops generalizing b with
  | nil => exact fun op hop => absurd hop List.not_mem_nil
  | cons first ops ih =>
    rw [serveAll_cons, Outcome.andThen_ok_iff] at h
    obtain ⟨u, hfirst, hrest⟩ := h
    rw [serveAll_cons, Outcome.andThen_of_ok hfirst, Outcome.state_after]
    intro op hop
    rcases List.mem_cons.mp hop with rfl | hop
    · exact answers_serveAll (answers_self hfirst) ops
    · exact ih hrest op hop

end Bench

/-! ## Handles over a whole run -/

namespace Session

variable {s : Session} {op : Pending} {r : Request} {rs : List Request}

/-- The operation waits in the batch or has been answered. -/
def Owes (s : Session) (op : Pending) : Prop := op ∈ s.batch ∨ s.slots.Answers op

theorem Owes.answer (h : s.Owes op) (hs : (⟨r, (s.answer r).result⟩ : Exchange).Succeeds) :
    (s.answer r).state.Owes op := by
  rcases s.answer_cases r with hr | ⟨new, -, hr | hr⟩ | ⟨rfl, hr⟩
  · rw [hr]; exact h
  · rw [hr]; exact h.imp_left (Array.mem_push_of_mem new)
  · rw [hr]; exact h.imp_left (Array.mem_push_of_mem new)
  · obtain ⟨⟨⟩, hs⟩ := hs
    obtain ⟨hn, hall⟩ := dispatch_ok_iff.mp hs
    rw [hr, (dispatch_of_no_refusal hn).2]
    rcases h with h | h
    · exact Or.inr (Bench.answers_of_serveAll_ok hall op (Array.mem_def.mp h))
    · exact Or.inr (Bench.answers_serveAll (b := s.bench) h s.batch.toList)

theorem Owes.follow (h : s.Owes op) (hs : ∀ x ∈ s.exchanges rs, x.Succeeds) : (s.follow rs).Owes op := by
  induction rs generalizing s with
  | nil => exact h
  | cons r rs ih =>
    have hhead := hs _ List.mem_cons_self
    exact ih (h.answer hhead) fun x hx => hs x (List.mem_cons_of_mem _ hx)

/-- A word handle that was given out is owed its value. -/
theorem owes_of_read {path : NodePath} {handle : WordHandle} (h : (s.answer (.read path)).result = .ok handle) :
    (s.answer (.read path)).state.Owes (.read handle) := by
  by_cases hp : s.device.registers.words.contains path = true
  · simp only [answer, read, hp, if_true, Outcome.ok, Except.ok.injEq] at h ⊢
    rw [← h]
    exact Or.inl Array.mem_push_self
  · simp [answer, read, hp, missing, Outcome.error] at h

/-- A block handle that was given out is owed its values. -/
theorem owes_of_readBlock {path : NodePath} {words : Nat} {handle : BlockHandle}
    (h : (s.answer (.readBlock path words)).result = .ok handle) :
    (s.answer (.readBlock path words)).state.Owes (.readBlock handle words) := by
  by_cases hp : s.device.registers.isBlock path = true
  · simp only [answer, readBlock, hp, if_true, Outcome.ok, Except.ok.injEq] at h ⊢
    rw [← h]
    exact Or.inl Array.mem_push_self
  · simp [answer, readBlock, hp, missing, Outcome.error] at h

theorem follow_append (s : Session) (rs qs : List Request) : s.follow (rs ++ qs) = (s.follow rs).follow qs := by
  induction rs generalizing s with
  | nil => rfl
  | cons r rs ih => exact ih _

theorem exchanges_append (s : Session) (rs qs : List Request) :
    s.exchanges (rs ++ qs) = s.exchanges rs ++ (s.follow rs).exchanges qs := by
  induction rs generalizing s with
  | nil => rfl
  | cons r rs ih => exact congrArg (⟨r, (s.answer r).result⟩ :: ·) (ih _)

/-- Every exchange is an answer on the way. -/
theorem answer_of_exchange {x : Exchange} (hx : x ∈ s.exchanges rs) :
    ∃ before rest, rs = before ++ x.request :: rest ∧
      x.reply = ((s.follow before).answer x.request).result := by
  induction rs generalizing s with
  | nil => exact absurd hx List.not_mem_nil
  | cons r rs ih =>
    rcases List.mem_cons.mp hx with rfl | hx
    · exact ⟨[], rs, rfl, rfl⟩
    · obtain ⟨before, rest, hrs, hreply⟩ := ih hx
      exact ⟨r :: before, rest, congrArg (r :: ·) hrs, hreply⟩

/-- What is owed right after an answer on the way is answered in the end. -/
theorem answers_of_owes {before rest : List Request} (hs : ∀ x ∈ s.exchanges (before ++ r :: rest), x.Succeeds)
    (ho : ((s.follow before).answer r).state.Owes op) (hb : (s.follow (before ++ r :: rest)).batch = #[]) :
    (s.follow (before ++ r :: rest)).slots.Answers op := by
  rw [exchanges_append] at hs
  rw [follow_append] at hb ⊢
  have hsrest : ∀ x ∈ ((s.follow before).answer r).state.exchanges rest, x.Succeeds := fun x hx =>
    hs x (List.mem_append_right _ (List.mem_cons_of_mem _ hx))
  have hrest := ho.follow hsrest
  rcases hrest with h | h
  · exact absurd (hb ▸ h) (Array.not_mem_empty op)
  · exact h

theorem word_of_exchange {path : NodePath} {handle : WordHandle} (hs : ∀ x ∈ s.exchanges rs, x.Succeeds)
    (hb : (s.follow rs).batch = #[]) (hx : ⟨.read path, .ok handle⟩ ∈ s.exchanges rs) :
    ∃ value, (s.follow rs).wordValue handle = .ok value := by
  obtain ⟨before, rest, rfl, hreply⟩ := answer_of_exchange hx
  have hfilled := answers_of_owes hs (owes_of_read hreply.symm) hb
  obtain ⟨value, hvalue⟩ := Option.isSome_iff_exists.mp hfilled
  exact ⟨value, by simp only [wordValue, hvalue]⟩

theorem block_of_exchange {path : NodePath} {words : Nat} {handle : BlockHandle}
    (hs : ∀ x ∈ s.exchanges rs, x.Succeeds) (hb : (s.follow rs).batch = #[])
    (hx : ⟨.readBlock path words, .ok handle⟩ ∈ s.exchanges rs) :
    ∃ values, (s.follow rs).blockValue handle = .ok values := by
  obtain ⟨before, rest, rfl, hreply⟩ := answer_of_exchange hx
  have hfilled := answers_of_owes hs (owes_of_readBlock hreply.symm) hb
  obtain ⟨values, hvalues⟩ := Option.isSome_iff_exists.mp hfilled
  exact ⟨values, by simp only [blockValue, hvalues]⟩

end Session

end TimingFleet

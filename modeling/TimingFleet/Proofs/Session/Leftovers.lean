import TimingFleet.Proofs.Session.Logic
import TimingFleet.Session.RegisterGroup

/-!
# What is left in the batch

A run that fails can leave operations in the batch, which the next dispatch would serve.  That happens only where
the device turns a request down because it lacks the node: the operations queued since the last dispatch stay.

* `Session.waiting tr`: the accesses that the requests of a trace leave in the batch.
* `Session.TurnsDown s r e`: the device turns `r` down in `s`, with the error `e`.
* `Session.Accepted tr`: no request of the trace was turned down.
* `Procedure.Tidy φ P p Q`: from `P` the run of `p` leads to `Q` or fails, and a failure leaves nothing waiting unless
  the last request, and no other, was turned down.  What is left then is of the kind `φ`.  There is one rule for each
  way to build a procedure.
-/

namespace TimingFleet

/-- The access reads a register. -/
def Access.IsRead : Access → Prop
  | .read _ => True
  | .readBlock _ _ => True
  | _ => False

namespace Session

variable {s t : Session} {r : Request} {a : Access} {e : Error} {tr : Trace Unit Session}

/-- Nothing waits in the batch. -/
def Clear (s : Session) : Prop := s.batch = #[]

theorem Clear.toList_enqueue (h : s.Clear) (op : Pending) : (s.bump.enqueue op).batch.toList = [op] := by
  rw [toList_batch_enqueue, batch_bump, show s.batch = #[] from h]
  rfl

/-- Any session. -/
def Any (_ : Session) : Prop := True

/-- All that waits is of the kind `φ`. -/
def Waits (φ : Access → Prop) (s : Session) : Prop := ∀ a ∈ s.batch.toList.map Pending.access, φ a

theorem Clear.waits {φ : Access → Prop} (h : s.Clear) : s.Waits φ := by
  unfold Waits
  rw [show s.batch = #[] from h]
  exact fun _ ha => absurd ha List.not_mem_nil

/-! ## Requests that are turned down -/

/-- The node that the request names and that the device lacks. -/
def lacking? (s : Session) : Request → Option NodePath
  | .subNodes path => if s.hasNode path then none else some path
  | r => r.queued?.bind fun a => if s.device.registers.admits a then none else a.path?

theorem answer_of_lacking {path : NodePath} (h : s.lacking? r = some path) :
    (s.answer r).result = .error (.nodeNotFound s.device.id path.toString) ∧ (s.answer r).state = s := by
  cases hr : r.queued? with
  | none =>
    cases r with
    | subNodes node =>
      have hnode : s.hasNode node = false ∧ node = path := by simpa [lacking?] using h
      obtain ⟨hmissing, rfl⟩ := hnode
      exact ⟨by simp [answer, Session.subNodes, hmissing], rfl⟩
    | hasNode node => cases h
    | dispatch => cases h
    | wordValue handle => cases h
    | blockValue handle => cases h
    | _ => cases hr
  | some a =>
    have hpath : s.device.registers.admits a = false ∧ a.path? = some path := by
      cases r with
      | subNodes node => cases hr
      | _ => simpa [lacking?, hr] using h
    obtain ⟨node, hnode, hresult⟩ := answer_of_not_admits hr hpath.1
    obtain rfl : node = path := Option.some.inj (hnode.symm.trans hpath.2)
    exact hresult

theorem ok_or_lacking (hr : r.queued? = some a) :
    (∃ reply, (s.answer r).result = .ok reply) ∨ ∃ path, s.lacking? r = some path := by
  cases ha : s.device.registers.admits a with
  | true => exact Or.inl (answer_of_admits hr ha).1
  | false =>
    obtain ⟨path, hpath, -⟩ := answer_of_not_admits hr ha
    refine Or.inr ⟨path, ?_⟩
    cases r with
    | subNodes node => cases hr
    | _ => simp [lacking?, hr, ha, hpath]

/-- The device turns the request down. -/
def TurnsDown (s : Session) (r : Request) (e : Error) : Prop :=
  ∃ path, s.lacking? r = some path ∧ e = .nodeNotFound s.device.id path.toString

/-- No request of the trace was turned down. -/
def Accepted (tr : Trace Unit Session) : Prop := ∀ x ∈ tr, x.1.lacking? x.2.2 = none

theorem accepted_nil : Accepted [] := fun _ h => absurd h List.not_mem_nil

theorem Accepted.append (h : Accepted tr) {more : Trace Unit Session} (hmore : Accepted more) :
    Accepted (tr ++ more) :=
  List.forall_mem_append.mpr ⟨h, hmore⟩

theorem accepted_singleton (h : s.lacking? r = none) : Accepted [(s, (), r)] :=
  List.forall_mem_singleton.mpr h

/-- A request that succeeds is not turned down. -/
theorem lacking?_of_ok {reply : r.Reply} (h : (s.answer r).result = .ok reply) : s.lacking? r = none := by
  cases hpath : s.lacking? r with
  | none => rfl
  | some path => exact nomatch h.symm.trans (answer_of_lacking hpath).1

/-- A request that should queue an operation fails only by being turned down, and changes nothing. -/
theorem turnsDown_of_error (hr : r.queued? = some a) (he : (s.answer r).result = .error e) :
    s.TurnsDown r e ∧ (s.answer r).state = s := by
  rcases s.ok_or_lacking hr with ⟨reply, hok⟩ | ⟨path, hpath⟩
  · exact nomatch hok.symm.trans he
  · obtain ⟨herr, hstate⟩ := answer_of_lacking hpath
    exact ⟨⟨path, hpath, Except.error.inj (he.symm.trans herr)⟩, hstate⟩

/-- The run has ended with a request that the device turned down, the only one. -/
def EndsTurnedDown (e : Error) (t : Session) (tr : Trace Unit Session) : Prop :=
  ∃ before r, tr = before ++ [(t, (), r)] ∧ Accepted before ∧ t.TurnsDown r e

theorem EndsTurnedDown.append (h : EndsTurnedDown e t tr) {before : Trace Unit Session} (hbefore : Accepted before) :
    EndsTurnedDown e t (before ++ tr) := by
  obtain ⟨more, r, rfl, hmore, hr⟩ := h
  exact ⟨before ++ more, r, (List.append_assoc _ _ _).symm, hbefore.append hmore, hr⟩

theorem TurnsDown.ends (h : s.TurnsDown r e) : EndsTurnedDown e s [(s, (), r)] := ⟨[], r, rfl, accepted_nil, h⟩

/-! ## Words that are there -/

/-- The device has the word. -/
def HasWord (path : NodePath) (s : Session) : Prop := s.device.registers.words.contains path = true

section HasWord

variable {path : NodePath}

theorem HasWord.answer (h : s.HasWord path) (r : Request) : (s.answer r).state.HasWord path :=
  (s.answer_evolves r).registers.words _ h

theorem hasWord_of_read {handle : WordHandle} (h : (s.read path).result = .ok handle) : s.HasWord path := by
  cases hp : s.device.registers.words.contains path with
  | true => exact hp
  | false => simp [read, hp, missing, Outcome.error] at h

theorem hasWord_of_write {value : UInt32} (h : (s.write path value).result = .ok ()) : s.HasWord path := by
  cases hp : s.device.registers.words.contains path with
  | true => exact hp
  | false => simp [write, hp, missing, Outcome.error] at h

theorem HasWord.lacking?_write (h : s.HasWord path) (value : UInt32) : s.lacking? (.write path value) = none := by
  have hok : (s.answer (.write path value)).result = .ok () := by
    unfold Session.answer Session.write
    exact congrArg Outcome.result (if_pos h)
  exact lacking?_of_ok hok

end HasWord

/-! ## What requests leave waiting -/

/-- What waits after one more request. -/
def waits (ops : List Access) : Session × Unit × Request → List Access
  | (_, _, .dispatch) => []
  | (s, _, r) =>
    match r.queued? with
    | some a => if s.device.registers.admits a then ops ++ [a] else ops
    | none => ops

/-- The accesses that were queued after the last dispatch of a run, which began with nothing waiting. -/
def waiting (tr : Trace Unit Session) : List Access := tr.foldl waits []

theorem waits_of_queued? (hr : r.queued? = some a) (ops : List Access) :
    waits ops (s, (), r) = if s.device.registers.admits a then ops ++ [a] else ops := by
  cases r with
  | dispatch => cases hr
  | _ => simp only [waits, hr]

theorem waits_answer (s : Session) (r : Request) :
    (s.answer r).state.batch.toList.map Pending.access = waits (s.batch.toList.map Pending.access) (s, (), r) := by
  cases hr : r.queued? with
  | none =>
    cases r with
    | dispatch =>
      show s.dispatch.state.batch.toList.map Pending.access = []
      rw [batch_dispatch]
      rfl
    | hasNode path => rfl
    | subNodes path => rfl
    | wordValue handle => rfl
    | blockValue handle => rfl
    | _ => cases hr
  | some a =>
    rw [waits_of_queued? hr]
    cases ha : s.device.registers.admits a with
    | false =>
      obtain ⟨-, -, -, hs⟩ := answer_of_not_admits hr ha
      rw [hs]
      rfl
    | true =>
      obtain ⟨-, op, rfl, ⟨-, hs⟩ | ⟨-, hs⟩⟩ := answer_of_admits hr ha
      · rw [hs, toList_batch_enqueue, List.map_append]
        rfl
      · rw [hs, toList_batch_enqueue, List.map_append]
        rfl

theorem Waits.answer {φ : Access → Prop} (h : s.Waits φ) (hr : r.queued? = some a) (ha : φ a) :
    (s.answer r).state.Waits φ := by
  unfold Waits
  rw [waits_answer, waits_of_queued? hr]
  split_ifs
  · exact List.forall_mem_append.mpr ⟨h, List.forall_mem_singleton.mpr ha⟩
  · exact h

/-- **What waits after a run** is what was queued after its last dispatch. -/
theorem waiting_asked {α : Type} (hs : s.Clear) (now : UInt64) (p : Procedure Unit α) :
    (p.run now s).state.batch.toList.map Pending.access = waiting (p.asked now s) := by
  have hfold := (Procedure.foldl_asked (I := fun _ => True) (m := fun s : Session => s.batch.toList.map Pending.access)
    (g := waits) (fun _ _ _ _ => trivial) (fun _ r t _ => waits_answer t r) now p (s := s) trivial).1
  rw [show s.batch = #[] from hs] at hfold
  exact hfold

end Session

/-! ## Tidy procedures -/

namespace Procedure

open Session

variable {α β : Type} {φ : Access → Prop} {P Q R : Session → Prop} {p : Procedure Unit α}

/-- From `P` the run leads to `Q` or fails.  A failure leaves nothing waiting, unless the last request of the run, and no
other, was turned down; then all that waits is of the kind `φ`. -/
def Tidy (φ : Access → Prop) (P : Session → Prop) (p : Procedure Unit α) (Q : Session → Prop) : Prop :=
  ∀ now s, P s → Runs now p s (fun _ t tr => Q t ∧ Accepted tr)
    fun e t tr => t.Clear ∧ Accepted tr ∨ EndsTurnedDown e t tr ∧ t.Waits φ

theorem tidy_bind {f : α → Procedure Unit β} (hp : Tidy φ P p R) (hf : ∀ a, Tidy φ R (f a) Q) :
    Tidy φ P (p >>= f) Q := by
  intro now s hs
  refine runs_bind ((hp now s hs).mono (fun a t tr ht => ?_) fun _ _ _ h => h)
  obtain ⟨ht, htr⟩ := ht
  refine (hf a now t ht).mono (fun _ _ _ h => ⟨h.1, htr.append h.2⟩) fun _ _ _ h => ?_
  exact h.imp (fun h => ⟨h.1, htr.append h.2⟩) fun h => ⟨h.1.append htr, h.2⟩

theorem tidy_pure (a : α) : Tidy φ P (pure a) P := fun _ _ hs => runs_pure ⟨hs, accepted_nil⟩

theorem tidy_fail (e : Error) : Tidy φ Clear (.fail e : Procedure Unit α) Q :=
  fun _ _ hs => runs_fail (Or.inl ⟨hs, accepted_nil⟩)

theorem tidy_ite {c : Prop} [Decidable c] {q : Procedure Unit α} (hp : Tidy φ P p Q) (hq : Tidy φ P q Q) :
    Tidy φ P (if c then p else q) Q := by
  split_ifs
  · exact hp
  · exact hq

theorem tidy_log (level : Level) (text : String) : Tidy φ P (log level text) P :=
  fun _ _ hs => runs_log ⟨hs, accepted_nil⟩

theorem tidy_settle (what : String) (duration : Duration) : Tidy φ P (settle what duration) P :=
  fun _ _ hs => runs_settle ⟨hs, accepted_nil⟩

theorem tidy_each {items : List β} {f : β → Procedure Unit α} (h : ∀ b, Tidy φ P (f b) P) :
    Tidy φ P (each items f) P := by
  induction items with
  | nil => exact tidy_pure []
  | cons b items ih => exact tidy_bind (h b) fun _ => tidy_bind ih fun _ => tidy_pure _

/-- Where nothing waits, all that waits is of any kind. -/
theorem Tidy.of_waits (h : Tidy φ (Waits φ) p Q) : Tidy φ Clear p Q := fun now s hs => h now s hs.waits

/-! ### Requests -/

/-- A request that queues an operation behind others of the kind `φ`. -/
theorem runs_queue {r : Request} {a : Access} {now : UInt64} {s : Session} (hr : r.queued? = some a)
    (hs : s.Waits φ) (hQ : ∀ reply, (s.answer r).result = .ok reply → Q (s.answer r).state) :
    Runs now (request () r) s (fun _ t tr => Q t ∧ Accepted tr)
      fun e t tr => t.Clear ∧ Accepted tr ∨ EndsTurnedDown e t tr ∧ t.Waits φ := by
  refine runs_request (fun reply hok => ⟨hQ reply hok, accepted_singleton (lacking?_of_ok hok)⟩) fun e he => Or.inr ?_
  obtain ⟨hdown, hstate⟩ := turnsDown_of_error hr he
  show EndsTurnedDown e (s.answer r).state _ ∧ (s.answer r).state.Waits φ
  rw [hstate]
  exact ⟨hdown.ends, hs⟩

theorem tidy_queue {r : Request} {a : Access} (hr : r.queued? = some a) (ha : φ a) :
    Tidy φ (Waits φ) (request () r) (Waits φ) :=
  fun _ _ hs => runs_queue hr hs fun _ _ => hs.answer hr ha

theorem tidy_read (path : NodePath) : Tidy Access.IsRead (Waits Access.IsRead) (read path) (Waits Access.IsRead) :=
  tidy_queue rfl trivial

theorem tidy_readBlock (path : NodePath) (words : Nat) :
    Tidy Access.IsRead (Waits Access.IsRead) (readBlock path words) (Waits Access.IsRead) :=
  tidy_queue rfl trivial

/-! Nothing waits where the first operation of a batch is turned down. -/

theorem tidy_readFirst (path : NodePath) : Tidy φ Clear (read path) (HasWord path) :=
  fun _ _ hs => runs_queue rfl hs.waits fun _ hok => (hasWord_of_read hok).answer _

theorem tidy_readBlockFirst (path : NodePath) (words : Nat) : Tidy φ Clear (readBlock path words) Any :=
  fun _ _ hs => runs_queue rfl hs.waits fun _ _ => trivial

theorem tidy_writeFirst (path : NodePath) (value : UInt32) : Tidy φ Clear (write path value) (HasWord path) :=
  fun _ _ hs => runs_queue rfl hs.waits fun _ hok => (hasWord_of_write hok).answer _

theorem tidy_writeBlockFirst (path : NodePath) (values : List UInt32) : Tidy φ Clear (writeBlock path values) Any :=
  fun _ _ hs => runs_queue rfl hs.waits fun _ _ => trivial

/-- A write to a word that is there is not turned down. -/
theorem tidy_write_of_hasWord (path : NodePath) (value : UInt32) : Tidy φ (HasWord path) (write path value) Any :=
  fun _ _ hs => runs_write hs ⟨trivial, accepted_singleton (hs.lacking?_write value)⟩

theorem tidy_subNodes (path : NodePath) : Tidy φ (Waits φ) (subNodes path) (Waits φ) := by
  intro now s hs
  refine runs_request (fun _ hok => ⟨hs, accepted_singleton (lacking?_of_ok hok)⟩) fun e he => Or.inr ⟨?_, hs⟩
  have hdown : s.TurnsDown (.subNodes path) e := by
    refine ⟨path, ?_⟩
    cases hnode : s.hasNode path with
    | true => simp [Stations.answer, answer, Session.subNodes, hnode] at he
    | false =>
      refine ⟨by simp [lacking?, hnode], ?_⟩
      simpa [Stations.answer, answer, Session.subNodes, hnode, eq_comm] using he
  exact hdown.ends

/-- A dispatch leaves nothing waiting, whether it succeeds or not. -/
theorem tidy_dispatch : Tidy φ P dispatch Clear := by
  intro now s _
  have hlacking : Accepted [(s, (), .dispatch)] := accepted_singleton rfl
  exact runs_request (fun _ _ => ⟨s.batch_dispatch, hlacking⟩) fun _ _ => Or.inl ⟨s.batch_dispatch, hlacking⟩

theorem tidy_wordValue (handle : WordHandle) : Tidy φ Clear (wordValue handle) Clear := by
  intro now s hs
  have hlacking : Accepted [(s, (), .wordValue handle)] := accepted_singleton rfl
  exact runs_request (fun _ _ => ⟨hs, hlacking⟩) fun _ _ => Or.inl ⟨hs, hlacking⟩

theorem tidy_blockValue (handle : BlockHandle) : Tidy φ Clear (blockValue handle) Clear := by
  intro now s hs
  have hlacking : Accepted [(s, (), .blockValue handle)] := accepted_singleton rfl
  exact runs_request (fun _ _ => ⟨hs, hlacking⟩) fun _ _ => Or.inl ⟨hs, hlacking⟩

theorem tidy_readGroup (path : NodePath) :
    Tidy Access.IsRead (Waits Access.IsRead) (RegisterGroup.read path) (Waits Access.IsRead) :=
  tidy_bind (tidy_subNodes path) fun _ => tidy_each fun _ => tidy_bind (tidy_read _) fun _ => tidy_pure _

theorem tidy_collect (handles : List (String × WordHandle)) : Tidy φ Clear (RegisterGroup.collect handles) Clear := by
  refine tidy_bind (tidy_each fun handle => ?_) fun _ => tidy_pure _
  exact tidy_bind (tidy_wordValue _) fun _ => tidy_pure _

end Procedure

end TimingFleet

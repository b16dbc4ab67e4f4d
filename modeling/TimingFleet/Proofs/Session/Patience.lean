import TimingFleet.Proofs.Session.Client
import TimingFleet.Proofs.Session.Failures

/-!
# Asking for values once they are there

A procedure that asks for the value behind a handle must have dispatched the read since it queued it.

* `Ledger`: what has been queued since the last dispatch, and what some dispatch has served.
* `Procedure.Patient p K l`: whatever is replied, `p` asks only for values that its ledger, which begins as `l`, has as
  filled; `K` holds of its result and of the ledger in the end.  There is one rule for each way to build a procedure.
* `Timely tr`: each value that a run asks for is there, and a dispatch of the run that succeeded has filled it.

A patient procedure runs timely and never fails for a value that is not there, whatever waited in the session before
and whatever fails (`runs_of_patient`).
-/

namespace TimingFleet

/-- The error says that a value is not there yet. -/
def Error.IsNotDispatched (e : Error) : Prop := ∃ path, e = .notDispatched path

/-- The value that the request asks for, if it does, is that of an operation of `F`. -/
def Request.WantsOnly (F : Pending → Prop) : Request → Prop
  | .wordValue handle => F (.read handle)
  | .blockValue handle => ∃ words, F (.readBlock handle words)
  | _ => True

theorem Request.WantsOnly.mono {F G : Pending → Prop} {r : Request} (h : r.WantsOnly F) (hFG : ∀ op, F op → G op) :
    r.WantsOnly G := by
  cases r with
  | wordValue handle => exact hFG _ h
  | blockValue handle => exact h.imp fun words => hFG _
  | _ => trivial

/-- The operation whose value a request has been promised with its reply. -/
def Request.promise? : (r : Request) → r.Reply → Option Pending
  | .read _, handle => some (.read handle)
  | .readBlock _ words, handle => some (.readBlock handle words)
  | _, _ => none

/-! ## Timely runs -/

section Timely

variable {before tr tr' : Trace Unit Session} {x : Session × Unit × Request} {op : Pending}

/-- A dispatch among the requests has succeeded with the operation in its batch. -/
def Filled (tr : Trace Unit Session) (op : Pending) : Prop :=
  ∃ x ∈ tr, x.2.2 = .dispatch ∧ x.1.dispatch.result = .ok () ∧ op ∈ x.1.batch.toList

theorem Filled.append_right (h : Filled tr op) (tr' : Trace Unit Session) : Filled (tr ++ tr') op := by
  obtain ⟨x, hx, hserved⟩ := h
  exact ⟨x, List.mem_append_left tr' hx, hserved⟩

theorem Filled.append_left (h : Filled tr' op) (tr : Trace Unit Session) : Filled (tr ++ tr') op := by
  obtain ⟨x, hx, hserved⟩ := h
  exact ⟨x, List.mem_append_right tr hx, hserved⟩

/-- After the requests `before`, each value that is asked for is there, and a dispatch has filled it. -/
def TimelyAfter (before tr : Trace Unit Session) : Prop :=
  ∀ done x rest, tr = done ++ x :: rest → x.2.2.WantsOnly fun op => Filled (before ++ done) op ∧ x.1.slots.Answers op

/-- Each value that is asked for is there, and a dispatch among the requests before has filled it. -/
def Timely (tr : Trace Unit Session) : Prop := TimelyAfter [] tr

theorem timelyAfter_nil (before : Trace Unit Session) : TimelyAfter before [] := fun done x rest h => by simp at h

theorem timelyAfter_cons (hx : x.2.2.WantsOnly fun op => Filled before op ∧ x.1.slots.Answers op)
    (h : TimelyAfter (before ++ [x]) tr) : TimelyAfter before (x :: tr) := by
  intro done y rest hsplit
  cases done with
  | nil =>
    obtain ⟨rfl, -⟩ := List.cons.inj hsplit
    rwa [List.append_nil]
  | cons z done =>
    obtain ⟨rfl, hrest⟩ := List.cons.inj hsplit
    rw [List.append_cons]
    exact h done y rest hrest

/-- Runs that are timely each for itself are so one after the other. -/
theorem Timely.append (h : Timely tr) (h' : Timely tr') : Timely (tr ++ tr') := by
  intro done x rest hsplit
  have hlater : ∀ more, tr' = more ++ x :: rest → done = tr ++ more →
      x.2.2.WantsOnly fun op => Filled ([] ++ done) op ∧ x.1.slots.Answers op := by
    rintro more hmore rfl
    exact (h' more x rest hmore).mono fun op hop => ⟨hop.1.append_left tr, hop.2⟩
  rcases List.append_eq_append_iff.mp hsplit with ⟨more, hdone, hmore⟩ | ⟨more, htr, hmore⟩
  · exact hlater more hmore hdone
  · cases more with
    | nil => exact hlater [] hmore.symm (by rw [htr, List.append_nil, List.append_nil])
    | cons y more =>
      obtain ⟨rfl, -⟩ := List.cons.inj hmore
      exact h done x more htr

end Timely

/-! ## Ledgers -/

/-- What has been queued since the last dispatch, and what has been served by the dispatches before. -/
structure Ledger where
  queued : List Pending := []
  filled : List Pending := []

namespace Ledger

/-- The ledger after one more request and the reply to it. -/
def next (l : Ledger) : (r : Request) → Except Error r.Reply → Ledger
  | .dispatch, .ok _ => ⟨[], l.queued ++ l.filled⟩
  | .dispatch, .error _ => ⟨[], l.filled⟩
  | r, .ok a => { l with queued := (r.promise? a).toList ++ l.queued }
  | _, .error _ => l

theorem next_ok {r : Request} (hr : r ≠ .dispatch) (l : Ledger) (a : r.Reply) :
    l.next r (.ok a) = { l with queued := (r.promise? a).toList ++ l.queued } := by
  cases r with
  | dispatch => exact absurd rfl hr
  | _ => rfl

theorem next_error {r : Request} (hr : r ≠ .dispatch) (l : Ledger) (e : Error) : l.next r (.error e) = l := by
  cases r with
  | dispatch => exact absurd rfl hr
  | _ => rfl

/-- What has been filled stays so. -/
theorem filled_next (l : Ledger) (r : Request) (reply : Except Error r.Reply) : l.filled ⊆ (l.next r reply).filled := by
  cases r with
  | dispatch =>
    cases reply with
    | ok u => exact List.subset_append_right _ _
    | error e => exact List.Subset.refl _
  | _ => cases reply <;> exact List.Subset.refl _

/-- The ledger is true of a session and of the requests it has come through: what is queued waits, and what is
filled has been served. -/
structure Holds (l : Ledger) (before : Trace Unit Session) (s : Session) : Prop where
  queued : ∀ op ∈ l.queued, op ∈ s.batch.toList
  filled : ∀ op ∈ l.filled, Filled before op ∧ s.slots.Answers op

theorem holds_empty (before : Trace Unit Session) (s : Session) : Holds {} before s :=
  ⟨fun _ h => absurd h List.not_mem_nil, fun _ h => absurd h List.not_mem_nil⟩

end Ledger

namespace Session

variable {s : Session} {op : Pending} {r : Request}

/-- Values stay behind their handles. -/
theorem answers_answer (h : s.slots.Answers op) (r : Request) : (s.answer r).state.slots.Answers op := by
  rcases s.answer_cases r with hs | ⟨new, -, hs | hs⟩ | ⟨-, hs⟩
  · rwa [hs]
  · rwa [hs]
  · rw [hs]
    exact h
  · rw [hs]
    cases hr : s.device.refusal (s.dispatchCount + 1) with
    | some reason =>
      rw [dispatch_of_refusal hr]
      exact h
    | none =>
      rw [(dispatch_of_no_refusal hr).2]
      exact Bench.answers_serveAll (b := s.bench) h s.batch.toList

/-- A dispatch that succeeds has put values behind the handles of its batch. -/
theorem answers_dispatch (h : s.dispatch.result = .ok ()) (hop : op ∈ s.batch.toList) :
    s.dispatch.state.slots.Answers op := by
  obtain ⟨hnone, hserved⟩ := dispatch_ok_iff.mp h
  rw [(dispatch_of_no_refusal hnone).2]
  exact Bench.answers_of_serveAll_ok hserved op hop

/-- What waits goes on waiting until a dispatch. -/
theorem mem_batch_answer_of_ne (hr : r ≠ .dispatch) (hop : op ∈ s.batch.toList) :
    op ∈ (s.answer r).state.batch.toList := by
  rcases s.answer_cases r with hs | ⟨new, -, hs | hs⟩ | ⟨hdispatch, -⟩
  · rwa [hs]
  · rw [hs, toList_batch_enqueue]
    exact List.mem_append_left _ hop
  · rw [hs, toList_batch_enqueue]
    exact List.mem_append_left _ hop
  · exact absurd hdispatch hr

/-- A session complains of a value that is not there only where it is not. -/
theorem not_isNotDispatched {e : Error} (hr : r.WantsOnly s.slots.Answers) (h : (s.answer r).result = .error e) :
    ¬ e.IsNotDispatched := by
  rintro ⟨path, rfl⟩
  cases r with
  | dispatch =>
    obtain ⟨_, _, heq⟩ := dispatch_error h
    cases heq
  | hasNode path => cases h
  | subNodes path => simp only [answer, subNodes] at h; split_ifs at h; cases h
  | read path => simp only [answer, read, missing] at h; split_ifs at h <;> cases h
  | readBlock path words => simp only [answer, readBlock, missing] at h; split_ifs at h <;> cases h
  | write path value => simp only [answer, write, missing] at h; split_ifs at h <;> cases h
  | writeBlock path values => simp only [answer, writeBlock, missing] at h; split_ifs at h <;> cases h
  | wordValue handle =>
    obtain ⟨value, hvalue⟩ := Option.isSome_iff_exists.mp hr
    simp only [answer, wordValue, hvalue] at h
    cases h
  | blockValue handle =>
    obtain ⟨words, hwords⟩ := hr
    obtain ⟨values, hvalues⟩ := Option.isSome_iff_exists.mp hwords
    simp only [answer, blockValue, hvalues] at h
    cases h

theorem mem_batch_enqueue (s : Session) (op : Pending) : op ∈ (s.enqueue op).batch.toList := by
  rw [toList_batch_enqueue]
  exact List.mem_append_right _ List.mem_cons_self

/-- What is promised waits. -/
theorem mem_batch_of_promise {a : r.Reply} (h : (s.answer r).result = .ok a) (hop : r.promise? a = some op) :
    op ∈ (s.answer r).state.batch.toList := by
  cases r with
  | read path =>
    cases hop
    simp only [answer, read, missing] at h ⊢
    split_ifs at h ⊢
    · cases h
      exact mem_batch_enqueue s.bump _
    · cases h
  | readBlock path words =>
    cases hop
    simp only [answer, readBlock, missing] at h ⊢
    split_ifs at h ⊢
    · cases h
      exact mem_batch_enqueue s.bump _
    · cases h
  | _ => cases hop

/-- **Ledgers stay true**, one answer at a time. -/
theorem holds_next {l : Ledger} {before : Trace Unit Session} (h : l.Holds before s) (r : Request) :
    (l.next r (s.answer r).result).Holds (before ++ [(s, (), r)]) (s.answer r).state := by
  have hkept : ∀ op ∈ l.filled, Filled (before ++ [(s, (), r)]) op ∧ (s.answer r).state.slots.Answers op :=
    fun op hop => ⟨(h.filled op hop).1.append_right _, answers_answer (h.filled op hop).2 r⟩
  by_cases hr : r = .dispatch
  · subst hr
    cases hres : s.dispatch.result with
    | error e =>
      rw [show (s.answer .dispatch).result = .error e from hres]
      exact ⟨fun op hop => absurd hop List.not_mem_nil, hkept⟩
    | ok u =>
      rw [show (s.answer .dispatch).result = .ok u from hres]
      refine ⟨fun op hop => absurd hop List.not_mem_nil, fun op hop => ?_⟩
      rcases List.mem_append.mp hop with hop | hop
      · have hop := h.queued op hop
        exact ⟨⟨_, List.mem_append_right _ List.mem_cons_self, rfl, hres, hop⟩, answers_dispatch hres hop⟩
      · exact hkept op hop
  · have hwaits : ∀ op ∈ l.queued, op ∈ (s.answer r).state.batch.toList :=
      fun op hop => mem_batch_answer_of_ne hr (h.queued op hop)
    cases hres : (s.answer r).result with
    | error e =>
      rw [Ledger.next_error hr]
      exact ⟨hwaits, hkept⟩
    | ok a =>
      rw [Ledger.next_ok hr]
      refine ⟨fun op hop => ?_, hkept⟩
      rcases List.mem_append.mp hop with hop | hop
      · exact mem_batch_of_promise hres (Option.mem_toList.mp hop)
      · exact hwaits op hop

end Session

/-! ## Patient procedures -/

namespace Procedure

variable {ι α β γ : Type} {p : Procedure Unit α} {K K' : α → Ledger → Prop} {l : Ledger}

/-- Whatever is replied, as long as no reply says that a value is not there yet: the procedure asks only for values
that are filled by its ledger, does not say itself that one is not there, and ends with `K`. -/
def Patient : Procedure Unit α → (α → Ledger → Prop) → Ledger → Prop
  | .done a, K, l => K a l
  | .fail e, _, _ => ¬ e.IsNotDispatched
  | .emit _ p, K, l => p.Patient K l
  | .clock p, K, l => ∀ now, (p now).Patient K l
  | .ask _ r p, K, l => r.WantsOnly (· ∈ l.filled) ∧
      ∀ reply, (∀ e, reply = .error e → ¬ e.IsNotDispatched) → (p reply).Patient K (l.next r reply)

/-- **Patient procedures run timely**, from any session that their ledger is true of. -/
theorem Patient.timelyAfter (hp : p.Patient K l) (now : UInt64) {before : Trace Unit Session} {s : Session}
    (hl : l.Holds before s) :
    (∀ e, (p.run now s).result = .error e → ¬ e.IsNotDispatched) ∧ TimelyAfter before (p.asked now s) := by
  induction p generalizing l before s with
  | done a => exact ⟨(fun _ he => nomatch he), timelyAfter_nil before⟩
  | fail e => exact ⟨fun _ he => Except.error.inj he ▸ hp, timelyAfter_nil before⟩
  | emit e p ih => exact ih hp hl
  | clock p ih => exact ih now (hp now) hl
  | ask i r p ih =>
    obtain ⟨hwants, hreply⟩ := hp
    have hthere := hwants.mono hl.filled
    have hnot : ∀ e, (s.answer r).result = .error e → ¬ e.IsNotDispatched := fun e he =>
      Session.not_isNotDispatched (hthere.mono fun _ hop => hop.2) he
    obtain ⟨herr, htimely⟩ := ih _ (hreply _ hnot) (Session.holds_next hl r)
    exact ⟨herr, timelyAfter_cons hthere htimely⟩

theorem Patient.mono (hp : p.Patient K l) (h : ∀ a l', l.filled ⊆ l'.filled → K a l' → K' a l') : p.Patient K' l := by
  induction p generalizing l with
  | done a => exact h a l (List.Subset.refl _) hp
  | fail e => exact hp
  | emit e p ih => exact ih hp h
  | clock p ih => exact fun now => ih now (hp now) h
  | ask i r p ih =>
    refine ⟨hp.1, fun reply hreply => ih reply (hp.2 reply hreply) fun a l' hl' => ?_⟩
    exact h a l' (List.Subset.trans (l.filled_next r reply) hl')

/-- A patient procedure does not say that a value is not there, unless a reply does. -/
theorem Patient.failsOnly (hp : p.Patient K l) : p.FailsOnly fun e => ¬ e.IsNotDispatched := by
  induction p generalizing l with
  | done a => trivial
  | fail e => exact hp
  | emit e p ih => exact ih hp
  | clock p ih => exact fun now => ih now (hp now)
  | ask i r p ih => exact fun reply hreply => ih reply (hp.2 reply hreply)

theorem patient_pure {a : α} (h : K a l) : (pure a : Procedure Unit α).Patient K l := h

theorem patient_fail {e : Error} (h : ¬ e.IsNotDispatched) : (.fail e : Procedure Unit α).Patient K l := h

/-- **Sequences**: the second part goes on with the ledger of the first. -/
theorem patient_bind {f : α → Procedure Unit β} {K : β → Ledger → Prop}
    (h : p.Patient (fun a => (f a).Patient K) l) : (p >>= f).Patient K l := by
  show (p.bind f).Patient K l
  induction p generalizing l with
  | done a => exact h
  | fail e => exact h
  | emit e p ih => exact ih h
  | clock p ih => exact fun now => ih now (h now)
  | ask i r p ih => exact ⟨h.1, fun reply hreply => ih reply (h.2 reply hreply)⟩

theorem patient_ite {c : Prop} [Decidable c] {q : Procedure Unit α} (hp : c → p.Patient K l) (hq : ¬ c → q.Patient K l) :
    (if c then p else q).Patient K l := by
  split_ifs with h
  · exact hp h
  · exact hq h

theorem patient_log {K : Unit → Ledger → Prop} {level : Level} {text : String} (h : K () l) :
    (log level text : Procedure Unit Unit).Patient K l := h

theorem patient_settle {K : Unit → Ledger → Prop} {what : String} {duration : Duration} (h : K () l) :
    (settle what duration : Procedure Unit Unit).Patient K l :=
  patient_ite (fun _ => h) fun _ => patient_bind (patient_log h)

theorem patient_attempt {K : Except Error α → Ledger → Prop} (hp : p.Patient (fun a => K (.ok a)) l)
    (h : ∀ e l', ¬ e.IsNotDispatched → l.filled ⊆ l'.filled → K (.error e) l') : p.attempt.Patient K l := by
  induction p generalizing l with
  | done a => exact hp
  | fail e => exact h e l hp (List.Subset.refl _)
  | emit e p ih => exact ih hp h
  | clock p ih => exact fun now => ih now (hp now) h
  | ask i r p ih =>
    refine ⟨hp.1, fun reply hreply => ih reply (hp.2 reply hreply) fun e l' he hl' => ?_⟩
    exact h e l' he (List.Subset.trans (l.filled_next r reply) hl')

/-! ### Requests -/

theorem patient_request {r : Request} {K : r.Reply → Ledger → Prop} (hr : r ≠ .dispatch)
    (hw : r.WantsOnly (· ∈ l.filled)) (h : ∀ a, K a { l with queued := (r.promise? a).toList ++ l.queued }) :
    (request () r).Patient K l := by
  refine ⟨hw, fun reply hreply => ?_⟩
  cases reply with
  | error e => exact hreply e rfl
  | ok a =>
    rw [Ledger.next_ok hr]
    exact h a

theorem patient_read {path : NodePath} {K : WordHandle → Ledger → Prop}
    (h : ∀ handle, K handle { l with queued := .read handle :: l.queued }) : (read path).Patient K l :=
  patient_request (nomatch ·) trivial h

theorem patient_readBlock {path : NodePath} {words : Nat} {K : BlockHandle → Ledger → Prop}
    (h : ∀ handle, K handle { l with queued := .readBlock handle words :: l.queued }) :
    (readBlock path words).Patient K l :=
  patient_request (nomatch ·) trivial h

theorem patient_write {path : NodePath} {value : UInt32} {K : Unit → Ledger → Prop} (h : K () l) :
    (write path value).Patient K l :=
  patient_request (nomatch ·) trivial fun _ => h

theorem patient_writeBlock {path : NodePath} {values : List UInt32} {K : Unit → Ledger → Prop} (h : K () l) :
    (writeBlock path values).Patient K l :=
  patient_request (nomatch ·) trivial fun _ => h

theorem patient_hasNode {path : NodePath} {K : Bool → Ledger → Prop} (h : ∀ known, K known l) :
    (hasNode path).Patient K l :=
  patient_request (nomatch ·) trivial h

theorem patient_subNodes {path : NodePath} {K : List String → Ledger → Prop} (h : ∀ names, K names l) :
    (subNodes path).Patient K l :=
  patient_request (nomatch ·) trivial h

/-- A dispatch that succeeds fills what has been queued. -/
theorem patient_dispatch {K : Unit → Ledger → Prop} (h : K () ⟨[], l.queued ++ l.filled⟩) : dispatch.Patient K l := by
  refine ⟨trivial, fun reply hreply => ?_⟩
  cases reply with
  | error e => exact hreply e rfl
  | ok u => exact h

theorem patient_wordValue {handle : WordHandle} {K : UInt32 → Ledger → Prop} (hl : .read handle ∈ l.filled)
    (h : ∀ value, K value l) : (wordValue handle).Patient K l :=
  patient_request (nomatch ·) hl h

theorem patient_blockValue {handle : BlockHandle} {words : Nat} {K : List UInt32 → Ledger → Prop}
    (hl : .readBlock handle words ∈ l.filled) (h : ∀ values, K values l) : (blockValue handle).Patient K l :=
  patient_request (nomatch ·) ⟨words, hl⟩ h

/-! ### Several items -/

/-- Patient, whatever it ends with. -/
abbrev PatientFrom (p : Procedure Unit α) (l : Ledger) : Prop := p.Patient (fun _ _ => True) l

/-- A patient procedure that takes nothing over: it runs timely and does not fail for a value that is not there. -/
theorem runs_of_patient (hp : p.PatientFrom {}) (now : UInt64) (s : Session) :
    Runs now p s (fun _ _ tr => Timely tr) fun e _ tr => ¬ e.IsNotDispatched ∧ Timely tr := by
  obtain ⟨herr, htimely⟩ := hp.timelyAfter now (Ledger.holds_empty [] s)
  exact runs_iff.mpr ⟨fun _ _ => htimely, fun e he => ⟨herr e he, htimely⟩⟩

/-- A part that takes nothing over but what has been filled. -/
theorem patient_then {f : α → Procedure Unit β} {K : β → Ledger → Prop} (hp : p.PatientFrom l)
    (hf : ∀ a l', l.filled ⊆ l'.filled → (f a).Patient K l') : (p >>= f).Patient K l :=
  patient_bind (hp.mono fun a l' hl' _ => hf a l' hl')

theorem patient_each {items : List γ} {f : γ → Procedure Unit α}
    (h : ∀ c ∈ items, ∀ l', l.filled ⊆ l'.filled → (f c).PatientFrom l') : (each items f).PatientFrom l := by
  induction items generalizing l with
  | nil => trivial
  | cons c items ih =>
    refine patient_then (h c List.mem_cons_self l (List.Subset.refl _)) fun a l' hl' => ?_
    refine patient_then (ih fun c' hc' l'' hl'' => ?_) fun _ _ _ => trivial
    exact h c' (List.mem_cons_of_mem c hc') l'' (List.Subset.trans hl' hl'')

/-- The procedure queues operations and dispatches nothing; all those that its result stands for are queued. -/
def Promises (p : Procedure Unit α) (F : α → Pending → Prop) : Prop :=
  ∀ l : Ledger, p.Patient (fun a l' => l.queued ⊆ l'.queued ∧ ∀ op, F a op → op ∈ l'.queued) l

theorem promises_each {items : List γ} {f : γ → Procedure Unit α} {F : α → Pending → Prop}
    (h : ∀ c, Promises (f c) F) : Promises (each items f) fun as op => ∃ a ∈ as, F a op := by
  intro l
  induction items generalizing l with
  | nil => exact ⟨List.Subset.refl _, fun op ⟨_, ha, _⟩ => absurd ha List.not_mem_nil⟩
  | cons c items ih =>
    refine patient_bind ((h c l).mono fun a l' _ ⟨hqueue, hop⟩ => ?_)
    refine patient_bind ((ih l').mono fun as l'' _ ⟨hqueue', hops⟩ => ?_)
    refine patient_pure ⟨List.Subset.trans hqueue hqueue', fun op ⟨b, hb, hF⟩ => ?_⟩
    rcases List.mem_cons.mp hb with rfl | hb
    · exact hqueue' (hop op hF)
    · exact hops op ⟨b, hb, hF⟩

theorem promises_readGroup (path : NodePath) :
    Promises (RegisterGroup.read path) fun handles op => ∃ x ∈ handles, op = .read x.2 := by
  refine fun l => patient_bind (patient_subNodes fun names => promises_each (fun name l' => ?_) l)
  refine patient_bind (patient_read fun handle => patient_pure ⟨List.subset_cons_self _ _, fun op hop => ?_⟩)
  exact hop ▸ List.mem_cons_self

theorem patient_collect {handles : List (String × WordHandle)} (h : ∀ x ∈ handles, .read x.2 ∈ l.filled) :
    (RegisterGroup.collect handles).PatientFrom l := by
  refine patient_then (patient_each fun x hx l' hl' => ?_) fun _ _ _ => trivial
  exact patient_bind (patient_wordValue (hl' (h x hx)) fun _ => trivial)

end Procedure

end TimingFleet

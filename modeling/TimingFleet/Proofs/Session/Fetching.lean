import TimingFleet.Proofs.Device.RegisterGroups
import TimingFleet.Proofs.Session.Counting
import TimingFleet.Proofs.Session.Handles
import TimingFleet.Proofs.Session.Leftovers

/-!
# Reading in one batch

An operation that reads queues what it wants to know, dispatches once, and takes the values from its handles.

* `Device.Looks d op`: on `d` the operation finds what it asks for and changes nothing.
* `Session.Gathers s t Φ`: since `s` nothing but operations that only look has been queued, and `t` is where this has
  come to.  A session whose slots show what these operations find satisfies `Φ`.
* `Queueing d p Φ`: on the device `d` the procedure `p` gathers what `Φ` says of its result.
* `Session.Yields u p a`: in the session `u` the procedure `p` has the result `a` and changes nothing.
* `Session.ReadsOut s t p a`: from `t` on, `p` has the result `a` after one dispatch and leaves the device as it was in
  `s`; or this dispatch is refused.

There is one rule for each way to build `p`.  What has been gathered is dispatched, and then the values are there
(`readsOut_dispatch`).
-/

namespace TimingFleet

/-! ## Operations that look -/

namespace Device

variable {d : Device} {ops : List Pending}

/-- The operation finds what it asks for and changes nothing. -/
def Looks (d : Device) (op : Pending) : Prop := ¬ d.Short op ∧ d.after op = d

theorem looks_read (d : Device) (handle : WordHandle) : d.Looks (.read handle) := by
  refine ⟨?_, rfl⟩
  rintro ⟨handle', words, queue, hop, -⟩
  cases hop

/-- The read of a block that is no queue. -/
theorem looks_readBlock {handle : BlockHandle} {words : Nat} (hq : d.registers.fifos[handle.path]? = none) :
    d.Looks (.readBlock handle words) := by
  constructor
  · rintro ⟨handle', words', queue, hop, hq', -⟩
    cases hop
    rw [hq] at hq'
    cases hq'
  · show d.takeOut handle.path words = d
    unfold takeOut
    rw [hq]

theorem suffices_of_looks (h : ∀ op ∈ ops, d.Looks op) : d.Suffices ops ∧ ops.foldl after d = d := by
  induction ops with
  | nil => exact ⟨trivial, rfl⟩
  | cons op ops ih =>
    obtain ⟨hshort, hafter⟩ := h op List.mem_cons_self
    obtain ⟨hrest, hsame⟩ := ih fun x hx => h x (List.mem_cons_of_mem op hx)
    refine ⟨⟨hshort, ?_⟩, ?_⟩
    · rw [hafter]
      exact hrest
    · rw [List.foldl_cons, hafter]
      exact hsame

end Device

/-- A session is as orderly after a run as before. -/
theorem Session.Orderly.run {s : Session} {α : Type} (h : s.Orderly) (now : UInt64) (p : Procedure Unit α) :
    (p.run now s).state.Orderly :=
  (p.asks_true.keeps (I := Session.Orderly) (fun _ r _ _ ht => ht.answer r) h).1

/-! ## Taking values from handles -/

namespace Session

open Procedure

variable {u : Session} {α β γ : Type}

/-- The procedure has the result `a` and changes nothing. -/
def Yields (u : Session) (p : Procedure Unit α) (a : α) : Prop :=
  ∀ now, Runs now p u (fun b t _ => b = a ∧ t = u) fun _ _ _ => False

theorem yields_pure (u : Session) (a : α) : u.Yields (pure a) a := fun _ => runs_pure ⟨rfl, rfl⟩

theorem Yields.bind {p : Procedure Unit α} {f : α → Procedure Unit β} {a : α} {b : β} (hp : u.Yields p a)
    (hf : u.Yields (f a) b) : u.Yields (p >>= f) b := by
  intro now
  refine runs_bind ((hp now).mono ?_ fun _ _ _ hno => hno)
  rintro a' t _ ⟨rfl, rfl⟩
  exact (hf now).mono (fun _ _ _ h => h) fun _ _ _ hno => hno

/-- A value that is taken and returned in another form. -/
theorem Yields.map {p : Procedure Unit α} {a : α} (hp : u.Yields p a) (f : α → β) :
    u.Yields (p >>= fun a => pure (f a)) (f a) :=
  hp.bind (yields_pure u (f a))

theorem yields_log (u : Session) (level : Level) (text : String) : u.Yields (Procedure.log level text) () :=
  fun _ => runs_log ⟨rfl, rfl⟩

theorem yields_each_cons {items : List γ} {item : γ} {f : γ → Procedure Unit α} {a : α} {as : List α}
    (h : u.Yields (f item) a) (hs : u.Yields (each items f) as) : u.Yields (each (item :: items) f) (a :: as) :=
  h.bind (hs.bind (yields_pure u _))

theorem yields_wordValue {handle : WordHandle} {value : UInt32} (h : u.slots.word? handle = some value) :
    u.Yields (Procedure.wordValue handle) value :=
  fun _ => runs_wordValue value h ⟨rfl, rfl⟩

theorem yields_blockValue {handle : BlockHandle} {values : List UInt32} (h : u.slots.block? handle = some values) :
    u.Yields (Procedure.blockValue handle) values :=
  fun _ => runs_blockValue values h ⟨rfl, rfl⟩

end Session

/-! ## Gathering -/

namespace Session

variable {s t : Session} {Φ Ψ : Session → Prop} {op : Pending}

/-- The operations in the batch name registers of the device and wait for different slots, all of which have been given
out. -/
structure WaitsApart (s : Session) : Prop where
  admits : ∀ op ∈ s.batch.toList, s.device.registers.admits op.access = true
  given : ∀ n ∈ slotsOf s.batch.toList, n < s.slots.next
  nodup : (slotsOf s.batch.toList).Nodup

theorem Clear.waitsApart (h : s.Clear) : s.WaitsApart := by
  have hbatch : s.batch = #[] := h
  constructor <;> simp [hbatch, slotsOf]

/-- An operation with a new slot does not come into the way of those that wait. -/
theorem WaitsApart.enqueue (h : s.WaitsApart) (hop : s.device.registers.admits op.access = true)
    (hslot : op.slot? = some s.slots.next) : (s.bump.enqueue op).WaitsApart := by
  have hslots : slotsOf (s.bump.enqueue op).batch.toList = slotsOf s.batch.toList ++ [s.slots.next] := by
    rw [slotsOf_enqueue, hslot]
    rfl
  refine ⟨fun x hx => ?_, fun n hn => ?_, ?_⟩
  · rw [toList_batch_enqueue] at hx
    rcases List.mem_append.mp hx with hx | hx
    · exact h.admits x hx
    · exact List.mem_singleton.mp hx ▸ hop
  · show n < s.slots.next + 1
    rw [hslots] at hn
    rcases List.mem_append.mp hn with hn | hn
    · exact Nat.lt_succ_of_lt (h.given n hn)
    · exact List.mem_singleton.mp hn ▸ Nat.lt_succ_self _
  · rw [hslots]
    refine List.nodup_append.mpr ⟨h.nodup, by simp, fun n hn m hm heq => ?_⟩
    exact Nat.lt_irrefl _ (List.mem_singleton.mp hm ▸ heq ▸ h.given n hn)

/-- Since `s` operations that only look have been queued, no more.  What they find makes `Φ` true of a session whose
slots show it. -/
structure Gathers (s t : Session) (Φ : Session → Prop) : Prop where
  device : t.device = s.device
  passes : s.Passes t 0
  apart : t.WaitsApart
  looks : ∀ op ∈ t.batch.toList, s.device.Looks op
  found : ∀ u : Session, (∀ op ∈ t.batch.toList, u.slots.Shows s.device op) → Φ u

theorem Clear.gathers (h : s.Clear) : s.Gathers s fun _ => True :=
  ⟨rfl, .refl s, h.waitsApart, by simp [show s.batch = #[] from h], fun _ _ => trivial⟩

theorem Gathers.mono (h : s.Gathers t Φ) (hΨ : ∀ u, Φ u → Ψ u) : s.Gathers t Ψ :=
  ⟨h.device, h.passes, h.apart, h.looks, fun u hu => hΨ u (h.found u hu)⟩

theorem Gathers.enqueue (h : s.Gathers t Φ) (hop : t.device.registers.admits op.access = true)
    (hslot : op.slot? = some t.slots.next) (hlooks : s.device.Looks op)
    (hΨ : ∀ u : Session, u.slots.Shows s.device op → Ψ u) : s.Gathers (t.bump.enqueue op) fun u => Φ u ∧ Ψ u := by
  have hbatch : (t.bump.enqueue op).batch.toList = t.batch.toList ++ [op] := toList_batch_enqueue _ _
  refine ⟨h.device, h.passes.bump.enqueue op, h.apart.enqueue hop hslot, fun x hx => ?_, fun u hu => ?_⟩
  · rw [hbatch] at hx
    rcases List.mem_append.mp hx with hx | hx
    · exact h.looks x hx
    · exact List.mem_singleton.mp hx ▸ hlooks
  · rw [hbatch] at hu
    exact ⟨h.found u fun x hx => hu x (List.mem_append_left _ hx), hΨ u (hu op (by simp))⟩

end Session

/-! ## Queueing -/

namespace Procedure

variable {d : Device} {α β γ : Type} {Φ : β → Session → Prop} {Ψ : γ → Session → Prop} {path : NodePath}

/-- On `d` the procedure succeeds and queues operations that only look.  Its result satisfies `Φ` in every session
whose slots show what these operations find. -/
def Queueing (d : Device) (p : Procedure Unit β) (Φ : β → Session → Prop) : Prop :=
  ∀ (now : UInt64) (s t : Session) (before : Session → Prop), s.device = d → s.Gathers t before →
    Runs now p t (fun b u _ => s.Gathers u fun v => before v ∧ Φ b v) fun _ _ _ => False

theorem queueing_pure {b : β} (h : ∀ u, Φ b u) : Queueing d (pure b) Φ := fun _ _ _ _ _ ht =>
  runs_pure (ht.mono fun u hu => ⟨hu, h u⟩)

/-- **Sequences**: what the second part returns may rely on what the first has queued. -/
theorem queueing_bind {p : Procedure Unit β} {f : β → Procedure Unit γ} (hp : Queueing d p Φ)
    (hf : ∀ b, Queueing d (f b) fun c u => Φ b u → Ψ c u) : Queueing d (p >>= f) Ψ := by
  intro now s t before hd ht
  refine runs_bind ((hp now s t before hd ht).mono (fun b u _ hu => ?_) fun _ _ _ hno => hno)
  refine (hf b now s u _ hd hu).mono (fun c v _ hv => ?_) fun _ _ _ hno => hno
  exact hv.mono fun w hw => ⟨hw.1.1, hw.2 hw.1.2⟩

theorem Queueing.mono {p : Procedure Unit β} {Φ' : β → Session → Prop} (hp : Queueing d p Φ)
    (h : ∀ b u, Φ b u → Φ' b u) : Queueing d p Φ' := fun now s t before hd ht =>
  (hp now s t before hd ht).mono (fun b _ _ hu => hu.mono fun v hv => ⟨hv.1, h b v hv.2⟩) fun _ _ _ hno => hno

/-- A word that is there. -/
theorem queueing_read {value : UInt32} (hv : d.word? path = some value) :
    Queueing d (read path) fun handle u => u.Yields (wordValue handle) value := by
  rintro now s t before rfl ht
  have hp : t.device.registers.words.contains path = true := by
    rw [Std.ExtTreeMap.contains_eq_isSome_getElem?, ht.device]
    exact Option.isSome_of_eq_some hv
  refine runs_read hp (ht.enqueue hp rfl (Device.looks_read _ _) fun u hshows => ?_)
  obtain ⟨found, hfound, hslot⟩ := hshows
  obtain rfl : value = found := Option.some.inj (hv.symm.trans hfound)
  exact Session.yields_wordValue hslot

/-- A block that is there and is no queue. -/
theorem queueing_readBlock {words : Nat} (hp : d.registers.blocks.contains path = true)
    (hq : d.registers.fifos[path]? = none) :
    Queueing d (readBlock path words) fun handle u =>
      u.Yields (blockValue handle) (Device.resize words ((d.block? path).getD [])) := by
  rintro now s t before rfl ht
  have hblock : t.device.registers.isBlock path = true := by
    rw [ht.device, Registers.isBlock, hp, Bool.true_or]
  refine runs_readBlock hblock (ht.enqueue hblock rfl (Device.looks_readBlock hq) fun u hshows => ?_)
  have hslot : u.slots.block? (t.slots.blockHandle path) = some (s.device.contents path words) := hshows
  rw [Device.contents, hq] at hslot
  exact Session.yields_blockValue hslot

/-- What is known without a dispatch. -/
theorem queueing_bind_known {p : Procedure Unit β} {f : β → Procedure Unit γ} {b : β}
    (hp : ∀ s : Session, s.device = d → s.Yields p b) (hf : Queueing d (f b) Ψ) : Queueing d (p >>= f) Ψ := by
  intro now s t before hd ht
  refine runs_bind ((hp t (ht.device.trans hd) now).mono ?_ fun _ _ _ hno => hno)
  rintro b u _ ⟨rfl, rfl⟩
  exact (hf now s u before hd ht).mono (fun _ _ _ h => h) fun _ _ _ hno => hno

theorem yields_subNodes {s : Session} (hnode : s.device.registers.hasNode path = true) :
    s.Yields (subNodes path) (s.device.registers.childNames path) := by
  have hanswer : s.answer (.subNodes path) = .ok (s.device.registers.childNames path) s := by
    simp only [Session.answer, Session.subNodes, Session.hasNode, hnode, if_true]
    rfl
  exact fun _ => runs_request_of_ok hanswer ⟨rfl, rfl⟩

/-- **Many reads**: what is queued for each item is there for each. -/
theorem queueing_each {items : List β} {f : β → Procedure Unit γ} {g : γ → Procedure Unit α} {v : β → α}
    (h : ∀ b ∈ items, Queueing d (f b) fun c u => u.Yields (g c) (v b)) :
    Queueing d (each items f) fun cs u => u.Yields (each cs g) (items.map v) := by
  induction items with
  | nil => exact queueing_pure fun u => Session.yields_pure u []
  | cons b items ih =>
    refine queueing_bind (h b List.mem_cons_self) fun c => ?_
    refine queueing_bind (ih fun b' hb' => h b' (List.mem_cons_of_mem b hb')) fun cs => ?_
    exact queueing_pure fun u hrest hfirst => Session.yields_each_cons hfirst hrest

/-- All registers of a group, if each name below it is that of a word. -/
theorem queueing_group (hnode : d.registers.hasNode path = true) (hwords : d.registers.FlatAt path) :
    Queueing d (RegisterGroup.read path) fun handles u => u.Yields (RegisterGroup.collect handles) (d.dump path) := by
  have hone : ∀ name ∈ d.registers.childNames path, Queueing d (do
      let handle ← read (path.child name)
      return (name, handle)) fun handle u => u.Yields (do
        let value ← wordValue handle.2
        return (handle.1, value)) (name, (d.word? (path.child name)).getD 0) := by
    intro name hname
    have hword := Device.word?_of_contains (hwords name hname)
    refine queueing_bind (queueing_read hword) fun handle => queueing_pure fun u hyields => ?_
    exact hyields.map fun value => (name, value)
  unfold RegisterGroup.read
  refine queueing_bind_known (fun s hs => hs ▸ yields_subNodes (hs ▸ hnode)) ?_
  exact (queueing_each hone).mono fun handles u hyields => hyields.map fun entries =>
    Std.ExtTreeMap.ofList entries compare

/-! ## Dispatching -/

end Procedure

namespace Session

open Procedure

variable {s t : Session} {α β : Type} {Φ : Session → Prop} {a : α}

/-- From `t` on, `p` has the result `a` after one dispatch, with nothing queued and the device as it was in `s`; or the
dispatch is refused. -/
def ReadsOut (s t : Session) (p : Procedure Unit α) (a : α) : Prop :=
  ∀ now, Runs now p t (fun b u _ => b = a ∧ u.Clear ∧ u.device = s.device ∧ s.Passes u 1)
    fun e u _ => u.Clear ∧ u.device = s.device ∧ s.RefusedAt 1 e ∧ u.JustRefused e

/-- More can be gathered before the dispatch. -/
theorem Gathers.readsOut_bind {p : Procedure Unit β} {k : β → Procedure Unit α} {Ψ : β → Session → Prop}
    (ht : s.Gathers t Φ) (hp : Queueing s.device p Ψ)
    (hk : ∀ b u, s.Gathers u (fun v => Φ v ∧ Ψ b v) → s.ReadsOut u (k b) a) : s.ReadsOut t (p >>= k) a := by
  intro now
  refine runs_bind ((hp now s t Φ rfl ht).mono (fun b u _ hu => ?_) fun _ _ _ hno => hno.elim)
  exact (hk b u hu now).mono (fun _ _ _ h => h) fun _ _ _ h => h

/-- **One batch**: the dispatch of what has been gathered serves it, and then the values can be taken; the device is as
before. -/
theorem Gathers.readsOut_dispatch {k : Unit → Procedure Unit α} (ht : s.Gathers t Φ)
    (hk : ∀ u, Φ u → u.Yields (k ()) a) : s.ReadsOut t (Procedure.dispatch >>= k) a := by
  intro now
  obtain ⟨hsuffices, hsame⟩ := Device.suffices_of_looks ht.looks
  rw [← ht.device] at hsuffices hsame
  obtain ⟨hres, hdev⟩ := Bench.serveAll_of_suffices (b := t.bench) hsuffices
  refine runs_bind (runs_counted t.batch.toList rfl ⟨hres, rfl⟩ (fun u hpasses hu hbench => ?_)
    fun e hrefused hends => ?_)
  · -- what the operations have found is in their slots
    have hdu : u.device = s.device := (((congrArg Bench.device hbench).trans hdev).trans hsame).trans ht.device
    have hshows : ∀ op ∈ t.batch.toList, u.slots.Shows s.device op := by
      intro op hop
      obtain ⟨before, after, hsplit⟩ := List.append_of_mem hop
      have hlookBefore : ∀ x ∈ before, s.device.Looks x := fun x hx =>
        ht.looks x (hsplit ▸ List.mem_append_left _ hx)
      have hfound := Bench.shows_serveAll (b := t.bench) ht.apart.admits ht.apart.nodup hsuffices hsplit
      rw [show t.bench.device = s.device from ht.device, (Device.suffices_of_looks hlookBefore).2] at hfound
      rw [show u.slots = _ from congrArg Bench.slots hbench]
      exact hfound
    refine (hk u (ht.found u hshows) now).mono ?_ fun _ _ _ hno => hno.elim
    rintro b v _ ⟨rfl, rfl⟩
    exact ⟨rfl, hu, hdu, ht.passes.trans hpasses⟩
  · exact ⟨rfl, ht.device, ht.passes.refusedAt hrefused, hends.justRefused⟩

end Session

end TimingFleet

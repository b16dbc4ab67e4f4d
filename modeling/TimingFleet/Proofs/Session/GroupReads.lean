import TimingFleet.Proofs.Device.Settings
import TimingFleet.Proofs.Session.Dispatch
import TimingFleet.Proofs.Session.Fetching
import TimingFleet.Proofs.Session.Lifetime
import TimingFleet.Proofs.Text.Bytes

/-!
# Reading a group into any batch

A group is read by the names one part below its node.  The reads are queued behind whatever waits, and the handles get
their values with the dispatch of that batch.

* `Registers.Gap r text c`: `c` is the first part below `text` of the name of a word, but no word itself.
* `Text.Least P c`: `c` is by its bytes the least text with the property `P`.
* `Session.GroupQueued u path names handles t`: since `u` the reads of these names have been queued; `t` is the session
  then.
* `Session.GroupWaits`, `Session.GroupServed`: what the handles of a group give before and after their dispatch.

Main statement: what a group read and its handles come to, told by the texts of the names (`readGroup_account`).
-/

namespace TimingFleet

open Text

/-- By its bytes `c` is the least text with the property. -/
def Text.Least (P : String → Prop) (c : String) : Prop := P c ∧ ∀ other, P other → bytes c ≤ bytes other

/-- The name of a word goes on after `text` and a dot with the part `c`, at which there is no word. -/
def Registers.Gap (r : Registers) (text c : String) : Prop :=
  r.Component text c ∧ ¬ r.WordNamed (text ++ "." ++ c)

/-! ## Names in order -/

theorem Text.compare_eq_lt {text other : String} : compare text other = .lt ↔ text < other := compareOfLessAndEq_eq_lt

namespace Registers

variable {r : Registers} {path : NodePath}

/-- The names one part below a node are in ascending order. -/
theorem pairwise_childNames (r : Registers) (path : NodePath) : (r.childNames path).Pairwise (· < ·) :=
  Std.ExtTreeSet.ordered_toList.imp Text.compare_eq_lt.mp

end Registers

/-- What comes first in an ascending list of those it is about is the least of them. -/
theorem Text.least_of_split {P Q : String → Prop} {names before after : List String} {c : String}
    (hnames : names.Pairwise (· < ·)) (hP : ∀ name, P name ↔ name ∈ names ∧ Q name)
    (hsplit : names = before ++ c :: after) (hbefore : ∀ name ∈ before, ¬ Q name) (hc : Q c) : Least P c := by
  subst hsplit
  refine ⟨(hP c).mpr ⟨by simp, hc⟩, fun other hother hlt => ?_⟩
  obtain ⟨hmem, hQ⟩ := (hP other).mp hother
  have hafter := (List.pairwise_cons.mp (List.pairwise_append.mp hnames).2.1).1
  rcases List.mem_append.mp hmem with hmem | hmem
  · exact hbefore other hmem hQ
  rcases List.mem_cons.mp hmem with rfl | hmem
  · exact List.lt_irrefl _ hlt
  · exact List.lt_asymm (bytes_lt_iff.mpr (hafter other hmem)) hlt

/-! ## Queueing the reads -/

/-- Since `u` a read has been queued for each of the names one part below `path`; `t` is the session then. -/
structure Session.GroupQueued (u : Session) (path : NodePath) (names : List String)
    (handles : List (String × WordHandle)) (t : Session) : Prop where
  names : handles.map Prod.fst = names
  paths : ∀ x ∈ handles, x.2.path = path.child x.1
  device : t.device = u.device
  batch : t.batch.toList = u.batch.toList ++ handles.map fun x => .read x.2

/-- The first name at which there is no word. -/
def Registers.FirstMissing (r : Registers) (path : NodePath) (names : List String) (name : String) : Prop :=
  ∃ before after, names = before ++ name :: after ∧
    (∀ other ∈ before, r.words.contains (path.child other) = true) ∧ r.words.contains (path.child name) = false

theorem Registers.FirstMissing.cons {r : Registers} {path : NodePath} {names : List String} {name first : String}
    (h : r.FirstMissing path names name) (hfirst : r.words.contains (path.child first) = true) :
    r.FirstMissing path (first :: names) name := by
  obtain ⟨before, after, rfl, hbefore, hname⟩ := h
  exact ⟨first :: before, after, rfl, List.forall_mem_cons.mpr ⟨hfirst, hbefore⟩, hname⟩

namespace Procedure

open Session

variable {now : UInt64} {u : Session} {path : NodePath}

/-- A word that is missing. -/
theorem runs_read_missing {Q : WordHandle → Session → Trace Unit Session → Prop}
    {E : Error → Session → Trace Unit Session → Prop} (hp : u.device.registers.words.contains path = false)
    (h : E (.nodeNotFound u.device.id path.toString) u [(u, (), .read path)]) : Runs now (read path) u Q E := by
  have hanswer : u.answer (.read path) = u.missing path := by simp [Session.answer, Session.read, hp]
  refine runs_request (fun a ha => ?_) fun e he => ?_
  · simp only [Stations.answer, hanswer] at ha
    cases ha
  · simp only [Stations.answer, hanswer] at he ⊢
    cases he
    exact h

/-- **Reads of several words**: all are queued, or the first that is missing is named. -/
theorem runs_readNames (names : List String) (u : Session) :
    Runs now (each names fun name => do
      let handle ← read (path.child name)
      return (name, handle)) u
      (fun handles t _ => (∀ name ∈ names, u.device.registers.words.contains (path.child name) = true) ∧
        u.GroupQueued path names handles t)
      fun e _ _ => ∃ name, u.device.registers.FirstMissing path names name ∧
        e = .nodeNotFound u.device.id (path.child name).toString := by
  induction names generalizing u with
  | nil => exact runs_pure ⟨by simp, rfl, by simp, rfl, by simp⟩
  | cons name names ih =>
    cases hname : u.device.registers.words.contains (path.child name) with
    | false =>
      refine runs_bind (runs_bind (runs_read_missing hname ?_))
      exact ⟨name, ⟨[], names, rfl, by simp, hname⟩, rfl⟩
    | true =>
      refine runs_bind (runs_bind (runs_read hname (runs_pure (runs_bind ((ih _).mono ?_ ?_)))))
      · rintro handles t _ ⟨hwords, hnames, hpaths, hdev, hbatch⟩
        refine runs_pure ⟨List.forall_mem_cons.mpr ⟨hname, hwords⟩, ?_, ?_, hdev, ?_⟩
        · rw [List.map_cons, hnames]
        · exact List.forall_mem_cons.mpr ⟨rfl, hpaths⟩
        · rw [hbatch]
          simp
      · rintro e t _ ⟨other, hother, he⟩
        exact ⟨other, hother.cons hname, he⟩

/-- **A group read** fails if there is no such node, or at the first name below it that is not that of a word. -/
theorem runs_readGroup (now : UInt64) (path : NodePath) (u : Session) :
    Runs now (RegisterGroup.read path) u
      (fun handles t _ => u.device.registers.hasNode path = true ∧ u.device.registers.FlatAt path ∧
        u.GroupQueued path (u.device.registers.childNames path) handles t)
      fun e _ _ => u.device.registers.hasNode path = false ∧ e = .nodeNotFound u.device.id path.toString ∨
        u.device.registers.hasNode path = true ∧ ∃ name,
          u.device.registers.FirstMissing path (u.device.registers.childNames path) name ∧
            e = .nodeNotFound u.device.id (path.child name).toString := by
  unfold RegisterGroup.read
  cases hnode : u.device.registers.hasNode path with
  | false =>
    have hanswer : (u.answer (.subNodes path)).result = .error (.nodeNotFound u.device.id path.toString) := by
      simp [Session.answer, Session.subNodes, Session.hasNode, hnode]
    refine runs_bind (runs_request (fun a ha => ?_) fun e he => ?_)
    · cases hanswer.symm.trans ha
    · exact Or.inl ⟨rfl, (Except.error.inj (hanswer.symm.trans he)).symm⟩
  | true =>
    refine runs_bind ((yields_subNodes hnode now).mono ?_ fun _ _ _ hno => hno.elim)
    rintro names t _ ⟨rfl, rfl⟩
    refine (runs_readNames _ t).mono ?_ ?_
    · rintro handles v _ ⟨hwords, hqueued⟩
      exact ⟨rfl, hwords, hqueued⟩
    · rintro e v _ hmissing
      exact Or.inr ⟨rfl, hmissing⟩

end Procedure

/-! ## Taking the values -/

namespace Session

variable {u t v : Session} {path : NodePath} {names : List String} {handles : List (String × WordHandle)}

/-- Handles that all have their values. -/
theorem yields_collect (value : String → UInt32) (h : ∀ x ∈ handles, v.wordValue x.2 = .ok (value x.1)) :
    v.Yields (RegisterGroup.collect handles)
      (Std.ExtTreeMap.ofList ((handles.map Prod.fst).map fun name => (name, value name)) compare) := by
  have hall : v.Yields (Procedure.each handles fun x => do
      let found ← Procedure.wordValue x.2
      return (x.1, found)) (handles.map fun x => (x.1, value x.1)) := by
    induction handles with
    | nil => exact yields_pure v []
    | cons x handles ih =>
      obtain ⟨hx, hrest⟩ := List.forall_mem_cons.mp h
      have hvalue : v.Yields (Procedure.wordValue x.2) (value x.1) := fun _ =>
        Procedure.runs_request_of_ok (r := .wordValue x.2) (by simp only [answer, hx]; rfl) ⟨rfl, rfl⟩
      exact yields_each_cons (hvalue.map fun found => (x.1, found)) (ih hrest)
  rw [List.map_map]
  exact hall.map fun entries => Std.ExtTreeMap.ofList entries compare

/-- The first handle that has no value is named. -/
theorem result_collect_of_error {x : String × WordHandle} {e : Error} (h : v.wordValue x.2 = .error e)
    (rest : List (String × WordHandle)) (now : UInt64) :
    ((RegisterGroup.collect (x :: rest)).run now v).result = .error e := by
  have hfails : Procedure.Runs now (RegisterGroup.collect (x :: rest)) v (fun _ _ _ => False) fun e' _ _ => e' = e := by
    refine Procedure.runs_bind (Procedure.runs_bind (Procedure.runs_bind (Procedure.runs_request (fun a ha => ?_) ?_)))
    · cases h.symm.trans ha
    · exact fun e' he' => Except.error.inj (he'.symm.trans h)
  obtain ⟨hok, herr⟩ := Procedure.runs_iff.mp hfails
  cases hresult : ((RegisterGroup.collect (x :: rest)).run now v).result with
  | ok table => exact (hok table hresult).elim
  | error e' => rw [herr e' hresult]

/-- Reads change nothing. -/
theorem foldl_after_reads (handles : List (String × WordHandle)) (d : Device) :
    (handles.map fun x => Pending.read x.2).foldl Device.after d = d := by
  induction handles with
  | nil => rfl
  | cons x handles ih => exact ih

namespace GroupQueued

variable (hq : u.GroupQueued path names handles t) (ht : t.Orderly) {waiting : List Request}

include hq ht

/-- Until the next dispatch the handles have no values. -/
theorem notDispatched (hw : .dispatch ∉ waiting) {x : String × WordHandle} (hx : x ∈ handles) :
    (t.follow waiting).wordValue x.2 = .error (.notDispatched (path.child x.1).toString) := by
  obtain ⟨-, behind, hbehind⟩ := follow_without_dispatch (s := t) hw
  have hop : .read x.2 ∈ (t.follow waiting).batch.toList := by
    rw [hbehind, hq.batch]
    exact List.mem_append_left _ (List.mem_append_right _ (List.mem_map_of_mem hx))
  rw [← hq.paths x hx]
  exact (ht.follow waiting).notDispatched hop x.2 rfl

/-- If that succeeds, they have for good what was there in their turn, when all had been done that waited before. -/
theorem shows (hw : .dispatch ∉ waiting) (hok : (t.follow waiting).dispatch.result = .ok ())
    {x : String × WordHandle} (hx : x ∈ handles) (later : List Request) :
    ∃ value, (u.batch.toList.foldl Device.after u.device).word? (path.child x.1) = some value ∧
      ((t.follow waiting).dispatch.state.follow later).wordValue x.2 = .ok value := by
  obtain ⟨hdev, behind, hbehind⟩ := follow_without_dispatch (s := t) hw
  obtain ⟨before, after, hsplit⟩ := List.append_of_mem hx
  have hbatch : (t.follow waiting).batch.toList = (u.batch.toList ++ before.map fun x => .read x.2) ++ .read x.2 ::
      ((after.map fun x => .read x.2) ++ behind) := by
    simp [hbehind, hq.batch, hsplit]
  obtain ⟨value, hvalue, hshown⟩ :=
    ((ht.follow waiting).dispatchCompleted_of_ok hok).served _ _ _ hbatch later
  rw [List.foldl_append, foldl_after_reads, hdev, hq.device, hq.paths x hx] at hvalue
  exact ⟨value, hvalue, hshown x.2 rfl⟩

end GroupQueued

end Session

/-! ## The account -/

/-- The handles of the group `text` wait in `v`: there is no component, or the first one is named as not dispatched. -/
structure Session.GroupWaits (v : Session) (r : Registers) (text : String) (handles : List (String × WordHandle)) :
    Prop where
  empty : (∀ c, ¬ r.Component text c) → ∀ now, ((RegisterGroup.collect handles).run now v).result = .ok ∅
  pending : (∃ c, r.Component text c) → ∃ c, Least (r.Component text) c ∧
    ∀ now, ((RegisterGroup.collect handles).run now v).result = .error (.notDispatched (text ++ "." ++ c))

/-- The handles of the group `text` give a table with one entry for each component, in ascending order; its value is
that which the word has on `d`. -/
structure Session.GroupServed (v : Session) (r : Registers) (text : String) (d : Device)
    (handles : List (String × WordHandle)) (table : RegisterDump) : Prop where
  collected : ∀ now, ((RegisterGroup.collect handles).run now v).result = .ok table
  ascending : table.keys.Pairwise fun c other => bytes c < bytes other
  components : ∀ c, table.contains c = true ↔ r.Component text c
  values : ∀ c, r.Component text c → table[c]? = d.word? (.ofString (text ++ "." ++ c))

namespace Registers

variable {r : Registers} {text c : String}

theorem Component.child_eq (h : r.Component text c) (htext : text ≠ "") :
    (NodePath.ofString text).child c = .ofString (text ++ "." ++ c) :=
  NodePath.child_ofString htext h.dot_not_mem

/-- A group is flat if there is a word at each of its components. -/
theorem Named.flatAt_iff (h : r.Named) (htext : text ≠ "") :
    r.FlatAt (.ofString text) ↔ ∀ c, r.Component text c → r.WordNamed (text ++ "." ++ c) := by
  refine forall_congr' fun c => ?_
  rw [h.mem_childNames_ofString]
  refine forall_congr' fun hc => ?_
  rw [hc.child_eq htext]
  rfl

/-- The first name at which there is no word is the least of them. -/
theorem Named.least_gap (h : r.Named) (htext : text ≠ "")
    (hc : r.FirstMissing (.ofString text) (r.childNames (.ofString text)) c) : Least (r.Gap text) c := by
  obtain ⟨before, after, hsplit, hbefore, hmissing⟩ := hc
  refine least_of_split (Q := fun name => r.words.contains ((NodePath.ofString text).child name) = false)
    (r.pairwise_childNames _) (fun name => ?_) hsplit (fun name hname => ?_) hmissing
  · rw [h.mem_childNames_ofString]
    refine and_congr_right fun hname => ?_
    rw [hname.child_eq htext, WordNamed, Bool.not_eq_true]
  · rw [hbefore name hname]
    exact Bool.noConfusion

/-- The first name is the least. -/
theorem Named.least_component {rest : List String} (h : r.Named) (hnames : r.childNames (.ofString text) = c :: rest) :
    Least (r.Component text) c :=
  have hsplit : r.childNames (.ofString text) = [] ++ c :: rest := hnames
  least_of_split (Q := fun _ => True) (r.pairwise_childNames (.ofString text))
    (fun name => by rw [h.mem_childNames_ofString, and_true]) hsplit (by simp) trivial

end Registers

namespace Session

variable {s u t : Session} {text : String} {handles : List (String × WordHandle)} {waiting : List Request}

namespace GroupQueued

variable (hq : u.GroupQueued (.ofString text) (u.device.registers.childNames (.ofString text)) handles t)
  (ht : t.Orderly) (hr : u.device.registers.Named) (hw : .dispatch ∉ waiting)

include hq ht hr hw

/-- **Until the dispatch.** -/
theorem groupWaits (htext : text ≠ "") : (t.follow waiting).GroupWaits u.device.registers text handles := by
  constructor
  · intro hnone now
    have hnil : u.device.registers.childNames (.ofString text) = [] :=
      List.eq_nil_iff_forall_not_mem.mpr fun c hc => hnone c (hr.mem_childNames_ofString.mp hc)
    obtain rfl : handles = [] := List.map_eq_nil_iff.mp (hq.names.trans hnil)
    rfl
  · rintro ⟨c, hc⟩
    cases handles with
    | nil =>
      have hmem := hr.mem_childNames_ofString.mpr hc
      rw [← hq.names] at hmem
      exact absurd hmem List.not_mem_nil
    | cons x rest =>
      have hleast : Least (u.device.registers.Component text) x.1 := hr.least_component hq.names.symm
      refine ⟨x.1, hleast, fun now => result_collect_of_error ?_ rest now⟩
      rw [hq.notDispatched ht hw List.mem_cons_self, hleast.1.child_eq htext, NodePath.toString_ofString]

/-- **From the dispatch on**, if it succeeds. -/
theorem groupServed (htext : text ≠ "") (hok : (t.follow waiting).dispatch.result = .ok ()) :
    ∃ table, ∀ later, ((t.follow waiting).dispatch.state.follow later).GroupServed u.device.registers text
      (u.batch.toList.foldl Device.after u.device) handles table := by
  let d := u.batch.toList.foldl Device.after u.device
  let value : String → UInt32 := fun name => (d.word? ((NodePath.ofString text).child name)).getD 0
  refine ⟨Std.ExtTreeMap.ofList ((handles.map Prod.fst).map fun name => (name, value name)) compare, fun later => ?_⟩
  have hmem : ∀ c, c ∈ handles.map Prod.fst ↔ u.device.registers.Component text c := fun c => by
    rw [hq.names, hr.mem_childNames_ofString]
  refine ⟨fun now => ?_, ?_, fun c => ?_, fun c hc => ?_⟩
  · have hvalues : ∀ x ∈ handles, ((t.follow waiting).dispatch.state.follow later).wordValue x.2 = .ok (value x.1) := by
      intro x hx
      obtain ⟨found, hfound, hvalue⟩ := hq.shows ht hw hok hx later
      rw [hvalue, show value x.1 = found from congrArg (Option.getD · 0) hfound]
    obtain ⟨table, hresult, rfl, -⟩ := (yields_collect value hvalues now).succeeds
    exact hresult
  · exact Std.ExtTreeMap.ordered_keys.imp fun h => bytes_lt_iff.mpr (compare_eq_lt.mp h)
  · rw [contains_ofList_map, hmem]
  · obtain ⟨x, hx, rfl⟩ := List.mem_map.mp ((hmem c).mpr hc)
    obtain ⟨found, hfound, -⟩ := hq.shows ht hw hok hx later
    rw [getElem?_ofList_map, if_pos ((hmem _).mpr hc), ← hc.child_eq htext, hfound]
    exact congrArg some (congrArg (Option.getD · 0) hfound)

end GroupQueued

/-- **What a group read comes to**, in a run from a fresh session on a device whose names are any texts, as those of every
device that has been set up are (`Device.Configured.named`).  It succeeds if the group is there and each of its
components is that of a word; otherwise the error names the group, or the first component that is not.  The handles have
no values until the next dispatch; if that succeeds, they give a table of the components, with the values that were there
when all had been done that was queued before the group. -/
theorem readGroup_account (hs : s.Fresh) (hnamed : s.device.registers.Named) (htext : text ≠ "")
    (before : List Request) (now : UInt64) :
    let u := s.follow before
    let r := u.device.registers
    let o := (RegisterGroup.read (.ofString text)).run now u
    ((∃ handles, o.result = .ok handles) ↔
      r.NodeNamed text ∧ ∀ c, r.Component text c → r.WordNamed (text ++ "." ++ c)) ∧
    (∀ e, o.result = .error e →
      ¬ r.NodeNamed text ∧ e = .nodeNotFound u.device.id text ∨
      r.NodeNamed text ∧ ∃ c, Least (r.Gap text) c ∧ e = .nodeNotFound u.device.id (text ++ "." ++ c)) ∧
    ∀ handles, o.result = .ok handles → ∀ waiting, .dispatch ∉ waiting →
      (o.state.follow waiting).GroupWaits r text handles ∧
      ((o.state.follow waiting).dispatch.result = .ok () → ∃ table, ∀ later,
        ((o.state.follow waiting).dispatch.state.follow later).GroupServed r text
          (u.batch.toList.foldl Device.after u.device) handles table) := by
  intro u r o
  have hr : r.Named := named_follow hs.orderly hnamed before
  have ht : o.state.Orderly := (hs.orderly.follow before).run now _
  obtain ⟨hok, herr⟩ := Procedure.runs_iff.mp (Procedure.runs_readGroup now (.ofString text) u)
  have hfails : ∀ e, o.result = .error e →
      ¬ r.NodeNamed text ∧ e = .nodeNotFound u.device.id text ∨
      r.NodeNamed text ∧ ∃ c, Least (r.Gap text) c ∧ e = .nodeNotFound u.device.id (text ++ "." ++ c) := by
    intro e he
    rcases herr e he with ⟨hnode, rfl⟩ | ⟨hnode, c, hc, rfl⟩
    · refine Or.inl ⟨fun h => ?_, by rw [NodePath.toString_ofString]⟩
      cases hnode.symm.trans (hr.hasNode_ofString.mpr h)
    · have hleast := hr.least_gap htext hc
      refine Or.inr ⟨hr.hasNode_ofString.mp hnode, c, hleast, ?_⟩
      rw [hleast.1.1.child_eq htext, NodePath.toString_ofString]
  refine ⟨⟨?_, ?_⟩, hfails, fun handles hhandles waiting hw => ?_⟩
  · rintro ⟨handles, hhandles⟩
    obtain ⟨hnode, hflat, -⟩ := hok handles hhandles
    exact ⟨hr.hasNode_ofString.mp hnode, (hr.flatAt_iff htext).mp hflat⟩
  · rintro ⟨hnode, hall⟩
    cases hresult : o.result with
    | ok handles => exact ⟨handles, rfl⟩
    | error e =>
      rcases hfails e hresult with ⟨hno, -⟩ | ⟨-, c, ⟨⟨hc, hmissing⟩, -⟩, -⟩
      · exact absurd hnode hno
      · exact absurd (hall c hc) hmissing
  · obtain ⟨-, -, hqueued⟩ := hok handles hhandles
    exact ⟨hqueued.groupWaits ht hr hw htext, hqueued.groupServed ht hr hw htext⟩

/-- A client that sets the partition and reads the controls in the same batch finds the new partition, on an endpoint
that has one more control. -/
theorem controls_account :
    let s := ofDevice ((Device.endpoint "EPT" [0]).configure [.word "endpoint0.csr.ctrl.spare" 9])
    let u := s.follow [.write (.ofString "endpoint0.csr.ctrl.tgrp") 3]
    let o := (RegisterGroup.read (.ofString "endpoint0.csr.ctrl")).run 0 u
    o.state.dispatch.result = .ok () ∧ ∃ handles table, o.result = .ok handles ∧
      (∀ later, (o.state.dispatch.state.follow later).GroupServed u.device.registers "endpoint0.csr.ctrl"
        (u.batch.toList.foldl Device.after u.device) handles table) ∧
      table["tgrp"]? = some 3 ∧ table["spare"]? = some 9 := by
  intro s u o
  have hconfigured : s.device.Configured := .endpoint "EPT" [0] _
  have hdispatch : o.state.dispatch.result = .ok () := by
    refine dispatch_ok_iff.mpr ⟨by decide +kernel, ?_⟩
    exact (Bench.serveAll_of_suffices (b := o.state.bench) (by decide +kernel)).1
  obtain ⟨handles, hhandles⟩ := Outcome.exists_of_isOk (by decide +kernel : o.result.isOk = true)
  obtain ⟨-, -, hall⟩ := readGroup_account (s := s) ⟨rfl, rfl⟩ hconfigured.named (by decide : "endpoint0.csr.ctrl" ≠ "")
    [.write (.ofString "endpoint0.csr.ctrl.tgrp") 3] 0
  obtain ⟨table, htable⟩ := (hall handles hhandles [] List.not_mem_nil).2 hdispatch
  have hword : ∀ name ∈ ["tgrp", "spare"], u.device.registers.Component "endpoint0.csr.ctrl" name := by
    have hfound : ∀ name ∈ ["tgrp", "spare"], firstPart name = name ∧
        u.device.registers.words.contains (.ofString ("endpoint0.csr.ctrl" ++ "." ++ name)) = true := by
      decide +kernel
    exact fun name hname => ⟨name, (hfound name hname).2, (hfound name hname).1⟩
  refine ⟨hdispatch, handles, table, hhandles, htable, ?_, ?_⟩
  · rw [(htable []).values "tgrp" (hword "tgrp" (by simp))]
    decide +kernel
  · rw [(htable []).values "spare" (hword "spare" (by simp))]
    decide +kernel

end Session

end TimingFleet

import TimingFleet.Proofs.EndpointGroup.Resolve
import TimingFleet.Proofs.Session.Fetching

/-!
# What a group of endpoints reports

Versions and snapshots are read in one batch for the whole group.  The reports are those of the registers at that
moment (`Device.versions`, `Device.snapshot`), and the device is as before, whether the dispatch is served or refused.
For that the endpoints need their registers (`Registers.Equipped`), and may have further ones.
-/

namespace TimingFleet

open EndpointNode Procedure

/-! ## Sessions on endpoint devices -/

/-- The session is open to an endpoint device with the given endpoints, and nothing is queued. -/
structure Session.OnEndpoints (s : Session) (endpoints : List UInt32) : Prop where
  clear : s.Clear
  orderly : s.Orderly
  kind : s.device.kind = .endpoint
  laid : s.device.registers.Laid endpoints

namespace Session.OnEndpoints

variable {s t : Session} {endpoints : List UInt32} {now : UInt64} {α : Type}

/-- A run that leaves nothing queued and no other registers ends in such a session again. -/
theorem runs (hs : s.OnEndpoints endpoints) {p : Procedure Unit α} {Q : α → Session → Prop} {E : Error → Session → Prop}
    (h : Runs now p s
      (fun a t _ => (t.Clear ∧ s.device.registers.SameNodes t.device.registers) ∧ Q a t)
      fun e t _ => (t.Clear ∧ s.device.registers.SameNodes t.device.registers) ∧ E e t) :
    Runs now p s (fun a t _ => t.OnEndpoints endpoints ∧ Q a t) fun e t _ => t.OnEndpoints endpoints ∧ E e t := by
  have horderly := hs.orderly.run now p
  have hkind := (s.evolves_run now p).kind.trans hs.kind
  refine (h.and (runs_const_iff (R := fun t _ => t.Orderly ∧ t.device.kind = .endpoint).mpr ⟨horderly, hkind⟩)).mono ?_ ?_
  · rintro a t _ ⟨⟨⟨hclear, hnodes⟩, hq⟩, ho, hk⟩
    exact ⟨⟨hclear, ho, hk, hs.laid.sameNodes hnodes⟩, hq⟩
  · rintro e t _ ⟨⟨⟨hclear, hnodes⟩, he⟩, ho, hk⟩
    exact ⟨⟨hclear, ho, hk, hs.laid.sameNodes hnodes⟩, he⟩

/-- The same for a run that leaves the device as it is. -/
theorem runs_same (hs : s.OnEndpoints endpoints) {p : Procedure Unit α} {Q : α → Session → Prop}
    {E : Error → Session → Prop}
    (h : Runs now p s (fun a t _ => t.Clear ∧ t.device = s.device ∧ Q a t)
      fun e t _ => t.Clear ∧ t.device = s.device ∧ E e t) :
    Runs now p s (fun a t _ => t.OnEndpoints endpoints ∧ t.device = s.device ∧ Q a t)
      fun e t _ => t.OnEndpoints endpoints ∧ t.device = s.device ∧ E e t := by
  refine hs.runs (h.mono ?_ ?_)
  · rintro a t _ ⟨hclear, hdev, hq⟩
    exact ⟨⟨hclear, hdev ▸ .refl _⟩, hdev, hq⟩
  · rintro e t _ ⟨hclear, hdev, he⟩
    exact ⟨⟨hclear, hdev ▸ .refl _⟩, hdev, he⟩

end Session.OnEndpoints

/-! ## Reports as functions of the registers -/

namespace Device

/-- The version of an endpoint. -/
def version (d : Device) (e : UInt32) : UInt32 := (d.word? ((base e).join EndpointNode.version)).getD 0

/-- The versions of some endpoints. -/
def versions (d : Device) (ids : List UInt32) : VersionReport :=
  ⟨Std.ExtTreeMap.ofList (ids.map fun e => (e, d.version e)) compare⟩

/-- What the registers of an endpoint show. -/
def endpointSnapshot (d : Device) (e : UInt32) : EndpointSnapshot where
  timestamp := Ticks.ofWords (resize 2 ((d.block? ((base e).join EndpointNode.timestamp)).getD []))
  eventCounter := (d.word? ((base e).join EndpointNode.eventCounter)).getD 0
  bufferCount := (d.word? ((base e).join EndpointNode.bufferCount)).getD 0
  control := d.dump ((base e).join EndpointNode.control)
  status := d.dump ((base e).join EndpointNode.status)
  counters := resize counterCount ((d.block? ((base e).join EndpointNode.counters)).getD [])

/-- What the registers of some endpoints show. -/
def snapshot (d : Device) (ids : List UInt32) : Snapshot :=
  Std.ExtTreeMap.ofList (ids.map fun e => (e, d.endpointSnapshot e)) compare

end Device

/-! ## Endpoints with their registers -/

/-- The endpoint has the words and blocks of an endpoint, its blocks are no queues, and its groups have words only. -/
structure Registers.Equipped (r : Registers) (e : UInt32) : Prop where
  words : ∀ rel ∈ wordNodes, r.words.contains ((base e).join rel) = true
  blocks : ∀ rel ∈ blockNodes, r.blocks.contains ((base e).join rel) = true
  fifos : ∀ rel ∈ blockNodes, r.fifos[(base e).join rel]? = none
  groups : ∀ group ∈ groupNodes, r.FlatAt ((base e).join group)

namespace Registers

variable {r : Registers} {endpoints : List UInt32} {e : UInt32} {rel group : NodePath}

/-- The endpoints that the registers are laid out for have theirs. -/
theorem Laid.equipped (h : r.Laid endpoints) (he : e ∈ endpoints) : r.Equipped e where
  words _ hrel := h.contains_word he hrel
  blocks _ hrel := h.contains_block he hrel
  fifos _ hrel := h.fifo_eq_none hrel
  groups _ hgroup := flatAt_of_length (join_base_ne_root e _) fun _ => h.length_of_above_group hgroup

/-- The node of a group lies above its words. -/
theorem Equipped.hasNode (h : r.Equipped e) {flag : String} (hflag : ⟨group.parts ++ [flag]⟩ ∈ wordNodes) :
    r.hasNode ((base e).join group) = true := by
  refine hasNode_iff.mpr ⟨_, Or.inl (h.words _ hflag), Or.inr (NodePath.above_iff_prefix.mpr ?_)⟩
  rw [join_base, join_base, ← List.cons_append]
  exact ⟨List.prefix_append _ _, by simp⟩

end Registers

/-! ## Reading them -/

namespace EndpointGroup

variable {g : EndpointGroup} {s : Session} {endpoints : List UInt32} {now : UInt64} {d : Device} {e : UInt32}

theorem queueing_word (h : d.registers.Equipped e) {rel : NodePath} (hrel : rel ∈ wordNodes) :
    Queueing d (read (node e rel)) fun handle u =>
      u.Yields (wordValue handle) ((d.word? ((base e).join rel)).getD 0) :=
  queueing_read (Device.word?_of_contains (h.words rel hrel))

theorem queueing_block (h : d.registers.Equipped e) {rel : NodePath} (hrel : rel ∈ blockNodes) (words : Nat) :
    Queueing d (readBlock (node e rel) words) fun handle u =>
      u.Yields (blockValue handle) (Device.resize words ((d.block? ((base e).join rel)).getD [])) :=
  queueing_readBlock (h.blocks rel hrel) (h.fifos rel hrel)

/-- **Versions** are those of the moment. -/
theorem readsOut_readVersions (hs : s.Clear) (hg : ∀ e ∈ g.ids, s.device.registers.Equipped e) :
    s.ReadsOut s g.readVersions (s.device.versions g.ids) := by
  have hqueue : ∀ e ∈ g.ids, Queueing s.device (do
      let handle ← read (node e version)
      return (e, handle)) fun h u => u.Yields (do
        let value ← wordValue h.2
        return (h.1, value)) (e, s.device.version e) := by
    intro e he
    refine queueing_bind (queueing_word (hg e he) (by decide)) fun handle => ?_
    exact queueing_pure fun u hyields => hyields.map fun value => (e, value)
  refine hs.gathers.readsOut_bind (queueing_each hqueue) fun handles t ht => ht.readsOut_dispatch fun u hu => ?_
  refine hu.2.bind ?_
  dsimp only
  -- a warning of several versions changes nothing
  split_ifs
  · exact u.yields_pure _
  · exact (u.yields_log _ _).bind (u.yields_pure _)

/-- The snapshot of one endpoint is there once what is queued for it has been served. -/
theorem queueing_queueSnapshot (h : d.registers.Equipped e) :
    Queueing d (queueSnapshot e) fun handles u =>
      u.Yields (collectSnapshot handles) (e, d.endpointSnapshot e) := by
  have hcontrol : d.registers.hasNode (node e control) = true :=
    h.hasNode (by decide : ⟨control.parts ++ [partitionFlag]⟩ ∈ wordNodes)
  have hstatus : d.registers.hasNode (node e status) = true :=
    h.hasNode (by decide : ⟨status.parts ++ [stateFlag]⟩ ∈ wordNodes)
  unfold queueSnapshot
  refine queueing_bind (queueing_block h (by decide) 2) fun timestamp => ?_
  refine queueing_bind (queueing_word h (by decide)) fun eventCounter => ?_
  refine queueing_bind (queueing_word h (by decide)) fun bufferCount => ?_
  refine queueing_bind (queueing_group hcontrol (h.groups _ (by decide))) fun controls => ?_
  refine queueing_bind (queueing_group hstatus (h.groups _ (by decide))) fun flags => ?_
  refine queueing_bind (queueing_block h (by decide) counterCount) fun counters => ?_
  refine queueing_pure fun u hcounters hflags hcontrols hbuffer hevents htimestamp => ?_
  -- the values are taken in the order of the fields
  exact htimestamp.bind (hevents.bind (hbuffer.bind (hcontrols.bind (hflags.bind (hcounters.bind
    (Session.yields_pure u _))))))

/-- **Snapshots** are those of the moment, for all endpoints of the group. -/
theorem readsOut_snapshot (hs : s.Clear) (hg : ∀ e ∈ g.ids, s.device.registers.Equipped e) :
    s.ReadsOut s g.snapshot (s.device.snapshot g.ids) :=
  hs.gathers.readsOut_bind (queueing_each fun e he => queueing_queueSnapshot (hg e he)) fun _ _ ht =>
    ht.readsOut_dispatch fun u hu => hu.2.bind (u.yields_pure _)

/-! ## Reading them on endpoint devices -/

/-- What is read out in one batch leaves a session on an endpoint device one. -/
theorem runs_readsOut (hs : s.OnEndpoints endpoints) {α : Type} {p : Procedure Unit α} {a : α}
    (h : s.ReadsOut s p a) :
    Runs now p s (fun b t _ => t.OnEndpoints endpoints ∧ t.device = s.device ∧ b = a)
      fun err t _ => t.OnEndpoints endpoints ∧ t.device = s.device ∧ t.JustRefused err :=
  hs.runs_same ((h now).mono (fun _ _ _ ht => ⟨ht.2.1, ht.2.2.1, ht.1⟩) fun _ _ _ ht => ⟨ht.1, ht.2.1, ht.2.2.2⟩)

theorem runs_readVersions (hs : s.OnEndpoints endpoints) (hg : ∀ e ∈ g.ids, e ∈ endpoints) :
    Runs now g.readVersions s
      (fun report t _ => t.OnEndpoints endpoints ∧ t.device = s.device ∧ report = s.device.versions g.ids)
      fun err t _ => t.OnEndpoints endpoints ∧ t.device = s.device ∧ t.JustRefused err :=
  runs_readsOut hs (readsOut_readVersions hs.clear fun e he => hs.laid.equipped (hg e he))

theorem runs_snapshot (hs : s.OnEndpoints endpoints) (hg : ∀ e ∈ g.ids, e ∈ endpoints) :
    Runs now g.snapshot s
      (fun report t _ => t.OnEndpoints endpoints ∧ t.device = s.device ∧ report = s.device.snapshot g.ids)
      fun err t _ => t.OnEndpoints endpoints ∧ t.device = s.device ∧ t.JustRefused err :=
  runs_readsOut hs (readsOut_snapshot hs.clear fun e he => hs.laid.equipped (hg e he))

end EndpointGroup

end TimingFleet

import TimingFleet.Proofs.Board.Reports
import TimingFleet.Proofs.EndpointGroup.Reports
import TimingFleet.Proofs.Register.DesignIdText

/-!
# Reports are faithful

The operations that only read report the registers as they are, all of them and nothing else, and change nothing
(`Session.reads_faithfully`).  What a report shows is said without the functions that compute it:

* `Device.ShowsVersions`, `Device.ShowsSnapshot`: an entry for each endpoint of the group and no other, with the
  contents of its registers.
* `Device.ShowsGroup`: for each word directly below a node its value by name, and no other name.
* `Device.ShowsIdentity`, `Device.ShowsPll`, `Device.ShowsTime`: what a board shows.

`Session.Faithful s p Shows`: in the session `s` the operation `p` has a result that `Shows` is true of, after one
dispatch, and changes nothing.
-/

namespace TimingFleet

open Procedure

/-! ## Contents of blocks -/

/-- A block is read word by word, with zeros behind its end. -/
theorem Device.resize_eq_map (words : Nat) (block : List UInt32) :
    resize words block = (List.range words).map fun i => block.getD i 0 := by
  apply List.ext_getElem
  · simp only [resize, List.length_append, List.length_take, List.length_replicate, List.length_map, List.length_range]
    omega
  · intro i h₁ h₂
    have hi : i < words := by simpa using h₂
    simp only [resize, List.getElem_append, List.getElem_take, List.getElem_replicate, List.getElem_map,
      List.getElem_range, List.getD_eq_getElem?_getD, List.length_take]
    split_ifs with h
    · rw [List.getElem?_eq_getElem (by omega), Option.getD_some]
    · rw [List.getElem?_eq_none (by omega), Option.getD_none]

/-- The zeros behind a short design id are no characters of it. -/
theorem DesignId.decode_resize (words : Nat) (block : List UInt32) :
    decode (Device.resize words block) = decode (block.take words) := by
  have hzeros : ∀ n, (List.replicate n (0 : UInt32)).filter (· ≠ 0) = [] := fun n =>
    List.filter_eq_nil_iff.mpr fun word hword => by simp [List.eq_of_mem_replicate hword]
  refine decode_congr ?_
  rw [Device.resize, List.filter_append, hzeros, List.append_nil]

/-! ## What reports show -/

namespace Device

variable (d : Device)

/-- The table has each word directly below the node by its name, and no other entry. -/
def ShowsGroup (path : NodePath) (dump : RegisterDump) : Prop := ∀ name, dump[name]? = d.word? (path.child name)

/-- The time stamp is that of the first two words of the block, the low word first. -/
def ShowsTime (path : NodePath) (ticks : UInt64) : Prop :=
  ∃ block, d.block? path = some block ∧ ticks.toNat = (block.getD 0 0).toNat + UInt32.size * (block.getD 1 0).toNat

/-- The report has the version word of each of the endpoints, and no other entry. -/
structure ShowsVersions (ids : List UInt32) (report : VersionReport) : Prop where
  only : ∀ e, report.versions.contains e = true ↔ e ∈ ids
  shown : ∀ e v, report.versions[e]? = some v → d.word? ((EndpointNode.base e).join EndpointNode.version) = some v

/-- The report has the contents of the registers of the endpoint. -/
structure ShowsEndpoint (e : UInt32) (report : EndpointSnapshot) : Prop where
  timestamp : d.ShowsTime ((EndpointNode.base e).join EndpointNode.timestamp) report.timestamp
  eventCounter : d.word? ((EndpointNode.base e).join EndpointNode.eventCounter) = some report.eventCounter
  bufferCount : d.word? ((EndpointNode.base e).join EndpointNode.bufferCount) = some report.bufferCount
  control : d.ShowsGroup ((EndpointNode.base e).join EndpointNode.control) report.control
  status : d.ShowsGroup ((EndpointNode.base e).join EndpointNode.status) report.status
  counters : ∃ block, d.block? ((EndpointNode.base e).join EndpointNode.counters) = some block ∧
    report.counters = (List.range 16).map fun i => block.getD i 0

/-- The report has what each of the endpoints shows, and no other entry. -/
structure ShowsSnapshot (ids : List UInt32) (report : Snapshot) : Prop where
  only : ∀ e, report.contains e = true ↔ e ∈ ids
  shown : ∀ e x, report[e]? = some x → d.ShowsEndpoint e x

/-- The codes are those of the board. -/
structure ShowsIdentity (identity : BoardIdentity) : Prop where
  boardType : d.word? BoardNode.boardType = some identity.boardType
  carrierType : d.word? BoardNode.carrierType = some identity.carrierType
  designType : d.word? BoardNode.designType = some identity.designType
  version : d.word? BoardNode.version = some identity.version

/-- The report has the text in the first eight words of the design id, and both groups of flags. -/
structure ShowsPll (report : PllReport) : Prop where
  designId : ∃ block, d.block? BoardNode.pllDesignId = some block ∧ report.designId = DesignId.decode (block.take 8)
  status : d.ShowsGroup BoardNode.pllStatus report.status
  sticky : d.ShowsGroup BoardNode.pllSticky report.sticky

end Device

/-! ## The reports that are computed show this -/

namespace Device

variable {d : Device} {e : UInt32} {path : NodePath}

theorem showsTime (h : d.registers.blocks.contains path = true) :
    d.ShowsTime path (Ticks.ofWords ((d.block? path).getD [])) :=
  ⟨_, block?_of_contains h, Ticks.toNat_ofWords _⟩

theorem showsVersions {ids : List UInt32} (h : ∀ e ∈ ids, d.registers.Equipped e) :
    d.ShowsVersions ids (d.versions ids) where
  only := contains_ofList_map ids d.version
  shown e v hv := by
    obtain ⟨he, rfl⟩ := of_getElem?_ofList_map hv
    exact word?_of_contains ((h e he).words _ (by decide))

theorem showsEndpoint (h : d.registers.Equipped e) : d.ShowsEndpoint e (d.endpointSnapshot e) where
  timestamp := by
    rw [endpointSnapshot, Ticks.ofWords_resize]
    exact showsTime (h.blocks _ (by decide))
  eventCounter := word?_of_contains (h.words _ (by decide))
  bufferCount := word?_of_contains (h.words _ (by decide))
  control := getElem?_dump (h.groups _ (by decide)) (EndpointNode.join_base_ne_root e _)
  status := getElem?_dump (h.groups _ (by decide)) (EndpointNode.join_base_ne_root e _)
  counters := ⟨_, block?_of_contains (h.blocks _ (by decide)), resize_eq_map 16 _⟩

theorem showsSnapshot {ids : List UInt32} (h : ∀ e ∈ ids, d.registers.Equipped e) :
    d.ShowsSnapshot ids (d.snapshot ids) where
  only := contains_ofList_map ids d.endpointSnapshot
  shown e x hx := by
    obtain ⟨he, rfl⟩ := of_getElem?_ofList_map hx
    exact showsEndpoint (h e he)

theorem showsIdentity {role : BoardRole} (h : d.Plays role) : d.ShowsIdentity d.identity := by
  constructor
  all_goals exact word?_of_contains (h.word (by cases role <;> decide))

theorem showsPll {role : BoardRole} (h : d.Plays role)
    (hflat : ∀ group ∈ BoardNode.groupNodes, d.registers.FlatAt group) : d.ShowsPll d.pllReport where
  designId := ⟨_, block?_of_contains (h.block (by cases role <;> decide)), DesignId.decode_resize 8 _⟩
  status := getElem?_dump (hflat _ (by decide)) (by decide)
  sticky := getElem?_dump (hflat _ (by decide)) (by decide)

end Device

/-! ## Devices with all their registers -/

namespace EndpointNode

/-- The groups of word registers of some endpoints. -/
def groupsOf (endpoints : List UInt32) : List NodePath := endpoints.flatMap fun e => groupNodes.map (base e).join

end EndpointNode

/-- The simulated device for a role. -/
def BoardRole.simulated : BoardRole → String → Device
  | .overlord => Device.overlord
  | .fanout => Device.fanout

namespace Device.Stocked

variable {d : Device} {id : String}

/-- An endpoint device comes up with all its registers. -/
theorem endpoint (id : String) (endpoints groups) :
    (Device.endpoint id endpoints).Stocked groups (.endpoint id endpoints) := by
  have hlaid := Device.laid_endpoint id endpoints
  refine .refl fun path hp => ?_
  obtain ⟨e, he, rel, hrel, rfl⟩ := (hlaid.blocks path).mp hp
  rw [Std.ExtTreeMap.contains_eq_isSome_getElem?, hlaid.fifo_eq_none hrel]
  rfl

/-- A board comes up with all its registers. -/
theorem simulated (role : BoardRole) (id : String) (groups) : (role.simulated id).Stocked groups (role.simulated id) :=
  .refl fun _ _ => by cases role <;> rfl

/-- The endpoints of an endpoint device have their registers. -/
theorem equipped {endpoints : List UInt32} {e : UInt32}
    (h : (Device.endpoint id endpoints).Stocked (EndpointNode.groupsOf endpoints) d) (he : e ∈ endpoints) :
    d.registers.Equipped e := by
  have hlaid := Device.laid_endpoint id endpoints
  refine ⟨fun rel hrel => h.words _ (hlaid.contains_word he hrel), fun rel hrel =>
    h.blocks _ (hlaid.contains_block he hrel), fun rel hrel => h.fifo_eq_none (hlaid.contains_block he hrel),
    fun group hgroup => ?_⟩
  have hmem : (EndpointNode.base e).join group ∈ EndpointNode.groupsOf endpoints :=
    List.mem_flatMap.mpr ⟨e, he, List.mem_map_of_mem hgroup⟩
  exact h.flatAt hmem (EndpointNode.join_base_ne_root e group) fun _ => hlaid.length_of_above_group hgroup

variable {role : BoardRole} {groups : List NodePath}

theorem plays (h : (role.simulated id).Stocked groups d) : d.Plays role := by
  cases role with
  | overlord => exact ⟨h.kind, h.words, h.blocks, h.fifos⟩
  | fanout => exact ⟨h.kind, h.words, h.blocks, h.fifos⟩

/-- The groups of flags of a board have words only. -/
theorem flatAt_flags (h : (role.simulated id).Stocked BoardNode.groupNodes d) :
    ∀ group ∈ BoardNode.groupNodes, d.registers.FlatAt group := by
  have hregisters : (role.simulated id).registers = role.registers := by cases role <;> rfl
  refine fun group hgroup => h.flatAt hgroup (BoardNode.groupNodes_ne_root group hgroup) fun word hword => ?_
  rw [hregisters] at hword
  exact role.length_of_above_group hgroup hword

end Device.Stocked

/-! ## Operations that only read -/

namespace Session

variable {s t : Session} {α : Type} {p : Procedure Unit α} {a : α} {now : UInt64}

/-- The operation has the result `a` after one dispatch and leaves the device as it was and nothing queued; the same
operation then has the same result. -/
structure ReadsAs (s : Session) (p : Procedure Unit α) (now : UInt64) (a : α) : Prop where
  result : (p.run now s).result = .ok a
  dispatches : (p.run now s).state.dispatchCount = s.dispatchCount + 1
  device : (p.run now s).state.device = s.device
  batch : (p.run now s).state.batch = #[]
  again : ∀ later, (p.run later (p.run now s).state).result = .ok a

/-- The operation has a result as `Shows` says, and changes nothing. -/
def Faithful (s : Session) (p : Procedure Unit α) (Shows : α → Prop) : Prop := ∀ now, ∃ a, s.ReadsAs p now a ∧ Shows a

/-- A dispatch that no device refuses lets the values be taken. -/
theorem ReadsOut.succeeds (h : s.ReadsOut t p a) (hf : s.device.failure = none) (now : UInt64) :
    (p.run now t).result = .ok a ∧ (p.run now t).state.Clear ∧ (p.run now t).state.device = s.device ∧
      s.Passes (p.run now t).state 1 := by
  have hno : ∀ n, s.device.refusal n = none := by
    intro n
    unfold Device.refusal
    split
    · rw [hf, ite_self]
    · exact hf
  obtain ⟨b, hresult, rfl, hq⟩ := ((h now).mono (fun _ _ _ hq => hq) fun e u _ ⟨_, _, hrefused, _⟩ => by
    obtain ⟨reason, hreason, -⟩ := hrefused.refused
    exact nomatch hreason.symm.trans (hno _)).succeeds
  exact ⟨hresult, hq⟩

/-- What is read out from every such session is read faithfully. -/
theorem faithful_of_readsOut {Shows : α → Prop} (hs : s.Clear) (hf : s.device.failure = none)
    (h : ∀ t : Session, t.Clear → t.device = s.device → t.ReadsOut t p a) (ha : Shows a) : s.Faithful p Shows := by
  intro now
  obtain ⟨hresult, hclear, hdevice, hpasses⟩ := (h s hs rfl).succeeds hf now
  refine ⟨a, ⟨hresult, hpasses.count, hdevice, hclear, fun later => ?_⟩, ha⟩
  exact ((h _ hclear hdevice).succeeds (hdevice ▸ hf) later).1

/-- **Reports are faithful.**  On a device with the registers of an endpoint device, of an overlord or of a fanout,
whatever they hold, and with further words directly below its groups, an operation that only reads succeeds with one
dispatch, reports what the registers hold and changes nothing; asked again, it reports the same. -/
theorem reads_faithfully (s : Session) (hs : s.batch = #[]) (hf : s.device.failure = none) (id : String) :
    (∀ (endpoints : List UInt32) (g : EndpointGroup),
      (Device.endpoint id endpoints).Stocked (EndpointNode.groupsOf endpoints) s.device →
      (∀ e ∈ g.ids, e ∈ endpoints) →
        s.Faithful g.readVersions (s.device.ShowsVersions g.ids) ∧
        s.Faithful g.snapshot (s.device.ShowsSnapshot g.ids)) ∧
    ∀ (role : BoardRole) (b : Board), (role.simulated id).Stocked BoardNode.groupNodes s.device →
      s.Faithful b.identify s.device.ShowsIdentity ∧
      s.Faithful b.status (s.device.ShowsGroup BoardNode.status) ∧
      s.Faithful b.pllStatus s.device.ShowsPll ∧
      (role = .overlord → b.role = .overlord →
        s.Faithful b.readTimestamp (s.device.ShowsTime MasterNode.timestamp)) := by
  constructor
  · intro endpoints g hstocked hg
    have hequipped : ∀ e ∈ g.ids, s.device.registers.Equipped e := fun e he => hstocked.equipped (hg e he)
    constructor
    · refine faithful_of_readsOut hs hf (fun t ht hdev => ?_) (Device.showsVersions hequipped)
      exact hdev ▸ EndpointGroup.readsOut_readVersions ht (hdev.symm ▸ hequipped)
    · refine faithful_of_readsOut hs hf (fun t ht hdev => ?_) (Device.showsSnapshot hequipped)
      exact hdev ▸ EndpointGroup.readsOut_snapshot ht (hdev.symm ▸ hequipped)
  · intro role b hstocked
    have hplays := hstocked.plays
    have hflat := hstocked.flatAt_flags
    refine ⟨?_, ?_, ?_, ?_⟩
    · refine faithful_of_readsOut hs hf (fun t ht hdev => ?_) (Device.showsIdentity hplays)
      exact hdev ▸ Board.readsOut_identify ht (hdev.symm ▸ hplays)
    · refine faithful_of_readsOut hs hf (fun t ht hdev => ?_) (Device.getElem?_dump (hflat _ (by decide)) (by decide))
      exact hdev ▸ Board.readsOut_status ht (hdev.symm ▸ hplays) (hdev.symm ▸ hflat _ (by decide))
    · refine faithful_of_readsOut hs hf (fun t ht hdev => ?_) (Device.showsPll hplays hflat)
      exact hdev ▸ Board.readsOut_pllStatus ht (hdev.symm ▸ hplays) (hdev.symm ▸ hflat)
    · rintro rfl hb
      refine faithful_of_readsOut hs hf (fun t ht hdev => ?_)
        (Device.showsTime (hplays.block (by decide)))
      exact hdev ▸ Board.readsOut_readTimestamp hb ht (hdev.symm ▸ hplays)

end Session

/-! ## Two devices with further flags -/

namespace Device

/-- Two endpoints, the second with a flag that endpoints do not come up with and a long time stamp. -/
def flaggedEndpoints : Device :=
  let base := EndpointNode.base 10
  ((Device.endpoint "EPT" [1, 10]).setWord ((base.join EndpointNode.status).child "crc_err") 7).setBlock
    (base.join EndpointNode.timestamp) [5, 1, 9]

/-- An overlord whose PLL has a further sticky flag. -/
def flaggedOverlord : Device := (Device.overlord "OVLD").setWord (BoardNode.pllSticky.child "xtal") 3

theorem stocked_flaggedEndpoints :
    (Device.endpoint "EPT" [1, 10]).Stocked (EndpointNode.groupsOf [1, 10]) flaggedEndpoints := by
  have hdirect : ∀ group ∈ EndpointNode.groupsOf [1, 10],
      group.above (((EndpointNode.base 10).join EndpointNode.status).child "crc_err") = true →
      ((EndpointNode.base 10).join EndpointNode.status).child "crc_err" = group.child "crc_err" := by
    decide +kernel
  have hflag := (Stocked.endpoint "EPT" [1, 10] _).setWord
    (fun group hgroup habove => ⟨_, hdirect group hgroup habove⟩) 7
  exact hflag.setBlock _ _

theorem stocked_flaggedOverlord :
    (BoardRole.overlord.simulated "OVLD").Stocked BoardNode.groupNodes flaggedOverlord := by
  have hdirect : ∀ group ∈ BoardNode.groupNodes, group.above (BoardNode.pllSticky.child "xtal") = true →
      BoardNode.pllSticky.child "xtal" = group.child "xtal" := by
    decide
  exact (Stocked.simulated .overlord "OVLD" _).setWord (fun group hgroup habove => ⟨_, hdirect group hgroup habove⟩) 3

end Device

namespace Session

/-- The further flags are in the reports. -/
theorem reads_faithfully_flagged :
    (∃ report, (ofDevice Device.flaggedEndpoints).ReadsAs (EndpointGroup.snapshot ⟨"EPT", [10]⟩) 0 report ∧
      ∃ x, report[(10 : UInt32)]? = some x ∧ x.timestamp.toNat = UInt32.size + 5 ∧ x.status["crc_err"]? = some 7) ∧
    (∃ report, (ofDevice Device.flaggedOverlord).ReadsAs (Board.pllStatus ⟨"OVLD", .overlord, .none⟩) 0 report ∧
      report.sticky["xtal"]? = some 3) ∧
    ∃ ticks, (ofDevice Device.flaggedOverlord).ReadsAs (Board.readTimestamp ⟨"OVLD", .overlord, .none⟩) 0 ticks ∧
      ticks.toNat = 0x1000 := by
  have hsnapshot := ((reads_faithfully (ofDevice Device.flaggedEndpoints) rfl rfl "EPT").1 [1, 10] ⟨"EPT", [10]⟩
    Device.stocked_flaggedEndpoints (by simp)).2
  obtain ⟨-, -, hpll, htime⟩ := (reads_faithfully (ofDevice Device.flaggedOverlord) rfl rfl "OVLD").2 .overlord
    ⟨"OVLD", .overlord, .none⟩ Device.stocked_flaggedOverlord
  refine ⟨?_, ?_, ?_⟩
  · obtain ⟨report, hreads, honly, hshown⟩ := hsnapshot 0
    have hentry : (report[(10 : UInt32)]?).isSome = true :=
      Std.ExtTreeMap.contains_eq_isSome_getElem?.symm.trans ((honly 10).mpr List.mem_cons_self)
    obtain ⟨x, hx⟩ := Option.isSome_iff_exists.mp hentry
    obtain ⟨⟨block, hblock, hticks⟩, -, -, -, hstatus, -⟩ := hshown 10 x hx
    have hwords : Device.flaggedEndpoints.block? ((EndpointNode.base 10).join EndpointNode.timestamp) =
        some [5, 1, 9] := by
      decide +kernel
    obtain rfl : block = [5, 1, 9] := Option.some.inj (hblock.symm.trans hwords)
    exact ⟨report, hreads, x, hx, hticks, (hstatus "crc_err").trans (by decide +kernel)⟩
  · obtain ⟨report, hreads, -, -, hsticky⟩ := hpll 0
    exact ⟨report, hreads, (hsticky "xtal").trans (by decide +kernel)⟩
  · obtain ⟨ticks, hreads, block, hblock, hticks⟩ := htime rfl rfl 0
    have hwords : Device.flaggedOverlord.block? MasterNode.timestamp = some [0x1000, 0] := by decide +kernel
    obtain rfl : block = [0x1000, 0] := Option.some.inj (hblock.symm.trans hwords)
    exact ⟨ticks, hreads, hticks⟩

end Session

end TimingFleet

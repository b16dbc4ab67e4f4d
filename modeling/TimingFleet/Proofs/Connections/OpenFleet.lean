import Mathlib.Data.List.Forall2
import TimingFleet.Proofs.Connections.AddressMap
import TimingFleet.Proofs.Fleet.Routing
import TimingFleet.Proofs.Outcome

/-!
# Fleets that are opened from a connections file

The fanouts of a group are numbered from 0 in the order of the group.  The address map of the file names fanouts by
these numbers, so a measurement at a mapped address goes through the board that was opened for its place.

* `Connections.Opened c spec f s`: the fleet `f` with its sessions `s` has been opened for the group `spec`.
* `Fleet.RoutesTo f n now t address m`: with `n` fanouts, the measurement at an address with the place `m` goes there.

Main statement: what is opened from an accepted file routes each mapped address to its place
(`Connections.addressMap_routes`).
-/

namespace TimingFleet

open Procedure FleetSessions Text

/-! ## Numbered items -/

section Numbered

variable {β : Type} {items : List β} {k : UInt32} {b : β}

/-- The items of a list by their numbers. -/
def numbered (items : List β) : IndexTable β :=
  Std.ExtTreeMap.ofList (items.mapIdx fun n b => (UInt32.ofNat n, b)) compare

theorem contains_numbered : (numbered items).contains k = true ↔ k.toNat < items.length := by
  have hkeys : (numbered items).contains k = true ↔ ∃ i, i < items.length ∧ UInt32.ofNat i = k := by
    rw [numbered, Std.ExtTreeMap.contains_ofList, List.contains_iff_mem]
    simp [List.mem_mapIdx]
  rw [hkeys]
  constructor
  · rintro ⟨i, hi, rfl⟩
    exact Nat.lt_of_le_of_lt (Nat.mod_le _ _) hi
  · exact fun hk => ⟨k.toNat, hk, UInt32.ofNat_toNat⟩

/-- What has a number stands at that place of the list, or a whole number of rounds later. -/
theorem eq_of_getElem?_numbered (h : (numbered items)[k]? = some b) :
    ∃ i, UInt32.ofNat i = k ∧ items[i]? = some b := by
  rw [numbered, Std.ExtTreeMap.ofList_eq_insertMany_empty, Std.ExtTreeMap.getElem?_insertMany_list,
    List.findSomeRev?_eq_findSome?_reverse, Std.ExtTreeMap.getElem?_empty, Option.or_none] at h
  obtain ⟨x, hx, hfound⟩ := List.exists_of_findSome?_eq_some h
  obtain ⟨i, hi, rfl⟩ := List.mem_mapIdx.mp (List.mem_reverse.mp hx)
  dsimp only at hfound
  split_ifs at hfound with hk
  exact ⟨i, Std.LawfulEqCmp.eq_of_compare hk, by rw [List.getElem?_eq_getElem hi, hfound]⟩

theorem isSome_getElem?_numbered : (numbered items)[k]?.isSome = true ↔ k.toNat < items.length := by
  rw [← Std.ExtTreeMap.contains_eq_isSome_getElem?, contains_numbered]

theorem numbered_map {γ : Type} (g : β → γ) (items : List β) :
    Std.ExtTreeMap.ofList ((items.mapIdx fun n b => (UInt32.ofNat n, b)).map fun x => (x.1, g x.2)) compare =
      numbered (items.map g) := by
  have hlist : (items.mapIdx fun n b => (UInt32.ofNat n, b)).map (fun x => (x.1, g x.2)) =
      (items.map g).mapIdx fun n b => (UInt32.ofNat n, b) := by
    refine List.ext_getElem? fun i => ?_
    simp [Function.comp_def]
  rw [hlist, numbered]

/-- What numbered items are mapped to keeps their numbers. -/
theorem getElem?_numbered_map {γ : Type} (g : β → γ) (items : List β) (k : UInt32) :
    (numbered (items.map g))[k]? = (numbered items)[k]?.map g := by
  rw [← numbered_map, numbered]
  generalize items.mapIdx (fun n b => (UInt32.ofNat n, b)) = entries
  rw [Std.ExtTreeMap.ofList_eq_insertMany_empty, Std.ExtTreeMap.ofList_eq_insertMany_empty,
    Std.ExtTreeMap.getElem?_insertMany_list, Std.ExtTreeMap.getElem?_insertMany_list,
    List.findSomeRev?_eq_findSome?_reverse, List.findSomeRev?_eq_findSome?_reverse, Std.ExtTreeMap.getElem?_empty,
    Std.ExtTreeMap.getElem?_empty, Option.or_none, Option.or_none, ← List.map_reverse, List.findSome?_map,
    List.map_findSome?]
  refine congrArg (fun found => entries.reverse.findSome? found) (funext fun entry => ?_)
  exact (apply_ite (Option.map g) _ (some entry.2) none).symm

end Numbered

/-! ## Opening -/

namespace Connections

variable {c : Connections} {spec : GroupSpec} {ids : List String}

/-- Devices that can all be opened are opened in order. -/
theorem connectAll_ok (h : ∀ id ∈ ids, ∃ u, (c.connect id).result = .ok u) :
    ∃ us, (c.connectAll ids).result = .ok us ∧ List.Forall₂ (fun id u => (c.connect id).result = .ok u) ids us := by
  induction ids with
  | nil => exact ⟨[], rfl, .nil⟩
  | cons id ids ih =>
    obtain ⟨u, hu⟩ := h id List.mem_cons_self
    obtain ⟨us, hus, hall⟩ := ih fun id' hid' => h id' (List.mem_cons_of_mem id hid')
    have hfirst : ((c.connect id).inState fun _ => ([] : List Session)).result = .ok u := hu
    have hrest : ((c.connectAll ids).inState (u :: ·)).result = .ok us := hus
    refine ⟨u :: us, ?_, .cons hu hall⟩
    rw [connectAll, Outcome.andThen_of_ok hfirst, Outcome.result_after, Outcome.andThen_of_ok hrest]
    rfl

theorem assemble_eq (c : Connections) (delays : Delays) (overlord : Session) (us : List Session) :
    c.assemble delays overlord us =
      (⟨⟨overlord.name, .overlord, delays⟩, numbered (us.map fun u => ⟨u.name, .fanout, delays⟩), c.addressMap⟩,
        ⟨overlord, numbered us⟩) := by
  rw [← numbered_map]
  rfl

/-- The fleet with its sessions has been opened for the group: the overlord from its device, and the fanouts, numbered
from 0, each from the device at its number.  A list that is longer than there are numbers begins again with 0.  Each board
goes by the name of its session. -/
structure Opened (c : Connections) (spec : GroupSpec) (f : Fleet) (s : FleetSessions) : Prop where
  addressMap : f.addressMap = c.addressMap
  overlord : (c.connect spec.overlord).result = .ok s.overlord
  overlord_role : f.overlord.role = .overlord
  numbers : ∀ k : UInt32, s.fanouts[k]?.isSome = true ↔ k.toNat < spec.fanouts.length
  boards : ∀ k : UInt32, f.fanouts[k]?.isSome = s.fanouts[k]?.isSome
  board_role : ∀ (k : UInt32) (b : Board), f.fanouts[k]? = some b → b.role = .fanout
  overlord_name : f.overlord.name = s.overlord.name
  board_name : ∀ (k : UInt32) (b : Board) (u : Session), f.fanouts[k]? = some b → s.fanouts[k]? = some u →
    b.name = u.name
  fanouts : ∀ (k : UInt32) (u : Session), s.fanouts[k]? = some u → ∃ i id, UInt32.ofNat i = k ∧
    (spec.fanouts.length ≤ UInt32.size → i = k.toNat) ∧ spec.fanouts[i]? = some id ∧ (c.connect id).result = .ok u

theorem opened_assemble {overlord : Session} {us : List Session} (ho : (c.connect spec.overlord).result = .ok overlord)
    (hus : List.Forall₂ (fun id u => (c.connect id).result = .ok u) spec.fanouts us) (delays : Delays) :
    c.Opened spec (c.assemble delays overlord us).1 (c.assemble delays overlord us).2 := by
  rw [assemble_eq]
  refine ⟨rfl, ho, rfl, fun k => ?_, fun k => ?_, fun k b hb => ?_, rfl, fun k b u hb hu => ?_, fun k u hu => ?_⟩
  · rw [isSome_getElem?_numbered, hus.length_eq]
  · rw [getElem?_numbered_map, Option.isSome_map]
  · rw [getElem?_numbered_map, Option.map_eq_some_iff] at hb
    obtain ⟨u, -, rfl⟩ := hb
    rfl
  · rw [getElem?_numbered_map, hu] at hb
    cases hb
    rfl
  · obtain ⟨i, rfl, hi⟩ := eq_of_getElem?_numbered hu
    obtain ⟨hlt, hget⟩ := List.getElem?_eq_some_iff.mp hi
    have hlt' : i < spec.fanouts.length := hus.length_eq ▸ hlt
    refine ⟨i, spec.fanouts[i], rfl, fun hsize => ?_, List.getElem?_eq_getElem hlt', ?_⟩
    · exact (UInt32.toNat_ofNat_of_lt (Nat.lt_of_lt_of_le hlt' hsize)).symm
    · rw [← hget]
      exact hus.get hlt' hlt

/-- **Opening**: a group whose devices can all be opened is opened. -/
theorem openFleet_ok {name : String} (hgroup : c.group name = .ok spec)
    (h : ∀ id ∈ spec.overlord :: spec.fanouts, ∃ u, (c.connect id).result = .ok u) (delays : Delays) :
    ∃ f s, (c.openFleet name delays).result = .ok (f, s) ∧ c.Opened spec f s := by
  obtain ⟨overlord, ho⟩ := h spec.overlord List.mem_cons_self
  obtain ⟨us, hus, hall⟩ := c.connectAll_ok fun id hid => h id (List.mem_cons_of_mem _ hid)
  have hfirst : ((c.connect spec.overlord).inState fun _ => ([] : List Session)).result = .ok overlord := ho
  have hrest : ((c.connectAll spec.fanouts).inState (overlord :: ·)).result = .ok us := hus
  refine ⟨_, _, ?_, opened_assemble ho hall delays⟩
  unfold openFleet
  rw [hgroup]
  dsimp only
  rw [Outcome.andThen_of_ok hfirst, Outcome.result_after, Outcome.andThen_of_ok hrest]
  rfl

end Connections

/-! ## Routing -/

/-- With `n` fanouts, numbered from 0, the measurement at the address goes to the place `m`.  Without the fanout it is
refused before anything is asked.  With it, only the overlord and the fanout are asked, no other session changes, and
no argument is blamed. -/
structure Fleet.RoutesTo (f : Fleet) (n : Nat) (now : UInt64) (t : FleetSessions) (address : UInt32)
    (m : SlotMapping) : Prop where
  missing : n ≤ m.fanout.toNat → ((f.measureDelay address none).run now t).result = .error (Fleet.fanoutError m.fanout) ∧
    ((f.measureDelay address none).run now t).state = t ∧ (f.measureDelay address none).asked now t = []
  asked : m.fanout.toNat < n → ∀ x ∈ (f.measureDelay address none).asked now t,
    x.2.1 = .overlord ∨ x.2.1 = .fanout m.fanout
  others : ∀ seat, seat ≠ .overlord → seat ≠ .fanout m.fanout →
    ((f.measureDelay address none).run now t).state.session? seat = t.session? seat
  blame : m.fanout.toNat < n → ∀ e, ((f.measureDelay address none).run now t).result = .error e → ¬ e.BlamesArgument
  slot : ∀ k, ((f.measureDelay address none).run now t).result ≠ .error (Board.slotError k)

namespace Connections

variable {c : Connections} {spec : GroupSpec} {f : Fleet} {s t : FleetSessions} {address : UInt32} {m : SlotMapping}

/-- What has been opened routes a place whose slot exists. -/
theorem Opened.routesTo (ho : c.Opened spec f s) (hseats : ∀ seat, (t.session? seat).isSome = (s.session? seat).isSome)
    (hm : c.addressMap[address]? = some m) (hrange : isEndpointAddress address = true ∧ m.slot < fanoutSlots)
    (now : UInt64) : f.RoutesTo spec.fanouts.length now t address m := by
  obtain ⟨haddress, hslot⟩ := hrange
  have hm' : f.addressMap[address]? = some m := by rw [ho.addressMap, hm]
  have hboard : f.fanouts[m.fanout]?.isSome = true ↔ m.fanout.toNat < spec.fanouts.length := by
    rw [ho.boards, ho.numbers]
  cases hb : f.fanouts[m.fanout]? with
  | none =>
    obtain ⟨hresult, hstate, hasked⟩ := Fleet.measureDelay_of_missing haddress hm' hb now t
    have hout : ¬ m.fanout.toNat < spec.fanouts.length := by rw [← hboard, hb]; decide
    refine ⟨fun _ => ⟨hresult, hstate, hasked⟩, fun h => absurd h hout, fun seat _ _ => ?_, fun h => absurd h hout,
      fun k => ?_⟩
    · rw [hstate]
    · rw [hresult]
      exact fun h => Fleet.fanoutError_ne_slotError m.fanout k (Except.error.inj h)
  | some fanout =>
    have hin : m.fanout.toNat < spec.fanouts.length := by rw [← hboard, hb]; rfl
    have hr : f.Resolves address none m fanout := ⟨haddress, hm', hslot, hb⟩
    have hsession : (t.session? (.fanout m.fanout)).isSome = true := (hseats _).trans ((ho.numbers m.fanout).mpr hin)
    obtain ⟨hasked, hothers⟩ := Fleet.seats_measureDelay hr now t
    have hblame : ∀ e, ((f.measureDelay address none).run now t).result = .error e → ¬ e.BlamesArgument :=
      fun e he => Fleet.not_blamesArgument_measureDelay hr ho.overlord_role (ho.board_role _ _ hb) hsession he
    exact ⟨fun h => absurd hin (Nat.not_lt.mpr h), fun _ => hasked, hothers, fun _ => hblame,
      fun k hk => hblame _ hk ⟨_, rfl⟩⟩

/-- **Loading and routing**: whatever reader of connections files is used, a file is refused for the first entry of its
address map that is out of range, and an accepted one maps each address by the last entry that names it.  A group whose
devices can all be opened is then opened, whatever the transports, and a measurement at a mapped address goes to its
place. -/
theorem addressMap_routes (reader : String → Option ConnectionsFile) (source : String) {text : String}
    {file : ConnectionsFile} (hfile : reader text = some file) :
    (∀ e, (ofTextBy reader source text).result = .error e ↔ ∃ before x after, file.addressMap = before ++ x :: after ∧
      (∀ y ∈ before, y.InRange) ∧ ¬ x.InRange ∧ e = .config source x.complaint) ∧
    ((∃ c, (ofTextBy reader source text).result = .ok c) ↔ ∀ x ∈ file.addressMap, x.InRange) ∧
    ∀ c, (ofTextBy reader source text).result = .ok c →
      (∀ address m, c.addressMap[address]? = some m ↔ ∃ before x after, file.addressMap = before ++ x :: after ∧
        x.address = address ∧ (∀ y ∈ after, y.address ≠ address) ∧ m = x.place) ∧
      (∀ address : UInt32, c.addressMap[address]? = none ↔ ∀ x ∈ file.addressMap, x.address ≠ address) ∧
      ∀ d : Connections, d = { c with transports := d.transports, timeout := d.timeout } →
        ∀ name delays spec, d.group name = .ok spec →
          (∀ id ∈ spec.overlord :: spec.fanouts, ∃ u, (d.connect id).result = .ok u) →
          ∃ f s, (d.openFleet name delays).result = .ok (f, s) ∧ d.Opened spec f s ∧
            ∀ now t address m, (∀ seat, (t.session? seat).isSome = (s.session? seat).isSome) →
              c.addressMap[address]? = some m → f.RoutesTo spec.fanouts.length now t address m := by
  rw [ofTextBy_eq hfile]
  refine ⟨fun e => ofFile_error_iff, ofFile_ok_iff, fun c hc => ⟨fun address m => ?_, fun address => ?_, ?_⟩⟩
  · rw [addressMap_of_ofFile hc, AddressEntry.getElem?_toMap_eq_some_iff]
  · rw [addressMap_of_ofFile hc, AddressEntry.getElem?_toMap_eq_none_iff]
  · intro d hd name delays spec hgroup hdevices
    have hmap : d.addressMap = c.addressMap := by rw [hd]
    obtain ⟨f, s, hopen, ho⟩ := openFleet_ok hgroup hdevices delays
    refine ⟨f, s, hopen, ho, fun now t address m hseats hm => ?_⟩
    exact ho.routesTo hseats (hmap ▸ hm) (inRange_of_ofFile hc hm) now

/-- A file with one group of two boards and two entries for the same address. -/
def labFile : String :=
  "[devices.OVLD]\nuri = \"sim://overlord\"\n[devices.FO0]\nuri = \"sim://fanout\"\n" ++
    "[groups.lab]\noverlord = \"OVLD\"\nfanouts = [\"FO0\"]\n" ++
    "[[address_map]]\naddress = 5\nfanout = 0\nslot = 2\n[[address_map]]\naddress = 5\nfanout = 0\nslot = 3\n"

/-- The group of that file is opened, and the measurement at the address goes to slot 3. -/
theorem routes_labFile : ∃ file c f s, ConnectionsFile.ofText labFile = some file ∧
    file.addressMap = [⟨5, 0, 2⟩, ⟨5, 0, 3⟩] ∧ (ofText "lab.toml" labFile).result = .ok c ∧
    (c.openFleet "lab" .none).result = .ok (f, s) ∧ c.Opened ⟨"OVLD", ["FO0"]⟩ f s ∧
    f.RoutesTo 1 0 s 5 ⟨0, 3⟩ := by
  -- one evaluation of the text for all that is asked of it
  have heval : (ConnectionsFile.ofText labFile).map (fun file => (file.addressMap,
      (ofFile "lab.toml" file).result.toOption.map fun c => ((c.group "lab").toOption,
        ["OVLD", "FO0"].all fun id => (c.connect id).result.isOk))) =
      some ([⟨5, 0, 2⟩, ⟨5, 0, 3⟩], some (some ⟨"OVLD", ["FO0"]⟩, true)) := by decide +kernel
  obtain ⟨file, hfile, hentries⟩ := Option.map_eq_some_iff.mp heval
  obtain ⟨hmap, hfound⟩ := Prod.mk.inj hentries
  obtain ⟨-, haccepted, hroutes⟩ := addressMap_routes ConnectionsFile.ofText "lab.toml" hfile
  obtain ⟨c, hc⟩ := haccepted.mpr (by rw [hmap]; decide)
  rw [← ofTextBy_eq hfile, hc] at hfound
  obtain ⟨hgroup, hdevices⟩ := Prod.mk.inj (Option.some.inj hfound)
  have hlab : c.group "lab" = .ok ⟨"OVLD", ["FO0"]⟩ := by
    cases h : c.group "lab" with
    | error e => simp [Except.toOption, h] at hgroup
    | ok spec => simpa [Except.toOption, h] using hgroup
  have hconnect : ∀ id ∈ ["OVLD", "FO0"], ∃ u, (c.connect id).result = .ok u := fun id hid =>
    Outcome.exists_of_isOk (List.all_eq_true.mp hdevices id hid)
  obtain ⟨hlast, -, hopen⟩ := hroutes c hc
  obtain ⟨f, s, hfleet, hopened, hmeasure⟩ := hopen c rfl "lab" .none _ hlab hconnect
  have hfive : c.addressMap[(5 : UInt32)]? = some ⟨0, 3⟩ :=
    (hlast 5 ⟨0, 3⟩).mpr ⟨[⟨5, 0, 2⟩], ⟨5, 0, 3⟩, [], hmap, rfl, (nofun), rfl⟩
  exact ⟨file, c, f, s, hfile, hmap, hc, hfleet, hopened, hmeasure 0 s 5 ⟨0, 3⟩ (fun _ => rfl) hfive⟩

end Connections

end TimingFleet

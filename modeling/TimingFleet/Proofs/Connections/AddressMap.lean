import Mathlib.Data.List.Induction
import Mathlib.Tactic.SplitIfs
import TimingFleet.Connections.Basic

/-!
# The address map of a connections file

A file is accepted if each entry of its address map is in range, and otherwise refused for the first that is not
(`Connections.ofFile_error_iff`).  An address has the place of the last entry that names it
(`AddressEntry.getElem?_toMap_eq_some_iff`).
-/

namespace TimingFleet

open Text

namespace AddressEntry

variable {e : AddressEntry} {entries : List AddressEntry} {address : UInt32}

/-- The place that the entry gives to its address. -/
def place (e : AddressEntry) : SlotMapping := ⟨e.fanout, e.slot⟩

/-- An endpoint can have the address, and a fanout has the slot. -/
def InRange (e : AddressEntry) : Prop := (0x1 ≤ e.address ∧ e.address ≤ 0x100) ∧ e.slot < 8

instance (e : AddressEntry) : Decidable e.InRange := inferInstanceAs (Decidable (_ ∧ _))

/-- Why an entry that is out of range is refused: for its address, or else for its slot. -/
def complaint (e : AddressEntry) : String :=
  if 0x1 ≤ e.address ∧ e.address ≤ 0x100 then
    "slot " ++ Numeral.decimal e.slot.toNat ++ " for address " ++ Numeral.hex e.address.toNat ++ " out of range"
  else "address " ++ Numeral.hex e.address.toNat ++ " out of range"

/-- An entry is at fault if it is out of range, and then for its complaint. -/
theorem fault?_eq (e : AddressEntry) : e.fault? = if e.InRange then none else some e.complaint := by
  unfold fault? complaint
  by_cases haddress : 0x1 ≤ e.address ∧ e.address ≤ 0x100
  case neg =>
    have hout : ¬ e.InRange := fun h => haddress h.1
    have hflag : isEndpointAddress e.address = false := Bool.eq_false_iff.mpr (mt isEndpointAddress_iff.mp haddress)
    rw [if_neg hout, if_neg haddress, hflag]
    rfl
  rw [if_pos haddress, isEndpointAddress_iff.mpr haddress]
  by_cases hslot : e.slot < 8
  · have hin : e.InRange := ⟨haddress, hslot⟩
    rw [if_pos hin]
    exact if_neg (UInt32.not_le.mpr hslot)
  · have hout : ¬ e.InRange := fun h => hslot h.2
    rw [if_neg hout]
    exact if_pos (UInt32.not_lt.mp hslot)

theorem fault?_eq_none_iff : e.fault? = none ↔ e.InRange := by
  rw [fault?_eq]
  split_ifs with h <;> simp [h]

theorem fault?_eq_some_iff {reason : String} : e.fault? = some reason ↔ ¬ e.InRange ∧ reason = e.complaint := by
  rw [fault?_eq]
  split_ifs with h <;> simp [h, eq_comm]

/-- **The last entry** for an address gives its place. -/
theorem getElem?_toMap (entries : List AddressEntry) (address : UInt32) :
    (toMap entries)[address]? = (entries.reverse.find? fun e => e.address = address).map place := by
  induction entries using List.reverseRecOn with
  | nil => rfl
  | append_singleton entries e ih =>
    have hlast : toMap (entries ++ [e]) = (toMap entries).insert e.address e.place := List.foldl_append ..
    rw [List.reverse_concat, List.find?_cons, hlast, Std.ExtTreeMap.getElem?_insert, ih]
    by_cases h : e.address = address
    · simp [h]
    · simp [h]

theorem getElem?_toMap_eq_some_iff {m : SlotMapping} : (toMap entries)[address]? = some m ↔
    ∃ before e after, entries = before ++ e :: after ∧ e.address = address ∧ (∀ x ∈ after, x.address ≠ address) ∧
      m = e.place := by
  rw [getElem?_toMap, Option.map_eq_some_iff]
  simp only [List.find?_eq_some_iff_append, decide_eq_true_eq, Bool.not_eq_true', decide_eq_false_iff_not]
  constructor
  · rintro ⟨e, ⟨he, after, before, hsplit, hafter⟩, rfl⟩
    refine ⟨before.reverse, e, after.reverse, ?_, he, fun x hx => hafter x (List.mem_reverse.mp hx), rfl⟩
    rw [← List.reverse_reverse entries, hsplit]
    simp
  · rintro ⟨before, e, after, rfl, he, hafter, rfl⟩
    exact ⟨e, ⟨he, after.reverse, before.reverse, by simp, fun x hx => hafter x (List.mem_reverse.mp hx)⟩, rfl⟩

theorem getElem?_toMap_eq_none_iff : (toMap entries)[address]? = none ↔ ∀ e ∈ entries, e.address ≠ address := by
  rw [getElem?_toMap, Option.map_eq_none_iff, List.find?_eq_none]
  simp

end AddressEntry

namespace Connections

variable {source : String} {file : ConnectionsFile} {c : Connections}

/-- **Refusals**: a file is refused for the first entry of its address map that is out of range. -/
theorem ofFile_error_iff {e : Error} : (ofFile source file).result = .error e ↔
    ∃ before x after, file.addressMap = before ++ x :: after ∧ (∀ y ∈ before, y.InRange) ∧ ¬ x.InRange ∧
      e = .config source x.complaint := by
  have hfound : (ofFile source file).result = .error e ↔
      ∃ reason, file.addressMap.findSome? AddressEntry.fault? = some reason ∧ e = .config source reason := by
    unfold ofFile
    cases file.addressMap.findSome? AddressEntry.fault? with
    | none => exact ⟨(nomatch ·), fun ⟨_, h, _⟩ => nomatch h⟩
    | some reason =>
      refine ⟨fun h => ⟨reason, rfl, (Except.error.inj h).symm⟩, ?_⟩
      rintro ⟨_, hreason, rfl⟩
      exact Option.some.inj hreason ▸ rfl
  simp only [hfound, List.findSome?_eq_some_iff, AddressEntry.fault?_eq_some_iff, AddressEntry.fault?_eq_none_iff]
  constructor
  · rintro ⟨_, ⟨before, x, after, hsplit, ⟨hx, rfl⟩, hbefore⟩, rfl⟩
    exact ⟨before, x, after, hsplit, hbefore, hx, rfl⟩
  · rintro ⟨before, x, after, hsplit, hbefore, hx, rfl⟩
    exact ⟨x.complaint, ⟨before, x, after, hsplit, ⟨hx, rfl⟩, hbefore⟩, rfl⟩

/-- A file is accepted if each entry of its address map is in range. -/
theorem ofFile_ok_iff : (∃ c, (ofFile source file).result = .ok c) ↔ ∀ x ∈ file.addressMap, x.InRange := by
  have hnone : (∃ c, (ofFile source file).result = .ok c) ↔ file.addressMap.findSome? AddressEntry.fault? = none := by
    unfold ofFile
    cases file.addressMap.findSome? AddressEntry.fault? with
    | none => exact ⟨fun _ => rfl, fun _ => ⟨_, rfl⟩⟩
    | some reason => exact ⟨(fun ⟨_, h⟩ => nomatch h), (nomatch ·)⟩
  simp only [hnone, List.findSome?_eq_none_iff, AddressEntry.fault?_eq_none_iff]

/-- What is accepted has the address map of the file. -/
theorem addressMap_of_ofFile (h : (ofFile source file).result = .ok c) :
    c.addressMap = AddressEntry.toMap file.addressMap := by
  unfold ofFile at h
  split at h
  · cases h
  · cases h
    rfl

/-- What an accepted file maps is in range. -/
theorem inRange_of_ofFile {address : UInt32} {m : SlotMapping} (h : (ofFile source file).result = .ok c)
    (hm : c.addressMap[address]? = some m) : isEndpointAddress address = true ∧ m.slot < fanoutSlots := by
  rw [addressMap_of_ofFile h] at hm
  obtain ⟨before, e, after, hsplit, rfl, -, rfl⟩ := AddressEntry.getElem?_toMap_eq_some_iff.mp hm
  have hmem : e ∈ file.addressMap := hsplit ▸ List.mem_append_right before List.mem_cons_self
  obtain ⟨haddress, hslot⟩ := ofFile_ok_iff.mp ⟨c, h⟩ e hmem
  exact ⟨isEndpointAddress_iff.mpr haddress, hslot⟩

theorem ofTextBy_eq {reader : String → Option ConnectionsFile} {text : String} (h : reader text = some file) :
    ofTextBy reader source text = ofFile source file := by
  rw [ofTextBy, h]

end Connections

end TimingFleet

import TimingFleet.Fleet
import TimingFleet.Toml.Document

/-!
# Connections files

A connections file names devices by their addresses, groups of boards, and the slots of endpoint
addresses.  Its tables have fixed keys, and any other key is refused.  A table with fixed keys may also
be written as an array of its fields in order; further items of such an array are ignored.
-/

namespace TimingFleet

open Toml (Value)

/-- The boards of a fleet, by device ids. -/
structure GroupSpec where
  overlord : String
  /-- The place in the list is the number of the fanout. -/
  fanouts : List String := []
  deriving DecidableEq, Repr

/-- The groups that exist without being named in a file. -/
def GroupSpec.builtin? (name : String) : Option GroupSpec :=
  if name = "ovld" then some ⟨"OVLD_TUN", ["FO0_TUN"]⟩
  else if name = "vst" then some ⟨"SECONDARY_TUN", ["TERTIARY_FO_TUN"]⟩
  else none

/-- The slot of an endpoint address, as a file gives it. -/
structure AddressEntry where
  address : UInt32
  fanout : UInt32
  slot : UInt32
  deriving DecidableEq, Repr

/-- The contents of a connections file. -/
structure ConnectionsFile where
  /-- From device ids to addresses. -/
  devices : NameTable String := ∅
  groups : NameTable GroupSpec := ∅
  /-- In the order of the file. -/
  addressMap : List AddressEntry := []

namespace ConnectionsFile

/-! ## Values -/

/-- A text. -/
def textOf : Value → Option String
  | .text text => some text
  | _ => none

/-- A word. -/
def wordOf : Value → Option UInt32
  | .integer n => if 0 ≤ n ∧ n < UInt32.size then some (UInt32.ofNat n.toNat) else none
  | _ => none

/-- The items of an array, each read by `item`. -/
def listOf {α : Type} (item : Value → Option α) : Value → Option (List α)
  | .array items => items.mapM item
  | _ => none

/-- The entries of a table with any keys, each value read by `item`. -/
def tableOf {α : Type} (item : Value → Option α) : Value → Option (NameTable α)
  | .table entries => do
    let entries ← entries.mapM fun (key, value) => return (key, ← item value)
    return Std.ExtTreeMap.ofList entries compare
  | _ => none

/-- The values of fixed keys in a table, which may lack some of them but has no others. -/
def namedFields (keys : List String) (entries : List (String × Value)) : Option (List (Option Value)) :=
  if entries.all fun (key, _) => key ∈ keys then some (keys.map fun key => entries.lookup key)
  else none

/-- The values of fixed keys in a table or in an array. -/
def fieldsOf (keys : List String) : Value → Option (List (Option Value))
  | .table entries => namedFields keys entries
  | .array items => some ((List.range keys.length).map fun i => items[i]?)
  | _ => none

/-- The value read from an optional field, or `default` without the field. -/
def optional {α : Type} (default : α) (item : Value → Option α) : Option Value → Option α
  | some value => item value
  | none => some default

/-! ## Tables -/

/-- The address of a device. -/
def deviceOf (v : Value) : Option String := do
  match ← fieldsOf ["uri"] v with
  | [some uri] => textOf uri
  | _ => none

/-- A group of boards. -/
def groupOf (v : Value) : Option GroupSpec := do
  match ← fieldsOf ["overlord", "fanouts"] v with
  | [some overlord, fanouts] =>
    return ⟨← textOf overlord, ← optional [] (listOf textOf) fanouts⟩
  | _ => none

/-- The slot of an endpoint address. -/
def addressEntryOf (v : Value) : Option AddressEntry := do
  match ← fieldsOf ["address", "fanout", "slot"] v with
  | [some address, some fanout, some slot] =>
    return ⟨← wordOf address, ← wordOf fanout, ← wordOf slot⟩
  | _ => none

/-- The contents of a file from its entries. -/
def ofEntries (entries : List (String × Value)) : Option ConnectionsFile := do
  match ← namedFields ["devices", "groups", "address_map"] entries with
  | [devices, groups, addressMap] =>
    return {
      devices := ← optional ∅ (tableOf deviceOf) devices
      groups := ← optional ∅ (tableOf groupOf) groups
      addressMap := ← optional [] (listOf addressEntryOf) addressMap }
  | _ => none

/-- The contents of a file from its text. -/
def ofText (text : String) : Option ConnectionsFile := (Toml.read text).bind ofEntries

end ConnectionsFile

end TimingFleet

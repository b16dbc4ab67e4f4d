import TimingFleet.Session.Procedure

/-!
# Reading register groups

All words one part below a node are read in one batch; the result is a table from names to values.
-/

namespace TimingFleet

/-- Names of registers and their values. -/
abbrev RegisterDump := NameTable UInt32

namespace RegisterGroup

/-- Queues reads of all nodes one part below `path`, in the order of their names. -/
def read (path : NodePath) : Procedure Unit (List (String × WordHandle)) := do
  let names ← Procedure.subNodes path
  Procedure.each names fun name => do
    let h ← Procedure.read (path.child name)
    return (name, h)

/-- The values behind the handles of a group. -/
def collect (handles : List (String × WordHandle)) : Procedure Unit RegisterDump := do
  let entries ← Procedure.each handles fun (name, h) => do
    let value ← Procedure.wordValue h
    return (name, value)
  return Std.ExtTreeMap.ofList entries compare

end RegisterGroup

end TimingFleet

import TimingFleet.Register.Path

/-!
# Register files

The registers of a device: words, blocks of words, and queues that a block read drains.  A node exists
if it is a register or if a register lies below it.
-/

namespace TimingFleet

/-- The contents of a device's registers. -/
structure Registers where
  words : NodeTable UInt32 := ∅
  blocks : NodeTable (List UInt32) := ∅
  fifos : NodeTable (List UInt32) := ∅

namespace Registers

/-- Some node of the table lies strictly below `path`. -/
def anyBelow {β : Type} (path : NodePath) (table : NodeTable β) : Bool :=
  table.keys.any path.above

/-- The node is a register or has registers below it. -/
def hasNode (r : Registers) (path : NodePath) : Bool :=
  r.words.contains path || r.blocks.contains path || r.fifos.contains path ||
    anyBelow path r.words || anyBelow path r.blocks || anyBelow path r.fifos

/-- The first parts below `path` of the word registers that lie there, each once and in order. -/
def childNames (r : Registers) (path : NodePath) : List String :=
  let names := r.words.keys.filterMap fun word => (path.partsBelow word).bind List.head?
  (Std.ExtTreeSet.ofList names compare).toList

/-- A node that holds words or a queue of words, which a block read can ask for. -/
def isBlock (r : Registers) (path : NodePath) : Bool :=
  r.blocks.contains path || r.fifos.contains path

/-- Sets a word register. -/
def setWord (r : Registers) (path : NodePath) (value : UInt32) : Registers :=
  { r with words := r.words.insert path value }

/-- Sets a block register. -/
def setBlock (r : Registers) (path : NodePath) (values : List UInt32) : Registers :=
  { r with blocks := r.blocks.insert path values }

/-- Sets the contents of a queue. -/
def setFifo (r : Registers) (path : NodePath) (values : List UInt32) : Registers :=
  { r with fifos := r.fifos.insert path values }

/-- Sets several word registers below one node, all to the same value. -/
def setFlags (r : Registers) (base : NodePath) (names : List String) (value : UInt32) : Registers :=
  names.foldl (fun r name => r.setWord (base.child name) value) r

end Registers

end TimingFleet
